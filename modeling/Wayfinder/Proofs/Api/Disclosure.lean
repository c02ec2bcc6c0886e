import Wayfinder.Proofs.Api.Indifference
import Wayfinder.Proofs.Search.Disclosure
import Wayfinder.Proofs.Search.Suggestions

/-!
# What a served search gives away of its query

The three search endpoints make one call each over the snapshot and show its outcome. So what a client and
the log get to see of a query is told by the outcome too: queries that come to the same are served the same,
and one that names nothing is answered as any other that names nothing.
-/

namespace Wayfinder.Api

open Workspace Storage Search

/-- Where a search endpoint lies below the base. -/
def searchEnding? : Endpoint → Option String
  | .search => some "/search"
  | .suggest => some "/search/suggest"
  | .lookup => some "/search/lookup"
  | _ => none

/-- Whether a request goes to a search endpoint, whatever it asks for. -/
structure Site.Asks (site : Site) (request : Request) (endpoint : Endpoint) : Prop where
  method : request.method = "GET"
  path : ∃ ending, searchEnding? endpoint = some ending ∧ request.path = site.base ++ ending

/-- The call that a request asks a search endpoint for, or the refusal of its limit. -/
def callOf (request : Request) : Endpoint → Except Reply Search.Call
  | .suggest => (requestedLimit request).map .suggest
  | .lookup => (requestedLimit request).map .lookup
  | _ => .ok .search

/-- The query that a request has for a search endpoint. -/
def queryOf (request : Request) : Endpoint → String
  | .suggest => (request.parameter? "query").getD ""
  | _ => (request.parameter? "q").getD ""

/-- How a search endpoint shows an outcome. -/
def shownBy : Endpoint → LookupAnswer → Reply
  | .suggest, answer => .json 200 (suggestionsPage answer)
  | .lookup, answer => .json 200 (lookupPage answer)
  | _, answer => .redirect 302 (answer.url.getD "")

/-- The call that a request comes to over given objects. -/
def Site.callOver (site : Site) (objects : Objects) (request : Request) (endpoint : Endpoint)
    (call : Search.Call) : Traced (Event ObjectId) SearchFault (Outcome ObjectId) :=
  call.make site.quick objects.catalog (.space snapshotSpace) (queryOf request endpoint)

/-- What a request is answered over given objects, with the lines that it logs. -/
def Site.answerOver (site : Site) (objects : Objects) (request : Request) (endpoint : Endpoint) :
    Reply × List LogLine :=
  match callOf request endpoint with
  | .ok call =>
    searchReply objects (fun outcome => shownBy endpoint (outcome.answer site.base))
      (site.callOver objects request endpoint call)
  | .error reply => (reply, [])

section Serving

variable {site : Site} {database : Database} {objects : Objects} {request : Request}
  {endpoint : Endpoint}

theorem Site.Asks.searches (asks : site.Asks request endpoint) :
    endpoint = .search ∨ endpoint = .suggest ∨ endpoint = .lookup := by
  obtain ⟨ending, lies, -⟩ := asks.path
  cases endpoint <;> simp [searchEnding?] at lies ⊢

theorem Site.Asks.routed (asks : site.Asks request endpoint) :
    dispatch (routes site.base) request.method request.path = .endpoint endpoint := by
  obtain ⟨ending, lies, path⟩ := asks.path
  rw [asks.method, path]
  rcases asks.searches with rfl | rfl | rfl <;> cases lies
  · exact dispatch_search_below site.base
  · exact dispatch_suggest_below site.base
  · exact dispatch_lookup_below site.base

/-- All three endpoints are one function of the call that is asked for. -/
theorem Site.Asks.serve_eq (asks : site.Asks request endpoint) (database : Database) :
    site.serve request database =
      fromSnapshot database fun objects => site.answerOver objects request endpoint := by
  rw [serve_of_search asks.routed asks.searches]
  rcases asks.searches with rfl | rfl | rfl
  · rfl
  all_goals
    simp only [searchSnapshot, answerOver, callOf]
    cases requestedLimit request <;> rfl

/-- Requests that ask for one call, and whose queries come to the same, are answered the same. -/
theorem Site.answerOver_alike (site : Site) (objects : Objects) {left right : Request}
    (called : callOf left endpoint = callOf right endpoint)
    (alike : ∀ call, callOf left endpoint = .ok call →
      shown? (site.callOver objects left endpoint call).result =
        shown? (site.callOver objects right endpoint call).result) :
    site.answerOver objects left endpoint = site.answerOver objects right endpoint := by
  rw [answerOver, answerOver, ← called]
  cases asked : callOf left endpoint with
  | error _ => rfl
  | ok call =>
      have same : site.callOver objects left endpoint call = site.callOver objects right endpoint call :=
        call.make_alike (alike call asked)
      simp only [same]

/-- The lines that a search over given objects may log, before its query is known. -/
def foreseenOver (objects : Objects) : List LogLine :=
  objects.catalog.logLines objects.describe (objects.catalog.foreseen (.space snapshotSpace))

theorem Site.answerOver_log (site : Site) (objects : Objects) (request : Request) (endpoint : Endpoint) :
    (site.answerOver objects request endpoint).2 ⊆ foreseenOver objects := by
  unfold answerOver
  split
  case h_1 call asked =>
    have foreseen := call.make_foreseen site.quick objects.catalog (.space snapshotSpace)
      (queryOf request endpoint)
    have logged := List.filterMap_subset
      (Event.logLine? (objects.catalog.describeChild objects.describe)) foreseen
    unfold searchReply
    dsimp only
    split <;> exact logged
  case h_2 => exact List.nil_subset _

/-- The replies to a search that fails, other than the refusal of a limit. -/
def searchFailures : List Reply :=
  [.detail 404 "No item matches the search query", .internalError,
    .detail 500 "Failed to load workspace"]

/-- A reply that gives the outcome of a search, one of the failures, or the refusal of a limit. -/
def IsSearchReply (request : Request) (endpoint : Endpoint) (reply : Reply) : Prop :=
  reply.status = 200 ∨ reply.status = 302 ∨ reply ∈ searchFailures ∨
    callOf request endpoint = .error reply

theorem Site.answerOver_reply (site : Site) (objects : Objects) (request : Request)
    (endpoint : Endpoint) :
    IsSearchReply request endpoint (site.answerOver objects request endpoint).1 := by
  unfold answerOver
  split
  case h_1 call asked =>
    unfold searchReply
    dsimp only
    split
    · cases endpoint <;> first | exact .inl rfl | exact .inr (.inl rfl)
    · exact .inr (.inr (.inl (by simp [searchFailures, SearchFault.message])))
    · exact .inr (.inr (.inl (by simp [searchFailures])))
  case h_2 refusal asked => exact .inr (.inr (.inr asked))

/-- A search that does not redirect has not found anything. -/
theorem Site.answerOver_search (site : Site) (objects : Objects) (request : Request)
    (missed : (site.answerOver objects request .search).1.status ≠ 302) :
    shown? (site.callOver objects request .search .search).result = none := by
  cases ended : (site.callOver objects request .search .search).result with
  | error _ => rfl
  | ok outcome =>
      have answered : (site.answerOver objects request .search).1 =
          shownBy .search (outcome.answer site.base) := searchReply_of_ok ended
      exact absurd (congrArg Reply.status answered) missed

/-- Over a tree nothing but a missing match keeps a search from redirecting. -/
theorem Site.answerOver_tree (site : Site) (tree : objects.IsTree) (request : Request) :
    (site.answerOver objects request .search).1.status = 302 ∨
      (site.answerOver objects request .search).1 = .detail 404 "No item matches the search query" := by
  have compared := tree.find_root (queryOf request .search) site.quick.caseSensitive
  cases first : firstEqual site.quick.caseSensitive (queryOf request .search) objects.listing with
  | none =>
      rw [first] at compared
      have ended : (site.callOver objects request .search .search).result = .error .notFound :=
        site.quick.search_result tree.openStart_root compared
      right
      simp only [answerOver, callOf, searchReply, ended]
      rfl
  | some item =>
      rw [first] at compared
      have ended : (site.callOver objects request .search .search).result = .ok (.resolved item) :=
        site.quick.search_result tree.openStart_root compared
      left
      simp only [answerOver, callOf, searchReply, ended]
      rfl

theorem fromSnapshot_of_ok (loaded : database.load.result = .ok objects)
    (answer : Objects → Reply × List LogLine) : fromSnapshot database answer =
      ⟨(answer objects).1, database, database.load.events ++ (answer objects).2⟩ := by
  simp only [fromSnapshot, loaded]

/-- Without a snapshot the reply does not depend on what was to be answered. -/
theorem fromSnapshot_of_error {fault : OperationFault} (failed : database.load.result = .error fault) :
    ∃ reply ∈ searchFailures, ∀ answer : Objects → Reply × List LogLine,
      fromSnapshot database answer = ⟨reply, database, database.load.events⟩ := by
  cases fault with
  | storage _ =>
      refine ⟨.detail 500 "Failed to load workspace", by simp [searchFailures], fun answer => ?_⟩
      simp only [fromSnapshot, failed]
  | workspace _ =>
      refine ⟨.internalError, by simp [searchFailures], fun answer => ?_⟩
      simp only [fromSnapshot, failed]

end Serving

/-- The lines that serving a search over a database may log, before its query is known. -/
def foreseenLines (database : Database) : List LogLine :=
  database.load.events ++ database.load.result.toOption.elim [] foreseenOver

/-- What serving searches over a database gives away of their queries: what shows of the outcomes. Requests
with one call whose queries come to the same are served the same, with the same lines logged. A search that
does not redirect is served as any other that does not. No line and no failure is there that could not have
been told without the query. -/
structure Site.DisclosesOutcomeOnly (site : Site) (database : Database) : Prop where
  alike : ∀ endpoint left right, site.Asks left endpoint → site.Asks right endpoint →
    callOf left endpoint = callOf right endpoint →
    (∀ objects call, database.load.result = .ok objects → callOf left endpoint = .ok call →
      shown? (site.callOver objects left endpoint call).result =
        shown? (site.callOver objects right endpoint call).result) →
    site.serve left database = site.serve right database
  missed : ∀ left right, site.Asks left .search → site.Asks right .search →
    (site.serve left database).reply.status ≠ 302 → (site.serve right database).reply.status ≠ 302 →
    site.serve left database = site.serve right database
  notFound : ∀ request objects, site.Asks request .search → database.load.result = .ok objects →
    (site.serve request database).reply.status = 302 ∨
      (site.serve request database).reply = .detail 404 "No item matches the search query"
  logged : ∀ endpoint request, site.Asks request endpoint →
    (site.serve request database).log ⊆ foreseenLines database
  failed : ∀ endpoint request, site.Asks request endpoint →
    IsSearchReply request endpoint (site.serve request database).reply

theorem Site.disclosesOutcomeOnly (site : Site) (database : Database) :
    site.DisclosesOutcomeOnly database := by
  have alike : ∀ endpoint left right, site.Asks left endpoint → site.Asks right endpoint →
      callOf left endpoint = callOf right endpoint →
      (∀ objects call, database.load.result = .ok objects → callOf left endpoint = .ok call →
        shown? (site.callOver objects left endpoint call).result =
          shown? (site.callOver objects right endpoint call).result) →
      site.serve left database = site.serve right database := by
    intro endpoint left right asks asks' called alike
    rw [asks.serve_eq, asks'.serve_eq]
    cases loaded : database.load.result with
    | ok objects =>
        rw [fromSnapshot_of_ok loaded, fromSnapshot_of_ok loaded,
          site.answerOver_alike objects called fun call => alike objects call loaded]
    | error fault =>
        obtain ⟨reply, -, served⟩ := fromSnapshot_of_error loaded
        rw [served, served]
  constructor
  case alike => exact alike
  case missed =>
    intro left right asks asks' missed missed'
    apply alike .search left right asks asks' rfl
    rintro objects _ loaded ⟨⟩
    rw [asks.serve_eq, fromSnapshot_of_ok loaded] at missed
    rw [asks'.serve_eq, fromSnapshot_of_ok loaded] at missed'
    rw [site.answerOver_search objects left missed, site.answerOver_search objects right missed']
  case notFound =>
    intro request objects asks loaded
    rw [asks.serve_eq, fromSnapshot_of_ok loaded]
    exact site.answerOver_tree (Database.isTree_of_load loaded) request
  case logged =>
    intro endpoint request asks
    rw [asks.serve_eq, foreseenLines]
    cases loaded : database.load.result with
    | ok objects =>
        rw [fromSnapshot_of_ok loaded]
        exact List.append_subset.mpr ⟨List.subset_append_left _ _,
          List.Subset.trans (site.answerOver_log ..) (List.subset_append_right _ _)⟩
    | error fault =>
        obtain ⟨reply, -, served⟩ := fromSnapshot_of_error loaded
        rw [served]
        exact List.subset_append_left _ _
  case failed =>
    intro endpoint request asks
    rw [asks.serve_eq]
    cases loaded : database.load.result with
    | ok objects =>
        rw [fromSnapshot_of_ok loaded]
        exact site.answerOver_reply objects request endpoint
    | error fault =>
        obtain ⟨reply, failure, served⟩ := fromSnapshot_of_error loaded
        rw [served]
        exact .inr (.inr (.inl failure))

/-- A query is given away by nothing but the outcome: neither by a quick search below any container, nor by
a served search over any database. -/
theorem queries_disclosed_by_outcome :
    (∀ (κ : Type) [DecidableEq κ] (quick : QuickSearch) (catalog : Catalog κ) (root : κ),
      quick.DisclosesOutcomeOnly catalog root) ∧
    ∀ (site : Site) (database : Database), site.DisclosesOutcomeOnly database :=
  ⟨fun _ _ quick catalog root => quick.disclosesOutcomeOnly catalog root,
    fun site database => site.disclosesOutcomeOnly database⟩

/-- A script and the empty query are answered with the same error, and parts of one alias with the same
suggestion. Below any container the same holds of two parts of another alias. -/
theorem buildRun_disclosed :
    let site := standardSite "http://testserver" "" { caseSensitive := false }
    let database := databaseAfter buildRun
    let script := searchRequest "/search" [("q", "<script>")]
    let nothing := searchRequest "/search" [("q", "")]
    let part := searchRequest "/search/suggest" [("query", "NIGHT"), ("max", "1")]
    let word := searchRequest "/search/suggest" [("query", "nightly build"), ("max", "1")]
    (site.serve script database = site.serve nothing database ∧
      (site.serve script database).reply.status = 404) ∧
    (site.serve part database = site.serve word database ∧
      (site.serve part database).reply.status = 200) ∧
    ((Search.Call.lookup (some 1)).make {} Catalog.twinned 0 "q").result =
      ((Search.Call.lookup (some 1)).make {} Catalog.twinned 0 "A").result := by
  have parts : shown? ((Search.Call.lookup (some 1)).make {} Catalog.twinned 0 "q").result =
      shown? ((Search.Call.lookup (some 1)).make {} Catalog.twinned 0 "A").result := by decide +kernel
  intro site database script nothing part word
  have discloses := queries_disclosed_by_outcome.2 site database
  have searches (query) : site.Asks (searchRequest "/search" query) .search :=
    ⟨rfl, "/search", rfl, rfl⟩
  have suggests (query) : site.Asks (searchRequest "/search/suggest" query) .suggest :=
    ⟨rfl, "/search/suggest", rfl, rfl⟩
  have asked : callOf part .suggest = .ok (.suggest (some 1)) := rfl
  have shown : database.load.result.toOption.all (fun objects =>
      shown? (site.callOver objects part .suggest (.suggest (some 1))).result =
        shown? (site.callOver objects word .suggest (.suggest (some 1))).result) = true := by
    decide +kernel
  refine ⟨⟨?_, by decide +kernel⟩, ⟨?_, by decide +kernel⟩, ?_⟩
  · exact discloses.missed script nothing (searches _) (searches _) (by decide +kernel)
      (by decide +kernel)
  · refine discloses.alike .suggest part word (suggests _) (suggests _) rfl ?_
    intro objects call loaded called
    cases Except.ok.inj (asked.symm.trans called)
    rw [loaded] at shown
    exact of_decide_eq_true shown
  · exact ((queries_disclosed_by_outcome.1 Nat {} Catalog.twinned 0).alike _ _ _ parts).2

end Wayfinder.Api
