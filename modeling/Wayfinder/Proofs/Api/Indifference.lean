import Wayfinder.Proofs.Api.SearchAddresses
import Wayfinder.Proofs.Storage.Outlines

/-!
# What a search does not depend on

A client that searches cannot tell whether jobs are disabled, what the views list or which view is the
primary one: the answers before and after a change of these are the same.
-/

namespace Wayfinder.Api

open Workspace Storage Search

/-- Whether a request is one to search, to look up or to suggest, whatever it asks for. -/
structure Site.Searches (site : Site) (request : Request) : Prop where
  method : request.method = "GET"
  path : ∃ ending ∈ ["/search", "/search/suggest", "/search/lookup"],
    request.path = site.base ++ ending

theorem Site.Searches.exists_endpoint {site : Site} {request : Request}
    (searches : site.Searches request) : ∃ endpoint,
      dispatch (routes site.base) request.method request.path = .endpoint endpoint ∧
        (endpoint = .search ∨ endpoint = .suggest ∨ endpoint = .lookup) := by
  obtain ⟨ending, member, path⟩ := searches.path
  rw [searches.method, path]
  simp only [List.mem_cons, List.not_mem_nil, or_false] at member
  rcases member with rfl | rfl | rfl
  · exact ⟨.search, dispatch_search_below site.base, .inl rfl⟩
  · exact ⟨.suggest, dispatch_suggest_below site.base, .inr (.inl rfl)⟩
  · exact ⟨.lookup, dispatch_lookup_below site.base, .inr (.inr rfl)⟩

section Alike

variable {left right : Objects} {before after : Database}

/-- The reply to a search is told by what shows of its outcome. -/
theorem searchReply_alike {first second : Traced (Event ObjectId) SearchFault (Outcome ObjectId)}
    (alike : first.result.map Outcome.sight = second.result.map Outcome.sight)
    (page : LookupAnswer → Reply) (base : String) :
    (searchReply left (fun outcome => page (outcome.answer base)) first).1 =
      (searchReply right (fun outcome => page (outcome.answer base)) second).1 := by
  cases first? : first.result with
  | ok outcome =>
      cases second? : second.result with
      | ok other =>
          rw [first?, second?] at alike
          have same := Outcome.answer_sight (Except.ok.inj alike) base
          simp only [searchReply, first?, second?, same]
      | error fault =>
          rw [first?, second?] at alike
          cases alike
  | error fault =>
      cases second? : second.result with
      | ok other =>
          rw [first?, second?] at alike
          cases alike
      | error other =>
          rw [first?, second?] at alike
          cases alike
          cases fault <;> simp only [searchReply, first?, second?]

/-- Databases whose snapshots are searched alike answer a search alike. -/
theorem searchSnapshot_alike (site : Site) (request : Request) {endpoint : Endpoint}
    (loaded : before.load.result = .ok left) (loaded' : after.load.result = .ok right)
    (alike : Objects.SearchedAlike left right)
    (searches : endpoint = .search ∨ endpoint = .suggest ∨ endpoint = .lookup) :
    (site.searchSnapshot request before endpoint).reply =
      (site.searchSnapshot request after endpoint).reply := by
  simp only [Site.searchSnapshot, fromSnapshot_reply loaded, fromSnapshot_reply loaded']
  rcases searches with rfl | rfl | rfl
  · exact searchReply_alike (alike.search site.quick _)
      (fun answer => .redirect 302 (answer.url.getD "")) site.base
  · cases requestedLimit request with
    | error refusal => rfl
    | ok limit =>
        exact searchReply_alike (alike.suggest site.quick _ limit)
          (fun answer => .json 200 (suggestionsPage answer)) site.base
  · cases requestedLimit request with
    | error refusal => rfl
    | ok limit =>
        exact searchReply_alike (alike.lookup site.quick _ limit)
          (fun answer => .json 200 (lookupPage answer)) site.base

end Alike

/-- After any run, an operation that disables or enables a job, lists an item in a view or chooses the
primary view changes no answer to a search, be it carried out or refused. And workspaces with the same
tree of items and the same names of views are searched alike, whatever else there is about them. -/
theorem search_ignores_arrangement :
    (∀ (site : Site) (run : List Operation) (operation : Operation), operation.ArrangesOnly →
      ∀ request, site.Searches request →
        (site.serve request (databaseAfter (run ++ [operation]))).reply =
          (site.serve request (databaseAfter run)).reply) ∧
    ∀ left right : Objects, left.IsTree → right.IsTree → Objects.SameTree left right →
      Objects.SearchedAlike left right := by
  constructor
  case left =>
    intro site run operation arranges request searches
    obtain ⟨tables, before, wellFormed⟩ := exists_wellFormed run
    obtain ⟨changed, after, wellFormed'⟩ := exists_wellFormed (run ++ [operation])
    have same : changed.SameOutline tables := by
      obtain ⟨other, after', same⟩ := wellFormed.sameOutline_after arranges
      rw [databaseAfter_concat, before, after'] at after
      cases after
      exact same
    obtain ⟨objects, loaded, portrays, tree⟩ := wellFormed.exists_snapshot
    obtain ⟨other, loaded', portrays', tree'⟩ := wellFormed'.exists_snapshot
    have alike := (same.sameTree portrays' tree' portrays).searchedAlike tree' tree
    obtain ⟨endpoint, routed, searched⟩ := searches.exists_endpoint
    rw [before, after, serve_of_search routed searched, serve_of_search routed searched]
    exact searchSnapshot_alike site request loaded' loaded alike searched
  case right => exact fun left right tree tree' same => same.searchedAlike tree tree'

/-- A run that stores a job in a folder and a view. -/
def buildRun : List Operation :=
  [.createItem none false (.sound "apps") .folder none none,
    .createItem none false (.sound "build") .job (some (.sound "Nightly build")) (some (.sound "apps")),
    .createView (.sound "release") [] false false]

/-- A step that disables the job. -/
def disableBuild : Operation :=
  .updateItem (.sound "apps/build") { disabled := some (some true) }

/-- A request that looks for the job. -/
def lookForBuild : Request :=
  searchRequest "/search" [("q", "nightly BUILD")]

/-- A job in a folder, and two views that list nothing. -/
def plainBuild : Objects where
  items := [
    { name := ⟨"apps", by decide⟩, parent := some (.space ⟨0⟩), body := .folder [⟨1⟩] },
    { name := ⟨"build", by decide⟩, displayName := some "Nightly build",
      parent := some (.folder ⟨0⟩), body := .job false }]
  views := [{ name := ⟨"release", by decide⟩, owner := some ⟨0⟩ },
    { name := ⟨"nightly", by decide⟩, owner := some ⟨0⟩ }]
  spaces := [{ items := [⟨0⟩], views := [⟨0⟩, ⟨1⟩] }]

/-- The same with the job disabled and listed, and with the second view as the primary one. -/
def arrangedBuild : Objects where
  items := [
    { name := ⟨"apps", by decide⟩, parent := some (.space ⟨0⟩), body := .folder [⟨1⟩] },
    { name := ⟨"build", by decide⟩, displayName := some "Nightly build",
      parent := some (.folder ⟨0⟩), body := .job true }]
  views := [{ name := ⟨"release", by decide⟩, owner := some ⟨0⟩, members := [⟨1⟩] },
    { name := ⟨"nightly", by decide⟩, owner := some ⟨0⟩ }]
  spaces := [{ items := [⟨0⟩], views := [⟨0⟩, ⟨1⟩], primary := some ⟨1⟩ }]

theorem grown_plainBuild : Grown plainBuild := by
  have folder := Grown.empty.edit (.createFolder (.space rootSpace) "apps" none none) rfl rfl
  have inside := folder.edit
    (.createJob (.folder ⟨0⟩) "build" (some "Nightly build") false none) rfl rfl
  have first := (inside.edit (.newView "release" none) trivial rfl).edit (.addView ⟨0⟩) trivial rfl
  exact (first.edit (.newView "nightly" none) trivial rfl).edit (.addView ⟨1⟩) trivial rfl

theorem grown_arrangedBuild : Grown arrangedBuild := by
  have disabled := grown_plainBuild.edit (.setDisabled ⟨1⟩ true) trivial rfl
  have listed := disabled.edit (.listItem ⟨0⟩ ⟨1⟩) trivial rfl
  exact listed.edit (.setPrimaryView ⟨1⟩) trivial rfl

/-- The job is found in spite of being disabled, and by the same answer. -/
theorem arrangedBuild_ignored :
    let site := standardSite "http://testserver" "" { caseSensitive := false }
    disableBuild.ArrangesOnly ∧ site.Searches lookForBuild ∧
      databaseAfter (buildRun ++ [disableBuild]) ≠ databaseAfter buildRun ∧
      (site.serve lookForBuild (databaseAfter (buildRun ++ [disableBuild]))).reply.status = 302 ∧
      (site.serve lookForBuild (databaseAfter (buildRun ++ [disableBuild]))).reply =
        (site.serve lookForBuild (databaseAfter buildRun)).reply ∧
      plainBuild.IsTree ∧ arrangedBuild.IsTree ∧ Objects.SameTree plainBuild arrangedBuild ∧
      Objects.SearchedAlike plainBuild arrangedBuild := by
  intro site
  have arranges : disableBuild.ArrangesOnly := rfl
  have searches : site.Searches lookForBuild := ⟨rfl, "/search", by simp, rfl⟩
  have tree := grown_plainBuild.isTree
  have tree' := grown_arrangedBuild.isTree
  have same : Objects.SameTree plainBuild arrangedBuild := by
    refine ⟨?_, rfl⟩
    exact .cons rfl rfl rfl rfl (.cons rfl rfl rfl rfl .nil .nil) .nil
  exact ⟨arranges, searches, by decide +kernel, by decide +kernel,
    search_ignores_arrangement.1 site buildRun disableBuild arranges lookForBuild searches,
    tree, tree', same, search_ignores_arrangement.2 plainBuild arrangedBuild tree tree' same⟩

end Wayfinder.Api
