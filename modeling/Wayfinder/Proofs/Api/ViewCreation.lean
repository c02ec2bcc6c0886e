import Mathlib
import Wayfinder.Proofs.Api.Payloads
import Wayfinder.Proofs.Api.Routing
import Wayfinder.Proofs.Api.Runs
import Wayfinder.Proofs.Storage.BrokenTexts
import Wayfinder.Proofs.Storage.MemberAddition

/-!
# Views as clients create them

The answer to a request for a new view is read off a snapshot made afterwards, in which the view is looked
up by its name. That snapshot has the view behind all others, so the answer shows what was stored: the
items that the paths lead to, and whether the view is the one that is shown first.
-/

namespace Wayfinder.Api

open Workspace Storage

/-- A request for a new view, and what its body asks for. -/
structure Site.AsksForView (site : Site) (request : Request) (create : ViewCreate) : Prop where
  method : request.method = "POST"
  path : request.path = site.base ++ "/views"
  carries : payload ViewCreate.ofFields request.body = .ok create

/-- The page of a new view. -/
def newViewPage (changed : Objects) (name : String) (id : Int) (listed : List ItemId) (first : Bool) :
    Json :=
  .record [
    ("id", .whole id),
    ("name", .text name),
    ("url", .text (Path.viewAddress name)),
    ("primary", .flag first),
    ("members", textList (listed.map changed.fullName))]

/-- What is served to a request for a new view: the reason for which it is refused, and then nothing
changes, or the page of the view that a snapshot of the changed database shows. A view that is not asked
to be the first is so only if there is no other. -/
def AnswersView (database : Database) (objects : Objects) (served : Served) (create : ViewCreate) :
    Prop :=
  match viewFault? objects create.name create.membersOrDefault with
  | some fault => served = ofFault database fault
  | none =>
      ∃ (name : String) (members : List String) (changed : Objects) (id : Int) (listed : List ItemId),
        create.name = .sound name ∧ create.membersOrDefault = members.map .sound ∧
        served.database.load.result = .ok changed ∧
        ShowsNewView objects changed name id listed create.primaryOrDefault ∧
        ListsPaths objects members listed ∧
        served.reply = .json 201 (newViewPage changed name id listed
          (create.primaryOrDefault || objects.views.isEmpty))

section Shown

variable {objects changed : Objects} {tables : Tables} {name : String} {id : Int}
  {listed : List ItemId} {primary : Bool}

/-- The flagged view is one of the views. -/
theorem mem_viewIds_of_flagged (portrays : Portrays objects tables) {view : ViewId}
    (flagged : flaggedView tables.views = some view) : view ∈ objects.viewIds := by
  obtain ⟨row, last, rfl⟩ := Option.map_eq_some_iff.mp flagged
  rw [portrays.viewIds]
  exact List.mem_map_of_mem (List.mem_filter.mp (List.mem_of_getLast? last)).1

variable (shows : ShowsNewView objects changed name id listed primary)
  (portrays : Portrays objects tables)

include shows

/-- A new view stands behind the others, which stay as they are. -/
theorem view?_of_newView : ∃ checked : Name, checked.text = name ∧
    (∀ view ∈ objects.viewIds, changed.view? view = objects.view? view) ∧
    changed.view? ⟨objects.views.length⟩ = some
      { name := checked, owner := some snapshotSpace, id := some id, members := listed } := by
  obtain ⟨checked, text, views⟩ := shows.views
  refine ⟨checked, text, fun view member => ?_, ?_⟩
  · rw [Objects.view?, views, List.getElem?_append_left (Objects.mem_viewIds.mp member)]
    rfl
  · rw [Objects.view?, views, List.getElem?_concat_length]

include portrays

theorem space?_of_newView : changed.space? snapshotSpace = some {
    items := childrenOf tables.items none
    views := objects.viewIds ++ [⟨objects.views.length⟩]
    primary := if primary then some ⟨objects.views.length⟩ else flaggedView tables.views } := by
  rw [Objects.space?, shows.spaces, portrays.spaces, portrays.viewIds]
  rfl

/-- A new view of a free name is found by its name. -/
theorem viewNamed?_of_newView (free : objects.viewNamed? snapshotSpace name = none) :
    changed.viewNamed? snapshotSpace name = some ⟨objects.views.length⟩ := by
  obtain ⟨checked, text, there, new⟩ := view?_of_newView shows
  have before : objects.space? snapshotSpace = some (spaceFor tables.items tables.views) := by
    rw [Objects.space?, portrays.spaces]
    rfl
  have old : (spaceFor tables.items tables.views).views = objects.viewIds := portrays.viewIds.symm
  rw [Objects.viewNamed?, before, Option.map_some, Option.getD_some, old] at free
  rw [Objects.viewNamed?, space?_of_newView shows portrays, Option.map_some, Option.getD_some,
    List.find?_eq_some_iff_append]
  refine ⟨by simp [new, text], objects.viewIds, [], rfl, ?_⟩
  intro view member
  rw [there view member]
  simpa using List.find?_eq_none.mp free view member

/-- A new view is the first if it was to be, or if there was none before. -/
theorem isPrimary_of_newView :
    (changed.primaryView? snapshotSpace == some ⟨objects.views.length⟩) =
      (primary || objects.views.isEmpty) := by
  rw [Objects.primaryView?, space?_of_newView shows portrays]
  cases primary with
  | true => simp
  | false =>
      cases flagged : flaggedView tables.views with
      | some view =>
          have bound := Objects.mem_viewIds.mp (mem_viewIds_of_flagged portrays flagged)
          have apart : (view == ⟨objects.views.length⟩) = false := by
            apply beq_eq_false_iff_ne.mpr
            rintro rfl
            exact Nat.lt_irrefl _ bound
          have filled : objects.views.isEmpty = false :=
            List.isEmpty_eq_false_iff.mpr (List.ne_nil_of_length_pos (Nat.zero_lt_of_lt bound))
          simp [apart, filled]
      | none =>
          cases views : objects.views with
          | nil => simp [Objects.viewIds, views]
          | cons first rest => simp [Objects.viewIds, views, List.range_succ_eq_map]

/-- The page of a new view, looked up by its name. -/
theorem viewReply_of_newView (free : objects.viewNamed? snapshotSpace name = none) :
    viewReply 201 name changed =
      .json 201 (newViewPage changed name id listed (primary || objects.views.isEmpty)) := by
  obtain ⟨checked, text, -, new⟩ := view?_of_newView shows
  simp only [viewReply, viewNamed?_of_newView shows portrays free, viewPage, new,
    isPrimary_of_newView shows portrays, text]
  rfl

end Shown

/-- A view is created as the database takes it, or refused for what speaks against it. -/
theorem answersView_createView {objects : Objects} {tables : Tables} (portrays : Portrays objects tables)
    (wellFormed : tables.WellFormed) {create : ViewCreate} (admitted : AdmitsName create.name) :
    AnswersView ⟨some tables⟩ objects (Site.createView create ⟨some tables⟩) create := by
  have broken := portrays.brokenViewFault_eq wellFormed admitted.requireWideName create.membersOrDefault
  unfold Site.createView
  split
  case h_1 name members same read =>
    -- All texts are sound, so the database is asked to create the view.
    have listing := mapM_text?_eq_some_iff.mp read
    have creates := portrays.createsView wellFormed name members create.primaryOrDefault
    unfold CreatesView at creates
    unfold AnswersView
    rw [same, listing, viewFault?_sound]
    cases refused : viewRefusal? objects name members with
    | some fault =>
        rw [refused] at creates
        dsimp only at creates
        rw [creates.1]
        rfl
    | none =>
        rw [refused] at creates
        obtain ⟨commit, changed, listed, created, loaded, shows, lists⟩ := creates
        have free := portrays.viewNamed?_eq_none_iff.mpr
          (portrays.of_no_viewRefusal wellFormed refused).2.1
        rw [created]
        refine ⟨name, members, changed, _, listed, rfl, rfl, ?_, shows, lists, ?_⟩
        · simpa [afterCommit] using loaded
        · simp only [afterCommit, fromReload, loaded, viewReply_of_newView shows portrays free]
  case h_2 unsound =>
    unfold AnswersView
    cases told : viewFault? objects create.name create.membersOrDefault with
    | some fault =>
        rw [broken, told]
        rfl
    | none =>
        obtain ⟨name, members, same, listing⟩ := sound_of_no_viewFault told
        exact absurd (mapM_text?_eq_some_iff.mpr listing) (unsound name members same)

/-- A request for a new view is answered as the view is created. -/
theorem answersView_serve {site : Site} {request : Request} {create : ViewCreate}
    (asks : site.AsksForView request create) {objects : Objects} {tables : Tables}
    (portrays : Portrays objects tables) (wellFormed : tables.WellFormed) :
    AnswersView ⟨some tables⟩ objects (site.serve request ⟨some tables⟩) create := by
  have served : site.serve request ⟨some tables⟩ = Site.createView create ⟨some tables⟩ := by
    simp only [Site.serve, asks.method, asks.path, dispatch_createView, Site.carryOut, withPayload,
      asks.carries]
  obtain ⟨value, -, passed⟩ := exists_json_of_payload asks.carries
  rw [served]
  exact answersView_createView portrays wellFormed (ViewCreate.admitsName passed)

/-- How a database takes new views and new members, told by the snapshot that it has. -/
structure TakesViews (site : Site) (database : Database) (objects : Objects) : Prop where
  creates : ∀ name members primary, CreatesView database objects name members primary
  answers : ∀ request create, site.AsksForView request create →
    AnswersView database objects (site.serve request database) create
  adds : ∀ name path, AddsMember database objects name path
  /-- Any two additions come to the same in either order, whether or not one is refused. -/
  commutes : ∀ name path other location,
    let first := Operation.addViewMember name path
    let second := Operation.addViewMember other location
    second.after (first.after database) = first.after (second.after database)

/-- After any run of operations, a view or a member is refused for the first reason that the snapshot
tells, or else a snapshot made afterwards shows it and nothing else that is new. -/
theorem takesViews_run (site : Site) (run : List Operation) :
    ∃ objects, (databaseAfter run).load.result = .ok objects ∧
      TakesViews site (databaseAfter run) objects := by
  obtain ⟨tables, now, wellFormed⟩ := exists_wellFormed run
  obtain ⟨objects, loaded, portrays⟩ := wellFormed.load_portrays
  rw [now]
  refine ⟨objects, by rw [loaded], ?_⟩
  constructor
  case creates => exact portrays.createsView wellFormed
  case answers =>
    intro request create asks
    exact answersView_serve asks portrays wellFormed
  case adds => exact portrays.addsMember wellFormed
  case commutes => exact wellFormed.additions_commute

/-- A body that asks for a view of an item of any full name. -/
def viewOf (fullName : Text.Wide) : Json :=
  .record [("name", .text "v"), ("members", .list [.ofWide fullName])]

/-- Where there are no items at all, half of a surrogate pair leads to none, but the answer is not that
there is none. It is as soon as a name before it is looked up. -/
theorem halfMember_not_told_missing :
    let site : Site := ⟨"http://testserver", standardBase, "", {}⟩
    let answer (body : RequestBody) : Nat :=
      (site.serve { method := "POST", path := standardBase ++ "/views", body }
        (databaseAfter [])).reply.status
    (databaseAfter []).load.result.toOption.map Objects.items = some [] ∧
      (RequestBody.ofText "\x7b\"name\":\"v\",\"members\":[\"\\ud800\"]\x7d").json? =
        some (viewOf (.ofGlyphs [.half 0xd800])) ∧
      answer (.value (viewOf (.ofGlyphs [.half 0xd800]))) = 500 ∧
      answer (.value (viewOf (.ofGlyphs [.char 'z', .char '/', .half 0xd800]))) = 404 := by
  refine ⟨by decide +kernel, by cbv, by decide +kernel, by decide +kernel⟩

end Wayfinder.Api
