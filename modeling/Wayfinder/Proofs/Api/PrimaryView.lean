import Wayfinder.Proofs.Api.Addresses
import Wayfinder.Proofs.Storage.PrimaryView

/-!
# The primary view as clients see it

The list of views names the primary view and marks it among the others. It is the one that the history of
the stored workspace tells.
-/

namespace Wayfinder.Api

open Workspace Storage

/-- The request for the list of views. -/
def Site.viewsRequest (site : Site) : Request :=
  { method := "GET", path := site.base ++ "/views" }

theorem serve_views (site : Site) {database : Database} {objects : Objects}
    (loaded : database.load.result = .ok objects) :
    (site.serve site.viewsRequest database).reply = .json 200 (viewList objects snapshotSpace) := by
  simp only [Site.serve, Site.viewsRequest, dispatch_views, Site.carryOut, fromSnapshot_reply loaded]

section Pages

variable {objects : Objects} {tables : Tables} (portrays : Portrays objects tables)

include portrays

/-- The page of the view of a row. -/
theorem field?_viewPage_row {row : ViewRow} (stored : row ∈ tables.views) :
    let page := viewPage objects snapshotSpace (viewObjectOf tables.views row.id)
    page.field? "name" = some (.text row.name) ∧ page.field? "primary" =
      some (.flag (objects.primaryView? snapshotSpace == some (viewObjectOf tables.views row.id))) := by
  obtain ⟨name, text, found⟩ := portrays.view? row stored
  simp [viewPage, found, viewFor, Json.field?, List.lookup_cons, text]

theorem viewList_eq : viewList objects snapshotSpace = .record [
    ("views", .list (tables.views.map fun row =>
      viewPage objects snapshotSpace (viewObjectOf tables.views row.id))),
    ("primary_view", optionalText (((objects.primaryView? snapshotSpace).bind objects.view?).map
      fun view => view.name.text))] := by
  simp [viewList, Objects.space?, portrays.spaces, snapshotSpace, spaceFor, Function.comp_def]

/-- Of the pages of all views, one is marked as that of the primary view. -/
theorem marks_one (wellFormed : tables.WellFormed) {row : ViewRow} (stored : row ∈ tables.views)
    (shown : objects.primaryView? snapshotSpace = some (viewObjectOf tables.views row.id)) :
    ∃ before page behind, tables.views.map (fun row =>
        viewPage objects snapshotSpace (viewObjectOf tables.views row.id)) =
          before ++ page :: behind ∧
      page.field? "name" = some (.text row.name) ∧ page.field? "primary" = some (.flag true) ∧
      ∀ other ∈ before ++ behind, other.field? "primary" = some (.flag false) := by
  obtain ⟨before, behind, parts⟩ := List.append_of_mem stored
  obtain ⟨named, marked⟩ := field?_viewPage_row portrays stored
  rw [shown, beq_self_eq_true] at marked
  refine ⟨before.map _, _, behind.map _, by rw [parts, List.map_append, List.map_cons], ?_, ?_, ?_⟩
  · rw [← parts]
    exact named
  · rw [← parts]
    exact marked
  · rw [← List.map_append, ← parts]
    intro page member
    obtain ⟨other, beside, rfl⟩ := List.mem_map.mp member
    have there : other ∈ tables.views := by
      rw [parts]
      rcases List.mem_append.mp beside with early | late
      · exact List.mem_append_left _ early
      · exact List.mem_append_right _ (List.mem_cons_of_mem _ late)
    have ids := wellFormed.viewsOrdered
    rw [parts, List.pairwise_append, List.pairwise_cons] at ids
    have apart : row.id ≠ other.id := by
      rcases List.mem_append.mp beside with early | late
      · exact Int.ne_of_gt (ids.2.2 other early row List.mem_cons_self)
      · exact Int.ne_of_lt (ids.2.1.1 other late)
    obtain ⟨-, unmarked⟩ := field?_viewPage_row portrays there
    have differ : (objects.primaryView? snapshotSpace ==
        some (viewObjectOf tables.views other.id)) = false := by
      rw [shown]
      apply beq_eq_false_iff_ne.mpr
      intro same
      exact apart (viewObjectOf_inj stored (Option.some.inj same))
    rwa [differ] at unmarked

end Pages

/-- How pages of views report the primary view: if there is a view, one is marked, and it is that one. -/
structure MarksPrimary (pages : List Json) (made : List String) (primary : Option String) : Prop where
  names : pages.map (fun page => page.field? "name") = made.map fun name => some (.text name)
  unmarked : made = [] → primary = none
  marked : made ≠ [] → ∃ before page behind name, pages = before ++ page :: behind ∧
    primary = some name ∧ page.field? "name" = some (.text name) ∧
    page.field? "primary" = some (.flag true) ∧
    ∀ other ∈ before ++ behind, other.field? "primary" = some (.flag false)

/-- What shows of the primary view after a run. -/
structure PrimaryAsChosen (site : Site) (run : List Operation) : Prop where
  shown : ∃ objects, (databaseAfter run).load.result = .ok objects ∧
    ((objects.primaryView? snapshotSpace).bind objects.view?).map (fun view => view.name.text) =
      primaryAfter run ∧
    (objects.primaryView? snapshotSpace = none ↔ madeViews run = [])
  listed : ∃ pages, (site.serve site.viewsRequest (databaseAfter run)).reply =
      .json 200 (.record [("views", .list pages),
        ("primary_view", optionalText (primaryAfter run))]) ∧
    MarksPrimary pages (madeViews run) (primaryAfter run)
  kept : ∀ operation : Operation, madeViews run ≠ [] → operation.LeavesPrimary run →
    primaryAfter (run ++ [operation]) = primaryAfter run

/-- After any run the primary view is the one chosen last or, as long as none was chosen, the oldest. A
snapshot shows it first, the list of views names it and marks no other, and nothing but the choice of
another view changes it. -/
theorem primaryAsChosen_run (site : Site) (run : List Operation) : PrimaryAsChosen site run := by
  obtain ⟨tables, now, wellFormed, remembers⟩ := Tables.remembers_run run
  obtain ⟨objects, loaded, portrays, -⟩ := wellFormed.exists_snapshot
  have listed := serve_views site loaded
  rw [viewList_eq portrays] at listed
  have names : (tables.views.map fun row =>
      viewPage objects snapshotSpace (viewObjectOf tables.views row.id)).map
        (fun page => page.field? "name") = (madeViews run).map fun name => some (.text name) := by
    rw [← remembers.names, List.map_map, List.map_map]
    apply List.map_congr_left
    intro row stored
    exact (field?_viewPage_row portrays stored).1
  rcases portrays.primaryView?_eq wellFormed remembers with
    ⟨empty, history, shown⟩ | ⟨row, stored, history, shown⟩
  · have unmade : madeViews run = [] := by rw [← remembers.names, empty]; rfl
    constructor
    case shown =>
      refine ⟨objects, now ▸ loaded, ?_, by simp [shown, unmade]⟩
      rw [shown, primaryAfter, history]
      rfl
    case listed =>
      refine ⟨_, ?_, names, fun _ => history, fun anyMade => absurd unmade anyMade⟩
      rw [now, listed, shown, primaryAfter, history]
      rfl
    case kept => exact fun operation anyMade => absurd unmade anyMade
  · obtain ⟨name, text, found⟩ := portrays.view? row stored
    have named : ((objects.primaryView? snapshotSpace).bind objects.view?).map
        (fun view => view.name.text) = primaryAfter run := by
      rw [shown, Option.bind_some, found, primaryAfter, history]
      exact congrArg some text
    have anyMade : madeViews run ≠ [] := by
      rw [← remembers.names]
      simpa using List.ne_nil_of_mem stored
    constructor
    case shown => exact ⟨objects, now ▸ loaded, named, by simp [shown, anyMade]⟩
    case listed =>
      refine ⟨_, ?_, names, fun none => absurd none anyMade, fun _ => ?_⟩
      · rw [now, listed, named]
      · obtain ⟨before, page, behind, parts, field, marked, others⟩ :=
          marks_one portrays wellFormed stored shown
        exact ⟨before, page, behind, row.name, parts, history, field, marked, others⟩
    case kept => exact fun operation => primaryAfter_concat

end Wayfinder.Api
