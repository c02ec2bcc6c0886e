import Mathlib.Data.List.Induction
import Wayfinder.Proofs.Storage.Locations

/-!
# The view that is shown first

Which view is the primary one is a matter of history: the one chosen last or, as long as none was chosen,
the oldest. The rows say so much of it as is needed. Each choice takes the flag from every view and gives
it to one, and a snapshot falls back on its first view.
-/

namespace Wayfinder.Storage

open Workspace

namespace Operation

/-- Whether an operation is carried out. -/
def isCarriedOut (operation : Operation) (database : Database) : Bool :=
  match operation.apply database with
  | .ok _ => true
  | .error _ => false

/-- The name of the view that an operation is to create. No view has a broken one. -/
def creation? : Operation → Option String
  | .createView name _ _ _ => name.text?
  | _ => none

/-- The name of the view that an operation is to choose as the primary one. -/
def choice? : Operation → Option String
  | .createView name _ true _ => name.text?
  | .setPrimaryView name => name.text?
  | _ => none

end Operation

/-- The operations of a run that are carried out, with the database that the run begins with. -/
def carriedOutFrom (database : Database) : List Operation → List Operation
  | [] => []
  | operation :: later =>
    (if operation.isCarriedOut database then [operation] else []) ++
      carriedOutFrom (operation.after database) later

/-- The operations of a run that are carried out. -/
def carriedOut (run : List Operation) : List Operation :=
  carriedOutFrom Database.empty run

theorem carriedOut_concat (run : List Operation) (operation : Operation) :
    carriedOut (run ++ [operation]) = carriedOut run ++
      if operation.isCarriedOut (databaseAfter run) then [operation] else [] := by
  have whole (database : Database) : carriedOutFrom database (run ++ [operation]) =
      carriedOutFrom database run ++ if operation.isCarriedOut
        (run.foldl (fun database operation => operation.after database) database)
        then [operation] else [] := by
    induction run generalizing database with
    | nil => exact List.append_nil _
    | cons first run ih =>
        rw [List.cons_append, carriedOutFrom, carriedOutFrom, ih, List.append_assoc, List.foldl_cons]
  exact whole Database.empty

/-- The names of the views that a run creates, the oldest first. -/
def madeViews (run : List Operation) : List String :=
  (carriedOut run).filterMap Operation.creation?

/-- The names of the views that a run chooses, the latest choice last. -/
def chosenViews (run : List Operation) : List String :=
  (carriedOut run).filterMap Operation.choice?

/-- The name of the primary view after a run: that of the latest choice or, if there was none, that of
the oldest view. -/
def primaryAfter (run : List Operation) : Option String :=
  (chosenViews run).getLast?.or (madeViews run).head?

/-- What an operation adds to the history of the views. -/
theorem views_concat (run : List Operation) (operation : Operation) :
    (operation.isCarriedOut (databaseAfter run) = true ∧
      madeViews (run ++ [operation]) = madeViews run ++ operation.creation?.toList ∧
      (chosenViews (run ++ [operation])).getLast? =
        operation.choice?.or (chosenViews run).getLast?) ∨
    (operation.isCarriedOut (databaseAfter run) = false ∧
      madeViews (run ++ [operation]) = madeViews run ∧
      chosenViews (run ++ [operation]) = chosenViews run) := by
  have single (tells : Operation → Option String) :
      [operation].filterMap tells = (tells operation).toList := by
    rw [List.filterMap_cons]
    cases tells operation <;> rfl
  rw [madeViews, chosenViews, carriedOut_concat]
  cases operation.isCarriedOut (databaseAfter run) with
  | true =>
      refine .inl ⟨rfl, ?_, ?_⟩
      · rw [if_pos rfl, List.filterMap_append, single, madeViews]
      · rw [if_pos rfl, List.filterMap_append, single, List.getLast?_append, chosenViews]
        cases operation.choice? <;> rfl
  | false =>
      rw [if_neg Bool.false_ne_true, List.append_nil]
      exact .inr ⟨rfl, rfl, rfl⟩

/-- Rows that know of the views that were made and of the one chosen last. -/
structure Tables.Remembers (tables : Tables) (made : List String) (chosen : Option String) : Prop where
  names : tables.views.map ViewRow.name = made
  flagged : ∀ row ∈ tables.views, row.isPrimary = true ↔ chosen = some row.name
  known : ∀ name, chosen = some name → name ∈ made

namespace Tables

variable {tables changed : Tables} {made : List String} {chosen : Option String}

theorem remembers_empty : ({} : Tables).Remembers [] none where
  names := rfl
  flagged := by simp
  known := by simp

/-- Nothing is forgotten while the views are left alone. -/
theorem Remembers.of_views (remembers : tables.Remembers made chosen)
    (views : changed.views = tables.views) : changed.Remembers made chosen where
  names := by rw [views, remembers.names]
  flagged := by rw [views]; exact remembers.flagged
  known := remembers.known

/-- A new view is not flagged. -/
theorem Remembers.concat (remembers : tables.Remembers made chosen) (wellFormed : changed.WellFormed)
    {id : Int} {name : String} (views : changed.views = tables.views ++ [⟨id, name, false⟩]) :
    changed.Remembers (made ++ [name]) chosen where
  names := by rw [views, List.map_append, remembers.names]; rfl
  flagged := by
    have fresh : name ∉ made := by
      have differ := wellFormed.viewsDiffer
      rw [views, pairwise_concat] at differ
      rw [← remembers.names]
      intro taken
      obtain ⟨row, stored, same⟩ := List.mem_map.mp taken
      exact differ.2 row stored same
    intro row stored
    rw [views] at stored
    rcases List.mem_append.mp stored with old | new
    · exact remembers.flagged row old
    · cases List.mem_singleton.mp new
      constructor
      · simp
      · intro same
        exact absurd (remembers.known name same) fresh
  known other same := List.mem_append_left _ (remembers.known other same)

/-- The flag goes to the view that is chosen, wherever it was. -/
theorem Remembers.choosePrimary (remembers : tables.Remembers made chosen)
    (wellFormed : tables.WellFormed) {row : ViewRow} (stored : row ∈ tables.views) :
    (tables.choosePrimary row.id).Remembers made (some row.name) where
  names := by
    rw [← remembers.names, Tables.choosePrimary, List.map_map]
    rfl
  flagged other member := by
    obtain ⟨old, there, rfl⟩ := List.mem_map.mp member
    constructor
    · intro same
      rw [wellFormed.eq_of_viewId there stored (eq_of_beq same)]
    · intro same
      have equal : old = row := wellFormed.eq_of_viewName there stored (Option.some.inj same).symm
      rw [equal]
      exact beq_self_eq_true row.id
  known name same := by
    rw [← remembers.names, ← Option.some.inj same]
    exact List.mem_map_of_mem stored

theorem Remembers.createView (remembers : tables.Remembers made chosen) (wellFormed : tables.WellFormed)
    {name : String} {members : List String} {primary missed : Bool} {commit : Commit ViewRow}
    (created : (⟨some tables⟩ : Database).createView name members primary missed = .ok commit) :
    ∃ changed, commit.database = ⟨some changed⟩ ∧ changed.Remembers (made ++ [name])
      ((Operation.createView (.sound name) (members.map .sound) primary missed).choice?.or chosen) := by
  obtain ⟨items, viewed, changed, named, found, inserted, listed, outcome⟩ :=
    Database.createView_commit created
  obtain ⟨isListed, -, views⟩ :=
    wellFormed.insertListing named (mem_of_getItems found) inserted listed
  have grown := remembers.concat isListed views
  rcases outcome with ⟨rfl, -, after⟩ | ⟨rfl, row, there, -, after⟩
  · exact ⟨changed, after, grown⟩
  · obtain ⟨stored, rfl⟩ := mem_of_getView there
    exact ⟨_, after, grown.choosePrimary isListed stored⟩

/-- What an operation that is carried out adds to what the rows know. -/
theorem Remembers.apply (remembers : tables.Remembers made chosen) (wellFormed : tables.WellFormed)
    {operation : Operation} {database : Database}
    (applied : operation.apply ⟨some tables⟩ = .ok database) :
    ∃ changed, database = ⟨some changed⟩ ∧
      changed.Remembers (made ++ operation.creation?.toList) (operation.choice?.or chosen) := by
  have kept {changed : Tables} (views : changed.views = tables.views) :
      changed.Remembers (made ++ []) chosen := by
    rw [List.append_nil]
    exact remembers.of_views views
  cases Operation.carries_of_apply applied with
  | createItem created =>
      obtain ⟨parentId, changed, -, -, value, inserted, after⟩ := Database.createItem_commit created
      obtain ⟨rfl, -⟩ := insertItem_next (by rw [value]) inserted
      exact ⟨_, after, kept rfl⟩
  | updateItem updated =>
      obtain ⟨row, -, -, after⟩ := Database.updateItem_commit updated
      exact ⟨_, after, kept rfl⟩
  | deleteItem deleted =>
      obtain ⟨row, -, after⟩ := Database.deleteItem_commit deleted
      exact ⟨_, after, kept rfl⟩
  | createView created => exact remembers.createView wellFormed created
  | addViewMember added =>
      obtain ⟨view, item, -, -, outcome⟩ := Database.addViewMember_commit added
      rcases outcome with ⟨-, after⟩ | ⟨changed, inserted, after⟩
      · exact ⟨tables, after, kept rfl⟩
      · exact ⟨changed, after, kept (rows_insertMember inserted).2⟩
  | setPrimaryView chosen =>
      obtain ⟨row, there, -, after⟩ := Database.setPrimaryView_commit chosen
      obtain ⟨stored, rfl⟩ := mem_of_getView there
      have flagged := remembers.choosePrimary wellFormed stored
      rw [← List.append_nil made] at flagged
      exact ⟨_, after, flagged⟩
  | getItem | getView | load => exact ⟨tables, rfl, kept rfl⟩

/-- After any run the rows know of its views and of its latest choice. -/
theorem remembers_run (run : List Operation) : ∃ tables, databaseAfter run = ⟨some tables⟩ ∧
    tables.WellFormed ∧ tables.Remembers (madeViews run) (chosenViews run).getLast? := by
  induction run using List.reverseRecOn with
  | nil => exact ⟨{}, rfl, wellFormed_empty, remembers_empty⟩
  | append_singleton run operation ih =>
      obtain ⟨tables, before, wellFormed, remembers⟩ := ih
      obtain ⟨changed, after, isChanged⟩ := exists_wellFormed (run ++ [operation])
      refine ⟨changed, after, isChanged, ?_⟩
      rw [databaseAfter_concat, before, Operation.after] at after
      rcases views_concat run operation with ⟨carried, made, chosen⟩ | ⟨refused, made, chosen⟩
      · rw [before, Operation.isCarriedOut] at carried
        rw [made, chosen]
        cases applied : operation.apply ⟨some tables⟩ with
        | error fault =>
            rw [applied] at carried
            cases carried
        | ok database =>
            obtain ⟨other, rfl, remembers⟩ := remembers.apply wellFormed applied
            rw [applied] at after
            cases after
            exact remembers
      · rw [before, Operation.isCarriedOut] at refused
        rw [made, chosen]
        cases applied : operation.apply ⟨some tables⟩ with
        | error fault =>
            rw [applied] at after
            cases after
            exact remembers
        | ok database =>
            rw [applied] at refused
            cases refused

end Tables

section Snapshot

variable {tables : Tables} {objects : Objects} {made : List String} {chosen : Option String}

/-- The flagged view is the one that was chosen last. -/
theorem Tables.Remembers.flaggedView_eq (remembers : tables.Remembers made chosen)
    (wellFormed : tables.WellFormed) {row : ViewRow} (stored : row ∈ tables.views)
    (latest : chosen = some row.name) :
    flaggedView tables.views = some (viewObjectOf tables.views row.id) := by
  have member : row ∈ tables.views.filter ViewRow.isPrimary :=
    List.mem_filter.mpr ⟨stored, (remembers.flagged row stored).mpr latest⟩
  cases last : (tables.views.filter ViewRow.isPrimary).getLast? with
  | none =>
      rw [List.getLast?_eq_none_iff.mp last] at member
      cases member
  | some other =>
      obtain ⟨there, isPrimary⟩ := List.mem_filter.mp (List.mem_of_getLast? last)
      have same := (remembers.flagged other there).mp isPrimary
      rw [latest] at same
      cases wellFormed.eq_of_viewName stored there (Option.some.inj same)
      rw [flaggedView, last]
      rfl

/-- No view is flagged before one is chosen. -/
theorem Tables.Remembers.flaggedView_eq_none (remembers : tables.Remembers made none) :
    flaggedView tables.views = none := by
  have unflagged : tables.views.filter ViewRow.isPrimary = [] := by
    apply List.filter_eq_nil_iff.mpr
    intro row stored isPrimary
    cases (remembers.flagged row stored).mp isPrimary
  rw [flaggedView, unflagged]
  rfl

/-- The primary view of a snapshot is the one that is told by the history of the rows. -/
theorem Portrays.primaryView?_eq (portrays : Portrays objects tables) (wellFormed : tables.WellFormed)
    (remembers : tables.Remembers made chosen) :
    (tables.views = [] ∧ chosen.or made.head? = none ∧
      objects.primaryView? snapshotSpace = none) ∨
    ∃ row ∈ tables.views, chosen.or made.head? = some row.name ∧
      objects.primaryView? snapshotSpace = some (viewObjectOf tables.views row.id) := by
  rw [portrays.primaryView?_flagged]
  cases chosen with
  | none =>
      rw [remembers.flaggedView_eq_none, Option.none_or, Option.none_or, ← remembers.names]
      cases views : tables.views with
      | nil => exact .inl ⟨rfl, rfl, rfl⟩
      | cons row rest => exact .inr ⟨row, List.mem_cons_self, rfl, rfl⟩
  | some name =>
      have known := remembers.known name rfl
      rw [← remembers.names] at known
      obtain ⟨row, stored, rfl⟩ := List.mem_map.mp known
      rw [remembers.flaggedView_eq wellFormed stored rfl, Option.some_or, Option.some_or]
      exact .inr ⟨row, stored, rfl, rfl⟩

end Snapshot

/-- An operation that leaves the choice of the primary view as it is: one that is refused, that chooses
no view, or that is to choose the primary one or one that does not exist. -/
def Operation.LeavesPrimary (operation : Operation) (run : List Operation) : Prop :=
  operation.isCarriedOut (databaseAfter run) = false ∨
    match operation with
    | .createView _ _ primary _ => primary = false
    | .setPrimaryView name =>
      (primaryAfter run).map .sound = some name ∨ name ∉ (madeViews run).map .sound
    | _ => True

/-- Once there is a view, only the choice of another one changes which is the primary one. -/
theorem primaryAfter_concat {run : List Operation} {operation : Operation}
    (anyMade : madeViews run ≠ [])
    (leaves : operation.LeavesPrimary run) :
    primaryAfter (run ++ [operation]) = primaryAfter run := by
  rcases views_concat run operation with ⟨carried, made, chosen⟩ | ⟨-, made, chosen⟩
  · have head : (madeViews (run ++ [operation])).head? = (madeViews run).head? := by
      rw [made, List.head?_append_of_ne_nil _ anyMade]
    rw [primaryAfter, primaryAfter, head, chosen]
    rcases leaves with refused | leaves
    · rw [carried] at refused
      cases refused
    · cases operation with
      | createView name members primary missed =>
          cases leaves
          rfl
      | setPrimaryView name =>
          rcases leaves with same | unknown
          · obtain ⟨view, primary, rfl⟩ := Option.map_eq_some_iff.mp same
            exact primary.symm
          · cases name with
            | broken glyphs => rfl
            | sound name =>
                obtain ⟨tables, -, -, remembers⟩ :=
                  Tables.remembers_run (run ++ [.setPrimaryView (.sound name)])
                have known := remembers.known name (by rw [chosen]; rfl)
                rw [made] at known
                exact absurd (List.mem_map_of_mem (by simpa [Operation.creation?] using known)) unknown
      | _ => rfl
  · rw [primaryAfter, primaryAfter, made, chosen]

end Wayfinder.Storage
