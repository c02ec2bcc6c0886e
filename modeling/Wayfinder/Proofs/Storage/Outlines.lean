import Wayfinder.Proofs.Storage.Locations
import Wayfinder.Proofs.Storage.Runs
import Wayfinder.Proofs.Workspace.Likeness

/-!
# Rows of one outline

The outline of the stored rows is what a search depends on: the items with their places, names and display
names, and the views with their names. Disabling a job, listing an item in a view and choosing the primary
view leave the outline, and rows of one outline have snapshots with the same tree.
-/

namespace Wayfinder.Storage

open Workspace

/-- A row with its mark of being disabled taken off. -/
def ItemRow.enabled (row : ItemRow) : ItemRow :=
  { row with disabled := false }

/-- An operation that asks for nothing but to disable or enable a job, to list an item in a view or to
choose the primary view. -/
def Operation.ArrangesOnly : Operation → Prop
  | .updateItem _ changes => changes.displayName = none
  | .addViewMember _ _ => True
  | .setPrimaryView _ => True
  | _ => False

namespace Tables

/-- Rows that differ only in which jobs are disabled, in which view is flagged, and in memberships. -/
structure SameOutline (left right : Tables) : Prop where
  items : left.items.map ItemRow.enabled = right.items.map ItemRow.enabled
  views : left.views.map (fun row => (row.id, row.name)) =
    right.views.map fun row => (row.id, row.name)

variable {tables left right : Tables}

theorem SameOutline.refl (tables : Tables) : SameOutline tables tables :=
  ⟨rfl, rfl⟩

theorem sameOutline_choosePrimary (tables : Tables) (chosen : Int) :
    SameOutline (tables.choosePrimary chosen) tables where
  items := rfl
  views := by
    rw [choosePrimary, List.map_map]
    rfl

namespace WellFormed

variable (wellFormed : tables.WellFormed)

include wellFormed

theorem sameOutline_updateItem {row : ItemRow} (stored : row ∈ tables.items) {changes : ItemChanges}
    (unnamed : changes.displayName = none) :
    SameOutline { tables with items := tables.items.map fun other =>
      if other.id == row.id then changes.apply row else other } tables where
  items := by
    rw [List.map_map]
    apply List.map_congr_left
    intro other there
    rw [Function.comp_apply]
    split
    case isTrue same =>
      cases wellFormed.eq_of_itemId there stored (eq_of_beq same)
      simp [ItemRow.enabled, ItemChanges.apply, unnamed]
    case isFalse => rfl
  views := rfl

/-- An operation that only arranges leaves the outline, whether it is carried out or refused. -/
theorem sameOutline_after {operation : Operation} (arranges : operation.ArrangesOnly) :
    ∃ changed, operation.after ⟨some tables⟩ = ⟨some changed⟩ ∧ SameOutline changed tables := by
  unfold Operation.after
  cases applied : operation.apply ⟨some tables⟩ with
  | error fault => exact ⟨tables, rfl, .refl tables⟩
  | ok database =>
      cases Operation.carries_of_apply applied with
      | @updateItem fullName changes commit updated =>
          have unnamed : changes.displayName = none := Option.map_eq_none_iff.mp arranges
          obtain ⟨row, found, -, after⟩ := Database.updateItem_commit updated
          exact ⟨_, after, wellFormed.sameOutline_updateItem (mem_of_getItem found) unnamed⟩
      | addViewMember added =>
          obtain ⟨view, item, -, -, outcome⟩ := Database.addViewMember_commit added
          rcases outcome with ⟨-, after⟩ | ⟨changed, inserted, after⟩
          · exact ⟨tables, after, .refl tables⟩
          · obtain ⟨items, views⟩ := rows_insertMember inserted
            exact ⟨changed, after, by rw [items], by rw [views]⟩
      | setPrimaryView chosen =>
          obtain ⟨row, -, -, after⟩ := Database.setPrimaryView_commit chosen
          exact ⟨_, after, sameOutline_choosePrimary tables row.id⟩
      | createItem | deleteItem | createView | getItem | getView | load => cases arranges

end WellFormed

end Tables

/-! ## Their snapshots -/

theorem objectOf_enabled (rows : List ItemRow) (id : Int) :
    objectOf (rows.map ItemRow.enabled) id = objectOf rows id := by
  rw [objectOf, List.map_map, objectOf]
  rfl

theorem childrenOf_enabled (rows : List ItemRow) (parent : Option Int) :
    childrenOf (rows.map ItemRow.enabled) parent = childrenOf rows parent := by
  simp only [childrenOf, List.filter_map, List.map_map, objectOf_enabled, Function.comp_def]
  rfl

/-- What an item of a row holds. -/
theorem items_itemFor (rows : List ItemRow) (row : ItemRow) (name : Name) :
    (itemFor rows row name).items =
      if row.kind = .folder then childrenOf rows (some row.id) else [] := by
  cases kind : row.kind <;> simp [itemFor, bodyOf, kind, Item.items]

theorem Portrays.viewNames_eq {objects : Objects} {tables : Tables} (portrays : Portrays objects tables) :
    objects.viewNames = tables.views.map fun row => some row.name := by
  have listed : objects.viewsOf rootSpace =
      tables.views.map fun row => viewObjectOf tables.views row.id := by
    rw [Objects.viewsOf, Objects.space?, portrays.spaces]
    rfl
  rw [Objects.viewNames, listed, List.map_map]
  apply List.map_congr_left
  intro row stored
  obtain ⟨name, text, found⟩ := portrays.view? row stored
  rw [Function.comp_apply, found, Option.map_some]
  exact congrArg some text

/-- Snapshots of rows of one outline have the same tree. -/
theorem Tables.SameOutline.sameTree {left right : Tables} {objects other : Objects}
    (same : SameOutline left right) (portrays : Portrays objects left) (tree : objects.IsTree)
    (portrays' : Portrays other right) : Objects.SameTree objects other := by
  have places (id : Int) : objectOf left.items id = objectOf right.items id := by
    rw [← objectOf_enabled, same.items, objectOf_enabled]
  have children (parent : Option Int) :
      childrenOf left.items parent = childrenOf right.items parent := by
    rw [← childrenOf_enabled, same.items, childrenOf_enabled]
  constructor
  case items =>
    apply tree.sameItems
    case top =>
      rw [Objects.members, Objects.members, Objects.space?, Objects.space?, portrays.spaces,
        portrays'.spaces]
      exact children none
    case matching =>
      intro id item found
      obtain ⟨row, stored, place⟩ := portrays.exists_row (Objects.item?_lt found)
      obtain ⟨name, text, found'⟩ := portrays.item? row stored
      have alike : row.enabled ∈ right.items.map ItemRow.enabled :=
        same.items ▸ List.mem_map_of_mem stored
      obtain ⟨row', stored', equal⟩ := List.mem_map.mp alike
      obtain ⟨name', text', other?⟩ := portrays'.item? row' stored'
      simp only [ItemRow.enabled, ItemRow.mk.injEq, and_true] at equal
      obtain ⟨id', -, kind, named, displayName⟩ := equal
      rw [id', ← places, place] at other?
      rw [place] at found'
      cases Name.text_inj.mp (text'.trans (named.trans text.symm))
      cases found.symm.trans found'
      refine ⟨_, other?, rfl, ?_, ?_⟩
      · simp only [Item.shownName, itemFor, displayName]
      · simp only [Objects.members, found', other?, Option.map_some, items_itemFor, kind, id', children]
  case views =>
    have names := congrArg (List.map fun entry : Int × String => some entry.2) same.views
    rw [List.map_map, List.map_map] at names
    rw [portrays.viewNames_eq, portrays'.viewNames_eq]
    exact names

end Wayfinder.Storage
