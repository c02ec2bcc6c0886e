import Mathlib.Data.List.Induction
import Wayfinder.Proofs.Storage.PortrayedViews

/-!
# Rows that have no place

Items are read in one pass in the order of their identifiers, and an item has a place if its folder was
read before it. So a parent that is missing, is a job or comes later leaves an item without a place, and
then everything below it; whatever circles parents close are left out as well. What is left out is
reported row by row, and what is read is the portrait of the other rows.
-/

namespace Wayfinder.Storage

open Workspace

instance (rows : List ItemRow) (parent : Option Int) : Decidable (Houses rows parent) :=
  match parent with
  | none => .isTrue (houses_none rows)
  | some id => decidable_of_iff (∃ folder ∈ rows, folder.id = id ∧ folder.kind = .folder)
      ⟨fun there _ same => Option.some.inj same ▸ there, fun houses => houses id rfl⟩

/-- The rows that are found a place for in one pass: at the top level, or in a folder among those found a
place for before. -/
def placedRows (rows : List ItemRow) : List ItemRow :=
  rows.foldl (fun placed row => if Houses placed row.parentId then placed ++ [row] else placed) []

/-- The rows that are found no place for. -/
def strayRows (rows : List ItemRow) : List ItemRow :=
  rows.filter fun row => row ∉ placedRows rows

/-- The row as it is shown; an empty display name counts as none. -/
def ItemRow.shown (row : ItemRow) : ItemRow :=
  { row with displayName := nonEmpty? row.displayName }

/-- The line that reports an item whose parent was not read. -/
def strayLine (row : ItemRow) : LogLine :=
  ⟨.warning, "Skipping item " ++ toString row.id ++ ": " ++
    ("parent " ++ (row.parentId.map toString).getD "" ++ " is not loaded")⟩

/-- The tables without the items that have no place. -/
def Tables.placed (tables : Tables) : Tables :=
  { tables with items := (placedRows tables.items).map ItemRow.shown }

section Concat

variable {rows : List ItemRow} {row : ItemRow}

theorem placedRows_concat (rows : List ItemRow) (row : ItemRow) : placedRows (rows ++ [row]) =
    if Houses (placedRows rows) row.parentId then placedRows rows ++ [row] else placedRows rows := by
  rw [placedRows, List.foldl_append]
  rfl

theorem placedRows_sublist (rows : List ItemRow) : (placedRows rows).Sublist rows := by
  induction rows using List.reverseRecOn with
  | nil => exact .slnil
  | append_singleton rows row ih =>
      rw [placedRows_concat]
      split
      · exact ih.append (.refl [row])
      · exact ih.trans (List.sublist_append_left rows [row])

theorem strayRows_concat (fresh : row ∉ rows) : strayRows (rows ++ [row]) =
    strayRows rows ++ if Houses (placedRows rows) row.parentId then [] else [row] := by
  have unplaced : row ∉ placedRows rows := fun placed => fresh ((placedRows_sublist rows).subset placed)
  rw [strayRows, List.filter_append, strayRows, placedRows_concat]
  congr 1
  · apply List.filter_congr
    intro other stored
    have differ : other ≠ row := fun same => fresh (same ▸ stored)
    split <;> simp [differ]
  · split <;> simp [unplaced]

/-- A row is found a place for if and only if it is at the top level, or its parent is a folder with a
smaller identifier that is found a place for itself. -/
theorem mem_placedRows_iff (ordered : rows.Pairwise fun left right => left.id < right.id) :
    row ∈ placedRows rows ↔ row ∈ rows ∧ ∀ parent, row.parentId = some parent →
      ∃ folder ∈ placedRows rows, folder.id = parent ∧ folder.kind = .folder ∧ parent < row.id := by
  induction rows using List.reverseRecOn generalizing row with
  | nil => simp [placedRows]
  | append_singleton rows last ih =>
      obtain ⟨ordered, smaller⟩ := pairwise_concat.mp ordered
      have earlier : ∀ folder ∈ placedRows rows, folder.id < last.id := fun folder placed =>
        smaller folder ((placedRows_sublist rows).subset placed)
      rw [placedRows_concat, List.mem_append, List.mem_singleton]
      split
      case isTrue houses =>
        rw [List.mem_append, List.mem_singleton]
        constructor
        · rintro (placed | rfl)
          · obtain ⟨stored, below⟩ := (ih ordered).mp placed
            refine ⟨.inl stored, fun parent held => ?_⟩
            obtain ⟨folder, there, fits⟩ := below parent held
            exact ⟨folder, List.mem_append_left _ there, fits⟩
          · refine ⟨.inr rfl, fun parent held => ?_⟩
            obtain ⟨folder, there, rfl, isFolder⟩ := houses parent held
            exact ⟨folder, List.mem_append_left _ there, rfl, isFolder, earlier folder there⟩
        · rintro ⟨stored | rfl, below⟩
          · refine .inl ((ih ordered).mpr ⟨stored, fun parent held => ?_⟩)
            obtain ⟨folder, there, rfl, isFolder, before⟩ := below parent held
            rcases List.mem_append.mp there with placed | new
            · exact ⟨folder, placed, rfl, isFolder, before⟩
            -- A folder that is read later has a larger identifier.
            · have later := smaller row stored
              rw [List.mem_singleton.mp new] at before
              omega
          · exact .inr rfl
      case isFalse unhoused =>
        constructor
        · intro placed
          obtain ⟨stored, below⟩ := (ih ordered).mp placed
          exact ⟨.inl stored, below⟩
        · rintro ⟨stored | rfl, below⟩
          · exact (ih ordered).mpr ⟨stored, below⟩
          · refine absurd (fun parent held => ?_) unhoused
            obtain ⟨folder, there, same, isFolder, -⟩ := below parent held
            exact ⟨folder, there, same, isFolder⟩

end Concat

theorem houses_map_shown {rows : List ItemRow} {parent : Option Int} :
    Houses (rows.map ItemRow.shown) parent ↔ Houses rows parent := by
  constructor
  · intro houses id held
    obtain ⟨folder, there, same, isFolder⟩ := houses id held
    obtain ⟨row, stored, rfl⟩ := List.mem_map.mp there
    exact ⟨row, stored, same, isFolder⟩
  · intro houses id held
    obtain ⟨folder, stored, same, isFolder⟩ := houses id held
    exact ⟨folder.shown, List.mem_map_of_mem stored, same, isFolder⟩

namespace Loading

variable {loading : Loading} {rows : List ItemRow} {row : ItemRow}

/-- A row is read as it is shown. -/
theorem readItem_shown (loading : Loading) (row : ItemRow) :
    loading.readItem row.shown = loading.readItem row := by
  have item : itemOf row.shown = itemOf row := by
    unfold itemOf
    cases kind : row.kind <;>
      simp [ItemRow.shown, kind, Objects.job, Objects.folder, nonEmpty?_nonEmpty?]
  rw [Loading.readItem, Loading.readItem, item]
  rfl

/-- Without a folder of its identifier, a parent gives no group. -/
theorem ReadsItems.group?_of_unhoused (reads : loading.ReadsItems rows) {parent : Option Int}
    (unhoused : ¬Houses rows parent) : loading.group? parent = none := by
  cases parent with
  | none => exact absurd (houses_none rows) unhoused
  | some id =>
      rw [group?, reads.keys, lookup_map rows ItemRow.id (objectOf rows)]
      split
      case isFalse => rfl
      case isTrue known =>
        obtain ⟨folder, stored, rfl⟩ := List.mem_map.mp known
        have job : ¬folder.kind = .folder := by
          intro isFolder
          refine unhoused fun id same => ⟨folder, stored, Option.some.inj same, isFolder⟩
        rw [Option.bind_some, reads.group?_objectOf stored, if_neg job]

theorem ReadsItems.readItem_of_unhoused (reads : loading.ReadsItems rows)
    (unhoused : ¬Houses rows row.parentId) :
    loading.readItem row = ⟨[strayLine row], .ok loading⟩ := by
  rw [Loading.readItem, reads.group?_of_unhoused unhoused]
  rfl

/-- All items are gone through: those that have a place are read, and the others are reported. -/
theorem readItems_placed (ordered : rows.Pairwise fun left right => left.id < right.id)
    (named : ∀ row ∈ rows, NameFault.of? row.name = none)
    (differ : rows.Pairwise fun left right => left.parentId = right.parentId → left.name ≠ right.name) :
    ∃ loaded : Loading,
      rows.foldlM readItem {} = ⟨(strayRows rows).map strayLine, .ok loaded⟩ ∧
        loaded.ReadsItems ((placedRows rows).map ItemRow.shown) := by
  induction rows using List.reverseRecOn with
  | nil => exact ⟨{}, rfl, readsItems_empty⟩
  | append_singleton rows row ih =>
      obtain ⟨ordered, smaller⟩ := pairwise_concat.mp ordered
      obtain ⟨differ, apart⟩ := pairwise_concat.mp differ
      obtain ⟨loading, read, reads⟩ := ih ordered (fun other stored =>
        named other (List.mem_append_left _ stored)) differ
      have fresh : row ∉ rows := fun stored => Int.lt_irrefl _ (smaller row stored)
      have placed {other : ItemRow} (member : other ∈ placedRows rows) : other ∈ rows :=
        (placedRows_sublist rows).subset member
      rw [List.foldlM_append, read, Traced.bind_eq, Traced.andThen_of_ok rfl, List.foldlM_cons,
        placedRows_concat, strayRows_concat fresh, List.map_append]
      by_cases houses : Houses (placedRows rows) row.parentId
      · have shownNamed : NameFault.of? row.shown.name = none := named row (by simp)
        obtain ⟨after, readRow, readsRow⟩ := reads.readItem shownNamed
          (nonEmpty?_ne_some_empty row.displayName)
          (by
            rintro member
            obtain ⟨_, there, same⟩ := List.mem_map.mp member
            obtain ⟨other, stored, rfl⟩ := List.mem_map.mp there
            exact absurd same (Int.ne_of_lt (smaller other (placed stored))))
          (houses_map_shown.mpr houses)
          (by
            intro _ there sibling
            obtain ⟨other, stored, rfl⟩ := List.mem_map.mp there
            exact apart other (placed stored) sibling)
        rw [readItem_shown] at readRow
        refine ⟨after, ?_, ?_⟩
        · rw [readRow, if_pos houses]
          rfl
        · rw [if_pos houses, List.map_append]
          exact readsRow
      · have skipped : loading.readItem row = _ :=
          reads.readItem_of_unhoused (mt houses_map_shown.mp houses)
        refine ⟨loading, ?_, ?_⟩
        · rw [skipped, if_neg houses]
          rfl
        · rw [if_neg houses]
          exact reads

end Loading

end Wayfinder.Storage
