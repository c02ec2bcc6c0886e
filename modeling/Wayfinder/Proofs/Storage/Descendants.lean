import Wayfinder.Storage.Descendants

/-!
# Collecting what is below

The collection of an item's descendants ends when a generation has no children that are new. By then
every child of what was collected is collected, so taking all of it out leaves no row without its parent.
Nothing else is collected: the item itself, and what is below it through parents.
-/

namespace Wayfinder.Storage

variable {rows : List ItemRow}

theorem mem_nextGeneration {collected generation : List Int} {id : Int} :
    id ∈ nextGeneration rows collected generation ↔
      id ∉ collected ∧ ∃ row ∈ rows, row.id = id ∧ ∃ parent ∈ generation, row.parentId = some parent := by
  simp only [nextGeneration, List.mem_map, List.mem_filter, Bool.and_eq_true, Option.any_eq_true,
    Bool.not_eq_true', List.contains_eq_mem, decide_eq_false_iff_not, decide_eq_true_eq]
  constructor
  · rintro ⟨row, ⟨stored, ⟨parent, held, above⟩, fresh⟩, rfl⟩
    exact ⟨fresh, row, stored, rfl, parent, above, held⟩
  · rintro ⟨fresh, row, stored, rfl, parent, above, held⟩
    exact ⟨row, ⟨stored, ⟨parent, held, above⟩, fresh⟩, rfl⟩

/-- Whether every row with a parent among the given identifiers is one of them itself. -/
def ClosedBelow (rows : List ItemRow) (ids : List Int) : Prop :=
  ∀ row ∈ rows, ∀ parent ∈ ids, row.parentId = some parent → row.id ∈ ids

/-- While collecting, only children of the last generation may be missing. -/
theorem closedBelow_collectGenerations {collected generation : List Int}
    (pending : ∀ row ∈ rows, ∀ parent ∈ collected, row.parentId = some parent →
      parent ∈ generation ∨ row.id ∈ collected) :
    ClosedBelow rows (collectGenerations rows collected generation) := by
  induction collected, generation using collectGenerations.induct rows with
  | case1 collected generation next ended =>
      rw [collectGenerations, dif_pos ended]
      intro row stored parent above held
      rcases pending row stored parent above held with last | there
      · apply Decidable.byContradiction
        intro fresh
        have child : row.id ∈ nextGeneration rows collected generation :=
          mem_nextGeneration.mpr ⟨fresh, row, stored, rfl, parent, last, held⟩
        exact List.eq_nil_iff_forall_not_mem.mp ended row.id child
      · exact there
  | case2 collected generation next more ih =>
      rw [collectGenerations, dif_neg more]
      apply ih
      intro row stored parent above held
      rcases List.mem_append.mp above with old | new
      · right
        rcases pending row stored parent old held with last | there
        · by_cases known : row.id ∈ collected
          · exact List.mem_append_left _ known
          · exact List.mem_append_right _
              (mem_nextGeneration.mpr ⟨known, row, stored, rfl, parent, last, held⟩)
        · exact List.mem_append_left _ there
      · exact .inl new

theorem closedBelow_descendantIds (root : Int) : ClosedBelow rows (descendantIds rows root) := by
  apply closedBelow_collectGenerations
  intro row _ parent above _
  exact .inl above

theorem subset_collectGenerations (collected generation : List Int) :
    collected ⊆ collectGenerations rows collected generation := by
  fun_induction collectGenerations rows collected generation
  case case1 => exact List.Subset.refl _
  case case2 ih => exact fun _ member => ih (List.mem_append_left _ member)

/-- Whether an item is a given one, or below it through the parents of rows. -/
inductive Descends (rows : List ItemRow) (root : Int) : Int → Prop where
  | root : Descends rows root root
  | child {parent : Int} {row : ItemRow} (above : Descends rows root parent) (stored : row ∈ rows)
      (held : row.parentId = some parent) : Descends rows root row.id

theorem descends_of_mem_collectGenerations {root : Int} {collected generation : List Int}
    (first : ∀ id ∈ collected, Descends rows root id)
    (second : ∀ id ∈ generation, Descends rows root id) :
    ∀ id ∈ collectGenerations rows collected generation, Descends rows root id := by
  induction collected, generation using collectGenerations.induct rows with
  | case1 collected generation next ended =>
      rw [collectGenerations, dif_pos ended]
      exact first
  | case2 collected generation next more ih =>
      have born : ∀ id ∈ nextGeneration rows collected generation, Descends rows root id := by
        intro id member
        obtain ⟨-, row, stored, rfl, parent, above, held⟩ := mem_nextGeneration.mp member
        exact .child (second parent above) stored held
      rw [collectGenerations, dif_neg more]
      apply ih _ born
      intro id member
      rcases List.mem_append.mp member with old | new
      · exact first id old
      · exact born id new

/-- The collected identifiers are those of the item and of what is below it. -/
theorem mem_descendantIds {root id : Int} : id ∈ descendantIds rows root ↔ Descends rows root id := by
  constructor
  · have single : ∀ id ∈ [root], Descends rows root id := fun id member =>
      List.mem_singleton.mp member ▸ .root
    exact descends_of_mem_collectGenerations single single id
  · intro descends
    induction descends with
    | root => exact subset_collectGenerations _ _ List.mem_cons_self
    | child above stored held ih => exact closedBelow_descendantIds root _ stored _ ih held

end Wayfinder.Storage
