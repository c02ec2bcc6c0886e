import Wayfinder.Storage.Rows

/-!
# Descendants of a row

The items below an item are collected generation by generation. An item collected before is not
collected again, so the collection ends whatever parents the rows mention.
-/

namespace Wayfinder.Storage

/-- The identifiers of the rows whose parent is in `generation` and that are not in `collected`. -/
def nextGeneration (rows : List ItemRow) (collected generation : List Int) : List Int :=
  (rows.filter fun row =>
    (row.parentId.any fun parent => generation.contains parent) && !collected.contains row.id).map
      ItemRow.id

/-- How many rows are not collected yet. -/
def uncollected (rows : List ItemRow) (collected : List Int) : Nat :=
  rows.countP fun row => !collected.contains row.id

theorem uncollected_lt {rows : List ItemRow} {collected generation : List Int}
    (more : nextGeneration rows collected generation ≠ []) :
    uncollected rows (collected ++ nextGeneration rows collected generation) <
      uncollected rows collected := by
  obtain ⟨id, member⟩ := List.exists_mem_of_ne_nil _ more
  obtain ⟨row, chosen, same⟩ := List.mem_map.mp member
  obtain ⟨stored, fresh⟩ := List.mem_filter.mp chosen
  obtain ⟨before, behind, parts⟩ := List.append_of_mem stored
  have unseen : row.id ∉ collected := by simp_all
  have seen : row.id ∈ nextGeneration rows collected generation := same ▸ member
  have shrink (others : List ItemRow) :
      others.countP (fun row =>
          !(collected ++ nextGeneration rows collected generation).contains row.id) ≤
        others.countP (fun row => !collected.contains row.id) := by
    apply List.countP_mono_left
    intro other _ kept
    simp_all
  have first := shrink before
  have second := shrink behind
  have gone : (!(collected ++ nextGeneration rows collected generation).contains row.id) = false := by
    simp [seen]
  have there : (!collected.contains row.id) = true := by simp [unseen]
  unfold uncollected
  generalize collected ++ nextGeneration rows collected generation = all at *
  rw [parts]
  simp only [List.countP_append, List.countP_cons, gone, there, if_true, Bool.false_eq_true, if_false]
  omega

/-- The identifiers collected so far and those of every further generation. -/
def collectGenerations (rows : List ItemRow) (collected generation : List Int) : List Int :=
  let next := nextGeneration rows collected generation
  if _more : next = [] then collected
  else collectGenerations rows (collected ++ next) next
  termination_by uncollected rows collected
  decreasing_by exact uncollected_lt _more

/-- The identifiers of an item and of everything below it, generation by generation. -/
def descendantIds (rows : List ItemRow) (root : Int) : List Int :=
  collectGenerations rows [root] [root]

end Wayfinder.Storage
