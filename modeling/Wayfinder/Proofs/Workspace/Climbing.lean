import Mathlib.Logic.Relation
import Wayfinder.Proofs.Ending
import Wayfinder.Proofs.Workspace.Placement
import Wayfinder.Workspace.Unguarded

/-!
# When a climb ends

A climb from parent to parent ends unless it comes to an item that is above itself. When it ends, the
location that it finds is the one that a guarded climb finds.
-/

namespace Wayfinder.Workspace.Objects

open Relation (ReflTransGen TransGen)

/-- Whether an item was last added to another one. -/
def Above (objects : Objects) (id parent : ItemId) : Prop :=
  objects.above? id = some parent

/-- A climb from an item that ends. -/
inductive Ends (objects : Objects) : ItemId → Prop where
  | top {id : ItemId} (top : objects.above? id = none) : Ends objects id
  | up {id parent : ItemId} (above : objects.Above id parent) (ends : Ends objects parent) :
      Ends objects id

variable {objects : Objects} {id : ItemId}

theorem above?_eq_some_iff {parent : ItemId} : objects.above? id = some parent ↔
    ∃ item, objects.item? id = some item ∧ item.parent = some (.folder parent) := by
  unfold above?
  cases objects.item? id with
  | none => simp
  | some item =>
      obtain ⟨name, displayName, key, group, body⟩ := item
      cases group with
      | none => simp
      | some group => cases group <;> simp

namespace Ends

/-- What is above an item that a climb comes to is come to as well. -/
theorem of_above (ends : objects.Ends id) {parent : ItemId} (above : objects.Above id parent) :
    objects.Ends parent := by
  cases ends with
  | top top =>
      rw [Above, top] at above
      cases above
  | up above' ends =>
      cases Option.some.inj (above.symm.trans above')
      exact ends

theorem of_reaches (ends : objects.Ends id) {other : ItemId}
    (reaches : ReflTransGen objects.Above id other) : objects.Ends other := by
  induction reaches with
  | refl => exact ends
  | tail _ above ih => exact ih.of_above above

/-- A climb that ends does not come back to where it began. -/
theorem not_circle (ends : objects.Ends id) : ¬TransGen objects.Above id id := by
  induction ends with
  | top top =>
      intro circle
      obtain ⟨parent, above, -⟩ := TransGen.head'_iff.mp circle
      rw [Above, top] at above
      cases above
  | up above _ ih =>
      intro circle
      obtain ⟨parent, above', rest⟩ := TransGen.head'_iff.mp circle
      cases Option.some.inj (above.symm.trans above')
      exact ih (TransGen.tail' rest above)

end Ends

/-- A climb through untried items that comes to an end is one that ends. -/
theorem ends_of_endsThrough {untried : List ItemId} (ends : objects.endsThrough untried id = true) :
    objects.Ends id := by
  fun_induction objects.endsThrough untried id with
  | case1 untried id top => exact .top top
  | case2 untried id parent above member ih => exact .up above (ih ends)
  | case3 => cases ends

/-- Without a circle on the way, a climb through untried items comes to an end. -/
theorem endsThrough_of_not_circle {untried : List ItemId}
    (all : ∀ other, ReflTransGen objects.Above id other → (objects.above? other).isSome →
      other ∈ untried)
    (none : ∀ other, ReflTransGen objects.Above id other → ¬TransGen objects.Above other other) :
    objects.endsThrough untried id = true := by
  fun_induction objects.endsThrough untried id with
  | case1 => rfl
  | case2 untried id parent above member ih =>
      apply ih
      -- An item met again further up would be above itself, so the one crossed off is not missed.
      · intro other reaches more
        refine (List.mem_erase_of_ne ?_).mpr (all other (.head above reaches) more)
        rintro rfl
        exact none other .refl (TransGen.head' above reaches)
      · exact fun other reaches => none other (.head above reaches)
  | case3 untried id parent above missing =>
      exact absurd (all id .refl (by rw [above]; rfl)) missing

theorem mem_itemIds_of_above (above : (objects.above? id).isSome) : id ∈ objects.itemIds := by
  obtain ⟨parent, above⟩ := Option.isSome_iff_exists.mp above
  obtain ⟨item, found, -⟩ := above?_eq_some_iff.mp above
  exact mem_itemIds.mpr (item?_lt found)

/-- A climb ends if and only if it comes to no item that is above itself. -/
theorem ends_iff_not_circle : objects.Ends id ↔
    ∀ other, ReflTransGen objects.Above id other → ¬TransGen objects.Above other other := by
  constructor
  · exact fun ends other reaches => (ends.of_reaches reaches).not_circle
  · intro none
    exact ends_of_endsThrough
      (endsThrough_of_not_circle (fun other _ more => mem_itemIds_of_above more) none)

theorem climbEnds_iff : objects.climbEnds id = true ↔ objects.Ends id := by
  constructor
  · exact ends_of_endsThrough
  · intro ends
    exact endsThrough_of_not_circle (fun other _ more => mem_itemIds_of_above more)
      (ends_iff_not_circle.mp ends)

instance (objects : Objects) (id : ItemId) : Decidable (objects.Ends id) :=
  decidable_of_iff _ climbEnds_iff

/-- All climbs end if and only if no item is above itself. -/
theorem forall_ends_iff : (∀ id, objects.Ends id) ↔ ¬∃ id, TransGen objects.Above id id := by
  constructor
  · rintro ends ⟨id, circle⟩
    exact (ends id).not_circle circle
  · intro none id
    exact ends_iff_not_circle.mpr fun other _ circle => none ⟨other, circle⟩

section Loop

variable {passed : List Item} {item : Item}

theorem climbNext_of_missing (missing : objects.item? id = none) :
    objects.climbNext (passed, id) = .inl passed := by
  rw [climbNext, missing]

theorem climbNext_of_top (found : objects.item? id = some item)
    (top : ∀ parent, item.parent ≠ some (.folder parent)) :
    objects.climbNext (passed, id) = .inl (item :: passed) := by
  simp only [climbNext, found]

theorem climbNext_of_below {parent : ItemId} (found : objects.item? id = some item)
    (below : item.parent = some (.folder parent)) :
    objects.climbNext (passed, id) = .inr (item :: passed, parent) := by
  simp only [climbNext, found, below]

end Loop

/-- If the loop has an answer, the climb ends. -/
theorem ends_of_mem_fix {state : List Item × ItemId} {items : List Item}
    (climbed : items ∈ (PFun.lift objects.climbNext).fix state) : objects.Ends state.2 := by
  refine PFun.fixInduction' (C := fun state => objects.Ends state.2) climbed ?last ?next
  case last =>
    rintro ⟨passed, id⟩ done
    cases above : objects.above? id with
    | none => exact .top above
    | some parent =>
        obtain ⟨item, found, below⟩ := above?_eq_some_iff.mp above
        have onward := Part.mem_some_iff.mp done
        rw [climbNext_of_below found below] at onward
        cases onward
  case next =>
    rintro ⟨passed, id⟩ next - step ends
    cases above : objects.above? id with
    | none => exact .top above
    | some parent =>
        obtain ⟨item, found, below⟩ := above?_eq_some_iff.mp above
        have onward := Part.mem_some_iff.mp step
        rw [climbNext_of_below found below] at onward
        cases onward
        exact .up above ends

/-- If the climb ends, the loop passes the items that a guarded climb passes. -/
theorem Ends.fix_climbNext (ends : objects.Ends id) (passed : List Item) (untried : List ItemId)
    (all : ∀ other, ReflTransGen objects.Above id other → (objects.item? other).isSome →
      other ∈ untried) :
    ((objects.climb untried id).reverse ++ passed) ∈ (PFun.lift objects.climbNext).fix (passed, id) := by
  induction ends generalizing passed untried with
  | @top id top =>
      apply PFun.fix_stop
      apply Part.mem_some_iff.mpr
      cases found : objects.item? id with
      | none =>
          have nothing : objects.climb untried id = [] := by
            rw [climb]
            split <;> simp [found]
          rw [climbNext_of_missing found, nothing]
          rfl
      | some item =>
          have last : ∀ parent, item.parent ≠ some (.folder parent) := by
            intro parent below
            rw [above?_eq_some_iff.mpr ⟨item, found, below⟩] at top
            cases top
          have member := all id .refl (by rw [found]; rfl)
          have climbed : objects.climb untried id = [item] := by
            rw [climb, dif_pos member, found]
            simp only
          rw [climbNext_of_top found last, climbed]
          rfl
  | @up id parent above ends ih =>
      obtain ⟨item, found, below⟩ := above?_eq_some_iff.mp above
      have member := all id .refl (by rw [found]; rfl)
      have onward := ih (item :: passed) (untried.erase id) (by
        intro other reaches there
        refine (List.mem_erase_of_ne ?_).mpr (all other (.head above reaches) there)
        rintro rfl
        exact (Ends.up above ends).not_circle (TransGen.head' above reaches))
      rw [PFun.fix_fwd_eq (Part.mem_some_iff.mpr (climbNext_of_below found below).symm)]
      rw [climb, dif_pos member, found]
      simp only [below, List.reverse_cons, List.append_assoc]
      exact onward

/-- The loop finds the location of an item if its climb ends, and never ends otherwise. -/
theorem lineage?_eq (objects : Objects) (id : ItemId) :
    objects.lineage? id = provided (objects.Ends id) (objects.lineage id) := by
  by_cases ends : objects.Ends id
  · have climbed := ends.fix_climbNext [] objects.itemIds fun other _ there => by
      obtain ⟨item, found⟩ := Option.isSome_iff_exists.mp there
      exact mem_itemIds.mpr (item?_lt found)
    rw [List.append_nil] at climbed
    exact (Part.eq_some_iff.mpr climbed).trans (provided_of ends _).symm
  · rw [provided_of_not ends]
    exact Part.eq_none_iff.mpr fun items climbed => ends (ends_of_mem_fix climbed)

end Wayfinder.Workspace.Objects
