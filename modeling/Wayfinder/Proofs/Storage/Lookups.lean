import Wayfinder.Proofs.Storage.WellFormed
import Wayfinder.Storage.Broken

/-!
# Lookups in tables that fit together

No two items of one parent and no two views have one name, so a lookup never meets more than one row: it
gives the first row that fits, or refuses the operation.
-/

namespace Wayfinder.Storage

/-- When no two rows of a list fit, those that do are at most the first one. -/
theorem filter_eq_find? {ρ : Type} {fits : ρ → Bool} {rows : List ρ}
    (apart : rows.Pairwise fun left right => ¬(fits left = true ∧ fits right = true)) :
    rows.filter fits = (rows.find? fits).toList := by
  induction rows with
  | nil => rfl
  | cons head rest ih =>
      obtain ⟨first, apart⟩ := List.pairwise_cons.mp apart
      cases chosen : fits head with
      | false =>
          have other : ¬fits head = true := by simp [chosen]
          rw [List.filter_cons_of_neg other, List.find?_cons_of_neg other, ih apart]
      | true =>
          have others : rest.filter fits = [] := by
            apply List.filter_eq_nil_iff.mpr
            intro other member also
            exact first other member ⟨chosen, also⟩
          rw [List.filter_cons_of_pos chosen, List.find?_cons_of_pos chosen, others]
          rfl

namespace Tables

/-- The item of a given name below a given parent. -/
def child? (tables : Tables) (parent : Option Int) (name : String) : Option ItemRow :=
  tables.items.find? fun row => row.name == name && row.parentId == parent

/-- The item at the end of a path of names below a given parent. -/
def follow? (tables : Tables) (parent : Option Int) : List String → Option ItemRow
  | [] => none
  | [name] => tables.child? parent name
  | name :: rest => (tables.child? parent name).bind fun row => tables.follow? (some row.id) rest

/-- The view of a given name. -/
def viewNamed? (tables : Tables) (name : String) : Option ViewRow :=
  tables.views.find? fun row => row.name == name

variable {tables : Tables}

theorem child?_eq_some {parent : Option Int} {name : String} {row : ItemRow}
    (found : tables.child? parent name = some row) :
    row ∈ tables.items ∧ row.name = name ∧ row.parentId = parent := by
  have fits := List.find?_some found
  simp only [Bool.and_eq_true, beq_iff_eq] at fits
  exact ⟨List.mem_of_find?_eq_some found, fits⟩

theorem mem_of_follow? {parent : Option Int} {names : List String} {row : ItemRow}
    (found : tables.follow? parent names = some row) : row ∈ tables.items := by
  induction names generalizing parent with
  | nil => cases found
  | cons name rest ih =>
      cases rest with
      | nil => exact (child?_eq_some found).1
      | cons next rest =>
          rw [follow?] at found
          · obtain ⟨folder, -, below⟩ := Option.bind_eq_some_iff.mp found
            exact ih below
          · simp

namespace WellFormed

variable (wellFormed : tables.WellFormed)

include wellFormed

theorem child?_eq_some_iff {parent : Option Int} {name : String} {row : ItemRow} :
    tables.child? parent name = some row ↔
      row ∈ tables.items ∧ row.name = name ∧ row.parentId = parent := by
  constructor
  · exact child?_eq_some
  · rintro ⟨stored, named, held⟩
    have found : (tables.child? parent name).isSome := by
      rw [child?, List.find?_isSome]
      exact ⟨row, stored, by simp [named, held]⟩
    obtain ⟨other, found⟩ := Option.isSome_iff_exists.mp found
    obtain ⟨there, sameName, sameParent⟩ := child?_eq_some found
    rw [found, wellFormed.eq_of_place there stored (sameParent.trans held.symm)
      (sameName.trans named.symm)]

theorem viewNamed?_eq_some_iff {name : String} {row : ViewRow} :
    tables.viewNamed? name = some row ↔ row ∈ tables.views ∧ row.name = name := by
  constructor
  · intro found
    exact ⟨List.mem_of_find?_eq_some found, by simpa using List.find?_some found⟩
  · rintro ⟨stored, named⟩
    have found : (tables.viewNamed? name).isSome := by
      rw [viewNamed?, List.find?_isSome]
      exact ⟨row, stored, by simp [named]⟩
    obtain ⟨other, found⟩ := Option.isSome_iff_exists.mp found
    have sameName : other.name = name := by simpa using List.find?_some found
    rw [found, wellFormed.eq_of_viewName (List.mem_of_find?_eq_some found) stored
      (sameName.trans named.symm)]

theorem findChild_eq (overlooked : Option String) (parent : Option Int) (name : String) :
    tables.findChild overlooked parent name =
      .ok (if overlooked = some name then none else tables.child? parent name) := by
  have apart : tables.items.Pairwise fun left right =>
      ¬((left.name == name && left.parentId == parent) = true ∧
        (right.name == name && right.parentId == parent) = true) := by
    apply wellFormed.siblingsDiffer.imp
    intro left right differ both
    simp only [Bool.and_eq_true, beq_iff_eq] at both
    obtain ⟨⟨leftName, leftParent⟩, rightName, rightParent⟩ := both
    exact differ (leftParent.trans rightParent.symm) (leftName.trans rightName.symm)
  unfold findChild
  split
  case isTrue => rfl
  case isFalse =>
    rw [filter_eq_find? apart, child?]
    cases tables.items.find? _ <;> rfl

theorem findWideChild_sound (parent : Option Int) (name : String) :
    tables.findWideChild none parent (.sound name) = .ok (tables.child? parent name) := by
  have seen : ¬(none : Option String) = some name := by simp
  exact (wellFormed.findChild_eq none parent name).trans (by rw [if_neg seen])

theorem findPath_eq (parent : Option Int) (names : List String) :
    tables.findPath none parent names = .ok (tables.follow? parent names) := by
  induction names generalizing parent with
  | nil => rfl
  | cons name rest ih =>
      cases rest with
      | nil => simp [findPath, follow?, wellFormed.findChild_eq]
      | cons next rest =>
          rw [findPath, follow?, wellFormed.findChild_eq]
          · cases found : tables.child? parent name with
            | none => rfl
            | some row => exact ih (some row.id)
          · simp
          · simp

/-- The item of a full name is the one at the end of its names. -/
theorem getItem_eq (fullName : String) : tables.getItem fullName none =
    match tables.follow? none (Path.names fullName) with
    | some row => .ok row
    | none => refuse (.noItem fullName) := by
  rw [getItem, wellFormed.findPath_eq]
  cases tables.follow? none (Path.names fullName) <;> rfl

theorem getItem_eq_ok_iff {fullName : String} {row : ItemRow} :
    tables.getItem fullName none = .ok row ↔
      tables.follow? none (Path.names fullName) = some row := by
  rw [wellFormed.getItem_eq]
  cases tables.follow? none (Path.names fullName) <;> simp [refuse]

theorem findView_eq (name : String) : tables.findView name = .ok (tables.viewNamed? name) := by
  have apart : tables.views.Pairwise fun left right =>
      ¬((left.name == name) = true ∧ (right.name == name) = true) := by
    apply wellFormed.viewsDiffer.imp
    intro left right differ both
    simp only [beq_iff_eq] at both
    exact differ (both.1.trans both.2.symm)
  unfold findView
  rw [filter_eq_find? apart, viewNamed?]
  cases tables.views.find? _ <;> rfl

theorem findWideView_sound (name : String) :
    tables.findWideView (.sound name) = .ok (tables.viewNamed? name) :=
  wellFormed.findView_eq name

theorem getView_eq (name : String) : tables.getView name =
    match tables.viewNamed? name with
    | some row => .ok row
    | none => refuse (.noView name) := by
  rw [getView, wellFormed.findView_eq]
  cases tables.viewNamed? name <;> rfl

theorem getView_eq_ok_iff {name : String} {row : ViewRow} :
    tables.getView name = .ok row ↔ row ∈ tables.views ∧ row.name = name := by
  rw [wellFormed.getView_eq, ← wellFormed.viewNamed?_eq_some_iff]
  cases tables.viewNamed? name <;> simp [refuse]

/-- A new view is found once it is stored with what it lists. -/
theorem getView_insertListing {name : String} {items : List ItemRow} {viewed changed : Tables}
    (named : NameFault.of? name = none)
    (stored : ∀ item ∈ items, item ∈ tables.items)
    (inserted : tables.insertView ⟨tables.nextViewId, name, false⟩ = some viewed)
    (listed : viewed.insertMembers
      ((items.map ItemRow.id).eraseDups.map fun item => ⟨tables.nextViewId, item⟩) = some changed) :
    changed.getView name = .ok ⟨tables.nextViewId, name, false⟩ := by
  obtain ⟨isListed, -, views⟩ := wellFormed.insertListing named stored inserted listed
  exact isListed.getView_eq_ok_iff.mpr ⟨by simp [views], rfl⟩

end WellFormed

end Tables

end Wayfinder.Storage
