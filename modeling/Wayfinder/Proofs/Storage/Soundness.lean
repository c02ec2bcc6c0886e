import Wayfinder.Proofs.Outcome
import Wayfinder.Storage.Editing

/-!
# What the stored rows keep to

The tables never hold an item or a view whose name is no name, nor two views of one name. Every way of
changing the rows keeps it so, and what a lookup finds is stored.
-/

namespace Wayfinder.Storage

/-- Rows that can be read back: every name is a name, and views differ by it. -/
structure Tables.IsSound (tables : Tables) : Prop where
  itemNames : ∀ row ∈ tables.items, NameFault.of? row.name = none
  viewNames : ∀ row ∈ tables.views, NameFault.of? row.name = none
  viewsDiffer : tables.views.Pairwise fun left right => left.name ≠ right.name

/-- A database whose tables are there and can be read back. -/
def Database.IsSound (database : Database) : Prop :=
  ∃ tables, database.content = some tables ∧ tables.IsSound

theorem insertOrdered_perm {ρ : Type} (before : ρ → ρ → Bool) (row : ρ) (rows : List ρ) :
    (insertOrdered before row rows).Perm (row :: rows) := by
  induction rows with
  | nil => exact .refl _
  | cons head rest ih =>
      unfold insertOrdered
      split
      · exact (ih.cons head).trans (.swap row head rest)
      · exact .refl _

namespace Tables

variable {tables changed : Tables}

theorem isSound_empty : ({} : Tables).IsSound :=
  ⟨by simp, by simp, .nil⟩

theorem IsSound.insertItem {row : ItemRow} (sound : tables.IsSound)
    (named : NameFault.of? row.name = none) (inserted : tables.insertItem row = some changed) :
    changed.IsSound := by
  unfold Tables.insertItem at inserted
  split at inserted
  · cases inserted
  · cases inserted
    refine ⟨?_, sound.viewNames, sound.viewsDiffer⟩
    intro other member
    rcases mem_insertOrdered.mp member with rfl | old
    · exact named
    · exact sound.itemNames other old

theorem IsSound.insertView {row : ViewRow} (sound : tables.IsSound)
    (named : NameFault.of? row.name = none) (inserted : tables.insertView row = some changed) :
    changed.IsSound := by
  unfold Tables.insertView at inserted
  split at inserted
  · cases inserted
  · rename_i free
    cases inserted
    refine ⟨sound.itemNames, ?_, ?_⟩
    · intro other member
      rcases mem_insertOrdered.mp member with rfl | old
      · exact named
      · exact sound.viewNames other old
    · refine ((insertOrdered_perm _ row tables.views).pairwise_iff fun apart => Ne.symm apart).mpr ?_
      refine List.pairwise_cons.mpr ⟨fun other member same => free ?_, sound.viewsDiffer⟩
      exact List.any_eq_true.mpr ⟨other, member, by simp [same]⟩

theorem rows_insertMember {row : MemberRow} (inserted : tables.insertMember row = some changed) :
    changed.items = tables.items ∧ changed.views = tables.views := by
  unfold insertMember at inserted
  split at inserted <;> cases inserted
  exact ⟨rfl, rfl⟩

theorem rows_insertMembers {rows : List MemberRow}
    (inserted : tables.insertMembers rows = some changed) :
    changed.items = tables.items ∧ changed.views = tables.views := by
  unfold insertMembers at inserted
  induction rows generalizing tables with
  | nil =>
      cases inserted
      exact ⟨rfl, rfl⟩
  | cons row rows ih =>
      rw [List.foldlM_cons] at inserted
      obtain ⟨next, first, rest⟩ := Option.bind_eq_some_iff.mp inserted
      obtain ⟨items, views⟩ := rows_insertMember first
      obtain ⟨items', views'⟩ := ih rest
      exact ⟨items'.trans items, views'.trans views⟩

theorem IsSound.choosePrimary (sound : tables.IsSound) (chosen : Int) :
    (tables.choosePrimary chosen).IsSound := by
  refine ⟨sound.itemNames, ?_, ?_⟩
  · intro row member
    obtain ⟨old, held, rfl⟩ := List.mem_map.mp member
    exact sound.viewNames old held
  · exact List.pairwise_map.mpr sound.viewsDiffer

theorem IsSound.eraseItems (sound : tables.IsSound) (ids : List Int) :
    (tables.eraseItems ids).IsSound :=
  ⟨fun row member => sound.itemNames row (List.mem_filter.mp member).1, sound.viewNames,
    sound.viewsDiffer⟩

/-- An item that is found is stored under its name. -/
theorem mem_of_findChild {overlooked : Option String} {parent : Option Int} {name : String}
    {row : ItemRow} (found : tables.findChild overlooked parent name = .ok (some row)) :
    row ∈ tables.items ∧ row.name = name := by
  unfold findChild at found
  split at found
  · cases found
  · split at found
    case h_1 => cases found
    case h_2 only =>
      cases found
      have member : row ∈ [row] := by simp
      rw [← only] at member
      obtain ⟨stored, called⟩ := List.mem_filter.mp member
      rw [Bool.and_eq_true, beq_iff_eq] at called
      exact ⟨stored, called.1⟩
    case h_3 => cases found

theorem mem_of_findPath {overlooked : Option String} {parent : Option Int} {names : List String}
    {row : ItemRow} (found : tables.findPath overlooked parent names = .ok (some row)) :
    row ∈ tables.items := by
  induction names generalizing parent with
  | nil => cases found
  | cons name rest ih =>
      cases rest with
      | nil => exact (mem_of_findChild found).1
      | cons next rest =>
          rw [findPath] at found
          · obtain ⟨child, -, onward⟩ := bind_eq_ok_iff.mp found
            cases child with
            | none => cases onward
            | some folder => exact ih onward
          · simp

theorem mem_of_getItem {fullName : String} {overlooked : Option String} {row : ItemRow}
    (found : tables.getItem fullName overlooked = .ok row) : row ∈ tables.items := by
  obtain ⟨child, path, chosen⟩ := bind_eq_ok_iff.mp found
  cases child with
  | none => cases chosen
  | some child =>
      cases chosen
      exact mem_of_findPath path

end Tables

theorem Database.tables_eq_ok_iff {database : Database} {tables : Tables} :
    database.tables = .ok tables ↔ database.content = some tables := by
  unfold Database.tables
  cases database.content <;> simp

end Wayfinder.Storage
