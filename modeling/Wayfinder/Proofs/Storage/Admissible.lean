import Wayfinder.Proofs.Storage.WellFormed

/-!
# Rows that the tables admit

The constraints of the tables forbid repetitions, and nothing else: a parent may be missing, be a job,
come later or close a circle, a membership may mention what is not there, and several views may be
flagged. Rows that were stored past all operations are admitted all the same.
-/

namespace Wayfinder.Storage

/-- Rows of which no two share an identifier, no two items of one parent and no two views a name, each
table in the order of its key, and whose names are names. -/
structure Tables.Admissible (tables : Tables) : Prop extends tables.IsSound where
  itemsOrdered : tables.items.Pairwise fun left right => left.id < right.id
  viewsOrdered : tables.views.Pairwise fun left right => left.id < right.id
  membersOrdered : tables.members.Pairwise fun left right => left.before right = true
  siblingsDiffer : tables.items.Pairwise fun left right =>
    left.parentId = right.parentId → left.name ≠ right.name

theorem Tables.WellFormed.admissible {tables : Tables} (wellFormed : tables.WellFormed) :
    tables.Admissible :=
  { wellFormed with }

/-- A row with a key of its own, put in its place, leaves the keys increasing. -/
theorem increasing_insertOrdered {ρ : Type} {key : ρ → Int} {row : ρ} {rows : List ρ}
    (fresh : ∀ other ∈ rows, key other ≠ key row)
    (ordered : rows.Pairwise fun left right => key left < key right) :
    (insertOrdered (fun left right => decide (key left < key right)) row rows).Pairwise
      fun left right => key left < key right := by
  have sorted : (insertOrdered (fun left right => decide (key left < key right)) row rows).Pairwise
      fun left right => decide (key left < key right) = true := by
    apply pairwise_insertOrdered
    · intro first second third
      simp only [decide_eq_true_eq]
      omega
    · intro other stored
      have differ := fresh other stored
      simp only [decide_eq_true_eq]
      omega
    · exact ordered.imp fun smaller => decide_eq_true smaller
  exact sorted.imp fun smaller => of_decide_eq_true smaller

namespace Tables.Admissible

variable {tables changed : Tables} (admissible : tables.Admissible)

include admissible

/-- An item that the tables take leaves them admissible, whatever its parent is. -/
theorem insertItem {row : ItemRow} (guarded : tables.rootNamesUnique = true)
    (named : NameFault.of? row.name = none) (inserted : tables.insertItem row = some changed) :
    changed.Admissible := by
  have isSound := admissible.toIsSound.insertItem named inserted
  unfold Tables.insertItem at inserted
  split at inserted
  case isTrue => cases inserted
  case isFalse free =>
    cases inserted
    have apart : ∀ other ∈ tables.items, other.id ≠ row.id ∧
        (row.parentId = other.parentId → row.name ≠ other.name) := by
      intro other stored
      have fits : ¬tables.itemsClash row other = true := fun clash =>
        free (List.any_eq_true.mpr ⟨other, stored, clash⟩)
      simp only [itemsClash, guarded, Bool.or_true, Bool.and_true, Bool.or_eq_true, beq_iff_eq,
        Bool.and_eq_true, not_or, not_and] at fits
      exact ⟨Ne.symm fits.1, fun sibling same => fits.2 same sibling⟩
    refine { admissible with toIsSound := isSound, itemsOrdered := ?_, siblingsDiffer := ?_ }
    · exact increasing_insertOrdered (fun other stored => (apart other stored).1)
        admissible.itemsOrdered
    · refine ((insertOrdered_perm _ row tables.items).pairwise_iff ?_).mpr ?_
      · exact fun differ same => Ne.symm (differ same.symm)
      · exact List.pairwise_cons.mpr ⟨fun other stored => (apart other stored).2,
          admissible.siblingsDiffer⟩

theorem insertView {row : ViewRow} (named : NameFault.of? row.name = none)
    (inserted : tables.insertView row = some changed) : changed.Admissible := by
  have isSound := admissible.toIsSound.insertView named inserted
  unfold Tables.insertView at inserted
  split at inserted
  case isTrue => cases inserted
  case isFalse free =>
    cases inserted
    refine { admissible with toIsSound := isSound, viewsOrdered := ?_ }
    apply increasing_insertOrdered _ admissible.viewsOrdered
    intro other stored same
    exact free (List.any_eq_true.mpr ⟨other, stored, by simp [same]⟩)

theorem insertMember {row : MemberRow} (inserted : tables.insertMember row = some changed) :
    changed.Admissible := by
  unfold Tables.insertMember at inserted
  split at inserted
  case isTrue => cases inserted
  case isFalse fresh =>
    cases inserted
    refine { admissible with membersOrdered := ?_ }
    apply pairwise_insertOrdered
    · exact fun _ _ _ => MemberRow.before_trans
    · exact fun other stored => MemberRow.before_total fun same => fresh (same ▸ stored)
    · exact admissible.membersOrdered

theorem nodup_members : tables.members.Nodup :=
  admissible.membersOrdered.imp MemberRow.ne_of_before

end Tables.Admissible

end Wayfinder.Storage
