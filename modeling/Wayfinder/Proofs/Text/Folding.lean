import Wayfinder.Text.Fold

/-!
# Folding loses no character

Every character folds to at least one, so only the empty text has an empty folded form.
-/

namespace Wayfinder.Text

theorem foldExpansions_ne_nil : ∀ entry ∈ foldExpansions.toList, entry.2 ≠ [] := by
  decide

theorem foldChar_ne_nil (c : Char) : foldChar c ≠ [] := by
  unfold foldChar
  dsimp only
  split
  case isTrue => simp
  case isFalse =>
    split
    case h_1 entry found =>
      simpa using foldExpansions_ne_nil entry (Array.mem_of_find?_eq_some found).val
    case h_2 =>
      split <;> simp

@[simp] theorem fold_eq_empty_iff {text : String} : fold text = "" ↔ text = "" := by
  have chars : (fold text).toList = [] ↔ text.toList = [] := by
    rw [toList_fold]
    cases text.toList with
    | nil => simp
    | cons c rest => simp [foldChar_ne_nil]
  simpa using chars

end Wayfinder.Text
