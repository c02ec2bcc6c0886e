import Wayfinder.Text.FoldTable

/-!
# Case folding

Texts are compared without regard to case by folding both sides. Folding maps each character on its
own, to one character or to several, and concatenates the results; nothing is normalised.
-/

namespace Wayfinder.Text

/-- Whether a run lists a code point. -/
def FoldRun.covers (run : FoldRun) (code : Nat) : Bool :=
  run.first ≤ code && code ≤ run.last && (code - run.first) % run.step == 0

/-- What one character folds to. -/
def foldChar (c : Char) : List Char :=
  let code := c.toNat
  if code < 0x80 then
    [if 65 ≤ code ∧ code ≤ 90 then Char.ofNat (code + 32) else c]
  else
    match foldExpansions.find? fun entry => entry.1 == code with
    | some entry => entry.2.map Char.ofNat
    | none =>
      match foldRuns.find? fun run => run.covers code with
      | some run => [Char.ofNat ((code : Int) + run.shift).toNat]
      | none => [c]

/-- The folded form of a text. -/
def fold (text : String) : String :=
  String.ofList (text.toList.flatMap foldChar)

theorem toList_fold (text : String) : (fold text).toList = text.toList.flatMap foldChar := by
  simp [fold]

/-- Folding distributes over concatenation. -/
theorem fold_append (left right : String) : fold (left ++ right) = fold left ++ fold right := by
  simp [fold, String.ofList_append]

end Wayfinder.Text
