/-!
# White space

Two sets of white-space characters. `isSpace` is the Unicode property `White_Space`, which surrounds
numbers. `isBlank` adds the four information separators, and a text made of nothing else counts as
empty. The zero-width space and the byte order mark belong to neither.
-/

namespace Wayfinder.Text

/-- The Unicode property `White_Space`. -/
def isSpace (c : Char) : Bool :=
  let code := c.toNat
  (9 ≤ code && code ≤ 13) || code == 0x20 || code == 0x85 || code == 0xa0 || code == 0x1680 ||
    (0x2000 ≤ code && code ≤ 0x200a) || code == 0x2028 || code == 0x2029 || code == 0x202f ||
    code == 0x205f || code == 0x3000

/-- White space or one of the four information separators. -/
def isBlank (c : Char) : Bool :=
  isSpace c || (0x1c ≤ c.toNat && c.toNat ≤ 0x1f)

/-- A text without any character but blanks; the empty text is one. -/
def isBlankText (text : String) : Bool :=
  text.toList.all isBlank

/-- What is left of a list when the elements that satisfy `drop` are taken off both ends. -/
def stripWhere {α : Type} (drop : α → Bool) (elements : List α) : List α :=
  ((elements.dropWhile drop).reverse.dropWhile drop).reverse

@[simp] theorem stripWhere_nil {α : Type} (drop : α → Bool) : stripWhere drop [] = [] := rfl

end Wayfinder.Text
