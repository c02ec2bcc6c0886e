import Wayfinder.Text.Blank
import Wayfinder.Text.Quoted

/-!
# Names

The name of an item or a view is one segment of a path. It must show something, hold no path
separator, and be neither of the two relative segments. The checks are made in that order, so that a
text with two faults has one verdict.
-/

namespace Wayfinder

/-- Why a text is no name. -/
inductive NameFault where
  | empty
  | separator (text : String)
  | reserved (text : String)
  deriving DecidableEq, Repr

namespace NameFault

/-- The first fault of a text. -/
def of? (text : String) : Option NameFault :=
  if Text.isBlankText text then some .empty
  else if '/' ∈ text.toList then some (.separator text)
  else if text = "." ∨ text = ".." then some (.reserved text)
  else none

/-- The fault as the object model reports it. -/
def message : NameFault → String
  | .empty => "Name cannot be empty"
  | .separator text => "Name cannot contain '/': " ++ Text.quote text
  | .reserved text => Text.quote text ++ " is not an allowed name"

/-- The fault as a request field reports it. -/
def fieldMessage : NameFault → String
  | .empty => "name cannot be empty"
  | .separator _ => "name cannot contain '/'"
  | .reserved text => Text.quote text ++ " is not an allowed name"

end NameFault

/-- A text without a fault. -/
structure Name where
  text : String
  sound : NameFault.of? text = none
  deriving DecidableEq

namespace Name

/-- The name that a text is, or its first fault. -/
def parse (text : String) : Except NameFault Name :=
  match found : NameFault.of? text with
  | some fault => .error fault
  | none => .ok ⟨text, found⟩

theorem parse_eq_ok_iff {text : String} {name : Name} : parse text = .ok name ↔ text = name.text := by
  constructor
  · intro accepted
    unfold parse at accepted
    split at accepted <;> simp_all
    exact accepted ▸ rfl
  · rintro rfl
    unfold parse
    split <;> simp_all [name.sound]

@[simp] theorem parse_text (name : Name) : parse name.text = .ok name :=
  parse_eq_ok_iff.mpr rfl

theorem text_inj {left right : Name} : left.text = right.text ↔ left = right := by
  cases left
  cases right
  simp

theorem text_ne_empty (name : Name) : name.text ≠ "" := by
  intro blank
  have sound := name.sound
  simp [NameFault.of?, Text.isBlankText, blank] at sound

theorem separator_not_mem (name : Name) : '/' ∉ name.text.toList := by
  intro member
  have sound := name.sound
  unfold NameFault.of? at sound
  split at sound <;> simp_all

end Name

end Wayfinder
