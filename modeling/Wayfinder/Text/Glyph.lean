/-!
# Glyphs

UTF-16 writes a character beyond the first 65,536 as a pair of surrogates. A message may hold one of them
without the other, which is no character. A glyph is a character or such a half, and a text that comes
with a message is either sound, being made of characters, or broken.
-/

namespace Wayfinder.Text

/-- Whether a code is the first half of a surrogate pair. -/
def isLeadSurrogate (code : Nat) : Bool :=
  0xd800 ≤ code && code < 0xdc00

/-- Whether a code is the second half of a surrogate pair. -/
def isTrailSurrogate (code : Nat) : Bool :=
  0xdc00 ≤ code && code < 0xe000

/-- The code that a surrogate pair writes. -/
def ofSurrogates (lead trail : Nat) : Nat :=
  0x10000 + 0x400 * (lead - 0xd800) + (trail - 0xdc00)

/-- A character, or half of a surrogate pair by its code. -/
inductive Glyph where
  | char (value : Char)
  | half (code : Nat)
  deriving DecidableEq, Repr

namespace Glyph

/-- The glyph of a code. -/
def ofCode (code : Nat) : Glyph :=
  if code.isValidChar then .char (Char.ofNat code) else .half code

/-- The character that a glyph is. -/
def char? : Glyph → Option Char
  | .char value => some value
  | .half _ => none

/-- The glyphs of a text. -/
def ofText (text : String) : List Glyph :=
  text.toList.map .char

/-- The text that glyphs make up, if all are characters. -/
def text? (glyphs : List Glyph) : Option String :=
  (glyphs.mapM char?).map String.ofList

@[simp] theorem text?_ofText (text : String) : text? (ofText text) = some text := by
  have whole (chars : List Char) : (chars.map Glyph.char).mapM char? = some chars := by
    induction chars with
    | nil => rfl
    | cons c rest ih => simp [List.mapM_cons, char?, ih]
  simp [text?, ofText, whole]

end Glyph

/-- A text as a message brings it. One is broken if not all its glyphs are characters. -/
inductive Wide where
  | sound (text : String)
  | broken (glyphs : List Glyph) (isBroken : Glyph.text? glyphs = none)
  deriving DecidableEq, Repr

namespace Wide

/-- The text that glyphs make up. -/
def ofGlyphs (glyphs : List Glyph) : Wide :=
  match whole : Glyph.text? glyphs with
  | some text => .sound text
  | none => .broken glyphs whole

/-- What a text is made of. -/
def glyphs : Wide → List Glyph
  | .sound text => Glyph.ofText text
  | .broken glyphs _ => glyphs

/-- The text, if it is sound. -/
def text? : Wide → Option String
  | .sound text => some text
  | .broken _ _ => none

end Wide

end Wayfinder.Text
