import Wayfinder.Text.Glyph
import Wayfinder.Text.Hex
import Wayfinder.Text.Printable

/-!
# Quoted text

Messages show a name between quotes, so that its ends and its invisible characters can be seen. The
quotes are single unless the text has a single quote and no double one. Inside, the quote in use and
the backslash are escaped, and so is every character that is not printable.
-/

namespace Wayfinder.Text

def singleQuote : Char := Char.ofNat 0x27
def doubleQuote : Char := Char.ofNat 0x22
def backslash : Char := Char.ofNat 0x5c

/-- The quote to put around a text. -/
def quoteFor (chars : List Char) : Char :=
  if singleQuote ∈ chars ∧ doubleQuote ∉ chars then doubleQuote else singleQuote

/-- How a character is written between `delimiter`s. -/
def escapeChar (delimiter c : Char) : List Char :=
  if c = delimiter ∨ c = backslash then [backslash, c]
  else if c = '\n' then [backslash, 'n']
  else if c = '\r' then [backslash, 'r']
  else if c = '\t' then [backslash, 't']
  else if isPrintable c then [c]
  else if c.toNat < 0x100 then backslash :: 'x' :: hexDigits 2 c.toNat
  else if c.toNat < 0x10000 then backslash :: 'u' :: hexDigits 4 c.toNat
  else backslash :: 'U' :: hexDigits 8 c.toNat

/-- A text between quotes. -/
def quote (text : String) : String :=
  let delimiter := quoteFor text.toList
  String.ofList (delimiter :: text.toList.flatMap (escapeChar delimiter) ++ [delimiter])

/-- How a glyph is written between `delimiter`s. Half of a surrogate pair is escaped. -/
def escapeGlyph (delimiter : Char) : Glyph → List Char
  | .char c => escapeChar delimiter c
  | .half code => backslash :: 'u' :: hexDigits 4 code

/-- Glyphs between quotes. -/
def quoteGlyphs (glyphs : List Glyph) : String :=
  let delimiter := quoteFor (glyphs.filterMap Glyph.char?)
  String.ofList (delimiter :: glyphs.flatMap (escapeGlyph delimiter) ++ [delimiter])

/-- Why glyphs cannot be encoded: where the first halves of surrogate pairs stand. -/
def encodingFault (glyphs : List Glyph) : String :=
  let position := (glyphs.takeWhile fun glyph => glyph.char?.isSome).length
  let halves := (glyphs.drop position).takeWhile fun glyph => glyph.char?.isNone
  let place := match halves with
    | [.half code] =>
      "character '" ++ String.ofList (backslash :: 'u' :: hexDigits 4 code) ++ "' in position " ++
        toString position
    | _ => "characters in position " ++ toString position ++ "-" ++
        toString (position + halves.length - 1)
  "'utf-8' codec can't encode " ++ place ++ ": surrogates not allowed"

/-- Quoted texts between square brackets, separated by a comma and a space. -/
def quoteList (texts : List String) : String :=
  "[" ++ ", ".intercalate (texts.map quote) ++ "]"

end Wayfinder.Text
