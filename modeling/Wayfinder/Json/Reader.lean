import Wayfinder.Json.Value
import Wayfinder.Text.Encoding

/-!
# Reading JSON

A text is read as one JSON value between white space. Besides the numbers of JSON, the words `NaN`,
`Infinity` and `-Infinity` are numbers. Control characters are not allowed in a text, and of a field
that a record gives twice the last value counts. Half of a surrogate pair may stand in a text, as it is
or as an escape.

A text that is no JSON is refused at a position, counted in glyphs: where a value, a field name, a
colon or a comma was expected, where an escape is wrong, where a text without an end begins, or where
something follows the value. While reading, a position is known by how many glyphs follow it.

Lists and records may be nested in each other up to a fixed depth.
-/

namespace Wayfinder.Json

open Text (Glyph)

/-- Why a text cannot be read: it is no JSON from the given position on, it has a whole number of too many
digits, it is nested too deep, or its bytes are no text. -/
inductive ReadFault where
  | malformed (position : Nat)
  | oversizedNumber
  | nestedTooDeep
  | undecodable
  deriving DecidableEq, Repr

/-- What is left after a part of a text was read. -/
abbrev Shorter (glyphs : List Glyph) := { rest : List Glyph // rest.length < glyphs.length }

/-- The outcome of reading a part of a text. A malformed text is refused with the number of glyphs
from the fault to the end. -/
abbrev Reading (α : Type) (glyphs : List Glyph) := Except ReadFault (α × Shorter glyphs)

/-- What was read from a part of a text, as read from all of it. -/
def Reading.widen {α : Type} {part glyphs : List Glyph} (shorter : part.length ≤ glyphs.length)
    (reading : Reading α part) : Reading α glyphs :=
  reading.map fun (value, rest) => (value, ⟨rest.1, Nat.lt_of_lt_of_le rest.2 shorter⟩)

/-- White space between the parts of a value. -/
def isGap (glyph : Glyph) : Bool :=
  glyph == .char ' ' || glyph == .char '\t' || glyph == .char '\n' || glyph == .char '\r'

/-- A text without the white space at its start. -/
def skipGap (glyphs : List Glyph) : List Glyph :=
  glyphs.dropWhile isGap

theorem skipGap_le (glyphs : List Glyph) : (skipGap glyphs).length ≤ glyphs.length :=
  (List.dropWhile_sublist isGap).length_le

/-- What follows a word at the start of a text. -/
def dropWord? (word glyphs : List Glyph) : Option (List Glyph) :=
  if word.isPrefixOf glyphs then some (glyphs.drop word.length) else none

theorem dropWord?_lt {word glyphs rest : List Glyph} (dropped : dropWord? word glyphs = some rest)
    (nonempty : word ≠ []) : rest.length < glyphs.length := by
  unfold dropWord? at dropped
  split at dropped
  · rename_i found
    obtain ⟨tail, parts⟩ := List.isPrefixOf_iff_prefix.mp found
    have positive := List.length_pos_iff.mpr nonempty
    simp only [Option.some.injEq] at dropped
    subst dropped
    rw [← parts]
    simp only [List.drop_left, List.length_append]
    omega
  · cases dropped

/-- The character that a short escape stands for. -/
def shortEscape? (c : Char) : Option Char :=
  if c = Text.doubleQuote ∨ c = Text.backslash ∨ c = '/' then some c
  else if c = 'b' then some (Char.ofNat 8)
  else if c = 'f' then some (Char.ofNat 12)
  else if c = 'n' then some '\n'
  else if c = 'r' then some '\r'
  else if c = 't' then some '\t'
  else none

/-- The code that four hexadecimal digits at the start of a text write. -/
def hexCode? (glyphs : List Glyph) : Option Nat :=
  ((glyphs.take 4).mapM Glyph.char?).bind Text.ofHexDigits?

/-- What follows the letter of a `u` escape: a code and the number of glyphs it takes, or the number of
glyphs to go back from the end of the escape's four digits to the fault. Two escapes that write a
surrogate pair give one code. -/
def longEscape (glyphs : List Glyph) : Except ReadFault (Nat × Nat) :=
  let here := ReadFault.malformed (glyphs.length + 1)
  if glyphs.length < 5 then .error here
  else
    match hexCode? glyphs with
    | none => .error here
    | some first =>
      let next := glyphs.drop 4
      if Text.isLeadSurrogate first ∧ 6 < next.length ∧
          next.take 2 = [.char Text.backslash, .char 'u'] then
        match hexCode? (next.drop 2) with
        | none => .error (.malformed (next.length - 1))
        | some second =>
          if Text.isTrailSurrogate second then .ok (Text.ofSurrogates first second, 10)
          else .ok (first, 4)
      else .ok (first, 4)

/-- The glyphs of a text value from what follows its opening quote; `opening` is the number of glyphs
from that quote on. -/
def readGlyphs (opening : Nat) (read : List Glyph) (glyphs : List Glyph) :
    Reading (List Glyph) glyphs :=
  match glyphs with
  | [] => .error (.malformed opening)
  | .half code :: rest => (readGlyphs opening (.half code :: read) rest).widen (by simp)
  | .char c :: rest =>
    if c = Text.doubleQuote then .ok (read.reverse, ⟨rest, by simp⟩)
    else if c = Text.backslash then
      match rest with
      | [] => .error (.malformed opening)
      | .half _ :: rest => .error (.malformed (rest.length + 2))
      | .char 'u' :: digits =>
        match longEscape digits with
        | .error fault => .error fault
        | .ok (code, width) =>
          (readGlyphs opening (.ofCode code :: read) (digits.drop width)).widen (by simp; omega)
      | .char letter :: rest =>
        match shortEscape? letter with
        | none => .error (.malformed (rest.length + 2))
        | some meant => (readGlyphs opening (.char meant :: read) rest).widen (by simp; omega)
    else if c.toNat < 0x20 then .error (.malformed (rest.length + 1))
    else (readGlyphs opening (.char c :: read) rest).widen (by simp)
  termination_by glyphs.length
  decreasing_by all_goals simp_wf; try omega

/-- Whether a character is a decimal digit. -/
def isDigit (c : Char) : Bool :=
  '0' ≤ c && c ≤ '9'

/-- The number that decimal digits write. -/
def ofDigits (digits : List Char) : Nat :=
  digits.foldl (fun value c => 10 * value + (c.toNat - 48)) 0

/-- The digits of the whole part of a number: a zero alone, or digits that start with no zero. -/
def wholeDigits : List Char → List Char
  | [] => []
  | c :: rest =>
    if c = '0' then ['0'] else if isDigit c then c :: rest.takeWhile isDigit else []

/-- The digits behind a point, if there is a point with digits behind it. -/
def fractionDigits : List Char → List Char
  | '.' :: rest => rest.takeWhile isDigit
  | _ => []

/-- An exponent and its width, if there is one with digits. -/
def exponentPart? : List Char → Option (Int × Nat)
  | letter :: rest =>
    if letter = 'e' ∨ letter = 'E' then
      let (negative, signWidth) := match rest with
        | '-' :: _ => (true, 1)
        | '+' :: _ => (false, 1)
        | _ => (false, 0)
      let digits := (rest.drop signWidth).takeWhile isDigit
      if digits.isEmpty then none
      else
        let size : Int := ofDigits digits
        some (if negative then -size else size, 1 + signWidth + digits.length)
    else none
  | [] => none

/-- The most digits that a whole number may have. -/
def maxDigits : Nat := 4300

/-- A character that can belong to a number. -/
def isNumberChar (c : Char) : Bool :=
  isDigit c || c == '-' || c == '+' || c == '.' || c == 'e' || c == 'E'

/-- The characters at the start of a text that can belong to a number. -/
def numberChars : List Glyph → List Char
  | .char c :: rest => if isNumberChar c then c :: numberChars rest else []
  | _ => []

/-- The number at the start of some characters with its width, if there is one. -/
def number? (chars : List Char) : Option (Except ReadFault Json × Nat) :=
  let negative := chars.head? == some '-'
  let signWidth := if negative then 1 else 0
  let whole := wholeDigits (chars.drop signWidth)
  if whole.isEmpty then none
  else
    let afterWhole := chars.drop (signWidth + whole.length)
    let fraction := fractionDigits afterWhole
    let pointWidth := if fraction.isEmpty then 0 else fraction.length + 1
    let width := signWidth + whole.length + pointWidth
    match exponentPart? (afterWhole.drop pointWidth) with
    | none =>
      if fraction.isEmpty then
        if maxDigits < whole.length then some (.error .oversizedNumber, width)
        else
          let size : Int := ofDigits whole
          some (.ok (.whole (if negative then -size else size)), width)
      else
        some (.ok (.real (.ofDecimal negative (ofDigits (whole ++ fraction)) (-fraction.length))), width)
    | some (exponent, exponentWidth) =>
      some (.ok (.real (.ofDecimal negative (ofDigits (whole ++ fraction)) (exponent - fraction.length))),
        width + exponentWidth)

theorem number?_pos {chars : List Char} {value : Except ReadFault Json} {width : Nat}
    (read : number? chars = some (value, width)) : 0 < width := by
  simp only [number?] at read
  generalize (if (chars.head? == some '-') = true then 1 else 0) = signWidth at read
  generalize wholeDigits (chars.drop signWidth) = whole at read
  split at read
  · cases read
  · rename_i digits
    have positive : 0 < whole.length := by
      apply List.length_pos_iff.mpr
      intro blank
      simp [blank] at digits
    split at read
    · split at read
      · split at read <;> cases read <;> omega
      · cases read
        omega
    · cases read
      omega

/-- The number at the start of a text that is not empty. -/
def readNumber (first : Glyph) (rest : List Glyph) : Reading Json (first :: rest) :=
  match read : number? (numberChars (first :: rest)) with
  | none => .error (.malformed (rest.length + 1))
  | some (.error fault, _) => .error fault
  | some (.ok value, width) =>
    .ok (value, ⟨(first :: rest).drop width, by
      have := number?_pos read
      simp
      omega⟩)

/-- The words that are values. -/
def constants : List (List Glyph × Json) :=
  [(Glyph.ofText "null", .null), (Glyph.ofText "true", .flag true), (Glyph.ofText "false", .flag false),
    (Glyph.ofText "NaN", .real .notANumber), (Glyph.ofText "Infinity", .real (.infinite false)),
    (Glyph.ofText "-Infinity", .real (.infinite true))]

/-- The word at the start of a text that is a value, with what follows it. -/
def readConstant? (glyphs : List Glyph) : Option (Json × List Glyph) :=
  constants.findSome? fun (word, value) => (dropWord? word glyphs).map fun rest => (value, rest)

theorem readConstant?_lt {glyphs rest : List Glyph} {value : Json}
    (read : readConstant? glyphs = some (value, rest)) : rest.length < glyphs.length := by
  obtain ⟨⟨word, constant⟩, member, found⟩ := List.exists_of_findSome?_eq_some read
  simp only [Option.map_eq_some_iff, Prod.mk.injEq] at found
  obtain ⟨dropped, parts, _, rfl⟩ := found
  refine dropWord?_lt parts ?_
  intro blank
  subst blank
  simp [constants, Glyph.ofText] at member

/-- The fields of a record as they are read. Those with broken names are kept apart; such a field stands
under its name with replacement characters in it, and has the name itself for its value. -/
structure FieldsRead where
  named : List (String × Json) := []
  broken : List (String × Json) := []

namespace FieldsRead

/-- Add a field, in the place of an earlier one of its name. -/
def put (fields : FieldsRead) (name : List Glyph) (value : Json) : FieldsRead :=
  match whole : Glyph.text? name with
  | some name => { fields with named := putField fields.named name value }
  | none =>
    let shown := String.ofList (name.map fun glyph => glyph.char?.getD (Char.ofNat 0xfffd))
    { fields with broken := fields.broken ++ [(shown, .brokenText name whole)] }

/-- The record that has the fields. Those with broken names come last, so that none hides another. -/
def toRecord (fields : FieldsRead) : Json :=
  .record (fields.named ++ fields.broken)

end FieldsRead

mutual

/-- The value at the start of a text; `room` is how deep lists and records may still be nested in it. -/
def readValue (room : Nat) (glyphs : List Glyph) : Reading Json glyphs :=
  match glyphs with
  | [] => .error (.malformed 0)
  | c :: rest =>
    if c = .char Text.doubleQuote then
      match readGlyphs (rest.length + 1) [] rest with
      | .error fault => .error fault
      | .ok (read, left) => .ok (ofWide (.ofGlyphs read), ⟨left.1, by have := left.2; simp; omega⟩)
    else if (c = .char '\x7b' ∨ c = .char '[') ∧ room = 0 then .error .nestedTooDeep
    else if c = .char '\x7b' then
      match skipped : skipGap rest with
      | .char '\x7d' :: left =>
        .ok (.record [], ⟨left, by
          have bound := skipGap_le rest
          rw [skipped] at bound
          simp at bound ⊢
          omega⟩)
      | _ => (readFields (room - 1) {} (skipGap rest)).widen (by have := skipGap_le rest; simp; omega)
    else if c = .char '[' then
      match skipped : skipGap rest with
      | .char ']' :: left =>
        .ok (.list [], ⟨left, by
          have bound := skipGap_le rest
          rw [skipped] at bound
          simp at bound ⊢
          omega⟩)
      | _ => (readElements (room - 1) [] (skipGap rest)).widen (by have := skipGap_le rest; simp; omega)
    else
      match read : readConstant? (c :: rest) with
      | some (value, left) => .ok (value, ⟨left, readConstant?_lt read⟩)
      | none => readNumber c rest
  termination_by (glyphs.length, 0)
  decreasing_by
    all_goals
      have bound := skipGap_le rest
      apply Prod.Lex.left
      simp
      omega

/-- The elements of a list from the next one on, up to the closing bracket; those before it are in `read`,
the last one first. -/
def readElements (room : Nat) (read : List Json) (glyphs : List Glyph) : Reading Json glyphs :=
  match readValue room glyphs with
  | .error fault => .error fault
  | .ok (value, ⟨rest, shorter⟩) =>
    match skipped : skipGap rest with
    | .char ']' :: left =>
      .ok (.list (value :: read).reverse, ⟨left, by
        have bound := skipGap_le rest
        rw [skipped] at bound
        simp at bound
        omega⟩)
    | .char ',' :: left =>
      (readElements room (value :: read) (skipGap left)).widen (by
        have bound := skipGap_le rest
        have more := skipGap_le left
        rw [skipped] at bound
        simp at bound
        omega)
    | left => .error (.malformed left.length)
  termination_by (glyphs.length, 1)
  decreasing_by
    · apply Prod.Lex.right
      decide
    · have bound := skipGap_le rest
      have more := skipGap_le left
      rw [skipped] at bound
      simp at bound
      apply Prod.Lex.left
      omega

/-- The fields of a record from the next one on, up to the closing brace. -/
def readFields (room : Nat) (read : FieldsRead) (glyphs : List Glyph) : Reading Json glyphs :=
  match glyphs with
  | [] => .error (.malformed 0)
  | c :: start =>
    if c = .char Text.doubleQuote then
      match readGlyphs (start.length + 1) [] start with
      | .error fault => .error fault
      | .ok (name, ⟨afterName, nameShorter⟩) =>
        match colon : skipGap afterName with
        | .char ':' :: behind =>
          have nearer : (skipGap behind).length < (c :: start).length := by
            have bound := skipGap_le afterName
            have more := skipGap_le behind
            rw [colon] at bound
            simp at bound ⊢
            omega
          match readValue room (skipGap behind) with
          | .error fault => .error fault
          | .ok (value, ⟨rest, shorter⟩) =>
            match skipped : skipGap rest with
            | .char '\x7d' :: left =>
              .ok ((read.put name value).toRecord, ⟨left, by
                have bound := skipGap_le rest
                rw [skipped] at bound
                simp at bound nearer ⊢
                omega⟩)
            | .char ',' :: left =>
              (readFields room (read.put name value) (skipGap left)).widen (by
                have bound := skipGap_le rest
                have more := skipGap_le left
                rw [skipped] at bound
                simp at bound nearer ⊢
                omega)
            | left => .error (.malformed left.length)
        | behind => .error (.malformed behind.length)
    else .error (.malformed (start.length + 1))
  termination_by (glyphs.length, 1)
  decreasing_by
    · apply Prod.Lex.left
      exact nearer
    · have bound := skipGap_le rest
      have more := skipGap_le left
      rw [skipped] at bound
      simp at bound nearer
      apply Prod.Lex.left
      simp
      omega

end

/-- How deep lists and records may be nested in a text. -/
def maxDepth : Nat := 960

/-- The value that glyphs write. -/
def parseGlyphs (glyphs : List Glyph) : Except ReadFault Json :=
  let refuse (remaining : Nat) : ReadFault := .malformed (glyphs.length - remaining)
  match readValue maxDepth (skipGap glyphs) with
  | .error (.malformed remaining) => .error (refuse remaining)
  | .error fault => .error fault
  | .ok (value, rest) =>
    let behind := skipGap rest.1
    if behind.isEmpty then .ok value else .error (refuse behind.length)

/-- The value that a text writes. -/
def parse (text : String) : Except ReadFault Json :=
  parseGlyphs (Glyph.ofText text)

/-- The value that the bytes of a message write, in the encoding that they show. -/
def parseBytes (bytes : List UInt8) : Except ReadFault Json :=
  match Text.Encoding.decode? (Text.Encoding.detect bytes) bytes with
  | some glyphs => parseGlyphs glyphs
  | none => .error .undecodable

end Wayfinder.Json
