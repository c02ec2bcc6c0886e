import Wayfinder.Input.Field
import Wayfinder.Text.Blank
import Wayfinder.Json.Reader

/-!
# Reading field values

Values are read leniently where nothing is lost. A text must be a text, and may be broken where it is not
read for what it says. A flag may be a number or one of a few words; a whole number may be a flag, a
number without a fraction, or a text that writes one. Everything else is a fault, and which one depends
on how far the reading got.
-/

namespace Wayfinder.Input

/-- The first number above those of signed words of 64 bits. -/
def wordBound : Int := 0x8000000000000000

/-- Whether a number has a signed representation of 64 bits. -/
def fitsWord (value : Int) : Bool :=
  -wordBound ≤ value && value < wordBound

/-- The text that a value is, which may be broken. -/
def readWide : Json → Except FieldFault Text.Wide
  | .text value => .ok (.sound value)
  | .brokenText glyphs isBroken => .ok (.broken glyphs isBroken)
  | _ => .error .notText

/-- The sound text that a value is. -/
def readText : Json → Except FieldFault String
  | .text value => .ok value
  | .brokenText _ _ => .error .brokenText
  | _ => .error .notText

/-- The whole number that a binary64 number is. It must lie strictly within 64 bits. -/
def readReal (value : Number.Binary64) : Except FieldFault Int :=
  if value.isFinite then
    match value.toInt? with
    | some whole =>
      if -wordBound < whole ∧ whole < wordBound then .ok whole else .error .oversized
    | none => .error .fractional
  else .error .infinite

/-- The flag that a number is. -/
def flagOfNumber (value : Int) : Except FieldFault Bool :=
  if value = 0 then .ok false else if value = 1 then .ok true else .error .unreadableFlag

/-- The words for no, in lower case. -/
def noWords : List String := ["0", "off", "f", "false", "n", "no"]

/-- The words for yes, in lower case. -/
def yesWords : List String := ["1", "on", "t", "true", "y", "yes"]

/-- The flag that a word writes; the case of ASCII letters does not count. -/
def flagOfWord (word : String) : Except FieldFault Bool :=
  let lower := String.ofList (word.toList.map Char.toLower)
  if noWords.contains lower then .ok false
  else if yesWords.contains lower then .ok true
  else .error .unreadableFlag

/-- The flag that a value is. -/
def readFlag : Json → Except FieldFault Bool
  | .flag value => .ok value
  | .whole value => if fitsWord value then flagOfNumber value else .error .notFlag
  | .real value =>
    match readReal value with
    | .ok whole => flagOfNumber whole
    | .error _ => .error .notFlag
  | .text value => flagOfWord value
  | .brokenText _ _ => .error .brokenText
  | _ => .error .notFlag

/-- What is left of digits without the zeros they start with. Underscores among those zeros do not count.
Of nothing but zeros the last is kept, and a zero is kept in front of a point. -/
def dropZeros? : List Char → Option (List Char)
  | [] => none
  | '0' :: rest => some (go '0' rest)
  | c :: rest => if '1' ≤ c ∧ c ≤ '9' then some (c :: rest) else none
where
  /-- What is left after a zero or an underscore. -/
  go (last : Char) : List Char → List Char
    | [] => [last]
    | c :: rest =>
      if c = '0' ∨ c = '_' then go c rest
      else if c = '.' then last :: c :: rest
      else c :: rest

/-- A text without a point and the zeros behind it, if nothing but zeros is behind its first point. -/
def dropPoint (chars : List Char) : List Char :=
  let behind := (chars.dropWhile (· != '.')).drop 1
  if !behind.isEmpty && behind.all (· == '0') then chars.takeWhile (· != '.') else chars

/-- Whether two underscores stand side by side. -/
def hasDoubleUnderscore : List Char → Bool
  | '_' :: '_' :: _ => true
  | _ :: rest => hasDoubleUnderscore rest
  | [] => false

/-- A text without its underscores, if none of them is at an end or beside another. -/
def dropUnderscores (chars : List Char) : List Char :=
  if chars.head? == some '_' || chars.getLast? == some '_' || hasDoubleUnderscore chars then chars
  else chars.filter (· != '_')

/-- A text without the minus sign that it starts with. -/
def dropMinus : List Char → List Char
  | '-' :: rest => rest
  | chars => chars

/-- The whole number that digits without superfluous zeros write, behind a minus sign or not. -/
def plainWhole? (chars : List Char) : Option Int :=
  let digits := dropMinus chars
  if digits.isEmpty || Json.wholeDigits digits ≠ digits || Json.maxDigits < digits.length then none
  else
    let size : Int := Json.ofDigits digits
    some (if chars.head? == some '-' then -size else size)

/-- A text without what a whole number may be written with besides a minus sign and digits: white space
around it, a plus sign, zeros in front, a point with zeros behind it, and single underscores between
digits. Where zeros are in front, a minus sign may follow them. -/
def tidyWhole? (chars : List Char) : Option (List Char) :=
  let trimmed := Text.stripWhere Text.isSpace chars
  let negative := trimmed.head? == some '-'
  let unsigned := if negative || trimmed.head? == some '+' then trimmed.drop 1 else trimmed
  (dropZeros? unsigned).map fun digits =>
    let plain := dropUnderscores (dropPoint digits)
    if negative then '-' :: plain else plain

/-- The whole number that a text writes. A text that starts with too many digits is refused for their
number, whatever follows them. -/
def wholeOfText (text : String) : Except FieldFault Int :=
  if Json.maxDigits < (Json.wholeDigits (dropMinus text.toList)).length then .error .oversized
  else
    match (tidyWhole? text.toList).bind plainWhole? with
    | some value => .ok value
    | none => .error .unreadableWhole

/-- The whole number that a value is. -/
def readWhole : Json → Except FieldFault Int
  | .whole value => .ok value
  | .flag value => .ok (if value then 1 else 0)
  | .real value => readReal value
  | .text value => wholeOfText value
  | .brokenText _ _ => .error .brokenText
  | _ => .error .notWhole

/-- The texts that a value lists. -/
def readTexts (value : Json) : Checked (List Text.Wide) :=
  match value with
  | .list values => Checked.ofList 0 (values.map fun value => .ofExcept value (readWide value))
  | _ => .faulty [⟨[], .notList, value⟩]

/-- A value that may be absent by being null. -/
def readNullable {α : Type} (read : Json → Except FieldFault α) :
    Json → Except FieldFault (Option α)
  | .null => .ok none
  | value => (read value).map some

/-- The value of a field, which must be given. -/
def requiredField {α : Type} (name : String) (read : Json → Checked α) (input : Json) :
    Checked α :=
  match input.field? name with
  | some value => (read value).within (.field name)
  | none => .faulty [⟨[.field name], .missing, input⟩]

/-- The value of a field, if it is given. -/
def givenField {α : Type} (name : String) (read : Json → Checked α) (input : Json) :
    Checked (Option α) :=
  match input.field? name with
  | some value => ((read value).within (.field name)).map some
  | none => .sound none

/-- A check of single values as a check of fields. -/
def checking {α : Type} (read : Json → Except FieldFault α) (value : Json) : Checked α :=
  .ofExcept value (read value)

end Wayfinder.Input
