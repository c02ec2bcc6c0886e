import Wayfinder.Number.Shortest
import Wayfinder.Text.Quoted

/-!
# JSON values

Whole numbers are exact and of any size; a number written with a point or an exponent is a binary64
number. A text of escapes can hold half of a surrogate pair, which is no character; such a broken text is
kept as its glyphs. A record keeps its fields in the order in which they first appear, each once.
-/

namespace Wayfinder

/-- A JSON value. -/
inductive Json where
  | null
  | flag (value : Bool)
  | whole (value : Int)
  | real (value : Number.Binary64)
  | text (value : String)
  | brokenText (glyphs : List Text.Glyph) (isBroken : Text.Glyph.text? glyphs = none)
  | list (values : List Json)
  | record (fields : List (String × Json))
  deriving Inhabited

namespace Json

/-- The value that is a given text. -/
def ofWide : Text.Wide → Json
  | .sound value => .text value
  | .broken glyphs isBroken => .brokenText glyphs isBroken

/-- Set a field: the last value given for it counts, in the place of the first. -/
def putField (fields : List (String × Json)) (name : String) (value : Json) :
    List (String × Json) :=
  if fields.any fun field => field.1 == name then
    fields.map fun field => if field.1 == name then (name, value) else field
  else fields ++ [(name, value)]

/-- The value of a field, if the value is a record that has it. -/
def field? (value : Json) (name : String) : Option Json :=
  match value with
  | .record fields => fields.lookup name
  | _ => none

/-- Whether a value can be written as JSON: every number is finite and no text is broken. Fields whose
names are `hidden` are left out when it is written, and do not count. -/
def isWritable (hidden : String → Bool) : Json → Bool
  | .real value => value.isFinite
  | .brokenText _ _ => false
  | .list values => allWritable values
  | .record fields => fieldsWritable fields
  | _ => true
where
  /-- Whether all values of a list can be written. -/
  allWritable : List Json → Bool
    | [] => true
    | value :: rest => isWritable hidden value && allWritable rest
  /-- Whether all fields of a record can be written. -/
  fieldsWritable : List (String × Json) → Bool
    | [] => true
    | (name, value) :: rest => (hidden name || isWritable hidden value) && fieldsWritable rest

/-- Whether a value counts as empty: nothing, false, zero, or without content. -/
def isEmpty : Json → Bool
  | .null => true
  | .flag value => !value
  | .whole value => value == 0
  | .real value => value.isZero
  | .text value => value == ""
  | .brokenText glyphs _ => glyphs.isEmpty
  | .list values => values.isEmpty
  | .record fields => fields.isEmpty

/-- A value as messages show it: texts quoted, constants capitalised. -/
def display : Json → String
  | .null => "None"
  | .flag value => if value then "True" else "False"
  | .whole value => toString value
  | .real value => value.render
  | .text value => Text.quote value
  | .brokenText glyphs _ => Text.quoteGlyphs glyphs
  | .list values => "[" ++ ", ".intercalate (displayAll values) ++ "]"
  | .record fields => "\x7b" ++ ", ".intercalate (displayFields fields) ++ "\x7d"
where
  /-- The elements of a list as messages show them. -/
  displayAll : List Json → List String
    | [] => []
    | value :: rest => display value :: displayAll rest
  /-- The fields of a record as messages show them. -/
  displayFields : List (String × Json) → List String
    | [] => []
    | (name, value) :: rest => (Text.quote name ++ ": " ++ display value) :: displayFields rest

end Json

end Wayfinder
