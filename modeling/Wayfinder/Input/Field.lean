import Wayfinder.Json.Value
import Wayfinder.Name

/-!
# Field errors

Input is checked field by field, and every fault is reported with the place where it was found. A
checked value is either sound or comes with all its errors, those of earlier fields first.
-/

namespace Wayfinder.Input

/-- One step on the way to a value inside the input. -/
inductive Step where
  | field (name : String)
  | index (position : Nat)
  deriving DecidableEq, Repr

/-- A step as an error report writes it. -/
def Step.toJson : Step → Json
  | .field name => .text name
  | .index position => .whole position

/-- What is wrong with a value. -/
inductive FieldFault where
  | missing
  | notText
  | brokenText
  | notFlag
  | unreadableFlag
  | notWhole
  | unreadableWhole
  | fractional
  | oversized
  | infinite
  | notList
  | notOption
  | notRecord
  | notBody
  | malformedBody
  | tooSmall
  | refused (message : String)
  deriving DecidableEq, Repr

namespace FieldFault

/-- The word that names a fault. -/
def word : FieldFault → String
  | .missing => "missing"
  | .notText => "string_type"
  | .brokenText => "string_unicode"
  | .notFlag => "bool_type"
  | .unreadableFlag => "bool_parsing"
  | .notWhole => "int_type"
  | .unreadableWhole => "int_parsing"
  | .fractional => "int_from_float"
  | .oversized => "int_parsing_size"
  | .infinite => "finite_number"
  | .notList => "list_type"
  | .notOption => "enum"
  | .notRecord => "model_type"
  | .notBody => "model_attributes_type"
  | .malformedBody => "json_invalid"
  | .tooSmall => "greater_than_equal"
  | .refused _ => "value_error"

/-- The message of a fault that has one of its own. -/
def message? : FieldFault → Option String
  | .refused message => some ("Value error, " ++ message)
  | _ => none

end FieldFault

/-- A fault, where it was found, and the value that has it. -/
structure FieldError where
  location : List Step
  fault : FieldFault
  input : Json

namespace FieldError

/-- The same error, seen from one step further out. -/
def within (step : Step) (error : FieldError) : FieldError :=
  { error with location := step :: error.location }

/-- The error as a report lists it. -/
def toJson (error : FieldError) : Json :=
  .record ([("loc", .list (error.location.map Step.toJson)), ("type", .text error.fault.word)] ++
    match error.fault.message? with
    | some message => [("msg", .text message)]
    | none => [])

end FieldError

/-- A value that passed its checks, or the errors of one that did not. -/
inductive Checked (α : Type) where
  | sound (value : α)
  | faulty (errors : List FieldError)

namespace Checked

variable {α β : Type}

/-- The errors of a checked value. -/
def errors : Checked α → List FieldError
  | .sound _ => []
  | .faulty errors => errors

/-- Apply a function to a value that passed. -/
def map (image : α → β) : Checked α → Checked β
  | .sound value => .sound (image value)
  | .faulty errors => .faulty errors

/-- Two checked values together; the errors of both are kept. -/
def pair : Checked α → Checked β → Checked (α × β)
  | .sound left, .sound right => .sound (left, right)
  | left, right => .faulty (left.errors ++ right.errors)

/-- A checked value with its errors seen from one step further out. -/
def within (step : Step) : Checked α → Checked α
  | .sound value => .sound value
  | .faulty errors => .faulty (errors.map (FieldError.within step))

/-- A checked list of checked values, each error at the position of its value. -/
def ofList : Nat → List (Checked α) → Checked (List α)
  | _, [] => .sound []
  | position, value :: rest =>
    ((value.within (.index position)).pair (ofList (position + 1) rest)).map
      fun (value, rest) => value :: rest

/-- A check of one value on its own. -/
def ofExcept (input : Json) : Except FieldFault α → Checked α
  | .ok value => .sound value
  | .error fault => .faulty [⟨[], fault, input⟩]

end Checked

end Wayfinder.Input
