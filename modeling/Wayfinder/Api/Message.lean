import Wayfinder.Input.Field
import Wayfinder.Text.Percent
import Wayfinder.Workspace.Fault

/-!
# Requests and replies

A request has its path already decoded and its query as pairs, of which the last of a name counts. A
reply has a JSON body or a plain text.
-/

namespace Wayfinder.Api

open Input

/-- What a request carries: nothing, a JSON value, or bytes that are to be read as one. -/
inductive RequestBody where
  | none
  | value (value : Json)
  | bytes (bytes : List UInt8)

/-- The body that has a given text. -/
def RequestBody.ofText (text : String) : RequestBody :=
  .bytes text.toUTF8.toList

/-- A request. -/
structure Request where
  method : String
  path : String
  query : List (String × String) := []
  body : RequestBody := .none

namespace Request

/-- The last value of a query parameter. -/
def parameter? (request : Request) (name : String) : Option String :=
  request.query.reverse.lookup name

/-- A text as a form field writes it: a space as a plus sign, all else percent-encoded. -/
def encodeFormText (text : String) : String :=
  String.ofList (text.toList.flatMap fun c =>
    if c = ' ' then ['+'] else Text.Percent.encodeChar Text.Percent.isUnreserved c)

/-- The query as it follows the path, with its question mark; nothing when it is empty. -/
def queryText (request : Request) : String :=
  let pairs := request.query.map fun (name, value) =>
    encodeFormText name ++ "=" ++ encodeFormText value
  if pairs.isEmpty then "" else "?" ++ "&".intercalate pairs

end Request

/-- A path as an address holds it: the marks that would end a path there are percent-encoded. -/
def addressPath (path : String) : String :=
  Text.Percent.encodeWith (fun c => c != '?' && c != '#') path

/-- The body of a reply. -/
inductive ReplyBody where
  | json (value : Json)
  | text (text : String)

/-- A reply. -/
structure Reply where
  status : Nat
  location : Option String := none
  body : ReplyBody

namespace Reply

/-- A reply with a JSON body. -/
def json (status : Nat) (body : Json) : Reply :=
  { status, body := .json body }

/-- A reply that tells what went wrong. -/
def detail (status : Nat) (message : String) : Reply :=
  .json status (.record [("detail", .text message)])

/-- The reply to a request that failed in a way that nothing provides for. -/
def internalError : Reply :=
  { status := 500, body := .text "Internal Server Error" }

/-- The characters of an address that stand for themselves, besides the unreserved ones. -/
def addressMarks : List Char :=
  ":/%#?=@[]!$&".toList ++ [Text.singleQuote] ++ "()*+,;".toList

/-- A reply that sends the client to another address. -/
def redirect (status : Nat) (address : String) : Reply :=
  { status
    location := some (Text.Percent.encodeWith
      (fun c => Text.Percent.isUnreserved c || addressMarks.contains c) address)
    body := .text "" }

end Reply

/-- The status that reports a fault of a category. -/
def statusOf : Workspace.FaultCategory → Nat
  | .notFound => 404
  | .duplicate => 409
  | .invalidParent => 400
  | .invalidName => 400
  | .unsupported => 400
  | .general => 500

/-- The reply that reports a fault. -/
def Reply.fault (fault : Workspace.Fault) : Reply :=
  .detail (statusOf fault.category) fault.message

/-- Whether a field is left out where a report repeats the input. -/
def isHiddenName (name : String) : Bool :=
  "_sa".toList.isPrefixOf name.toList

/-- The reply that reports field errors. A report repeats the input, so one whose input cannot be
written as JSON fails. -/
def Reply.fieldErrors (errors : List FieldError) : Reply :=
  if errors.all fun error => error.input.isWritable isHiddenName then
    .json 422 (.record [("detail", .list (errors.map FieldError.toJson))])
  else .internalError

end Wayfinder.Api
