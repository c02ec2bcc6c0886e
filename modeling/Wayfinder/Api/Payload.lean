import Wayfinder.Input.Coercion
import Wayfinder.Storage.Rows

/-!
# Request payloads

The records that clients send. A field that was not given is `none`, which for an update is not the
same as a field given as null. Fields that a payload does not have are ignored. Texts may be broken; what
becomes of them is for the database to say.
-/

namespace Wayfinder.Api

open Input
open Storage (ItemKind)
open Text (Wide)

/-- A request to create an item. -/
structure ItemCreate where
  name : Wide
  kind : Option ItemKind := none
  displayName : Option (Option Wide) := none
  parent : Option (Option Wide) := none

/-- A request to change an item. -/
structure ItemUpdate where
  displayName : Option (Option Wide) := none
  disabled : Option (Option Bool) := none

/-- A request to create a view. -/
structure ViewCreate where
  name : Wide
  members : Option (List Wide) := none
  primary : Option Bool := none

/-- A text that is a name. Of a broken text, only a separator in it is found. -/
def readName (value : Json) : Except FieldFault Wide :=
  match readWide value with
  | .error fault => .error fault
  | .ok (.sound text) =>
    match Name.parse text with
    | .ok name => .ok (.sound name.text)
    | .error fault => .error (.refused fault.fieldMessage)
  | .ok (.broken glyphs isBroken) =>
    if .char '/' ∈ glyphs then .error (.refused (NameFault.separator "").fieldMessage)
    else .ok (.broken glyphs isBroken)

/-- A word that writes a kind of items. -/
def readKind (value : Json) : Except FieldFault ItemKind :=
  match value with
  | .text word =>
    match ItemKind.ofWord? word with
    | some kind => .ok kind
    | none => .error .notOption
  | _ => .error .notOption

/-- Check the fields of a record; any other value has the given fault. -/
def checkRecord {α : Type} (otherwise : FieldFault) (check : Json → Checked α) (input : Json) :
    Checked α :=
  match input with
  | .record _ => check input
  | _ => .faulty [⟨[], otherwise, input⟩]

namespace ItemCreate

/-- Check the fields of a request. -/
def ofFields (input : Json) : Checked ItemCreate :=
  (((requiredField "name" (checking readName) input).pair
    (givenField "kind" (checking readKind) input)).pair
    ((givenField "display_name" (checking (readNullable readWide)) input).pair
      (givenField "parent" (checking (readNullable readWide)) input))).map
    fun ((name, kind), (displayName, parent)) => ⟨name, kind, displayName, parent⟩

/-- The kind of the item; a job unless it is given. -/
def kindOrDefault (request : ItemCreate) : ItemKind :=
  request.kind.getD .job

/-- The display name to give the item, if any. -/
def displayNameOrDefault (request : ItemCreate) : Option Wide :=
  request.displayName.getD none

/-- The full name of the folder to create the item in, if any. -/
def parentOrDefault (request : ItemCreate) : Option Wide :=
  request.parent.getD none

end ItemCreate

namespace ItemUpdate

/-- Check the fields of a request. -/
def ofFields (input : Json) : Checked ItemUpdate :=
  ((givenField "display_name" (checking (readNullable readWide)) input).pair
    (givenField "disabled" (checking (readNullable readFlag)) input)).map
    fun (displayName, disabled) => ⟨displayName, disabled⟩

end ItemUpdate

namespace ViewCreate

/-- Check the fields of a request. -/
def ofFields (input : Json) : Checked ViewCreate :=
  ((requiredField "name" (checking readName) input).pair
    ((givenField "members" readTexts input).pair
      (givenField "primary" (checking readFlag) input))).map
    fun (name, (members, primary)) => ⟨name, members, primary⟩

/-- The full names of the items to list; none unless they are given. -/
def membersOrDefault (request : ViewCreate) : List Wide :=
  request.members.getD []

/-- Whether the view is to be shown first; not unless it is given. -/
def primaryOrDefault (request : ViewCreate) : Bool :=
  request.primary.getD false

end ViewCreate

end Wayfinder.Api
