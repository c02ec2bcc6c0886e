import Wayfinder.Path
import Wayfinder.Storage.Database

/-!
# Finding stored rows

Items are addressed by full names, resolved row by row from the top level; views by their name. A
lookup expects at most one row and fails when more are stored.

A lookup can be told to overlook a name, as happens when the name is taken right after the look.
-/

namespace Wayfinder.Storage

/-- Refuse an operation with a fault of the workspace. -/
def refuse {α : Type} (fault : Workspace.Fault) : Except OperationFault α :=
  .error (.workspace fault)

namespace Tables

/-- The item of a given name below a given parent, of which at most one may be stored. The name
`overlooked` is not found. -/
def findChild (tables : Tables) (overlooked : Option String) (parent : Option Int) (name : String) :
    Except OperationFault (Option ItemRow) :=
  if overlooked = some name then .ok none
  else
    match tables.items.filter fun row => row.name == name && row.parentId == parent with
    | [] => .ok none
    | [row] => .ok (some row)
    | _ => .error (.storage .ambiguous)

/-- The item at the end of a path of names below a given parent. -/
def findPath (tables : Tables) (overlooked : Option String) (parent : Option Int) :
    List String → Except OperationFault (Option ItemRow)
  | [] => .ok none
  | [name] => tables.findChild overlooked parent name
  | name :: rest => do
    match ← tables.findChild overlooked parent name with
    | none => return none
    | some row => tables.findPath overlooked (some row.id) rest

/-- The item of a full name. -/
def getItem (tables : Tables) (fullName : String) (overlooked : Option String) :
    Except OperationFault ItemRow := do
  match ← tables.findPath overlooked none (Path.names fullName) with
  | some row => return row
  | none => refuse (.noItem fullName)

/-- The view of a given name, of which at most one may be stored. -/
def findView (tables : Tables) (name : String) : Except OperationFault (Option ViewRow) :=
  match tables.views.filter fun row => row.name == name with
  | [] => .ok none
  | [row] => .ok (some row)
  | _ => .error (.storage .ambiguous)

/-- The view of a given name, which must be there. -/
def getView (tables : Tables) (name : String) : Except OperationFault ViewRow := do
  match ← tables.findView name with
  | some row => return row
  | none => refuse (.noView name)

/-- The items of several full names, in their order. -/
def getItems (tables : Tables) (fullNames : List String) : Except OperationFault (List ItemRow) :=
  fullNames.mapM fun fullName => tables.getItem fullName none

end Tables

namespace Database

/-- The item of a full name. -/
def getItem (database : Database) (fullName : String) : Except OperationFault ItemRow := do
  (← database.tables).getItem fullName none

/-- The view of a given name. -/
def getView (database : Database) (name : String) : Except OperationFault ViewRow := do
  (← database.tables).getView name

end Database

end Wayfinder.Storage
