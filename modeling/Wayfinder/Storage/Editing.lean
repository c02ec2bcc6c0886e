import Wayfinder.LogLine
import Wayfinder.Storage.Descendants
import Wayfinder.Storage.Lookup
import Wayfinder.Workspace.Objects

/-!
# Editing the stored workspace

An operation either is refused, and then the database is as it was, or gives the changed database with
its value and the lines that it logs. Creating something that is there is refused: by the look for the
name, or by the tables when the look has overlooked it.
-/

namespace Wayfinder.Storage

open Workspace (checkName nonEmpty?)

/-- A change that was made: the database after it, a value, and what is logged. -/
structure Commit (α : Type) where
  database : Database
  value : α
  log : List LogLine

/-- The changes that an update may ask for. A field that is absent is left alone. `others` are fields
that an item does not have; they are logged and otherwise ignored. -/
structure ItemChanges where
  displayName : Option (Option String) := none
  disabled : Option (Option Bool) := none
  others : List String := []
  deriving DecidableEq, Repr

namespace ItemChanges

/-- The names of the fields that are present, sorted. -/
def fields (changes : ItemChanges) : List String :=
  let named := (if changes.displayName.isSome then ["display_name"] else []) ++
    (if changes.disabled.isSome then ["disabled"] else []) ++ changes.others
  named.mergeSort fun left right => decide (left ≤ right)

/-- A row with the changes applied. -/
def apply (changes : ItemChanges) (row : ItemRow) : ItemRow :=
  { row with
    displayName := match changes.displayName with
      | some value => nonEmpty? value
      | none => row.displayName
    disabled := (changes.disabled.bind id).getD row.disabled }

end ItemChanges

/-- Refuse a text that is no name. -/
def requireName (text : String) : Except OperationFault Unit :=
  match checkName text with
  | .ok _ => .ok ()
  | .error fault => refuse fault

namespace Tables

/-- Flag one view as primary and no other. -/
def choosePrimary (tables : Tables) (chosen : Int) : Tables :=
  { tables with
    views := tables.views.map fun row => { row with isPrimary := row.id == chosen } }

/-- Take out the items of the given identifiers, and their memberships. -/
def eraseItems (tables : Tables) (ids : List Int) : Tables :=
  { tables with
    items := tables.items.filter fun row => !ids.contains row.id
    members := tables.members.filter fun row => !ids.contains row.itemId }

/-- The identifier of the folder in which to create an item; none for the top level. -/
def parentFolder (tables : Tables) (overlooked : Option String) (parent : Option String) :
    Except OperationFault (Option Int) :=
  match nonEmpty? parent with
  | none => .ok none
  | some parent => do
    let row ← tables.getItem parent overlooked
    match row.kind with
    | .folder => return some row.id
    | .job => refuse (.notFolder parent)

end Tables

namespace Database

/-- Create an item at the top level or in a folder. On the way to the folder no item of the name
`overlooked` is found; when `missed` is set, the look for an item of the new name finds nothing. -/
def createItemOverlooking (database : Database) (overlooked : Option String) (missed : Bool)
    (name : String) (kind : ItemKind) (displayName parent : Option String) :
    Except OperationFault (Commit ItemRow) := do
  requireName name
  let tables ← database.tables
  let parentId ← tables.parentFolder overlooked parent
  let taken ← (if missed then .ok none else tables.findChild overlooked parentId name)
  if taken.isSome then
    refuse (.duplicateItem name)
  else
    let row : ItemRow :=
      ⟨tables.nextItemId, parentId, kind, name, nonEmpty? displayName, false⟩
    match tables.insertItem row with
    | none => refuse (.duplicateItem name)
    | some tables =>
      return ⟨⟨some tables⟩, row,
        [⟨.info, "Created " ++ kind.word ++ " " ++ toString row.id ++ " named " ++
          Text.quote name ++ " under " ++ (nonEmpty? parent).getD "the workspace root"⟩]⟩

/-- Create an item at the top level or in a folder. When `overlook` is set, no lookup finds an item of
the new name. -/
def createItem (database : Database) (name : String) (kind : ItemKind)
    (displayName parent : Option String) (overlook : Bool) :
    Except OperationFault (Commit ItemRow) :=
  let overlooked := if overlook then some name else none
  database.createItemOverlooking overlooked overlook name kind displayName parent

/-- Change the display name of an item, or disable or enable a job. -/
def updateItem (database : Database) (fullName : String) (changes : ItemChanges) :
    Except OperationFault (Commit ItemRow) := do
  let tables ← database.tables
  let row ← tables.getItem fullName none
  if (changes.disabled.bind id).isSome && row.kind == .folder then
    refuse (.folderNotDisabled fullName)
  else
    let changed := changes.apply row
    let items := tables.items.map fun other => if other.id == row.id then changed else other
    return ⟨⟨some { tables with items }⟩, changed,
      [⟨.info, "Updated item " ++ toString row.id ++ ": " ++ Text.quoteList changes.fields⟩]⟩

/-- Delete an item together with everything below it. -/
def deleteItem (database : Database) (fullName : String) :
    Except OperationFault (Commit Unit) := do
  let tables ← database.tables
  let row ← tables.getItem fullName none
  let ids := descendantIds tables.items row.id
  return ⟨⟨some (tables.eraseItems ids)⟩, (),
    [⟨.info, "Deleted item " ++ toString row.id ++ " and " ++ toString (ids.length - 1) ++
      " descendant(s)"⟩]⟩

/-- Choose the view that is shown first. -/
def setPrimaryView (database : Database) (name : String) :
    Except OperationFault (Commit ViewRow) := do
  let tables ← database.tables
  let row ← tables.getView name
  return ⟨⟨some (tables.choosePrimary row.id)⟩, { row with isPrimary := true },
    [⟨.info, "Primary view is now " ++ Text.quote name⟩]⟩

/-- Create a view that lists the given items. When `overlook` is set, the look for a view of the new
name finds nothing. -/
def createView (database : Database) (name : String) (members : List String) (primary : Bool)
    (overlook : Bool) : Except OperationFault (Commit ViewRow) := do
  requireName name
  let tables ← database.tables
  if !overlook && (← tables.findView name).isSome then
    refuse (.duplicateView name)
  else
    let items ← tables.getItems members
    let row : ViewRow := ⟨tables.nextViewId, name, false⟩
    let listed := (items.map ItemRow.id).eraseDups
    let stored := (tables.insertView row).bind fun tables =>
      tables.insertMembers (listed.map fun item => ⟨row.id, item⟩)
    match stored with
    | none => refuse (.duplicateView name)
    | some tables =>
      let created : LogLine :=
        ⟨.info, "Created view " ++ toString row.id ++ " named " ++ Text.quote name ++ " with " ++
          toString listed.length ++ " member(s)"⟩
      if primary then
        let chosen ← setPrimaryView ⟨some tables⟩ name
        return { chosen with log := created :: chosen.log }
      else
        return ⟨⟨some tables⟩, row, [created]⟩

/-- List an item in a view; listing it again changes nothing. -/
def addViewMember (database : Database) (name fullName : String) :
    Except OperationFault (Commit Unit) := do
  let tables ← database.tables
  let view ← tables.getView name
  let item ← tables.getItem fullName none
  let row : MemberRow := ⟨view.id, item.id⟩
  if row ∈ tables.members then return ⟨database, (), []⟩
  else return ⟨← ofInsert (tables.insertMember row), (), []⟩

end Database

end Wayfinder.Storage
