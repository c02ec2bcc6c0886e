import Wayfinder.Storage.Editing

/-!
# Broken texts and the database

The database can neither hold a broken text nor look for one. An operation that is given one is refused:
with the fault that comes up before the text is needed, or else because the text cannot be encoded. So a
full name is looked for name by name, and only the first broken one cannot be encoded.
-/

namespace Wayfinder.Storage

open Text (Glyph Wide)

/-- What the database is handed for a text. -/
def encode : Wide → Except OperationFault String
  | .sound text => .ok text
  | .broken _ _ => .error (.storage .unencodable)

/-- Refuse a text that is no name. -/
def requireWideName (name : Wide) : Except OperationFault Unit :=
  match Workspace.checkWideName name with
  | .ok _ => .ok ()
  | .error fault => refuse fault

/-- The fault of an operation that ends in handing a broken text to the database. -/
def faultBefore {α : Type} (outcome : Except OperationFault α) : OperationFault :=
  match outcome with
  | .error fault => fault
  | .ok _ => .storage .unencodable

/-- The changes that an update may ask for, with a display name that may be broken. -/
structure WideChanges where
  displayName : Option (Option Wide) := none
  disabled : Option (Option Bool) := none
  others : List String := []
  deriving DecidableEq, Repr

namespace WideChanges

/-- The changes, if the display name among them is sound. -/
def sound? (changes : WideChanges) : Option ItemChanges :=
  (changes.displayName.mapM fun (value : Option Wide) => value.mapM Wide.text?).map fun displayName =>
    ⟨displayName, changes.disabled, changes.others⟩

end WideChanges

namespace Tables

/-- The names in front of the first broken one. -/
def soundNames (names : List Wide) : List String :=
  (names.takeWhile fun name => name.text?.isSome).filterMap Wide.text?

/-- Why there is no item of a broken full name. -/
def brokenNameFault (tables : Tables) (overlooked : Option String) (fullName : List Glyph) :
    OperationFault :=
  match soundNames (Path.brokenNames fullName) with
  | [] => .storage .unencodable
  | names =>
    faultBefore do
      if (← tables.findPath overlooked none names).isNone then refuse (.noBrokenItem fullName)

/-- The item of a full name that may be broken. -/
def getWideItem (tables : Tables) (fullName : Wide) (overlooked : Option String) :
    Except OperationFault ItemRow :=
  match fullName with
  | .sound fullName => tables.getItem fullName overlooked
  | .broken fullName _ => .error (tables.brokenNameFault overlooked fullName)

/-- The items of several full names that may be broken, in their order. -/
def getWideItems (tables : Tables) (fullNames : List Wide) : Except OperationFault (List ItemRow) :=
  fullNames.mapM fun fullName => tables.getWideItem fullName none

/-- The identifier of the folder in which to create an item; none for the top level. -/
def wideParentFolder (tables : Tables) (overlooked : Option String) :
    Option Wide → Except OperationFault (Option Int)
  | some (.broken parent _) => .error (tables.brokenNameFault overlooked parent)
  | some (.sound parent) => tables.parentFolder overlooked (some parent)
  | none => .ok none

/-- The item of a name that may be broken, below a given parent. -/
def findWideChild (tables : Tables) (overlooked : Option String) (parent : Option Int) (name : Wide) :
    Except OperationFault (Option ItemRow) := do
  tables.findChild overlooked parent (← encode name)

/-- The view of a name that may be broken. -/
def findWideView (tables : Tables) (name : Wide) : Except OperationFault (Option ViewRow) := do
  tables.findView (← encode name)

/-- The view of a name that may be broken, which must be there. -/
def getWideView (tables : Tables) (name : Wide) : Except OperationFault ViewRow := do
  tables.getView (← encode name)

end Tables

namespace Database

/-- The item of a full name that may be broken. -/
def getWideItem (database : Database) (fullName : Wide) : Except OperationFault ItemRow := do
  (← database.tables).getWideItem fullName none

/-- The view of a name that may be broken. -/
def getWideView (database : Database) (name : Wide) : Except OperationFault ViewRow := do
  (← database.tables).getWideView name

/-- Why an item cannot be created when its name, its display name or its parent is broken. -/
def brokenItemFault (database : Database) (overlooked : Option String) (missed : Bool) (name : Wide)
    (parent : Option Wide) : OperationFault :=
  faultBefore do
    requireWideName name
    let tables ← database.tables
    let parentId ← tables.wideParentFolder overlooked parent
    if missed then return
    if let some row ← tables.findWideChild overlooked parentId name then
      refuse (.duplicateItem row.name)

/-- Create an item, as `createItemOverlooking` does, of texts that may be broken. -/
def createWideItem (database : Database) (overlooked : Option String) (missed : Bool) (name : Wide)
    (kind : ItemKind) (displayName parent : Option Wide) : Except OperationFault (Commit ItemRow) :=
  match name, displayName.mapM Wide.text?, parent.mapM Wide.text? with
  | .sound name, some displayName, some parent =>
    database.createItemOverlooking overlooked missed name kind displayName parent
  | name, _, _ => .error (database.brokenItemFault overlooked missed name parent)

/-- Why an item cannot be given a broken display name. -/
def brokenUpdateFault (database : Database) (fullName : String) (disabled : Option (Option Bool)) :
    OperationFault :=
  faultBefore (database.updateItem fullName ⟨none, disabled, []⟩)

/-- Change an item, with texts that may be broken. -/
def updateWideItem (database : Database) (fullName : Wide) (changes : WideChanges) :
    Except OperationFault (Commit ItemRow) :=
  match fullName, changes.sound? with
  | .sound fullName, some changes => database.updateItem fullName changes
  | .sound fullName, none => .error (database.brokenUpdateFault fullName changes.disabled)
  | fullName, _ => .error (faultBefore (database.getWideItem fullName))

/-- Delete an item of a full name that may be broken together with everything below it. -/
def deleteWideItem (database : Database) : Wide → Except OperationFault (Commit Unit)
  | .sound fullName => database.deleteItem fullName
  | fullName => .error (faultBefore (database.getWideItem fullName))

/-- Why a view cannot be created when its name or the full name of a member is broken. -/
def brokenViewFault (database : Database) (name : Wide) (members : List Wide) (missed : Bool) :
    OperationFault :=
  faultBefore do
    requireWideName name
    let tables ← database.tables
    if !missed then
      if let some row ← tables.findWideView name then refuse (.duplicateView row.name)
    let _items ← tables.getWideItems members

/-- Create a view of texts that may be broken. -/
def createWideView (database : Database) (name : Wide) (members : List Wide) (primary missed : Bool) :
    Except OperationFault (Commit ViewRow) :=
  match name, members.mapM Wide.text? with
  | .sound name, some members => database.createView name members primary missed
  | name, _ => .error (database.brokenViewFault name members missed)

/-- List an item in a view, both of names that may be broken. -/
def addWideMember (database : Database) (name fullName : Wide) : Except OperationFault (Commit Unit) :=
  match name, fullName with
  | .sound name, .sound fullName => database.addViewMember name fullName
  | name, fullName => .error (faultBefore do
    let _view ← database.getWideView name
    database.getWideItem fullName)

/-- Choose the view that is shown first, of a name that may be broken. -/
def setPrimaryWideView (database : Database) : Wide → Except OperationFault (Commit ViewRow)
  | .sound name => database.setPrimaryView name
  | name => .error (faultBefore (database.getWideView name))

end Database

end Wayfinder.Storage
