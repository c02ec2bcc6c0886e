import Wayfinder.Workspace.Fault

/-!
# Workspace objects

The live objects of one or more workspaces: items (jobs and folders), views, and the workspaces
themselves. Objects refer to each other by identity, so that one item can be held by several groups
and listed by several views. Identities are positions: an object is never removed, and a new one goes
to the end.
-/

namespace Wayfinder.Workspace

/-- The identity of an item. -/
structure ItemId where
  index : Nat
  deriving DecidableEq, Repr

/-- The identity of a view. -/
structure ViewId where
  index : Nat
  deriving DecidableEq, Repr

/-- The identity of a workspace. -/
structure SpaceId where
  index : Nat
  deriving DecidableEq, Repr

/-- The identity of an object that holds items. -/
inductive GroupId where
  | folder (item : ItemId)
  | space (space : SpaceId)
  deriving DecidableEq, Repr

/-- The identity of any object. -/
inductive ObjectId where
  | item (id : ItemId)
  | view (id : ViewId)
  | space (id : SpaceId)
  deriving DecidableEq, Repr

/-- The object that a group is. -/
def GroupId.object : GroupId → ObjectId
  | .folder id => .item id
  | .space id => .space id

/-- What kind of item an item is, and what only that kind has. -/
inductive ItemBody where
  | job (disabled : Bool)
  | folder (items : List ItemId)
  deriving DecidableEq, Repr

/-- An item. An unset display name is `none`, never the empty text. `parent` is the group it was last
added to; `id` is the identifier under which it is stored, if it is. -/
structure Item where
  name : Name
  displayName : Option String := none
  id : Option Int := none
  parent : Option GroupId := none
  body : ItemBody
  deriving DecidableEq

/-- A named selection of items. `owner` is the workspace it was last added to. -/
structure ListView where
  name : Name
  owner : Option SpaceId := none
  id : Option Int := none
  members : List ItemId := []
  deriving DecidableEq

/-- A workspace: its top-level items, its views, and the view it shows first if one was chosen. -/
structure Space where
  items : List ItemId := []
  views : List ViewId := []
  primary : Option ViewId := none
  deriving DecidableEq, Repr

/-- A text that is given and not empty. -/
def nonEmpty? (text : Option String) : Option String :=
  text.filter fun text => text != ""

namespace Item

/-- The display name, or the name when there is none. -/
def shownName (item : Item) : String :=
  item.displayName.getD item.name.text

def isFolder (item : Item) : Bool :=
  match item.body with
  | .job _ => false
  | .folder _ => true

/-- Whether an item is a disabled job. -/
def isDisabled (item : Item) : Bool :=
  match item.body with
  | .job disabled => disabled
  | .folder _ => false

/-- The items that an item holds. -/
def items (item : Item) : List ItemId :=
  match item.body with
  | .job _ => []
  | .folder items => items

/-- Set or clear the display name; the empty text clears it. -/
def withDisplayName (item : Item) (value : Option String) : Item :=
  { item with displayName := nonEmpty? value }

/-- Disable or enable a job; a folder is left as it is. -/
def withDisabled (item : Item) (disabled : Bool) : Item :=
  match item.body with
  | .job _ => { item with body := .job disabled }
  | .folder _ => item

/-- Put an item at the end of a folder; a job is left as it is. -/
def withItem (item : Item) (added : ItemId) : Item :=
  match item.body with
  | .job _ => item
  | .folder items => { item with body := .folder (items ++ [added]) }

end Item

namespace ListView

/-- List an item, unless it is listed already. -/
def add (view : ListView) (item : ItemId) : ListView :=
  if item ∈ view.members then view else { view with members := view.members ++ [item] }

/-- Take an item off the list. -/
def remove (view : ListView) (item : ItemId) : ListView :=
  { view with members := view.members.filter fun member => member != item }

end ListView

/-- All objects. -/
structure Objects where
  items : List Item := []
  views : List ListView := []
  spaces : List Space := []
  deriving DecidableEq

namespace Objects

def item? (objects : Objects) (id : ItemId) : Option Item :=
  objects.items[id.index]?

def view? (objects : Objects) (id : ViewId) : Option ListView :=
  objects.views[id.index]?

def space? (objects : Objects) (id : SpaceId) : Option Space :=
  objects.spaces[id.index]?

def itemIds (objects : Objects) : List ItemId :=
  (List.range objects.items.length).map ItemId.mk

def viewIds (objects : Objects) : List ViewId :=
  (List.range objects.views.length).map ViewId.mk

def spaceIds (objects : Objects) : List SpaceId :=
  (List.range objects.spaces.length).map SpaceId.mk

/-- Every object: items, then views, then workspaces. -/
def ids (objects : Objects) : List ObjectId :=
  objects.itemIds.map .item ++ objects.viewIds.map .view ++ objects.spaceIds.map .space

def modifyItem (objects : Objects) (id : ItemId) (change : Item → Item) : Objects :=
  { objects with items := objects.items.modify id.index change }

def modifyView (objects : Objects) (id : ViewId) (change : ListView → ListView) : Objects :=
  { objects with views := objects.views.modify id.index change }

def modifySpace (objects : Objects) (id : SpaceId) (change : Space → Space) : Objects :=
  { objects with spaces := objects.spaces.modify id.index change }

/-- The items that a group holds, in the order in which they were added. -/
def members (objects : Objects) : GroupId → List ItemId
  | .folder id => ((objects.item? id).map Item.items).getD []
  | .space id => ((objects.space? id).map Space.items).getD []

/-- The group that an item is, if it is a folder. -/
def group? (objects : Objects) (id : ItemId) : Option GroupId :=
  match objects.item? id with
  | some item => if item.isFolder then some (.folder id) else none
  | none => none

/-- The item of a given name in a group. -/
def child? (objects : Objects) (group : GroupId) (name : String) : Option ItemId :=
  (objects.members group).find? fun id =>
    match objects.item? id with
    | some item => item.name.text == name
    | none => false

/-- The view of a given name in a workspace. -/
def viewNamed? (objects : Objects) (space : SpaceId) (name : String) : Option ViewId :=
  (((objects.space? space).map Space.views).getD []).find? fun id =>
    match objects.view? id with
    | some view => view.name.text == name
    | none => false

/-- The view that a workspace shows first: the chosen one, or else the first. -/
def primaryView? (objects : Objects) (space : SpaceId) : Option ViewId :=
  (objects.space? space).bind fun space => space.primary <|> space.views.head?

end Objects

end Wayfinder.Workspace
