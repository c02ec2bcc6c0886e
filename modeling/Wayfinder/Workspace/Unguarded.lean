import Wayfinder.Search.Loops
import Wayfinder.Workspace.Climbing

/-!
# Climbing without a guard

Where an item is, is found out by a loop from parent to parent that ends when something other than an item
is met. Nothing else ends it: on a circle of parents it goes on forever, and so does all that needs the
location of such an item. The answer of such a computation is a part that is there if it ends.
-/

namespace Wayfinder.Workspace.Objects

open Search

/-- One round of a climb: the item that is next, after those that were passed. -/
def climbNext (objects : Objects) : List Item × ItemId → List Item ⊕ List Item × ItemId
  | (passed, id) =>
    match objects.item? id with
    | none => .inl passed
    | some item =>
      match item.parent with
      | some (.folder parent) => .inr (item :: passed, parent)
      | _ => .inl (item :: passed)

/-- The items from the top level down to an item. -/
def lineage? (objects : Objects) (id : ItemId) : Part (List Item) :=
  (PFun.lift objects.climbNext).fix ([], id)

def fullName? (objects : Objects) (id : ItemId) : Part String :=
  (objects.lineage? id).map fun items => Path.ofNames (items.map fun item => item.name.text)

def displayPath? (objects : Objects) (id : ItemId) : Part String :=
  (objects.lineage? id).map fun items => Path.displayOf (items.map Item.shownName)

def address? (objects : Objects) (id : ItemId) : Part String :=
  (objects.lineage? id).map fun items => Path.itemAddress (items.map fun item => item.name.text)

/-- What search knows of an item. -/
def target? (objects : Objects) (id : ItemId) : Part (Target ObjectId) :=
  match objects.item? id with
  | none => .some (objects.target (.item id))
  | some item => do
    let address ← objects.address? id
    let displayPath ← objects.displayPath? id
    return ⟨.item id, item.name.text, address, some item.shownName, some displayPath⟩

/-- A computation about indices. -/
abbrev Indexing := ExceptT IndexFault Part

/-- Declare the aliases of an item. -/
def addAliases? (objects : Objects) (index : SearchIndex ObjectId) (id : ItemId) :
    Indexing (SearchIndex ObjectId) :=
  ExceptT.mk ((objects.target? id).map index.addAliases)

/-- Declare items, and let the search go on to the folders among them. -/
def addMembers? (objects : Objects) (index : SearchIndex ObjectId) (items : List ItemId) :
    Indexing (SearchIndex ObjectId) := do
  let folders := items.filter fun id => (objects.group? id).isSome
  let index ← items.foldlM objects.addAliases? index
  return index.addChildren (folders.map fun id => .container (.item id))

/-- The index of an object. -/
def searchIndex? (objects : Objects) (id : ObjectId) : Indexing (SearchIndex ObjectId) := do
  let index : SearchIndex ObjectId := { owner := some id }
  match id with
  | .item item =>
    let index ← objects.addAliases? index item
    objects.addMembers? index (objects.members (.folder item))
  | .view view =>
    let members := ((objects.view? view).map ListView.members).getD []
    members.foldlM objects.addAliases? index
  | .space space =>
    let index ← objects.addMembers? index (objects.members (.space space))
    let views := ((objects.space? space).map Space.views).getD []
    ExceptT.mk (.some (views.foldlM (fun index view =>
      let target := objects.target (.view view)
      index.addName target.name (some target)) index))

/-- Whether the index of an object is ever made. -/
def IsMade (objects : Objects) (id : ObjectId) : Prop :=
  (objects.searchIndex? id).run.Dom

/-- Search for an item from an object on. -/
def find? (objects : Objects) (id : ObjectId) (query : String) (caseSensitive : Bool) :
    Part (Except IndexFault (Option (SearchItem ObjectId))) :=
  objects.catalog.findFrom? objects.IsMade id query caseSensitive

/-- Collect suggestions from an object on. -/
def suggest? (objects : Objects) (id : ObjectId) (query : String) (limit : Option Int) :
    Part (Except IndexFault (List (SearchItem ObjectId))) :=
  objects.catalog.suggestFrom? objects.IsMade id query limit

end Wayfinder.Workspace.Objects
