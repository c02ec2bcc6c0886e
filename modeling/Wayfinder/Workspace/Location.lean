import Wayfinder.Workspace.Objects

/-!
# Where an item is

An item's location is the chain of items from the top level down to it, found by climbing from parent
to parent until something other than an item is met. Since a group can be added to one of its own
members, the climb also ends when it comes back to an item that it has passed.
-/

namespace Wayfinder.Workspace.Objects

/-- The items passed when climbing from an item through those of `untried`, the item first. -/
def climb (objects : Objects) (untried : List ItemId) (id : ItemId) : List Item :=
  if _member : id ∈ untried then
    match objects.item? id with
    | none => []
    | some item =>
      item :: match item.parent with
        | some (.folder parent) => objects.climb (untried.erase id) parent
        | _ => []
  else []
  termination_by untried.length
  decreasing_by
    have positive := List.length_pos_of_mem _member
    rw [List.length_erase_of_mem _member]
    omega

/-- The items from the top level down to an item, itself included. -/
def lineage (objects : Objects) (id : ItemId) : List Item :=
  (objects.climb objects.itemIds id).reverse

/-- The names along an item's location, between slashes. -/
def fullName (objects : Objects) (id : ItemId) : String :=
  Path.ofNames ((objects.lineage id).map fun item => item.name.text)

/-- The display names along an item's location. -/
def displayPath (objects : Objects) (id : ItemId) : String :=
  Path.displayOf ((objects.lineage id).map Item.shownName)

/-- The address of an item. -/
def address (objects : Objects) (id : ItemId) : String :=
  Path.itemAddress ((objects.lineage id).map fun item => item.name.text)

/-- An object as messages show it. -/
def describe (objects : Objects) : ObjectId → String
  | .item id =>
    let isFolder := ((objects.item? id).map Item.isFolder).getD false
    (if isFolder then "<Folder" else "<Job") ++ "(full_name=" ++
      Text.quote (objects.fullName id) ++ ")>"
  | .view id =>
    "<ListView(name=" ++
      Text.quote (((objects.view? id).map fun view => view.name.text).getD "") ++ ")>"
  | .space id =>
    let space := (objects.space? id).getD {}
    "<Workspace(items=" ++ toString space.items.length ++ ", views=" ++
      toString space.views.length ++ ")>"

end Wayfinder.Workspace.Objects
