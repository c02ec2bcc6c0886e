import Wayfinder.Workspace.Objects

/-!
# Cutting items out

Objects are told apart by their places, so without some of the items the others move up. They keep all
else: what they hold, who lists them, and every order. What referred to an item that is gone does not.
-/

namespace Wayfinder.Workspace

/-- Where an item is among those that are left. -/
def ItemId.among (left : List ItemId) (id : ItemId) : ItemId :=
  ⟨left.idxOf id⟩

def GroupId.among (left : List ItemId) : GroupId → GroupId
  | .folder id => .folder (id.among left)
  | .space id => .space id

/-- Those of some items that are left, in their order. -/
def remaining (left ids : List ItemId) : List ItemId :=
  (ids.filter fun id => left.contains id).map fun id => id.among left

def ItemBody.among (left : List ItemId) : ItemBody → ItemBody
  | .job disabled => .job disabled
  | .folder items => .folder (remaining left items)

def Item.among (left : List ItemId) (item : Item) : Item :=
  { item with parent := item.parent.map fun group => group.among left, body := item.body.among left }

/-- The objects without some of the items. -/
def Objects.without (objects : Objects) (gone : ItemId → Bool) : Objects :=
  let left := objects.itemIds.filter fun id => !gone id
  { items := left.filterMap fun id => (objects.item? id).map fun item => item.among left
    views := objects.views.map fun view => { view with members := remaining left view.members }
    spaces := objects.spaces.map fun space => { space with items := remaining left space.items } }

end Wayfinder.Workspace
