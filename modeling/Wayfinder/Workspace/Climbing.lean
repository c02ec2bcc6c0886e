import Wayfinder.Workspace.Surface

/-!
# Whether a climb ends

Where an item is, is found out by climbing from parent to parent until something other than an item is met.
On a circle of parents that goes on forever. Whether it does can be told beforehand, and so can whether the
index of an object is ever there, which takes the location of every item that it shows.
-/

namespace Wayfinder.Workspace.Objects

open Search

/-- The item that an item was last added to, if it was added to an item. -/
def above? (objects : Objects) (id : ItemId) : Option ItemId :=
  match (objects.item? id).bind Item.parent with
  | some (.folder parent) => some parent
  | _ => none

/-- Whether a climb through untried items ends. -/
def endsThrough (objects : Objects) (untried : List ItemId) (id : ItemId) : Bool :=
  match objects.above? id with
  | none => true
  | some parent =>
    if _member : id ∈ untried then objects.endsThrough (untried.erase id) parent else false
  termination_by untried.length
  decreasing_by
    have positive := List.length_pos_of_mem _member
    rw [List.length_erase_of_mem _member]
    omega

/-- Whether a climb ends. -/
def climbEnds (objects : Objects) (id : ItemId) : Bool :=
  objects.endsThrough objects.itemIds id

/-- The items that the index of an object shows. -/
def shown (objects : Objects) : ObjectId → List ItemId
  | .item id => id :: objects.members (.folder id)
  | .view id => ((objects.view? id).map ListView.members).getD []
  | .space id => objects.members (.space id)

/-- Whether the index of an object is ever there. -/
def opens (objects : Objects) (id : ObjectId) : Bool :=
  (objects.shown id).all objects.climbEnds

end Wayfinder.Workspace.Objects
