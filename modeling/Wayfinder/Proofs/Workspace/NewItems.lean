import Wayfinder.Proofs.Workspace.Lineage

/-!
# Where a new item stands

An item that is put in a group stands below all that the group stands below, and below the group itself.
Nothing else moves: the way down to every other item passes the same items, one of which may have taken
in the new one.
-/

namespace Wayfinder.Workspace.Objects

variable {objects changed : Objects} {group : GroupId} {item : Item} {id : ItemId}

/-- The items from the top level down to a group. -/
def above (objects : Objects) : GroupId → List Item
  | .space _ => []
  | .folder id => objects.lineage id

end Wayfinder.Workspace.Objects
