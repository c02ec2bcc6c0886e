import Mathlib.Data.List.Nodup
import Wayfinder.Proofs.Workspace.Tree
import Wayfinder.Workspace.Surface

/-!
# A workspace level by level

The plain listing of a workspace: the top-level items, the views, and then one level of items after
another, each object with the aliases under which it can be found. In a tree every object has exactly
one place in this listing.
-/

namespace Wayfinder.Workspace.Objects

open Search

/-- The items at a depth: first those of the workspace, then those of the items one level higher, in
their order. -/
def itemsAt (objects : Objects) : Nat → List ItemId
  | 0 => objects.members (.space rootSpace)
  | depth + 1 => (objects.itemsAt depth).flatMap fun id => objects.members (.folder id)

/-- All objects level by level, the views behind the top-level items. -/
def levelOrder (objects : Objects) : List ObjectId :=
  (objects.itemsAt 0).map .item ++ (objects.viewsOf rootSpace).map .view ++
    (List.range objects.items.length).flatMap fun depth => (objects.itemsAt (depth + 1)).map .item

/-- The aliases of an object. An item has its name and, if a display name is set and differs from the
name, its display name; a view has its name only. -/
def aliases (objects : Objects) : ObjectId → List (SearchItem ObjectId)
  | .item id =>
    match objects.item? id with
    | none => []
    | some item =>
      let target := objects.target (.item id)
      ⟨item.name.text, target.url, target, .name, item.name.text_ne_empty⟩ ::
        match item.displayName with
        | none => []
        | some display =>
          if shown : display ≠ "" ∧ display ≠ item.name.text then
            [⟨display, target.url, target, .displayName, shown.1⟩]
          else []
  | .view id =>
    match objects.view? id with
    | none => []
    | some view =>
      let target := objects.target (.view id)
      [⟨view.name.text, target.url, target, .name, view.name.text_ne_empty⟩]
  | .space _ => []

/-- The aliases of all objects, level by level. -/
def listing (objects : Objects) : List (SearchItem ObjectId) :=
  objects.levelOrder.flatMap objects.aliases

variable {objects : Objects}

theorem mem_itemsAt_succ {depth : Nat} {id : ItemId} :
    id ∈ objects.itemsAt (depth + 1) ↔
      ∃ folder ∈ objects.itemsAt depth, id ∈ objects.members (.folder folder) := by
  simp [itemsAt]

namespace HoldsItems

theorem item_of_mem_itemsAt (holds : objects.HoldsItems) {depth : Nat} {id : ItemId}
    (member : id ∈ objects.itemsAt depth) : ∃ item, objects.item? id = some item := by
  cases depth with
  | zero =>
      obtain ⟨item, found, -⟩ := holds.item_of_mem member
      exact ⟨item, found⟩
  | succ depth =>
      obtain ⟨folder, -, held⟩ := mem_itemsAt_succ.mp member
      obtain ⟨item, found, -⟩ := holds.item_of_mem held
      exact ⟨item, found⟩

/-- An item stands at one depth. -/
theorem depth_eq (holds : objects.HoldsItems) {left right : Nat} {id : ItemId}
    (first : id ∈ objects.itemsAt left) (second : id ∈ objects.itemsAt right) : left = right := by
  induction left generalizing right id with
  | zero =>
      cases right with
      | zero => rfl
      | succ right =>
          obtain ⟨folder, -, held⟩ := mem_itemsAt_succ.mp second
          cases holds.parent_eq first held
  | succ left ih =>
      obtain ⟨folder, above, held⟩ := mem_itemsAt_succ.mp first
      cases right with
      | zero => cases holds.parent_eq held second
      | succ right =>
          obtain ⟨other, above', held'⟩ := mem_itemsAt_succ.mp second
          cases holds.parent_eq held held'
          rw [ih above above']

/-- Every level holds its items once: the groups hold theirs once and share none. -/
theorem nodup_itemsAt (holds : objects.HoldsItems) (depth : Nat) : (objects.itemsAt depth).Nodup := by
  induction depth with
  | zero => exact holds.nodup_members _
  | succ depth ih =>
      refine List.nodup_flatMap.mpr ⟨fun folder _ => holds.nodup_members _, ?_⟩
      apply ih.imp
      intro left right apart id first second
      cases holds.parent_eq first second
      exact apart rfl

/-- An item has at least as many items before it as its depth says. -/
theorem depth_le (holds : objects.HoldsItems) {depth : Nat} {id : ItemId}
    (member : id ∈ objects.itemsAt depth) : depth ≤ id.index := by
  induction depth generalizing id with
  | zero => exact Nat.zero_le _
  | succ depth ih =>
      obtain ⟨folder, above, held⟩ := mem_itemsAt_succ.mp member
      exact Nat.lt_of_le_of_lt (ih above) (holds.older held)

theorem depth_lt (holds : objects.HoldsItems) {depth : Nat} {id : ItemId}
    (member : id ∈ objects.itemsAt depth) : depth < objects.items.length := by
  obtain ⟨item, found⟩ := holds.item_of_mem_itemsAt member
  exact Nat.lt_of_le_of_lt (holds.depth_le member) (item?_lt found)

end HoldsItems

/-- Every item stands at some depth: one below its parent, which was there before it. -/
theorem IsTree.exists_depth (tree : objects.IsTree) {id : ItemId} {item : Item}
    (found : objects.item? id = some item) : ∃ depth, id ∈ objects.itemsAt depth := by
  obtain ⟨index⟩ := id
  induction index using Nat.strongRecOn generalizing item with
  | ind index ih =>
      obtain ⟨group, -, member⟩ := tree.mem_of_item found
      cases group with
      | space space =>
          cases tree.eq_rootSpace (hasGroup_of_mem member)
          exact ⟨0, member⟩
      | folder folder =>
          obtain ⟨holder, held, -⟩ := hasGroup_folder_iff.mp (hasGroup_of_mem member)
          obtain ⟨depth, above⟩ := ih folder.index (tree.older member) held
          exact ⟨depth + 1, mem_itemsAt_succ.mpr ⟨folder, above, member⟩⟩

/-- The level order goes through every item and every view of the workspace. -/
theorem IsTree.mem_levelOrder_iff (tree : objects.IsTree) {id : ObjectId} :
    id ∈ objects.levelOrder ↔ (∃ item, id = .item item ∧ (objects.item? item).isSome) ∨
      ∃ view ∈ objects.viewsOf rootSpace, id = .view view := by
  have anywhere (item : ItemId) :
      (objects.item? item).isSome ↔ ∃ depth, item ∈ objects.itemsAt depth := by
    constructor
    · intro there
      obtain ⟨held, found⟩ := Option.isSome_iff_exists.mp there
      exact tree.exists_depth found
    · rintro ⟨depth, member⟩
      obtain ⟨held, found⟩ := tree.item_of_mem_itemsAt member
      exact Option.isSome_iff_exists.mpr ⟨held, found⟩
  simp only [levelOrder, List.mem_append, List.mem_map, List.mem_flatMap, List.mem_range]
  constructor
  · rintro ((⟨item, member, rfl⟩ | ⟨view, member, rfl⟩) | ⟨depth, -, item, member, rfl⟩)
    · exact .inl ⟨item, rfl, (anywhere item).mpr ⟨0, member⟩⟩
    · exact .inr ⟨view, member, rfl⟩
    · exact .inl ⟨item, rfl, (anywhere item).mpr ⟨depth + 1, member⟩⟩
  · rintro (⟨item, rfl, there⟩ | ⟨view, member, rfl⟩)
    · obtain ⟨depth, member⟩ := (anywhere item).mp there
      cases depth with
      | zero => exact .inl (.inl ⟨item, member, rfl⟩)
      | succ depth =>
          have bound := tree.depth_lt member
          exact .inr ⟨depth, by omega, item, member, rfl⟩
    · exact .inl (.inr ⟨view, member, rfl⟩)

/-- The level order goes through no object twice. -/
theorem IsTree.nodup_levelOrder (tree : objects.IsTree) : objects.levelOrder.Nodup := by
  have items (depth : Nat) : ((objects.itemsAt depth).map ObjectId.item).Nodup :=
    (tree.nodup_itemsAt depth).map fun _ _ => ObjectId.item.inj
  have below : ((List.range objects.items.length).flatMap
      fun depth => (objects.itemsAt (depth + 1)).map ObjectId.item).Nodup := by
    refine List.nodup_flatMap.mpr ⟨fun depth _ => items _, List.nodup_range.imp ?_⟩
    intro left right apart id first second
    obtain ⟨item, member, rfl⟩ := List.mem_map.mp first
    obtain ⟨other, member', same⟩ := List.mem_map.mp second
    cases same
    exact apart (Nat.succ.inj (tree.depth_eq member member'))
  have views : ((objects.viewsOf rootSpace).map ObjectId.view).Nodup :=
    tree.nodup_views.map fun _ _ => ObjectId.view.inj
  refine List.nodup_append.mpr ⟨List.nodup_append.mpr ⟨items 0, views, ?_⟩, below, ?_⟩
  · intro left first right second same
    obtain ⟨item, -, rfl⟩ := List.mem_map.mp first
    obtain ⟨view, -, rfl⟩ := List.mem_map.mp second
    cases same
  · intro left first right second same
    obtain ⟨depth, -, deep⟩ := List.mem_flatMap.mp second
    obtain ⟨item, member, rfl⟩ := List.mem_map.mp deep
    subst same
    rcases List.mem_append.mp first with top | view
    · obtain ⟨other, member', equal⟩ := List.mem_map.mp top
      cases equal
      cases tree.depth_eq member member'
    · obtain ⟨other, -, equal⟩ := List.mem_map.mp view
      cases equal

end Wayfinder.Workspace.Objects
