import Wayfinder.Proofs.Workspace.LevelOrder
import Wayfinder.Workspace.Lookup

/-!
# The items below a group

In a tree no folder is met again below itself, so the listing of all items below a group is the plain one:
the items of the group in their order, each followed by all items below it. It goes through every item
below the group once, and through what is below a folder right behind the folder.
-/

namespace Wayfinder.Workspace.Objects

/-- Whether an item is held by a group or by a folder somewhere below it. -/
inductive Under (objects : Objects) (group : GroupId) : ItemId → Prop where
  | held {id : ItemId} (member : id ∈ objects.members group) : objects.Under group id
  | deeper {folder id : ItemId} (above : objects.Under group folder)
      (member : id ∈ objects.members (.folder folder)) : objects.Under group id

variable {objects : Objects}

theorem Under.trans {group : GroupId} {folder id : ItemId} (above : objects.Under group folder)
    (below : objects.Under (.folder folder) id) : objects.Under group id := by
  induction below with
  | held member => exact .deeper above member
  | deeper _ member ih => exact .deeper ih member

/-- Only a group that is there has something below it. -/
theorem Under.hasGroup {group : GroupId} {id : ItemId} (under : objects.Under group id) :
    objects.HasGroup group := by
  induction under with
  | held member => exact hasGroup_of_mem member
  | deeper _ _ ih => exact ih

/-- Every item at some depth is below the workspace. -/
theorem under_of_mem_itemsAt {depth : Nat} {id : ItemId} (member : id ∈ objects.itemsAt depth) :
    objects.Under (.space rootSpace) id := by
  induction depth generalizing id with
  | zero => exact .held member
  | succ depth ih =>
      obtain ⟨folder, above, held⟩ := mem_itemsAt_succ.mp member
      exact .deeper (ih above) held

/-- Items to go through, and all that are not older still to be entered. Since a folder is older than
what it holds, this goes for the items of a folder, too, when the folder itself was entered. -/
def Unentered (objects : Objects) (unentered items : List ItemId) : Prop :=
  ∀ id ∈ items, id ∈ objects.itemIds ∧
    ∀ other ∈ objects.itemIds, id.index ≤ other.index → other ∈ unentered

namespace HoldsItems

variable (holds : objects.HoldsItems)

include holds

theorem mem_itemIds_of_mem {group : GroupId} {id : ItemId} (member : id ∈ objects.members group) :
    id ∈ objects.itemIds := by
  obtain ⟨item, found, -⟩ := holds.item_of_mem member
  exact mem_itemIds.mpr (item?_lt found)

theorem unentered_members {unentered : List ItemId} {folder : ItemId}
    (all : ∀ other ∈ objects.itemIds, folder.index ≤ other.index → other ∈ unentered) :
    objects.Unentered (unentered.erase folder) (objects.members (.folder folder)) := by
  intro id member
  refine ⟨holds.mem_itemIds_of_mem member, fun other known younger => ?_⟩
  have older := holds.older member
  have different : other ≠ folder := by
    rintro rfl
    omega
  exact (List.mem_erase_of_ne different).mpr (all other known (by omega))

/-- What a descent lists does not depend on which older items are still to be entered. -/
theorem descend_congr {left right items : List ItemId} (first : objects.Unentered left items)
    (second : objects.Unentered right items) :
    objects.descend left items = objects.descend right items := by
  induction left, items using descend.induct objects generalizing right with
  | case1 => rw [descend, descend]
  | case2 left id rest ih ih' =>
      obtain ⟨known, all⟩ := first id List.mem_cons_self
      obtain ⟨-, all'⟩ := second id List.mem_cons_self
      have inside : id ∈ left := all id known (Nat.le_refl _)
      rw [descend, descend, dif_pos inside, dif_pos (all' id known (Nat.le_refl _)),
        ih inside (holds.unentered_members all) (holds.unentered_members all'),
        ih' (fun other later => first other (List.mem_cons_of_mem _ later))
          fun other later => second other (List.mem_cons_of_mem _ later)]

/-- All that is below the items of a group is still to be entered when the listing begins. -/
theorem unentered_group (group : GroupId) : objects.Unentered
    (match group with
      | .folder id => objects.itemIds.erase id
      | .space _ => objects.itemIds) (objects.members group) := by
  cases group with
  | folder id => exact holds.unentered_members fun other known _ => known
  | space space => exact fun id member => ⟨holds.mem_itemIds_of_mem member, fun other known _ => known⟩

/-- The listing of a group: each item that it holds, followed by the listing of the item. -/
theorem allItems_eq (group : GroupId) : objects.allItems group =
    (objects.members group).flatMap fun id => id :: objects.allItems (.folder id) := by
  have plain (items unentered : List ItemId) (ready : objects.Unentered unentered items) :
      objects.descend unentered items =
        items.flatMap fun id => id :: objects.allItems (.folder id) := by
    induction items with
    | nil => rw [descend, List.flatMap_nil]
    | cons id rest ih =>
        obtain ⟨known, all⟩ := ready id List.mem_cons_self
        have below := holds.descend_congr (holds.unentered_members all) (holds.unentered_group (.folder id))
        rw [descend, dif_pos (all id known (Nat.le_refl _)), below,
          ih fun other later => ready other (List.mem_cons_of_mem _ later), List.flatMap_cons]
        rfl
  exact plain _ _ (holds.unentered_group group)

/-- A tree is gone through from below: what holds of a group if it holds of the folders in it holds of
every group. -/
theorem group_induction {motive : GroupId → Prop}
    (step : ∀ group, (∀ id ∈ objects.members group, motive (.folder id)) → motive group)
    (group : GroupId) : motive group := by
  -- The induction is on how many items are younger than a folder: what it holds is younger than it.
  have folders (count : Nat) : ∀ id : ItemId, objects.items.length ≤ id.index + count →
      motive (.folder id) := by
    induction count with
    | zero =>
        intro id beyond
        refine step _ fun inner member => ?_
        have older := holds.older member
        have bound := mem_itemIds.mp (holds.mem_itemIds_of_mem member)
        omega
    | succ count ih =>
        intro id bound
        refine step _ fun inner member => ih inner ?_
        have older := holds.older member
        omega
  exact step group fun id _ => folders objects.items.length id (Nat.le_add_left _ _)

/-- What the listing of an item below a group says is a part of the listing of the group. -/
theorem allItems_infix {group : GroupId} {id : ItemId} (under : objects.Under group id) :
    id :: objects.allItems (.folder id) <:+: objects.allItems group := by
  have held {group : GroupId} {id : ItemId} (member : id ∈ objects.members group) :
      id :: objects.allItems (.folder id) <:+: objects.allItems group := by
    rw [holds.allItems_eq group, List.flatMap_def]
    exact List.infix_of_mem_flatten (List.mem_map.mpr ⟨id, member, rfl⟩)
  induction under with
  | held member => exact held member
  | deeper _ member ih => exact (List.infix_cons (held member)).trans ih

/-- The listing of a group goes through what is below it and nothing else. -/
theorem mem_allItems {group : GroupId} {id : ItemId} :
    id ∈ objects.allItems group ↔ objects.Under group id := by
  constructor
  · intro listed
    induction group using holds.group_induction generalizing id with
    | step group below =>
        rw [holds.allItems_eq] at listed
        obtain ⟨folder, held, inside⟩ := List.mem_flatMap.mp listed
        rcases List.mem_cons.mp inside with rfl | deeper
        · exact .held held
        · exact (Under.held held).trans (below folder held deeper)
  · intro under
    exact (holds.allItems_infix under).subset List.mem_cons_self

/-- What is below a folder is younger than it. -/
theorem older_of_under {folder id : ItemId} (under : objects.Under (.folder folder) id) :
    folder.index < id.index := by
  induction under with
  | held member => exact holds.older member
  | deeper _ member ih => exact Nat.lt_trans ih (holds.older member)

/-- The group that holds an item below a folder is the folder or below it. -/
theorem exists_holder {folder id : ItemId} {group : GroupId}
    (under : objects.Under (.folder folder) id) (member : id ∈ objects.members group) :
    ∃ holder, group = .folder holder ∧ (holder = folder ∨ objects.Under (.folder folder) holder) := by
  cases under with
  | held member' => exact ⟨folder, holds.parent_eq member member', .inl rfl⟩
  | @deeper holder _ above member' => exact ⟨holder, holds.parent_eq member member', .inr above⟩

/-- Of the items of a group none is below another. -/
theorem not_under_sibling {group : GroupId} {left right : ItemId} (first : left ∈ objects.members group)
    (second : right ∈ objects.members group) : ¬objects.Under (.folder left) right := by
  intro under
  obtain ⟨holder, rfl, same⟩ := holds.exists_holder under second
  have older := holds.older first
  rcases same with rfl | below
  · omega
  · have further := holds.older_of_under below
    omega

/-- An item is below at most one of the items of a group. -/
theorem eq_of_under {group : GroupId} {left right id : ItemId} (first : left ∈ objects.members group)
    (second : right ∈ objects.members group) (under : objects.Under (.folder left) id)
    (under' : objects.Under (.folder right) id) : left = right := by
  induction under with
  | held member =>
      obtain ⟨holder, same, rfl | below⟩ := holds.exists_holder under' member
      · exact GroupId.folder.inj same
      · cases same
        exact absurd below (holds.not_under_sibling second first)
  | deeper above member ih =>
      obtain ⟨holder, same, rfl | below⟩ := holds.exists_holder under' member
      · cases same
        exact absurd above (holds.not_under_sibling first second)
      · cases same
        exact ih below

/-- The listing of a group goes through no item twice. -/
theorem nodup_allItems (group : GroupId) : (objects.allItems group).Nodup := by
  induction group using holds.group_induction with
  | step group below =>
      rw [holds.allItems_eq, List.nodup_flatMap]
      constructor
      · intro id member
        refine List.nodup_cons.mpr ⟨fun again => ?_, below id member⟩
        exact absurd (holds.older_of_under (holds.mem_allItems.mp again)) (Nat.lt_irrefl _)
      · refine (holds.nodup_members group).imp_of_mem ?_
        intro left right first second apart id listed listed'
        rcases List.mem_cons.mp listed with rfl | inside
        · rcases List.mem_cons.mp listed' with rfl | inside'
          · exact apart rfl
          · exact holds.not_under_sibling second first (holds.mem_allItems.mp inside')
        · rcases List.mem_cons.mp listed' with rfl | inside'
          · exact holds.not_under_sibling first second (holds.mem_allItems.mp inside)
          · exact apart (holds.eq_of_under first second (holds.mem_allItems.mp inside)
              (holds.mem_allItems.mp inside'))

/-- The listing of a group goes through a folder before what is below the folder. -/
theorem pair_sublist_allItems {group : GroupId} {folder id : ItemId}
    (above : objects.Under group folder) (below : objects.Under (.folder folder) id) :
    [folder, id].Sublist (objects.allItems group) := by
  have listed : [id].Sublist (objects.allItems (.folder folder)) :=
    List.singleton_sublist.mpr (holds.mem_allItems.mpr below)
  exact (listed.cons_cons folder).trans (holds.allItems_infix above).sublist

end HoldsItems

/-- The listing of a workspace goes through every item that there is. -/
theorem IsTree.mem_allItems_root (tree : objects.IsTree) {id : ItemId} :
    id ∈ objects.allItems (.space rootSpace) ↔ id ∈ objects.itemIds := by
  rw [tree.mem_allItems]
  constructor
  · rintro (member | ⟨-, member⟩) <;> exact tree.mem_itemIds_of_mem member
  · intro known
    obtain ⟨depth, member⟩ := tree.exists_depth (List.getElem?_eq_getElem (mem_itemIds.mp known))
    exact under_of_mem_itemsAt member

/-- The listing of a workspace goes through every folder before what is below the folder. -/
theorem IsTree.pair_sublist_allItems_root (tree : objects.IsTree) {folder id : ItemId}
    (below : objects.Under (.folder folder) id) :
    [folder, id].Sublist (objects.allItems (.space rootSpace)) := by
  obtain ⟨item, found, -⟩ := hasGroup_folder_iff.mp below.hasGroup
  have listed := tree.mem_allItems_root.mpr (mem_itemIds.mpr (item?_lt found))
  exact tree.pair_sublist_allItems (tree.mem_allItems.mp listed) below

end Wayfinder.Workspace.Objects
