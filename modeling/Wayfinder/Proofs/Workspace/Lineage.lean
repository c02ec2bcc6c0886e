import Wayfinder.Proofs.Path
import Wayfinder.Proofs.Workspace.LevelOrder
import Wayfinder.Workspace.Lookup

/-!
# An item is found where it is

In a tree the climb from an item ends at the top level, one parent after another. Following the names
that it passes, from the top level down, leads back to the item, because no two items of a group have
one name.
-/

namespace Wayfinder.Workspace.Objects

variable {objects : Objects}

/-- A climb passes nothing but items. -/
theorem item?_of_mem_climb {untried : List ItemId} {id : ItemId} {item : Item}
    (member : item ∈ objects.climb untried id) : ∃ other, objects.item? other = some item := by
  fun_induction objects.climb untried id with
  | case1 untried id listed missing => cases member
  | case2 untried id listed held found ih =>
      rcases List.mem_cons.mp member with rfl | above
      · exact ⟨id, found⟩
      · split at above
        · exact ih _ above
        · cases above
  | case3 => cases member

theorem item?_of_mem_lineage {id : ItemId} {item : Item} (member : item ∈ objects.lineage id) :
    ∃ other, objects.item? other = some item :=
  item?_of_mem_climb (List.mem_reverse.mp member)

/-- An item is on the way down to it. -/
theorem mem_lineage {id : ItemId} {item : Item} (found : objects.item? id = some item) :
    item ∈ objects.lineage id := by
  rw [lineage, climb, dif_pos (mem_itemIds.mpr (item?_lt found))]
  simp [found]

/-- What a climb passes does not depend on how many more items are untried, as long as all older ones
are. -/
theorem HoldsItems.climb_congr (holds : objects.HoldsItems) {left right : List ItemId} {id : ItemId}
    (first : ∀ index ≤ id.index, ⟨index⟩ ∈ left) (second : ∀ index ≤ id.index, ⟨index⟩ ∈ right) :
    objects.climb left id = objects.climb right id := by
  obtain ⟨index⟩ := id
  induction index using Nat.strongRecOn generalizing left right with
  | ind index ih =>
      rw [climb, climb, dif_pos (first index (Nat.le_refl _)), dif_pos (second index (Nat.le_refl _))]
      cases found : objects.item? ⟨index⟩ with
      | none => rfl
      | some item =>
          obtain ⟨group, parent, member⟩ := holds.mem_of_item found
          cases group with
          | space space => simp only [parent]
          | folder folder =>
              have older : folder.index < index := holds.older member
              have remain {untried : List ItemId} (all : ∀ index' ≤ index, ⟨index'⟩ ∈ untried)
                  (index' : Nat) (below : index' ≤ folder.index) :
                  ⟨index'⟩ ∈ untried.erase ⟨index⟩ := by
                refine (List.mem_erase_of_ne ?_).mpr (all index' (by omega))
                intro same
                have equal := ItemId.mk.inj same
                omega
              simp only [parent]
              exact congrArg _ (ih folder.index older (remain first) (remain second))

/-- A top-level item stands below nothing. -/
theorem HoldsItems.lineage_top (holds : objects.HoldsItems) {space : SpaceId} {id : ItemId}
    {item : Item} (member : id ∈ objects.members (.space space))
    (found : objects.item? id = some item) : objects.lineage id = [item] := by
  obtain ⟨other, again, parent⟩ := holds.item_of_mem member
  rw [found] at again
  cases again
  rw [lineage, climb, dif_pos (mem_itemIds.mpr (item?_lt found))]
  simp only [found, parent, List.reverse_singleton]

/-- An item in a folder stands below the folder. -/
theorem HoldsItems.lineage_below (holds : objects.HoldsItems) {folder id : ItemId} {item : Item}
    (member : id ∈ objects.members (.folder folder)) (found : objects.item? id = some item) :
    objects.lineage id = objects.lineage folder ++ [item] := by
  obtain ⟨other, again, parent⟩ := holds.item_of_mem member
  rw [found] at again
  cases again
  have older := holds.older member
  have bound := item?_lt found
  have all (index : Nat) (below : index ≤ folder.index) : ⟨index⟩ ∈ objects.itemIds :=
    mem_itemIds.mpr (by simp; omega)
  have remain (index : Nat) (below : index ≤ folder.index) : ⟨index⟩ ∈ objects.itemIds.erase id := by
    refine (List.mem_erase_of_ne ?_).mpr (all index below)
    rintro rfl
    simp at older
    omega
  rw [lineage, climb, dif_pos (mem_itemIds.mpr bound)]
  simp only [found, parent, List.reverse_cons]
  rw [holds.climb_congr remain all, lineage]

/-- The names from the top level down to an item. -/
def lineageNames (objects : Objects) (id : ItemId) : List String :=
  (objects.lineage id).map fun item => item.name.text

/-- A name after another can be followed only through a folder. -/
theorem follow?_append (objects : Objects) (group : GroupId) {names : List String}
    (nonempty : names ≠ []) (name : String) : objects.follow? group (names ++ [name]) =
      ((objects.follow? group names).bind objects.group?).bind fun group =>
        objects.child? group name := by
  induction names generalizing group with
  | nil => exact absurd rfl nonempty
  | cons first rest ih =>
      cases rest with
      | nil => rfl
      | cons second rest =>
          rw [List.cons_append, List.cons_append, follow?, follow?]
          · cases (objects.child? group first).bind objects.group? with
            | none => rfl
            | some group => exact ih group (by simp)
          · simp
          · simp

/-- The item of a name in a group is the one that has it. -/
theorem HoldsItems.child?_eq (holds : objects.HoldsItems) {group : GroupId} {id : ItemId} {item : Item}
    (member : id ∈ objects.members group) (found : objects.item? id = some item) :
    objects.child? group item.name.text = some id := by
  cases search : objects.child? group item.name.text with
  | none => exact absurd rfl (child?_eq_none_iff.mp search id member item found)
  | some other =>
      have matching := List.find?_some search
      have held : other ∈ objects.members group := List.mem_of_find?_eq_some search
      obtain ⟨there, found', -⟩ := holds.item_of_mem held
      simp only [found', beq_iff_eq] at matching
      rw [holds.eq_of_name held member found' found matching]

/-- Following the names down to an item leads to it. -/
theorem IsTree.follow?_lineage (tree : objects.IsTree) {id : ItemId} {item : Item}
    (found : objects.item? id = some item) :
    objects.lineageNames id ≠ [] ∧
      objects.follow? (.space rootSpace) (objects.lineageNames id) = some id := by
  obtain ⟨depth, member⟩ := tree.exists_depth found
  induction depth generalizing id item with
  | zero =>
      rw [lineageNames, tree.lineage_top member found]
      exact ⟨by simp, tree.child?_eq member found⟩
  | succ depth ih =>
      obtain ⟨folder, above, held⟩ := mem_itemsAt_succ.mp member
      obtain ⟨holder, holder?, -⟩ := hasGroup_folder_iff.mp (hasGroup_of_mem held)
      obtain ⟨nonempty, followed⟩ := ih holder? above
      have group : objects.group? folder = some (.folder folder) := hasGroup_of_mem held
      have names : objects.lineageNames id = objects.lineageNames folder ++ [item.name.text] := by
        rw [lineageNames, tree.lineage_below held found, List.map_append]
        rfl
      rw [names, follow?_append _ _ nonempty, followed, Option.bind_some, group, Option.bind_some]
      exact ⟨by simp, tree.child?_eq held found⟩

theorem isSegment_of_mem_lineageNames {id : ItemId} {name : String}
    (member : name ∈ objects.lineageNames id) : Path.IsSegment name := by
  obtain ⟨item, -, rfl⟩ := List.mem_map.mp member
  exact ⟨item.name.text_ne_empty, item.name.separator_not_mem⟩

/-- An item is found by its full name. -/
theorem IsTree.byFullName?_lineage (tree : objects.IsTree) {id : ItemId} {item : Item}
    (found : objects.item? id = some item) :
    objects.byFullName? rootSpace (Path.ofNames (objects.lineageNames id)) = some id := by
  obtain ⟨nonempty, followed⟩ := tree.follow?_lineage found
  rw [byFullName?, Path.names_ofNames (fun _ => isSegment_of_mem_lineageNames) nonempty, followed]

/-- A view is found by its name. -/
theorem ListsViews.viewNamed?_eq (lists : objects.ListsViews) {id : ViewId} {view : ListView}
    (member : id ∈ objects.viewsOf rootSpace) (found : objects.view? id = some view) :
    objects.viewNamed? rootSpace view.name.text = some id := by
  cases search : objects.viewNamed? rootSpace view.name.text with
  | none => exact absurd rfl (viewNamed?_eq_none_iff.mp search id member view found)
  | some other =>
      have matching := List.find?_some search
      have held : other ∈ objects.viewsOf rootSpace := List.mem_of_find?_eq_some search
      obtain ⟨there, found'⟩ := lists.view_of_mem held
      simp only [found', beq_iff_eq] at matching
      rw [lists.eq_of_viewName held member found' found matching]

end Wayfinder.Workspace.Objects
