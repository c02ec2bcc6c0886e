import Mathlib.Data.List.Nodup
import Wayfinder.Proofs.Workspace.Placement

/-!
# The tree of items

While items are only made in groups of one workspace, every item is held by exactly one group, its
parent, which was there before it, and no two items of a group have one name. The same goes for the
views of the workspace. These facts are kept by every edit, and nothing else about how a workspace came
about is needed to search it.
-/

namespace Wayfinder.Workspace

namespace Objects

/-- The items make up a tree below the workspace. -/
structure HoldsItems (objects : Objects) : Prop where
  item_of_mem : ∀ {group id}, id ∈ objects.members group →
    ∃ item, objects.item? id = some item ∧ item.parent = some group
  mem_of_item : ∀ {id item}, objects.item? id = some item →
    ∃ group, item.parent = some group ∧ id ∈ objects.members group
  older : ∀ {folder id}, id ∈ objects.members (.folder folder) → folder.index < id.index
  nodup_members : ∀ group, (objects.members group).Nodup
  eq_of_name : ∀ {group left right leftItem rightItem}, left ∈ objects.members group →
    right ∈ objects.members group → objects.item? left = some leftItem →
    objects.item? right = some rightItem → leftItem.name.text = rightItem.name.text → left = right

/-- The views of the workspace are there, and they differ by name. -/
structure ListsViews (objects : Objects) : Prop where
  view_of_mem : ∀ {id}, id ∈ objects.viewsOf rootSpace → ∃ view, objects.view? id = some view
  nodup_views : (objects.viewsOf rootSpace).Nodup
  eq_of_viewName : ∀ {left right leftView rightView}, left ∈ objects.viewsOf rootSpace →
    right ∈ objects.viewsOf rootSpace → objects.view? left = some leftView →
    objects.view? right = some rightView → leftView.name.text = rightView.name.text → left = right

/-- One workspace with a tree of items and with views. -/
structure IsTree (objects : Objects) : Prop extends objects.HoldsItems, objects.ListsViews where
  single : objects.spaces.length = 1

theorem HoldsItems.parent_eq {objects : Objects} (holds : objects.HoldsItems) {id : ItemId}
    {left right : GroupId} (first : id ∈ objects.members left) (second : id ∈ objects.members right) :
    left = right := by
  obtain ⟨item, found, parent⟩ := holds.item_of_mem first
  obtain ⟨other, again, parent'⟩ := holds.item_of_mem second
  rw [found] at again
  cases again
  rw [parent] at parent'
  exact Option.some.inj parent'

/-- The one workspace is the only one that holds items. -/
theorem IsTree.eq_rootSpace {objects : Objects} (tree : objects.IsTree) {space : SpaceId}
    (there : objects.HasGroup (.space space)) : space = rootSpace := by
  obtain ⟨index⟩ := space
  obtain ⟨found, there⟩ := Option.isSome_iff_exists.mp there
  have bound : index < objects.spaces.length := (List.getElem?_eq_some_iff.mp there).1
  rw [tree.single] at bound
  rw [rootSpace, Nat.lt_one_iff.mp bound]

theorem hasGroup_of_mem {objects : Objects} {group : GroupId} {id : ItemId}
    (member : id ∈ objects.members group) : objects.HasGroup group := by
  cases group with
  | space space =>
      cases found : objects.space? space with
      | none => simp [members, found] at member
      | some held => simp [HasGroup, found]
  | folder folder =>
      apply hasGroup_folder_iff.mpr
      cases found : objects.item? folder with
      | none => simp [members, found] at member
      | some item =>
          refine ⟨item, rfl, ?_⟩
          obtain ⟨name, displayName, key, parent, body⟩ := item
          cases body with
          | job disabled => simp [members, found, Item.items] at member
          | folder items => rfl

/-- Rows that differ by a text still do when one of a new text is put behind them. -/
theorem eq_of_text_append {ι α : Type} {ids : List ι} {new : ι} {row? : ι → Option α}
    {text : α → String}
    (old : ∀ left ∈ ids, ∀ right ∈ ids, ∀ leftRow rightRow, row? left = some leftRow →
      row? right = some rightRow → text leftRow = text rightRow → left = right)
    (apart : ∀ other ∈ ids, ∀ row newRow, row? other = some row → row? new = some newRow →
      text row ≠ text newRow)
    {left right : ι} {leftRow rightRow : α} (first : left ∈ ids ++ [new])
    (second : right ∈ ids ++ [new]) (leftFound : row? left = some leftRow)
    (rightFound : row? right = some rightRow) (same : text leftRow = text rightRow) :
    left = right := by
  rw [List.mem_append, List.mem_singleton] at first second
  rcases first with leftOld | rfl
  · rcases second with rightOld | rfl
    · exact old left leftOld right rightOld _ _ leftFound rightFound same
    · exact absurd same (apart left leftOld _ _ leftFound rightFound)
  · rcases second with rightOld | rfl
    · exact absurd same.symm (apart right rightOld _ _ rightFound leftFound)
    · rfl

theorem nodup_append_singleton {ι : Type} {ids : List ι} {new : ι} (distinct : ids.Nodup)
    (fresh : new ∉ ids) : (ids ++ [new]).Nodup := by
  rw [← List.concat_eq_append]
  exact List.Nodup.concat fresh distinct

section Items

variable {objects changed : Objects} {group : GroupId} {item : Item} {id : ItemId}

theorem Placed.item?_grown (placed : Placed objects changed group item id) {other : ItemId}
    {held : Item} (found : objects.item? other = some held) :
    changed.item? other = some (grownBy group id other held) := by
  rw [placed.item?_old other (placed.item?_lt found), found, Option.map_some]

theorem Placed.mem_iff (placed : Placed objects changed group item id) {other : ItemId}
    {holder : GroupId} : other ∈ changed.members holder ↔
      other ∈ objects.members holder ∨ other = id ∧ holder = group := by
  rw [placed.members]
  by_cases same : holder = group
  · subst same
    simp
  · simp [same]

theorem Placed.unheld (placed : Placed objects changed group item id) (holds : objects.HoldsItems)
    (holder : GroupId) : id ∉ objects.members holder := by
  intro member
  obtain ⟨held, found, -⟩ := holds.item_of_mem member
  exact placed.item?_lt found rfl

/-- An item that a group held before still has its name. -/
theorem Placed.name_eq (placed : Placed objects changed group item id) (holds : objects.HoldsItems)
    {holder : GroupId} {other : ItemId} (member : other ∈ objects.members holder) {held : Item}
    (found : changed.item? other = some held) :
    ∃ before, objects.item? other = some before ∧ held.name = before.name := by
  obtain ⟨before, before?, -⟩ := holds.item_of_mem member
  rw [placed.item?_grown before?] at found
  cases found
  exact ⟨before, before?, by simp⟩

/-- The items of a group still differ by name, the new one among them. -/
theorem Placed.eq_of_name (placed : Placed objects changed group item id)
    (holds : objects.HoldsItems) {holder : GroupId} {left right : ItemId} {leftItem rightItem : Item}
    (first : left ∈ changed.members holder) (second : right ∈ changed.members holder)
    (leftFound : changed.item? left = some leftItem)
    (rightFound : changed.item? right = some rightItem)
    (same : leftItem.name.text = rightItem.name.text) : left = right := by
  have old (holder : GroupId) : ∀ left ∈ objects.members holder, ∀ right ∈ objects.members holder,
      ∀ leftItem rightItem, changed.item? left = some leftItem →
        changed.item? right = some rightItem → leftItem.name.text = rightItem.name.text →
          left = right := by
    intro left first right second leftItem rightItem leftFound rightFound same
    obtain ⟨leftBefore, left?, leftName⟩ := placed.name_eq holds first leftFound
    obtain ⟨rightBefore, right?, rightName⟩ := placed.name_eq holds second rightFound
    exact holds.eq_of_name first second left? right? (by rw [← leftName, ← rightName, same])
  have apart : ∀ other ∈ objects.members group, ∀ held newItem, changed.item? other = some held →
      changed.item? id = some newItem → held.name.text ≠ newItem.name.text := by
    intro other member held newItem found new
    obtain ⟨before, before?, name⟩ := placed.name_eq holds member found
    rw [placed.item?_new] at new
    cases new
    rw [name]
    exact placed.free other member before before?
  rw [placed.members] at first second
  by_cases here : holder = group
  · rw [if_pos here] at first second
    exact eq_of_text_append (old group) apart first second leftFound rightFound same
  · rw [if_neg here] at first second
    exact old holder left first right second _ _ leftFound rightFound same

/-- A new item that was placed in a group leaves a tree. -/
theorem HoldsItems.placed (holds : objects.HoldsItems) (there : objects.HasGroup group)
    (placed : Placed objects changed group item id) : changed.HoldsItems := by
  constructor
  case item_of_mem =>
    intro holder other member
    rcases placed.mem_iff.mp member with before | ⟨rfl, rfl⟩
    · obtain ⟨held, found, parent⟩ := holds.item_of_mem before
      exact ⟨_, placed.item?_grown found, by simpa using parent⟩
    · exact ⟨_, placed.item?_new, rfl⟩
  case mem_of_item =>
    intro other held found
    by_cases new : other = id
    · subst new
      rw [placed.item?_new] at found
      cases found
      exact ⟨group, rfl, placed.mem_iff.mpr (.inr ⟨rfl, rfl⟩)⟩
    · rw [placed.item?_old other new] at found
      obtain ⟨before, there, rfl⟩ := Option.map_eq_some_iff.mp found
      obtain ⟨holder, parent, member⟩ := holds.mem_of_item there
      exact ⟨holder, by simpa using parent, placed.mem_iff.mpr (.inl member)⟩
  case older =>
    intro folder other member
    rcases placed.mem_iff.mp member with before | ⟨rfl, rfl⟩
    · exact holds.older before
    · obtain ⟨holder, found, -⟩ := hasGroup_folder_iff.mp there
      rw [placed.id_eq]
      exact Objects.item?_lt found
  case nodup_members =>
    intro holder
    rw [placed.members]
    split
    · exact nodup_append_singleton (holds.nodup_members group) (placed.unheld holds group)
    · exact holds.nodup_members holder
  case eq_of_name => exact placed.eq_of_name holds

/-- Nothing about which item is where, and what its name is, has changed. -/
structure KeepsItems (objects changed : Objects) : Prop where
  members : ∀ group, changed.members group = objects.members group
  standing : ∀ id, (changed.item? id).map (fun item => (item.name, item.parent)) =
    (objects.item? id).map fun item => (item.name, item.parent)

theorem KeepsItems.symm (keeps : KeepsItems objects changed) : KeepsItems changed objects :=
  ⟨fun group => (keeps.members group).symm, fun id => (keeps.standing id).symm⟩

theorem KeepsItems.item? (keeps : KeepsItems objects changed) {id : ItemId} {item : Item}
    (found : objects.item? id = some item) :
    ∃ other, changed.item? id = some other ∧ other.name = item.name ∧ other.parent = item.parent := by
  have same := keeps.standing id
  rw [found] at same
  obtain ⟨other, there, both⟩ := Option.map_eq_some_iff.mp same
  exact ⟨other, there, (Prod.mk.inj both).1, (Prod.mk.inj both).2⟩

theorem HoldsItems.of_keeps (holds : objects.HoldsItems) (keeps : KeepsItems objects changed) :
    changed.HoldsItems := by
  constructor
  case item_of_mem =>
    intro group id member
    rw [keeps.members] at member
    obtain ⟨item, found, parent⟩ := holds.item_of_mem member
    obtain ⟨other, there, -, same⟩ := keeps.item? found
    exact ⟨other, there, same.trans parent⟩
  case mem_of_item =>
    intro id item found
    obtain ⟨other, there, -, same⟩ := keeps.symm.item? found
    obtain ⟨group, parent, member⟩ := holds.mem_of_item there
    exact ⟨group, same.symm.trans parent, keeps.members group ▸ member⟩
  case older =>
    intro folder id member
    exact holds.older (keeps.members _ ▸ member)
  case nodup_members =>
    intro group
    rw [keeps.members]
    exact holds.nodup_members group
  case eq_of_name =>
    intro group left right leftItem rightItem first second leftFound rightFound same
    rw [keeps.members] at first second
    obtain ⟨leftOther, left?, leftName, -⟩ := keeps.symm.item? leftFound
    obtain ⟨rightOther, right?, rightName, -⟩ := keeps.symm.item? rightFound
    exact holds.eq_of_name first second left? right? (by rw [leftName, rightName, same])

/-- A change to one item that leaves alone its name, its parent and what it holds. -/
theorem keepsItems_modifyItem (objects : Objects) (id : ItemId) {change : Item → Item}
    (name : ∀ item, (change item).name = item.name)
    (parent : ∀ item, (change item).parent = item.parent)
    (items : ∀ item, (change item).items = item.items) :
    KeepsItems objects (objects.modifyItem id change) := by
  constructor
  case members =>
    intro group
    cases group with
    | space space => rfl
    | folder folder =>
        simp only [Objects.members, item?_modifyItem]
        split
        · simp [Function.comp_def, items]
        · rfl
  case standing =>
    intro other
    rw [item?_modifyItem]
    split
    · simp [Function.comp_def, name, parent]
    · rfl

end Items

section Views

variable {objects changed : Objects}

/-- The views keep their names. -/
def KeepsNames (objects changed : Objects) : Prop :=
  ∀ {id view}, objects.view? id = some view →
    ∃ other, changed.view? id = some other ∧ other.name = view.name

theorem ListsViews.view_of_keeps (lists : objects.ListsViews) (keeps : KeepsNames objects changed)
    {id : ViewId} (member : id ∈ objects.viewsOf rootSpace) {view : ListView}
    (found : changed.view? id = some view) :
    ∃ other, objects.view? id = some other ∧ view.name = other.name := by
  obtain ⟨other, there⟩ := lists.view_of_mem member
  obtain ⟨view', found', name⟩ := keeps there
  rw [found] at found'
  cases found'
  exact ⟨other, there, name⟩

theorem ListsViews.of_keeps (lists : objects.ListsViews) (keeps : KeepsNames objects changed)
    (viewsOf : changed.viewsOf rootSpace = objects.viewsOf rootSpace) : changed.ListsViews := by
  constructor
  case view_of_mem =>
    intro id member
    obtain ⟨view, found⟩ := lists.view_of_mem (viewsOf ▸ member)
    obtain ⟨other, there, -⟩ := keeps found
    exact ⟨other, there⟩
  case nodup_views =>
    rw [viewsOf]
    exact lists.nodup_views
  case eq_of_viewName =>
    intro left right leftView rightView first second leftFound rightFound same
    rw [viewsOf] at first second
    obtain ⟨leftOther, left?, leftName⟩ := lists.view_of_keeps keeps first leftFound
    obtain ⟨rightOther, right?, rightName⟩ := lists.view_of_keeps keeps second rightFound
    exact lists.eq_of_viewName first second left? right? (by rw [← leftName, ← rightName, same])

/-- A view of a new name that was put behind the others. -/
theorem ListsViews.append {id : ViewId} {view : ListView} (lists : objects.ListsViews)
    (keeps : KeepsNames objects changed) (found : objects.view? id = some view)
    (free : ∀ other ∈ objects.viewsOf rootSpace, ∀ held, objects.view? other = some held →
      held.name.text ≠ view.name.text)
    (viewsOf : changed.viewsOf rootSpace = objects.viewsOf rootSpace ++ [id]) :
    changed.ListsViews := by
  have unlisted : id ∉ objects.viewsOf rootSpace := fun member => free id member view found rfl
  obtain ⟨new, new?, newName⟩ := keeps found
  have old : ∀ left ∈ objects.viewsOf rootSpace, ∀ right ∈ objects.viewsOf rootSpace,
      ∀ leftView rightView, changed.view? left = some leftView →
        changed.view? right = some rightView → leftView.name.text = rightView.name.text →
          left = right := by
    intro left first right second leftView rightView leftFound rightFound same
    obtain ⟨leftOther, left?, leftName⟩ := lists.view_of_keeps keeps first leftFound
    obtain ⟨rightOther, right?, rightName⟩ := lists.view_of_keeps keeps second rightFound
    exact lists.eq_of_viewName first second left? right? (by rw [← leftName, ← rightName, same])
  have apart : ∀ other ∈ objects.viewsOf rootSpace, ∀ held newView,
      changed.view? other = some held → changed.view? id = some newView →
        held.name.text ≠ newView.name.text := by
    intro other member held newView there added
    obtain ⟨before, before?, name⟩ := lists.view_of_keeps keeps member there
    rw [new?] at added
    cases added
    rw [name, newName]
    exact free other member before before?
  constructor
  case view_of_mem =>
    intro other member
    rw [viewsOf, List.mem_append, List.mem_singleton] at member
    rcases member with before | rfl
    · obtain ⟨held, there⟩ := lists.view_of_mem before
      obtain ⟨after, after?, -⟩ := keeps there
      exact ⟨after, after?⟩
    · exact ⟨new, new?⟩
  case nodup_views =>
    rw [viewsOf]
    exact nodup_append_singleton lists.nodup_views unlisted
  case eq_of_viewName =>
    intro left right leftView rightView first second leftFound rightFound same
    rw [viewsOf] at first second
    exact eq_of_text_append old apart first second leftFound rightFound same

end Views

end Objects

end Wayfinder.Workspace
