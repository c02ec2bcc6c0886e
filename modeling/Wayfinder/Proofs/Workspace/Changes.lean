import Wayfinder.Proofs.Workspace.Links

/-!
# Changes keep the links

Every operation comes down to a few changes: something new is made, it is put into a group or a workspace
where its name is free, a view is chosen, or what a view lists is changed. Each of them leaves items and
views linked both ways.
-/

namespace Wayfinder.Workspace.Objects

/-- Groups and items are linked both ways. -/
structure LinksItems (objects : Objects) : Prop extends
    Linked objects.members objects.itemName? objects.parentOf? where
  holds : ∀ id group, objects.parentOf? id = some group → id ∈ objects.members group

/-- Workspaces and views are linked both ways, a workspace shows a view of its own first, and a view lists
nothing twice. -/
structure LinksViews (objects : Objects) : Prop extends
    Linked objects.viewsOf objects.viewName? objects.ownerOf? where
  lists : ∀ space id, objects.chosen? space = some id → id ∈ objects.viewsOf space
  nodup : ∀ id, (objects.viewItems id).Nodup

/-- A change of objects, as far as links go. What is changed is there, and what is added has a name that
is free. -/
inductive Change (objects : Objects) : Objects → Prop where
  | space : Change objects objects.newSpace.1
  | item (item : Item) (empty : item.items = []) (detached : item.parent = none) :
      Change objects (objects.newItem item).1
  | view (view : ListView) (empty : view.members = []) : Change objects (objects.newView view).1
  | join {changed : Objects} (group : GroupId) (id : ItemId) (there : objects.HasGroup group)
      (added : objects.addItem group id = .ok changed) : Change objects changed
  | enlist {changed : Objects} (space : SpaceId) (id : ViewId) (there : (objects.space? space).isSome)
      (added : objects.addView space id = .ok changed) : Change objects changed
  | choose {changed : Objects} (space : SpaceId) (id : ViewId)
      (chosen : objects.setPrimaryView space id = .ok changed) : Change objects changed
  | list (view : ViewId) (item : ItemId) :
      Change objects (objects.modifyView view fun view => view.add item)
  | unlist (view : ViewId) (item : ItemId) :
      Change objects (objects.modifyView view fun view => view.remove item)

/-- Items stay linked when neither they nor what groups hold changes. -/
theorem LinksItems.of_same {objects changed : Objects} (links : objects.LinksItems)
    (items : changed.items = objects.items) (members : changed.members = objects.members) :
    changed.LinksItems := by
  have name : changed.itemName? = objects.itemName? := by
    funext id
    rw [itemName?, item?, items]
    rfl
  have parent : changed.parentOf? = objects.parentOf? := by
    funext id
    rw [parentOf?, item?, items]
    rfl
  constructor
  · rw [members, name, parent]
    exact links.toLinked
  · rw [members, parent]
    exact links.holds

theorem LinksViews.of_same {objects changed : Objects} (links : objects.LinksViews)
    (views : changed.views = objects.views) (viewsOf : changed.viewsOf = objects.viewsOf)
    (chosen : changed.chosen? = objects.chosen?) : changed.LinksViews := by
  have name : changed.viewName? = objects.viewName? := by
    funext id
    rw [viewName?, view?, views]
    rfl
  have owner : changed.ownerOf? = objects.ownerOf? := by
    funext id
    rw [ownerOf?, view?, views]
    rfl
  have viewItems : changed.viewItems = objects.viewItems := by
    funext id
    rw [Objects.viewItems, view?, views]
    rfl
  constructor
  · rw [viewsOf, name, owner]
    exact links.toLinked
  · rw [viewsOf, chosen]
    exact links.lists
  · rw [viewItems]
    exact links.nodup

/-- A name that is found in no box is free. -/
theorem not_mem_names {objects : Objects} {group : GroupId} {item : Item}
    (free : objects.child? group item.name.text = none) :
    some item.name.text ∉ (objects.members group).map objects.itemName? := by
  intro taken
  obtain ⟨other, member, same⟩ := List.mem_map.mp taken
  obtain ⟨held, found, text⟩ := Option.map_eq_some_iff.mp same
  exact child?_eq_none_iff.mp free other member held found text

theorem not_mem_viewNames {objects : Objects} {space : SpaceId} {view : ListView}
    (free : objects.viewNamed? space view.name.text = none) :
    some view.name.text ∉ (objects.viewsOf space).map objects.viewName? := by
  intro taken
  obtain ⟨other, member, same⟩ := List.mem_map.mp taken
  obtain ⟨held, found, text⟩ := Option.map_eq_some_iff.mp same
  exact viewNamed?_eq_none_iff.mp free other member held found text

section Change

variable {objects changed : Objects}

/-- Making an item that no group holds. -/
theorem LinksItems.newItem (links : objects.LinksItems) {item : Item} (empty : item.items = [])
    (detached : item.parent = none) : (objects.newItem item).1.LinksItems := by
  let new : ItemId := ⟨objects.items.length⟩
  have absent : objects.itemName? new = none := by simp [itemName?, item?, new]
  have name : (objects.newItem item).1.itemName? =
      Function.update objects.itemName? new (some item.name.text) := by
    funext other
    rw [itemName?, item?_newItem, Function.update_apply]
    split <;> rfl
  have parent : (objects.newItem item).1.parentOf? = Function.update objects.parentOf? new none := by
    funext other
    rw [parentOf?, item?_newItem, Function.update_apply]
    split
    · rw [Option.bind_some, detached]
    · rfl
  constructor
  · rw [members_newItem_of_empty empty, name, parent]
    exact links.toLinked.create absent _ _
  · rw [members_newItem_of_empty empty, parent]
    intro id group found
    rw [Function.update_apply] at found
    split at found
    case isTrue => cases found
    case isFalse => exact links.holds id group found

/-- Adding an item to a group whose items have other names. -/
theorem LinksItems.joined (links : objects.LinksItems) {group : GroupId} {id : ItemId} {item : Item}
    (there : objects.HasGroup group) (found : objects.item? id = some item)
    (free : objects.child? group item.name.text = none) : (objects.joined group id).LinksItems := by
  have known : (objects.item? id).isSome := by rw [found]; rfl
  have name : objects.itemName? id = some item.name.text := by rw [itemName?, found]; rfl
  constructor
  · rw [members_joined there, itemName?_joined, parentOf?_joined known]
    apply links.toLinked.add
    · rw [name]
      rfl
    · rw [name]
      exact not_mem_names free
  · rw [members_joined there, parentOf?_joined known]
    intro other holder held
    rw [Function.update_apply] at held
    split at held
    case isTrue same =>
      cases held
      rw [Function.update_self, same]
      simp
    case isFalse =>
      have old := links.holds other holder held
      by_cases same : holder = group
      · subst same
        rw [Function.update_self]
        exact List.mem_append_left _ old
      · rwa [Function.update_of_ne same]

/-- Making a view that no workspace lists, whichever workspace it is said to belong to. -/
theorem LinksViews.newView (links : objects.LinksViews) {view : ListView} (empty : view.members = []) :
    (objects.newView view).1.LinksViews := by
  let new : ViewId := ⟨objects.views.length⟩
  have absent : objects.view? new = none := by simp [view?, new]
  have name : (objects.newView view).1.viewName? =
      Function.update objects.viewName? new (some view.name.text) := by
    funext other
    rw [viewName?, view?_newView, Function.update_apply]
    split <;> rfl
  have owner : (objects.newView view).1.ownerOf? = Function.update objects.ownerOf? new view.owner := by
    funext other
    rw [ownerOf?, view?_newView, Function.update_apply]
    split <;> rfl
  have viewsOf : (objects.newView view).1.viewsOf = objects.viewsOf := rfl
  constructor
  · rw [viewsOf, name, owner]
    exact links.toLinked.create (by rw [viewName?, absent]; rfl) _ _
  · exact links.lists
  · intro id
    rw [viewItems, view?_newView]
    split
    case isTrue => simp [empty]
    case isFalse => exact links.nodup id

/-- Adding a view to a workspace whose views have other names. -/
theorem LinksViews.listed (links : objects.LinksViews) {space : SpaceId} {id : ViewId} {view : ListView}
    (there : (objects.space? space).isSome) (found : objects.view? id = some view)
    (free : objects.viewNamed? space view.name.text = none) : (objects.listed space id).LinksViews := by
  have known : (objects.view? id).isSome := by rw [found]; rfl
  have name : objects.viewName? id = some view.name.text := by rw [viewName?, found]; rfl
  constructor
  · rw [viewsOf_listed_update there, viewName?_listed, ownerOf?_listed space known]
    apply links.toLinked.add
    · rw [name]
      rfl
    · rw [name]
      exact not_mem_viewNames free
  · have chosen : (objects.listed space id).chosen? = objects.chosen? :=
      chosen?_modifySpace _ space _ fun _ => rfl
    rw [viewsOf_listed_update there, chosen]
    intro other shown first
    have old := links.lists other shown first
    by_cases same : other = space
    · subst same
      rw [Function.update_self]
      exact List.mem_append_left _ old
    · rwa [Function.update_of_ne same]
  · rw [viewItems_listed]
    exact links.nodup

/-- Choosing a view of the workspace to be shown first. -/
theorem LinksViews.setPrimaryView (links : objects.LinksViews) {space : SpaceId} {id : ViewId}
    (chosen : objects.setPrimaryView space id = .ok changed) : changed.LinksViews := by
  obtain ⟨member, rfl⟩ := setPrimaryView_eq_ok chosen
  have viewsOf := viewsOf_modifyPrimary objects space (some id)
  constructor
  · rw [viewsOf]
    exact links.toLinked
  · rw [viewsOf]
    intro other shown first
    rw [chosen?, space?_modifySpace] at first
    split at first
    case isTrue same =>
      subst same
      cases found : objects.space? other with
      | none => simp [found] at first
      | some held =>
          rw [found] at first
          cases first
          exact member
    case isFalse => exact links.lists other shown first
  · exact links.nodup

/-- Changing what a view lists, so that it lists nothing twice. -/
theorem LinksViews.modifyView (links : objects.LinksViews) {view : ViewId}
    {change : ListView → ListView} (name : ∀ view, (change view).name = view.name)
    (owner : ∀ view, (change view).owner = view.owner)
    (nodup : ∀ view, view.members.Nodup → (change view).members.Nodup) :
    (objects.modifyView view change).LinksViews := by
  have viewName : (objects.modifyView view change).viewName? = objects.viewName? := by
    funext other
    rw [viewName?, view?_modifyView]
    split <;> simp [viewName?, Function.comp_def, name]
  have ownerOf : (objects.modifyView view change).ownerOf? = objects.ownerOf? := by
    funext other
    rw [ownerOf?, view?_modifyView]
    split
    · cases found : objects.view? other <;> simp [ownerOf?, found, owner]
    · rfl
  constructor
  · rw [viewName, ownerOf]
    exact links.toLinked
  · exact links.lists
  · intro other
    have old := links.nodup other
    rw [viewItems] at old
    rw [viewItems, view?_modifyView]
    split
    · cases found : objects.view? other with
      | none => exact List.nodup_nil
      | some held =>
          rw [found] at old
          exact nodup held old
    · exact old

/-- Whatever is changed, the links between groups and items stay right. -/
theorem LinksItems.change (links : objects.LinksItems) (change : Change objects changed) :
    changed.LinksItems := by
  have same {changed : Objects} (items : changed.items = objects.items)
      (spaces : changed.spaces = objects.spaces) : changed.LinksItems := by
    apply links.of_same items
    funext group
    cases group with
    | folder id => rw [members, item?, items]; rfl
    | space space => rw [members, space?, spaces]; rfl
  cases change with
  | space => exact links.of_same rfl (members_newSpace objects)
  | item item empty detached => exact links.newItem empty detached
  | view view empty => exact same rfl rfl
  | join group id there added =>
      rcases addItem_eq_ok added with rfl | ⟨item, found, free, rfl⟩
      · exact links
      · exact links.joined there found free
  | enlist space id there added =>
      rcases addView_eq_ok added with rfl | ⟨view, found, free, rfl⟩
      · exact links
      · exact links.of_same rfl (members_listed objects space id)
  | choose space id chosen =>
      obtain ⟨-, rfl⟩ := setPrimaryView_eq_ok chosen
      exact links.of_same rfl (members_modifyPrimary objects space (some id))
  | list view item => exact same rfl rfl
  | unlist view item => exact same rfl rfl

/-- Whatever is changed, the links between workspaces and views stay right. -/
theorem LinksViews.change (links : objects.LinksViews) (change : Change objects changed) :
    changed.LinksViews := by
  cases change with
  | space => exact links.of_same rfl (viewsOf_newSpace objects) (chosen?_newSpace objects)
  | item item empty detached => exact links.of_same rfl rfl rfl
  | view view empty => exact links.newView empty
  | join group id there added =>
      rcases addItem_eq_ok added with rfl | ⟨item, found, free, rfl⟩
      · exact links
      · exact links.of_same (views_joined objects group id) (viewsOf_joined objects group id)
          (chosen?_joined objects group id)
  | enlist space id there added =>
      rcases addView_eq_ok added with rfl | ⟨view, found, free, rfl⟩
      · exact links
      · exact links.listed there found (viewNamed?_eq_none_iff.mpr free)
  | choose space id chosen => exact links.setPrimaryView chosen
  | list view item =>
      refine links.modifyView ?_ ?_ ?_ <;> intro view
      · unfold ListView.add
        split <;> rfl
      · unfold ListView.add
        split <;> rfl
      · intro nodup
        unfold ListView.add
        split
        case isTrue => exact nodup
        case isFalse fresh => exact nodup_append_singleton nodup fresh
  | unlist view item =>
      exact links.modifyView (fun _ => rfl) (fun _ => rfl) fun _ nodup => nodup.filter _

end Change

end Wayfinder.Workspace.Objects
