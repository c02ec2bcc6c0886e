import Wayfinder.Proofs.Outcome
import Wayfinder.Proofs.Workspace.Tree

/-!
# How a workspace comes about

The edits that a workspace is built with, each refused or carried out as a whole, and the workspaces
that any sequence of them leads to from the empty one. Whatever the sequence was, a tree is left.
-/

namespace Wayfinder.Workspace

namespace Objects

variable {objects changed : Objects}

theorem IsTree.createItem {group : GroupId} {item : Item} {id : ItemId} (tree : objects.IsTree)
    (there : objects.HasGroup group) (empty : item.items = [])
    (created : objects.createItem group item = .ok (changed, id)) : changed.IsTree := by
  have placed := createItem_placed there empty created
  have holds := tree.toHoldsItems.placed there placed
  have lists : changed.ListsViews :=
    tree.toListsViews.of_keeps
      (fun {id view} found => ⟨view, by rwa [view?, placed.views], rfl⟩) (placed.viewsOf rootSpace)
  exact ⟨holds, lists, placed.spaces.trans tree.single⟩

theorem IsTree.modifyItem (tree : objects.IsTree) (id : ItemId) {change : Item → Item}
    (name : ∀ item, (change item).name = item.name)
    (parent : ∀ item, (change item).parent = item.parent)
    (items : ∀ item, (change item).items = item.items) :
    (objects.modifyItem id change).IsTree :=
  ⟨tree.toHoldsItems.of_keeps (keepsItems_modifyItem objects id name parent items),
    tree.toListsViews.of_keeps (fun {_ view} found => ⟨view, found, rfl⟩) rfl, tree.single⟩

theorem keepsNames_newView (objects : Objects) (view : ListView) :
    KeepsNames objects (objects.newView view).1 := by
  intro id held found
  obtain ⟨bound, -⟩ := List.getElem?_eq_some_iff.mp found
  exact ⟨held, (List.getElem?_append_left bound).trans found, rfl⟩

theorem IsTree.newView (tree : objects.IsTree) (view : ListView) : (objects.newView view).1.IsTree :=
  ⟨tree.toHoldsItems.of_keeps ⟨fun group => by cases group <;> rfl, fun _ => rfl⟩,
    tree.toListsViews.of_keeps (keepsNames_newView objects view) rfl, tree.single⟩

theorem keepsNames_modifyView (objects : Objects) (id : ViewId) (change : ListView → ListView)
    (name : ∀ view, (change view).name = view.name) :
    KeepsNames objects (objects.modifyView id change) := by
  intro other held found
  rw [view?_modifyView, found]
  split
  · exact ⟨change held, rfl, name held⟩
  · exact ⟨held, rfl, rfl⟩

theorem IsTree.modifyView (tree : objects.IsTree) (id : ViewId) {change : ListView → ListView}
    (name : ∀ view, (change view).name = view.name) : (objects.modifyView id change).IsTree :=
  ⟨tree.toHoldsItems.of_keeps ⟨fun group => by cases group <;> rfl, fun _ => rfl⟩,
    tree.toListsViews.of_keeps (keepsNames_modifyView objects id change name) rfl, tree.single⟩

/-- A change to a workspace that leaves alone the items it holds. -/
theorem keepsItems_modifySpace (objects : Objects) (id : SpaceId) (change : Space → Space)
    (items : ∀ space, (change space).items = space.items) :
    KeepsItems objects (objects.modifySpace id change) := by
  refine ⟨fun group => ?_, fun _ => rfl⟩
  cases group with
  | folder folder => rfl
  | space space =>
      simp only [members, space?_modifySpace]
      split
      · simp [Function.comp_def, items]
      · rfl

/-- A change to a workspace that leaves alone the views it lists. -/
theorem viewsOf_modifySpace (objects : Objects) (id other : SpaceId) (change : Space → Space)
    (views : ∀ space, (change space).views = space.views) :
    (objects.modifySpace id change).viewsOf other = objects.viewsOf other := by
  rw [viewsOf, space?_modifySpace]
  split
  · simp [viewsOf, Function.comp_def, views]
  · rfl

/-- The objects after a view was put behind the other views of a workspace. -/
def listed (objects : Objects) (space : SpaceId) (id : ViewId) : Objects :=
  (objects.modifyView id fun view => { view with owner := some space }).modifySpace space
    fun space => { space with views := space.views ++ [id] }

theorem view?_listed (objects : Objects) (space : SpaceId) (id other : ViewId) :
    (objects.listed space id).view? other =
      if other = id then (objects.view? other).map fun view => { view with owner := some space }
      else objects.view? other :=
  view?_modifyView objects id other _

/-- A view that no workspace lists is not found in a workspace. -/
theorem viewNamed?_newView {space : SpaceId} (view : ListView)
    (held : ∀ id ∈ objects.viewsOf space, ∃ old, objects.view? id = some old) (name : String) :
    (objects.newView view).1.viewNamed? space name = objects.viewNamed? space name := by
  rw [viewNamed?, viewNamed?]
  apply List.find?_congr
  intro id member
  obtain ⟨old, found⟩ := held id member
  have older : id ≠ ⟨objects.views.length⟩ := by
    rintro rfl
    exact absurd (List.getElem?_eq_some_iff.mp found).1 (by simp)
  rw [view?_newView, if_neg older]

/-- Making a view of a new name in a workspace puts it behind the others. -/
theorem createView_eq {space : SpaceId} (name : Name) (key : Option Int)
    (held : ∀ id ∈ objects.viewsOf space, ∃ old, objects.view? id = some old)
    (free : objects.viewNamed? space name.text = none) :
    objects.createView space name.text key =
      .ok ((objects.newView { name, id := key }).1.listed space ⟨objects.views.length⟩,
        ⟨objects.views.length⟩) := by
  let view : ListView := { name, id := key }
  have made : listView name.text key = .ok view :=
    map_eq_ok_iff.mpr ⟨name, checkName_eq_ok_iff.mpr rfl, rfl⟩
  have there : (objects.newView view).1.view? ⟨objects.views.length⟩ = some view := by
    rw [view?_newView, if_pos rfl]
  have added : (objects.newView view).1.addView space ⟨objects.views.length⟩ =
      .ok ((objects.newView view).1.listed space ⟨objects.views.length⟩) := by
    simp only [addView, there, viewNamed?_newView view held, free, view]
    rfl
  refine bind_eq_ok_iff.mpr ⟨view, made, ?_⟩
  exact bind_eq_ok_iff.mpr ⟨_, added, rfl⟩

/-- What adding a view to a workspace comes to. A view that is not there changes nothing. -/
theorem addView_eq_ok {space : SpaceId} {id : ViewId}
    (added : objects.addView space id = .ok changed) :
    changed = objects ∨ ∃ view, objects.view? id = some view ∧
      (∀ other ∈ objects.viewsOf space, ∀ held, objects.view? other = some held →
        held.name.text ≠ view.name.text) ∧ changed = objects.listed space id := by
  unfold addView at added
  split at added
  case h_1 => exact .inl (Except.ok.inj added).symm
  case h_2 view found =>
    split at added
    case h_1 => cases added
    case h_2 free =>
      exact .inr ⟨view, found, viewNamed?_eq_none_iff.mp free, (Except.ok.inj added).symm⟩

theorem viewsOf_listed (single : objects.spaces.length = 1) (id : ViewId) :
    (objects.listed rootSpace id).viewsOf rootSpace = objects.viewsOf rootSpace ++ [id] := by
  obtain ⟨space, there⟩ : ∃ space, objects.space? rootSpace = some space :=
    ⟨objects.spaces[0], List.getElem?_eq_getElem (l := objects.spaces) (i := 0) (by omega)⟩
  have kept : (objects.modifyView id fun view => { view with owner := some rootSpace }).space?
      rootSpace = objects.space? rootSpace := rfl
  rw [viewsOf, listed, space?_modifySpace, if_pos rfl, kept, viewsOf, there]
  rfl

theorem IsTree.addView {id : ViewId} (tree : objects.IsTree)
    (added : objects.addView rootSpace id = .ok changed) : changed.IsTree := by
  rcases addView_eq_ok added with rfl | ⟨view, found, free, rfl⟩
  · exact tree
  · have keeps : KeepsNames objects (objects.listed rootSpace id) :=
      keepsNames_modifyView objects id (fun view => { view with owner := some rootSpace }) fun _ => rfl
    have kept := keepsItems_modifySpace objects rootSpace
      (fun space => { space with views := space.views ++ [id] }) fun _ => rfl
    refine ⟨tree.toHoldsItems.of_keeps ⟨kept.members, kept.standing⟩, ?_, ?_⟩
    · exact tree.toListsViews.append keeps found free (viewsOf_listed tree.single id)
    · simpa [listed, Objects.modifyView, modifySpace] using tree.single

theorem IsTree.setPrimaryView {id : ViewId} (tree : objects.IsTree)
    (chosen : objects.setPrimaryView rootSpace id = .ok changed) : changed.IsTree := by
  unfold Objects.setPrimaryView at chosen
  split at chosen
  case isFalse => cases chosen
  case isTrue =>
    cases chosen
    refine ⟨?_, ?_, ?_⟩
    · exact tree.toHoldsItems.of_keeps (keepsItems_modifySpace objects rootSpace _ fun _ => rfl)
    · exact tree.toListsViews.of_keeps (fun {_ view} found => ⟨view, found, rfl⟩)
        (viewsOf_modifySpace objects rootSpace _ _ fun _ => rfl)
    · simpa [modifySpace] using tree.single

/-- The empty workspace is a tree. -/
theorem isTree_newSpace : (Objects.newSpace {}).1.IsTree := by
  have unheld (id : ItemId) : (Objects.newSpace {}).1.item? id = none := rfl
  have empty (group : GroupId) : (Objects.newSpace {}).1.members group = [] := by
    cases group with
    | folder id => rfl
    | space space =>
        obtain ⟨index⟩ := space
        cases index <;> rfl
  have unlisted : (Objects.newSpace {}).1.viewsOf rootSpace = [] := rfl
  refine ⟨⟨?_, ?_, ?_, ?_, ?_⟩, ⟨?_, ?_, ?_⟩, rfl⟩ <;> simp [unheld, empty, unlisted]

end Objects

/-- Whether an edit can be asked for: a group to make an item in must be there. -/
def Edit.Fits {τ : Type} (objects : Objects) : Edit τ → Prop
  | .createJob group _ _ _ _ => objects.HasGroup group
  | .createFolder group _ _ _ => objects.HasGroup group
  | _ => True

/-- The objects that edits lead to from one empty workspace. A refused edit leads nowhere. -/
inductive Grown : Objects → Prop where
  | empty : Grown (Objects.newSpace {}).1
  | edit {objects changed : Objects} (grown : Grown objects) (edit : Edit String) (fits : edit.Fits objects)
      (applied : edit.apply objects = .ok changed) : Grown changed

namespace Objects

variable {objects changed : Objects}

theorem items_job {name : String} {displayName : Option String} {disabled : Bool} {id : Option Int}
    {item : Item} (made : job name displayName disabled id = .ok item) : item.items = [] := by
  obtain ⟨checked, -, rfl⟩ := map_eq_ok_iff.mp made
  rfl

theorem items_folder {name : String} {displayName : Option String} {id : Option Int} {item : Item}
    (made : folder name displayName id = .ok item) : item.items = [] := by
  obtain ⟨checked, -, rfl⟩ := map_eq_ok_iff.mp made
  rfl

theorem IsTree.createJob {group : GroupId} {name : String} {displayName : Option String}
    {disabled : Bool} {key : Option Int} {id : ItemId} (tree : objects.IsTree)
    (there : objects.HasGroup group)
    (created : objects.createJob group name displayName disabled key = .ok (changed, id)) :
    changed.IsTree := by
  obtain ⟨item, made, created⟩ := bind_eq_ok_iff.mp created
  exact tree.createItem there (items_job made) created

theorem IsTree.createFolder {group : GroupId} {name : String} {displayName : Option String}
    {key : Option Int} {id : ItemId} (tree : objects.IsTree) (there : objects.HasGroup group)
    (created : objects.createFolder group name displayName key = .ok (changed, id)) :
    changed.IsTree := by
  obtain ⟨item, made, created⟩ := bind_eq_ok_iff.mp created
  exact tree.createItem there (items_folder made) created

/-- Every edit leaves a tree. -/
theorem IsTree.apply {edit : Edit String} (tree : objects.IsTree) (fits : edit.Fits objects)
    (applied : edit.apply objects = .ok changed) : changed.IsTree := by
  cases edit with
  | createJob group name displayName disabled id =>
      obtain ⟨⟨after, item⟩, created, rfl⟩ := map_eq_ok_iff.mp applied
      exact tree.createJob fits created
  | createFolder group name displayName id =>
      obtain ⟨⟨after, item⟩, created, rfl⟩ := map_eq_ok_iff.mp applied
      exact tree.createFolder fits created
  | newView name id =>
      obtain ⟨view, made, rfl⟩ := map_eq_ok_iff.mp applied
      exact tree.newView view
  | addView view => exact tree.addView applied
  | listItem view item =>
      cases applied
      apply tree.modifyView view
      intro view
      unfold ListView.add
      split <;> rfl
  | unlistItem view item =>
      cases applied
      exact tree.modifyView view fun _ => rfl
  | setDisplayName item value =>
      cases applied
      exact tree.modifyItem item (fun _ => rfl) (fun _ => rfl) (fun _ => rfl)
  | setDisabled item disabled =>
      cases applied
      refine tree.modifyItem item ?_ ?_ ?_ <;> rintro ⟨name, displayName, id, parent, body⟩ <;>
        cases body <;> rfl
  | setPrimaryView view => exact tree.setPrimaryView applied

end Objects

/-- Whatever edits it took, a tree is left. -/
theorem Grown.isTree {objects : Objects} (grown : Grown objects) : objects.IsTree := by
  induction grown with
  | empty => exact Objects.isTree_newSpace
  | edit grown edit fits applied tree => exact tree.apply fits applied

end Wayfinder.Workspace
