import Mathlib.Data.List.Find
import Wayfinder.Workspace.Editing

/-!
# Placing a new item

What making an item in a group does to every object, so that no later proof looks at how it is done:
the new item gets the next identity and the group as its parent, the group holds it behind all others,
and nothing else changes.
-/

namespace Wayfinder.Workspace

namespace Item

theorem withItem_of_isFolder {item : Item} (folder : item.isFolder = true) (added : ItemId) :
    item.withItem added = { item with body := .folder (item.items ++ [added]) } := by
  obtain ⟨name, displayName, id, parent, body⟩ := item
  cases body with
  | job disabled => cases folder
  | folder items => rfl

@[simp] theorem withItem_name (item : Item) (added : ItemId) :
    (item.withItem added).name = item.name := by
  unfold withItem
  split <;> rfl

@[simp] theorem withItem_parent (item : Item) (added : ItemId) :
    (item.withItem added).parent = item.parent := by
  unfold withItem
  split <;> rfl

end Item

namespace Objects

/-- The views of a workspace, in the order in which they were added. -/
def viewsOf (objects : Objects) (space : SpaceId) : List ViewId :=
  ((objects.space? space).map Space.views).getD []

/-- Whether a group is there to hold items. -/
def HasGroup (objects : Objects) : GroupId → Prop
  | .folder id => objects.group? id = some (.folder id)
  | .space id => (objects.space? id).isSome

theorem group?_eq_some_iff {objects : Objects} {id : ItemId} {group : GroupId} :
    objects.group? id = some group ↔
      group = .folder id ∧ ∃ item, objects.item? id = some item ∧ item.isFolder = true := by
  unfold group?
  cases found : objects.item? id with
  | none => simp
  | some item =>
      cases folder : item.isFolder with
      | false => simp [folder]
      | true =>
          simp only [folder, if_true, Option.some.injEq]
          exact ⟨fun same => ⟨same.symm, item, rfl, folder⟩, fun same => same.1.symm⟩

theorem hasGroup_folder_iff {objects : Objects} {id : ItemId} :
    objects.HasGroup (.folder id) ↔
      ∃ item, objects.item? id = some item ∧ item.isFolder = true := by
  simp [HasGroup, group?_eq_some_iff]

theorem mem_itemIds {objects : Objects} {id : ItemId} :
    id ∈ objects.itemIds ↔ id.index < objects.items.length := by
  obtain ⟨index⟩ := id
  simp [itemIds]

theorem mem_viewIds {objects : Objects} {id : ViewId} :
    id ∈ objects.viewIds ↔ id.index < objects.views.length := by
  obtain ⟨index⟩ := id
  simp [viewIds]

theorem item?_modifyItem (objects : Objects) (id other : ItemId) (change : Item → Item) :
    (objects.modifyItem id change).item? other =
      if other = id then (objects.item? other).map change else objects.item? other := by
  obtain ⟨index⟩ := id
  obtain ⟨otherIndex⟩ := other
  simp only [item?, modifyItem, List.getElem?_modify, ItemId.mk.injEq, eq_comm (a := index)]
  split <;> simp

theorem space?_modifySpace (objects : Objects) (id other : SpaceId) (change : Space → Space) :
    (objects.modifySpace id change).space? other =
      if other = id then (objects.space? other).map change else objects.space? other := by
  obtain ⟨index⟩ := id
  obtain ⟨otherIndex⟩ := other
  simp only [space?, modifySpace, List.getElem?_modify, SpaceId.mk.injEq, eq_comm (a := index)]
  split <;> simp

theorem view?_modifyView (objects : Objects) (id other : ViewId) (change : ListView → ListView) :
    (objects.modifyView id change).view? other =
      if other = id then (objects.view? other).map change else objects.view? other := by
  obtain ⟨index⟩ := id
  obtain ⟨otherIndex⟩ := other
  simp only [view?, modifyView, List.getElem?_modify, ViewId.mk.injEq, eq_comm (a := index)]
  split <;> simp

theorem item?_newItem (objects : Objects) (item : Item) (other : ItemId) :
    (objects.newItem item).1.item? other =
      if other = ⟨objects.items.length⟩ then some item else objects.item? other := by
  obtain ⟨index⟩ := other
  simp only [newItem, item?, ItemId.mk.injEq, List.getElem?_append]
  split
  case isTrue bound =>
    rw [if_neg (by omega)]
  case isFalse bound =>
    split
    case isTrue same => simp [same]
    case isFalse other =>
      rw [List.getElem?_eq_none (by simp; omega), List.getElem?_eq_none (by omega)]

theorem view?_newView (objects : Objects) (view : ListView) (other : ViewId) :
    (objects.newView view).1.view? other =
      if other = ⟨objects.views.length⟩ then some view else objects.view? other := by
  obtain ⟨index⟩ := other
  simp only [newView, view?, ViewId.mk.injEq, List.getElem?_append]
  split
  case isTrue bound =>
    rw [if_neg (by omega)]
  case isFalse bound =>
    split
    case isTrue same => simp [same]
    case isFalse other =>
      rw [List.getElem?_eq_none (by simp; omega), List.getElem?_eq_none (by omega)]

theorem item?_lt {objects : Objects} {id : ItemId} {item : Item}
    (found : objects.item? id = some item) : id.index < objects.items.length :=
  (List.getElem?_eq_some_iff.mp found).1

/-- The item that stands at a group, if it is a folder, takes in a new member. -/
def grownBy (group : GroupId) (added id : ItemId) (item : Item) : Item :=
  if group = .folder id then item.withItem added else item

@[simp] theorem grownBy_name (group : GroupId) (added id : ItemId) (item : Item) :
    (grownBy group added id item).name = item.name := by
  unfold grownBy
  split <;> simp

@[simp] theorem grownBy_parent (group : GroupId) (added id : ItemId) (item : Item) :
    (grownBy group added id item).parent = item.parent := by
  unfold grownBy
  split <;> simp

/-- No item of a group has a name exactly if looking for that name finds nothing. -/
theorem child?_eq_none_iff {objects : Objects} {group : GroupId} {name : String} :
    objects.child? group name = none ↔ ∀ id ∈ objects.members group, ∀ item,
      objects.item? id = some item → item.name.text ≠ name := by
  simp only [child?, List.find?_eq_none]
  apply forall₂_congr
  intro id _
  cases objects.item? id <;> simp

/-- No view of a workspace has a name exactly if looking for that name finds nothing. -/
theorem viewNamed?_eq_none_iff {objects : Objects} {space : SpaceId} {name : String} :
    objects.viewNamed? space name = none ↔ ∀ id ∈ objects.viewsOf space, ∀ view,
      objects.view? id = some view → view.name.text ≠ name := by
  simp only [viewNamed?, List.find?_eq_none]
  apply forall₂_congr
  intro id _
  cases objects.view? id <;> simp

/-- What placing a new item in a group comes to. -/
structure Placed (objects changed : Objects) (group : GroupId) (item : Item) (id : ItemId) :
    Prop where
  id_eq : id = ⟨objects.items.length⟩
  free : ∀ other ∈ objects.members group, ∀ held, objects.item? other = some held →
    held.name.text ≠ item.name.text
  item?_new : changed.item? id = some { item with parent := some group }
  item?_old : ∀ other ≠ id, changed.item? other =
    (objects.item? other).map (grownBy group id other)
  members : ∀ other, changed.members other =
    if other = group then objects.members group ++ [id] else objects.members other
  length : changed.items.length = objects.items.length + 1
  views : changed.views = objects.views
  viewsOf : ∀ space, changed.viewsOf space = objects.viewsOf space
  spaces : changed.spaces.length = objects.spaces.length

theorem Placed.item?_lt {objects changed : Objects} {group : GroupId} {item : Item} {id other : ItemId}
    (placed : Placed objects changed group item id) {old : Item}
    (found : objects.item? other = some old) : other ≠ id := by
  rintro rfl
  have bound := Objects.item?_lt found
  simp [placed.id_eq] at bound

/-- The objects after an item was made and put at the end of a group. -/
def place (objects : Objects) (group : GroupId) (item : Item) : Objects :=
  let made := objects.newItem item
  (made.1.modifyItem made.2 fun item => { item with parent := some group }).append group made.2

theorem createItem_eq_ok_iff {objects changed : Objects} {group : GroupId} {item : Item}
    {id : ItemId} : objects.createItem group item = .ok (changed, id) ↔
      (objects.newItem item).1.child? group item.name.text = none ∧
        changed = objects.place group item ∧ id = ⟨objects.items.length⟩ := by
  have made : (objects.newItem item).1.item? ⟨objects.items.length⟩ = some item := by
    simp [item?_newItem]
  have unfolded : objects.createItem group item =
      ((objects.newItem item).1.addItem group ⟨objects.items.length⟩).map
        fun changed => (changed, ⟨objects.items.length⟩) := rfl
  rw [unfolded, addItem]
  simp only [made]
  cases taken : (objects.newItem item).1.child? group item.name.text with
  | some other => simp [Except.map]
  | none =>
      simp only [Except.map, Except.ok.injEq, Prod.mk.injEq, true_and]
      exact and_congr ⟨fun same => same.symm, fun same => same.symm⟩
        ⟨fun same => same.symm, fun same => same.symm⟩

theorem map_grownBy_of_ne {group : GroupId} {id : ItemId} (added : ItemId) (held : Option Item)
    (different : group ≠ .folder id) : held.map (grownBy group added id) = held := by
  cases held <;> simp [grownBy, different]

theorem map_grownBy_self (added id : ItemId) (held : Option Item) :
    held.map (grownBy (.folder id) added id) = held.map fun item => item.withItem added := by
  cases held <;> simp [grownBy]

theorem item?_place {objects : Objects} {group : GroupId} (item : Item) (other : ItemId)
    (there : objects.HasGroup group) : (objects.place group item).item? other =
      if other = ⟨objects.items.length⟩ then some { item with parent := some group }
      else (objects.item? other).map (grownBy group ⟨objects.items.length⟩ other) := by
  have detached (other : ItemId) : ((objects.newItem item).1.modifyItem ⟨objects.items.length⟩
      fun item => { item with parent := some group }).item? other =
        if other = ⟨objects.items.length⟩ then some { item with parent := some group }
        else objects.item? other := by
    rw [item?_modifyItem, item?_newItem]
    split <;> rfl
  cases group with
  | space space =>
      rw [map_grownBy_of_ne _ _ (by simp)]
      exact detached other
  | folder folder =>
      obtain ⟨holder, found, -⟩ := hasGroup_folder_iff.mp there
      have older : folder ≠ ⟨objects.items.length⟩ := by
        rintro rfl
        exact absurd (item?_lt found) (by simp)
      have same : (objects.place (.folder folder) item).item? other =
          (((objects.newItem item).1.modifyItem ⟨objects.items.length⟩
            fun item => { item with parent := some (.folder folder) }).modifyItem folder
              fun holder => holder.withItem ⟨objects.items.length⟩).item? other := rfl
      rw [same, item?_modifyItem, detached]
      by_cases holder : other = folder
      · subst holder
        rw [if_pos rfl, if_neg older, if_neg older, map_grownBy_self]
      · rw [if_neg holder, map_grownBy_of_ne _ _ (by simpa using Ne.symm holder)]

theorem members_place {objects : Objects} {group : GroupId} {item : Item}
    (there : objects.HasGroup group) (empty : item.items = []) (other : GroupId) :
    (objects.place group item).members other =
      if other = group then objects.members group ++ [⟨objects.items.length⟩]
      else objects.members other := by
  cases other with
  | space space =>
      cases group with
      | folder folder => simp [members, place, append, newItem, modifyItem, space?]
      | space holder =>
          have same : (objects.place (.space holder) item).space? space =
              (objects.modifySpace holder fun space =>
                { space with items := space.items ++ [⟨objects.items.length⟩] }).space? space := rfl
          simp only [members, same, space?_modifySpace, GroupId.space.injEq]
          split
          case isTrue equal =>
            subst equal
            obtain ⟨found, there⟩ := Option.isSome_iff_exists.mp there
            simp [there]
          case isFalse => rfl
  | folder id =>
      simp only [members, item?_place item id there]
      by_cases new : id = ⟨objects.items.length⟩
      · have unheld : objects.item? id = none := by
          simp [item?, new]
        have different : GroupId.folder id ≠ group := by
          rintro rfl
          obtain ⟨holder, found, -⟩ := hasGroup_folder_iff.mp there
          rw [unheld] at found
          cases found
        simp only [new, if_true, Option.map_some, Option.getD_some]
        rw [← new, if_neg different, unheld]
        simpa [Item.items] using empty
      · rw [if_neg new]
        by_cases same : GroupId.folder id = group
        · obtain ⟨holder, found, folder⟩ := hasGroup_folder_iff.mp (same ▸ there)
          simp [← same, found, grownBy, Item.withItem_of_isFolder folder, Item.items]
        · cases found : objects.item? id <;> simp [same, grownBy, Ne.symm same]

theorem members_newItem {objects : Objects} {group : GroupId} (item : Item)
    (there : objects.HasGroup group) :
    (objects.newItem item).1.members group = objects.members group := by
  cases group with
  | space space => rfl
  | folder id =>
      obtain ⟨holder, found, -⟩ := hasGroup_folder_iff.mp there
      have older : id ≠ ⟨objects.items.length⟩ := by
        rintro rfl
        exact absurd (item?_lt found) (by simp)
      simp only [members, item?_newItem, if_neg older]

/-- An item that no group holds is not found in a group. -/
theorem child?_newItem {objects : Objects} {group : GroupId} (item : Item)
    (there : objects.HasGroup group)
    (held : ∀ id ∈ objects.members group, ∃ old, objects.item? id = some old) (name : String) :
    (objects.newItem item).1.child? group name = objects.child? group name := by
  rw [child?, members_newItem item there, child?]
  apply List.find?_congr
  intro id member
  obtain ⟨old, found⟩ := held id member
  have older : id ≠ ⟨objects.items.length⟩ := by
    rintro rfl
    exact absurd (item?_lt found) (by simp)
  rw [item?_newItem, if_neg older]

/-- Making an item in a group: it is placed there, unless its name is taken. -/
theorem createItem_eq {objects : Objects} {group : GroupId} (item : Item)
    (there : objects.HasGroup group)
    (held : ∀ id ∈ objects.members group, ∃ old, objects.item? id = some old) :
    objects.createItem group item =
      match objects.child? group item.name.text with
      | some _ => .error (.duplicateItem item.name.text)
      | none => .ok (objects.place group item, ⟨objects.items.length⟩) := by
  have made : (objects.newItem item).1.item? ⟨objects.items.length⟩ = some item := by
    simp [item?_newItem]
  have unfolded : objects.createItem group item =
      ((objects.newItem item).1.addItem group ⟨objects.items.length⟩).map
        fun changed => (changed, ⟨objects.items.length⟩) := rfl
  rw [unfolded, addItem]
  simp only [made]
  rw [child?_newItem item there held]
  cases objects.child? group item.name.text <;> rfl

theorem viewsOf_place (objects : Objects) (group : GroupId) (item : Item) (space : SpaceId) :
    (objects.place group item).viewsOf space = objects.viewsOf space := by
  cases group with
  | folder id => rfl
  | space holder =>
      have same : (objects.place (.space holder) item).space? space =
          (objects.modifySpace holder fun space =>
            { space with items := space.items ++ [⟨objects.items.length⟩] }).space? space := rfl
      rw [viewsOf, same, space?_modifySpace]
      split
      · rw [Option.map_map]
        rfl
      · rfl

/-- Making an item in a group that is there places it. -/
theorem createItem_placed {objects changed : Objects} {group : GroupId} {item : Item} {id : ItemId}
    (there : objects.HasGroup group) (empty : item.items = [])
    (created : objects.createItem group item = .ok (changed, id)) :
    Placed objects changed group item id := by
  obtain ⟨free, rfl, rfl⟩ := createItem_eq_ok_iff.mp created
  constructor
  case id_eq => rfl
  case free =>
    intro other member held found
    refine child?_eq_none_iff.mp free other ?_ held ?_
    · rwa [members_newItem item there]
    · rw [item?_newItem, if_neg, found]
      rintro rfl
      exact absurd (item?_lt found) (by simp)
  case item?_new => rw [item?_place item _ there, if_pos rfl]
  case item?_old =>
    intro other new
    rw [item?_place item _ there, if_neg new]
  case members => exact members_place there empty
  case length => cases group <;> simp [place, append, newItem, modifyItem, modifySpace]
  case views => cases group <;> rfl
  case viewsOf => exact viewsOf_place objects group item
  case spaces => cases group <;> simp [place, append, newItem, modifyItem, modifySpace]

end Objects

end Wayfinder.Workspace
