import Mathlib.Data.List.Nodup
import Mathlib.Logic.Function.Basic
import Wayfinder.Proofs.Workspace.Growth

/-!
# Links both ways

Groups hold items and items know a group, workspaces list views and views know a workspace. An item can be
held by many groups, but the one that it knows is among them, and no group holds two items of one name.
This is told once for anything that is held and named, and then what a change of objects does to it.
-/

namespace Wayfinder.Workspace

/-- Boxes hold what is there and has names of its own in each box; whatever is held is linked to a box
that holds it. -/
structure Linked {κ ι : Type} (held : κ → List ι) (name? : ι → Option String) (link? : ι → Option κ) :
    Prop where
  named : ∀ box, ∀ id ∈ held box, (name? id).isSome
  distinct : ∀ box, ((held box).map name?).Nodup
  linked : ∀ box, ∀ id ∈ held box, ∃ link, link? id = some link ∧ id ∈ held link

namespace Linked

variable {κ ι : Type} [DecidableEq ι] {held : κ → List ι} {name? : ι → Option String}
  {link? : ι → Option κ}

/-- Something new that no box holds may have any name and any link. -/
theorem create (linked : Linked held name? link?) {new : ι} (absent : name? new = none)
    (name : Option String) (link : Option κ) :
    Linked held (Function.update name? new name) (Function.update link? new link) := by
  have older : ∀ box, ∀ id ∈ held box, id ≠ new := by
    rintro box id member rfl
    have some := linked.named box id member
    rw [absent] at some
    cases some
  constructor
  case named =>
    intro box id member
    rw [Function.update_of_ne (older box id member)]
    exact linked.named box id member
  case distinct =>
    intro box
    have same : (held box).map (Function.update name? new name) = (held box).map name? :=
      List.map_congr_left fun id member => Function.update_of_ne (older box id member) _ _
    rw [same]
    exact linked.distinct box
  case linked =>
    intro box id member
    rw [Function.update_of_ne (older box id member)]
    exact linked.linked box id member

omit [DecidableEq ι] in
/-- What the boxes hold after something was put into one of them. -/
theorem mem_update_concat [DecidableEq κ] {box other : κ} {new id : ι} :
    id ∈ Function.update held box (held box ++ [new]) other ↔ id ∈ held other ∨ other = box ∧ id = new := by
  by_cases same : other = box
  · subst same
    simp
  · simp [same]

/-- What has a name that is free in a box is put behind what the box holds, and linked to it. -/
theorem add [DecidableEq κ] (linked : Linked held name? link?) {box : κ} {new : ι}
    (named : (name? new).isSome) (free : name? new ∉ (held box).map name?) :
    Linked (Function.update held box (held box ++ [new])) name?
      (Function.update link? new (some box)) := by
  constructor
  case named =>
    intro other id member
    rcases mem_update_concat.mp member with old | ⟨-, rfl⟩
    · exact linked.named other id old
    · exact named
  case distinct =>
    intro other
    by_cases same : other = box
    · subst same
      rw [Function.update_self, List.map_append, List.map_singleton]
      exact Objects.nodup_append_singleton (linked.distinct other) free
    · rw [Function.update_of_ne same]
      exact linked.distinct other
  case linked =>
    intro other id member
    by_cases new : id = new
    · subst new
      exact ⟨box, Function.update_self .., mem_update_concat.mpr (.inr ⟨rfl, rfl⟩)⟩
    · rcases mem_update_concat.mp member with old | ⟨-, new'⟩
      · obtain ⟨link, found, back⟩ := linked.linked other id old
        exact ⟨link, by rw [Function.update_of_ne new, found], mem_update_concat.mpr (.inl back)⟩
      · exact absurd new' new

omit [DecidableEq ι] in
/-- What a box holds is found in it by its name. -/
theorem find?_eq (linked : Linked held name? link?) {box : κ} {id : ι} (member : id ∈ held box) :
    (held box).find? (fun other => name? other == name? id) = some id := by
  cases found : (held box).find? (fun other => name? other == name? id) with
  | none => simpa using List.find?_eq_none.mp found id member
  | some other =>
      have same : name? other = name? id := by simpa using List.find?_some found
      rw [List.inj_on_of_nodup_map (linked.distinct box) (List.mem_of_find?_eq_some found) member same]

end Linked

namespace Objects

/-- The name of an item. -/
def itemName? (objects : Objects) (id : ItemId) : Option String :=
  (objects.item? id).map fun item => item.name.text

/-- The group that an item was last added to. -/
def parentOf? (objects : Objects) (id : ItemId) : Option GroupId :=
  (objects.item? id).bind Item.parent

/-- The name of a view. -/
def viewName? (objects : Objects) (id : ViewId) : Option String :=
  (objects.view? id).map fun view => view.name.text

/-- The workspace that a view is said to belong to. -/
def ownerOf? (objects : Objects) (id : ViewId) : Option SpaceId :=
  (objects.view? id).bind ListView.owner

/-- The view that was chosen to be shown first. -/
def chosen? (objects : Objects) (space : SpaceId) : Option ViewId :=
  (objects.space? space).bind Space.primary

/-- The items that a view lists. -/
def viewItems (objects : Objects) (id : ViewId) : List ItemId :=
  ((objects.view? id).map ListView.members).getD []

section Observations

variable {objects changed : Objects}

/-- A new workspace has nothing to show of what is read off workspaces. -/
theorem read_newSpace {α : Type} (read : Space → α) (objects : Objects) (other : SpaceId) :
    ((objects.newSpace.1.space? other).map read).getD (read {}) =
      ((objects.space? other).map read).getD (read {}) := by
  obtain ⟨index⟩ := other
  by_cases new : index = objects.spaces.length
  · simp [newSpace, space?, new]
  · have kept : objects.newSpace.1.space? ⟨index⟩ = objects.space? ⟨index⟩ := by
      simp only [newSpace, space?, List.getElem?_append]
      split
      case isTrue => rfl
      case isFalse bound =>
        rw [List.getElem?_eq_none (by simp; omega), List.getElem?_eq_none (by omega)]
    rw [kept]

theorem members_newSpace (objects : Objects) : objects.newSpace.1.members = objects.members := by
  funext group
  cases group with
  | folder id => rfl
  | space space => exact read_newSpace Space.items objects space

theorem viewsOf_newSpace (objects : Objects) : objects.newSpace.1.viewsOf = objects.viewsOf :=
  funext fun space => read_newSpace Space.views objects space

theorem chosen?_newSpace (objects : Objects) : objects.newSpace.1.chosen? = objects.chosen? := by
  have read (objects : Objects) (space : SpaceId) :
      objects.chosen? space = ((objects.space? space).map Space.primary).getD (Space.primary {}) := by
    rw [chosen?]
    cases objects.space? space <;> rfl
  funext space
  rw [read, read, read_newSpace]

/-- A change to a workspace that leaves alone the view it shows first. -/
theorem chosen?_modifySpace (objects : Objects) (id : SpaceId) (change : Space → Space)
    (primary : ∀ space, (change space).primary = space.primary) :
    (objects.modifySpace id change).chosen? = objects.chosen? := by
  funext other
  rw [chosen?, space?_modifySpace]
  split
  · cases found : objects.space? other <;> simp [chosen?, found, primary]
  · rfl

theorem members_newItem_of_empty {item : Item} (empty : item.items = []) :
    (objects.newItem item).1.members = objects.members := by
  funext group
  cases group with
  | space space => rfl
  | folder id =>
      rw [members, item?_newItem]
      split
      case isTrue new =>
        have absent : objects.item? id = none := by simp [new, item?]
        simp [members, absent, empty]
      case isFalse => rfl

/-- The objects after an item was put behind the other items of a group. -/
def joined (objects : Objects) (group : GroupId) (id : ItemId) : Objects :=
  (objects.modifyItem id fun item => { item with parent := some group }).append group id

/-- What adding an item to a group comes to. An item that is not there changes nothing. -/
theorem addItem_eq_ok {group : GroupId} {id : ItemId} (added : objects.addItem group id = .ok changed) :
    changed = objects ∨ ∃ item, objects.item? id = some item ∧
      objects.child? group item.name.text = none ∧ changed = objects.joined group id := by
  unfold addItem at added
  split at added
  case h_1 => exact .inl (Except.ok.inj added).symm
  case h_2 item found =>
    split at added
    case h_1 => cases added
    case h_2 free => exact .inr ⟨item, found, free, (Except.ok.inj added).symm⟩

/-- Adding an item that is there, when it is not refused. -/
theorem eq_joined {group : GroupId} {id : ItemId} (there : (objects.item? id).isSome)
    (added : objects.addItem group id = .ok changed) : changed = objects.joined group id := by
  obtain ⟨item, found⟩ := Option.isSome_iff_exists.mp there
  simp only [addItem, found] at added
  split at added
  case h_1 => cases added
  case h_2 => exact (Except.ok.inj added).symm

/-- Adding a view that is there, when it is not refused. -/
theorem eq_listed {space : SpaceId} {id : ViewId} (there : (objects.view? id).isSome)
    (added : objects.addView space id = .ok changed) : changed = objects.listed space id := by
  obtain ⟨view, found⟩ := Option.isSome_iff_exists.mp there
  simp only [addView, found] at added
  split at added
  case h_1 => cases added
  case h_2 => exact (Except.ok.inj added).symm

theorem item?_joined (objects : Objects) (group : GroupId) (id other : ItemId) :
    (objects.joined group id).item? other = (objects.item? other).map fun item =>
      grownBy group id other (if other = id then { item with parent := some group } else item) := by
  have adopted : (objects.modifyItem id fun item => { item with parent := some group }).item? other =
      (objects.item? other).map fun item =>
        if other = id then { item with parent := some group } else item := by
    rw [item?_modifyItem]
    split <;> simp
  cases group with
  | space space => exact adopted
  | folder folder =>
      rw [joined, append, item?_modifyItem, adopted]
      by_cases same : other = folder
      · simp [same, grownBy, Function.comp_def]
      · simp [same, Ne.symm same, grownBy]

theorem itemName?_joined (objects : Objects) (group : GroupId) (id : ItemId) :
    (objects.joined group id).itemName? = objects.itemName? := by
  funext other
  rw [itemName?, item?_joined, Option.map_map, itemName?]
  congr 1
  funext item
  rw [Function.comp_apply, grownBy_name]
  split <;> rfl

theorem parentOf?_joined {group : GroupId} {id : ItemId} (there : (objects.item? id).isSome) :
    (objects.joined group id).parentOf? = Function.update objects.parentOf? id (some group) := by
  funext other
  rw [parentOf?, item?_joined]
  by_cases same : other = id
  · obtain ⟨item, found⟩ := Option.isSome_iff_exists.mp there
    simp [same, found]
  · rw [Function.update_of_ne same, parentOf?]
    cases objects.item? other <;> simp [same]

/-- Something that is put behind a list of a workspace. -/
theorem read_modifySpace_concat {ι : Type} (read : Space → List ι) {space : SpaceId}
    (there : (objects.space? space).isSome) (change : Space → Space) (new : ι)
    (adds : ∀ space, read (change space) = read space ++ [new]) (other : SpaceId) :
    (((objects.modifySpace space change).space? other).map read).getD [] =
      Function.update (fun space => ((objects.space? space).map read).getD []) space
        (((objects.space? space).map read).getD [] ++ [new]) other := by
  rw [space?_modifySpace]
  by_cases same : other = space
  · subst same
    obtain ⟨found, there⟩ := Option.isSome_iff_exists.mp there
    simp [there, adds]
  · rw [if_neg same, Function.update_of_ne same]

/-- Something that is put behind the items of a folder. -/
theorem members_joined_folder {group : GroupId} (there : objects.HasGroup group) (id folder : ItemId) :
    (objects.joined group id).members (.folder folder) =
      Function.update objects.members group (objects.members group ++ [id]) (.folder folder) := by
  rw [members, item?_joined]
  by_cases same : GroupId.folder folder = group
  · subst same
    obtain ⟨holder, found, isFolder⟩ := hasGroup_folder_iff.mp there
    rw [Function.update_self, members, found, Option.map_some, Option.map_some, Option.getD_some,
      Option.map_some, Option.getD_some, grownBy, if_pos rfl]
    obtain ⟨name, displayName, key, parent, body⟩ := holder
    cases body with
    | job disabled => cases isFolder
    | folder items => split <;> rfl
  · rw [Function.update_of_ne same, members]
    cases found : objects.item? folder with
    | none => rfl
    | some holder =>
        rw [Option.map_some, Option.map_some, Option.map_some, grownBy, if_neg (Ne.symm same)]
        split <;> rfl

theorem members_joined {group : GroupId} (there : objects.HasGroup group) (id : ItemId) :
    (objects.joined group id).members =
      Function.update objects.members group (objects.members group ++ [id]) := by
  funext other
  cases other with
  | folder folder => exact members_joined_folder there id folder
  | space space =>
      cases group with
      | folder folder => rfl
      | space holder =>
          have put := read_modifySpace_concat Space.items there
            (fun space => { space with items := space.items ++ [id] }) id (fun _ => rfl) space
          by_cases same : space = holder
          · subst same
            rw [Function.update_self] at put ⊢
            exact put
          · rw [Function.update_of_ne same] at put
            rw [Function.update_of_ne (by simpa using same)]
            exact put

theorem viewsOf_joined (objects : Objects) (group : GroupId) (id : ItemId) :
    (objects.joined group id).viewsOf = objects.viewsOf := by
  funext space
  cases group with
  | folder folder => rfl
  | space holder => exact viewsOf_modifySpace _ holder space _ fun _ => rfl

theorem chosen?_joined (objects : Objects) (group : GroupId) (id : ItemId) :
    (objects.joined group id).chosen? = objects.chosen? := by
  cases group with
  | folder folder => rfl
  | space holder => exact chosen?_modifySpace _ holder _ fun _ => rfl

theorem views_joined (objects : Objects) (group : GroupId) (id : ItemId) :
    (objects.joined group id).views = objects.views := by
  cases group <;> rfl

theorem members_listed (objects : Objects) (space : SpaceId) (id : ViewId) :
    (objects.listed space id).members = objects.members :=
  funext (keepsItems_modifySpace (objects.modifyView id _) space
    (fun space => { space with views := space.views ++ [id] }) fun _ => rfl).members

theorem viewsOf_listed_update {space : SpaceId} (there : (objects.space? space).isSome) (id : ViewId) :
    (objects.listed space id).viewsOf =
      Function.update objects.viewsOf space (objects.viewsOf space ++ [id]) := by
  let owned := objects.modifyView id fun view => { view with owner := some space }
  have there : (owned.space? space).isSome := there
  exact funext (read_modifySpace_concat Space.views there
    (fun space => { space with views := space.views ++ [id] }) id fun _ => rfl)

theorem viewName?_listed (objects : Objects) (space : SpaceId) (id : ViewId) :
    (objects.listed space id).viewName? = objects.viewName? := by
  funext other
  rw [viewName?, view?_listed]
  split <;> simp [viewName?, Function.comp_def]

theorem ownerOf?_listed {id : ViewId} (space : SpaceId) (there : (objects.view? id).isSome) :
    (objects.listed space id).ownerOf? = Function.update objects.ownerOf? id (some space) := by
  funext other
  rw [ownerOf?, view?_listed]
  by_cases same : other = id
  · obtain ⟨view, found⟩ := Option.isSome_iff_exists.mp there
    simp [same, found]
  · rw [if_neg same, Function.update_of_ne same, ownerOf?]

theorem viewItems_listed (objects : Objects) (space : SpaceId) (id : ViewId) :
    (objects.listed space id).viewItems = objects.viewItems := by
  funext other
  rw [viewItems, view?_listed]
  split <;> simp [viewItems, Function.comp_def]

/-- What choosing a view to be shown first comes to. -/
theorem setPrimaryView_eq_ok {space : SpaceId} {id : ViewId}
    (chosen : objects.setPrimaryView space id = .ok changed) : id ∈ objects.viewsOf space ∧
      changed = objects.modifySpace space fun space => { space with primary := some id } := by
  unfold setPrimaryView at chosen
  split at chosen
  case isTrue listed => exact ⟨listed, (Except.ok.inj chosen).symm⟩
  case isFalse => cases chosen

theorem members_modifyPrimary (objects : Objects) (space : SpaceId) (primary : Option ViewId) :
    (objects.modifySpace space fun space => { space with primary }).members = objects.members :=
  funext (keepsItems_modifySpace objects space (fun space => { space with primary }) fun _ => rfl).members

theorem viewsOf_modifyPrimary (objects : Objects) (space : SpaceId) (primary : Option ViewId) :
    (objects.modifySpace space fun space => { space with primary }).viewsOf = objects.viewsOf :=
  funext fun other => viewsOf_modifySpace objects space other _ fun _ => rfl

end Observations

end Objects

end Wayfinder.Workspace
