import Mathlib.Logic.Relation
import Wayfinder.Proofs.Workspace.Changes
import Wayfinder.Workspace.Steps

/-!
# All or nothing

However objects come about by calls of the operations that make and change them, they are linked both
ways and differ by name. A call that is refused leaves every object as it was; what can be left over is a
new item that no group holds.
-/

namespace Wayfinder.Workspace

open Relation (ReflTransGen)

namespace Objects

instance (objects : Objects) (group : GroupId) : Decidable (objects.HasGroup group) :=
  match group with
  | .folder id => decEq (objects.group? id) (some (.folder id))
  | .space id => decEq (objects.space? id).isSome true

/-- Every object is still what it was. -/
structure Unchanged (objects after : Objects) : Prop where
  item? : ∀ id item, objects.item? id = some item → after.item? id = some item
  view? : ∀ id view, objects.view? id = some view → after.view? id = some view
  space? : ∀ id space, objects.space? id = some space → after.space? id = some space

theorem Unchanged.refl (objects : Objects) : Unchanged objects objects :=
  ⟨fun _ _ found => found, fun _ _ found => found, fun _ _ found => found⟩

theorem unchanged_newItem (objects : Objects) (item : Item) :
    Unchanged objects (objects.newItem item).1 where
  item? id held found := by
    have older : id ≠ ⟨objects.items.length⟩ := by
      rintro rfl
      exact absurd (item?_lt found) (by simp)
    rw [item?_newItem, if_neg older, found]
  view? _ _ found := found
  space? _ _ found := found

theorem hasGroup_newItem {objects : Objects} {group : GroupId} (there : objects.HasGroup group)
    (item : Item) : (objects.newItem item).1.HasGroup group := by
  cases group with
  | space space => exact there
  | folder id =>
      obtain ⟨holder, found, isFolder⟩ := hasGroup_folder_iff.mp there
      exact hasGroup_folder_iff.mpr
        ⟨holder, (unchanged_newItem objects item).item? id holder found, isFolder⟩

end Objects

namespace Steps

variable (objects : Objects)

/-- Adding an item changes everything it is to change, or nothing. -/
theorem on_addItem (group : GroupId) (id : ItemId) : (addItem group id).on objects =
    match objects.addItem group id with
    | .ok changed => (.ok id, changed)
    | .error fault => (.error fault, objects) := by
  unfold addItem Objects.addItem
  cases found : objects.item? id with
  | none => simp [found]
  | some item =>
      cases taken : objects.child? group item.name.text <;> simp [found, taken, Except.map]

theorem on_addView (space : SpaceId) (id : ViewId) : (addView space id).on objects =
    match objects.addView space id with
    | .ok changed => (.ok id, changed)
    | .error fault => (.error fault, objects) := by
  unfold addView Objects.addView
  cases found : objects.view? id with
  | none => simp [found]
  | some view =>
      cases taken : objects.viewNamed? space view.name.text <;> simp [found, taken, Except.map]

theorem on_setPrimaryView (space : SpaceId) (id : ViewId) : (setPrimaryView space id).on objects =
    match objects.setPrimaryView space id with
    | .ok changed => (.ok (), changed)
    | .error fault => (.error fault, objects) := by
  unfold setPrimaryView Objects.setPrimaryView
  by_cases listed : id ∈ ((objects.space? space).map Space.views).getD [] <;> simp [listed]

/-- Making an item in a group: when its name is taken, the new item is left over. -/
theorem on_createItem (group : GroupId) (constructed : Except Fault Item) :
    (make constructed Objects.newItem >>= addItem group).on objects =
      match constructed with
      | .error fault => (.error fault, objects)
      | .ok item =>
        match objects.createItem group item with
        | .ok (changed, id) => (.ok id, changed)
        | .error fault => (.error fault, (objects.newItem item).1) := by
  cases constructed with
  | error fault => rfl
  | ok item =>
      simp only [on_bind, on_make, on_addItem, Objects.createItem]
      cases (objects.newItem item).1.addItem group (objects.newItem item).2 <;> rfl

end Steps

/-- What a refusal by the objects is about. -/
def Fault.IsRefusal (fault : Fault) : Prop :=
  fault.category = .invalidName ∨ fault.category = .duplicate ∨ fault.category = .notFound

theorem isRefusal_of_checkName {text : String} {fault : Fault} (refused : checkName text = .error fault) :
    fault.IsRefusal := by
  unfold checkName at refused
  cases parsed : Name.parse text with
  | ok name =>
      rw [parsed] at refused
      cases refused
  | error reason =>
      rw [parsed] at refused
      cases refused
      exact .inl rfl

namespace Objects

variable {objects : Objects}

theorem isRefusal_of_addItem {group : GroupId} {id : ItemId} {fault : Fault}
    (refused : objects.addItem group id = .error fault) : fault.IsRefusal := by
  unfold addItem at refused
  split at refused
  case h_1 => cases refused
  case h_2 =>
    split at refused
    case h_1 =>
      cases refused
      exact .inr (.inl rfl)
    case h_2 => cases refused

theorem isRefusal_of_addView {space : SpaceId} {id : ViewId} {fault : Fault}
    (refused : objects.addView space id = .error fault) : fault.IsRefusal := by
  unfold addView at refused
  split at refused
  case h_1 => cases refused
  case h_2 =>
    split at refused
    case h_1 =>
      cases refused
      exact .inr (.inl rfl)
    case h_2 => cases refused

theorem isRefusal_of_setPrimaryView {space : SpaceId} {id : ViewId} {fault : Fault}
    (refused : objects.setPrimaryView space id = .error fault) : fault.IsRefusal := by
  unfold setPrimaryView at refused
  split at refused
  case isTrue => cases refused
  case isFalse =>
    cases refused
    exact .inr (.inr rfl)

end Objects

namespace Call

/-- Whether a call can be made: every object that it mentions is there. -/
def Fits (objects : Objects) : Call → Prop
  | .newSpace => True
  | .newJob _ _ _ _ => True
  | .newFolder _ _ _ => True
  | .newView _ owner _ => ∀ space ∈ owner, (objects.space? space).isSome
  | .createJob group _ _ _ _ => objects.HasGroup group
  | .createFolder group _ _ _ => objects.HasGroup group
  | .addItem group item => objects.HasGroup group ∧ (objects.item? item).isSome
  | .addView space view => (objects.space? space).isSome ∧ (objects.view? view).isSome
  | .setPrimaryView space view => (objects.space? space).isSome ∧ (objects.view? view).isSome
  | .listItem view item => (objects.view? view).isSome ∧ (objects.item? item).isSome
  | .unlistItem view item => (objects.view? view).isSome ∧ (objects.item? item).isSome

instance (objects : Objects) : (call : Call) → Decidable (call.Fits objects)
  | .newSpace => .isTrue trivial
  | .newJob .. => .isTrue trivial
  | .newFolder .. => .isTrue trivial
  | .newView _ owner _ => inferInstanceAs (Decidable (∀ space ∈ owner, (objects.space? space).isSome))
  | .createJob group .. => inferInstanceAs (Decidable (objects.HasGroup group))
  | .createFolder group .. => inferInstanceAs (Decidable (objects.HasGroup group))
  | .addItem .. => inferInstanceAs (Decidable (_ ∧ _))
  | .addView .. => inferInstanceAs (Decidable (_ ∧ _))
  | .setPrimaryView .. => inferInstanceAs (Decidable (_ ∧ _))
  | .listItem .. => inferInstanceAs (Decidable (_ ∧ _))
  | .unlistItem .. => inferInstanceAs (Decidable (_ ∧ _))

/-- How a call ends: it is carried out, or it is refused with nothing changed, but for a new item that may
be left over. -/
inductive Ends (objects : Objects) : Except Fault Unit × Objects → Prop where
  | carriedOut {after : Objects} (changes : ReflTransGen Objects.Change objects after) :
      Ends objects (.ok (), after)
  | refused {fault : Fault} (refusal : fault.IsRefusal) : Ends objects (.error fault, objects)
  | leftOver {fault : Fault} (refusal : fault.IsRefusal) (item : Item) (empty : item.items = [])
      (detached : item.parent = none) : Ends objects (.error fault, (objects.newItem item).1)

variable {objects : Objects}

theorem ends_newItem {constructed : Except Fault Item}
    (refusal : ∀ fault, constructed = .error fault → fault.IsRefusal)
    (fresh : ∀ item, constructed = .ok item → item.items = [] ∧ item.parent = none) :
    Ends objects ((discard (Steps.make constructed Objects.newItem)).on objects) := by
  cases made : constructed with
  | error fault => exact .refused (refusal fault made)
  | ok item =>
      obtain ⟨empty, detached⟩ := fresh item made
      exact .carriedOut (.single (.item item empty detached))

theorem ends_createItem {constructed : Except Fault Item} {group : GroupId}
    (there : objects.HasGroup group)
    (refusal : ∀ fault, constructed = .error fault → fault.IsRefusal)
    (fresh : ∀ item, constructed = .ok item → item.items = [] ∧ item.parent = none) :
    Ends objects
      ((discard (Steps.make constructed Objects.newItem >>= Steps.addItem group)).on objects) := by
  cases made : constructed with
  | error fault => exact .refused (refusal fault made)
  | ok item =>
      obtain ⟨empty, detached⟩ := fresh item made
      have new : Objects.Change objects (objects.newItem item).1 := .item item empty detached
      rw [Steps.on_discard, Steps.on_createItem]
      cases created : objects.createItem group item with
      | error fault =>
          simp only [created]
          exact .leftOver (Objects.isRefusal_of_addItem (map_eq_error_iff.mp created)) item empty detached
      | ok placed =>
          obtain ⟨after, id⟩ := placed
          obtain ⟨changed, added, same⟩ := map_eq_ok_iff.mp created
          cases same
          simp only [created]
          exact .carriedOut (.tail (.single new)
            (.join group _ (Objects.hasGroup_newItem there item) added))

theorem fresh_job {name : String} {displayName : Option String} {disabled : Bool} {id : Option Int}
    {item : Item} (made : Objects.job name displayName disabled id = .ok item) :
    item.items = [] ∧ item.parent = none := by
  obtain ⟨checked, -, rfl⟩ := map_eq_ok_iff.mp made
  exact ⟨rfl, rfl⟩

theorem fresh_folder {name : String} {displayName : Option String} {id : Option Int} {item : Item}
    (made : Objects.folder name displayName id = .ok item) : item.items = [] ∧ item.parent = none := by
  obtain ⟨checked, -, rfl⟩ := map_eq_ok_iff.mp made
  exact ⟨rfl, rfl⟩

/-- A constructor refuses a name only. -/
theorem isRefusal_of_map {text : String} {α : Type} {make : Name → α} (fault : Fault)
    (refused : (checkName text).map make = .error fault) : fault.IsRefusal :=
  isRefusal_of_checkName (map_eq_error_iff.mp refused)

/-- Every call that can be made ends in one of the three ways. -/
theorem ends {call : Call} (fits : call.Fits objects) : Ends objects (call.steps.on objects) := by
  cases call with
  | newSpace => exact .carriedOut (.single .space)
  | newJob name displayName disabled id => exact ends_newItem isRefusal_of_map fun _ => fresh_job
  | newFolder name displayName id => exact ends_newItem isRefusal_of_map fun _ => fresh_folder
  | newView name owner id =>
      rw [steps, Steps.on_discard, Steps.newView, Steps.on_make]
      cases made : (Objects.listView name id).map fun view => { view with owner } with
      | error fault => exact .refused (isRefusal_of_map fault (map_eq_error_iff.mp made))
      | ok view =>
          obtain ⟨listed, constructed, rfl⟩ := map_eq_ok_iff.mp made
          obtain ⟨checked, -, rfl⟩ := map_eq_ok_iff.mp constructed
          exact .carriedOut (.single (.view _ rfl))
  | createJob group name displayName disabled id =>
      exact ends_createItem fits isRefusal_of_map fun _ => fresh_job
  | createFolder group name displayName id =>
      exact ends_createItem fits isRefusal_of_map fun _ => fresh_folder
  | addItem group item =>
      rw [steps, Steps.on_discard, Steps.on_addItem]
      cases added : objects.addItem group item with
      | error fault => exact .refused (Objects.isRefusal_of_addItem added)
      | ok changed => exact .carriedOut (.single (.join group item fits.1 added))
  | addView space view =>
      rw [steps, Steps.on_discard, Steps.on_addView]
      cases added : objects.addView space view with
      | error fault => exact .refused (Objects.isRefusal_of_addView added)
      | ok changed => exact .carriedOut (.single (.enlist space view fits.1 added))
  | setPrimaryView space view =>
      rw [steps, Steps.on_setPrimaryView]
      cases chosen : objects.setPrimaryView space view with
      | error fault => exact .refused (Objects.isRefusal_of_setPrimaryView chosen)
      | ok changed => exact .carriedOut (.single (.choose space view chosen))
  | listItem view item => exact .carriedOut (.single (.list view item))
  | unlistItem view item => exact .carriedOut (.single (.unlist view item))

/-- What every change keeps, a call keeps, whether it is carried out or refused. -/
theorem after_induction {call : Call} (Kept : Objects → Prop) (fits : call.Fits objects)
    (start : Kept objects)
    (step : ∀ before changed, Kept before → Objects.Change before changed → Kept changed) :
    Kept (call.after objects) := by
  have ended := ends fits
  unfold after
  generalize call.steps.on objects = result at ended
  cases ended with
  | carriedOut changes =>
      induction changes with
      | refl => exact start
      | tail _ change ih => exact step _ _ ih change
  | refused refusal => exact start
  -- The new item was made before the group refused it.
  | leftOver refusal item empty detached => exact step _ _ start (.item item empty detached)

end Call

/-- The objects that calls lead to when there were none. A call that is refused is made all the same. -/
inductive Reached : Objects → Prop where
  | start : Reached {}
  | call {objects : Objects} (reached : Reached objects) (call : Call) (fits : call.Fits objects) :
      Reached (call.after objects)

namespace Objects

/-- Objects that are linked both ways. -/
structure LinksAll (objects : Objects) : Prop where
  items : objects.LinksItems
  views : objects.LinksViews

theorem linksAll_empty : LinksAll {} := by
  have members (group : GroupId) : ({} : Objects).members group = [] := by cases group <;> rfl
  have viewsOf (space : SpaceId) : ({} : Objects).viewsOf space = [] := rfl
  refine ⟨⟨⟨?_, ?_, ?_⟩, ?_⟩, ⟨⟨?_, ?_, ?_⟩, ?_, ?_⟩⟩
  · simp [members]
  · simp [members]
  · simp [members]
  · intro id group found
    cases found
  · simp [viewsOf]
  · simp [viewsOf]
  · simp [viewsOf]
  · intro space id found
    cases found
  · exact fun id => List.nodup_nil

theorem LinksAll.change {objects changed : Objects} (links : objects.LinksAll)
    (change : Change objects changed) : changed.LinksAll :=
  ⟨links.items.change change, links.views.change change⟩

end Objects

theorem Reached.linksAll {objects : Objects} (reached : Reached objects) : objects.LinksAll := by
  induction reached with
  | start => exact Objects.linksAll_empty
  | call _ call fits links =>
      exact Call.after_induction Objects.LinksAll fits links fun _ _ links change => links.change change

namespace Objects

/-- Objects that can be relied on. Names differ within a group and within a workspace, so whatever is held
is found by its name. An item's parent holds it, and the owner of a view that was added to a workspace
lists it. A workspace that has views shows one of them first, and no view lists an item twice. -/
structure Consistent (objects : Objects) : Prop where
  itemNames : ∀ group, ((objects.members group).map objects.itemName?).Nodup
  item_found : ∀ group, ∀ id ∈ objects.members group, ∃ item, objects.item? id = some item ∧
    objects.child? group item.name.text = some id
  viewNames : ∀ space, ((objects.viewsOf space).map objects.viewName?).Nodup
  view_found : ∀ space, ∀ id ∈ objects.viewsOf space, ∃ view, objects.view? id = some view ∧
    objects.viewNamed? space view.name.text = some id
  parent_holds : ∀ id item group, objects.item? id = some item → item.parent = some group →
    id ∈ objects.members group
  owner_lists : ∀ space, ∀ id ∈ objects.viewsOf space, ∃ view owner, objects.view? id = some view ∧
    view.owner = some owner ∧ id ∈ objects.viewsOf owner
  primary_listed : ∀ space id, objects.primaryView? space = some id → id ∈ objects.viewsOf space
  primary_none : ∀ space, objects.primaryView? space = none ↔ objects.viewsOf space = []
  listed_once : ∀ id view, objects.view? id = some view → view.members.Nodup

variable {objects changed : Objects}

theorem LinksItems.item_found (links : objects.LinksItems) {group : GroupId} {id : ItemId}
    (member : id ∈ objects.members group) : ∃ item, objects.item? id = some item ∧
      objects.child? group item.name.text = some id := by
  have named := links.named group id member
  rw [itemName?, Option.isSome_map] at named
  obtain ⟨item, found⟩ := Option.isSome_iff_exists.mp named
  refine ⟨item, found, ?_⟩
  rw [← links.toLinked.find?_eq member, child?]
  apply List.find?_congr
  intro other held
  cases there : objects.item? other <;> simp [itemName?, found, there]

theorem LinksViews.view_found (links : objects.LinksViews) {space : SpaceId} {id : ViewId}
    (member : id ∈ objects.viewsOf space) : ∃ view, objects.view? id = some view ∧
      objects.viewNamed? space view.name.text = some id := by
  have named := links.named space id member
  rw [viewName?, Option.isSome_map] at named
  obtain ⟨view, found⟩ := Option.isSome_iff_exists.mp named
  refine ⟨view, found, ?_⟩
  rw [← links.toLinked.find?_eq member, viewNamed?]
  apply List.find?_congr
  intro other held
  cases there : objects.view? other <;> simp [viewName?, found, there]

theorem primaryView?_eq (objects : Objects) (space : SpaceId) :
    objects.primaryView? space = (objects.chosen? space).or (objects.viewsOf space).head? := by
  unfold primaryView? chosen? viewsOf
  cases objects.space? space <;> simp

theorem LinksAll.consistent (links : objects.LinksAll) : objects.Consistent where
  itemNames := links.items.distinct
  item_found _ _ member := links.items.item_found member
  viewNames := links.views.distinct
  view_found _ _ member := links.views.view_found member
  parent_holds id item group found parent := by
    refine links.items.holds id group ?_
    rw [parentOf?, found]
    exact parent
  owner_lists space id member := by
    obtain ⟨owner, owned, listed⟩ := links.views.linked space id member
    obtain ⟨view, found, held⟩ := Option.bind_eq_some_iff.mp owned
    exact ⟨view, owner, found, held, listed⟩
  primary_listed space id shown := by
    rw [primaryView?_eq, Option.or_eq_some_iff] at shown
    rcases shown with chosen | ⟨-, first⟩
    · exact links.views.lists space id chosen
    · exact List.mem_of_head? first
  primary_none space := by
    rw [primaryView?_eq, Option.or_eq_none_iff, List.head?_eq_none_iff]
    constructor
    · exact And.right
    · intro empty
      refine ⟨?_, empty⟩
      cases chosen : objects.chosen? space with
      | none => rfl
      | some id =>
          have listed := links.views.lists space id chosen
          rw [empty] at listed
          cases listed
  listed_once id view found := by
    have nodup := links.views.nodup id
    rwa [viewItems, found] at nodup

theorem prefix_update {κ ι : Type} [DecidableEq κ] (held : κ → List ι) (box other : κ) (new : ι) :
    held other <+: Function.update held box (held box ++ [new]) other := by
  by_cases same : other = box
  · subst same
    rw [Function.update_self]
    exact List.prefix_append _ _
  · simp only [Function.update_of_ne same, List.prefix_rfl]

/-- No group loses an item. -/
theorem Change.members_prefix (change : Change objects changed) (group : GroupId) :
    objects.members group <+: changed.members group := by
  have kept {changed : Objects} (same : changed.members = objects.members) :
      objects.members group <+: changed.members group := by
    simp only [same, List.prefix_rfl]
  cases change with
  | space => exact kept (members_newSpace objects)
  | item item empty detached => exact kept (members_newItem_of_empty empty)
  | view | list | unlist => cases group <;> exact List.prefix_rfl
  | join holder id there added =>
      rcases addItem_eq_ok added with rfl | ⟨item, found, free, rfl⟩
      · exact List.prefix_rfl
      · rw [members_joined there]
        exact prefix_update objects.members holder group id
  | enlist space id there added =>
      rcases addView_eq_ok added with rfl | ⟨view, found, free, rfl⟩
      · exact List.prefix_rfl
      · exact kept (members_listed objects space id)
  | choose space id chosen =>
      obtain ⟨-, rfl⟩ := setPrimaryView_eq_ok chosen
      exact kept (members_modifyPrimary objects space (some id))

/-- No workspace loses a view. -/
theorem Change.viewsOf_prefix (change : Change objects changed) (space : SpaceId) :
    objects.viewsOf space <+: changed.viewsOf space := by
  have kept {changed : Objects} (same : changed.viewsOf = objects.viewsOf) :
      objects.viewsOf space <+: changed.viewsOf space := by
    simp only [same, List.prefix_rfl]
  cases change with
  | space => exact kept (viewsOf_newSpace objects)
  | item | view | list | unlist => exact List.prefix_rfl
  | join group id there added =>
      rcases addItem_eq_ok added with rfl | ⟨item, found, free, rfl⟩
      · exact List.prefix_rfl
      · exact kept (viewsOf_joined objects group id)
  | enlist owner id there added =>
      rcases addView_eq_ok added with rfl | ⟨view, found, free, rfl⟩
      · exact List.prefix_rfl
      · rw [viewsOf_listed_update there]
        exact prefix_update objects.viewsOf owner space id
  | choose owner id chosen =>
      obtain ⟨-, rfl⟩ := setPrimaryView_eq_ok chosen
      exact kept (viewsOf_modifyPrimary objects owner (some id))

end Objects

/-- A call does all that it is to do, or nothing. When it is refused, it is for a name that is none, a
name that is taken or a view of another workspace, and every object is still what it was. -/
structure AllOrNothing (objects : Objects) (call : Call) : Prop where
  refused : ∀ fault, call.outcome objects = .error fault →
    fault.IsRefusal ∧ objects.Unchanged (call.after objects)
  joined : ∀ group id, call = .addItem group id → call.outcome objects = .ok () →
    (call.after objects).parentOf? id = some group ∧
      (call.after objects).members group = objects.members group ++ [id]
  enlisted : ∀ space id, call = .addView space id → call.outcome objects = .ok () →
    (call.after objects).ownerOf? id = some space ∧
      (call.after objects).viewsOf space = objects.viewsOf space ++ [id]
  /-- What a group holds or a workspace lists stays there. -/
  itemsStay : ∀ group, objects.members group <+: (call.after objects).members group
  viewsStay : ∀ space, objects.viewsOf space <+: (call.after objects).viewsOf space

namespace Call

variable {objects : Objects} {call : Call}

/-- What a call that can be made is refused for, and what is left when it is. -/
theorem refused_unchanged (fits : call.Fits objects) {fault : Fault}
    (refused : call.outcome objects = .error fault) :
    fault.IsRefusal ∧ objects.Unchanged (call.after objects) := by
  have ended := ends fits
  unfold outcome at refused
  unfold after
  generalize call.steps.on objects = result at ended refused
  cases ended with
  | carriedOut changes => cases refused
  | refused refusal =>
      cases refused
      exact ⟨refusal, .refl objects⟩
  | leftOver refusal item empty detached =>
      cases refused
      exact ⟨refusal, Objects.unchanged_newItem objects item⟩

theorem joined_of_carriedOut {group : GroupId} {id : ItemId} (fits : (addItem group id).Fits objects)
    (carriedOut : (addItem group id).outcome objects = .ok ()) :
    ((addItem group id).after objects).parentOf? id = some group ∧
      ((addItem group id).after objects).members group = objects.members group ++ [id] := by
  obtain ⟨there, known⟩ := fits
  rw [outcome, steps, Steps.on_discard, Steps.on_addItem] at carriedOut
  rw [after, steps, Steps.on_discard, Steps.on_addItem]
  cases added : objects.addItem group id with
  | error fault =>
      rw [added] at carriedOut
      cases carriedOut
  | ok changed =>
      cases Objects.eq_joined known added
      simp only [Objects.parentOf?_joined known, Objects.members_joined there, Function.update_self,
        and_self]

theorem enlisted_of_carriedOut {space : SpaceId} {id : ViewId} (fits : (addView space id).Fits objects)
    (carriedOut : (addView space id).outcome objects = .ok ()) :
    ((addView space id).after objects).ownerOf? id = some space ∧
      ((addView space id).after objects).viewsOf space = objects.viewsOf space ++ [id] := by
  obtain ⟨there, known⟩ := fits
  rw [outcome, steps, Steps.on_discard, Steps.on_addView] at carriedOut
  rw [after, steps, Steps.on_discard, Steps.on_addView]
  cases added : objects.addView space id with
  | error fault =>
      rw [added] at carriedOut
      cases carriedOut
  | ok changed =>
      cases Objects.eq_listed known added
      simp only [Objects.ownerOf?_listed space known, Objects.viewsOf_listed_update there,
        Function.update_self, and_self]

theorem allOrNothing (fits : call.Fits objects) : AllOrNothing objects call where
  refused _ refused := refused_unchanged fits refused
  joined := by
    rintro group id rfl carriedOut
    exact joined_of_carriedOut fits carriedOut
  enlisted := by
    rintro space id rfl carriedOut
    exact enlisted_of_carriedOut fits carriedOut
  itemsStay group := after_induction (fun after => objects.members group <+: after.members group) fits
    List.prefix_rfl fun _ _ stays change => stays.trans (change.members_prefix group)
  viewsStay space := after_induction (fun after => objects.viewsOf space <+: after.viewsOf space) fits
    List.prefix_rfl fun _ _ stays change => stays.trans (change.viewsOf_prefix space)

end Call

/-- However objects came about by calls, they can be relied on, and every call on them does all or
nothing. -/
theorem Reached.consistent_allOrNothing {objects : Objects} (reached : Reached objects) :
    objects.Consistent ∧ ∀ call : Call, call.Fits objects → AllOrNothing objects call :=
  ⟨reached.linksAll.consistent, fun _ fits => Call.allOrNothing fits⟩

/-- Two workspaces that share a job and a view, after calls of which three were refused. -/
theorem shared_consistent : ∃ objects, Reached objects ∧ objects.Consistent ∧
    (∀ call : Call, call.Fits objects → AllOrNothing objects call) ∧
    objects.members (.space ⟨0⟩) = [⟨0⟩, ⟨2⟩] ∧ objects.members (.folder ⟨0⟩) = [⟨2⟩, ⟨0⟩] ∧
    objects.parentOf? ⟨2⟩ = some (.folder ⟨0⟩) ∧ objects.viewsOf ⟨0⟩ = [⟨0⟩] ∧
    objects.viewsOf ⟨1⟩ = [⟨0⟩] ∧ objects.ownerOf? ⟨0⟩ = some ⟨1⟩ ∧
    objects.primaryView? ⟨0⟩ = some ⟨0⟩ := by
  have spaces := (Reached.start.call .newSpace trivial).call .newSpace trivial
  have items := ((spaces.call (.createFolder (.space ⟨0⟩) "plans" none none) (by decide)).call
    (.createJob (.space ⟨0⟩) "plans" none false none) (by decide)).call
    (.createJob (.space ⟨0⟩) "nightly" none false none) (by decide)
  have shared := ((items.call (.addItem (.folder ⟨0⟩) ⟨2⟩) (by decide)).call
    (.addItem (.folder ⟨0⟩) ⟨2⟩) (by decide)).call (.addItem (.folder ⟨0⟩) ⟨0⟩) (by decide)
  have views := ((shared.call (.newView "mine" (some ⟨0⟩) none) (by decide)).call
    (.setPrimaryView ⟨0⟩ ⟨0⟩) (by decide)).call (.addView ⟨0⟩ ⟨0⟩) (by decide)
  have reached := (((views.call (.setPrimaryView ⟨0⟩ ⟨0⟩) (by decide)).call
    (.addView ⟨1⟩ ⟨0⟩) (by decide)).call (.listItem ⟨0⟩ ⟨2⟩) (by decide)).call
    (.listItem ⟨0⟩ ⟨2⟩) (by decide)
  obtain ⟨consistent, allOrNothing⟩ := reached.consistent_allOrNothing
  exact ⟨_, reached, consistent, allOrNothing, by decide, by decide, by decide, by decide, by decide,
    by decide, by decide⟩

end Wayfinder.Workspace
