import Wayfinder.Proofs.Workspace.Calls
import Wayfinder.Proofs.Workspace.Climbing

/-!
# How an item gets above itself

Only adding an item to a group leads from it elsewhere. As long as all climbs end, they go on to do so unless
the group is the item itself or is below it: a folder that holds another one need not be above it.
-/

namespace Wayfinder.Workspace

open Relation (ReflTransGen TransGen)

/-- The item that a group is, unless it is a workspace. -/
def GroupId.folder? : GroupId → Option ItemId
  | .folder id => some id
  | .space _ => none

namespace Objects

variable {objects changed : Objects}

/-- Items stay where they are while nothing changes what they were last added to. -/
theorem Ends.congr {id : ItemId} (ends : objects.Ends id) (same : changed.above? = objects.above?) :
    changed.Ends id := by
  induction ends with
  | top top => exact .top (by rw [same, top])
  | up above _ ih => exact .up (by rw [Above, same, above]) ih

theorem above?_eq_bind (objects : Objects) (id : ItemId) :
    objects.above? id = (objects.parentOf? id).bind GroupId.folder? := by
  unfold above? parentOf?
  cases (objects.item? id).bind Item.parent with
  | none => rfl
  | some group => cases group <;> rfl

theorem above?_of_items (same : changed.items = objects.items) : changed.above? = objects.above? := by
  funext id
  rw [above?, item?, same]
  rfl

theorem above?_newItem {item : Item} (detached : item.parent = none) :
    (objects.newItem item).1.above? = objects.above? := by
  funext id
  rw [above?, item?_newItem]
  by_cases new : id = ⟨objects.items.length⟩
  · have absent : objects.item? id = none := by simp [new, item?]
    rw [if_pos new, Option.bind_some, detached, above?, absent]
    rfl
  · rw [if_neg new, above?]

/-- Adding an item to a group leads from it to the group, if that is an item. -/
theorem above?_joined {group : GroupId} {id : ItemId} (there : (objects.item? id).isSome) :
    (objects.joined group id).above? = Function.update objects.above? id group.folder? := by
  funext other
  rw [above?_eq_bind, parentOf?_joined there]
  by_cases same : other = id
  · subst same
    rw [Function.update_self, Function.update_self]
    rfl
  · rw [Function.update_of_ne same, Function.update_of_ne same, ← above?_eq_bind]

/-- Where nothing leads to an item, a new way from that item changes nothing. -/
theorem Ends.of_update {id other : ItemId} {parent : Option ItemId}
    (same : changed.above? = Function.update objects.above? id parent) (ends : objects.Ends other)
    (apart : ¬ReflTransGen objects.Above other id) : changed.Ends other := by
  induction ends with
  | @top other top =>
      have differ : other ≠ id := fun equal => apart (equal ▸ .refl)
      exact .top (by rw [same, Function.update_of_ne differ, top])
  | @up other next above _ ih =>
      have differ : other ≠ id := fun equal => apart (equal ▸ .refl)
      exact .up (by rw [Above, same, Function.update_of_ne differ, above])
        (ih fun reaches => apart (.head above reaches))

/-- A way to an item is still there after the item leads elsewhere. -/
theorem reaches_of_update {id other : ItemId} {parent : Option ItemId}
    (same : changed.above? = Function.update objects.above? id parent)
    (reaches : ReflTransGen objects.Above other id) : ReflTransGen changed.Above other id := by
  induction reaches using ReflTransGen.head_induction_on with
  | refl => exact .refl
  | @head first next above _ ih =>
      by_cases equal : first = id
      · exact equal ▸ .refl
      · exact .head (by rw [Above, same, Function.update_of_ne equal, above]) ih

/-- A new way from an item leaves all climbs ending if and only if it does not lead back to the item. -/
theorem forall_ends_update_iff {id : ItemId} {parent : Option ItemId}
    (same : changed.above? = Function.update objects.above? id parent)
    (ends : ∀ other, objects.Ends other) :
    (∀ other, changed.Ends other) ↔ ∀ other ∈ parent, ¬ReflTransGen objects.Above other id := by
  constructor
  · rintro after other rfl reaches
    have here : changed.Above id other := by
      rw [Above, same, Function.update_self]
    exact (after id).not_circle (TransGen.head' here (reaches_of_update same reaches))
  · intro apart
    -- The new way leads to where nothing leads back from, and all other ways at most to the item.
    have ended : changed.Ends id := by
      cases leads : parent with
      | none => exact .top (by rw [same, Function.update_self, leads])
      | some next =>
          exact .up (by rw [Above, same, Function.update_self, leads])
            (.of_update same (ends next) (apart next leads))
    intro other
    induction ends other with
    | @top other top =>
        by_cases equal : other = id
        · exact equal ▸ ended
        · exact .top (by rw [same, Function.update_of_ne equal, top])
    | @up other next above _ ih =>
        by_cases equal : other = id
        · exact equal ▸ ended
        · exact .up (by rw [Above, same, Function.update_of_ne equal, above]) ih

theorem forall_ends_joined_iff {group : GroupId} {id : ItemId} (there : (objects.item? id).isSome)
    (ends : ∀ other, objects.Ends other) : (∀ other, (objects.joined group id).Ends other) ↔
      ∀ folder, group = .folder folder → ¬ReflTransGen objects.Above folder id := by
  rw [forall_ends_update_iff (above?_joined there) ends]
  cases group <;> simp [GroupId.folder?]

/-- Nothing leads to an item that is not there. -/
theorem not_reaches_new (links : objects.LinksItems) {folder id : ItemId}
    (there : objects.HasGroup (.folder folder)) (absent : objects.item? id = none) :
    ¬ReflTransGen objects.Above folder id := by
  have missing (held : objects.HasGroup (.folder id)) : False := by
    obtain ⟨item, found, -⟩ := hasGroup_folder_iff.mp held
    rw [absent] at found
    cases found
  intro reaches
  rcases ReflTransGen.cases_tail reaches with rfl | ⟨last, -, above⟩
  · exact missing there
  · obtain ⟨item, found, parent⟩ := above?_eq_some_iff.mp above
    have held := links.holds last (.folder id) (by rw [parentOf?, found]; exact parent)
    exact missing (hasGroup_of_mem held)

end Objects

namespace Call

open Objects

variable {objects : Objects} {call : Call}

/-- A call that puts an item into itself or into something below itself. -/
def ClosesCircle (objects : Objects) (call : Call) : Prop :=
  ∃ folder id, call = .addItem (.folder folder) id ∧ ReflTransGen objects.Above folder id ∧
    call.outcome objects = .ok ()

theorem forall_ends_newItem (ends : ∀ id, objects.Ends id) {constructed : Except Fault Item}
    (fresh : ∀ item, constructed = .ok item → item.items = [] ∧ item.parent = none) (id : ItemId) :
    ((discard (Steps.make constructed Objects.newItem)).on objects).2.Ends id := by
  cases made : constructed with
  | error fault => exact ends id
  | ok item => exact (ends id).congr (above?_newItem (fresh item made).2)

/-- A new item is added above nothing. -/
theorem forall_ends_createItem (links : objects.LinksItems) (ends : ∀ id, objects.Ends id)
    {constructed : Except Fault Item} {group : GroupId} (there : objects.HasGroup group)
    (fresh : ∀ item, constructed = .ok item → item.items = [] ∧ item.parent = none) (id : ItemId) :
    ((discard (Steps.make constructed Objects.newItem >>= Steps.addItem group)).on objects).2.Ends id := by
  rw [Steps.on_discard, Steps.on_createItem]
  cases made : constructed with
  | error fault => exact ends id
  | ok item =>
      obtain ⟨empty, detached⟩ := fresh item made
      have ended (id : ItemId) : (objects.newItem item).1.Ends id :=
        (ends id).congr (above?_newItem detached)
      cases created : objects.createItem group item with
      | error fault =>
          simp only [created]
          exact ended id
      | ok placed =>
          obtain ⟨after, new⟩ := placed
          obtain ⟨-, rfl, rfl⟩ := createItem_eq_ok_iff.mp created
          have known : ((objects.newItem item).1.item? ⟨objects.items.length⟩).isSome := by
            rw [item?_newItem, if_pos rfl]
            rfl
          have joined : objects.place group item =
              (objects.newItem item).1.joined group ⟨objects.items.length⟩ := rfl
          simp only [created, joined]
          refine (forall_ends_joined_iff known ended).mpr ?_ id
          -- The group was there before the item, and nothing that was there leads to the item.
          rintro folder rfl reaches
          have same : (objects.newItem item).1.Above = objects.Above := by
            funext first second
            rw [Above, above?_newItem detached, Above]
          rw [same] at reaches
          exact not_reaches_new links there (by simp [item?]) reaches

/-- A call that adds no existing item to a group keeps all climbs ending. -/
theorem forall_ends_after_of_others (links : objects.LinksItems) (fits : call.Fits objects)
    (ends : ∀ id, objects.Ends id) (others : ∀ group id, call ≠ .addItem group id) (id : ItemId) :
    (call.after objects).Ends id := by
  have still {changed : Objects} (same : changed.items = objects.items) : changed.Ends id :=
    (ends id).congr (above?_of_items same)
  cases call with
  | addItem group item => exact absurd rfl (others group item)
  | newSpace => exact still rfl
  | newJob name displayName disabled id => exact forall_ends_newItem ends (fun _ => fresh_job) _
  | newFolder name displayName id => exact forall_ends_newItem ends (fun _ => fresh_folder) _
  | newView name owner id =>
      refine still ?_
      rw [after, steps, Steps.on_discard, Steps.newView, Steps.on_make]
      cases (Objects.listView name id).map fun view => { view with owner } <;> rfl
  | createJob group name displayName disabled id =>
      exact forall_ends_createItem links ends fits (fun _ => fresh_job) _
  | createFolder group name displayName id =>
      exact forall_ends_createItem links ends fits (fun _ => fresh_folder) _
  | addView space view =>
      refine still ?_
      rw [after, steps, Steps.on_discard, Steps.on_addView]
      cases added : objects.addView space view with
      | error fault => rfl
      | ok changed =>
          cases eq_listed fits.2 added
          rfl
  | setPrimaryView space view =>
      refine still ?_
      rw [after, steps, Steps.on_setPrimaryView]
      cases chosen : objects.setPrimaryView space view with
      | error fault => rfl
      | ok changed =>
          obtain ⟨-, rfl⟩ := setPrimaryView_eq_ok chosen
          rfl
  | listItem view item => exact still rfl
  | unlistItem view item => exact still rfl

/-- Adding an item keeps all climbs ending unless the item is above the group it is added to. -/
theorem forall_ends_addItem_iff {group : GroupId} {item : ItemId}
    (fits : (addItem group item).Fits objects) (ends : ∀ id, objects.Ends id) :
    (∀ id, ((addItem group item).after objects).Ends id) ↔
      ¬(addItem group item).ClosesCircle objects := by
  cases added : objects.addItem group item with
  | error fault =>
      have refused : (addItem group item).steps.on objects = (.error fault, objects) := by
        rw [steps, Steps.on_discard, Steps.on_addItem, added]
        rfl
      rw [after, refused]
      refine iff_of_true ends ?_
      rintro ⟨-, -, -, -, carriedOut⟩
      rw [outcome, refused] at carriedOut
      cases carriedOut
  | ok changed =>
      cases eq_joined fits.2 added
      have carriedOut : (addItem group item).steps.on objects = (.ok (), objects.joined group item) := by
        rw [steps, Steps.on_discard, Steps.on_addItem, added]
        rfl
      rw [after, carriedOut, forall_ends_joined_iff fits.2 ends]
      constructor
      · rintro apart ⟨folder, id, same, reaches, -⟩
        cases same
        exact apart folder rfl reaches
      · rintro open_ folder rfl reaches
        exact open_ ⟨folder, item, rfl, reaches, by rw [outcome, carriedOut]⟩

/-- Climbs that end go on to do so after a call, unless it closes a circle. -/
theorem forall_ends_after_iff (links : objects.LinksItems) (fits : call.Fits objects)
    (ends : ∀ id, objects.Ends id) :
    (∀ id, (call.after objects).Ends id) ↔ ¬call.ClosesCircle objects := by
  by_cases adds : ∃ group id, call = .addItem group id
  · obtain ⟨group, id, rfl⟩ := adds
    exact forall_ends_addItem_iff fits ends
  · have others (group : GroupId) (id : ItemId) : call ≠ .addItem group id := fun same =>
      adds ⟨group, id, same⟩
    refine iff_of_true (forall_ends_after_of_others links fits ends others) ?_
    rintro ⟨folder, id, same, -⟩
    exact others _ _ same

end Call

end Wayfinder.Workspace
