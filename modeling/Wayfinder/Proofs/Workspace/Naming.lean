import Wayfinder.Proofs.Workspace.Growth

/-!
# What edits name

Making an item or a view gives it a name, which it keeps. So the names of the items are those that edits
gave, in their order, and so are the names of the views.
-/

namespace Wayfinder.Workspace

namespace Edit

variable {τ σ : Type}

/-- The name that an edit gives to a new item. -/
def itemName? : Edit τ → Option τ
  | .createJob _ name _ _ _ => some name
  | .createFolder _ name _ _ => some name
  | _ => none

/-- The name that an edit gives to a new view. -/
def viewName? : Edit τ → Option τ
  | .newView name _ => some name
  | _ => none

@[simp] theorem itemName?_map (rename : τ → σ) (edit : Edit τ) :
    (edit.map rename).itemName? = edit.itemName?.map rename := by
  cases edit <;> rfl

@[simp] theorem viewName?_map (rename : τ → σ) (edit : Edit τ) :
    (edit.map rename).viewName? = edit.viewName?.map rename := by
  cases edit <;> rfl

theorem name?_of_itemName? {edit : Edit τ} {name : τ} (given : edit.itemName? = some name) :
    edit.name? = some name := by
  cases edit <;> first | exact given | cases given

theorem name?_of_viewName? {edit : Edit τ} {name : τ} (given : edit.viewName? = some name) :
    edit.name? = some name := by
  cases edit <;> first | exact given | cases given

theorem fits_map {objects : Objects} {edit : Edit τ} (rename : τ → σ) (fits : edit.Fits objects) :
    (edit.map rename).Fits objects := by
  cases edit <;> exact fits

end Edit

namespace Objects

variable {objects changed : Objects}

/-- The texts that name the items, in the order in which these were made. -/
def itemTexts (objects : Objects) : List String :=
  objects.items.map fun item => item.name.text

/-- The texts that name the views, in the order in which these were made. -/
def viewTexts (objects : Objects) : List String :=
  objects.views.map fun view => view.name.text

theorem map_modify_of_eq {α β : Type} {image : α → β} {change : α → α}
    (same : ∀ element, image (change element) = image element) (elements : List α) (index : Nat) :
    (elements.modify index change).map image = elements.map image := by
  apply List.ext_getElem?
  intro position
  simp only [List.getElem?_map, List.getElem?_modify]
  split <;> simp [Function.comp_def, same]

theorem itemTexts_modifyItem (objects : Objects) (id : ItemId) {change : Item → Item}
    (same : ∀ item, (change item).name = item.name) :
    (objects.modifyItem id change).itemTexts = objects.itemTexts :=
  map_modify_of_eq (fun item => by rw [same]) objects.items id.index

theorem viewTexts_modifyView (objects : Objects) (id : ViewId) {change : ListView → ListView}
    (same : ∀ view, (change view).name = view.name) :
    (objects.modifyView id change).viewTexts = objects.viewTexts :=
  map_modify_of_eq (fun view => by rw [same]) objects.views id.index

theorem itemTexts_place (objects : Objects) (group : GroupId) (item : Item) :
    (objects.place group item).itemTexts = objects.itemTexts ++ [item.name.text] := by
  have made : ((objects.newItem item).1.modifyItem (objects.newItem item).2 fun item =>
      { item with parent := some group }).itemTexts = objects.itemTexts ++ [item.name.text] := by
    rw [itemTexts_modifyItem _ _ (by simp)]
    simp [itemTexts, newItem]
  cases group with
  | space space => exact made
  | folder folder => exact (itemTexts_modifyItem _ _ fun item => item.withItem_name _).trans made

theorem viewTexts_place (objects : Objects) (group : GroupId) (item : Item) :
    (objects.place group item).viewTexts = objects.viewTexts := by
  cases group <;> rfl

/-- What a change does to the names: one for an item and one for a view, if given, come behind the others. -/
structure Names (objects changed : Objects) (item view : Option String) : Prop where
  items : changed.itemTexts = objects.itemTexts ++ item.toList
  views : changed.viewTexts = objects.viewTexts ++ view.toList

theorem Names.of_eq (items : changed.itemTexts = objects.itemTexts)
    (views : changed.viewTexts = objects.viewTexts) : Names objects changed none none :=
  ⟨by simp [items], by simp [views]⟩

theorem names_createItem {group : GroupId} {item : Item} {id : ItemId}
    (created : objects.createItem group item = .ok (changed, id)) :
    Names objects changed (some item.name.text) none := by
  obtain ⟨-, rfl, -⟩ := createItem_eq_ok_iff.mp created
  exact ⟨itemTexts_place objects group item, by simp [viewTexts_place]⟩

theorem names_addView {id : ViewId} (added : objects.addView rootSpace id = .ok changed) :
    Names objects changed none none := by
  rcases addView_eq_ok added with rfl | ⟨view, -, -, rfl⟩
  · exact .of_eq rfl rfl
  · exact .of_eq rfl (viewTexts_modifyView objects id fun _ => rfl)

/-- An edit gives a name to the item or the view that it makes, and changes no other. -/
theorem names_apply {edit : Edit String} (applied : edit.apply objects = .ok changed) :
    Names objects changed edit.itemName? edit.viewName? := by
  cases edit with
  | createJob group name displayName disabled id =>
      obtain ⟨⟨after, id⟩, created, rfl⟩ := map_eq_ok_iff.mp applied
      obtain ⟨item, made, placed⟩ := bind_eq_ok_iff.mp created
      obtain ⟨checked, accepted, rfl⟩ := map_eq_ok_iff.mp made
      cases checkName_eq_ok_iff.mp accepted
      exact names_createItem placed
  | createFolder group name displayName id =>
      obtain ⟨⟨after, id⟩, created, rfl⟩ := map_eq_ok_iff.mp applied
      obtain ⟨item, made, placed⟩ := bind_eq_ok_iff.mp created
      obtain ⟨checked, accepted, rfl⟩ := map_eq_ok_iff.mp made
      cases checkName_eq_ok_iff.mp accepted
      exact names_createItem placed
  | newView name id =>
      obtain ⟨view, made, rfl⟩ := map_eq_ok_iff.mp applied
      obtain ⟨checked, accepted, rfl⟩ := map_eq_ok_iff.mp made
      cases checkName_eq_ok_iff.mp accepted
      constructor
      · simp [itemTexts, newView, Edit.itemName?]
      · simp [viewTexts, newView, Edit.viewName?]
  | addView view => exact names_addView applied
  | listItem view item =>
      cases applied
      refine .of_eq rfl (viewTexts_modifyView objects view fun view => ?_)
      unfold ListView.add
      split <;> rfl
  | unlistItem view item =>
      cases applied
      exact .of_eq rfl (viewTexts_modifyView objects view fun _ => rfl)
  | setDisplayName item value =>
      cases applied
      exact .of_eq (itemTexts_modifyItem objects item fun _ => rfl) rfl
  | setDisabled item disabled =>
      cases applied
      refine .of_eq (itemTexts_modifyItem objects item fun item => ?_) rfl
      unfold Item.withDisabled
      split <;> rfl
  | setPrimaryView view =>
      change objects.setPrimaryView rootSpace view = .ok changed at applied
      unfold setPrimaryView at applied
      split at applied
      · cases applied
        exact .of_eq rfl rfl
      · cases applied

end Objects

end Wayfinder.Workspace
