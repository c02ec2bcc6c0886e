import Wayfinder.Proofs.Workspace.Naming
import Wayfinder.Workspace.Broken

/-!
# How a workspace with broken names comes about

Names of any kind that edits give are entered, and the objects go by their stand-ins. As a stand-in tells
its name, two items of a group differ by the names that they are called by, and the objects make up a tree
under these names, too, if they are sound.
-/

namespace Wayfinder.Workspace

open Text (Glyph Wide)

namespace Roster

variable {roster changed : Roster}

theorem called_strokes (roster : Roster) (place : Nat) :
    roster.called (strokes place).text = roster.names[place]?.getD (.sound (strokes place).text) := by
  have length : (strokes place).text.length = place + 1 := by
    simp [strokes]
  unfold called
  rw [length]

/-- The stand-in for a name tells the name. -/
theorem called_standIn {name : Wide} (listed : name ∈ roster.names) :
    roster.called (roster.standIn name).text = name := by
  rw [standIn, called_strokes, List.getElem?_idxOf listed, Option.getD_some]

theorem mem_enter (roster : Roster) (name : Wide) : name ∈ (roster.enter name).names := by
  unfold enter
  split
  case isTrue listed => exact listed
  case isFalse => simp

theorem mem_enter_of_mem {name other : Wide} (listed : other ∈ roster.names) :
    other ∈ (roster.enter name).names := by
  unfold enter
  split
  · exact listed
  · exact List.mem_append_left _ listed

/-- A name that is entered goes by the stand-in that it had before. -/
theorem standIn_enter (roster : Roster) (name : Wide) :
    (roster.enter name).standIn name = roster.standIn name := by
  unfold enter
  split
  case isTrue => rfl
  case isFalse unlisted =>
    rw [standIn, standIn, List.idxOf_append_of_notMem unlisted, List.idxOf_cons_self, Nat.add_zero,
      List.idxOf_eq_length_iff.mpr unlisted]

theorem standIn_enter_of_mem {name other : Wide} (listed : other ∈ roster.names) :
    (roster.enter name).standIn other = roster.standIn other := by
  unfold enter
  split
  · rfl
  · rw [standIn, standIn, List.idxOf_append_of_mem listed]

/-- An edit that is carried out gives a name that passes its check, and is carried out on the stand-ins. -/
structure Applied (roster changed : Roster) (edit : Edit Wide) : Prop where
  checked : ∀ name, edit.name? = some name → checkWideName name = .ok ()
  objects : (edit.map fun name => (roster.standIn name).text).apply roster.objects = .ok changed.objects
  names : changed.names = (edit.name?.elim roster roster.enter).names

theorem applied_of_apply {edit : Edit Wide} (applied : roster.apply edit = .ok changed) :
    roster.Applied changed edit := by
  obtain ⟨⟨after, value⟩, carried, rfl⟩ := map_eq_ok_iff.mp applied
  obtain ⟨_, checked, carried⟩ := bind_eq_ok_iff.mp carried
  obtain ⟨⟨objects, _⟩, renamed, carried⟩ := bind_eq_ok_iff.mp carried
  cases carried
  obtain ⟨_, done, same⟩ := map_eq_ok_iff.mp (mapError_eq_ok_iff.mp renamed)
  cases same
  refine ⟨fun name given => ?_, done, rfl⟩
  rw [given] at checked
  exact checked

/-- The rosters that edits lead to from an empty workspace, if none of them is refused. -/
inductive CameFrom : Roster → List (Edit Wide) → Prop where
  | empty : CameFrom { objects := (Objects.newSpace {}).1 } []
  | edit {roster changed : Roster} {edits : List (Edit Wide)} (came : CameFrom roster edits)
      (edit : Edit Wide) (fits : edit.Fits roster.objects) (applied : roster.apply edit = .ok changed) :
      CameFrom changed (edits ++ [edit])

variable {edits : List (Edit Wide)}

/-- What is told of the names that edits gave: they are entered, and the objects go by their stand-ins. -/
structure Stands (roster : Roster) (edits : List (Edit Wide)) : Prop where
  listed : ∀ edit ∈ edits, ∀ name, edit.name? = some name → name ∈ roster.names
  checked : ∀ name ∈ roster.names, checkWideName name = .ok ()
  items : roster.objects.itemTexts =
    (edits.filterMap Edit.itemName?).map fun name => (roster.standIn name).text
  views : roster.objects.viewTexts =
    (edits.filterMap Edit.viewName?).map fun name => (roster.standIn name).text

theorem Applied.mem_names {edit : Edit Wide} (applied : roster.Applied changed edit) {name : Wide} :
    name ∈ changed.names ↔ name ∈ roster.names ∨ edit.name? = some name := by
  rw [applied.names]
  cases given : edit.name? with
  | none => simp
  | some new =>
      rw [Option.elim_some]
      constructor
      · unfold enter
        split
        · exact .inl
        · simp [eq_comm]
      · rintro (old | same)
        · exact mem_enter_of_mem old
        · cases same
          exact mem_enter _ _

/-- Names keep their stand-ins. -/
theorem Applied.standIn {edit : Edit Wide} (applied : roster.Applied changed edit) {name : Wide}
    (listed : name ∈ changed.names) : changed.standIn name = roster.standIn name := by
  have same : changed.standIn name = (edit.name?.elim roster roster.enter).standIn name := by
    rw [Roster.standIn, applied.names, Roster.standIn]
  rw [same]
  rcases applied.mem_names.mp listed with old | given
  · cases edit.name? with
    | none => rfl
    | some new => exact standIn_enter_of_mem old
  · rw [given]
    exact standIn_enter roster name

theorem Stands.apply {edit : Edit Wide} (stands : roster.Stands edits)
    (applied : roster.Applied changed edit) : changed.Stands (edits ++ [edit]) := by
  have listed : ∀ other ∈ edits ++ [edit], ∀ name, other.name? = some name → name ∈ changed.names := by
    intro other member name given
    rw [applied.mem_names]
    rcases List.mem_append.mp member with old | new
    · exact .inl (stands.listed other old name given)
    · cases List.mem_singleton.mp new
      exact .inr given
  -- The names of objects are looked for in the longer list, where they have the places that they had.
  have kept {named : Edit Wide → Option Wide} (gives : ∀ {edit name}, named edit = some name →
      edit.name? = some name) :
      ((edits ++ [edit]).filterMap named).map (fun name => (changed.standIn name).text) =
        ((edits.filterMap named).map fun name => (roster.standIn name).text) ++
          ((named edit).map fun name => (roster.standIn name).text).toList := by
    have same : ∀ name ∈ (edits ++ [edit]).filterMap named,
        (changed.standIn name).text = (roster.standIn name).text := by
      intro name member
      obtain ⟨other, there, given⟩ := List.mem_filterMap.mp member
      rw [applied.standIn (listed other there name (gives given))]
    rw [List.map_congr_left same, List.filterMap_append, List.map_append]
    cases given : named edit <;> simp [given]
  have names := Objects.names_apply applied.objects
  constructor
  case listed => exact listed
  case checked =>
    intro name member
    rcases applied.mem_names.mp member with old | given
    · exact stands.checked name old
    · exact applied.checked name given
  case items => rw [kept Edit.name?_of_itemName?, names.items, stands.items, Edit.itemName?_map]
  case views => rw [kept Edit.name?_of_viewName?, names.views, stands.views, Edit.viewName?_map]

theorem CameFrom.stands (came : roster.CameFrom edits) : roster.Stands edits := by
  induction came with
  | empty => exact ⟨by simp, by simp, rfl, rfl⟩
  | edit came edit fits applied stands => exact stands.apply (applied_of_apply applied)

/-- Whatever names are given, a tree is left. -/
theorem CameFrom.isTree (came : roster.CameFrom edits) : roster.objects.IsTree := by
  induction came with
  | empty => exact Objects.isTree_newSpace
  | edit came edit fits applied tree =>
      exact tree.apply (Edit.fits_map _ fits) (applied_of_apply applied).objects

/-- Every item, and every view that the workspace lists, was given a name of which an address can be made. -/
structure IsSound (roster : Roster) (edits : List (Edit Wide)) : Prop where
  items : ∀ name ∈ edits.filterMap Edit.itemName?, ∃ text, name = .sound text
  views : ∀ id ∈ roster.objects.viewsOf rootSpace, ∀ name,
    (edits.filterMap Edit.viewName?)[id.index]? = some name → ∃ text, name = .sound text

section Names

/-- A text that stands for a name of the list. -/
def IsStandIn (roster : Roster) (text : String) : Prop :=
  ∃ name ∈ roster.names, text = (roster.standIn name).text

theorem IsStandIn.called_mem {text : String} (standIn : roster.IsStandIn text) :
    roster.called text ∈ roster.names := by
  obtain ⟨name, listed, rfl⟩ := standIn
  rwa [called_standIn listed]

/-- Texts that stand for one name are one. -/
theorem IsStandIn.eq_of_called {left right : String} (first : roster.IsStandIn left)
    (second : roster.IsStandIn right) (same : roster.called left = roster.called right) : left = right := by
  obtain ⟨name, listed, rfl⟩ := first
  obtain ⟨other, listed', rfl⟩ := second
  rw [called_standIn listed, called_standIn listed'] at same
  rw [same]

section Given

variable {named : Edit Wide → Option Wide}
  (gives : ∀ {edit name}, named edit = some name → edit.name? = some name)

include gives

theorem Stands.mem_names (stands : roster.Stands edits) {name : Wide}
    (given : name ∈ edits.filterMap named) : name ∈ roster.names := by
  obtain ⟨edit, done, given⟩ := List.mem_filterMap.mp given
  exact stands.listed edit done name (gives given)

theorem Stands.isStandIn (stands : roster.Stands edits) {text : String}
    (member : text ∈ (edits.filterMap named).map fun name => (roster.standIn name).text) :
    roster.IsStandIn text := by
  obtain ⟨name, given, same⟩ := List.mem_map.mp member
  exact ⟨name, stands.mem_names gives given, same.symm⟩

theorem Stands.map_called (stands : roster.Stands edits) :
    ((edits.filterMap named).map fun name => (roster.standIn name).text).map roster.called =
      edits.filterMap named := by
  rw [List.map_map]
  refine (List.map_congr_left fun name given => ?_).trans (List.map_id _)
  exact called_standIn (stands.mem_names gives given)

end Given

theorem Stands.isStandIn_item (stands : roster.Stands edits) {id : ItemId} {item : Item}
    (found : roster.objects.item? id = some item) : roster.IsStandIn item.name.text := by
  have member : item.name.text ∈ roster.objects.itemTexts :=
    List.mem_map_of_mem (List.mem_of_getElem? found)
  exact stands.isStandIn Edit.name?_of_itemName? (stands.items ▸ member)

theorem Stands.isStandIn_view (stands : roster.Stands edits) {id : ViewId} {view : ListView}
    (found : roster.objects.view? id = some view) : roster.IsStandIn view.name.text := by
  have member : view.name.text ∈ roster.objects.viewTexts :=
    List.mem_map_of_mem (List.mem_of_getElem? found)
  exact stands.isStandIn Edit.name?_of_viewName? (stands.views ▸ member)

/-- The items are called by the names that edits gave them. -/
theorem Stands.map_called_itemTexts (stands : roster.Stands edits) :
    roster.objects.itemTexts.map roster.called = edits.filterMap Edit.itemName? := by
  rw [stands.items, stands.map_called Edit.name?_of_itemName?]

theorem Stands.map_called_viewTexts (stands : roster.Stands edits) :
    roster.objects.viewTexts.map roster.called = edits.filterMap Edit.viewName? := by
  rw [stands.views, stands.map_called Edit.name?_of_viewName?]

theorem Stands.view_called (stands : roster.Stands edits) {id : ViewId} {view : ListView}
    (found : roster.objects.view? id = some view) :
    (edits.filterMap Edit.viewName?)[id.index]? = some (roster.called view.name.text) := by
  have there : roster.objects.views[id.index]? = some view := found
  rw [← stands.map_called_viewTexts, Objects.viewTexts, List.map_map, List.getElem?_map, there]
  rfl

/-- All names that are shown are sound if those are that were given. -/
theorem Stands.isSound_iff (stands : roster.Stands edits) : roster.IsSound edits ↔
    (∀ id item, roster.objects.item? id = some item →
      ∃ text, roster.called item.name.text = .sound text) ∧
    ∀ id ∈ roster.objects.viewsOf rootSpace, ∀ view, roster.objects.view? id = some view →
      ∃ text, roster.called view.name.text = .sound text := by
  constructor
  · intro sound
    refine ⟨fun id item found => sound.items _ ?_, fun id listed view found =>
      sound.views id listed _ (stands.view_called found)⟩
    rw [← stands.map_called_itemTexts]
    exact List.mem_map_of_mem (List.mem_map_of_mem (List.mem_of_getElem? found))
  · rintro ⟨items, views⟩
    constructor
    case items =>
      intro name given
      rw [← stands.map_called_itemTexts] at given
      obtain ⟨text, member, rfl⟩ := List.mem_map.mp given
      obtain ⟨item, there, rfl⟩ := List.mem_map.mp member
      obtain ⟨index, found⟩ := List.getElem?_of_mem there
      exact items ⟨index⟩ item found
    case views =>
      intro id listed name given
      rw [← stands.map_called_viewTexts, Objects.viewTexts, List.map_map, List.getElem?_map] at given
      obtain ⟨view, found, rfl⟩ := Option.map_eq_some_iff.mp given
      exact views id listed view found

end Names

section Renamed

theorem item?_renamed (roster : Roster) (id : ItemId) : roster.renamed.item? id =
    (roster.objects.item? id).map fun item => { item with name := roster.soundName item.name } :=
  List.getElem?_map

theorem view?_renamed (roster : Roster) (id : ViewId) : roster.renamed.view? id =
    (roster.objects.view? id).map fun view => { view with name := roster.soundName view.name } :=
  List.getElem?_map

theorem members_renamed (roster : Roster) (group : GroupId) :
    roster.renamed.members group = roster.objects.members group := by
  cases group with
  | space space => rfl
  | folder id =>
      rw [Objects.members, Objects.members, item?_renamed, Option.map_map]
      rfl

theorem group?_renamed (roster : Roster) (id : ItemId) :
    roster.renamed.group? id = roster.objects.group? id := by
  rw [Objects.group?, Objects.group?, item?_renamed]
  cases roster.objects.item? id <;> rfl

/-- A sound name that passes its check is the name under which an object is shown. -/
theorem soundName_eq {name : Name} {text : String} (sound : roster.called name.text = .sound text)
    (checked : checkWideName (.sound text) = .ok ()) : (roster.soundName name).text = text := by
  obtain ⟨other, accepted, -⟩ := map_eq_ok_iff.mp checked
  cases checkName_eq_ok_iff.mp accepted
  simp only [soundName, sound, Name.parse_text]

end Renamed

section Sound

/-- The name under which an object is shown is the one that it is called by. -/
theorem Stands.soundName_text (stands : roster.Stands edits) {name : Name}
    (standIn : roster.IsStandIn name.text) {text : String} (sound : roster.called name.text = .sound text) :
    (roster.soundName name).text = text :=
  soundName_eq sound (stands.checked _ (sound ▸ standIn.called_mem))

/-- Objects that are shown under one name have one stand-in. -/
theorem Stands.text_eq_of_soundName (stands : roster.Stands edits) {left right : Name}
    (first : roster.IsStandIn left.text) (second : roster.IsStandIn right.text)
    (leftSound : ∃ text, roster.called left.text = .sound text)
    (rightSound : ∃ text, roster.called right.text = .sound text)
    (same : (roster.soundName left).text = (roster.soundName right).text) : left.text = right.text := by
  obtain ⟨text, leftCalled⟩ := leftSound
  obtain ⟨other, rightCalled⟩ := rightSound
  rw [stands.soundName_text first leftCalled, stands.soundName_text second rightCalled] at same
  exact first.eq_of_called second (by rw [leftCalled, rightCalled, same])

theorem exists_item_of_renamed {id : ItemId} {item : Item} (found : roster.renamed.item? id = some item) :
    ∃ old, roster.objects.item? id = some old ∧ { old with name := roster.soundName old.name } = item := by
  rwa [item?_renamed, Option.map_eq_some_iff] at found

theorem exists_view_of_renamed {id : ViewId} {view : ListView}
    (found : roster.renamed.view? id = some view) :
    ∃ old, roster.objects.view? id = some old ∧ { old with name := roster.soundName old.name } = view := by
  rwa [view?_renamed, Option.map_eq_some_iff] at found

theorem holdsItems_renamed (stands : roster.Stands edits) (holds : roster.objects.HoldsItems)
    (sound : roster.IsSound edits) : roster.renamed.HoldsItems := by
  obtain ⟨items, -⟩ := stands.isSound_iff.mp sound
  constructor
  case item_of_mem =>
    intro group id member
    rw [members_renamed] at member
    obtain ⟨item, found, parent⟩ := holds.item_of_mem member
    exact ⟨{ item with name := roster.soundName item.name }, by rw [item?_renamed, found, Option.map_some],
      parent⟩
  case mem_of_item =>
    intro id item found
    obtain ⟨old, there, rfl⟩ := exists_item_of_renamed found
    obtain ⟨group, parent, member⟩ := holds.mem_of_item there
    exact ⟨group, parent, by rwa [members_renamed]⟩
  case older =>
    intro folder id member
    rw [members_renamed] at member
    exact holds.older member
  case nodup_members =>
    intro group
    rw [members_renamed]
    exact holds.nodup_members group
  case eq_of_name =>
    intro group left right leftItem rightItem first second leftFound rightFound same
    obtain ⟨leftOld, leftThere, rfl⟩ := exists_item_of_renamed leftFound
    obtain ⟨rightOld, rightThere, rfl⟩ := exists_item_of_renamed rightFound
    rw [members_renamed] at first second
    apply holds.eq_of_name first second leftThere rightThere
    exact stands.text_eq_of_soundName (stands.isStandIn_item leftThere) (stands.isStandIn_item rightThere)
      (items left leftOld leftThere) (items right rightOld rightThere) same

theorem listsViews_renamed (stands : roster.Stands edits) (lists : roster.objects.ListsViews)
    (sound : roster.IsSound edits) : roster.renamed.ListsViews := by
  obtain ⟨-, views⟩ := stands.isSound_iff.mp sound
  constructor
  case view_of_mem =>
    intro id member
    obtain ⟨view, found⟩ := lists.view_of_mem member
    exact ⟨_, by rw [view?_renamed, found, Option.map_some]⟩
  case nodup_views => exact lists.nodup_views
  case eq_of_viewName =>
    intro left right leftView rightView first second leftFound rightFound same
    obtain ⟨leftOld, leftThere, rfl⟩ := exists_view_of_renamed leftFound
    obtain ⟨rightOld, rightThere, rfl⟩ := exists_view_of_renamed rightFound
    apply lists.eq_of_viewName first second leftThere rightThere
    exact stands.text_eq_of_soundName (stands.isStandIn_view leftThere) (stands.isStandIn_view rightThere)
      (views left first leftOld leftThere) (views right second rightOld rightThere) same

/-- Under sound names that were given, a tree is shown. -/
theorem isTree_renamed (stands : roster.Stands edits) (tree : roster.objects.IsTree)
    (sound : roster.IsSound edits) : roster.renamed.IsTree :=
  ⟨holdsItems_renamed stands tree.toHoldsItems sound, listsViews_renamed stands tree.toListsViews sound,
    tree.single⟩

end Sound

end Roster

end Wayfinder.Workspace
