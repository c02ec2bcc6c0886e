import Wayfinder.Proofs.Workspace.Coverage
import Wayfinder.Proofs.Workspace.Lineage
import Wayfinder.Proofs.Workspace.Rosters

/-!
# Searching a workspace with broken names

No address can be made of a broken name, so an index fails that would have to show one. A search over a
workspace comes to every index, and therefore fails if a name is broken that the workspace shows. If there
is none, the search is one over the objects of the names that were given.
-/

namespace Wayfinder.Workspace

open Search
open Text (Glyph Wide)

namespace Roster

variable {roster : Roster} {edits : List (Edit Wide)}

/-- A search over the workspace is one over objects of the names that were given. -/
structure IsSearchedAs (roster : Roster) (edits : List (Edit Wide)) : Prop where
  catalog : roster.catalog = roster.renamed.catalog
  items : roster.renamed.itemTexts.map .sound = edits.filterMap Edit.itemName?
  views : ∀ id ∈ roster.renamed.viewsOf rootSpace,
    ((roster.renamed.view? id).map fun view => .sound view.name.text) =
      (edits.filterMap Edit.viewName?)[id.index]?
  searched : roster.renamed.IsSearchedLevelByLevel

/-- Every search over the workspace fails, with a broken name of which no address can be made. -/
def SearchFails (roster : Roster) : Prop :=
  ∃ glyphs isBroken, Wide.broken glyphs isBroken ∈ roster.names ∧
    ((roster.catalog.openStart (.space rootSpace)).result = .error (.unencodable glyphs) ∨
    ∃ start, (roster.catalog.openStart (.space rootSpace)).result = .ok start ∧
      (∀ query, (roster.catalog.suggest start query none).result = .error (.unencodable glyphs)) ∧
      ∀ query caseSensitive, (roster.catalog.find start query caseSensitive).result =
        .error (.unencodable glyphs))

section Renamed

theorem foldersOf_renamed (roster : Roster) (items : List ItemId) :
    roster.renamed.foldersOf items = roster.objects.foldersOf items := by
  simp only [Objects.foldersOf, group?_renamed]

theorem ids_renamed (roster : Roster) : roster.renamed.ids = roster.objects.ids := by
  simp [Objects.ids, Objects.itemIds, Objects.viewIds, Objects.spaceIds, renamed]

/-- What a group holds is there under the names that are sound, too. -/
theorem there_renamed (tree : roster.objects.IsTree) (group : GroupId) :
    ∀ id ∈ roster.renamed.members group, ∃ item, roster.renamed.item? id = some item := by
  intro id member
  rw [members_renamed] at member
  obtain ⟨item, found⟩ := tree.there_of_mem group id member
  exact ⟨_, by rw [item?_renamed, found, Option.map_some]⟩

theorem searchIndex_renamed_item (tree : roster.objects.IsTree) {id : ItemId} {item : Item}
    (found : roster.objects.item? id = some item) :
    roster.renamed.searchIndex (.item id) = .ok (roster.renamed.folderIndex id) := by
  have shown : roster.renamed.item? id = some { item with name := roster.soundName item.name } := by
    rw [item?_renamed, found, Option.map_some]
  exact Objects.searchIndex_item shown (there_renamed tree _)

theorem searchIndex_renamed_root (tree : roster.objects.IsTree) :
    roster.renamed.searchIndex (.space rootSpace) = .ok roster.renamed.rootIndex := by
  refine Objects.searchIndex_root (there_renamed tree _) ?_
  intro id member
  obtain ⟨view, found⟩ := tree.view_of_mem member
  exact ⟨_, by rw [view?_renamed, found, Option.map_some]⟩

end Renamed

section Addresses

theorem unaddressed?_eq_none_iff {id : ObjectId} : roster.unaddressed? id = none ↔
    ∀ name ∈ roster.addressNames id, ∃ text, name = .sound text := by
  rw [unaddressed?, List.findSome?_eq_none_iff]
  apply forall₂_congr
  intro name _
  cases name <;> simp [brokenGlyphs?]

/-- An address is made of names that objects are called by. -/
theorem called_of_mem_addressNames {id : ObjectId} {name : Wide} (member : name ∈ roster.addressNames id) :
    (∃ other item, roster.objects.item? other = some item ∧ roster.called item.name.text = name) ∨
    ∃ other view, roster.objects.view? other = some view ∧ roster.called view.name.text = name := by
  cases id with
  | item id =>
      obtain ⟨item, passed, called⟩ := List.mem_map.mp member
      obtain ⟨other, found⟩ := Objects.item?_of_mem_lineage passed
      exact .inl ⟨other, item, found, called⟩
  | view id =>
      obtain ⟨view, found, called⟩ := Option.map_eq_some_iff.mp (Option.mem_toList.mp member)
      exact .inr ⟨id, view, found, called⟩
  | space id => cases member

/-- What keeps an object from having an address is a broken name that an edit gave. -/
theorem Stands.broken_of_unaddressed? (stands : roster.Stands edits) {id : ObjectId} {glyphs : List Glyph}
    (kept : roster.unaddressed? id = some glyphs) : ∃ isBroken, .broken glyphs isBroken ∈ roster.names := by
  obtain ⟨name, member, broken⟩ := List.exists_of_findSome?_eq_some kept
  have listed : name ∈ roster.names := by
    rcases called_of_mem_addressNames member with ⟨_, item, found, rfl⟩ | ⟨_, view, found, rfl⟩
    · exact (stands.isStandIn_item found).called_mem
    · exact (stands.isStandIn_view found).called_mem
  cases name with
  | sound text => cases broken
  | broken other isBroken =>
      cases broken
      exact ⟨isBroken, listed⟩

theorem called_item_of_addressed {id : ItemId} {item : Item}
    (found : roster.objects.item? id = some item) (addressed : roster.unaddressed? (.item id) = none) :
    ∃ text, roster.called item.name.text = .sound text :=
  unaddressed?_eq_none_iff.mp addressed _ (List.mem_map_of_mem (Objects.mem_lineage found))

theorem called_view_of_addressed {id : ViewId} {view : ListView}
    (found : roster.objects.view? id = some view) (addressed : roster.unaddressed? (.view id) = none) :
    ∃ text, roster.called view.name.text = .sound text := by
  apply unaddressed?_eq_none_iff.mp addressed
  simp [addressNames, found]

/-- An index shows what the objects of the names that are sound show, unless a name is broken. -/
theorem Stands.searchIndex_cases (stands : roster.Stands edits) (id : ObjectId) :
    ((∀ shown ∈ roster.shownIn id, roster.unaddressed? shown = none) ∧
      roster.searchIndex id = roster.renamed.searchIndex id) ∨
    ∃ glyphs isBroken, .broken glyphs isBroken ∈ roster.names ∧
      roster.searchIndex id = .error (.unencodable glyphs) := by
  unfold searchIndex
  cases met : (roster.shownIn id).findSome? roster.unaddressed? with
  | none => exact .inl ⟨List.findSome?_eq_none_iff.mp met, rfl⟩
  | some glyphs =>
      obtain ⟨shown, -, kept⟩ := List.exists_of_findSome?_eq_some met
      obtain ⟨isBroken, listed⟩ := stands.broken_of_unaddressed? kept
      exact .inr ⟨glyphs, isBroken, listed, rfl⟩

/-- Every index of sound names is that of the objects of these names. -/
theorem catalog_renamed (stands : roster.Stands edits) (tree : roster.objects.IsTree)
    (sound : roster.IsSound edits) : roster.catalog = roster.renamed.catalog := by
  obtain ⟨items, views⟩ := stands.isSound_iff.mp sound
  have item (id : ItemId) : roster.unaddressed? (.item id) = none := by
    apply unaddressed?_eq_none_iff.mpr
    intro name member
    obtain ⟨item, passed, rfl⟩ := List.mem_map.mp member
    obtain ⟨other, found⟩ := Objects.item?_of_mem_lineage passed
    exact items other item found
  have view (id : ViewId) (listed : id ∈ roster.objects.viewsOf rootSpace) :
      roster.unaddressed? (.view id) = none := by
    apply unaddressed?_eq_none_iff.mpr
    intro name member
    obtain ⟨view, found, rfl⟩ := Option.map_eq_some_iff.mp (Option.mem_toList.mp member)
    exact views id listed view found
  have shown (id : ObjectId) : ∀ shown ∈ roster.shownIn id, roster.unaddressed? shown = none := by
    intro shown member
    cases id with
    | item id =>
        rcases List.mem_cons.mp member with rfl | held
        · exact item id
        · obtain ⟨other, -, rfl⟩ := List.mem_map.mp held
          exact item other
    | view id =>
        obtain ⟨other, -, rfl⟩ := List.mem_map.mp member
        exact item other
    | space id =>
        rcases List.mem_append.mp member with held | listed
        · obtain ⟨other, -, rfl⟩ := List.mem_map.mp held
          exact item other
        · obtain ⟨other, inside, rfl⟩ := List.mem_map.mp listed
          cases there : roster.objects.space? id with
          | none => simp [there] at inside
          | some space =>
              have here : roster.objects.HasGroup (.space id) := Option.isSome_iff_exists.mpr ⟨space, there⟩
              cases tree.eq_rootSpace here
              exact view other inside
  have index (id : ObjectId) : roster.searchIndex id = roster.renamed.searchIndex id := by
    rw [searchIndex, List.findSome?_eq_none_iff.mpr (shown id)]
  simp only [catalog, Objects.catalog, index, ids_renamed]

end Addresses

section Failing

/-- A folder is opened, with addresses for all that it shows, or a broken name keeps it from that. -/
theorem Stands.opening_cases (stands : roster.Stands edits) (tree : roster.objects.IsTree) {id : ItemId}
    {item : Item} (found : roster.objects.item? id = some item) :
    ((∀ shown ∈ roster.shownIn (.item id), roster.unaddressed? shown = none) ∧
      roster.catalog.opening (.item id) = .fresh (roster.renamed.folderIndex id)) ∨
    ∃ glyphs isBroken, .broken glyphs isBroken ∈ roster.names ∧
      roster.catalog.opening (.item id) = .failed (.unencodable glyphs) := by
  have opening : roster.catalog.opening (.item id) = .ofExcept (roster.searchIndex (.item id)) := rfl
  rw [opening]
  rcases stands.searchIndex_cases (.item id) with ⟨addressed, same⟩ | ⟨glyphs, isBroken, listed, failed⟩
  · rw [same, searchIndex_renamed_item tree found]
    exact .inl ⟨addressed, rfl⟩
  · rw [failed]
    exact .inr ⟨glyphs, isBroken, listed, rfl⟩

/-- The visit that a search over the workspace begins with. -/
def rootVisit (roster : Roster) : Visit ObjectId := ⟨.start, roster.renamed.rootIndex⟩

/-- From the index of the workspace a search goes on to items that are there. -/
theorem Stands.children_of_path (stands : roster.Stands edits) (tree : roster.objects.IsTree)
    {visit : Visit ObjectId} {length : Nat} (path : roster.catalog.Path roster.rootVisit length visit) :
    ∀ child ∈ visit.index.children, ∃ id item, child = .container (.item id) ∧
      roster.objects.item? id = some item := by
  have folders (group : GroupId) : ∀ child ∈ (roster.renamed.foldersOf
      (roster.renamed.members group)).map fun id => Child.container (ObjectId.item id),
      ∃ id item, child = .container (.item id) ∧ roster.objects.item? id = some item := by
    intro child listed
    obtain ⟨id, folder, rfl⟩ := List.mem_map.mp listed
    have member := (List.mem_filter.mp folder).1
    rw [members_renamed] at member
    obtain ⟨item, found⟩ := tree.there_of_mem group id member
    exact ⟨id, item, rfl, found⟩
  induction path with
  | here => exact folders (.space rootSpace)
  | @onward length previous next child path listed free leads ih =>
      obtain ⟨id, item, rfl, found⟩ := ih child listed
      have known : .item id ∈ roster.catalog.containers := Objects.mem_ids_item found
      rcases stands.opening_cases tree found with ⟨-, opens⟩ | ⟨glyphs, -, -, failed⟩
      · simp only [Catalog.destination?, if_pos known, opens] at leads
        cases leads
        exact folders (.folder id)
      · simp only [Catalog.destination?, if_pos known, failed] at leads
        cases leads

/-- If the walk over the workspace does not fail, it comes to every item, and addresses are made of all. -/
theorem Stands.addressed_of_walk (stands : roster.Stands edits) (tree : roster.objects.IsTree)
    (root : ∀ shown ∈ roster.shownIn (.space rootSpace), roster.unaddressed? shown = none)
    (whole : (roster.catalog.walk roster.rootVisit).fault = none) {depth : Nat} {id : ItemId}
    (member : id ∈ roster.objects.itemsAt depth) : roster.unaddressed? (.item id) = none ∧
      ((roster.objects.group? id).isSome → ∃ visit, roster.catalog.Reachable roster.rootVisit visit ∧
        .container (.item id) ∈ visit.index.children) := by
  have listed {group : GroupId} {id : ItemId} (member : id ∈ roster.objects.members group)
      (folder : (roster.objects.group? id).isSome) : .container (.item id) ∈
        (roster.renamed.foldersOf (roster.renamed.members group)).map
          fun id => Child.container (ObjectId.item id) := by
    rw [members_renamed, foldersOf_renamed]
    exact List.mem_map_of_mem (List.mem_filter.mpr ⟨member, folder⟩)
  have begins : roster.rootVisit.Begins roster.catalog := trivial
  induction depth generalizing id with
  | zero =>
      refine ⟨root _ (List.mem_append_left _ (List.mem_map_of_mem member)), fun folder => ?_⟩
      exact ⟨roster.rootVisit, ⟨0, .here⟩, listed member folder⟩
  | succ depth ih =>
      obtain ⟨holder, above, held⟩ := Objects.mem_itemsAt_succ.mp member
      have group : roster.objects.group? holder = some (.folder holder) := Objects.hasGroup_of_mem held
      obtain ⟨visit, ⟨length, path⟩, child⟩ := (ih above).2 (by rw [group]; rfl)
      obtain ⟨item, found⟩ := tree.item_of_mem_itemsAt above
      have known : .item holder ∈ roster.catalog.containers := Objects.mem_ids_item found
      have free : ¬roster.rootVisit.Owns (.container (.item holder)) := by
        rintro ⟨key, owner, same⟩
        cases owner
        cases same
      rcases stands.opening_cases tree found with ⟨addressed, opens⟩ | ⟨glyphs, -, -, failed⟩
      · refine ⟨addressed _ (List.mem_cons_of_mem _ (List.mem_map_of_mem held)), fun folder => ?_⟩
        have leads : roster.catalog.destination? (.container (.item holder)) =
            some ⟨.opened (.item holder), roster.renamed.folderIndex holder⟩ := by
          simp only [Catalog.destination?, if_pos known, opens]
        exact ⟨_, ⟨length + 1, path.onward child free leads⟩, listed held folder⟩
      · exact absurd failed ((Catalog.walk_fault_eq_none_iff begins).mp whole _
          ⟨known, free, visit, ⟨length, path⟩, child⟩ _)

/-- The workspace cannot be searched if a name is broken that it shows. -/
theorem searchFails (stands : roster.Stands edits) (tree : roster.objects.IsTree)
    (broken : ¬roster.IsSound edits) : roster.SearchFails := by
  rcases stands.searchIndex_cases (.space rootSpace) with ⟨root, same⟩ | ⟨glyphs, isBroken, listed, failed⟩
  · rw [searchIndex_renamed_root tree] at same
    have opened : (roster.catalog.openStart (.space rootSpace)).result = .ok roster.rootVisit := by
      simp only [Catalog.openStart, catalog, same]
      rfl
    have begins : roster.rootVisit.Begins roster.catalog := trivial
    cases ended : (roster.catalog.walk roster.rootVisit).fault with
    | none =>
        exfalso
        apply broken
        rw [stands.isSound_iff]
        constructor
        · intro id item found
          obtain ⟨depth, member⟩ := tree.exists_depth found
          exact called_item_of_addressed found (stands.addressed_of_walk tree root ended member).1
        · intro id listed view found
          exact called_view_of_addressed found
            (root _ (List.mem_append_right _ (List.mem_map_of_mem listed)))
    | some fault =>
        obtain ⟨key, ⟨known, -, visit, ⟨length, path⟩, child⟩, failed⟩ :=
          Catalog.exists_failed_of_walk_fault begins ended
        obtain ⟨id, item, same, found⟩ := stands.children_of_path tree path _ child
        cases same
        rcases stands.opening_cases tree found with ⟨-, opens⟩ | ⟨glyphs, isBroken, listed, failed'⟩
        · rw [opens] at failed
          cases failed
        · rw [failed'] at failed
          cases failed
          exact ⟨glyphs, isBroken, listed, .inr ⟨roster.rootVisit, opened,
            fun query => Catalog.suggest_failed ended query,
            fun query caseSensitive => Catalog.find_error ended query caseSensitive⟩⟩
  · refine ⟨glyphs, isBroken, listed, .inl ?_⟩
    simp only [Catalog.openStart, catalog, failed]
    rfl

end Failing

/-- However a workspace came about, a search over it comes across every object once, level by level, under
the names that were given. If one of them is broken that would have to be shown, every search fails. -/
theorem CameFrom.isSearchedUnlessBroken (came : roster.CameFrom edits) :
    (roster.IsSound edits → roster.IsSearchedAs edits) ∧ (¬roster.IsSound edits → roster.SearchFails) := by
  have stands := came.stands
  refine ⟨fun sound => ?_, searchFails stands came.isTree⟩
  have called := stands.isSound_iff.mp sound
  constructor
  case catalog => exact catalog_renamed stands came.isTree sound
  case items =>
    rw [← stands.map_called_itemTexts]
    simp only [Objects.itemTexts, renamed, List.map_map]
    apply List.map_congr_left
    intro item member
    obtain ⟨index, found⟩ := List.getElem?_of_mem member
    have there : roster.objects.item? ⟨index⟩ = some item := found
    obtain ⟨text, sound⟩ := called.1 _ item there
    simp only [Function.comp_apply, sound, stands.soundName_text (stands.isStandIn_item there) sound]
  case views =>
    intro id listed
    obtain ⟨view, found⟩ := came.isTree.view_of_mem listed
    obtain ⟨text, sound⟩ := called.2 id listed view found
    rw [stands.view_called found, view?_renamed, found, sound]
    simp only [Option.map_some, stands.soundName_text (stands.isStandIn_view found) sound]
  case searched => exact (isTree_renamed stands came.isTree sound).isSearchedLevelByLevel

/-- Making a folder with a display name, a disabled job in it, a view of the job, one of a broken name that
is not listed, and a job beside the folder. -/
def nestedEdits : List (Edit Wide) := [
  .createFolder (.space rootSpace) (.sound "a") none none,
  .createJob (.folder ⟨0⟩) (.sound "b") (some "") false none,
  .newView (.sound "v") none,
  .addView ⟨0⟩,
  .listItem ⟨0⟩ ⟨1⟩,
  .newView (.broken [.half 0xd800] rfl) none,
  .setDisplayName ⟨0⟩ (some "A B"),
  .setDisabled ⟨1⟩ true,
  .setPrimaryView ⟨0⟩,
  .createJob (.space rootSpace) (.sound "c") none false none]

/-- What comes of it. -/
def nested : Roster where
  names := [.sound "a", .sound "b", .sound "v", .broken [.half 0xd800] rfl, .sound "c"]
  objects.items := [
    { name := strokes 0, displayName := some "A B", parent := some (.space ⟨0⟩), body := .folder [⟨1⟩] },
    { name := strokes 1, parent := some (.folder ⟨0⟩), body := .job true },
    { name := strokes 4, parent := some (.space ⟨0⟩), body := .job false }]
  objects.views := [{ name := strokes 2, owner := some ⟨0⟩, members := [⟨1⟩] }, { name := strokes 3 }]
  objects.spaces := [{ items := [⟨0⟩, ⟨2⟩], views := [⟨0⟩], primary := some ⟨0⟩ }]

theorem nested_cameFrom : nested.CameFrom nestedEdits := by
  have folder := CameFrom.empty.edit (.createFolder (.space rootSpace) (.sound "a") none none) rfl rfl
  have inside := folder.edit (.createJob (.folder ⟨0⟩) (.sound "b") (some "") false none) rfl rfl
  have made := inside.edit (.newView (.sound "v") none) trivial rfl
  have added := made.edit (.addView ⟨0⟩) trivial rfl
  have listed := added.edit (.listItem ⟨0⟩ ⟨1⟩) trivial rfl
  have unlisted := listed.edit (.newView (.broken [.half 0xd800] rfl) none) trivial rfl
  have named := unlisted.edit (.setDisplayName ⟨0⟩ (some "A B")) trivial rfl
  have disabled := named.edit (.setDisabled ⟨1⟩ true) trivial rfl
  have primary := disabled.edit (.setPrimaryView ⟨0⟩) trivial rfl
  exact primary.edit (.createJob (.space rootSpace) (.sound "c") none false none) rfl rfl

theorem nested_isSound : nested.IsSound nestedEdits := by
  constructor
  case items => simp [nestedEdits, Edit.itemName?]
  case views =>
    intro id listed name given
    cases List.mem_singleton.mp listed
    cases given
    exact ⟨"v", rfl⟩

/-- The display name of the folder and the name of the job in it contain what is looked for. -/
theorem nested_isSearchedUnlessBroken : nested.CameFrom nestedEdits ∧ nested.IsSound nestedEdits ∧
    ((nested.catalog.suggest nested.rootVisit "b" none).result.toOption.map fun entries =>
      entries.map fun entry => (entry.name, entry.kind)) = some [("A B", .displayName), ("b", .name)] ∧
    (nested.IsSound nestedEdits → nested.IsSearchedAs nestedEdits) ∧
    (¬nested.IsSound nestedEdits → nested.SearchFails) :=
  ⟨nested_cameFrom, nested_isSound, by decide +kernel, nested_cameFrom.isSearchedUnlessBroken⟩

/-- A job of a broken name, and another one beside it. -/
def halfNamed : Roster where
  names := [.broken [.half 0xd800] rfl, .sound "a"]
  objects.items := [
    { name := strokes 0, parent := some (.space ⟨0⟩), body := .job false },
    { name := strokes 1, parent := some (.space ⟨0⟩), body := .job false }]
  objects.spaces := [{ items := [⟨0⟩, ⟨1⟩] }]

/-- The check of names lets half of a surrogate pair pass, and then not even the other job is found. -/
theorem halfNamed_not_searched :
    halfNamed.CameFrom [.createJob (.space rootSpace) (.broken [.half 0xd800] rfl) none false none,
      .createJob (.space rootSpace) (.sound "a") none false none] ∧
    (halfNamed.catalog.openStart (.space rootSpace)).result = .error (.unencodable [.half 0xd800]) := by
  have half := CameFrom.empty.edit
    (.createJob (.space rootSpace) (.broken [.half 0xd800] rfl) none false none) rfl rfl
  have kept : (halfNamed.shownIn (.space rootSpace)).findSome? halfNamed.unaddressed? =
      some [.half 0xd800] := by
    decide +kernel
  have failed : halfNamed.searchIndex (.space rootSpace) = .error (.unencodable [.half 0xd800]) := by
    rw [searchIndex, kept]
  refine ⟨half.edit (.createJob (.space rootSpace) (.sound "a") none false none) rfl rfl, ?_⟩
  simp only [Catalog.openStart, catalog, failed]
  rfl

end Roster

end Wayfinder.Workspace
