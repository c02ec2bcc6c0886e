import Wayfinder.Proofs.Storage.Soundness
import Wayfinder.Proofs.Workspace.Growth
import Wayfinder.Storage.Snapshot

/-!
# Snapshots of sound tables

A snapshot of rows that can be read back is made, and it is one workspace with a tree of items. Rows
that do not fit are skipped, so nothing has to be known about parents or identifiers. Whatever the rows
are, a snapshot that is made is a tree.
-/

namespace Wayfinder.Storage

open Workspace

theorem checkName_eq_ok {text : String} (named : NameFault.of? text = none) :
    ∃ name, checkName text = .ok name ∧ name.text = text := by
  exact ⟨⟨text, named⟩, checkName_eq_ok_iff.mpr rfl, rfl⟩

namespace Loading

variable {loading : Loading}

/-- A group that was read is there. -/
theorem hasGroup_of_group? (tree : loading.objects.IsTree) {parent : Option Int} {group : GroupId}
    (found : loading.group? parent = some group) : loading.objects.HasGroup group := by
  cases parent with
  | none =>
      cases found
      have there : 0 < loading.objects.spaces.length := by rw [tree.single]; exact Nat.one_pos
      exact Option.isSome_iff_exists.mpr ⟨_, List.getElem?_eq_getElem there⟩
  | some parent =>
      obtain ⟨id, -, folder⟩ := Option.bind_eq_some_iff.mp found
      obtain ⟨rfl, -⟩ := Objects.group?_eq_some_iff.mp folder
      exact folder

theorem itemOf_eq_ok {row : ItemRow} (named : NameFault.of? row.name = none) :
    ∃ item, itemOf row = .ok item ∧ item.items = [] := by
  obtain ⟨name, checked, -⟩ := checkName_eq_ok named
  unfold itemOf
  split
  · exact ⟨_, map_eq_ok_iff.mpr ⟨name, checked, rfl⟩, rfl⟩
  · exact ⟨_, map_eq_ok_iff.mpr ⟨name, checked, rfl⟩, rfl⟩

/-- Reading an item leaves a tree and no view. -/
theorem readItem_result {row : ItemRow} (tree : loading.objects.IsTree)
    (unviewed : loading.objects.viewsOf rootSpace = []) (named : NameFault.of? row.name = none) :
    ∃ after, (loading.readItem row).result = .ok after ∧ after.objects.IsTree ∧
      after.objects.viewsOf rootSpace = [] := by
  unfold readItem
  split
  case h_1 => exact ⟨loading, rfl, tree, unviewed⟩
  case h_2 group found =>
    have there := hasGroup_of_group? tree found
    obtain ⟨item, made, empty⟩ := itemOf_eq_ok named
    simp only [made]
    split
    case h_1 => exact ⟨loading, rfl, tree, unviewed⟩
    case h_2 objects id created =>
      have placed := Objects.createItem_placed there empty created
      exact ⟨_, rfl, tree.createItem there empty created, (placed.viewsOf rootSpace).trans unviewed⟩

theorem readItems_result {rows : List ItemRow} (tree : loading.objects.IsTree)
    (unviewed : loading.objects.viewsOf rootSpace = [])
    (named : ∀ row ∈ rows, NameFault.of? row.name = none) :
    ∃ after, (rows.foldlM readItem loading).result = .ok after ∧ after.objects.IsTree ∧
      after.objects.viewsOf rootSpace = [] := by
  induction rows generalizing loading with
  | nil => exact ⟨loading, rfl, tree, unviewed⟩
  | cons row rows ih =>
      obtain ⟨next, read, tree', unviewed'⟩ := readItem_result tree unviewed (named row (by simp))
      obtain ⟨after, rest, left⟩ := ih tree' unviewed' fun other member =>
        named other (by simp [member])
      refine ⟨after, ?_, left⟩
      rw [List.foldlM_cons, result_bind_of_ok read]
      exact rest

/-- The views that were read so far have their names from a list. -/
def ViewsNamed (objects : Objects) (names : List String) : Prop :=
  ∀ id ∈ objects.viewsOf rootSpace, ∀ view, objects.view? id = some view → view.name.text ∈ names

theorem ViewsNamed.newView {objects : Objects} {names : List String} (views : ViewsNamed objects names)
    (tree : objects.IsTree) (view : ListView) : ViewsNamed (objects.newView view).1 names := by
  intro other member held found
  obtain ⟨before, found'⟩ := tree.view_of_mem member
  obtain ⟨same, again, -⟩ := Objects.keepsNames_newView objects view found'
  rw [found] at again
  cases again
  have bound := (List.getElem?_eq_some_iff.mp found').1
  have kept : objects.view? other = some held := by
    rw [← found]
    exact (List.getElem?_append_left bound).symm
  exact views other member held kept

theorem ViewsNamed.listed {objects : Objects} {names : List String} (views : ViewsNamed objects names)
    (single : objects.spaces.length = 1) {id : ViewId} {view : ListView}
    (there : objects.view? id = some view) :
    ViewsNamed (objects.listed rootSpace id) (view.name.text :: names) := by
  intro other member held found
  rw [Objects.viewsOf_listed single, List.mem_append, List.mem_singleton] at member
  have modified : (objects.listed rootSpace id).view? other =
      if other = id then (objects.view? other).map fun view => { view with owner := some rootSpace }
      else objects.view? other := Objects.view?_modifyView objects id other _
  have source : ∃ before, objects.view? other = some before ∧ held.name = before.name := by
    rw [modified] at found
    split at found
    · obtain ⟨before, is, rfl⟩ := Option.map_eq_some_iff.mp found
      exact ⟨before, is, rfl⟩
    · exact ⟨held, found, rfl⟩
  obtain ⟨before, is, same⟩ := source
  rcases member with old | rfl
  · exact List.mem_cons_of_mem _ (same ▸ views other old before is)
  · rw [there] at is
    cases is
    exact List.mem_cons.mpr (.inl (by rw [same]))

/-- A view of a new name is made and listed. -/
theorem createView_eq_ok {objects : Objects} {names : List String} {name : String} (key : Option Int)
    (tree : objects.IsTree) (views : ViewsNamed objects names) (fresh : name ∉ names)
    (named : NameFault.of? name = none) :
    ∃ after id, objects.createView snapshotSpace name key = .ok (after, id) ∧ after.IsTree ∧
      ViewsNamed after (name :: names) ∧ id ∈ after.viewsOf rootSpace := by
  obtain ⟨checked, parsed, rfl⟩ := checkName_eq_ok named
  let view : ListView := { name := checked, id := key }
  let made := (objects.newView view).1
  let id : ViewId := ⟨objects.views.length⟩
  have there : made.view? id = some view := List.getElem?_concat_length
  have older : ViewsNamed made names := views.newView tree view
  have free : made.viewNamed? rootSpace checked.text = none := by
    refine Objects.viewNamed?_eq_none_iff.mpr fun other member held found same => fresh ?_
    rw [← same]
    exact older other member held found
  have added : made.addView rootSpace id = .ok (made.listed rootSpace id) := by
    simp only [Objects.addView, there, view, free]
    rfl
  have single : made.spaces.length = 1 := tree.single
  refine ⟨made.listed rootSpace id, id, ?_, (tree.newView view).addView added,
    older.listed single there, ?_⟩
  · refine bind_eq_ok_iff.mpr ⟨view, map_eq_ok_iff.mpr ⟨checked, parsed, rfl⟩, ?_⟩
    exact bind_eq_ok_iff.mpr ⟨_, added, rfl⟩
  · rw [Objects.viewsOf_listed single]
    simp

theorem readView_eq_ok {row : ViewRow} {names : List String} (tree : loading.objects.IsTree)
    (views : ViewsNamed loading.objects names) (fresh : row.name ∉ names)
    (named : NameFault.of? row.name = none) :
    ∃ after, loading.readView row = .ok after ∧ after.objects.IsTree ∧
      ViewsNamed after.objects (row.name :: names) := by
  obtain ⟨objects, id, created, tree', views', listed⟩ :=
    createView_eq_ok (some row.id) tree views fresh named
  cases primary : row.isPrimary with
  | false =>
      refine ⟨{ loading with objects, views := loading.views ++ [(row.id, id)] }, ?_, tree', views'⟩
      refine bind_eq_ok_iff.mpr ⟨(objects, id), created, ?_⟩
      simp only [primary]
      rfl
  | true =>
      have chosen : objects.setPrimaryView snapshotSpace id =
          .ok (objects.modifySpace snapshotSpace fun space => { space with primary := some id }) :=
        if_pos listed
      have kept : (objects.modifySpace snapshotSpace fun space =>
          { space with primary := some id }).viewsOf rootSpace = objects.viewsOf rootSpace :=
        Objects.viewsOf_modifySpace objects snapshotSpace rootSpace _ fun _ => rfl
      refine ⟨{ loading with
        objects := objects.modifySpace snapshotSpace fun space => { space with primary := some id }
        views := loading.views ++ [(row.id, id)] }, ?_, tree'.setPrimaryView chosen, ?_⟩
      · refine bind_eq_ok_iff.mpr ⟨(objects, id), created, ?_⟩
        simp only [primary, if_true]
        exact bind_eq_ok_iff.mpr ⟨_, chosen, rfl⟩
      · intro other member view found
        rw [kept] at member
        exact views' other member view found

theorem readViews_eq_ok {rows : List ViewRow} {names : List String} (tree : loading.objects.IsTree)
    (views : ViewsNamed loading.objects names)
    (fresh : ∀ row ∈ rows, row.name ∉ names ∧ NameFault.of? row.name = none)
    (differ : rows.Pairwise fun left right => left.name ≠ right.name) :
    ∃ after, rows.foldlM readView loading = .ok after ∧ after.objects.IsTree := by
  induction rows generalizing loading names with
  | nil => exact ⟨loading, rfl, tree⟩
  | cons row rows ih =>
      obtain ⟨new, named⟩ := fresh row (by simp)
      obtain ⟨first, differ⟩ := List.pairwise_cons.mp differ
      obtain ⟨next, read, tree', views'⟩ := readView_eq_ok tree views new named
      obtain ⟨after, rest, tree''⟩ := ih tree' views' (fun other member => by
        refine ⟨?_, (fresh other (by simp [member])).2⟩
        rw [List.mem_cons, not_or]
        exact ⟨Ne.symm (first other member), (fresh other (by simp [member])).1⟩) differ
      refine ⟨after, ?_, tree''⟩
      rw [List.foldlM_cons]
      exact bind_eq_ok_iff.mpr ⟨next, read, rest⟩

theorem isTree_readMembers (rows : List MemberRow) (tree : loading.objects.IsTree) :
    (rows.foldl readMember loading).objects.IsTree := by
  induction rows generalizing loading with
  | nil => exact tree
  | cons row rows ih =>
      apply ih
      unfold readMember
      split
      · apply tree.modifyView
        intro view
        unfold ListView.add
        split <;> rfl
      · exact tree

end Loading

/-- Sound tables have a snapshot, and it is a tree. -/
theorem Tables.IsSound.snapshot_result {tables : Tables} (sound : tables.IsSound) :
    ∃ objects, tables.snapshot.result = .ok objects ∧ objects.IsTree := by
  have empty : ({} : Loading).objects.IsTree := Objects.isTree_newSpace
  have bare : ({} : Loading).objects.viewsOf rootSpace = [] := rfl
  obtain ⟨loaded, items, tree, unviewed⟩ := Loading.readItems_result empty bare sound.itemNames
  have unnamed : Loading.ViewsNamed loaded.objects [] := by
    intro id member
    rw [unviewed] at member
    cases member
  obtain ⟨viewed, views, tree'⟩ := Loading.readViews_eq_ok tree unnamed
    (fun row member => ⟨by simp, sound.viewNames row member⟩) sound.viewsDiffer
  have read : (Traced.ofExcept (tables.views.foldlM Loading.readView loaded) :
      Traced LogLine Fault Loading).result = .ok viewed := views
  refine ⟨_, ?_, Loading.isTree_readMembers tables.members tree'⟩
  rw [Tables.snapshot, result_bind_of_ok items, result_bind_of_ok read]
  rfl

/-- A sound database has a snapshot, and it is a tree. -/
theorem Database.IsSound.load_result {database : Database} (sound : database.IsSound) :
    ∃ objects, database.load.result = .ok objects ∧ objects.IsTree := by
  obtain ⟨tables, content, isSound⟩ := sound
  obtain ⟨objects, made, tree⟩ := isSound.snapshot_result
  refine ⟨objects, ?_, tree⟩
  have there : (Traced.ofExcept database.tables : Traced LogLine OperationFault Tables).result =
      .ok tables := Database.tables_eq_ok_iff.mpr content
  rw [Database.load, result_bind_of_ok there]
  exact result_mapError_of_ok made _

namespace Loading

variable {loading after : Loading}

theorem items_of_itemOf {row : ItemRow} {item : Item} (made : itemOf row = .ok item) :
    item.items = [] := by
  unfold itemOf at made
  split at made
  · obtain ⟨name, -, rfl⟩ := map_eq_ok_iff.mp made
    rfl
  · obtain ⟨name, -, rfl⟩ := map_eq_ok_iff.mp made
    rfl

theorem isTree_of_readItem {row : ItemRow} (tree : loading.objects.IsTree)
    (read : (loading.readItem row).result = .ok after) : after.objects.IsTree := by
  unfold readItem at read
  split at read
  case h_1 => exact Except.ok.inj read ▸ tree
  case h_2 group found =>
    split at read
    case h_1 => cases read
    case h_2 item made =>
      split at read
      case h_1 => exact Except.ok.inj read ▸ tree
      case h_2 objects id created =>
        have there := hasGroup_of_group? tree found
        rw [← Except.ok.inj read]
        exact tree.createItem there (items_of_itemOf made) created

theorem isTree_of_readItems {rows : List ItemRow} (tree : loading.objects.IsTree)
    (read : (rows.foldlM readItem loading).result = .ok after) : after.objects.IsTree := by
  induction rows generalizing loading with
  | nil => exact Except.ok.inj read ▸ tree
  | cons row rows ih =>
      rw [List.foldlM_cons] at read
      obtain ⟨next, first, rest⟩ := result_bind_eq_ok_iff.mp read
      exact ih (isTree_of_readItem tree first) rest

theorem isTree_of_readView {row : ViewRow} (tree : loading.objects.IsTree)
    (read : loading.readView row = .ok after) : after.objects.IsTree := by
  obtain ⟨⟨objects, id⟩, created, read⟩ := bind_eq_ok_iff.mp read
  obtain ⟨view, -, listed⟩ := bind_eq_ok_iff.mp created
  obtain ⟨_, added, rest⟩ := bind_eq_ok_iff.mp listed
  cases rest
  have viewed := (tree.newView view).addView added
  dsimp only at read
  split at read
  · obtain ⟨_, chosen, rest⟩ := bind_eq_ok_iff.mp read
    cases rest
    exact viewed.setPrimaryView chosen
  · cases read
    exact viewed

theorem isTree_of_readViews {rows : List ViewRow} (tree : loading.objects.IsTree)
    (read : rows.foldlM readView loading = .ok after) : after.objects.IsTree := by
  induction rows generalizing loading with
  | nil => exact Except.ok.inj read ▸ tree
  | cons row rows ih =>
      rw [List.foldlM_cons] at read
      obtain ⟨next, first, rest⟩ := bind_eq_ok_iff.mp read
      exact ih (isTree_of_readView tree first) rest

end Loading

/-- A snapshot that is made of any rows is a tree. -/
theorem Tables.isTree_of_snapshot {tables : Tables} {objects : Objects}
    (made : tables.snapshot.result = .ok objects) : objects.IsTree := by
  obtain ⟨loaded, items, made⟩ := result_bind_eq_ok_iff.mp made
  obtain ⟨viewed, views, made⟩ := result_bind_eq_ok_iff.mp made
  cases made
  have tree := Loading.isTree_of_readItems Objects.isTree_newSpace items
  exact Loading.isTree_readMembers tables.members (Loading.isTree_of_readViews tree views)

theorem Database.isTree_of_load {database : Database} {objects : Objects}
    (loaded : database.load.result = .ok objects) : objects.IsTree := by
  obtain ⟨tables, -, made⟩ := result_bind_eq_ok_iff.mp loaded
  exact Tables.isTree_of_snapshot (result_mapError_eq_ok_iff.mp made)

end Wayfinder.Storage
