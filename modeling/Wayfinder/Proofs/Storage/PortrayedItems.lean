import Wayfinder.Proofs.Outcome
import Wayfinder.Proofs.Storage.Portrait
import Wayfinder.Proofs.Storage.WellFormed
import Wayfinder.Proofs.Workspace.Tree

/-!
# Reading items one after another

An item that is read is put behind all others of its group, so the objects go on to be the portrait of
the rows read so far. Reading is done in one pass: the folder of an item has to be read before it.
-/

namespace Wayfinder.Storage

open Workspace

section Concat

variable {rows : List ItemRow} {row : ItemRow}

theorem childrenOf_concat (fresh : row.id ∉ rows.map ItemRow.id) (parent : Option Int) :
    childrenOf (rows ++ [row]) parent =
      childrenOf rows parent ++ if row.parentId = parent then [⟨rows.length⟩] else [] := by
  have old : (rows.filter fun other => other.parentId == parent).map
      (fun other => objectOf (rows ++ [row]) other.id) = childrenOf rows parent := by
    apply List.map_congr_left
    intro other member
    exact objectOf_append (List.mem_filter.mp member).1 [row]
  rw [childrenOf, List.filter_append, List.map_append, old]
  by_cases same : row.parentId = parent
  · simp [same, objectOf_concat fresh]
  · simp [same]

/-- A row that is not there has no children. -/
theorem childrenOf_fresh (grounded : Grounded rows) (fresh : row.id ∉ rows.map ItemRow.id) :
    childrenOf rows (some row.id) = [] := by
  rw [childrenOf, List.map_eq_nil_iff, List.filter_eq_nil_iff]
  intro child stored held
  obtain ⟨folder, there, same, -⟩ := grounded.houses child stored row.id (eq_of_beq held)
  apply fresh
  rw [← same]
  exact List.mem_map_of_mem there

theorem groupOf_eq_folder_iff {parent : Option Int} {other : ItemRow} (houses : Houses rows parent) :
    groupOf rows parent = .folder (objectOf rows other.id) ↔ parent = some other.id := by
  cases parent with
  | none => simp [groupOf]
  | some id =>
      obtain ⟨folder, there, rfl, -⟩ := houses id rfl
      simp only [groupOf, GroupId.folder.injEq, Option.some.injEq]
      constructor
      · exact objectOf_inj there
      · intro same
        rw [same]

/-- With a new row, the items that the others describe stay as they are; only its folder grows. -/
theorem itemFor_concat {other : ItemRow} (grounded : Grounded rows) (stored : other ∈ rows)
    (fresh : row.id ∉ rows.map ItemRow.id) (houses : Houses rows row.parentId) (name : Name) :
    itemFor (rows ++ [row]) other name =
      Objects.grownBy (groupOf rows row.parentId) ⟨rows.length⟩ (objectOf rows other.id)
        (itemFor rows other name) := by
  have parent := groupOf_append (grounded.houses other stored) [row]
  unfold Objects.grownBy
  by_cases child : row.parentId = some other.id
  · obtain ⟨folder, there, same, isFolder⟩ := houses other.id child
    cases grounded.eq_of_id there stored same
    have body := childrenOf_concat fresh (some other.id)
    rw [if_pos child] at body
    rw [if_pos ((groupOf_eq_folder_iff houses).mpr child)]
    simp [itemFor, bodyOf, isFolder, parent, body, Item.withItem]
  · have body := childrenOf_concat fresh (some other.id)
    rw [if_neg child, List.append_nil] at body
    rw [if_neg fun same => child ((groupOf_eq_folder_iff houses).mp same)]
    simp [itemFor, bodyOf, parent, body]

theorem Grounded.concat (grounded : Grounded rows) (fresh : row.id ∉ rows.map ItemRow.id)
    (houses : Houses rows row.parentId) : Grounded (rows ++ [row]) := by
  have more {parent : Option Int} (houses : Houses rows parent) : Houses (rows ++ [row]) parent := by
    intro id same
    obtain ⟨folder, there, fits⟩ := houses id same
    exact ⟨folder, List.mem_append_left _ there, fits⟩
  constructor
  · rw [List.map_append]
    exact List.nodup_append.mpr ⟨grounded.ids, by simp, by simpa using fresh⟩
  · intro other member
    rcases List.mem_append.mp member with old | new
    · exact more (grounded.houses other old)
    · rw [List.mem_singleton.mp new]
      exact more houses

end Concat

/-- The item that a row describes, before a group holds it. -/
def detached (row : ItemRow) (name : Name) : Item :=
  { itemFor [] row name with parent := none }

/-- A new row describes an item without children. -/
theorem itemFor_new {rows : List ItemRow} {row : ItemRow} (grounded : Grounded rows)
    (fresh : row.id ∉ rows.map ItemRow.id) (houses : Houses rows row.parentId) (name : Name) :
    itemFor (rows ++ [row]) row name =
      { detached row name with parent := some (groupOf rows row.parentId) } := by
  have below : row.parentId ≠ some row.id := by
    intro child
    obtain ⟨folder, there, same, -⟩ := houses row.id child
    exact fresh (same ▸ List.mem_map_of_mem there)
  have childless : childrenOf (rows ++ [row]) (some row.id) = [] := by
    rw [childrenOf_concat fresh, if_neg below, childrenOf_fresh grounded fresh]
    rfl
  cases kind : row.kind with
  | job => simp [itemFor, detached, bodyOf, kind, groupOf_append houses]
  | folder =>
      simp only [itemFor, detached, bodyOf, kind, groupOf_append houses, childless]
      rfl

theorem items_detached (row : ItemRow) (name : Name) : (detached row name).items = [] := by
  cases kind : row.kind <;> simp [detached, itemFor, bodyOf, kind, Item.items, childrenOf]

namespace PortraysItems

variable {objects changed : Objects} {rows : List ItemRow} {row : ItemRow} {name : Name}

/-- The group of a parent is there. -/
theorem hasGroup_groupOf (portrays : PortraysItems objects rows) {space : Space}
    (spaces : objects.spaces = [space]) {parent : Option Int} (houses : Houses rows parent) :
    objects.HasGroup (groupOf rows parent) := by
  cases parent with
  | none => simp [groupOf, Objects.HasGroup, Objects.space?, spaces, snapshotSpace]
  | some id =>
      obtain ⟨folder, stored, rfl, isFolder⟩ := houses id rfl
      rw [groupOf, Objects.HasGroup, portrays.group?_objectOf stored, if_pos isFolder]

/-- When an item is put into the group of its parent, the objects portray its row with the others. -/
theorem placed {id : ItemId} (portrays : PortraysItems objects rows) (grounded : Grounded rows)
    (fresh : row.id ∉ rows.map ItemRow.id) (houses : Houses rows row.parentId)
    (text : name.text = row.name)
    (placed : Objects.Placed objects changed (groupOf rows row.parentId) (detached row name) id) :
    PortraysItems changed (rows ++ [row]) := by
  have length := portrays.length_items
  have last := objectOf_concat fresh
  have new : id = ⟨rows.length⟩ := by rw [placed.id_eq, length]
  constructor
  case itemIds =>
    rw [map_objectOf_concat fresh fun _ id => id, ← portrays.itemIds, Objects.itemIds, Objects.itemIds,
      placed.length, List.range_succ, List.map_append, length]
    rfl
  case item? =>
    intro other member
    rcases List.mem_append.mp member with stored | added
    · obtain ⟨name, text, found⟩ := portrays.item? other stored
      refine ⟨name, text, ?_⟩
      rw [objectOf_append stored, placed.item?_grown found, new,
        itemFor_concat grounded stored fresh houses]
    · rw [List.mem_singleton.mp added]
      refine ⟨name, text, ?_⟩
      rw [last, ← new, placed.item?_new, itemFor_new grounded fresh houses]

/-- The top level of the workspace grows by an item without a parent. -/
theorem spaces_place (portrays : PortraysItems objects rows) {space : Space}
    (spaces : objects.spaces = [space]) (items : space.items = childrenOf rows none)
    (fresh : row.id ∉ rows.map ItemRow.id) (item : Item) :
    (objects.place (groupOf rows row.parentId) item).spaces =
      [{ space with items := childrenOf (rows ++ [row]) none }] := by
  rw [childrenOf_concat fresh]
  cases row.parentId with
  | some parent =>
      have kept : (objects.place (groupOf rows (some parent)) item).spaces = objects.spaces := rfl
      simp [kept, spaces, ← items]
  | none =>
      have grown : (objects.place (groupOf rows none) item).spaces = objects.spaces.modify 0
          fun space => { space with items := space.items ++ [⟨objects.items.length⟩] } := rfl
      simp [grown, spaces, items, portrays.length_items]

/-- Making the item of a row in the group of its parent: what becomes of it if the name is free. -/
theorem createItem_eq {space : Space} (row : ItemRow) (name : Name)
    (portrays : PortraysItems objects rows) (grounded : Grounded rows)
    (spaces : objects.spaces = [space]) (items : space.items = childrenOf rows none)
    (fresh : row.id ∉ rows.map ItemRow.id) (houses : Houses rows row.parentId)
    (text : name.text = row.name)
    (free : ∀ other ∈ rows, other.parentId = row.parentId → other.name ≠ row.name) :
    ∃ changed, objects.createItem (groupOf rows row.parentId) (detached row name) =
        .ok (changed, ⟨rows.length⟩) ∧
      PortraysItems changed (rows ++ [row]) ∧ changed.views = objects.views ∧
      changed.spaces = [{ space with items := childrenOf (rows ++ [row]) none }] := by
  have there := portrays.hasGroup_groupOf spaces houses
  have unnamed : objects.child? (groupOf rows row.parentId) (detached row name).name.text = none := by
    rw [portrays.child?_groupOf spaces items houses, Option.map_eq_none_iff, List.find?_eq_none]
    intro other stored taken
    obtain ⟨same, sibling⟩ := Bool.and_eq_true_iff.mp taken
    exact free other stored (eq_of_beq sibling) ((eq_of_beq same).trans text)
  have created : objects.createItem (groupOf rows row.parentId) (detached row name) =
      .ok (objects.place (groupOf rows row.parentId) (detached row name), ⟨rows.length⟩) := by
    rw [Objects.createItem_eq _ there (portrays.item_of_mem_groupOf spaces items houses), unnamed,
      portrays.length_items]
  have placed := Objects.createItem_placed there (items_detached row name) created
  exact ⟨_, created, portrays.placed grounded fresh houses text placed, placed.views,
    portrays.spaces_place spaces items fresh _⟩

end PortraysItems

namespace Loading

/-- A snapshot in the making whose items were read from rows, and no views yet. -/
structure ReadsItems (loading : Loading) (rows : List ItemRow) : Prop extends
    PortraysItems loading.objects rows where
  grounded : Grounded rows
  spaces : loading.objects.spaces = [{ items := childrenOf rows none }]
  noViews : loading.objects.views = []
  keys : loading.items = rows.map fun row => (row.id, objectOf rows row.id)
  noKeys : loading.views = []

theorem readsItems_empty : ({} : Loading).ReadsItems [] where
  itemIds := rfl
  item? := by simp
  grounded := ⟨.nil, by simp⟩
  spaces := rfl
  noViews := rfl
  keys := rfl
  noKeys := rfl

/-- Making the item that a row describes. -/
theorem itemOf_eq_detached {row : ItemRow} {name : Name} (text : name.text = row.name)
    (shown : row.displayName ≠ some "") : itemOf row = .ok (detached row name) := by
  have checked : checkName row.name = .ok name := checkName_eq_ok_iff.mpr text.symm
  have display : nonEmpty? row.displayName = row.displayName := by
    cases given : row.displayName with
    | none => rfl
    | some value =>
        rw [given] at shown
        simpa [nonEmpty?] using shown
  unfold itemOf
  cases kind : row.kind with
  | job => simp [Objects.job, checked, Except.map, display, detached, itemFor, bodyOf, kind]
  | folder =>
      simp [Objects.folder, checked, Except.map, display, detached, itemFor, bodyOf, kind, childrenOf]

theorem lookup_map {ρ ι : Type} (rows : List ρ) (key : ρ → Int) (stand : Int → ι) (id : Int) :
    (rows.map fun row => (key row, stand (key row))).lookup id =
      if id ∈ rows.map key then some (stand id) else none := by
  induction rows with
  | nil => rfl
  | cons head rows ih =>
      rw [List.map_cons, List.lookup_cons]
      split
      case h_1 same =>
        rw [← eq_of_beq same, if_pos (by simp [eq_of_beq same])]
      case h_2 other =>
        have differ : id ≠ key head := by simpa using other
        simp only [ih, List.map_cons, List.mem_cons, differ, false_or]

variable {loading : Loading} {rows : List ItemRow}

/-- The group of a parent is found. -/
theorem ReadsItems.group?_eq (reads : loading.ReadsItems rows) {parent : Option Int}
    (houses : Houses rows parent) : loading.group? parent = some (groupOf rows parent) := by
  cases parent with
  | none => rfl
  | some id =>
      obtain ⟨folder, stored, rfl, isFolder⟩ := houses id rfl
      have found : loading.items.lookup folder.id = some (objectOf rows folder.id) := by
        rw [reads.keys, lookup_map rows ItemRow.id (objectOf rows), if_pos (List.mem_map_of_mem stored)]
      rw [group?, found, Option.bind_some, reads.group?_objectOf stored, if_pos isFolder, groupOf]

/-- Reading an item that has a place and a name of its own. -/
theorem ReadsItems.readItem {row : ItemRow} (reads : loading.ReadsItems rows)
    (named : NameFault.of? row.name = none) (shown : row.displayName ≠ some "")
    (fresh : row.id ∉ rows.map ItemRow.id) (houses : Houses rows row.parentId)
    (free : ∀ other ∈ rows, other.parentId = row.parentId → other.name ≠ row.name) :
    ∃ after, loading.readItem row = ⟨[], .ok after⟩ ∧ after.ReadsItems (rows ++ [row]) := by
  obtain ⟨changed, created, portrays, views, spaces⟩ := reads.toPortraysItems.createItem_eq row
    ⟨row.name, named⟩ reads.grounded reads.spaces rfl fresh houses rfl free
  refine ⟨{ loading with objects := changed, items := loading.items ++ [(row.id, ⟨rows.length⟩)] },
    ?_, portrays, reads.grounded.concat fresh houses, spaces, views.trans reads.noViews, ?_,
    reads.noKeys⟩
  · have item : itemOf row = .ok (detached row ⟨row.name, named⟩) := itemOf_eq_detached rfl shown
    simp only [Loading.readItem, reads.group?_eq houses, item, created]
    rfl
  · rw [map_objectOf_concat fresh fun row id => (row.id, id), reads.keys]

end Loading

namespace Tables.WellFormed

variable {tables : Tables} (wellFormed : tables.WellFormed)

include wellFormed

theorem grounded : Grounded tables.items := by
  constructor
  · exact List.pairwise_map.mpr (wellFormed.itemsOrdered.imp fun ordered => Int.ne_of_lt ordered)
  · intro row stored parent held
    obtain ⟨folder, there, same, isFolder, -⟩ := wellFormed.parents row stored parent held
    exact ⟨folder, there, same, isFolder⟩

/-- The rows before a row are known by other identifiers, have a place for it, and leave it its name. -/
theorem fits_before {read rest : List ItemRow} {row : ItemRow}
    (parts : tables.items = read ++ row :: rest) :
    row.id ∉ read.map ItemRow.id ∧ Houses read row.parentId ∧
      ∀ other ∈ read, other.parentId = row.parentId → other.name ≠ row.name := by
  have ordered := wellFormed.itemsOrdered
  have differ := wellFormed.siblingsDiffer
  rw [parts] at ordered differ
  obtain ⟨-, behind, earlier⟩ := List.pairwise_append.mp ordered
  obtain ⟨later, -⟩ := List.pairwise_cons.mp behind
  have head : row ∈ row :: rest := List.mem_cons_self
  refine ⟨?_, ?_, ?_⟩
  · intro member
    obtain ⟨other, stored, same⟩ := List.mem_map.mp member
    exact absurd same (Int.ne_of_lt (earlier other stored row head))
  · intro parent held
    have stored : row ∈ tables.items := by
      rw [parts]
      exact List.mem_append_right _ head
    obtain ⟨folder, there, same, isFolder, smaller⟩ := wellFormed.parents row stored parent held
    refine ⟨folder, ?_, same, isFolder⟩
    rw [parts] at there
    rcases List.mem_append.mp there with before | after
    · exact before
    · rcases List.mem_cons.mp after with rfl | after
      · omega
      · have larger := later folder after
        omega
  · intro other stored
    exact (List.pairwise_append.mp differ).2.2 other stored row head

/-- All items are read, and nothing is reported. -/
theorem readItems : ∃ loaded : Loading, tables.items.foldlM Loading.readItem {} = ⟨[], .ok loaded⟩ ∧
    loaded.ReadsItems tables.items := by
  have each (read : List ItemRow) (row : ItemRow) (rest : List ItemRow) (loading : Loading)
      (parts : tables.items = read ++ row :: rest) (reads : loading.ReadsItems read) :
      ∃ next, loading.readItem row = pure next ∧ next.ReadsItems (read ++ [row]) := by
    obtain ⟨fresh, houses, free⟩ := wellFormed.fits_before parts
    have stored : row ∈ tables.items := by simp [parts]
    exact reads.readItem (wellFormed.itemNames row stored) (wellFormed.displayNames row stored) fresh
      houses free
  exact exists_foldlM silent_bind Loading.ReadsItems each Loading.readsItems_empty

end Tables.WellFormed

end Wayfinder.Storage
