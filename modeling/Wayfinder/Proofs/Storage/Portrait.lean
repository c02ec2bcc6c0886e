import Mathlib.Data.List.Find
import Mathlib.Data.List.Nodup
import Wayfinder.Proofs.Workspace.Placement
import Wayfinder.Storage.Snapshot

/-!
# Portraits of stored rows

What a snapshot of rows ought to be: an object for every row, in the order of the rows, that has what its
row says and holds the objects of the rows that belong to it. Objects are told apart by their places
alone, so rows have no two portraits.
-/

namespace Wayfinder.Storage

open Workspace

/-- The object that stands for a stored item: the one at the place of its row. -/
def objectOf (rows : List ItemRow) (id : Int) : ItemId :=
  ⟨(rows.map ItemRow.id).idxOf id⟩

/-- The group that holds the items of a given parent. -/
def groupOf (rows : List ItemRow) : Option Int → GroupId
  | none => .space snapshotSpace
  | some parent => .folder (objectOf rows parent)

/-- The objects of the rows of a given parent, in the order of the rows. -/
def childrenOf (rows : List ItemRow) (parent : Option Int) : List ItemId :=
  (rows.filter fun row => row.parentId == parent).map fun row => objectOf rows row.id

/-- What a row describes, without the name: a job, or a folder of the rows below it. -/
def bodyOf (rows : List ItemRow) (row : ItemRow) : ItemBody :=
  match row.kind with
  | .job => .job row.disabled
  | .folder => .folder (childrenOf rows (some row.id))

/-- The item that a row describes. -/
def itemFor (rows : List ItemRow) (row : ItemRow) (name : Name) : Item where
  name
  displayName := row.displayName
  id := some row.id
  parent := some (groupOf rows row.parentId)
  body := bodyOf rows row

/-- Objects whose items are those that rows describe. -/
structure PortraysItems (objects : Objects) (rows : List ItemRow) : Prop where
  itemIds : objects.itemIds = rows.map fun row => objectOf rows row.id
  item? : ∀ row ∈ rows, ∃ name : Name, name.text = row.name ∧
    objects.item? (objectOf rows row.id) = some (itemFor rows row name)

/-- The object that stands for a stored view. -/
def viewObjectOf (rows : List ViewRow) (id : Int) : ViewId :=
  ⟨(rows.map ViewRow.id).idxOf id⟩

/-- The view that a row describes, with its members. -/
def viewFor (row : ViewRow) (name : Name) (members : List ItemId) : ListView where
  name
  owner := some snapshotSpace
  id := some row.id
  members

/-- Objects whose views are those that rows describe. -/
structure PortraysViews (objects : Objects) (rows : List ViewRow) (members : Int → List ItemId) :
    Prop where
  viewIds : objects.viewIds = rows.map fun row => viewObjectOf rows row.id
  view? : ∀ row ∈ rows, ∃ name : Name, name.text = row.name ∧
    objects.view? (viewObjectOf rows row.id) = some (viewFor row name (members row.id))

/-- The view that is flagged as primary; the last one, were there several. -/
def flaggedView (rows : List ViewRow) : Option ViewId :=
  (rows.filter ViewRow.isPrimary).getLast?.map fun row => viewObjectOf rows row.id

/-- The workspace that rows describe. -/
def spaceFor (items : List ItemRow) (views : List ViewRow) : Space where
  items := childrenOf items none
  views := views.map fun row => viewObjectOf views row.id
  primary := flaggedView views

/-- The items that a view lists: those of its memberships, in the order of the items. -/
def Tables.listedItems (tables : Tables) (view : Int) : List ItemId :=
  (tables.items.filter fun row => tables.members.contains ⟨view, row.id⟩).map fun row =>
    objectOf tables.items row.id

/-- Objects that are what the tables describe, and nothing else. -/
structure Portrays (objects : Objects) (tables : Tables) : Prop extends
    PortraysItems objects tables.items, PortraysViews objects tables.views tables.listedItems where
  spaces : objects.spaces = [spaceFor tables.items tables.views]

/-- Whether rows have a place for items of a given parent: the top level, or one of their folders. -/
def Houses (rows : List ItemRow) (parent : Option Int) : Prop :=
  ∀ id, parent = some id → ∃ folder ∈ rows, folder.id = id ∧ folder.kind = .folder

theorem houses_none (rows : List ItemRow) : Houses rows none := by
  intro id same
  cases same

/-- Rows that are known by their identifiers and have a place for every one of them. -/
structure Grounded (rows : List ItemRow) : Prop where
  ids : (rows.map ItemRow.id).Nodup
  houses : ∀ row ∈ rows, Houses rows row.parentId

theorem Grounded.eq_of_id {rows : List ItemRow} (grounded : Grounded rows) {left right : ItemRow}
    (first : left ∈ rows) (second : right ∈ rows) (same : left.id = right.id) : left = right :=
  List.inj_on_of_nodup_map grounded.ids first second same

/-- What is made of rows and of their places, when a new row is put behind them. -/
theorem map_idxOf_concat {ρ α : Type} {rows : List ρ} {row : ρ} (key : ρ → Int) (make : ρ → Nat → α)
    (fresh : key row ∉ rows.map key) :
    ((rows ++ [row]).map fun other => make other (((rows ++ [row]).map key).idxOf (key other))) =
      (rows.map fun other => make other ((rows.map key).idxOf (key other))) ++
        [make row rows.length] := by
  have last : ((rows ++ [row]).map key).idxOf (key row) = rows.length := by
    rw [List.map_append, List.idxOf_append_of_notMem fresh]
    simp
  rw [List.map_append, List.map_singleton, last]
  congr 1
  apply List.map_congr_left
  intro other stored
  rw [List.map_append, List.idxOf_append_of_mem (List.mem_map_of_mem stored)]

section Places

variable {rows : List ItemRow}

theorem index_objectOf_lt {row : ItemRow} (stored : row ∈ rows) :
    (objectOf rows row.id).index < rows.length := by
  have bound := List.idxOf_lt_length_of_mem (List.mem_map_of_mem (f := ItemRow.id) stored)
  rwa [List.length_map] at bound

theorem objectOf_inj {row : ItemRow} {id : Int} (stored : row ∈ rows)
    (same : objectOf rows row.id = objectOf rows id) : row.id = id :=
  (List.idxOf_inj (List.mem_map_of_mem stored)).mp (ItemId.mk.inj same)

theorem objectOf_append {row : ItemRow} (stored : row ∈ rows) (others : List ItemRow) :
    objectOf (rows ++ others) row.id = objectOf rows row.id := by
  rw [objectOf, List.map_append, List.idxOf_append_of_mem (List.mem_map_of_mem stored), objectOf]

theorem objectOf_concat {row : ItemRow} (fresh : row.id ∉ rows.map ItemRow.id) :
    objectOf (rows ++ [row]) row.id = ⟨rows.length⟩ := by
  rw [objectOf, List.map_append, List.idxOf_append_of_notMem fresh]
  simp

theorem map_objectOf_concat {α : Type} {row : ItemRow} (fresh : row.id ∉ rows.map ItemRow.id)
    (make : ItemRow → ItemId → α) :
    ((rows ++ [row]).map fun other => make other (objectOf (rows ++ [row]) other.id)) =
      (rows.map fun other => make other (objectOf rows other.id)) ++ [make row ⟨rows.length⟩] :=
  map_idxOf_concat ItemRow.id (fun row place => make row ⟨place⟩) fresh

theorem groupOf_append {parent : Option Int} (houses : Houses rows parent) (others : List ItemRow) :
    groupOf (rows ++ others) parent = groupOf rows parent := by
  cases parent with
  | none => rfl
  | some id =>
      obtain ⟨folder, stored, rfl, -⟩ := houses id rfl
      rw [groupOf, groupOf, objectOf_append stored]

end Places

/-- Lists of one length that agree at every place are the same. -/
theorem eq_of_getElem? {α : Type} {left right : List α} (length : left.length = right.length)
    (same : ∀ index < left.length, left[index]? = right[index]?) : left = right := by
  apply List.ext_getElem?
  intro index
  by_cases bound : index < left.length
  · exact same index bound
  · rw [List.getElem?_eq_none (by omega), List.getElem?_eq_none (by omega)]

/-- What stands at the places of rows looks like them, one after another. -/
theorem map_eq_map_of_places {ρ α β : Type} {rows : List ρ} {held : List α} {key : ρ → Int}
    {look : α → β} {look' : ρ → β} (length : held.length = rows.length)
    (distinct : (rows.map key).Nodup)
    (each : ∀ row ∈ rows, ∃ one, held[(rows.map key).idxOf (key row)]? = some one ∧
      look one = look' row) : held.map look = rows.map look' := by
  apply eq_of_getElem? (by simp [length])
  intro index bound
  rw [List.length_map, length] at bound
  obtain ⟨one, found, same⟩ := each rows[index] (List.getElem_mem bound)
  have place := distinct.idxOf_getElem index (by simpa using bound)
  rw [List.getElem_map] at place
  rw [place] at found
  rw [List.getElem?_map, found, List.getElem?_map, List.getElem?_eq_getElem bound]
  exact congrArg some same

/-- What stands at the places of rows has their keys, each its own. -/
theorem filterMap_key {ρ α : Type} {rows : List ρ} {held : List α} {key : ρ → Int}
    {key? : α → Option Int} (length : held.length = rows.length) (distinct : (rows.map key).Nodup)
    (each : ∀ row ∈ rows, ∃ one, held[(rows.map key).idxOf (key row)]? = some one ∧
      key? one = some (key row)) : held.filterMap key? = rows.map key := by
  have keys : held.map key? = rows.map fun row => some (key row) :=
    map_eq_map_of_places length distinct each
  have whole : (held.map key?).filterMap id = held.filterMap key? := by
    rw [List.filterMap_map]
    rfl
  rw [← whole, keys, List.filterMap_map]
  exact congrFun List.filterMap_eq_map rows

namespace PortraysItems

variable {objects other : Objects} {rows : List ItemRow}

theorem length_items (portrays : PortraysItems objects rows) : objects.items.length = rows.length := by
  have same := congrArg List.length portrays.itemIds
  simpa [Objects.itemIds] using same

/-- Every item is the object of some row. -/
theorem exists_row (portrays : PortraysItems objects rows) {index : Nat}
    (bound : index < objects.items.length) : ∃ row ∈ rows, objectOf rows row.id = ⟨index⟩ := by
  have member : (⟨index⟩ : ItemId) ∈ objects.itemIds := Objects.mem_itemIds.mpr bound
  rw [portrays.itemIds] at member
  exact List.mem_map.mp member

theorem exists_row_of_item (portrays : PortraysItems objects rows) {id : ItemId} {item : Item}
    (found : objects.item? id = some item) : ∃ row ∈ rows, ∃ name, item = itemFor rows row name := by
  obtain ⟨row, stored, at?⟩ := portrays.exists_row (Objects.item?_lt found)
  obtain ⟨name, -, found'⟩ := portrays.item? row stored
  rw [at?] at found'
  exact ⟨row, stored, name, Option.some.inj (found.symm.trans found')⟩

theorem items_unique (first : PortraysItems objects rows) (second : PortraysItems other rows) :
    objects.items = other.items := by
  apply eq_of_getElem? (by rw [first.length_items, second.length_items])
  intro index bound
  obtain ⟨row, stored, at?⟩ := first.exists_row bound
  obtain ⟨name, text, found⟩ := first.item? row stored
  obtain ⟨name', text', found'⟩ := second.item? row stored
  rw [Name.text_inj.mp (text'.trans text.symm), ← found, at?] at found'
  exact found'.symm

/-- The identifiers of the items are those of the rows. -/
theorem filterMap_id (portrays : PortraysItems objects rows) (distinct : (rows.map ItemRow.id).Nodup) :
    objects.items.filterMap Item.id = rows.map ItemRow.id := by
  apply filterMap_key portrays.length_items distinct
  intro row stored
  obtain ⟨name, -, found⟩ := portrays.item? row stored
  exact ⟨_, found, rfl⟩

/-- A folder's row stands for a group. -/
theorem group?_objectOf (portrays : PortraysItems objects rows) {row : ItemRow} (stored : row ∈ rows) :
    objects.group? (objectOf rows row.id) =
      if row.kind = .folder then some (.folder (objectOf rows row.id)) else none := by
  obtain ⟨name, -, found⟩ := portrays.item? row stored
  rw [Objects.group?, found]
  cases kind : row.kind <;> simp [Item.isFolder, itemFor, bodyOf, kind]

/-- A group holds the objects of the rows of its parent. -/
theorem members_groupOf (portrays : PortraysItems objects rows)
    {space : Space} (spaces : objects.spaces = [space]) (items : space.items = childrenOf rows none)
    {parent : Option Int} (houses : Houses rows parent) :
    objects.members (groupOf rows parent) = childrenOf rows parent := by
  cases parent with
  | none =>
      have found : objects.space? snapshotSpace = some space := by
        rw [Objects.space?, spaces]
        rfl
      rw [groupOf, Objects.members, found]
      exact items
  | some parent =>
      obtain ⟨folder, stored, rfl, isFolder⟩ := houses parent rfl
      obtain ⟨name, -, found⟩ := portrays.item? folder stored
      rw [groupOf, Objects.members, found]
      simp [Item.items, itemFor, bodyOf, isFolder]

/-- What a group holds is there. -/
theorem item_of_mem_groupOf (portrays : PortraysItems objects rows) {space : Space}
    (spaces : objects.spaces = [space]) (items : space.items = childrenOf rows none)
    {parent : Option Int} (houses : Houses rows parent) :
    ∀ id ∈ objects.members (groupOf rows parent), ∃ item, objects.item? id = some item := by
  intro id member
  rw [portrays.members_groupOf spaces items houses] at member
  obtain ⟨row, chosen, rfl⟩ := List.mem_map.mp member
  obtain ⟨name, -, found⟩ := portrays.item? row (List.mem_filter.mp chosen).1
  exact ⟨_, found⟩

/-- The item of a name in a group is the object of the row of that name and parent. -/
theorem child?_groupOf (portrays : PortraysItems objects rows) {space : Space}
    (spaces : objects.spaces = [space]) (items : space.items = childrenOf rows none)
    {parent : Option Int} (houses : Houses rows parent) (name : String) :
    objects.child? (groupOf rows parent) name =
      (rows.find? fun row => row.name == name && row.parentId == parent).map fun row =>
        objectOf rows row.id := by
  rw [Objects.child?, portrays.members_groupOf spaces items houses, childrenOf, List.find?_map,
    List.find?_filter]
  congr 1
  apply List.find?_congr
  intro row stored
  obtain ⟨named, text, found⟩ := portrays.item? row stored
  apply Bool.eq_iff_iff.mpr
  simp [found, itemFor, text, and_comm]

end PortraysItems

namespace PortraysViews

variable {objects other : Objects} {rows : List ViewRow} {members : Int → List ItemId}

theorem length_views (portrays : PortraysViews objects rows members) :
    objects.views.length = rows.length := by
  have same := congrArg List.length portrays.viewIds
  simpa [Objects.viewIds] using same

theorem exists_row (portrays : PortraysViews objects rows members) {index : Nat}
    (bound : index < objects.views.length) : ∃ row ∈ rows, viewObjectOf rows row.id = ⟨index⟩ := by
  have member : (⟨index⟩ : ViewId) ∈ objects.viewIds := Objects.mem_viewIds.mpr bound
  rw [portrays.viewIds] at member
  exact List.mem_map.mp member

theorem exists_row_of_view (portrays : PortraysViews objects rows members) {view : ListView}
    (member : view ∈ objects.views) :
    ∃ row ∈ rows, ∃ name, view = viewFor row name (members row.id) := by
  obtain ⟨index, bound, at?⟩ := List.getElem_of_mem member
  obtain ⟨row, stored, same⟩ := portrays.exists_row bound
  obtain ⟨name, -, found⟩ := portrays.view? row stored
  rw [same, Objects.view?, List.getElem?_eq_getElem bound, at?] at found
  exact ⟨row, stored, name, Option.some.inj found⟩

theorem views_unique (first : PortraysViews objects rows members)
    (second : PortraysViews other rows members) : objects.views = other.views := by
  apply eq_of_getElem? (by rw [first.length_views, second.length_views])
  intro index bound
  obtain ⟨row, stored, at?⟩ := first.exists_row bound
  obtain ⟨name, text, found⟩ := first.view? row stored
  obtain ⟨name', text', found'⟩ := second.view? row stored
  rw [Name.text_inj.mp (text'.trans text.symm), ← found, at?] at found'
  exact found'.symm

/-- The identifiers of the views are those of the rows. -/
theorem filterMap_id (portrays : PortraysViews objects rows members)
    (distinct : (rows.map ViewRow.id).Nodup) :
    objects.views.filterMap ListView.id = rows.map ViewRow.id := by
  apply filterMap_key portrays.length_views distinct
  intro row stored
  obtain ⟨name, -, found⟩ := portrays.view? row stored
  exact ⟨_, found, rfl⟩

/-- The view of a name is the object of the row of that name. -/
theorem viewNamed?_eq (portrays : PortraysViews objects rows members) {space : Space}
    (spaces : objects.spaces = [space])
    (views : space.views = rows.map fun row => viewObjectOf rows row.id) (name : String) :
    objects.viewNamed? snapshotSpace name =
      (rows.find? fun row => row.name == name).map fun row => viewObjectOf rows row.id := by
  have listed : objects.space? snapshotSpace = some space := by
    rw [Objects.space?, spaces]
    rfl
  rw [Objects.viewNamed?, listed, Option.map_some, Option.getD_some, views, List.find?_map]
  congr 1
  apply List.find?_congr
  intro row stored
  obtain ⟨named, text, found⟩ := portrays.view? row stored
  simp [found, viewFor, text]

end PortraysViews

/-- The view shown first is the flagged one, or else the first. -/
theorem Portrays.primaryView?_flagged {objects : Objects} {tables : Tables}
    (portrays : Portrays objects tables) : objects.primaryView? snapshotSpace =
      (flaggedView tables.views).or
        (tables.views.map fun row => viewObjectOf tables.views row.id).head? := by
  simp [Objects.primaryView?, Objects.space?, portrays.spaces, snapshotSpace, spaceFor]

/-- Rows have one portrait only. -/
theorem Portrays.unique {objects other : Objects} {tables : Tables} (first : Portrays objects tables)
    (second : Portrays other tables) : objects = other := by
  have items := first.items_unique second.toPortraysItems
  have views := first.views_unique second.toPortraysViews
  have spaces := first.spaces.trans second.spaces.symm
  cases objects
  cases other
  cases items
  cases views
  cases spaces
  rfl

end Wayfinder.Storage
