import Wayfinder.Proofs.Storage.Locations
import Wayfinder.Proofs.Storage.Sessions
import Wayfinder.Proofs.Workspace.Cutting

/-!
# What a deletion takes out

A deletion collects rows by their parents. That comes to the items whose full name is that of the deleted
one or goes on from it behind a slash, with their memberships, and to nothing else. A snapshot of what is
left is the snapshot from before, with these items cut out.
-/

namespace Wayfinder.Storage

open Workspace
open Text (Wide)

/-- The place of an element among the images of a list. -/
theorem idxOf_map {α β : Type} [DecidableEq α] [DecidableEq β] {image : α → β} {elements : List α}
    {element : α} (apart : ∀ other ∈ elements, image other = image element → other = element) :
    (elements.map image).idxOf (image element) = elements.idxOf element := by
  induction elements with
  | nil => rfl
  | cons head rest ih =>
      have below := ih fun other member => apart other (List.mem_cons_of_mem head member)
      rw [List.map_cons]
      by_cases same : head = element
      · rw [same, List.idxOf_cons_self, List.idxOf_cons_self]
      · have differ : image head ≠ image element :=
          fun equal => same (apart head List.mem_cons_self equal)
        rw [List.idxOf_cons_ne _ differ, List.idxOf_cons_ne _ same, below]

/-- The places of a list whose elements all have an image. -/
theorem getElem?_filterMap {α β : Type} {image : α → Option β} {elements : List α}
    (all : ∀ element ∈ elements, (image element).isSome) (index : Nat) :
    (elements.filterMap image)[index]? = elements[index]?.bind image := by
  induction elements generalizing index with
  | nil => rfl
  | cons head rest ih =>
      obtain ⟨value, found⟩ := Option.isSome_iff_exists.mp (all head List.mem_cons_self)
      have below := ih fun element member => all element (List.mem_cons_of_mem head member)
      rw [List.filterMap_cons_some found]
      cases index with
      | zero => exact found.symm
      | succ index => exact below index

section Places

variable {rows : List ItemRow} (ids : (rows.map ItemRow.id).Nodup)

include ids

/-- A row is at the place of its object. -/
theorem getElem?_objectOf {row : ItemRow} (stored : row ∈ rows) :
    rows[(objectOf rows row.id).index]? = some row := by
  have place : (rows.map ItemRow.id)[(objectOf rows row.id).index]? = some row.id :=
    List.getElem?_idxOf (List.mem_map_of_mem stored)
  rw [List.getElem?_map] at place
  obtain ⟨other, found, same⟩ := Option.map_eq_some_iff.mp place
  rw [found, List.inj_on_of_nodup_map ids (List.mem_of_getElem? found) stored same]

/-- The objects of all rows are those at the places of the rows. -/
theorem map_objectOf : (rows.map fun row => objectOf rows row.id) =
    (List.range rows.length).map ItemId.mk := by
  apply List.ext_getElem
  · simp
  · intro index _ bound
    rw [List.length_map, List.length_range] at bound
    have place := ids.idxOf_getElem index (by simpa using bound)
    rw [List.getElem_map] at place
    rw [List.getElem_map, List.getElem_map, List.getElem_range, objectOf, place]

end Places

section Cut

variable {rows : List ItemRow} {ids : List Int}

/-- The rows that are left. -/
def leftRows (rows : List ItemRow) (ids : List Int) : List ItemRow :=
  rows.filter fun row => !ids.contains row.id

/-- The objects of the rows that are left. -/
def leftObjects (rows : List ItemRow) (ids : List Int) : List ItemId :=
  (leftRows rows ids).map fun row => objectOf rows row.id

theorem mem_leftRows {row : ItemRow} : row ∈ leftRows rows ids ↔ row ∈ rows ∧ row.id ∉ ids := by
  simp [leftRows]

theorem mem_leftObjects {row : ItemRow} (stored : row ∈ rows) :
    objectOf rows row.id ∈ leftObjects rows ids ↔ row.id ∉ ids := by
  constructor
  · intro member
    obtain ⟨other, left, same⟩ := List.mem_map.mp member
    obtain ⟨there, spared⟩ := mem_leftRows.mp left
    rwa [← objectOf_inj there same]
  · intro spared
    exact List.mem_map.mpr ⟨row, mem_leftRows.mpr ⟨stored, spared⟩, rfl⟩

/-- An object moves to the place of its row among those that are left. -/
theorem among_objectOf (id : Int) :
    (objectOf rows id).among (leftObjects rows ids) = objectOf (leftRows rows ids) id := by
  have parts : leftObjects rows ids = ((leftRows rows ids).map ItemRow.id).map (objectOf rows) := by
    rw [leftObjects, List.map_map]
    rfl
  rw [ItemId.among, parts, idxOf_map, objectOf]
  intro other member same
  obtain ⟨row, left, rfl⟩ := List.mem_map.mp member
  exact objectOf_inj (mem_leftRows.mp left).1 same

theorem among_groupOf (parent : Option Int) :
    (groupOf rows parent).among (leftObjects rows ids) = groupOf (leftRows rows ids) parent := by
  cases parent with
  | none => rfl
  | some id => exact congrArg GroupId.folder (among_objectOf id)

/-- The objects of some rows, without those that are gone. -/
theorem remaining_map (chosen : ItemRow → Bool) :
    remaining (leftObjects rows ids) ((rows.filter chosen).map fun row => objectOf rows row.id) =
      ((leftRows rows ids).filter chosen).map fun row => objectOf (leftRows rows ids) row.id := by
  rw [remaining, List.filter_map, List.map_map, leftRows, List.filter_filter, List.filter_filter]
  have same : rows.filter (fun row => ((fun id => (leftObjects rows ids).contains id) ∘
        fun row : ItemRow => objectOf rows row.id) row && chosen row) =
      rows.filter fun row => chosen row && !ids.contains row.id := by
    apply List.filter_congr
    intro row stored
    rw [Bool.and_comm, Function.comp_apply, Bool.eq_iff_iff]
    simp [mem_leftObjects stored]
  rw [same]
  apply List.map_congr_left
  intro row _
  exact among_objectOf row.id

end Cut

theorem itemFor_among {rows : List ItemRow} {ids : List Int} (row : ItemRow) (name : Name) :
    (itemFor rows row name).among (leftObjects rows ids) = itemFor (leftRows rows ids) row name := by
  have body : (bodyOf rows row).among (leftObjects rows ids) = bodyOf (leftRows rows ids) row := by
    unfold bodyOf
    cases row.kind with
    | job => rfl
    | folder => exact congrArg ItemBody.folder (remaining_map _)
  simp only [itemFor, Item.among, Option.map_some, among_groupOf, body]

section Without

variable {objects : Objects} {rows : List ItemRow} {ids : List Int} {gone : ItemId → Bool}
  (portrays : PortraysItems objects rows)
  (same : ∀ row ∈ rows, gone (objectOf rows row.id) = ids.contains row.id)

include portrays same

theorem PortraysItems.filter_itemIds :
    objects.itemIds.filter (fun id => !gone id) = leftObjects rows ids := by
  rw [portrays.itemIds, List.filter_map, leftObjects, leftRows]
  congr 1
  apply List.filter_congr
  intro row stored
  exact congrArg not (same row stored)

theorem PortraysItems.without (distinct : (rows.map ItemRow.id).Nodup) :
    PortraysItems (objects.without gone) (leftRows rows ids) := by
  have items : (objects.without gone).items = (leftRows rows ids).filterMap fun row =>
      (objects.item? (objectOf rows row.id)).map fun item => item.among (leftObjects rows ids) := by
    rw [Objects.without, portrays.filter_itemIds same, leftObjects, List.filterMap_map]
    rfl
  have found : ∀ row ∈ leftRows rows ids, ∃ name : Name, name.text = row.name ∧
      (objects.item? (objectOf rows row.id)).map (fun item => item.among (leftObjects rows ids)) =
        some (itemFor (leftRows rows ids) row name) := by
    intro row there
    obtain ⟨name, text, found⟩ := portrays.item? row (mem_leftRows.mp there).1
    exact ⟨name, text, by rw [found, Option.map_some, itemFor_among]⟩
  have all : ∀ row ∈ leftRows rows ids, ((objects.item? (objectOf rows row.id)).map
      fun item => item.among (leftObjects rows ids)).isSome := by
    intro row there
    obtain ⟨name, -, found⟩ := found row there
    rw [found]
    rfl
  have distinct' : ((leftRows rows ids).map ItemRow.id).Nodup :=
    distinct.sublist (List.filter_sublist.map ItemRow.id)
  constructor
  · rw [Objects.itemIds, items, List.filterMap_length_eq_length.mpr all]
    exact (map_objectOf distinct').symm
  · intro row there
    obtain ⟨name, text, found⟩ := found row there
    refine ⟨name, text, ?_⟩
    rw [Objects.item?, items, getElem?_filterMap all, getElem?_objectOf distinct' there,
      Option.bind_some]
    exact found

theorem PortraysViews.without {views : List ViewRow} {members : Int → List ItemId}
    (viewed : PortraysViews objects views members) :
    PortraysViews (objects.without gone) views fun view =>
      remaining (leftObjects rows ids) (members view) := by
  have moved : (objects.without gone).views = objects.views.map fun view =>
      { view with members := remaining (leftObjects rows ids) view.members } := by
    rw [Objects.without, portrays.filter_itemIds same]
  constructor
  · rw [← viewed.viewIds, Objects.viewIds, Objects.viewIds, moved, List.length_map]
  · intro row stored
    obtain ⟨name, text, found⟩ := viewed.view? row stored
    refine ⟨name, text, ?_⟩
    rw [Objects.view?] at found
    rw [Objects.view?, moved, List.getElem?_map, found]
    rfl

end Without

theorem listedItems_eraseItems (tables : Tables) (ids : List Int) :
    (tables.eraseItems ids).listedItems = fun view =>
      remaining (leftObjects tables.items ids) (tables.listedItems view) := by
  funext view
  rw [Tables.listedItems, Tables.listedItems, remaining_map]
  congr 1
  apply List.filter_congr
  intro row there
  have spared := (mem_leftRows.mp there).2
  rw [Bool.eq_iff_iff]
  simp [Tables.eraseItems, spared]

/-- The portrait of what is left is the old one, with the objects of the other rows cut out. -/
theorem Portrays.without {tables : Tables} {objects : Objects} (portrays : Portrays objects tables)
    (wellFormed : tables.WellFormed) {ids : List Int} {gone : ItemId → Bool}
    (same : ∀ row ∈ tables.items, gone (objectOf tables.items row.id) = ids.contains row.id) :
    Portrays (objects.without gone) (tables.eraseItems ids) := by
  have items := portrays.toPortraysItems.without same wellFormed.grounded.ids
  have views := portrays.toPortraysViews.without portrays.toPortraysItems same
  rw [← listedItems_eraseItems] at views
  refine ⟨items, views, ?_⟩
  rw [Objects.without, portrays.filter_itemIds same]
  simp only [portrays.spaces, List.map_singleton]
  rw [spaceFor, spaceFor, childrenOf, remaining_map]
  rfl

/-- The rows that a deletion leaves, and the snapshot of them, when the items whose full name is a given
one or goes on from it behind a slash are taken out. `objects` is the snapshot from before. -/
structure LeavesRest (tables left : Tables) (objects : Objects) (path : String) : Prop where
  items : left.items = tables.items.filter fun row =>
    !Path.isWithin path (objects.fullName (objectOf tables.items row.id))
  members : left.members = tables.members.filter fun row => left.itemIds.contains row.itemId
  views : left.views = tables.views
  rootNamesUnique : left.rootNamesUnique = tables.rootNamesUnique
  snapshot : (⟨some left⟩ : Database).load.result =
    .ok (objects.without fun id => Path.isWithin path (objects.fullName id))

/-- A row is taken out if and only if its full name is within that of the deleted item. -/
theorem Portrays.isWithin_eq {tables : Tables} {objects : Objects} (portrays : Portrays objects tables)
    (wellFormed : tables.WellFormed) (tree : objects.IsTree) {fullName : String} {root row : ItemRow}
    (found : tables.getItem fullName none = .ok root) (stored : row ∈ tables.items) :
    Path.isWithin (Path.trim fullName) (objects.fullName (objectOf tables.items row.id)) =
      (descendantIds tables.items root.id).contains row.id := by
  have outer := (wellFormed.getItem_eq_ok_iff_leadsTo.mp found).2
  have inner := portrays.leadsTo_lineageNames wellFormed tree stored
  have within := Path.isWithin_ofNames (wellFormed.isSegment_of_leadsTo outer)
    (wellFormed.isSegment_of_leadsTo inner) outer.ne_nil inner.ne_nil
  rw [Path.ofNames_names] at within
  rw [Bool.eq_iff_iff, List.contains_iff_mem, mem_descendantIds, wellFormed.descends_iff outer inner]
  exact within

theorem Tables.WellFormed.deleteItem_leavesRest {tables : Tables} {objects : Objects}
    (wellFormed : tables.WellFormed) (portrays : Portrays objects tables) (tree : objects.IsTree)
    {fullName : String} {root : ItemRow} (found : tables.getItem fullName none = .ok root) :
    LeavesRest tables (tables.eraseItems (descendantIds tables.items root.id)) objects
      (Path.trim fullName) := by
  have within {row : ItemRow} (stored : row ∈ tables.items) :=
    portrays.isWithin_eq wellFormed tree found stored
  have left := wellFormed.eraseItems (closedBelow_descendantIds root.id)
  constructor
  case items =>
    apply List.filter_congr
    intro row stored
    rw [within stored]
  case members =>
    apply List.filter_congr
    intro row listed
    obtain ⟨-, item, stored, same⟩ := wellFormed.membersStored row listed
    rw [← same, Bool.eq_iff_iff, List.contains_iff_mem, Bool.not_eq_true', ← Bool.not_eq_true,
      List.contains_iff_mem]
    constructor
    · intro spared
      exact List.mem_map_of_mem (mem_leftRows.mpr ⟨stored, spared⟩)
    · intro member
      obtain ⟨other, there, equal⟩ := List.mem_map.mp member
      exact equal ▸ (mem_leftRows.mp there).2
  case views => rfl
  case rootNamesUnique => rfl
  case snapshot =>
    obtain ⟨other, loaded, portrays', -⟩ := left.exists_snapshot
    have gone : ∀ row ∈ tables.items,
        (fun id => Path.isWithin (Path.trim fullName) (objects.fullName id))
          (objectOf tables.items row.id) = (descendantIds tables.items root.id).contains row.id :=
      fun row stored => within stored
    rw [loaded]
    exact congrArg Except.ok (portrays'.unique (portrays.without wellFormed gone))

/-- What deleting an item comes to. What is not found is not deleted. It is told to be missing, unless
looking for it comes to a broken name. -/
structure DeletesSubtree (database : Database) (objects : Objects) (fullName : Wide) : Prop where
  found : ∀ root, database.getWideItem fullName = .ok root →
    ∃ path tables left, fullName = .sound path ∧ database = ⟨some tables⟩ ∧ Portrays objects tables ∧
      (Session.deleteItem fullName).conclude database = (.ok (), ⟨some left⟩) ∧
      LeavesRest tables left objects (Path.trim path)
  missing : (∀ root, database.getWideItem fullName ≠ .ok root) → ¬Stumbles objects fullName →
    (Session.deleteItem fullName).conclude database = (refuse (missingItem fullName), database)
  stumbles : Stumbles objects fullName →
    (Session.deleteItem fullName).conclude database = (.error (.storage .unencodable), database)

/-- A deletion fails as looking the item up does. -/
theorem deleteWideItem_of_error {tables : Tables} {fullName : Wide} {fault : OperationFault}
    (failed : tables.getWideItem fullName none = .error fault) :
    (⟨some tables⟩ : Database).deleteWideItem fullName = .error fault := by
  cases fullName with
  | sound path =>
      rw [Tables.getWideItem] at failed
      rw [Database.deleteWideItem, Database.deleteItem, Database.tables_bind, failed]
      rfl
  | broken glyphs isBroken =>
      have looked : (⟨some tables⟩ : Database).getWideItem (.broken glyphs isBroken) = .error fault :=
        failed
      simp only [Database.deleteWideItem, looked, faultBefore]

/-- After any run of operations, a deletion takes out the item that is found and all below it, and what
is not found is not deleted. -/
theorem deletesSubtree_run (run : List Operation) :
    ∃ objects, (databaseAfter run).load.result = .ok objects ∧
      ∀ fullName, DeletesSubtree (databaseAfter run) objects fullName := by
  obtain ⟨tables, same, wellFormed⟩ := exists_wellFormed run
  obtain ⟨objects, loaded, portrays, tree⟩ := wellFormed.exists_snapshot
  have agrees := portrays.lookupsAgree wellFormed
  rw [same]
  refine ⟨objects, loaded, fun fullName => ?_⟩
  constructor
  case found =>
    intro root found
    obtain ⟨path, rfl, there⟩ := Database.getWideItem_eq_ok found
    rw [Database.getItem_of_tables] at there
    refine ⟨path, tables, _, rfl, rfl, portrays, ?_,
      wellFormed.deleteItem_leavesRest portrays tree there⟩
    rw [conclude_deleteItem, Database.deleteWideItem, Database.deleteItem, Database.tables_bind, there,
      ok_bind]
    rfl
  case missing =>
    intro missing goesOn
    cases looked : (⟨some tables⟩ : Database).getWideItem fullName with
    | ok root => exact absurd looked (missing root)
    | error fault =>
        have failed : tables.getWideItem fullName none = .error fault := looked
        rw [conclude_deleteItem, deleteWideItem_of_error failed]
        rcases wellFormed.getWideItem_error_cases failed with rfl | ⟨-, rfl⟩
        · rfl
        · exact absurd ((agrees.stumbles fullName).mp looked) goesOn
  case stumbles =>
    intro stumbles
    rw [conclude_deleteItem, deleteWideItem_of_error ((agrees.stumbles fullName).mpr stumbles)]
    rfl

/-- Half of a surrogate pair is the name of nothing, but a deletion does not tell that. -/
theorem halfName_not_deleted :
    let half := Wide.ofGlyphs [.half 0xd800]
    (databaseAfter []).load.result.toOption.map (fun objects => objects.byWideName? snapshotSpace half) =
        some none ∧
      ((Session.deleteItem half).conclude (databaseAfter [])).1 = .error (.storage .unencodable) := by
  exact ⟨by decide +kernel, rfl⟩

/-- An item whose name merely begins like that of the deleted folder stays. -/
example : ((Session.deleteItem (.sound "f/")).conclude
    ⟨some { items := [⟨1, none, .folder, "f", none, false⟩, ⟨2, some 1, .job, "a", none, false⟩,
      ⟨3, none, .job, "f1", none, false⟩] }⟩).2 =
    ⟨some { items := [⟨3, none, .job, "f1", none, false⟩] }⟩ := by
  decide +kernel

end Wayfinder.Storage
