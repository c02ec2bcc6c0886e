import Wayfinder.Proofs.Storage.Commits
import Wayfinder.Proofs.Storage.SoundTexts
import Wayfinder.Proofs.Storage.WellFormed
import Wayfinder.Storage.Snapshot

/-!
# Runs of operations

The operations on a stored workspace, carried out one after another. Whatever they are, the rows go on to
fit together, and each table lists its rows in the order in which they were created, although the
identifier of a deleted row can be given again.
-/

namespace Wayfinder.Storage

open Text (Wide)

/-- An operation on a stored workspace, given texts of any kind. A creation may fail to see what another
client stores at the same time: `overlooked` is a name that is not found on the way to the folder, and with
`missed` the look for the new name finds nothing. -/
inductive Operation where
  | createItem (overlooked : Option String) (missed : Bool) (name : Wide) (kind : ItemKind)
      (displayName parent : Option Wide)
  | updateItem (fullName : Wide) (changes : WideChanges)
  | deleteItem (fullName : Wide)
  | createView (name : Wide) (members : List Wide) (primary missed : Bool)
  | addViewMember (name fullName : Wide)
  | setPrimaryView (name : Wide)
  | getItem (fullName : Wide)
  | getView (name : Wide)
  | load

namespace Operation

/-- Carry out an operation: the database afterwards, or why it was refused. -/
def apply (database : Database) : Operation → Except OperationFault Database
  | .createItem overlooked missed name kind displayName parent =>
      (database.createWideItem overlooked missed name kind displayName parent).map Commit.database
  | .updateItem fullName changes => (database.updateWideItem fullName changes).map Commit.database
  | .deleteItem fullName => (database.deleteWideItem fullName).map Commit.database
  | .createView name members primary missed =>
      (database.createWideView name members primary missed).map Commit.database
  | .addViewMember name fullName => (database.addWideMember name fullName).map Commit.database
  | .setPrimaryView name => (database.setPrimaryWideView name).map Commit.database
  | .getItem fullName => (database.getWideItem fullName).map fun _ => database
  | .getView name => (database.getWideView name).map fun _ => database
  | .load => database.load.result.map fun _ => database

/-- The database after an operation. One that is refused changes nothing. -/
def after (operation : Operation) (database : Database) : Database :=
  match operation.apply database with
  | .ok changed => changed
  | .error _ => database

/-- The identifier of the item that an operation creates, if it creates one. -/
def createdItems (database : Database) : Operation → List Int
  | .createItem overlooked missed name kind displayName parent =>
      match database.createWideItem overlooked missed name kind displayName parent with
      | .ok commit => [commit.value.id]
      | .error _ => []
  | _ => []

/-- The identifier of the view that an operation creates, if it creates one. -/
def createdViews (database : Database) : Operation → List Int
  | .createView name members primary missed =>
      match database.createWideView name members primary missed with
      | .ok commit => [commit.value.id]
      | .error _ => []
  | _ => []

/-- An operation that is refused creates nothing. -/
theorem created_of_refused {operation : Operation} {database : Database} {fault : OperationFault}
    (refused : operation.apply database = .error fault) :
    operation.createdItems database = [] ∧ operation.createdViews database = [] := by
  cases operation with
  | createItem overlooked missed name kind displayName parent =>
      rw [apply, map_eq_error_iff] at refused
      simp only [createdItems, createdViews, refused, and_self]
  | createView name members primary missed =>
      rw [apply, map_eq_error_iff] at refused
      simp only [createdItems, createdViews, refused, and_self]
  | _ => exact ⟨rfl, rfl⟩

/-- What an operation comes to that is carried out. Its texts are sound. -/
inductive Carries (database : Database) : Operation → Database → Prop where
  | createItem {overlooked : Option String} {missed : Bool} {name : String} {kind : ItemKind}
      {displayName parent : Option String} {commit : Commit ItemRow}
      (created : database.createItemOverlooking overlooked missed name kind displayName parent =
        .ok commit) :
      Carries database (.createItem overlooked missed (.sound name) kind (displayName.map .sound)
        (parent.map .sound)) commit.database
  | updateItem {fullName : String} {changes : ItemChanges} {commit : Commit ItemRow}
      (updated : database.updateItem fullName changes = .ok commit) :
      Carries database (.updateItem (.sound fullName) changes.wide) commit.database
  | deleteItem {fullName : String} {commit : Commit Unit}
      (deleted : database.deleteItem fullName = .ok commit) :
      Carries database (.deleteItem (.sound fullName)) commit.database
  | createView {name : String} {members : List String} {primary missed : Bool} {commit : Commit ViewRow}
      (created : database.createView name members primary missed = .ok commit) :
      Carries database (.createView (.sound name) (members.map .sound) primary missed) commit.database
  | addViewMember {name fullName : String} {commit : Commit Unit}
      (added : database.addViewMember name fullName = .ok commit) :
      Carries database (.addViewMember (.sound name) (.sound fullName)) commit.database
  | setPrimaryView {name : String} {commit : Commit ViewRow}
      (chosen : database.setPrimaryView name = .ok commit) :
      Carries database (.setPrimaryView (.sound name)) commit.database
  | getItem {fullName : String} {row : ItemRow} (found : database.getItem fullName = .ok row) :
      Carries database (.getItem (.sound fullName)) database
  | getView {name : String} {row : ViewRow} (found : database.getView name = .ok row) :
      Carries database (.getView (.sound name)) database
  | load {objects : Workspace.Objects} (loaded : database.load.result = .ok objects) :
      Carries database .load database

theorem carries_of_apply {operation : Operation} {database changed : Database}
    (applied : operation.apply database = .ok changed) : Carries database operation changed := by
  cases operation with
  | createItem overlooked missed name kind displayName parent =>
      rw [apply] at applied
      obtain ⟨commit, carried, rfl⟩ := map_eq_ok_iff.mp applied
      obtain ⟨text, shown, path, rfl, rfl, rfl, created⟩ := Database.createWideItem_eq_ok carried
      exact .createItem created
  | updateItem fullName changes =>
      rw [apply] at applied
      obtain ⟨commit, carried, rfl⟩ := map_eq_ok_iff.mp applied
      obtain ⟨path, sound, rfl, rfl, updated⟩ := Database.updateWideItem_eq_ok carried
      exact .updateItem updated
  | deleteItem fullName =>
      rw [apply] at applied
      obtain ⟨commit, carried, rfl⟩ := map_eq_ok_iff.mp applied
      obtain ⟨path, rfl, deleted⟩ := Database.deleteWideItem_eq_ok carried
      exact .deleteItem deleted
  | createView name members primary missed =>
      rw [apply] at applied
      obtain ⟨commit, carried, rfl⟩ := map_eq_ok_iff.mp applied
      obtain ⟨text, paths, rfl, rfl, created⟩ := Database.createWideView_eq_ok carried
      exact .createView created
  | addViewMember name fullName =>
      rw [apply] at applied
      obtain ⟨commit, carried, rfl⟩ := map_eq_ok_iff.mp applied
      obtain ⟨view, path, rfl, rfl, added⟩ := Database.addWideMember_eq_ok carried
      exact .addViewMember added
  | setPrimaryView name =>
      rw [apply] at applied
      obtain ⟨commit, carried, rfl⟩ := map_eq_ok_iff.mp applied
      obtain ⟨view, rfl, chosen⟩ := Database.setPrimaryWideView_eq_ok carried
      exact .setPrimaryView chosen
  | getItem fullName =>
      rw [apply] at applied
      obtain ⟨row, found, rfl⟩ := map_eq_ok_iff.mp applied
      obtain ⟨path, rfl, found⟩ := Database.getWideItem_eq_ok found
      exact .getItem found
  | getView name =>
      rw [apply] at applied
      obtain ⟨row, found, rfl⟩ := map_eq_ok_iff.mp applied
      obtain ⟨view, rfl, found⟩ := Database.getWideView_eq_ok found
      exact .getView found
  | load =>
      rw [apply] at applied
      obtain ⟨objects, loaded, rfl⟩ := map_eq_ok_iff.mp applied
      exact .load loaded

/-- Without tables no operation is carried out. -/
theorem apply_of_no_tables (operation : Operation) (database : Database) :
    operation.apply ⟨none⟩ ≠ .ok database := by
  have missing {α : Type} {next : Tables → Except OperationFault α} {value : α}
      (ended : (⟨none⟩ : Database).tables >>= next = .ok value) : False := by
    cases ended
  intro applied
  cases carries_of_apply applied with
  | createItem created | createView created =>
      obtain ⟨_, -, created⟩ := bind_eq_ok_iff.mp created
      exact missing created
  | updateItem carried | deleteItem carried | addViewMember carried | setPrimaryView carried
  | getItem carried | getView carried => exact missing carried
  | load loaded => cases loaded

theorem after_of_no_tables (operation : Operation) : operation.after ⟨none⟩ = ⟨none⟩ := by
  unfold after
  cases applied : operation.apply ⟨none⟩ with
  | error fault => rfl
  | ok database => exact absurd applied (apply_of_no_tables operation database)

end Operation

/-- The database after a run of operations, empty at first. -/
def databaseAfter (run : List Operation) : Database :=
  run.foldl (fun database operation => operation.after database) Database.empty

theorem databaseAfter_concat (run : List Operation) (operation : Operation) :
    databaseAfter (run ++ [operation]) = operation.after (databaseAfter run) := by
  rw [databaseAfter, List.foldl_append]
  rfl

/-- The identifiers of the stored items. -/
def Tables.itemIds (tables : Tables) : List Int :=
  tables.items.map ItemRow.id

/-- The identifiers of the stored views. -/
def Tables.viewIds (tables : Tables) : List Int :=
  tables.views.map ViewRow.id

/-- A database, and what was created in it and is still stored, the oldest first. -/
structure Chronicle where
  database : Database := Database.empty
  items : List Int := []
  views : List Int := []

namespace Chronicle

/-- Strike out what an operation has deleted, and put what it has created at the end. -/
def record (chronicle : Chronicle) (operation : Operation) : Chronicle :=
  let database := operation.after chronicle.database
  let tables := database.content.getD {}
  { database
    items := chronicle.items.filter (fun id => tables.itemIds.contains id) ++
      operation.createdItems chronicle.database
    views := chronicle.views.filter (fun id => tables.viewIds.contains id) ++
      operation.createdViews chronicle.database }

/-- The chronicle of a run. -/
def ofRun (run : List Operation) : Chronicle :=
  run.foldl record {}

end Chronicle

namespace Tables

variable {tables changed : Tables}

/-- Rows that have come out of other rows by the creation of some items and views: what was there before
and still is comes first, in its old order, and what is new comes last. -/
structure Succeeds (tables changed : Tables) (items views : List Int) : Prop where
  wellFormed : changed.WellFormed
  itemIds : changed.itemIds =
    tables.itemIds.filter (fun id => changed.itemIds.contains id) ++ items
  viewIds : changed.viewIds =
    tables.viewIds.filter (fun id => changed.viewIds.contains id) ++ views

theorem filter_contains_of_subset {ids others : List Int} (within : ∀ id ∈ ids, id ∈ others) :
    ids.filter (fun id => others.contains id) = ids := by
  apply List.filter_eq_self.mpr
  intro id member
  exact List.contains_iff_mem.mpr (within id member)

namespace Succeeds

/-- Rows behind which others were put, or none. -/
theorem of_append {items views : List Int} (wellFormed : changed.WellFormed)
    (itemIds : changed.itemIds = tables.itemIds ++ items)
    (viewIds : changed.viewIds = tables.viewIds ++ views) : Succeeds tables changed items views := by
  constructor
  · exact wellFormed
  · rw [itemIds, filter_contains_of_subset fun _ member => List.mem_append_left _ member]
  · rw [viewIds, filter_contains_of_subset fun _ member => List.mem_append_left _ member]

/-- Rows all of which are still there, with no others. -/
theorem of_same (wellFormed : changed.WellFormed) (itemIds : changed.itemIds = tables.itemIds)
    (viewIds : changed.viewIds = tables.viewIds) : Succeeds tables changed [] [] :=
  of_append wellFormed (itemIds.trans (List.append_nil _).symm) (viewIds.trans (List.append_nil _).symm)

end Succeeds

@[simp] theorem viewIds_choosePrimary (tables : Tables) (chosen : Int) :
    (tables.choosePrimary chosen).viewIds = tables.viewIds := by
  simp [viewIds, choosePrimary]

theorem itemIds_eraseItems (ids : List Int) : (tables.eraseItems ids).itemIds =
    tables.itemIds.filter fun id => (tables.eraseItems ids).itemIds.contains id := by
  have spared : (tables.eraseItems ids).itemIds = tables.itemIds.filter fun id => !ids.contains id := by
    rw [itemIds, itemIds, List.filter_map]
    rfl
  rw [spared]
  apply List.filter_congr
  intro id member
  cases gone : ids.contains id <;> simp_all

namespace WellFormed

variable (wellFormed : tables.WellFormed)

include wellFormed

theorem succeeds_createItem {overlooked : Option String} {missed : Bool} {name : String}
    {kind : ItemKind} {displayName parent : Option String} {commit : Commit ItemRow}
    (created : (⟨some tables⟩ : Database).createItemOverlooking overlooked missed name kind displayName
      parent = .ok commit) :
    ∃ changed, commit.database = ⟨some changed⟩ ∧ Succeeds tables changed [commit.value.id] [] := by
  obtain ⟨parentId, changed, named, found, value, inserted, after⟩ :=
    Database.createItem_commit created
  have next : commit.value.id = tables.nextItemId := by rw [value]
  refine ⟨changed, after, .of_append ?_ ?_ ?_⟩
  · refine wellFormed.insertItem next ?_ ?_ ?_ ?_ inserted <;> rw [value]
    case refine_1 => exact named
    case refine_2 =>
      rintro parent rfl
      exact folder_of_parentFolder found
    case refine_4 => exact nonEmpty?_ne_some_empty displayName
  · rw [(insertItem_next next inserted).1]
    simp [itemIds]
  · rw [(insertItem_next next inserted).1]
    simp [viewIds]

theorem succeeds_updateItem {fullName : String} {changes : ItemChanges} {commit : Commit ItemRow}
    (updated : (⟨some tables⟩ : Database).updateItem fullName changes = .ok commit) :
    ∃ changed, commit.database = ⟨some changed⟩ ∧ Succeeds tables changed [] [] := by
  obtain ⟨row, found, allowed, after⟩ := Database.updateItem_commit updated
  refine ⟨_, after, .of_same (wellFormed.updateItem (mem_of_getItem found) allowed) ?_ rfl⟩
  rw [itemIds, itemIds, List.map_map]
  apply List.map_congr_left
  intro other _
  rw [Function.comp_apply]
  split
  case isTrue same => exact (eq_of_beq same).symm
  case isFalse => rfl

theorem succeeds_deleteItem {fullName : String} {commit : Commit Unit}
    (deleted : (⟨some tables⟩ : Database).deleteItem fullName = .ok commit) :
    ∃ changed, commit.database = ⟨some changed⟩ ∧ Succeeds tables changed [] [] := by
  obtain ⟨row, -, after⟩ := Database.deleteItem_commit deleted
  refine ⟨_, after, wellFormed.eraseItems (closedBelow_descendantIds row.id), ?_, ?_⟩
  · rw [List.append_nil]
    exact itemIds_eraseItems _
  · rw [List.append_nil]
    exact (filter_contains_of_subset fun _ member => member).symm

theorem succeeds_createView {name : String} {members : List String} {primary missed : Bool}
    {commit : Commit ViewRow}
    (created : (⟨some tables⟩ : Database).createView name members primary missed = .ok commit) :
    ∃ changed, commit.database = ⟨some changed⟩ ∧ Succeeds tables changed [] [commit.value.id] := by
  obtain ⟨items, viewed, changed, named, found, inserted, listed, outcome⟩ :=
    Database.createView_commit created
  obtain ⟨isListed, sameItems, grown⟩ :=
    wellFormed.insertListing named (mem_of_getItems found) inserted listed
  have itemIds : changed.itemIds = tables.itemIds ++ [] := by
    rw [Tables.itemIds, sameItems, List.append_nil]
    rfl
  have viewIds : changed.viewIds = tables.viewIds ++ [tables.nextViewId] := by
    rw [Tables.viewIds, grown, List.map_append]
    rfl
  rcases outcome with ⟨-, value, after⟩ | ⟨-, row, chosen, value, after⟩
  · rw [value]
    exact ⟨changed, after, .of_append isListed itemIds viewIds⟩
  · have same : row = ⟨tables.nextViewId, name, false⟩ := by
      obtain ⟨there, named⟩ := mem_of_getView chosen
      apply isListed.eq_of_viewName there _ named
      rw [grown]
      exact List.mem_append_right _ (List.mem_singleton_self _)
    rw [value, same]
    refine ⟨_, after, .of_append (isListed.choosePrimary row.id) itemIds ?_⟩
    rw [viewIds_choosePrimary, viewIds]

theorem succeeds_addViewMember {name fullName : String} {commit : Commit Unit}
    (added : (⟨some tables⟩ : Database).addViewMember name fullName = .ok commit) :
    ∃ changed, commit.database = ⟨some changed⟩ ∧ Succeeds tables changed [] [] := by
  obtain ⟨view, item, viewed, found, outcome⟩ := Database.addViewMember_commit added
  rcases outcome with ⟨-, after⟩ | ⟨changed, inserted, after⟩
  · exact ⟨tables, after, .of_same wellFormed rfl rfl⟩
  · have stored : (∃ other ∈ tables.views, other.id = view.id) ∧
        ∃ other ∈ tables.items, other.id = item.id :=
      ⟨⟨view, (mem_of_getView viewed).1, rfl⟩, item, mem_of_getItem found, rfl⟩
    obtain ⟨items, views⟩ := rows_insertMember inserted
    refine ⟨changed, after, .of_same (wellFormed.insertMember stored inserted) ?_ ?_⟩
    · rw [itemIds, items, itemIds]
    · rw [viewIds, views, viewIds]

theorem succeeds_setPrimaryView {name : String} {commit : Commit ViewRow}
    (chosen : (⟨some tables⟩ : Database).setPrimaryView name = .ok commit) :
    ∃ changed, commit.database = ⟨some changed⟩ ∧ Succeeds tables changed [] [] := by
  obtain ⟨row, -, -, after⟩ := Database.setPrimaryView_commit chosen
  exact ⟨_, after, .of_same (wellFormed.choosePrimary row.id) rfl (viewIds_choosePrimary tables row.id)⟩

/-- An operation that is carried out leaves rows that have come out of the old ones by what it
creates. -/
theorem succeeds_apply {operation : Operation} {database : Database}
    (applied : operation.apply ⟨some tables⟩ = .ok database) :
    ∃ changed, database = ⟨some changed⟩ ∧ Succeeds tables changed
      (operation.createdItems ⟨some tables⟩) (operation.createdViews ⟨some tables⟩) := by
  have same : Succeeds tables tables [] [] := .of_same wellFormed rfl rfl
  cases Operation.carries_of_apply applied with
  | createItem created =>
      simp only [Operation.createdItems, Operation.createdViews, Database.createWideItem_sound, created]
      exact wellFormed.succeeds_createItem created
  | updateItem updated => exact wellFormed.succeeds_updateItem updated
  | deleteItem deleted => exact wellFormed.succeeds_deleteItem deleted
  | createView created =>
      simp only [Operation.createdItems, Operation.createdViews, Database.createWideView_sound, created]
      exact wellFormed.succeeds_createView created
  | addViewMember added => exact wellFormed.succeeds_addViewMember added
  | setPrimaryView chosen => exact wellFormed.succeeds_setPrimaryView chosen
  | getItem | getView | load => exact ⟨tables, rfl, same⟩

/-- So does any operation, since one that is refused creates nothing. -/
theorem succeeds_after (operation : Operation) :
    ∃ changed, operation.after ⟨some tables⟩ = ⟨some changed⟩ ∧ Succeeds tables changed
      (operation.createdItems ⟨some tables⟩) (operation.createdViews ⟨some tables⟩) := by
  unfold Operation.after
  cases applied : operation.apply ⟨some tables⟩ with
  | ok database => exact wellFormed.succeeds_apply applied
  | error fault =>
      obtain ⟨items, views⟩ := Operation.created_of_refused applied
      rw [items, views]
      exact ⟨tables, rfl, .of_same wellFormed rfl rfl⟩

end WellFormed

end Tables

/-- A chronicle that lists the stored rows, which fit together. -/
structure Chronicle.Lists (chronicle : Chronicle) (tables : Tables) : Prop where
  database : chronicle.database = ⟨some tables⟩
  wellFormed : tables.WellFormed
  items : chronicle.items = tables.itemIds
  views : chronicle.views = tables.viewIds

namespace Chronicle

theorem Lists.record {chronicle : Chronicle} {tables : Tables} (lists : chronicle.Lists tables)
    (operation : Operation) : ∃ changed, (chronicle.record operation).Lists changed := by
  obtain ⟨changed, after, succeeds⟩ := lists.wellFormed.succeeds_after operation
  refine ⟨changed, ?_, succeeds.wellFormed, ?_, ?_⟩
  · rw [Chronicle.record, lists.database, after]
  · rw [Chronicle.record, lists.database, after, lists.items]
    exact succeeds.itemIds.symm
  · rw [Chronicle.record, lists.database, after, lists.views]
    exact succeeds.viewIds.symm

/-- The chronicle of a run lists the rows that the run has left, in the order of their identifiers. -/
theorem lists_ofRun (run : List Operation) : ∃ tables, (ofRun run).Lists tables := by
  have recorded (chronicle : Chronicle) (tables : Tables) (lists : chronicle.Lists tables) :
      ∃ changed, (run.foldl record chronicle).Lists changed := by
    induction run generalizing chronicle tables with
    | nil => exact ⟨tables, lists⟩
    | cons operation run ih =>
        obtain ⟨changed, lists'⟩ := lists.record operation
        exact ih _ changed lists'
  exact recorded {} {} ⟨rfl, Tables.wellFormed_empty, rfl, rfl⟩

@[simp] theorem database_ofRun (run : List Operation) : (ofRun run).database = databaseAfter run := by
  have recorded (chronicle : Chronicle) : (run.foldl record chronicle).database =
      run.foldl (fun database operation => operation.after database) chronicle.database := by
    induction run generalizing chronicle with
    | nil => rfl
    | cons operation run ih => exact ih (chronicle.record operation)
  exact recorded {}

end Chronicle

/-- Whatever operations were carried out, the rows fit together. -/
theorem exists_wellFormed (run : List Operation) :
    ∃ tables, databaseAfter run = ⟨some tables⟩ ∧ tables.WellFormed := by
  obtain ⟨tables, lists⟩ := Chronicle.lists_ofRun run
  exact ⟨tables, (Chronicle.database_ofRun run).symm.trans lists.database, lists.wellFormed⟩

end Wayfinder.Storage
