import Wayfinder.Storage.Editing
import Wayfinder.Traced
import Wayfinder.Workspace.Editing

/-!
# Snapshots

A snapshot is the workspace that the stored rows describe, as objects. The rows are read once in the
order of their identifiers, which becomes the order of declaration. An item whose parent was not read
as a folder before it, or whose name is taken in its group, is skipped with a warning. A stored name
that is no name makes the whole snapshot fail.
-/

namespace Wayfinder.Storage

open Workspace

/-- The workspace of a snapshot. -/
def snapshotSpace : SpaceId := ⟨0⟩

/-- A snapshot in the making: the objects, and which object stands for which stored item or view. -/
structure Loading where
  objects : Objects := (Objects.newSpace {}).1
  items : List (Int × ItemId) := []
  views : List (Int × ViewId) := []

namespace Loading

/-- The group of items with a given parent, if it was read. -/
def group? (loading : Loading) : Option Int → Option GroupId
  | none => some (.space snapshotSpace)
  | some parent => (loading.items.lookup parent).bind loading.objects.group?

/-- The object that a row describes. -/
def itemOf (row : ItemRow) : Except Fault Item :=
  match row.kind with
  | .folder => Objects.folder row.name row.displayName (some row.id)
  | .job => Objects.job row.name row.displayName row.disabled (some row.id)

/-- Leave an item out, with a warning. -/
def skip (loading : Loading) (row : ItemRow) (reason : String) : Traced LogLine Fault Loading :=
  ⟨[⟨.warning, "Skipping item " ++ toString row.id ++ ": " ++ reason⟩], .ok loading⟩

/-- Read an item. -/
def readItem (loading : Loading) (row : ItemRow) : Traced LogLine Fault Loading :=
  match loading.group? row.parentId with
  | none =>
    loading.skip row ("parent " ++ ((row.parentId.map toString).getD "") ++ " is not loaded")
  | some group =>
    match itemOf row with
    | .error fault => .fail fault
    | .ok item =>
      match loading.objects.createItem group item with
      | .error fault => loading.skip row fault.message
      | .ok (objects, id) =>
        .ofExcept (.ok { loading with objects, items := loading.items ++ [(row.id, id)] })

/-- Read a view. -/
def readView (loading : Loading) (row : ViewRow) : Except Fault Loading := do
  let (objects, id) ← loading.objects.createView snapshotSpace row.name (some row.id)
  let objects ←
    if row.isPrimary then objects.setPrimaryView snapshotSpace id else Except.ok objects
  return { loading with objects, views := loading.views ++ [(row.id, id)] }

/-- Read a membership; one of a view or an item that was not read is dropped. -/
def readMember (loading : Loading) (row : MemberRow) : Loading :=
  match loading.views.lookup row.viewId, loading.items.lookup row.itemId with
  | some view, some item =>
    { loading with objects := loading.objects.modifyView view fun view => view.add item }
  | _, _ => loading

/-- The line that reports a finished snapshot. -/
def report (loading : Loading) : LogLine :=
  ⟨.debug, "Loaded workspace snapshot with " ++ toString loading.items.length ++ " item(s) and " ++
    toString loading.views.length ++ " view(s)"⟩

end Loading

/-- The snapshot of the given tables. -/
def Tables.snapshot (tables : Tables) : Traced LogLine Fault Objects := do
  let loading ← tables.items.foldlM Loading.readItem {}
  let loading ← Traced.ofExcept (tables.views.foldlM Loading.readView loading)
  let loading := tables.members.foldl Loading.readMember loading
  Traced.emit [loading.report]
  return loading.objects

/-- The snapshot of a database. -/
def Database.load (database : Database) : Traced LogLine OperationFault Objects := do
  let tables ← Traced.ofExcept database.tables
  tables.snapshot.mapError .workspace

end Wayfinder.Storage
