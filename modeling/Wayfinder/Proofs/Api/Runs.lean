import Wayfinder.Api.Service
import Wayfinder.Proofs.Storage.Runs

/-!
# Runs of requests

Serving a request carries out one operation on the database: a request that only reads, or that is
refused, leaves it as it is, and any other commits one change. So what holds of the databases that
operations lead to holds of those that requests lead to.
-/

namespace Wayfinder.Api

open Storage

variable {database : Database}

@[simp] theorem database_fromSnapshot (answer : Workspace.Objects → Reply × List LogLine) :
    (fromSnapshot database answer).database = database := by
  unfold fromSnapshot
  dsimp only
  split <;> rfl

@[simp] theorem database_fromReload (answer : Workspace.Objects → Reply) :
    (fromReload database answer).database = database := by
  unfold fromReload
  dsimp only
  split <;> rfl

@[simp] theorem database_ofFault (fault : OperationFault) :
    (ofFault database fault).database = database := by
  cases fault <;> rfl

/-- Whether a served request has left the database as one operation does. -/
def Operates (database : Database) (served : Served) : Prop :=
  ∃ operation : Operation, served.database = operation.after database

/-- Nothing that leaves the database as it is does more than a snapshot does. -/
theorem Operates.of_kept {served : Served} (kept : served.database = database) :
    Operates database served := by
  refine ⟨.load, kept.trans ?_⟩
  unfold Operation.after
  rw [Operation.apply]
  cases database.load.result <;> rfl

theorem operates_afterCommit {α : Type} {outcome : Except OperationFault (Commit α)}
    {next : Database → Served} (operation : Operation)
    (carried : operation.apply database = outcome.map Commit.database)
    (kept : ∀ after, (next after).database = after) :
    Operates database (afterCommit database outcome next) := by
  cases outcome with
  | error fault => exact .of_kept (database_ofFault fault)
  | ok commit =>
      have after : (afterCommit database (.ok commit) next).database = commit.database :=
        kept commit.database
      refine ⟨operation, after.trans ?_⟩
      rw [Operation.after, carried]
      rfl

theorem operates_withPayload {α : Type} {check : Json → Input.Checked α} {request : Request}
    {next : α → Served} (served : ∀ value, Operates database (next value)) :
    Operates database (withPayload check request database next) := by
  unfold withPayload
  split
  · exact served _
  · exact .of_kept rfl

namespace Site

theorem operates_createItem (request : ItemCreate) :
    Operates database (createItem request database) := by
  unfold createItem
  split
  case h_1 name displayName parent _ _ _ =>
    apply operates_afterCommit (.createItem none false (.sound name) request.kindOrDefault
      (displayName.map .sound) ((Workspace.nonEmpty? parent).map .sound))
      (by rw [Operation.apply, Database.createWideItem_sound]; rfl)
    simp
  case h_2 => exact .of_kept (database_ofFault _)

theorem operates_updateItem (path : String) (request : ItemUpdate) :
    Operates database (updateItem path request database) := by
  unfold updateItem
  split
  case h_1 => exact .of_kept rfl
  case h_2 fullName _ =>
    split
    case h_1 displayName _ =>
      apply operates_afterCommit
        (.updateItem (.sound fullName) (ItemChanges.wide ⟨displayName, request.disabled, []⟩))
        (by rw [Operation.apply, Database.updateWideItem_sound])
      simp
    case h_2 => exact .of_kept (database_ofFault _)

theorem operates_deleteItem (path : String) : Operates database (deleteItem path database) := by
  unfold deleteItem
  split
  case h_1 => exact .of_kept rfl
  case h_2 fullName _ =>
    apply operates_afterCommit (.deleteItem (.sound fullName))
      (by rw [Operation.apply, Database.deleteWideItem])
    intro after
    rfl

theorem operates_createView (request : ViewCreate) :
    Operates database (createView request database) := by
  unfold createView
  split
  case h_1 name members _ _ =>
    apply operates_afterCommit
      (.createView (.sound name) (members.map .sound) request.primaryOrDefault false)
      (by rw [Operation.apply, Database.createWideView_sound])
    simp
  case h_2 => exact .of_kept (database_ofFault _)

theorem database_searchSnapshot (site : Site) (request : Request) (endpoint : Endpoint) :
    (site.searchSnapshot request database endpoint).database = database := by
  simp [searchSnapshot]

/-- Carrying out a request is one operation. -/
theorem operates_carryOut (site : Site) (request : Request) (endpoint : Endpoint) :
    Operates database (site.carryOut request database endpoint) := by
  unfold carryOut
  cases endpoint with
  | createItem => exact operates_withPayload fun value => operates_createItem value
  | updateItem path => exact operates_withPayload fun value => operates_updateItem path value
  | deleteItem path => exact operates_deleteItem path
  | createView => exact operates_withPayload fun value => operates_createView value
  | addMember view fullName =>
      apply operates_afterCommit (.addViewMember (.sound view) (.sound fullName))
        (by rw [Operation.apply, Database.addWideMember_sound])
      simp
  | choosePrimary view =>
      apply operates_afterCommit (.setPrimaryView (.sound view))
        (by rw [Operation.apply, Database.setPrimaryWideView])
      simp
  | showItem path => exact .of_kept (database_fromSnapshot _)
  | listViews | showView => exact .of_kept (database_fromSnapshot _)
  | search | suggest | lookup => exact .of_kept (database_searchSnapshot site request _)
  | home | health => exact .of_kept rfl

/-- Serving a request is one operation. -/
theorem operates_serve (site : Site) (request : Request) (database : Database) :
    Operates database (site.serve request database) := by
  unfold serve
  dsimp only
  split
  · exact operates_carryOut site request _
  · exact .of_kept rfl
  · split <;> exact .of_kept rfl

/-- The database after a run of requests, empty at first. -/
def databaseAfter (site : Site) (run : List Request) : Database :=
  run.foldl (fun database request => (site.serve request database).database) Database.empty

/-- Every run of requests is a run of operations. -/
theorem exists_operations (site : Site) (run : List Request) :
    ∃ operations, site.databaseAfter run = Storage.databaseAfter operations := by
  have served (database : Database) : ∃ operations : List Operation,
      run.foldl (fun database request => (site.serve request database).database) database =
        operations.foldl (fun database operation => operation.after database) database := by
    induction run generalizing database with
    | nil => exact ⟨[], rfl⟩
    | cons request run ih =>
        obtain ⟨operation, first⟩ := site.operates_serve request database
        obtain ⟨operations, rest⟩ := ih (operation.after database)
        refine ⟨operation :: operations, ?_⟩
        rw [List.foldl_cons, List.foldl_cons, first, rest]
  exact served Database.empty

/-- Whatever requests are served, the database is sound. -/
theorem isSound_databaseAfter (site : Site) (run : List Request) :
    (site.databaseAfter run).IsSound := by
  obtain ⟨operations, same⟩ := site.exists_operations run
  obtain ⟨tables, there, wellFormed⟩ := exists_wellFormed operations
  rw [same, there]
  exact ⟨tables, rfl, wellFormed.toIsSound⟩

end Site

end Wayfinder.Api
