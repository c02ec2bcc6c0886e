import Wayfinder.Proofs.Api.Runs
import Wayfinder.Proofs.Storage.Dependable

/-!
# The integrity of the stored rows

Operations, requests and the setting up and taking down of the tables may come in any order. While the
tables are there, their rows fit together, and so no operation meets a broken constraint or an ambiguous
lookup.
-/

namespace Wayfinder.Api

open Storage

/-- Something that is done to a database: an operation, a request to some site, or the creation or the
removal of its tables. -/
inductive Action where
  | operate (operation : Operation)
  | serve (site : Site) (request : Request)
  | createTables
  | dropTables

/-- The database after an action. -/
def Action.after (database : Database) : Action → Database
  | .operate operation => operation.after database
  | .serve site request => (site.serve request database).database
  | .createTables => database.createTables
  | .dropTables => database.dropTables

/-- The database after some actions, with empty tables at first. -/
def databaseAfterAll (actions : List Action) : Database :=
  actions.foldl Action.after Database.empty

/-- A database whose rows fit together, if it has its tables. -/
def FitsTogether (database : Database) : Prop :=
  ∀ tables, database.content = some tables → tables.WellFormed

theorem FitsTogether.operate {database : Database} (fits : FitsTogether database)
    (operation : Operation) : FitsTogether (operation.after database) := by
  obtain ⟨content⟩ := database
  cases content with
  | none =>
      rw [Operation.after_of_no_tables]
      exact fits
  | some tables =>
      obtain ⟨changed, after, succeeds⟩ := (fits tables rfl).succeeds_after operation
      rw [after]
      rintro _ ⟨⟩
      exact succeeds.wellFormed

theorem FitsTogether.act {database : Database} (fits : FitsTogether database) (action : Action) :
    FitsTogether (action.after database) := by
  cases action with
  | operate operation => exact fits.operate operation
  | serve site request =>
      obtain ⟨operation, served⟩ := site.operates_serve request database
      rw [Action.after, served]
      exact fits.operate operation
  | createTables =>
      rintro _ ⟨⟩
      cases content : database.content with
      | none => exact Tables.wellFormed_empty
      | some tables => exact fits tables content
  | dropTables =>
      intro tables there
      cases there

theorem fitsTogether_databaseAfterAll (actions : List Action) :
    FitsTogether (databaseAfterAll actions) := by
  have acted (database : Database) (fits : FitsTogether database) :
      FitsTogether (actions.foldl Action.after database) := by
    induction actions generalizing database with
    | nil => exact fits
    | cons action actions ih => exact ih _ (fits.act action)
  apply acted
  rintro _ ⟨⟩
  exact Tables.wellFormed_empty

/-- Whatever is done to a database, while it has its tables their rows fit together, no membership is
stored twice, and no operation fails at a constraint or at a lookup that finds several rows. -/
theorem integrity_of_actions (actions : List Action) (tables : Tables)
    (there : (databaseAfterAll actions).content = some tables) :
    tables.WellFormed ∧ tables.members.Nodup ∧ ∀ operation : Operation,
      operation.apply (databaseAfterAll actions) ≠ .error (.storage .integrity) ∧
        operation.apply (databaseAfterAll actions) ≠ .error (.storage .ambiguous) := by
  have wellFormed := fitsTogether_databaseAfterAll actions tables there
  have same : databaseAfterAll actions = ⟨some tables⟩ := by rw [← there]
  refine ⟨wellFormed, wellFormed.nodup_members, ?_⟩
  intro operation
  have dependable := wellFormed.dependable_apply operation
  rw [same]
  constructor
  · intro failed
    cases dependable .integrity failed
  · intro failed
    cases dependable .ambiguous failed

/-- The tables are made anew, and then hold a job in a folder, listed in a view; a second folder of the
same name is refused although the look for it has missed the first. -/
def listedJob : List Action :=
  [.dropTables, .createTables,
    .operate (.createItem none false (.sound "tools") .folder none none),
    .operate (.createItem none true (.sound "tools") .folder none none),
    .operate
      (.createItem none false (.sound "build") .job (some (.sound "Build")) (some (.sound "tools"))),
    .operate
      (.createView (.sound "all") [.sound "tools/build", .sound "/tools/build/"] true false)]

/-- The rows that this leaves. -/
def listedJobTables : Tables where
  items := [⟨1, none, .folder, "tools", none, false⟩, ⟨2, some 1, .job, "build", some "Build", false⟩]
  views := [⟨1, "all", true⟩]
  members := [⟨1, 2⟩]

theorem listedJob_integrity : listedJobTables.WellFormed ∧ listedJobTables.members.Nodup ∧
    ∀ operation : Operation,
      operation.apply (databaseAfterAll listedJob) ≠ .error (.storage .integrity) ∧
        operation.apply (databaseAfterAll listedJob) ≠ .error (.storage .ambiguous) :=
  integrity_of_actions listedJob listedJobTables (by decide +kernel)

end Wayfinder.Api
