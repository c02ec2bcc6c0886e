import Wayfinder.Storage.Tables
import Wayfinder.Workspace.Fault

/-!
# The database

A database has its tables or does not. Creating tables that are there leaves them as they are, and a
dropped constraint stays dropped; dropping tables that are not there does nothing.
-/

namespace Wayfinder.Storage

/-- A failure of the database itself: a constraint was broken, the tables are missing, a lookup that
expects at most one row found more, or a text cannot be written in the encoding of the database. -/
inductive StorageFault where
  | integrity
  | unavailable
  | ambiguous
  | unencodable
  deriving DecidableEq, Repr

/-- Why an operation on the stored workspace failed. -/
inductive OperationFault where
  | workspace (fault : Workspace.Fault)
  | storage (fault : StorageFault)
  deriving DecidableEq, Repr

/-- The tables, or nothing before they are created. -/
structure Database where
  content : Option Tables := none
  deriving DecidableEq, Repr

namespace Database

/-- A database with empty tables. -/
def empty : Database := ⟨some {}⟩

/-- The tables, which must be there. -/
def tables (database : Database) : Except OperationFault Tables :=
  match database.content with
  | some tables => .ok tables
  | none => .error (.storage .unavailable)

def createTables (database : Database) : Database :=
  ⟨some (database.content.getD {})⟩

def dropTables (_database : Database) : Database :=
  ⟨none⟩

/-- Drop the constraint on names at the top level, which must be there. -/
def dropRootNameIndex (database : Database) : Except OperationFault Database := do
  let tables ← database.tables
  if tables.rootNamesUnique then return ⟨some { tables with rootNamesUnique := false }⟩
  else throw (.storage .unavailable)

/-- The outcome of storing a row. -/
def ofInsert (inserted : Option Tables) : Except OperationFault Database :=
  match inserted with
  | some tables => .ok ⟨some tables⟩
  | none => .error (.storage .integrity)

/-- Store an item as it is; without an identifier it gets the next one. -/
def storeItem (database : Database) (id : Option Int) (row : Int → ItemRow) :
    Except OperationFault Database := do
  let tables ← database.tables
  ofInsert (tables.insertItem (row (id.getD tables.nextItemId)))

/-- Store a view as it is; without an identifier it gets the next one. -/
def storeView (database : Database) (id : Option Int) (row : Int → ViewRow) :
    Except OperationFault Database := do
  let tables ← database.tables
  ofInsert (tables.insertView (row (id.getD tables.nextViewId)))

/-- Store a membership as it is. -/
def storeMember (database : Database) (row : MemberRow) : Except OperationFault Database := do
  let tables ← database.tables
  ofInsert (tables.insertMember row)

end Database

/-- What the table-creating command prints, and the code it exits with. -/
structure SetupReport where
  lines : List String
  exitCode : Nat
  deriving DecidableEq, Repr

/-- Create the tables, and report it. -/
def Database.setUp (database : Database) : Database × SetupReport :=
  (database.createTables,
    ⟨["Creating workspace tables...", "Workspace tables created successfully"], 0⟩)

end Wayfinder.Storage
