import Wayfinder.Storage.Rows

/-!
# Tables and their constraints

Each table is kept in the order of its key. The tables refuse a row that repeats a key, an item with
the name of another item of the same parent, and a view with the name of another view. Names at the
top level are guarded by a constraint of their own, which can be dropped. Nothing checks that a parent,
a view or an item that a row mentions exists.
-/

namespace Wayfinder.Storage

/-- The rows of the three tables. -/
structure Tables where
  items : List ItemRow := []
  views : List ViewRow := []
  members : List MemberRow := []
  rootNamesUnique : Bool := true
  deriving DecidableEq, Repr

/-- Put a row before the first one that does not come before it. -/
def insertOrdered {ρ : Type} (before : ρ → ρ → Bool) (row : ρ) : List ρ → List ρ
  | [] => [row]
  | head :: rest =>
    if before head row then head :: insertOrdered before row rest else row :: head :: rest

@[simp] theorem mem_insertOrdered {ρ : Type} {before : ρ → ρ → Bool} {row other : ρ}
    {rows : List ρ} : other ∈ insertOrdered before row rows ↔ other = row ∨ other ∈ rows := by
  induction rows with
  | nil => simp [insertOrdered]
  | cons head rest ih =>
    unfold insertOrdered
    split
    · simp only [List.mem_cons, ih]
      constructor <;> intro chosen <;> rcases chosen with same | same | member <;> simp_all
    · simp

/-- The identifier after the largest one, or one when there is none. -/
def nextId (ids : List Int) : Int :=
  match ids.max? with
  | some largest => largest + 1
  | none => 1

namespace Tables

/-- The identifier of the next item. -/
def nextItemId (tables : Tables) : Int :=
  nextId (tables.items.map ItemRow.id)

/-- The identifier of the next view. -/
def nextViewId (tables : Tables) : Int :=
  nextId (tables.views.map ViewRow.id)

/-- Whether two items cannot both be stored. -/
def itemsClash (tables : Tables) (left right : ItemRow) : Bool :=
  left.id == right.id ||
    (left.name == right.name && left.parentId == right.parentId &&
      (left.parentId.isSome || tables.rootNamesUnique))

/-- Store an item, if no constraint forbids it. -/
def insertItem (tables : Tables) (row : ItemRow) : Option Tables :=
  if tables.items.any (tables.itemsClash row) then none
  else some { tables with
    items := insertOrdered (fun left right => left.id < right.id) row tables.items }

/-- Store a view, if no constraint forbids it. -/
def insertView (tables : Tables) (row : ViewRow) : Option Tables :=
  if tables.views.any fun other => other.id == row.id || other.name == row.name then none
  else some { tables with
    views := insertOrdered (fun left right => left.id < right.id) row tables.views }

/-- Store a membership, if it is not stored already. -/
def insertMember (tables : Tables) (row : MemberRow) : Option Tables :=
  if row ∈ tables.members then none
  else some { tables with members := insertOrdered MemberRow.before row tables.members }

/-- Store several memberships. -/
def insertMembers (tables : Tables) (rows : List MemberRow) : Option Tables :=
  rows.foldlM insertMember tables

end Tables

end Wayfinder.Storage
