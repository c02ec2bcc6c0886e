/-!
# Stored rows

A workspace is stored in three tables: items, views and the members of views. Identifiers are whole
numbers chosen by the tables; a row without a parent is at the top level.
-/

namespace Wayfinder.Storage

/-- The kinds of items that can be stored. -/
inductive ItemKind where
  | job
  | folder
  deriving DecidableEq, Repr

namespace ItemKind

/-- The word that writes a kind. -/
def word : ItemKind → String
  | .job => "job"
  | .folder => "folder"

/-- The kind that a word writes. -/
def ofWord? (word : String) : Option ItemKind :=
  if word = ItemKind.job.word then some .job
  else if word = ItemKind.folder.word then some .folder
  else none

@[simp] theorem ofWord?_word (kind : ItemKind) : ofWord? kind.word = some kind := by
  cases kind <;> rfl

end ItemKind

/-- A stored item. -/
structure ItemRow where
  id : Int
  parentId : Option Int
  kind : ItemKind
  name : String
  displayName : Option String
  disabled : Bool
  deriving DecidableEq, Repr

/-- The row as messages show it; the name is not quoted. -/
def ItemRow.describe (row : ItemRow) : String :=
  "<ItemRecord(id=" ++ toString row.id ++ ", kind=" ++ row.kind.word ++ ", name=" ++ row.name ++ ")>"

/-- A stored view. -/
structure ViewRow where
  id : Int
  name : String
  isPrimary : Bool
  deriving DecidableEq, Repr

/-- A stored membership of an item in a view. -/
structure MemberRow where
  viewId : Int
  itemId : Int
  deriving DecidableEq, Repr

/-- The order of memberships: by their view, and those of one view by their item. -/
def MemberRow.before (left right : MemberRow) : Bool :=
  left.viewId < right.viewId || (left.viewId == right.viewId && left.itemId < right.itemId)

end Wayfinder.Storage
