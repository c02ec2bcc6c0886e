import Wayfinder.Storage.Broken

/-!
# Sessions

An operation is carried out in a session of its own, step by step. A session sees what it has changed
itself, but the database only has it once the session commits. However a session ends, what it has not
committed by then is gone. A text is encoded when it is looked up or when its row is stored, so a broken one
fails there.
-/

namespace Wayfinder.Storage

open Workspace (nonEmpty?)
open Text (Wide)

/-- The database in a session: as it was last committed, and with what was changed since. -/
structure Draft where
  committed : Database
  current : Database

/-- Steps of a session: what they answer, or why they failed, and the draft after them. -/
structure Session (α : Type) where
  run : Draft → Except OperationFault α × Draft

namespace Session

variable {α β : Type}

/-- Go on with the answer of the first steps, if they have one. -/
def andThen (first : Session α) (next : α → Session β) : Session β where
  run draft :=
    match first.run draft with
    | (.ok value, after) => (next value).run after
    | (.error fault, after) => (.error fault, after)

instance : Monad Session where
  pure value := ⟨fun draft => (.ok value, draft)⟩
  bind := andThen

theorem id_map (steps : Session α) : id <$> steps = steps := by
  obtain ⟨run⟩ := steps
  apply congrArg Session.mk
  funext draft
  simp only [Function.comp_apply, id_eq]
  rcases run draft with ⟨fault | value, after⟩ <;> rfl

theorem andThen_assoc {γ : Type} (first : Session α) (next : α → Session β) (last : β → Session γ) :
    first >>= next >>= last = first >>= fun value => next value >>= last := by
  apply congrArg Session.mk
  funext draft
  simp only [bind, andThen]
  rcases first.run draft with ⟨fault | value, after⟩ <;> rfl

instance : LawfulMonad Session := LawfulMonad.mk' Session id_map (fun _ _ => rfl) andThen_assoc

/-- End in a given way, whatever the rows are. -/
def ofExcept (outcome : Except OperationFault α) : Session α where
  run draft := (outcome, draft)

/-- Look something up in the rows. -/
def ask (question : Tables → Except OperationFault α) : Session α where
  run draft := (draft.current.tables >>= question, draft)

/-- See what the rows say. -/
def see (value : Tables → α) : Session α :=
  ask fun tables => .ok (value tables)

/-- Change the rows, unless a constraint forbids it. -/
def write (edit : Tables → Option Tables) : Session Unit where
  run draft :=
    match draft.current.tables >>= fun tables => Database.ofInsert (edit tables) with
    | .ok database => (.ok (), { draft with current := database })
    | .error fault => (.error fault, draft)

/-- Change the rows in a way that no constraint is about. -/
def change (edit : Tables → Tables) : Session Unit :=
  write fun tables => some (edit tables)

/-- Let the database have all changes. -/
def commit : Session Unit where
  run draft := (.ok (), { draft with committed := draft.current })

/-- When a constraint is broken, undo what was not committed and refuse the operation. -/
def refusingConflicts (fault : Workspace.Fault) (steps : Session α) : Session α where
  run draft :=
    match steps.run draft with
    | (.error (.storage .integrity), after) =>
      (.error (.workspace fault), { after with current := after.committed })
    | ended => ended

/-- Carry out steps on a draft, and end the session: what they answer, and what the database has then. -/
def close (steps : Session α) (draft : Draft) : Except OperationFault α × Database :=
  let (answer, after) := steps.run draft
  (answer, after.committed)

/-- Carry out steps on a database, in a session of their own. -/
def conclude (steps : Session α) (database : Database) : Except OperationFault α × Database :=
  steps.close ⟨database, database⟩

end Session

namespace Tables

/-- Put a row in the place of the item with its identifier. -/
def replaceItem (tables : Tables) (row : ItemRow) : Tables :=
  { tables with items := tables.items.map fun other => if other.id == row.id then row else other }

/-- Take out an item. -/
def eraseItem (tables : Tables) (id : Int) : Tables :=
  { tables with items := tables.items.filter fun row => row.id != id }

/-- Take out the memberships of items. -/
def eraseMembers (tables : Tables) (items : List Int) : Tables :=
  { tables with members := tables.members.filter fun row => !items.contains row.itemId }

/-- Take the flag of a primary view off every view that has it. -/
def clearPrimary (tables : Tables) : Tables :=
  { tables with
    views := tables.views.map fun row =>
      if row.isPrimary then { row with isPrimary := false } else row }

/-- Flag a view as primary. -/
def flagPrimary (tables : Tables) (id : Int) : Tables :=
  { tables with
    views := tables.views.map fun row =>
      if row.id == id then { row with isPrimary := true } else row }

end Tables

namespace Session

/-- Create an item at the top level or in a folder. On the way to the folder no item of the name
`overlooked` is found; when `missed` is set, the look for an item of the new name finds nothing. -/
def createItem (overlooked : Option String) (missed : Bool) (name : Wide) (kind : ItemKind)
    (displayName parent : Option Wide) : Session ItemRow := do
  ofExcept (requireWideName name)
  let parentId ← ask fun tables => tables.wideParentFolder overlooked parent
  let taken ← ask fun tables =>
    if missed then .ok none else tables.findWideChild overlooked parentId name
  match taken with
  | some row => ofExcept (refuse (.duplicateItem row.name))
  | none =>
    let id ← see Tables.nextItemId
    let name ← ofExcept (encode name)
    let displayName ← ofExcept (displayName.mapM encode)
    let row : ItemRow := ⟨id, parentId, kind, name, nonEmpty? displayName, false⟩
    refusingConflicts (.duplicateItem name) do
      write fun tables => tables.insertItem row
      commit
    return row

/-- Change the display name of an item, or disable or enable a job. The display name is changed before it
is known whether the rest can be; a broken one waits until the row is stored. -/
def updateItem (fullName : Wide) (changes : WideChanges) : Session ItemRow := do
  let row ← ask fun tables => tables.getWideItem fullName none
  if let some changes := changes.sound? then
    change fun tables => tables.replaceItem ({ changes with disabled := none }.apply row)
  if (changes.disabled.bind id).isSome && row.kind == .folder then
    ofExcept (refuse (.folderNotDisabled (← ofExcept (encode fullName))))
  else
    let displayName ← ofExcept (changes.displayName.mapM fun value => value.mapM encode)
    let changed := ItemChanges.apply ⟨displayName, changes.disabled, changes.others⟩ row
    change fun tables => tables.replaceItem changed
    commit
    return changed

/-- Take out items one after another, and let the database have what is left. -/
def eraseInTurn (ids : List Int) : Session Unit := do
  ids.forM fun id => change fun tables => tables.eraseItem id
  commit

/-- Delete an item together with everything below it, what is below first. -/
def deleteItem (fullName : Wide) : Session Unit := do
  let row ← ask fun tables => tables.getWideItem fullName none
  let ids ← see fun tables => descendantIds tables.items row.id
  change fun tables => tables.eraseMembers ids
  eraseInTurn ids.reverse

/-- Choose the view that is shown first. -/
def setPrimaryView (name : Wide) : Session ViewRow := do
  let row ← ask fun tables => tables.getWideView name
  change Tables.clearPrimary
  change fun tables => tables.flagPrimary row.id
  commit
  return { row with isPrimary := true }

/-- Create a view that lists the given items, and then choose it if it is to be the primary one. When
`missed` is set, the look for a view of the new name finds nothing. -/
def createView (name : Wide) (members : List Wide) (primary missed : Bool) : Session ViewRow := do
  ofExcept (requireWideName name)
  let taken ← ask fun tables => if missed then .ok none else tables.findWideView name
  match taken with
  | some row => ofExcept (refuse (.duplicateView row.name))
  | none =>
    let items ← ask fun tables => tables.getWideItems members
    let id ← see Tables.nextViewId
    let encoded ← ofExcept (encode name)
    let row : ViewRow := ⟨id, encoded, false⟩
    refusingConflicts (.duplicateView encoded) do
      write fun tables => tables.insertView row
      write fun tables =>
        tables.insertMembers ((items.map ItemRow.id).eraseDups.map fun item => ⟨id, item⟩)
      commit
    if primary then setPrimaryView name else return row

/-- List an item in a view; listing it again changes nothing. -/
def addViewMember (name fullName : Wide) : Session Unit := do
  let view ← ask fun tables => tables.getWideView name
  let item ← ask fun tables => tables.getWideItem fullName none
  let row : MemberRow := ⟨view.id, item.id⟩
  let listed ← see fun tables => tables.members.contains row
  if listed then return ()
  else
    write fun tables => tables.insertMember row
    commit

end Session

end Wayfinder.Storage
