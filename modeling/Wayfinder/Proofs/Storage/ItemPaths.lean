import Wayfinder.Proofs.Storage.Locations
import Wayfinder.Proofs.Storage.Runs
import Wayfinder.Proofs.Workspace.FullNames

/-!
# The paths of items

The path in an item's address is read as the full name of an item, and the item is the one of this full
name in the database or in the snapshot of it. A path that lists names is read, any other is refused; and
as both the names of a path and the names down to an item can be read back from the full name, two paths
lead to one item only if they differ by no more than slashes at their ends.
-/

namespace Wayfinder

namespace Workspace

variable {path left right fullName other : String}

theorem fullNameOfJobPath_eq_ok_iff : fullNameOfJobPath path = .ok fullName ↔
    Path.trim path ≠ "" ∧ ∃ names, Path.Lists path names ∧ fullName = Path.ofNames names := by
  rw [← Path.ofJobPath?_eq_some_iff, fullNameOfJobPath]
  cases Path.ofJobPath? path <;> simp

example : fullNameOfJobPath "/job/job//job/b" = .ok "job//b" := by decide +kernel

/-- A path is refused only as one that is not the path of an item. -/
theorem eq_of_fullNameOfJobPath_eq_error {fault : Fault}
    (refused : fullNameOfJobPath path = .error fault) : fault = .notItemPath path := by
  rw [fullNameOfJobPath] at refused
  split at refused
  · cases refused
  · exact (Except.error.inj refused).symm

/-- A full name that a path is read as has no slashes at its ends. -/
theorem trim_of_fullNameOfJobPath (read : fullNameOfJobPath path = .ok fullName) :
    Path.trim fullName = fullName := by
  obtain ⟨-, names, lists, rfl⟩ := fullNameOfJobPath_eq_ok_iff.mp read
  exact lists.trim_ofNames

theorem fullName_eq_iff_sameWithinSlashes (first : fullNameOfJobPath left = .ok fullName)
    (second : fullNameOfJobPath right = .ok other) :
    fullName = other ↔ Path.SameWithinSlashes left right := by
  obtain ⟨-, names, lists, rfl⟩ := fullNameOfJobPath_eq_ok_iff.mp first
  obtain ⟨-, others, lists', rfl⟩ := fullNameOfJobPath_eq_ok_iff.mp second
  exact lists.ofNames_eq_iff lists'

/-- What paths of items are read as: a path is read if something is left of it between slashes and it
lists names, which it does in one way only, and is refused otherwise. -/
structure ReadsItemPaths (read : String → Except Fault String) : Prop where
  accepts_iff : ∀ path fullName, read path = .ok fullName ↔
    Path.trim path ≠ "" ∧ ∃ names, Path.Lists path names ∧ fullName = Path.ofNames names
  unique : ∀ path names others, Path.Lists path names → Path.Lists path others → names = others
  refuses_iff : ∀ path, (∃ fault, read path = .error fault ∧ fault.category = .notFound) ↔
    Path.trim path = "" ∨ ∀ names, ¬Path.Lists path names
  fault : ∀ path fault, read path = .error fault → fault = .notItemPath path
  same_iff : ∀ left right fullName other, read left = .ok fullName → read right = .ok other →
    (fullName = other ↔ Path.SameWithinSlashes left right)

theorem readsItemPaths : ReadsItemPaths fullNameOfJobPath := by
  constructor
  case accepts_iff => exact fun path fullName => fullNameOfJobPath_eq_ok_iff
  case unique => exact fun path names others first second => first.unique second
  case refuses_iff =>
    intro path
    have refused : (∃ fault, fullNameOfJobPath path = .error fault ∧ fault.category = .notFound) ↔
        ∀ fullName, fullNameOfJobPath path ≠ .ok fullName := by
      cases read : fullNameOfJobPath path with
      | ok fullName => simp
      | error fault => simp [eq_of_fullNameOfJobPath_eq_error read, Fault.category]
    rw [refused]
    constructor
    · intro never
      by_contra! listed
      obtain ⟨left, names, lists⟩ := listed
      exact never _ (fullNameOfJobPath_eq_ok_iff.mpr ⟨left, names, lists, rfl⟩)
    · rintro broken fullName read
      obtain ⟨left, names, lists, -⟩ := fullNameOfJobPath_eq_ok_iff.mp read
      rcases broken with nothing | unlisted
      · exact left nothing
      · exact unlisted names lists
  case fault => exact fun path fault => eq_of_fullNameOfJobPath_eq_error
  case same_iff => exact fun left right fullName other => fullName_eq_iff_sameWithinSlashes

end Workspace

namespace Storage

open Workspace

/-- Whether paths that lead to items lead to one item only if they are the same but for slashes at their
ends, both in a database and in its snapshot. -/
structure PathsIdentify (database : Database) (objects : Objects) : Prop where
  row : ∀ left right fullName other first second,
    fullNameOfJobPath left = .ok fullName → fullNameOfJobPath right = .ok other →
    database.getItem fullName = .ok first → database.getItem other = .ok second →
    (first.id = second.id ↔ Path.SameWithinSlashes left right)
  object : ∀ left right fullName other first second,
    fullNameOfJobPath left = .ok fullName → fullNameOfJobPath right = .ok other →
    objects.byFullName? snapshotSpace fullName = some first →
    objects.byFullName? snapshotSpace other = some second →
    (first = second ↔ Path.SameWithinSlashes left right)

/-- Full names under which one item is stored are the same but for slashes at their ends. -/
theorem Tables.WellFormed.trim_eq_of_getItem {tables : Tables} (wellFormed : tables.WellFormed)
    {fullName other : String} {first second : ItemRow} (found : tables.getItem fullName none = .ok first)
    (found' : tables.getItem other none = .ok second) (same : first.id = second.id) :
    Path.trim fullName = Path.trim other := by
  have leads := (wellFormed.getItem_eq_ok_iff_leadsTo.mp found).2
  have leads' := (wellFormed.getItem_eq_ok_iff_leadsTo.mp found').2
  rw [← Path.ofNames_names, ← Path.ofNames_names other, wellFormed.names_eq leads (same ▸ leads')]

theorem Tables.WellFormed.pathsIdentify {tables : Tables} (wellFormed : tables.WellFormed)
    {objects : Objects} (tree : objects.IsTree) : PathsIdentify ⟨some tables⟩ objects := by
  constructor
  case row =>
    intro left right fullName other first second read read' found found'
    rw [Database.getItem_of_tables] at found found'
    rw [← fullName_eq_iff_sameWithinSlashes read read']
    constructor
    · intro same
      rw [← trim_of_fullNameOfJobPath read, ← trim_of_fullNameOfJobPath read']
      exact wellFormed.trim_eq_of_getItem found found' same
    · rintro rfl
      rw [Except.ok.inj (found.symm.trans found')]
  case object =>
    intro left right fullName other first second read read' found found'
    rw [← fullName_eq_iff_sameWithinSlashes read read']
    constructor
    · rintro rfl
      rw [← trim_of_fullNameOfJobPath read, ← trim_of_fullNameOfJobPath read',
        (tree.byFullName?_eq_some_iff.mp found).2, (tree.byFullName?_eq_some_iff.mp found').2]
    · rintro rfl
      exact Option.some.inj (found.symm.trans found')

/-- Item paths are read by their grammar and, whatever operations came before, no two of them lead to one
item unless they differ only by slashes at their ends. -/
theorem itemPaths_identify (run : List Operation) :
    ReadsItemPaths fullNameOfJobPath ∧
      ∃ objects, (databaseAfter run).load.result = .ok objects ∧
        PathsIdentify (databaseAfter run) objects := by
  obtain ⟨tables, same, wellFormed⟩ := exists_wellFormed run
  obtain ⟨objects, loaded, -, tree⟩ := wellFormed.exists_snapshot
  rw [same]
  exact ⟨readsItemPaths, objects, loaded, wellFormed.pathsIdentify tree⟩

end Storage

end Wayfinder
