import Wayfinder.Proofs.Storage.Fidelity
import Wayfinder.Proofs.Storage.Lookups
import Wayfinder.Proofs.Workspace.BrokenNames

/-!
# Lookups in the database and in the snapshot agree

The database follows a path from row to row without asking whether a row is a folder; the snapshot stops
at anything else. Nothing is below a job, so both come to the same item. A broken name is the name of no
item, but the database cannot be asked for it: a lookup that comes to one fails, where the snapshot finds
nothing.
-/

namespace Wayfinder.Storage

open Workspace
open Text (Glyph Wide)

variable {tables : Tables} {objects : Objects}

/-- Nothing is stored below a job. -/
theorem Tables.WellFormed.child?_of_job (wellFormed : tables.WellFormed) {row : ItemRow}
    (stored : row ∈ tables.items) (isJob : row.kind = .job) (name : String) :
    tables.child? (some row.id) name = none := by
  cases found : tables.child? (some row.id) name with
  | none => rfl
  | some child =>
      obtain ⟨below, -, parent⟩ := Tables.child?_eq_some found
      obtain ⟨folder, there, same, isFolder, -⟩ := wellFormed.parents child below row.id parent
      rw [wellFormed.eq_of_itemId there stored same, isJob] at isFolder
      cases isFolder

theorem Tables.WellFormed.follow?_of_job (wellFormed : tables.WellFormed) {row : ItemRow}
    (stored : row ∈ tables.items) (isJob : row.kind = .job) (names : List String) :
    tables.follow? (some row.id) names = none := by
  cases names with
  | nil => rfl
  | cons name rest =>
      have nothing := wellFormed.child?_of_job stored isJob name
      cases rest with
      | nil => exact nothing
      | cons next rest =>
          rw [Tables.follow?, nothing]
          · rfl
          · simp

namespace Portrays

/-- The item of a name in a group is the object of the row of that name and parent. -/
theorem child?_eq (portrays : Portrays objects tables) {parent : Option Int}
    (houses : Houses tables.items parent) (name : String) :
    objects.child? (groupOf tables.items parent) name =
      (tables.child? parent name).map fun row => objectOf tables.items row.id :=
  portrays.child?_groupOf portrays.spaces rfl houses name

/-- The view of a name is the object of the row of that name. -/
theorem viewNamed?_eq (portrays : Portrays objects tables) (name : String) :
    objects.viewNamed? snapshotSpace name =
      (tables.viewNamed? name).map fun row => viewObjectOf tables.views row.id :=
  portrays.toPortraysViews.viewNamed?_eq portrays.spaces rfl name

/-- A path of names leads to the object of the row that it leads to. -/
theorem follow?_eq (portrays : Portrays objects tables) (wellFormed : tables.WellFormed)
    (names : List String) {parent : Option Int} (houses : Houses tables.items parent) :
    objects.follow? (groupOf tables.items parent) names =
      (tables.follow? parent names).map fun row => objectOf tables.items row.id := by
  induction names generalizing parent with
  | nil => rfl
  | cons name rest ih =>
      cases rest with
      | nil => exact portrays.child?_eq houses name
      | cons next rest =>
          rw [Objects.follow?, Tables.follow?, portrays.child?_eq houses]
          · cases found : tables.child? parent name with
            | none => rfl
            | some row =>
                have stored := (Tables.child?_eq_some found).1
                rw [Option.map_some, Option.bind_some, Option.bind_some, portrays.group?_objectOf stored]
                cases kind : row.kind with
                | job =>
                    rw [wellFormed.follow?_of_job stored kind]
                    rfl
                | folder =>
                    have below : Houses tables.items (some row.id) := by
                      rintro _ ⟨⟩
                      exact ⟨row, stored, rfl, kind⟩
                    exact ih below
          · simp
          · simp

/-- The item of a full name is the object of the row of that name. -/
theorem byFullName?_eq (portrays : Portrays objects tables) (wellFormed : tables.WellFormed)
    (fullName : String) : objects.byFullName? snapshotSpace fullName =
      (tables.follow? none (Path.names fullName)).map fun row => objectOf tables.items row.id := by
  rw [Objects.byFullName?]
  generalize Path.names fullName = names
  exact portrays.follow?_eq wellFormed names (houses_none tables.items)

end Portrays

/-- Whether a lookup comes to a broken name: the names in front of it, if there are any, lead to an
item. -/
def Stumbles (objects : Objects) (fullName : Wide) : Prop :=
  ∃ (before : List String) (name : Wide) (after : List Wide),
    Path.wideNames fullName = before.map .sound ++ name :: after ∧ name.text? = none ∧
      (before = [] ∨ (objects.follow? (.space snapshotSpace) before).isSome)

/-- The fault of a full name that leads nowhere. -/
def missingItem : Wide → Fault
  | .sound fullName => .noItem fullName
  | .broken fullName _ => .noBrokenItem fullName

/-- The fault in which asking for a broken full name ends. -/
def brokenLookupFault (objects : Objects) (fullName : List Glyph) : OperationFault :=
  let names := Tables.soundNames (Path.brokenNames fullName)
  if names = [] ∨ (objects.follow? (.space snapshotSpace) names).isSome then .storage .unencodable
  else .workspace (.noBrokenItem fullName)

/-- The fault in which asking for a full name ends, unless it leads to an item. -/
def lookupFault? (objects : Objects) : Wide → Option OperationFault
  | .sound fullName =>
    if (objects.byFullName? snapshotSpace fullName).isSome then none
    else some (.workspace (.noItem fullName))
  | .broken fullName _ => some (brokenLookupFault objects fullName)

section Broken

theorem soundNames_of_first {before : List String} {name : Wide} (isBroken : name.text? = none)
    (after : List Wide) : Tables.soundNames (before.map .sound ++ name :: after) = before := by
  induction before with
  | nil => simp [Tables.soundNames, isBroken]
  | cons first before ih =>
      rw [Tables.soundNames, List.map_cons, List.cons_append, List.takeWhile_cons_of_pos rfl]
      exact congrArg (first :: ·) ih

/-- Of several names one of which is broken, some are in front of the first such. -/
theorem exists_first_broken {names : List Wide} (isBroken : ∃ name ∈ names, name.text? = none) :
    ∃ (before : List String) (name : Wide) (after : List Wide),
      names = before.map .sound ++ name :: after ∧ name.text? = none := by
  induction names with
  | nil => simp at isBroken
  | cons first rest ih =>
      cases first with
      | broken glyphs halved => exact ⟨[], _, rest, rfl, rfl⟩
      | sound text =>
          have later : ∃ name ∈ rest, name.text? = none := by
            simpa [Wide.text?] using isBroken
          obtain ⟨before, name, after, rfl, broken⟩ := ih later
          exact ⟨text :: before, name, after, rfl, broken⟩

theorem brokenLookupFault_eq_unencodable_iff {fullName : List Glyph}
    (isBroken : Glyph.text? fullName = none) :
    brokenLookupFault objects fullName = .storage .unencodable ↔
      Stumbles objects (.broken fullName isBroken) := by
  unfold brokenLookupFault Stumbles Path.wideNames
  dsimp only
  constructor
  · intro ended
    obtain ⟨before, name, after, names, broken⟩ :=
      exists_first_broken (Path.exists_broken_name isBroken)
    rw [names, soundNames_of_first broken] at ended
    refine ⟨before, name, after, names, broken, ?_⟩
    split at ended
    case isTrue reached => exact reached
    case isFalse => cases ended
  · rintro ⟨before, name, after, names, broken, reached⟩
    rw [names, soundNames_of_first broken, if_pos reached]

theorem brokenLookupFault_eq (objects : Objects) (fullName : List Glyph) :
    brokenLookupFault objects fullName = .storage .unencodable ∨
      brokenLookupFault objects fullName = .workspace (.noBrokenItem fullName) := by
  unfold brokenLookupFault
  dsimp only
  split
  · exact .inl rfl
  · exact .inr rfl

/-- A sound full name has no broken name in it. -/
theorem not_stumbles_sound (objects : Objects) (fullName : String) :
    ¬Stumbles objects (.sound fullName) := by
  rintro ⟨before, name, after, names, isBroken, -⟩
  have member : name ∈ (Path.names fullName).map Wide.sound := by
    rw [Path.wideNames] at names
    rw [names]
    exact List.mem_append_right _ List.mem_cons_self
  obtain ⟨text, -, rfl⟩ := List.mem_map.mp member
  cases isBroken

end Broken

/-- Looking a full name up ends in one of two faults, if it fails. -/
theorem Tables.WellFormed.getWideItem_error_cases (wellFormed : tables.WellFormed) {fullName : Wide}
    {fault : OperationFault} (failed : tables.getWideItem fullName none = .error fault) :
    fault = .workspace (missingItem fullName) ∨
      fullName.text? = none ∧ fault = .storage .unencodable := by
  cases fullName with
  | sound fullName =>
      rw [Tables.getWideItem, wellFormed.getItem_eq] at failed
      cases found : tables.follow? none (Path.names fullName) with
      | some row => simp [found] at failed
      | none =>
          rw [found] at failed
          exact .inl (Except.error.inj failed).symm
  | broken fullName isBroken =>
      have told := Except.error.inj failed
      unfold Tables.brokenNameFault at told
      split at told
      case h_1 => exact .inr ⟨rfl, told.symm⟩
      case h_2 =>
        rw [wellFormed.findPath_eq, ok_bind] at told
        cases found : tables.follow? none (Tables.soundNames (Path.brokenNames fullName)) with
        | some row =>
            rw [found] at told
            exact .inr ⟨rfl, told.symm⟩
        | none =>
            rw [found] at told
            exact .inl told.symm

namespace Portrays

variable (portrays : Portrays objects tables) (wellFormed : tables.WellFormed)

include portrays wellFormed

theorem brokenNameFault_eq (fullName : List Glyph) :
    tables.brokenNameFault none fullName = brokenLookupFault objects fullName := by
  have followed (names : List String) : objects.follow? (.space snapshotSpace) names =
      (tables.follow? none names).map fun row => objectOf tables.items row.id :=
    portrays.follow?_eq wellFormed names (houses_none tables.items)
  unfold Tables.brokenNameFault brokenLookupFault
  dsimp only
  rw [followed]
  cases Tables.soundNames (Path.brokenNames fullName) with
  | nil => rfl
  | cons name rest =>
      dsimp only
      rw [wellFormed.findPath_eq, ok_bind]
      cases tables.follow? none (name :: rest) <;> rfl

/-- What a lookup of a broken full name ends in. -/
theorem getWideItem_broken {fullName : List Glyph} (isBroken : Glyph.text? fullName = none) :
    tables.getWideItem (.broken fullName isBroken) none =
      .error (brokenLookupFault objects fullName) := by
  rw [Tables.getWideItem, portrays.brokenNameFault_eq wellFormed]

end Portrays

/-- Whether the database and its snapshot agree on every full name and on the name of every view: what
one finds the other finds, under the same identifier, and what one lacks the other lacks. Only a lookup
that comes to a broken name fails in the database for that. -/
structure LookupsAgree (database : Database) (objects : Objects) : Prop where
  item : ∀ fullName key, (∃ row, database.getWideItem fullName = .ok row ∧ row.id = key) ↔
    ∃ id item, objects.byWideName? snapshotSpace fullName = some id ∧ objects.item? id = some item ∧
      item.id = some key
  noItem : ∀ fullName, database.getWideItem fullName = .error (.workspace (missingItem fullName)) ↔
    objects.byWideName? snapshotSpace fullName = none ∧ ¬Stumbles objects fullName
  stumbles : ∀ fullName, database.getWideItem fullName = .error (.storage .unencodable) ↔
    Stumbles objects fullName
  view : ∀ name key, (∃ row, database.getWideView name = .ok row ∧ row.id = key) ↔
    ∃ id view, objects.viewWideNamed? snapshotSpace name = some id ∧ objects.view? id = some view ∧
      view.id = some key
  noView : ∀ name, database.getWideView (.sound name) = .error (.workspace (.noView name)) ↔
    objects.viewWideNamed? snapshotSpace (.sound name) = none
  brokenView : ∀ name, name.text? = none →
    database.getWideView name = .error (.storage .unencodable) ∧
      objects.viewWideNamed? snapshotSpace name = none

section Agree

variable (portrays : Portrays objects tables) (wellFormed : tables.WellFormed)

include portrays wellFormed

theorem Portrays.item_agrees (fullName : String) (key : Int) :
    (∃ row, tables.getItem fullName none = .ok row ∧ row.id = key) ↔
      ∃ id item, objects.byFullName? snapshotSpace fullName = some id ∧ objects.item? id = some item ∧
        item.id = some key := by
  rw [wellFormed.getItem_eq, portrays.byFullName?_eq wellFormed]
  cases found : tables.follow? none (Path.names fullName) with
  | none => simp [refuse]
  | some row =>
      obtain ⟨name, -, object⟩ := portrays.item? row (Tables.mem_of_follow? found)
      simp [object, itemFor]

theorem Portrays.noItem_agrees (fullName : String) :
    tables.getItem fullName none = .error (.workspace (.noItem fullName)) ↔
      objects.byFullName? snapshotSpace fullName = none := by
  rw [wellFormed.getItem_eq, portrays.byFullName?_eq wellFormed]
  cases tables.follow? none (Path.names fullName) <;> simp [refuse]

theorem Portrays.view_agrees (name : String) (key : Int) :
    (∃ row, tables.getView name = .ok row ∧ row.id = key) ↔
      ∃ id view, objects.viewNamed? snapshotSpace name = some id ∧ objects.view? id = some view ∧
        view.id = some key := by
  rw [wellFormed.getView_eq, portrays.viewNamed?_eq]
  cases found : tables.viewNamed? name with
  | none => simp [refuse]
  | some row =>
      obtain ⟨_, -, object⟩ := portrays.view? row (List.mem_of_find?_eq_some found)
      simp [object, viewFor]

theorem Portrays.lookupsAgree : LookupsAgree ⟨some tables⟩ objects := by
  have looked (fullName : Wide) : (⟨some tables⟩ : Database).getWideItem fullName =
      tables.getWideItem fullName none := rfl
  have viewed (name : Wide) : (⟨some tables⟩ : Database).getWideView name = tables.getWideView name := rfl
  constructor
  case item =>
    intro fullName key
    rw [looked]
    cases fullName with
    | sound fullName => exact portrays.item_agrees wellFormed fullName key
    | broken fullName isBroken =>
        rw [portrays.getWideItem_broken wellFormed, objects.byWideName?_broken]
        simp
  case noItem =>
    intro fullName
    rw [looked]
    cases fullName with
    | sound fullName =>
        rw [and_iff_left (not_stumbles_sound objects fullName)]
        exact portrays.noItem_agrees wellFormed fullName
    | broken fullName isBroken =>
        rw [portrays.getWideItem_broken wellFormed, objects.byWideName?_broken,
          ← brokenLookupFault_eq_unencodable_iff, missingItem]
        rcases brokenLookupFault_eq objects fullName with ended | ended <;> simp [ended]
  case stumbles =>
    intro fullName
    rw [looked]
    cases fullName with
    | sound fullName =>
        rw [iff_false_right (not_stumbles_sound objects fullName), Tables.getWideItem,
          wellFormed.getItem_eq]
        cases tables.follow? none (Path.names fullName) <;> simp [refuse]
    | broken fullName isBroken =>
        rw [portrays.getWideItem_broken wellFormed, ← brokenLookupFault_eq_unencodable_iff]
        simp
  case view =>
    intro name key
    cases name with
    | sound name =>
        rw [objects.viewWideNamed?_sound]
        exact portrays.view_agrees wellFormed name key
    | broken name isBroken =>
        rw [objects.viewWideNamed?_broken]
        simp [viewed, Tables.getWideView, encode, bind, Except.bind]
  case noView =>
    intro name
    rw [objects.viewWideNamed?_sound, portrays.viewNamed?_eq]
    change tables.getView name = _ ↔ _
    rw [wellFormed.getView_eq]
    cases tables.viewNamed? name <;> simp [refuse]
  case brokenView =>
    rintro (name | ⟨name, isBroken⟩) broken
    · cases broken
    · exact ⟨rfl, objects.viewWideNamed?_broken _ isBroken⟩

end Agree

/-- After any run of operations the database and its snapshot agree on every lookup. -/
theorem lookups_agree_run (run : List Operation) :
    ∃ objects, (databaseAfter run).load.result = .ok objects ∧
      LookupsAgree (databaseAfter run) objects := by
  obtain ⟨tables, same, wellFormed⟩ := exists_wellFormed run
  obtain ⟨objects, loaded, portrays⟩ := wellFormed.load_portrays
  rw [same]
  refine ⟨objects, ?_, portrays.lookupsAgree wellFormed⟩
  rw [loaded]

/-- The snapshot of an empty database finds nothing under half of a surrogate pair, but the database does
not say that there is nothing. -/
theorem halfName_not_looked_up :
    let half := Wide.ofGlyphs [.half 0xd800]
    (databaseAfter []).load.result.toOption.map (fun objects => objects.byWideName? snapshotSpace half) =
        some none ∧
      (databaseAfter []).getWideItem half = .error (.storage .unencodable) := by
  exact ⟨by decide +kernel, rfl⟩

end Wayfinder.Storage
