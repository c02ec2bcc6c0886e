import Wayfinder.Proofs.Storage.BrokenTexts

/-!
# Creating an item of any texts in the database and in memory

A workspace in memory checks the name of a new item, looks for its folder, and asks whether the folder
holds an item of the name. The database makes the same checks in the same order and carries out what passes
them, unless it is asked to look for a broken text on the way or to store one at the end.
-/

namespace Wayfinder.Storage

open Workspace
open Text (Glyph Wide)

/-- The group in which a workspace in memory makes a new item, or the first of its checks that fails. -/
def checkedGroup (objects : Objects) (name : Wide) (parent : Option Wide) : Except Fault GroupId := do
  checkWideName name
  let group ← objects.folderWideNamed snapshotSpace parent
  match name, objects.childWide? group name with
  | .sound name, some _ => .error (.duplicateItem name)
  | _, _ => .ok group

/-- Whether a creation comes to a broken text: on the way to the folder, once the name has passed, or in the
name or the display name of an item that passes all checks. -/
inductive ComesToBroken (objects : Objects) (name : Wide) (displayName parent : Option Wide) : Prop where
  | folder {path : Wide} (named : checkWideName name = .ok ()) (given : parent = some path)
      (stumbles : Stumbles objects path)
  | name {group : GroupId} (passed : checkedGroup objects name parent = .ok group)
      (isBroken : name.text? = none)
  | displayName {group : GroupId} {shown : Wide} (passed : checkedGroup objects name parent = .ok group)
      (given : displayName = some shown) (isBroken : shown.text? = none)

/-- Whether the creation of an item, in a session of its own, ends like its creation in the snapshot. -/
structure CreatesAlike (database : Database) (objects : Objects) (name : Wide) (kind : ItemKind)
    (displayName parent : Option Wide) : Prop where
  /-- What a check refuses is refused for the same reason, and the rows stay as they are. -/
  refused : ∀ fault, checkedGroup objects name parent = .error fault →
    ¬ComesToBroken objects name displayName parent →
    (Session.createItem none false name kind displayName parent).conclude database =
      (refuse fault, database)
  /-- What passes the checks is made, and a snapshot shows what making it in the old one comes to. -/
  created : ∀ group, checkedGroup objects name parent = .ok group →
    ¬ComesToBroken objects name displayName parent →
    ∃ (text : String) (shown : Option String) (row : ItemRow) (after : Database) (changed : Objects)
      (id : ItemId), name = .sound text ∧ displayName = shown.map .sound ∧
      (Session.createItem none false name kind displayName parent).conclude database = (.ok row, after) ∧
      after.load.result = .ok changed ∧ MakesAlike objects changed text kind shown group id row.id
  /-- A broken text that is looked for or stored fails the creation, and the rows stay as they are. -/
  failed : ComesToBroken objects name displayName parent →
    (Session.createItem none false name kind displayName parent).conclude database =
      (.error (.storage .unencodable), database)

section Checks

variable {objects : Objects} {name : Wide} {displayName parent : Option Wide}

theorem folderWideNamed_broken (objects : Objects) (space : SpaceId) {fullName : List Glyph}
    (isBroken : Glyph.text? fullName = none) :
    objects.folderWideNamed space (some (.broken fullName isBroken)) =
      .error (.noBrokenItem fullName) := by
  rw [Objects.folderWideNamed, objects.byWideName?_broken]

theorem folderWideNamed_map_sound (objects : Objects) (space : SpaceId) (fullName : Option String) :
    objects.folderWideNamed space (fullName.map .sound) = objects.folderNamed space fullName := by
  cases fullName <;> rfl

/-- A folder that a lookup comes to without a broken name is looked for as in memory. -/
theorem wideFolder_of_not_stumbles (reached : ∀ path, parent = some path → ¬Stumbles objects path) :
    wideFolder objects parent =
      (objects.folderWideNamed snapshotSpace parent).mapError .workspace := by
  rcases parent with _ | path | ⟨path, isBroken⟩
  · rfl
  · rfl
  · have told : brokenLookupFault objects path = .workspace (.noBrokenItem path) :=
      (brokenLookupFault_eq objects path).resolve_left fun failed =>
        reached _ rfl ((brokenLookupFault_eq_unencodable_iff isBroken).mp failed)
    rw [wideFolder, told, folderWideNamed_broken]
    rfl

/-- A folder that is found in memory has a sound full name, so it can be asked for. -/
theorem wideFolder_of_ok {group : GroupId}
    (found : objects.folderWideNamed snapshotSpace parent = .ok group) :
    wideFolder objects parent = .ok group := by
  rw [wideFolder_of_not_stumbles, found]
  · rfl
  · rintro (path | ⟨path, isBroken⟩) rfl
    · exact not_stumbles_sound objects path
    · rw [folderWideNamed_broken] at found
      cases found

theorem checkedGroup_eq_ok_iff {group : GroupId} : checkedGroup objects name parent = .ok group ↔
    checkWideName name = .ok () ∧ objects.folderWideNamed snapshotSpace parent = .ok group ∧
      ∀ text, name = .sound text → objects.child? group text = none := by
  unfold checkedGroup
  cases checkWideName name with
  | error fault => simp [bind, Except.bind]
  | ok checked =>
      cases objects.folderWideNamed snapshotSpace parent with
      | error fault => simp [bind, Except.bind]
      | ok folder =>
          cases name with
          | broken glyphs isBroken => simp [bind, Except.bind]
          | sound text =>
              rw [ok_bind, ok_bind, objects.childWide?_sound]
              cases taken : objects.child? folder text with
              | none => simpa using fun same => same ▸ taken
              | some id => simpa using fun same => by simp [← same, taken]

/-- Why a creation fails, if it does, told by the snapshot. -/
def createFault? (objects : Objects) (name : Wide) (displayName parent : Option Wide) :
    Option OperationFault :=
  match checkWideName name with
  | .error fault => some (.workspace fault)
  | .ok _ => itemFault? objects name displayName parent

theorem createFault?_of_broken (comes : ComesToBroken objects name displayName parent) :
    createFault? objects name displayName parent = some (.storage .unencodable) := by
  cases comes with
  | folder named given stumbles =>
      rw [createFault?, named, given]
      simp only [itemFault?, wideFolder_of_stumbles stumbles]
  | name passed isBroken =>
      obtain ⟨named, found, -⟩ := checkedGroup_eq_ok_iff.mp passed
      cases name with
      | sound text => cases isBroken
      | broken glyphs isBroken =>
          rw [createFault?, named]
          simp only [itemFault?, wideFolder_of_ok found]
  | @displayName _ shown passed given isBroken =>
      obtain ⟨named, found, free⟩ := checkedGroup_eq_ok_iff.mp passed
      rw [createFault?, named, given]
      cases name with
      | broken glyphs isBroken => simp only [itemFault?, wideFolder_of_ok found]
      | sound text =>
          cases shown with
          | sound shown => cases isBroken
          | broken glyphs isBroken =>
              simp [itemFault?, wideFolder_of_ok found, free text rfl]

/-- Where no broken text comes up, the first check that fails is what the database tells. -/
theorem createFault?_of_error {fault : Fault} (refused : checkedGroup objects name parent = .error fault)
    (apart : ¬ComesToBroken objects name displayName parent) :
    createFault? objects name displayName parent = some (.workspace fault) := by
  unfold checkedGroup at refused
  unfold createFault?
  cases named : checkWideName name with
  | error told =>
      rw [named] at refused
      cases refused
      rfl
  | ok checked =>
      have reached : ∀ path, parent = some path → ¬Stumbles objects path :=
        fun path given stumbles => apart (.folder named given stumbles)
      have asked := wideFolder_of_not_stumbles reached
      rw [named, ok_bind] at refused
      dsimp only [itemFault?]
      rw [asked]
      cases found : objects.folderWideNamed snapshotSpace parent with
      | error told =>
          rw [found] at refused
          cases refused
          rfl
      | ok group =>
          rw [found, ok_bind] at refused
          cases name with
          | broken glyphs isBroken => cases refused
          | sound text =>
              rw [objects.childWide?_sound] at refused
              dsimp only [Except.mapError] at refused ⊢
              cases taken : objects.child? group text with
              | none =>
                  rw [taken] at refused
                  cases refused
              | some id =>
                  rw [taken] at refused
                  cases refused
                  rfl

theorem createFault?_of_ok {group : GroupId} (passed : checkedGroup objects name parent = .ok group)
    (apart : ¬ComesToBroken objects name displayName parent) :
    createFault? objects name displayName parent = none := by
  obtain ⟨named, found, free⟩ := checkedGroup_eq_ok_iff.mp passed
  rw [createFault?, named]
  cases name with
  | broken glyphs isBroken => exact absurd (.name passed rfl) apart
  | sound text =>
      rcases displayName with _ | _ | ⟨glyphs, isBroken⟩
      · simp [itemFault?, wideFolder_of_ok found, free text rfl]
      · simp [itemFault?, wideFolder_of_ok found, free text rfl]
      · exact absurd (.displayName passed rfl rfl) apart

end Checks

section Alike

variable {tables : Tables} {objects : Objects} (portrays : Portrays objects tables)
  (wellFormed : tables.WellFormed)

include portrays wellFormed

/-- The database refuses a creation for the reason that the snapshot tells. -/
theorem Portrays.faultOf_createWideItem (name : Wide) (kind : ItemKind) (displayName parent : Option Wide) :
    faultOf ((⟨some tables⟩ : Database).createWideItem none false name kind displayName parent) =
      createFault? objects name displayName parent := by
  have required : requireWideName name = (checkWideName name).mapError .workspace := by
    rw [requireWideName]
    cases checkWideName name <;> rfl
  by_cases read : ∃ (text : String) (shown path : Option String), name = .sound text ∧
      displayName = shown.map .sound ∧ parent = path.map .sound
  case pos =>
    obtain ⟨text, shown, path, rfl, rfl, rfl⟩ := read
    rw [Database.createWideItem_sound, createFault?, checkWideName]
    change faultOf ((⟨some tables⟩ : Database).createItem text kind shown path false) = _
    cases accepted : checkName text with
    | error fault =>
        rw [createItem_of_fault kind shown accepted]
        rfl
    | ok checked =>
        rw [portrays.faultOf_createItem wellFormed (of?_of_checkName accepted)]
        rfl
  case neg =>
    rw [Database.createWideItem_of_broken read, createFault?]
    cases named : checkWideName name with
    | error fault =>
        rw [named] at required
        rw [Database.brokenItemFault, required]
        rfl
    | ok checked =>
        rw [named] at required
        rw [portrays.brokenItemFault_eq wellFormed required displayName]
        dsimp only
        cases told : itemFault? objects name displayName parent with
        | some fault => rfl
        | none => exact absurd (sound_of_no_itemFault told) read

theorem Portrays.createsAlike (name : Wide) (kind : ItemKind) (displayName parent : Option Wide) :
    CreatesAlike ⟨some tables⟩ objects name kind displayName parent := by
  have told := portrays.faultOf_createWideItem wellFormed name kind displayName parent
  have refused {fault : OperationFault} (same : createFault? objects name displayName parent = some fault) :
      (Session.createItem none false name kind displayName parent).conclude ⟨some tables⟩ =
        (.error fault, ⟨some tables⟩) := by
    rw [conclude_createItem, eq_error_of_faultOf (told.trans same)]
    rfl
  constructor
  case refused =>
    intro fault failed apart
    exact refused (createFault?_of_error failed apart)
  case created =>
    intro group passed apart
    obtain ⟨commit, created⟩ := exists_ok_of_faultOf (told.trans (createFault?_of_ok passed apart))
    obtain ⟨text, shown, path, rfl, rfl, rfl, made⟩ := Database.createWideItem_eq_ok created
    obtain ⟨changed, folder, id, loaded, asked, alike⟩ := portrays.makesAlike wellFormed made
    have same : folder = group := by
      have found := (checkedGroup_eq_ok_iff.mp passed).2.1
      rw [folderWideNamed_map_sound, asked] at found
      exact Except.ok.inj found
    refine ⟨text, shown, commit.value, commit.database, changed, id, rfl, rfl, ?_, loaded, same ▸ alike⟩
    rw [conclude_createItem, created]
    rfl
  case failed =>
    intro comes
    exact refused (createFault?_of_broken comes)

end Alike

/-- After any run of operations, creating an item in the database comes to creating it in the snapshot. -/
theorem createItem_simulates_run (run : List Operation) :
    ∃ objects, (databaseAfter run).load.result = .ok objects ∧
      ∀ name kind displayName parent,
        CreatesAlike (databaseAfter run) objects name kind displayName parent := by
  obtain ⟨tables, same, wellFormed⟩ := exists_wellFormed run
  obtain ⟨objects, loaded, portrays⟩ := wellFormed.load_portrays
  rw [same]
  refine ⟨objects, ?_, portrays.createsAlike wellFormed⟩
  rw [loaded]

/-- Where there are no items, half of a surrogate pair names no folder, but the database does not refuse the
item for that. -/
theorem halfParent_not_created :
    let half := Wide.ofGlyphs [.half 0xd800]
    (databaseAfter []).load.result.toOption.map
        (fun objects => checkedGroup objects (.sound "a") (some half)) =
        some (.error (.noBrokenItem [.half 0xd800])) ∧
      ((Session.createItem none false (.sound "a") .job none (some half)).conclude
        (databaseAfter [])).1 = .error (.storage .unencodable) := by
  exact ⟨by decide +kernel, rfl⟩

end Wayfinder.Storage
