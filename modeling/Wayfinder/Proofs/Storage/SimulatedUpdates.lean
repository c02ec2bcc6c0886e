import Wayfinder.Proofs.Storage.Updates

/-!
# Updating an item in the database and in memory

A snapshot taken after an update is the one from before, with the setters called on one item. An update
that is given a broken text fails where the text is looked up or stored, and like any that is refused it
leaves the rows alone.
-/

namespace Wayfinder.Storage

open Workspace
open Text (Glyph Wide)

/-- How an update ends, in a session of its own. -/
def updateAnswer (database : Database) (fullName : Wide) (changes : WideChanges) :
    Except OperationFault ItemRow :=
  ((Session.updateItem fullName changes).conclude database).1

/-- The database after an update, carried out or refused. -/
def afterUpdate (database : Database) (fullName : Wide) (changes : WideChanges) : Database :=
  ((Session.updateItem fullName changes).conclude database).2

/-- Objects of which one item may show another display name or be disabled or enabled, and nothing else is
different. -/
structure SetsOnly (objects changed : Objects) (id : ItemId) : Prop where
  others : ∀ other ≠ id, changed.item? other = objects.item? other
  itself : ∀ item, objects.item? id = some item → ∃ after, changed.item? id = some after ∧
    after.name = item.name ∧ after.id = item.id ∧ after.parent = item.parent ∧
    after.isFolder = item.isFolder ∧ after.items = item.items
  views : changed.views = objects.views
  spaces : changed.spaces = objects.spaces

theorem setsOnly_set (objects : Objects) (key : ItemId) (changes : ItemChanges) :
    SetsOnly objects (objects.modifyItem key changes.set) key := by
  constructor
  case others =>
    intro other differ
    rw [Objects.item?_modifyItem, if_neg differ]
  case itself =>
    intro item found
    refine ⟨changes.set item, by rw [Objects.item?_modifyItem, if_pos rfl, found]; rfl, ?_⟩
    obtain ⟨displayName, disabled, others⟩ := changes
    obtain ⟨name, shown, id, parent, body⟩ := item
    simp only [ItemChanges.set]
    generalize disabled.bind _ = asked
    cases asked <;> cases displayName <;> cases body <;> exact ⟨rfl, rfl, rfl, rfl, rfl⟩
  case views => rfl
  case spaces => rfl

/-- Whether an update of the database ends like calling the setters of one item of its snapshot. The
update has a session of its own: in a shared one, what a refused update has already changed would stay
pending and be committed with what comes next. -/
structure UpdateEnds (database : Database) (objects : Objects) (fullName : Wide)
    (changes : WideChanges) : Prop where
  missing_iff : updateAnswer database fullName changes = refuse (missingItem fullName) ↔
    objects.byWideName? snapshotSpace fullName = none ∧ ¬Stumbles objects fullName
  unsuited_iff : ∀ path, updateAnswer database fullName changes = refuse (.folderNotDisabled path) ↔
    fullName = .sound path ∧ ∃ key item flag, objects.byWideName? snapshotSpace fullName = some key ∧
      objects.item? key = some item ∧ item.isFolder = true ∧ changes.disabled = some (some flag)
  /-- A broken text fails the update when it is looked up, or when the item could have taken it. -/
  unencodable_iff : updateAnswer database fullName changes = .error (.storage .unencodable) ↔
    Stumbles objects fullName ∨ changes.ShowsBroken ∧
      ∃ key item, objects.byWideName? snapshotSpace fullName = some key ∧ objects.item? key = some item ∧
        (item.isFolder = true → changes.disabled.bind id = none)
  /-- There is no other refusal, and none changes the rows. -/
  refused : ∀ fault, updateAnswer database fullName changes = .error fault →
    (fault = .workspace (missingItem fullName) ∨
      (∃ path, fullName = .sound path ∧ fault = .workspace (.folderNotDisabled path)) ∨
      fault = .storage .unencodable) ∧
    afterUpdate database fullName changes = database
  /-- Otherwise the row of the item is replaced, and a snapshot shows that its setters were called. -/
  carried : ∀ row, updateAnswer database fullName changes = .ok row →
    ∃ path asked tables old key item, fullName = .sound path ∧ changes = ItemChanges.wide asked ∧
      database = ⟨some tables⟩ ∧ tables.getItem path none = .ok old ∧ row = asked.apply old ∧
      afterUpdate database fullName changes = ⟨some (tables.replaceItem row)⟩ ∧
      objects.byFullName? snapshotSpace path = some key ∧ objects.item? key = some item ∧
      item.id = some row.id ∧
      (afterUpdate database fullName changes).load.result =
        .ok (objects.modifyItem key asked.set) ∧
      SetsOnly objects (objects.modifyItem key asked.set) key

/-- Whether an update of the database comes to calling the setters of one item of its snapshot. Making it
again changes nothing more, and two updates that do not change the same column of the same item can be
made in either order. -/
structure UpdatesAlike (database : Database) (objects : Objects) (fullName : Wide)
    (changes : WideChanges) : Prop extends UpdateEnds database objects fullName changes where
  again : afterUpdate (afterUpdate database fullName changes) fullName changes =
    afterUpdate database fullName changes
  eitherOrder : ∀ other others,
    (∀ key, objects.byWideName? snapshotSpace fullName = some key →
      objects.byWideName? snapshotSpace other = some key → changes.Apart others) →
    afterUpdate (afterUpdate database fullName changes) other others =
      afterUpdate (afterUpdate database other others) fullName changes

namespace Tables

variable {tables : Tables}

/-- The tables after an update of any texts. -/
def wideUpdated (tables : Tables) (fullName : Wide) (changes : WideChanges) : Tables :=
  match fullName, changes.sound? with
  | .sound fullName, some changes => tables.updated fullName changes
  | _, _ => tables

/-- After an update the rows still fit together. -/
theorem WellFormed.updated (wellFormed : tables.WellFormed) (fullName : String)
    (changes : ItemChanges) : (tables.updated fullName changes).WellFormed := by
  rw [Tables.updated]
  cases found : tables.follow? none (Path.names fullName) with
  | none => exact wellFormed
  | some row =>
      by_cases suits : changes.Suits row.kind
      · have stored := mem_of_follow? found
        rw [changeIfSuited_of_suits _ suits, ← replaceItem_apply wellFormed stored]
        exact wellFormed.updateItem stored suits
      · rw [changeIfSuited_of_unsuited _ suits]
        exact wellFormed

theorem WellFormed.wideUpdated (wellFormed : tables.WellFormed) (fullName : Wide)
    (changes : WideChanges) : (tables.wideUpdated fullName changes).WellFormed := by
  unfold Tables.wideUpdated
  split
  · exact wellFormed.updated _ _
  · exact wellFormed

/-- An update of any texts is one of sound texts, or changes nothing wherever it is made. -/
theorem wideUpdated_cases (fullName : Wide) (changes : WideChanges) :
    (∃ path asked, fullName = .sound path ∧ changes = ItemChanges.wide asked ∧
      ∀ tables : Tables, tables.wideUpdated fullName changes = tables.updated path asked) ∨
    ∀ tables : Tables, tables.wideUpdated fullName changes = tables := by
  cases fullName with
  | broken glyphs isBroken => exact .inr fun _ => rfl
  | sound path =>
      cases read : changes.sound? with
      | none =>
          refine .inr fun tables => ?_
          simp only [wideUpdated, read]
      | some asked =>
          refine .inl ⟨path, asked, rfl, WideChanges.sound?_eq_some_iff.mp read, fun tables => ?_⟩
          simp only [wideUpdated, read]

theorem wideUpdated_idem (tables : Tables) (fullName : Wide) (changes : WideChanges) :
    (tables.wideUpdated fullName changes).wideUpdated fullName changes =
      tables.wideUpdated fullName changes := by
  rcases wideUpdated_cases fullName changes with ⟨path, asked, -, -, same⟩ | same
  · rw [same, same, updated_idem]
  · rw [same]

theorem wideUpdated_comm (tables : Tables) {first second : Wide} {left right : WideChanges}
    (apart : ∀ path location row other, first = .sound path → second = .sound location →
      tables.follow? none (Path.names path) = some row →
      tables.follow? none (Path.names location) = some other → row.id = other.id → left.Apart right) :
    (tables.wideUpdated first left).wideUpdated second right =
      (tables.wideUpdated second right).wideUpdated first left := by
  rcases wideUpdated_cases first left with ⟨path, asked, rfl, rfl, same⟩ | same
  · rcases wideUpdated_cases second right with ⟨location, others, rfl, rfl, same'⟩ | same'
    · rw [same, same', same', same]
      apply updated_comm
      intro row other found found' equal
      exact WideChanges.apart_wide (apart path location row other rfl rfl found found' equal)
    · rw [same', same']
  · rw [same, same]

end Tables

section Ends

variable {tables : Tables} (wellFormed : tables.WellFormed) {path : String} {changes : WideChanges}

omit wellFormed in
/-- An update with a broken display name is refused as one without would be, or for that name. -/
theorem conclude_updateItem_of_broken (broken : changes.sound? = none) :
    (Session.updateItem (.sound path) changes).conclude ⟨some tables⟩ =
      (match (ending ⟨some tables⟩
          ((⟨some tables⟩ : Database).updateItem path ⟨none, changes.disabled, []⟩)).1 with
        | .error fault => .error fault
        | .ok _ => .error (.storage .unencodable), ⟨some tables⟩) := by
  rw [conclude_updateItem, Database.updateWideItem_of_broken broken, Database.brokenUpdateFault]
  cases (⟨some tables⟩ : Database).updateItem path ⟨none, changes.disabled, []⟩ <;> rfl

include wellFormed

theorem conclude_updateItem_of_missing (found : tables.follow? none (Path.names path) = none) :
    (Session.updateItem (.sound path) changes).conclude ⟨some tables⟩ =
      (refuse (.noItem path), ⟨some tables⟩) := by
  cases read : changes.sound? with
  | some asked =>
      cases WideChanges.sound?_eq_some_iff.mp read
      rw [conclude_updateItem, Database.updateWideItem_sound, ending_updateItem wellFormed,
        Tables.updated, found]
      rfl
  | none =>
      rw [conclude_updateItem_of_broken read, ending_updateItem wellFormed, found]
      rfl

variable {row : ItemRow} (found : tables.follow? none (Path.names path) = some row)

include found

theorem conclude_updateItem_of_unsuited (unsuited : ¬changes.Suits row.kind) :
    (Session.updateItem (.sound path) changes).conclude ⟨some tables⟩ =
      (refuse (.folderNotDisabled path), ⟨some tables⟩) := by
  cases read : changes.sound? with
  | some asked =>
      cases WideChanges.sound?_eq_some_iff.mp read
      have unsuited : ¬asked.Suits row.kind := unsuited
      rw [conclude_updateItem, Database.updateWideItem_sound, ending_updateItem wellFormed,
        Tables.updated, found, Tables.changeIfSuited_of_unsuited _ unsuited]
      simp only [if_neg unsuited]
  | none =>
      have unsuited : ¬(ItemChanges.mk none changes.disabled []).Suits row.kind := unsuited
      rw [conclude_updateItem_of_broken read, ending_updateItem wellFormed, found]
      simp only [if_neg unsuited]
      rfl

theorem conclude_updateItem_of_suits {asked : ItemChanges} (suits : asked.Suits row.kind) :
    (Session.updateItem (.sound path) asked.wide).conclude ⟨some tables⟩ =
      (.ok (asked.apply row), ⟨some (tables.changeItem row.id asked)⟩) := by
  rw [conclude_updateItem, Database.updateWideItem_sound, ending_updateItem wellFormed,
    Tables.updated, found, Tables.changeIfSuited_of_suits _ suits]
  simp only [if_pos suits]

theorem conclude_updateItem_of_unencodable (suits : changes.Suits row.kind)
    (broken : changes.sound? = none) :
    (Session.updateItem (.sound path) changes).conclude ⟨some tables⟩ =
      (.error (.storage .unencodable), ⟨some tables⟩) := by
  have suits : (ItemChanges.mk none changes.disabled []).Suits row.kind := suits
  rw [conclude_updateItem_of_broken broken, ending_updateItem wellFormed, found]
  simp only [if_pos suits]

end Ends

section Alike

variable {tables : Tables} {objects : Objects}

theorem conclude_updateItem_of_brokenName (portrays : Portrays objects tables)
    (wellFormed : tables.WellFormed) {fullName : List Glyph} (isBroken : Glyph.text? fullName = none)
    (changes : WideChanges) :
    (Session.updateItem (.broken fullName isBroken) changes).conclude ⟨some tables⟩ =
      (.error (brokenLookupFault objects fullName), ⟨some tables⟩) := by
  have looked : (⟨some tables⟩ : Database).getWideItem (.broken fullName isBroken) =
      .error (brokenLookupFault objects fullName) := portrays.getWideItem_broken wellFormed isBroken
  rw [conclude_updateItem]
  simp only [Database.updateWideItem, looked, faultBefore, ending]

theorem afterUpdate_eq (wellFormed : tables.WellFormed) (fullName : Wide) (changes : WideChanges) :
    afterUpdate ⟨some tables⟩ fullName changes = ⟨some (tables.wideUpdated fullName changes)⟩ := by
  rw [afterUpdate]
  cases fullName with
  | broken glyphs isBroken =>
      rw [conclude_updateItem]
      rfl
  | sound path =>
      cases read : changes.sound? with
      | some asked =>
          cases WideChanges.sound?_eq_some_iff.mp read
          rw [conclude_updateItem, Database.updateWideItem_sound, ending_updateItem wellFormed]
          simp only [Tables.wideUpdated, read]
      | none =>
          rw [conclude_updateItem_of_broken read]
          simp only [Tables.wideUpdated, read]

theorem afterUpdate_afterUpdate (wellFormed : tables.WellFormed) (first second : Wide)
    (left right : WideChanges) : afterUpdate (afterUpdate ⟨some tables⟩ first left) second right =
      ⟨some ((tables.wideUpdated first left).wideUpdated second right)⟩ := by
  rw [afterUpdate_eq wellFormed, afterUpdate_eq (wellFormed.wideUpdated first left)]

/-- What an item cannot take: to be disabled or enabled, if it is a folder. -/
theorem WideChanges.not_suits_iff {changes : WideChanges} {row : ItemRow} (rows : List ItemRow)
    (name : Name) : ¬changes.Suits row.kind ↔
      (itemFor rows row name).isFolder = true ∧ ∃ flag, changes.disabled = some (some flag) := by
  have asked : (changes.disabled.bind id).isSome = true ↔
      ∃ flag, changes.disabled = some (some flag) := by
    simp [Option.isSome_iff_exists, Option.bind_eq_some_iff]
  rw [WideChanges.Suits, asked, Classical.not_imp, and_comm]
  cases kind : row.kind <;> simp [Item.isFolder, itemFor, bodyOf, kind]

variable (portrays : Portrays objects tables) (wellFormed : tables.WellFormed)

include portrays wellFormed

theorem updateEnds_of_brokenName {fullName : List Glyph} (isBroken : Glyph.text? fullName = none)
    (changes : WideChanges) :
    UpdateEnds ⟨some tables⟩ objects (.broken fullName isBroken) changes := by
  have ended := conclude_updateItem_of_brokenName portrays wellFormed isBroken changes
  have answer : updateAnswer ⟨some tables⟩ (.broken fullName isBroken) changes =
      .error (brokenLookupFault objects fullName) := congrArg Prod.fst ended
  have nowhere := objects.byWideName?_broken snapshotSpace isBroken
  have stumbles : brokenLookupFault objects fullName = .storage .unencodable ↔
      Stumbles objects (.broken fullName isBroken) := brokenLookupFault_eq_unencodable_iff isBroken
  have told := brokenLookupFault_eq objects fullName
  constructor
  case missing_iff =>
    rw [answer, nowhere, ← stumbles]
    rcases told with told | told <;> simp [told, refuse, missingItem]
  case unsuited_iff =>
    intro path
    rw [answer, nowhere]
    rcases told with told | told <;> simp [told, refuse]
  case unencodable_iff =>
    rw [answer, nowhere, ← stumbles]
    simp
  case refused =>
    intro fault refused
    rw [answer] at refused
    cases refused
    refine ⟨?_, congrArg Prod.snd ended⟩
    rcases told with told | told
    · exact .inr (.inr told)
    · exact .inl told
  case carried =>
    intro row carried
    rw [answer] at carried
    cases carried

variable {path : String} {changes : WideChanges}

theorem updateEnds_of_missing (found : tables.follow? none (Path.names path) = none) :
    UpdateEnds ⟨some tables⟩ objects (.sound path) changes := by
  have nowhere : objects.byWideName? snapshotSpace (.sound path) = none := by
    rw [Objects.byWideName?, portrays.byFullName?_eq wellFormed, found, Option.map_none]
  have goesOn := not_stumbles_sound objects path
  have ended : (Session.updateItem (.sound path) changes).conclude ⟨some tables⟩ =
      (refuse (.noItem path), ⟨some tables⟩) := conclude_updateItem_of_missing wellFormed found
  have missing : updateAnswer ⟨some tables⟩ (.sound path) changes = refuse (.noItem path) :=
    congrArg Prod.fst ended
  constructor
  case missing_iff => simp [missing, nowhere, goesOn, missingItem]
  case unsuited_iff => simp [missing, nowhere, refuse]
  case unencodable_iff => simp [missing, nowhere, goesOn, refuse]
  case refused =>
    rintro fault refused
    rw [missing] at refused
    cases refused
    exact ⟨.inl rfl, congrArg Prod.snd ended⟩
  case carried =>
    intro row carried
    rw [missing] at carried
    cases carried

variable {row : ItemRow} (found : tables.follow? none (Path.names path) = some row)

include found

/-- What the snapshot knows of an item that is to be updated. -/
theorem exists_updated : ∃ name, objects.byWideName? snapshotSpace (.sound path) =
      some (objectOf tables.items row.id) ∧
    objects.item? (objectOf tables.items row.id) = some (itemFor tables.items row name) := by
  obtain ⟨name, -, object⟩ := portrays.item? row (Tables.mem_of_follow? found)
  refine ⟨name, ?_, object⟩
  rw [Objects.byWideName?, portrays.byFullName?_eq wellFormed, found, Option.map_some]

theorem updateEnds_of_unsuited (unsuited : ¬changes.Suits row.kind) :
    UpdateEnds ⟨some tables⟩ objects (.sound path) changes := by
  obtain ⟨name, leads, object⟩ := exists_updated portrays wellFormed found
  obtain ⟨isFolder, flag, asked⟩ := (WideChanges.not_suits_iff tables.items name).mp unsuited
  have goesOn := not_stumbles_sound objects path
  have ended := conclude_updateItem_of_unsuited wellFormed found unsuited
  have refusal : updateAnswer ⟨some tables⟩ (.sound path) changes = refuse (.folderNotDisabled path) :=
    congrArg Prod.fst ended
  constructor
  case missing_iff => simp [refusal, leads, refuse, missingItem]
  case unsuited_iff => simp [refusal, leads, object, isFolder, asked, refuse]
  case unencodable_iff => simp [refusal, leads, object, isFolder, asked, goesOn, refuse]
  case refused =>
    intro fault refused
    rw [refusal] at refused
    cases refused
    exact ⟨.inr (.inl ⟨path, rfl, rfl⟩), congrArg Prod.snd ended⟩
  case carried =>
    intro row carried
    rw [refusal] at carried
    cases carried

/-- An item that can take the changes is no folder that was to be disabled or enabled. -/
theorem not_asked_of_suits (suits : changes.Suits row.kind) : ¬∃ key item flag,
    objects.byWideName? snapshotSpace (.sound path) = some key ∧ objects.item? key = some item ∧
      item.isFolder = true ∧ changes.disabled = some (some flag) := by
  obtain ⟨name, leads, object⟩ := exists_updated portrays wellFormed found
  rintro ⟨key, item, flag, leads', object', isFolder, asked⟩
  cases leads.symm.trans leads'
  cases object.symm.trans object'
  exact absurd suits ((WideChanges.not_suits_iff tables.items name).mpr ⟨isFolder, flag, asked⟩)

theorem updateEnds_of_unencodable (suits : changes.Suits row.kind) (broken : changes.sound? = none) :
    UpdateEnds ⟨some tables⟩ objects (.sound path) changes := by
  obtain ⟨name, leads, object⟩ := exists_updated portrays wellFormed found
  have shows := WideChanges.sound?_eq_none_iff.mp broken
  have fits : (itemFor tables.items row name).isFolder = true → changes.disabled.bind id = none := by
    intro isFolder
    by_contra given
    obtain ⟨flag, asked⟩ := Option.ne_none_iff_exists'.mp given
    obtain ⟨value, set, rfl⟩ := Option.bind_eq_some_iff.mp asked
    exact not_asked_of_suits portrays wellFormed found suits
      ⟨_, _, flag, leads, object, isFolder, set⟩
  have ended := conclude_updateItem_of_unencodable wellFormed found suits broken
  have failed : updateAnswer ⟨some tables⟩ (.sound path) changes = .error (.storage .unencodable) :=
    congrArg Prod.fst ended
  constructor
  case missing_iff => simp [failed, leads, refuse]
  case unsuited_iff =>
    intro other
    rw [failed]
    exact iff_of_false (by simp [refuse]) fun folder =>
      not_asked_of_suits portrays wellFormed found suits folder.2
  case unencodable_iff =>
    exact iff_of_true failed (.inr ⟨shows, _, _, leads, object, fits⟩)
  case refused =>
    intro fault refused
    rw [failed] at refused
    cases refused
    exact ⟨.inr (.inr rfl), congrArg Prod.snd ended⟩
  case carried =>
    intro row carried
    rw [failed] at carried
    cases carried

theorem updateEnds_of_suits {asked : ItemChanges} (suits : asked.Suits row.kind) :
    UpdateEnds ⟨some tables⟩ objects (.sound path) asked.wide := by
  have stored := Tables.mem_of_follow? found
  obtain ⟨name, leads, object⟩ := exists_updated portrays wellFormed found
  have ended := conclude_updateItem_of_suits wellFormed found suits
  have answer : updateAnswer ⟨some tables⟩ (.sound path) asked.wide = .ok (asked.apply row) :=
    congrArg Prod.fst ended
  have after : afterUpdate ⟨some tables⟩ (.sound path) asked.wide =
      ⟨some (tables.changeItem row.id asked)⟩ := congrArg Prod.snd ended
  constructor
  case missing_iff => simp [answer, leads, refuse]
  case unsuited_iff =>
    intro other
    have wide : asked.wide.Suits row.kind := suits
    rw [answer]
    exact iff_of_false (by simp [refuse]) fun folder =>
      not_asked_of_suits portrays wellFormed found wide folder.2
  case unencodable_iff =>
    have sound : ¬asked.wide.ShowsBroken := by
      rw [← WideChanges.sound?_eq_none_iff, WideChanges.sound?_wide]
      simp
    simp [answer, not_stumbles_sound, sound]
  case refused =>
    intro fault refused
    rw [answer] at refused
    cases refused
  case carried =>
    intro _ carried
    rw [answer] at carried
    cases carried
    refine ⟨path, asked, tables, row, _, _, rfl, rfl, rfl, wellFormed.getItem_eq_ok_iff.mpr found, rfl, ?_,
      leads, object, rfl, ?_, setsOnly_set _ _ _⟩
    · rw [after, Tables.replaceItem_apply wellFormed stored]
    · have fits : (tables.changeItem row.id asked).WellFormed := by
        rw [← Tables.replaceItem_apply wellFormed stored]
        exact wellFormed.updateItem stored suits
      obtain ⟨loaded, made, portrays'⟩ := fits.load_portrays
      rw [after, made, portrays'.unique (portrays.changeItem wellFormed stored suits)]

omit found

theorem Portrays.updatesAlike (fullName : Wide) (changes : WideChanges) :
    UpdatesAlike ⟨some tables⟩ objects fullName changes := by
  have ends : UpdateEnds ⟨some tables⟩ objects fullName changes := by
    cases fullName with
    | broken glyphs isBroken => exact updateEnds_of_brokenName portrays wellFormed isBroken changes
    | sound path =>
        cases found : tables.follow? none (Path.names path) with
        | none => exact updateEnds_of_missing portrays wellFormed found
        | some row =>
            by_cases suits : changes.Suits row.kind
            case neg => exact updateEnds_of_unsuited portrays wellFormed found suits
            case pos =>
              cases read : changes.sound? with
              | none => exact updateEnds_of_unencodable portrays wellFormed found suits read
              | some asked =>
                  cases WideChanges.sound?_eq_some_iff.mp read
                  exact updateEnds_of_suits portrays wellFormed found suits
  refine { ends with again := ?_, eitherOrder := ?_ }
  · rw [afterUpdate_afterUpdate wellFormed, Tables.wideUpdated_idem, afterUpdate_eq wellFormed]
  · intro other others apart
    rw [afterUpdate_afterUpdate wellFormed, afterUpdate_afterUpdate wellFormed, Tables.wideUpdated_comm]
    rintro path location row row' rfl rfl found found' same
    apply apart (objectOf tables.items row.id)
    · rw [Objects.byWideName?, portrays.byFullName?_eq wellFormed, found, Option.map_some]
    · rw [Objects.byWideName?, portrays.byFullName?_eq wellFormed, found', Option.map_some, same]

end Alike

/-- After any run of operations, updating an item in the database is calling its setters in the snapshot. -/
theorem updateItem_simulates_run (run : List Operation) :
    ∃ objects, (databaseAfter run).load.result = .ok objects ∧
      ∀ fullName changes, UpdatesAlike (databaseAfter run) objects fullName changes := by
  obtain ⟨tables, same, wellFormed⟩ := exists_wellFormed run
  obtain ⟨objects, loaded, portrays⟩ := wellFormed.load_portrays
  rw [same]
  refine ⟨objects, ?_, portrays.updatesAlike wellFormed⟩
  rw [loaded]

/-- A job can show any text but half of a surrogate pair. -/
theorem halfDisplay_not_set :
    let database := databaseAfter [.createItem none false (.sound "a") .job none none]
    let half := Wide.ofGlyphs [.half 0xd800]
    (updateAnswer database (.sound "a") ⟨some (some half), none, []⟩ = .error (.storage .unencodable)) ∧
      (database.load.result.toOption.map fun objects => objects.byWideName? snapshotSpace (.sound "a")) =
        some (some ⟨0⟩) := by
  decide +kernel

end Wayfinder.Storage
