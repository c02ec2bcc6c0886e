import Wayfinder.Proofs.Storage.Creation
import Wayfinder.Proofs.Storage.Sessions

/-!
# Duplicates that only the tables notice

Another client may store a name between the look for it and the creation. The look then finds nothing,
and it is for the constraints of the tables to notice the duplicate: the one on the names of a parent's
items, the one on the names at the top level, and the one on the names of views. What is answered and
what is stored is as if the look had found the name. Only a broken text is noticed first: the tables are
not asked before it is encoded.
-/

namespace Wayfinder.Storage

open Workspace (Objects checkName checkName_eq_ok_iff nonEmpty?)
open Text (Glyph Wide)

theorem requireName_of_sound {name : String} (sound : NameFault.of? name = none) :
    requireName name = .ok () := by
  have accepted : checkName name = .ok ⟨name, sound⟩ := checkName_eq_ok_iff.mpr rfl
  rw [requireName, accepted]

namespace Tables

variable {tables : Tables}

/-- A path without the overlooked name is followed as ever. -/
theorem findPath_overlooking {overlooked : String} {names : List String} (elsewhere : overlooked ∉ names)
    (parent : Option Int) :
    tables.findPath (some overlooked) parent names = tables.findPath none parent names := by
  have seen {name : String} (member : name ∈ names) (parent : Option Int) :
      tables.findChild (some overlooked) parent name = tables.findChild none parent name := by
    have differ : ¬some overlooked = some name := by
      rintro ⟨⟩
      exact elsewhere member
    rw [findChild, findChild, if_neg differ, if_neg (by simp)]
  induction names generalizing parent with
  | nil => rfl
  | cons name rest ih =>
      cases rest with
      | nil => exact seen List.mem_cons_self parent
      | cons next rest =>
          rw [findPath, findPath, seen List.mem_cons_self]
          · apply bind_congr_ok
            intro found _
            cases found with
            | none => rfl
            | some row =>
                apply ih (fun member => elsewhere (List.mem_cons_of_mem name member))
                intro other member
                exact seen (List.mem_cons_of_mem name member)
          · simp
          · simp

theorem parentFolder_overlooking {overlooked : String} {parent : Option String}
    (elsewhere : ∀ path, nonEmpty? parent = some path → overlooked ∉ Path.names path) :
    tables.parentFolder (some overlooked) parent = tables.parentFolder none parent := by
  unfold parentFolder
  cases given : nonEmpty? parent with
  | none => rfl
  | some path => simp only [getItem, findPath_overlooking (elsewhere path given)]

/-- The tables refuse an item of a name that is taken in its folder, or at the top level. -/
theorem WellFormed.insertItem_taken (wellFormed : tables.WellFormed) {parent : Option Int}
    {name : String} {row : ItemRow} (taken : tables.child? parent name = some row) (kind : ItemKind)
    (displayName : Option String) :
    tables.insertItem (tables.newRow parent kind name displayName) = none := by
  obtain ⟨stored, named, held⟩ := child?_eq_some taken
  apply if_pos
  apply List.any_eq_true.mpr
  refine ⟨row, stored, ?_⟩
  simp [itemsClash, newRow, named, held, wellFormed.rootNamesUnique]

/-- The tables refuse a view of a name that is taken. -/
theorem insertView_taken {name : String} {row : ViewRow} (stored : row ∈ tables.views)
    (named : row.name = name) (id : Int) (primary : Bool) :
    tables.insertView ⟨id, name, primary⟩ = none := by
  apply if_pos
  exact List.any_eq_true.mpr ⟨row, stored, by simp [named]⟩

end Tables

namespace Tables.WellFormed

variable {tables : Tables} (wellFormed : tables.WellFormed)

include wellFormed

/-- An item is created or refused alike, whether or not the look for its name finds it. -/
theorem createItem_missed (name : String) (kind : ItemKind) (displayName : Option String)
    {parent : Option String}
    (elsewhere : ∀ path, nonEmpty? parent = some path → name ∉ Path.names path) :
    (⟨some tables⟩ : Database).createItemOverlooking (some name) true name kind displayName parent =
      (⟨some tables⟩ : Database).createItemOverlooking none false name kind displayName parent := by
  apply bind_congr_ok
  intro _ _
  rw [Database.tables_bind, Database.tables_bind, parentFolder_overlooking elsewhere]
  apply bind_congr_ok
  intro parentId _
  rw [if_pos rfl, if_neg (by simp), wellFormed.findChild_eq, if_neg (by simp)]
  cases taken : tables.child? parentId name with
  | none => rfl
  | some row =>
      have refused := wellFormed.insertItem_taken taken kind displayName
      rw [Tables.newRow] at refused
      simp [bind, Except.bind, refused]

/-- A view whose name is taken is refused by the look for the name. -/
theorem createView_of_taken {name : String} {row : ViewRow} (found : tables.getView name = .ok row)
    (members : List String) (primary : Bool) :
    (⟨some tables⟩ : Database).createView name members primary false =
      refuse (.duplicateView name) := by
  obtain ⟨stored, rfl⟩ := wellFormed.getView_eq_ok_iff.mp found
  have there := wellFormed.viewNamed?_eq_some_iff.mpr ⟨stored, rfl⟩
  rw [Database.createView, requireName_of_sound (wellFormed.viewNames row stored), Database.tables_bind,
    wellFormed.findView_eq, there]
  rfl

/-- When the look has missed the view, its members are looked up before the tables refuse it. -/
theorem createView_of_missed {name : String} {row : ViewRow} (found : tables.getView name = .ok row)
    (members : List String) (primary : Bool) :
    (⟨some tables⟩ : Database).createView name members primary true =
      tables.getItems members >>= fun _ => refuse (.duplicateView name) := by
  obtain ⟨stored, rfl⟩ := wellFormed.getView_eq_ok_iff.mp found
  rw [Database.createView, requireName_of_sound (wellFormed.viewNames row stored), Database.tables_bind,
    wellFormed.findView_eq, ok_bind, ok_bind, if_neg (by simp)]
  apply bind_congr_ok
  intro items _
  dsimp only
  rw [Tables.insertView_taken stored rfl]
  rfl

/-- Without a view of the name there is nothing to miss. -/
theorem createView_of_free {name : String} (free : tables.viewNamed? name = none)
    (members : List String) (primary : Bool) :
    (⟨some tables⟩ : Database).createView name members primary true =
      (⟨some tables⟩ : Database).createView name members primary false := by
  apply bind_congr_ok
  intro _ _
  rw [Database.tables_bind, Database.tables_bind, wellFormed.findView_eq, free]
  rfl

/-- A view is created or refused alike, whether or not the look for its name finds it, unless it is
there and one of its members is not. -/
theorem createView_missed {name : String} {members : List String}
    (resolved : ∀ row, tables.getView name = .ok row →
      ∀ member ∈ members, ∃ item, tables.getItem member none = .ok item) (primary : Bool) :
    (⟨some tables⟩ : Database).createView name members primary true =
      (⟨some tables⟩ : Database).createView name members primary false := by
  cases there : tables.viewNamed? name with
  | none => exact wellFormed.createView_of_free there members primary
  | some row =>
      have found := wellFormed.getView_eq_ok_iff.mpr (wellFormed.viewNamed?_eq_some_iff.mp there)
      obtain ⟨items, listed⟩ := exists_mapM_ok (resolved row found)
      rw [wellFormed.createView_of_missed found, wellFormed.createView_of_taken found, getItems, listed]
      rfl

end Tables.WellFormed

/-! ## Broken texts -/

theorem brokenNameFault_overlooking (tables : Tables) {overlooked : String} {fullName : List Glyph}
    (elsewhere : .sound overlooked ∉ Path.brokenNames fullName) :
    tables.brokenNameFault (some overlooked) fullName = tables.brokenNameFault none fullName := by
  have before : overlooked ∉ Tables.soundNames (Path.brokenNames fullName) := by
    intro member
    obtain ⟨name, taken, read⟩ := List.mem_filterMap.mp member
    cases name with
    | broken glyphs isBroken => cases read
    | sound text =>
        cases read
        exact elsewhere ((List.takeWhile_sublist _).subset taken)
  unfold Tables.brokenNameFault
  split
  case h_1 => rfl
  case h_2 => rw [Tables.findPath_overlooking before]

/-- The way to a folder that is free of a name is found without it. -/
theorem wideParentFolder_overlooking (tables : Tables) {name : Wide} {parent : Option Wide}
    (elsewhere : ∀ path, parent = some path → name ∉ Path.wideNames path) :
    tables.wideParentFolder name.text? parent = tables.wideParentFolder none parent := by
  cases name with
  | broken glyphs isBroken => rfl
  | sound name =>
      rcases parent with _ | path | ⟨path, isBroken⟩
      · rfl
      · apply Tables.parentFolder_overlooking
        intro other given member
        have same : path = other := by
          rw [nonEmpty?] at given
          exact Option.some.inj (Option.filter_eq_some_iff.mp given).1
        exact elsewhere (.sound path) rfl (List.mem_map_of_mem (same ▸ member))
      · exact congrArg Except.error (brokenNameFault_overlooking tables (elsewhere _ rfl))

theorem unencodable_ne (fault : Workspace.Fault) :
    OperationFault.storage .unencodable ≠ .workspace fault := nofun

/-- A text is not refused as a name for one that is taken. -/
theorem requireWideName_ne_duplicate (name : Wide) (text : String) :
    requireWideName name ≠ .error (.workspace (.duplicateItem text)) := by
  cases name with
  | sound name =>
      rw [requireWideName_sound, requireName, checkName]
      cases Name.parse name with
      | ok checked =>
          intro same
          cases same
      | error fault =>
          change refuse (.invalidName fault) ≠ _
          simp [refuse]
  | broken glyphs isBroken =>
      rw [requireWideName, Workspace.checkWideName]
      by_cases separated : Text.Glyph.char '/' ∈ glyphs <;> simp [separated, refuse]

/-- A folder is not refused for a name that is taken. -/
theorem wideParentFolder_ne_duplicate {tables : Tables} (wellFormed : tables.WellFormed)
    (parent : Option Wide) (name : String) :
    tables.wideParentFolder none parent ≠ .error (.workspace (.duplicateItem name)) := by
  rcases parent with _ | path | ⟨path, isBroken⟩
  · simp [Tables.wideParentFolder]
  · rw [Tables.wideParentFolder, Tables.parentFolder]
    cases nonEmpty? (some path) with
    | none => simp
    | some path =>
        dsimp only
        rw [wellFormed.getItem_eq]
        cases tables.follow? none (Path.names path) with
        | none => simp [refuse, bind, Except.bind]
        | some row => cases kind : row.kind <;> simp [refuse, bind, Except.bind, kind, pure, Except.pure]
  · simp only [Tables.wideParentFolder, Tables.brokenNameFault, ne_eq, Except.error.injEq]
    split
    case h_1 => simp
    case h_2 =>
      rw [wellFormed.findPath_eq, ok_bind]
      cases tables.follow? none (Tables.soundNames (Path.brokenNames path)) with
      | none => simp [faultBefore, refuse]
      | some row => exact unencodable_ne (.duplicateItem name)

namespace Tables.WellFormed

variable {tables : Tables} (wellFormed : tables.WellFormed)

include wellFormed

/-- What speaks against an item with a broken text, when the look for its name is missed: the same as
otherwise, but for the name being taken. -/
theorem brokenItemFault_missed {name : Wide} {parent : Option Wide}
    (elsewhere : ∀ path, parent = some path → name ∉ Path.wideNames path) :
    (∃ (text : String) (path : Option String), name = .sound text ∧ parent = path.map .sound ∧
      (⟨some tables⟩ : Database).brokenItemFault none false name parent =
        .workspace (.duplicateItem text) ∧
      (⟨some tables⟩ : Database).brokenItemFault name.text? true name parent =
        .storage .unencodable) ∨
    (∀ text, (⟨some tables⟩ : Database).brokenItemFault none false name parent ≠
        .workspace (.duplicateItem text)) ∧
      (⟨some tables⟩ : Database).brokenItemFault name.text? true name parent =
        (⟨some tables⟩ : Database).brokenItemFault none false name parent := by
  unfold Database.brokenItemFault
  cases checked : requireWideName name with
  | error fault =>
      refine .inr ⟨?_, rfl⟩
      rintro text rfl
      exact requireWideName_ne_duplicate name text checked
  | ok value =>
      rw [ok_bind, ok_bind, Database.tables_bind, Database.tables_bind,
        wideParentFolder_overlooking tables elsewhere]
      cases folder : tables.wideParentFolder none parent with
      | error fault =>
          refine .inr ⟨?_, rfl⟩
          rintro text rfl
          exact wideParentFolder_ne_duplicate wellFormed parent text folder
      | ok parentId =>
          cases name with
          | broken glyphs isBroken => exact .inr ⟨fun text => unencodable_ne (.duplicateItem text), rfl⟩
          | sound text =>
              rw [ok_bind, ok_bind, wellFormed.findWideChild_sound]
              cases taken : tables.child? parentId text with
              | none => exact .inr ⟨fun text => unencodable_ne (.duplicateItem text), rfl⟩
              | some row =>
                  obtain ⟨path, located⟩ := wideParentFolder_eq_ok folder
                  refine .inl ⟨text, path, rfl, located, ?_, rfl⟩
                  rw [← (child?_eq_some taken).2.1]
                  rfl

/-- An item is created or refused alike, whether or not the look for its name finds it, unless it is there
and its display name is broken. -/
theorem createWideItem_missed {name : Wide} {displayName parent : Option Wide} (kind : ItemKind)
    (elsewhere : ∀ path, parent = some path → name ∉ Path.wideNames path)
    (reported : (displayName.mapM Wide.text?).isSome ∨
      ∀ text, (⟨some tables⟩ : Database).createWideItem none false name kind displayName parent ≠
        .error (.workspace (.duplicateItem text))) :
    (⟨some tables⟩ : Database).createWideItem name.text? true name kind displayName parent =
      (⟨some tables⟩ : Database).createWideItem none false name kind displayName parent := by
  by_cases read : ∃ (text : String) (shown path : Option String), name = .sound text ∧
      displayName = shown.map .sound ∧ parent = path.map .sound
  case pos =>
    obtain ⟨text, shown, path, rfl, rfl, rfl⟩ := read
    rw [Database.createWideItem_sound, Database.createWideItem_sound]
    apply wellFormed.createItem_missed text kind shown
    intro other given member
    have same : path = some other := by
      rw [nonEmpty?] at given
      exact (Option.filter_eq_some_iff.mp given).1
    exact elsewhere (.sound other) (by rw [same]; rfl) (List.mem_map_of_mem member)
  case neg =>
    rw [Database.createWideItem_of_broken read] at reported
    rw [Database.createWideItem_of_broken read, Database.createWideItem_of_broken read]
    rcases wellFormed.brokenItemFault_missed elsewhere with
      ⟨text, path, rfl, rfl, taken, -⟩ | ⟨-, same⟩
    · rcases reported with shown | other
      · obtain ⟨shown, displayed⟩ := Option.isSome_iff_exists.mp shown
        exact absurd ⟨text, shown, path, rfl, text?_eq_some_iff.mp displayed, rfl⟩ read
      · exact absurd (congrArg Except.error taken) (other text)
    · rw [same]

/-- An item that is there, created again with a broken display name. -/
theorem createWideItem_of_brokenDisplay {name shown : Wide} {parent : Option Wide} {text : String}
    (kind : ItemKind) (elsewhere : ∀ path, parent = some path → name ∉ Path.wideNames path)
    (isBroken : shown.text? = none)
    (taken : (⟨some tables⟩ : Database).createWideItem none false name kind (some shown) parent =
      .error (.workspace (.duplicateItem text))) :
    (⟨some tables⟩ : Database).createWideItem name.text? true name kind (some shown) parent =
      .error (.storage .unencodable) := by
  have read : ¬∃ (text : String) (displayed path : Option String), name = .sound text ∧
      some shown = displayed.map .sound ∧ parent = path.map .sound := by
    rintro ⟨-, displayed, -, -, same, -⟩
    obtain ⟨sound, -, rfl⟩ := Option.map_eq_some_iff.mp same.symm
    cases isBroken
  rw [Database.createWideItem_of_broken read] at taken
  rw [Database.createWideItem_of_broken read]
  rcases wellFormed.brokenItemFault_missed elsewhere with ⟨-, -, -, -, -, missed⟩ | ⟨other, -⟩
  · rw [missed]
  · exact absurd (Except.error.inj taken) (other text)

/-- A view whose name is taken is refused by the look for the name, whatever its members are. -/
theorem createWideView_of_taken {name : String} {row : ViewRow} (found : tables.getView name = .ok row)
    (members : List Wide) (primary : Bool) :
    (⟨some tables⟩ : Database).createWideView (.sound name) members primary false =
      refuse (.duplicateView name) := by
  by_cases read : ∃ (text : String) (paths : List String), Wide.sound name = .sound text ∧
      members = paths.map .sound
  case pos =>
    obtain ⟨text, paths, same, rfl⟩ := read
    cases same
    rw [Database.createWideView_sound]
    exact wellFormed.createView_of_taken found paths primary
  case neg =>
    obtain ⟨stored, rfl⟩ := wellFormed.getView_eq_ok_iff.mp found
    have there : tables.findWideView (.sound row.name) = .ok (some row) :=
      (wellFormed.findWideView_sound row.name).trans
        (congrArg Except.ok (wellFormed.viewNamed?_eq_some_iff.mpr ⟨stored, rfl⟩))
    rw [Database.createWideView_of_broken read, Database.brokenViewFault, requireWideName_sound,
      requireName_of_sound (wellFormed.viewNames row stored), ok_bind, Database.tables_bind,
      if_pos (Bool.not_false), there]
    rfl

/-- A view of which no other is found is refused for its members. -/
theorem createWideView_of_members {name : Wide} {members : List Wide} {missed : Bool}
    {fault : OperationFault} (accepted : requireWideName name = .ok ())
    (unseen : missed = true ∨ tables.findWideView name = .ok none)
    (failed : tables.getWideItems members = .error fault) (primary : Bool) :
    (⟨some tables⟩ : Database).createWideView name members primary missed = .error fault := by
  by_cases read : ∃ (text : String) (paths : List String), name = .sound text ∧
      members = paths.map .sound
  case pos =>
    obtain ⟨text, paths, rfl, rfl⟩ := read
    have looked : (!missed && (tables.viewNamed? text).isSome) = false := by
      rcases unseen with rfl | nothing
      · rfl
      · have free := (wellFormed.findView_eq text).symm.trans nothing
        rw [Except.ok.inj free]
        exact Bool.and_false _
    rw [Tables.getWideItems_map_sound] at failed
    rw [Database.createWideView_sound, Database.createView]
    rw [← requireWideName_sound, accepted, ok_bind, Database.tables_bind,
      wellFormed.findView_eq, ok_bind, looked, if_neg Bool.false_ne_true, failed]
    rfl
  case neg =>
    rw [Database.createWideView_of_broken read, Database.brokenViewFault, accepted, ok_bind,
      Database.tables_bind]
    cases missed with
    | true =>
        rw [if_neg (by simp), failed]
        rfl
    | false =>
        rcases unseen with never | nothing
        · cases never
        · rw [if_pos (Bool.not_false), nothing]
          dsimp only [bind, Except.bind]
          rw [failed]
          rfl

/-- A view is created or refused alike, whether or not the look for its name finds it, if there is none or
if all its members are there. -/
theorem createWideView_missed {name : Wide} {members : List Wide}
    (free : (∃ text, name = .sound text ∧ tables.viewNamed? text = none) ∨
      ∀ member ∈ members, ∃ item, tables.getWideItem member none = .ok item) (primary : Bool) :
    (⟨some tables⟩ : Database).createWideView name members primary true =
      (⟨some tables⟩ : Database).createWideView name members primary false := by
  by_cases read : ∃ (text : String) (paths : List String), name = .sound text ∧
      members = paths.map .sound
  case pos =>
    obtain ⟨text, paths, rfl, rfl⟩ := read
    rw [Database.createWideView_sound, Database.createWideView_sound]
    apply wellFormed.createView_missed
    intro row found member listed
    rcases free with ⟨other, same, nothing⟩ | resolved
    · cases same
      have there := wellFormed.viewNamed?_eq_some_iff.mpr (wellFormed.getView_eq_ok_iff.mp found)
      rw [nothing] at there
      cases there
    · exact resolved (.sound member) (List.mem_map_of_mem listed)
  case neg =>
    rw [Database.createWideView_of_broken read, Database.createWideView_of_broken read]
    apply congrArg
    unfold Database.brokenViewFault
    cases accepted : requireWideName name with
    | error fault => rfl
    | ok value =>
        rw [ok_bind, ok_bind, Database.tables_bind, Database.tables_bind, if_neg (by simp),
          if_pos (Bool.not_false)]
        rcases free with ⟨text, rfl, nothing⟩ | resolved
        · have looked : tables.findWideView (.sound text) = .ok none :=
            (wellFormed.findView_eq text).trans (congrArg Except.ok nothing)
          rw [looked]
          rfl
        · -- All members are sound, so the name of the view is not, and either way it is not encoded.
          obtain ⟨items, listed⟩ := exists_mapM_ok resolved
          rw [← getWideItems] at listed
          obtain ⟨paths, rfl⟩ := getWideItems_eq_ok listed
          cases name with
          | sound text => exact absurd ⟨text, paths, rfl, rfl⟩ read
          | broken glyphs isBroken =>
              rw [listed]
              rfl

end Tables.WellFormed

/-- A database whose constraints report a duplicate as the look for it does, and what comes up before when
a text is broken. -/
structure ReportsDuplicates (database : Database) : Prop where
  /-- Creating an item ends as ever when no look finds an item of its name, the way to its folder being
  free of the name, unless the item is there and its display name is broken. -/
  item : ∀ (name : Wide) (kind : ItemKind) (displayName parent : Option Wide),
    (∀ path, parent = some path → name ∉ Path.wideNames path) →
    ((displayName.mapM Wide.text?).isSome ∨ ∀ text,
      ((Session.createItem none false name kind displayName parent).conclude database).1 ≠
        refuse (.duplicateItem text)) →
      (Session.createItem name.text? true name kind displayName parent).conclude database =
        (Session.createItem none false name kind displayName parent).conclude database
  /-- When it is, the display name is encoded before the tables notice the duplicate. -/
  brokenDisplay : ∀ (name : Wide) (kind : ItemKind) (shown : Wide) (parent : Option Wide) (text : String),
    (∀ path, parent = some path → name ∉ Path.wideNames path) → shown.text? = none →
    ((Session.createItem none false name kind (some shown) parent).conclude database).1 =
        refuse (.duplicateItem text) →
      (Session.createItem name.text? true name kind (some shown) parent).conclude database =
          (.error (.storage .unencodable), database) ∧
        (Session.createItem none false name kind (some shown) parent).conclude database =
          (refuse (.duplicateItem text), database)
  /-- Creating a view ends as ever when the look for it finds nothing, if it is not there or if all its
  members are. -/
  view : ∀ (name : Wide) (members : List Wide) (primary : Bool),
    ((∃ text, name = .sound text ∧ database.getView text = refuse (.noView text)) ∨
      ∀ member ∈ members, ∃ item, database.getWideItem member = .ok item) →
      (Session.createView name members primary true).conclude database =
        (Session.createView name members primary false).conclude database
  /-- When the view is there and a member is not, the first such member is reported and not the
  duplicate, or else it is broken. Nothing changes either way. -/
  memberFirst : ∀ (name : String) (before after : List Wide) (member : Wide) (primary : Bool)
    (row : ViewRow) (fault : OperationFault), database.getView name = .ok row →
      (∀ other ∈ before, ∃ item, database.getWideItem other = .ok item) →
      database.getWideItem member = .error fault →
      (Session.createView (.sound name) (before ++ member :: after) primary true).conclude database =
          (.error fault, database) ∧
        (Session.createView (.sound name) (before ++ member :: after) primary false).conclude database =
          (refuse (.duplicateView name), database) ∧
        (fault = .workspace (missingItem member) ∨
          member.text? = none ∧ fault = .storage .unencodable)
  /-- A broken name of a view is encoded when it is looked for, before the members are; when it is not, a
  member that is not there is reported. -/
  brokenName : ∀ (name : Wide) (before after : List Wide) (member : Wide) (primary : Bool)
    (fault : OperationFault), name.text? = none → requireWideName name = .ok () →
      (∀ other ∈ before, ∃ item, database.getWideItem other = .ok item) →
      database.getWideItem member = .error fault →
      (Session.createView name (before ++ member :: after) primary true).conclude database =
          (.error fault, database) ∧
        (Session.createView name (before ++ member :: after) primary false).conclude database =
          (.error (.storage .unencodable), database)

/-- Whatever operations were carried out, the constraints report a duplicate as the look for it does. -/
theorem reportsDuplicates_run (run : List Operation) : ReportsDuplicates (databaseAfter run) := by
  obtain ⟨tables, left, wellFormed⟩ := exists_wellFormed run
  rw [left]
  have fits : ∀ other, (⟨some tables⟩ : Database).content = some other → other.WellFormed := by
    rintro _ ⟨⟩
    exact wellFormed
  constructor
  case item =>
    intro name kind displayName parent elsewhere reported
    simp only [conclude_createItem, refuse, ne_eq, ending_fst_eq_error_iff] at reported
    rw [conclude_createItem, conclude_createItem,
      wellFormed.createWideItem_missed kind elsewhere reported]
  case brokenDisplay =>
    intro name kind shown parent text elsewhere isBroken taken
    rw [conclude_createItem] at taken
    have refused := ending_fst_eq_error_iff.mp taken
    rw [conclude_createItem, conclude_createItem, refused,
      wellFormed.createWideItem_of_brokenDisplay kind elsewhere isBroken refused]
    exact ⟨rfl, rfl⟩
  case view =>
    intro name members primary free
    have unseen : (∃ text, name = .sound text ∧ tables.viewNamed? text = none) ∨
        ∀ member ∈ members, ∃ item, tables.getWideItem member none = .ok item := by
      rcases free with ⟨text, same, missing⟩ | resolved
      · refine .inl ⟨text, same, ?_⟩
        rw [Database.getView_of_tables, wellFormed.getView_eq] at missing
        cases looked : tables.viewNamed? text with
        | none => rfl
        | some row =>
            rw [looked] at missing
            simp [refuse] at missing
      · exact .inr resolved
    rw [conclude_createView fits, conclude_createView fits, wellFormed.createWideView_missed unseen]
  case memberFirst =>
    intro name before after member primary row fault found resolved failed
    rw [Database.getView_of_tables] at found
    have accepted : requireWideName (.sound name) = .ok () := by
      obtain ⟨stored, rfl⟩ := wellFormed.getView_eq_ok_iff.mp found
      rw [requireWideName_sound]
      exact requireName_of_sound (wellFormed.viewNames row stored)
    have listed : tables.getWideItems (before ++ member :: after) = .error fault :=
      mapM_of_error resolved failed after
    rw [conclude_createView fits, conclude_createView fits,
      wellFormed.createWideView_of_members accepted (.inl rfl) listed,
      wellFormed.createWideView_of_taken found]
    exact ⟨rfl, rfl, wellFormed.getWideItem_error_cases failed⟩
  case brokenName =>
    intro name before after member primary fault isBroken accepted resolved failed
    have listed : tables.getWideItems (before ++ member :: after) = .error fault :=
      mapM_of_error resolved failed after
    have read : ¬∃ (text : String) (paths : List String), name = .sound text ∧
        before ++ member :: after = paths.map .sound := by
      rintro ⟨text, -, rfl, -⟩
      cases isBroken
    rw [conclude_createView fits, conclude_createView fits,
      wellFormed.createWideView_of_members accepted (.inl rfl) listed,
      Database.createWideView_of_broken read, Database.brokenViewFault, accepted]
    refine ⟨rfl, ?_⟩
    cases name with
    | sound text => cases isBroken
    | broken glyphs _ => rfl

/-- A job is there. Created again with half of a surrogate pair to show, it is a duplicate, unless the look
for it misses it. -/
theorem halfDisplay_not_told_duplicate :
    let database := databaseAfter [.createItem none false (.sound "a") .job none none]
    let half := Wide.ofGlyphs [.half 0xd800]
    ((Session.createItem none false (.sound "a") .job (some half) none).conclude database).1 =
        refuse (.duplicateItem "a") ∧
      ((Session.createItem (some "a") true (.sound "a") .job (some half) none).conclude database).1 =
        .error (.storage .unencodable) := by
  decide +kernel

end Wayfinder.Storage
