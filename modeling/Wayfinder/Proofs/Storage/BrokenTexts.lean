import Mathlib.Data.Set.List
import Wayfinder.Proofs.Storage.Creation
import Wayfinder.Proofs.Storage.ViewCreation

/-!
# What becomes of broken texts

The database is asked for names one after another, and fails when it is asked for a broken one. So a
broken full name is told to be missing only if one of the names before the broken one leads nowhere, and
an item or a view with a broken text is refused for its folder, its name or its members only if that comes
up before the text. All of this can be read off a snapshot.
-/

namespace Wayfinder.Storage

open Workspace
open Text (Glyph Wide)

/-- The fault that an outcome ends in, if it does. -/
def faultOf {α : Type} (outcome : Except OperationFault α) : Option OperationFault :=
  match outcome with
  | .error fault => some fault
  | .ok _ => none

/-- The group that a full name asks for: a folder, or the workspace itself for no name. -/
def wideFolder (objects : Objects) : Option Wide → Except OperationFault GroupId
  | none => .ok (.space snapshotSpace)
  | some (.sound fullName) => (objects.folderNamed snapshotSpace (some fullName)).mapError .workspace
  | some (.broken fullName _) => .error (brokenLookupFault objects fullName)

/-- Why an item cannot be created, if it cannot. What comes first is the folder that is asked for, then
whether the name is taken there, and only then that a text cannot be stored. -/
def itemFault? (objects : Objects) (name : Wide) (displayName parent : Option Wide) :
    Option OperationFault :=
  match wideFolder objects parent with
  | .error fault => some fault
  | .ok group =>
    match name with
    | .broken _ _ => some (.storage .unencodable)
    | .sound name =>
      if (objects.child? group name).isSome then some (.workspace (.duplicateItem name))
      else
        match displayName with
        | some (.broken _ _) => some (.storage .unencodable)
        | _ => none

/-- Why a view cannot be created, if it cannot. Of several members that cannot be listed the first is
told. -/
def viewFault? (objects : Objects) (name : Wide) (members : List Wide) : Option OperationFault :=
  match name with
  | .broken _ _ => some (.storage .unencodable)
  | .sound name =>
    match checkName name with
    | .error fault => some (.workspace fault)
    | .ok _ =>
      if (objects.viewNamed? snapshotSpace name).isSome then some (.workspace (.duplicateView name))
      else members.findSome? (lookupFault? objects)

section Faults

variable {α β : Type}

theorem eq_error_of_faultOf {outcome : Except OperationFault α} {fault : OperationFault}
    (ended : faultOf outcome = some fault) : outcome = .error fault := by
  cases outcome with
  | error other => exact congrArg Except.error (Option.some.inj ended)
  | ok value => cases ended

theorem exists_ok_of_faultOf {outcome : Except OperationFault α} (ended : faultOf outcome = none) :
    ∃ value, outcome = .ok value := by
  cases outcome with
  | error other => cases ended
  | ok value => exact ⟨value, rfl⟩

theorem faultBefore_eq (outcome : Except OperationFault α) :
    faultBefore outcome = (faultOf outcome).getD (.storage .unencodable) := by
  cases outcome <;> rfl

/-- Of several computations in a row the first fault is that of all. -/
theorem faultOf_mapM (next : α → Except OperationFault β) (items : List α) :
    faultOf (items.mapM next) = items.findSome? fun item => faultOf (next item) := by
  induction items with
  | nil => rfl
  | cons item items ih =>
      rw [List.mapM_cons, List.findSome?_cons, ← ih]
      cases next item with
      | error fault => rfl
      | ok value => cases items.mapM next <;> rfl

end Faults

section Sound

variable {objects : Objects}

/-- A full name that leads to an item is sound. -/
theorem sound_of_no_lookupFault {path : Wide} (found : lookupFault? objects path = none) :
    path ∈ Set.range Wide.sound := by
  cases path with
  | sound path => exact ⟨path, rfl⟩
  | broken glyphs => cases found

/-- A view that can be created has sound texts. -/
theorem sound_of_no_viewFault {name : Wide} {members : List Wide}
    (accepted : viewFault? objects name members = none) :
    ∃ (text : String) (paths : List String), name = .sound text ∧ members = paths.map .sound := by
  cases name with
  | broken glyphs => cases accepted
  | sound text =>
      unfold viewFault? at accepted
      dsimp only at accepted
      split at accepted
      case h_1 => cases accepted
      case h_2 =>
        split at accepted
        case isTrue => cases accepted
        case isFalse =>
          have sound : members ∈ Set.range (List.map Wide.sound) := by
            rw [Set.range_list_map]
            intro path member
            exact sound_of_no_lookupFault (List.findSome?_eq_none_iff.mp accepted path member)
          obtain ⟨paths, rfl⟩ := sound
          exact ⟨text, paths, rfl, rfl⟩

/-- A full name that asks for a group is sound. -/
theorem sound_of_wideFolder {fullName : Option Wide} {group : GroupId}
    (found : wideFolder objects fullName = .ok group) :
    ∃ sound : Option String, fullName = sound.map .sound := by
  rcases fullName with _ | fullName | glyphs
  · exact ⟨none, rfl⟩
  · exact ⟨some fullName, rfl⟩
  · cases found

/-- The folder of a full name cannot be asked for if its lookup comes to a broken name. -/
theorem wideFolder_of_stumbles {path : Wide} (stumbles : Stumbles objects path) :
    wideFolder objects (some path) = .error (.storage .unencodable) := by
  cases path with
  | sound path => exact absurd stumbles (not_stumbles_sound objects path)
  | broken path isBroken =>
      rw [wideFolder, (brokenLookupFault_eq_unencodable_iff isBroken).mpr stumbles]

/-- An item that can be created has sound texts. -/
theorem sound_of_no_itemFault {name : Wide} {displayName parent : Option Wide}
    (accepted : itemFault? objects name displayName parent = none) :
    ∃ (text : String) (shown fullName : Option String), name = .sound text ∧
      displayName = shown.map .sound ∧ parent = fullName.map .sound := by
  unfold itemFault? at accepted
  cases found : wideFolder objects parent with
  | error fault =>
      rw [found] at accepted
      cases accepted
  | ok group =>
      obtain ⟨fullName, rfl⟩ := sound_of_wideFolder found
      rw [found] at accepted
      cases name with
      | broken glyphs => cases accepted
      | sound text =>
          dsimp only at accepted
          split at accepted
          case isTrue => cases accepted
          case isFalse =>
            rcases displayName with _ | shown | glyphs
            · exact ⟨text, none, fullName, rfl, rfl, rfl⟩
            · exact ⟨text, some shown, fullName, rfl, rfl, rfl⟩
            · cases accepted

/-- What speaks against a view whose texts are sound. -/
theorem viewFault?_sound (objects : Objects) (name : String) (members : List String) :
    viewFault? objects (.sound name) (members.map .sound) =
      (viewRefusal? objects name members).map .workspace := by
  have first : (members.map Wide.sound).findSome? (lookupFault? objects) =
      ((members.find? fun path => (objects.byFullName? snapshotSpace path).isNone).map
        Fault.noItem).map .workspace := by
    induction members with
    | nil => rfl
    | cons path rest ih =>
        rw [List.map_cons, List.findSome?_cons, lookupFault?, List.find?_cons, ih]
        cases objects.byFullName? snapshotSpace path <;> rfl
  unfold viewFault? viewRefusal?
  dsimp only
  cases checkName name with
  | error fault => rfl
  | ok checked =>
      dsimp only
      split
      · rfl
      · exact first

end Sound

section Told

variable {tables : Tables} {objects : Objects} (portrays : Portrays objects tables)
  (wellFormed : tables.WellFormed)

include portrays wellFormed

theorem Portrays.faultOf_getWideItem (fullName : Wide) :
    faultOf (tables.getWideItem fullName none) = lookupFault? objects fullName := by
  cases fullName with
  | sound fullName =>
      rw [Tables.getWideItem, lookupFault?, wellFormed.getItem_eq, portrays.byFullName?_eq wellFormed]
      cases tables.follow? none (Path.names fullName) <;> rfl
  | broken glyphs =>
      rw [Tables.getWideItem, portrays.brokenNameFault_eq wellFormed]
      rfl

/-- The folder for a new item is looked up alike, whatever text names it. -/
theorem Portrays.wideFolder_eq (fullName : Option Wide) :
    (∃ fault, tables.wideParentFolder none fullName = .error fault ∧
      wideFolder objects fullName = .error fault) ∨
    ∃ id, tables.wideParentFolder none fullName = .ok id ∧ Houses tables.items id ∧
      wideFolder objects fullName = .ok (groupOf tables.items id) := by
  rcases fullName with _ | fullName | glyphs
  · exact .inr ⟨none, rfl, houses_none tables.items, rfl⟩
  · rcases portrays.folderNamed_eq wellFormed (some fullName) with
      ⟨fault, stored, held⟩ | ⟨id, stored, houses, held⟩
    · exact .inl ⟨_, stored, by rw [wideFolder, held]; rfl⟩
    · exact .inr ⟨id, stored, houses, by rw [wideFolder, held]; rfl⟩
  · exact .inl ⟨_, rfl, by rw [wideFolder, portrays.brokenNameFault_eq wellFormed]⟩

/-- What speaks against an item with a broken text, or else that text itself. -/
theorem Portrays.brokenItemFault_eq {name : Wide} (named : requireWideName name = .ok ())
    (displayName parent : Option Wide) :
    (⟨some tables⟩ : Database).brokenItemFault none false name parent =
      (itemFault? objects name displayName parent).getD (.storage .unencodable) := by
  rw [Database.brokenItemFault, faultBefore_eq, named, ok_bind, Database.tables_bind]
  rcases portrays.wideFolder_eq wellFormed parent with
    ⟨fault, stored, held⟩ | ⟨id, stored, houses, held⟩
  · unfold itemFault?
    rw [stored, held]
    rfl
  · unfold itemFault?
    rw [stored, held, ok_bind]
    cases name with
    | broken glyphs => rfl
    | sound name =>
        dsimp only
        rw [if_neg Bool.false_ne_true, wellFormed.findWideChild_sound, ok_bind,
          portrays.child?_eq houses]
        cases taken : tables.child? id name with
        | some row =>
            rw [← (Tables.child?_eq_some taken).2.1]
            rfl
        | none => rcases displayName with _ | _ | _ <;> rfl

/-- What speaks against a view with a broken text, or else that text itself. -/
theorem Portrays.brokenViewFault_eq {name : Wide} (named : requireWideName name = .ok ())
    (members : List Wide) : (⟨some tables⟩ : Database).brokenViewFault name members false =
      (viewFault? objects name members).getD (.storage .unencodable) := by
  rw [Database.brokenViewFault, faultBefore_eq, named, ok_bind, Database.tables_bind,
    if_pos (Bool.not_false)]
  cases name with
  | broken glyphs => rfl
  | sound name =>
      have required := (requireWideName_sound name).symm.trans named
      obtain ⟨checked, accepted, -⟩ := checkName_eq_ok (of?_of_requireName required)
      rw [viewFault?, accepted, portrays.viewNamed?_eq]
      dsimp only
      rw [wellFormed.findWideView_sound, ok_bind]
      cases taken : tables.viewNamed? name with
      | some row =>
          rw [← (wellFormed.viewNamed?_eq_some_iff.mp taken).2]
          rfl
      | none =>
          have asked := faultOf_mapM (fun member => tables.getWideItem member none) members
          simp only [portrays.faultOf_getWideItem wellFormed] at asked
          dsimp only [Option.map_none, Option.isSome_none]
          rw [if_neg (by simp), ← asked]
          change (faultOf (tables.getWideItems members >>= fun _ => .ok ())).getD _ = _
          rw [Tables.getWideItems]
          cases members.mapM fun member => tables.getWideItem member none <;> rfl

/-- The database refuses an item for the reason that the snapshot tells. -/
theorem Portrays.faultOf_createItem {name : String} (named : NameFault.of? name = none)
    (kind : ItemKind) (displayName parent : Option String) :
    faultOf ((⟨some tables⟩ : Database).createItem name kind displayName parent false) =
      itemFault? objects (.sound name) (displayName.map .sound) (parent.map .sound) := by
  obtain ⟨checked, accepted, -⟩ := checkName_eq_ok named
  have folder : wideFolder objects (parent.map .sound) =
      (objects.folderNamed snapshotSpace parent).mapError .workspace := by
    cases parent <;> rfl
  unfold itemFault?
  rw [folder]
  rcases portrays.folderNamed_eq wellFormed parent with
    ⟨fault, stored, held⟩ | ⟨id, stored, houses, held⟩
  · rw [createItem_of_parent kind displayName accepted stored, held]
    rfl
  · have lookup := wellFormed.findChild_eq none id name
    rw [if_neg (by simp)] at lookup
    rw [held]
    dsimp only [Except.mapError]
    rw [portrays.child?_eq houses]
    cases free : tables.child? id name with
    | some row =>
        rw [createItem_of_taken kind displayName accepted stored (free ▸ lookup)]
        rfl
    | none =>
        obtain ⟨commit, created, -⟩ := createItem_of_free kind displayName accepted stored
          (free ▸ lookup) (Tables.insertItem_newRow kind displayName free)
        rw [created]
        cases displayName <;> rfl

end Told

end Wayfinder.Storage
