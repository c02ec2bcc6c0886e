import Wayfinder.Proofs.Outcome
import Wayfinder.Storage.Broken

/-!
# Operations need sound texts

An operation of sound texts is the same whether or not they might have been broken. One that is given a
broken text is refused, so an operation that is carried out was given sound ones.
-/

namespace Wayfinder.Storage

open Text (Glyph Wide)

section Texts

/-- Texts that are read whole are sound. -/
theorem mapM_text?_eq_some_iff {texts : List Wide} {sound : List String} :
    texts.mapM Wide.text? = some sound ↔ texts = sound.map .sound := by
  induction texts generalizing sound with
  | nil => cases sound <;> simp
  | cons text rest ih =>
      cases text with
      | broken glyphs => cases sound <;> simp [List.mapM_cons, Wide.text?]
      | sound text =>
          have read : (Wide.sound text :: rest).mapM Wide.text? =
              (rest.mapM Wide.text?).map (text :: ·) := by
            rw [List.mapM_cons]
            cases rest.mapM Wide.text? <;> rfl
          rw [read, Option.map_eq_some_iff]
          cases sound with
          | nil => simp
          | cons first others =>
              rw [List.map_cons, List.cons.injEq, ← ih]
              constructor
              · rintro ⟨_, whole, ⟨⟩⟩
                exact ⟨rfl, whole⟩
              · rintro ⟨⟨⟩, whole⟩
                exact ⟨others, whole, rfl⟩

theorem text?_eq_some_iff {text : Option Wide} {sound : Option String} :
    text.mapM Wide.text? = some sound ↔ text = sound.map .sound := by
  rcases text with _ | _ | _ <;> cases sound <;> simp [Wide.text?]

@[simp] theorem mapM_text?_map_sound (texts : List String) :
    (texts.map Wide.sound).mapM Wide.text? = some texts :=
  mapM_text?_eq_some_iff.mpr rfl

@[simp] theorem text?_map_sound (text : Option String) :
    (text.map Wide.sound).mapM Wide.text? = some text :=
  text?_eq_some_iff.mpr rfl

/-- The same changes, with a display name that is sound. -/
def ItemChanges.wide (changes : ItemChanges) : WideChanges :=
  ⟨changes.displayName.map fun value => value.map .sound, changes.disabled, changes.others⟩

theorem WideChanges.sound?_eq_some_iff {changes : WideChanges} {sound : ItemChanges} :
    changes.sound? = some sound ↔ changes = sound.wide := by
  obtain ⟨displayName, disabled, others⟩ := changes
  obtain ⟨shown, flag, rest⟩ := sound
  have read : (displayName.mapM fun (value : Option Wide) => value.mapM Wide.text?) = some shown ↔
      displayName = shown.map fun value => value.map .sound := by
    rcases displayName with _ | value
    · cases shown <;> simp
    · cases shown with
      | none => cases whole : value.mapM Wide.text? <;> simp [Option.mapM_some, whole]
      | some shown => rw [Option.map_some, Option.some.injEq, ← text?_eq_some_iff, Option.mapM_some]; simp
  simp only [sound?, ItemChanges.wide, Option.map_eq_some_iff, ItemChanges.mk.injEq, mk.injEq, ← read]
  constructor
  · rintro ⟨other, same, rfl, rfl, rfl⟩
    exact ⟨same, rfl, rfl⟩
  · rintro ⟨same, rfl, rfl⟩
    exact ⟨shown, same, rfl, rfl, rfl⟩

@[simp] theorem WideChanges.sound?_wide (changes : ItemChanges) : changes.wide.sound? = some changes :=
  WideChanges.sound?_eq_some_iff.mpr rfl

end Texts

section Faults

variable {α β : Type}

/-- The fault that comes up before a text is needed comes up in the first step that fails. -/
theorem error_faultBefore_bind (outcome : Except OperationFault α) (next : α → Except OperationFault β) :
    (.error (faultBefore (outcome >>= next)) : Except OperationFault γ) =
      outcome >>= fun value => .error (faultBefore (next value)) := by
  cases outcome <;> rfl

theorem mapM_encode_map_sound (text : Option String) :
    (text.map Wide.sound).mapM encode = .ok text := by
  cases text <;> rfl

/-- Changes with a broken display name fail where the name is encoded. -/
theorem mapM_encode_of_broken {changes : WideChanges} (broken : changes.sound? = none) :
    (changes.displayName.mapM fun (value : Option Wide) => value.mapM encode) =
      (.error (.storage .unencodable) : Except OperationFault (Option (Option String))) := by
  obtain ⟨_ | _ | _ | _, disabled, others⟩ := changes
  · cases broken
  · cases broken
  · cases broken
  · rfl

theorem mapM_encode_wide (changes : ItemChanges) :
    (changes.wide.displayName.mapM fun (value : Option Wide) => value.mapM encode) =
      (.ok changes.displayName : Except OperationFault (Option (Option String))) := by
  obtain ⟨_ | _ | _, disabled, others⟩ := changes <;> rfl

end Faults

theorem requireWideName_sound (text : String) : requireWideName (.sound text) = requireName text := by
  rw [requireWideName, requireName, Workspace.checkWideName]
  cases Workspace.checkName text <;> rfl

namespace Tables

variable (tables : Tables)

theorem wideParentFolder_map_sound (overlooked parent : Option String) :
    tables.wideParentFolder overlooked (parent.map .sound) = tables.parentFolder overlooked parent := by
  cases parent <;> rfl

variable {tables} in
/-- A full name that leads to an item is sound. -/
theorem getWideItem_eq_ok {fullName : Wide} {overlooked : Option String} {row : ItemRow}
    (found : tables.getWideItem fullName overlooked = .ok row) :
    ∃ path, fullName = .sound path ∧ tables.getItem path overlooked = .ok row := by
  cases fullName with
  | sound path => exact ⟨path, rfl, found⟩
  | broken glyphs => cases found

variable {tables} in
/-- The full name of a folder is sound. -/
theorem wideParentFolder_eq_ok {overlooked : Option String} {parent : Option Wide} {id : Option Int}
    (found : tables.wideParentFolder overlooked parent = .ok id) :
    ∃ path : Option String, parent = path.map .sound := by
  rcases parent with _ | path | _
  · exact ⟨none, rfl⟩
  · exact ⟨some path, rfl⟩
  · cases found

variable {tables} in
theorem getWideItems_eq_ok {fullNames : List Wide} {rows : List ItemRow}
    (found : tables.getWideItems fullNames = .ok rows) :
    ∃ paths : List String, fullNames = paths.map .sound := by
  induction fullNames generalizing rows with
  | nil => exact ⟨[], rfl⟩
  | cons fullName rest ih =>
      rw [getWideItems, List.mapM_cons] at found
      obtain ⟨first, there, found⟩ := bind_eq_ok_iff.mp found
      obtain ⟨others, theirs, -⟩ := bind_eq_ok_iff.mp found
      obtain ⟨path, rfl, -⟩ := getWideItem_eq_ok there
      obtain ⟨paths, rfl⟩ := ih theirs
      exact ⟨path :: paths, rfl⟩

theorem getWideItems_map_sound (fullNames : List String) :
    tables.getWideItems (fullNames.map .sound) = tables.getItems fullNames := by
  rw [getWideItems, List.mapM_map]
  rfl

end Tables

namespace Database

variable {database : Database}

@[simp] theorem createWideItem_sound (overlooked : Option String) (missed : Bool) (name : String)
    (kind : ItemKind) (displayName parent : Option String) :
    database.createWideItem overlooked missed (.sound name) kind (displayName.map .sound)
        (parent.map .sound) =
      database.createItemOverlooking overlooked missed name kind displayName parent := by
  simp only [createWideItem, text?_map_sound]

@[simp] theorem createWideView_sound (name : String) (members : List String) (primary missed : Bool) :
    database.createWideView (.sound name) (members.map .sound) primary missed =
      database.createView name members primary missed := by
  simp only [createWideView, mapM_text?_map_sound]

@[simp] theorem updateWideItem_sound (fullName : String) (changes : ItemChanges) :
    database.updateWideItem (.sound fullName) changes.wide = database.updateItem fullName changes := by
  simp only [updateWideItem, WideChanges.sound?_wide]

theorem createWideItem_of_broken {name : Wide} {displayName parent : Option Wide}
    (unread : ¬∃ (text : String) (shown path : Option String), name = .sound text ∧
      displayName = shown.map .sound ∧ parent = path.map .sound)
    (overlooked : Option String) (missed : Bool) (kind : ItemKind) :
    database.createWideItem overlooked missed name kind displayName parent =
      .error (database.brokenItemFault overlooked missed name parent) := by
  unfold createWideItem
  split
  case h_1 text shown path readShown readPath =>
    exact absurd ⟨text, shown, path, rfl, text?_eq_some_iff.mp readShown,
      text?_eq_some_iff.mp readPath⟩ unread
  case h_2 => rfl

theorem createWideView_of_broken {name : Wide} {members : List Wide}
    (unread : ¬∃ (text : String) (paths : List String), name = .sound text ∧ members = paths.map .sound)
    (primary missed : Bool) : database.createWideView name members primary missed =
      .error (database.brokenViewFault name members missed) := by
  unfold createWideView
  split
  case h_1 text paths read => exact absurd ⟨text, paths, rfl, mapM_text?_eq_some_iff.mp read⟩ unread
  case h_2 => rfl

theorem updateWideItem_of_broken {changes : WideChanges} (broken : changes.sound? = none)
    (fullName : String) : database.updateWideItem (.sound fullName) changes =
      .error (database.brokenUpdateFault fullName changes.disabled) := by
  simp only [updateWideItem, broken]

@[simp] theorem addWideMember_sound (name fullName : String) :
    database.addWideMember (.sound name) (.sound fullName) = database.addViewMember name fullName := rfl

theorem addWideMember_of_broken {name fullName : Wide}
    (unread : ¬∃ view path, name = .sound view ∧ fullName = .sound path) :
    database.addWideMember name fullName = .error (faultBefore do
      let _view ← database.getWideView name
      database.getWideItem fullName) := by
  unfold addWideMember
  split
  case h_1 view path => exact absurd ⟨view, path, rfl, rfl⟩ unread
  case h_2 => rfl

theorem createWideItem_eq_ok {overlooked : Option String} {missed : Bool} {name : Wide} {kind : ItemKind}
    {displayName parent : Option Wide} {commit : Commit ItemRow}
    (created : database.createWideItem overlooked missed name kind displayName parent = .ok commit) :
    ∃ (text : String) (shown path : Option String), name = .sound text ∧
      displayName = shown.map .sound ∧ parent = path.map .sound ∧
      database.createItemOverlooking overlooked missed text kind shown path = .ok commit := by
  unfold createWideItem at created
  split at created
  case h_1 text shown path readShown readPath =>
    exact ⟨text, shown, path, rfl, text?_eq_some_iff.mp readShown, text?_eq_some_iff.mp readPath, created⟩
  case h_2 => cases created

theorem createWideView_eq_ok {name : Wide} {members : List Wide} {primary missed : Bool}
    {commit : Commit ViewRow}
    (created : database.createWideView name members primary missed = .ok commit) :
    ∃ (text : String) (paths : List String), name = .sound text ∧ members = paths.map .sound ∧
      database.createView text paths primary missed = .ok commit := by
  unfold createWideView at created
  split at created
  case h_1 text paths read => exact ⟨text, paths, rfl, mapM_text?_eq_some_iff.mp read, created⟩
  case h_2 => cases created

theorem updateWideItem_eq_ok {fullName : Wide} {changes : WideChanges} {commit : Commit ItemRow}
    (updated : database.updateWideItem fullName changes = .ok commit) :
    ∃ (path : String) (sound : ItemChanges), fullName = .sound path ∧ changes = sound.wide ∧
      database.updateItem path sound = .ok commit := by
  unfold updateWideItem at updated
  split at updated
  case h_1 path sound read => exact ⟨path, sound, rfl, WideChanges.sound?_eq_some_iff.mp read, updated⟩
  case h_2 => cases updated
  case h_3 => cases updated

theorem deleteWideItem_eq_ok {fullName : Wide} {commit : Commit Unit}
    (deleted : database.deleteWideItem fullName = .ok commit) :
    ∃ path, fullName = .sound path ∧ database.deleteItem path = .ok commit := by
  cases fullName with
  | sound path => exact ⟨path, rfl, deleted⟩
  | broken glyphs => cases deleted

theorem addWideMember_eq_ok {name fullName : Wide} {commit : Commit Unit}
    (added : database.addWideMember name fullName = .ok commit) :
    ∃ view path, name = .sound view ∧ fullName = .sound path ∧
      database.addViewMember view path = .ok commit := by
  cases name with
  | broken glyphs => cases added
  | sound view =>
      cases fullName with
      | broken glyphs => cases added
      | sound path => exact ⟨view, path, rfl, rfl, added⟩

theorem setPrimaryWideView_eq_ok {name : Wide} {commit : Commit ViewRow}
    (chosen : database.setPrimaryWideView name = .ok commit) :
    ∃ view, name = .sound view ∧ database.setPrimaryView view = .ok commit := by
  cases name with
  | sound view => exact ⟨view, rfl, chosen⟩
  | broken glyphs => cases chosen

theorem getWideItem_eq_ok {fullName : Wide} {row : ItemRow}
    (found : database.getWideItem fullName = .ok row) :
    ∃ path, fullName = .sound path ∧ database.getItem path = .ok row := by
  obtain ⟨tables, opened, there⟩ := bind_eq_ok_iff.mp found
  obtain ⟨path, rfl, -⟩ := Tables.getWideItem_eq_ok there
  exact ⟨path, rfl, found⟩

theorem getWideView_eq_ok {name : Wide} {row : ViewRow} (found : database.getWideView name = .ok row) :
    ∃ view, name = .sound view ∧ database.getView view = .ok row := by
  cases name with
  | sound view => exact ⟨view, rfl, found⟩
  | broken glyphs =>
      obtain ⟨tables, -, failed⟩ := bind_eq_ok_iff.mp found
      cases failed

end Database

end Wayfinder.Storage
