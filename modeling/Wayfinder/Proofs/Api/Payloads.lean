import Wayfinder.Api.Service
import Wayfinder.Proofs.Outcome

/-!
# What bodies carry

A body passes if each of its fields does, and what is read from it is what its fields say: the record is
one that writes the request. A name must be one by the rules of the workspace; any text will do where
another item is named.
-/

namespace Wayfinder.Input

variable {α β : Type}

namespace Checked

theorem map_eq_sound_iff {checked : Checked α} {image : α → β} {value : β} :
    checked.map image = .sound value ↔ ∃ before, checked = .sound before ∧ image before = value := by
  cases checked <;> simp [Checked.map]

theorem pair_eq_sound_iff {left : Checked α} {right : Checked β} {value : α × β} :
    left.pair right = .sound value ↔ left = .sound value.1 ∧ right = .sound value.2 := by
  obtain ⟨first, second⟩ := value
  cases left <;> cases right <;> simp [Checked.pair]

theorem within_eq_sound_iff {checked : Checked α} {step : Step} {value : α} :
    checked.within step = .sound value ↔ checked = .sound value := by
  cases checked <;> simp [Checked.within]

end Checked

variable {read : Json → Except FieldFault α} {input : Json} {name : String}

theorem checking_eq_sound_iff {value : α} :
    checking read input = .sound value ↔ read input = .ok value := by
  unfold checking
  cases read input <;> simp [Checked.ofExcept]

theorem requiredField_eq_sound_iff {value : α} : requiredField name (checking read) input = .sound value ↔
    ∃ given, input.field? name = some given ∧ read given = .ok value := by
  unfold requiredField
  cases input.field? name <;> simp [Checked.within_eq_sound_iff, checking_eq_sound_iff]

theorem readWide_eq_ok_iff {given : Json} {text : Text.Wide} :
    readWide given = .ok text ↔ given = .ofWide text := by
  cases given <;> cases text <;> simp [readWide, Json.ofWide]

end Wayfinder.Input

namespace Wayfinder.Api

open Input Storage Workspace
open Text (Wide)

/-- Whether a text is taken for a name. Half of a surrogate pair is neither blank nor a separator. -/
def AdmitsName : Wide → Prop
  | .sound text => ∃ name, checkName text = .ok name
  | .broken glyphs _ => .char '/' ∉ glyphs

/-- What is taken for a name is so by the database as well. -/
theorem AdmitsName.requireWideName {name : Wide} (admitted : AdmitsName name) :
    requireWideName name = .ok () := by
  cases name with
  | sound text =>
      obtain ⟨checked, accepted⟩ := admitted
      simp [Storage.requireWideName, checkWideName, accepted, Except.map]
  | broken glyphs isBroken =>
      have admitted : Text.Glyph.char '/' ∉ glyphs := admitted
      simp [Storage.requireWideName, checkWideName, admitted]

/-- A name is checked as the workspace does. -/
theorem readName_eq_ok_iff {given : Json} {name : Wide} :
    readName given = .ok name ↔ given = .ofWide name ∧ AdmitsName name := by
  constructor
  · intro accepted
    unfold readName at accepted
    split at accepted
    case h_1 => cases accepted
    case h_2 text read =>
      obtain rfl := readWide_eq_ok_iff.mp read
      split at accepted
      case h_1 checked parsed =>
        cases accepted
        obtain rfl := Name.parse_eq_ok_iff.mp parsed
        exact ⟨rfl, checked, checkName_eq_ok_iff.mpr rfl⟩
      case h_2 => cases accepted
    case h_3 glyphs isBroken read =>
      obtain rfl := readWide_eq_ok_iff.mp read
      split at accepted
      case isTrue => cases accepted
      case isFalse free =>
        cases accepted
        exact ⟨rfl, free⟩
  · rintro ⟨rfl, admits⟩
    cases name with
    | sound text =>
        obtain ⟨checked, accepted⟩ := admits
        obtain rfl := checkName_eq_ok_iff.mp accepted
        simp [readName, Json.ofWide, readWide]
    | broken glyphs => exact if_neg admits

/-- The name that a body must give. -/
theorem requiredName_eq_sound_iff {input : Json} {name : Wide} :
    requiredField "name" (checking readName) input = .sound name ↔
      input.field? "name" = some (.ofWide name) ∧ AdmitsName name := by
  simp only [requiredField_eq_sound_iff, readName_eq_ok_iff]
  constructor
  · rintro ⟨_, given, rfl, admits⟩
    exact ⟨given, admits⟩
  · rintro ⟨given, admits⟩
    exact ⟨_, given, rfl, admits⟩

/-- A view has a name, too. -/
theorem ViewCreate.admitsName {input : Json} {request : ViewCreate}
    (passed : checkRecord .notBody ViewCreate.ofFields input = .sound request) :
    AdmitsName request.name := by
  unfold checkRecord at passed
  split at passed
  case h_1 =>
    obtain ⟨⟨name, members, primary⟩, parts, rfl⟩ := Checked.map_eq_sound_iff.mp passed
    exact (requiredName_eq_sound_iff.mp (Checked.pair_eq_sound_iff.mp parts).1).2
  case h_2 => cases passed

/-- The JSON value that a body is, if it is one. -/
def RequestBody.json? (body : RequestBody) : Option Json :=
  match body with
  | .none => Option.none
  | .value json => some json
  | .bytes [] => Option.none
  | .bytes content => (Json.parseBytes content).toOption

section Payload

variable {α : Type} {check : Json → Checked α} {body : RequestBody}

theorem payload_of_json {value : Json} (read : body.json? = some value) :
    payload check body = match checkRecord .notBody check value with
      | .sound payload => .ok payload
      | .faulty errors => .error (inBody errors) := by
  unfold RequestBody.json? at read
  unfold payload
  rcases body with _ | json | (_ | ⟨first, rest⟩)
  · cases read
  · cases read
    rfl
  · cases read
  · dsimp only at read ⊢
    cases parsed : Json.parseBytes (first :: rest) with
    | error fault =>
        rw [parsed] at read
        cases read
    | ok json =>
        rw [parsed] at read
        cases read
        rfl

/-- A body that is no JSON value is refused as such. -/
theorem payload_of_unread (unread : body.json? = none) :
    ∃ reply, payload check body = .error reply ∧ (reply.status = 422 ∨ reply.status = 400) := by
  unfold RequestBody.json? at unread
  unfold payload
  rcases body with _ | json | (_ | ⟨first, rest⟩)
  · exact ⟨_, rfl, .inl rfl⟩
  · cases unread
  · exact ⟨_, rfl, .inl rfl⟩
  · dsimp only at unread ⊢
    cases parsed : Json.parseBytes (first :: rest) with
    | ok json =>
        rw [parsed] at unread
        cases unread
    | error fault =>
        cases fault with
        | malformed position => exact ⟨_, rfl, .inl rfl⟩
        | _ => exact ⟨_, rfl, .inr rfl⟩

/-- What a body carries is what its JSON value passes as. -/
theorem exists_json_of_payload {request : α} (carried : payload check body = .ok request) :
    ∃ value, body.json? = some value ∧ checkRecord .notBody check value = .sound request := by
  cases read : body.json? with
  | none =>
      obtain ⟨reply, refused, -⟩ := @payload_of_unread α check body read
      rw [refused] at carried
      cases carried
  | some value =>
      rw [payload_of_json read] at carried
      refine ⟨value, rfl, ?_⟩
      cases checked : checkRecord .notBody check value with
      | faulty errors =>
          rw [checked] at carried
          cases carried
      | sound payload =>
          rw [checked] at carried
          cases carried
          rfl

end Payload

end Wayfinder.Api
