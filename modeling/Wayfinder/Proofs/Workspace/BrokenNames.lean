import Wayfinder.Proofs.Path
import Wayfinder.Workspace.Lookup

/-!
# Nothing has a broken name

The items and views of a workspace have sound names. A full name with half of a surrogate pair in it lists
a name that has it too, so it leads nowhere.
-/

namespace Wayfinder

open Text (Glyph Wide)

namespace Text

/-- Glyphs make up no text if one of them is no character. -/
theorem Glyph.text?_eq_none_iff {glyphs : List Glyph} :
    Glyph.text? glyphs = none ↔ ∃ glyph ∈ glyphs, glyph.char? = none := by
  rw [Glyph.text?, Option.map_eq_none_iff]
  induction glyphs with
  | nil => simp
  | cons glyph rest ih =>
      rw [List.mapM_cons, List.exists_mem_cons_iff, ← ih]
      cases glyph.char? with
      | none => simp
      | some c => cases rest.mapM Glyph.char? <;> simp

theorem Wide.text?_ofGlyphs (glyphs : List Glyph) : (Wide.ofGlyphs glyphs).text? = Glyph.text? glyphs := by
  unfold Wide.ofGlyphs
  split
  case h_1 text whole => exact whole.symm
  case h_2 whole => exact whole.symm

theorem Wide.sound_beq_sound (left right : String) :
    (Wide.sound left == Wide.sound right) = (left == right) := by
  rw [Bool.eq_iff_iff, beq_iff_eq, beq_iff_eq, Wide.sound.injEq]

theorem mem_dropWhile_of_kept {α : Type} {drop : α → Bool} {element : α} (kept : drop element = false)
    {elements : List α} (member : element ∈ elements) : element ∈ elements.dropWhile drop := by
  rw [← List.takeWhile_append_dropWhile (p := drop) (l := elements)] at member
  rcases List.mem_append.mp member with taken | left
  · rw [List.mem_takeWhile_imp taken] at kept
    cases kept
  · exact left

/-- What is not to be dropped is left. -/
theorem mem_stripWhere_of_kept {α : Type} {drop : α → Bool} {element : α} (kept : drop element = false)
    {elements : List α} (member : element ∈ elements) : element ∈ stripWhere drop elements := by
  rw [stripWhere, List.mem_reverse]
  apply mem_dropWhile_of_kept kept
  rw [List.mem_reverse]
  exact mem_dropWhile_of_kept kept member

end Text

namespace Path

/-- What is no separator is in one of the parts. -/
theorem exists_mem_split {α : Type} [DecidableEq α] {separator element : α} (differ : element ≠ separator)
    {elements : List α} (member : element ∈ elements) :
    ∃ part ∈ split separator elements, element ∈ part := by
  induction elements with
  | nil => cases member
  | cons c rest ih =>
      rw [split]
      by_cases ends : c = separator
      · rw [if_pos ends]
        rcases List.mem_cons.mp member with same | later
        · exact absurd (same.trans ends) differ
        · obtain ⟨part, there, within⟩ := ih later
          exact ⟨part, List.mem_cons_of_mem _ there, within⟩
      · rw [if_neg ends]
        cases parts : split separator rest with
        | nil => exact absurd parts (split_ne_nil separator rest)
        | cons first others =>
            rcases List.mem_cons.mp member with same | later
            · exact ⟨c :: first, List.mem_cons_self, same ▸ List.mem_cons_self⟩
            · obtain ⟨part, there, within⟩ := ih later
              rw [parts] at there
              rcases List.mem_cons.mp there with same | other
              · exact ⟨c :: first, List.mem_cons_self, List.mem_cons_of_mem _ (same ▸ within)⟩
              · exact ⟨part, List.mem_cons_of_mem _ other, within⟩

/-- A broken full name lists a broken name. -/
theorem exists_broken_name {fullName : List Glyph} (isBroken : Glyph.text? fullName = none) :
    ∃ name ∈ brokenNames fullName, name.text? = none := by
  obtain ⟨half, member, isHalf⟩ := Glyph.text?_eq_none_iff.mp isBroken
  have differ : half ≠ .char '/' := by
    rintro rfl
    cases isHalf
  have kept : half ∈ Text.stripWhere (· == .char '/') fullName := by
    apply Text.mem_stripWhere_of_kept _ member
    exact beq_false_of_ne differ
  obtain ⟨part, there, within⟩ := exists_mem_split differ kept
  refine ⟨_, List.mem_map_of_mem there, ?_⟩
  rw [Text.Wide.text?_ofGlyphs]
  exact Glyph.text?_eq_none_iff.mpr ⟨half, within, isHalf⟩

end Path

namespace Workspace.Objects

variable (objects : Objects)

theorem childWide?_sound (group : GroupId) (name : String) :
    objects.childWide? group (.sound name) = objects.child? group name := by
  unfold childWide? child?
  congr 1
  funext id
  cases objects.item? id with
  | none => rfl
  | some item => exact Wide.sound_beq_sound item.name.text name

theorem childWide?_of_broken (group : GroupId) {name : Wide} (isBroken : name.text? = none) :
    objects.childWide? group name = none := by
  apply List.find?_eq_none.mpr
  intro id _
  cases objects.item? id with
  | none => simp
  | some item =>
      cases name with
      | sound text => cases isBroken
      | broken glyphs broken => simp

/-- A path with a broken name in it leads nowhere. -/
theorem followWide?_of_broken (group : GroupId) {names : List Wide}
    (isBroken : ∃ name ∈ names, name.text? = none) : objects.followWide? group names = none := by
  induction names generalizing group with
  | nil => rfl
  | cons name rest ih =>
      cases rest with
      | nil =>
          obtain ⟨other, member, broken⟩ := isBroken
          cases List.mem_singleton.mp member
          exact objects.childWide?_of_broken group broken
      | cons next rest =>
          rw [followWide?]
          · rcases List.exists_mem_cons_iff .. |>.mp isBroken with first | later
            · rw [childWide?_of_broken _ _ first]
              rfl
            · simp only [ih _ later, Option.bind_fun_none]
          · simp

theorem byWideName?_broken (space : SpaceId) {fullName : List Glyph}
    (isBroken : Glyph.text? fullName = none) :
    objects.byWideName? space (.broken fullName isBroken) = none :=
  objects.followWide?_of_broken _ (Path.exists_broken_name isBroken)

theorem viewWideNamed?_sound (space : SpaceId) (name : String) :
    objects.viewWideNamed? space (.sound name) = objects.viewNamed? space name := by
  unfold viewWideNamed? viewNamed?
  congr 1
  funext id
  cases objects.view? id with
  | none => rfl
  | some view => exact Wide.sound_beq_sound view.name.text name

theorem viewWideNamed?_broken (space : SpaceId) {name : List Glyph}
    (isBroken : Glyph.text? name = none) :
    objects.viewWideNamed? space (.broken name isBroken) = none := by
  apply List.find?_eq_none.mpr
  intro id _
  cases objects.view? id <;> simp

end Workspace.Objects

end Wayfinder
