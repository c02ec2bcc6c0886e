import Wayfinder.Proofs.Storage.Loading
import Wayfinder.Proofs.Storage.Lookups
import Wayfinder.Proofs.Storage.Runs

/-!
# Operations that the database does not fail

While the rows fit together, a lookup never finds two rows, a membership is only stored when it is new,
and a repeated name is noticed as such. So an operation is refused for a reason of the workspace; the
database itself only ever refuses a text that it cannot encode.
-/

namespace Wayfinder.Storage

open Text (Wide)

variable {α β : Type}

/-- An outcome that is no failure of the database, other than one to encode a text. -/
def Dependable (outcome : Except OperationFault α) : Prop :=
  ∀ fault, outcome = .error (.storage fault) → fault = .unencodable

namespace Dependable

@[simp] theorem ok (value : α) : Dependable (.ok value : Except OperationFault α) := by
  intro fault failed
  cases failed

@[simp] theorem refuse (fault : Workspace.Fault) :
    Dependable (Storage.refuse fault : Except OperationFault α) := by
  intro other failed
  cases failed

theorem of_eq_ok {outcome : Except OperationFault α} {value : α} (ended : outcome = .ok value) :
    Dependable outcome :=
  ended ▸ ok value

theorem bind {first : Except OperationFault α} {next : α → Except OperationFault β}
    (begun : Dependable first) (after : ∀ value, first = .ok value → Dependable (next value)) :
    Dependable (first >>= next) := by
  cases first with
  | error fault =>
      intro other failed
      cases failed
      exact begun other rfl
  | ok value => exact after value rfl

theorem map {outcome : Except OperationFault α} (begun : Dependable outcome) (change : α → β) :
    Dependable (outcome.map change) := by
  intro fault failed
  exact begun fault (map_eq_error_iff.mp failed)

theorem mapM {items : List β} {next : β → Except OperationFault α}
    (each : ∀ item, Dependable (next item)) : Dependable (items.mapM next) := by
  induction items with
  | nil => exact ok []
  | cons item items ih =>
      rw [List.mapM_cons]
      apply bind (each item)
      intro value _
      apply bind ih
      intro values _
      exact ok (value :: values)

/-- The fault of a dependable outcome, or that of the text that comes up after it. -/
theorem faultBefore {outcome : Except OperationFault α} (begun : Dependable outcome) :
    Dependable (.error (Storage.faultBefore outcome) : Except OperationFault β) := by
  intro fault failed
  cases outcome with
  | error other => exact begun fault (by rw [← Except.error.inj failed]; rfl)
  | ok value =>
      cases failed
      rfl

end Dependable

theorem dependable_requireName (name : String) : Dependable (requireName name) := by
  unfold requireName
  split
  · exact .ok ()
  · exact .refuse _

theorem dependable_encode (text : Wide) : Dependable (encode text) := by
  cases text with
  | sound text => exact .ok text
  | broken glyphs =>
      intro fault failed
      cases failed
      rfl

theorem dependable_requireWideName (name : Wide) : Dependable (requireWideName name) := by
  unfold requireWideName
  split
  · exact .ok ()
  · exact .refuse _

namespace Tables.WellFormed

variable {tables : Tables} (wellFormed : tables.WellFormed)

include wellFormed

theorem dependable_findChild (overlooked : Option String) (parent : Option Int) (name : String) :
    Dependable (tables.findChild overlooked parent name) :=
  .of_eq_ok (wellFormed.findChild_eq overlooked parent name)

theorem dependable_findPath (overlooked : Option String) (parent : Option Int) (names : List String) :
    Dependable (tables.findPath overlooked parent names) := by
  induction names generalizing parent with
  | nil => exact .ok none
  | cons name rest ih =>
      cases rest with
      | nil => exact wellFormed.dependable_findChild overlooked parent name
      | cons next rest =>
          rw [findPath]
          · apply Dependable.bind (wellFormed.dependable_findChild overlooked parent name)
            intro found _
            cases found with
            | none => exact .ok none
            | some row => exact ih (some row.id)
          · simp

theorem dependable_getItem (fullName : String) (overlooked : Option String) :
    Dependable (tables.getItem fullName overlooked) := by
  apply Dependable.bind (wellFormed.dependable_findPath overlooked none (Path.names fullName))
  intro found _
  cases found with
  | none => exact .refuse _
  | some row => exact .ok row

theorem dependable_getItems (fullNames : List String) : Dependable (tables.getItems fullNames) :=
  .mapM fun fullName => wellFormed.dependable_getItem fullName none

theorem dependable_findView (name : String) : Dependable (tables.findView name) :=
  .of_eq_ok (wellFormed.findView_eq name)

theorem dependable_getView (name : String) : Dependable (tables.getView name) := by
  apply Dependable.bind (wellFormed.dependable_findView name)
  intro found _
  cases found with
  | none => exact .refuse _
  | some row => exact .ok row

theorem dependable_parentFolder (overlooked parent : Option String) :
    Dependable (tables.parentFolder overlooked parent) := by
  unfold parentFolder
  split
  case h_1 => exact .ok none
  case h_2 fullName _ =>
    apply Dependable.bind (wellFormed.dependable_getItem fullName overlooked)
    intro row _
    cases row.kind with
    | folder => exact .ok _
    | job => exact .refuse _

theorem dependable_brokenNameFault (overlooked : Option String) (fullName : List Text.Glyph) :
    Dependable (.error (tables.brokenNameFault overlooked fullName) : Except OperationFault α) := by
  unfold brokenNameFault
  split
  case h_1 =>
    intro fault failed
    cases failed
    rfl
  case h_2 =>
    apply Dependable.faultBefore
    apply Dependable.bind (wellFormed.dependable_findPath overlooked none _)
    intro found _
    cases found with
    | none => exact .refuse _
    | some row => exact .ok ()

theorem dependable_getWideItem (fullName : Wide) (overlooked : Option String) :
    Dependable (tables.getWideItem fullName overlooked) := by
  cases fullName with
  | sound fullName => exact wellFormed.dependable_getItem fullName overlooked
  | broken fullName => exact wellFormed.dependable_brokenNameFault overlooked fullName

theorem dependable_wideParentFolder (overlooked : Option String) (parent : Option Wide) :
    Dependable (tables.wideParentFolder overlooked parent) := by
  cases parent with
  | none => exact .ok none
  | some parent =>
      cases parent with
      | sound parent => exact wellFormed.dependable_parentFolder overlooked (some parent)
      | broken parent => exact wellFormed.dependable_brokenNameFault overlooked parent

theorem dependable_findWideChild (overlooked : Option String) (parent : Option Int) (name : Wide) :
    Dependable (tables.findWideChild overlooked parent name) :=
  .bind (dependable_encode name) fun text _ => wellFormed.dependable_findChild overlooked parent text

theorem dependable_findWideView (name : Wide) : Dependable (tables.findWideView name) :=
  .bind (dependable_encode name) fun text _ => wellFormed.dependable_findView text

theorem dependable_getWideView (name : Wide) : Dependable (tables.getWideView name) :=
  .bind (dependable_encode name) fun text _ => wellFormed.dependable_getView text

theorem dependable_createItem (overlooked : Option String) (missed : Bool) (name : String)
    (kind : ItemKind) (displayName parent : Option String) :
    Dependable ((⟨some tables⟩ : Database).createItemOverlooking overlooked missed name kind displayName
      parent) := by
  apply Dependable.bind (dependable_requireName name)
  intro _ _
  apply Dependable.bind (.ok tables)
  intro _ same
  cases same
  apply Dependable.bind (wellFormed.dependable_parentFolder overlooked parent)
  intro parentId _
  apply Dependable.bind
  · cases missed with
    | true => exact .ok none
    | false => exact wellFormed.dependable_findChild overlooked parentId name
  intro taken _
  split
  · exact .refuse _
  · dsimp only
    split
    · exact .refuse _
    · exact .ok _

theorem dependable_updateItem (fullName : String) (changes : ItemChanges) :
    Dependable ((⟨some tables⟩ : Database).updateItem fullName changes) := by
  apply Dependable.bind (.ok tables)
  intro _ same
  cases same
  apply Dependable.bind (wellFormed.dependable_getItem fullName none)
  intro row _
  split
  · exact .refuse _
  · exact .ok _

theorem dependable_deleteItem (fullName : String) :
    Dependable ((⟨some tables⟩ : Database).deleteItem fullName) := by
  apply Dependable.bind (.ok tables)
  intro _ same
  cases same
  apply Dependable.bind (wellFormed.dependable_getItem fullName none)
  intro row _
  exact .ok _

theorem dependable_setPrimaryView (name : String) :
    Dependable ((⟨some tables⟩ : Database).setPrimaryView name) := by
  apply Dependable.bind (.ok tables)
  intro _ same
  cases same
  apply Dependable.bind (wellFormed.dependable_getView name)
  intro row _
  exact .ok _

theorem dependable_createView (name : String) (members : List String) (primary missed : Bool) :
    Dependable ((⟨some tables⟩ : Database).createView name members primary missed) := by
  apply Dependable.bind (dependable_requireName name)
  intro _ accepted
  apply Dependable.bind (.ok tables)
  intro _ same
  cases same
  apply Dependable.bind (wellFormed.dependable_findView name)
  intro taken _
  split
  · exact .refuse _
  · apply Dependable.bind (wellFormed.dependable_getItems members)
    intro items found
    dsimp only
    split
    case h_1 => exact .refuse _
    case h_2 changed stored =>
      split
      · obtain ⟨viewed, inserted, listed⟩ := Option.bind_eq_some_iff.mp stored
        have isListed := wellFormed.insertListing (of?_of_requireName accepted)
          (mem_of_getItems found) inserted listed
        apply Dependable.bind (isListed.1.dependable_setPrimaryView name)
        intro chosen _
        exact .ok _
      · exact .ok _

theorem dependable_addViewMember (name fullName : String) :
    Dependable ((⟨some tables⟩ : Database).addViewMember name fullName) := by
  apply Dependable.bind (.ok tables)
  intro _ same
  cases same
  apply Dependable.bind (wellFormed.dependable_getView name)
  intro view _
  apply Dependable.bind (wellFormed.dependable_getItem fullName none)
  intro item _
  dsimp only
  split
  case isTrue => exact .ok _
  case isFalse fresh =>
    have stored : tables.insertMember ⟨view.id, item.id⟩ = some _ := if_neg fresh
    rw [stored]
    exact .ok _

theorem dependable_load : Dependable (⟨some tables⟩ : Database).load.result := by
  obtain ⟨objects, made, -⟩ := Database.IsSound.load_result ⟨tables, rfl, wellFormed.toIsSound⟩
  exact .of_eq_ok made

theorem dependable_brokenItemFault (overlooked : Option String) (missed : Bool) (name : Wide)
    (parent : Option Wide) :
    Dependable (.error ((⟨some tables⟩ : Database).brokenItemFault overlooked missed name parent) :
      Except OperationFault α) := by
  apply Dependable.faultBefore
  apply Dependable.bind (dependable_requireWideName name)
  intro _ _
  apply Dependable.bind (.ok tables)
  intro _ same
  cases same
  apply Dependable.bind (wellFormed.dependable_wideParentFolder overlooked parent)
  intro parentId _
  cases missed with
  | true => exact .ok ()
  | false =>
      apply Dependable.bind (wellFormed.dependable_findWideChild overlooked parentId name)
      intro taken _
      cases taken with
      | none => exact .ok ()
      | some row => exact .refuse _

theorem dependable_createWideItem (overlooked : Option String) (missed : Bool) (name : Wide)
    (kind : ItemKind) (displayName parent : Option Wide) :
    Dependable ((⟨some tables⟩ : Database).createWideItem overlooked missed name kind displayName
      parent) := by
  unfold Database.createWideItem
  split
  · exact wellFormed.dependable_createItem overlooked missed _ kind _ _
  · exact wellFormed.dependable_brokenItemFault overlooked missed _ parent

theorem dependable_updateWideItem (fullName : Wide) (changes : WideChanges) :
    Dependable ((⟨some tables⟩ : Database).updateWideItem fullName changes) := by
  unfold Database.updateWideItem
  split
  · exact wellFormed.dependable_updateItem _ _
  · exact .faultBefore (wellFormed.dependable_updateItem _ _)
  · exact .faultBefore (wellFormed.dependable_getWideItem _ none)

theorem dependable_deleteWideItem (fullName : Wide) :
    Dependable ((⟨some tables⟩ : Database).deleteWideItem fullName) := by
  cases fullName with
  | sound fullName => exact wellFormed.dependable_deleteItem fullName
  | broken glyphs isBroken =>
      exact .faultBefore (wellFormed.dependable_getWideItem (.broken glyphs isBroken) none)

theorem dependable_brokenViewFault (name : Wide) (members : List Wide) (missed : Bool) :
    Dependable (.error ((⟨some tables⟩ : Database).brokenViewFault name members missed) :
      Except OperationFault α) := by
  have listed : Dependable (do let _items ← tables.getWideItems members) :=
    .bind (.mapM fun fullName => wellFormed.dependable_getWideItem fullName none) fun _ _ => .ok ()
  apply Dependable.faultBefore
  apply Dependable.bind (dependable_requireWideName name)
  intro _ _
  apply Dependable.bind (.ok tables)
  intro _ same
  cases same
  cases missed with
  | true => exact listed
  | false =>
      apply Dependable.bind (wellFormed.dependable_findWideView name)
      intro taken _
      cases taken with
      | some row => exact .refuse _
      | none => exact listed

theorem dependable_createWideView (name : Wide) (members : List Wide) (primary missed : Bool) :
    Dependable ((⟨some tables⟩ : Database).createWideView name members primary missed) := by
  unfold Database.createWideView
  split
  · exact wellFormed.dependable_createView _ _ primary missed
  · exact wellFormed.dependable_brokenViewFault _ members missed

theorem dependable_addWideMember (name fullName : Wide) :
    Dependable ((⟨some tables⟩ : Database).addWideMember name fullName) := by
  unfold Database.addWideMember
  split
  · exact wellFormed.dependable_addViewMember _ _
  · apply Dependable.faultBefore
    apply Dependable.bind (wellFormed.dependable_getWideView name)
    intro view _
    exact wellFormed.dependable_getWideItem _ none

theorem dependable_setPrimaryWideView (name : Wide) :
    Dependable ((⟨some tables⟩ : Database).setPrimaryWideView name) := by
  cases name with
  | sound name => exact wellFormed.dependable_setPrimaryView name
  | broken glyphs isBroken =>
      exact .faultBefore (wellFormed.dependable_getWideView (.broken glyphs isBroken))

/-- No operation is failed by the database, other than over a text that it cannot encode. -/
theorem dependable_apply (operation : Operation) : Dependable (operation.apply ⟨some tables⟩) := by
  cases operation with
  | createItem overlooked missed name kind displayName parent =>
      apply Dependable.map
      exact wellFormed.dependable_createWideItem overlooked missed name kind displayName parent
  | updateItem fullName changes =>
      exact (wellFormed.dependable_updateWideItem fullName changes).map Commit.database
  | deleteItem fullName => exact (wellFormed.dependable_deleteWideItem fullName).map Commit.database
  | createView name members primary missed =>
      apply Dependable.map
      exact wellFormed.dependable_createWideView name members primary missed
  | addViewMember name fullName =>
      exact (wellFormed.dependable_addWideMember name fullName).map Commit.database
  | setPrimaryView name => exact (wellFormed.dependable_setPrimaryWideView name).map Commit.database
  | getItem fullName => exact (wellFormed.dependable_getWideItem fullName none).map _
  | getView name => exact (wellFormed.dependable_getWideView name).map _
  | load => exact wellFormed.dependable_load.map _

end Tables.WellFormed

end Wayfinder.Storage
