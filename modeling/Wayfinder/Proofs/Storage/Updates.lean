import Wayfinder.Proofs.Storage.Agreement
import Wayfinder.Proofs.Storage.Sessions

/-!
# Updated rows

An update finds its item and changes two of its columns, or is refused and leaves the rows alone. Since no
update moves or renames anything, updates find the same items in any order, and the changed rows describe
the items with their setters called.
-/

namespace Wayfinder.Storage

open Workspace
open Text (Glyph Wide)

namespace ItemChanges

/-- Whether an item can take the changes: only a job is disabled or enabled. -/
def Suits (changes : ItemChanges) (kind : ItemKind) : Prop :=
  (changes.disabled.bind id).isSome = true → kind = .job

instance (changes : ItemChanges) (kind : ItemKind) : Decidable (changes.Suits kind) :=
  inferInstanceAs (Decidable (_ → _))

/-- Whether no column is changed by both. -/
def Apart (left right : ItemChanges) : Prop :=
  (left.displayName = none ∨ right.displayName = none) ∧
    (left.disabled.bind id = none ∨ right.disabled.bind id = none)

/-- Call the setters of an item in memory: the one for the display name if a value for it is given, and
the one that disables or enables it if it is given which. -/
def set (changes : ItemChanges) (item : Item) : Item :=
  let shown := match changes.displayName with
    | some value => item.withDisplayName value
    | none => item
  match changes.disabled.bind id with
  | some disabled => shown.withDisabled disabled
  | none => shown

/-- The row of a given identifier with the changes applied; other rows as they are. -/
def applyAt (changes : ItemChanges) (key : Int) (row : ItemRow) : ItemRow :=
  if row.id = key then changes.apply row else row

theorem apply_apply (changes : ItemChanges) (row : ItemRow) :
    changes.apply (changes.apply row) = changes.apply row := by
  simp only [apply, ItemRow.mk.injEq, true_and]
  constructor
  · cases changes.displayName <;> rfl
  · cases changes.disabled.bind id <;> rfl

theorem Apart.apply_comm {left right : ItemChanges} (apart : left.Apart right) (row : ItemRow) :
    left.apply (right.apply row) = right.apply (left.apply row) := by
  obtain ⟨display, disabled⟩ := apart
  simp only [apply, ItemRow.mk.injEq, true_and]
  constructor
  · rcases display with none | none <;> simp only [none]
  · rcases disabled with none | none <;> simp only [none, Option.getD_none]

theorem applyAt_applyAt (changes : ItemChanges) (key : Int) (row : ItemRow) :
    changes.applyAt key (changes.applyAt key row) = changes.applyAt key row := by
  by_cases same : row.id = key
  · have again : (changes.apply row).id = key := same
    rw [applyAt, applyAt, if_pos same, if_pos again, apply_apply]
  · rw [applyAt, applyAt, if_neg same, if_neg same]

theorem applyAt_comm {left right : ItemChanges} {key other : Int}
    (apart : key = other → left.Apart right) (row : ItemRow) :
    left.applyAt key (right.applyAt other row) = right.applyAt other (left.applyAt key row) := by
  have id_apply (changes : ItemChanges) : (changes.apply row).id = row.id := rfl
  by_cases first : row.id = key
  · by_cases second : row.id = other
    · have both := apart (first.symm.trans second)
      simp only [applyAt, if_pos first, if_pos second, id_apply, both.apply_comm row]
    · simp only [applyAt, if_pos first, if_neg second, id_apply]
  · simp only [applyAt, if_neg first]
    split
    case isTrue => rw [id_apply, if_neg first]
    case isFalse => rfl

end ItemChanges

namespace WideChanges

/-- Whether the changes ask for a display name that is broken. -/
def ShowsBroken (changes : WideChanges) : Prop :=
  ∃ shown, changes.displayName = some (some shown) ∧ shown.text? = none

/-- Whether no column is changed by both. -/
def Apart (left right : WideChanges) : Prop :=
  (left.displayName = none ∨ right.displayName = none) ∧
    (left.disabled.bind id = none ∨ right.disabled.bind id = none)

theorem sound?_eq_none_iff {changes : WideChanges} : changes.sound? = none ↔ changes.ShowsBroken := by
  obtain ⟨_ | _ | _ | _, disabled, others⟩ := changes <;> simp [sound?, ShowsBroken, Wide.text?]

/-- Whether an item can take the changes: only a job is disabled or enabled. -/
def Suits (changes : WideChanges) (kind : ItemKind) : Prop :=
  (changes.disabled.bind id).isSome = true → kind = .job

instance (changes : WideChanges) (kind : ItemKind) : Decidable (changes.Suits kind) :=
  inferInstanceAs (Decidable (_ → _))

theorem apart_wide {left right : ItemChanges} (apart : left.wide.Apart right.wide) : left.Apart right := by
  obtain ⟨display, disabled⟩ := apart
  simp only [ItemChanges.wide, Option.map_eq_none_iff] at display
  exact ⟨display, disabled⟩

end WideChanges

/-- A change to rows that moves and renames nothing, and makes no job a folder. -/
structure KeepsPlace (change : ItemRow → ItemRow) : Prop where
  id : ∀ row, (change row).id = row.id
  parentId : ∀ row, (change row).parentId = row.parentId
  kind : ∀ row, (change row).kind = row.kind
  name : ∀ row, (change row).name = row.name

theorem keepsPlace_applyAt (changes : ItemChanges) (key : Int) : KeepsPlace (changes.applyAt key) := by
  constructor <;> intro row <;> unfold ItemChanges.applyAt <;> split <;> rfl

section Places

variable {change : ItemRow → ItemRow} (keeps : KeepsPlace change) (rows : List ItemRow)

include keeps

theorem KeepsPlace.objectOf_map (id : Int) : objectOf (rows.map change) id = objectOf rows id := by
  have ids : (rows.map change).map ItemRow.id = rows.map ItemRow.id := by
    rw [List.map_map]
    exact List.map_congr_left fun row _ => keeps.id row
  rw [objectOf, ids, objectOf]

theorem KeepsPlace.groupOf_map (parent : Option Int) :
    groupOf (rows.map change) parent = groupOf rows parent := by
  cases parent with
  | none => rfl
  | some id => rw [groupOf, keeps.objectOf_map, groupOf]

theorem KeepsPlace.childrenOf_map (parent : Option Int) :
    childrenOf (rows.map change) parent = childrenOf rows parent := by
  rw [childrenOf, List.filter_map, List.map_map, childrenOf]
  simp only [Function.comp_def, keeps.parentId, keeps.id, keeps.objectOf_map]

end Places

namespace Tables

/-- The tables with the changes applied to the item of a given identifier. -/
def changeItem (tables : Tables) (key : Int) (changes : ItemChanges) : Tables :=
  { tables with items := tables.items.map (changes.applyAt key) }

/-- A path of names leads to the same row as before. -/
theorem follow?_map (tables : Tables) {change : ItemRow → ItemRow} (keeps : KeepsPlace change)
    (parent : Option Int) (names : List String) :
    ({ tables with items := tables.items.map change } : Tables).follow? parent names =
      (tables.follow? parent names).map change := by
  have child (parent : Option Int) (name : String) :
      ({ tables with items := tables.items.map change } : Tables).child? parent name =
        (tables.child? parent name).map change := by
    rw [child?, List.find?_map, child?]
    simp only [Function.comp_def, keeps.name, keeps.parentId]
  induction names generalizing parent with
  | nil => rfl
  | cons name rest ih =>
      cases rest with
      | nil => exact child parent name
      | cons next rest =>
          rw [follow?, follow?, child]
          · cases tables.child? parent name with
            | none => rfl
            | some row =>
                rw [Option.map_some, Option.bind_some, keeps.id]
                exact ih (some row.id)
          · simp
          · simp

/-- The tables with the changes applied to an item, if there is one and it can take them. -/
def changeIfSuited (tables : Tables) (target : Option ItemRow) (changes : ItemChanges) : Tables :=
  match target with
  | some row => if changes.Suits row.kind then tables.changeItem row.id changes else tables
  | none => tables

theorem changeIfSuited_none (tables : Tables) (changes : ItemChanges) :
    tables.changeIfSuited none changes = tables := rfl

theorem changeIfSuited_of_suits {changes : ItemChanges} {row : ItemRow} (tables : Tables)
    (suits : changes.Suits row.kind) :
    tables.changeIfSuited (some row) changes = tables.changeItem row.id changes :=
  if_pos suits

theorem changeIfSuited_of_unsuited {changes : ItemChanges} {row : ItemRow} (tables : Tables)
    (unsuited : ¬changes.Suits row.kind) : tables.changeIfSuited (some row) changes = tables :=
  if_neg unsuited

/-- Which item is changed, and whether it can be, does not depend on changes made before. -/
theorem changeIfSuited_map (tables : Tables) {change : ItemRow → ItemRow} (keeps : KeepsPlace change)
    (target : Option ItemRow) (changes : ItemChanges) :
    tables.changeIfSuited (target.map change) changes = tables.changeIfSuited target changes := by
  cases target with
  | none => rfl
  | some row => simp only [changeIfSuited, Option.map_some, keeps.kind, keeps.id]

theorem changeItem_changeItem (tables : Tables) (key : Int) (changes : ItemChanges) :
    (tables.changeItem key changes).changeItem key changes = tables.changeItem key changes := by
  simp only [changeItem, List.map_map, Function.comp_def, changes.applyAt_applyAt]

theorem changeItem_comm (tables : Tables) {key other : Int} {left right : ItemChanges}
    (apart : key = other → left.Apart right) :
    (tables.changeItem other right).changeItem key left =
      (tables.changeItem key left).changeItem other right := by
  simp only [changeItem, List.map_map, Function.comp_def, ItemChanges.applyAt_comm apart]

/-- The tables after an update, carried out or refused. -/
def updated (tables : Tables) (fullName : String) (changes : ItemChanges) : Tables :=
  tables.changeIfSuited (tables.follow? none (Path.names fullName)) changes

theorem updated_cases (tables : Tables) (fullName : String) (changes : ItemChanges) :
    tables.updated fullName changes = tables ∨
      ∃ key, tables.updated fullName changes = tables.changeItem key changes := by
  rw [updated]
  cases tables.follow? none (Path.names fullName) with
  | none => exact .inl rfl
  | some row =>
      by_cases suits : changes.Suits row.kind
      · exact .inr ⟨row.id, changeIfSuited_of_suits tables suits⟩
      · exact .inl (changeIfSuited_of_unsuited tables suits)

/-- After an update, the next one finds the item that it would have found before. -/
theorem updated_updated (tables : Tables) (first second : String) (left right : ItemChanges) :
    (tables.updated first left).updated second right =
      (tables.updated first left).changeIfSuited (tables.follow? none (Path.names second)) right := by
  rcases updated_cases tables first left with refused | ⟨key, carried⟩
  · rw [refused, updated]
  · have keeps := keepsPlace_applyAt left key
    rw [carried, updated, changeItem, follow?_map tables keeps, changeIfSuited_map _ keeps]

/-- The same update made twice is the update made once. -/
theorem updated_idem (tables : Tables) (fullName : String) (changes : ItemChanges) :
    (tables.updated fullName changes).updated fullName changes = tables.updated fullName changes := by
  rw [updated_updated, updated]
  cases tables.follow? none (Path.names fullName) with
  | none => rfl
  | some row =>
      by_cases suits : changes.Suits row.kind
      · rw [changeIfSuited_of_suits _ suits, changeIfSuited_of_suits _ suits, changeItem_changeItem]
      · rw [changeIfSuited_of_unsuited _ suits, changeIfSuited_of_unsuited _ suits]

/-- Updates of different items, or of different columns of one, can be made in either order. -/
theorem updated_comm (tables : Tables) {first second : String} {left right : ItemChanges}
    (apart : ∀ row other, tables.follow? none (Path.names first) = some row →
      tables.follow? none (Path.names second) = some other → row.id = other.id → left.Apart right) :
    (tables.updated first left).updated second right =
      (tables.updated second right).updated first left := by
  rw [updated_updated, updated_updated, updated, updated]
  cases found : tables.follow? none (Path.names first) with
  | none => rw [changeIfSuited_none, changeIfSuited_none]
  | some row =>
      cases found' : tables.follow? none (Path.names second) with
      | none => rw [changeIfSuited_none, changeIfSuited_none]
      | some other =>
          by_cases suits : left.Suits row.kind
          · by_cases suits' : right.Suits other.kind
            · rw [changeIfSuited_of_suits _ suits, changeIfSuited_of_suits _ suits',
                changeIfSuited_of_suits _ suits, changeIfSuited_of_suits _ suits']
              exact (changeItem_comm tables (apart row other found found')).symm
            · rw [changeIfSuited_of_unsuited _ suits', changeIfSuited_of_unsuited _ suits']
          · rw [changeIfSuited_of_unsuited _ suits, changeIfSuited_of_unsuited _ suits]

/-- On tables that know an item by its identifier, storing the changed row is changing the row. -/
theorem replaceItem_apply {tables : Tables} (wellFormed : tables.WellFormed) {row : ItemRow}
    (stored : row ∈ tables.items) (changes : ItemChanges) :
    tables.replaceItem (changes.apply row) = tables.changeItem row.id changes := by
  simp only [replaceItem, changeItem, mk.injEq, and_true]
  apply List.map_congr_left
  intro other there
  have kept : (changes.apply row).id = row.id := rfl
  rw [ItemChanges.applyAt, kept]
  by_cases same : other.id = row.id
  · rw [if_pos (beq_iff_eq.mpr same), if_pos same, wellFormed.eq_of_itemId there stored same]
  · rw [if_neg (mt beq_iff_eq.mp same), if_neg same]

end Tables

/-- An update of sound texts, on tables that fit together: how it ends, and what it leaves. -/
theorem ending_updateItem {tables : Tables} (wellFormed : tables.WellFormed) (fullName : String)
    (changes : ItemChanges) :
    ending ⟨some tables⟩ ((⟨some tables⟩ : Database).updateItem fullName changes) =
      (match tables.follow? none (Path.names fullName) with
        | none => refuse (.noItem fullName)
        | some row =>
            if changes.Suits row.kind then .ok (changes.apply row)
            else refuse (.folderNotDisabled fullName),
        ⟨some (tables.updated fullName changes)⟩) := by
  rw [Database.updateItem, Database.tables_bind, wellFormed.getItem_eq, Tables.updated]
  cases found : tables.follow? none (Path.names fullName) with
  | none => rfl
  | some row =>
      have stored := Tables.mem_of_follow? found
      rw [ok_bind]
      by_cases suits : changes.Suits row.kind
      · have allowed : ¬((changes.disabled.bind id).isSome && row.kind == .folder) = true := by
          intro both
          obtain ⟨asked, folder⟩ := Bool.and_eq_true_iff.mp both
          rw [suits asked] at folder
          cases folder
        rw [if_neg allowed, Tables.changeIfSuited_of_suits _ suits,
          ← Tables.replaceItem_apply wellFormed stored]
        simp only [if_pos suits]
        rfl
      · have folder : ((changes.disabled.bind id).isSome && row.kind == .folder) = true := by
          rw [ItemChanges.Suits, Classical.not_imp] at suits
          cases kind : row.kind with
          | job => exact absurd kind suits.2
          | folder => rw [suits.1]; rfl
        rw [if_pos folder, Tables.changeIfSuited_of_unsuited _ suits]
        simp only [if_neg suits]
        rfl

section Portrait

variable {tables : Tables} {objects : Objects} {row : ItemRow} {changes : ItemChanges}

/-- The row with the changes applied describes the item with its setters called. -/
theorem itemFor_apply (suits : changes.Suits row.kind) (rows : List ItemRow) (name : Name) :
    itemFor rows (changes.apply row) name = changes.set (itemFor rows row name) := by
  obtain ⟨displayName, disabled, others⟩ := changes
  obtain ⟨key, parentId, kind, text, shown, flag⟩ := row
  cases asked : disabled.bind id with
  | none =>
      simp only [ItemChanges.set, ItemChanges.apply, asked]
      cases displayName <;> cases kind <;> simp [itemFor, bodyOf, Item.withDisplayName]
  | some value =>
      cases (suits (by rw [asked]; rfl) : kind = .job)
      simp only [ItemChanges.set, ItemChanges.apply, asked]
      cases displayName <;> simp [itemFor, bodyOf, Item.withDisplayName, Item.withDisabled]

theorem itemFor_map {change : ItemRow → ItemRow} (keeps : KeepsPlace change) (rows : List ItemRow)
    (row : ItemRow) (name : Name) : itemFor (rows.map change) row name = itemFor rows row name := by
  simp only [itemFor, bodyOf, keeps.groupOf_map, keeps.childrenOf_map]

/-- Setting the fields of one object gives the portrait of the tables with its row changed. -/
theorem Portrays.changeItem (portrays : Portrays objects tables) (wellFormed : tables.WellFormed)
    (stored : row ∈ tables.items) (suits : changes.Suits row.kind) :
    Portrays (objects.modifyItem (objectOf tables.items row.id) changes.set)
      (tables.changeItem row.id changes) := by
  have keeps := keepsPlace_applyAt changes row.id
  have listed : (tables.changeItem row.id changes).listedItems = tables.listedItems := by
    funext view
    simp only [Tables.listedItems, Tables.changeItem, List.filter_map, List.map_map,
      Function.comp_def, keeps.id, keeps.objectOf_map]
  have places : (objects.modifyItem (objectOf tables.items row.id) changes.set).itemIds =
      objects.itemIds := by
    simp [Objects.itemIds, Objects.modifyItem]
  refine ⟨⟨?_, ?_⟩, ?_, ?_⟩
  · rw [places, portrays.itemIds]
    simp only [Tables.changeItem, List.map_map, Function.comp_def, keeps.id, keeps.objectOf_map]
  · intro changed member
    obtain ⟨other, there, rfl⟩ := List.mem_map.mp member
    obtain ⟨name, text, found⟩ := portrays.item? other there
    refine ⟨name, text.trans (keeps.name other).symm, ?_⟩
    simp only [Tables.changeItem, keeps.id, keeps.objectOf_map, itemFor_map keeps]
    rw [Objects.item?_modifyItem, found]
    by_cases same : other.id = row.id
    · cases wellFormed.eq_of_itemId there stored same
      rw [if_pos rfl, ItemChanges.applyAt, if_pos rfl, itemFor_apply suits, Option.map_some]
    · have apart : objectOf tables.items other.id ≠ objectOf tables.items row.id :=
        fun equal => same (objectOf_inj there equal)
      rw [if_neg apart, ItemChanges.applyAt, if_neg same]
  · rw [listed]
    exact portrays.toPortraysViews.of_views rfl
  · have children := keeps.childrenOf_map tables.items none
    refine portrays.spaces.trans ?_
    rw [spaceFor, spaceFor, Tables.changeItem, children]

end Portrait

end Wayfinder.Storage
