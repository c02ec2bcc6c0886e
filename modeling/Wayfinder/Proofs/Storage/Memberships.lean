import Wayfinder.Proofs.Storage.Locations

/-!
# What one operation does to memberships

An item that stays where it is becomes a member of a view when an operation asks for it, and stays one.
When it is deleted its memberships go with it, so an item that is given its identifier again begins with
none.
-/

namespace Wayfinder.Storage

open Text (Wide)

/-- Whether an operation that is carried out asks for the item under given names to be listed in a
view. -/
def Operation.Asks (operation : Operation) (database : Database) (view : String)
    (names : List String) : Prop :=
  (∃ changed, operation.apply database = .ok changed) ∧
    match operation with
    | .createView name members _ _ =>
      name = .sound view ∧ ∃ member, .sound member ∈ members ∧ Path.names member = names
    | .addViewMember name fullName =>
      name = .sound view ∧ ∃ path, fullName = .sound path ∧ Path.names path = names
    | _ => False

namespace Tables

variable {tables changed : Tables}

/-- Whether an item is stored as a member of the view of a given name. -/
def HasMember (tables : Tables) (view : String) (item : Int) : Prop :=
  ∃ row ∈ tables.views, row.name = view ∧ ⟨row.id, item⟩ ∈ tables.members

theorem hasMember_choosePrimary (chosen : Int) (view : String) (item : Int) :
    (tables.choosePrimary chosen).HasMember view item ↔ tables.HasMember view item := by
  constructor
  · rintro ⟨row, member, named, listed⟩
    obtain ⟨old, stored, rfl⟩ := List.mem_map.mp member
    exact ⟨old, stored, named, listed⟩
  · rintro ⟨row, stored, named, listed⟩
    exact ⟨_, List.mem_map_of_mem stored, named, listed⟩

theorem mem_insertMember {row : MemberRow} (inserted : tables.insertMember row = some changed)
    {other : MemberRow} : other ∈ changed.members ↔ other = row ∨ other ∈ tables.members := by
  unfold insertMember at inserted
  split at inserted
  case isTrue => cases inserted
  case isFalse =>
    cases inserted
    exact mem_insertOrdered

theorem mem_insertMembers {rows : List MemberRow} (inserted : tables.insertMembers rows = some changed)
    {other : MemberRow} : other ∈ changed.members ↔ other ∈ rows ∨ other ∈ tables.members := by
  unfold insertMembers at inserted
  induction rows generalizing tables with
  | nil =>
      cases inserted
      simp
  | cons row rows ih =>
      rw [List.foldlM_cons] at inserted
      obtain ⟨next, first, rest⟩ := Option.bind_eq_some_iff.mp inserted
      rw [ih rest, mem_insertMember first, List.mem_cons, or_assoc, or_left_comm]

theorem mem_getItems {fullNames : List String} {rows : List ItemRow}
    (found : tables.getItems fullNames = .ok rows) {row : ItemRow} :
    row ∈ rows ↔ ∃ fullName ∈ fullNames, tables.getItem fullName none = .ok row := by
  induction fullNames generalizing rows with
  | nil =>
      cases found
      simp
  | cons fullName fullNames ih =>
      rw [getItems, List.mapM_cons] at found
      obtain ⟨first, there, found⟩ := bind_eq_ok_iff.mp found
      obtain ⟨rest, others, found⟩ := bind_eq_ok_iff.mp found
      cases found
      rw [List.mem_cons, ih others, List.exists_mem_cons_iff, there]
      simp [eq_comm]

/-- Whether the items that are left are where they were. -/
def KeepsPlaces (tables changed : Tables) : Prop :=
  ∀ names id, tables.LeadsTo names (some id) → id ∈ changed.itemIds → changed.LeadsTo names (some id)

/-- Rows keep their places when none goes, moves or is renamed. -/
theorem keepsPlaces_of_kept (kept : ∀ row ∈ tables.items, ∃ other ∈ changed.items,
      other.id = row.id ∧ other.parentId = row.parentId ∧ other.name = row.name) :
    KeepsPlaces tables changed :=
  fun _ _ leads _ => leads.mono kept

theorem keepsPlaces_of_items (items : changed.items = tables.items) : KeepsPlaces tables changed := by
  apply keepsPlaces_of_kept
  intro row stored
  exact ⟨row, items ▸ stored, rfl, rfl, rfl⟩

/-- What an operation does to the items that it leaves: they stay where they are, and become members
where it asks for it. -/
structure Follows (tables changed : Tables) (operation : Operation) : Prop where
  places : KeepsPlaces tables changed
  members : ∀ names id, tables.LeadsTo names (some id) → id ∈ changed.itemIds → ∀ view,
    (changed.HasMember view id ↔ tables.HasMember view id ∨ operation.Asks ⟨some tables⟩ view names)

/-- An operation that asks for nothing leaves the memberships of the items that it leaves. -/
theorem Follows.of_quiet {operation : Operation}
    (quiet : ∀ view names, ¬operation.Asks ⟨some tables⟩ view names)
    (places : KeepsPlaces tables changed) (members : ∀ view, ∀ id ∈ changed.itemIds,
      (changed.HasMember view id ↔ tables.HasMember view id)) :
    Follows tables changed operation := by
  refine ⟨places, ?_⟩
  intro names id _ there view
  rw [members view id there, or_iff_left (quiet view names)]

/-- An operation that changes nothing and asks for nothing. -/
theorem Follows.of_same {operation : Operation}
    (quiet : ∀ view names, ¬operation.Asks ⟨some tables⟩ view names) : Follows tables tables operation :=
  .of_quiet quiet (keepsPlaces_of_items rfl) fun _ _ _ => Iff.rfl

theorem follows_createItem {overlooked : Option String} {missed : Bool} {name : String}
    {kind : ItemKind} {displayName parent : Option String} {commit : Commit ItemRow}
    (created : (⟨some tables⟩ : Database).createItemOverlooking overlooked missed name kind displayName
      parent = .ok commit) : ∃ changed, commit.database = ⟨some changed⟩ ∧
      Follows tables changed (.createItem overlooked missed (.sound name) kind
        (displayName.map .sound) (parent.map .sound)) := by
  obtain ⟨parentId, changed, -, -, value, inserted, after⟩ := Database.createItem_commit created
  have next : commit.value.id = tables.nextItemId := by rw [value]
  obtain ⟨rfl, -⟩ := insertItem_next next inserted
  refine ⟨_, after, .of_quiet (fun _ _ asked => asked.2) ?_ fun _ _ _ => Iff.rfl⟩
  apply keepsPlaces_of_kept
  intro row stored
  exact ⟨row, List.mem_append_left _ stored, rfl, rfl, rfl⟩

/-- The items that a deletion leaves have lost nothing that is above them, and no membership. -/
theorem follows_deleteItem {fullName : String} {commit : Commit Unit}
    (deleted : (⟨some tables⟩ : Database).deleteItem fullName = .ok commit) :
    ∃ changed, commit.database = ⟨some changed⟩ ∧ Follows tables changed (.deleteItem (.sound fullName)) := by
  obtain ⟨row, -, after⟩ := Database.deleteItem_commit deleted
  have spared {id : Int} (there : id ∈ (tables.eraseItems (descendantIds tables.items row.id)).itemIds) :
      id ∉ descendantIds tables.items row.id := by
    obtain ⟨other, left, rfl⟩ := List.mem_map.mp there
    simpa using (List.mem_filter.mp left).2
  refine ⟨_, after, .of_quiet (fun _ _ asked => asked.2) ?_ ?_⟩
  · intro names id leads there
    apply leads.eraseItems (closedBelow_descendantIds row.id)
    rintro _ ⟨⟩
    exact spared there
  · intro view id there
    simp [HasMember, Tables.eraseItems, spared there]

theorem follows_setPrimaryView {name : String} {commit : Commit ViewRow}
    (chosen : (⟨some tables⟩ : Database).setPrimaryView name = .ok commit) :
    ∃ changed, commit.database = ⟨some changed⟩ ∧ Follows tables changed (.setPrimaryView (.sound name)) := by
  obtain ⟨row, -, -, after⟩ := Database.setPrimaryView_commit chosen
  refine ⟨_, after, .of_quiet (fun _ _ asked => asked.2) (keepsPlaces_of_items rfl) ?_⟩
  intro view id _
  exact hasMember_choosePrimary row.id view id

namespace WellFormed

variable (wellFormed : tables.WellFormed)

include wellFormed

/-- An update moves and renames nothing. -/
theorem kept_updateItem {row : ItemRow} (stored : row ∈ tables.items) (changes : ItemChanges) :
    ∀ other ∈ tables.items, ∃ after ∈ tables.items.map fun other =>
        if other.id == row.id then changes.apply row else other,
      after.id = other.id ∧ after.parentId = other.parentId ∧ after.name = other.name := by
  intro other there
  refine ⟨_, List.mem_map_of_mem there, ?_⟩
  split
  case isTrue same =>
    cases wellFormed.eq_of_itemId there stored (eq_of_beq same)
    exact ⟨rfl, rfl, rfl⟩
  case isFalse => exact ⟨rfl, rfl, rfl⟩

theorem follows_updateItem {fullName : String} {changes : ItemChanges} {commit : Commit ItemRow}
    (updated : (⟨some tables⟩ : Database).updateItem fullName changes = .ok commit) :
    ∃ changed, commit.database = ⟨some changed⟩ ∧
      Follows tables changed (.updateItem (.sound fullName) changes.wide) := by
  obtain ⟨row, found, -, after⟩ := Database.updateItem_commit updated
  refine ⟨_, after, .of_quiet (fun _ _ asked => asked.2) ?_ fun _ _ _ => Iff.rfl⟩
  exact keepsPlaces_of_kept (wellFormed.kept_updateItem (mem_of_getItem found) changes)

/-- A full name leads to an item if and only if its names are those that lead there. -/
theorem getItem_id_iff {names : List String} {id : Int} (leads : tables.LeadsTo names (some id))
    (fullName : String) :
    (∃ row, tables.getItem fullName none = .ok row ∧ row.id = id) ↔ Path.names fullName = names := by
  constructor
  · rintro ⟨row, found, rfl⟩
    exact wellFormed.names_eq (wellFormed.getItem_eq_ok_iff_leadsTo.mp found).2 leads
  · rintro rfl
    obtain ⟨row, stored, rfl⟩ := leads.exists_row
    exact ⟨row, wellFormed.getItem_eq_ok_iff_leadsTo.mpr ⟨stored, leads⟩, rfl⟩

/-- A new view lists the items that were asked for, and the other views what they listed. -/
theorem hasMember_insertListing {name : String} {members : List String} {items : List ItemRow}
    {viewed : Tables} (named : NameFault.of? name = none) (found : tables.getItems members = .ok items)
    (inserted : tables.insertView ⟨tables.nextViewId, name, false⟩ = some viewed)
    (listed : viewed.insertMembers
      ((items.map ItemRow.id).eraseDups.map fun item => ⟨tables.nextViewId, item⟩) = some changed)
    {names : List String} {id : Int} (leads : tables.LeadsTo names (some id)) (view : String) :
    changed.HasMember view id ↔ tables.HasMember view id ∨
      name = view ∧ ∃ member ∈ members, Path.names member = names := by
  have views := (wellFormed.insertListing named (mem_of_getItems found) inserted listed).2.2
  have grown := insertView_next rfl inserted
  have asked : (∃ member ∈ members, Path.names member = names) ↔ id ∈ items.map ItemRow.id := by
    simp only [← wellFormed.getItem_id_iff leads, List.mem_map, mem_getItems found]
    exact ⟨fun ⟨member, asked, row, found, same⟩ => ⟨row, ⟨member, asked, found⟩, same⟩,
      fun ⟨row, ⟨member, asked, found⟩, same⟩ => ⟨member, asked, row, found, same⟩⟩
  have member {viewId : Int} : ⟨viewId, id⟩ ∈ changed.members ↔
      (viewId = tables.nextViewId ∧ id ∈ items.map ItemRow.id) ∨ ⟨viewId, id⟩ ∈ tables.members := by
    rw [mem_insertMembers listed, grown]
    simp [List.mem_eraseDups, and_comm, eq_comm]
  rw [HasMember, HasMember, views, asked]
  constructor
  · rintro ⟨row, there, rfl, listed⟩
    rcases List.mem_append.mp there with stored | new
    · rcases member.mp listed with ⟨same, -⟩ | old
      · exact absurd same (Int.ne_of_lt (lt_nextViewId stored))
      · exact .inl ⟨row, stored, rfl, old⟩
    · cases List.mem_singleton.mp new
      rcases member.mp listed with ⟨-, chosen⟩ | old
      · exact .inr ⟨rfl, chosen⟩
      · obtain ⟨⟨other, stored, same⟩, -⟩ := wellFormed.membersStored _ old
        exact absurd same (Int.ne_of_lt (lt_nextViewId stored))
  · rintro (⟨row, stored, rfl, old⟩ | ⟨rfl, chosen⟩)
    · exact ⟨row, List.mem_append_left _ stored, rfl, member.mpr (.inr old)⟩
    · exact ⟨_, List.mem_append_right _ (List.mem_singleton_self _), rfl,
        member.mpr (.inl ⟨rfl, chosen⟩)⟩

theorem follows_createView {name : String} {members : List String} {primary missed : Bool}
    {commit : Commit ViewRow}
    (created : (⟨some tables⟩ : Database).createView name members primary missed = .ok commit) :
    ∃ changed, commit.database = ⟨some changed⟩ ∧
      Follows tables changed (.createView (.sound name) (members.map .sound) primary missed) := by
  obtain ⟨items, viewed, changed, named, found, inserted, listed, outcome⟩ :=
    Database.createView_commit created
  have sameItems := (wellFormed.insertListing named (mem_of_getItems found) inserted listed).2.1
  have applied : ∃ changed, (Operation.createView (.sound name) (members.map .sound) primary
      missed).apply ⟨some tables⟩ = .ok changed :=
    ⟨commit.database, by rw [Operation.apply, Database.createWideView_sound, created]; rfl⟩
  have given (names : List String) : (∃ member, Wide.sound member ∈ members.map Wide.sound ∧
      Path.names member = names) ↔ ∃ member ∈ members, Path.names member = names := by
    simp
  have members {names : List String} {id : Int} (leads : tables.LeadsTo names (some id))
      (view : String) :
      changed.HasMember view id ↔ tables.HasMember view id ∨
        (Operation.createView (.sound name) (members.map .sound) primary missed).Asks
          ⟨some tables⟩ view names := by
    rw [wellFormed.hasMember_insertListing named found inserted listed leads, Operation.Asks,
      and_iff_right applied, given, Wide.sound.injEq]
  rcases outcome with ⟨-, -, after⟩ | ⟨-, row, -, -, after⟩
  · exact ⟨changed, after, keepsPlaces_of_items sameItems, fun _ _ leads _ => members leads⟩
  · refine ⟨_, after, keepsPlaces_of_items sameItems, ?_⟩
    intro names id leads _ view
    rw [hasMember_choosePrimary, members leads]

theorem follows_addViewMember {name fullName : String} {commit : Commit Unit}
    (added : (⟨some tables⟩ : Database).addViewMember name fullName = .ok commit) :
    ∃ changed, commit.database = ⟨some changed⟩ ∧
      Follows tables changed (.addViewMember (.sound name) (.sound fullName)) := by
  obtain ⟨view, item, viewed, found, outcome⟩ := Database.addViewMember_commit added
  obtain ⟨stored, rfl⟩ := mem_of_getView viewed
  have applied : ∃ changed, (Operation.addViewMember (.sound view.name) (.sound fullName)).apply
      ⟨some tables⟩ = .ok changed :=
    ⟨commit.database, by rw [Operation.apply, Database.addWideMember, added]; rfl⟩
  have asks {names : List String} {id : Int} (leads : tables.LeadsTo names (some id)) (name : String) :
      (Operation.addViewMember (.sound view.name) (.sound fullName)).Asks ⟨some tables⟩ name names ↔
        view.name = name ∧ item.id = id := by
    have given : (∃ path, Wide.sound fullName = .sound path ∧ Path.names path = names) ↔
        Path.names fullName = names := by
      simp
    rw [Operation.Asks, and_iff_right applied, given, ← wellFormed.getItem_id_iff leads, found]
    simp
  rcases outcome with ⟨listed, after⟩ | ⟨changed, inserted, after⟩
  · refine ⟨tables, after, keepsPlaces_of_items rfl, ?_⟩
    intro names id leads _ name
    rw [asks leads]
    constructor
    · exact .inl
    · rintro (there | ⟨rfl, rfl⟩)
      · exact there
      · exact ⟨view, stored, rfl, listed⟩
  · obtain ⟨items, views⟩ := rows_insertMember inserted
    refine ⟨changed, after, keepsPlaces_of_items items, ?_⟩
    intro names id leads _ name
    rw [asks leads, HasMember, HasMember, views]
    simp only [mem_insertMember inserted, MemberRow.mk.injEq]
    constructor
    · rintro ⟨row, there, rfl, ⟨sameView, sameItem⟩ | old⟩
      · exact .inr ⟨by rw [wellFormed.eq_of_viewId there stored sameView], sameItem.symm⟩
      · exact .inl ⟨row, there, rfl, old⟩
    · rintro (⟨row, there, rfl, old⟩ | ⟨rfl, rfl⟩)
      · exact ⟨row, there, rfl, .inr old⟩
      · exact ⟨view, stored, rfl, .inl ⟨rfl, rfl⟩⟩

theorem follows_apply {operation : Operation} {database : Database}
    (applied : operation.apply ⟨some tables⟩ = .ok database) :
    ∃ changed, database = ⟨some changed⟩ ∧ Follows tables changed operation := by
  cases Operation.carries_of_apply applied with
  | createItem created => exact follows_createItem created
  | updateItem updated => exact wellFormed.follows_updateItem updated
  | deleteItem deleted => exact follows_deleteItem deleted
  | createView created => exact wellFormed.follows_createView created
  | addViewMember added => exact wellFormed.follows_addViewMember added
  | setPrimaryView chosen => exact follows_setPrimaryView chosen
  | getItem | getView | load => exact ⟨tables, rfl, .of_same fun _ _ asked => asked.2⟩

/-- One that is refused asks for nothing. -/
theorem follows_after {operation : Operation} (after : operation.after ⟨some tables⟩ = ⟨some changed⟩) :
    Follows tables changed operation := by
  unfold Operation.after at after
  cases applied : operation.apply ⟨some tables⟩ with
  | ok database =>
      rw [applied] at after
      obtain ⟨other, rfl, follows⟩ := wellFormed.follows_apply applied
      cases after
      exact follows
  | error fault =>
      rw [applied] at after
      cases after
      apply Follows.of_same
      rintro view names ⟨⟨database, ended⟩, -⟩
      rw [applied] at ended
      cases ended

end WellFormed

end Tables

end Wayfinder.Storage
