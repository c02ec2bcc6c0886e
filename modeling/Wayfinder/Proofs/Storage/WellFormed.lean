import Mathlib.Data.List.Nodup
import Wayfinder.Proofs.Storage.Descendants
import Wayfinder.Proofs.Storage.Soundness

/-!
# Tables that fit together

Nothing in the tables checks that a parent or a member exists. They fit together all the same, because a
new identifier is larger than all others, because an item is only put into a folder that is there, and
because a deletion takes everything below with it. Here it is shown for each way of changing the rows.
-/

namespace Wayfinder.Storage

/-- Rows that fit together, each table in the order of its key. -/
structure Tables.WellFormed (tables : Tables) : Prop extends tables.IsSound where
  itemsOrdered : tables.items.Pairwise fun left right => left.id < right.id
  viewsOrdered : tables.views.Pairwise fun left right => left.id < right.id
  membersOrdered : tables.members.Pairwise fun left right => left.before right = true
  /-- Every parent is a stored folder with a smaller identifier. -/
  parents : ∀ row ∈ tables.items, ∀ parent, row.parentId = some parent →
    ∃ folder ∈ tables.items, folder.id = parent ∧ folder.kind = .folder ∧ parent < row.id
  siblingsDiffer : tables.items.Pairwise fun left right =>
    left.parentId = right.parentId → left.name ≠ right.name
  foldersEnabled : ∀ row ∈ tables.items, row.kind = .folder → row.disabled = false
  displayNames : ∀ row ∈ tables.items, row.displayName ≠ some ""
  onePrimary : tables.views.Pairwise fun left right =>
    ¬(left.isPrimary = true ∧ right.isPrimary = true)
  /-- Every membership is one of a stored item in a stored view. -/
  membersStored : ∀ row ∈ tables.members,
    (∃ view ∈ tables.views, view.id = row.viewId) ∧ ∃ item ∈ tables.items, item.id = row.itemId
  rootNamesUnique : tables.rootNamesUnique = true

theorem nonEmpty?_ne_some_empty (text : Option String) : Workspace.nonEmpty? text ≠ some "" := by
  intro empty
  simpa using (Option.filter_eq_some_iff.mp empty).2

theorem nonEmpty?_nonEmpty? (text : Option String) :
    Workspace.nonEmpty? (Workspace.nonEmpty? text) = Workspace.nonEmpty? text := by
  simp [Workspace.nonEmpty?, Option.filter_filter]

/-- The empty full name of a folder is as good as none. -/
theorem Database.createItem_nonEmpty (database : Database) (name : String) (kind : ItemKind)
    (displayName parent : Option String) (overlook : Bool) :
    database.createItem name kind displayName (Workspace.nonEmpty? parent) overlook =
      database.createItem name kind displayName parent overlook := by
  simp only [createItem, createItemOverlooking, Tables.parentFolder, nonEmpty?_nonEmpty?]

theorem lt_nextId {ids : List Int} {id : Int} (member : id ∈ ids) : id < nextId ids := by
  unfold nextId
  cases largest : ids.max? with
  | none =>
      rw [List.max?_eq_none_iff.mp largest] at member
      cases member
  | some top =>
      have bound := (List.max?_eq_some_iff.mp largest).2 id member
      exact Int.lt_add_one_of_le bound

theorem pairwise_concat {ρ : Type} {related : ρ → ρ → Prop} {rows : List ρ} {row : ρ} :
    (rows ++ [row]).Pairwise related ↔
      rows.Pairwise related ∧ ∀ other ∈ rows, related other row := by
  simp [List.pairwise_append]

/-- A row that all others come before is put at the end. -/
theorem insertOrdered_last {ρ : Type} {before : ρ → ρ → Bool} {row : ρ} {rows : List ρ}
    (last : ∀ other ∈ rows, before other row = true) :
    insertOrdered before row rows = rows ++ [row] := by
  induction rows with
  | nil => rfl
  | cons head rest ih =>
      have others : ∀ other ∈ rest, before other row = true := fun other member =>
        last other (List.mem_cons_of_mem head member)
      rw [insertOrdered, if_pos (last head List.mem_cons_self), ih others]
      rfl

/-- A row put in its place leaves the others in order. -/
theorem pairwise_insertOrdered {ρ : Type} {before : ρ → ρ → Bool} {row : ρ} {rows : List ρ}
    (trans : ∀ first second third, before first second = true → before second third = true →
      before first third = true)
    (total : ∀ other ∈ rows, before other row = true ∨ before row other = true)
    (ordered : rows.Pairwise fun left right => before left right = true) :
    (insertOrdered before row rows).Pairwise fun left right => before left right = true := by
  induction rows with
  | nil => simp [insertOrdered]
  | cons head rest ih =>
      obtain ⟨first, ordered⟩ := List.pairwise_cons.mp ordered
      rw [insertOrdered]
      split
      case isTrue ahead =>
        apply List.pairwise_cons.mpr
        constructor
        · intro other member
          rcases mem_insertOrdered.mp member with rfl | old
          · exact ahead
          · exact first other old
        · exact ih (fun other member => total other (by simp [member])) ordered
      case isFalse behind =>
        have next : before row head = true := (total head (by simp)).resolve_left behind
        apply List.pairwise_cons.mpr
        constructor
        · intro other member
          rcases List.mem_cons.mp member with rfl | old
          · exact next
          · exact trans _ _ _ next (first other old)
        · exact List.pairwise_cons.mpr ⟨first, ordered⟩

namespace MemberRow

theorem before_iff {left right : MemberRow} : left.before right = true ↔
    left.viewId < right.viewId ∨ left.viewId = right.viewId ∧ left.itemId < right.itemId := by
  simp [before]

theorem before_trans {first second third : MemberRow} (left : first.before second = true)
    (right : second.before third = true) : first.before third = true := by
  rw [before_iff] at left right ⊢
  omega

theorem before_total {left right : MemberRow} (differ : left ≠ right) :
    left.before right = true ∨ right.before left = true := by
  obtain ⟨leftView, leftItem⟩ := left
  obtain ⟨rightView, rightItem⟩ := right
  simp only [before_iff]
  have apart : ¬(leftView = rightView ∧ leftItem = rightItem) := by
    rintro ⟨rfl, rfl⟩
    exact differ rfl
  omega

theorem ne_of_before {left right : MemberRow} (ordered : left.before right = true) :
    left ≠ right := by
  rintro rfl
  rw [before_iff] at ordered
  omega

end MemberRow

namespace Tables

variable {tables changed : Tables}

theorem wellFormed_empty : ({} : Tables).WellFormed where
  toIsSound := isSound_empty
  itemsOrdered := .nil
  viewsOrdered := .nil
  membersOrdered := .nil
  parents := by simp
  siblingsDiffer := .nil
  foldersEnabled := by simp
  displayNames := by simp
  onePrimary := .nil
  membersStored := by simp
  rootNamesUnique := rfl

namespace WellFormed

/-- An item is known by its identifier. -/
theorem eq_of_itemId (wellFormed : tables.WellFormed) {left right : ItemRow}
    (first : left ∈ tables.items) (second : right ∈ tables.items) (same : left.id = right.id) :
    left = right :=
  List.inj_on_of_nodup_map
    (List.pairwise_map.mpr (wellFormed.itemsOrdered.imp fun ordered => Int.ne_of_lt ordered))
    first second same

/-- An item is known by its parent and its name. -/
theorem eq_of_place (wellFormed : tables.WellFormed) {left right : ItemRow}
    (first : left ∈ tables.items) (second : right ∈ tables.items)
    (sameParent : left.parentId = right.parentId) (sameName : left.name = right.name) :
    left = right := by
  have differ : (tables.items.map fun row => (row.parentId, row.name)).Nodup := by
    apply List.pairwise_map.mpr
    apply wellFormed.siblingsDiffer.imp
    intro left right differ same
    exact differ (Prod.ext_iff.mp same).1 (Prod.ext_iff.mp same).2
  exact List.inj_on_of_nodup_map differ first second (Prod.ext sameParent sameName)

/-- A view is known by its identifier. -/
theorem eq_of_viewId (wellFormed : tables.WellFormed) {left right : ViewRow}
    (first : left ∈ tables.views) (second : right ∈ tables.views) (same : left.id = right.id) :
    left = right :=
  List.inj_on_of_nodup_map
    (List.pairwise_map.mpr (wellFormed.viewsOrdered.imp fun ordered => Int.ne_of_lt ordered))
    first second same

/-- A view is known by its name. -/
theorem eq_of_viewName (wellFormed : tables.WellFormed) {left right : ViewRow}
    (first : left ∈ tables.views) (second : right ∈ tables.views) (same : left.name = right.name) :
    left = right :=
  List.inj_on_of_nodup_map (List.pairwise_map.mpr wellFormed.viewsDiffer) first second same

theorem nodup_members (wellFormed : tables.WellFormed) : tables.members.Nodup :=
  wellFormed.membersOrdered.imp MemberRow.ne_of_before

end WellFormed

theorem lt_nextItemId {row : ItemRow} (stored : row ∈ tables.items) : row.id < tables.nextItemId :=
  lt_nextId (List.mem_map_of_mem stored)

theorem lt_nextViewId {row : ViewRow} (stored : row ∈ tables.views) : row.id < tables.nextViewId :=
  lt_nextId (List.mem_map_of_mem stored)

/-- What storing an item with the next identifier comes to. -/
theorem insertItem_next {row : ItemRow} (next : row.id = tables.nextItemId)
    (inserted : tables.insertItem row = some changed) :
    changed = { tables with items := tables.items ++ [row] } ∧
      ∀ other ∈ tables.items, tables.itemsClash row other = false := by
  have last : ∀ other ∈ tables.items, decide (other.id < row.id) = true := by
    intro other member
    rw [next]
    exact decide_eq_true (lt_nextItemId member)
  unfold insertItem at inserted
  split at inserted
  case isTrue => cases inserted
  case isFalse free =>
    cases inserted
    constructor
    · rw [insertOrdered_last last]
    · simpa using free

/-- What storing a view with the next identifier comes to. -/
theorem insertView_next {row : ViewRow} (next : row.id = tables.nextViewId)
    (inserted : tables.insertView row = some changed) :
    changed = { tables with views := tables.views ++ [row] } := by
  have last : ∀ other ∈ tables.views, decide (other.id < row.id) = true := by
    intro other member
    rw [next]
    exact decide_eq_true (lt_nextViewId member)
  unfold insertView at inserted
  split at inserted
  case isTrue => cases inserted
  case isFalse free =>
    cases inserted
    rw [insertOrdered_last last]

namespace WellFormed

/-- A new item in a folder that is there, or at the top level. -/
theorem insertItem {row : ItemRow} (wellFormed : tables.WellFormed)
    (next : row.id = tables.nextItemId) (named : NameFault.of? row.name = none)
    (parent : ∀ parent, row.parentId = some parent →
      ∃ folder ∈ tables.items, folder.id = parent ∧ folder.kind = .folder)
    (enabled : row.disabled = false) (shown : row.displayName ≠ some "")
    (inserted : tables.insertItem row = some changed) : changed.WellFormed := by
  have isSound := wellFormed.toIsSound.insertItem named inserted
  obtain ⟨rfl, free⟩ := insertItem_next next inserted
  have last : ∀ other ∈ tables.items, other.id < row.id := by
    intro other member
    rw [next]
    exact lt_nextItemId member
  have apart : ∀ other ∈ tables.items, other.parentId = row.parentId → other.name ≠ row.name := by
    intro other member sibling same
    have clash := free other member
    simp [itemsClash, sibling, same, wellFormed.rootNamesUnique] at clash
  refine { wellFormed with
    toIsSound := isSound, itemsOrdered := ?_, parents := ?_, siblingsDiffer := ?_,
    foldersEnabled := ?_, displayNames := ?_, membersStored := ?_ }
  · exact pairwise_concat.mpr ⟨wellFormed.itemsOrdered, last⟩
  · intro other member holder held
    rcases List.mem_append.mp member with old | new
    · obtain ⟨folder, stored, fits⟩ := wellFormed.parents other old holder held
      exact ⟨folder, List.mem_append_left _ stored, fits⟩
    · rw [List.mem_singleton.mp new] at held ⊢
      obtain ⟨folder, stored, rfl, isFolder⟩ := parent holder held
      exact ⟨folder, List.mem_append_left _ stored, rfl, isFolder, last folder stored⟩
  · exact pairwise_concat.mpr ⟨wellFormed.siblingsDiffer, apart⟩
  · intro other member isFolder
    rcases List.mem_append.mp member with old | new
    · exact wellFormed.foldersEnabled other old isFolder
    · rw [List.mem_singleton.mp new]
      exact enabled
  · intro other member
    rcases List.mem_append.mp member with old | new
    · exact wellFormed.displayNames other old
    · rw [List.mem_singleton.mp new]
      exact shown
  · intro membership member
    obtain ⟨view, item, stored, same⟩ := wellFormed.membersStored membership member
    exact ⟨view, item, List.mem_append_left _ stored, same⟩

/-- A change to items that leaves their places alone. -/
theorem editItems (wellFormed : tables.WellFormed) (change : ItemRow → ItemRow)
    (keeps : ∀ row ∈ tables.items, (change row).id = row.id ∧ (change row).parentId = row.parentId ∧
      (change row).kind = row.kind ∧ (change row).name = row.name)
    (enabled : ∀ row ∈ tables.items, row.kind = .folder → (change row).disabled = false)
    (shown : ∀ row ∈ tables.items, (change row).displayName ≠ some "") :
    ({ tables with items := tables.items.map change } : Tables).WellFormed := by
  have pairs {related : ItemRow → ItemRow → Prop} (ordered : tables.items.Pairwise related)
      {changed : ItemRow → ItemRow → Prop}
      (kept : ∀ left ∈ tables.items, ∀ right ∈ tables.items, related left right →
        changed (change left) (change right)) : (tables.items.map change).Pairwise changed :=
    List.pairwise_map.mpr (ordered.imp_of_mem fun first second => kept _ first _ second)
  refine { wellFormed with
    itemNames := ?_, itemsOrdered := ?_, parents := ?_, siblingsDiffer := ?_,
    foldersEnabled := ?_, displayNames := ?_, membersStored := ?_ }
  · intro row member
    obtain ⟨old, stored, rfl⟩ := List.mem_map.mp member
    rw [(keeps old stored).2.2.2]
    exact wellFormed.itemNames old stored
  · apply pairs wellFormed.itemsOrdered
    intro left first right second ordered
    rwa [(keeps left first).1, (keeps right second).1]
  · intro row member parent held
    obtain ⟨old, stored, rfl⟩ := List.mem_map.mp member
    rw [(keeps old stored).2.1] at held
    obtain ⟨folder, there, same, isFolder, smaller⟩ := wellFormed.parents old stored parent held
    obtain ⟨id, -, kind, -⟩ := keeps folder there
    refine ⟨change folder, List.mem_map_of_mem there, id.trans same, kind.trans isFolder, ?_⟩
    rwa [(keeps old stored).1]
  · apply pairs wellFormed.siblingsDiffer
    intro left first right second differ
    obtain ⟨-, leftParent, -, leftName⟩ := keeps left first
    obtain ⟨-, rightParent, -, rightName⟩ := keeps right second
    rwa [leftParent, rightParent, leftName, rightName]
  · intro row member isFolder
    obtain ⟨old, stored, rfl⟩ := List.mem_map.mp member
    exact enabled old stored ((keeps old stored).2.2.1 ▸ isFolder)
  · intro row member
    obtain ⟨old, stored, rfl⟩ := List.mem_map.mp member
    exact shown old stored
  · intro membership member
    obtain ⟨view, item, stored, same⟩ := wellFormed.membersStored membership member
    exact ⟨view, change item, List.mem_map_of_mem stored, (keeps item stored).1.trans same⟩

/-- The changes that an update may ask for, applied to one item. -/
theorem updateItem {row : ItemRow} (wellFormed : tables.WellFormed) (stored : row ∈ tables.items)
    {changes : ItemChanges} (allowed : (changes.disabled.bind id).isSome = true → row.kind = .job) :
    ({ tables with items := tables.items.map fun other =>
        if other.id == row.id then changes.apply row else other } : Tables).WellFormed := by
  have same {other : ItemRow} (there : other ∈ tables.items) (equal : (other.id == row.id) = true) :
      other = row :=
    wellFormed.eq_of_itemId there stored (eq_of_beq equal)
  apply wellFormed.editItems
  · intro other there
    split
    case isTrue equal => exact same there equal ▸ ⟨rfl, rfl, rfl, rfl⟩
    case isFalse => exact ⟨rfl, rfl, rfl, rfl⟩
  · intro other there isFolder
    have enabled := wellFormed.foldersEnabled other there isFolder
    split
    case isTrue equal =>
      cases same there equal
      cases asked : changes.disabled.bind id with
      | none =>
          rw [ItemChanges.apply, asked]
          exact enabled
      | some flag => exact absurd (allowed (by rw [asked]; rfl)) (by simp [isFolder])
    case isFalse => exact enabled
  · intro other there
    have shown := wellFormed.displayNames other there
    split
    case isTrue equal =>
      cases same there equal
      unfold ItemChanges.apply
      cases changes.displayName with
      | none => exact shown
      | some value => exact nonEmpty?_ne_some_empty value
    case isFalse => exact shown

/-- A deletion that takes everything below with it. -/
theorem eraseItems (wellFormed : tables.WellFormed) {ids : List Int}
    (closed : ClosedBelow tables.items ids) : (tables.eraseItems ids).WellFormed := by
  have kept {row : ItemRow} : row ∈ (tables.eraseItems ids).items ↔
      row ∈ tables.items ∧ row.id ∉ ids := by
    simp [Tables.eraseItems]
  have listed {row : MemberRow} : row ∈ (tables.eraseItems ids).members ↔
      row ∈ tables.members ∧ row.itemId ∉ ids := by
    simp [Tables.eraseItems]
  refine { wellFormed with
    toIsSound := wellFormed.toIsSound.eraseItems ids, itemsOrdered := ?_, membersOrdered := ?_,
    parents := ?_, siblingsDiffer := ?_, foldersEnabled := ?_, displayNames := ?_,
    membersStored := ?_ }
  · exact wellFormed.itemsOrdered.filter _
  · exact wellFormed.membersOrdered.filter _
  · intro row member parent held
    obtain ⟨stored, left⟩ := kept.mp member
    obtain ⟨folder, there, rfl, isFolder, smaller⟩ := wellFormed.parents row stored parent held
    have spared : folder.id ∉ ids := fun gone => left (closed row stored folder.id gone held)
    exact ⟨folder, kept.mpr ⟨there, spared⟩, rfl, isFolder, smaller⟩
  · exact wellFormed.siblingsDiffer.filter _
  · intro row member
    exact wellFormed.foldersEnabled row (kept.mp member).1
  · intro row member
    exact wellFormed.displayNames row (kept.mp member).1
  · intro row member
    obtain ⟨stored, left⟩ := listed.mp member
    obtain ⟨view, item, there, same⟩ := wellFormed.membersStored row stored
    exact ⟨view, item, kept.mpr ⟨there, same ▸ left⟩, same⟩

/-- A new view that is not primary. -/
theorem insertView {row : ViewRow} (wellFormed : tables.WellFormed)
    (next : row.id = tables.nextViewId) (named : NameFault.of? row.name = none)
    (secondary : row.isPrimary = false) (inserted : tables.insertView row = some changed) :
    changed.WellFormed := by
  have isSound := wellFormed.toIsSound.insertView named inserted
  obtain rfl := insertView_next next inserted
  refine { wellFormed with
    toIsSound := isSound, viewsOrdered := ?_, onePrimary := ?_, membersStored := ?_ }
  · apply pairwise_concat.mpr
    constructor
    · exact wellFormed.viewsOrdered
    · intro other member
      rw [next]
      exact lt_nextViewId member
  · apply pairwise_concat.mpr
    constructor
    · exact wellFormed.onePrimary
    · intro other _ both
      rw [secondary] at both
      cases both.2
  · intro membership member
    obtain ⟨⟨view, stored, same⟩, item⟩ := wellFormed.membersStored membership member
    exact ⟨⟨view, List.mem_append_left _ stored, same⟩, item⟩

/-- A membership of a stored item in a stored view. -/
theorem insertMember {row : MemberRow} (wellFormed : tables.WellFormed)
    (stored : (∃ view ∈ tables.views, view.id = row.viewId) ∧ ∃ item ∈ tables.items, item.id = row.itemId)
    (inserted : tables.insertMember row = some changed) : changed.WellFormed := by
  unfold Tables.insertMember at inserted
  split at inserted
  case isTrue => cases inserted
  case isFalse fresh =>
    cases inserted
    refine { wellFormed with membersOrdered := ?_, membersStored := ?_ }
    · have total : ∀ other ∈ tables.members, other.before row = true ∨ row.before other = true := by
        intro other member
        apply MemberRow.before_total
        rintro rfl
        exact fresh member
      apply pairwise_insertOrdered _ total wellFormed.membersOrdered
      intro first second third left right
      exact MemberRow.before_trans left right
    · intro other member
      rcases mem_insertOrdered.mp member with rfl | old
      · exact stored
      · exact wellFormed.membersStored other old

/-- Memberships of stored items in stored views. -/
theorem insertMembers {rows : List MemberRow} (wellFormed : tables.WellFormed)
    (stored : ∀ row ∈ rows, (∃ view ∈ tables.views, view.id = row.viewId) ∧
      ∃ item ∈ tables.items, item.id = row.itemId)
    (inserted : tables.insertMembers rows = some changed) : changed.WellFormed := by
  unfold Tables.insertMembers at inserted
  induction rows generalizing tables with
  | nil =>
      cases inserted
      exact wellFormed
  | cons row rows ih =>
      rw [List.foldlM_cons] at inserted
      obtain ⟨next, first, rest⟩ := Option.bind_eq_some_iff.mp inserted
      have isNext := wellFormed.insertMember (stored row (by simp)) first
      obtain ⟨items, views⟩ := rows_insertMember first
      apply ih isNext _ rest
      intro other member
      rw [items, views]
      exact stored other (by simp [member])

/-- A new view that lists stored items is put behind the others, and no item changes. -/
theorem insertListing {name : String} {items : List ItemRow} {viewed : Tables}
    (wellFormed : tables.WellFormed) (named : NameFault.of? name = none)
    (stored : ∀ item ∈ items, item ∈ tables.items)
    (inserted : tables.insertView ⟨tables.nextViewId, name, false⟩ = some viewed)
    (listed : viewed.insertMembers
      ((items.map ItemRow.id).eraseDups.map fun item => ⟨tables.nextViewId, item⟩) = some changed) :
    changed.WellFormed ∧ changed.items = tables.items ∧
      changed.views = tables.views ++ [⟨tables.nextViewId, name, false⟩] := by
  have isViewed := wellFormed.insertView rfl named rfl inserted
  have grown := insertView_next rfl inserted
  obtain ⟨sameItems, sameViews⟩ := rows_insertMembers listed
  constructor
  · apply isViewed.insertMembers _ listed
    intro row member
    obtain ⟨id, chosen, rfl⟩ := List.mem_map.mp member
    obtain ⟨item, there, rfl⟩ := List.mem_map.mp (List.mem_eraseDups.mp chosen)
    rw [grown]
    constructor
    · exact ⟨_, List.mem_append_right _ (List.mem_singleton_self _), rfl⟩
    · exact ⟨item, stored item there, rfl⟩
  · rw [sameItems, sameViews, grown]
    exact ⟨rfl, rfl⟩

/-- The choice of one view as the primary one. -/
theorem choosePrimary (wellFormed : tables.WellFormed) (chosen : Int) :
    (tables.choosePrimary chosen).WellFormed := by
  refine { wellFormed with
    toIsSound := wellFormed.toIsSound.choosePrimary chosen, viewsOrdered := ?_, onePrimary := ?_,
    membersStored := ?_ }
  · exact List.pairwise_map.mpr wellFormed.viewsOrdered
  · apply List.pairwise_map.mpr
    apply wellFormed.viewsOrdered.imp
    intro left right ordered both
    have first : left.id = chosen := by simpa using both.1
    have second : right.id = chosen := by simpa using both.2
    exact absurd (first.trans second.symm) (Int.ne_of_lt ordered)
  · intro membership member
    obtain ⟨⟨view, stored, same⟩, item⟩ := wellFormed.membersStored membership member
    exact ⟨⟨_, List.mem_map_of_mem stored, same⟩, item⟩

end WellFormed

end Tables

end Wayfinder.Storage
