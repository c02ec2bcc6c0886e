import Wayfinder.Proofs.Storage.Agreement
import Wayfinder.Proofs.Storage.Loading
import Wayfinder.Proofs.Workspace.Lineage

/-!
# Where a stored item is

A row is located by the names from the top level down to it, one parent after another. When the rows fit
together, every row has one location, no two rows have the same, and it is the location of the object
that stands for the row.
-/

namespace Wayfinder.Storage

open Workspace

theorem isSegment_of_name {name : String} (named : NameFault.of? name = none) :
    Path.IsSegment name := by
  let checked : Name := ⟨name, named⟩
  exact ⟨checked.text_ne_empty, checked.separator_not_mem⟩

namespace Tables

/-- Whether names lead from the top level down to an item; no names lead to the top level itself. -/
inductive LeadsTo (tables : Tables) : List String → Option Int → Prop where
  | top : tables.LeadsTo [] none
  | step {names : List String} {row : ItemRow} (above : tables.LeadsTo names row.parentId)
      (stored : row ∈ tables.items) : tables.LeadsTo (names ++ [row.name]) (some row.id)

namespace LeadsTo

variable {tables changed : Tables} {names : List String} {place : Option Int} {id : Int}

theorem some_iff : tables.LeadsTo names (some id) ↔ ∃ above row, row ∈ tables.items ∧ row.id = id ∧
    tables.LeadsTo above row.parentId ∧ names = above ++ [row.name] := by
  constructor
  · generalize reached : some id = place
    rintro (_ | ⟨above, stored⟩)
    · cases reached
    · cases reached
      exact ⟨_, _, stored, rfl, above, rfl⟩
  · rintro ⟨above, row, stored, rfl, leads, rfl⟩
    exact leads.step stored

theorem none_iff : tables.LeadsTo names none ↔ names = [] := by
  constructor
  · rintro ⟨⟩
    rfl
  · rintro rfl
    exact .top

theorem ne_nil (leads : tables.LeadsTo names (some id)) : names ≠ [] := by
  obtain ⟨above, row, -, -, -, rfl⟩ := some_iff.mp leads
  simp

theorem exists_row (leads : tables.LeadsTo names (some id)) : ∃ row ∈ tables.items, row.id = id := by
  obtain ⟨-, row, stored, same, -⟩ := some_iff.mp leads
  exact ⟨row, stored, same⟩

/-- A location depends only on the identifiers, the parents and the names of the rows. -/
theorem mono (leads : tables.LeadsTo names place)
    (kept : ∀ row ∈ tables.items, ∃ other ∈ changed.items,
      other.id = row.id ∧ other.parentId = row.parentId ∧ other.name = row.name) :
    changed.LeadsTo names place := by
  induction leads with
  | top => exact .top
  | step above stored ih =>
      obtain ⟨other, there, id, parent, name⟩ := kept _ stored
      rw [← id, ← name]
      exact .step (parent ▸ ih) there

/-- The location of a row that is left when others are taken out together with all below them. -/
theorem eraseItems {ids : List Int} (leads : tables.LeadsTo names place)
    (closed : ClosedBelow tables.items ids) (left : ∀ id, place = some id → id ∉ ids) :
    (tables.eraseItems ids).LeadsTo names place := by
  induction leads with
  | top => exact .top
  | @step names row above stored ih =>
      have spared : row.id ∉ ids := left row.id rfl
      have there : row ∈ (tables.eraseItems ids).items := by
        simp [Tables.eraseItems, stored, spared]
      apply LeadsTo.step _ there
      apply ih
      intro parent held gone
      exact spared (closed row stored parent gone held)

/-- A path goes on from a location. -/
theorem follow? {rest : List String} {row : ItemRow} (leads : tables.LeadsTo names place)
    (found : tables.follow? place rest = some row) :
    tables.LeadsTo (names ++ rest) (some row.id) := by
  have step {names : List String} {place : Option Int} {name : String} {row : ItemRow}
      (leads : tables.LeadsTo names place) (found : tables.child? place name = some row) :
      tables.LeadsTo (names ++ [name]) (some row.id) := by
    obtain ⟨stored, rfl, rfl⟩ := child?_eq_some found
    exact leads.step stored
  induction rest generalizing names place with
  | nil => cases found
  | cons name rest ih =>
      cases rest with
      | nil => exact step leads found
      | cons next rest =>
          rw [Tables.follow?] at found
          · obtain ⟨folder, there, below⟩ := Option.bind_eq_some_iff.mp found
            have further := ih (step leads there) below
            rwa [List.append_assoc] at further
          · simp

end LeadsTo

namespace WellFormed

variable {tables : Tables} (wellFormed : tables.WellFormed)

include wellFormed

/-- A path that begins with a location goes on from there. -/
theorem follow?_append {names : List String} {place : Option Int}
    (leads : tables.LeadsTo names place) {rest : List String} (more : rest ≠ []) :
    tables.follow? none (names ++ rest) = tables.follow? place rest := by
  induction leads generalizing rest with
  | top => rfl
  | @step names row above stored ih =>
      have child := wellFormed.child?_eq_some_iff.mpr ⟨stored, rfl, rfl⟩
      rw [List.append_assoc, ih (by simp), List.singleton_append, Tables.follow?, child]
      · rfl
      · exact more

/-- Names lead to an item if and only if it is found by following them. -/
theorem leadsTo_iff_follow? {names : List String} {id : Int} : tables.LeadsTo names (some id) ↔
    ∃ row, tables.follow? none names = some row ∧ row.id = id := by
  constructor
  · intro leads
    obtain ⟨above, row, stored, rfl, further, rfl⟩ := LeadsTo.some_iff.mp leads
    refine ⟨row, ?_, rfl⟩
    rw [wellFormed.follow?_append further (by simp)]
    exact wellFormed.child?_eq_some_iff.mpr ⟨stored, rfl, rfl⟩
  · rintro ⟨row, found, rfl⟩
    exact LeadsTo.top.follow? found

theorem follow?_eq_some_iff {names : List String} {row : ItemRow} :
    tables.follow? none names = some row ↔ row ∈ tables.items ∧ tables.LeadsTo names (some row.id) := by
  rw [wellFormed.leadsTo_iff_follow?]
  constructor
  · intro found
    exact ⟨mem_of_follow? found, row, found, rfl⟩
  · rintro ⟨stored, other, found, same⟩
    rw [found, wellFormed.eq_of_itemId (mem_of_follow? found) stored same]

/-- The item of a full name is the one that its names lead to. -/
theorem getItem_eq_ok_iff_leadsTo {fullName : String} {row : ItemRow} :
    tables.getItem fullName none = .ok row ↔
      row ∈ tables.items ∧ tables.LeadsTo (Path.names fullName) (some row.id) := by
  rw [wellFormed.getItem_eq_ok_iff, wellFormed.follow?_eq_some_iff]

theorem eq_of_leadsTo {names : List String} {id other : Int} (first : tables.LeadsTo names (some id))
    (second : tables.LeadsTo names (some other)) : id = other := by
  obtain ⟨row, found, rfl⟩ := wellFormed.leadsTo_iff_follow?.mp first
  obtain ⟨row', found', rfl⟩ := wellFormed.leadsTo_iff_follow?.mp second
  rw [found] at found'
  cases found'
  rfl

/-- The location of an item in another is that of the other, with its own name behind it. -/
theorem leadsTo_child_iff {names : List String} {row : ItemRow} {id : Int} (stored : row ∈ tables.items)
    (leads : tables.LeadsTo names (some id)) :
    tables.LeadsTo (names ++ [row.name]) (some row.id) ↔ row.parentId = some id := by
  constructor
  · intro below
    obtain ⟨above, other, there, same, higher, parts⟩ := LeadsTo.some_iff.mp below
    cases wellFormed.eq_of_itemId there stored same
    rw [← (List.append_inj' parts rfl).1] at higher
    cases held : row.parentId with
    | none =>
        rw [held] at higher
        exact absurd (LeadsTo.none_iff.mp higher) leads.ne_nil
    | some parent =>
        rw [held] at higher
        rw [wellFormed.eq_of_leadsTo higher leads]
  · intro held
    exact .step (held ▸ leads) stored

/-- An item has one location. -/
theorem names_eq {names others : List String} {place : Option Int}
    (first : tables.LeadsTo names place) (second : tables.LeadsTo others place) : names = others := by
  induction first generalizing others with
  | top => exact (LeadsTo.none_iff.mp second).symm
  | @step names row above stored ih =>
      obtain ⟨higher, other, there, same, leads, rfl⟩ := LeadsTo.some_iff.mp second
      cases wellFormed.eq_of_itemId there stored same
      rw [ih leads]

theorem isSegment_of_leadsTo {names : List String} {place : Option Int}
    (leads : tables.LeadsTo names place) : ∀ name ∈ names, Path.IsSegment name := by
  induction leads with
  | top => simp
  | @step names row above stored ih =>
      intro name member
      rcases List.mem_append.mp member with higher | lowest
      · exact ih name higher
      · rw [List.mem_singleton.mp lowest]
        exact isSegment_of_name (wellFormed.itemNames row stored)

/-- An item is below another if and only if its location goes on from that of the other. -/
theorem descends_iff {outer inner : List String} {root id : Int}
    (first : tables.LeadsTo outer (some root)) (second : tables.LeadsTo inner (some id)) :
    Descends tables.items root id ↔ outer <+: inner := by
  constructor
  · intro descends
    induction descends generalizing inner with
    | root =>
        cases wellFormed.names_eq first second
        exact List.prefix_rfl
    | @child parent row above stored held ih =>
        obtain ⟨higher, other, there, same, leads, rfl⟩ := LeadsTo.some_iff.mp second
        cases wellFormed.eq_of_itemId there stored same
        rw [held] at leads
        exact (ih leads).trans (List.prefix_append higher [row.name])
  · intro further
    generalize reached : some id = place at second
    induction second generalizing id with
    | top => cases reached
    | @step names row above stored ih =>
        cases reached
        rcases List.prefix_concat_iff.mp further with rfl | higher
        · rw [wellFormed.eq_of_leadsTo first (above.step stored)]
          exact .root
        · cases held : row.parentId with
          | none =>
              rw [held, LeadsTo.none_iff] at above
              rw [above, List.prefix_nil] at higher
              exact absurd higher first.ne_nil
          | some parent => exact .child (ih higher held.symm) stored held

end WellFormed

end Tables

variable {tables : Tables} {objects : Objects}

/-- A row is located where the object is that stands for it. -/
theorem Portrays.leadsTo_lineageNames (portrays : Portrays objects tables)
    (wellFormed : tables.WellFormed) (tree : objects.IsTree) {row : ItemRow}
    (stored : row ∈ tables.items) :
    tables.LeadsTo (objects.lineageNames (objectOf tables.items row.id)) (some row.id) := by
  obtain ⟨name, -, found⟩ := portrays.item? row stored
  obtain ⟨-, followed⟩ := tree.follow?_lineage found
  have alike := portrays.follow?_eq wellFormed (objects.lineageNames (objectOf tables.items row.id))
    (houses_none tables.items)
  rw [groupOf] at alike
  obtain ⟨other, found', same⟩ := Option.map_eq_some_iff.mp (alike.symm.trans followed)
  exact wellFormed.leadsTo_iff_follow?.mpr
    ⟨other, found', objectOf_inj (Tables.mem_of_follow? found') same⟩

theorem Portrays.lineageNames_eq (portrays : Portrays objects tables)
    (wellFormed : tables.WellFormed) (tree : objects.IsTree) {names : List String} {id : Int}
    (leads : tables.LeadsTo names (some id)) :
    objects.lineageNames (objectOf tables.items id) = names := by
  obtain ⟨row, stored, rfl⟩ := leads.exists_row
  exact wellFormed.names_eq (portrays.leadsTo_lineageNames wellFormed tree stored) leads

/-- Rows that fit together have a snapshot: it is their portrait, and a tree. -/
theorem Tables.WellFormed.exists_snapshot (wellFormed : tables.WellFormed) :
    ∃ objects, (⟨some tables⟩ : Database).load.result = .ok objects ∧ Portrays objects tables ∧
      objects.IsTree := by
  obtain ⟨objects, made, tree⟩ := Database.IsSound.load_result ⟨tables, rfl, wellFormed.toIsSound⟩
  obtain ⟨other, loaded, portrays⟩ := wellFormed.load_portrays
  rw [loaded] at made
  cases made
  exact ⟨objects, congrArg Traced.result loaded, portrays, tree⟩

/-- Every item has a location. -/
theorem Tables.WellFormed.exists_leadsTo (wellFormed : tables.WellFormed) {row : ItemRow}
    (stored : row ∈ tables.items) : ∃ names, tables.LeadsTo names (some row.id) := by
  obtain ⟨objects, -, portrays, tree⟩ := wellFormed.exists_snapshot
  exact ⟨_, portrays.leadsTo_lineageNames wellFormed tree stored⟩

/-- Where an item is put that is created in a folder, or at the top level. -/
def newFullName (parent : Option String) (name : String) : String :=
  match parent with
  | some parent => Path.trim parent ++ "/" ++ name
  | none => name

/-- The place for a new item is read off the full name that it is to have. -/
theorem Tables.WellFormed.leadsTo_parentFolder (wellFormed : tables.WellFormed) {parent : Option String}
    {parentId : Option Int} (found : tables.parentFolder none parent = .ok parentId) {name : String}
    (segment : Path.IsSegment name) : ∃ names, tables.LeadsTo names parentId ∧
      Path.names (newFullName (nonEmpty? parent) name) = names ++ [name] := by
  unfold Tables.parentFolder at found
  cases given : nonEmpty? parent with
  | none =>
      rw [given] at found
      cases found
      exact ⟨[], .top, Path.names_of_segment segment⟩
  | some path =>
      rw [given] at found
      obtain ⟨folder, there, found⟩ := bind_eq_ok_iff.mp found
      have leads := (wellFormed.getItem_eq_ok_iff_leadsTo.mp there).2
      refine ⟨_, ?_, Path.names_child (wellFormed.isSegment_of_leadsTo leads) segment⟩
      split at found
      case h_1 => exact Except.ok.inj found ▸ leads
      case h_2 => cases found

/-- A new item is where it was to be put. -/
theorem Tables.WellFormed.leadsTo_createItem (wellFormed : tables.WellFormed) {missed : Bool}
    {name : String} {kind : ItemKind} {displayName parent : Option String} {commit : Commit ItemRow}
    (created : (⟨some tables⟩ : Database).createItemOverlooking none missed name kind displayName
      parent = .ok commit) : ∃ changed, commit.database = ⟨some changed⟩ ∧ changed.WellFormed ∧
      changed.LeadsTo (Path.names (newFullName (nonEmpty? parent) name)) (some commit.value.id) := by
  obtain ⟨other, left, succeeds⟩ := wellFormed.succeeds_createItem created
  obtain ⟨parentId, changed, named, placed, value, inserted, after⟩ :=
    Database.createItem_commit created
  rw [left] at after
  cases after
  obtain ⟨rfl, -⟩ := Tables.insertItem_next (by rw [value]) inserted
  obtain ⟨names, leads, spelled⟩ := wellFormed.leadsTo_parentFolder placed (isSegment_of_name named)
  have held : commit.value.parentId = parentId := by rw [value]
  have called : commit.value.name = name := by rw [value]
  refine ⟨_, left, succeeds.wellFormed, ?_⟩
  rw [spelled, ← called]
  apply Tables.LeadsTo.step
  · rw [held]
    exact leads.mono fun row stored => ⟨row, List.mem_append_left _ stored, rfl, rfl, rfl⟩
  · exact List.mem_append_right _ (List.mem_singleton_self _)

end Wayfinder.Storage
