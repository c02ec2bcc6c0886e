import Wayfinder.Proofs.Storage.ViewCreation

/-!
# Adding a member to a view

An addition stores one membership, if its view and its item are there, and nothing else. The rows of a
table are in the order of their keys, so they depend only on which rows there are: an addition made twice
is made once, and two additions come to the same in either order.
-/

namespace Wayfinder.Storage

open Workspace
open Text (Wide)

/-- Why an item is not added to a view. -/
def memberRefusal? (objects : Objects) (name path : String) : Option Fault :=
  if (objects.viewNamed? snapshotSpace name).isNone then some (.noView name)
  else if (objects.byFullName? snapshotSpace path).isNone then some (.noItem path)
  else none

/-- Objects of which one view lists an item, whether or not it did before, and nothing else has
changed. -/
structure ShowsMember (objects changed : Objects) (view : ViewId) (item : ItemId) : Prop where
  items : changed.items = objects.items
  spaces : changed.spaces = objects.spaces
  views : ∃ old listed, objects.view? view = some old ∧
    changed.views = objects.views.set view.index { old with members := listed } ∧
    (∀ other, other ∈ listed ↔ other = item ∨ other ∈ old.members) ∧ listed.Nodup ∧
    InStoredOrder objects listed

namespace Tables

variable {tables changed : Tables}

/-- A path is followed through the items alone. -/
theorem follow?_of_items (items : changed.items = tables.items) (parent : Option Int)
    (names : List String) : changed.follow? parent names = tables.follow? parent names := by
  have child? (parent : Option Int) (name : String) :
      changed.child? parent name = tables.child? parent name := by
    rw [Tables.child?, Tables.child?, items]
  induction names generalizing parent with
  | nil => rfl
  | cons name rest ih =>
      cases rest with
      | nil => exact child? parent name
      | cons next rest =>
          rw [Tables.follow?, Tables.follow?, child?]
          · simp only [ih]
          · simp
          · simp

/-- Whether a membership is the one that an addition asks for. -/
def Requests (tables : Tables) (name path : String) (row : MemberRow) : Prop :=
  ∃ view item, tables.viewNamed? name = some view ∧ tables.follow? none (Path.names path) = some item ∧
    row = ⟨view.id, item.id⟩

theorem requests_iff {name path : String} {view : ViewRow} (viewed : tables.viewNamed? name = some view)
    {item : ItemRow} (found : tables.follow? none (Path.names path) = some item) (row : MemberRow) :
    tables.Requests name path row ↔ row = ⟨view.id, item.id⟩ := by
  constructor
  · rintro ⟨otherView, otherItem, viewed', found', rfl⟩
    cases viewed.symm.trans viewed'
    cases found.symm.trans found'
    rfl
  · rintro rfl
    exact ⟨view, item, viewed, found, rfl⟩

/-- The rows after an addition. -/
structure Enlists (tables changed : Tables) (name path : String) : Prop where
  wellFormed : changed.WellFormed
  items : changed.items = tables.items
  views : changed.views = tables.views
  members : ∀ row, row ∈ changed.members ↔ row ∈ tables.members ∨ tables.Requests name path row

/-- What is asked for depends on the items and the views alone. -/
theorem Enlists.requests_iff {name path : String} (enlists : tables.Enlists changed name path)
    {other location : String} {row : MemberRow} :
    changed.Requests other location row ↔ tables.Requests other location row := by
  rw [Requests, Requests, viewNamed?, enlists.views, follow?_of_items enlists.items, viewNamed?]

/-- Memberships are known by which there are. -/
theorem WellFormed.members_unique (first : tables.WellFormed) (second : changed.WellFormed)
    (same : ∀ row, row ∈ tables.members ↔ row ∈ changed.members) : tables.members = changed.members := by
  have perm := (List.perm_ext_iff_of_nodup first.nodup_members second.nodup_members).mpr same
  apply perm.eq_of_pairwise _ first.membersOrdered second.membersOrdered
  intro left right _ _ forward backward
  exact absurd rfl (MemberRow.ne_of_before (MemberRow.before_trans forward backward))

theorem eq_of_parts {left right : Tables} (first : left.WellFormed) (second : right.WellFormed)
    (items : left.items = right.items) (views : left.views = right.views)
    (members : ∀ row, row ∈ left.members ↔ row ∈ right.members) : left = right := by
  have same := first.members_unique second members
  have unique := first.rootNamesUnique.trans second.rootNamesUnique.symm
  cases left
  cases right
  cases items
  cases views
  cases same
  cases unique
  rfl

end Tables

section Additions

variable {tables : Tables} (wellFormed : tables.WellFormed) {name path : String}

include wellFormed

theorem addViewMember_of_noView (missing : tables.viewNamed? name = none) :
    (⟨some tables⟩ : Database).addViewMember name path = refuse (.noView name) := by
  rw [Database.addViewMember, Database.tables_bind, wellFormed.getView_eq, missing]
  rfl

variable {view : ViewRow} (viewed : tables.viewNamed? name = some view)

include viewed

theorem addViewMember_of_noItem (missing : tables.follow? none (Path.names path) = none) :
    (⟨some tables⟩ : Database).addViewMember name path = refuse (.noItem path) := by
  rw [Database.addViewMember, Database.tables_bind, wellFormed.getView_eq, viewed]
  dsimp only
  rw [ok_bind, wellFormed.getItem_eq, missing]
  rfl

variable {item : ItemRow} (found : tables.follow? none (Path.names path) = some item)

include found

/-- A membership of a view and an item that are there is stored, unless it was. -/
theorem addViewMember_of_found : ∃ commit changed,
    (⟨some tables⟩ : Database).addViewMember name path = .ok commit ∧
    commit.database = ⟨some changed⟩ ∧ tables.Enlists changed name path := by
  have requested := Tables.requests_iff viewed found
  have stored : (∃ other ∈ tables.views, other.id = view.id) ∧
      ∃ other ∈ tables.items, other.id = item.id :=
    ⟨⟨view, (wellFormed.viewNamed?_eq_some_iff.mp viewed).1, rfl⟩, item, Tables.mem_of_follow? found, rfl⟩
  rw [Database.addViewMember, Database.tables_bind, wellFormed.getView_eq, viewed]
  dsimp only
  rw [ok_bind, wellFormed.getItem_eq, found]
  dsimp only
  rw [ok_bind]
  by_cases listed : ⟨view.id, item.id⟩ ∈ tables.members
  · rw [if_pos listed]
    refine ⟨_, tables, rfl, rfl, wellFormed, rfl, rfl, fun row => ?_⟩
    rw [requested, or_iff_left_of_imp]
    rintro rfl
    exact listed
  · rw [if_neg listed]
    cases inserted : tables.insertMember ⟨view.id, item.id⟩ with
    | none =>
        rw [Tables.insertMember, if_neg listed] at inserted
        cases inserted
    | some changed =>
        obtain ⟨items, views⟩ := Tables.rows_insertMember inserted
        refine ⟨_, changed, rfl, rfl, wellFormed.insertMember stored inserted, items, views, fun row => ?_⟩
        rw [Tables.mem_insertMember inserted, requested, or_comm]

end Additions

/-- An addition leaves the rows with what it asks for, whether or not it is refused. -/
theorem Tables.WellFormed.enlists_after {tables : Tables} (wellFormed : tables.WellFormed)
    (name path : String) :
    ∃ changed, (Operation.addViewMember (.sound name) (.sound path)).after ⟨some tables⟩ =
        ⟨some changed⟩ ∧ tables.Enlists changed name path := by
  have unasked (none : ∀ row, ¬tables.Requests name path row) : tables.Enlists tables name path :=
    ⟨wellFormed, rfl, rfl, fun row => (or_iff_left (none row)).symm⟩
  rw [Operation.after, Operation.apply, Database.addWideMember_sound]
  cases viewed : tables.viewNamed? name with
  | none =>
      rw [addViewMember_of_noView wellFormed viewed]
      refine ⟨tables, rfl, unasked ?_⟩
      rintro row ⟨view, item, there, -⟩
      rw [viewed] at there
      cases there
  | some view =>
      cases found : tables.follow? none (Path.names path) with
      | none =>
          rw [addViewMember_of_noItem wellFormed viewed found]
          refine ⟨tables, rfl, unasked ?_⟩
          rintro row ⟨_, item, -, there, -⟩
          rw [found] at there
          cases there
      | some item =>
          obtain ⟨commit, changed, added, database, enlists⟩ :=
            addViewMember_of_found wellFormed viewed found
          rw [added]
          exact ⟨changed, database, enlists⟩

theorem Tables.WellFormed.soundAdditions_commute {tables : Tables} (wellFormed : tables.WellFormed)
    (name path other location : String) :
    let first := Operation.addViewMember (.sound name) (.sound path)
    let second := Operation.addViewMember (.sound other) (.sound location)
    second.after (first.after ⟨some tables⟩) = first.after (second.after ⟨some tables⟩) := by
  obtain ⟨left, leftAfter, leftEnlists⟩ := wellFormed.enlists_after name path
  obtain ⟨right, rightAfter, rightEnlists⟩ := wellFormed.enlists_after other location
  obtain ⟨both, bothAfter, bothEnlists⟩ := leftEnlists.wellFormed.enlists_after other location
  obtain ⟨again, againAfter, againEnlists⟩ := rightEnlists.wellFormed.enlists_after name path
  dsimp only
  rw [leftAfter, rightAfter, bothAfter, againAfter]
  congr 2
  apply Tables.eq_of_parts bothEnlists.wellFormed againEnlists.wellFormed
  · rw [bothEnlists.items, leftEnlists.items, againEnlists.items, rightEnlists.items]
  · rw [bothEnlists.views, leftEnlists.views, againEnlists.views, rightEnlists.views]
  · intro row
    rw [bothEnlists.members, leftEnlists.members, leftEnlists.requests_iff, againEnlists.members,
      rightEnlists.members, rightEnlists.requests_iff, or_right_comm]

/-- An addition with a broken text changes nothing, wherever it is made. -/
theorem Operation.after_addViewMember_of_broken {name path : Wide}
    (unread : ¬∃ view fullName, name = .sound view ∧ path = .sound fullName) (database : Database) :
    (Operation.addViewMember name path).after database = database := by
  rw [Operation.after, Operation.apply, Database.addWideMember_of_broken unread]
  rfl

/-- Two additions come to the same in either order. -/
theorem Tables.WellFormed.additions_commute {tables : Tables} (wellFormed : tables.WellFormed)
    (name path other location : Wide) :
    let first := Operation.addViewMember name path
    let second := Operation.addViewMember other location
    second.after (first.after ⟨some tables⟩) = first.after (second.after ⟨some tables⟩) := by
  dsimp only
  by_cases read : ∃ view fullName, name = .sound view ∧ path = .sound fullName
  case neg => simp only [Operation.after_addViewMember_of_broken read]
  case pos =>
    by_cases read' : ∃ view fullName, other = .sound view ∧ location = .sound fullName
    case neg => simp only [Operation.after_addViewMember_of_broken read']
    case pos =>
      obtain ⟨view, fullName, rfl, rfl⟩ := read
      obtain ⟨view', fullName', rfl, rfl⟩ := read'
      exact wellFormed.soundAdditions_commute view fullName view' fullName'

/-- An addition made again changes nothing. -/
theorem Tables.Enlists.after_again {tables changed : Tables} {name path : String}
    (enlists : tables.Enlists changed name path) :
    (Operation.addViewMember (.sound name) (.sound path)).after ⟨some changed⟩ = ⟨some changed⟩ := by
  obtain ⟨again, after, repeated⟩ := enlists.wellFormed.enlists_after name path
  rw [after]
  congr 2
  apply Tables.eq_of_parts repeated.wellFormed enlists.wellFormed repeated.items repeated.views
  intro row
  rw [repeated.members, enlists.requests_iff, enlists.members, or_assoc, or_self]

section Snapshot

variable {tables after : Tables} {objects changed : Objects}

/-- Of two portraits of the same views, one shows at one view what it lists and the other views alike. -/
theorem PortraysViews.views_set {rows : List ViewRow} {row : ViewRow} {members others : Int → List ItemId}
    (portrays : PortraysViews objects rows members) (portrayed : PortraysViews changed rows others)
    (stored : row ∈ rows) (kept : ∀ other ∈ rows, other.id ≠ row.id → others other.id = members other.id) :
    ∃ old, objects.view? (viewObjectOf rows row.id) = some old ∧ old.members = members row.id ∧
      changed.views = objects.views.set (viewObjectOf rows row.id).index
        { old with members := others row.id } := by
  obtain ⟨name, text, found⟩ := portrays.view? row stored
  refine ⟨_, found, rfl, ?_⟩
  have length : changed.views.length = objects.views.length := by
    rw [portrayed.length_views, portrays.length_views]
  apply eq_of_getElem? (by rw [List.length_set, length])
  intro index bound
  rw [length] at bound
  obtain ⟨other, there, place⟩ := portrays.exists_row bound
  obtain ⟨first, firstText, before⟩ := portrays.view? other there
  obtain ⟨second, secondText, now⟩ := portrayed.view? other there
  rw [Name.text_inj.mp (secondText.trans firstText.symm)] at now
  rw [place] at before now
  rw [List.getElem?_set]
  by_cases same : other.id = row.id
  · rw [same] at place before now
    rw [place] at found ⊢
    rw [if_pos rfl, if_pos bound]
    have named : name = first := congrArg ListView.name (Option.some.inj (found.symm.trans before))
    rw [viewFor, same, ← named] at now
    exact now
  · have apart : (viewObjectOf rows row.id).index ≠ index := by
      intro equal
      apply same
      exact viewObjectOf_inj there (place.trans (congrArg ViewId.mk equal).symm)
    rw [if_neg apart]
    rw [kept other there same] at now
    exact now.trans before.symm

/-- A snapshot of the rows after an addition shows the member. -/
theorem Portrays.showsMember (portrays : Portrays objects tables) (wellFormed : tables.WellFormed)
    {name path : String} (enlists : tables.Enlists after name path) (portrayed : Portrays changed after)
    {view : ViewRow} (viewed : tables.viewNamed? name = some view) {item : ItemRow}
    (found : tables.follow? none (Path.names path) = some item) :
    ShowsMember objects changed (viewObjectOf tables.views view.id) (objectOf tables.items item.id) := by
  have there := (wellFormed.viewNamed?_eq_some_iff.mp viewed).1
  have requested := Tables.requests_iff viewed found
  have items : changed.items = objects.items := by
    have now := portrayed.toPortraysItems
    rw [enlists.items] at now
    exact now.items_unique portrays.toPortraysItems
  have views := portrayed.toPortraysViews
  rw [enlists.views] at views
  have kept : ∀ other ∈ tables.views, other.id ≠ view.id →
      after.listedItems other.id = tables.listedItems other.id := by
    intro other _ apart
    apply listedItems_eq enlists.items
    intro item
    rw [enlists.members, requested, or_iff_left]
    intro same
    exact apart (MemberRow.mk.inj same).1
  obtain ⟨old, before, members, now⟩ := portrays.toPortraysViews.views_set views there kept
  obtain ⟨nodup, ordered⟩ := portrayed.listedItems_ordered enlists.wellFormed view.id
  constructor
  case items => exact items
  case spaces => rw [portrayed.spaces, portrays.spaces, enlists.items, enlists.views]
  case views =>
    refine ⟨old, _, before, now, fun other => ?_, nodup, ordered.of_items items⟩
    simp only [members, Tables.mem_listedItems, enlists.items, enlists.members, requested,
      MemberRow.mk.injEq, true_and]
    constructor
    · rintro ⟨row, stored, listed | same, rfl⟩
      · exact .inr ⟨row, stored, listed, rfl⟩
      · exact .inl (by rw [same])
    · rintro (rfl | ⟨row, stored, listed, rfl⟩)
      · exact ⟨item, Tables.mem_of_follow? found, .inr rfl, rfl⟩
      · exact ⟨row, stored, .inl listed, rfl⟩

/-- Adding a member: it is refused for a reason that the snapshot tells, and then nothing changes, or the
snapshot of the changed database shows the member. Made again, the addition changes nothing more. -/
def AddsMember (database : Database) (objects : Objects) (name path : String) : Prop :=
  match memberRefusal? objects name path with
  | some fault =>
      database.addViewMember name path = refuse fault ∧
      (Session.addViewMember (.sound name) (.sound path)).conclude database = (refuse fault, database)
  | none =>
      ∃ commit view item changed, database.addViewMember name path = .ok commit ∧
        objects.viewNamed? snapshotSpace name = some view ∧
        objects.byFullName? snapshotSpace path = some item ∧
        commit.database.load.result = .ok changed ∧ ShowsMember objects changed view item ∧
        (Operation.addViewMember (.sound name) (.sound path)).after commit.database = commit.database

theorem Portrays.addsMember (portrays : Portrays objects tables) (wellFormed : tables.WellFormed)
    (name path : String) : AddsMember ⟨some tables⟩ objects name path := by
  have refused {fault : Fault}
      (fails : (⟨some tables⟩ : Database).addViewMember name path = refuse fault) :
      (⟨some tables⟩ : Database).addViewMember name path = refuse fault ∧
        (Session.addViewMember (.sound name) (.sound path)).conclude ⟨some tables⟩ =
          (refuse fault, ⟨some tables⟩) := by
    refine ⟨fails, ?_⟩
    rw [conclude_addViewMember, Database.addWideMember_sound, fails]
    rfl
  unfold AddsMember memberRefusal?
  rw [portrays.viewNamed?_eq, portrays.byFullName?_eq wellFormed]
  cases viewed : tables.viewNamed? name with
  | none => exact refused (addViewMember_of_noView wellFormed viewed)
  | some view =>
      cases found : tables.follow? none (Path.names path) with
      | none => exact refused (addViewMember_of_noItem wellFormed viewed found)
      | some item =>
          obtain ⟨commit, after, added, database, enlists⟩ :=
            addViewMember_of_found wellFormed viewed found
          obtain ⟨changed, loaded, portrayed⟩ := enlists.wellFormed.load_portrays
          refine ⟨commit, _, _, changed, added, rfl, rfl, ?_,
            portrays.showsMember wellFormed enlists portrayed viewed found, ?_⟩
          · rw [database, loaded]
          · rw [database, enlists.after_again]

end Snapshot

end Wayfinder.Storage
