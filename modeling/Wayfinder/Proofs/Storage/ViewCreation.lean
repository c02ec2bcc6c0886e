import Wayfinder.Proofs.Storage.Duplicates
import Wayfinder.Proofs.Storage.Memberships

/-!
# Creating a view

The rows of a new view are those of the items that its paths lead to, each once, whatever the list of
paths repeats. A snapshot shows the view behind all others with these items in the order of their
identifiers; the other views and all items are as they were, and so is the choice of the primary view
unless the new one is to be it.
-/

namespace Wayfinder.Storage

open Workspace

/-- Why a view of a given name and members is refused. Of several members that lead nowhere the first is
told. -/
def viewRefusal? (objects : Objects) (name : String) (members : List String) : Option Fault :=
  match checkName name with
  | .error fault => some fault
  | .ok _ =>
    if (objects.viewNamed? snapshotSpace name).isSome then some (.duplicateView name)
    else
      (members.find? fun path => (objects.byFullName? snapshotSpace path).isNone).map .noItem

/-- Items in the order of the identifiers under which they are stored. -/
def InStoredOrder (objects : Objects) (items : List ItemId) : Prop :=
  ∃ ids : List Int, ids.Pairwise (· < ·) ∧
    (items.map fun item => (objects.item? item).bind Item.id) = ids.map some

theorem InStoredOrder.of_items {objects changed : Objects} {items : List ItemId}
    (ordered : InStoredOrder changed items) (same : changed.items = objects.items) :
    InStoredOrder objects items := by
  simpa only [InStoredOrder, Objects.item?, same] using ordered

/-- The items that some paths lead to, each once, in the order of their identifiers. -/
structure ListsPaths (objects : Objects) (paths : List String) (items : List ItemId) : Prop where
  mem_iff : ∀ item, item ∈ items ↔ ∃ path ∈ paths, objects.byFullName? snapshotSpace path = some item
  nodup : items.Nodup
  ordered : InStoredOrder objects items

/-- Objects to which a view was added, and nothing else. -/
structure ShowsNewView (objects changed : Objects) (name : String) (id : Int) (listed : List ItemId)
    (primary : Bool) : Prop where
  next : id = nextId (objects.views.filterMap ListView.id)
  items : changed.items = objects.items
  views : ∃ checked : Name, checked.text = name ∧ changed.views = objects.views ++
    [{ name := checked, owner := some snapshotSpace, id := some id, members := listed }]
  spaces : changed.spaces = objects.spaces.map fun space =>
    { space with
      views := space.views ++ [⟨objects.views.length⟩]
      primary := if primary then some ⟨objects.views.length⟩ else space.primary }

namespace Tables

variable {tables changed : Tables}

/-- Striking out what was met before leaves nothing twice. -/
theorem nodup_eraseDups {α : Type} [DecidableEq α] : (elements : List α) → elements.eraseDups.Nodup
  | [] => List.nodup_nil
  | first :: rest => by
    have fresh : first ∉ (rest.filter fun other => !other == first).eraseDups := by
      simp [List.mem_eraseDups]
    rw [List.eraseDups_cons]
    exact List.nodup_cons.mpr ⟨fresh, nodup_eraseDups _⟩
  termination_by elements => elements.length
  decreasing_by exact Nat.lt_succ_of_le (List.length_filter_le _ rest)

theorem insertView_free {name : String} (free : tables.viewNamed? name = none) :
    tables.insertView ⟨tables.nextViewId, name, false⟩ =
      some { tables with views := tables.views ++ [⟨tables.nextViewId, name, false⟩] } := by
  have fits : ¬(tables.views.any fun other => other.id == tables.nextViewId || other.name == name) =
      true := by
    intro clash
    obtain ⟨other, stored, both⟩ := List.any_eq_true.mp clash
    have differ := List.find?_eq_none.mp free other stored
    rcases Bool.or_eq_true_iff.mp both with same | same
    · exact absurd (eq_of_beq same) (Int.ne_of_lt (lt_nextViewId stored))
    · exact differ same
  rw [insertView, if_neg fits, insertOrdered_last]
  intro other stored
  exact decide_eq_true (lt_nextViewId stored)

/-- Memberships that are not stored yet can be stored. -/
theorem exists_insertMembers {rows : List MemberRow} (distinct : rows.Nodup)
    (fresh : ∀ row ∈ rows, row ∉ tables.members) :
    ∃ changed, tables.insertMembers rows = some changed := by
  induction rows generalizing tables with
  | nil => exact ⟨tables, rfl⟩
  | cons row rows ih =>
      obtain ⟨first, distinct⟩ := List.nodup_cons.mp distinct
      have inserted : tables.insertMember row = some { tables with
          members := insertOrdered MemberRow.before row tables.members } :=
        if_neg (fresh row List.mem_cons_self)
      rw [insertMembers, List.foldlM_cons, inserted]
      apply ih distinct
      intro other member listed
      rcases mem_insertOrdered.mp listed with rfl | old
      · exact first member
      · exact fresh other (List.mem_cons_of_mem row member) old

/-- The rows after the creation of a view. -/
structure GrownByView (tables changed : Tables) (name : String) (members : List String)
    (primary : Bool) : Prop where
  wellFormed : changed.WellFormed
  items : changed.items = tables.items
  views : changed.views = (tables.views ++ [(⟨tables.nextViewId, name, false⟩ : ViewRow)]).map
    fun row => { row with
      isPrimary := if primary then row.id == tables.nextViewId else row.isPrimary }
  members : ∀ row, row ∈ changed.members ↔ row ∈ tables.members ∨ row.viewId = tables.nextViewId ∧
    ∃ path ∈ members, ∃ item, tables.getItem path none = .ok item ∧ item.id = row.itemId

/-- The new view is chosen as the primary one. -/
theorem GrownByView.choosePrimary {name : String} {members : List String}
    (grown : tables.GrownByView changed name members false) :
    tables.GrownByView (changed.choosePrimary tables.nextViewId) name members true where
  wellFormed := grown.wellFormed.choosePrimary tables.nextViewId
  items := grown.items
  views := by
    rw [Tables.choosePrimary, grown.views, List.map_map]
    rfl
  members := grown.members

end Tables

namespace Tables.WellFormed

variable {tables : Tables} (wellFormed : tables.WellFormed)

include wellFormed

/-- A view of a free name can be stored with what it lists. -/
theorem exists_listing {name : String} (sound : NameFault.of? name = none)
    (free : tables.viewNamed? name = none) {members : List String} {items : List ItemRow}
    (found : tables.getItems members = .ok items) :
    ∃ changed, ((tables.insertView ⟨tables.nextViewId, name, false⟩).bind fun viewed =>
        viewed.insertMembers
          ((items.map ItemRow.id).eraseDups.map fun item => ⟨tables.nextViewId, item⟩)) =
        some changed ∧
      changed.getView name = .ok ⟨tables.nextViewId, name, false⟩ ∧
      tables.GrownByView changed name members false := by
  have inserted := insertView_free free
  have distinct : ((items.map ItemRow.id).eraseDups.map
      fun item => (⟨tables.nextViewId, item⟩ : MemberRow)).Nodup := by
    apply List.Nodup.map _ (nodup_eraseDups _)
    intro left right same
    exact (MemberRow.mk.inj same).2
  have fresh : ∀ row ∈ (items.map ItemRow.id).eraseDups.map
      (fun item => (⟨tables.nextViewId, item⟩ : MemberRow)), row ∉ tables.members := by
    intro row chosen listed
    obtain ⟨item, -, rfl⟩ := List.mem_map.mp chosen
    obtain ⟨⟨view, stored, same⟩, -⟩ := wellFormed.membersStored _ listed
    exact absurd same (Int.ne_of_lt (lt_nextViewId stored))
  obtain ⟨changed, listed⟩ := @exists_insertMembers { tables with
    views := tables.views ++ [⟨tables.nextViewId, name, false⟩] } _ distinct fresh
  obtain ⟨isListed, sameItems, views⟩ :=
    wellFormed.insertListing sound (mem_of_getItems found) inserted listed
  refine ⟨changed, by rw [inserted, Option.bind_some, listed],
    wellFormed.getView_insertListing sound (mem_of_getItems found) inserted listed, isListed,
    sameItems, by simp [views], ?_⟩
  rintro ⟨viewId, itemId⟩
  rw [mem_insertMembers listed, or_comm]
  apply or_congr Iff.rfl
  simp only [List.mem_map, List.mem_eraseDups, MemberRow.mk.injEq, mem_getItems found]
  constructor
  · rintro ⟨_, ⟨item, ⟨path, asked, leads⟩, rfl⟩, rfl, rfl⟩
    exact ⟨rfl, path, asked, item, leads, rfl⟩
  · rintro ⟨rfl, path, asked, item, leads, rfl⟩
    exact ⟨_, ⟨item, ⟨path, asked, leads⟩, rfl⟩, rfl, rfl⟩

/-- A view of a free name whose members are there is created. -/
theorem createView_of_resolved {name : String} (sound : NameFault.of? name = none)
    (free : tables.viewNamed? name = none) {members : List String}
    (resolved : ∀ path ∈ members, ∃ item, tables.getItem path none = .ok item) (primary : Bool) :
    ∃ commit changed,
      (⟨some tables⟩ : Database).createView name members primary false = .ok commit ∧
      commit.database = ⟨some changed⟩ ∧ commit.value.id = tables.nextViewId ∧
      tables.GrownByView changed name members primary := by
  obtain ⟨items, found⟩ := exists_mapM_ok resolved
  rw [← getItems] at found
  obtain ⟨changed, stored, there, grown⟩ := wellFormed.exists_listing sound free found
  rw [Database.createView, requireName_of_sound sound, Database.tables_bind, wellFormed.findView_eq,
    free, ok_bind, ok_bind, if_neg (by simp), found, ok_bind]
  dsimp only
  rw [stored]
  cases primary with
  | false => exact ⟨_, changed, rfl, rfl, rfl, grown⟩
  | true =>
      dsimp only
      rw [if_pos rfl, Database.setPrimaryView, Database.tables_bind, there]
      exact ⟨_, _, rfl, rfl, rfl, grown.choosePrimary⟩

end Tables.WellFormed

section Views

variable {objects changed : Objects} {rows : List ViewRow} {row : ViewRow}
  {members others : Int → List ItemId}

theorem map_id_flagged (flag : ViewRow → Bool) :
    (rows.map fun row => { row with isPrimary := flag row }).map ViewRow.id = rows.map ViewRow.id := by
  rw [List.map_map]
  rfl

/-- What rows portray does not depend on which view is flagged. -/
theorem PortraysViews.unflag {flag : ViewRow → Bool}
    (portrays : PortraysViews objects (rows.map fun row => { row with isPrimary := flag row }) members) :
    PortraysViews objects rows members := by
  have same (id : Int) : viewObjectOf (rows.map fun row => { row with isPrimary := flag row }) id =
      viewObjectOf rows id := by
    rw [viewObjectOf, viewObjectOf, map_id_flagged]
  constructor
  · rw [portrays.viewIds, List.map_map]
    apply List.map_congr_left
    intro row _
    exact same row.id
  · intro row stored
    obtain ⟨name, text, found⟩ := portrays.view? _ (List.mem_map_of_mem stored)
    rw [same] at found
    exact ⟨name, text, found⟩

/-- A new row behind the others is portrayed by a new view behind the others. -/
theorem PortraysViews.views_concat (portrays : PortraysViews objects rows members)
    (grown : PortraysViews changed (rows ++ [row]) others) (fresh : row.id ∉ rows.map ViewRow.id)
    (kept : ∀ other ∈ rows, others other.id = members other.id) :
    ∃ name : Name, name.text = row.name ∧
      changed.views = objects.views ++ [viewFor row name (others row.id)] := by
  obtain ⟨name, text, found⟩ := grown.view? row (by simp)
  rw [viewObjectOf_concat fresh, ← portrays.length_views] at found
  refine ⟨name, text, ?_⟩
  have length : changed.views.length = objects.views.length + 1 := by
    rw [grown.length_views, portrays.length_views, List.length_append, List.length_singleton]
  apply eq_of_getElem? (by rw [length, List.length_append, List.length_singleton])
  intro index bound
  rcases Nat.lt_succ_iff_lt_or_eq.mp (length ▸ bound) with old | rfl
  · obtain ⟨other, stored, place⟩ := portrays.exists_row old
    obtain ⟨first, firstText, before⟩ := portrays.view? other stored
    obtain ⟨second, secondText, after⟩ := grown.view? other (List.mem_append_left _ stored)
    rw [viewObjectOf_append stored, place, kept other stored,
      Name.text_inj.mp (secondText.trans firstText.symm)] at after
    rw [place] at before
    rw [List.getElem?_append_left old]
    exact after.trans before.symm
  · rw [List.getElem?_concat_length]
    exact found

/-- The view that takes the flag from all others. -/
theorem flaggedView_chosen (fresh : row.id ∉ rows.map ViewRow.id) :
    flaggedView ((rows ++ [row]).map fun other => { other with isPrimary := other.id == row.id }) =
      some ⟨rows.length⟩ := by
  have unflagged : (rows.map fun other => { other with isPrimary := other.id == row.id }).filter
      ViewRow.isPrimary = [] := by
    apply List.filter_eq_nil_iff.mpr
    intro other member
    obtain ⟨old, stored, rfl⟩ := List.mem_map.mp member
    intro same
    exact fresh (eq_of_beq same ▸ List.mem_map_of_mem stored)
  rw [flaggedView, List.map_append, List.filter_append, unflagged]
  simp only [viewObjectOf, List.map_append, map_id_flagged]
  simp [List.idxOf_append_of_notMem fresh]

end Views

section Listed

variable {tables changed : Tables} {objects : Objects}

/-- What a view lists depends on its memberships only. -/
theorem listedItems_eq (items : changed.items = tables.items) {view : Int}
    (members : ∀ item, ⟨view, item⟩ ∈ changed.members ↔ ⟨view, item⟩ ∈ tables.members) :
    changed.listedItems view = tables.listedItems view := by
  have same : (fun row : ItemRow => changed.members.contains ⟨view, row.id⟩) =
      fun row => tables.members.contains ⟨view, row.id⟩ := by
    funext row
    rw [Bool.eq_iff_iff, List.contains_iff_mem, List.contains_iff_mem, members]
  rw [Tables.listedItems, Tables.listedItems, items, same]

theorem Tables.mem_listedItems {view : Int} {item : ItemId} : item ∈ tables.listedItems view ↔
    ∃ row ∈ tables.items, ⟨view, row.id⟩ ∈ tables.members ∧ objectOf tables.items row.id = item := by
  simp only [Tables.listedItems, List.mem_map, List.mem_filter, List.contains_iff_mem, and_assoc]

/-- A view lists its items in the order of their identifiers, and none twice. -/
theorem Portrays.listedItems_ordered (portrays : Portrays objects tables)
    (wellFormed : tables.WellFormed) (view : Int) :
    (tables.listedItems view).Nodup ∧ InStoredOrder objects (tables.listedItems view) := by
  have increasing := wellFormed.itemsOrdered.filter fun row => tables.members.contains ⟨view, row.id⟩
  constructor
  · apply List.pairwise_map.mpr
    apply increasing.imp_of_mem
    intro left right first second ordered same
    exact absurd (objectOf_inj (List.mem_filter.mp first).1 same) (Int.ne_of_lt ordered)
  · refine ⟨_, List.pairwise_map.mpr increasing, ?_⟩
    rw [Tables.listedItems, List.map_map, List.map_map]
    apply List.map_congr_left
    intro row chosen
    obtain ⟨name, -, found⟩ := portrays.item? row (List.mem_filter.mp chosen).1
    rw [Function.comp_apply, found]
    rfl

/-- A path leads to the object of the row that it leads to. -/
theorem Portrays.byFullName?_eq_some_iff (portrays : Portrays objects tables)
    (wellFormed : tables.WellFormed) {path : String} {item : ItemId} :
    objects.byFullName? snapshotSpace path = some item ↔
      ∃ row, tables.getItem path none = .ok row ∧ objectOf tables.items row.id = item := by
  simp only [portrays.byFullName?_eq wellFormed, Option.map_eq_some_iff, wellFormed.getItem_eq_ok_iff]

theorem Portrays.resolved_iff (portrays : Portrays objects tables) (wellFormed : tables.WellFormed)
    {path : String} : (objects.byFullName? snapshotSpace path).isNone = false ↔
      ∃ row, tables.getItem path none = .ok row := by
  simp only [portrays.byFullName?_eq wellFormed, Option.isNone_map, Option.isNone_eq_false_iff,
    Option.isSome_iff_exists, wellFormed.getItem_eq_ok_iff]

theorem Portrays.byFullName?_eq_none_iff (portrays : Portrays objects tables)
    (wellFormed : tables.WellFormed) {path : String} :
    objects.byFullName? snapshotSpace path = none ↔
      tables.getItem path none = refuse (.noItem path) := by
  rw [portrays.byFullName?_eq wellFormed, wellFormed.getItem_eq]
  cases tables.follow? none (Path.names path) <;> simp [refuse]

theorem Portrays.viewNamed?_eq_none_iff (portrays : Portrays objects tables) {name : String} :
    objects.viewNamed? snapshotSpace name = none ↔ tables.viewNamed? name = none := by
  rw [portrays.viewNamed?_eq, Option.map_eq_none_iff]

end Listed

variable {tables : Tables} {objects : Objects}

/-- The database refuses a view for the reason that the snapshot tells. -/
theorem Portrays.createView_of_refusal (portrays : Portrays objects tables)
    (wellFormed : tables.WellFormed) {name : String} {members : List String} {fault : Fault}
    (refused : viewRefusal? objects name members = some fault) (primary : Bool) :
    (⟨some tables⟩ : Database).createView name members primary false = refuse fault := by
  unfold viewRefusal? at refused
  split at refused
  case h_1 other checked =>
    cases refused
    rw [Database.createView, requireName, checked]
    rfl
  case h_2 checked accepted =>
    have sound := of?_of_checkName accepted
    split at refused
    case isTrue there =>
      cases refused
      have taken : tables.viewNamed? name ≠ none :=
        portrays.viewNamed?_eq_none_iff.ne.mp (Option.isSome_iff_ne_none.mp there)
      obtain ⟨row, found⟩ := Option.ne_none_iff_exists'.mp taken
      exact wellFormed.createView_of_taken
        (wellFormed.getView_eq_ok_iff.mpr (wellFormed.viewNamed?_eq_some_iff.mp found)) members primary
    case isFalse free =>
      have free : tables.viewNamed? name = none :=
        portrays.viewNamed?_eq_none_iff.mp (by simpa using free)
      obtain ⟨path, first, rfl⟩ := Option.map_eq_some_iff.mp refused
      obtain ⟨missing, before, after, rfl, others⟩ := List.find?_eq_some_iff_append.mp first
      have told : tables.getItem path none = .error (.workspace (.noItem path)) :=
        (portrays.byFullName?_eq_none_iff wellFormed).mp (Option.isNone_iff_eq_none.mp missing)
      have resolved : ∀ other ∈ before, ∃ item, tables.getItem other none = .ok item := by
        intro other member
        exact (portrays.resolved_iff wellFormed).mp (by simpa using others other member)
      have getItems : tables.getItems (before ++ path :: after) = .error (.workspace (.noItem path)) :=
        mapM_of_error resolved told after
      rw [Database.createView, requireName_of_sound sound, Database.tables_bind, wellFormed.findView_eq,
        free, ok_bind, ok_bind, if_neg (by simp), getItems]
      rfl

/-- Nothing speaks against a view of a free name whose members are there. -/
theorem Portrays.of_no_viewRefusal (portrays : Portrays objects tables)
    (wellFormed : tables.WellFormed) {name : String} {members : List String}
    (accepted : viewRefusal? objects name members = none) :
    NameFault.of? name = none ∧ tables.viewNamed? name = none ∧
      ∀ path ∈ members, ∃ item, tables.getItem path none = .ok item := by
  unfold viewRefusal? at accepted
  split at accepted
  case h_1 => cases accepted
  case h_2 checked named =>
    split at accepted
    case isTrue => cases accepted
    case isFalse free =>
      refine ⟨of?_of_checkName named, portrays.viewNamed?_eq_none_iff.mp (by simpa using free),
        fun path member => ?_⟩
      have resolved := List.find?_eq_none.mp (Option.map_eq_none_iff.mp accepted) path member
      exact (portrays.resolved_iff wellFormed).mp (Bool.not_eq_true _ ▸ resolved)

/-- A snapshot of rows that have grown by a view shows the view. -/
theorem Portrays.showsNewView (portrays : Portrays objects tables) (wellFormed : tables.WellFormed)
    {changed : Objects} {after : Tables} {name : String} {members : List String} {primary : Bool}
    (grown : tables.GrownByView after name members primary) (portrayed : Portrays changed after) :
    ∃ listed, ShowsNewView objects changed name tables.nextViewId listed primary ∧
      ListsPaths objects members listed := by
  have fresh : (⟨tables.nextViewId, name, false⟩ : ViewRow).id ∉ tables.views.map ViewRow.id := by
    intro member
    obtain ⟨other, stored, same⟩ := List.mem_map.mp member
    exact absurd same (Int.ne_of_lt (Tables.lt_nextViewId stored))
  have unflagged := portrayed.toPortraysViews
  rw [grown.views] at unflagged
  have kept : ∀ other ∈ tables.views, after.listedItems other.id = tables.listedItems other.id := by
    intro other stored
    apply listedItems_eq grown.items
    intro item
    rw [grown.members, or_iff_left]
    rintro ⟨same, -⟩
    exact absurd same (Int.ne_of_lt (Tables.lt_nextViewId stored))
  have distinct : (tables.views.map ViewRow.id).Nodup :=
    List.pairwise_map.mpr (wellFormed.viewsOrdered.imp fun ordered => Int.ne_of_lt ordered)
  have items : changed.items = objects.items := by
    have after := portrayed.toPortraysItems
    rw [grown.items] at after
    exact after.items_unique portrays.toPortraysItems
  refine ⟨after.listedItems tables.nextViewId, ?_, ?_⟩
  · constructor
    case next => exact congrArg nextId (portrays.toPortraysViews.filterMap_id distinct).symm
    case items => exact items
    case views =>
      obtain ⟨checked, text, views⟩ :=
        portrays.toPortraysViews.views_concat unflagged.unflag fresh kept
      exact ⟨checked, text, views⟩
    case spaces =>
      have views : (after.views.map fun row => viewObjectOf after.views row.id) =
          (tables.views.map fun row => viewObjectOf tables.views row.id) ++ [⟨tables.views.length⟩] := by
        rw [← portrays.viewIds, ← portrayed.viewIds]
        simp [Objects.viewIds, portrayed.length_views, portrays.length_views, grown.views,
          List.range_succ]
      have flagged : flaggedView after.views =
          if primary then some ⟨tables.views.length⟩ else flaggedView tables.views := by
        rw [grown.views]
        cases primary with
        | true => exact flaggedView_chosen fresh
        | false => simpa using flaggedView_concat fresh
      rw [portrayed.spaces, portrays.spaces, portrays.length_views, List.map_singleton, spaceFor, spaceFor,
        views, flagged, grown.items]
  · obtain ⟨nodup, ordered⟩ := portrayed.listedItems_ordered grown.wellFormed tables.nextViewId
    refine ⟨fun item => ?_, nodup, ordered.of_items items⟩
    simp only [Tables.mem_listedItems, grown.members, portrays.byFullName?_eq_some_iff wellFormed,
      grown.items]
    constructor
    · rintro ⟨row, stored, old | ⟨-, path, asked, found, leads, same⟩, rfl⟩
      · obtain ⟨⟨view, there, same⟩, -⟩ := wellFormed.membersStored _ old
        exact absurd same (Int.ne_of_lt (Tables.lt_nextViewId there))
      · exact ⟨path, asked, found, leads, by rw [same]⟩
    · rintro ⟨path, asked, row, leads, rfl⟩
      exact ⟨row, Tables.mem_of_getItem leads, .inr ⟨trivial, path, asked, row, leads, rfl⟩, rfl⟩

/-- Creating a view: it is refused for a reason that the snapshot tells, and then nothing changes, or the
snapshot of the changed database shows the view with the items that its paths lead to. -/
def CreatesView (database : Database) (objects : Objects) (name : String) (members : List String)
    (primary : Bool) : Prop :=
  match viewRefusal? objects name members with
  | some fault =>
      database.createView name members primary false = refuse fault ∧
      (Session.createView (.sound name) (members.map .sound) primary false).conclude database =
        (refuse fault, database)
  | none =>
      ∃ commit changed listed, database.createView name members primary false = .ok commit ∧
        commit.database.load.result = .ok changed ∧
        ShowsNewView objects changed name commit.value.id listed primary ∧
        ListsPaths objects members listed

theorem Portrays.createsView (portrays : Portrays objects tables) (wellFormed : tables.WellFormed)
    (name : String) (members : List String) (primary : Bool) :
    CreatesView ⟨some tables⟩ objects name members primary := by
  unfold CreatesView
  cases refused : viewRefusal? objects name members with
  | some fault =>
      have fails := portrays.createView_of_refusal wellFormed refused primary
      have fits : ∀ other, (⟨some tables⟩ : Database).content = some other → other.WellFormed := by
        rintro _ ⟨⟩
        exact wellFormed
      refine ⟨fails, ?_⟩
      rw [conclude_createView fits, Database.createWideView_sound, fails]
      rfl
  | none =>
      obtain ⟨sound, free, resolved⟩ := portrays.of_no_viewRefusal wellFormed refused
      obtain ⟨commit, after, created, database, id, grown⟩ :=
        wellFormed.createView_of_resolved sound free resolved primary
      obtain ⟨changed, loaded, portrayed⟩ := grown.wellFormed.load_portrays
      obtain ⟨listed, shown, lists⟩ := portrays.showsNewView wellFormed grown portrayed
      refine ⟨commit, changed, listed, created, ?_, id ▸ shown, lists⟩
      rw [database, loaded]

end Wayfinder.Storage
