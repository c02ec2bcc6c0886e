import Wayfinder.Proofs.Storage.Loading
import Wayfinder.Proofs.Storage.StrayRows

/-!
# Snapshots of whatever the tables admit

Rows that no operation would have left, but that the tables admit, have a snapshot all the same. It shows
exactly the items that have a place, under their own identifiers and in their order, with every view, and
it reports every other item once.
-/

namespace Wayfinder.Storage

open Workspace

/-- The identifiers of the stored items that the objects stand for. -/
def itemKeys (objects : Objects) : List Int :=
  objects.items.filterMap Item.id

/-- Whether an item is as a row says, and stands where the row says. -/
structure DescribedBy (objects : Objects) (row : ItemRow) (item : Item) : Prop where
  id : item.id = some row.id
  name : item.name.text = row.name
  displayName : item.displayName = nonEmpty? row.displayName
  isFolder : item.isFolder = true ↔ row.kind = .folder
  isDisabled : row.kind = .job → item.isDisabled = row.disabled
  top : row.parentId = none → item.parent = some (.space snapshotSpace)
  below : ∀ parent, row.parentId = some parent → ∃ key folder, item.parent = some (.folder key) ∧
    objects.item? key = some folder ∧ folder.id = some parent

/-- Whether a stored view lists a stored item, as the objects show it. -/
def ShowsListed (objects : Objects) (viewId itemId : Int) : Prop :=
  ∃ view ∈ objects.views, view.id = some viewId ∧
    ∃ key ∈ view.members, ∃ item, objects.item? key = some item ∧ item.id = some itemId

/-- The stored view that is shown first. -/
def shownFirst (objects : Objects) : Option Int :=
  ((objects.primaryView? snapshotSpace).bind objects.view?).bind ListView.id

/-- The view to show first: the flagged one of the largest identifier, or else the one of the smallest. -/
def IsFirst (rows : List ViewRow) (row : ViewRow) : Prop :=
  (row.isPrimary = true ∧ ∀ other ∈ rows, other.isPrimary = true → other.id ≤ row.id) ∨
    ((∀ other ∈ rows, other.isPrimary = false) ∧ ∀ other ∈ rows, row.id ≤ other.id)

/-- What a snapshot makes of the rows that the tables admit, and what it reports. -/
structure ShowsPlaced (tables : Tables) (log : List LogLine) (objects : Objects) : Prop where
  placed_iff : ∀ row ∈ tables.items, row.id ∈ itemKeys objects ↔
    row.parentId = none ∨ ∃ folder ∈ tables.items, row.parentId = some folder.id ∧
      folder.kind = .folder ∧ folder.id < row.id ∧ folder.id ∈ itemKeys objects
  /-- Every other row is reported, in the order of the rows and always for its parent. -/
  log_eq : log = ((tables.items.filter fun row => row.id ∉ itemKeys objects).map strayLine) ++
    [⟨.debug, "Loaded workspace snapshot with " ++ toString objects.items.length ++ " item(s) and " ++
      toString objects.views.length ++ " view(s)"⟩]
  described : ∀ item ∈ objects.items, ∃ row ∈ tables.items, DescribedBy objects row item
  distinct : (itemKeys objects).Nodup
  tree : objects.IsTree
  siblings : ∀ group, ((objects.members group).filterMap fun key =>
    (objects.item? key).bind Item.id).Pairwise (· < ·)
  views : objects.views.map (fun view => (view.id, view.name.text, view.owner)) =
    tables.views.map fun row => (some row.id, row.name, some snapshotSpace)
  viewsListed : objects.viewsOf snapshotSpace = objects.viewIds
  listed_iff : ∀ viewId itemId, ShowsListed objects viewId itemId ↔
    ⟨viewId, itemId⟩ ∈ tables.members ∧ (∃ row ∈ tables.views, row.id = viewId) ∧
      itemId ∈ itemKeys objects
  first_iff : ∀ viewId, shownFirst objects = some viewId ↔
    ∃ row ∈ tables.views, row.id = viewId ∧ IsFirst tables.views row
  /-- So nothing about the objects is left open. -/
  portrays : Portrays objects tables.placed

section Portrait

variable {objects : Objects} {rows : List ItemRow}

/-- Every group is that of a parent, or it holds nothing. -/
theorem PortraysItems.members_cases (portrays : PortraysItems objects rows) {space : Space}
    (spaces : objects.spaces = [space]) (group : GroupId) :
    objects.members group = [] ∨ ∃ parent, Houses rows parent ∧ group = groupOf rows parent := by
  cases group with
  | space id =>
      obtain ⟨index⟩ := id
      cases index with
      | zero => exact .inr ⟨none, houses_none rows, rfl⟩
      | succ index => simp [Objects.members, Objects.space?, spaces]
  | folder id =>
      cases found : objects.item? id with
      | none => simp [Objects.members, found]
      | some item =>
          obtain ⟨row, stored, same⟩ := portrays.exists_row (Objects.item?_lt found)
          obtain ⟨name, -, found'⟩ := portrays.item? row stored
          rw [same] at found'
          cases kind : row.kind with
          | job => simp [Objects.members, found', Item.items, itemFor, bodyOf, kind]
          | folder =>
              refine .inr ⟨some row.id, ?_, ?_⟩
              · rintro _ ⟨⟩
                exact ⟨row, stored, rfl, kind⟩
              · rw [groupOf, same]

/-- The identifiers of the items of a group come in the order of the rows. -/
theorem PortraysItems.pairwise_members (portrays : PortraysItems objects rows) {space : Space}
    (spaces : objects.spaces = [space]) (items : space.items = childrenOf rows none)
    (ordered : rows.Pairwise fun left right => left.id < right.id) (group : GroupId) :
    ((objects.members group).filterMap fun key =>
      (objects.item? key).bind Item.id).Pairwise (· < ·) := by
  rcases portrays.members_cases spaces group with nothing | ⟨parent, houses, rfl⟩
  · rw [nothing]
    exact .nil
  · have keys : ((rows.filter fun row => row.parentId == parent).filterMap fun row =>
        (objects.item? (objectOf rows row.id)).bind Item.id) =
          (rows.filter fun row => row.parentId == parent).map ItemRow.id := by
      rw [← List.filterMap_eq_map]
      apply List.filterMap_congr
      intro row member
      obtain ⟨name, -, found⟩ := portrays.item? row (List.mem_filter.mp member).1
      rw [found]
      rfl
    rw [portrays.members_groupOf spaces items houses, childrenOf, List.filterMap_map]
    exact keys ▸ List.pairwise_map.mpr (ordered.filter _)

/-- An item is as the row says that it is the portrait of. -/
theorem PortraysItems.describedBy (portrays : PortraysItems objects rows) {row : ItemRow} {name : Name}
    (houses : Houses rows row.parentId) (text : name.text = row.name) :
    DescribedBy objects row (itemFor rows row.shown name) where
  id := rfl
  name := text
  displayName := rfl
  isFolder := by
    cases kind : row.kind <;> simp [itemFor, bodyOf, ItemRow.shown, Item.isFolder, kind]
  isDisabled job := by simp [itemFor, bodyOf, ItemRow.shown, Item.isDisabled, job]
  top top := by simp [itemFor, ItemRow.shown, top, groupOf]
  below := by
    intro parent held
    obtain ⟨folder, stored, rfl, -⟩ := houses parent held
    obtain ⟨name, -, found⟩ := portrays.item? folder stored
    refine ⟨objectOf rows folder.id, itemFor rows folder name, ?_, found, rfl⟩
    simp [itemFor, ItemRow.shown, held, groupOf]

end Portrait

section Views

variable {objects : Objects} {tables : Tables} (portrays : Portrays objects tables)

include portrays

/-- A membership shows up if and only if its view and its item do. -/
theorem Portrays.showsListed_iff {viewId itemId : Int} : ShowsListed objects viewId itemId ↔
    ⟨viewId, itemId⟩ ∈ tables.members ∧ (∃ row ∈ tables.views, row.id = viewId) ∧
      itemId ∈ tables.items.map ItemRow.id := by
  constructor
  · rintro ⟨view, held, viewed, key, listed, item, found, same⟩
    obtain ⟨row, stored, name, rfl⟩ := portrays.exists_row_of_view held
    cases Option.some.inj viewed
    obtain ⟨listedRow, chosen, rfl⟩ := List.mem_map.mp listed
    obtain ⟨there, member⟩ := List.mem_filter.mp chosen
    obtain ⟨name, -, found'⟩ := portrays.item? listedRow there
    cases Option.some.inj (found.symm.trans found')
    cases Option.some.inj same
    exact ⟨List.contains_iff_mem.mp member, ⟨row, stored, rfl⟩, List.mem_map_of_mem there⟩
  · rintro ⟨member, ⟨row, stored, rfl⟩, known⟩
    obtain ⟨listedRow, there, rfl⟩ := List.mem_map.mp known
    obtain ⟨viewName, -, viewed⟩ := portrays.view? row stored
    obtain ⟨name, -, found⟩ := portrays.item? listedRow there
    refine ⟨_, List.mem_of_getElem? viewed, rfl, objectOf tables.items listedRow.id, ?_, _, found, rfl⟩
    exact List.mem_map_of_mem (List.mem_filter.mpr ⟨there, List.contains_iff_mem.mpr member⟩)

/-- The views are those of the rows, one after another. -/
theorem Portrays.map_views (distinct : (tables.views.map ViewRow.id).Nodup) :
    objects.views.map (fun view => (view.id, view.name.text, view.owner)) =
      tables.views.map fun row => (some row.id, row.name, some snapshotSpace) := by
  apply map_eq_map_of_places portrays.length_views distinct
  intro row stored
  obtain ⟨name, text, found⟩ := portrays.view? row stored
  exact ⟨_, found, by rw [← text]; rfl⟩

/-- The view shown first is the last of the flagged ones or else the first of all. -/
theorem Portrays.shownFirst_eq : shownFirst objects =
    ((tables.views.filter ViewRow.isPrimary).getLast?.or tables.views.head?).map ViewRow.id := by
  have shown : objects.primaryView? snapshotSpace =
      ((tables.views.filter ViewRow.isPrimary).getLast?.or tables.views.head?).map fun row =>
        viewObjectOf tables.views row.id := by
    rw [portrays.primaryView?_flagged, flaggedView, List.head?_map, Option.map_or]
  have listed : ∀ row, (tables.views.filter ViewRow.isPrimary).getLast?.or tables.views.head? = some row →
      row ∈ tables.views := by
    intro row chosen
    rcases Option.or_eq_some_iff.mp chosen with flagged | ⟨-, first⟩
    · exact (List.mem_filter.mp (List.mem_of_getLast? flagged)).1
    · exact List.mem_of_head? first
  rw [shownFirst, shown]
  cases chosen : (tables.views.filter ViewRow.isPrimary).getLast?.or tables.views.head? with
  | none => rfl
  | some row =>
      obtain ⟨name, -, found⟩ := portrays.view? row (listed row chosen)
      rw [Option.map_some, Option.bind_some, found]
      rfl

end Views

section First

variable {rows : List ViewRow} {row other : ViewRow}

/-- There is one view to show first at most. -/
theorem IsFirst.id_eq (first : IsFirst rows row) (second : IsFirst rows other) (stored : row ∈ rows)
    (there : other ∈ rows) : row.id = other.id := by
  rcases first with ⟨flagged, largest⟩ | ⟨unflagged, smallest⟩
  · rcases second with ⟨flagged', largest'⟩ | ⟨unflagged', -⟩
    · exact Int.le_antisymm (largest' row stored flagged) (largest other there flagged')
    · simp [unflagged' row stored] at flagged
  · rcases second with ⟨flagged', -⟩ | ⟨-, smallest'⟩
    · simp [unflagged other there] at flagged'
    · exact Int.le_antisymm (smallest other there) (smallest' row stored)

/-- In rows of increasing identifiers, the last flagged one or else the first of all is to be shown
first. -/
theorem isFirst_of_chosen (ordered : rows.Pairwise fun left right => left.id < right.id)
    (chosen : (rows.filter ViewRow.isPrimary).getLast?.or rows.head? = some row) :
    row ∈ rows ∧ IsFirst rows row := by
  have increasing : rows.Pairwise fun left right => left.id ≤ right.id :=
    ordered.imp fun smaller => Int.le_of_lt smaller
  rcases Option.or_eq_some_iff.mp chosen with flagged | ⟨none, first⟩
  · obtain ⟨before, parts⟩ := List.getLast?_eq_some_iff.mp flagged
    obtain ⟨stored, isPrimary⟩ := List.mem_filter.mp (List.mem_of_getLast? flagged)
    refine ⟨stored, .inl ⟨isPrimary, fun other there flagged => ?_⟩⟩
    have smaller := increasing.filter ViewRow.isPrimary
    rw [parts] at smaller
    have member : other ∈ rows.filter ViewRow.isPrimary := List.mem_filter.mpr ⟨there, flagged⟩
    rw [parts, List.mem_append, List.mem_singleton] at member
    rcases member with earlier | rfl
    · exact (List.pairwise_append.mp smaller).2.2 other earlier row (List.mem_singleton_self row)
    · exact Int.le_refl _
  · obtain ⟨rest, rfl⟩ := List.head?_eq_some_iff.mp first
    refine ⟨List.mem_cons_self, .inr ⟨?_, ?_⟩⟩
    · intro other there
      have unflagged := List.filter_eq_nil_iff.mp (List.getLast?_eq_none_iff.mp none) other there
      simpa using unflagged
    · intro other there
      rcases List.mem_cons.mp there with rfl | behind
      · exact Int.le_refl _
      · exact (List.pairwise_cons.mp increasing).1 other behind

theorem chosen_iff_isFirst (ordered : rows.Pairwise fun left right => left.id < right.id) (id : Int) :
    ((rows.filter ViewRow.isPrimary).getLast?.or rows.head?).map ViewRow.id = some id ↔
      ∃ row ∈ rows, row.id = id ∧ IsFirst rows row := by
  constructor
  · intro found
    obtain ⟨row, chosen, same⟩ := Option.map_eq_some_iff.mp found
    obtain ⟨stored, first⟩ := isFirst_of_chosen ordered chosen
    exact ⟨row, stored, same, first⟩
  · rintro ⟨row, stored, rfl, first⟩
    cases chosen : (rows.filter ViewRow.isPrimary).getLast?.or rows.head? with
    | none =>
        rw [Option.or_eq_none_iff, List.head?_eq_none_iff] at chosen
        rw [chosen.2] at stored
        cases stored
    | some other =>
        obtain ⟨there, second⟩ := isFirst_of_chosen ordered chosen
        rw [Option.map_some, second.id_eq first there stored]

end First

namespace Tables.Admissible

variable {tables : Tables} (admissible : tables.Admissible)

include admissible

theorem placed_ordered :
    tables.placed.items.Pairwise fun left right => left.id < right.id :=
  List.pairwise_map.mpr (admissible.itemsOrdered.sublist (placedRows_sublist tables.items))

/-- The items of a snapshot are those of the rows that have a place. -/
theorem itemKeys_eq {objects : Objects} (portrays : Portrays objects tables.placed) :
    itemKeys objects = tables.placed.items.map ItemRow.id := by
  apply portrays.toPortraysItems.filterMap_id
  exact List.pairwise_map.mpr (admissible.placed_ordered.imp fun smaller => Int.ne_of_lt smaller)

/-- A stored item is shown if and only if it has a place. -/
theorem mem_itemKeys_iff {objects : Objects} (portrays : Portrays objects tables.placed) {row : ItemRow}
    (stored : row ∈ tables.items) : row.id ∈ itemKeys objects ↔ row ∈ placedRows tables.items := by
  rw [admissible.itemKeys_eq portrays, Tables.placed, List.map_map]
  constructor
  · intro member
    obtain ⟨other, placed, same⟩ := List.mem_map.mp member
    have distinct : (tables.items.map ItemRow.id).Nodup :=
      List.pairwise_map.mpr (admissible.itemsOrdered.imp fun smaller => Int.ne_of_lt smaller)
    have there := (placedRows_sublist tables.items).subset placed
    exact List.inj_on_of_nodup_map distinct there stored same ▸ placed
  · intro placed
    exact List.mem_map.mpr ⟨row, placed, rfl⟩

/-- A row is shown if and only if it is at the top level, or below a folder with a smaller identifier
that is shown. -/
theorem placed_iff {objects : Objects} (portrays : Portrays objects tables.placed) {row : ItemRow}
    (stored : row ∈ tables.items) : row.id ∈ itemKeys objects ↔
      row.parentId = none ∨ ∃ folder ∈ tables.items, row.parentId = some folder.id ∧
        folder.kind = .folder ∧ folder.id < row.id ∧ folder.id ∈ itemKeys objects := by
  rw [admissible.mem_itemKeys_iff portrays stored, mem_placedRows_iff admissible.itemsOrdered]
  constructor
  · rintro ⟨-, below⟩
    cases held : row.parentId with
    | none => exact .inl rfl
    | some parent =>
        obtain ⟨folder, placed, rfl, isFolder, smaller⟩ := below parent held
        have there := (placedRows_sublist tables.items).subset placed
        exact .inr ⟨folder, there, rfl, isFolder, smaller,
          (admissible.mem_itemKeys_iff portrays there).mpr placed⟩
  · rintro (top | ⟨folder, there, held, isFolder, smaller, shown⟩)
    · refine ⟨stored, fun parent held => ?_⟩
      rw [top] at held
      cases held
    · refine ⟨stored, fun parent held' => ?_⟩
      cases Option.some.inj (held.symm.trans held')
      exact ⟨folder, (admissible.mem_itemKeys_iff portrays there).mp shown, rfl, isFolder, smaller⟩

/-- The rows that are reported are those that are not shown. -/
theorem strayRows_eq {objects : Objects} (portrays : Portrays objects tables.placed) :
    strayRows tables.items = tables.items.filter fun row => row.id ∉ itemKeys objects := by
  apply List.filter_congr
  intro row stored
  exact decide_eq_decide.mpr (not_congr (admissible.mem_itemKeys_iff portrays stored).symm)

theorem described {objects : Objects} (portrays : Portrays objects tables.placed) {item : Item}
    (held : item ∈ objects.items) : ∃ row ∈ tables.items, DescribedBy objects row item := by
  obtain ⟨index, bound, same⟩ := List.getElem_of_mem held
  obtain ⟨shown, placed, at?⟩ := portrays.toPortraysItems.exists_row bound
  obtain ⟨name, text, found⟩ := portrays.item? shown placed
  have found' : objects.item? ⟨index⟩ = some item := List.getElem?_eq_some_iff.mpr ⟨bound, same⟩
  rw [at?, found'] at found
  obtain ⟨row, there, rfl⟩ := List.mem_map.mp placed
  obtain ⟨stored, below⟩ := (mem_placedRows_iff admissible.itemsOrdered).mp there
  refine ⟨row, stored, Option.some.inj found ▸ portrays.describedBy (fun parent same => ?_) text⟩
  obtain ⟨folder, housed, rfl, isFolder, -⟩ := below parent same
  exact ⟨folder.shown, List.mem_map_of_mem housed, rfl, isFolder⟩

/-- Whatever the tables admit is loaded: the items that have a place are shown under their identifiers,
in their order, with every view, and the other items are reported one by one. -/
theorem load_showsPlaced : ∃ log objects, (⟨some tables⟩ : Database).load = ⟨log, .ok objects⟩ ∧
    ShowsPlaced tables log objects := by
  obtain ⟨loading, read, reads⟩ := Loading.readItems_placed admissible.itemsOrdered
    admissible.itemNames admissible.siblingsDiffer
  obtain ⟨objects, made, portrays⟩ :=
    admissible.snapshot_of_readItems admissible.placed_ordered read reads
  have loaded : (⟨some tables⟩ : Database).load =
      ⟨(strayRows tables.items).map strayLine ++ [tables.placed.loadedLine], .ok objects⟩ := by
    rw [Database.load, Database.tables, Traced.ofExcept, silent_bind, made]
    rfl
  refine ⟨_, objects, loaded, ?_⟩
  have views := portrays.toPortraysViews
  have keys := admissible.itemKeys_eq portrays
  constructor
  case placed_iff => exact fun row stored => admissible.placed_iff portrays stored
  case log_eq =>
    rw [admissible.strayRows_eq portrays, portrays.length_items, portrays.length_views]
    rfl
  case described => exact fun item held => admissible.described portrays held
  case distinct =>
    rw [keys]
    exact List.pairwise_map.mpr (admissible.placed_ordered.imp fun smaller => Int.ne_of_lt smaller)
  case tree =>
    obtain ⟨other, result, tree⟩ := admissible.toIsSound.snapshot_result
    rw [made] at result
    cases result
    exact tree
  case siblings =>
    exact portrays.toPortraysItems.pairwise_members portrays.spaces rfl admissible.placed_ordered
  case views =>
    apply portrays.map_views
    exact List.pairwise_map.mpr (admissible.viewsOrdered.imp fun smaller => Int.ne_of_lt smaller)
  case viewsListed =>
    rw [portrays.viewIds, Objects.viewsOf, Objects.space?, portrays.spaces]
    rfl
  case listed_iff =>
    intro viewId itemId
    rw [keys]
    exact portrays.showsListed_iff
  case first_iff =>
    intro viewId
    rw [portrays.shownFirst_eq]
    exact chosen_iff_isFirst admissible.viewsOrdered viewId
  case portrays => exact portrays

end Tables.Admissible

/-- Rows that no operation would leave: parents that are missing, are jobs, come later, are the item
itself or go round in a circle; memberships of what is not there; and two flagged views. -/
def entangledTables : Tables where
  items := [⟨1, none, .folder, "plans", some "", true⟩, ⟨2, some 2, .folder, "own", none, false⟩,
    ⟨3, none, .job, "nightly", none, true⟩, ⟨4, some 3, .job, "step", none, false⟩,
    ⟨5, some 6, .job, "nightly", none, false⟩, ⟨6, some 1, .folder, "late", none, false⟩,
    ⟨7, some 8, .folder, "left", none, false⟩, ⟨8, some 7, .folder, "right", none, false⟩,
    ⟨9, some 70, .job, "lost", none, false⟩, ⟨10, some 6, .job, "deep", none, false⟩]
  views := [⟨1, "all", false⟩, ⟨2, "mine", true⟩, ⟨4, "yours", true⟩]
  members := [⟨1, 3⟩, ⟨1, 9⟩, ⟨2, 10⟩, ⟨3, 1⟩, ⟨9, 9⟩]

/-- What has a place is found among the rows, and the others are reported. -/
theorem entangledTables_showsPlaced : entangledTables.Admissible ∧
    ∃ log objects, (⟨some entangledTables⟩ : Database).load = ⟨log, .ok objects⟩ ∧
      ShowsPlaced entangledTables log objects ∧ itemKeys objects = [1, 3, 6, 10] ∧
      shownFirst objects = some 4 := by
  have admissible : entangledTables.Admissible :=
    { itemNames := by decide
      viewNames := by decide
      viewsDiffer := by decide
      itemsOrdered := by decide
      viewsOrdered := by decide
      membersOrdered := by decide
      siblingsDiffer := by decide }
  obtain ⟨log, objects, loaded, shows⟩ := admissible.load_showsPlaced
  refine ⟨admissible, log, objects, loaded, shows, ?_, ?_⟩
  · rw [admissible.itemKeys_eq shows.portrays]
    decide
  · exact (shows.first_iff 4).mpr ⟨⟨4, "yours", true⟩, by decide, rfl, .inl ⟨rfl, by decide⟩⟩

end Wayfinder.Storage
