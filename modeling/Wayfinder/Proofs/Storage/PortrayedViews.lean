import Wayfinder.Proofs.Storage.Admissible
import Wayfinder.Proofs.Storage.PortrayedItems
import Wayfinder.Proofs.Workspace.Growth

/-!
# Reading views and their members

After the items, the views are read one after another, and then the memberships. None of this changes an
item, and what a view lists comes in the order of the memberships.
-/

namespace Wayfinder.Storage

open Workspace

section Places

variable {rows : List ViewRow} {row : ViewRow}

theorem viewObjectOf_append (stored : row ∈ rows) (others : List ViewRow) :
    viewObjectOf (rows ++ others) row.id = viewObjectOf rows row.id := by
  rw [viewObjectOf, List.map_append, List.idxOf_append_of_mem (List.mem_map_of_mem stored),
    viewObjectOf]

theorem viewObjectOf_concat (fresh : row.id ∉ rows.map ViewRow.id) :
    viewObjectOf (rows ++ [row]) row.id = ⟨rows.length⟩ := by
  rw [viewObjectOf, List.map_append, List.idxOf_append_of_notMem fresh]
  simp

theorem viewObjectOf_inj {id : Int} (stored : row ∈ rows)
    (same : viewObjectOf rows row.id = viewObjectOf rows id) : row.id = id :=
  (List.idxOf_inj (List.mem_map_of_mem stored)).mp (ViewId.mk.inj same)

theorem map_viewObjectOf_concat {α : Type} (fresh : row.id ∉ rows.map ViewRow.id)
    (make : ViewRow → ViewId → α) :
    ((rows ++ [row]).map fun other => make other (viewObjectOf (rows ++ [row]) other.id)) =
      (rows.map fun other => make other (viewObjectOf rows other.id)) ++ [make row ⟨rows.length⟩] :=
  map_idxOf_concat ViewRow.id (fun row place => make row ⟨place⟩) fresh

theorem flaggedView_concat (fresh : row.id ∉ rows.map ViewRow.id) :
    flaggedView (rows ++ [row]) =
      if row.isPrimary then some ⟨rows.length⟩ else flaggedView rows := by
  rw [flaggedView, List.filter_append]
  cases flagged : row.isPrimary with
  | true => simp [flagged, viewObjectOf_concat fresh]
  | false =>
      have old : rows.filter ViewRow.isPrimary ++ [row].filter ViewRow.isPrimary =
          rows.filter ViewRow.isPrimary := by simp [flagged]
      rw [old, if_neg Bool.false_ne_true, flaggedView]
      cases last : (rows.filter ViewRow.isPrimary).getLast? with
      | none => rfl
      | some other =>
          have stored := (List.mem_filter.mp (List.mem_of_getLast? last)).1
          rw [Option.map_some, Option.map_some, viewObjectOf_append stored]

end Places

/-- What a view lists after some memberships were read. -/
def listedBy (items : List ItemRow) (read : List MemberRow) (view : Int) : List ItemId :=
  (read.filter fun row => row.viewId == view && (items.map ItemRow.id).contains row.itemId).map
    fun row => objectOf items row.itemId

section Memberships

variable {items : List ItemRow} {read : List MemberRow} {row : MemberRow}

theorem listedBy_concat (view : Int) : listedBy items (read ++ [row]) view =
    listedBy items read view ++
      if row.viewId = view ∧ row.itemId ∈ items.map ItemRow.id then [objectOf items row.itemId]
      else [] := by
  rw [listedBy, List.filter_append, List.map_append, listedBy]
  congr 1
  have fits : (row.viewId == view && (items.map ItemRow.id).contains row.itemId) =
      decide (row.viewId = view ∧ row.itemId ∈ items.map ItemRow.id) := by
    simp [beq_eq_decide]
  rw [List.filter_singleton, fits]
  by_cases both : row.viewId = view ∧ row.itemId ∈ items.map ItemRow.id
  · simp [both]
  · simp only [both, decide_false, if_false]
    rfl

/-- An item is not listed before its membership is read. -/
theorem not_mem_listedBy (items : List ItemRow) (fresh : row ∉ read) :
    objectOf items row.itemId ∉ listedBy items read row.viewId := by
  intro member
  obtain ⟨other, chosen, same⟩ := List.mem_map.mp member
  obtain ⟨there, fits⟩ := List.mem_filter.mp chosen
  obtain ⟨view, known⟩ := Bool.and_eq_true_iff.mp fits
  obtain ⟨item, stored, key⟩ := List.mem_map.mp (List.contains_iff_mem.mp known)
  rw [← key] at same
  have equal : other = row := by
    cases other
    cases row
    rw [MemberRow.mk.injEq]
    exact ⟨eq_of_beq view, key.symm.trans (objectOf_inj stored same)⟩
  exact fresh (equal ▸ there)

end Memberships

theorem PortraysItems.of_items {objects changed : Objects} {rows : List ItemRow}
    (portrays : PortraysItems objects rows) (same : changed.items = objects.items) :
    PortraysItems changed rows := by
  constructor
  · rw [Objects.itemIds, same]
    exact portrays.itemIds
  · intro row stored
    rw [Objects.item?, same]
    exact portrays.item? row stored

theorem PortraysViews.of_views {objects changed : Objects} {rows : List ViewRow}
    {members : Int → List ItemId} (portrays : PortraysViews objects rows members)
    (same : changed.views = objects.views) : PortraysViews changed rows members := by
  constructor
  · rw [Objects.viewIds, same]
    exact portrays.viewIds
  · intro row stored
    rw [Objects.view?, same]
    exact portrays.view? row stored

namespace PortraysViews

variable {objects : Objects} {rows : List ViewRow} {row : ViewRow} {members : Int → List ItemId}

/-- Making a view of a new name: the objects portray its row with the others. -/
theorem createView {space : Space} {name : Name} (portrays : PortraysViews objects rows members)
    (spaces : objects.spaces = [space])
    (views : space.views = rows.map fun row => viewObjectOf rows row.id)
    (fresh : row.id ∉ rows.map ViewRow.id) (text : name.text = row.name)
    (free : ∀ other ∈ rows, other.name ≠ row.name) (empty : members row.id = []) :
    ∃ changed, objects.createView snapshotSpace name.text (some row.id) =
        .ok (changed, ⟨rows.length⟩) ∧
      PortraysViews changed (rows ++ [row]) members ∧ changed.items = objects.items ∧
      changed.spaces = [{ space with
        views := (rows ++ [row]).map fun other => viewObjectOf (rows ++ [row]) other.id }] := by
  have length := portrays.length_views
  have listed : objects.viewsOf snapshotSpace = rows.map fun row => viewObjectOf rows row.id := by
    rw [Objects.viewsOf, Objects.space?, spaces, ← views]
    rfl
  have held : ∀ id ∈ objects.viewsOf snapshotSpace, ∃ old, objects.view? id = some old := by
    intro id member
    rw [listed] at member
    obtain ⟨other, stored, rfl⟩ := List.mem_map.mp member
    obtain ⟨name, -, found⟩ := portrays.view? other stored
    exact ⟨_, found⟩
  have unnamed : objects.viewNamed? snapshotSpace name.text = none := by
    rw [portrays.viewNamed?_eq spaces views, Option.map_eq_none_iff, List.find?_eq_none]
    intro other stored taken
    exact free other stored ((eq_of_beq taken).trans text)
  have created := Objects.createView_eq name (some row.id) held unnamed
  rw [length] at created
  refine ⟨_, created, ⟨?_, ?_⟩, rfl, ?_⟩
  · rw [map_viewObjectOf_concat fresh fun _ id => id, ← portrays.viewIds]
    simp [Objects.viewIds, Objects.listed, Objects.newView, Objects.modifyView, Objects.modifySpace,
      List.range_succ, length]
  · intro other member
    rcases List.mem_append.mp member with old | new
    · obtain ⟨name, text, found⟩ := portrays.view? other old
      refine ⟨name, text, ?_⟩
      have older : viewObjectOf rows other.id ≠ ⟨rows.length⟩ := by
        intro same
        rw [same] at found
        have bound := (List.getElem?_eq_some_iff.mp found).1
        simp [length] at bound
      rw [viewObjectOf_append old, Objects.view?_listed, if_neg older, Objects.view?_newView, length,
        if_neg older, found]
    · rw [List.mem_singleton.mp new]
      refine ⟨name, text, ?_⟩
      rw [viewObjectOf_concat fresh, Objects.view?_listed, if_pos rfl, Objects.view?_newView, length,
        if_pos rfl, empty]
      rfl
  · rw [map_viewObjectOf_concat fresh fun _ id => id, ← views]
    have grown (objects : Objects) (id : ViewId) : (objects.listed snapshotSpace id).spaces =
        objects.spaces.modify 0 fun space => { space with views := space.views ++ [id] } := rfl
    have kept (view : ListView) : (objects.newView view).1.spaces = objects.spaces := rfl
    rw [grown, kept, spaces]
    rfl

end PortraysViews

namespace Loading

/-- A snapshot in the making whose items and views were read from rows, and some memberships. -/
structure ReadsViews (loading : Loading) (items : List ItemRow) (views : List ViewRow)
    (read : List MemberRow) : Prop extends
    PortraysItems loading.objects items, PortraysViews loading.objects views (listedBy items read) where
  spaces : loading.objects.spaces = [spaceFor items views]
  itemKeys : loading.items = items.map fun row => (row.id, objectOf items row.id)
  viewKeys : loading.views = views.map fun row => (row.id, viewObjectOf views row.id)

variable {loading : Loading} {items : List ItemRow} {views : List ViewRow}

theorem ReadsItems.readsViews (reads : loading.ReadsItems items) : loading.ReadsViews items [] [] where
  toPortraysItems := reads.toPortraysItems
  viewIds := by rw [Objects.viewIds, reads.noViews]; rfl
  view? := by simp
  spaces := reads.spaces
  itemKeys := reads.keys
  viewKeys := reads.noKeys

/-- Reading a view of a new name. -/
theorem ReadsViews.readView {row : ViewRow} (reads : loading.ReadsViews items views [])
    (named : NameFault.of? row.name = none) (fresh : row.id ∉ views.map ViewRow.id)
    (free : ∀ other ∈ views, other.name ≠ row.name) :
    ∃ after, loading.readView row = .ok after ∧ after.ReadsViews items (views ++ [row]) [] := by
  have text : (⟨row.name, named⟩ : Name).text = row.name := rfl
  obtain ⟨objects, created, portrays, sameItems, spaces⟩ :=
    reads.toPortraysViews.createView reads.spaces rfl fresh text free rfl
  have keys : loading.views ++ [(row.id, ⟨views.length⟩)] =
      (views ++ [row]).map fun other => (other.id, viewObjectOf (views ++ [row]) other.id) := by
    rw [map_viewObjectOf_concat fresh fun row id => (row.id, id), reads.viewKeys]
  have items := reads.toPortraysItems.of_items sameItems
  cases flagged : row.isPrimary with
  | false =>
      refine ⟨{ loading with objects, views := loading.views ++ [(row.id, ⟨views.length⟩)] }, ?_, items,
        portrays, ?_, reads.itemKeys, keys⟩
      · refine bind_eq_ok_iff.mpr ⟨(objects, ⟨views.length⟩), created, ?_⟩
        simp only [flagged]
        rfl
      · rw [spaces, spaceFor, spaceFor, flaggedView_concat fresh, flagged]
        rfl
  | true =>
      let chosen := objects.modifySpace snapshotSpace fun space =>
        { space with primary := some ⟨views.length⟩ }
      have listed : ⟨views.length⟩ ∈ ((objects.space? snapshotSpace).map Space.views).getD [] := by
        rw [Objects.space?, spaces, map_viewObjectOf_concat fresh fun _ id => id]
        simp [snapshotSpace]
      have set : objects.setPrimaryView snapshotSpace ⟨views.length⟩ = .ok chosen := if_pos listed
      refine ⟨{ loading with objects := chosen, views := loading.views ++ [(row.id, ⟨views.length⟩)] },
        ?_, items.of_items rfl, portrays.of_views rfl, ?_, reads.itemKeys, keys⟩
      · refine bind_eq_ok_iff.mpr ⟨(objects, ⟨views.length⟩), created, ?_⟩
        simp only [flagged, if_true]
        exact bind_eq_ok_iff.mpr ⟨chosen, set, rfl⟩
      · have modified : chosen.spaces = objects.spaces.modify 0 fun space =>
            { space with primary := some ⟨views.length⟩ } := rfl
        rw [modified, spaces, spaceFor, spaceFor, flaggedView_concat fresh, flagged]
        rfl

/-- Reading a membership: its item is listed by its view, if both were read. -/
theorem ReadsViews.readMember {read : List MemberRow} {row : MemberRow}
    (reads : loading.ReadsViews items views read) (fresh : row ∉ read) :
    (loading.readMember row).ReadsViews items views (read ++ [row]) := by
  have view? := lookup_map views ViewRow.id (viewObjectOf views) row.viewId
  have item? := lookup_map items ItemRow.id (objectOf items) row.itemId
  rw [← reads.viewKeys] at view?
  rw [← reads.itemKeys] at item?
  have dropped (absent : ∀ other ∈ views, ¬(row.viewId = other.id ∧ row.itemId ∈ items.map ItemRow.id)) :
      loading.ReadsViews items views (read ++ [row]) := by
    refine { reads with view? := ?_ }
    intro other stored
    rw [listedBy_concat, if_neg (absent other stored), List.append_nil]
    exact reads.view? other stored
  unfold Loading.readMember
  rw [view?, item?]
  by_cases viewed : row.viewId ∈ views.map ViewRow.id
  · by_cases known : row.itemId ∈ items.map ItemRow.id
    · simp only [if_pos viewed, if_pos known]
      refine ⟨reads.toPortraysItems.of_items rfl, ⟨?_, ?_⟩, reads.spaces, reads.itemKeys, reads.viewKeys⟩
      · simpa [Objects.viewIds, Objects.modifyView] using reads.viewIds
      · intro other stored
        obtain ⟨name, text, found⟩ := reads.view? other stored
        refine ⟨name, text, ?_⟩
        rw [Objects.view?_modifyView, found, listedBy_concat]
        by_cases same : row.viewId = other.id
        · have unlisted := not_mem_listedBy items fresh
          rw [same] at unlisted
          simp [same, known, viewFor, ListView.add, unlisted]
        · have apart : viewObjectOf views other.id ≠ viewObjectOf views row.viewId := by
            intro equal
            exact same (viewObjectOf_inj stored equal).symm
          simp [same, apart]
    · simp only [if_pos viewed, if_neg known]
      exact dropped fun other _ both => known both.2
  · simp only [if_neg viewed]
    apply dropped
    intro other stored both
    apply viewed
    rw [both.1]
    exact List.mem_map_of_mem stored

end Loading

/-- The line that reports the snapshot of all rows. -/
def Tables.loadedLine (tables : Tables) : LogLine :=
  ⟨.debug, "Loaded workspace snapshot with " ++ toString tables.items.length ++ " item(s) and " ++
    toString tables.views.length ++ " view(s)"⟩

/-- Two increasing lists of the same identifiers are the same. -/
theorem eq_of_increasing {left right : List Int} (first : left.Pairwise (· < ·))
    (second : right.Pairwise (· < ·)) (same : ∀ id, id ∈ left ↔ id ∈ right) : left = right := by
  have distinct {ids : List Int} (increasing : ids.Pairwise (· < ·)) : ids.Nodup :=
    increasing.imp fun ordered => Int.ne_of_lt ordered
  have perm := (List.perm_ext_iff_of_nodup (distinct first) (distinct second)).mpr same
  apply perm.eq_of_pairwise _ first second
  intro left right _ _ forward backward
  exact absurd backward (Int.lt_asymm forward)

namespace Tables.Admissible

variable {tables : Tables} (admissible : tables.Admissible) {items : List ItemRow}

include admissible

/-- All views are read, whichever items were. -/
theorem readViews {loading : Loading} (reads : loading.ReadsItems items) :
    ∃ loaded : Loading, tables.views.foldlM Loading.readView loading = .ok loaded ∧
      loaded.ReadsViews items tables.views [] := by
  have each (read : List ViewRow) (row : ViewRow) (rest : List ViewRow) (loading : Loading)
      (parts : tables.views = read ++ row :: rest) (reads : loading.ReadsViews items read []) :
      ∃ next, loading.readView row = pure next ∧ next.ReadsViews items (read ++ [row]) [] := by
    have ordered := admissible.viewsOrdered
    have differ := admissible.viewsDiffer
    rw [parts] at ordered differ
    have earlier := (List.pairwise_append.mp ordered).2.2
    have others := (List.pairwise_append.mp differ).2.2
    have fresh : row.id ∉ read.map ViewRow.id := by
      intro member
      obtain ⟨other, stored, same⟩ := List.mem_map.mp member
      exact absurd same (Int.ne_of_lt (earlier other stored row List.mem_cons_self))
    have named := admissible.viewNames row (by simp [parts])
    exact reads.readView named fresh fun other stored => others other stored row List.mem_cons_self
  exact exists_foldlM (fun _ _ => rfl) (fun loading read => Loading.ReadsViews loading items read [])
    each reads.readsViews

/-- All memberships are read; those of views or items that were not are dropped. -/
theorem readMembers {loading : Loading} (reads : loading.ReadsViews items tables.views []) :
    (tables.members.foldl Loading.readMember loading).ReadsViews items tables.views
      tables.members := by
  have each (read : List MemberRow) (row : MemberRow) (rest : List MemberRow) (loading : Loading)
      (parts : tables.members = read ++ row :: rest)
      (reads : loading.ReadsViews items tables.views read) :
      ∃ next, (pure (loading.readMember row) : Id Loading) = pure next ∧
        next.ReadsViews items tables.views (read ++ [row]) := by
    have nodup := admissible.nodup_members
    rw [parts] at nodup
    have fresh : row ∉ read := fun member =>
      (List.nodup_append.mp nodup).2.2 row member row List.mem_cons_self rfl
    exact ⟨_, rfl, reads.readMember fresh⟩
  obtain ⟨loaded, read, all⟩ := exists_foldlM (fun _ _ => rfl)
    (fun loading read => Loading.ReadsViews loading items tables.views read) each reads
  rw [List.foldl_eq_foldlM, read]
  exact all

/-- The memberships list the items in the order of the items. -/
theorem listedBy_eq (ordered : items.Pairwise fun left right => left.id < right.id) (view : Int) :
    listedBy items tables.members view = ({ tables with items } : Tables).listedItems view := by
  have ids : (tables.members.filter fun row =>
        row.viewId == view && (items.map ItemRow.id).contains row.itemId).map MemberRow.itemId =
      (items.filter fun row => tables.members.contains ⟨view, row.id⟩).map ItemRow.id := by
    apply eq_of_increasing
    · apply List.pairwise_map.mpr
      apply (admissible.membersOrdered.filter _).imp_of_mem
      intro left right first second ordered
      simp only [List.mem_filter, Bool.and_eq_true, beq_iff_eq] at first second
      have later := MemberRow.before_iff.mp ordered
      omega
    · exact List.pairwise_map.mpr (ordered.filter _)
    · intro id
      constructor
      · intro member
        obtain ⟨row, chosen, rfl⟩ := List.mem_map.mp member
        obtain ⟨stored, fits⟩ := List.mem_filter.mp chosen
        obtain ⟨viewed, known⟩ := Bool.and_eq_true_iff.mp fits
        obtain ⟨item, there, same⟩ := List.mem_map.mp (List.contains_iff_mem.mp known)
        apply List.mem_map.mpr
        refine ⟨item, List.mem_filter.mpr ⟨there, ?_⟩, same⟩
        rw [List.contains_iff_mem, same, ← eq_of_beq viewed]
        exact stored
      · intro member
        obtain ⟨item, chosen, rfl⟩ := List.mem_map.mp member
        obtain ⟨there, listed⟩ := List.mem_filter.mp chosen
        apply List.mem_map.mpr
        refine ⟨⟨view, item.id⟩, List.mem_filter.mpr ⟨List.contains_iff_mem.mp listed, ?_⟩, rfl⟩
        simp only [beq_self_eq_true, Bool.true_and]
        exact List.contains_iff_mem.mpr (List.mem_map_of_mem there)
  have same := congrArg (List.map (objectOf items)) ids
  rw [List.map_map, List.map_map] at same
  exact same

/-- A snapshot whose items were read goes on without a fault, and is the portrait of the rows of these
items with all views and memberships. -/
theorem snapshot_of_readItems {log : List LogLine} {loading : Loading}
    (ordered : items.Pairwise fun left right => left.id < right.id)
    (read : tables.items.foldlM Loading.readItem {} = ⟨log, .ok loading⟩)
    (reads : loading.ReadsItems items) :
    ∃ objects, tables.snapshot =
        ⟨log ++ [({ tables with items } : Tables).loadedLine], .ok objects⟩ ∧
      Portrays objects { tables with items } := by
  obtain ⟨viewed, views, readsViews⟩ := admissible.readViews reads
  have reads := admissible.readMembers readsViews
  refine ⟨_, ?_, reads.toPortraysItems, ?_, reads.spaces⟩
  · have report : (tables.members.foldl Loading.readMember viewed).report =
        ({ tables with items } : Tables).loadedLine := by
      rw [Loading.report, reads.itemKeys, reads.viewKeys, List.length_map, List.length_map]
      rfl
    rw [Tables.snapshot, read, Traced.bind_eq, Traced.andThen_of_ok rfl, views, Traced.ofExcept,
      silent_bind, ← report]
    rfl
  · rw [← funext (admissible.listedBy_eq ordered)]
    exact reads.toPortraysViews

end Tables.Admissible

/-- The snapshot is the portrait of the rows; nothing is skipped, and only its end is reported. -/
theorem Tables.WellFormed.snapshot_portrays {tables : Tables} (wellFormed : tables.WellFormed) :
    ∃ objects, tables.snapshot = ⟨[tables.loadedLine], .ok objects⟩ ∧ Portrays objects tables := by
  obtain ⟨loaded, read, reads⟩ := wellFormed.readItems
  exact wellFormed.admissible.snapshot_of_readItems wellFormed.itemsOrdered read reads

end Wayfinder.Storage
