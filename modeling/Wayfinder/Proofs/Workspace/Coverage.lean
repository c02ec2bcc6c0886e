import Wayfinder.Proofs.Search.Layers
import Wayfinder.Proofs.Search.Suggestions
import Wayfinder.Proofs.Workspace.Growth
import Wayfinder.Proofs.Workspace.Indices

/-!
# What a search over a workspace comes across

The walk over a tree goes through the workspace and then through the folders of one depth after another.
Every folder is shown twice, by the group that holds it and by itself; without these repetitions the
walk offers the plain listing of the workspace.
-/

namespace Wayfinder.Workspace

open Search

namespace Objects

variable {objects : Objects}

/-- The visit that a search over the workspace begins with. -/
def rootVisit (objects : Objects) : Visit ObjectId := ⟨.start, objects.rootIndex⟩

/-- The visits to the folders at a depth. -/
def visitsAt (objects : Objects) (depth : Nat) : List (Visit ObjectId) :=
  (objects.foldersOf (objects.itemsAt depth)).map fun id => ⟨.opened (.item id), objects.folderIndex id⟩

theorem foldersOf_append (left right : List ItemId) :
    objects.foldersOf (left ++ right) = objects.foldersOf left ++ objects.foldersOf right :=
  List.filter_append ..

/-- An item that is no folder holds nothing. -/
theorem members_of_not_folder {id : ItemId} (other : (objects.group? id).isSome = false) :
    objects.members (.folder id) = [] := by
  apply List.eq_nil_iff_forall_not_mem.mpr
  intro member held
  have group : objects.group? id = some (.folder id) := hasGroup_of_mem held
  simp [group] at other

/-- What the folders among some items hold is what the items hold. -/
theorem flatMap_foldersOf {β : Type} (image : ItemId → List β) (items : List ItemId)
    (nothing : ∀ id, (objects.group? id).isSome = false → image id = []) :
    (objects.foldersOf items).flatMap image = items.flatMap image := by
  induction items with
  | nil => rfl
  | cons id items ih =>
      cases folder : (objects.group? id).isSome with
      | false =>
          rw [foldersOf, List.filter_cons_of_neg (by simp [folder]), List.flatMap_cons,
            nothing id folder]
          exact ih
      | true =>
          rw [foldersOf, List.filter_cons_of_pos (by simp [folder]), List.flatMap_cons,
            List.flatMap_cons]
          exact congrArg _ ih

theorem foldersOf_flatMap (image : ItemId → List ItemId) (items : List ItemId) :
    objects.foldersOf (items.flatMap image) = items.flatMap fun id => objects.foldersOf (image id) := by
  induction items with
  | nil => rfl
  | cons id items ih => rw [List.flatMap_cons, foldersOf_append, ih, List.flatMap_cons]

/-- The children of the folders at a depth are the folders one level lower. -/
theorem childrenOf_visitsAt (depth : Nat) : childrenOf (objects.visitsAt depth) =
    (objects.foldersOf (objects.itemsAt (depth + 1))).map fun id => .container (.item id) := by
  have below (id : ItemId) (other : (objects.group? id).isSome = false) :
      objects.foldersOf (objects.members (.folder id)) = [] := by
    rw [members_of_not_folder other]
    rfl
  have folders : (objects.foldersOf (objects.itemsAt depth)).flatMap
      (fun id => objects.foldersOf (objects.members (.folder id))) =
        objects.foldersOf (objects.itemsAt (depth + 1)) := by
    rw [flatMap_foldersOf _ _ below, itemsAt, foldersOf_flatMap]
  rw [childrenOf, visitsAt, List.flatMap_map, ← folders, List.map_flatMap]
  rfl

theorem mem_ids_item {id : ItemId} {item : Item} (found : objects.item? id = some item) :
    .item id ∈ objects.ids := by
  have bound := item?_lt found
  obtain ⟨index⟩ := id
  simp [ids, itemIds, bound]

/-- Going through folders at a depth that were not met yet. -/
theorem HoldsItems.expand_folders (holds : objects.HoldsItems) {seen : List (Child ObjectId)}
    {depth : Nat} (fresh : ∀ id ∈ objects.itemsAt depth, .container (.item id) ∉ seen) :
    let expansion := objects.catalog.expand seen
      ((objects.foldersOf (objects.itemsAt depth)).map fun id => .container (.item id))
    expansion.queued = objects.visitsAt depth ∧ expansion.fault = none ∧
      ∀ child ∈ expansion.seen, child ∈ seen ∨
        ∃ id ∈ objects.itemsAt depth, child = .container (.item id) := by
  have there (id : ItemId) (member : id ∈ objects.foldersOf (objects.itemsAt depth)) :
      ∃ item, objects.item? id = some item :=
    holds.item_of_mem_itemsAt (List.mem_filter.mp member).1
  have known (id : ItemId) (member : id ∈ objects.foldersOf (objects.itemsAt depth)) :
      .item id ∈ objects.catalog.containers := by
    obtain ⟨item, found⟩ := there id member
    exact mem_ids_item found
  have opens (id : ItemId) (member : id ∈ objects.foldersOf (objects.itemsAt depth)) :
      objects.catalog.opening (.item id) = .fresh (objects.folderIndex id) := by
    obtain ⟨item, found⟩ := there id member
    exact congrArg Opening.ofExcept (holds.searchIndex_item found)
  have expanded := Catalog.expand_fresh ObjectId.item objects.folderIndex known opens
    (((holds.nodup_itemsAt depth).filter _).map fun _ _ => ObjectId.item.inj)
    fun id member => fresh id (List.mem_filter.mp member).1
  simp only [expanded, visitsAt, true_and]
  intro child member
  rcases List.mem_append.mp member with new | old
  · obtain ⟨id, held, rfl⟩ := List.mem_map.mp (List.mem_reverse.mp new)
    exact .inr ⟨id, (List.mem_filter.mp held).1, rfl⟩
  · exact .inl old

/-- From the folders at a depth the walk goes through those of this depth and of every lower level. -/
theorem HoldsItems.explore_visitsAt (holds : objects.HoldsItems) {depth levels : Nat}
    (deepest : depth + levels = objects.items.length) {seen : List (Child ObjectId)}
    (fresh : ∀ below > depth, ∀ id ∈ objects.itemsAt below, .container (.item id) ∉ seen) :
    (objects.catalog.explore seen (objects.visitsAt depth)).fault = none ∧
      (objects.catalog.explore seen (objects.visitsAt depth)).visits =
        (List.range' depth levels).flatMap objects.visitsAt := by
  induction levels generalizing depth seen with
  | zero =>
      have nothing : objects.itemsAt depth = [] := by
        apply List.eq_nil_iff_forall_not_mem.mpr
        intro id member
        have bound := holds.depth_lt member
        omega
      have ended : objects.visitsAt depth = [] := by
        rw [visitsAt, nothing]
        rfl
      rw [ended, Catalog.explore]
      exact ⟨rfl, rfl⟩
  | succ levels ih =>
      obtain ⟨queued, whole, seen'⟩ := holds.expand_folders (fresh (depth + 1) (by omega))
      rw [← childrenOf_visitsAt] at queued whole seen'
      obtain ⟨visits, -, fault⟩ := objects.catalog.explore_layer seen (objects.visitsAt depth) whole
      obtain ⟨ends, rest⟩ := @ih (depth + 1) (by omega)
        (objects.catalog.expand seen (childrenOf (objects.visitsAt depth))).seen <| by
          intro below deeper id member met
          rcases seen' _ met with old | ⟨other, member', same⟩
          · exact fresh below (by omega) id member old
          · cases same
            have equal := holds.depth_eq member member'
            omega
      rw [queued] at visits fault
      exact ⟨fault.trans ends, by rw [visits, rest, List.range'_succ, List.flatMap_cons]⟩

/-- A search over the workspace begins with its index. -/
theorem IsTree.openStart_root (tree : objects.IsTree) :
    (objects.catalog.openStart (.space rootSpace)).result = .ok objects.rootVisit := by
  have opened : objects.catalog.opening (.space rootSpace) = .fresh objects.rootIndex :=
    congrArg Opening.ofExcept tree.searchIndex_root
  simp only [Catalog.openStart, opened]
  rfl

/-- The walk over a workspace: its own index, then the folders of one depth after another. -/
theorem HoldsItems.walk_root (holds : objects.HoldsItems) :
    (objects.catalog.walk objects.rootVisit).fault = none ∧
      (objects.catalog.walk objects.rootVisit).visits =
        objects.rootVisit :: (List.range objects.items.length).flatMap objects.visitsAt := by
  have children : childrenOf [objects.rootVisit] =
      (objects.foldersOf (objects.itemsAt 0)).map fun id => .container (.item id) :=
    List.append_nil _
  have marks : objects.rootVisit.marks = [.container (.space rootSpace)] := rfl
  have unmet (id : ItemId) :
      Child.container (ObjectId.item id) ∉ [Child.container (ObjectId.space rootSpace)] := by simp
  obtain ⟨queued, whole, seen⟩ := @expand_folders _ holds _ 0 fun id _ => unmet id
  rw [← children] at queued whole seen
  obtain ⟨visits, -, fault⟩ := objects.catalog.explore_layer _ [objects.rootVisit] whole
  obtain ⟨ends, rest⟩ := @explore_visitsAt _ holds 0 objects.items.length (by omega)
    (objects.catalog.expand [.container (.space rootSpace)] (childrenOf [objects.rootVisit])).seen <| by
      intro below deeper id member met
      rcases seen _ met with old | ⟨other, member', same⟩
      · exact unmet id old
      · cases same
        have equal := holds.depth_eq member member'
        omega
  rw [queued] at visits fault
  rw [Catalog.walk, marks]
  exact ⟨fault.trans ends, by rw [visits, rest, List.range_eq_range']; rfl⟩

@[simp] theorem target_key (id : ObjectId) : (objects.target id).key = id := by
  cases id with
  | item id => simp only [target]; split <;> rfl
  | view id => simp only [target]; split <;> rfl
  | space id => rfl

theorem key_of_mem_aliases {id : ObjectId} {entry : SearchItem ObjectId}
    (member : entry ∈ objects.aliases id) : entry.target.key = id := by
  cases id with
  | item id =>
      simp only [aliases] at member
      split at member
      · cases member
      · rcases List.mem_cons.mp member with rfl | shown
        · exact target_key _
        · split at shown
          · cases shown
          · split at shown
            · cases List.mem_singleton.mp shown
              exact target_key _
            · cases shown
  | view id =>
      simp only [aliases] at member
      split at member
      · cases member
      · cases List.mem_singleton.mp member
        exact target_key _
  | space id => cases member

/-- An object has no two aliases of one kind. -/
theorem pairwise_aliases (id : ObjectId) :
    (objects.aliases id).Pairwise fun left right => left.kind ≠ right.kind := by
  cases id with
  | item id =>
      simp only [aliases]
      split
      · exact .nil
      · refine List.pairwise_cons.mpr ⟨?_, ?_⟩
        · intro entry shown
          split at shown
          · cases shown
          · split at shown
            · cases List.mem_singleton.mp shown
              simp
            · cases shown
        · split
          · exact .nil
          · split
            · exact List.pairwise_singleton _ _
            · exact .nil
  | view id =>
      simp only [aliases]
      split
      · exact .nil
      · exact List.pairwise_singleton _ _
  | space id => exact .nil

/-- No object is listed twice under aliases of one kind. -/
theorem IsTree.pairwise_listing (tree : objects.IsTree) : objects.listing.Pairwise
    fun left right => left.target.key = right.target.key → left.kind ≠ right.kind := by
  refine List.pairwise_flatMap.mpr ⟨fun id _ => ?_, ?_⟩
  · apply (pairwise_aliases id).imp
    intro left right differ _
    exact differ
  · apply tree.nodup_levelOrder.imp
    intro left right apart first firstMember second secondMember same
    rw [key_of_mem_aliases firstMember, key_of_mem_aliases secondMember] at same
    exact absurd same apart

/-- So no alias of an object is listed twice. -/
theorem IsTree.different_listing (tree : objects.IsTree) :
    objects.listing.Pairwise fun left right => left.sameAlias right = false := by
  apply tree.pairwise_listing.imp
  intro left right differ
  apply Bool.eq_false_iff.mpr
  intro same
  obtain ⟨key, kind, -⟩ := SearchItem.sameAlias_iff.mp same
  exact differ key kind

/-- The listing is what the workspace shows and then one level of items after another. -/
theorem listing_eq (objects : Objects) : objects.listing = objects.rootIndex.items ++
    (List.range objects.items.length).flatMap
      fun depth => objects.aliasesOf (objects.itemsAt (depth + 1)) := by
  simp only [listing, levelOrder, rootIndex, aliasesOf, List.flatMap_append, List.flatMap_map,
    List.flatMap_assoc]
  rfl

/-- What the folders at a depth add to the aliases listed so far, their own among them, is those of the
items that they hold. -/
theorem unrepeated_folders {found : List (SearchItem ObjectId)} {folders : List ItemId}
    (listed : ∀ id ∈ folders, ∀ entry ∈ objects.aliases (.item id), entry ∈ found)
    (different : (found ++ folders.flatMap fun id =>
      objects.aliasesOf (objects.members (.folder id))).Pairwise
        fun left right => left.sameAlias right = false) :
    unrepeated found (folders.flatMap fun id => (objects.folderIndex id).items) =
      found ++ folders.flatMap fun id => objects.aliasesOf (objects.members (.folder id)) := by
  induction folders generalizing found with
  | nil => simp [unrepeated]
  | cons id folders ih =>
      rw [List.flatMap_cons, ← List.append_assoc] at different
      have held := unrepeated_of_new (List.pairwise_append.mp different).1
      rw [List.flatMap_cons, unrepeated_append, folderIndex, unrepeated_append,
        unrepeated_of_listed (listed id (by simp)), held, ih ?_ different, List.flatMap_cons,
        List.append_assoc]
      intro other member entry shown
      exact List.mem_append_left _ (listed other (by simp [member]) entry shown)

/-- Without repetitions the indices of the workspace and of so many levels of folders show the listing
down to that level. -/
theorem unrepeated_levels (objects : Objects) (levels : Nat)
    (different : (objects.rootIndex.items ++ (List.range levels).flatMap
      fun depth => objects.aliasesOf (objects.itemsAt (depth + 1))).Pairwise
        fun left right => left.sameAlias right = false) :
    unrepeated [] (objects.rootIndex.items ++ (List.range levels).flatMap
      fun depth => (objects.visitsAt depth).flatMap fun visit => visit.index.items) =
        objects.rootIndex.items ++ (List.range levels).flatMap
          fun depth => objects.aliasesOf (objects.itemsAt (depth + 1)) := by
  induction levels with
  | zero =>
      simp only [List.range_zero, List.flatMap_nil, List.append_nil] at different ⊢
      exact unrepeated_of_new different
  | succ levels ih =>
      have below : objects.aliasesOf (objects.itemsAt (levels + 1)) =
          (objects.foldersOf (objects.itemsAt levels)).flatMap
            fun id => objects.aliasesOf (objects.members (.folder id)) := by
        rw [flatMap_foldersOf, itemsAt, aliasesOf, List.flatMap_assoc]
        · rfl
        · intro id other
          rw [members_of_not_folder other]
          rfl
      simp only [List.range_succ, List.flatMap_append, List.flatMap_singleton,
        ← List.append_assoc] at different ⊢
      rw [unrepeated_append, ih (List.pairwise_append.mp different).1, visitsAt, List.flatMap_map,
        below]
      rw [below] at different
      refine unrepeated_folders ?_ different
      intro id folder entry shown
      have member : id ∈ objects.itemsAt levels := (List.mem_filter.mp folder).1
      cases levels with
      | zero =>
          refine List.mem_append_left _ (List.mem_append_left _ ?_)
          exact List.mem_flatMap.mpr ⟨id, member, shown⟩
      | succ levels =>
          refine List.mem_append_right _ (List.mem_flatMap.mpr ⟨levels, by simp, ?_⟩)
          exact List.mem_flatMap.mpr ⟨id, member, shown⟩

/-- Without repetitions a walk over a workspace offers the listing. -/
theorem IsTree.unrepeated_walk (tree : objects.IsTree) :
    unrepeated [] (objects.catalog.walk objects.rootVisit).items = objects.listing := by
  have different := tree.different_listing
  rw [listing_eq] at different
  rw [Trail.items_eq, tree.walk_root.2, List.flatMap_cons,
    List.flatMap_assoc, listing_eq]
  exact unrepeated_levels objects _ different

/-- An unlimited list of suggestions is the matching part of the listing. -/
theorem IsTree.suggest_root (tree : objects.IsTree) (query : String) :
    (objects.catalog.suggest objects.rootVisit query none).result =
      .ok (objects.listing.filter fun item => item.contains query) := by
  rw [Catalog.suggest_unlimited tree.walk_root.1, tree.unrepeated_walk]

/-- An exact search finds the first equal alias of the listing, names before display names. -/
theorem IsTree.find_root (tree : objects.IsTree) (query : String) (caseSensitive : Bool) :
    (objects.catalog.find objects.rootVisit query caseSensitive).result =
      .ok (firstEqual caseSensitive query objects.listing) := by
  rw [Catalog.find_result tree.walk_root.1, ← tree.unrepeated_walk, firstEqual_unrepeated]

/-- Every alias of an item is listed. -/
theorem IsTree.aliases_subset_listing (tree : objects.IsTree) {id : ItemId} {item : Item}
    (found : objects.item? id = some item) : objects.aliases (.item id) ⊆ objects.listing := by
  intro entry shown
  have member : .item id ∈ objects.levelOrder :=
    tree.mem_levelOrder_iff.mpr (.inl ⟨id, rfl, by rw [found]; rfl⟩)
  exact List.mem_flatMap.mpr ⟨_, member, shown⟩

/-- A walk over a workspace comes across nothing but the listing. -/
theorem IsTree.walk_items_subset (tree : objects.IsTree) :
    (objects.catalog.walk objects.rootVisit).items ⊆ objects.listing := by
  rw [Trail.items_eq, tree.walk_root.2, List.flatMap_cons]
  intro entry member
  rcases List.mem_append.mp member with top | below
  · rw [listing_eq]
    exact List.mem_append_left _ top
  · obtain ⟨visit, visited, shown⟩ := List.mem_flatMap.mp below
    obtain ⟨depth, -, visited⟩ := List.mem_flatMap.mp visited
    obtain ⟨id, folder, rfl⟩ := List.mem_map.mp visited
    rcases List.mem_append.mp shown with own | held
    · obtain ⟨item, found⟩ := tree.item_of_mem_itemsAt (List.mem_filter.mp folder).1
      exact tree.aliases_subset_listing found own
    · obtain ⟨other, inside, shown⟩ := List.mem_flatMap.mp held
      obtain ⟨item, found⟩ := tree.there_of_mem _ other inside
      exact tree.aliases_subset_listing found shown

/-- The first alias of a kind that equals a query. -/
def firstCalled (kind : AliasKind) (caseSensitive : Bool) (query : String)
    (entries : List (SearchItem ObjectId)) : Option (SearchItem ObjectId) :=
  entries.find? fun entry => entry.kind = kind ∧ entry.IsCalled caseSensitive query

theorem firstEqual_eq_firstCalled (caseSensitive : Bool) (query : String)
    (entries : List (SearchItem ObjectId)) : firstEqual caseSensitive query entries =
      (firstCalled .name caseSensitive query entries).or
        (firstCalled .displayName caseSensitive query entries) := by
  have same (kind : AliasKind) : entries.find? (fun entry => entry.equals kind caseSensitive query) =
      firstCalled kind caseSensitive query entries := by
    apply List.find?_congr
    intro entry _
    rw [Bool.eq_iff_iff, SearchItem.equals_iff_isCalled, decide_eq_true_iff]
  rw [firstEqual, same, same, Option.orElse_eq_orElse, Option.orElse_eq_or]

/-- A search over the workspace comes across every object once, level by level. -/
structure IsSearchedLevelByLevel (objects : Objects) : Prop where
  all : ∀ id, id ∈ objects.levelOrder ↔ (∃ item, id = .item item ∧ (objects.item? item).isSome) ∨
    ∃ view ∈ objects.viewsOf rootSpace, id = .view view
  once : objects.levelOrder.Nodup
  different : objects.listing.Pairwise
    fun left right => left.target.key = right.target.key → left.kind ≠ right.kind
  shownTwice : ∀ id, objects.group? id = some (.folder id) → ∃ group above own,
    id ∈ objects.members group ∧
    objects.searchIndex group.object = .ok above ∧ objects.aliases (.item id) ⊆ above.items ∧
    objects.searchIndex (.item id) = .ok own ∧ objects.aliases (.item id) ⊆ own.items
  /-- Suggestions are the aliases of the listing that contain the query, without regard to case. An exact
  search finds the first name of the listing that equals the query or, if none does, the first display
  name. -/
  searched : ∃ start, (objects.catalog.openStart (.space rootSpace)).result = .ok start ∧
    (∀ query, (objects.catalog.suggest start query none).result =
      .ok (objects.listing.filter fun entry => entry.Matches query)) ∧
    ∀ query caseSensitive, (objects.catalog.find start query caseSensitive).result =
      .ok ((firstCalled .name caseSensitive query objects.listing).or
        (firstCalled .displayName caseSensitive query objects.listing))

/-- An item is shown by the index of the group that holds it. -/
theorem IsTree.shown_above (tree : objects.IsTree) {group : GroupId} {id : ItemId}
    (member : id ∈ objects.members group) :
    ∃ above, objects.searchIndex group.object = .ok above ∧
      objects.aliases (.item id) ⊆ above.items := by
  cases group with
  | space space =>
      cases tree.eq_rootSpace (hasGroup_of_mem member)
      refine ⟨_, tree.searchIndex_root, fun entry shown => ?_⟩
      exact List.mem_append_left _ (List.mem_flatMap.mpr ⟨id, member, shown⟩)
  | folder folder =>
      obtain ⟨holder, found, -⟩ := hasGroup_folder_iff.mp (hasGroup_of_mem member)
      refine ⟨_, tree.searchIndex_item found, fun entry shown => ?_⟩
      exact List.mem_append_right _ (List.mem_flatMap.mpr ⟨id, member, shown⟩)

/-- A folder is shown by the group that holds it and by itself. -/
theorem IsTree.shown_twice (tree : objects.IsTree) {id : ItemId}
    (folder : objects.group? id = some (.folder id)) : ∃ group above own,
      id ∈ objects.members group ∧
      objects.searchIndex group.object = .ok above ∧ objects.aliases (.item id) ⊆ above.items ∧
      objects.searchIndex (.item id) = .ok own ∧ objects.aliases (.item id) ⊆ own.items := by
  obtain ⟨-, item, found, -⟩ := group?_eq_some_iff.mp folder
  obtain ⟨group, -, member⟩ := tree.mem_of_item found
  obtain ⟨above, opened, shown⟩ := tree.shown_above member
  exact ⟨group, above, _, member, opened, shown, tree.searchIndex_item found,
    fun _ own => List.mem_append_left _ own⟩

/-- However a workspace came about, a search over it comes across every object once, level by level. -/
theorem IsTree.isSearchedLevelByLevel (tree : objects.IsTree) : objects.IsSearchedLevelByLevel where
  all _ := tree.mem_levelOrder_iff
  once := tree.nodup_levelOrder
  different := tree.pairwise_listing
  shownTwice _ folder := tree.shown_twice folder
  searched := by
    refine ⟨objects.rootVisit, tree.openStart_root, fun query => ?_, fun query caseSensitive => ?_⟩
    · rw [tree.suggest_root]
      congr 1
      apply List.filter_congr
      intro entry _
      rw [Bool.eq_iff_iff, SearchItem.contains_iff, decide_eq_true_iff]
    · rw [tree.find_root, firstEqual_eq_firstCalled]

end Objects

end Wayfinder.Workspace
