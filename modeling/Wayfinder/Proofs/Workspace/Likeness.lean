import Mathlib.Data.List.Forall2
import Wayfinder.Proofs.Search.Limits
import Wayfinder.Proofs.Search.Sights
import Wayfinder.Proofs.Workspace.Coverage
import Wayfinder.Proofs.Workspace.Lineage

/-!
# Workspaces that are searched alike

What a search over a workspace comes to is told by the names and display names of its items, by which
items are in which, in which order, and by the names of its views. Whether jobs are disabled, what the views
list and which view is the primary one has no part in it, and neither has the identity of an object.
-/

namespace Wayfinder.Workspace.Objects

open Search

/-- Items of two workspaces that make up the same trees: in the same order there are items of the same
name and display name, and the same in them. An item without any in it may be a job or a folder. -/
inductive SameItems (left right : Objects) : List ItemId → List ItemId → Prop where
  | nil : SameItems left right [] []
  | cons {first second : ItemId} {firsts seconds : List ItemId} {item other : Item}
      (found : left.item? first = some item) (found' : right.item? second = some other)
      (name : item.name = other.name) (shownName : item.shownName = other.shownName)
      (inside : SameItems left right (left.members (.folder first)) (right.members (.folder second)))
      (beside : SameItems left right firsts seconds) :
      SameItems left right (first :: firsts) (second :: seconds)

/-- The names of the views of a workspace. -/
def viewNames (objects : Objects) : List (Option String) :=
  (objects.viewsOf rootSpace).map fun id => (objects.view? id).map fun view => view.name.text

/-- Two workspaces with the same tree of items and with views of the same names. -/
structure SameTree (left right : Objects) : Prop where
  items : SameItems left right (left.members (.space rootSpace)) (right.members (.space rootSpace))
  views : left.viewNames = right.viewNames

/-- The display names from the top level down to an item. -/
def shownNames (objects : Objects) (id : ItemId) : List String :=
  (objects.lineage id).map Item.shownName

/-- Items of two workspaces that stand at the same place, with the same in them. -/
structure Counterparts (left right : Objects) (first second : ItemId) : Prop where
  item : ∃ item other, left.item? first = some item ∧ right.item? second = some other ∧
    item.name = other.name ∧ item.shownName = other.shownName
  names : left.lineageNames first = right.lineageNames second
  shownNames : left.shownNames first = right.shownNames second
  inside : SameItems left right (left.members (.folder first)) (right.members (.folder second))

variable {left right objects : Objects}

/-- Items of the same trees that are below counterparts are counterparts. -/
theorem SameItems.counterparts {firsts seconds : List ItemId} {above above' : List Item}
    (same : SameItems left right firsts seconds)
    (below : ∀ id ∈ firsts, ∀ item, left.item? id = some item → left.lineage id = above ++ [item])
    (below' : ∀ id ∈ seconds, ∀ item, right.item? id = some item →
      right.lineage id = above' ++ [item])
    (names : above.map (fun item => item.name.text) = above'.map fun item => item.name.text)
    (shownNames : above.map Item.shownName = above'.map Item.shownName) :
    List.Forall₂ (Counterparts left right) firsts seconds := by
  induction same with
  | nil => exact .nil
  | @cons first second firsts seconds item other found found' name shownName inside _ _ beside =>
      refine .cons ⟨⟨item, other, found, found', name, shownName⟩, ?_, ?_, inside⟩ <|
        beside (fun id member => below id (List.mem_cons_of_mem _ member))
          fun id member => below' id (List.mem_cons_of_mem _ member)
      · rw [lineageNames, lineageNames, below first List.mem_cons_self item found,
          below' second List.mem_cons_self other found', List.map_append, List.map_append, names,
          List.map_singleton, List.map_singleton, name]
      · rw [Objects.shownNames, Objects.shownNames, below first List.mem_cons_self item found,
          below' second List.mem_cons_self other found', List.map_append, List.map_append, shownNames,
          List.map_singleton, List.map_singleton, shownName]

/-- The items at one depth are counterparts, one after another. -/
theorem SameTree.counterparts (same : SameTree left right) (leftHolds : left.HoldsItems)
    (rightHolds : right.HoldsItems) (depth : Nat) :
    List.Forall₂ (Counterparts left right) (left.itemsAt depth) (right.itemsAt depth) := by
  induction depth with
  | zero =>
      have top {objects : Objects} (holds : objects.HoldsItems) :
          ∀ id ∈ objects.members (.space rootSpace), ∀ item, objects.item? id = some item →
            objects.lineage id = [] ++ [item] :=
        fun id member item => holds.lineage_top member
      exact same.items.counterparts (top leftHolds) (top rightHolds) rfl rfl
  | succ depth ih =>
      apply List.rel_flatMap ih
      intro folder folder' counterparts
      exact counterparts.inside.counterparts (fun id member item => leftHolds.lineage_below member)
        (fun id member item => rightHolds.lineage_below member) counterparts.names
        counterparts.shownNames

/-- Workspaces whose groups hold the same items, under the same names and display names, make up the same
trees. -/
theorem HoldsItems.sameItems (holds : left.HoldsItems)
    (matching : ∀ {id item}, left.item? id = some item → ∃ other, right.item? id = some other ∧
      item.name = other.name ∧ item.shownName = other.shownName ∧
      left.members (.folder id) = right.members (.folder id)) {group : GroupId}
    (top : left.members group = right.members group) :
    SameItems left right (left.members group) (right.members group) := by
  -- What is in an item is younger, so the room for it is smaller than the room for the item.
  have below (room : Nat) : ∀ ids : List ItemId, (∀ id ∈ ids,
      left.items.length ≤ id.index + room ∧ ∃ item, left.item? id = some item) →
      SameItems left right ids ids := by
    induction room with
    | zero =>
        intro ids all
        have empty : ids = [] := by
          apply List.eq_nil_iff_forall_not_mem.mpr
          intro id member
          obtain ⟨full, item, found⟩ := all id member
          exact Nat.not_lt_of_le full (item?_lt found)
        rw [empty]
        exact .nil
    | succ room inside =>
        intro ids all
        induction ids with
        | nil => exact .nil
        | cons id ids beside =>
            obtain ⟨full, item, found⟩ := all id List.mem_cons_self
            obtain ⟨other, found', name, shownName, members⟩ := matching found
            refine .cons found found' name shownName ?_
              (beside fun id member => all id (List.mem_cons_of_mem _ member))
            rw [← members]
            apply inside
            intro child member
            obtain ⟨there, child?, -⟩ := holds.item_of_mem member
            have older := holds.older member
            exact ⟨by omega, there, child?⟩
  rw [← top]
  apply below left.items.length
  intro id member
  obtain ⟨item, found, -⟩ := holds.item_of_mem member
  exact ⟨Nat.le_add_left _ _, item, found⟩

/-- What shows of the aliases of an item of a given name, display name and place. -/
def itemSights (name shownName url path : String) : List Sight :=
  ⟨name, .name, url, if path = "" then name else path⟩ ::
    if shownName ≠ "" ∧ shownName ≠ name then
      [⟨shownName, .displayName, url, if path = "" then shownName else path⟩]
    else []

theorem sights_item {id : ItemId} {item : Item} (found : objects.item? id = some item) :
    (objects.aliases (.item id)).map SearchItem.sight = itemSights item.name.text item.shownName
      (Path.itemAddress (objects.lineageNames id)) (Path.displayOf (objects.shownNames id)) := by
  have target : objects.target (.item id) = ⟨.item id, item.name.text,
      Path.itemAddress (objects.lineageNames id), some item.shownName,
      some (Path.displayOf (objects.shownNames id))⟩ := by
    simp only [Objects.target, found]
    rfl
  cases shown : item.displayName with
  | none =>
      have shownName : item.shownName = item.name.text := by rw [Item.shownName, shown]; rfl
      simp [aliases, found, target, itemSights, shown, shownName, SearchItem.sight, SearchItem.path]
  | some display =>
      have shownName : item.shownName = display := by rw [Item.shownName, shown]; rfl
      simp only [aliases, found, target, itemSights, shown, shownName]
      by_cases differs : display ≠ "" ∧ display ≠ item.name.text
      · rw [dif_pos differs, if_pos differs]
        rfl
      · rw [dif_neg differs, if_neg differs]
        rfl

/-- What shows of the aliases of a view of a given name. -/
def viewSights (name : Option String) : List Sight :=
  name.toList.map fun name => ⟨name, .name, Path.viewAddress name, name⟩

theorem sights_view (objects : Objects) (id : ViewId) :
    (objects.aliases (.view id)).map SearchItem.sight =
      viewSights ((objects.view? id).map fun view => view.name.text) := by
  cases found : objects.view? id with
  | none => simp [aliases, found, viewSights]
  | some view => simp [aliases, found, viewSights, target, SearchItem.sight, SearchItem.path]

/-- What shows of the aliases of the items at one depth. -/
def sightsAt (objects : Objects) (depth : Nat) : List Sight :=
  (objects.itemsAt depth).flatMap fun id => (objects.aliases (.item id)).map SearchItem.sight

theorem sights_listing (objects : Objects) : objects.listing.map SearchItem.sight =
    objects.sightsAt 0 ++ objects.viewNames.flatMap viewSights ++
      (List.range objects.items.length).flatMap fun depth => objects.sightsAt (depth + 1) := by
  simp only [listing, levelOrder, sightsAt, viewNames, List.flatMap_append, List.map_append,
    List.flatMap_map, List.map_flatMap, sights_view, List.flatMap_assoc]

theorem SameTree.sightsAt_eq (same : SameTree left right) (leftHolds : left.HoldsItems)
    (rightHolds : right.HoldsItems) (depth : Nat) : left.sightsAt depth = right.sightsAt depth := by
  have counterparts := same.counterparts leftHolds rightHolds depth
  rw [sightsAt, sightsAt]
  generalize left.itemsAt depth = firsts, right.itemsAt depth = seconds at counterparts
  induction counterparts with
  | nil => rfl
  | @cons first second firsts seconds alike _ ih =>
      obtain ⟨item, other, found, found', name, shownName⟩ := alike.item
      rw [List.flatMap_cons, List.flatMap_cons, ih, sights_item found, sights_item found', name,
        shownName, alike.names, alike.shownNames]

/-- No item stands deeper than there are items. -/
theorem HoldsItems.sightsAt_eq_nil (holds : objects.HoldsItems) {depth : Nat}
    (deep : objects.items.length ≤ depth) : objects.sightsAt depth = [] := by
  have empty : objects.itemsAt depth = [] := by
    apply List.eq_nil_iff_forall_not_mem.mpr
    intro id member
    exact Nat.not_lt_of_le deep (holds.depth_lt member)
  rw [sightsAt, empty]
  rfl

/-- Levels without items add nothing. -/
theorem flatMap_range_of_empty {α : Type} {level : Nat → List α} {few many : Nat} (more : few ≤ many)
    (empty : ∀ depth, few ≤ depth → level depth = []) :
    (List.range many).flatMap level = (List.range few).flatMap level := by
  obtain ⟨extra, rfl⟩ := Nat.exists_eq_add_of_le more
  have nothing : ((List.range extra).map (few + ·)).flatMap level = [] := by
    rw [List.flatMap_map]
    exact List.flatMap_eq_nil_iff.mpr fun depth _ => empty _ (Nat.le_add_right few depth)
  rw [List.range_add, List.flatMap_append, nothing, List.append_nil]

/-- Workspaces with the same tree list aliases that look the same, in the same order. -/
theorem SameTree.sights_eq (same : SameTree left right) (leftTree : left.IsTree)
    (rightTree : right.IsTree) :
    left.listing.map SearchItem.sight = right.listing.map SearchItem.sight := by
  have level (depth : Nat) : left.sightsAt depth = right.sightsAt depth :=
    same.sightsAt_eq leftTree.toHoldsItems rightTree.toHoldsItems depth
  have below : (List.range left.items.length).flatMap (fun depth => right.sightsAt (depth + 1)) =
      (List.range right.items.length).flatMap fun depth => right.sightsAt (depth + 1) := by
    rcases Nat.le_total left.items.length right.items.length with fewer | more
    · refine (flatMap_range_of_empty fewer fun depth deep => ?_).symm
      rw [← level]
      exact leftTree.sightsAt_eq_nil (by omega)
    · exact flatMap_range_of_empty more fun depth deep => rightTree.sightsAt_eq_nil (by omega)
  rw [sights_listing, sights_listing, same.views]
  simp only [level, below]

section Outcomes

variable (tree : objects.IsTree) (quick : QuickSearch) (query : String)

include tree

/-- All suggestions up to the limit in force. -/
theorem IsTree.suggest_limited (limit : Option Int) :
    (objects.catalog.suggest objects.rootVisit query limit).result =
      .ok (cut limit (objects.listing.filter fun item => item.contains query)) :=
  Catalog.suggest_limited (tree.suggest_root query) limit

theorem IsTree.search_sight :
    (quick.search objects.catalog (.space rootSpace) query).result.map Outcome.sight =
      settle (.error .notFound)
        ((firstEqual quick.caseSensitive query objects.listing).map SearchItem.sight) := by
  have compared := tree.find_root query quick.caseSensitive
  cases first : firstEqual quick.caseSensitive query objects.listing <;>
    rw [first] at compared <;> rw [quick.search_result tree.openStart_root compared] <;> rfl

theorem IsTree.lookup_sight (requested : Option Int) :
    (quick.lookup objects.catalog (.space rootSpace) query requested).result.map Outcome.sight =
      settle (.ok ⟨.suggestionsReturned, none, cut (quick.limit requested)
          ((objects.listing.filter fun item => item.contains query).map SearchItem.sight)⟩)
        ((firstEqual quick.caseSensitive query objects.listing).map SearchItem.sight) := by
  have compared := tree.find_root query quick.caseSensitive
  have collected := tree.suggest_limited query (quick.limit requested)
  rw [← map_cut]
  cases first : firstEqual quick.caseSensitive query objects.listing <;>
    rw [first] at compared <;>
    rw [quick.lookup_result tree.openStart_root compared collected] <;> rfl

theorem IsTree.suggest_sight (requested : Option Int) :
    (quick.suggest objects.catalog (.space rootSpace) query requested).result.map Outcome.sight =
      .ok ⟨.suggestionsReturned, none, cut (quick.limit requested)
        ((objects.listing.filter fun item => item.contains query).map SearchItem.sight)⟩ := by
  rw [quick.suggest_result tree.openStart_root
    (tree.suggest_limited query (quick.limit requested)), ← map_cut]
  rfl

end Outcomes

/-- Whatever is asked, what shows of the outcome is the same over either workspace. -/
structure SearchedAlike (left right : Objects) : Prop where
  search : ∀ (quick : QuickSearch) query,
    (quick.search left.catalog (.space rootSpace) query).result.map Outcome.sight =
      (quick.search right.catalog (.space rootSpace) query).result.map Outcome.sight
  lookup : ∀ (quick : QuickSearch) query requested,
    (quick.lookup left.catalog (.space rootSpace) query requested).result.map Outcome.sight =
      (quick.lookup right.catalog (.space rootSpace) query requested).result.map Outcome.sight
  suggest : ∀ (quick : QuickSearch) query requested,
    (quick.suggest left.catalog (.space rootSpace) query requested).result.map Outcome.sight =
      (quick.suggest right.catalog (.space rootSpace) query requested).result.map Outcome.sight

/-- Workspaces with the same tree are searched alike. -/
theorem SameTree.searchedAlike (same : SameTree left right) (leftTree : left.IsTree)
    (rightTree : right.IsTree) : SearchedAlike left right := by
  have alike := same.sights_eq leftTree rightTree
  constructor
  case search =>
    intro quick query
    rw [leftTree.search_sight, rightTree.search_sight, firstEqual_sight alike]
  case lookup =>
    intro quick query requested
    rw [leftTree.lookup_sight, rightTree.lookup_sight, firstEqual_sight alike,
      filter_contains_sight alike]
  case suggest =>
    intro quick query requested
    rw [leftTree.suggest_sight, rightTree.suggest_sight, filter_contains_sight alike]

end Wayfinder.Workspace.Objects
