import Wayfinder.Proofs.Search.Loops
import Wayfinder.Proofs.Workspace.Circles
import Wayfinder.Proofs.Workspace.Indices

/-!
# When searching ends

A search opens every container once at most, so it ends even if containers hold each other. What it opens
must be made first, though, and that takes the location of every item shown. Searching ends as long as no
item is above itself, and one that is gets there only by being added to itself or below itself.
-/

namespace Wayfinder.Workspace

open Relation (ReflTransGen TransGen)
open Search

namespace Objects

variable {objects : Objects}

theorem address?_eq (objects : Objects) (id : ItemId) :
    objects.address? id = provided (objects.Ends id) (objects.address id) := by
  rw [address?, lineage?_eq]
  rfl

theorem displayPath?_eq (objects : Objects) (id : ItemId) :
    objects.displayPath? id = provided (objects.Ends id) (objects.displayPath id) := by
  rw [displayPath?, lineage?_eq]
  rfl

/-- What search knows of an item is known if the climb from it ends. -/
theorem target?_eq (objects : Objects) (id : ItemId) :
    objects.target? id = provided (objects.Ends id) (objects.target (.item id)) := by
  cases found : objects.item? id with
  | none =>
      have ends : objects.Ends id := .top (by rw [above?, found]; rfl)
      rw [provided_of ends, target?, found]
  | some item =>
      by_cases ends : objects.Ends id
      · simp [target?, target, found, address?_eq, displayPath?_eq, provided_of ends]
      · simp [target?, found, address?_eq, provided_of_not ends]

variable {index : SearchIndex ObjectId} {items : List ItemId}

theorem run_addAliases? (objects : Objects) (index : SearchIndex ObjectId) (id : ItemId) :
    (objects.addAliases? index id).run =
      provided (objects.Ends id) (index.addAliases (objects.target (.item id))) := by
  rw [addAliases?, ExceptT.run_mk, target?_eq]
  rfl

/-- Items are declared if the climbs from all of them end. -/
theorem run_foldlM_of_ends (ends : ∀ id ∈ items, objects.Ends id) :
    (items.foldlM objects.addAliases? index).run =
      .some (index.addAll (items.map fun id => objects.target (.item id))) := by
  induction items generalizing index with
  | nil => rfl
  | cons id items ih =>
      have rest (index : SearchIndex ObjectId) : (items.foldlM objects.addAliases? index).run = _ :=
        ih fun other member => ends other (List.mem_cons_of_mem _ member)
      rw [List.foldlM_cons, ExceptT.run_bind, run_addAliases?, provided_of (ends id List.mem_cons_self),
        Part.bind_eq_bind, Part.bind_some]
      rw [SearchIndex.addAll, List.map_cons, List.foldlM_cons]
      cases declared : index.addAliases (objects.target (.item id)) with
      | error fault => rfl
      | ok index => exact rest index

/-- Items that are there are not declared if the climb from one of them never ends. -/
theorem run_foldlM_of_endless (there : ∀ id ∈ items, ∃ item, objects.item? id = some item)
    {endless : ItemId} (member : endless ∈ items) (never : ¬objects.Ends endless) :
    (items.foldlM objects.addAliases? index).run = .none := by
  induction items generalizing index with
  | nil => cases member
  | cons id items ih =>
      obtain ⟨item, found⟩ := there id List.mem_cons_self
      rw [List.foldlM_cons, ExceptT.run_bind, run_addAliases?]
      by_cases ends : objects.Ends id
      · have later : endless ∈ items := by
          rcases List.mem_cons.mp member with rfl | later
          · exact absurd ends never
          · exact later
        rw [provided_of ends, Part.bind_eq_bind, Part.bind_some, SearchIndex.addAliases,
          aliases_target found]
        exact ih (fun other member => there other (List.mem_cons_of_mem _ member)) later
      · rw [provided_of_not ends, Part.bind_eq_bind, Part.bind_none]

theorem run_addMembers?_of_ends (ends : ∀ id ∈ items, objects.Ends id) :
    (objects.addMembers? index items).run = .some (objects.addMembers index items) := by
  rw [addMembers?, ExceptT.run_bind, run_foldlM_of_ends ends, Part.bind_eq_bind, Part.bind_some, addMembers]
  cases index.addAll (items.map fun id => objects.target (.item id)) <;> rfl

theorem run_addMembers?_of_endless (there : ∀ id ∈ items, ∃ item, objects.item? id = some item)
    {endless : ItemId} (member : endless ∈ items) (never : ¬objects.Ends endless) :
    (objects.addMembers? index items).run = .none := by
  rw [addMembers?, ExceptT.run_bind, run_foldlM_of_endless there member never, Part.bind_eq_bind,
    Part.bind_none]

/-- The index of an object is made if the climbs from all items that it shows end. -/
theorem run_searchIndex?_of_ends {id : ObjectId} (ends : ∀ item ∈ objects.shown id, objects.Ends item) :
    (objects.searchIndex? id).run = .some (objects.searchIndex id) := by
  cases id with
  | item item =>
      have members : ∀ id ∈ objects.members (.folder item), objects.Ends id := fun id member =>
        ends id (List.mem_cons_of_mem _ member)
      rw [searchIndex?, ExceptT.run_bind, run_addAliases?, provided_of (ends item List.mem_cons_self),
        Part.bind_eq_bind, Part.bind_some]
      simp only [searchIndex]
      cases ({ owner := some (.item item) } : SearchIndex ObjectId).addAliases
          (objects.target (.item item)) with
      | error fault => rfl
      | ok index => exact run_addMembers?_of_ends members
  | view view => exact run_foldlM_of_ends ends
  | space space =>
      have members : ∀ id ∈ objects.members (.space space), objects.Ends id := ends
      rw [searchIndex?, ExceptT.run_bind, run_addMembers?_of_ends members, Part.bind_eq_bind, Part.bind_some]
      simp only [searchIndex]
      cases objects.addMembers { owner := some (.space space) } (objects.members (.space space)) <;> rfl

/-- The index of a group is made if and only if the climbs from all items that it shows end. -/
theorem isMade_iff (links : objects.LinksItems) {group : GroupId} (there : objects.HasGroup group) :
    objects.IsMade group.object ↔ ∀ item ∈ objects.shown group.object, objects.Ends item := by
  have held : ∀ id ∈ objects.members group, ∃ item, objects.item? id = some item := by
    intro id member
    obtain ⟨item, found, -⟩ := links.item_found member
    exact ⟨item, found⟩
  constructor
  · intro made item shown
    by_contra never
    -- Items that are held are there and have names, so no fault keeps the index from coming to this one.
    cases group with
    | folder folder =>
        obtain ⟨holder, found, -⟩ := hasGroup_folder_iff.mp there
        rw [IsMade, GroupId.object, searchIndex?, ExceptT.run_bind, run_addAliases?] at made
        by_cases ends : objects.Ends folder
        · have member : item ∈ objects.members (.folder folder) := by
            rcases List.mem_cons.mp shown with rfl | member
            · exact absurd ends never
            · exact member
          rw [provided_of ends, SearchIndex.addAliases, aliases_target found, Part.bind_eq_bind,
            Part.bind_some] at made
          simp only [Except.map, run_addMembers?_of_endless held member never] at made
          exact made
        · rw [provided_of_not ends, Part.bind_eq_bind, Part.bind_none] at made
          exact made
    | space space =>
        rw [IsMade, GroupId.object, searchIndex?, ExceptT.run_bind,
          run_addMembers?_of_endless held shown never, Part.bind_eq_bind, Part.bind_none] at made
        exact made
  · intro ends
    rw [IsMade, run_searchIndex?_of_ends ends]
    trivial

/-- The containers that a search is to open. -/
def toOpen {α : Type} (search : Traced (Event ObjectId) IndexFault α) : List ObjectId :=
  search.events.filterMap Event.opened?

theorem allOpen_iff_toOpen {α : Type} {search : Traced (Event ObjectId) IndexFault α}
    {opens : ObjectId → Prop} : AllOpen opens search.events ↔ ∀ key ∈ toOpen search, opens key := by
  constructor
  · intro open_ key member
    obtain ⟨event, there, opened⟩ := List.mem_filterMap.mp member
    exact open_ event there key opened
  · exact fun open_ event there key opened => open_ key (List.mem_filterMap.mpr ⟨event, there, opened⟩)

/-- An exact search ends if and only if all containers that it is to open are made. -/
theorem find?_eq (objects : Objects) (id : ObjectId) (query : String) (caseSensitive : Bool) :
    objects.find? id query caseSensitive =
      let search := objects.catalog.findFrom id query caseSensitive
      provided (∀ key ∈ toOpen search, objects.IsMade key) search.result := by
  rw [find?, Catalog.findFrom?_eq]
  exact provided_congr allOpen_iff_toOpen _

/-- Suggestions come to an end if and only if all containers that are to be opened are made. -/
theorem suggest?_eq (objects : Objects) (id : ObjectId) (query : String) (limit : Option Int) :
    objects.suggest? id query limit =
      let search := objects.catalog.suggestFrom id query limit
      provided (∀ key ∈ toOpen search, objects.IsMade key) search.result := by
  rw [suggest?, Catalog.suggestFrom?_eq]
  exact provided_congr allOpen_iff_toOpen _

/-- Whatever is asked about objects comes to an end: where an item is, and what a search finds. -/
structure SearchEnds (objects : Objects) : Prop where
  climbs : ∀ id, (objects.lineage? id).Dom
  fullNames : ∀ id, (objects.fullName? id).Dom
  displayPaths : ∀ id, (objects.displayPath? id).Dom
  addresses : ∀ id, (objects.address? id).Dom
  indices : ∀ id, (objects.searchIndex? id).run.Dom
  finds : ∀ id query caseSensitive, (objects.find? id query caseSensitive).Dom
  suggests : ∀ id query limit, (objects.suggest? id query limit).Dom

theorem dom_lineage?_iff {id : ItemId} : (objects.lineage? id).Dom ↔ objects.Ends id := by
  rw [lineage?_eq, dom_provided]

/-- All searching ends if and only if the climb from every item does. -/
theorem searchEnds_iff_ends : objects.SearchEnds ↔ ∀ id, objects.Ends id := by
  constructor
  · exact fun searchEnds id => dom_lineage?_iff.mp (searchEnds.climbs id)
  · intro ends
    have located (id : ItemId) : (objects.lineage? id).Dom := dom_lineage?_iff.mpr (ends id)
    have made (id : ObjectId) : objects.IsMade id := by
      rw [IsMade, run_searchIndex?_of_ends fun item _ => ends item]
      trivial
    constructor
    case climbs | fullNames | displayPaths | addresses => exact located
    case indices => exact made
    case finds =>
      intro id query caseSensitive
      rw [find?_eq, dom_provided]
      exact fun key _ => made key
    case suggests =>
      intro id query limit
      rw [suggest?_eq, dom_provided]
      exact fun key _ => made key

/-- A search from an object whose index is never made never ends. -/
theorem find?_eq_none {id : ObjectId} (never : ¬objects.IsMade id) (query : String)
    (caseSensitive : Bool) : objects.find? id query caseSensitive = .none :=
  Part.assert_neg never

theorem suggest?_eq_none {id : ObjectId} (never : ¬objects.IsMade id) (query : String)
    (limit : Option Int) : objects.suggest? id query limit = .none :=
  Part.assert_neg never

end Objects

/-- When searching ends, and what it comes to. -/
structure EndsUnlessCircle (objects : Objects) : Prop where
  /-- A climb ends if and only if it comes to no item that is above itself. -/
  climb_iff : ∀ id, (objects.lineage? id).Dom ↔
    ∀ other, ReflTransGen objects.Above id other → ¬TransGen objects.Above other other
  /-- The index of a group is made if and only if the climbs from all items that it shows end. -/
  index_iff : ∀ group, objects.HasGroup group → ((objects.searchIndex? group.object).run.Dom ↔
    ∀ item ∈ objects.shown group.object, (objects.lineage? item).Dom)
  /-- A search ends if and only if the indices of all containers that it is to open are made. -/
  find_iff : ∀ id query caseSensitive, (objects.find? id query caseSensitive).Dom ↔
    ∀ key ∈ Objects.toOpen (objects.catalog.findFrom id query caseSensitive),
      (objects.searchIndex? key).run.Dom
  suggest_iff : ∀ id query limit, (objects.suggest? id query limit).Dom ↔
    ∀ key ∈ Objects.toOpen (objects.catalog.suggestFrom id query limit),
      (objects.searchIndex? key).run.Dom
  /-- Everything ends if and only if no item is above itself, however groups hold each other. -/
  ends_iff : objects.SearchEnds ↔ ¬∃ id, TransGen objects.Above id id
  /-- When everything ends, the answers are those of a search with guarded climbs. -/
  answers : objects.SearchEnds → (∀ id, objects.lineage? id = .some (objects.lineage id)) ∧
    (∀ id, (objects.searchIndex? id).run = .some (objects.searchIndex id)) ∧
    (∀ id query caseSensitive, objects.find? id query caseSensitive =
      .some (objects.catalog.findFrom id query caseSensitive).result) ∧
    ∀ id query limit, objects.suggest? id query limit =
      .some (objects.catalog.suggestFrom id query limit).result
  /-- Once everything ends, it goes on to do so unless an item is put into or below itself. -/
  after_iff : objects.SearchEnds → ∀ call : Call, call.Fits objects →
    ((call.after objects).SearchEnds ↔ ¬call.ClosesCircle objects)

/-- Whatever calls were made, searching ends if and only if no item is above itself. -/
theorem Reached.endsUnlessCircle {objects : Objects} (reached : Reached objects) :
    EndsUnlessCircle objects where
  climb_iff id := by
    rw [Objects.dom_lineage?_iff, Objects.ends_iff_not_circle]
  index_iff group there := by
    simp only [Objects.dom_lineage?_iff]
    exact Objects.isMade_iff reached.linksAll.items there
  find_iff id query caseSensitive := by
    rw [Objects.find?_eq]
    exact dom_provided
  suggest_iff id query limit := by
    rw [Objects.suggest?_eq]
    exact dom_provided
  ends_iff := by
    rw [Objects.searchEnds_iff_ends, Objects.forall_ends_iff]
  answers searchEnds := by
    have ends := Objects.searchEnds_iff_ends.mp searchEnds
    have made (id : ObjectId) : objects.IsMade id := searchEnds.indices id
    refine ⟨fun id => ?_, fun id => Objects.run_searchIndex?_of_ends fun item _ => ends item, ?_, ?_⟩
    · rw [Objects.lineage?_eq, provided_of (ends id)]
    · intro id query caseSensitive
      rw [Objects.find?_eq, provided_of fun key _ => made key]
    · intro id query limit
      rw [Objects.suggest?_eq, provided_of fun key _ => made key]
  after_iff ends call fits := by
    rw [Objects.searchEnds_iff_ends]
    exact Call.forall_ends_after_iff reached.linksAll.items fits (Objects.searchEnds_iff_ends.mp ends)

/-- Two folders that hold each other are searched to the end when neither is above itself. -/
theorem heldInTurn_searchEnds : ∃ objects, Reached objects ∧ EndsUnlessCircle objects ∧
    objects.members (.folder ⟨0⟩) = [⟨1⟩] ∧ objects.members (.folder ⟨1⟩) = [⟨0⟩] ∧
    objects.SearchEnds := by
  have folders := (((Reached.start.call .newSpace trivial).call
    (.createFolder (.space ⟨0⟩) "plans" none none) (by decide)).call
    (.createFolder (.folder ⟨0⟩) "steps" none none) (by decide)).call
    (.createFolder (.space ⟨0⟩) "other" none none) (by decide)
  have turns := (folders.call (.addItem (.folder ⟨2⟩) ⟨1⟩) (by decide)).call
    (.addItem (.folder ⟨1⟩) ⟨0⟩) (by decide)
  obtain ⟨objects, reached, inPlans, inSteps, ids, plans, steps, other⟩ : ∃ objects, Reached objects ∧
      objects.members (.folder ⟨0⟩) = [⟨1⟩] ∧ objects.members (.folder ⟨1⟩) = [⟨0⟩] ∧
      objects.itemIds = [⟨0⟩, ⟨1⟩, ⟨2⟩] ∧ objects.above? ⟨0⟩ = some ⟨1⟩ ∧
      objects.above? ⟨1⟩ = some ⟨2⟩ ∧ objects.above? ⟨2⟩ = none :=
    ⟨_, turns, by decide, by decide, by decide, by decide, by decide, by decide⟩
  have otherEnds : objects.Ends ⟨2⟩ := .top other
  have stepsEnds : objects.Ends ⟨1⟩ := .up steps otherEnds
  have plansEnds : objects.Ends ⟨0⟩ := .up plans stepsEnds
  refine ⟨objects, reached, reached.endsUnlessCircle, inPlans, inSteps, ?_⟩
  refine Objects.searchEnds_iff_ends.mpr fun id => ?_
  by_cases member : id ∈ objects.itemIds
  · rw [ids] at member
    simp only [List.mem_cons, List.not_mem_nil, or_false] at member
    rcases member with rfl | rfl | rfl <;> assumption
  · exact .top (Option.not_isSome_iff_eq_none.mp fun above =>
      member (Objects.mem_itemIds_of_above above))

/-- A folder that is added to itself is never located, so that no search of its workspace ends. -/
theorem selfAdded_never_ends : ∃ objects, Reached objects ∧
    objects.members (.space ⟨0⟩) = [⟨0⟩] ∧ objects.members (.folder ⟨0⟩) = [⟨0⟩] ∧
    objects.lineage? ⟨0⟩ = .none ∧ objects.fullName? ⟨0⟩ = .none ∧ objects.address? ⟨0⟩ = .none ∧
    ∀ group ∈ [GroupId.space ⟨0⟩, .folder ⟨0⟩], (objects.searchIndex? group.object).run = .none ∧
      (∀ query caseSensitive, objects.find? group.object query caseSensitive = .none) ∧
      ∀ query limit, objects.suggest? group.object query limit = .none := by
  have folder := (Reached.start.call .newSpace trivial).call
    (.createFolder (.space ⟨0⟩) "f" none none) (by decide)
  have added := folder.call (.addItem (.folder ⟨0⟩) ⟨0⟩) (by decide)
  obtain ⟨objects, reached, inSpace, inFolder, spaceThere, folderThere, itself⟩ : ∃ objects,
      Reached objects ∧ objects.members (.space ⟨0⟩) = [⟨0⟩] ∧ objects.members (.folder ⟨0⟩) = [⟨0⟩] ∧
      objects.HasGroup (.space ⟨0⟩) ∧ objects.HasGroup (.folder ⟨0⟩) ∧
      objects.above? ⟨0⟩ = some ⟨0⟩ :=
    ⟨_, added, by decide, by decide, by decide, by decide, by decide⟩
  have endless : ¬objects.Ends ⟨0⟩ := fun ends => ends.not_circle (.single itself)
  have unlocated : objects.lineage? ⟨0⟩ = .none := by rw [Objects.lineage?_eq, provided_of_not endless]
  have unnamed : objects.fullName? ⟨0⟩ = .none := by rw [Objects.fullName?, unlocated, Part.map_none]
  have unaddressed : objects.address? ⟨0⟩ = .none := by rw [Objects.address?, unlocated, Part.map_none]
  refine ⟨objects, reached, inSpace, inFolder, unlocated, unnamed, unaddressed, fun group listed => ?_⟩
  have unmade : ¬objects.IsMade group.object := by
    have there : objects.HasGroup group ∧ (⟨0⟩ : ItemId) ∈ objects.shown group.object := by
      simp only [List.mem_cons, List.not_mem_nil, or_false] at listed
      rcases listed with rfl | rfl
      · have member : (⟨0⟩ : ItemId) ∈ objects.members (.space ⟨0⟩) := by simp [inSpace]
        exact ⟨spaceThere, member⟩
      · exact ⟨folderThere, List.mem_cons_self⟩
    rw [Objects.isMade_iff reached.linksAll.items there.1]
    exact fun ends => endless (ends ⟨0⟩ there.2)
  exact ⟨Part.eq_none_iff'.mpr unmade, Objects.find?_eq_none unmade, Objects.suggest?_eq_none unmade⟩

end Wayfinder.Workspace
