import Mathlib.Data.List.Induction
import Wayfinder.Proofs.ItemPath
import Wayfinder.Proofs.Workspace.Growth
import Wayfinder.Proofs.Workspace.Lineage
import Wayfinder.Proofs.Workspace.Traversal

/-!
# Full names identify items

The full name of an item is read off the way up from it, and an item is found by following a full name
down. In a tree the two are inverse to each other, so that a text leads to an item if and only if it is
the full name of the item but for slashes at its ends. The workspaces that come about by making jobs and
folders are trees, and the listing of all their items goes through everything that was made.
-/

namespace Wayfinder.Workspace

namespace Objects

variable {objects changed : Objects}

theorem HoldsItems.child?_eq_some_iff (holds : objects.HoldsItems) {group : GroupId} {name : String}
    {id : ItemId} : objects.child? group name = some id ↔
      id ∈ objects.members group ∧ ∃ item, objects.item? id = some item ∧ item.name.text = name := by
  constructor
  · intro search
    have member : id ∈ objects.members group := List.mem_of_find?_eq_some search
    have matching := List.find?_some search
    obtain ⟨item, found, -⟩ := holds.item_of_mem member
    simp only [found, beq_iff_eq] at matching
    exact ⟨member, item, found, matching⟩
  · rintro ⟨member, item, found, rfl⟩
    exact holds.child?_eq member found

/-- The names that lead to an item are those on the way up from it. -/
theorem HoldsItems.lineageNames_of_follow? (holds : objects.HoldsItems) {space : SpaceId}
    {names : List String} {id : ItemId} (followed : objects.follow? (.space space) names = some id) :
    id ∈ objects.itemIds ∧ objects.lineageNames id = names := by
  induction names using List.reverseRecOn generalizing id with
  | nil => cases followed
  | append_singleton names name ih =>
      by_cases top : names = []
      · subst top
        obtain ⟨member, item, found, rfl⟩ := holds.child?_eq_some_iff.mp followed
        rw [lineageNames, holds.lineage_top member found]
        exact ⟨holds.mem_itemIds_of_mem member, rfl⟩
      · rw [follow?_append _ _ top] at followed
        obtain ⟨group, above, last⟩ := Option.bind_eq_some_iff.mp followed
        obtain ⟨folder, higher, is_folder⟩ := Option.bind_eq_some_iff.mp above
        obtain ⟨rfl, -⟩ := group?_eq_some_iff.mp is_folder
        obtain ⟨member, item, found, rfl⟩ := holds.child?_eq_some_iff.mp last
        rw [lineageNames, holds.lineage_below member found, List.map_append, ← lineageNames,
          (ih higher).2]
        exact ⟨holds.mem_itemIds_of_mem member, rfl⟩

namespace IsTree

variable (tree : objects.IsTree)

include tree

/-- A text leads to an item if and only if, but for slashes at its ends, it is the item's full name. -/
theorem byFullName?_eq_some_iff {text : String} {id : ItemId} :
    objects.byFullName? rootSpace text = some id ↔
      id ∈ objects.itemIds ∧ Path.trim text = objects.fullName id := by
  have written : objects.fullName id = Path.ofNames (objects.lineageNames id) := rfl
  rw [byFullName?, written]
  constructor
  · intro followed
    obtain ⟨known, names⟩ := tree.lineageNames_of_follow? followed
    exact ⟨known, by rw [names, Path.ofNames_names]⟩
  · rintro ⟨known, named⟩
    obtain ⟨nonempty, followed⟩ :=
      tree.follow?_lineage (List.getElem?_eq_getElem (mem_itemIds.mp known))
    have names : Path.names text = objects.lineageNames id := by
      rw [Path.names, named, Path.ofNames, Path.split_join nonempty]
      exact fun name member => (isSegment_of_mem_lineageNames member).2
    rw [names, followed]

/-- A full name has no slashes at its ends. -/
theorem trim_fullName {id : ItemId} (known : id ∈ objects.itemIds) :
    Path.trim (objects.fullName id) = objects.fullName id := by
  have found := tree.byFullName?_lineage (List.getElem?_eq_getElem (mem_itemIds.mp known))
  exact (tree.byFullName?_eq_some_iff.mp found).2

theorem byFullName?_padded {id : ItemId} (known : id ∈ objects.itemIds) (before behind : Nat) :
    objects.byFullName? rootSpace (Path.padded before behind (objects.fullName id)) = some id := by
  rw [tree.byFullName?_eq_some_iff, Path.trim_padded]
  exact ⟨known, tree.trim_fullName known⟩

theorem eq_of_fullName {left right : ItemId} (first : left ∈ objects.itemIds)
    (second : right ∈ objects.itemIds) (same : objects.fullName left = objects.fullName right) :
    left = right := by
  have found := tree.byFullName?_padded first 0 0
  rw [same, tree.byFullName?_padded second 0 0] at found
  exact (Option.some.inj found).symm

end IsTree

/-- What the group of a text is, by what the text leads to. -/
structure FolderNamed (objects : Objects) (text : String) : Prop where
  folder_iff : ∀ id, objects.folderNamed rootSpace (some text) = .ok (.folder id) ↔
    text ≠ "" ∧ objects.byFullName? rootSpace text = some id ∧
      ∃ item, objects.item? id = some item ∧ item.isFolder = true
  space_iff : ∀ space, objects.folderNamed rootSpace (some text) = .ok (.space space) ↔
    text = "" ∧ space = rootSpace
  missing_iff : (∃ fault, objects.folderNamed rootSpace (some text) = .error fault ∧
    fault.category = .notFound) ↔ text ≠ "" ∧ objects.byFullName? rootSpace text = none
  job_iff : (∃ fault, objects.folderNamed rootSpace (some text) = .error fault ∧
    fault.category = .invalidParent) ↔ ∃ id item, objects.byFullName? rootSpace text = some id ∧
      objects.item? id = some item ∧ item.isFolder = false
  fault : ∀ fault, objects.folderNamed rootSpace (some text) = .error fault →
    fault = .noItem text ∨ fault = .notFolder text

/-- The empty text leads to no item. -/
theorem HoldsItems.byFullName?_empty (holds : objects.HoldsItems) (space : SpaceId) :
    objects.byFullName? space "" = none := by
  cases found : objects.byFullName? space "" with
  | none => rfl
  | some id =>
      obtain ⟨-, item, -, empty⟩ := holds.child?_eq_some_iff.mp found
      exact absurd empty item.name.text_ne_empty

section FolderNamed

variable {space : SpaceId} {text : String} {id : ItemId} {item : Item}

theorem nonEmpty?_eq_self (given : text ≠ "") : nonEmpty? (some text) = some text := by
  simp [nonEmpty?, given]

theorem folderNamed_of_missing (given : text ≠ "") (missing : objects.byFullName? space text = none) :
    objects.folderNamed space (some text) = .error (.noItem text) := by
  simp only [folderNamed, nonEmpty?_eq_self given, missing]

theorem folderNamed_of_folder (given : text ≠ "") (found : objects.byFullName? space text = some id)
    (there : objects.item? id = some item) (folder : item.isFolder = true) :
    objects.folderNamed space (some text) = .ok (.folder id) := by
  have group : objects.group? id = some (.folder id) := group?_eq_some_iff.mpr ⟨rfl, item, there, folder⟩
  simp only [folderNamed, nonEmpty?_eq_self given, found, group]

theorem folderNamed_of_job (given : text ≠ "") (found : objects.byFullName? space text = some id)
    (there : objects.item? id = some item) (job : item.isFolder = false) :
    objects.folderNamed space (some text) = .error (.notFolder text) := by
  have group : objects.group? id = none := by simp [group?, there, job]
  simp only [folderNamed, nonEmpty?_eq_self given, found, group]

end FolderNamed

theorem HoldsItems.folderNamed (holds : objects.HoldsItems) (text : String) :
    objects.FolderNamed text := by
  by_cases given : text = ""
  · subst given
    have whole : objects.folderNamed rootSpace (some "") = .ok (.space rootSpace) := rfl
    have nowhere := holds.byFullName?_empty rootSpace
    constructor
    case space_iff => simp [whole, eq_comm]
    all_goals simp [whole, nowhere]
  · cases found : objects.byFullName? rootSpace text with
    | none =>
        have missing := folderNamed_of_missing given found
        constructor <;> simp [missing, found, given, Fault.category]
    | some id =>
        obtain ⟨known, -⟩ := holds.lineageNames_of_follow? found
        obtain ⟨item, there⟩ : ∃ item, objects.item? id = some item :=
          ⟨_, List.getElem?_eq_getElem (mem_itemIds.mp known)⟩
        cases kind : item.isFolder with
        | true =>
            have folder := folderNamed_of_folder given found there kind
            constructor <;> simp [folder, found, there, kind, given]
        | false =>
            have job := folderNamed_of_job given found there kind
            constructor <;> simp [job, found, there, kind, given, Fault.category]

end Objects

/-- The objects that making jobs and folders leads to from one empty workspace, and the items that were
made, in their order. A call that is refused makes nothing and changes nothing. -/
inductive Built : Objects → List ItemId → Prop where
  | empty : Built (Objects.newSpace {}).1 []
  | job {objects changed : Objects} {made : List ItemId} {id : ItemId} (built : Built objects made)
      (group : GroupId) (there : objects.HasGroup group) (name : String)
      (displayName : Option String) (disabled : Bool) (key : Option Int)
      (called : objects.createJob group name displayName disabled key = .ok (changed, id)) :
      Built changed (made ++ [id])
  | folder {objects changed : Objects} {made : List ItemId} {id : ItemId} (built : Built objects made)
      (group : GroupId) (there : objects.HasGroup group) (name : String)
      (displayName : Option String) (key : Option Int)
      (called : objects.createFolder group name displayName key = .ok (changed, id)) :
      Built changed (made ++ [id])
  | refusedJob {objects : Objects} {made : List ItemId} {fault : Fault} (built : Built objects made)
      (group : GroupId) (there : objects.HasGroup group) (name : String)
      (displayName : Option String) (disabled : Bool) (key : Option Int)
      (called : objects.createJob group name displayName disabled key = .error fault) :
      Built objects made
  | refusedFolder {objects : Objects} {made : List ItemId} {fault : Fault} (built : Built objects made)
      (group : GroupId) (there : objects.HasGroup group) (name : String)
      (displayName : Option String) (key : Option Int)
      (called : objects.createFolder group name displayName key = .error fault) :
      Built objects made

namespace Built

variable {objects : Objects} {made : List ItemId}

theorem grown (built : Built objects made) : Grown objects := by
  induction built with
  | empty => exact .empty
  | job _ group there name displayName disabled key called grown =>
      exact grown.edit (.createJob group name displayName disabled key) there
        (map_eq_ok_iff.mpr ⟨_, called, rfl⟩)
  | folder _ group there name displayName key called grown =>
      exact grown.edit (.createFolder group name displayName key) there
        (map_eq_ok_iff.mpr ⟨_, called, rfl⟩)
  | refusedJob _ _ _ _ _ _ _ _ grown => exact grown
  | refusedFolder _ _ _ _ _ _ _ grown => exact grown

theorem itemIds_placed {changed : Objects} {group : GroupId} {item : Item} {id : ItemId}
    (placed : Objects.Placed objects changed group item id) :
    changed.itemIds = objects.itemIds ++ [id] := by
  rw [Objects.itemIds, placed.length, List.range_succ, List.map_append, placed.id_eq]
  rfl

/-- The items that were made are those that there are. -/
theorem made_eq (built : Built objects made) : made = objects.itemIds := by
  induction built with
  | empty => rfl
  | job _ _ there _ _ _ _ called ih =>
      obtain ⟨item, checked, created⟩ := bind_eq_ok_iff.mp called
      rw [ih, itemIds_placed (Objects.createItem_placed there (Objects.items_job checked) created)]
  | folder _ _ there _ _ _ called ih =>
      obtain ⟨item, checked, created⟩ := bind_eq_ok_iff.mp called
      rw [ih, itemIds_placed (Objects.createItem_placed there (Objects.items_folder checked) created)]
  | refusedJob _ _ _ _ _ _ _ _ ih => exact ih
  | refusedFolder _ _ _ _ _ _ _ ih => exact ih

end Built

/-- Full names identify the items that were made: the listing of the workspace goes through each of them
once, and through a folder before what is below it; and a text leads to an item if and only if it is the
full name of the item but for slashes at its ends. -/
structure FullNamesIdentify (objects : Objects) (made : List ItemId) : Prop where
  listed : (objects.allItems (.space rootSpace)).Perm made
  once : (objects.allItems (.space rootSpace)).Nodup
  ordered : ∀ folder id, objects.Under (.folder folder) id →
    [folder, id].Sublist (objects.allItems (.space rootSpace))
  distinct : ∀ left ∈ made, ∀ right ∈ made, objects.fullName left = objects.fullName right →
    left = right
  found : ∀ id ∈ made, ∀ before behind,
    objects.byFullName? rootSpace (Path.padded before behind (objects.fullName id)) = some id
  named : ∀ text id, objects.byFullName? rootSpace text = some id →
    id ∈ made ∧ Path.trim text = objects.fullName id
  folders : ∀ text, objects.FolderNamed text

/-- However jobs and folders were made in a workspace, their full names identify them. -/
theorem Built.fullNames_identify {objects : Objects} {made : List ItemId} (built : Built objects made) :
    FullNamesIdentify objects made := by
  have tree := built.grown.isTree
  have known : ∀ id, id ∈ made ↔ id ∈ objects.itemIds := fun id => by rw [built.made_eq]
  have distinct : made.Nodup := by
    rw [built.made_eq]
    exact List.nodup_range.map fun _ _ => ItemId.mk.inj
  constructor
  case listed =>
    refine (List.perm_ext_iff_of_nodup (tree.nodup_allItems _) distinct).mpr fun id => ?_
    rw [tree.mem_allItems_root, known]
  case once => exact tree.nodup_allItems _
  case ordered => exact fun folder id below => tree.pair_sublist_allItems_root below
  case distinct =>
    intro left first right second same
    exact tree.eq_of_fullName ((known left).mp first) ((known right).mp second) same
  case found => exact fun id member => tree.byFullName?_padded ((known id).mp member)
  case named =>
    intro text id followed
    obtain ⟨there, named⟩ := tree.byFullName?_eq_some_iff.mp followed
    exact ⟨(known id).mpr there, named⟩
  case folders => exact tree.folderNamed

/-- A folder and, in it, a job of the same name. -/
def sameNamed : Objects where
  items := [
    { name := ⟨"twice", by decide⟩, parent := some (.space ⟨0⟩), body := .folder [⟨1⟩] },
    { name := ⟨"twice", by decide⟩, parent := some (.folder ⟨0⟩), body := .job false }]
  spaces := [{ items := [⟨0⟩] }]

theorem sameNamed_fullNames_identify :
    Built sameNamed [⟨0⟩, ⟨1⟩] ∧ FullNamesIdentify sameNamed [⟨0⟩, ⟨1⟩] := by
  have folder := Built.empty.folder (.space rootSpace) rfl "twice" none none rfl
  have again := folder.refusedJob (.space rootSpace) rfl "twice" none false none rfl
  have built : Built sameNamed [⟨0⟩, ⟨1⟩] :=
    again.job (.folder ⟨0⟩) rfl "twice" (some "") false none rfl
  exact ⟨built, built.fullNames_identify⟩

/-- The empty text leads to no item, and yet there is a group for it: the workspace. -/
theorem emptyText_not_told_missing :
    Built (Objects.newSpace {}).1 [] ∧
    (Objects.newSpace {}).1.byFullName? rootSpace "" = none ∧
    (Objects.newSpace {}).1.folderNamed rootSpace (some "") = .ok (.space rootSpace) ∧
    ¬((∃ fault, (Objects.newSpace {}).1.folderNamed rootSpace (some "") = .error fault ∧
      fault.category = .notFound) ↔ (Objects.newSpace {}).1.byFullName? rootSpace "" = none) := by
  have nowhere : (Objects.newSpace {}).1.byFullName? rootSpace "" = none := rfl
  have whole : (Objects.newSpace {}).1.folderNamed rootSpace (some "") = .ok (.space rootSpace) := rfl
  refine ⟨.empty, nowhere, whole, fun same => ?_⟩
  obtain ⟨fault, refused, -⟩ := same.mpr nowhere
  rw [whole] at refused
  cases refused

end Wayfinder.Workspace
