import Wayfinder.Proofs.Workspace.LevelOrder

/-!
# The index of every object

In a tree every index can be made. What it shows is the aliases of objects: a folder its own and those
of its items, the workspace those of the top-level items and of the views. Both let the search go on to
the folders that they hold.
-/

namespace Wayfinder.Workspace.Objects

open Search

variable {objects : Objects}

/-- The folders among some items. -/
def foldersOf (objects : Objects) (items : List ItemId) : List ItemId :=
  items.filter fun id => (objects.group? id).isSome

/-- The aliases of some items. -/
def aliasesOf (objects : Objects) (items : List ItemId) : List (SearchItem ObjectId) :=
  items.flatMap fun id => objects.aliases (.item id)

/-- What a folder shows to search. -/
def folderIndex (objects : Objects) (id : ItemId) : SearchIndex ObjectId where
  items := objects.aliases (.item id) ++ objects.aliasesOf (objects.members (.folder id))
  children := (objects.foldersOf (objects.members (.folder id))).map fun id => .container (.item id)
  owner := some (.item id)

/-- What the workspace shows to search. -/
def rootIndex (objects : Objects) : SearchIndex ObjectId where
  items := objects.aliasesOf (objects.members (.space rootSpace)) ++
    (objects.viewsOf rootSpace).flatMap fun id => objects.aliases (.view id)
  children := (objects.foldersOf (objects.members (.space rootSpace))).map
    fun id => .container (.item id)
  owner := some (.space rootSpace)

theorem make_of_name (name : Name) (url : String) (target : Target ObjectId) (kind : AliasKind) :
    SearchItem.make name.text url target kind =
      .ok ⟨name.text, url, target, kind, name.text_ne_empty⟩ := by
  rw [SearchItem.make, dif_neg name.text_ne_empty]

theorem aliases_target {id : ItemId} {item : Item} (found : objects.item? id = some item) :
    (objects.target (.item id)).aliases = .ok (objects.aliases (.item id)) := by
  have named : (objects.target (.item id)).name = item.name.text := by simp [target, found]
  have shown : (objects.target (.item id)).displayName = some item.shownName := by
    simp [target, found]
  have made := make_of_name item.name (objects.target (.item id)).url (objects.target (.item id)) .name
  simp only [Target.aliases, named, made, shown, aliases, found]
  cases display : item.displayName with
  | none => simp [Item.shownName, display, item.name.text_ne_empty, pure, Except.pure, bind, Except.bind]
  | some text =>
      by_cases empty : text = ""
      · simp [Item.shownName, display, empty, pure, Except.pure, bind, Except.bind]
      · by_cases same : text = item.name.text
        · simp [Item.shownName, display, same, item.name.text_ne_empty, pure, Except.pure, bind,
            Except.bind]
        · simp [Item.shownName, display, same, empty, pure, Except.pure, bind, Except.bind]

theorem addAll_targets (index : SearchIndex ObjectId) {items : List ItemId}
    (there : ∀ id ∈ items, ∃ item, objects.item? id = some item) :
    index.addAll (items.map fun id => objects.target (.item id)) =
      .ok { index with items := index.items ++ objects.aliasesOf items } := by
  induction items generalizing index with
  | nil => simp [SearchIndex.addAll, aliasesOf, pure, Except.pure]
  | cons id items ih =>
      obtain ⟨item, found⟩ := there id (by simp)
      have rest := ih { index with items := index.items ++ objects.aliases (.item id) }
        fun other member => there other (by simp [member])
      simp only [SearchIndex.addAll, List.map_cons, List.foldlM_cons] at rest ⊢
      rw [SearchIndex.addAliases, aliases_target found]
      simpa [Except.map, bind, Except.bind, aliasesOf] using rest

theorem addMembers_eq (index : SearchIndex ObjectId) {items : List ItemId}
    (there : ∀ id ∈ items, ∃ item, objects.item? id = some item) :
    objects.addMembers index items = .ok { index with
      items := index.items ++ objects.aliasesOf items
      children := index.children ++ (objects.foldersOf items).map fun id => .container (.item id) } := by
  rw [addMembers, addAll_targets index there]
  rfl

theorem HoldsItems.there_of_mem (holds : objects.HoldsItems) (group : GroupId) :
    ∀ id ∈ objects.members group, ∃ item, objects.item? id = some item := by
  intro id member
  obtain ⟨item, found, -⟩ := holds.item_of_mem member
  exact ⟨item, found⟩

theorem searchIndex_item {id : ItemId} {item : Item} (found : objects.item? id = some item)
    (there : ∀ member ∈ objects.members (.folder id), ∃ item, objects.item? member = some item) :
    objects.searchIndex (.item id) = .ok (objects.folderIndex id) := by
  simp only [searchIndex, SearchIndex.addAliases, aliases_target found, Except.map, bind, Except.bind,
    addMembers_eq _ there]
  rfl

theorem HoldsItems.searchIndex_item (holds : objects.HoldsItems) {id : ItemId} {item : Item}
    (found : objects.item? id = some item) :
    objects.searchIndex (.item id) = .ok (objects.folderIndex id) :=
  Objects.searchIndex_item found (holds.there_of_mem (.folder id))

theorem addName_target (index : SearchIndex ObjectId) {id : ViewId} {view : ListView}
    (found : objects.view? id = some view) :
    index.addName (objects.target (.view id)).name (some (objects.target (.view id))) =
      .ok { index with items := index.items ++ objects.aliases (.view id) } := by
  have named : (objects.target (.view id)).name = view.name.text := by simp [target, found]
  rw [SearchIndex.addName, named, make_of_name]
  simp only [Except.map, SearchIndex.addItem, aliases, found]

theorem addNames_targets (index : SearchIndex ObjectId) {ids : List ViewId}
    (there : ∀ id ∈ ids, ∃ view, objects.view? id = some view) :
    ids.foldlM (fun index view =>
      let target := objects.target (.view view)
      index.addName target.name (some target)) index =
        Except.ok { index with
          items := index.items ++ ids.flatMap fun id => objects.aliases (.view id) } := by
  induction ids generalizing index with
  | nil => simp [pure, Except.pure]
  | cons id ids ih =>
      obtain ⟨view, found⟩ := there id (by simp)
      have rest := ih { index with items := index.items ++ objects.aliases (.view id) }
        fun other member => there other (by simp [member])
      simp only [List.foldlM_cons, addName_target index found, List.flatMap_cons, bind, Except.bind]
      simpa using rest

theorem searchIndex_root
    (there : ∀ id ∈ objects.members (.space rootSpace), ∃ item, objects.item? id = some item)
    (listed : ∀ id ∈ objects.viewsOf rootSpace, ∃ view, objects.view? id = some view) :
    objects.searchIndex (.space rootSpace) = .ok objects.rootIndex := by
  simp only [searchIndex, bind, Except.bind, addMembers_eq _ there]
  rw [← viewsOf, addNames_targets _ listed]
  rfl

theorem IsTree.searchIndex_root (tree : objects.IsTree) :
    objects.searchIndex (.space rootSpace) = .ok objects.rootIndex :=
  Objects.searchIndex_root (tree.there_of_mem _) fun _ => tree.view_of_mem

end Wayfinder.Workspace.Objects
