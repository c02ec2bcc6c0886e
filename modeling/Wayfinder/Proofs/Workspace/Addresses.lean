import Wayfinder.Proofs.Address
import Wayfinder.Proofs.Workspace.Growth
import Wayfinder.Proofs.Workspace.Lineage

/-!
# The addresses of a workspace

The names along an item's location lead back to it, so items have the same address only if they are the
same. A view's address tells its name.
-/

namespace Wayfinder.Workspace

namespace Objects

variable {objects : Objects}

theorem item_url {id : ItemId} {item : Item} (found : objects.item? id = some item) :
    (objects.target (.item id)).url = Path.itemAddress (objects.lineageNames id) := by
  simp only [target, found]
  rfl

theorem view_url {id : ViewId} {view : ListView} (found : objects.view? id = some view) :
    (objects.target (.view id)).url = Path.viewAddress view.name.text := by
  simp only [target, found]

/-- Items of one address are the same. -/
theorem IsTree.eq_of_url (tree : objects.IsTree) {left right : ItemId} {leftItem rightItem : Item}
    (leftFound : objects.item? left = some leftItem)
    (rightFound : objects.item? right = some rightItem)
    (same : (objects.target (.item left)).url = (objects.target (.item right)).url) :
    left = right := by
  obtain ⟨leftSome, leftFollowed⟩ := tree.follow?_lineage leftFound
  obtain ⟨rightSome, rightFollowed⟩ := tree.follow?_lineage rightFound
  have readsLeft := Path.readsBack leftSome fun _ => isSegment_of_mem_lineageNames
  have readsRight := Path.readsBack rightSome fun _ => isSegment_of_mem_lineageNames
  rw [item_url leftFound, item_url rightFound] at same
  rw [readsLeft.eq readsRight same, rightFollowed] at leftFollowed
  exact (Option.some.inj leftFollowed).symm

/-- The addresses of a workspace tell its objects apart, as far as they are to be told apart. -/
structure AddressesLocate (objects : Objects) : Prop where
  item : ∀ id item, objects.item? id = some item → ∃ names : List Name, names ≠ [] ∧
    objects.follow? (.space rootSpace) (names.map Name.text) = some id ∧
    objects.fullName id = Path.ofNames (names.map Name.text) ∧
    (objects.target (.item id)).url = Path.itemAddress (names.map Name.text)
  view : ∀ id view, objects.view? id = some view →
    (objects.target (.view id)).url = Path.viewAddress view.name.text
  item_iff : ∀ left right, (objects.item? left).isSome → (objects.item? right).isSome →
    ((objects.target (.item left)).url = (objects.target (.item right)).url ↔ left = right)
  view_iff : ∀ left right leftView rightView, objects.view? left = some leftView →
    objects.view? right = some rightView →
    ((objects.target (.view left)).url = (objects.target (.view right)).url ↔
      leftView.name = rightView.name)
  apart : ∀ id other, (objects.item? id).isSome → (objects.view? other).isSome →
    (objects.target (.item id)).url ≠ (objects.target (.view other)).url

theorem IsTree.addressesLocate (tree : objects.IsTree) : objects.AddressesLocate where
  item id item found := by
    obtain ⟨nonempty, followed⟩ := tree.follow?_lineage found
    have names : ((objects.lineage id).map Item.name).map Name.text = objects.lineageNames id :=
      List.map_map
    refine ⟨(objects.lineage id).map Item.name, ?_, ?_, ?_, ?_⟩
    · intro empty
      rw [empty] at names
      exact nonempty names.symm
    · rw [names, followed]
    · rw [names]
      rfl
    · rw [names, item_url found]
  view id view found := view_url found
  item_iff left right leftThere rightThere := by
    obtain ⟨leftItem, leftFound⟩ := Option.isSome_iff_exists.mp leftThere
    obtain ⟨rightItem, rightFound⟩ := Option.isSome_iff_exists.mp rightThere
    exact ⟨tree.eq_of_url leftFound rightFound, fun same => by rw [same]⟩
  view_iff left right leftView rightView leftFound rightFound := by
    rw [view_url leftFound, view_url rightFound, Path.viewAddress_inj, Name.text_inj]
  apart id other there otherThere := by
    obtain ⟨item, found⟩ := Option.isSome_iff_exists.mp there
    obtain ⟨view, viewFound⟩ := Option.isSome_iff_exists.mp otherThere
    rw [item_url found, view_url viewFound]
    exact Path.itemAddress_ne_viewAddress _ _

end Objects

/-- Addresses are written so that they are read back as the locations that they are made of and that
nothing on the way changes them; and no two objects share one unless they are views of one name. -/
theorem addresses_locate {objects : Objects} (grown : Grown objects) :
    (∀ names : List Name, names ≠ [] → Path.ReadsBack (names.map Name.text) ∧
      Path.IsStable (Path.itemAddress (names.map Name.text))) ∧
    (∀ name : Name, Path.IsStable (Path.viewAddress name.text)) ∧
    objects.AddressesLocate := by
  refine ⟨fun names nonempty => ⟨?_, Path.isStable_itemAddress names⟩, Path.isStable_viewAddress,
    grown.isTree.addressesLocate⟩
  apply Path.readsBack (by simpa using nonempty)
  intro text member
  obtain ⟨name, -, rfl⟩ := List.mem_map.mp member
  exact ⟨name.text_ne_empty, name.separator_not_mem⟩

/-- A folder that is called like a marker, a job in it whose name looks like an escaped slash, and a
view of the folder's name. -/
def misleading : Objects where
  items := [
    { name := ⟨"job", by decide⟩, parent := some (.space ⟨0⟩), body := .folder [⟨1⟩] },
    { name := ⟨"%2F..", by decide⟩, parent := some (.folder ⟨0⟩), body := .job false }]
  views := [{ name := ⟨"job", by decide⟩, owner := some ⟨0⟩ }]
  spaces := [{ items := [⟨0⟩], views := [⟨0⟩] }]

theorem misleading_addresses_locate : Grown misleading ∧
    (∀ names : List Name, names ≠ [] → Path.ReadsBack (names.map Name.text) ∧
      Path.IsStable (Path.itemAddress (names.map Name.text))) ∧
    (∀ name : Name, Path.IsStable (Path.viewAddress name.text)) ∧
    misleading.AddressesLocate := by
  have folder := Grown.empty.edit (.createFolder (.space rootSpace) "job" none none) rfl rfl
  have inside := folder.edit (.createJob (.folder ⟨0⟩) "%2F.." none false none) rfl rfl
  have made := inside.edit (.newView "job" none) trivial rfl
  have grown : Grown misleading := made.edit (.addView ⟨0⟩) trivial rfl
  exact ⟨grown, addresses_locate grown⟩

end Wayfinder.Workspace
