import Wayfinder.Search.Alias

/-!
# Search indices

An index is what one container shows to search: the items it declares, the children whose own
indices are consulted in turn, and the container it was made for, if any. A child is another
container, which makes its index when it is opened, or an index that was made beforehand.

Containers are known by keys of an arbitrary type; indices made beforehand by their number.
-/

namespace Wayfinder.Search

/-- Where a search goes on from an index. -/
inductive Child (κ : Type) where
  | container (key : κ)
  | index (id : Nat)
  deriving DecidableEq, Repr

/-- The searchable surface of one container. -/
structure SearchIndex (κ : Type) where
  items : List (SearchItem κ) := []
  children : List (Child κ) := []
  owner : Option κ := none

namespace SearchIndex

variable {κ : Type}

/-- The index as messages show it. -/
def describe (index : SearchIndex κ) : String :=
  "<SearchIndex(items=" ++ toString index.items.length ++ ", children=" ++
    toString index.children.length ++ ")>"

/-- Declare an item. -/
def addItem (index : SearchIndex κ) (item : SearchItem κ) : SearchIndex κ :=
  { index with items := index.items ++ [item] }

/-- Declare a name for an object. -/
def addName (index : SearchIndex κ) (name : String) (target : Option (Target κ)) :
    Except IndexFault (SearchIndex κ) :=
  match target with
  | none => .error (.noTarget name)
  | some target => (SearchItem.make name target.url target .name).map index.addItem

/-- Declare the aliases of an object. -/
def addAliases (index : SearchIndex κ) (target : Target κ) : Except IndexFault (SearchIndex κ) :=
  target.aliases.map fun items => { index with items := index.items ++ items }

/-- Declare the aliases of several objects, in their order. -/
def addAll (index : SearchIndex κ) (targets : List (Target κ)) :
    Except IndexFault (SearchIndex κ) :=
  targets.foldlM addAliases index

/-- Let the search go on to a child. -/
def addChild (index : SearchIndex κ) (child : Child κ) : SearchIndex κ :=
  { index with children := index.children ++ [child] }

/-- Let the search go on to several children, in their order. -/
def addChildren (index : SearchIndex κ) (children : List (Child κ)) : SearchIndex κ :=
  { index with children := index.children ++ children }

end SearchIndex

end Wayfinder.Search
