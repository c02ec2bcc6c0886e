import Wayfinder.Search.Index

/-!
# Catalogues of containers

A catalogue holds everything a search may come across: finitely many containers, what opening each of
them gives, and the indices that were made beforehand. Containment may be cyclic, a container may be
a child of several others, and several containers may hand out one shared index.
-/

namespace Wayfinder.Search

/-- What opening a container gives: an index made on the spot, one made beforehand, or a failure. -/
inductive Opening (κ : Type) where
  | fresh (index : SearchIndex κ)
  | shared (id : Nat)
  | failed (fault : IndexFault)

namespace Opening

variable {κ : Type}

/-- The outcome of making an index on the spot. -/
def ofExcept : Except IndexFault (SearchIndex κ) → Opening κ
  | .ok index => .fresh index
  | .error fault => .failed fault

end Opening

/-- All containers, what they show, and the indices made beforehand. -/
structure Catalog (κ : Type) where
  containers : List κ
  opening : κ → Opening κ
  shared : List (SearchIndex κ) := []

/-- Which index a search stands at: the one it started from, one made by opening a container on the
way, or one made beforehand. -/
inductive IndexId (κ : Type) where
  | start
  | opened (key : κ)
  | shared (id : Nat)
  deriving DecidableEq, Repr

/-- An index a search stands at. -/
structure Visit (κ : Type) where
  id : IndexId κ
  index : SearchIndex κ

namespace Catalog

variable {κ : Type}

/-- Every child that leads anywhere. -/
def children (catalog : Catalog κ) : List (Child κ) :=
  catalog.containers.map Child.container ++ (List.range catalog.shared.length).map Child.index

theorem container_mem_children {catalog : Catalog κ} {key : κ} (known : key ∈ catalog.containers) :
    Child.container key ∈ catalog.children := by
  simp [children, known]

theorem index_mem_children {catalog : Catalog κ} {id : Nat} {index : SearchIndex κ}
    (known : catalog.shared[id]? = some index) : Child.index id ∈ catalog.children := by
  have bound := (List.getElem?_eq_some_iff.mp known).1
  simp [children, bound]

end Catalog

end Wayfinder.Search
