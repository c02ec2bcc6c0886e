import Mathlib.Data.PFun
import Wayfinder.Storage.Descendants

/-!
# The loop over generations

Before a deletion the table is asked for the children of one generation after another. Here that is the loop
that it is: round after round as long as the last one found anything new. Nothing else bounds it, and the
table may list the children of a generation in any order.
-/

namespace Wayfinder.Storage

/-- The identifiers of the rows whose parent is in `generation`, in the order of the rows. -/
def childIds (rows : List ItemRow) (generation : List Int) : List Int :=
  (rows.filter fun row => row.parentId.any fun parent => generation.contains parent).map ItemRow.id

/-- Where a collection is: what it has collected, and the generation that it asks for next. -/
structure Collecting where
  collected : List Int
  generation : List Int

namespace Collecting

/-- A collection after one round, where `ask` lists the children of a generation. -/
def next (ask : List Int → List Int) (collecting : Collecting) : Collecting :=
  let fresh := (ask collecting.generation).filter fun id => !collecting.collected.contains id
  ⟨collecting.collected ++ fresh, fresh⟩

/-- One round, unless there is nothing left to ask for. -/
def round (ask : List Int → List Int) : Collecting →. List Int ⊕ Collecting :=
  fun collecting => .some <|
    if collecting.generation = [] then .inl collecting.collected else .inr (collecting.next ask)

end Collecting

/-- Collect an item and everything below it. -/
def collectBelow? (ask : List Int → List Int) (root : Int) : Part (List Int) :=
  (Collecting.round ask).fix ⟨[root], [root]⟩

end Wayfinder.Storage
