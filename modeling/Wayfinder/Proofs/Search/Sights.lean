import Wayfinder.Proofs.Search.Outcomes

/-!
# What shows of an item

A client sees of an item its alias, the kind of the alias, the address and the path, and never the object
behind it. Whether an alias equals or contains a query shows, too. So lists of items that look alike are
searched alike, whatever objects they point at.
-/

namespace Wayfinder.Search

/-- What shows of an item. -/
structure Sight where
  name : String
  kind : AliasKind
  url : String
  path : String
  deriving DecidableEq, Repr

variable {κ μ : Type}

def SearchItem.sight (item : SearchItem κ) : Sight :=
  ⟨item.name, item.kind, item.url, item.path⟩

/-- Whether what shows is an alias of the given kind that equals the query. -/
def Sight.equals (sight : Sight) (kind : AliasKind) (caseSensitive : Bool) (query : String) : Bool :=
  decide (sight.kind = kind ∧ comparable caseSensitive sight.name = comparable caseSensitive query)

/-- Whether what shows is an alias that contains the query. -/
def Sight.contains (sight : Sight) (query : String) : Bool :=
  occursIn (Text.fold query).toList (Text.fold sight.name).toList

theorem SearchItem.equals_sight (item : SearchItem κ) (kind : AliasKind) (caseSensitive : Bool)
    (query : String) :
    item.equals kind caseSensitive query = item.sight.equals kind caseSensitive query := rfl

theorem SearchItem.contains_sight (item : SearchItem κ) (query : String) :
    item.contains query = item.sight.contains query := rfl

/-- What shows of the first item that equals the query is the first of what shows that does. -/
theorem firstEqual_sight {left : List (SearchItem κ)} {right : List (SearchItem μ)}
    (alike : left.map SearchItem.sight = right.map SearchItem.sight) (caseSensitive : Bool)
    (query : String) : (firstEqual caseSensitive query left).map SearchItem.sight =
      (firstEqual caseSensitive query right).map SearchItem.sight := by
  have first {ν : Type} (items : List (SearchItem ν)) (kind : AliasKind) :
      (items.find? fun item => item.equals kind caseSensitive query).map SearchItem.sight =
        (items.map SearchItem.sight).find? fun sight => sight.equals kind caseSensitive query := by
    simp only [SearchItem.equals_sight, List.find?_map, Function.comp_def]
  simp only [firstEqual, Option.orElse_eq_orElse, Option.orElse_eq_or, Option.map_or, first, alike]

theorem filter_contains_sight {left : List (SearchItem κ)} {right : List (SearchItem μ)}
    (alike : left.map SearchItem.sight = right.map SearchItem.sight) (query : String) :
    (left.filter fun item => item.contains query).map SearchItem.sight =
      (right.filter fun item => item.contains query).map SearchItem.sight := by
  have kept {ν : Type} (items : List (SearchItem ν)) :
      (items.filter fun item => item.contains query).map SearchItem.sight =
        (items.map SearchItem.sight).filter fun sight => sight.contains query := by
    simp only [SearchItem.contains_sight, List.filter_map, Function.comp_def]
  rw [kept, kept, alike]

/-- What shows of an outcome. -/
structure OutcomeSight where
  state : SearchState
  item? : Option Sight
  suggestions : List Sight
  deriving DecidableEq, Repr

def Outcome.sight (outcome : Outcome κ) : OutcomeSight :=
  ⟨outcome.state, outcome.item?.map SearchItem.sight, outcome.suggestions.map SearchItem.sight⟩

/-- What shows of an exact search that has found an item or has not, and of what it then comes to. -/
def settle (otherwise : Except SearchFault OutcomeSight) :
    Option Sight → Except SearchFault OutcomeSight
  | some sight => .ok ⟨.resolved, some sight, []⟩
  | none => otherwise

/-- The answer made of an outcome tells nothing but what shows. -/
theorem Outcome.answer_sight {left : Outcome κ} {right : Outcome μ} (alike : left.sight = right.sight)
    (base : String) : left.answer base = right.answer base := by
  have told {ν : Type} (outcome : Outcome ν) : outcome.answer base =
      ⟨outcome.sight.state, outcome.sight.item?.map fun sight => underBase base sight.url,
        outcome.sight.suggestions.map fun sight =>
          ⟨sight.name, underBase base sight.url, sight.path⟩⟩ := by
    rw [Outcome.answer, Outcome.sight, Option.map_map, List.map_map]
    rfl
  rw [told, told, alike]

end Wayfinder.Search
