import Wayfinder.Search.Find

/-!
# Suggestions

Suggestions are the items whose folded alias contains the folded query, in the order of the walk. An
alias of an object is listed once, however often it is declared. A limit ends the search as soon as
that many suggestions are there; it is checked after one was added, so a limit below one still lets one
through. What the walk would have done afterwards does not happen then.
-/

namespace Wayfinder.Search

variable {κ : Type}

/-- Whether `part` occurs in `whole` without a gap. -/
def occursIn (part : List Char) : List Char → Bool
  | [] => part.isEmpty
  | c :: rest => part.isPrefixOf (c :: rest) || occursIn part rest

/-- Whether the alias of an item contains the query, without regard to case. -/
def SearchItem.contains (item : SearchItem κ) (query : String) : Bool :=
  occursIn (Text.fold query).toList (Text.fold item.name).toList

/-- Whether a list of suggestions is as long as a limit allows. -/
def isFull (limit : Option Int) (found : List (SearchItem κ)) : Bool :=
  match limit with
  | none => false
  | some bound => decide (bound ≤ found.length)

/-- Suggestions collected so far, and whether the limit was reached. -/
structure Collection (κ : Type) where
  found : List (SearchItem κ)
  full : Bool

variable [DecidableEq κ]

/-- Add the items of one index that match and are not listed yet, up to the limit. -/
def collect (query : String) (limit : Option Int) (found : List (SearchItem κ)) :
    List (SearchItem κ) → Collection κ
  | [] => ⟨found, false⟩
  | item :: rest =>
    if item.contains query && !found.any item.sameAlias then
      let longer := found ++ [item]
      if isFull limit longer then ⟨longer, true⟩ else collect query limit longer rest
    else collect query limit found rest

/-- Collect from one stop after another, up to the limit. `fault` is how the stops end. -/
def collectStops (query : String) (limit : Option Int) (fault : Option IndexFault)
    (found : List (SearchItem κ)) :
    List (Stop κ) → Traced (Event κ) IndexFault (List (SearchItem κ))
  | [] =>
    match fault with
    | none => Traced.ofExcept (.ok found)
    | some fault => Traced.fail fault
  | stop :: rest =>
    let collection := collect query limit found stop.visit.index.items
    if collection.full then Traced.ofExcept (.ok collection.found)
    else (Traced.emit stop.events).andThen fun _ =>
      collectStops query limit fault collection.found rest

/-- The suggestions for a query. -/
def Catalog.suggest (catalog : Catalog κ) (start : Visit κ) (query : String)
    (limit : Option Int) : Traced (Event κ) IndexFault (List (SearchItem κ)) :=
  let trail := catalog.walk start
  collectStops query limit trail.fault [] trail.stops

end Wayfinder.Search
