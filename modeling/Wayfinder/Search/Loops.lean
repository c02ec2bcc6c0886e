import Mathlib.Data.PFun
import Wayfinder.Search.Suggest

/-!
# The loops of a search

A search opens containers as it goes, and opening one may take forever. Here a search is the loop that it
is: round after round over the visits to make, of which each may queue more. Nothing else bounds it. The
answer of a loop is a part that is there if the loop ends.
-/

namespace Wayfinder.Search.Catalog

variable {κ : Type} [DecidableEq κ]

/-- Whether going through a child ends: one that is to be opened must be one that opens. -/
def Passes (catalog : Catalog κ) (opens : κ → Prop) (seen : List (Child κ)) : Child κ → Prop
  | .index _ => True
  | .container key => .container key ∈ seen ∨ key ∉ catalog.containers ∨ opens key

/-- Go through the children of an index, one after another. -/
def expand? (catalog : Catalog κ) (opens : κ → Prop) (seen : List (Child κ)) :
    List (Child κ) → Part (Expansion κ)
  | [] => .some (.none seen)
  | child :: rest =>
    .assert (catalog.Passes opens seen child) fun _ =>
      let first := catalog.expand seen [child]
      if first.fault.isSome then .some first
      else (catalog.expand? opens first.seen rest).map fun others =>
        others.after first.events first.queued

/-- Where a walk is: the stops so far, the children met, and the visits to make. -/
structure Progress (κ : Type) where
  stops : List (Stop κ)
  seen : List (Child κ)
  queue : List (Visit κ)

/-- One round of a walk: the visit that is next. -/
def exploreNext (catalog : Catalog κ) (opens : κ → Prop) : Progress κ →. Trail κ ⊕ Progress κ :=
  fun progress => match progress.queue with
  | [] => .some (.inl ⟨progress.stops, none⟩)
  | visit :: queue => do
    let step ← catalog.expand? opens progress.seen visit.index.children
    let stops := progress.stops ++ [⟨visit, step.events⟩]
    match step.fault with
    | some fault => return .inl ⟨stops, some fault⟩
    | none => return .inr ⟨stops, step.seen, queue ++ step.queued⟩

/-- Make the queued visits one after another. -/
def explore? (catalog : Catalog κ) (opens : κ → Prop) (seen : List (Child κ)) (queue : List (Visit κ)) :
    Part (Trail κ) :=
  (catalog.exploreNext opens).fix ⟨[], seen, queue⟩

/-- Where a search for suggestions is: those found, the children met, and the visits to make. -/
structure Gathering (κ : Type) where
  found : List (SearchItem κ)
  seen : List (Child κ)
  queue : List (Visit κ)

/-- One round of a search for suggestions, which is the last if there are enough. -/
def suggestNext (catalog : Catalog κ) (opens : κ → Prop) (query : String) (limit : Option Int) :
    Gathering κ →. Except IndexFault (List (SearchItem κ)) ⊕ Gathering κ :=
  fun gathering => match gathering.queue with
  | [] => .some (.inl (.ok gathering.found))
  | visit :: queue =>
    let collection := collect query limit gathering.found visit.index.items
    if collection.full then .some (.inl (.ok collection.found))
    else do
      let step ← catalog.expand? opens gathering.seen visit.index.children
      match step.fault with
      | some fault => return .inl (.error fault)
      | none => return .inr ⟨collection.found, step.seen, queue ++ step.queued⟩

/-- Collect suggestions on the way. -/
def suggest? (catalog : Catalog κ) (opens : κ → Prop) (query : String) (limit : Option Int)
    (gathering : Gathering κ) : Part (Except IndexFault (List (SearchItem κ))) :=
  (catalog.suggestNext opens query limit).fix gathering

/-- Open a container and go on from its index. -/
def openFirst? {α : Type} (catalog : Catalog κ) (opens : κ → Prop) (key : κ)
    (next : Visit κ → Part (Except IndexFault α)) : Part (Except IndexFault α) :=
  .assert (opens key) fun _ =>
    match (catalog.openStart key).result with
    | .error fault => .some (.error fault)
    | .ok start => next start

/-- The item that a query names exactly, searched for from a container. -/
def findFrom? (catalog : Catalog κ) (opens : κ → Prop) (key : κ) (query : String)
    (caseSensitive : Bool) : Part (Except IndexFault (Option (SearchItem κ))) :=
  catalog.openFirst? opens key fun start =>
    (catalog.explore? opens start.marks [start]).map fun trail =>
      match trail.fault with
      | some fault => .error fault
      | none => .ok (firstEqual caseSensitive query trail.items)

/-- The suggestions for a query, collected from a container on. -/
def suggestFrom? (catalog : Catalog κ) (opens : κ → Prop) (key : κ) (query : String)
    (limit : Option Int) : Part (Except IndexFault (List (SearchItem κ))) :=
  catalog.openFirst? opens key fun start =>
    catalog.suggest? opens query limit ⟨[], start.marks, [start]⟩

end Wayfinder.Search.Catalog
