import Wayfinder.Search.Walk
import Wayfinder.Text.Fold
import Wayfinder.Traced

/-!
# Exact search

An exact search looks for an alias that equals the query. Over the whole walk a name is preferred to
a display name; among aliases of one kind the index visited first is preferred, and in an index the
item declared first. The whole walk is made before anything is compared, so the trace of a search does
not depend on the query.
-/

namespace Wayfinder.Search

variable {κ : Type}

/-- A text as it is compared: as it is, or folded. -/
def comparable (caseSensitive : Bool) (text : String) : String :=
  if caseSensitive then text else Text.fold text

/-- Whether an item has the given kind and its alias equals the query. -/
def SearchItem.equals (item : SearchItem κ) (kind : AliasKind) (caseSensitive : Bool)
    (query : String) : Bool :=
  decide (item.kind = kind ∧ comparable caseSensitive item.name = comparable caseSensitive query)

/-- The first item that equals the query: a name if any does, else a display name. -/
def firstEqual (caseSensitive : Bool) (query : String) (items : List (SearchItem κ)) :
    Option (SearchItem κ) :=
  (items.find? fun item => item.equals .name caseSensitive query) <|>
    (items.find? fun item => item.equals .displayName caseSensitive query)

namespace Catalog

variable [DecidableEq κ]

/-- Open a container to start a search from the index it gives. -/
def openStart (catalog : Catalog κ) (key : κ) : Traced (Event κ) IndexFault (Visit κ) :=
  ⟨[.opened key],
    match catalog.opening key with
    | .fresh index => .ok ⟨.start, index⟩
    | .shared id => .ok ⟨.shared id, catalog.shared[id]?.getD {}⟩
    | .failed fault => .error fault⟩

/-- Start a search from an index made beforehand. -/
def sharedStart (catalog : Catalog κ) (id : Nat) : Visit κ :=
  ⟨.shared id, catalog.shared[id]?.getD {}⟩

/-- All indices of the walk from `start`, in order. -/
def indices (catalog : Catalog κ) (start : Visit κ) :
    Traced (Event κ) IndexFault (List (SearchIndex κ)) :=
  let trail := catalog.walk start
  ⟨trail.events,
    match trail.fault with
    | none => .ok trail.indices
    | some fault => .error fault⟩

/-- The item that a query names exactly. -/
def find (catalog : Catalog κ) (start : Visit κ) (query : String) (caseSensitive : Bool) :
    Traced (Event κ) IndexFault (Option (SearchItem κ)) := do
  let indices ← catalog.indices start
  return firstEqual caseSensitive query (indices.flatMap SearchIndex.items)

end Catalog

end Wayfinder.Search
