import Wayfinder.Search.Suggest

/-!
# Quick search

The entry points of the search. A query starts in `receiveQuery`, goes to `tryExact` and there to
`resolved`, or on to `trySuggest` and `suggestionsReturned`, or to `notFound`. `search` is exact only,
`lookup` falls back to suggestions, `suggest` goes straight to them.
-/

namespace Wayfinder.Search

/-- How a quick search compares and how much it lists. -/
structure QuickSearch where
  caseSensitive : Bool := true
  maxSuggestions : Option Int := none
  deriving DecidableEq, Repr

/-- How a quick search fails. -/
inductive SearchFault where
  | notFound
  | index (fault : IndexFault)
  deriving DecidableEq, Repr

namespace SearchFault

/-- The message; it never holds the query. -/
def message : SearchFault → String
  | .notFound => "No item matches the search query"
  | .index fault => fault.message

end SearchFault

/-- What a quick search comes to: one item, or a list to choose from. -/
inductive Outcome (κ : Type) where
  | resolved (item : SearchItem κ)
  | suggested (items : List (SearchItem κ))

namespace Outcome

variable {κ : Type}

/-- The state that an outcome ends in. -/
def state : Outcome κ → SearchState
  | .resolved _ => .resolved
  | .suggested _ => .suggestionsReturned

/-- The item that was resolved. -/
def item? : Outcome κ → Option (SearchItem κ)
  | .resolved item => some item
  | .suggested _ => none

/-- The items to choose from. -/
def suggestions : Outcome κ → List (SearchItem κ)
  | .resolved _ => []
  | .suggested items => items

end Outcome

namespace QuickSearch

variable {κ : Type}

/-- The limit in force: the smaller of the requested one and the configured one. -/
def limit (quick : QuickSearch) (requested : Option Int) : Option Int :=
  match requested, quick.maxSuggestions with
  | none, configured => configured
  | some bound, none => some bound
  | some bound, some configured => some (min bound configured)

/-- Enter a state. -/
def enter (state : SearchState) : Traced (Event κ) SearchFault Unit :=
  Traced.emit [.entered state]

/-- Report the item that a query names. -/
def resolve (item : SearchItem κ) : Traced (Event κ) SearchFault (Outcome κ) := do
  Traced.emit [.resolved item.url]
  enter .resolved
  return .resolved item

variable [DecidableEq κ]

/-- Receive a query and open the container to search. -/
def receive (catalog : Catalog κ) (root : κ) : Traced (Event κ) SearchFault (Visit κ) := do
  enter .receiveQuery
  (catalog.openStart root).mapError .index

/-- Try to resolve a query. -/
def tryExact (quick : QuickSearch) (catalog : Catalog κ) (start : Visit κ) (query : String) :
    Traced (Event κ) SearchFault (Option (SearchItem κ)) := do
  enter .tryExact
  (catalog.find start query quick.caseSensitive).mapError .index

/-- List suggestions for a query. -/
def trySuggest (quick : QuickSearch) (catalog : Catalog κ) (start : Visit κ) (query : String)
    (requested : Option Int) : Traced (Event κ) SearchFault (Outcome κ) := do
  enter .trySuggest
  let items ← (catalog.suggest start query (quick.limit requested)).mapError .index
  Traced.emit [.suggested items.length]
  enter .suggestionsReturned
  return .suggested items

/-- Resolve a query to one item, or fail. -/
def search (quick : QuickSearch) (catalog : Catalog κ) (root : κ) (query : String) :
    Traced (Event κ) SearchFault (Outcome κ) := do
  let start ← receive catalog root
  match ← quick.tryExact catalog start query with
  | some item => resolve item
  | none =>
    enter .notFound
    Traced.emit [.unmatched]
    Traced.fail .notFound

/-- Resolve a query, or list suggestions for it. -/
def lookup (quick : QuickSearch) (catalog : Catalog κ) (root : κ) (query : String)
    (requested : Option Int) : Traced (Event κ) SearchFault (Outcome κ) := do
  let start ← receive catalog root
  match ← quick.tryExact catalog start query with
  | some item => resolve item
  | none => quick.trySuggest catalog start query requested

/-- List suggestions for a query; an empty list is a valid outcome. -/
def suggest (quick : QuickSearch) (catalog : Catalog κ) (root : κ) (query : String)
    (requested : Option Int) : Traced (Event κ) SearchFault (Outcome κ) := do
  let start ← receive catalog root
  quick.trySuggest catalog start query requested

end QuickSearch

/-- One suggestion as the API answers it. -/
structure Suggestion where
  name : String
  url : String
  path : String
  deriving DecidableEq, Repr

/-- A lookup as the API answers it. -/
structure LookupAnswer where
  state : SearchState
  url : Option String
  suggestions : List Suggestion
  deriving DecidableEq, Repr

/-- An address below the base of the API. -/
def underBase (base url : String) : String :=
  base ++ "/" ++ url

/-- An item as a suggestion, its address below `base`. -/
def SearchItem.suggestion {κ : Type} (item : SearchItem κ) (base : String) : Suggestion :=
  ⟨item.name, underBase base item.url, item.path⟩

/-- An outcome as a lookup answer, its addresses below `base`. -/
def Outcome.answer {κ : Type} (outcome : Outcome κ) (base : String) : LookupAnswer :=
  ⟨outcome.state, outcome.item?.map fun item => underBase base item.url,
    outcome.suggestions.map fun item => item.suggestion base⟩

end Wayfinder.Search
