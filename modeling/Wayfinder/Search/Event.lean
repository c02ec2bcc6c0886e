import Wayfinder.LogLine
import Wayfinder.Search.Catalog

/-!
# What a search leaves behind

The events of a search in the order in which they happen: the states it passes, the containers it
opens and the ones it skips because they were met before. Most events are log lines. No event holds
the query.
-/

namespace Wayfinder.Search

/-- The states of a query. -/
inductive SearchState where
  | receiveQuery
  | tryExact
  | resolved
  | trySuggest
  | suggestionsReturned
  | notFound
  deriving DecidableEq, Repr

namespace SearchState

/-- The word that writes a state. -/
def word : SearchState → String
  | .receiveQuery => "receive_query"
  | .tryExact => "try_exact"
  | .resolved => "resolved"
  | .trySuggest => "try_suggest"
  | .suggestionsReturned => "suggestions_returned"
  | .notFound => "not_found"

end SearchState

/-- One observable step of a search. -/
inductive Event (κ : Type) where
  | entered (state : SearchState)
  | opened (key : κ)
  | skipped (child : Child κ)
  | resolved (url : String)
  | unmatched
  | suggested (count : Nat)
  deriving DecidableEq, Repr

namespace Event

variable {κ : Type}

/-- The log line of an event, with `describe` showing a child. Opening a container leaves none. -/
def logLine? (describe : Child κ → String) : Event κ → Option LogLine
  | .entered state => some ⟨.debug, "Quick search state -> " ++ state.word⟩
  | .opened _ => none
  | .skipped child => some ⟨.debug, "Skipping already visited container " ++ describe child⟩
  | .resolved url => some ⟨.info, "Quick search resolved to " ++ url⟩
  | .unmatched => some ⟨.info, "Quick search found no exact match"⟩
  | .suggested count => some ⟨.info, "Quick search returned " ++ toString count ++ " suggestion(s)"⟩

/-- The container that an event opens. -/
def opened? : Event κ → Option κ
  | .opened key => some key
  | _ => none

end Event

namespace Catalog

variable {κ : Type}

/-- A child as messages show it, with `describe` showing a container. -/
def describeChild (catalog : Catalog κ) (describe : κ → String) : Child κ → String
  | .container key => describe key
  | .index id => (catalog.shared[id]?.getD {}).describe

/-- The log lines of a list of events. -/
def logLines (catalog : Catalog κ) (describe : κ → String) (events : List (Event κ)) :
    List LogLine :=
  events.filterMap (Event.logLine? (catalog.describeChild describe))

end Catalog

end Wayfinder.Search
