import Mathlib.Data.List.Chain
import Wayfinder.Proofs.Search.Resolution
import Wayfinder.Proofs.Search.Outcomes

/-!
# The states that a query passes

A query goes from `receiveQuery` to one of three terminal states. Looking for items enters no state, so
the states that the log shows are those that the entry points enter themselves, and each entry point is
a chain of parts that lead from one state to another. The three entry points make the same walk: they
differ only in what they do when no alias equals the query.
-/

namespace Wayfinder.Search

namespace SearchState

/-- Where a query goes on from a state. -/
def successors : SearchState → List SearchState
  | .receiveQuery => [.tryExact, .trySuggest]
  | .tryExact => [.resolved, .trySuggest, .notFound]
  | .trySuggest => [.suggestionsReturned]
  | .resolved | .suggestionsReturned | .notFound => []

/-- Nothing follows a terminal state. -/
def IsTerminal (state : SearchState) : Prop :=
  state.successors = []

/-- One state comes right after another. -/
def Precedes (state next : SearchState) : Prop :=
  next ∈ state.successors

instance (state next : SearchState) : Decidable (state.Precedes next) :=
  inferInstanceAs (Decidable (next ∈ state.successors))

/-- The log line of a state. -/
def line (state : SearchState) : LogLine :=
  ⟨.debug, "Quick search state -> " ++ state.word⟩

end SearchState

/-- Whether a log line reports a change of state. -/
def isTransition (line : LogLine) : Bool :=
  decide (line.severity = .debug) && "Quick search state -> ".toList.isPrefixOf line.text.toList

variable {κ : Type}

/-- The state that an event enters. -/
def Event.entered? : Event κ → Option SearchState
  | .entered state => some state
  | _ => none

/-- The states that a list of events enters, in order. -/
def states (events : List (Event κ)) : List SearchState :=
  events.filterMap Event.entered?

@[simp] theorem states_nil : states ([] : List (Event κ)) = [] := rfl

@[simp] theorem states_append (left right : List (Event κ)) :
    states (left ++ right) = states left ++ states right :=
  List.filterMap_append

@[simp] theorem states_entered (state : SearchState) (events : List (Event κ)) :
    states (.entered state :: events) = state :: states events := rfl

@[simp] theorem states_opened (key : κ) (events : List (Event κ)) :
    states (.opened key :: events) = states events := rfl

@[simp] theorem states_skipped (child : Child κ) (events : List (Event κ)) :
    states (.skipped child :: events) = states events := rfl

theorem isTransition_line (state : SearchState) : isTransition state.line = true := by
  simp [isTransition, SearchState.line, String.toList_append]

/-- A container that is skipped is reported by a line that no state has. -/
theorem isTransition_skipped (shown : String) :
    isTransition ⟨.debug, "Skipping already visited container " ++ shown⟩ = false := by
  simp [isTransition, String.toList_append, List.isPrefixOf]

/-- The line of an event reports a change of state if the event enters one. -/
theorem filter_logLine? (describe : Child κ → String) (event : Event κ) :
    (event.logLine? describe).filter isTransition = event.entered?.map SearchState.line := by
  cases event with
  | entered state => exact Option.filter_some_pos (isTransition_line state)
  | skipped child => exact Option.filter_some_neg (by simp [isTransition_skipped])
  | opened _ | resolved _ | unmatched | suggested _ => rfl

/-- The log shows the states that were entered, and their order. -/
theorem filter_logLines (catalog : Catalog κ) (describe : κ → String) (events : List (Event κ)) :
    (catalog.logLines describe events).filter isTransition = (states events).map SearchState.line := by
  simp only [Catalog.logLines, states, List.filter_filterMap, List.map_filterMap, filter_logLine?]

namespace Catalog

variable [DecidableEq κ]

/-- What looking for items leaves: no state is entered, and only a container that does not open ends
it. -/
structure Looks (catalog : Catalog κ) (events : List (Event κ)) (fault : Option IndexFault) :
    Prop where
  silent : states events = []
  failed : ∀ error, fault = some error → ∃ key, catalog.opening key = .failed error

theorem expand_looks (catalog : Catalog κ) (seen children : List (Child κ)) :
    catalog.Looks (catalog.expand seen children).events (catalog.expand seen children).fault := by
  fun_induction catalog.expand seen children with
  | case1 seen => exact ⟨rfl, by rintro _ ⟨⟩⟩
  | case5 seen rest key known fault failed fresh =>
      refine ⟨rfl, fun error same => ⟨key, ?_⟩⟩
      rw [failed, Option.some.inj same]
  | case3 seen rest id fresh unknown ih => exact ih
  | case10 seen rest key unknown fresh ih => exact ih
  | case2 | case4 | case6 | case7 | case8 | case9 =>
      rename_i ih
      exact ⟨by simpa using ih.silent, ih.failed⟩

theorem explore_looks (catalog : Catalog κ) (seen : List (Child κ)) (queue : List (Visit κ)) :
    (∀ stop ∈ (catalog.explore seen queue).stops, states stop.events = []) ∧
    ∀ error, (catalog.explore seen queue).fault = some error →
      ∃ key, catalog.opening key = .failed error := by
  fun_induction catalog.explore seen queue with
  | case1 seen => exact ⟨by rintro _ ⟨⟩, by rintro _ ⟨⟩⟩
  | case2 seen visit queue step fault failed =>
      have here := catalog.expand_looks seen visit.index.children
      exact ⟨by simpa using here.silent, fun error same => here.failed error (failed.trans same)⟩
  | case3 seen visit queue step whole trail ih =>
      have here := catalog.expand_looks seen visit.index.children
      refine ⟨fun stop member => ?_, ih.2⟩
      rcases List.mem_cons.mp member with rfl | later
      · exact here.silent
      · exact ih.1 stop later

/-- A computation that looks for items: it enters no state, and only a container that does not open
ends it. -/
structure IsQuiet {α : Type} (catalog : Catalog κ) (computation : Traced (Event κ) IndexFault α) :
    Prop where
  silent : states computation.events = []
  failed : ∀ error, computation.result = .error error → ∃ key, catalog.opening key = .failed error

omit [DecidableEq κ] in
theorem openStart_isQuiet (catalog : Catalog κ) (root : κ) : catalog.IsQuiet (catalog.openStart root) where
  silent := rfl
  failed error ended := by
    cases opening : catalog.opening root with
    | failed fault =>
        obtain rfl : fault = error := by simpa [openStart, opening] using ended
        exact ⟨root, opening⟩
    | fresh | shared => simp [openStart, opening] at ended

theorem find_isQuiet (catalog : Catalog κ) (start : Visit κ) (query : String) (caseSensitive : Bool) :
    catalog.IsQuiet (catalog.find start query caseSensitive) := by
  obtain ⟨silent, failed⟩ := catalog.explore_looks start.marks [start]
  have events : states (catalog.walk start).events = [] := by
    simpa [states, Trail.events, walk, List.filterMap_flatMap] using silent
  cases ended : (catalog.walk start).fault with
  | none => exact ⟨by simpa [find, indices, Traced.bind_eq, Traced.andThen, ended] using events,
      by simp [find_result ended]⟩
  | some fault =>
      refine ⟨by simpa [find, indices, Traced.bind_eq, Traced.andThen, ended] using events, ?_⟩
      intro error same
      rw [find_error ended] at same
      cases same
      exact failed fault ended

theorem collectStops_isQuiet {catalog : Catalog κ} {query : String} {limit : Option Int}
    {fault : Option IndexFault} {found : List (SearchItem κ)} {stops : List (Stop κ)}
    (silent : ∀ stop ∈ stops, states stop.events = [])
    (failed : ∀ error, fault = some error → ∃ key, catalog.opening key = .failed error) :
    catalog.IsQuiet (collectStops query limit fault found stops) := by
  induction stops generalizing found with
  | nil =>
      cases fault with
      | none => exact ⟨rfl, by rintro _ ⟨⟩⟩
      | some fault =>
          refine ⟨rfl, fun error same => ?_⟩
          cases same
          exact failed fault rfl
  | cons stop stops ih =>
      have rest := @ih (collect query limit found stop.visit.index.items).found
        fun other later => silent other (List.mem_cons_of_mem _ later)
      have here := silent stop List.mem_cons_self
      unfold collectStops
      dsimp only
      split
      · exact ⟨rfl, by rintro _ ⟨⟩⟩
      · exact ⟨by simpa [Traced.andThen, Traced.emit, here] using rest.silent, rest.failed⟩

theorem suggest_isQuiet (catalog : Catalog κ) (start : Visit κ) (query : String)
    (limit : Option Int) : catalog.IsQuiet (catalog.suggest start query limit) :=
  collectStops_isQuiet (catalog.explore_looks start.marks [start]).1
    (catalog.explore_looks start.marks [start]).2

end Catalog

/-- The state that a computation ends in, with `ends` for the state that a value stands for. A
container that does not open leaves a query where it was. -/
def endState? {α : Type} (ends : α → SearchState) : Except SearchFault α → Option SearchState
  | .ok value => some (ends value)
  | .error .notFound => some .notFound
  | .error (.index _) => none

/-- A part of a query: it goes from one state on to the state it ends in, and only `notFound` is missed
by. Nothing but a container that does not open breaks it off. -/
structure Leads {α : Type} (catalog : Catalog κ) (start : SearchState)
    (computation : Traced (Event κ) SearchFault α) (ends : α → SearchState) : Prop where
  chain : (start :: states computation.events).IsChain SearchState.Precedes
  last : ∀ state, endState? ends computation.result = some state →
    (start :: states computation.events).getLast? = some state
  missed : .notFound ∈ states computation.events → computation.result = .error .notFound
  failed : ∀ error, computation.result = .error (.index error) →
    ∃ key, catalog.opening key = .failed error

namespace Leads

variable {α β : Type} {catalog : Catalog κ} {start middle : SearchState}

/-- A part that ends in a value is followed by a part that goes on from the state it ends in. -/
theorem bind {first : Traced (Event κ) SearchFault α} {next : α → Traced (Event κ) SearchFault β}
    {ends : β → SearchState} (begins : Leads catalog start first fun _ => middle)
    (goesOn : ∀ value, first.result = .ok value → Leads catalog middle (next value) ends) :
    Leads catalog start (first >>= next) ends := by
  cases ended : first.result with
  | error error =>
      rw [Traced.bind_eq, Traced.andThen_of_error ended]
      refine ⟨begins.chain, fun state same => begins.last state ?_, fun member => ?_, ?_⟩
      · rw [ended]
        cases error <;> exact same
      · simpa [ended] using begins.missed member
      · intro fault same
        cases same
        exact begins.failed fault ended
  | ok value =>
      have rest := goesOn value ended
      have reached : (start :: states first.events).getLast? = some middle :=
        begins.last middle (by rw [ended]; rfl)
      rw [Traced.bind_eq, Traced.andThen_of_ok ended]
      constructor
      case chain =>
        obtain ⟨follows, after⟩ := List.isChain_cons.mp rest.chain
        rw [states_append, ← List.cons_append]
        refine List.isChain_append.mpr ⟨begins.chain, after, ?_⟩
        rintro state last
        rw [reached] at last
        cases last
        exact follows
      case last =>
        intro state same
        have last := rest.last state same
        rw [states_append, ← List.cons_append, List.getLast?_append]
        cases passed : (states (next value).events) with
        | nil => simpa [passed, reached] using last
        | cons first others => simpa [passed, List.getLast?_cons] using last
      case missed =>
        intro member
        rw [states_append, List.mem_append] at member
        rcases member with early | late
        · have missed := begins.missed early
          rw [ended] at missed
          cases missed
        · exact rest.missed late
      case failed => exact rest.failed

/-- Entering any state but `notFound`, which is entered on the way to an error only. -/
theorem enter {state : SearchState} (follows : start.Precedes state) (found : state ≠ .notFound) :
    Leads catalog start (QuickSearch.enter state) fun _ => state where
  chain := List.isChain_pair.mpr follows
  last _ same := by cases same; rfl
  missed member := absurd (List.mem_singleton.mp member).symm found
  failed _ same := by cases same

/-- An event that enters no state. -/
theorem emit {event : Event κ} (silent : event.entered? = none) :
    Leads catalog start (Traced.emit [event]) fun _ => start where
  chain := by simp [Traced.emit, states, silent]
  last _ same := by cases same; simp [Traced.emit, states, silent]
  missed member := by simp [Traced.emit, states, silent] at member
  failed _ same := by cases same

theorem done (value : α) (ends : α → SearchState) :
    Leads catalog (ends value) (pure value) ends where
  chain := List.isChain_singleton _
  last _ same := by cases same; rfl
  missed member := by cases member
  failed _ same := by cases same

/-- Looking for items leaves a query in its state. -/
theorem quiet {computation : Traced (Event κ) IndexFault α} (isQuiet : catalog.IsQuiet computation) :
    Leads catalog start (computation.mapError .index) fun _ => start where
  chain := by simp [Traced.mapError, isQuiet.silent]
  last state same := by
    cases ended : computation.result with
    | ok value =>
        simp only [Traced.mapError, ended, Except.mapError, endState?, Option.some.injEq] at same
        simp [Traced.mapError, isQuiet.silent, same]
    | error fault => simp [Traced.mapError, ended, Except.mapError, endState?] at same
  missed member := by simp [Traced.mapError, isQuiet.silent] at member
  failed error same := by
    apply isQuiet.failed error
    cases ended : computation.result with
    | ok value => simp [Traced.mapError, ended, Except.mapError] at same
    | error fault => simpa [Traced.mapError, ended, Except.mapError] using same

end Leads

namespace QuickSearch

variable [DecidableEq κ] {catalog : Catalog κ} {start : SearchState}

omit [DecidableEq κ] in
theorem resolve_leads (catalog : Catalog κ) (item : SearchItem κ) :
    Leads catalog .tryExact (resolve item) Outcome.state := by
  apply Leads.bind (Leads.emit rfl)
  intro _ _
  apply Leads.bind (Leads.enter (by decide) (by decide))
  intro _ _
  exact Leads.done (.resolved item) Outcome.state

theorem tryExact_leads (quick : QuickSearch) (visit : Visit κ) (query : String) :
    Leads catalog .receiveQuery (quick.tryExact catalog visit query) fun _ => .tryExact := by
  apply Leads.bind (Leads.enter (by decide) (by decide))
  intro _ _
  exact Leads.quiet (catalog.find_isQuiet visit query quick.caseSensitive)

theorem trySuggest_leads (quick : QuickSearch) (visit : Visit κ) (query : String)
    (requested : Option Int) (follows : start.Precedes .trySuggest) :
    Leads catalog start (quick.trySuggest catalog visit query requested) Outcome.state := by
  apply Leads.bind (Leads.enter follows (by decide))
  intro _ _
  apply Leads.bind (Leads.quiet (catalog.suggest_isQuiet visit query (quick.limit requested)))
  intro items _
  apply Leads.bind (Leads.emit rfl)
  intro _ _
  apply Leads.bind (Leads.enter (by decide) (by decide))
  intro _ _
  exact Leads.done (.suggested items) Outcome.state

end QuickSearch

/-- A whole call: it passes states of the graph from the first to a terminal one, and `notFound` exactly
when it ends in that error. -/
structure Passes (catalog : Catalog κ) (call : Traced (Event κ) SearchFault (Outcome κ)) : Prop where
  head : (states call.events).head? = some .receiveQuery
  chain : (states call.events).IsChain SearchState.Precedes
  last : ∀ state, endState? Outcome.state call.result = some state →
    (states call.events).getLast? = some state ∧ state.IsTerminal
  missed_iff : .notFound ∈ states call.events ↔ call.result = .error .notFound
  failed : ∀ error, call.result = .error (.index error) → ∃ key, catalog.opening key = .failed error

theorem endState?_isTerminal {result : Except SearchFault (Outcome κ)} {state : SearchState}
    (ended : endState? Outcome.state result = some state) : state.IsTerminal := by
  rcases result with (_ | _) | (_ | _) <;> cases ended <;> rfl

/-- What every entry point does: it receives the query, opens the container and goes on. -/
theorem receive_passes {catalog : Catalog κ} {root : κ}
    {next : Visit κ → Traced (Event κ) SearchFault (Outcome κ)}
    (goesOn : ∀ visit, Leads catalog .receiveQuery (next visit) Outcome.state) :
    Passes catalog (QuickSearch.receive catalog root >>= next) := by
  have opens : Leads catalog .receiveQuery ((catalog.openStart root).mapError .index >>= next)
      Outcome.state :=
    Leads.bind (Leads.quiet (catalog.openStart_isQuiet root)) fun visit _ => goesOn visit
  have events : states (QuickSearch.receive catalog root >>= next).events = .receiveQuery ::
      states ((catalog.openStart root).mapError .index >>= next).events := by
    rw [QuickSearch.receive, bind_bind]
    rfl
  have result : (QuickSearch.receive catalog root >>= next).result =
      ((catalog.openStart root).mapError .index >>= next).result := by
    rw [QuickSearch.receive, bind_bind]
    rfl
  constructor
  case head => rw [events]; rfl
  case chain => rw [events]; exact opens.chain
  case last =>
    intro state ended
    rw [events]
    exact ⟨opens.last state (result ▸ ended), endState?_isTerminal ended⟩
  case missed_iff =>
    rw [events, result]
    constructor
    · intro member
      exact opens.missed (by simpa using member)
    · intro missed
      exact List.mem_of_getLast? (opens.last .notFound (by rw [missed]; rfl))
  case failed => rw [result]; exact opens.failed

namespace QuickSearch

variable [DecidableEq κ] {catalog : Catalog κ} {root : κ}

theorem search_passes (quick : QuickSearch) (query : String) :
    Passes catalog (quick.search catalog root query) := by
  apply receive_passes
  intro visit
  apply Leads.bind (quick.tryExact_leads visit query)
  intro found _
  cases found with
  | some item => exact resolve_leads catalog item
  | none =>
      constructor
      case chain => exact List.isChain_pair.mpr (by decide)
      case last =>
        intro state ended
        cases ended
        rfl
      case missed => exact fun _ => rfl
      case failed => rintro _ ⟨⟩

theorem lookup_passes (quick : QuickSearch) (query : String) (requested : Option Int) :
    Passes catalog (quick.lookup catalog root query requested) := by
  apply receive_passes
  intro visit
  apply Leads.bind (quick.tryExact_leads visit query)
  intro found _
  cases found with
  | some item => exact resolve_leads catalog item
  | none => exact quick.trySuggest_leads visit query requested (by decide)

theorem suggest_passes (quick : QuickSearch) (query : String) (requested : Option Int) :
    Passes catalog (quick.suggest catalog root query requested) :=
  receive_passes fun visit => quick.trySuggest_leads visit query requested (by decide)

/-- Suggestions are an outcome even if there are none. -/
theorem suggest_result_ne (quick : QuickSearch) (catalog : Catalog κ) (root : κ) (query : String)
    (requested : Option Int) :
    (quick.suggest catalog root query requested).result ≠ .error .notFound := by
  cases opened : (catalog.openStart root).result with
  | error fault =>
      have received : (receive catalog root).result = .error (.index fault) :=
        result_mapError_of_error opened SearchFault.index
      rw [suggest, result_bind_of_error received]
      rintro ⟨⟩
  | ok visit =>
      cases collected : (catalog.suggest visit query (quick.limit requested)).result with
      | error fault =>
          have ended : (quick.trySuggest catalog visit query requested).result =
              .error (.index fault) :=
            result_bind_of_error (result_mapError_of_error collected SearchFault.index) _
          rw [suggest, result_bind_of_ok (receive_result opened), ended]
          rintro ⟨⟩
      | ok items =>
          rw [quick.suggest_result opened collected]
          rintro ⟨⟩

/-- How an exact search and a lookup of one query end. They make the same steps until the search finds
no item; what the lookup comes to then is what `suggest` comes to. -/
inductive Compared (quick : QuickSearch) (catalog : Catalog κ) (root : κ) (query : String)
    (requested : Option Int) : Prop where
  | resolved (item : SearchItem κ)
      (searched : (quick.search catalog root query).result = .ok (.resolved item))
      (same : quick.lookup catalog root query requested = quick.search catalog root query)
  | unmatched (items : List (SearchItem κ))
      (searched : (quick.search catalog root query).result = .error .notFound)
      (looked : (quick.lookup catalog root query requested).result = .ok (.suggested items))
      (suggested : (quick.suggest catalog root query requested).result = .ok (.suggested items))
  | broken (fault : IndexFault)
      (searched : (quick.search catalog root query).result = .error (.index fault))
      (same : quick.lookup catalog root query requested = quick.search catalog root query)

/-- A lookup that does not get past the exact search is an exact search. -/
theorem lookup_eq_search (quick : QuickSearch) {query : String} {requested : Option Int}
    (exact : ∀ visit, (receive catalog root).result = .ok visit →
      (quick.tryExact catalog visit query).result ≠ .ok none) :
    quick.lookup catalog root query requested = quick.search catalog root query := by
  apply traced_bind_congr
  intro visit received
  apply traced_bind_congr
  intro found tried
  cases found with
  | some _ => rfl
  | none => exact absurd tried (exact visit received)

theorem compared (quick : QuickSearch) (catalog : Catalog κ) (root : κ) (query : String)
    (requested : Option Int) : Compared quick catalog root query requested := by
  cases opened : (catalog.openStart root).result with
  | error fault =>
      have received : (receive catalog root).result = .error (.index fault) :=
        result_mapError_of_error opened SearchFault.index
      apply Compared.broken fault (result_bind_of_error received _)
      apply quick.lookup_eq_search
      intro visit ended
      rw [received] at ended
      cases ended
  | ok visit =>
      have received := receive_result opened
      have tries {found : Except SearchFault (Option (SearchItem κ))}
          (tried : (quick.tryExact catalog visit query).result = found) (notMissed : found ≠ .ok none) :
          quick.lookup catalog root query requested = quick.search catalog root query := by
        apply quick.lookup_eq_search
        intro other ended
        rw [received] at ended
        cases ended
        rwa [tried]
      cases ended : (catalog.walk visit).fault with
      | some fault =>
          have tried : (quick.tryExact catalog visit query).result = .error (.index fault) :=
            result_mapError_of_error (Catalog.find_error ended query quick.caseSensitive)
              SearchFault.index
          refine Compared.broken fault ?_ (tries tried (by simp))
          rw [search, result_bind_of_ok received, result_bind_of_error tried]
      | none =>
          have compared := Catalog.find_result ended query quick.caseSensitive
          obtain ⟨items, collected, -⟩ :=
            Catalog.suggest_subset ended query (quick.limit requested)
          cases found : firstEqual quick.caseSensitive query (catalog.walk visit).items with
          | some item =>
              rw [found] at compared
              exact Compared.resolved item (quick.search_result opened compared)
                (tries (quick.tryExact_result compared) (by simp))
          | none =>
              rw [found] at compared
              exact Compared.unmatched items (quick.search_result opened compared)
                (quick.lookup_result opened compared collected)
                (quick.suggest_result opened collected)

end QuickSearch

/-- An outcome has an item exactly when it is resolved, and then nothing to choose from. The answer made
of it has an address in that case only. -/
structure Outcome.IsWellFormed (outcome : Outcome κ) : Prop where
  item_iff : outcome.state = .resolved ↔ outcome.item?.isSome
  suggestions : outcome.item?.isSome → outcome.suggestions = []
  url_iff : ∀ base, (outcome.answer base).url = none ↔ (outcome.answer base).state ≠ .resolved

theorem Outcome.isWellFormed (outcome : Outcome κ) : outcome.IsWellFormed := by
  cases outcome with
  | resolved item =>
      exact ⟨by simp [state, item?], fun _ => rfl, by simp [answer, state, item?]⟩
  | suggested items =>
      exact ⟨by simp [state, item?], by simp [item?], by simp [answer, state, item?]⟩

variable [DecidableEq κ]

/-- A call of one of the entry points. -/
inductive Call where
  | search
  | lookup (requested : Option Int)
  | suggest (requested : Option Int)

/-- Make a call for a query. -/
def Call.make (call : Call) (quick : QuickSearch) (catalog : Catalog κ) (root : κ) (query : String) :
    Traced (Event κ) SearchFault (Outcome κ) :=
  match call with
  | .search => quick.search catalog root query
  | .lookup requested => quick.lookup catalog root query requested
  | .suggest requested => quick.suggest catalog root query requested

theorem Call.make_passes (call : Call) (quick : QuickSearch) (catalog : Catalog κ) (root : κ)
    (query : String) : Passes catalog (call.make quick catalog root query) := by
  cases call with
  | search => exact quick.search_passes query
  | lookup requested => exact quick.lookup_passes query requested
  | suggest requested => exact quick.suggest_passes query requested

/-- What a call logs and comes to. Its changes of state are a path of the graph from the first state to
the one it ends in, and it breaks off nowhere unless a container does not open. -/
structure IsDocumented (catalog : Catalog κ) (describe : κ → String)
    (call : Traced (Event κ) SearchFault (Outcome κ)) : Prop where
  wellFormed : ∀ outcome, call.result = .ok outcome → outcome.IsWellFormed
  ended : (∃ state, endState? Outcome.state call.result = some state) ∨
    ∃ key fault, catalog.opening key = .failed fault ∧ call.result = .error (.index fault)
  logged : ∃ path : List SearchState,
    (catalog.logLines describe call.events).filter isTransition = path.map SearchState.line ∧
    path.head? = some .receiveQuery ∧ path.IsChain SearchState.Precedes ∧
    (∀ state, endState? Outcome.state call.result = some state →
      path.getLast? = some state ∧ state.IsTerminal) ∧
    (.notFound ∈ path ↔ call.result = .error .notFound)

omit [DecidableEq κ] in
theorem Passes.isDocumented {catalog : Catalog κ} {call : Traced (Event κ) SearchFault (Outcome κ)}
    (passes : Passes catalog call) (describe : κ → String) : IsDocumented catalog describe call where
  wellFormed outcome _ := outcome.isWellFormed
  ended := by
    cases ended : call.result with
    | ok outcome => exact .inl ⟨outcome.state, rfl⟩
    | error error =>
        cases error with
        | notFound => exact .inl ⟨.notFound, rfl⟩
        | index fault =>
            obtain ⟨key, failed⟩ := passes.failed fault ended
            exact .inr ⟨key, fault, failed, rfl⟩
  logged := ⟨states call.events, filter_logLines catalog describe call.events, passes.head,
    passes.chain, passes.last, passes.missed_iff⟩

/-- How the entry points agree on a query. -/
structure EntryPointsAgree (quick : QuickSearch) (catalog : Catalog κ) (root : κ) (query : String)
    (requested : Option Int) : Prop where
  missed_iff : (quick.search catalog root query).result = .error .notFound ↔
    ∃ outcome, (quick.lookup catalog root query requested).result = .ok outcome ∧
      outcome.state ≠ .resolved
  unresolved_iff : (∀ key fault, catalog.opening key ≠ .failed fault) →
    ((quick.search catalog root query).result = .error .notFound ↔
      ¬∃ outcome, (quick.lookup catalog root query requested).result = .ok outcome ∧
        outcome.state = .resolved)
  found : ∀ outcome, (quick.search catalog root query).result = .ok outcome →
    quick.lookup catalog root query requested = quick.search catalog root query
  fellBack : (quick.search catalog root query).result = .error .notFound →
    ∃ outcome, (quick.lookup catalog root query requested).result = .ok outcome ∧
      (quick.suggest catalog root query requested).result = .ok outcome
  broken_iff : ∀ fault, (quick.search catalog root query).result = .error (.index fault) ↔
    (quick.lookup catalog root query requested).result = .error (.index fault)
  searchOnly : (quick.lookup catalog root query requested).result ≠ .error .notFound ∧
    (quick.suggest catalog root query requested).result ≠ .error .notFound

theorem QuickSearch.agree (quick : QuickSearch) (catalog : Catalog κ) (root : κ) (query : String)
    (requested : Option Int) : EntryPointsAgree quick catalog root query requested := by
  have unbroken (sound : ∀ key fault, catalog.opening key ≠ .failed fault) (fault : IndexFault) :
      (quick.search catalog root query).result ≠ .error (.index fault) := by
    intro broken
    obtain ⟨key, failed⟩ := (quick.search_passes query).failed fault broken
    exact sound key fault failed
  have offered := quick.suggest_result_ne catalog root query requested
  cases quick.compared catalog root query requested with
  | resolved item searched same =>
      constructor
      case missed_iff => simp [same, searched, Outcome.state]
      case unresolved_iff => simp [same, searched, Outcome.state]
      case found => exact fun _ _ => same
      case fellBack => simp [searched]
      case broken_iff => simp [same]
      case searchOnly => exact ⟨by simp [same, searched], offered⟩
  | unmatched items searched looked suggested =>
      constructor
      case missed_iff => simp [searched, looked, Outcome.state]
      case unresolved_iff => simp [searched, looked, Outcome.state]
      case found => simp [searched]
      case fellBack => exact fun _ => ⟨.suggested items, looked, suggested⟩
      case broken_iff => simp [searched, looked]
      case searchOnly => exact ⟨by simp [looked], offered⟩
  | broken fault searched same =>
      constructor
      case missed_iff => simp [same, searched]
      case unresolved_iff => exact fun sound => absurd searched (unbroken sound fault)
      case found => exact fun _ _ => same
      case fellBack => simp [searched]
      case broken_iff => simp [same]
      case searchOnly => exact ⟨by simp [same, searched], offered⟩

/-- The entry points agree on every query, and each call does what the graph of states says. -/
theorem entryPoints_agree (quick : QuickSearch) (catalog : Catalog κ) (describe : κ → String)
    (root : κ) (query : String) :
    (∀ requested, EntryPointsAgree quick catalog root query requested) ∧
    ∀ call : Call, IsDocumented catalog describe (call.make quick catalog root query) :=
  ⟨quick.agree catalog root query,
    fun call => (call.make_passes quick catalog root query).isDocumented describe⟩

end Wayfinder.Search
