import Wayfinder.Proofs.Search.EntryPoints
import Wayfinder.Proofs.Search.Limits

/-!
# What a search gives away of its query

A search says which aliases its query named or which of them contain it, and nothing else. Two queries that
come to the same aliases pass the same states, skip the same containers and stop at the same place, also
under a limit: an alias that is listed contains both queries, so wherever one of them adds an alias the other
adds it too. And whatever a query is, what a search leaves behind is made of what the catalogue holds.
-/

namespace Wayfinder.Search

variable {κ : Type}

/-- What a caller can tell of how a call has ended: nothing if it failed, otherwise the state, and the aliases
of the item and of the suggestions. -/
def shown? (result : Except SearchFault (Outcome κ)) :
    Option (SearchState × Option String × List String) :=
  result.toOption.map fun outcome =>
    (outcome.state, outcome.item?.map SearchItem.name, outcome.suggestions.map SearchItem.name)

section Exact

variable {items : List (SearchItem κ)} {caseSensitive : Bool} {left right : String}

/-- Two queries that name items of one name are compared alike with every item. -/
theorem firstEqual_alike
    (alike : (firstEqual caseSensitive left items).map SearchItem.name =
      (firstEqual caseSensitive right items).map SearchItem.name) :
    firstEqual caseSensitive left items = firstEqual caseSensitive right items := by
  cases found : firstEqual caseSensitive left items with
  | none =>
      rw [found, Option.map_none, eq_comm, Option.map_eq_none_iff] at alike
      exact alike.symm
  | some item =>
      rw [found, Option.map_some, eq_comm, Option.map_eq_some_iff] at alike
      obtain ⟨other, found', name⟩ := alike
      have compared : comparable caseSensitive left = comparable caseSensitive right := by
        rw [← (mem_of_firstEqual found).2, ← (mem_of_firstEqual found').2, name]
      rw [← found]
      simp only [firstEqual, SearchItem.equals, compared]

end Exact

variable [DecidableEq κ]

section Collecting

variable {left right query : String} {limit : Option Int} {fault : Option IndexFault}
  {found items entries ones others : List (SearchItem κ)} {stops : List (Stop κ)}

/-- What is collected was there before or contains the query. -/
theorem contains_of_mem_collect {entry : SearchItem κ}
    (member : entry ∈ (collect query limit found items).found) :
    entry ∈ found ∨ entry.contains query = true := by
  induction items generalizing found with
  | nil => exact .inl member
  | cons item items ih =>
      have added (matching : item.contains query = true) (listed : entry ∈ found ++ [item]) :
          entry ∈ found ∨ entry.contains query = true := by
        rcases List.mem_append.mp listed with old | new
        · exact .inl old
        · rw [List.mem_singleton.mp new]
          exact .inr matching
      rw [collect] at member
      split at member
      case isFalse => exact ih member
      case isTrue chosen =>
        have matching := (Bool.and_eq_true_iff.mp chosen).1
        dsimp only at member
        split at member
        · exact added matching member
        · rcases ih member with listed | contained
          · exact added matching listed
          · exact .inr contained

theorem contains_of_mem_collectStops
    (collected : (collectStops query limit fault found stops).result = .ok entries)
    {entry : SearchItem κ} (member : entry ∈ entries) :
    entry ∈ found ∨ entry.contains query = true := by
  induction stops generalizing found with
  | nil =>
      cases fault <;> cases collected
      exact .inl member
  | cons stop stops ih =>
      rw [collectStops] at collected
      split at collected
      · cases collected
        exact contains_of_mem_collect member
      · rcases ih collected with listed | contained
        · exact contains_of_mem_collect listed
        · exact .inr contained

omit [DecidableEq κ] in
/-- An item with the name of one that contains a query contains it too. -/
theorem contains_of_name {item : SearchItem κ}
    (contained : ∀ entry ∈ entries, entry.contains query = true)
    (named : item.name ∈ entries.map SearchItem.name) : item.contains query = true := by
  obtain ⟨entry, member, name⟩ := List.mem_map.mp named
  have same : item.contains query = entry.contains query := by
    rw [SearchItem.contains, SearchItem.contains, name]
  rw [same]
  exact contained entry member

omit [DecidableEq κ] in
/-- Of lists with the same names, one for each query, every item contains both queries. -/
theorem contains_alike (names : ones.map SearchItem.name = others.map SearchItem.name)
    (first : ∀ item ∈ ones, item.contains left = true)
    (second : ∀ item ∈ others, item.contains right = true) (item : SearchItem κ)
    (listed : item ∈ ones ∨ item ∈ others) : item.contains left = item.contains right := by
  have named : item.name ∈ ones.map SearchItem.name := by
    rcases listed with one | other
    · exact List.mem_map_of_mem one
    · exact names ▸ List.mem_map_of_mem other
  rw [contains_of_name first named, contains_of_name second (names ▸ named)]

/-- The items of the next stop are collected as the result says. -/
theorem prefix_collect_stop {stop : Stop κ}
    (collected : (collectStops query limit fault found (stop :: stops)).result = .ok entries) :
    (collect query limit found stop.visit.index.items).found <+: entries := by
  rw [collectStops] at collected
  split at collected
  · cases collected
    exact List.prefix_rfl
  · exact prefix_collectStops collected

/-- An item that matches, and whose alias is not listed yet, is in the result. -/
theorem mem_of_collect {item : SearchItem κ} (matching : item.contains query = true)
    (unmet : found.any item.sameAlias = false)
    (begins : (collect query limit found (item :: items)).found <+: entries) : item ∈ entries := by
  have longer : found ++ [item] <+: (collect query limit found (item :: items)).found := by
    rw [collect, matching, unmet]
    simp only [Bool.not_false, Bool.and_self, if_true]
    split
    · exact List.prefix_rfl
    · exact prefix_collect query limit _ items
  exact (longer.trans begins).subset (by simp)

/-- Two queries that contain the same of what they come to choose alike from every item on the way. -/
theorem collect_alike
    (alike : ∀ item, item ∈ ones ∨ item ∈ others → item.contains left = item.contains right)
    (begins : (collect left limit found items).found <+: ones)
    (begins' : (collect right limit found items).found <+: others) :
    collect left limit found items = collect right limit found items := by
  induction items generalizing found with
  | nil => rfl
  | cons item items ih =>
      cases met : found.any item.sameAlias with
      | true =>
          simp only [collect, met, Bool.not_true, Bool.and_false, Bool.false_eq_true, if_false] at *
          exact ih begins begins'
      | false =>
          -- Whichever query adds the item, it is in a result then, and so it contains both.
          have same : item.contains left = item.contains right := by
            cases first : item.contains left with
            | true => rw [← first, alike item (.inl (mem_of_collect first met begins))]
            | false =>
                cases second : item.contains right with
                | false => rfl
                | true =>
                    rw [← first, ← second, alike item (.inr (mem_of_collect second met begins'))]
          cases matching : item.contains right with
          | false =>
              rw [matching] at same
              simp only [collect, same, matching, Bool.false_and, Bool.false_eq_true, if_false] at *
              exact ih begins begins'
          | true =>
              rw [matching] at same
              simp only [collect, same, matching, met, Bool.not_false, Bool.and_self, if_true] at *
              split
              case isTrue => rfl
              case isFalse more =>
                rw [if_neg more] at begins begins'
                exact ih begins begins'

/-- Two queries that contain the same of what they come to go through the stops alike, to the same one. -/
theorem collectStops_alike
    (alike : ∀ item, item ∈ ones ∨ item ∈ others → item.contains left = item.contains right)
    (collected : (collectStops left limit fault found stops).result = .ok ones)
    (collected' : (collectStops right limit fault found stops).result = .ok others) :
    collectStops left limit fault found stops = collectStops right limit fault found stops := by
  induction stops generalizing found with
  | nil => rfl
  | cons stop stops ih =>
      have same := collect_alike alike (prefix_collect_stop collected) (prefix_collect_stop collected')
      rw [collectStops] at collected collected'
      rw [collectStops, collectStops, same]
      rw [same] at collected
      split
      case isTrue => rfl
      case isFalse more =>
        rw [if_neg more] at collected collected'
        rw [ih collected collected']

/-- A collection that fails has gone through all stops, whatever the query was. -/
theorem collectStops_failed {error : IndexFault}
    (failed : (collectStops query limit fault found stops).result = .error error) :
    fault = some error ∧
      collectStops query limit fault found stops = ⟨stops.flatMap Stop.events, .error error⟩ := by
  induction stops generalizing found with
  | nil =>
      cases fault <;> cases failed
      exact ⟨rfl, rfl⟩
  | cons stop stops ih =>
      rw [collectStops] at failed ⊢
      split at failed
      case isTrue => cases failed
      case isFalse more =>
        obtain ⟨same, whole⟩ := ih failed
        rw [if_neg more, whole]
        exact ⟨same, rfl⟩

end Collecting

namespace Catalog

variable {catalog : Catalog κ} {start : Visit κ} {left right : String}

/-- An exact search as the whole walk and what the query names in it. -/
theorem find_eq (catalog : Catalog κ) (start : Visit κ) (query : String) (caseSensitive : Bool) :
    catalog.find start query caseSensitive = ⟨(catalog.walk start).events,
      match (catalog.walk start).fault with
      | none => .ok (firstEqual caseSensitive query (catalog.walk start).items)
      | some fault => .error fault⟩ := by
  cases ended : (catalog.walk start).fault <;>
    simp [find, indices, Traced.bind_eq, Traced.andThen, ended, Trail.items]

/-- Searches for suggestions that list aliases of the same names, or fail, are one. -/
theorem suggest_alike {limit : Option Int}
    (alike : (catalog.suggest start left limit).result.toOption.map (List.map SearchItem.name) =
      (catalog.suggest start right limit).result.toOption.map (List.map SearchItem.name)) :
    catalog.suggest start left limit = catalog.suggest start right limit := by
  cases ended : (catalog.suggest start left limit).result with
  | error fault =>
      cases ended' : (catalog.suggest start right limit).result with
      | ok others => simp [ended, ended', Except.toOption] at alike
      | error fault' =>
          obtain ⟨same, whole⟩ := collectStops_failed ended
          obtain ⟨same', whole'⟩ := collectStops_failed ended'
          rw [same, Option.some.injEq] at same'
          rw [suggest, suggest, whole, whole', same']
  | ok ones =>
      cases ended' : (catalog.suggest start right limit).result with
      | error fault => simp [ended, ended', Except.toOption] at alike
      | ok others =>
          simp only [ended, ended', Except.toOption, Option.map_some, Option.some.injEq] at alike
          have first : ∀ item ∈ ones, item.contains left = true := fun item member =>
            (contains_of_mem_collectStops ended member).resolve_left List.not_mem_nil
          have second : ∀ item ∈ others, item.contains right = true := fun item member =>
            (contains_of_mem_collectStops ended' member).resolve_left List.not_mem_nil
          exact collectStops_alike (contains_alike alike first second) ended ended'

end Catalog

namespace QuickSearch

variable {catalog : Catalog κ} {root : κ} {start : Visit κ} {left right : String}

/-- An exact search depends on the query only by the name that it finds in a complete walk. -/
theorem tryExact_alike (quick : QuickSearch)
    (alike : (catalog.walk start).fault = none →
      (firstEqual quick.caseSensitive left (catalog.walk start).items).map SearchItem.name =
        (firstEqual quick.caseSensitive right (catalog.walk start).items).map SearchItem.name) :
    quick.tryExact catalog start left = quick.tryExact catalog start right := by
  have found : catalog.find start left quick.caseSensitive =
      catalog.find start right quick.caseSensitive := by
    rw [Catalog.find_eq, Catalog.find_eq]
    cases ended : (catalog.walk start).fault with
    | some fault => rfl
    | none => simp only [firstEqual_alike (alike ended)]
  rw [tryExact, tryExact, found]

/-- What shows of the attempt to list suggestions is the names of the list. -/
theorem shown?_trySuggest (quick : QuickSearch) (catalog : Catalog κ) (start : Visit κ) (query : String)
    (requested : Option Int) : shown? (quick.trySuggest catalog start query requested).result =
      ((catalog.suggest start query (quick.limit requested)).result.toOption.map
        (List.map SearchItem.name)).map fun names => (.suggestionsReturned, none, names) := by
  cases collected : (catalog.suggest start query (quick.limit requested)).result with
  | ok items =>
      rw [quick.trySuggest_result collected]
      rfl
  | error fault =>
      have failed : (quick.trySuggest catalog start query requested).result = .error (.index fault) :=
        result_bind_of_error (result_mapError_of_error collected SearchFault.index) _
      rw [failed]
      rfl

theorem trySuggest_alike (quick : QuickSearch) {requested : Option Int}
    (alike : shown? (quick.trySuggest catalog start left requested).result =
      shown? (quick.trySuggest catalog start right requested).result) :
    quick.trySuggest catalog start left requested =
      quick.trySuggest catalog start right requested := by
  rw [shown?_trySuggest, shown?_trySuggest] at alike
  have names := Option.map_injective (by rintro _ _ ⟨⟩; rfl) alike
  rw [trySuggest, trySuggest, Catalog.suggest_alike names]

/-- A list of suggestions never shows as an item does. -/
theorem resolved_ne_trySuggest (quick : QuickSearch) (catalog : Catalog κ) (start : Visit κ)
    (query : String) (requested : Option Int) (name : Option String) (names : List String) :
    some (.resolved, name, names) ≠
      shown? (quick.trySuggest catalog start query requested).result := by
  rw [shown?_trySuggest, ne_comm]
  simp

theorem shown?_search (quick : QuickSearch) {query : String} {found : Option (SearchItem κ)}
    (received : (receive catalog root).result = .ok start)
    (tried : (quick.tryExact catalog start query).result = .ok found) :
    shown? (quick.search catalog root query).result =
      found.map fun item => (.resolved, some item.name, []) := by
  rw [search, result_bind_of_ok received, result_bind_of_ok tried]
  cases found <;> rfl

theorem shown?_lookup (quick : QuickSearch) {query : String} {requested : Option Int}
    {found : Option (SearchItem κ)} (received : (receive catalog root).result = .ok start)
    (tried : (quick.tryExact catalog start query).result = .ok found) :
    shown? (quick.lookup catalog root query requested).result =
      found.elim (shown? (quick.trySuggest catalog start query requested).result)
        fun item => some (.resolved, some item.name, []) := by
  rw [lookup, result_bind_of_ok received, result_bind_of_ok tried]
  cases found <;> rfl

theorem search_alike (quick : QuickSearch)
    (alike : shown? (quick.search catalog root left).result =
      shown? (quick.search catalog root right).result) :
    quick.search catalog root left = quick.search catalog root right := by
  apply traced_bind_congr
  intro start received
  have same : quick.tryExact catalog start left = quick.tryExact catalog start right := by
    apply quick.tryExact_alike
    intro whole
    have tried (query : String) :=
      quick.tryExact_result (Catalog.find_result whole query quick.caseSensitive)
    rw [quick.shown?_search received (tried left), quick.shown?_search received (tried right)] at alike
    revert alike
    cases firstEqual quick.caseSensitive left (catalog.walk start).items <;>
      cases firstEqual quick.caseSensitive right (catalog.walk start).items <;> simp
  rw [same]

theorem lookup_alike (quick : QuickSearch) {requested : Option Int}
    (alike : shown? (quick.lookup catalog root left requested).result =
      shown? (quick.lookup catalog root right requested).result) :
    quick.lookup catalog root left requested = quick.lookup catalog root right requested := by
  apply traced_bind_congr
  intro start received
  have same : quick.tryExact catalog start left = quick.tryExact catalog start right := by
    apply quick.tryExact_alike
    intro whole
    have tried (query : String) :=
      quick.tryExact_result (Catalog.find_result whole query quick.caseSensitive)
    rw [quick.shown?_lookup received (tried left), quick.shown?_lookup received (tried right)] at alike
    cases first : firstEqual quick.caseSensitive left (catalog.walk start).items <;>
      cases second : firstEqual quick.caseSensitive right (catalog.walk start).items <;>
      rw [first, second] at alike
    -- Where one query names an item and the other does not, the states differ.
    case none.some => exact (quick.resolved_ne_trySuggest _ _ _ _ _ _ alike.symm).elim
    case some.none => exact (quick.resolved_ne_trySuggest _ _ _ _ _ _ alike).elim
    case some.some => simpa using alike
  rw [same]
  apply traced_bind_congr
  intro found tried
  cases found with
  | some item => rfl
  | none =>
      apply quick.trySuggest_alike
      rwa [quick.shown?_lookup received (same ▸ tried), quick.shown?_lookup received tried] at alike

theorem suggest_alike (quick : QuickSearch) {requested : Option Int}
    (alike : shown? (quick.suggest catalog root left requested).result =
      shown? (quick.suggest catalog root right requested).result) :
    quick.suggest catalog root left requested = quick.suggest catalog root right requested := by
  apply traced_bind_congr
  intro start received
  apply quick.trySuggest_alike
  rwa [suggest, suggest, result_bind_of_ok received, result_bind_of_ok received] at alike

end QuickSearch

/-- Calls for two queries that show the same are one call: they log the same and end in the same. -/
theorem Call.make_alike (call : Call) {quick : QuickSearch} {catalog : Catalog κ} {root : κ}
    {left right : String} (alike : shown? (call.make quick catalog root left).result =
      shown? (call.make quick catalog root right).result) :
    call.make quick catalog root left = call.make quick catalog root right := by
  cases call with
  | search => exact quick.search_alike alike
  | lookup requested => exact quick.lookup_alike alike
  | suggest requested => exact quick.suggest_alike alike

/-- All states of a query. -/
def SearchState.all : List SearchState :=
  [.receiveQuery, .tryExact, .resolved, .trySuggest, .suggestionsReturned, .notFound]

theorem SearchState.mem_all (state : SearchState) : state ∈ SearchState.all := by
  cases state <;> decide

/-- What may be reported of a walk, whatever is looked for in it. -/
def Trail.foreseen (trail : Trail κ) : List (Event κ) :=
  trail.events ++ trail.items.map (fun item => .resolved item.url) ++
    (List.range (trail.items.length + 1)).map .suggested

/-- The walk that a call makes, unless its container does not open. -/
def Catalog.walkFrom (catalog : Catalog κ) (root : κ) : Trail κ :=
  match (catalog.openStart root).result with
  | .ok start => catalog.walk start
  | .error fault => ⟨[], some fault⟩

/-- What may be reported of a call before its query is known. -/
def Catalog.foreseen (catalog : Catalog κ) (root : κ) : List (Event κ) :=
  SearchState.all.map .entered ++ [.opened root, .unmatched] ++ (catalog.walkFrom root).foreseen

section Foreseen

variable {catalog : Catalog κ} {root : κ} {start : Visit κ}

theorem collectStops_sublist {query : String} {limit : Option Int} {fault : Option IndexFault}
    {found entries : List (SearchItem κ)} {stops : List (Stop κ)}
    (collected : (collectStops query limit fault found stops).result = .ok entries) :
    entries.Sublist (found ++ stops.flatMap fun stop => stop.visit.index.items) := by
  induction stops generalizing found with
  | nil =>
      cases fault <;> cases collected
      simp
  | cons stop stops ih =>
      have here := @collect_sublist _ _ query limit found stop.visit.index.items
      rw [List.flatMap_cons, ← List.append_assoc]
      rw [collectStops] at collected
      split at collected
      · cases collected
        exact here.trans (List.sublist_append_left _ _)
      · exact (ih collected).trans (here.append_right _)

theorem collectStops_events_subset {query : String} {limit : Option Int} {fault : Option IndexFault}
    {found : List (SearchItem κ)} (stops : List (Stop κ)) :
    (collectStops query limit fault found stops).events ⊆ stops.flatMap Stop.events := by
  induction stops generalizing found with
  | nil => cases fault <;> exact List.nil_subset _
  | cons stop stops ih =>
      rw [collectStops, List.flatMap_cons]
      split
      · exact List.nil_subset _
      · exact List.append_subset.mpr ⟨List.subset_append_left _ _,
          List.Subset.trans ih (List.subset_append_right _ _)⟩

theorem entered_mem_foreseen (catalog : Catalog κ) (root : κ) (state : SearchState) :
    .entered state ∈ catalog.foreseen root := by
  simp [Catalog.foreseen, state.mem_all]

theorem foreseen_subset (opened : (catalog.openStart root).result = .ok start) :
    (catalog.walk start).foreseen ⊆ catalog.foreseen root := by
  rw [Catalog.foreseen, Catalog.walkFrom, opened]
  exact List.subset_append_right _ _

namespace QuickSearch

theorem enter_foreseen (catalog : Catalog κ) (root : κ) (state : SearchState) :
    (enter state : Traced (Event κ) SearchFault Unit).events ⊆ catalog.foreseen root :=
  events_emit_subset (entered_mem_foreseen catalog root state)

theorem receive_foreseen (catalog : Catalog κ) (root : κ) :
    (receive catalog root).events ⊆ catalog.foreseen root := by
  apply events_bind_subset (enter_foreseen catalog root .receiveQuery)
  intro _ _
  exact List.cons_subset.mpr ⟨by simp [Catalog.foreseen], List.nil_subset _⟩

/-- An item that a query names is one of the walk. -/
theorem mem_of_tryExact (quick : QuickSearch) {query : String} {item : SearchItem κ}
    (tried : (quick.tryExact catalog start query).result = .ok (some item)) :
    item ∈ (catalog.walk start).items := by
  have compared : (catalog.find start query quick.caseSensitive).result = .ok (some item) :=
    result_mapError_eq_ok_iff.mp tried
  rw [Catalog.find_eq] at compared
  dsimp only at compared
  split at compared
  · exact (mem_of_firstEqual (Except.ok.inj compared)).1
  · cases compared

theorem tryExact_foreseen (quick : QuickSearch) (opened : (catalog.openStart root).result = .ok start)
    (query : String) : (quick.tryExact catalog start query).events ⊆ catalog.foreseen root := by
  apply events_bind_subset (enter_foreseen catalog root .tryExact)
  intro _ _
  refine List.Subset.trans ?_ (foreseen_subset opened)
  rw [Traced.mapError, Catalog.find_eq, Trail.foreseen, List.append_assoc]
  exact List.subset_append_left _ _

theorem resolve_foreseen (opened : (catalog.openStart root).result = .ok start) {item : SearchItem κ}
    (member : item ∈ (catalog.walk start).items) : (resolve item).events ⊆ catalog.foreseen root := by
  have reported : .resolved item.url ∈ (catalog.walk start).foreseen := by
    rw [Trail.foreseen, List.mem_append, List.mem_append]
    exact .inl (.inr (List.mem_map_of_mem member))
  apply events_bind_subset (events_emit_subset (foreseen_subset opened reported))
  intro _ _
  apply events_bind_subset (enter_foreseen catalog root .resolved)
  intro _ _
  exact List.nil_subset _

theorem trySuggest_foreseen (quick : QuickSearch) (opened : (catalog.openStart root).result = .ok start)
    (query : String) (requested : Option Int) :
    (quick.trySuggest catalog start query requested).events ⊆ catalog.foreseen root := by
  apply events_bind_subset (enter_foreseen catalog root .trySuggest)
  intro _ _
  have walked : ((catalog.suggest start query (quick.limit requested)).mapError
      SearchFault.index).events ⊆ (catalog.walk start).foreseen := by
    rw [Trail.foreseen, List.append_assoc]
    exact List.Subset.trans (collectStops_events_subset _) (List.subset_append_left _ _)
  apply events_bind_subset (List.Subset.trans walked (foreseen_subset opened))
  intro items listed
  have among : items.Sublist (catalog.walk start).items := by
    simpa [Trail.items, Trail.indices, List.flatMap_map] using
      collectStops_sublist (result_mapError_eq_ok_iff.mp listed)
  have reported : .suggested items.length ∈ (catalog.walk start).foreseen := by
    rw [Trail.foreseen, List.mem_append]
    exact .inr (List.mem_map_of_mem (List.mem_range.mpr (Nat.lt_succ_of_le among.length_le)))
  apply events_bind_subset (events_emit_subset (foreseen_subset opened reported))
  intro _ _
  apply events_bind_subset (enter_foreseen catalog root .suggestionsReturned)
  intro _ _
  exact List.nil_subset _

/-- A call goes on with the container it has opened. -/
theorem foreseen_of_receive {next : Visit κ → Traced (Event κ) SearchFault (Outcome κ)}
    (goesOn : ∀ start, (catalog.openStart root).result = .ok start →
      (next start).events ⊆ catalog.foreseen root) :
    (receive catalog root >>= next).events ⊆ catalog.foreseen root := by
  apply events_bind_subset (receive_foreseen catalog root)
  intro start received
  exact goesOn start (result_mapError_eq_ok_iff.mp received)

theorem search_foreseen (quick : QuickSearch) (query : String) :
    (quick.search catalog root query).events ⊆ catalog.foreseen root := by
  apply foreseen_of_receive
  intro start opened
  apply events_bind_subset (quick.tryExact_foreseen opened query)
  rintro (_ | item) tried
  · apply events_bind_subset (enter_foreseen catalog root .notFound)
    intro _ _
    apply events_bind_subset (events_emit_subset (by simp [Catalog.foreseen]))
    intro _ _
    exact List.nil_subset _
  · exact resolve_foreseen opened (quick.mem_of_tryExact tried)

theorem lookup_foreseen (quick : QuickSearch) (query : String) (requested : Option Int) :
    (quick.lookup catalog root query requested).events ⊆ catalog.foreseen root := by
  apply foreseen_of_receive
  intro start opened
  apply events_bind_subset (quick.tryExact_foreseen opened query)
  rintro (_ | item) tried
  · exact quick.trySuggest_foreseen opened query requested
  · exact resolve_foreseen opened (quick.mem_of_tryExact tried)

theorem suggest_foreseen (quick : QuickSearch) (query : String) (requested : Option Int) :
    (quick.suggest catalog root query requested).events ⊆ catalog.foreseen root :=
  foreseen_of_receive fun _ opened => quick.trySuggest_foreseen opened query requested

end QuickSearch

/-- Whatever its query is, a call reports what could be foreseen. -/
theorem Call.make_foreseen (call : Call) (quick : QuickSearch) (catalog : Catalog κ) (root : κ)
    (query : String) : (call.make quick catalog root query).events ⊆ catalog.foreseen root := by
  cases call with
  | search => exact quick.search_foreseen query
  | lookup requested => exact quick.lookup_foreseen query requested
  | suggest requested => exact quick.suggest_foreseen query requested

end Foreseen

/-- What a quick search gives away of a query: what shows of its outcome. Calls for queries that show the
same log the same lines and end in the same, and no line is there that the catalogue alone could not have
told. -/
structure QuickSearch.DisclosesOutcomeOnly (quick : QuickSearch) (catalog : Catalog κ) (root : κ) :
    Prop where
  alike : ∀ (call : Call) (left right : String),
    shown? (call.make quick catalog root left).result =
      shown? (call.make quick catalog root right).result →
    (∀ describe, catalog.logLines describe (call.make quick catalog root left).events =
      catalog.logLines describe (call.make quick catalog root right).events) ∧
    (call.make quick catalog root left).result = (call.make quick catalog root right).result
  foreseen : ∀ (call : Call) (query : String) describe,
    catalog.logLines describe (call.make quick catalog root query).events ⊆
      catalog.logLines describe (catalog.foreseen root)
  failed : ∀ (call : Call) (query : String) fault,
    (call.make quick catalog root query).result = .error fault →
    fault = .notFound ∨ ∃ key error, catalog.opening key = .failed error ∧ fault = .index error

theorem QuickSearch.disclosesOutcomeOnly (quick : QuickSearch) (catalog : Catalog κ) (root : κ) :
    quick.DisclosesOutcomeOnly catalog root where
  alike call left right shown := by
    rw [call.make_alike shown]
    exact ⟨fun _ => rfl, rfl⟩
  foreseen call query _ := List.filterMap_subset _ (call.make_foreseen quick catalog root query)
  failed call query fault ended := by
    cases fault with
    | notFound => exact .inl rfl
    | index error =>
        obtain ⟨key, failed⟩ := (call.make_passes quick catalog root query).failed error ended
        exact .inr ⟨key, error, failed, rfl⟩

end Wayfinder.Search
