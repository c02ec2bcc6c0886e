import Wayfinder.Proofs.Search.EntryPoints
import Wayfinder.Proofs.Search.Suggestions

/-!
# A limit only truncates

Up to its last suggestion a limited search does what the unlimited one does. It finds the same suggestions
in the same order and opens the same containers, and then it stops. So it may even end well where the
unlimited search goes on to a container that fails. The limit in force at a quick search is the smaller of
the two that may be given, and a smaller limit leaves a beginning of what a larger one leaves.
-/

namespace Wayfinder.Search

/-- Of two limits that may be given, the second allows whatever the first allows. -/
def NoLooser (smaller larger : Option Int) : Prop :=
  ∀ bound, larger = some bound → ∃ less, smaller = some less ∧ less ≤ bound

/-- The smaller one of the limits that are given. -/
def tighter (requested configured : Option Int) : Option Int :=
  (requested.toList ++ configured.toList).min?

theorem tighter_none (configured : Option Int) : tighter none configured = configured := by
  cases configured <;> rfl

theorem tighter_some_none (bound : Int) : tighter (some bound) none = some bound := rfl

theorem tighter_some_some (bound configured : Int) :
    tighter (some bound) (some configured) = some (min bound configured) := rfl

theorem QuickSearch.limit_eq_tighter (quick : QuickSearch) (requested : Option Int) :
    quick.limit requested = tighter requested quick.maxSuggestions := by
  obtain ⟨caseSensitive, configured⟩ := quick
  cases requested with
  | none => exact (tighter_none configured).symm
  | some bound => cases configured <;> rfl

theorem tighter_noLooser (requested configured : Option Int) :
    NoLooser (tighter requested configured) configured := by
  rintro configured rfl
  cases requested with
  | none => exact ⟨configured, tighter_none _, Int.le_refl _⟩
  | some bound => exact ⟨_, tighter_some_some bound configured, Int.min_le_right _ _⟩

/-- A looser request is no tighter under a configured limit either. -/
theorem NoLooser.tighter {smaller larger : Option Int} (noLooser : NoLooser smaller larger)
    (configured : Option Int) : NoLooser (tighter smaller configured) (tighter larger configured) := by
  cases larger with
  | none =>
      rw [tighter_none]
      exact tighter_noLooser smaller configured
  | some bound =>
      obtain ⟨less, rfl, le⟩ := noLooser bound rfl
      cases configured with
      | none =>
          rw [tighter_some_none, tighter_some_none]
          exact noLooser
      | some configured =>
          rw [tighter_some_some, tighter_some_some]
          rintro _ ⟨⟩
          exact ⟨_, rfl, by omega⟩

section Cut

variable {α : Type}

/-- A larger limit leaves more of a list. -/
theorem NoLooser.cut_begins {smaller larger : Option Int} (noLooser : NoLooser smaller larger)
    (entries : List α) : cut smaller entries <+: cut larger entries := by
  cases larger with
  | some bound =>
      obtain ⟨less, rfl, le⟩ := noLooser bound rfl
      exact List.take_prefix_take_left (by omega)
  | none =>
      cases smaller with
      | none => exact List.prefix_rfl
      | some less => exact List.take_prefix _ _

theorem NoLooser.length_cut_le {limit : Option Int} {bound : Int}
    (noLooser : NoLooser limit (some bound)) (positive : 0 < bound) (entries : List α) :
    (cut limit entries).length ≤ bound := by
  obtain ⟨less, rfl, le⟩ := noLooser bound rfl
  have length : (cut (some less) entries).length ≤ (max 1 less).toNat := List.length_take_le _ _
  omega

end Cut

variable {κ : Type} [DecidableEq κ]

/-- Up to its last suggestion, a limited collection emits what the unlimited one emits. -/
theorem collectStops_events_begin {query : String} {fault : Option IndexFault} {bound : Int}
    {found : List (SearchItem κ)} (short : found.length < (max 1 bound).toNat)
    (stops : List (Stop κ)) :
    (collectStops query (some bound) fault found stops).events <+:
      (collectStops query none fault found stops).events := by
  induction stops generalizing found with
  | nil => exact List.prefix_rfl
  | cons stop stops ih =>
      rw [collectStops, collectStops, collect_limited query short, full_collect]
      dsimp only
      split
      case isTrue => exact List.nil_prefix
      case isFalse more =>
        have few := Nat.lt_of_not_le fun long => more (decide_eq_true long)
        rw [List.take_of_length_le (Nat.le_of_lt few)]
        exact (List.prefix_append_right_inj _).mpr (ih few)

/-- A limited collection fails only where it goes on to the end of the stops. -/
theorem collectStops_failing {query : String} {fault : IndexFault} {bound : Int}
    {found entries : List (SearchItem κ)} {stops : List (Stop κ)}
    (short : found.length < (max 1 bound).toNat)
    (collected : (collectStops query none none found stops).result = .ok entries) :
    (collectStops query (some bound) (some fault) found stops).result =
      if (max 1 bound).toNat ≤ entries.length then .ok (entries.take (max 1 bound).toNat)
      else .error fault := by
  induction stops generalizing found with
  | nil =>
      cases collected
      exact (if_neg (Nat.not_le_of_lt short)).symm
  | cons stop stops ih =>
      rw [collectStops, full_collect] at collected
      rw [collectStops, collect_limited query short]
      dsimp only
      split
      case isTrue full =>
        have begins := prefix_collectStops collected
        have long := of_decide_eq_true full
        rw [if_pos (Nat.le_trans long begins.length_le), take_eq_of_begins begins long]
        rfl
      case isFalse more =>
        have few := Nat.lt_of_not_le fun long => more (decide_eq_true long)
        rw [List.take_of_length_le (Nat.le_of_lt few)]
        exact ih few collected

namespace Catalog

/-- What a limit does to the suggestions for a query. If a container fails, a limited search still gives
what was found before, provided that this is enough. -/
structure LimitTruncates (catalog : Catalog κ) (start : Visit κ) (query : String) : Prop where
  truncated : ∀ entries, (catalog.suggest start query none).result = .ok entries →
    ∀ bound, (catalog.suggest start query (some bound)).result =
      .ok (entries.take (max 1 bound).toNat)
  failed : ∀ fault, (catalog.suggest start query none).result = .error fault →
    (∃ key, catalog.opening key = .failed fault) ∧
    ∃ found : List (SearchItem κ), ∀ bound, (catalog.suggest start query (some bound)).result =
      if (max 1 bound).toNat ≤ found.length then .ok (found.take (max 1 bound).toNat)
      else .error fault
  opened : ∀ bound, openings (catalog.suggest start query (some bound)).events <+:
    openings (catalog.suggest start query none).events

theorem suggest_limitTruncates (catalog : Catalog κ) (start : Visit κ) (query : String) :
    catalog.LimitTruncates start query := by
  have empty (bound : Int) : ([] : List (SearchItem κ)).length < (max 1 bound).toNat := by
    rw [List.length_nil]
    omega
  constructor
  case truncated =>
    intro entries collected bound
    exact suggest_limited collected (some bound)
  case failed =>
    intro fault failed
    refine ⟨(catalog.suggest_isQuiet start query none).failed fault failed, ?_⟩
    cases ended : (catalog.walk start).fault with
    | none =>
        rw [suggest_unlimited ended query] at failed
        cases failed
    | some other =>
        rw [suggest_failed ended query] at failed
        cases failed
        obtain ⟨found, collected, -⟩ :=
          @collectStops_subset _ _ query none [] (catalog.walk start).stops
        refine ⟨found, fun bound => ?_⟩
        rw [suggest, ended]
        exact collectStops_failing (empty bound) collected
  case opened =>
    intro bound
    exact (collectStops_events_begin (empty bound) _).filterMap Event.opened?

/-- Whatever is found under a limit is the beginning of one list. -/
theorem exists_cut (catalog : Catalog κ) (start : Visit κ) (query : String) :
    ∃ entries, ∀ limit, (catalog.suggest start query limit).result = .ok (cut limit entries) ∨
      ∃ fault, (catalog.suggest start query limit).result = .error fault := by
  have truncates := catalog.suggest_limitTruncates start query
  cases unlimited : (catalog.suggest start query none).result with
  | ok entries => exact ⟨entries, fun limit => .inl (suggest_limited unlimited limit)⟩
  | error fault =>
      obtain ⟨-, found, limited⟩ := truncates.failed fault unlimited
      refine ⟨found, fun limit => ?_⟩
      cases limit with
      | none => exact .inr ⟨fault, unlimited⟩
      | some bound =>
          rw [limited bound]
          split
          · exact .inl rfl
          · exact .inr ⟨fault, rfl⟩

/-- All suggestions for a query to a container, in order. -/
def Lists (catalog : Catalog κ) (root : κ) (query : String) (entries : List (SearchItem κ)) : Prop :=
  ∃ visit, (catalog.openStart root).result = .ok visit ∧
    (catalog.suggest visit query none).result = .ok entries

end Catalog

namespace QuickSearch

variable {catalog : Catalog κ} {root : κ}

/-- Suggestions of a quick search are suggestions of its container, up to the limit in force. -/
theorem suggest_cases (quick : QuickSearch) (catalog : Catalog κ) (root : κ) (query : String) :
    ∃ entries, ∀ requested,
      (quick.suggest catalog root query requested).result =
        .ok (.suggested (cut (tighter requested quick.maxSuggestions) entries)) ∨
      ∃ fault, (quick.suggest catalog root query requested).result = .error (.index fault) := by
  cases opened : (catalog.openStart root).result with
  | error fault =>
      have received : (receive catalog root).result = .error (.index fault) :=
        result_mapError_of_error opened SearchFault.index
      exact ⟨[], fun requested => .inr ⟨fault, result_bind_of_error received _⟩⟩
  | ok visit =>
      obtain ⟨entries, under⟩ := catalog.exists_cut visit query
      refine ⟨entries, fun requested => ?_⟩
      rw [← quick.limit_eq_tighter]
      rcases under (quick.limit requested) with collected | ⟨fault, failed⟩
      · exact .inl (quick.suggest_result opened collected)
      · have tried : (quick.trySuggest catalog visit query requested).result =
            .error (.index fault) :=
          result_bind_of_error (result_mapError_of_error failed SearchFault.index) _
        refine .inr ⟨fault, ?_⟩
        rw [suggest, result_bind_of_ok (receive_result opened), tried]

/-- An outcome of a lookup is what the exact search finds, or else what `suggest` lists. -/
theorem lookup_cases (quick : QuickSearch) {query : String} {requested : Option Int}
    {outcome : Outcome κ} (looked : (quick.lookup catalog root query requested).result = .ok outcome) :
    ((quick.search catalog root query).result = .ok outcome ∧ ∃ item, outcome = .resolved item) ∨
    ((quick.search catalog root query).result = .error .notFound ∧
      (quick.suggest catalog root query requested).result = .ok outcome) := by
  cases quick.compared catalog root query requested with
  | resolved item searched same =>
      rw [same, searched] at looked
      cases looked
      exact .inl ⟨searched, item, rfl⟩
  | unmatched items searched looked' suggested =>
      rw [looked'] at looked
      cases looked
      exact .inr ⟨searched, suggested⟩
  | broken fault searched same =>
      rw [same, searched] at looked
      cases looked

/-- What the limits do to the suggestions of a quick search. -/
structure LimitsTruncate (quick : QuickSearch) (catalog : Catalog κ) (root : κ) (query : String) :
    Prop where
  listed : (∃ entries, catalog.Lists root query entries) ∨
    ∃ key fault, catalog.opening key = .failed fault
  suggested : ∀ entries, catalog.Lists root query entries → ∀ requested,
    (quick.suggest catalog root query requested).result =
      .ok (.suggested (cut (tighter requested quick.maxSuggestions) entries))
  fellBack : ∀ requested outcome, (quick.lookup catalog root query requested).result = .ok outcome →
    outcome.state ≠ .resolved → ∃ entries, catalog.Lists root query entries ∧
      outcome = .suggested (cut (tighter requested quick.maxSuggestions) entries)
  bounded : ∀ bound, quick.maxSuggestions = some bound → 0 < bound → ∀ requested outcome,
    (quick.suggest catalog root query requested).result = .ok outcome ∨
      (quick.lookup catalog root query requested).result = .ok outcome →
    outcome.suggestions.length ≤ bound
  extended : ∀ smaller larger, NoLooser smaller larger → ∀ short long,
    ((quick.suggest catalog root query smaller).result = .ok short ∧
        (quick.suggest catalog root query larger).result = .ok long ∨
      (quick.lookup catalog root query smaller).result = .ok short ∧
        (quick.lookup catalog root query larger).result = .ok long) →
    short.suggestions <+: long.suggestions

/-- An exact search that misses has gone through all there is. -/
theorem lists_of_missed (quick : QuickSearch) {query : String}
    (missed : (quick.search catalog root query).result = .error .notFound) :
    ∃ entries, catalog.Lists root query entries := by
  cases opened : (catalog.openStart root).result with
  | error fault =>
      have received : (receive catalog root).result = .error (.index fault) :=
        result_mapError_of_error opened SearchFault.index
      rw [search, result_bind_of_error received] at missed
      cases missed
  | ok visit =>
      cases ended : (catalog.walk visit).fault with
      | none => exact ⟨_, visit, opened, Catalog.suggest_unlimited ended query⟩
      | some fault =>
          have tried : (quick.tryExact catalog visit query).result = .error (.index fault) :=
            result_mapError_of_error (Catalog.find_error ended query quick.caseSensitive)
              SearchFault.index
          rw [search, result_bind_of_ok (receive_result opened), result_bind_of_error tried] at missed
          cases missed

/-- Where everything opens, there is a list of all suggestions. -/
theorem exists_lists (catalog : Catalog κ) (root : κ) (query : String) :
    (∃ entries, catalog.Lists root query entries) ∨ ∃ key fault, catalog.opening key = .failed fault := by
  cases opened : (catalog.openStart root).result with
  | error fault =>
      obtain ⟨key, failed⟩ := (catalog.openStart_isQuiet root).failed fault opened
      exact .inr ⟨key, fault, failed⟩
  | ok visit =>
      cases collected : (catalog.suggest visit query none).result with
      | ok entries => exact .inl ⟨entries, visit, opened, collected⟩
      | error fault =>
          obtain ⟨key, failed⟩ := (catalog.suggest_isQuiet visit query none).failed fault collected
          exact .inr ⟨key, fault, failed⟩

theorem limitsTruncate (quick : QuickSearch) (catalog : Catalog κ) (root : κ) (query : String) :
    quick.LimitsTruncate catalog root query := by
  obtain ⟨found, under⟩ := quick.suggest_cases catalog root query
  have only (requested : Option Int) (outcome : Outcome κ)
      (ended : (quick.suggest catalog root query requested).result = .ok outcome) :
      outcome = .suggested (cut (tighter requested quick.maxSuggestions) found) := by
    rcases under requested with same | ⟨fault, failed⟩
    · exact (Except.ok.inj (same.symm.trans ended)).symm
    · rw [failed] at ended
      cases ended
  have suggested : ∀ entries, catalog.Lists root query entries → ∀ requested,
      (quick.suggest catalog root query requested).result =
        .ok (.suggested (cut (tighter requested quick.maxSuggestions) entries)) := by
    rintro entries ⟨visit, opened, collected⟩ requested
    rw [← quick.limit_eq_tighter]
    exact quick.suggest_result opened (Catalog.suggest_limited collected _)
  constructor
  case listed => exact exists_lists catalog root query
  case suggested => exact suggested
  case fellBack =>
    intro requested outcome looked unresolved
    rcases quick.lookup_cases looked with ⟨-, item, rfl⟩ | ⟨missed, same⟩
    · exact absurd rfl unresolved
    · obtain ⟨entries, lists⟩ := quick.lists_of_missed missed
      have listed := suggested entries lists requested
      exact ⟨entries, lists, Except.ok.inj (same.symm.trans listed)⟩
  case bounded =>
    intro bound configured positive requested outcome ended
    have few : (cut (tighter requested quick.maxSuggestions) found).length ≤ bound := by
      rw [configured]
      exact (tighter_noLooser requested (some bound)).length_cut_le positive found
    rcases ended with ended | looked
    · rwa [only requested outcome ended]
    · rcases quick.lookup_cases looked with ⟨-, item, rfl⟩ | ⟨-, same⟩
      · exact Int.le_of_lt positive
      · rwa [only requested outcome same]
  case extended =>
    intro smaller larger noLooser short long ended
    have longer := (noLooser.tighter quick.maxSuggestions).cut_begins found
    rcases ended with ⟨shortEnded, longEnded⟩ | ⟨shortLooked, longLooked⟩
    · rwa [only smaller short shortEnded, only larger long longEnded]
    · rcases quick.lookup_cases shortLooked with ⟨-, item, rfl⟩ | ⟨missed, shortEnded⟩
      · exact List.nil_prefix
      · rcases quick.lookup_cases longLooked with ⟨searched, -⟩ | ⟨-, longEnded⟩
        · rw [missed] at searched
          cases searched
        · rwa [only smaller short shortEnded, only larger long longEnded]

end QuickSearch

/-- Limits only truncate, in the search below an index and in a quick search. -/
theorem limits_truncate (catalog : Catalog κ) (query : String) :
    (∀ start, catalog.LimitTruncates start query) ∧
    ∀ (quick : QuickSearch) (root : κ), quick.LimitsTruncate catalog root query :=
  ⟨fun start => catalog.suggest_limitTruncates start query,
    fun quick root => quick.limitsTruncate catalog root query⟩

end Wayfinder.Search
