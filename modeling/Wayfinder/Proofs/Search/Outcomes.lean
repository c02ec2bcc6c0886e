import Wayfinder.Proofs.Outcome
import Wayfinder.Search.QuickSearch

/-!
# What a quick search comes to

The outcomes of the three entry points, said by what the exact search finds and what the suggestions
are. Suggestions are items of the walk, whatever the limit.
-/

namespace Wayfinder.Search

variable {κ : Type} [DecidableEq κ]

/-- What is collected was found before or is one of the items gone through, in their order. -/
theorem collect_sublist {query : String} {limit : Option Int} {found items : List (SearchItem κ)} :
    (collect query limit found items).found.Sublist (found ++ items) := by
  induction items generalizing found with
  | nil => simp [collect]
  | cons item items ih =>
      unfold collect
      split
      case isTrue =>
        have longer : found ++ [item] ++ items = found ++ item :: items := by simp
        dsimp only
        split
        · rw [← longer]
          exact List.sublist_append_left _ _
        · rw [← longer]
          exact ih
      case isFalse => exact ih.trans ((List.sublist_cons_self item items).append_left found)

theorem collectStops_subset {query : String} {limit : Option Int} {found : List (SearchItem κ)}
    (stops : List (Stop κ)) : ∃ entries,
      (collectStops query limit none found stops).result = .ok entries ∧
      entries ⊆ found ++ stops.flatMap fun stop => stop.visit.index.items := by
  induction stops generalizing found with
  | nil => exact ⟨found, rfl, by simp⟩
  | cons stop stops ih =>
      have here := (@collect_sublist _ _ query limit found stop.visit.index.items).subset
      rw [List.flatMap_cons, ← List.append_assoc]
      unfold collectStops
      dsimp only
      split
      · exact ⟨_, rfl, List.Subset.trans here (List.subset_append_left _ _)⟩
      · obtain ⟨entries, collected, among⟩ :=
          @ih (collect query limit found stop.visit.index.items).found
        refine ⟨entries, collected, List.Subset.trans among fun entry member => ?_⟩
        rcases List.mem_append.mp member with old | new
        · exact List.mem_append_left _ (here old)
        · exact List.mem_append_right _ new

/-- Suggestions from a complete walk are items of the walk. -/
theorem Catalog.suggest_subset {catalog : Catalog κ} {start : Visit κ}
    (whole : (catalog.walk start).fault = none) (query : String) (limit : Option Int) :
    ∃ entries, (catalog.suggest start query limit).result = .ok entries ∧
      entries ⊆ (catalog.walk start).items := by
  obtain ⟨entries, collected, among⟩ :=
    @collectStops_subset _ _ query limit [] (catalog.walk start).stops
  refine ⟨entries, ?_, ?_⟩
  · rw [Catalog.suggest, whole]
    exact collected
  · simpa [Trail.items, Trail.indices, List.flatMap_map] using among

namespace QuickSearch

variable {catalog : Catalog κ} {root : κ} {start : Visit κ}

omit [DecidableEq κ] in
theorem receive_result (opened : (catalog.openStart root).result = .ok start) :
    (receive catalog root).result = .ok start := by
  have entered : (enter .receiveQuery : Traced (Event κ) SearchFault Unit).result = .ok () := rfl
  rw [receive, result_bind_of_ok entered]
  exact result_mapError_of_ok opened _

theorem tryExact_result (quick : QuickSearch) {query : String} {found : Option (SearchItem κ)}
    (compared : (catalog.find start query quick.caseSensitive).result = .ok found) :
    (quick.tryExact catalog start query).result = .ok found := by
  have entered : (enter .tryExact : Traced (Event κ) SearchFault Unit).result = .ok () := rfl
  rw [tryExact, result_bind_of_ok entered]
  exact result_mapError_of_ok compared _

theorem trySuggest_result (quick : QuickSearch) {query : String} {requested : Option Int}
    {entries : List (SearchItem κ)}
    (collected : (catalog.suggest start query (quick.limit requested)).result = .ok entries) :
    (quick.trySuggest catalog start query requested).result = .ok (.suggested entries) := by
  have entered : (enter .trySuggest : Traced (Event κ) SearchFault Unit).result = .ok () := rfl
  rw [trySuggest, result_bind_of_ok entered,
    result_bind_of_ok (result_mapError_of_ok collected SearchFault.index)]
  rfl

theorem search_result (quick : QuickSearch) {query : String} {found : Option (SearchItem κ)}
    (opened : (catalog.openStart root).result = .ok start)
    (compared : (catalog.find start query quick.caseSensitive).result = .ok found) :
    (quick.search catalog root query).result =
      match found with
      | some item => .ok (.resolved item)
      | none => .error .notFound := by
  rw [search, result_bind_of_ok (receive_result opened),
    result_bind_of_ok (quick.tryExact_result compared)]
  cases found <;> rfl

theorem lookup_result (quick : QuickSearch) {query : String} {found : Option (SearchItem κ)}
    {requested : Option Int} {entries : List (SearchItem κ)}
    (opened : (catalog.openStart root).result = .ok start)
    (compared : (catalog.find start query quick.caseSensitive).result = .ok found)
    (collected : (catalog.suggest start query (quick.limit requested)).result = .ok entries) :
    (quick.lookup catalog root query requested).result =
      match found with
      | some item => .ok (.resolved item)
      | none => .ok (.suggested entries) := by
  rw [lookup, result_bind_of_ok (receive_result opened),
    result_bind_of_ok (quick.tryExact_result compared)]
  cases found with
  | some item => rfl
  | none => exact quick.trySuggest_result collected

theorem suggest_result (quick : QuickSearch) {query : String} {requested : Option Int}
    {entries : List (SearchItem κ)} (opened : (catalog.openStart root).result = .ok start)
    (collected : (catalog.suggest start query (quick.limit requested)).result = .ok entries) :
    (quick.suggest catalog root query requested).result = .ok (.suggested entries) := by
  rw [suggest, result_bind_of_ok (receive_result opened)]
  exact quick.trySuggest_result collected

end QuickSearch

end Wayfinder.Search
