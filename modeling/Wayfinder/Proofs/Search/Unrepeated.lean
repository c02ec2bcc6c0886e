import Wayfinder.Search.Suggest

/-!
# Aliases without repetition

Suggestions without a limit are the matching aliases of a walk, each at its first occurrence. Leaving
out repetitions first and comparing with the query afterwards comes to the same, so what a walk offers
to search is one list that no query has a part in. An exact search finds the same in that list.
-/

namespace Wayfinder.Search

variable {κ : Type} [DecidableEq κ]

/-- Put each of a list of items behind those found so far, unless its alias is among them. -/
def unrepeated (found : List (SearchItem κ)) : List (SearchItem κ) → List (SearchItem κ)
  | [] => found
  | item :: rest =>
    if found.any item.sameAlias then unrepeated found rest else unrepeated (found ++ [item]) rest

theorem SearchItem.sameAlias_iff {left right : SearchItem κ} :
    left.sameAlias right = true ↔ left.target.key = right.target.key ∧ left.kind = right.kind ∧
      left.name = right.name := by
  simp [SearchItem.sameAlias]

@[simp] theorem SearchItem.sameAlias_self (item : SearchItem κ) : item.sameAlias item = true :=
  SearchItem.sameAlias_iff.mpr ⟨rfl, rfl, rfl⟩

theorem unrepeated_append (found left right : List (SearchItem κ)) :
    unrepeated found (left ++ right) = unrepeated (unrepeated found left) right := by
  induction left generalizing found with
  | nil => rfl
  | cons item left ih =>
      simp only [List.cons_append, unrepeated]
      split <;> exact ih _

/-- Items that are all listed already add nothing. -/
theorem unrepeated_of_listed {found items : List (SearchItem κ)}
    (listed : ∀ item ∈ items, item ∈ found) : unrepeated found items = found := by
  induction items with
  | nil => rfl
  | cons item items ih =>
      have met : found.any item.sameAlias = true :=
        List.any_eq_true.mpr ⟨item, listed item (by simp), item.sameAlias_self⟩
      rw [unrepeated, if_pos met]
      exact ih fun other member => listed other (by simp [member])

/-- Items of different aliases that are not listed yet are all added. -/
theorem unrepeated_of_new {found items : List (SearchItem κ)}
    (different : (found ++ items).Pairwise fun left right => left.sameAlias right = false) :
    unrepeated found items = found ++ items := by
  induction items generalizing found with
  | nil => simp [unrepeated]
  | cons item items ih =>
      have new : ¬found.any item.sameAlias = true := by
        rw [List.any_eq_true]
        rintro ⟨other, member, same⟩
        have apart := (List.pairwise_append.mp different).2.2 other member item (by simp)
        obtain ⟨key, kind, name⟩ := SearchItem.sameAlias_iff.mp same
        rw [SearchItem.sameAlias_iff.mpr ⟨key.symm, kind.symm, name.symm⟩] at apart
        cases apart
      rw [unrepeated, if_neg new, ih (by simpa using different)]
      simp

/-- Comparing with the query while leaving out repetitions, or afterwards, comes to the same. -/
theorem collect_unlimited (query : String) (found items : List (SearchItem κ)) :
    collect query none (found.filter fun item => item.contains query) items =
      ⟨(unrepeated found items).filter fun item => item.contains query, false⟩ := by
  induction items generalizing found with
  | nil => rfl
  | cons item items ih =>
      have met : (found.filter fun item => item.contains query).any item.sameAlias =
          (item.contains query && found.any item.sameAlias) ∨ item.contains query = false := by
        cases matching : item.contains query with
        | false => exact .inr rfl
        | true =>
            left
            rw [Bool.eq_iff_iff]
            simp only [List.any_eq_true, List.mem_filter, Bool.true_and]
            constructor
            · rintro ⟨other, ⟨member, -⟩, same⟩
              exact ⟨other, member, same⟩
            · rintro ⟨other, member, same⟩
              refine ⟨other, ⟨member, ?_⟩, same⟩
              have name := (SearchItem.sameAlias_iff.mp same).2.2
              simpa [SearchItem.contains, name] using matching
      cases matching : item.contains query with
      | false =>
          rw [collect, if_neg (by simp [matching]), unrepeated]
          split
          · exact ih found
          · simpa [matching] using ih (found ++ [item])
      | true =>
          simp only [matching, Bool.true_and, Bool.true_eq_false, or_false] at met
          rw [collect, matching, met, unrepeated]
          cases found.any item.sameAlias with
          | true => simpa using ih found
          | false => simpa [matching, isFull] using ih (found ++ [item])

theorem collectStops_unlimited (query : String) (found : List (SearchItem κ))
    (stops : List (Stop κ)) :
    (collectStops query none none (found.filter fun item => item.contains query) stops).result =
      .ok ((unrepeated found (stops.flatMap fun stop => stop.visit.index.items)).filter
        fun item => item.contains query) := by
  induction stops generalizing found with
  | nil => rfl
  | cons stop stops ih =>
      rw [collectStops, collect_unlimited]
      simp only [List.flatMap_cons, unrepeated_append]
      exact ih _

/-- Suggestions without a limit: the aliases of the walk that contain the query, without
repetition. -/
theorem Catalog.suggest_unlimited {catalog : Catalog κ} {start : Visit κ}
    (whole : (catalog.walk start).fault = none) (query : String) :
    (catalog.suggest start query none).result =
      .ok ((unrepeated [] (catalog.walk start).items).filter fun item => item.contains query) := by
  have collected := collectStops_unlimited query [] (catalog.walk start).stops
  simp only [Catalog.suggest, whole]
  simpa [Trail.items, Trail.indices, List.flatMap_map] using collected

/-- The first item that passes a test on its alias is the same with or without repetitions. -/
theorem find?_unrepeated {test : SearchItem κ → Bool}
    (alike : ∀ left right, SearchItem.sameAlias left right = true → test left = test right)
    (found items : List (SearchItem κ)) :
    (unrepeated found items).find? test = (found ++ items).find? test := by
  induction items generalizing found with
  | nil => simp [unrepeated]
  | cons item items ih =>
      rw [unrepeated]
      split
      case isFalse => simpa using ih (found ++ [item])
      case isTrue met =>
        obtain ⟨other, member, same⟩ := List.any_eq_true.mp met
        rw [ih, List.find?_append, List.find?_append, List.find?_cons]
        cases passes : test item with
        | false => rfl
        | true =>
            have there : (found.find? test).isSome := by
              refine List.find?_isSome.mpr ⟨other, member, ?_⟩
              rw [← alike item other same]
              exact passes
            obtain ⟨first, first?⟩ := Option.isSome_iff_exists.mp there
            rw [first?]
            rfl

theorem firstEqual_unrepeated (caseSensitive : Bool) (query : String)
    (items : List (SearchItem κ)) :
    firstEqual caseSensitive query (unrepeated [] items) = firstEqual caseSensitive query items := by
  have alike (kind : AliasKind) (left right : SearchItem κ) (same : left.sameAlias right = true) :
      left.equals kind caseSensitive query = right.equals kind caseSensitive query := by
    obtain ⟨-, kinds, names⟩ := SearchItem.sameAlias_iff.mp same
    simp [SearchItem.equals, kinds, names]
  simp only [firstEqual, find?_unrepeated (alike _), List.nil_append]

end Wayfinder.Search
