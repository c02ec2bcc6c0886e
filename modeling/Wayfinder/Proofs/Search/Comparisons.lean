import Mathlib.Data.List.Basic
import Wayfinder.Proofs.Search.Suggestions

/-!
# How searches compare

A query has no part in the walk, so all searches from one index look at the same items in the same order
and differ only in how they compare an alias with the query. Equal texts have equal folded forms, and the
folded form of a part of a text is a part of the folded form of the text, whatever lengths these have.
Therefore what is found exactly is suggested, a search without regard to case finds whenever one with
regard to case does, and a longer query leaves out suggestions without moving the others.
-/

namespace Wayfinder

namespace Text

/-- The folded form of a part of a text is a part of its folded form. -/
theorem fold_infix (front part behind : String) :
    (fold part).toList <:+: (fold (front ++ part ++ behind)).toList := by
  rw [fold_append, fold_append, String.toList_append, String.toList_append]
  exact List.infix_append _ _ _

end Text

namespace Search

variable {κ : Type}

theorem fold_eq_of_comparable {caseSensitive : Bool} {left right : String}
    (same : comparable caseSensitive left = comparable caseSensitive right) :
    Text.fold left = Text.fold right := by
  cases caseSensitive with
  | false => exact same
  | true => exact congrArg Text.fold same

namespace SearchItem

variable {item : SearchItem κ} {query : String}

theorem equals_insensitive {kind : AliasKind} (equal : item.equals kind true query = true) :
    item.equals kind false query = true := by
  obtain ⟨kinds, names⟩ := equals_iff.mp equal
  exact equals_iff.mpr ⟨kinds, fold_eq_of_comparable names⟩

/-- An alias that equals a query contains it. -/
theorem matches_of_equal {caseSensitive : Bool}
    (equal : comparable caseSensitive item.name = comparable caseSensitive query) :
    item.Matches query := by
  simp [Matches, fold_eq_of_comparable equal]

/-- An alias that the query is literally a part of contains it. -/
theorem matches_of_part {front behind : String} (parts : item.name = front ++ query ++ behind) :
    item.Matches query := by
  rw [Matches, parts]
  exact Text.fold_infix front query behind

/-- An alias that contains a query contains each part of the query. -/
theorem Matches.part {front behind : String} (longer : item.Matches (front ++ query ++ behind)) :
    item.Matches query :=
  (Text.fold_infix front query behind).trans longer

/-- Every alias contains the empty query. -/
theorem matches_empty (item : SearchItem κ) : item.Matches "" := by
  have parts : item.name = "" ++ "" ++ item.name := by simp
  exact matches_of_part parts

end SearchItem

theorem kind_of_find? {kind : AliasKind} {caseSensitive : Bool} {query : String}
    {items : List (SearchItem κ)} {item : SearchItem κ}
    (found : items.find? (fun item => item.equals kind caseSensitive query) = some item) :
    item.kind = kind := by
  have equal := List.find?_some found
  exact (SearchItem.equals_iff.mp equal).1

/-- A longer query leaves out entries and moves none. -/
theorem filter_contains_sublist (entries : List (SearchItem κ)) (front query behind : String) :
    (entries.filter fun item => item.contains (front ++ query ++ behind)).Sublist
      (entries.filter fun item => item.contains query) := by
  apply List.monotone_filter_right
  intro item longer
  exact SearchItem.contains_iff.mpr (SearchItem.contains_iff.mp longer).part

variable [DecidableEq κ]

/-- Which of two items a search prefers: a name comes before a display name, and of two items of one kind
the one that is declared first. -/
def Precedes (items : List (SearchItem κ)) (left right : SearchItem κ) : Prop :=
  (left.kind = .name ∧ right.kind = .displayName) ∨
    (left.kind = right.kind ∧ FirstBefore items left right)

/-- The first item of a kind that equals a query is declared behind none that does. So its alias is
declared at no place before. -/
theorem exists_firstAt_of_find? {kind : AliasKind} {caseSensitive : Bool} {query : String}
    {items : List (SearchItem κ)} {item : SearchItem κ}
    (found : items.find? (fun item => item.equals kind caseSensitive query) = some item) :
    ∃ place, FirstAt items place item ∧ ∀ earlier < place, ∀ other, items[earlier]? = some other →
      other.equals kind caseSensitive query = false := by
  obtain ⟨equal, place, bound, here, first⟩ := List.find?_eq_some_iff_getElem.mp found
  have unequal : ∀ earlier < place, ∀ other, items[earlier]? = some other →
      other.equals kind caseSensitive query = false := by
    intro earlier before other there
    obtain ⟨_, rfl⟩ := List.getElem?_eq_some_iff.mp there
    simpa using first earlier before
  refine ⟨place, ⟨List.getElem?_eq_some_iff.mpr ⟨bound, here⟩, ?_⟩, unequal⟩
  intro earlier before other there
  apply Bool.eq_false_iff.mpr
  intro same
  obtain ⟨-, kinds, names⟩ := SearchItem.sameAlias_iff.mp same
  have apart := unequal earlier before other there
  rw [SearchItem.equals, kinds, names] at apart
  rw [SearchItem.equals, apart] at equal
  cases equal

/-- Without regard to case the first item of a kind that equals a query is declared no later. -/
theorem exists_find?_insensitive {kind : AliasKind} {query : String} {items : List (SearchItem κ)}
    {item : SearchItem κ}
    (found : items.find? (fun item => item.equals kind true query) = some item) :
    ∃ other, items.find? (fun item => item.equals kind false query) = some other ∧
      (other = item ∨ Precedes items other item) := by
  have exactly := List.find?_some found
  have equal := SearchItem.equals_insensitive exactly
  have there : (items.find? fun item => item.equals kind false query).isSome :=
    List.find?_isSome.mpr ⟨item, List.mem_of_find?_eq_some found, equal⟩
  obtain ⟨other, found'⟩ := Option.isSome_iff_exists.mp there
  obtain ⟨far, first, -⟩ := exists_firstAt_of_find? found
  obtain ⟨near, first', unequal⟩ := exists_firstAt_of_find? found'
  refine ⟨other, found', ?_⟩
  rcases Nat.lt_trichotomy near far with less | rfl | more
  · have kinds : other.kind = item.kind := (kind_of_find? found').trans (kind_of_find? found).symm
    exact .inr (.inr ⟨kinds, near, far, less, first', first⟩)
  · exact .inl (Option.some.inj (first'.1.symm.trans first.1))
  · rw [unequal far more item first.1] at equal
    cases equal

/-- What is found with regard to case is found without, or something that is preferred to it. -/
theorem exists_firstEqual_insensitive {query : String} {items : List (SearchItem κ)}
    {item : SearchItem κ} (found : firstEqual true query items = some item) :
    ∃ other, firstEqual false query items = some other ∧
      (other = item ∨ Precedes items other item) := by
  simp only [firstEqual, Option.orElse_eq_orElse, Option.orElse_eq_or] at found ⊢
  rcases Option.or_eq_some_iff.mp found with named | ⟨-, displayed⟩
  · obtain ⟨other, named', order⟩ := exists_find?_insensitive named
    exact ⟨other, by rw [named', Option.some_or], order⟩
  · cases named' : items.find? (fun item => item.equals .name false query) with
    | some other => exact ⟨other, rfl, .inr (.inl ⟨kind_of_find? named', kind_of_find? displayed⟩)⟩
    | none => exact exists_find?_insensitive displayed

/-- Of entries whose aliases differ, exactly one has an alias that is listed. -/
theorem countP_sameAlias {entries : List (SearchItem κ)}
    (distinct : entries.Pairwise fun left right => left.sameAlias right = false)
    {item : SearchItem κ} (listed : ∃ entry ∈ entries, entry.sameAlias item = true) :
    entries.countP (fun entry => entry.sameAlias item) = 1 := by
  obtain ⟨entry, member, same⟩ := listed
  obtain ⟨before, behind, rfl⟩ := List.append_of_mem member
  obtain ⟨-, tail, front⟩ := List.pairwise_append.mp distinct
  have others : ∀ other, other ∈ before ∨ other ∈ behind → other.sameAlias item = false := by
    intro other either
    apply Bool.eq_false_iff.mpr
    intro again
    have alike := SearchItem.sameAlias_trans again (SearchItem.sameAlias_comm.mp same)
    rcases either with first | last
    · rw [front other first entry (by simp)] at alike
      cases alike
    · rw [SearchItem.sameAlias_comm, (List.pairwise_cons.mp tail).1 other last] at alike
      cases alike
  have nothing {rest : List (SearchItem κ)} (within : ∀ other ∈ rest, other.sameAlias item = false) :
      rest.countP (fun entry => entry.sameAlias item) = 0 :=
    List.countP_eq_zero.mpr fun other member => by simp [within other member]
  rw [List.countP_append, List.countP_cons, nothing fun other member => others other (.inl member),
    nothing fun other member => others other (.inr member), if_pos same]

namespace Catalog

variable {catalog : Catalog κ} {start : Visit κ}

/-- What the answers to a query have to do with each other: that of an exact search with regard to case,
that of one without, and the suggestions. -/
structure AnswersAgree (catalog : Catalog κ) (start : Visit κ) (query : String)
    (sensitive insensitive : Option (SearchItem κ)) (entries : List (SearchItem κ)) : Prop where
  suggested : ∀ item, sensitive = some item ∨ insensitive = some item →
    ∃ entry ∈ entries, entry.sameAlias item = true
  nothing : entries = [] → sensitive = none ∧ insensitive = none
  parts : ∀ item front behind, catalog.Offers start item → item.name = front ++ query ++ behind →
    ∃ entry ∈ entries, entry.sameAlias item = true
  preferred : ∀ item, sensitive = some item → ∃ other, insensitive = some other ∧
    (other = item ∨ Precedes (catalog.walk start).items other item)

/-- Without a limit, what an exact search finds in a walk is suggested. -/
theorem ListsMatches.suggests {query : String} {entries : List (SearchItem κ)}
    (lists : catalog.ListsMatches start query entries) (begins : start.Begins catalog)
    (whole : (catalog.walk start).fault = none) {caseSensitive : Bool} {item : SearchItem κ}
    (found : firstEqual caseSensitive query (catalog.walk start).items = some item) :
    ∃ entry ∈ entries, entry.sameAlias item = true := by
  obtain ⟨member, equal⟩ := mem_of_firstEqual found
  exact lists.complete item ((mem_items_iff_offers begins whole).mp member)
    (SearchItem.matches_of_equal equal)

theorem answersAgree_of_listsMatches {query : String} {entries : List (SearchItem κ)}
    (lists : catalog.ListsMatches start query entries) (begins : start.Begins catalog)
    (whole : (catalog.walk start).fault = none) :
    catalog.AnswersAgree start query (firstEqual true query (catalog.walk start).items)
      (firstEqual false query (catalog.walk start).items) entries where
  suggested item found := found.elim (lists.suggests begins whole) (lists.suggests begins whole)
  nothing empty := by
    have unfound (caseSensitive : Bool) :
        firstEqual caseSensitive query (catalog.walk start).items = none := by
      cases found : firstEqual caseSensitive query (catalog.walk start).items with
      | none => rfl
      | some item =>
          obtain ⟨entry, listed, -⟩ := lists.suggests begins whole found
          rw [empty] at listed
          cases listed
    exact ⟨unfound true, unfound false⟩
  parts item front behind offered split :=
    lists.complete item offered (SearchItem.matches_of_part split)
  preferred _ found := exists_firstEqual_insensitive found

/-- The answers to a query agree. Only a container that fails to make its index makes a search fail, and
then all of them. -/
theorem answers_agree (begins : start.Begins catalog) (query : String) :
    (∃ sensitive insensitive entries, (catalog.find start query true).result = .ok sensitive ∧
      (catalog.find start query false).result = .ok insensitive ∧
      (catalog.suggest start query none).result = .ok entries ∧
      catalog.AnswersAgree start query sensitive insensitive entries) ∨
    ((∃ key fault, catalog.Meets start key ∧ catalog.opening key = .failed fault) ∧
      ∃ fault, (catalog.find start query true).result = .error fault ∧
        (catalog.find start query false).result = .error fault ∧
        (catalog.suggest start query none).result = .error fault) := by
  cases ended : (catalog.walk start).fault with
  | some fault =>
      exact .inr ⟨exists_meets_failed begins ended, fault, find_error ended query true,
        find_error ended query false, suggest_failed ended query⟩
  | none =>
      have lists : catalog.ListsMatches start query _ :=
        listsMatches_of_listsFirsts begins ended (unrepeated_listsFirsts (catalog.walk start).items)
      exact .inl ⟨_, _, _, find_result ended query true, find_result ended query false,
        suggest_unlimited ended query, answersAgree_of_listsMatches lists begins ended⟩

theorem deepName_answers_agree : shallowDisplayName.Begins deepName ∧
    ((∃ sensitive insensitive entries,
      (deepName.find shallowDisplayName "CI" true).result = .ok sensitive ∧
      (deepName.find shallowDisplayName "CI" false).result = .ok insensitive ∧
      (deepName.suggest shallowDisplayName "CI" none).result = .ok entries ∧
      deepName.AnswersAgree shallowDisplayName "CI" sensitive insensitive entries) ∨
    ((∃ key fault, deepName.Meets shallowDisplayName key ∧ deepName.opening key = .failed fault) ∧
      ∃ fault, (deepName.find shallowDisplayName "CI" true).result = .error fault ∧
        (deepName.find shallowDisplayName "CI" false).result = .error fault ∧
        (deepName.suggest shallowDisplayName "CI" none).result = .error fault)) := by
  have begins : shallowDisplayName.Begins deepName := trivial
  exact ⟨begins, answers_agree begins "CI"⟩

/-- Every reachable alias is listed once, and nothing else is. -/
structure ListsOnce (catalog : Catalog κ) (start : Visit κ) (entries : List (SearchItem κ)) :
    Prop where
  sound : ∀ entry ∈ entries, catalog.Offers start entry
  once : ∀ item, catalog.Offers start item →
    entries.countP (fun entry => entry.sameAlias item) = 1

theorem ListsMatches.listsOnce {entries : List (SearchItem κ)}
    (lists : catalog.ListsMatches start "" entries) : catalog.ListsOnce start entries where
  sound entry listed := (lists.sound entry listed).1
  once item offered :=
    countP_sameAlias lists.distinct (lists.complete item offered item.matches_empty)

/-- A longer query only narrows the suggestions: they are a sublist of those for each part of the query,
and so of those for the empty query, which list every reachable alias once. -/
theorem suggest_narrows (begins : start.Begins catalog) :
    (∃ every, (catalog.suggest start "" none).result = .ok every ∧ catalog.ListsOnce start every ∧
      ∀ query, ∃ entries, (catalog.suggest start query none).result = .ok entries ∧
        entries.Sublist every ∧ ∀ front behind, ∃ fewer,
          (catalog.suggest start (front ++ query ++ behind) none).result = .ok fewer ∧
            fewer.Sublist entries) ∨
    ((∃ key fault, catalog.Meets start key ∧ catalog.opening key = .failed fault) ∧
      ∃ fault, ∀ query, (catalog.suggest start query none).result = .error fault) := by
  cases ended : (catalog.walk start).fault with
  | some fault =>
      exact .inr ⟨exists_meets_failed begins ended, fault, suggest_failed ended⟩
  | none =>
      have lists : catalog.ListsMatches start "" _ :=
        listsMatches_of_listsFirsts begins ended (unrepeated_listsFirsts (catalog.walk start).items)
      refine .inl ⟨_, suggest_unlimited ended "", lists.listsOnce, fun query => ?_⟩
      refine ⟨_, suggest_unlimited ended query, ?_, fun front behind => ?_⟩
      · simpa using filter_contains_sublist _ query "" ""
      · exact ⟨_, suggest_unlimited ended _, filter_contains_sublist _ front query behind⟩

theorem twinned_suggest_narrows : bothAliases.Begins twinned ∧
    ((∃ every, (twinned.suggest bothAliases "" none).result = .ok every ∧
      twinned.ListsOnce bothAliases every ∧
      ∀ query, ∃ entries, (twinned.suggest bothAliases query none).result = .ok entries ∧
        entries.Sublist every ∧ ∀ front behind, ∃ fewer,
          (twinned.suggest bothAliases (front ++ query ++ behind) none).result = .ok fewer ∧
            fewer.Sublist entries) ∨
    ((∃ key fault, twinned.Meets bothAliases key ∧ twinned.opening key = .failed fault) ∧
      ∃ fault, ∀ query, (twinned.suggest bothAliases query none).result = .error fault)) := by
  have begins : bothAliases.Begins twinned := trivial
  exact ⟨begins, suggest_narrows begins⟩

end Catalog

end Search

end Wayfinder
