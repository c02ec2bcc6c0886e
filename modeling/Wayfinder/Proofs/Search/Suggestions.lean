import Mathlib.Data.List.Induction
import Wayfinder.Proofs.Search.Limits
import Wayfinder.Proofs.Search.Resolution
import Wayfinder.Proofs.Search.Unrepeated

/-!
# What the suggestions for a query are

The suggestions without a limit are the reachable aliases that contain the query, each listed where the
walk first comes across it. So an alias of an object is listed once, however often it is declared and at
whatever address, and aliases of different objects or of different kinds are listed side by side.
-/

namespace Wayfinder.Search

variable {κ : Type}

theorem occursIn_iff {part whole : List Char} : occursIn part whole = true ↔ part <:+: whole := by
  induction whole with
  | nil => simp [occursIn]
  | cons c whole ih => simp [occursIn, ih, List.infix_cons_iff]

/-- The alias of an item contains a query, without regard to case. -/
def SearchItem.Matches (item : SearchItem κ) (query : String) : Prop :=
  (Text.fold query).toList <:+: (Text.fold item.name).toList

instance (item : SearchItem κ) (query : String) : Decidable (item.Matches query) :=
  inferInstanceAs (Decidable (_ <:+: _))

theorem SearchItem.contains_iff {item : SearchItem κ} {query : String} :
    item.contains query = true ↔ item.Matches query :=
  occursIn_iff

variable [DecidableEq κ]

theorem SearchItem.sameAlias_comm {left right : SearchItem κ} :
    left.sameAlias right = true ↔ right.sameAlias left = true := by
  simp only [SearchItem.sameAlias_iff]
  constructor <;> rintro ⟨key, kind, name⟩ <;> exact ⟨key.symm, kind.symm, name.symm⟩

theorem SearchItem.sameAlias_trans {first second third : SearchItem κ}
    (left : first.sameAlias second = true) (right : second.sameAlias third = true) :
    first.sameAlias third = true := by
  obtain ⟨key, kind, name⟩ := SearchItem.sameAlias_iff.mp left
  obtain ⟨key', kind', name'⟩ := SearchItem.sameAlias_iff.mp right
  exact SearchItem.sameAlias_iff.mpr ⟨key.trans key', kind.trans kind', name.trans name'⟩

/-- An item is declared at a place, and its alias at no place before. -/
def FirstAt (items : List (SearchItem κ)) (place : Nat) (item : SearchItem κ) : Prop :=
  items[place]? = some item ∧
    ∀ earlier < place, ∀ other, items[earlier]? = some other → other.sameAlias item = false

theorem FirstAt.append {items : List (SearchItem κ)} {place : Nat} {item : SearchItem κ}
    (first : FirstAt items place item) (more : List (SearchItem κ)) :
    FirstAt (items ++ more) place item := by
  obtain ⟨here, new⟩ := first
  have bound := (List.getElem?_eq_some_iff.mp here).1
  refine ⟨by rwa [List.getElem?_append_left bound], fun earlier before other there => ?_⟩
  rw [List.getElem?_append_left (Nat.lt_trans before bound)] at there
  exact new earlier before other there

theorem FirstAt.of_new {items : List (SearchItem κ)} {item : SearchItem κ}
    (new : ∀ other ∈ items, other.sameAlias item = false) :
    FirstAt (items ++ [item]) items.length item := by
  refine ⟨List.getElem?_concat_length, fun earlier before other there => ?_⟩
  rw [List.getElem?_append_left before] at there
  exact new other (List.mem_of_getElem? there)

/-- Of two items declared at two places, and their aliases at no places before, one comes first. -/
def FirstBefore (items : List (SearchItem κ)) (left right : SearchItem κ) : Prop :=
  ∃ near far, near < far ∧ FirstAt items near left ∧ FirstAt items far right

theorem FirstBefore.append {items : List (SearchItem κ)} {left right : SearchItem κ}
    (before : FirstBefore items left right) (more : List (SearchItem κ)) :
    FirstBefore (items ++ more) left right := by
  obtain ⟨near, far, less, leftFirst, rightFirst⟩ := before
  exact ⟨near, far, less, leftFirst.append more, rightFirst.append more⟩

/-- Every alias of a list of items, at its first occurrence and in the order of these. -/
structure ListsFirsts (items entries : List (SearchItem κ)) : Prop where
  complete : ∀ item ∈ items, ∃ entry ∈ entries, entry.sameAlias item = true
  distinct : entries.Pairwise fun left right => left.sameAlias right = false
  first : ∀ entry ∈ entries, ∃ place, FirstAt items place entry
  ordered : entries.Pairwise (FirstBefore items)

theorem ListsFirsts.nil : ListsFirsts ([] : List (SearchItem κ)) [] :=
  ⟨by simp, List.Pairwise.nil, by simp, List.Pairwise.nil⟩

/-- One more item, whose alias is listed already. -/
theorem ListsFirsts.skip {items entries : List (SearchItem κ)} (firsts : ListsFirsts items entries)
    {item : SearchItem κ} (listed : ∃ entry ∈ entries, entry.sameAlias item = true) :
    ListsFirsts (items ++ [item]) entries where
  complete other member := by
    rcases List.mem_append.mp member with old | latest
    · exact firsts.complete other old
    · rwa [List.mem_singleton.mp latest]
  distinct := firsts.distinct
  first entry member := by
    obtain ⟨place, first⟩ := firsts.first entry member
    exact ⟨place, first.append [item]⟩
  ordered := firsts.ordered.imp fun before => before.append [item]

/-- One more item, whose alias is not listed yet. -/
theorem ListsFirsts.add {items entries : List (SearchItem κ)} (firsts : ListsFirsts items entries)
    {item : SearchItem κ} (new : ∀ entry ∈ entries, entry.sameAlias item = false) :
    ListsFirsts (items ++ [item]) (entries ++ [item]) := by
  have unmet : ∀ other ∈ items, other.sameAlias item = false := by
    intro other member
    obtain ⟨entry, listed, same⟩ := firsts.complete other member
    have apart := new entry listed
    rw [Bool.eq_false_iff] at apart ⊢
    exact fun again => apart (SearchItem.sameAlias_trans same again)
  have last := FirstAt.of_new unmet
  constructor
  case complete =>
    intro other member
    rcases List.mem_append.mp member with old | latest
    · obtain ⟨entry, listed, same⟩ := firsts.complete other old
      exact ⟨entry, List.mem_append_left _ listed, same⟩
    · exact ⟨item, by simp, by simp [List.mem_singleton.mp latest]⟩
  case distinct =>
    refine List.pairwise_append.mpr ⟨firsts.distinct, List.pairwise_singleton _ _, ?_⟩
    intro entry member other latest
    rw [List.mem_singleton.mp latest]
    exact new entry member
  case first =>
    intro entry member
    rcases List.mem_append.mp member with old | latest
    · obtain ⟨place, first⟩ := firsts.first entry old
      exact ⟨place, first.append [item]⟩
    · rw [List.mem_singleton.mp latest]
      exact ⟨items.length, last⟩
  case ordered =>
    have kept := firsts.ordered.imp fun before => before.append [item]
    refine List.pairwise_append.mpr ⟨kept, List.pairwise_singleton _ _, ?_⟩
    intro entry member other latest
    rw [List.mem_singleton.mp latest]
    obtain ⟨place, first⟩ := firsts.first entry member
    have bound := (List.getElem?_eq_some_iff.mp first.1).1
    exact ⟨place, items.length, bound, first.append [item], last⟩

/-- Leaving out repetitions leaves the first occurrences. -/
theorem unrepeated_listsFirsts (items : List (SearchItem κ)) :
    ListsFirsts items (unrepeated [] items) := by
  induction items using List.reverseRecOn with
  | nil => exact ListsFirsts.nil
  | append_singleton items item ih =>
      rw [unrepeated_append, unrepeated]
      split
      case isTrue met =>
        obtain ⟨entry, listed, same⟩ := List.any_eq_true.mp met
        exact ih.skip ⟨entry, listed, SearchItem.sameAlias_comm.mp same⟩
      case isFalse unmet =>
        refine ih.add fun entry listed => ?_
        rw [Bool.eq_false_iff]
        exact fun same =>
          unmet (List.any_eq_true.mpr ⟨entry, listed, SearchItem.sameAlias_comm.mp same⟩)

namespace Catalog

/-- A reachable index declares an item. -/
def Offers (catalog : Catalog κ) (start : Visit κ) (item : SearchItem κ) : Prop :=
  ∃ visit, catalog.Reachable start visit ∧ item ∈ visit.index.items

theorem mem_items_iff_offers {catalog : Catalog κ} {start : Visit κ} (begins : start.Begins catalog)
    (whole : (catalog.walk start).fault = none) {item : SearchItem κ} :
    item ∈ (catalog.walk start).items ↔ catalog.Offers start item := by
  simp only [Trail.items_eq, List.mem_flatMap, walk_complete begins whole, Offers]

/-- What the suggestions for a query have to be: the reachable aliases that contain it, each at its first
occurrence in the order of the walk and of the declarations. -/
structure ListsMatches (catalog : Catalog κ) (start : Visit κ) (query : String)
    (entries : List (SearchItem κ)) : Prop where
  sound : ∀ entry ∈ entries, catalog.Offers start entry ∧ entry.Matches query
  complete : ∀ item, catalog.Offers start item → item.Matches query →
    ∃ entry ∈ entries, entry.sameAlias item = true
  distinct : entries.Pairwise fun left right => left.sameAlias right = false
  first : ∀ entry ∈ entries, ∃ place, FirstAt (catalog.walk start).items place entry
  ordered : entries.Pairwise (FirstBefore (catalog.walk start).items)
  apart : ∀ left right, catalog.Offers start left → left.Matches query →
    catalog.Offers start right → right.Matches query →
    left.target.key ≠ right.target.key ∨ left.kind ≠ right.kind →
    ∃ (near far : Nat) (leftEntry rightEntry : SearchItem κ), near ≠ far ∧
      (entries[near]? = some leftEntry ∧ leftEntry.sameAlias left = true) ∧
      (entries[far]? = some rightEntry ∧ rightEntry.sameAlias right = true)

/-- The matching ones among the first occurrences. -/
theorem listsMatches_of_listsFirsts {catalog : Catalog κ} {start : Visit κ}
    (begins : start.Begins catalog) (whole : (catalog.walk start).fault = none) {query : String}
    {entries : List (SearchItem κ)} (firsts : ListsFirsts (catalog.walk start).items entries) :
    catalog.ListsMatches start query (entries.filter fun item => item.contains query) := by
  have complete : ∀ item, catalog.Offers start item → item.Matches query →
      ∃ entry ∈ entries.filter fun item => item.contains query, entry.sameAlias item = true := by
    intro item offered matching
    obtain ⟨entry, listed, same⟩ :=
      firsts.complete item ((mem_items_iff_offers begins whole).mpr offered)
    refine ⟨entry, List.mem_filter.mpr ⟨listed, SearchItem.contains_iff.mpr ?_⟩, same⟩
    rwa [SearchItem.Matches, (SearchItem.sameAlias_iff.mp same).2.2]
  constructor
  case sound =>
    intro entry member
    obtain ⟨listed, matching⟩ := List.mem_filter.mp member
    obtain ⟨place, here, -⟩ := firsts.first entry listed
    exact ⟨(mem_items_iff_offers begins whole).mp (List.mem_of_getElem? here),
      SearchItem.contains_iff.mp matching⟩
  case complete => exact complete
  case distinct => exact firsts.distinct.filter _
  case first =>
    intro entry member
    exact firsts.first entry (List.mem_filter.mp member).1
  case ordered => exact firsts.ordered.filter _
  case apart =>
    intro left right leftOffered leftMatches rightOffered rightMatches differ
    obtain ⟨leftEntry, leftMember, leftSame⟩ := complete left leftOffered leftMatches
    obtain ⟨rightEntry, rightMember, rightSame⟩ := complete right rightOffered rightMatches
    obtain ⟨near, leftThere⟩ := List.mem_iff_getElem?.mp leftMember
    obtain ⟨far, rightThere⟩ := List.mem_iff_getElem?.mp rightMember
    refine ⟨near, far, leftEntry, rightEntry, ?_, ⟨leftThere, leftSame⟩, rightThere, rightSame⟩
    rintro rfl
    obtain rfl : leftEntry = rightEntry := Option.some.inj (leftThere.symm.trans rightThere)
    obtain ⟨key, kind, -⟩ := SearchItem.sameAlias_iff.mp
      (SearchItem.sameAlias_trans (SearchItem.sameAlias_comm.mp leftSame) rightSame)
    exact differ.elim (fun differ => differ key) fun differ => differ kind

/-- Without a limit, a failure that ends the walk ends the search. -/
theorem suggest_failed {catalog : Catalog κ} {start : Visit κ} {fault : IndexFault}
    (ended : (catalog.walk start).fault = some fault) (query : String) :
    (catalog.suggest start query none).result = .error fault := by
  have failed (found : List (SearchItem κ)) (stops : List (Stop κ)) :
      (collectStops query none (some fault) found stops).result = .error fault := by
    induction stops generalizing found with
    | nil => rfl
    | cons stop stops ih =>
        rw [collectStops, full_collect]
        exact ih _
  rw [suggest, ended]
  exact failed [] _

/-- Without a limit, suggestions list the reachable aliases that contain the query. Only a container that
fails to make its index makes them fail. -/
theorem suggest_listsMatches {catalog : Catalog κ} {start : Visit κ} (begins : start.Begins catalog)
    (query : String) :
    (∃ entries, (catalog.suggest start query none).result = .ok entries ∧
      catalog.ListsMatches start query entries) ∨
    ((∃ key fault, catalog.Meets start key ∧ catalog.opening key = .failed fault) ∧
      ∃ fault, (catalog.suggest start query none).result = .error fault) := by
  cases ended : (catalog.walk start).fault with
  | some fault => exact .inr ⟨exists_meets_failed begins ended, fault, suggest_failed ended query⟩
  | none =>
      exact .inl ⟨_, suggest_unlimited ended query,
        listsMatches_of_listsFirsts begins ended (unrepeated_listsFirsts _)⟩

/-- A container that holds itself, a job and, at another address, a job that was met before. -/
def twinned : Catalog Nat where
  containers := [0]
  opening _ := .fresh
    ⟨[⟨"qa", "job/f/job/qa/", ⟨2, "qa", "job/f/job/qa/", none, none⟩, .name, by decide⟩,
      ⟨"qa", "job/f/job/alias/", ⟨1, "qa", "job/qa/", some "QA main", none⟩, .name, by decide⟩],
      [.container 0], none⟩

/-- An index above it that declares both aliases of a job. -/
def bothAliases : Visit Nat :=
  ⟨.start, ⟨[⟨"qa", "job/qa/", ⟨1, "qa", "job/qa/", some "QA main", none⟩, .name, by decide⟩,
      ⟨"QA main", "job/qa/", ⟨1, "qa", "job/qa/", some "QA main", none⟩, .displayName, by decide⟩],
    [.container 0], none⟩⟩

theorem twinned_suggest_listsMatches : bothAliases.Begins twinned ∧
    ((∃ entries, (twinned.suggest bothAliases "Qa" none).result = .ok entries ∧
      twinned.ListsMatches bothAliases "Qa" entries) ∨
    ((∃ key fault, twinned.Meets bothAliases key ∧ twinned.opening key = .failed fault) ∧
      ∃ fault, (twinned.suggest bothAliases "Qa" none).result = .error fault)) := by
  have begins : bothAliases.Begins twinned := trivial
  exact ⟨begins, suggest_listsMatches begins "Qa"⟩

end Catalog

end Wayfinder.Search
