import Wayfinder.Proofs.Search.Openings
import Wayfinder.Proofs.Text.Folding
import Wayfinder.Search.Find

/-!
# Which item a query names

An exact search gives an item whenever a reachable one equals the query, and the item that it gives is
the preferred one: a name before a display name, then the nearest index, then the first in the order of
the walk, then the first declared. That the walk order respects the distance makes the first index with
an equal item the nearest.
-/

namespace Wayfinder.Search

variable {κ : Type}

theorem comparable_eq_empty_iff {caseSensitive : Bool} {text : String} :
    comparable caseSensitive text = comparable caseSensitive "" ↔ text = "" := by
  cases caseSensitive
  · have empty : Text.fold "" = "" := rfl
    simp [comparable, empty]
  · simp [comparable]

theorem SearchItem.equals_iff {item : SearchItem κ} {kind : AliasKind} {caseSensitive : Bool}
    {query : String} : item.equals kind caseSensitive query = true ↔
      item.kind = kind ∧ comparable caseSensitive item.name = comparable caseSensitive query := by
  simp [SearchItem.equals]

/-- What it is for an alias to equal a query: to be the same text or, when case is ignored, to be the
same text once both are folded. -/
def SearchItem.IsCalled (item : SearchItem κ) : Bool → String → Prop
  | true, query => item.name = query
  | false, query => Text.fold item.name = Text.fold query

instance (item : SearchItem κ) (caseSensitive : Bool) (query : String) :
    Decidable (item.IsCalled caseSensitive query) :=
  match caseSensitive with
  | true => inferInstanceAs (Decidable (item.name = query))
  | false => inferInstanceAs (Decidable (Text.fold item.name = Text.fold query))

theorem SearchItem.comparable_iff {item : SearchItem κ} {caseSensitive : Bool} {query : String} :
    comparable caseSensitive item.name = comparable caseSensitive query ↔
      item.IsCalled caseSensitive query := by
  cases caseSensitive <;> rfl

theorem SearchItem.equals_iff_isCalled {item : SearchItem κ} {kind : AliasKind} {caseSensitive : Bool}
    {query : String} : item.equals kind caseSensitive query = true ↔
      item.kind = kind ∧ item.IsCalled caseSensitive query := by
  rw [equals_iff, comparable_iff]

/-- The first item that equals a query is among the items, and equals it. -/
theorem mem_of_firstEqual {caseSensitive : Bool} {query : String} {items : List (SearchItem κ)}
    {item : SearchItem κ} (first : firstEqual caseSensitive query items = some item) :
    item ∈ items ∧ comparable caseSensitive item.name = comparable caseSensitive query := by
  simp only [firstEqual, Option.orElse_eq_orElse, Option.orElse_eq_or] at first
  rcases Option.or_eq_some_iff.mp first with named | ⟨-, displayed⟩
  · have equal := List.find?_some named
    exact ⟨List.mem_of_find?_eq_some named, (SearchItem.equals_iff.mp equal).2⟩
  · have equal := List.find?_some displayed
    exact ⟨List.mem_of_find?_eq_some displayed, (SearchItem.equals_iff.mp equal).2⟩

/-- Whether the index of a visit has an item of a kind that equals a query. -/
def Visit.Holds (visit : Visit κ) (kind : AliasKind) (caseSensitive : Bool) (query : String) :
    Prop :=
  ∃ item ∈ visit.index.items, item.kind = kind ∧ item.IsCalled caseSensitive query

/-- The first item of several indices that satisfies a test: the index it is in, and what is before
it there. -/
theorem find?_items_eq_some {visits : List (Visit κ)} {test : SearchItem κ → Bool}
    {item : SearchItem κ}
    (found : (visits.flatMap fun visit => visit.index.items).find? test = some item) :
    ∃ earlier visit later, visits = earlier ++ visit :: later ∧
      (∀ other ∈ earlier, ∀ item ∈ other.index.items, test item = false) ∧
      ∃ before behind, visit.index.items = before ++ item :: behind ∧
        (∀ other ∈ before, test other = false) ∧ test item = true := by
  rw [List.find?_flatMap, List.findSome?_eq_some_iff] at found
  obtain ⟨earlier, visit, later, split, here, without⟩ := found
  obtain ⟨holds, before, behind, parts, first⟩ := List.find?_eq_some_iff_append.mp here
  refine ⟨earlier, visit, later, split, fun other member item listed => ?_, before, behind, parts,
    fun other member => ?_, holds⟩
  · simpa using List.find?_eq_none.mp (without other member) item listed
  · simpa using first other member

namespace Catalog

variable [DecidableEq κ]

/-- The item that a query is to be resolved to, of all that equal it. -/
structure IsPreferred (catalog : Catalog κ) (start : Visit κ) (query : String)
    (caseSensitive : Bool) (item : SearchItem κ) : Prop where
  equal : item.IsCalled caseSensitive query
  nameFirst : ∀ visit, catalog.Reachable start visit →
    visit.Holds .name caseSensitive query → item.kind = .name
  located : ∃ visit, catalog.Reachable start visit ∧
    (∀ other, catalog.Reachable start other → other.Holds item.kind caseSensitive query →
      ∀ near far, catalog.Distance start near visit → catalog.Distance start far other →
        near ≤ far) ∧
    (∃ earlier later, (catalog.walk start).visits = earlier ++ visit :: later ∧
      ∀ other ∈ earlier, ¬other.Holds item.kind caseSensitive query) ∧
    ∃ before behind, visit.index.items = before ++ item :: behind ∧
      ∀ other ∈ before, other.kind = item.kind → ¬other.IsCalled caseSensitive query

/-- A search over a complete walk compares the query with all items of the walk. -/
theorem find_result {catalog : Catalog κ} {start : Visit κ}
    (whole : (catalog.walk start).fault = none) (query : String) (caseSensitive : Bool) :
    (catalog.find start query caseSensitive).result =
      .ok (firstEqual caseSensitive query (catalog.walk start).items) := by
  simp [find, indices, Traced.bind_eq, Traced.andThen, whole, Trail.items]

/-- The first item of a kind in a walk is in the nearest index that has one. -/
theorem isPreferred_of_find? {catalog : Catalog κ} {start : Visit κ} {kind : AliasKind}
    {query : String} {caseSensitive : Bool} {item : SearchItem κ}
    (begins : start.Begins catalog) (whole : (catalog.walk start).fault = none)
    (found : (catalog.walk start).items.find?
      (fun item => item.equals kind caseSensitive query) = some item)
    (nameFirst : ∀ visit, catalog.Reachable start visit →
      visit.Holds .name caseSensitive query → kind = .name) :
    catalog.IsPreferred start query caseSensitive item := by
  rw [Trail.items_eq] at found
  obtain ⟨earlier, visit, later, split, without, before, behind, parts, first, equal⟩ :=
    find?_items_eq_some found
  obtain ⟨rfl, same⟩ := SearchItem.equals_iff_isCalled.mp equal
  have none_earlier (other : Visit κ) (member : other ∈ earlier) :
      ¬other.Holds item.kind caseSensitive query := by
    rintro ⟨equalItem, listed, called⟩
    have equal := SearchItem.equals_iff_isCalled.mpr called
    rw [without other member equalItem listed] at equal
    cases equal
  have reachable : catalog.Reachable start visit :=
    (walk_complete begins whole visit).mp (by simp [split])
  have nearest : ∀ other, catalog.Reachable start other →
      other.Holds item.kind caseSensitive query → ∀ near far, catalog.Distance start near visit →
        catalog.Distance start far other → near ≤ far := by
    intro other otherReachable holds near far nearDistance farDistance
    have member := (walk_complete begins whole other).mpr otherReachable
    have ordered := (walk_completes begins).ordered
    rw [split] at member ordered
    rcases List.mem_append.mp member with earlierMember | member
    · exact absurd holds (none_earlier other earlierMember)
    · rcases List.mem_cons.mp member with rfl | laterMember
      · exact Nat.le_of_eq (nearDistance.unique farDistance)
      · have tail := (List.pairwise_append.mp ordered).2.1
        exact (List.pairwise_cons.mp tail).1 other laterMember near far nearDistance farDistance
  have none_before : ∀ other ∈ before, other.kind = item.kind →
      ¬other.IsCalled caseSensitive query := by
    intro other member kind called
    have equal := SearchItem.equals_iff_isCalled.mpr ⟨kind, called⟩
    rw [first other member] at equal
    cases equal
  constructor
  case equal => exact same
  case nameFirst => exact nameFirst
  case located =>
    exact ⟨visit, reachable, nearest, ⟨earlier, later, split, none_earlier⟩, before, behind, parts,
      none_before⟩

/-- A complete walk comes across no item of a kind that equals a query if no reachable index has
one. -/
theorem find?_items_eq_none_iff {catalog : Catalog κ} {start : Visit κ} (begins : start.Begins catalog)
    (whole : (catalog.walk start).fault = none) {kind : AliasKind} {query : String}
    {caseSensitive : Bool} :
    (catalog.walk start).items.find? (fun item => item.equals kind caseSensitive query) = none ↔
      ∀ visit, catalog.Reachable start visit → ¬visit.Holds kind caseSensitive query := by
  rw [Trail.items_eq, List.find?_flatMap_eq_none_iff]
  constructor
  · rintro without visit reachable ⟨item, listed, called⟩
    have unequal := without visit ((walk_complete begins whole visit).mpr reachable) item listed
    simp [SearchItem.equals_iff_isCalled.mpr called] at unequal
  · intro without visit member item listed
    have reachable := (walk_complete begins whole visit).mp member
    simpa using fun equal =>
      without visit reachable ⟨item, listed, SearchItem.equals_iff_isCalled.mp equal⟩

/-- An exact search over a complete walk finds nothing if no reachable alias equals the query. -/
theorem firstEqual_eq_none_iff {catalog : Catalog κ} {start : Visit κ} (begins : start.Begins catalog)
    (whole : (catalog.walk start).fault = none) {query : String} {caseSensitive : Bool} :
    firstEqual caseSensitive query (catalog.walk start).items = none ↔
      ∀ visit, catalog.Reachable start visit → ∀ item ∈ visit.index.items,
        ¬item.IsCalled caseSensitive query := by
  simp only [firstEqual, Option.orElse_eq_orElse, Option.orElse_eq_or, Option.or_eq_none_iff,
    find?_items_eq_none_iff begins whole]
  constructor
  · rintro ⟨noName, noDisplayName⟩ visit reachable item listed same
    cases kind : item.kind with
    | name => exact noName visit reachable ⟨item, listed, kind, same⟩
    | displayName => exact noDisplayName visit reachable ⟨item, listed, kind, same⟩
  · intro without
    constructor <;> rintro visit reachable ⟨item, listed, -, called⟩ <;>
      exact without visit reachable item listed called

/-- What an exact search over a complete walk finds is the preferred item. -/
theorem isPreferred_of_firstEqual {catalog : Catalog κ} {start : Visit κ}
    (begins : start.Begins catalog) (whole : (catalog.walk start).fault = none) {query : String}
    {caseSensitive : Bool} {item : SearchItem κ}
    (resolved : firstEqual caseSensitive query (catalog.walk start).items = some item) :
    catalog.IsPreferred start query caseSensitive item := by
  simp only [firstEqual, Option.orElse_eq_orElse, Option.orElse_eq_or] at resolved
  cases named : (catalog.walk start).items.find?
      (fun item => item.equals .name caseSensitive query) with
  | some first =>
      obtain rfl : first = item := by simpa [named] using resolved
      exact isPreferred_of_find? begins whole named (fun _ _ _ => rfl)
  | none =>
      rw [named, Option.none_or] at resolved
      apply isPreferred_of_find? begins whole resolved
      intro visit reachable holds
      exact absurd holds ((find?_items_eq_none_iff begins whole).mp named visit reachable)

/-- A search over a walk that a container ends fails. -/
theorem find_error {catalog : Catalog κ} {start : Visit κ} {fault : IndexFault}
    (ended : (catalog.walk start).fault = some fault) (query : String) (caseSensitive : Bool) :
    (catalog.find start query caseSensitive).result = .error fault := by
  simp [find, indices, Traced.bind_eq, Traced.andThen, ended]

/-- What an exact search has to find. The empty query equals no alias, and in a case-sensitive search
an alias is found by nothing shorter. -/
structure Resolves (catalog : Catalog κ) (start : Visit κ) (query : String) (caseSensitive : Bool)
    (found : Option (SearchItem κ)) : Prop where
  none_iff : found = none ↔ ∀ visit, catalog.Reachable start visit → ∀ item ∈ visit.index.items,
    ¬item.IsCalled caseSensitive query
  preferred : ∀ item, found = some item → catalog.IsPreferred start query caseSensitive item
  empty : query = "" → found = none
  whole : caseSensitive = true → ∀ item before behind, item.name = before ++ query ++ behind →
    before ++ behind ≠ "" → found ≠ some item

/-- Exact search resolves a query whenever a reachable alias equals it, and to the preferred item. Only
a container that fails to make its index makes the search fail. -/
theorem find_resolves {catalog : Catalog κ} {start : Visit κ} (begins : start.Begins catalog)
    (query : String) (caseSensitive : Bool) :
    (∃ found, (catalog.find start query caseSensitive).result = .ok found ∧
      catalog.Resolves start query caseSensitive found) ∨
    ((∃ key fault, catalog.Meets start key ∧ catalog.opening key = .failed fault) ∧
      ∃ fault, (catalog.find start query caseSensitive).result = .error fault) := by
  cases ended : (catalog.walk start).fault with
  | some fault =>
      exact .inr ⟨exists_meets_failed begins ended, fault, find_error ended query caseSensitive⟩
  | none =>
      have none_iff : firstEqual caseSensitive query (catalog.walk start).items = none ↔ _ :=
        firstEqual_eq_none_iff begins ended
      refine .inl ⟨_, find_result ended query caseSensitive, ?_⟩
      constructor
      case none_iff => exact none_iff
      case preferred =>
        intro item resolved
        exact isPreferred_of_firstEqual begins ended resolved
      case empty =>
        rintro rfl
        apply none_iff.mpr
        intro visit _ item _ called
        exact item.name_ne_empty (comparable_eq_empty_iff.mp (SearchItem.comparable_iff.mpr called))
      case whole =>
        rintro rfl item before behind split proper resolved
        have same : item.name = query := (isPreferred_of_firstEqual begins ended resolved).equal
        have lengths := congrArg String.length (split.symm.trans same)
        simp only [String.length_append] at lengths
        apply proper
        apply String.toList_inj.mp
        rw [String.toList_append]
        have empty : before.toList.length = 0 ∧ behind.toList.length = 0 := by
          simp only [String.length_toList]
          omega
        simp [List.eq_nil_of_length_eq_zero empty.1, List.eq_nil_of_length_eq_zero empty.2]

/-- A container that holds a name and itself again. -/
def deepName : Catalog Nat where
  containers := [0]
  opening _ := .fresh
    ⟨[⟨"ci", "job/ci/", ⟨1, "ci", "job/ci/", none, none⟩, .name, by decide⟩], [.container 0], none⟩

/-- An index above it with a display name of the same text. -/
def shallowDisplayName : Visit Nat :=
  ⟨.start, ⟨[⟨"CI", "job/a/", ⟨0, "a", "job/a/", some "CI", none⟩, .displayName, by decide⟩],
    [.container 0], none⟩⟩

/-- The name below is found, although the display name above is nearer. -/
theorem deepName_find_resolves : shallowDisplayName.Begins deepName ∧
    (deepName.find shallowDisplayName "Ci" false).result =
      .ok (some ⟨"ci", "job/ci/", ⟨1, "ci", "job/ci/", none, none⟩, .name, by decide⟩) ∧
    ((∃ found, (deepName.find shallowDisplayName "Ci" false).result = .ok found ∧
      deepName.Resolves shallowDisplayName "Ci" false found) ∨
    ((∃ key fault, deepName.Meets shallowDisplayName key ∧ deepName.opening key = .failed fault) ∧
      ∃ fault, (deepName.find shallowDisplayName "Ci" false).result = .error fault)) := by
  have begins : shallowDisplayName.Begins deepName := trivial
  have found : (deepName.find shallowDisplayName "Ci" false).result =
      .ok (some ⟨"ci", "job/ci/", ⟨1, "ci", "job/ci/", none, none⟩, .name, by decide⟩) := by
    decide +kernel
  exact ⟨begins, found, find_resolves begins "Ci" false⟩

end Catalog

end Wayfinder.Search
