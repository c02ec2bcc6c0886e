import Mathlib.Data.Nat.Find
import Wayfinder.Search.Walk

/-!
# Reachability in a catalogue

What a search can come across, said without the walk: where a child leads, which visits are joined by
a path of children, and how far a visit is from the first one. The container that the first index was
made for is closed to a path, whichever index lists it.
-/

namespace Wayfinder.Search

variable {κ : Type}

namespace Visit

/-- Whether a child is the container that the index of a visit was made for. -/
def Owns (visit : Visit κ) (child : Child κ) : Prop :=
  ∃ key, visit.index.owner = some key ∧ child = .container key

/-- Whether a child is where a visit takes place: seeing it again shows that the visit was found. -/
def MarkedBy (visit : Visit κ) (child : Child κ) : Prop :=
  match visit.id with
  | .start => False
  | .opened key => child = .container key
  | .shared id => child = .index id

/-- A visit that a search can begin with: an index made on the spot, or one of those made
beforehand. -/
def Begins (visit : Visit κ) (catalog : Catalog κ) : Prop :=
  match visit.id with
  | .start => True
  | .opened _ => False
  | .shared id => catalog.shared[id]? = some visit.index

end Visit

namespace Catalog

/-- A child that is a container which fails to make its index. -/
def Fails (catalog : Catalog κ) (child : Child κ) : Prop :=
  ∃ key fault, child = .container key ∧ key ∈ catalog.containers ∧
    catalog.opening key = .failed fault

variable [DecidableEq κ]

/-- Where a child leads: an index to itself, a container to the index that opening it gives. -/
def destination? (catalog : Catalog κ) : Child κ → Option (Visit κ)
  | .index id => catalog.shared[id]?.map fun index => ⟨.shared id, index⟩
  | .container key =>
    if key ∈ catalog.containers then
      match catalog.opening key with
      | .fresh index => some ⟨.opened key, index⟩
      | .shared id => catalog.shared[id]?.map fun index => ⟨.shared id, index⟩
      | .failed _ => none
    else none

/-- The visits that are so many children away from the first one. -/
inductive Path (catalog : Catalog κ) (start : Visit κ) : Nat → Visit κ → Prop where
  | here : Path catalog start 0 start
  | onward {length : Nat} {visit next : Visit κ} {child : Child κ}
      (path : Path catalog start length visit) (listed : child ∈ visit.index.children)
      (free : ¬start.Owns child) (leads : catalog.destination? child = some next) :
      Path catalog start (length + 1) next

/-- The length of a shortest path to a visit. -/
def Distance (catalog : Catalog κ) (start : Visit κ) (length : Nat) (visit : Visit κ) : Prop :=
  catalog.Path start length visit ∧
    ∀ other, catalog.Path start other visit → length ≤ other

/-- The visits that some path leads to. -/
def Reachable (catalog : Catalog κ) (start visit : Visit κ) : Prop :=
  ∃ length, catalog.Path start length visit

/-- The containers that a path comes to: children of reachable visits that are open to it. -/
def Meets (catalog : Catalog κ) (start : Visit κ) (key : κ) : Prop :=
  key ∈ catalog.containers ∧ ¬start.Owns (.container key) ∧
    ∃ visit, catalog.Reachable start visit ∧ .container key ∈ visit.index.children

theorem Distance.unique {catalog : Catalog κ} {start visit : Visit κ} {left right : Nat}
    (first : catalog.Distance start left visit) (second : catalog.Distance start right visit) :
    left = right :=
  Nat.le_antisymm (first.2 right second.1) (second.2 left first.1)

/-- The last step of a shortest path is taken from a visit one step nearer. -/
theorem Distance.previous {catalog : Catalog κ} {start visit : Visit κ} {length : Nat}
    (far : catalog.Distance start (length + 1) visit) :
    ∃ previous, catalog.Distance start length previous ∧ ∃ child ∈ previous.index.children,
      ¬start.Owns child ∧ catalog.destination? child = some visit := by
  obtain ⟨path, least⟩ := far
  cases path with
  | @onward _ previous _ child path listed free leads =>
      refine ⟨previous, ⟨path, ?_⟩, child, listed, free, leads⟩
      intro other shorter
      exact Nat.le_of_succ_le_succ (least (other + 1) (.onward shorter listed free leads))

theorem Distance.reachable {catalog : Catalog κ} {start visit : Visit κ} {length : Nat}
    (distance : catalog.Distance start length visit) : catalog.Reachable start visit :=
  ⟨length, distance.1⟩

/-- A reachable visit has a distance. -/
theorem Reachable.exists_distance {catalog : Catalog κ} {start visit : Visit κ}
    (reachable : catalog.Reachable start visit) :
    ∃ length, catalog.Distance start length visit := by
  classical
  exact ⟨Nat.find reachable, Nat.find_spec reachable, fun _ path => Nat.find_min' reachable path⟩

/-- What the identity of a visit says about its index. -/
def Stands (catalog : Catalog κ) (start visit : Visit κ) : Prop :=
  match visit.id with
  | .start => visit = start
  | .opened key => catalog.opening key = .fresh visit.index
  | .shared id => catalog.shared[id]? = some visit.index

theorem stands_of_destination? {catalog : Catalog κ} {start visit : Visit κ} {child : Child κ}
    (leads : catalog.destination? child = some visit) : catalog.Stands start visit := by
  unfold destination? at leads
  split at leads
  case h_1 id =>
    obtain ⟨index, found, rfl⟩ := Option.map_eq_some_iff.mp leads
    exact found
  case h_2 key =>
    split at leads
    case isFalse => cases leads
    case isTrue =>
      split at leads
      case h_1 index opened =>
        cases leads
        exact opened
      case h_2 id opened =>
        obtain ⟨index, found, rfl⟩ := Option.map_eq_some_iff.mp leads
        exact found
      case h_3 => cases leads

theorem Path.stands {catalog : Catalog κ} {start visit : Visit κ} {length : Nat}
    (begins : start.Begins catalog) (path : catalog.Path start length visit) :
    catalog.Stands start visit := by
  cases path with
  | here =>
      unfold Visit.Begins at begins
      unfold Stands
      split <;> simp_all
  | onward path listed free leads => exact stands_of_destination? leads

/-- A reachable visit is known by its identity. -/
theorem Path.eq_of_id_eq {catalog : Catalog κ} {start left right : Visit κ}
    {leftLength rightLength : Nat} (begins : start.Begins catalog)
    (first : catalog.Path start leftLength left) (second : catalog.Path start rightLength right)
    (same : left.id = right.id) : left = right := by
  have leftStands := first.stands begins
  have rightStands := second.stands begins
  obtain ⟨leftId, leftIndex⟩ := left
  obtain ⟨rightId, rightIndex⟩ := right
  cases same
  unfold Stands at leftStands rightStands
  split at leftStands <;> simp_all

end Catalog

end Wayfinder.Search
