import Wayfinder.Proofs.Search.Layers

/-!
# The walk is a breadth-first search

The walk visits what can be reached, each visit once, the nearer before the farther, and opens every
container that it comes to once. A layer is the list of all visits at one distance; going through the
children of a layer gives the next one, because whatever they lead to is either nearer and found
already, or queued.
-/

namespace Wayfinder.Search

variable {κ : Type}

namespace Catalog

variable [DecidableEq κ]

/-- The state of a walk that is about to work off the layer at a distance: `found` is everything
nearer, and `layer` everything at that distance. -/
structure Frontier (catalog : Catalog κ) (start : Visit κ) (length : Nat)
    (seen : List (Child κ)) (found layer : List (Visit κ)) : Prop where
  covers : catalog.Covers start seen (found ++ layer)
  found_iff : ∀ visit, visit ∈ found ↔ ∃ nearer < length, catalog.Path start nearer visit
  layer_iff : ∀ visit, visit ∈ layer ↔ catalog.Distance start length visit
  nodup : layer.Nodup

/-- The walk begins with the first visit, which is the only one at no distance. -/
theorem frontier_marks {catalog : Catalog κ} {start : Visit κ} (begins : start.Begins catalog) :
    catalog.Frontier start 0 start.marks [] [start] where
  covers := covers_marks begins
  found_iff visit := by simp
  layer_iff visit := by
    rw [List.mem_singleton]
    constructor
    · rintro rfl
      exact ⟨.here, fun _ _ => Nat.zero_le _⟩
    · rintro ⟨path, -⟩
      cases path
      rfl
  nodup := by simp

/-- The visits found before a layer and those in it are the ones no farther than the layer. -/
theorem Frontier.mem_iff {catalog : Catalog κ} {start : Visit κ} {length : Nat}
    {seen : List (Child κ)} {found layer : List (Visit κ)}
    (frontier : catalog.Frontier start length seen found layer) (visit : Visit κ) :
    visit ∈ found ++ layer ↔ ∃ nearer < length + 1, catalog.Path start nearer visit := by
  rw [List.mem_append, frontier.found_iff, frontier.layer_iff]
  constructor
  · rintro (⟨nearer, bound, path⟩ | ⟨path, -⟩)
    · exact ⟨nearer, by omega, path⟩
    · exact ⟨length, by omega, path⟩
  · rintro ⟨nearer, bound, path⟩
    by_cases before : ∃ nearer < length, catalog.Path start nearer visit
    · exact .inl before
    · right
      have least : ∀ other, catalog.Path start other visit → length ≤ other := by
        intro other path
        by_contra nearer
        exact before ⟨other, by omega, path⟩
      obtain rfl : nearer = length := by
        have := least nearer path
        omega
      exact ⟨path, least⟩

/-- Working off a layer gives the next one. -/
theorem Frontier.next {catalog : Catalog κ} {start : Visit κ} {length : Nat}
    {seen : List (Child κ)} {found layer : List (Visit κ)}
    (frontier : catalog.Frontier start length seen found layer)
    (whole : (catalog.expand seen (childrenOf layer)).fault = none) :
    catalog.Frontier start (length + 1) (catalog.expand seen (childrenOf layer)).seen
      (found ++ layer) (catalog.expand seen (childrenOf layer)).queued := by
  have expands := frontier.covers.expands (childrenOf layer)
  constructor
  case covers => exact expands.covers whole
  case found_iff => exact frontier.mem_iff
  case nodup => exact expands.nodup
  case layer_iff =>
    intro visit
    constructor
    · intro queued
      obtain ⟨child, listed, free, leads⟩ := expands.listed visit queued
      obtain ⟨previous, member, listed⟩ := List.mem_flatMap.mp listed
      have path := ((frontier.layer_iff previous).mp member).1
      refine ⟨.onward path listed free leads, ?_⟩
      intro other path
      by_contra nearer
      exact expands.fresh visit queued ((frontier.mem_iff visit).mpr ⟨other, by omega, path⟩)
    · intro far
      obtain ⟨previous, near, child, listed, free, leads⟩ := far.previous
      have member : previous ∈ layer := (frontier.layer_iff previous).mpr near
      have gone : child ∈ childrenOf layer := List.mem_flatMap.mpr ⟨previous, member, listed⟩
      rcases List.mem_append.mp ((expands.complete whole child gone free).found visit leads)
        with before | queued
      · obtain ⟨nearer, bound, path⟩ := (frontier.mem_iff visit).mp before
        have := far.2 nearer path
        omega
      · exact queued

/-- What the rest of a walk does from the layer at a distance on. -/
structure Completes (catalog : Catalog κ) (start : Visit κ) (length : Nat) (trail : Trail κ) :
    Prop where
  far : ∀ visit ∈ trail.visits, ∃ distance ≥ length, catalog.Distance start distance visit
  nodup : trail.visits.Nodup
  ordered : trail.visits.Pairwise fun earlier later => ∀ near far,
    catalog.Distance start near earlier → catalog.Distance start far later → near ≤ far
  complete : trail.fault = none → ∀ visit distance, length ≤ distance →
    catalog.Distance start distance visit → visit ∈ trail.visits
  sound : trail.fault = none → ∀ visit ∈ trail.visits, ∀ child ∈ visit.index.children,
    ¬start.Owns child → ¬catalog.Fails child
  failing : trail.fault ≠ none → ∃ visit, catalog.Reachable start visit ∧
    ∃ child ∈ visit.index.children, ¬start.Owns child ∧ catalog.Fails child

/-- Visits of one layer stand in the order of their distance. -/
theorem Frontier.pairwise {catalog : Catalog κ} {start : Visit κ} {length : Nat}
    {seen : List (Child κ)} {found layer : List (Visit κ)}
    (frontier : catalog.Frontier start length seen found layer) {visits : List (Visit κ)}
    (within : visits ⊆ layer) :
    visits.Pairwise fun earlier later => ∀ near far,
      catalog.Distance start near earlier → catalog.Distance start far later → near ≤ far := by
  rw [List.pairwise_iff_forall_sublist]
  intro earlier later both near far nearDistance farDistance
  have first := (frontier.layer_iff earlier).mp (within (both.subset (by simp)))
  have second := (frontier.layer_iff later).mp (within (both.subset (by simp)))
  rw [nearDistance.unique first, farDistance.unique second]

/-- A walk that ends in a layer because going through its children fails. -/
theorem Frontier.completes_of_fault {catalog : Catalog κ} {start : Visit κ} {length : Nat}
    {seen : List (Child κ)} {found layer : List (Visit κ)}
    (frontier : catalog.Frontier start length seen found layer)
    (fails : (catalog.expand seen (childrenOf layer)).fault ≠ none) :
    catalog.Completes start length (catalog.explore seen layer) := by
  obtain ⟨within, -, fault⟩ := catalog.explore_append_of_fault seen layer [] fails
  rw [List.append_nil] at within fault
  constructor
  case far =>
    intro visit member
    exact ⟨length, le_rfl, (frontier.layer_iff visit).mp (within.subset member)⟩
  case nodup => exact frontier.nodup.sublist within.sublist
  case ordered => exact frontier.pairwise within.subset
  case complete =>
    intro whole
    exact absurd whole fault
  case sound =>
    intro whole
    exact absurd whole fault
  case failing =>
    intro _
    obtain ⟨child, listed, free, failing⟩ :=
      (frontier.covers.expands (childrenOf layer)).failing fails
    obtain ⟨visit, member, listed⟩ := List.mem_flatMap.mp listed
    exact ⟨visit, ((frontier.layer_iff visit).mp member).reachable, child, listed, free, failing⟩

/-- A walk through a layer does what is due at its distance if the rest does what is due farther
away. -/
theorem Frontier.completes_of_next {catalog : Catalog κ} {start : Visit κ} {length : Nat}
    {seen : List (Child κ)} {found layer : List (Visit κ)}
    (frontier : catalog.Frontier start length seen found layer)
    (whole : (catalog.expand seen (childrenOf layer)).fault = none)
    (rest : catalog.Completes start (length + 1)
      (catalog.explore (catalog.expand seen (childrenOf layer)).seen
        (catalog.expand seen (childrenOf layer)).queued)) :
    catalog.Completes start length (catalog.explore seen layer) := by
  obtain ⟨visits, -, fault⟩ := catalog.explore_layer seen layer whole
  have distance (visit : Visit κ) (member : visit ∈ layer) :
      catalog.Distance start length visit := (frontier.layer_iff visit).mp member
  constructor
  case far =>
    intro visit member
    rw [visits] at member
    rcases List.mem_append.mp member with here | later
    · exact ⟨length, le_rfl, distance visit here⟩
    · obtain ⟨farther, bound, far⟩ := rest.far visit later
      exact ⟨farther, by omega, far⟩
  case nodup =>
    rw [visits, List.nodup_append]
    refine ⟨frontier.nodup, rest.nodup, ?_⟩
    rintro visit here _ later rfl
    obtain ⟨farther, bound, far⟩ := rest.far visit later
    have := far.unique (distance visit here)
    omega
  case ordered =>
    rw [visits, List.pairwise_append]
    refine ⟨frontier.pairwise (List.Subset.refl _), rest.ordered, ?_⟩
    intro earlier here later member near far nearDistance farDistance
    obtain ⟨farther, bound, other⟩ := rest.far later member
    rw [nearDistance.unique (distance earlier here), farDistance.unique other]
    omega
  case complete =>
    intro sound visit farther bound far
    rw [visits, List.mem_append]
    rcases Nat.eq_or_lt_of_le bound with rfl | bound
    · exact .inl ((frontier.layer_iff visit).mpr far)
    · exact .inr (rest.complete (fault ▸ sound) visit farther bound far)
  case sound =>
    intro sound visit member child listed free
    rw [visits] at member
    rcases List.mem_append.mp member with here | later
    · have gone : child ∈ childrenOf layer := List.mem_flatMap.mpr ⟨visit, here, listed⟩
      exact ((frontier.covers.expands (childrenOf layer)).complete whole child gone free).sound
    · exact rest.sound (fault ▸ sound) visit later child listed free
  case failing =>
    intro failed
    exact rest.failing (fault ▸ failed)

/-- From an empty layer on there is nothing left to visit. -/
theorem Frontier.completes_nil {catalog : Catalog κ} {start : Visit κ} {length : Nat}
    {seen : List (Child κ)} {found : List (Visit κ)}
    (frontier : catalog.Frontier start length seen found []) :
    catalog.Completes start length (catalog.explore seen []) := by
  -- A visit farther away would have one at this distance on a shortest path to it.
  have nothing (distance : Nat) (visit : Visit κ) (bound : length ≤ distance) :
      ¬catalog.Distance start distance visit := by
    induction bound generalizing visit with
    | refl =>
        intro distance
        cases (frontier.layer_iff visit).mpr distance
    | step bound ih =>
        intro far
        obtain ⟨previous, near, -⟩ := far.previous
        exact ih previous near
  rw [explore]
  constructor
  case complete =>
    intro _ visit distance bound far
    exact absurd far (nothing distance visit bound)
  all_goals simp [Trail.visits]

/-- The walk from a layer on does what is due, by induction on the children that were not met. -/
theorem Frontier.completes {catalog : Catalog κ} {start : Visit κ} {length : Nat}
    {seen : List (Child κ)} {found layer : List (Visit κ)}
    (frontier : catalog.Frontier start length seen found layer) :
    catalog.Completes start length (catalog.explore seen layer) := by
  induction measure : catalog.unmet seen + layer.length using Nat.strong_induction_on
    generalizing length seen found layer with
  | _ size ih =>
      cases layer with
      | nil => exact frontier.completes_nil
      | cons visit layer =>
          by_cases whole :
              (catalog.expand seen (childrenOf (visit :: layer))).fault = none
          · refine frontier.completes_of_next whole (ih _ ?_ (frontier.next whole) rfl)
            have used := catalog.expand_unmet seen (childrenOf (visit :: layer))
            rw [← measure, List.length_cons]
            omega
          · exact frontier.completes_of_fault whole

theorem walk_completes {catalog : Catalog κ} {start : Visit κ} (begins : start.Begins catalog) :
    catalog.Completes start 0 (catalog.walk start) :=
  (frontier_marks begins).completes

end Catalog

end Wayfinder.Search
