import Mathlib.Data.List.Nodup
import Wayfinder.Proofs.Search.BreadthFirst

/-!
# The containers that a walk opens

A container is opened when the walk first meets it. So a walk opens no container twice, never the one
that its first index was made for, and, if nothing fails, every other one that it comes to.
-/

namespace Wayfinder.Search

variable {κ : Type}

/-- The containers that a list of events opens, in order. -/
def openings (events : List (Event κ)) : List κ :=
  events.filterMap Event.opened?

@[simp] theorem openings_nil : openings ([] : List (Event κ)) = [] := rfl

@[simp] theorem openings_append (left right : List (Event κ)) :
    openings (left ++ right) = openings left ++ openings right :=
  List.filterMap_append

@[simp] theorem openings_opened (key : κ) (events : List (Event κ)) :
    openings (.opened key :: events) = key :: openings events := rfl

@[simp] theorem openings_skipped (child : Child κ) (events : List (Event κ)) :
    openings (.skipped child :: events) = openings events := rfl

theorem container_mem_marks {start : Visit κ} {key : κ} :
    .container key ∈ start.marks ↔ start.Owns (.container key) := by
  obtain ⟨id, index⟩ := start
  cases id <;> cases owner : index.owner <;> simp [Visit.marks, Visit.Owns, owner]

namespace Catalog

/-- The containers that an expansion opens are the new ones among the children. -/
structure Opens (catalog : Catalog κ) (seen children : List (Child κ)) (expansion : Expansion κ) :
    Prop where
  grown : seen ⊆ expansion.seen
  nodup : (openings expansion.events).Nodup
  new : ∀ key ∈ openings expansion.events, .container key ∉ seen ∧ .container key ∈ children ∧
    key ∈ catalog.containers
  met : ∀ key, .container key ∈ expansion.seen ↔
    .container key ∈ seen ∨ key ∈ openings expansion.events
  complete : expansion.fault = none → ∀ key ∈ catalog.containers, .container key ∈ children →
    .container key ∈ expansion.seen

/-- The first child is opened, whether its index is new or not. -/
theorem Opens.add {catalog : Catalog κ} {seen seen' children : List (Child κ)}
    {expansion : Expansion κ} {key : κ} (opens : catalog.Opens seen' children expansion)
    (fresh : .container key ∉ seen) (known : key ∈ catalog.containers)
    (grown : seen ⊆ seen')
    (next : ∀ other, .container other ∈ seen' ↔ other = key ∨ .container other ∈ seen)
    (queued : List (Visit κ)) :
    catalog.Opens seen (.container key :: children) (expansion.after [.opened key] queued) where
  grown := List.Subset.trans grown opens.grown
  nodup := by
    simp only [Expansion.after_events, List.singleton_append, openings_opened]
    refine List.nodup_cons.mpr ⟨fun again => ?_, opens.nodup⟩
    exact (opens.new key again).1 ((next key).mpr (.inl rfl))
  new other member := by
    simp only [Expansion.after_events, List.singleton_append, openings_opened,
      List.mem_cons] at member
    rcases member with rfl | later
    · exact ⟨fresh, List.mem_cons_self, known⟩
    · obtain ⟨unseen, listed, known⟩ := opens.new other later
      exact ⟨fun met => unseen ((next other).mpr (.inr met)), List.mem_cons_of_mem _ listed, known⟩
  met other := by
    simp only [Expansion.after_seen, Expansion.after_events, List.singleton_append,
      openings_opened, List.mem_cons, opens.met, next]
    rw [or_assoc, or_left_comm]
  complete whole other otherKnown listed := by
    rw [Expansion.after_seen, opens.met, next]
    rcases List.mem_cons.mp listed with same | later
    · cases same
      exact .inl (.inl rfl)
    · have met := opens.complete whole other otherKnown later
      rwa [opens.met, next] at met

/-- The first child is not opened. -/
theorem Opens.pass {catalog : Catalog κ} {seen seen' children : List (Child κ)}
    {expansion : Expansion κ} {child : Child κ} (opens : catalog.Opens seen' children expansion)
    (grown : seen ⊆ seen')
    (same : ∀ key, .container key ∈ seen' ↔ .container key ∈ seen)
    (closed : ∀ key ∈ catalog.containers, child = .container key → child ∈ seen)
    (events : List (Event κ)) (queued : List (Visit κ)) (silent : openings events = []) :
    catalog.Opens seen (child :: children) (expansion.after events queued) where
  grown := List.Subset.trans grown opens.grown
  nodup := by simpa [silent] using opens.nodup
  new key member := by
    obtain ⟨unseen, listed, known⟩ := opens.new key (by simpa [silent] using member)
    exact ⟨fun met => unseen ((same key).mpr met), List.mem_cons_of_mem _ listed, known⟩
  met key := by simp [silent, opens.met, same]
  complete whole key known listed := by
    rcases List.mem_cons.mp listed with rfl | later
    · exact opens.grown (grown (closed key known rfl))
    · exact opens.complete whole key known later

/-- Whether a child that was not met before fails to make its index, and with which fault. -/
def EndsWith (catalog : Catalog κ) (seen children : List (Child κ)) (fault : IndexFault) : Prop :=
  ∃ key ∈ catalog.containers, .container key ∈ children ∧ .container key ∉ seen ∧
    catalog.opening key = .failed fault

theorem EndsWith.mono {catalog : Catalog κ} {seen seen' children : List (Child κ)} {child : Child κ}
    {fault : IndexFault} (ends : catalog.EndsWith seen' children fault) (grown : seen ⊆ seen') :
    catalog.EndsWith seen (child :: children) fault := by
  obtain ⟨key, known, listed, unseen, failed⟩ := ends
  exact ⟨key, known, List.mem_cons_of_mem _ listed, fun met => unseen (grown met), failed⟩

variable [DecidableEq κ]

theorem expand_opens (catalog : Catalog κ) (seen children : List (Child κ)) :
    catalog.Opens seen children (catalog.expand seen children) := by
  fun_induction catalog.expand seen children with
  | case1 seen =>
      exact ⟨List.Subset.refl _, by simp [Expansion.none], by simp [Expansion.none],
        by simp [Expansion.none], by simp⟩
  | case2 seen child rest met ih =>
      exact ih.pass (List.Subset.refl _) (fun _ => Iff.rfl) (fun _ _ _ => met) _ _ rfl
  | case3 seen rest id unknown fresh ih =>
      exact ih.pass (List.Subset.refl _) (fun _ => Iff.rfl) (by simp) [] [] rfl
  | case4 seen rest id index found fresh ih =>
      exact ih.pass (List.subset_cons_self _ _) (by simp) (by simp) [] _ rfl
  | case5 seen rest key known fault failed fresh =>
      refine ⟨List.subset_cons_self _ _, by simp, ?_, ?_, fun whole => by cases whole⟩
      · intro other member
        obtain rfl : other = key := by simpa using member
        exact ⟨fresh, List.mem_cons_self, known⟩
      · intro other
        simp [or_comm]
  | case6 seen rest key known index opened fresh ih =>
      exact ih.add fresh known (List.subset_cons_self _ _) (by simp) _
  | case7 seen rest key known id opened met fresh ih =>
      exact ih.add fresh known (List.subset_cons_self _ _) (by simp) _
  | case8 seen rest key known id opened new unknown fresh ih =>
      exact ih.add fresh known (List.subset_cons_self _ _) (by simp) _
  | case9 seen rest key known id opened new index found fresh ih =>
      exact ih.add fresh known (fun _ member => by simp [member]) (by simp) _
  | case10 seen rest key unknown fresh ih =>
      refine ih.pass (List.Subset.refl _) (fun _ => Iff.rfl) (fun other known same => ?_) [] [] rfl
      cases same
      exact absurd known unknown

/-- The containers that a walk opens from a queue on. -/
structure OpensOnce (catalog : Catalog κ) (seen : List (Child κ)) (trail : Trail κ) : Prop where
  nodup : (openings trail.events).Nodup
  new : ∀ key ∈ openings trail.events, .container key ∉ seen ∧ key ∈ catalog.containers ∧
    ∃ visit ∈ trail.visits, .container key ∈ visit.index.children
  complete : trail.fault = none → ∀ key ∈ catalog.containers, .container key ∉ seen →
    (∃ visit ∈ trail.visits, .container key ∈ visit.index.children) → key ∈ openings trail.events

theorem explore_opensOnce (catalog : Catalog κ) (seen : List (Child κ)) (queue : List (Visit κ)) :
    catalog.OpensOnce seen (catalog.explore seen queue) := by
  fun_induction catalog.explore seen queue with
  | case1 seen => exact ⟨by simp [Trail.events], by simp [Trail.events], by simp [Trail.visits]⟩
  | case2 seen visit queue step fault failed =>
      have opens := catalog.expand_opens seen visit.index.children
      refine ⟨by simpa [Trail.events] using opens.nodup, ?_, fun whole => by cases whole⟩
      intro key member
      obtain ⟨unseen, listed, known⟩ := opens.new key (by simpa [Trail.events] using member)
      exact ⟨unseen, known, visit, by simp [Trail.visits], listed⟩
  | case3 seen visit queue step whole trail ih =>
      have opens := catalog.expand_opens seen visit.index.children
      have split : openings (Trail.events { trail with stops := ⟨visit, step.events⟩ :: trail.stops })
          = openings step.events ++ openings trail.events := by
        simp [Trail.events]
      have visits : Trail.visits { trail with stops := ⟨visit, step.events⟩ :: trail.stops } =
          visit :: trail.visits := rfl
      constructor
      case nodup =>
        rw [split, List.nodup_append]
        refine ⟨opens.nodup, ih.nodup, ?_⟩
        rintro key first _ again rfl
        exact (ih.new key again).1 ((opens.met key).mpr (.inr first))
      case new =>
        intro key member
        rw [visits]
        rw [split, List.mem_append] at member
        rcases member with first | later
        · obtain ⟨unseen, listed, known⟩ := opens.new key first
          exact ⟨unseen, known, visit, List.mem_cons_self, listed⟩
        · obtain ⟨unseen, known, other, member, listed⟩ := ih.new key later
          exact ⟨fun met => unseen (opens.grown met), known, other,
            List.mem_cons_of_mem _ member, listed⟩
      case complete =>
        intro sound key known unseen listed
        rw [split, List.mem_append]
        by_cases met : .container key ∈ step.seen
        · exact .inl (((opens.met key).mp met).resolve_left unseen)
        · right
          obtain ⟨other, member, listed⟩ := listed
          rcases List.mem_cons.mp member with rfl | later
          · exact absurd (opens.complete whole key known listed) met
          · exact ih.complete sound key known met ⟨other, later, listed⟩

theorem expand_endsWith (catalog : Catalog κ) (seen children : List (Child κ)) {fault : IndexFault}
    (ended : (catalog.expand seen children).fault = some fault) :
    catalog.EndsWith seen children fault := by
  fun_induction catalog.expand seen children with
  | case1 seen => cases ended
  | case5 seen rest key known failure failed fresh =>
      cases ended
      exact ⟨key, known, List.mem_cons_self, fresh, failed⟩
  | case2 | case3 | case10 =>
      rename_i ih
      exact (ih ended).mono (List.Subset.refl _)
  | case4 | case6 | case7 | case8 =>
      rename_i ih
      exact (ih ended).mono (List.subset_cons_self _ _)
  | case9 seen rest key known id opened new index found fresh ih =>
      exact (ih ended).mono fun _ member => by simp [member]

theorem explore_endsWith (catalog : Catalog κ) (seen : List (Child κ)) (queue : List (Visit κ))
    {fault : IndexFault} (ended : (catalog.explore seen queue).fault = some fault) :
    ∃ visit ∈ (catalog.explore seen queue).visits, catalog.EndsWith seen visit.index.children fault := by
  fun_induction catalog.explore seen queue with
  | case1 seen => cases ended
  | case2 seen visit queue step failure failed =>
      cases ended
      exact ⟨visit, by simp [Trail.visits], catalog.expand_endsWith _ _ failed⟩
  | case3 seen visit queue step whole trail ih =>
      obtain ⟨other, member, key, known, listed, unseen, failed⟩ := ih ended
      have grown := (catalog.expand_opens seen visit.index.children).grown
      exact ⟨other, List.mem_cons_of_mem _ member, key, known, listed, fun met => unseen (grown met), failed⟩

/-- A walk that opens containers as a breadth-first search of the catalogue. When no container fails,
it is complete. -/
structure IsBreadthFirst (catalog : Catalog κ) (start : Visit κ) (trail : Trail κ) : Prop where
  first : trail.visits.head? = some start
  once : (trail.visits.map Visit.id).Nodup
  reached : ∀ visit ∈ trail.visits, catalog.Reachable start visit
  ordered : trail.visits.Pairwise fun earlier later => ∀ near far,
    catalog.Distance start near earlier → catalog.Distance start far later → near ≤ far
  openedOnce : (openings trail.events).Nodup
  ownerClosed : ∀ key, start.index.owner = some key → key ∉ openings trail.events
  whole_iff : trail.fault = none ↔
    ∀ key, catalog.Meets start key → ∀ fault, catalog.opening key ≠ .failed fault
  visited_iff : trail.fault = none →
    ∀ visit, visit ∈ trail.visits ↔ catalog.Reachable start visit
  opened_iff : trail.fault = none →
    ∀ key, key ∈ openings trail.events ↔ catalog.Meets start key

/-- A complete walk visits every reachable visit. -/
theorem walk_complete {catalog : Catalog κ} {start : Visit κ} (begins : start.Begins catalog)
    (whole : (catalog.walk start).fault = none) (visit : Visit κ) :
    visit ∈ (catalog.walk start).visits ↔ catalog.Reachable start visit := by
  have completes := walk_completes begins
  constructor
  · intro member
    obtain ⟨distance, -, far⟩ := completes.far visit member
    exact far.reachable
  · intro reachable
    obtain ⟨distance, far⟩ := reachable.exists_distance
    exact completes.complete whole visit distance (Nat.zero_le _) far

theorem walk_visits_head? (catalog : Catalog κ) (start : Visit κ) :
    (catalog.walk start).visits.head? = some start := by
  rw [walk, explore]
  cases (catalog.expand start.marks start.index.children).fault <;> rfl

/-- The walk succeeds exactly when no container that it comes to fails. -/
theorem walk_fault_eq_none_iff {catalog : Catalog κ} {start : Visit κ}
    (begins : start.Begins catalog) :
    (catalog.walk start).fault = none ↔
      ∀ key, catalog.Meets start key → ∀ fault, catalog.opening key ≠ .failed fault := by
  have completes := walk_completes begins
  constructor
  · rintro whole key ⟨known, free, visit, reachable, listed⟩ fault failed
    exact completes.sound whole visit ((walk_complete begins whole visit).mpr reachable) _ listed
      free ⟨key, fault, rfl, known, failed⟩
  · intro sound
    by_contra broken
    obtain ⟨visit, reachable, child, listed, free, key, fault, rfl, known, failed⟩ :=
      completes.failing broken
    exact sound key ⟨known, free, visit, reachable, listed⟩ fault failed

/-- A walk ends with the fault of a container that it comes to. -/
theorem exists_failed_of_walk_fault {catalog : Catalog κ} {start : Visit κ} {fault : IndexFault}
    (begins : start.Begins catalog) (ended : (catalog.walk start).fault = some fault) :
    ∃ key, catalog.Meets start key ∧ catalog.opening key = .failed fault := by
  obtain ⟨visit, member, key, known, listed, unseen, failed⟩ := catalog.explore_endsWith _ _ ended
  obtain ⟨_, -, far⟩ := (walk_completes begins).far visit member
  exact ⟨key, ⟨known, fun owns => unseen (container_mem_marks.mpr owns), visit, far.reachable, listed⟩,
    failed⟩

/-- What ended a walk is a container on the way. -/
theorem exists_meets_failed {catalog : Catalog κ} {start : Visit κ} {fault : IndexFault}
    (begins : start.Begins catalog) (ended : (catalog.walk start).fault = some fault) :
    ∃ key fault, catalog.Meets start key ∧ catalog.opening key = .failed fault := by
  obtain ⟨key, meets, failed⟩ := exists_failed_of_walk_fault begins ended
  exact ⟨key, fault, meets, failed⟩

theorem walk_isBreadthFirst {catalog : Catalog κ} {start : Visit κ}
    (begins : start.Begins catalog) : catalog.IsBreadthFirst start (catalog.walk start) := by
  have completes := walk_completes begins
  have opens := catalog.explore_opensOnce start.marks [start]
  constructor
  case first => exact catalog.walk_visits_head? start
  case once =>
    refine List.Nodup.map_on ?_ completes.nodup
    intro left leftMember right rightMember same
    obtain ⟨_, -, leftFar⟩ := completes.far left leftMember
    obtain ⟨_, -, rightFar⟩ := completes.far right rightMember
    exact leftFar.1.eq_of_id_eq begins rightFar.1 same
  case reached =>
    intro visit member
    obtain ⟨_, -, far⟩ := completes.far visit member
    exact far.reachable
  case ordered => exact completes.ordered
  case openedOnce => exact opens.nodup
  case ownerClosed =>
    intro key owner opened
    exact (opens.new key opened).1 (container_mem_marks.mpr ⟨key, owner, rfl⟩)
  case whole_iff => exact walk_fault_eq_none_iff begins
  case visited_iff => exact walk_complete begins
  case opened_iff =>
    intro whole key
    constructor
    · intro opened
      obtain ⟨unseen, known, visit, member, listed⟩ := opens.new key opened
      exact ⟨known, fun owns => unseen (container_mem_marks.mpr owns), visit,
        (walk_complete begins whole visit).mp member, listed⟩
    · rintro ⟨known, free, visit, reachable, listed⟩
      exact opens.complete whole key known (fun met => free (container_mem_marks.mp met))
        ⟨visit, (walk_complete begins whole visit).mpr reachable, listed⟩

/-- An index made beforehand that is a child of itself. -/
def loop : SearchIndex Nat := ⟨[], [.container 1, .container 3, .index 0], some 2⟩

/-- Containers that hold each other or themselves, and two that hand out one index. -/
def tangled : Catalog Nat where
  containers := [0, 1, 2, 3]
  opening
    | 0 => .fresh ⟨[], [.container 0, .container 1, .index 0, .container 1], some 0⟩
    | 1 => .fresh ⟨[], [.container 2, .container 0, .container 9], some 1⟩
    | _ => .shared 0
  shared := [loop]

theorem tangled_walk_isBreadthFirst : Visit.Begins ⟨.shared 0, loop⟩ tangled ∧
    tangled.IsBreadthFirst ⟨.shared 0, loop⟩ (tangled.walk ⟨.shared 0, loop⟩) :=
  ⟨rfl, walk_isBreadthFirst rfl⟩

end Catalog

end Wayfinder.Search
