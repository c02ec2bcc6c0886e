import Wayfinder.Proofs.Search.Expansion

/-!
# The walk layer by layer

Going through the children of several visits one after another is one expansion of all of them, so a
queue is worked off layer by layer: first the visits that stand in it, then what they have queued.
-/

namespace Wayfinder.Search

variable {κ : Type}

namespace Expansion

@[simp] theorem after_events (expansion : Expansion κ) (events queued) :
    (expansion.after events queued).events = events ++ expansion.events := rfl

@[simp] theorem after_nil (expansion : Expansion κ) : expansion.after [] [] = expansion := rfl

theorem after_after (expansion : Expansion κ) (events events' queued queued') :
    (expansion.after events' queued').after events queued =
      expansion.after (events ++ events') (queued ++ queued') := by
  simp [after, List.append_assoc]

/-- An expansion with a second one behind it, if it does not fail. -/
def andThen (first second : Expansion κ) : Expansion κ :=
  match first.fault with
  | .some _ => first
  | .none => second.after first.events first.queued

theorem andThen_of_fault {first : Expansion κ} {fault : IndexFault}
    (failed : first.fault = some fault) (second : Expansion κ) : first.andThen second = first := by
  simp only [andThen, failed]

theorem andThen_of_whole {first : Expansion κ} (whole : first.fault = Option.none)
    (second : Expansion κ) :
    first.andThen second = second.after first.events first.queued := by
  simp only [andThen, whole]

theorem after_andThen (first second : Expansion κ) (events queued) :
    (first.after events queued).andThen second = (first.andThen second).after events queued := by
  cases ended : first.fault with
  | some fault =>
      rw [andThen_of_fault ended, @andThen_of_fault _ (first.after events queued) _ ended]
  | none =>
      rw [andThen_of_whole ended, @andThen_of_whole _ (first.after events queued) ended,
        after_after]
      rfl

end Expansion

/-- The visits of a walk, in order. -/
def Trail.visits (trail : Trail κ) : List (Visit κ) :=
  trail.stops.map Stop.visit

theorem Trail.indices_eq (trail : Trail κ) : trail.indices = trail.visits.map Visit.index := by
  simp [Trail.indices, Trail.visits]

theorem Trail.items_eq (trail : Trail κ) :
    trail.items = trail.visits.flatMap fun visit => visit.index.items := by
  rw [Trail.items, Trail.indices_eq, List.flatMap_map]

/-- The children of several visits, in order. -/
def childrenOf (visits : List (Visit κ)) : List (Child κ) :=
  visits.flatMap fun visit => visit.index.children

namespace Catalog

variable [DecidableEq κ]

theorem expand_of_mem {catalog : Catalog κ} {seen : List (Child κ)} {child : Child κ}
    (met : child ∈ seen) (rest : List (Child κ)) :
    catalog.expand seen (child :: rest) = (catalog.expand seen rest).after [.skipped child] [] := by
  cases child <;> rw [expand, if_pos met]

/-- Going through one list of children and then another. -/
theorem expand_append (catalog : Catalog κ) (seen left right : List (Child κ)) :
    catalog.expand seen (left ++ right) =
      (catalog.expand seen left).andThen (catalog.expand (catalog.expand seen left).seen right) := by
  fun_induction catalog.expand seen left with
  | case1 seen => rfl
  | case2 seen child rest met ih =>
      rw [List.cons_append, expand_of_mem met, ih, Expansion.after_andThen]
      rfl
  | case3 seen rest id unknown fresh ih =>
      rw [List.cons_append, expand, if_neg fresh]
      simpa only [unknown] using ih
  | case4 seen rest id index found fresh ih =>
      rw [List.cons_append, expand, if_neg fresh, Expansion.after_andThen]
      simp only [found, ih]
      rfl
  | case5 seen rest key known fault failed fresh =>
      rw [List.cons_append, expand, if_neg fresh]
      simp only [known, failed, if_true]
      rfl
  | case6 seen rest key known index opened fresh ih =>
      rw [List.cons_append, expand, if_neg fresh, Expansion.after_andThen]
      simp only [known, opened, if_true, ih]
      rfl
  | case7 seen rest key known id opened met fresh ih =>
      rw [List.cons_append, expand, if_neg fresh, Expansion.after_andThen]
      simp only [known, opened, met, if_true, ih]
      rfl
  | case8 seen rest key known id opened new unknown fresh ih =>
      rw [List.cons_append, expand, if_neg fresh, Expansion.after_andThen]
      simp only [known, opened, new, unknown, if_true, if_false, ih]
      rfl
  | case9 seen rest key known id opened new index found fresh ih =>
      rw [List.cons_append, expand, if_neg fresh, Expansion.after_andThen]
      simp only [known, opened, new, found, if_true, if_false, ih]
      rfl
  | case10 seen rest key unknown fresh ih =>
      rw [List.cons_append, expand, if_neg fresh]
      simpa only [unknown, if_false] using ih

/-- Going through containers that were not met before, each of which makes an index of its own. -/
theorem expand_fresh {catalog : Catalog κ} {α : Type} (key : α → κ) (index : α → SearchIndex κ)
    {seen : List (Child κ)} {values : List α}
    (known : ∀ value ∈ values, key value ∈ catalog.containers)
    (opens : ∀ value ∈ values, catalog.opening (key value) = .fresh (index value))
    (nodup : (values.map key).Nodup)
    (fresh : ∀ value ∈ values, .container (key value) ∉ seen) :
    catalog.expand seen (values.map fun value => .container (key value)) =
      ⟨(values.map fun value => Child.container (key value)).reverse ++ seen,
        values.map fun value => ⟨.opened (key value), index value⟩,
        values.map fun value => .opened (key value), none⟩ := by
  induction values generalizing seen with
  | nil => rfl
  | cons value values ih =>
      rw [List.map_cons, List.nodup_cons] at nodup
      have later (other : α) (member : other ∈ values) :
          .container (key other) ∉ Child.container (key value) :: seen := by
        intro met
        rcases List.mem_cons.mp met with same | met
        · exact nodup.1 (Child.container.inj same ▸ List.mem_map_of_mem member)
        · exact fresh other (by simp [member]) met
      have rest := ih (fun other member => known other (by simp [member]))
        (fun other member => opens other (by simp [member])) nodup.2 later
      rw [List.map_cons, expand, if_neg (fresh value (by simp))]
      simp only [known value (by simp), opens value (by simp), if_true, rest]
      simp [Expansion.after]

/-- The stops at the front of a queue, when going through all their children does not fail: their
visits and events are those of the front, and the walk goes on behind them. -/
theorem explore_append (catalog : Catalog κ) (seen : List (Child κ)) (front back : List (Visit κ))
    (whole : (catalog.expand seen (childrenOf front)).fault = none) :
    ∃ stops : List (Stop κ),
      stops.map Stop.visit = front ∧
      stops.flatMap Stop.events = (catalog.expand seen (childrenOf front)).events ∧
      catalog.explore seen (front ++ back) =
        let expansion := catalog.expand seen (childrenOf front)
        let trail := catalog.explore expansion.seen (back ++ expansion.queued)
        ⟨stops ++ trail.stops, trail.fault⟩ := by
  induction front generalizing seen back with
  | nil => exact ⟨[], rfl, by simp [childrenOf, expand, Expansion.none], by
      simp [childrenOf, expand, Expansion.none]⟩
  | cons visit front ih =>
      have parts := catalog.expand_append seen visit.index.children (childrenOf front)
      have children : childrenOf (visit :: front) =
          visit.index.children ++ childrenOf front := rfl
      rw [children, parts] at whole ⊢
      cases first : (catalog.expand seen visit.index.children).fault with
      | some fault =>
          rw [Expansion.andThen_of_fault first, first] at whole
          cases whole
      | none =>
          simp only [Expansion.andThen_of_whole first, Expansion.after_fault, Expansion.after_events,
            Expansion.after_queued, Expansion.after_seen] at whole ⊢
          obtain ⟨stops, visits, events, rest⟩ :=
            ih (catalog.expand seen visit.index.children).seen
              (back ++ (catalog.expand seen visit.index.children).queued) whole
          refine ⟨⟨visit, (catalog.expand seen visit.index.children).events⟩ :: stops, ?_, ?_, ?_⟩
          · simp [visits]
          · simp [events]
          · rw [List.cons_append, explore, first]
            simp only [List.append_assoc] at rest ⊢
            simp [rest]

/-- When going through the children of the front fails, the walk ends at one of its visits. -/
theorem explore_append_of_fault (catalog : Catalog κ) (seen : List (Child κ))
    (front back : List (Visit κ))
    (fails : (catalog.expand seen (childrenOf front)).fault ≠ none) :
    (catalog.explore seen (front ++ back)).visits <+: front ∧
      (catalog.explore seen (front ++ back)).visits ≠ [] ∧
      (catalog.explore seen (front ++ back)).fault ≠ none := by
  induction front generalizing seen back with
  | nil => simp [childrenOf, expand, Expansion.none] at fails
  | cons visit front ih =>
      have parts := catalog.expand_append seen visit.index.children (childrenOf front)
      have children : childrenOf (visit :: front) =
          visit.index.children ++ childrenOf front := rfl
      rw [children, parts] at fails
      rw [List.cons_append, explore]
      cases first : (catalog.expand seen visit.index.children).fault with
      | some fault => simp [Trail.visits]
      | none =>
          rw [Expansion.andThen_of_whole first, Expansion.after_fault] at fails
          obtain ⟨within, -, fault⟩ := ih _
            (back ++ (catalog.expand seen visit.index.children).queued) fails
          simp only [List.append_assoc]
          refine ⟨?_, by simp [Trail.visits], fault⟩
          simpa [Trail.visits] using within

/-- One layer of the walk: its visits, then the walk from what they have queued. -/
theorem explore_layer (catalog : Catalog κ) (seen : List (Child κ)) (layer : List (Visit κ))
    (whole : (catalog.expand seen (childrenOf layer)).fault = none) :
    let expansion := catalog.expand seen (childrenOf layer)
    let rest := catalog.explore expansion.seen expansion.queued
    let trail := catalog.explore seen layer
    trail.visits = layer ++ rest.visits ∧ trail.events = expansion.events ++ rest.events ∧
      trail.fault = rest.fault := by
  obtain ⟨stops, visits, events, split⟩ := catalog.explore_append seen layer [] whole
  simp only [List.append_nil, List.nil_append] at split
  simp [split, Trail.visits, Trail.events, visits, events]

end Catalog

end Wayfinder.Search
