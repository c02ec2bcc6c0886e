import Wayfinder.Proofs.Ending
import Wayfinder.Proofs.Outcome
import Wayfinder.Search.Loops

/-!
# When a search ends

The loops of a search end if every container that they come across opens, whether containment is cyclic
or not, and then they give what the walk gives. If some container that is to be opened never does, they
never end.
-/

namespace Wayfinder.Search

variable {κ : Type} {opens : κ → Prop}

/-- All containers open that some events open. -/
def AllOpen (opens : κ → Prop) (events : List (Event κ)) : Prop :=
  ∀ event ∈ events, ∀ key ∈ event.opened?, opens key

@[simp] theorem allOpen_nil : AllOpen opens [] ↔ True := by
  simp [AllOpen]

@[simp] theorem allOpen_append {left right : List (Event κ)} :
    AllOpen opens (left ++ right) ↔ AllOpen opens left ∧ AllOpen opens right :=
  List.forall_mem_append

@[simp] theorem allOpen_opened {key : κ} {events : List (Event κ)} :
    AllOpen opens (.opened key :: events) ↔ opens key ∧ AllOpen opens events := by
  simp [AllOpen, Event.opened?]

@[simp] theorem allOpen_skipped {child : Child κ} {events : List (Event κ)} :
    AllOpen opens (.skipped child :: events) ↔ AllOpen opens events := by
  simp [AllOpen, Event.opened?]

namespace Catalog

variable [DecidableEq κ] (catalog : Catalog κ) (opens)

/-- Going through children is going through the first and then, if it did not fail, the others. -/
theorem expand_cons (seen : List (Child κ)) (child : Child κ) (rest : List (Child κ)) :
    catalog.expand seen (child :: rest) =
      let first := catalog.expand seen [child]
      if first.fault.isSome then first
      else (catalog.expand first.seen rest).after first.events first.queued := by
  simp only [expand]
  split
  case isTrue => simp [Expansion.after, Expansion.none]
  case isFalse fresh =>
    cases child with
    | index id => cases found : catalog.shared[id]? <;> simp [found, Expansion.after, Expansion.none]
    | container key =>
        by_cases known : key ∈ catalog.containers
        · cases opened : catalog.opening key with
          | fresh index => simp [known, opened, Expansion.after, Expansion.none]
          | failed fault => simp [known, opened]
          | shared id =>
              by_cases met : .index id ∈ seen
              · simp [known, opened, met, Expansion.after, Expansion.none]
              · cases found : catalog.shared[id]? <;>
                  simp [known, opened, met, found, Expansion.after, Expansion.none]
        · simp [known, Expansion.after, Expansion.none]

/-- Going through a child ends if the container that it opens does. -/
theorem passes_iff (seen : List (Child κ)) (child : Child κ) :
    catalog.Passes opens seen child ↔ AllOpen opens (catalog.expand seen [child]).events := by
  by_cases met : child ∈ seen
  · cases child <;> simp [Passes, expand, met, Expansion.after, Expansion.none]
  · cases child with
    | index id => cases found : catalog.shared[id]? <;>
        simp [Passes, expand, met, found, Expansion.after, Expansion.none]
    | container key =>
        by_cases known : key ∈ catalog.containers
        · cases opened : catalog.opening key with
          | fresh index => simp [Passes, expand, met, known, opened, Expansion.after, Expansion.none]
          | failed fault => simp [Passes, expand, met, known, opened]
          | shared id =>
              by_cases again : .index id ∈ seen
              · simp [Passes, expand, met, known, opened, again, Expansion.after, Expansion.none]
              · cases found : catalog.shared[id]? <;>
                  simp [Passes, expand, met, known, opened, again, found, Expansion.after, Expansion.none]
        · simp [Passes, expand, met, known, Expansion.none]

/-- Going through children ends if all that are opened open. -/
theorem expand?_eq (seen children : List (Child κ)) : catalog.expand? opens seen children =
    provided (AllOpen opens (catalog.expand seen children).events) (catalog.expand seen children) := by
  induction children generalizing seen with
  | nil => exact (provided_of (by simp [expand, Expansion.none]) _).symm
  | cons child rest ih =>
      have parts := catalog.expand_cons seen child rest
      rw [expand?, passes_iff, parts]
      generalize catalog.expand seen [child] = first
      cases failed : first.fault.isSome with
      | true =>
          simp only [failed, if_true]
          rw [assert_provided fun _ => (provided_of trivial first).symm]
          exact provided_congr (iff_of_eq (and_true _)) first
      | false =>
          simp only [failed, ih, Bool.false_eq_true, if_false, map_provided]
          rw [assert_provided fun _ => rfl]
          exact provided_congr allOpen_append.symm _

theorem exploreNext_cons (stops : List (Stop κ)) (seen : List (Child κ)) (visit : Visit κ)
    (queue : List (Visit κ)) : catalog.exploreNext opens ⟨stops, seen, visit :: queue⟩ =
      let step := catalog.expand seen visit.index.children
      let stops := stops ++ [⟨visit, step.events⟩]
      provided (AllOpen opens step.events) (match step.fault with
        | some fault => .inl ⟨stops, some fault⟩
        | none => .inr ⟨stops, step.seen, queue ++ step.queued⟩) := by
  change catalog.expand? opens seen visit.index.children >>= _ = _
  rw [expand?_eq]
  apply provided_bind_some
  cases (catalog.expand seen visit.index.children).fault <;> simp

/-- The loop over visits ends if all containers on the way open. -/
theorem fix_exploreNext (stops : List (Stop κ)) (seen : List (Child κ)) (queue : List (Visit κ)) :
    (catalog.exploreNext opens).fix ⟨stops, seen, queue⟩ =
      let trail := catalog.explore seen queue
      provided (AllOpen opens trail.events) ⟨stops ++ trail.stops, trail.fault⟩ := by
  -- The induction is on the walk, which ends: the loop makes its rounds one by one.
  fun_induction catalog.explore seen queue generalizing stops with
  | case1 seen =>
      have made : catalog.exploreNext opens ⟨stops, seen, []⟩ =
          provided (AllOpen opens []) (.inl ⟨stops, none⟩) := (provided_of (by simp) _).symm
      rw [fix_of_last made]
      simp [Trail.events]
  | case2 seen visit queue step fault failed =>
      have made := catalog.exploreNext_cons opens stops seen visit queue
      have expanded : catalog.expand seen visit.index.children = step := rfl
      simp only [expanded, failed] at made
      rw [fix_of_last made]
      simp [Trail.events]
  | case3 seen visit queue step unfailed trail ih =>
      have made := catalog.exploreNext_cons opens stops seen visit queue
      have expanded : catalog.expand seen visit.index.children = step := rfl
      have explored : catalog.explore step.seen (queue ++ step.queued) = trail := rfl
      simp only [expanded, unfailed] at made
      rw [explored] at ih
      rw [fix_of_next made (ih _)]
      simp [Trail.events]

theorem explore?_eq (seen : List (Child κ)) (queue : List (Visit κ)) :
    catalog.explore? opens seen queue =
      provided (AllOpen opens (catalog.explore seen queue).events) (catalog.explore seen queue) :=
  catalog.fix_exploreNext opens [] seen queue

section Suggestions

variable {query : String} {limit : Option Int} {visit : Visit κ}

theorem suggestNext_of_full {found : List (SearchItem κ)} (seen : List (Child κ)) (queue : List (Visit κ))
    (full : (collect query limit found visit.index.items).full = true) :
    catalog.suggestNext opens query limit ⟨found, seen, visit :: queue⟩ =
      provided (AllOpen opens []) (.inl (.ok (collect query limit found visit.index.items).found)) := by
  rw [provided_of (by simp)]
  simp only [suggestNext, full, if_true]

theorem suggestNext_of_open {found : List (SearchItem κ)} (seen : List (Child κ)) (queue : List (Visit κ))
    (open_ : (collect query limit found visit.index.items).full = false) :
    catalog.suggestNext opens query limit ⟨found, seen, visit :: queue⟩ =
      let step := catalog.expand seen visit.index.children
      provided (AllOpen opens step.events) (match step.fault with
        | some fault => .inl (.error fault)
        | none => .inr ⟨(collect query limit found visit.index.items).found, step.seen,
            queue ++ step.queued⟩) := by
  simp only [suggestNext, open_, Bool.false_eq_true, if_false, expand?_eq]
  apply provided_bind_some
  cases (catalog.expand seen visit.index.children).fault <;> simp

/-- The loop of suggestions ends if all containers that it comes across open. -/
theorem suggest?_eq (found : List (SearchItem κ)) (seen : List (Child κ)) (queue : List (Visit κ)) :
    catalog.suggest? opens query limit ⟨found, seen, queue⟩ =
      let trail := catalog.explore seen queue
      let collected := collectStops query limit trail.fault found trail.stops
      provided (AllOpen opens collected.events) collected.result := by
  fun_induction catalog.explore seen queue generalizing found with
  | case1 seen =>
      have made : catalog.suggestNext opens query limit ⟨found, seen, []⟩ =
          provided (AllOpen opens []) (.inl (.ok found)) := (provided_of (by simp) _).symm
      exact fix_of_last made
  | case2 seen visit queue step fault failed =>
      have expanded : catalog.expand seen visit.index.children = step := rfl
      cases full : (collect query limit found visit.index.items).full with
      | true =>
          simp only [collectStops, full, if_true]
          exact fix_of_last (catalog.suggestNext_of_full opens seen queue full)
      | false =>
          have made := catalog.suggestNext_of_open opens seen queue full
          simp only [expanded, failed] at made
          simp only [collectStops, full]
          rw [suggest?, fix_of_last made]
          simp [Traced.andThen, Traced.emit, Traced.fail]
  | case3 seen visit queue step unfailed trail ih =>
      have expanded : catalog.expand seen visit.index.children = step := rfl
      have explored : catalog.explore step.seen (queue ++ step.queued) = trail := rfl
      rw [explored] at ih
      cases full : (collect query limit found visit.index.items).full with
      | true =>
          simp only [collectStops, full, if_true]
          exact fix_of_last (catalog.suggestNext_of_full opens seen queue full)
      | false =>
          have made := catalog.suggestNext_of_open opens seen queue full
          simp only [expanded, unfailed] at made
          simp only [collectStops, full]
          rw [suggest?, fix_of_next made (ih _)]
          simp [Traced.andThen, Traced.emit]

end Suggestions

/-- An exact search that is started from a container. -/
def findFrom (key : κ) (query : String) (caseSensitive : Bool) :
    Traced (Event κ) IndexFault (Option (SearchItem κ)) := do
  catalog.find (← catalog.openStart key) query caseSensitive

/-- Suggestions that are collected from a container on. -/
def suggestFrom (key : κ) (query : String) (limit : Option Int) :
    Traced (Event κ) IndexFault (List (SearchItem κ)) := do
  catalog.suggest (← catalog.openStart key) query limit

omit [DecidableEq κ] in
/-- A search goes through the loops from its first container on. -/
theorem openFirst?_eq {α : Type} {key : κ} {next : Visit κ → Traced (Event κ) IndexFault α}
    {loop : Visit κ → Part (Except IndexFault α)}
    (loops : ∀ start, loop start = provided (AllOpen opens (next start).events) (next start).result) :
    catalog.openFirst? opens key loop =
      let whole := catalog.openStart key >>= next
      provided (AllOpen opens whole.events) whole.result := by
  have opening : (catalog.openStart key).events = [.opened key] := rfl
  rw [openFirst?, Traced.bind_eq]
  cases started : (catalog.openStart key).result with
  | error fault =>
      rw [Traced.andThen_of_error started, opening]
      rw [assert_provided fun _ => (provided_of trivial _).symm]
      exact provided_congr (by simp) _
  | ok start =>
      rw [Traced.andThen_of_ok started, opening]
      rw [assert_provided fun _ => loops start]
      exact provided_congr (by simp) _

/-- An exact search ends if all containers that it opens open. -/
theorem findFrom?_eq (key : κ) (query : String) (caseSensitive : Bool) :
    catalog.findFrom? opens key query caseSensitive =
      provided (AllOpen opens (catalog.findFrom key query caseSensitive).events)
        (catalog.findFrom key query caseSensitive).result := by
  apply catalog.openFirst?_eq opens
  intro start
  have walked : catalog.explore start.marks [start] = catalog.walk start := rfl
  rw [explore?_eq, walked, find, Traced.bind_eq, indices, map_provided]
  cases (catalog.walk start).fault <;> simp [Traced.andThen, Trail.items]

/-- Suggestions end if all containers that are opened for them open. -/
theorem suggestFrom?_eq (key : κ) (query : String) (limit : Option Int) :
    catalog.suggestFrom? opens key query limit =
      provided (AllOpen opens (catalog.suggestFrom key query limit).events)
        (catalog.suggestFrom key query limit).result := by
  apply catalog.openFirst?_eq opens
  intro start
  rw [suggest?_eq]
  rfl

end Catalog

end Wayfinder.Search
