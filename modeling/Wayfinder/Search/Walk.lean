import Wayfinder.Search.Event

/-!
# The walk over a catalogue

From one index a search visits every index that can be reached, the shallowest first. Children are
opened only when the walk gets to them, each container at most once, and the container that the first
index was made for not at all. So the walk ends on cyclic containment too: every visit but the first
uses up a child that was not met before, and a catalogue has finitely many.

The walk is recorded as a list of stops: an index and the events of going through its children. A
search that has seen enough simply reads no further stop.
-/

namespace Wayfinder.Search

variable {κ : Type}

/-- The children that count as met before the walk begins. -/
def Visit.marks (visit : Visit κ) : List (Child κ) :=
  (match visit.id with
    | .shared id => [.index id]
    | _ => []) ++
    (match visit.index.owner with
      | some key => [.container key]
      | none => [])

/-- What going through a list of children comes to: the children met so far, the visits to make
later, what happened, and the failure that ended it, if any. -/
structure Expansion (κ : Type) where
  seen : List (Child κ)
  queued : List (Visit κ)
  events : List (Event κ)
  fault : Option IndexFault

namespace Expansion

/-- Nothing found yet. -/
def none (seen : List (Child κ)) : Expansion κ := ⟨seen, [], [], .none⟩

/-- An expansion with something that came before it. -/
def after (expansion : Expansion κ) (events : List (Event κ)) (queued : List (Visit κ)) :
    Expansion κ :=
  { expansion with events := events ++ expansion.events, queued := queued ++ expansion.queued }

@[simp] theorem after_seen (expansion : Expansion κ) (events queued) :
    (expansion.after events queued).seen = expansion.seen := rfl

@[simp] theorem after_queued (expansion : Expansion κ) (events queued) :
    (expansion.after events queued).queued = queued ++ expansion.queued := rfl

@[simp] theorem after_fault (expansion : Expansion κ) (events queued) :
    (expansion.after events queued).fault = expansion.fault := rfl

end Expansion

namespace Catalog

variable [DecidableEq κ]

/-- Go through the children of an index, given those met before. A child met before is skipped; a
new one is opened unless it is an index already, and the index is queued unless it too was met. A
child that leads nowhere is passed over. -/
def expand (catalog : Catalog κ) (seen : List (Child κ)) : List (Child κ) → Expansion κ
  | [] => .none seen
  | child :: rest =>
    if child ∈ seen then
      (catalog.expand seen rest).after [.skipped child] []
    else
      match child with
      | .index id =>
        match catalog.shared[id]? with
        | .none => catalog.expand seen rest
        | some index => (catalog.expand (child :: seen) rest).after [] [⟨.shared id, index⟩]
      | .container key =>
        if key ∈ catalog.containers then
          match catalog.opening key with
          | .failed fault => ⟨child :: seen, [], [.opened key], some fault⟩
          | .fresh index =>
            (catalog.expand (child :: seen) rest).after [.opened key] [⟨.opened key, index⟩]
          | .shared id =>
            if .index id ∈ seen then
              (catalog.expand (child :: seen) rest).after [.opened key] []
            else
              match catalog.shared[id]? with
              | .none => (catalog.expand (child :: seen) rest).after [.opened key] []
              | some index =>
                (catalog.expand (.index id :: child :: seen) rest).after [.opened key]
                  [⟨.shared id, index⟩]
        else catalog.expand seen rest

/-- How many children of a catalogue were not met yet. -/
def unmet (catalog : Catalog κ) (seen : List (Child κ)) : Nat :=
  catalog.children.countP fun child => decide (child ∉ seen)

theorem unmet_cons_le (catalog : Catalog κ) (seen : List (Child κ)) (child : Child κ) :
    catalog.unmet (child :: seen) ≤ catalog.unmet seen := by
  apply List.countP_mono_left
  intro other _ unseen
  simp_all

theorem unmet_cons_lt {catalog : Catalog κ} {seen : List (Child κ)} {child : Child κ}
    (known : child ∈ catalog.children) (fresh : child ∉ seen) :
    catalog.unmet (child :: seen) < catalog.unmet seen := by
  obtain ⟨before, behind, parts⟩ := List.append_of_mem known
  have shrink (others : List (Child κ)) :
      others.countP (fun other => decide (other ∉ child :: seen)) ≤
        others.countP (fun other => decide (other ∉ seen)) := by
    apply List.countP_mono_left
    intro other _ unseen
    simp_all
  have first := shrink before
  have second := shrink behind
  simp only [unmet, parts, List.countP_append, List.countP_cons]
  simp only [fresh, List.mem_cons, true_or, not_true_eq_false, decide_false, not_false_eq_true,
    decide_true, Bool.false_eq_true, if_false, if_true] at *
  omega

/-- Every queued visit used up a child that was not met before. -/
theorem expand_unmet (catalog : Catalog κ) (seen children : List (Child κ)) :
    catalog.unmet (catalog.expand seen children).seen +
      (catalog.expand seen children).queued.length ≤ catalog.unmet seen := by
  fun_induction catalog.expand seen children with
  | case1 seen => simp [Expansion.none]
  | case2 seen child rest met ih => simpa using ih
  | case3 seen rest id fresh unknown ih => exact ih
  | case4 seen rest id index found fresh ih =>
    have used := unmet_cons_lt (index_mem_children found) fresh
    simp only [Expansion.after_seen, Expansion.after_queued, List.length_append, List.length_cons,
      List.length_nil]
    omega
  | case5 seen rest key known fault failed fresh =>
    simpa using unmet_cons_le catalog seen (.container key)
  | case6 seen rest key known index opened fresh ih =>
    have used := unmet_cons_lt (container_mem_children known) fresh
    simp only [Expansion.after_seen, Expansion.after_queued, List.length_append, List.length_cons,
      List.length_nil]
    omega
  | case7 seen rest key known id opened met fresh ih =>
    have used := unmet_cons_le catalog seen (.container key)
    simp only [Expansion.after_seen, Expansion.after_queued, List.length_append, List.length_nil]
    omega
  | case8 seen rest key known id opened new unknown fresh ih =>
    have used := unmet_cons_le catalog seen (.container key)
    simp only [Expansion.after_seen, Expansion.after_queued, List.length_append, List.length_nil]
    omega
  | case9 seen rest key known id opened new index found fresh ih =>
    have used := unmet_cons_lt (container_mem_children known) fresh
    have more := unmet_cons_le catalog (.container key :: seen) (.index id)
    simp only [Expansion.after_seen, Expansion.after_queued, List.length_append, List.length_cons,
      List.length_nil]
    omega
  | case10 seen rest key unknown fresh ih => exact ih

end Catalog

/-- One index of a walk, and what happened at its children after it was looked at. -/
structure Stop (κ : Type) where
  visit : Visit κ
  events : List (Event κ)

/-- The stops of a walk in order, and the failure that ended it, if any. -/
structure Trail (κ : Type) where
  stops : List (Stop κ)
  fault : Option IndexFault

namespace Trail

/-- The events of a whole walk. -/
def events (trail : Trail κ) : List (Event κ) :=
  trail.stops.flatMap Stop.events

/-- The indices of a walk, in order. -/
def indices (trail : Trail κ) : List (SearchIndex κ) :=
  trail.stops.map fun stop => stop.visit.index

/-- The items of a walk: those of each index in turn, in the order of their declaration. -/
def items (trail : Trail κ) : List (SearchItem κ) :=
  trail.indices.flatMap SearchIndex.items

end Trail

namespace Catalog

variable [DecidableEq κ]

/-- Make the queued visits one after another; what each of them queues goes to the end. -/
def explore (catalog : Catalog κ) (seen : List (Child κ)) : List (Visit κ) → Trail κ
  | [] => ⟨[], none⟩
  | visit :: queue =>
    let step := catalog.expand seen visit.index.children
    match step.fault with
    | some fault => ⟨[⟨visit, step.events⟩], some fault⟩
    | none =>
      let trail := catalog.explore step.seen (queue ++ step.queued)
      { trail with stops := ⟨visit, step.events⟩ :: trail.stops }
  termination_by queue => catalog.unmet seen + queue.length
  decreasing_by
    have bound := catalog.expand_unmet seen visit.index.children
    simp only [List.length_append, List.length_cons]
    omega

/-- The walk from one index. -/
def walk (catalog : Catalog κ) (start : Visit κ) : Trail κ :=
  catalog.explore start.marks [start]

end Catalog

end Wayfinder.Search
