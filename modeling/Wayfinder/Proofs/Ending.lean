import Mathlib.Data.PFun

/-!
# Computations that may never end

What a loop comes to is told by when it ends and by the answer that it then has.
-/

namespace Wayfinder

variable {α β : Type} {condition other : Prop}

/-- An answer that is there under a condition. Otherwise the computation never ends. -/
def provided (condition : Prop) (answer : α) : Part α :=
  ⟨condition, fun _ => answer⟩

@[simp] theorem dom_provided {answer : α} : (provided condition answer).Dom ↔ condition := Iff.rfl

@[simp] theorem map_provided (change : α → β) (answer : α) :
    (provided condition answer).map change = provided condition (change answer) := rfl

theorem provided_of (holds : condition) (answer : α) : provided condition answer = .some answer :=
  Part.ext' (iff_of_true holds trivial) fun _ _ => rfl

theorem provided_of_not (fails : ¬condition) (answer : α) : provided condition answer = .none :=
  Part.ext' (iff_of_false fails id) fun holds _ => absurd holds fails

theorem provided_congr (same : condition ↔ other) (answer : α) :
    provided condition answer = provided other answer := by
  rw [propext same]

/-- What is done with an answer is done if the answer is there. -/
theorem provided_bind {answer : α} {next : α → Part β} {last : β} (done : next answer = provided other last) :
    provided condition answer >>= next = provided (condition ∧ other) last := by
  by_cases holds : condition
  · rw [provided_of holds, Part.bind_eq_bind, Part.bind_some, done]
    exact provided_congr (by simp [holds]) last
  · rw [provided_of_not holds, Part.bind_eq_bind, Part.bind_none, provided_of_not fun both => holds both.1]

theorem assert_provided {next : condition → Part α} {last : α}
    (done : ∀ holds, next holds = provided other last) :
    Part.assert condition next = provided (condition ∧ other) last := by
  by_cases holds : condition
  · rw [Part.assert_pos holds, done]
    exact provided_congr (by simp [holds]) last
  · rw [Part.assert_neg holds, provided_of_not fun both => holds both.1]

theorem provided_bind_some {answer : α} {next : α → Part β} {last : β}
    (done : next answer = .some last) : provided condition answer >>= next = provided condition last := by
  rw [provided_bind (done.trans (provided_of trivial last).symm)]
  exact provided_congr (iff_of_eq (and_true condition)) last

/-- A loop of which a round never ends never ends. -/
theorem fix_of_stuck {round : α →. β ⊕ α} {state : α} (stuck : ¬(round state).Dom) :
    round.fix state = .none :=
  Part.eq_none_iff.mpr fun _ member => stuck (PFun.dom_of_mem_fix member)

/-- A loop whose round is the last one ends if the round does. -/
theorem fix_of_last {round : α →. β ⊕ α} {state : α} {answer : β}
    (made : round state = provided condition (.inl answer)) :
    round.fix state = provided condition answer := by
  by_cases holds : condition
  · rw [provided_of holds] at made ⊢
    exact Part.eq_some_iff.mpr (PFun.fix_stop (Part.eq_some_iff.mp made))
  · rw [provided_of_not holds, fix_of_stuck (by rwa [made, dom_provided])]

/-- A loop whose round is not the last one ends if the round does and what comes after it. -/
theorem fix_of_next {round : α →. β ⊕ α} {state next : α} {answer : β}
    (made : round state = provided condition (.inr next))
    (onward : round.fix next = provided other answer) :
    round.fix state = provided (condition ∧ other) answer := by
  by_cases holds : condition
  · rw [provided_of holds] at made
    rw [PFun.fix_fwd_eq (Part.eq_some_iff.mp made), onward]
    exact provided_congr (by simp [holds]) answer
  · rw [provided_of_not fun both => holds both.1, fix_of_stuck (by rwa [made, dom_provided])]

end Wayfinder
