import Wayfinder.Traced

/-!
# Outcomes

When a computation that may be refused, or that leaves a trace, ends in a value, and what a fold of such
computations keeps.
-/

namespace Wayfinder

variable {ω ε δ α β : Type}

theorem map_eq_ok_iff {outcome : Except ε α} {change : α → β} {value : β} :
    outcome.map change = .ok value ↔ ∃ before, outcome = .ok before ∧ change before = value := by
  cases outcome <;> simp [Except.map]

theorem map_eq_error_iff {outcome : Except ε α} {change : α → β} {error : ε} :
    outcome.map change = .error error ↔ outcome = .error error := by
  cases outcome <;> simp [Except.map]

theorem mapError_eq_ok_iff {outcome : Except ε α} {rename : ε → δ} {value : α} :
    outcome.mapError rename = .ok value ↔ outcome = .ok value := by
  constructor
  · intro ended
    cases outcome <;> cases ended
    rfl
  · rintro rfl
    rfl

theorem bind_eq_ok_iff {outcome : Except ε α} {next : α → Except ε β} {value : β} :
    outcome >>= next = .ok value ↔ ∃ before, outcome = .ok before ∧ next before = .ok value := by
  cases outcome <;> simp [bind, Except.bind]

theorem ok_bind (value : α) (next : α → Except ε β) : (.ok value : Except ε α) >>= next = next value :=
  rfl

theorem bind_congr_ok {outcome : Except ε α} {next other : α → Except ε β}
    (same : ∀ value, outcome = .ok value → next value = other value) :
    outcome >>= next = outcome >>= other := by
  cases outcome with
  | error _ => rfl
  | ok value => exact same value rfl

/-- Computations in a row all end in a value if each does. -/
theorem exists_mapM_ok {next : α → Except ε β} {items : List α}
    (each : ∀ item ∈ items, ∃ value, next item = .ok value) : ∃ values, items.mapM next = .ok values := by
  induction items with
  | nil => exact ⟨[], rfl⟩
  | cons item rest ih =>
      obtain ⟨value, first⟩ := each item List.mem_cons_self
      obtain ⟨values, others⟩ := ih fun other member => each other (List.mem_cons_of_mem item member)
      refine ⟨value :: values, ?_⟩
      rw [List.mapM_cons, first, others]
      rfl

/-- The first of them that fails is the one that is told. -/
theorem mapM_of_error {next : α → Except ε β} {item : α} {before : List α} {error : ε}
    (each : ∀ other ∈ before, ∃ value, next other = .ok value) (failed : next item = .error error)
    (after : List α) : (before ++ item :: after).mapM next = .error error := by
  induction before with
  | nil =>
      rw [List.nil_append, List.mapM_cons, failed]
      rfl
  | cons other before ih =>
      obtain ⟨value, first⟩ := each other List.mem_cons_self
      have rest := ih fun name member => each name (List.mem_cons_of_mem other member)
      rw [List.cons_append, List.mapM_cons, first, rest]
      rfl

/-- A traced computation that has emitted nothing so far goes on as if it began. -/
theorem silent_bind (value : α) (next : α → Traced ω ε β) :
    (⟨[], .ok value⟩ : Traced ω ε α) >>= next = next value := rfl

/-- A traced computation that goes on after a value ends as what it goes on with. -/
theorem result_bind_of_ok {first : Traced ω ε α} {value : α} (ended : first.result = .ok value)
    (next : α → Traced ω ε β) : (first >>= next).result = (next value).result := by
  rw [Traced.bind_eq, Traced.andThen_of_ok ended]

/-- A traced computation that fails does so whatever was to come. -/
theorem result_bind_of_error {first : Traced ω ε α} {error : ε} (ended : first.result = .error error)
    (next : α → Traced ω ε β) : (first >>= next).result = .error error := by
  rw [Traced.bind_eq, Traced.andThen_of_error ended]

theorem result_bind_eq_ok_iff {first : Traced ω ε α} {next : α → Traced ω ε β} {value : β} :
    (first >>= next).result = .ok value ↔
      ∃ before, first.result = .ok before ∧ (next before).result = .ok value := by
  cases ended : first.result with
  | error _ => simp [result_bind_of_error ended]
  | ok _ => simp [result_bind_of_ok ended]

theorem events_emit_subset {event : ω} {events : List ω} (member : event ∈ events) :
    (Traced.emit [event] : Traced ω ε Unit).events ⊆ events :=
  List.cons_subset.mpr ⟨member, List.nil_subset _⟩

/-- What a computation emits is emitted by one of its parts. -/
theorem events_bind_subset {first : Traced ω ε α} {next : α → Traced ω ε β} {events : List ω}
    (begins : first.events ⊆ events)
    (goesOn : ∀ value, first.result = .ok value → (next value).events ⊆ events) :
    (first >>= next).events ⊆ events := by
  cases ended : first.result with
  | error _ => rwa [Traced.bind_eq, Traced.andThen_of_error ended]
  | ok value =>
      rw [Traced.bind_eq, Traced.andThen_of_ok ended]
      exact List.append_subset.mpr ⟨begins, goesOn value ended⟩

theorem traced_bind_congr {first : Traced ω ε α} {next other : α → Traced ω ε β}
    (same : ∀ value, first.result = .ok value → next value = other value) :
    first >>= next = first >>= other := by
  cases ended : first.result with
  | error _ =>
      rw [Traced.bind_eq, Traced.bind_eq, Traced.andThen_of_error ended,
        Traced.andThen_of_error ended]
  | ok value =>
      rw [Traced.bind_eq, Traced.bind_eq, Traced.andThen_of_ok ended, Traced.andThen_of_ok ended,
        same value ended]

theorem bind_bind {γ : Type} (first : Traced ω ε α) (second : α → Traced ω ε β)
    (third : β → Traced ω ε γ) :
    first >>= second >>= third = first >>= fun value => second value >>= third := by
  obtain ⟨events, _ | value⟩ := first
  · rfl
  · simp only [Traced.bind_eq, Traced.andThen]
    cases (second value).result <;> simp

theorem traced_id_map (computation : Traced ω ε α) : id <$> computation = computation := by
  obtain ⟨events, _ | value⟩ := computation
  · rfl
  · exact congrArg (Traced.mk · (.ok value)) (List.append_nil events)

instance : LawfulMonad (Traced ω ε) := LawfulMonad.mk' (Traced ω ε) traced_id_map silent_bind bind_bind

theorem result_ofExcept_bind (outcome : Except ε α) (next : α → Traced ω ε β) :
    (Traced.ofExcept outcome >>= next).result = outcome >>= fun value => (next value).result := by
  cases outcome with
  | error _ => rfl
  | ok value => exact congrArg Traced.result (silent_bind value next)

theorem result_mapError_of_error {computation : Traced ω ε α} {error : ε}
    (ended : computation.result = .error error) (rename : ε → δ) :
    (computation.mapError rename).result = .error (rename error) := by
  rw [Traced.mapError, ended]
  rfl

theorem result_mapError_of_ok {computation : Traced ω ε α} {value : α}
    (ended : computation.result = .ok value) (rename : ε → δ) :
    (computation.mapError rename).result = .ok value := by
  rw [Traced.mapError, ended]
  rfl

theorem result_mapError_eq_ok_iff {computation : Traced ω ε α} {rename : ε → δ} {value : α} :
    (computation.mapError rename).result = .ok value ↔ computation.result = .ok value := by
  cases ended : computation.result with
  | error _ => simp [result_mapError_of_error ended]
  | ok _ => simp [result_mapError_of_ok ended]

/-- A fold keeps what relates the state to the rows read so far, if every step does. -/
theorem exists_foldlM {m : Type → Type} [Monad m] {ρ σ : Type} {step : σ → ρ → m σ}
    (pure_bind : ∀ (state : σ) (next : σ → m σ), pure state >>= next = next state)
    (Reads : σ → List ρ → Prop) {rows : List ρ}
    (each : ∀ read row rest state, rows = read ++ row :: rest → Reads state read →
      ∃ next, step state row = pure next ∧ Reads next (read ++ [row]))
    {start : σ} (begun : Reads start []) :
    ∃ after, rows.foldlM step start = pure after ∧ Reads after rows := by
  have reading (rest : List ρ) : ∀ read state, rows = read ++ rest → Reads state read →
      ∃ after, rest.foldlM step state = pure after ∧ Reads after rows := by
    induction rest with
    | nil =>
        intro read state parts reads
        rw [List.append_nil] at parts
        exact ⟨state, rfl, parts ▸ reads⟩
    | cons row rest ih =>
        intro read state parts reads
        obtain ⟨next, first, reads'⟩ := each read row rest state parts reads
        obtain ⟨after, others, all⟩ := ih (read ++ [row]) next (by simp [parts]) reads'
        refine ⟨after, ?_, all⟩
        rw [List.foldlM_cons, first, pure_bind]
        exact others
  exact reading rows [] start rfl begun

end Wayfinder
