import SheetWire.Error

/-!
# Values, errors and runs that do not finish

A run gives a value or an error, and one error, `Error.endless`, says that it has not finished: the
bound of a recursion was too small, or there was no memory. What two runs in a row give is told from
what each of them gives.
-/

namespace SheetWire

variable {α β : Type}

/-- Whether a result says that the bound of a recursion was too small. -/
def Endless (result : Except Error α) : Prop :=
  ∃ label, result = .error (.endless (.stack label))

/-- Whether a result says that there was too little memory. -/
def Short (result : Except Error α) : Prop :=
  ∃ count, result = .error (.endless (.memory count))

/-- Whether a run finishes, with a value or with an error that a caller is given. -/
def Finishes (result : Except Error α) : Prop :=
  ∀ shortage, result ≠ .error (.endless shortage)

/-- A run finishes if it has enough of everything. -/
theorem finishes_iff {result : Except Error α} :
    Finishes result ↔ ¬ Endless result ∧ ¬ Short result := by
  constructor
  · intro h
    exact ⟨fun ⟨_, hresult⟩ => h _ hresult, fun ⟨_, hresult⟩ => h _ hresult⟩
  · intro h shortage hresult
    cases shortage with
    | stack label => exact h.1 ⟨label, hresult⟩
    | memory count => exact h.2 ⟨count, hresult⟩

/-- A value came under a bound that was large enough. -/
theorem not_endless_ok (value : α) : ¬ Endless (.ok value) :=
  fun ⟨_, h⟩ => nomatch h

/-- Two runs in a row give a value when both do. -/
theorem bind_eq_ok {ε : Type} {first : Except ε α} {next : α → Except ε β} {value : β} :
    first >>= next = .ok value ↔ ∃ middle, first = .ok middle ∧ next middle = .ok value := by
  cases first with
  | error e =>
      refine ⟨fun h => (nomatch h), ?_⟩
      intro h
      obtain ⟨_, hmiddle, _⟩ := h
      exact nomatch hmiddle
  | ok middle =>
      refine ⟨fun h => ⟨middle, rfl, h⟩, ?_⟩
      intro h
      obtain ⟨_, hmiddle, h⟩ := h
      cases hmiddle
      exact h

/-- A list made of a first element and others is given when both are. -/
theorem bind_cons_eq_ok {ε : Type} {head : Except ε α} {tail : Except ε (List α)} {list : List α} :
    (do let first ← head
        let others ← tail
        pure (first :: others)) = .ok list ↔
      ∃ first others, head = .ok first ∧ tail = .ok others ∧ list = first :: others := by
  simp only [bind_eq_ok]
  constructor
  · intro h
    obtain ⟨first, hfirst, others, hothers, ⟨⟩⟩ := h
    exact ⟨first, others, hfirst, hothers, rfl⟩
  · intro h
    obtain ⟨first, others, hfirst, hothers, rfl⟩ := h
    exact ⟨first, hfirst, others, hothers, rfl⟩

/-- Of two runs in a row, the first that fails gives the error. -/
theorem bind_eq_error {ε : Type} {first : Except ε α} {next : α → Except ε β} {e : ε} :
    first >>= next = .error e ↔
      first = .error e ∨ ∃ middle, first = .ok middle ∧ next middle = .error e := by
  cases first with
  | error other =>
      refine ⟨fun h => .inl ?_, fun h => ?_⟩
      · cases h
        rfl
      · rcases h with h | ⟨_, h, _⟩
        · cases h
          rfl
        · exact nomatch h
  | ok middle =>
      refine ⟨fun h => .inr ⟨middle, rfl, h⟩, fun h => ?_⟩
      rcases h with h | ⟨_, hmiddle, h⟩
      · exact nomatch h
      · cases hmiddle
        exact h

/-- A value in another form is a form of the value. -/
theorem map_eq_ok {ε : Type} {f : α → β} {result : Except ε α} {value : β} :
    result.map f = .ok value ↔ ∃ inner, result = .ok inner ∧ f inner = value := by
  cases result with
  | error e => exact ⟨nofun, nofun⟩
  | ok inner =>
      refine ⟨fun h => ⟨inner, rfl, Except.ok.inj h⟩, fun h => ?_⟩
      obtain ⟨_, hinner, rfl⟩ := h
      cases hinner
      rfl

/-- Seeing errors as others does not touch a value. -/
theorem map_error_eq_ok {ε ε' : Type} {f : ε → ε'} {result : Except ε α} {value : α} :
    result.mapError f = .ok value ↔ result = .ok value := by
  cases result with
  | error e => exact iff_of_false (fun h => nomatch h) fun h => nomatch h
  | ok other =>
      constructor
      · intro h
        cases h
        rfl
      · intro h
        cases h
        rfl

/-- Seeing errors as others touches every error. -/
theorem map_error_eq_error {ε ε' : Type} {f : ε → ε'} {result : Except ε α} {e : ε'} :
    result.mapError f = .error e ↔ ∃ inner, result = .error inner ∧ f inner = e := by
  cases result with
  | ok value => exact ⟨nofun, nofun⟩
  | error inner =>
      refine ⟨fun h => ⟨inner, rfl, Except.error.inj h⟩, fun h => ?_⟩
      obtain ⟨_, hinner, rfl⟩ := h
      cases hinner
      rfl

/-- Of two runs in a row, one had a bound that was too small if both together had. -/
theorem endless_bind {first : Except Error α} {next : α → Except Error β} :
    Endless (first >>= next) ↔
      Endless first ∨ ∃ middle, first = .ok middle ∧ Endless (next middle) := by
  constructor
  · intro h
    obtain ⟨label, h⟩ := h
    rcases bind_eq_error.mp h with h | ⟨middle, hfirst, h⟩
    · exact .inl ⟨label, h⟩
    · exact .inr ⟨middle, hfirst, label, h⟩
  · intro h
    rcases h with ⟨label, h⟩ | ⟨middle, hfirst, label, h⟩
    · exact ⟨label, bind_eq_error.mpr (.inl h)⟩
    · exact ⟨label, bind_eq_error.mpr (.inr ⟨middle, hfirst, h⟩)⟩

/-- A run that gives a value finishes. -/
theorem finishes_ok (value : α) : Finishes (.ok value : Except Error α) :=
  fun _ h => nomatch h

/-- Two runs in a row finish if the first does, and the second after its value. -/
theorem finishes_bind {first : Except Error α} {next : α → Except Error β} :
    Finishes (first >>= next) ↔
      Finishes first ∧ ∀ middle, first = .ok middle → Finishes (next middle) := by
  unfold Finishes
  simp only [ne_eq, bind_eq_error, not_or, not_exists, not_and]
  exact ⟨fun h => ⟨fun shortage => (h shortage).1, fun middle hfirst shortage =>
    (h shortage).2 middle hfirst⟩, fun h shortage => ⟨h.1 shortage, fun middle hfirst =>
    h.2 middle hfirst shortage⟩⟩

/-- Whether a result is the given one, unless it came under a bound that was too small. -/
def Settles (result settled : Except Error α) : Prop :=
  Endless result ∨ result = settled

/-- A result is settled if the first of two runs in a row fails. -/
theorem Settles.bind_error {first : Except Error α} {next : α → Except Error β} {e : Error}
    (h : Settles first (.error e)) : Settles (first >>= next) (.error e) := by
  rcases h with h | rfl
  · exact .inl (endless_bind.mpr (.inl h))
  · exact .inr rfl

/-- The first of two runs in a row gives a value, and the second settles the result. -/
theorem Settles.bind_ok {first : Except Error α} {next : α → Except Error β} {value : α}
    {settled : Except Error β} (h : Settles first (.ok value))
    (hnext : Settles (next value) settled) :
    Settles (first >>= next) settled := by
  rcases h with h | rfl
  · exact .inl (endless_bind.mpr (.inl h))
  · exact hnext

/-- A bound that was too small is all that can settle so. -/
theorem Settles.endless {result : Except Error α} {label : Label}
    (h : Settles result (.error (.endless (.stack label)))) : Endless result := by
  rcases h with h | rfl
  · exact h
  · exact ⟨label, rfl⟩

/-- A run from a state gives a value if it ends in some state with that value. -/
theorem run_eq_ok {σ : Type} {run : StateT σ (Except Error) α} {state : σ} {value : α} :
    run.run' state = .ok value ↔ ∃ after, run state = .ok (value, after) := by
  rw [StateT.run']
  cases run state with
  | error e => exact iff_of_false (fun h => nomatch h) fun ⟨_, h⟩ => nomatch h
  | ok step =>
      obtain ⟨result, after⟩ := step
      constructor
      · intro h
        cases h
        exact ⟨after, rfl⟩
      · rintro ⟨_, h⟩
        cases h
        rfl

/-- A run from a state gives an error where it ends with it. -/
theorem run_eq_error {σ : Type} {run : StateT σ (Except Error) α} {state : σ} {e : Error} :
    run.run' state = .error e ↔ run state = .error e := by
  rw [StateT.run']
  cases run state with
  | error other => exact ⟨fun h => (by cases h; rfl), fun h => (by cases h; rfl)⟩
  | ok step => exact iff_of_false (fun h => nomatch h) fun h => nomatch h

end SheetWire
