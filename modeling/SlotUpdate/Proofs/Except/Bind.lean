/-!
# Steps that may fail

A step that follows another one is reached only if the first one succeeds, as `bind_eq_ok` says for
steps that succeed and `bind_eq_error` for steps that fail. Renaming failures keeps every success
and renames every failure (`mapError_eq_ok`, `mapError_eq_error`), and changing a result keeps every
failure (`map_eq_ok`).
-/

namespace SlotUpdate

variable {ε ε' α β : Type}

/-- After a step that succeeds the next one goes on with its result. -/
theorem ok_bind (a : α) (f : α → Except ε β) : (Except.ok a >>= f) = f a :=
  rfl

/-- Success is passed on, whatever a failure were turned into. -/
theorem mapError_ok (a : α) (f : ε → ε') : (Except.ok a).mapError f = .ok a :=
  rfl

/-- Renaming failures changes no success. -/
theorem mapError_eq_ok {x : Except ε α} {f : ε → ε'} {a : α} :
    x.mapError f = .ok a ↔ x = .ok a := by
  cases x with
  | error cause =>
    constructor
    · intro h
      cases h
    · intro h
      cases h
  | ok b => rw [mapError_ok, Except.ok.injEq, Except.ok.injEq]

/-- A renamed failure comes from a failure. -/
theorem mapError_eq_error {x : Except ε α} {f : ε → ε'} {e : ε'} :
    x.mapError f = .error e ↔ ∃ cause, x = .error cause ∧ e = f cause := by
  cases x with
  | error cause =>
    constructor
    · intro h
      cases h
      exact ⟨cause, rfl, rfl⟩
    · rintro ⟨cause', h, rfl⟩
      cases h
      rfl
  | ok b =>
    constructor
    · intro h
      cases h
    · rintro ⟨cause, h, -⟩
      cases h

/-- A result that is changed comes from a result. -/
theorem map_eq_ok {x : Except ε α} {f : α → β} {b : β} :
    x.map f = .ok b ↔ ∃ a, x = .ok a ∧ b = f a := by
  cases x with
  | error e =>
    constructor
    · intro h
      cases h
    · rintro ⟨a, h, -⟩
      cases h
  | ok a =>
    constructor
    · intro h
      cases h
      exact ⟨a, rfl, rfl⟩
    · rintro ⟨a', h, rfl⟩
      cases h
      rfl

/-- Two steps succeed if the first one does and the second one does with its result. -/
theorem bind_eq_ok {x : Except ε α} {f : α → Except ε β} {b : β} :
    (x >>= f) = .ok b ↔ ∃ a, x = .ok a ∧ f a = .ok b := by
  cases x with
  | error e => simp [bind, Except.bind]
  | ok a => simp [bind, Except.bind]

/-- Two steps fail if the first one does, or the second one does with the first one's result. -/
theorem bind_eq_error {x : Except ε α} {f : α → Except ε β} {e : ε} :
    (x >>= f) = .error e ↔ x = .error e ∨ ∃ a, x = .ok a ∧ f a = .error e := by
  cases x with
  | error e => simp [bind, Except.bind]
  | ok a => simp [bind, Except.bind]

/-- A step whose result is known succeeds with it. -/
theorem eq_ok_of_toOption {x : Except ε α} {a : α} (h : x.toOption = some a) : x = .ok a := by
  cases x with
  | error e => cases h
  | ok b =>
    cases h
    rfl

end SlotUpdate
