/-!
# Results of checks in a row

A check that has passed hands its value to the next one, and a row of checks passes exactly when
each of them does. Its error is that of the first check that fails.
-/

namespace OfflineSigner.Except

variable {ε α β : Type}

/-- A value that is there is handed on. -/
theorem ok_bind (value : α) (next : α → Except ε β) : (Except.ok value >>= next) = next value :=
  rfl

/-- After an error nothing is checked. -/
theorem error_bind (error : ε) (next : α → Except ε β) :
    (Except.error error >>= next) = .error error :=
  rfl

/-- Two checks in a row pass exactly when both do. -/
theorem bind_eq_ok_iff {first : Except ε α} {next : α → Except ε β} {result : β} :
    (first >>= next) = .ok result ↔ ∃ value, first = .ok value ∧ next value = .ok result := by
  cases first with
  | error error =>
    constructor
    · intro h
      contradiction
    · rintro ⟨value, hfirst, -⟩
      contradiction
  | ok value =>
    constructor
    · intro h
      exact ⟨value, rfl, h⟩
    · rintro ⟨value', hfirst, hnext⟩
      cases hfirst
      exact hnext

/-- What is given back is no error. -/
theorem pure_ne_error (value : α) (error : ε) : (pure value : Except ε α) ≠ .error error := by
  intro h
  contradiction

/-- Two checks in a row fail exactly when the first does, or else the second. -/
theorem bind_eq_error_iff {first : Except ε α} {next : α → Except ε β} {error : ε} :
    (first >>= next) = .error error ↔
      first = .error error ∨ ∃ value, first = .ok value ∧ next value = .error error := by
  cases first with
  | error refused => simp [error_bind]
  | ok value => simp [ok_bind]

/-- Something is made of a value exactly when there is one. -/
theorem map_eq_ok_iff {f : α → β} {outcome : Except ε α} {result : β} :
    outcome.map f = .ok result ↔ ∃ value, outcome = .ok value ∧ result = f value := by
  cases outcome <;> simp [Except.map, eq_comm]

/-- What is made of the last value of a row can be made by its last check. -/
theorem map_bind {γ : Type} (f : β → γ) (first : Except ε α) (next : α → Except ε β) :
    (first >>= next).map f = first >>= fun value => (next value).map f := by
  cases first <;> rfl

/-- An error is passed on as it is, whatever would have been made of a value. -/
theorem map_eq_error_iff {f : α → β} {outcome : Except ε α} {error : ε} :
    outcome.map f = .error error ↔ outcome = .error error := by
  cases outcome <;> simp [Except.map]

/-- The wording of an error does not matter to success. -/
theorem mapError_eq_ok_iff {ε' : Type} {f : ε → ε'} {outcome : Except ε α} {value : α} :
    outcome.mapError f = .ok value ↔ outcome = .ok value := by
  cases outcome with
  | error cause =>
    change Except.error (f cause) = .ok value ↔ _
    simp
  | ok given =>
    change Except.ok given = .ok value ↔ _
    simp

/-- An error is worded in a new way exactly when there is one. -/
theorem mapError_eq_error_iff {ε' : Type} {f : ε → ε'} {outcome : Except ε α} {error : ε'} :
    outcome.mapError f = .error error ↔ ∃ cause, outcome = .error cause ∧ error = f cause := by
  cases outcome with
  | error cause =>
    change Except.error (f cause) = .error error ↔ _
    simp [eq_comm]
  | ok given =>
    change Except.ok given = .error error ↔ _
    simp

/-- A list whose items are each read back from what was made of them is read back. -/
theorem mapM_map_eq_ok {read : β → Except ε α} {write : α → β}
    (h : ∀ value, read (write value) = .ok value) (values : List α) :
    (values.map write).mapM read = .ok values := by
  induction values with
  | nil => rfl
  | cons value rest ih =>
    rw [List.map_cons, List.mapM_cons, h, ih]
    rfl

/-- The error of a check that fails. -/
def error? : Except ε α → Option ε
  | .ok _ => none
  | .error error => some error

/-- A check has no error exactly when it passes. -/
theorem error?_eq_none_iff {outcome : Except ε α} :
    error? outcome = none ↔ ∃ value, outcome = .ok value := by
  cases outcome <;> simp [error?]

/-- What is made of a value does not matter to the error. -/
theorem error?_map (f : α → β) (outcome : Except ε α) : error? (outcome.map f) = error? outcome := by
  cases outcome <;> rfl

/-- If the checks that follow have the same error whichever value they are handed, the error of the
row is the first one that there is. -/
theorem error?_bind {first : Except ε α} {next : α → Except ε β} {rest : Option ε}
    (h : ∀ value, error? (next value) = rest) :
    error? (first >>= next) = (error? first).or rest := by
  cases first with
  | error error => rfl
  | ok value => exact h value

end OfflineSigner.Except
