namespace JournalSelect

variable {ε α β γ : Type _}

theorem bind_eq_ok_iff {x : Except ε α} {f : α → Except ε β} {b : β} :
    x >>= f = .ok b ↔ ∃ a, x = .ok a ∧ f a = .ok b := by
  cases x <;> simp [bind, Except.bind]

theorem pure_eq_ok_iff {a b : α} : (pure a : Except ε α) = .ok b ↔ b = a := by
  simp [pure, Except.pure, eq_comm]

theorem map_eq_ok_iff {x : Except ε α} {f : α → β} {b : β} :
    x.map f = .ok b ↔ ∃ a, x = .ok a ∧ f a = b := by
  cases x <;> simp [Except.map]

theorem map_eq_error_iff {x : Except ε α} {f : α → β} {e : ε} :
    x.map f = .error e ↔ x = .error e := by
  cases x <;> simp [Except.map]

theorem map_map {x : Except ε α} {f : α → β} {g : β → γ} : (x.map f).map g = x.map (g ∘ f) := by
  cases x <;> rfl

theorem bind_eq_error_iff {x : Except ε α} {f : α → Except ε β} {e : ε} :
    x >>= f = .error e ↔ x = .error e ∨ ∃ a, x = .ok a ∧ f a = .error e := by
  cases x <;> simp [bind, Except.bind]

theorem bind_pure_eq_error_iff {x : Except ε α} {f : α → β} {e : ε} :
    (do return f (← x)) = .error e ↔ x = .error e := by
  cases x <;> simp [bind, Except.bind, pure, Except.pure]

theorem mapError_eq_ok_iff {x : Except ε α} {f : ε → β} {a : α} :
    x.mapError f = .ok a ↔ x = .ok a := by
  cases x
  case error => exact ⟨nofun, nofun⟩
  case ok b  =>
    change Except.ok b = .ok a ↔ _
    simp

theorem mapError_eq_error_iff {x : Except ε α} {f : ε → β} {e : β} :
    x.mapError f = .error e ↔ ∃ cause, x = .error cause ∧ e = f cause := by
  cases x
  case error cause =>
    change Except.error (f cause) = .error e ↔ _
    simp [eq_comm]
  case ok => exact ⟨nofun, nofun⟩

theorem exists_eq_ok_iff {x : Except ε α} : (∃ a, x = .ok a) ↔ ∀ e, x ≠ .error e := by
  cases x <;> simp

theorem toOption_eq_some_iff {x : Except ε α} {a : α} : x.toOption = some a ↔ x = .ok a := by
  cases x <;> simp [Except.toOption]

-- The error, if there is one.
def fault? : Except ε α → Option ε
  | .ok _    => none
  | .error e => some e

variable {x : Except ε α} {y : Except ε β}

theorem fault?_eq_none_iff : fault? x = none ↔ ∃ a, x = .ok a := by
  cases x <;> simp [fault?]

theorem fault?_eq_some_iff {e : ε} : fault? x = some e ↔ x = .error e := by
  cases x <;> simp [fault?]

theorem fault?_bind_pure {f : α → β} : fault? (do return f (← x)) = fault? x := by
  cases x <;> rfl

-- The second result is only looked at when the first one is no error.
theorem fault?_bind_bind_pure {f : α → β → γ} :
    fault? (do return f (← x) (← y)) = (fault? x).or (fault? y) := by
  cases x <;> cases y <;> rfl

end JournalSelect
