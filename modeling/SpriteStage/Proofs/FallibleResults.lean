/-!
# Results that may fail

What it takes for a computation that may fail to give a result: each of its steps gave one
(`bind_eq_ok_iff`, `map_eq_ok_iff`, `mapError_eq_ok_iff`). So a fold that gives a result keeps what
each of its steps keeps (`foldlM_keeps`).
-/

namespace SpriteStage

variable {ε ε' σ α β : Type}

theorem bind_eq_ok_iff {x : Except ε α} {f : α → Except ε β} {b : β} :
    (x >>= f) = .ok b ↔ ∃ a, x = .ok a ∧ f a = .ok b := by
  constructor
  · intro h
    cases x with
    | error e => cases h
    | ok a => exact ⟨a, rfl, h⟩
  · rintro ⟨a, rfl, h⟩
    exact h

theorem map_eq_ok_iff {x : Except ε α} {f : α → β} {b : β} :
    x.map f = .ok b ↔ ∃ a, x = .ok a ∧ f a = b := by
  constructor
  · intro h
    cases x with
    | error e => cases h
    | ok a => exact ⟨a, rfl, Except.ok.inj h⟩
  · rintro ⟨a, rfl, rfl⟩
    rfl

theorem mapError_eq_ok_iff {x : Except ε α} {f : ε → ε'} {a : α} :
    x.mapError f = .ok a ↔ x = .ok a := by
  constructor
  · intro h
    cases x with
    | error e => cases h
    | ok a' =>
        cases h
        rfl
  · rintro rfl
    rfl

/-- Results that are equal up to a projection are the same error, or values that it cannot tell
apart. -/
theorem exists_of_map_eq {f : α → β} {x y : Except ε α} (h : x.map f = y.map f) :
    (∃ e, x = .error e ∧ y = .error e) ∨ ∃ a b, x = .ok a ∧ y = .ok b ∧ f a = f b := by
  cases x with
  | error e =>
      cases y with
      | error e' =>
          cases h
          exact .inl ⟨e, rfl, rfl⟩
      | ok b => cases h
  | ok a =>
      obtain ⟨b, hy, hb⟩ := map_eq_ok_iff.1 h.symm
      exact .inr ⟨a, b, rfl, hy, hb.symm⟩

/-- What every step of a fold keeps, the fold keeps. -/
theorem foldlM_keeps {P : σ → Prop} {step : σ → α → Except ε σ} {as : List α}
    (hstep : ∀ a ∈ as, ∀ state next, P state → step state a = .ok next → P next) {start final : σ}
    (hstart : P start) (h : as.foldlM step start = .ok final) : P final := by
  induction as generalizing start with
  | nil =>
      cases h
      exact hstart
  | cons a as ih =>
      obtain ⟨hfirst, hrest⟩ := List.forall_mem_cons.1 hstep
      rw [List.foldlM_cons] at h
      obtain ⟨next, hnext, h⟩ := bind_eq_ok_iff.1 h
      exact ih hrest (hfirst start next hstart hnext) h

end SpriteStage
