/-!
# Steps that may fail

How a step that may fail ends, read off the steps that it is made of.

* `bind_ok_iff`, `bind_error`: two steps in a row.
* `map_ok_iff`, `map_error_iff`: a step whose result is used.
* `mapError_ok_iff`, `mapError_error`: a step whose error is worded anew.
-/

namespace SdkGen

variable {ε δ α β : Type} {e : ε}

theorem bind_ok_iff {a : Except ε α} {f : α → Except ε β} {b : β} :
    (a >>= f) = .ok b ↔ ∃ v, a = .ok v ∧ f v = .ok b := by
  cases a <;> simp [bind, Except.bind]

theorem bind_error {a : Except ε α} {f : α → Except ε β} (h : (a >>= f) = .error e) :
    a = .error e ∨ ∃ v, a = .ok v ∧ f v = .error e := by
  cases a with
  | error e' =>
    cases h
    exact .inl rfl
  | ok v => exact .inr ⟨v, rfl, h⟩

theorem map_ok_iff {a : Except ε α} {f : α → β} {b : β} :
    a.map f = .ok b ↔ ∃ v, a = .ok v ∧ f v = b := by
  cases a <;> simp [Except.map]

theorem map_error_iff {a : Except ε α} {f : α → β} : a.map f = .error e ↔ a = .error e := by
  cases a <;> simp [Except.map]

theorem mapError_ok_iff {a : Except ε α} {f : ε → δ} {v : α} :
    a.mapError f = .ok v ↔ a = .ok v := by
  cases a with
  | error e =>
    constructor
    · intro h
      cases h
    · intro h
      cases h
  | ok w =>
    constructor
    · intro h
      cases h
      rfl
    · intro h
      cases h
      rfl

theorem mapError_error {a : Except ε α} {f : ε → δ} {e : δ} (h : a.mapError f = .error e) :
    ∃ e', a = .error e' ∧ e = f e' := by
  cases a with
  | error e' => exact ⟨e', rfl, (Except.error.inj h).symm⟩
  | ok v => cases h

end SdkGen
