import ProxyFilter.Rejection

/-!
# Faults of form

A step that takes a token apart fails for the form of the token only (`MalformedOnly`). Steps one
after the other keep to that (`MalformedOnly.bind`).
-/

namespace ProxyFilter

/-- A reading fails only for the form of the token. -/
def MalformedOnly {α : Type} (x : Except Rejection α) : Prop :=
  ∀ e, x = .error e → ∃ detail, e = .malformedToken detail

namespace MalformedOnly
variable {α β : Type}

/-- A reading in two parts fails only for the form of the token if both do. -/
theorem bind {x : Except Rejection α} {f : α → Except Rejection β} (hx : MalformedOnly x)
    (hf : ∀ a, MalformedOnly (f a)) : MalformedOnly (x >>= f) := by
  cases x with
  | error e =>
    rintro e' ⟨⟩
    exact hx e rfl
  | ok a => exact hf a

/-- A value is no fault. -/
theorem ok (a : α) : MalformedOnly (.ok a : Except Rejection α) :=
  fun _ h => nomatch h

/-- A fault of form is one. -/
theorem error (detail : String) :
    MalformedOnly (.error (.malformedToken detail) : Except Rejection α) := by
  rintro e ⟨⟩
  exact ⟨detail, rfl⟩

end MalformedOnly

end ProxyFilter
