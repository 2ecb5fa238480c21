import ProxyFilter.Text.Decimal

/-!
# Decimal integers as they are written

A number is read again from its digits (`natOfChars?_toDigits`), and as an integer of sixty-four
bits where these hold it (`int64?_repr`).
-/

namespace ProxyFilter.Text

/-- Digits stand for the number that is written in them. -/
theorem natOfDigits_toDigits (n : Nat) : natOfDigits (Nat.toDigits 10 n) = n := by
  have hdigit : ∀ d < 10, (Nat.digitChar d).toNat - 48 = d := by decide
  unfold natOfDigits
  induction n using Nat.strongRecOn with
  | ind n ih =>
    rw [Nat.toDigits_eq_if (by decide)]
    split
    · next hn => simpa using hdigit n hn
    · rw [List.foldl_append, ih (n / 10) (by omega), List.foldl_cons, List.foldl_nil,
        hdigit _ (Nat.mod_lt _ (by decide)), Nat.div_add_mod]

/-- A number is read from its digits. -/
theorem natOfChars?_toDigits (n : Nat) : natOfChars? (Nat.toDigits 10 n) = some n := by
  have hdigits : (Nat.toDigits 10 n).any (! ·.isDigit) = false := by
    rw [List.any_eq_false]
    intro c hc
    simp [Nat.isDigit_of_mem_toDigits (by decide) (by decide) hc]
  have hne : (Nat.toDigits 10 n).isEmpty = false := by simp [Nat.toDigits_ne_nil]
  rw [natOfChars?, hdigits, hne, Bool.or_self, if_neg Bool.false_ne_true, natOfDigits_toDigits]

/-- A number that sixty-four bits with a sign can hold is read from its digits. -/
theorem int64?_repr {n : Nat} (h : n ≤ int64Max) : int64? (Nat.repr n) = some (n : Int) := by
  have hsign : ∀ c cs, Nat.toDigits 10 n = c :: cs → c ≠ '-' ∧ c ≠ '+' := by
    intro c cs hdigits
    have hc : c.isDigit = true :=
      Nat.isDigit_of_mem_toDigits (by decide) (by decide) (hdigits ▸ List.mem_cons_self)
    constructor <;> rintro rfl <;> cases hc
  have hmin : int64Min ≤ n := by simp only [int64Min]; omega
  have hread := natOfChars?_toDigits n
  rw [int64?, Nat.repr, String.toList_ofList]
  split
  · next cs hdigits => exact absurd rfl (hsign _ _ hdigits).1
  · next cs hdigits => exact absurd rfl (hsign _ _ hdigits).2
  · simp [hread, hmin, h]

end ProxyFilter.Text
