import ProxyFilter.Text.Ascii

/-!
# Letter case of ASCII

Letter case concerns the letters of ASCII alone, so what holds of every character up to its case is
found by looking at ASCII (`Ascii.toLower_invariant`).
-/

namespace ProxyFilter.Ascii

/-- What holds of every character of ASCII, by their numbers. -/
theorem of_forall_lt {P : Char → Prop} (h : ∀ n < 128, P (Char.ofNat n)) {c : Char}
    (hc : c.toNat < 128) : P c := by
  have := h c.toNat hc
  rwa [Char.ofNat_toNat] at this

/-- A character outside ASCII has no other letter case. -/
theorem toLower_of_le {c : Char} (hc : 128 ≤ c.toNat) : c.toLower = c := by
  unfold Char.toLower
  split
  · next hupper =>
    simp only [ge_iff_le, UInt32.le_iff_toNat_le] at hupper
    have hle : c.toNat ≤ 90 := hupper.2
    omega
  · rfl

/-- What does not tell the letter case of ASCII apart does not tell any apart. -/
theorem toLower_invariant {α : Type} (f : Char → α)
    (h : ∀ n < 128, f (Char.ofNat n).toLower = f (Char.ofNat n)) (c : Char) :
    f c.toLower = f c := by
  by_cases hc : c.toNat < 128
  · exact of_forall_lt (P := fun c => f c.toLower = f c) h hc
  · rw [toLower_of_le (Nat.le_of_not_lt hc)]

/-- Digits have no letter case. -/
@[simp] theorem isDigit_toLower (c : Char) : c.toLower.isDigit = c.isDigit :=
  toLower_invariant Char.isDigit (by decide +kernel) c

/-- Hexadecimal digits are so in either letter case. -/
@[simp] theorem isHexDigit_toLower (c : Char) : isHexDigit c.toLower = isHexDigit c :=
  toLower_invariant isHexDigit (by decide +kernel) c

/-- Hexadecimal digits are in ASCII. -/
theorem lt_of_isHexDigit {c : Char} (h : isHexDigit c = true) : c.toNat < 128 := by
  simp only [isHexDigit, Char.isDigit, Bool.or_eq_true, Bool.and_eq_true, decide_eq_true_eq,
    ge_iff_le, UInt32.le_iff_toNat_le, Char.le_def] at h
  change c.val.toNat < 128
  rcases h with (h | h) | h
  · exact Nat.lt_of_le_of_lt h.2 (by decide)
  · exact Nat.lt_of_le_of_lt h.2 (by decide)
  · exact Nat.lt_of_le_of_lt h.2 (by decide)

/-- Digits are hexadecimal digits. -/
theorem isHexDigit_of_isDigit {c : Char} (h : c.isDigit = true) : isHexDigit c = true := by
  simp [isHexDigit, h]

/-- What holds of the hexadecimal digits, by their numbers. -/
theorem of_isHexDigit {P : Char → Prop}
    (h : ∀ n < 128, isHexDigit (Char.ofNat n) = true → P (Char.ofNat n)) {c : Char}
    (hc : isHexDigit c = true) : P c :=
  of_forall_lt (P := fun c => isHexDigit c = true → P c) h (lt_of_isHexDigit hc) hc

/-- A character has no other letter case, or is a letter in both. -/
theorem toLower_cases (c : Char) :
    c.toLower = c ∨ c.isAlpha = true ∧ c.toLower.isAlpha = true := by
  by_cases hc : c.toNat < 128
  · exact of_forall_lt (P := fun c => c.toLower = c ∨ c.isAlpha = true ∧ c.toLower.isAlpha = true)
      (by decide +kernel) hc
  · exact .inl (toLower_of_le (Nat.le_of_not_lt hc))

/-- A mark that is no letter is found in either letter case. -/
theorem toLower_eq_mark {mark : Char} (hmark : mark.isAlpha = false) (c : Char) :
    c.toLower = mark ↔ c = mark := by
  rcases toLower_cases c with hsame | ⟨hletter, hlower⟩
  · rw [hsame]
  · constructor
    · rintro rfl
      rw [hlower] at hmark
      cases hmark
    · rintro rfl
      rw [hletter] at hmark
      cases hmark

/-- The lower-case form of a text, by its characters. -/
@[simp] theorem toList_lower (s : String) : (lower s).toList = s.toList.map Char.toLower := by
  rw [lower, String.toList_ofList]

/-- A text in lower case is left as it is. -/
@[simp] theorem lower_lower (s : String) : lower (lower s) = lower s := by
  have hcase (c : Char) : c.toLower.toLower = c.toLower :=
    toLower_invariant Char.toLower (by decide +kernel) c
  simp [← String.toList_inj, hcase]

/-- A mark that is no letter is in both of two texts that differ in letter case alone. -/
theorem mem_of_sameName {mark : Char} (hmark : mark.isAlpha = false) {a b : String}
    (hsame : sameName a b = true) (hmem : mark ∈ a.toList) : mark ∈ b.toList := by
  have hlower : lower a = lower b := beq_iff_eq.1 hsame
  have hfound : mark ∈ (lower a).toList :=
    toList_lower a ▸ List.mem_map.2 ⟨mark, hmem, (toLower_eq_mark hmark mark).2 rfl⟩
  rw [hlower, toList_lower] at hfound
  obtain ⟨c, hc, hcase⟩ := List.mem_map.1 hfound
  obtain rfl := (toLower_eq_mark hmark c).1 hcase
  exact hc

end ProxyFilter.Ascii
