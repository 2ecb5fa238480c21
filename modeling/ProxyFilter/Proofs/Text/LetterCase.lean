import ProxyFilter.Proofs.Text.Ascii
import ProxyFilter.Proofs.Text.Percent
import ProxyFilter.Proofs.Text.Utf8

/-!
# Letter case of octets

Letter case commutes with what is done to the octets of a text: they are written
(`Utf8.encode_lower`) and read (`Utf8.decode?_map_lower`) in the letter case of the text, and
percent-decoding (`Percent.decodeBytes_map_lower`) does not mind that of its digits.
-/

namespace ProxyFilter

/-! ## Octets -/

namespace Byte

variable {b : UInt8}

/-- What does not tell the letter case of any octet apart, by their numbers. -/
theorem lower_invariant {α : Type} (f : UInt8 → α)
    (h : ∀ n < 256, f (lower (UInt8.ofNat n)) = f (UInt8.ofNat n)) (b : UInt8) :
    f (lower b) = f b := by
  have := h b.toNat b.toNat_lt
  rwa [UInt8.ofNat_toNat] at this

/-- The number of an octet in lower case. -/
theorem toNat_lower (b : UInt8) :
    (lower b).toNat = if 65 ≤ b.toNat ∧ b.toNat ≤ 90 then b.toNat + 32 else b.toNat := by
  have hupper : isUpper b = true ↔ 65 ≤ b.toNat ∧ b.toNat ≤ 90 := by
    simp [isUpper, UInt8.le_iff_toNat_le]
  rw [lower]
  by_cases h : isUpper b = true
  · have hrange := hupper.1 h
    have hsum : (b + 32).toNat = (b.toNat + 32) % 256 := UInt8.toNat_add b 32
    rw [if_pos h, if_pos hrange, hsum]
    omega
  · rw [if_neg h, if_neg (mt hupper.2 h)]

/-- An octet above ASCII has no other letter case. -/
theorem lower_of_le (h : 128 ≤ b.toNat) : lower b = b := by
  rw [← UInt8.toNat_inj, toNat_lower, if_neg (by omega)]

/-- An octet is in ASCII in either letter case. -/
theorem lower_lt (b : UInt8) : lower b < 0x80 ↔ b < 0x80 := by
  rw [UInt8.lt_iff_toNat_lt, UInt8.lt_iff_toNat_lt, UInt8.toNat_ofNat, toNat_lower]
  split <;> omega

/-- An octet has no other letter case, or both are in ASCII. -/
theorem lower_cases (b : UInt8) : lower b = b ∨ (b.toNat < 128 ∧ (lower b).toNat < 128) := by
  by_cases h : b < 0x80
  · exact .inr ⟨UInt8.lt_iff_toNat_lt.1 h, UInt8.lt_iff_toNat_lt.1 ((lower_lt b).2 h)⟩
  · exact .inl (lower_of_le (Nat.le_of_not_lt fun hlt => h (UInt8.lt_iff_toNat_lt.2 hlt)))

/-- Lower case stays lower case. -/
theorem lower_lower (b : UInt8) : lower (lower b) = lower b := by
  rw [← UInt8.toNat_inj, toNat_lower (lower b), toNat_lower]
  split
  · rw [if_neg (by omega)]
  · rfl

/-- A hexadecimal digit has its value in either letter case. -/
theorem hexValue?_lower (b : UInt8) : hexValue? (lower b) = hexValue? b :=
  lower_invariant hexValue? (by decide +kernel) b

/-- A percent sign is found in either letter case. -/
theorem lower_eq_percent (b : UInt8) : lower b = 37 ↔ b = 37 := by
  rw [← UInt8.toNat_inj, ← UInt8.toNat_inj, UInt8.toNat_ofNat, toNat_lower]
  split <;> omega

end Byte

/-! ## Reading and writing -/

namespace Utf8

/-- A continuation octet has no letter case. -/
theorem isTail_lower (b : UInt8) : isTail (Byte.lower b) = isTail b := by
  rcases Byte.lower_cases b with h | h
  · rw [h]
  · rw [Bool.eq_iff_iff, isTail_iff, isTail_iff]
    omega

/-- The payload of a continuation octet has no letter case. -/
theorem tailBits_lower (b : UInt8) : tailBits (Byte.lower b) = tailBits b := by
  rcases Byte.lower_cases b with h | h
  · rw [h]
  · unfold tailBits
    omega

/-- The second octet of three has no letter case. -/
theorem secondOfThree_lower (a b : UInt8) : secondOfThree a (Byte.lower b) = secondOfThree a b := by
  rcases Byte.lower_cases b with h | h
  · rw [h]
  · rw [Bool.eq_iff_iff, secondOfThree_iff, secondOfThree_iff]
    omega

/-- The second octet of four has no letter case. -/
theorem secondOfFour_lower (a b : UInt8) : secondOfFour a (Byte.lower b) = secondOfFour a b := by
  rcases Byte.lower_cases b with h | h
  · rw [h]
  · rw [Bool.eq_iff_iff, secondOfFour_iff, secondOfFour_iff]
    omega

/-- An octet of ASCII is read in its letter case. -/
theorem charOfNat_lower {b : UInt8} (h : b < 0x80) :
    Char.ofNat (Byte.lower b).toNat = (Char.ofNat b.toNat).toLower := by
  have hall : ∀ n < 128, Char.ofNat (Byte.lower (UInt8.ofNat n)).toNat =
      (Char.ofNat (UInt8.ofNat n).toNat).toLower := by decide +kernel
  have hlower := hall b.toNat (UInt8.lt_iff_toNat_lt.1 h)
  rwa [UInt8.ofNat_toNat] at hlower

/-- The character of a number above ASCII has no other letter case. -/
theorem toLower_charOfNat {n : Nat} (h : 128 ≤ n) : (Char.ofNat n).toLower = Char.ofNat n := by
  by_cases hvalid : n.isValidChar
  · exact Ascii.toLower_of_le (by rwa [toNat_charOfNat hvalid])
  · rw [Char.ofNat, dif_neg hvalid]
    rfl

/-- Octets are read in their letter case. -/
theorem units_map_lower (b : Bytes) :
    units (b.map Byte.lower) = (units b).map (Option.map Char.toLower) := by
  fun_induction units b
  case case1 => rfl
  case case2 a rest ha ih =>
    rw [List.map_cons, units_one ((Byte.lower_lt a).2 ha), ih, List.map_cons, charOfNat_lower ha]
    rfl
  -- above ASCII nothing has a letter case: the same octets are read
  all_goals
    simp only [List.map_cons, List.map_nil] at *
    rw [Byte.lower_of_le (UInt8.not_lt.1 ‹¬ _ < (128 : UInt8)›), units.eq_def]
    simp only [isTail_lower, secondOfThree_lower, secondOfFour_lower, tailBits_lower, Option.map, *,
      if_true, if_false, Bool.false_eq_true]
  case case5 h₁ h₂ _ _ _ hb _ =>
    rw [isTail_iff] at hb
    simp only [UInt8.lt_iff_toNat_lt, UInt8.toNat_ofNat] at h₁ h₂
    rw [toLower_charOfNat (by unfold tailBits; omega)]
  case case9 h₁ h₂ h₃ h₄ _ hb _ _ _ _ =>
    rw [secondOfThree_iff] at hb
    simp only [UInt8.lt_iff_toNat_lt, UInt8.toNat_ofNat] at h₃ h₄
    rw [toLower_charOfNat (by unfold tailBits; omega)]
  case case15 h₁ h₂ h₃ h₄ h₅ _ hb _ _ _ _ _ _ =>
    rw [secondOfFour_iff] at hb
    simp only [UInt8.lt_iff_toNat_lt, UInt8.toNat_ofNat] at h₄ h₅
    rw [toLower_charOfNat (by unfold tailBits; omega)]

/-- **Octets in lower case are read as the text in lower case.** -/
theorem decode?_map_lower (b : Bytes) :
    decode? (b.map Byte.lower) = (decode? b).map Ascii.lower := by
  have hall (cs : List (Option Char)) :
      (cs.map (Option.map Char.toLower)).mapM id = (cs.mapM id).map (List.map Char.toLower) := by
    induction cs with
    | nil => rfl
    | cons c cs ih =>
      rw [List.map_cons, List.mapM_cons, List.mapM_cons, ih]
      cases c <;> cases cs.mapM id <;> rfl
  rw [decode?, decode?, units_map_lower, hall, Option.map_map, Option.map_map]
  congr 1
  funext cs
  simp [Ascii.lower]

/-- **A text in lower case is written as its octets in lower case.** -/
theorem encode_lower (s : String) : encode (Ascii.lower s) = (encode s).map Byte.lower := by
  have hchar (c : Char) :
      String.utf8EncodeChar c.toLower = (String.utf8EncodeChar c).map Byte.lower := by
    by_cases hc : c.toNat < 128
    · refine Ascii.of_forall_lt (P := fun c => String.utf8EncodeChar c.toLower =
        (String.utf8EncodeChar c).map Byte.lower) ?_ hc
      decide +kernel
    · have hle := Nat.le_of_not_lt hc
      rw [Ascii.toLower_of_le hle, List.map_congr_left fun b hb =>
        Byte.lower_of_le (utf8EncodeChar_above hle b hb), List.map_id']
  rw [encode, encode, Ascii.toList_lower, List.flatMap_map, List.map_flatMap]
  exact congrArg (List.flatMap · s.toList) (funext hchar)

end Utf8

/-- **The digits of escapes are read in either letter case.** -/
theorem Percent.decodeBytes_map_lower (b : Bytes) :
    (decodeBytes (b.map Byte.lower)).map Byte.lower = (decodeBytes b).map Byte.lower := by
  have hpercent : Byte.lower 37 = 37 := by decide
  fun_induction decodeBytes b with
  | case1 => rfl
  | case2 h l rest high hhigh low hlow ih =>
    rw [List.map_cons, List.map_cons, List.map_cons, hpercent,
      decodeBytes_escape (by rwa [Byte.hexValue?_lower]) (by rwa [Byte.hexValue?_lower]),
      List.map_cons, ih, List.map_cons]
  | case3 h l rest hnone ih =>
    rw [List.map_cons, List.map_cons] at ih
    rw [List.map_cons, List.map_cons, List.map_cons, hpercent,
      decodeBytes_percent (by simpa [Byte.hexValue?_lower] using hnone), List.map_cons, ih,
      List.map_cons, hpercent]
  | case4 l ih =>
    have hsingle (l : UInt8) : decodeBytes [37, l] = 37 :: decodeBytes [l] := rfl
    rw [List.map_cons, List.map_cons, List.map_nil] at *
    rw [hpercent, hsingle, List.map_cons, ih, List.map_cons, hpercent]
  | case5 => rfl
  | case6 b rest hb ih =>
    rw [List.map_cons, decodeBytes_cons (mt (Byte.lower_eq_percent b).1 hb), List.map_cons, ih,
      Byte.lower_lower, List.map_cons]

end ProxyFilter
