import Mathlib.Data.List.Basic
import Mathlib.Tactic.SplitIfs
import ProxyFilter.Text.Utf8

/-!
# Texts and their octets

A text that is written in octets is read again as it was (`Utf8.decode?_encode`,
`Utf8.decodeLossy_encode`): each character is one unit, whatever follows it
(`Utf8.units_utf8EncodeChar`). Strict reading accepts nothing else (`Utf8.decode?_eq_some_iff`). The
octets of ASCII stand for themselves and for nothing else, both when they are read
(`Utf8.mem_of_mem_decodeLossy`) and when they are written (`Utf8.mem_encode`).
-/

namespace ProxyFilter.Utf8

/-! ## Octets by their numbers -/

section
variable {a b c d : UInt8}

/-- A continuation octet, by its number. -/
theorem isTail_iff : isTail b = true ↔ 128 ≤ b.toNat ∧ b.toNat ≤ 191 := by
  simp [isTail, UInt8.le_iff_toNat_le]

/-- The second octet of three, by the numbers of the first two. -/
theorem secondOfThree_iff : secondOfThree a b = true ↔ (128 ≤ b.toNat ∧ b.toNat ≤ 191) ∧
    (a.toNat = 224 → 160 ≤ b.toNat) ∧ (a.toNat = 237 → b.toNat ≤ 159) := by
  simp only [secondOfThree, beq_iff_eq, ← UInt8.toNat_inj, UInt8.toNat_ofNat]
  split_ifs <;> simp only [isTail_iff, Bool.and_eq_true, decide_eq_true_eq,
    UInt8.le_iff_toNat_le, UInt8.toNat_ofNat] <;> omega

/-- The second octet of four, by the numbers of the first two. -/
theorem secondOfFour_iff : secondOfFour a b = true ↔ (128 ≤ b.toNat ∧ b.toNat ≤ 191) ∧
    (a.toNat = 240 → 144 ≤ b.toNat) ∧ (a.toNat = 244 → b.toNat ≤ 143) := by
  simp only [secondOfFour, beq_iff_eq, ← UInt8.toNat_inj, UInt8.toNat_ofNat]
  split_ifs <;> simp only [isTail_iff, Bool.and_eq_true, decide_eq_true_eq,
    UInt8.le_iff_toNat_le, UInt8.toNat_ofNat] <;> omega

/-! ## Characters of one to four octets -/

/-- An octet of ASCII is a character. -/
theorem units_one (ha : a < 0x80) (rest : Bytes) :
    units (a :: rest) = some (Char.ofNat a.toNat) :: units rest := by
  rw [units.eq_def]
  simp only [if_pos ha]

/-- Two octets that are a character. -/
theorem units_two (ha : 0xC2 ≤ a ∧ a < 0xE0) (hb : isTail b = true) (rest : Bytes) :
    units (a :: b :: rest) =
      some (Char.ofNat ((a.toNat - 0xC0) * 64 + tailBits b)) :: units rest := by
  have h₁ : ¬ a < 0x80 := UInt8.not_lt.2 (UInt8.le_trans (by decide) ha.1)
  rw [units.eq_def]
  simp only [if_neg h₁, if_neg (UInt8.not_lt.2 ha.1), if_pos ha.2, if_pos hb]

/-- Three octets that are a character. -/
theorem units_three (ha : 0xE0 ≤ a ∧ a < 0xF0) (hb : secondOfThree a b = true)
    (hc : isTail c = true) (rest : Bytes) :
    units (a :: b :: c :: rest) =
      some (Char.ofNat ((a.toNat - 0xE0) * 4096 + tailBits b * 64 + tailBits c))
        :: units rest := by
  have h₁ : ¬ a < 0x80 := UInt8.not_lt.2 (UInt8.le_trans (by decide) ha.1)
  have h₂ : ¬ a < 0xC2 := UInt8.not_lt.2 (UInt8.le_trans (by decide) ha.1)
  rw [units.eq_def]
  simp only [if_neg h₁, if_neg h₂, if_neg (UInt8.not_lt.2 ha.1), if_pos ha.2, if_pos hb, if_pos hc]

/-- Four octets that are a character. -/
theorem units_four (ha : 0xF0 ≤ a ∧ a < 0xF5) (hb : secondOfFour a b = true)
    (hc : isTail c = true) (hd : isTail d = true) (rest : Bytes) :
    units (a :: b :: c :: d :: rest) =
      some (Char.ofNat ((a.toNat - 0xF0) * 262144 + tailBits b * 4096 + tailBits c * 64
        + tailBits d)) :: units rest := by
  have h₁ : ¬ a < 0x80 := UInt8.not_lt.2 (UInt8.le_trans (by decide) ha.1)
  have h₂ : ¬ a < 0xC2 := UInt8.not_lt.2 (UInt8.le_trans (by decide) ha.1)
  have h₃ : ¬ a < 0xE0 := UInt8.not_lt.2 (UInt8.le_trans (by decide) ha.1)
  rw [units.eq_def]
  simp only [if_neg h₁, if_neg h₂, if_neg h₃, if_neg (UInt8.not_lt.2 ha.1), if_pos ha.2, if_pos hb,
    if_pos hc, if_pos hd]

end

/-! ## What is written is read again -/

/-- An octet has its number. -/
theorem toNat_ofNat {n : Nat} (h : n < 256) : (UInt8.ofNat n).toNat = n := by
  rw [UInt8.toNat_ofNat', Nat.mod_eq_of_lt h]

/-- The octet for a number between two others is between theirs. -/
theorem ofNat_between (low high : Nat) {n : Nat} (h : low ≤ n ∧ n < high) (hhigh : high < 256) :
    UInt8.ofNat low ≤ UInt8.ofNat n ∧ UInt8.ofNat n < UInt8.ofNat high := by
  rw [UInt8.le_iff_toNat_le, UInt8.lt_iff_toNat_lt, toNat_ofNat (by omega), toNat_ofNat (by omega),
    toNat_ofNat hhigh]
  exact h

/-- Six bits are written as a continuation octet. -/
theorem isTail_ofNat (n : Nat) : isTail (UInt8.ofNat (n % 64 + 128)) = true := by
  rw [isTail_iff, toNat_ofNat (by omega)]
  omega

/-- Six bits are read from the continuation octet for them. -/
theorem tailBits_ofNat (n : Nat) : tailBits (UInt8.ofNat (n % 64 + 128)) = n % 64 := by
  unfold tailBits
  rw [toNat_ofNat (by omega)]
  exact Nat.add_sub_cancel _ _

/-- A character is one unit of what it is written as, and what follows it is read for itself. -/
theorem units_utf8EncodeChar (c : Char) (rest : Bytes) :
    units (String.utf8EncodeChar c ++ rest) = some c :: units rest := by
  have hvalid : c.toNat.isValidChar := c.valid
  have hself {n : Nat} (h : n = c.toNat) : Char.ofNat n = c := h ▸ Char.ofNat_toNat c
  have hnat : c.val.toNat = c.toNat := rfl
  simp only [String.utf8EncodeChar, hnat]
  split_ifs with h₁ h₂ h₃
  · have hlead := toNat_ofNat (n := c.toNat) (by omega)
    have hrange : UInt8.ofNat c.toNat < 0x80 :=
      (ofNat_between 0 0x80 (by omega) (by decide)).2
    rw [List.singleton_append, units_one hrange, hlead, Char.ofNat_toNat]
  · have hlead := toNat_ofNat (n := c.toNat / 64 % 32 + 192) (by omega)
    have hrange : 0xC2 ≤ UInt8.ofNat (c.toNat / 64 % 32 + 192) ∧
        UInt8.ofNat (c.toNat / 64 % 32 + 192) < 0xE0 :=
      ofNat_between 0xC2 0xE0 (by omega) (by decide)
    rw [List.cons_append, List.singleton_append, units_two hrange (isTail_ofNat _),
      tailBits_ofNat, hlead, hself (by omega)]
  · have hlead := toNat_ofNat (n := c.toNat / 4096 % 16 + 224) (by omega)
    have hrange : 0xE0 ≤ UInt8.ofNat (c.toNat / 4096 % 16 + 224) ∧
        UInt8.ofNat (c.toNat / 4096 % 16 + 224) < 0xF0 :=
      ofNat_between 0xE0 0xF0 (by omega) (by decide)
    have hsecond : secondOfThree (UInt8.ofNat (c.toNat / 4096 % 16 + 224))
        (UInt8.ofNat (c.toNat / 64 % 64 + 128)) = true := by
      rw [secondOfThree_iff, hlead, toNat_ofNat (by omega)]
      omega
    rw [List.cons_append, List.cons_append, List.singleton_append,
      units_three hrange hsecond (isTail_ofNat _), tailBits_ofNat, tailBits_ofNat, hlead,
      hself (by omega)]
  · have hlead := toNat_ofNat (n := c.toNat / 262144 % 8 + 240) (by omega)
    have hrange : 0xF0 ≤ UInt8.ofNat (c.toNat / 262144 % 8 + 240) ∧
        UInt8.ofNat (c.toNat / 262144 % 8 + 240) < 0xF5 :=
      ofNat_between 0xF0 0xF5 (by omega) (by decide)
    have hsecond : secondOfFour (UInt8.ofNat (c.toNat / 262144 % 8 + 240))
        (UInt8.ofNat (c.toNat / 4096 % 64 + 128)) = true := by
      rw [secondOfFour_iff, hlead, toNat_ofNat (by omega)]
      omega
    rw [List.cons_append, List.cons_append, List.cons_append, List.singleton_append,
      units_four hrange hsecond (isTail_ofNat _) (isTail_ofNat _), tailBits_ofNat, tailBits_ofNat,
      tailBits_ofNat, hlead, hself (by omega)]

/-- The units of a text that is written in octets are its characters. -/
theorem units_encode (s : String) : units (encode s) = s.toList.map some := by
  rw [encode]
  induction s.toList with
  | nil => rfl
  | cons c cs ih => rw [List.flatMap_cons, units_utf8EncodeChar, ih, List.map_cons]

/-- Octets of a text are read as that text. -/
theorem decode?_encode (s : String) : decode? (encode s) = some s := by
  have hall (cs : List Char) : (cs.map some).mapM id = some cs := by
    induction cs with
    | nil => rfl
    | cons c cs ih => simp [ih]
  rw [decode?, units_encode, hall, Option.map_some, String.ofList_toList]

/-- Octets of a text are read as that text, also where broken ones are shown. -/
theorem decodeLossy_encode (s : String) : decodeLossy (encode s) = s := by
  rw [decodeLossy, units_encode, List.map_map]
  change String.ofList (s.toList.map id) = s
  rw [List.map_id, String.ofList_toList]

/-! ## What is read was written -/

section
variable {a b c d : UInt8}

/-- A character has its number. -/
theorem toNat_charOfNat {n : Nat} (hvalid : n.isValidChar) : (Char.ofNat n).toNat = n := by
  rw [Char.ofNat, dif_pos hvalid]
  rfl

/-- An octet is the one for its number. -/
theorem ofNat_eq_of {n : Nat} (h : n = a.toNat) : UInt8.ofNat n = a := by
  rw [h, UInt8.ofNat_toNat]

/-- The octet of a character that is written in one. -/
theorem utf8EncodeChar_one (ha : a < 0x80) :
    String.utf8EncodeChar (Char.ofNat a.toNat) = [a] := by
  rw [UInt8.lt_iff_toNat_lt, UInt8.toNat_ofNat] at ha
  have hnat : (Char.ofNat a.toNat).val.toNat = a.toNat := toNat_charOfNat (by left; omega)
  rw [String.utf8EncodeChar]
  simp only [hnat, if_pos (Nat.le_of_lt_succ ha), UInt8.ofNat_toNat]

/-- The octets of a character that is written in two. -/
theorem utf8EncodeChar_two (ha : 0xC2 ≤ a ∧ a < 0xE0) (hb : isTail b = true) :
    String.utf8EncodeChar (Char.ofNat ((a.toNat - 0xC0) * 64 + tailBits b)) = [a, b] := by
  rw [isTail_iff] at hb
  simp only [UInt8.le_iff_toNat_le, UInt8.lt_iff_toNat_lt, UInt8.toNat_ofNat] at ha
  have hbits : tailBits b = b.toNat - 128 := rfl
  have hnat : (Char.ofNat ((a.toNat - 0xC0) * 64 + tailBits b)).val.toNat =
      (a.toNat - 0xC0) * 64 + tailBits b := toNat_charOfNat (by left; omega)
  rw [String.utf8EncodeChar]
  simp only [hnat]
  rw [if_neg (by omega), if_pos (by omega), ofNat_eq_of (a := a) (by omega),
    ofNat_eq_of (a := b) (by omega)]

/-- The octets of a character that is written in three. -/
theorem utf8EncodeChar_three (ha : 0xE0 ≤ a ∧ a < 0xF0) (hb : secondOfThree a b = true)
    (hc : isTail c = true) :
    String.utf8EncodeChar (Char.ofNat ((a.toNat - 0xE0) * 4096 + tailBits b * 64 + tailBits c)) =
      [a, b, c] := by
  rw [secondOfThree_iff] at hb
  rw [isTail_iff] at hc
  simp only [UInt8.le_iff_toNat_le, UInt8.lt_iff_toNat_lt, UInt8.toNat_ofNat] at ha
  have hbits : tailBits b = b.toNat - 128 ∧ tailBits c = c.toNat - 128 := ⟨rfl, rfl⟩
  have hnat : (Char.ofNat ((a.toNat - 0xE0) * 4096 + tailBits b * 64 + tailBits c)).val.toNat =
      (a.toNat - 0xE0) * 4096 + tailBits b * 64 + tailBits c :=
    toNat_charOfNat (by unfold Nat.isValidChar; omega)
  rw [String.utf8EncodeChar]
  simp only [hnat]
  rw [if_neg (by omega), if_neg (by omega), if_pos (by omega), ofNat_eq_of (a := a) (by omega),
    ofNat_eq_of (a := b) (by omega), ofNat_eq_of (a := c) (by omega)]

/-- The octets of a character that is written in four. -/
theorem utf8EncodeChar_four (ha : 0xF0 ≤ a ∧ a < 0xF5) (hb : secondOfFour a b = true)
    (hc : isTail c = true) (hd : isTail d = true) :
    String.utf8EncodeChar (Char.ofNat ((a.toNat - 0xF0) * 262144 + tailBits b * 4096
      + tailBits c * 64 + tailBits d)) = [a, b, c, d] := by
  rw [secondOfFour_iff] at hb
  rw [isTail_iff] at hc hd
  simp only [UInt8.le_iff_toNat_le, UInt8.lt_iff_toNat_lt, UInt8.toNat_ofNat] at ha
  have hbits : tailBits b = b.toNat - 128 ∧ tailBits c = c.toNat - 128 ∧
      tailBits d = d.toNat - 128 := ⟨rfl, rfl, rfl⟩
  have hnat : (Char.ofNat ((a.toNat - 0xF0) * 262144 + tailBits b * 4096 + tailBits c * 64
      + tailBits d)).val.toNat =
      (a.toNat - 0xF0) * 262144 + tailBits b * 4096 + tailBits c * 64 + tailBits d :=
    toNat_charOfNat (by unfold Nat.isValidChar; omega)
  rw [String.utf8EncodeChar]
  simp only [hnat]
  rw [if_neg (by omega), if_neg (by omega), if_neg (by omega), ofNat_eq_of (a := a) (by omega),
    ofNat_eq_of (a := b) (by omega), ofNat_eq_of (a := c) (by omega),
    ofNat_eq_of (a := d) (by omega)]

end

/-- Octets whose units are all characters are what these are written as. By the cases of reading:
each character gives back the octets that it was read from. -/
theorem eq_of_units {b : Bytes} {cs : List Char} (h : units b = cs.map some) :
    b = cs.flatMap String.utf8EncodeChar := by
  fun_induction units b generalizing cs
  case case1 =>
    rw [List.map_eq_nil_iff.1 h.symm]
    rfl
  case case2 a rest ha ih =>
    obtain ⟨c, cs, rfl, hc, hrest⟩ := List.map_eq_cons_iff.1 h.symm
    rw [List.flatMap_cons, Option.some.inj hc, utf8EncodeChar_one ha, ← ih hrest.symm,
      List.singleton_append]
  case case5 a _ h₂ h₃ b rest hb ih =>
    obtain ⟨c, cs, rfl, hc, hrest⟩ := List.map_eq_cons_iff.1 h.symm
    have hchar := utf8EncodeChar_two ⟨UInt8.not_lt.1 h₂, h₃⟩ hb
    rw [List.flatMap_cons, Option.some.inj hc, hchar, ← ih hrest.symm, List.cons_append,
      List.singleton_append]
  case case9 a _ _ h₃ h₄ b hb c rest hc ih =>
    obtain ⟨x, cs, rfl, hx, hrest⟩ := List.map_eq_cons_iff.1 h.symm
    have hchar := utf8EncodeChar_three ⟨UInt8.not_lt.1 h₃, h₄⟩ hb hc
    rw [List.flatMap_cons, Option.some.inj hx, hchar, ← ih hrest.symm, List.cons_append,
      List.cons_append, List.singleton_append]
  case case15 a _ _ _ h₄ h₅ b hb c hc d rest hd ih =>
    obtain ⟨x, cs, rfl, hx, hrest⟩ := List.map_eq_cons_iff.1 h.symm
    have hchar := utf8EncodeChar_four ⟨UInt8.not_lt.1 h₄, h₅⟩ hb hc hd
    rw [List.flatMap_cons, Option.some.inj hx, hchar, ← ih hrest.symm, List.cons_append,
      List.cons_append, List.cons_append, List.singleton_append]
  -- in the other cases a piece is broken
  all_goals cases cs <;> cases h

/-- Units that are characters all of them are no broken pieces. -/
theorem eq_map_some_of_mapM {us : List (Option Char)} {cs : List Char}
    (h : us.mapM id = some cs) : us = cs.map some := by
  induction us generalizing cs with
  | nil =>
    cases h
    rfl
  | cons u us ih =>
    rw [List.mapM_cons] at h
    obtain ⟨c, hc, h⟩ := Option.bind_eq_some_iff.1 h
    obtain ⟨cs, hcs, h⟩ := Option.bind_eq_some_iff.1 h
    cases h
    rw [show u = some c from hc, ih hcs, List.map_cons]

/-- Octets are read as a text just where they are what it is written as. -/
theorem decode?_eq_some_iff {b : Bytes} {s : String} : decode? b = some s ↔ b = encode s := by
  constructor
  · intro h
    obtain ⟨cs, hcs, rfl⟩ := Option.map_eq_some_iff.1 h
    rw [encode, String.toList_ofList]
    exact eq_of_units (eq_map_some_of_mapM hcs)
  · rintro rfl
    exact decode?_encode s

/-- Octets are read as no text just where no text is written so. -/
theorem decode?_eq_none_iff {b : Bytes} : decode? b = none ↔ ∀ s, b ≠ encode s := by
  rw [Option.eq_none_iff_forall_ne_some]
  exact forall_congr' fun s => not_congr decode?_eq_some_iff

/-- Texts are written one after the other. -/
theorem encode_append (s t : String) : encode (s ++ t) = encode s ++ encode t := by
  simp only [encode, String.toList_append, List.flatMap_append]

/-! ## The octets of ASCII -/

/-- A character of ASCII is written as the octet for it. -/
theorem utf8EncodeChar_ascii {c : Char} (hc : c.toNat < 128) :
    String.utf8EncodeChar c = [UInt8.ofNat c.toNat] := by
  have hnat : c.val.toNat = c.toNat := rfl
  simp only [String.utf8EncodeChar, hnat, if_pos (Nat.le_of_lt_succ hc)]

/-- A character above ASCII is written in octets above ASCII. -/
theorem utf8EncodeChar_above {c : Char} (hc : 128 ≤ c.toNat) :
    ∀ b ∈ String.utf8EncodeChar c, 128 ≤ b.toNat := by
  have hnat : c.val.toNat = c.toNat := rfl
  have habove {n : Nat} (hn : 128 ≤ n ∧ n < 256) : 128 ≤ (UInt8.ofNat n).toNat := by
    rw [toNat_ofNat hn.2]
    exact hn.1
  simp only [String.utf8EncodeChar, hnat]
  split_ifs with h₁ h₂ h₃
  · omega
  all_goals
    simp only [List.forall_mem_cons]
    simp only [List.not_mem_nil, false_implies, implies_true, and_true]
  · exact ⟨habove (by omega), habove (by omega)⟩
  · exact ⟨habove (by omega), habove (by omega), habove (by omega)⟩
  · exact ⟨habove (by omega), habove (by omega), habove (by omega), habove (by omega)⟩

/-- An octet of ASCII in what is written is a character of the text. -/
theorem mem_encode {s : String} {b : UInt8} (hb : b ∈ encode s) (hascii : b.toNat < 128) :
    Char.ofNat b.toNat ∈ s.toList := by
  obtain ⟨c, hc, hb⟩ := List.mem_flatMap.1 hb
  have hlow : c.toNat < 128 := by
    by_contra hnot
    have := utf8EncodeChar_above (Nat.le_of_not_lt hnot) b hb
    omega
  rw [utf8EncodeChar_ascii hlow, List.mem_singleton] at hb
  rw [hb, toNat_ofNat (by omega), Char.ofNat_toNat]
  exact hc

/-- A number above ASCII is that of no character of ASCII. -/
theorem charOfNat_ne {n : Nat} {c : Char} (hvalid : n.isValidChar) (hn : 128 ≤ n)
    (hc : c.toNat < 128) : c ≠ Char.ofNat n := by
  rintro rfl
  rw [toNat_charOfNat hvalid] at hc
  omega

/-- A unit of ASCII is an octet of what is read. -/
theorem mem_of_some_mem_units {b : Bytes} {c : Char} (h : some c ∈ units b)
    (hc : c.toNat < 128) : UInt8.ofNat c.toNat ∈ b := by
  fun_induction units b
  all_goals
    simp only [List.mem_cons, List.not_mem_nil, Option.some.injEq, reduceCtorEq, false_or,
      or_false] at *
  case case2 a rest ha ih =>
    simp only [UInt8.lt_iff_toNat_lt, UInt8.toNat_ofNat] at ha
    obtain rfl | h := h
    · rw [toNat_charOfNat (by left; omega), UInt8.ofNat_toNat]
      exact .inl rfl
    · exact .inr (ih h)
  -- a character of two, three or four octets is above ASCII
  case case5 a _ h₂ h₃ b rest hb ih =>
    rw [isTail_iff] at hb
    simp only [UInt8.lt_iff_toNat_lt, UInt8.toNat_ofNat] at h₂ h₃
    have hne := charOfNat_ne (n := (a.toNat - 0xC0) * 64 + tailBits b) (c := c)
      (by unfold tailBits; left; omega) (by unfold tailBits; omega) hc
    grind
  case case9 a _ _ h₃ h₄ b hb c' rest hc' ih =>
    rw [secondOfThree_iff] at hb
    rw [isTail_iff] at hc'
    simp only [UInt8.lt_iff_toNat_lt, UInt8.toNat_ofNat] at h₃ h₄
    have hne := charOfNat_ne (n := (a.toNat - 0xE0) * 4096 + tailBits b * 64 + tailBits c')
      (c := c) (by unfold tailBits Nat.isValidChar; omega) (by unfold tailBits; omega) hc
    grind
  case case15 a _ _ _ h₄ h₅ b hb c' hc' d rest hd ih =>
    rw [secondOfFour_iff] at hb
    rw [isTail_iff] at hc' hd
    simp only [UInt8.lt_iff_toNat_lt, UInt8.toNat_ofNat] at h₄ h₅
    have hne := charOfNat_ne (n := (a.toNat - 0xF0) * 262144 + tailBits b * 4096
      + tailBits c' * 64 + tailBits d)
      (c := c) (by unfold tailBits Nat.isValidChar; omega) (by unfold tailBits; omega) hc
    grind
  all_goals grind

/-- A character of ASCII in what is read, broken pieces or not, is an octet of it. -/
theorem mem_of_mem_decodeLossy {b : Bytes} {c : Char} (h : c ∈ (decodeLossy b).toList)
    (hc : c.toNat < 128) : UInt8.ofNat c.toNat ∈ b := by
  rw [decodeLossy, String.toList_ofList] at h
  obtain ⟨u, hu, rfl⟩ := List.mem_map.1 h
  cases u with
  | some c => exact mem_of_some_mem_units hu hc
  | none => exact absurd hc (by decide)

end ProxyFilter.Utf8
