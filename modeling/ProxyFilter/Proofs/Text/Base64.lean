import ProxyFilter.Text.Base64

/-!
# Characters of base64

Where no `=` signs are used, a text that can be decoded has characters of the alphabet only
(`isSome_value?_of_decodeChars?`), so no `=` sign among them (`not_mem_of_decode?`).

What is encoded is decoded as it was, with padding or without (`decode?_encode`), in an alphabet
whose characters stand for one value each (`Alphabet.IsFaithful`). The text is made of such
characters and of `=` signs (`forall_mem_encode`). A text that can be decoded in two spellings is
decoded to the same octets (`decode?_unique`), as long as no character has two values
(`Alphabet.Agree`).
-/

namespace ProxyFilter.Base64

variable {a : Alphabet} {b : Bytes}

/-- The characters of a last group of two are of the alphabet. -/
theorem isSome_value?_of_lastOne? {c d : Char} (h : lastOne? a c d = some b) :
    ∀ x ∈ [c, d], (a.value? x).isSome = true := by
  obtain ⟨u, hu, h⟩ := Option.bind_eq_some_iff.1 h
  obtain ⟨v, hv, -⟩ := Option.bind_eq_some_iff.1 h
  simp [hu, hv]

/-- The characters of a last group of three are of the alphabet. -/
theorem isSome_value?_of_lastTwo? {c d e : Char} (h : lastTwo? a c d e = some b) :
    ∀ x ∈ [c, d, e], (a.value? x).isSome = true := by
  obtain ⟨u, hu, h⟩ := Option.bind_eq_some_iff.1 h
  obtain ⟨v, hv, h⟩ := Option.bind_eq_some_iff.1 h
  obtain ⟨w, hw, -⟩ := Option.bind_eq_some_iff.1 h
  simp [hu, hv, hw]

/-- The characters of a full group are of the alphabet. -/
theorem isSome_value?_of_group? {c d e f : Char} (h : group? a c d e f = some b) :
    ∀ x ∈ [c, d, e, f], (a.value? x).isSome = true := by
  obtain ⟨u, hu, h⟩ := Option.bind_eq_some_iff.1 h
  obtain ⟨v, hv, h⟩ := Option.bind_eq_some_iff.1 h
  obtain ⟨w, hw, h⟩ := Option.bind_eq_some_iff.1 h
  obtain ⟨x, hx, -⟩ := Option.bind_eq_some_iff.1 h
  simp [hu, hv, hw, hx]

/-- A text without padding that can be decoded has characters of the alphabet only. By recursion on
the groups. -/
theorem isSome_value?_of_decodeChars? {a : Alphabet} : ∀ {b : Bytes} {cs : List Char},
    decodeChars? a .none cs = some b → ∀ x ∈ cs, (a.value? x).isSome = true
  | _, [], _ => by simp
  | _, [_], h => nomatch h
  | _, [c, d], h => isSome_value?_of_lastOne? h
  | _, [c, d, e], h => isSome_value?_of_lastTwo? h
  | _, c :: d :: e :: f :: rest, h => by
    have h : (group? a c d e f >>= fun bytes => decodeChars? a .none rest >>= fun more =>
      pure (bytes ++ more)) = some _ := h
    obtain ⟨bytes, hgroup, h⟩ := Option.bind_eq_some_iff.1 h
    obtain ⟨more, hmore, -⟩ := Option.bind_eq_some_iff.1 h
    have hrest := isSome_value?_of_decodeChars? hmore
    have hfirst := isSome_value?_of_group? hgroup
    simp only [List.forall_mem_cons] at hfirst ⊢
    exact ⟨hfirst.1, hfirst.2.1, hfirst.2.2.1, hfirst.2.2.2.1, hrest⟩

/-- A text for URLs that can be decoded without padding has no `=` sign. -/
theorem not_mem_of_decode? {s : String} (h : decode? .urlSafe .none s = some b) :
    '=' ∉ s.toList := by
  intro hmem
  have hvalue := isSome_value?_of_decodeChars? h '=' hmem
  revert hvalue
  decide

/-! ## What is encoded -/

/-- The character for a value stands for that value, and the filling stands for none. -/
structure Alphabet.IsFaithful (a : Alphabet) : Prop where
  value_char : ∀ n < 64, a.value? (a.char n) = some n
  value_fill : a.value? '=' = none

/-- The alphabet with `+` and `/` is faithful. -/
theorem Alphabet.isFaithful_standard : Alphabet.standard.IsFaithful where
  value_char := by decide
  value_fill := by decide

/-- The alphabet with `-` and `_` is faithful. -/
theorem Alphabet.isFaithful_urlSafe : Alphabet.urlSafe.IsFaithful where
  value_char := by decide
  value_fill := by decide

/-- Characters of a faithful alphabet are no filling. -/
theorem Alphabet.IsFaithful.char_ne (h : a.IsFaithful) {n : Nat} (hn : n < 64) :
    a.char n ≠ '=' := by
  intro hchar
  have hvalue := h.value_char n hn
  rw [hchar, h.value_fill] at hvalue
  cases hvalue

/-- One octet is read from the group for it. -/
theorem lastOne?_char (h : a.IsFaithful) (x : UInt8) :
    lastOne? a (a.char (x.toNat / 4)) (a.char (x.toNat % 4 * 16)) = some [x] := by
  have hx := x.toNat_lt
  have hoctet : UInt8.ofNat (x.toNat / 4 * 4 + x.toNat % 4 * 16 / 16) = x :=
    UInt8.toNat_inj.1 (by rw [UInt8.toNat_ofNat']; omega)
  have hunused : x.toNat % 4 * 16 % 16 = 0 := by omega
  simp only [lastOne?, Option.bind_eq_bind, h.value_char (x.toNat / 4) (by omega),
    h.value_char (x.toNat % 4 * 16) (by omega), Option.bind_some, if_pos hunused, hoctet]

/-- Two octets are read from the group for them. -/
theorem lastTwo?_char (h : a.IsFaithful) (x y : UInt8) :
    lastTwo? a (a.char (x.toNat / 4)) (a.char (x.toNat % 4 * 16 + y.toNat / 16))
      (a.char (y.toNat % 16 * 4)) = some [x, y] := by
  have hx := x.toNat_lt
  have hy := y.toNat_lt
  have hfirst : UInt8.ofNat (x.toNat / 4 * 4 + (x.toNat % 4 * 16 + y.toNat / 16) / 16) = x :=
    UInt8.toNat_inj.1 (by rw [UInt8.toNat_ofNat']; omega)
  have hsecond : UInt8.ofNat ((x.toNat % 4 * 16 + y.toNat / 16) % 16 * 16 +
      y.toNat % 16 * 4 / 4) = y := UInt8.toNat_inj.1 (by rw [UInt8.toNat_ofNat']; omega)
  have hunused : y.toNat % 16 * 4 % 4 = 0 := by omega
  simp only [lastTwo?, Option.bind_eq_bind, h.value_char (x.toNat / 4) (by omega),
    h.value_char (x.toNat % 4 * 16 + y.toNat / 16) (by omega),
    h.value_char (y.toNat % 16 * 4) (by omega), Option.bind_some, if_pos hunused, hfirst, hsecond]

/-- Three octets are read from the group for them. -/
theorem group?_char (h : a.IsFaithful) (x y z : UInt8) :
    group? a (a.char (x.toNat / 4)) (a.char (x.toNat % 4 * 16 + y.toNat / 16))
      (a.char (y.toNat % 16 * 4 + z.toNat / 64)) (a.char (z.toNat % 64)) = some [x, y, z] := by
  have hx := x.toNat_lt
  have hy := y.toNat_lt
  have hz := z.toNat_lt
  have hfirst : UInt8.ofNat (x.toNat / 4 * 4 + (x.toNat % 4 * 16 + y.toNat / 16) / 16) = x :=
    UInt8.toNat_inj.1 (by rw [UInt8.toNat_ofNat']; omega)
  have hsecond : UInt8.ofNat ((x.toNat % 4 * 16 + y.toNat / 16) % 16 * 16 +
      (y.toNat % 16 * 4 + z.toNat / 64) / 4) = y :=
    UInt8.toNat_inj.1 (by rw [UInt8.toNat_ofNat']; omega)
  have hthird : UInt8.ofNat ((y.toNat % 16 * 4 + z.toNat / 64) % 4 * 64 + z.toNat % 64) = z :=
    UInt8.toNat_inj.1 (by rw [UInt8.toNat_ofNat']; omega)
  simp only [group?, Option.bind_eq_bind, h.value_char (x.toNat / 4) (by omega),
    h.value_char (x.toNat % 4 * 16 + y.toNat / 16) (by omega),
    h.value_char (y.toNat % 16 * 4 + z.toNat / 64) (by omega),
    h.value_char (z.toNat % 64) (by omega), Option.bind_some, hfirst, hsecond, hthird]
  rfl

/-- Octets are read from the characters for them. By recursion on the groups. -/
theorem decodeChars?_encodeChars (h : a.IsFaithful) (p : Padding) : ∀ b : Bytes,
    decodeChars? a p (encodeChars a p b) = some b
  | [] => rfl
  | [x] => by
    cases p <;> simp [encodeChars, decodeChars?, Padding.fill, List.replicate, lastOne?_char h]
  | [x, y] => by
    cases p <;> simp [encodeChars, decodeChars?, Padding.fill, List.replicate, lastTwo?_char h,
      h.char_ne (show y.toNat % 16 * 4 < 64 by omega)]
  | x :: y :: z :: rest => by
    simp [encodeChars, decodeChars?, group?_char h, decodeChars?_encodeChars h p rest,
      h.char_ne (Nat.mod_lt z.toNat (by decide : 0 < 64))]

/-- **What is encoded is decoded as it was.** -/
theorem decode?_encode (h : a.IsFaithful) (p : Padding) (b : Bytes) :
    decode? a p (encode a p b) = some b := by
  rw [decode?, encode, String.toList_ofList, decodeChars?_encodeChars h]

/-- What holds of the characters of the alphabet and of the filling holds of all that are written.
By recursion on the groups. -/
theorem forall_mem_encodeChars {P : Char → Prop} (hchar : ∀ n < 64, P (a.char n)) (hfill : P '=')
    (p : Padding) : ∀ b : Bytes, ∀ c ∈ encodeChars a p b, P c
  | [] => by simp [encodeChars]
  | [x] => by
    have hx := x.toNat_lt
    cases p <;> simp [encodeChars, Padding.fill, List.replicate, hfill,
      hchar (x.toNat / 4) (by omega), hchar (x.toNat % 4 * 16) (by omega)]
  | [x, y] => by
    have hx := x.toNat_lt
    have hy := y.toNat_lt
    cases p <;> simp [encodeChars, Padding.fill, List.replicate, hfill,
      hchar (x.toNat / 4) (by omega), hchar (x.toNat % 4 * 16 + y.toNat / 16) (by omega),
      hchar (y.toNat % 16 * 4) (by omega)]
  | x :: y :: z :: rest => by
    have hx := x.toNat_lt
    have hy := y.toNat_lt
    have hz := z.toNat_lt
    have hrest := forall_mem_encodeChars hchar hfill p rest
    simp only [encodeChars, List.forall_mem_cons]
    exact ⟨hchar _ (by omega), hchar _ (by omega), hchar _ (by omega), hchar _ (by omega), hrest⟩

/-- What holds of the characters of the alphabet and of the filling holds of a text of them. -/
theorem forall_mem_encode {P : Char → Prop} (hchar : ∀ n < 64, P (a.char n)) (hfill : P '=')
    (p : Padding) (b : Bytes) : ∀ c ∈ (encode a p b).toList, P c := by
  rw [encode, String.toList_ofList]
  exact forall_mem_encodeChars hchar hfill p b

/-- Octets are written, if there are any. -/
theorem encode_eq_empty {p : Padding} : encode a p b = "" ↔ b = [] := by
  rw [encode, ← String.toList_inj, String.toList_ofList]
  fun_cases encodeChars a p b <;> simp

/-! ## Spellings -/

/-- No character has one value in one alphabet and another value in the other. -/
def Alphabet.Agree (a a' : Alphabet) : Prop :=
  ∀ c u v, a.value? c = some u → a'.value? c = some v → u = v

/-- An alphabet agrees with itself. -/
theorem Alphabet.Agree.refl (a : Alphabet) : a.Agree a := by
  intro c u v hu hv
  rw [hu] at hv
  exact Option.some.inj hv

/-- Alphabets agree in either order. -/
theorem Alphabet.Agree.symm {a a' : Alphabet} (h : a.Agree a') : a'.Agree a :=
  fun c u v hu hv => (h c v u hv hu).symm

/-- The two alphabets agree: each lacks the characters that only the other one has. -/
theorem Alphabet.agree_standard_urlSafe : Alphabet.standard.Agree Alphabet.urlSafe := by
  intro c u v hu hv
  simp only [value?, standard, urlSafe] at hu hv
  grind

section
variable {a a' : Alphabet} {b b' : Bytes} {c d e f : Char}

/-- Characters of both alphabets have the same values in both. -/
theorem Alphabet.Agree.value?_eq (h : a.Agree a') {cs : List Char}
    (hcs : ∀ c ∈ cs, (a.value? c).isSome = true) (hcs' : ∀ c ∈ cs, (a'.value? c).isSome = true) :
    ∀ c ∈ cs, a.value? c = a'.value? c := by
  intro c hc
  obtain ⟨u, hu⟩ := Option.isSome_iff_exists.1 (hcs c hc)
  obtain ⟨v, hv⟩ := Option.isSome_iff_exists.1 (hcs' c hc)
  rw [hu, hv, h c u v hu hv]

/-- The octet of a last group of two is the same in alphabets that agree. -/
theorem lastOne?_unique (h : a.Agree a') (hb : lastOne? a c d = some b)
    (hb' : lastOne? a' c d = some b') : b = b' := by
  have hvalue := h.value?_eq (isSome_value?_of_lastOne? hb) (isSome_value?_of_lastOne? hb')
  simp only [List.forall_mem_cons] at hvalue
  rw [lastOne?, hvalue.1, hvalue.2.1] at hb
  exact Option.some.inj (hb.symm.trans hb')

/-- The octets of a last group of three are the same in alphabets that agree. -/
theorem lastTwo?_unique (h : a.Agree a') (hb : lastTwo? a c d e = some b)
    (hb' : lastTwo? a' c d e = some b') : b = b' := by
  have hvalue := h.value?_eq (isSome_value?_of_lastTwo? hb) (isSome_value?_of_lastTwo? hb')
  simp only [List.forall_mem_cons] at hvalue
  rw [lastTwo?, hvalue.1, hvalue.2.1, hvalue.2.2.1] at hb
  exact Option.some.inj (hb.symm.trans hb')

/-- The octets of a full group are the same in alphabets that agree. -/
theorem group?_unique (h : a.Agree a') (hb : group? a c d e f = some b)
    (hb' : group? a' c d e f = some b') : b = b' := by
  have hvalue := h.value?_eq (isSome_value?_of_group? hb) (isSome_value?_of_group? hb')
  simp only [List.forall_mem_cons] at hvalue
  rw [group?, hvalue.1, hvalue.2.1, hvalue.2.2.1, hvalue.2.2.2.1] at hb
  exact Option.some.inj (hb.symm.trans hb')

end

/-- A group of four characters is a full one, unless padding is used and it ends the text in `=`. -/
theorem decodeChars?_four (a : Alphabet) (p : Padding) (c d e f : Char) (rest : List Char) :
    decodeChars? a p (c :: d :: e :: f :: rest) =
      if p = .required ∧ rest = [] ∧ f = '=' then
        if e = '=' then lastOne? a c d else lastTwo? a c d e
      else group? a c d e f >>= fun bytes =>
        decodeChars? a p rest >>= fun more => some (bytes ++ more) := rfl

/-- The filling is no character of a full group. -/
theorem Alphabet.IsFaithful.group?_fill (h : a.IsFaithful) (c d e : Char) :
    group? a c d e '=' = Option.none := by
  rw [Option.eq_none_iff_forall_ne_some]
  intro b hb
  have hvalue := isSome_value?_of_group? hb '=' (by simp)
  rw [h.value_fill] at hvalue
  cases hvalue

/-- Characters that can be decoded in two spellings are decoded to the same octets. By recursion on
the groups. -/
theorem decodeChars?_unique {a a' : Alphabet} (ha : a.IsFaithful) (ha' : a'.IsFaithful)
    (h : a.Agree a') {p p' : Padding} : ∀ {b b' : Bytes} {cs : List Char},
    decodeChars? a p cs = some b → decodeChars? a' p' cs = some b' → b = b'
  | _, _, [], hb, hb' => by
    cases hb
    cases hb'
    rfl
  | _, _, [_], hb, _ => nomatch hb
  | _, _, [c, d], hb, hb' =>
    lastOne?_unique h (Option.ite_none_right_eq_some.1 hb).2 (Option.ite_none_right_eq_some.1 hb').2
  | _, _, [c, d, e], hb, hb' =>
    lastTwo?_unique h (Option.ite_none_right_eq_some.1 hb).2 (Option.ite_none_right_eq_some.1 hb').2
  | _, _, c :: d :: e :: f :: rest, hb, hb' => by
    rw [decodeChars?_four] at hb hb'
    split at hb
    · next hlast =>
      obtain ⟨-, -, rfl⟩ := hlast
      split at hb'
      · split at hb
        · next he =>
          rw [if_pos he] at hb'
          exact lastOne?_unique h hb hb'
        · next he =>
          rw [if_neg he] at hb'
          exact lastTwo?_unique h hb hb'
      · rw [ha'.group?_fill] at hb'
        cases hb'
    · split at hb'
      · next hlast =>
        rw [hlast.2.2, ha.group?_fill] at hb
        cases hb
      · obtain ⟨bytes, hgroup, hb⟩ := Option.bind_eq_some_iff.1 hb
        obtain ⟨more, hmore, hb⟩ := Option.bind_eq_some_iff.1 hb
        obtain ⟨bytes', hgroup', hb'⟩ := Option.bind_eq_some_iff.1 hb'
        obtain ⟨more', hmore', hb'⟩ := Option.bind_eq_some_iff.1 hb'
        obtain rfl := group?_unique h hgroup hgroup'
        obtain rfl := decodeChars?_unique ha ha' h hmore hmore'
        exact Option.some.inj (hb.symm.trans hb')

/-- **A text that can be decoded in two spellings is decoded to the same octets.** -/
theorem decode?_unique {a a' : Alphabet} (ha : a.IsFaithful) (ha' : a'.IsFaithful)
    (h : a.Agree a') {p p' : Padding} {s : String} {b b' : Bytes} (hb : decode? a p s = some b)
    (hb' : decode? a' p' s = some b') : b = b' :=
  decodeChars?_unique ha ha' h hb hb'

end ProxyFilter.Base64
