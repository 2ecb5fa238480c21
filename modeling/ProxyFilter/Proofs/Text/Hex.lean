import ProxyFilter.Proofs.Text.Ascii
import ProxyFilter.Text.Hex

/-!
# Hexadecimal text, written and read again

Octets are read from the digits they are written in, whatever the letter case of each digit
(`Hex.decode?_of_lower`). What is written has hexadecimal digits only
(`Hex.isHexDigit_of_mem_encode`), and some if there are octets (`Hex.encode_eq_empty`).
-/

namespace ProxyFilter.Hex

/-- A digit is written in hexadecimal and stands for its number. -/
theorem value?_digit :
    ∀ n < 16, Ascii.isHexDigit (digit n) = true ∧ value? (digit n) = some n := by
  decide

/-- A digit has its value in either letter case. -/
theorem value?_toLower (c : Char) : value? c.toLower = value? c :=
  Ascii.toLower_invariant value? (by decide +kernel) c

/-- Pairs of digits are read in either letter case. -/
theorem decodeChars?_map_toLower (cs : List Char) :
    decodeChars? (cs.map Char.toLower) = decodeChars? cs := by
  fun_induction decodeChars? cs with
  | case1 => rfl
  | case2 => rfl
  | case3 a b rest ih =>
    simp only [List.map_cons, decodeChars?, value?_toLower, ih]

/-- Octets are read from the digits they are written in. -/
theorem decodeChars?_digitsOf (b : Bytes) : decodeChars? (b.flatMap digitsOf) = some b := by
  induction b with
  | nil => rfl
  | cons x b ih =>
    have hx := x.toNat_lt
    have hoctet : UInt8.ofNat (16 * (x.toNat / 16) + x.toNat % 16) = x := by
      rw [Nat.div_add_mod, UInt8.ofNat_toNat]
    have hhigh := (value?_digit (x.toNat / 16) (by omega)).2
    have hlow := (value?_digit (x.toNat % 16) (by omega)).2
    simp only [List.flatMap_cons, digitsOf, List.cons_append, List.nil_append, decodeChars?, hhigh,
      hlow, ih, Option.bind_eq_bind, Option.bind_some, hoctet, Option.pure_def]

/-- **Octets are read from what they are written as, in any letter case.** -/
theorem decode?_of_lower {s : String} {b : Bytes} (h : Ascii.lower s = encode b) :
    decode? s = some b := by
  have hdigits : s.toList.map Char.toLower = b.flatMap digitsOf := by
    rw [← Ascii.toList_lower, h, encode, String.toList_ofList]
  rw [decode?, ← decodeChars?_map_toLower, hdigits, decodeChars?_digitsOf]

/-- Octets are written in hexadecimal digits. -/
theorem isHexDigit_of_mem_encode {b : Bytes} {c : Char} (hc : c ∈ (encode b).toList) :
    Ascii.isHexDigit c = true := by
  rw [encode, String.toList_ofList] at hc
  obtain ⟨x, -, hc⟩ := List.mem_flatMap.1 hc
  have hx := x.toNat_lt
  simp only [digitsOf, List.mem_cons, List.not_mem_nil, or_false] at hc
  rcases hc with rfl | rfl
  · exact (value?_digit _ (by omega)).1
  · exact (value?_digit _ (by omega)).1

/-- What is written in any letter case has hexadecimal digits only. -/
theorem isHexDigit_of_lower {s : String} {b : Bytes} (h : Ascii.lower s = encode b) {c : Char}
    (hc : c ∈ s.toList) : Ascii.isHexDigit c = true := by
  have hlower : c.toLower ∈ (encode b).toList := by
    rw [← h, Ascii.toList_lower]
    exact List.mem_map_of_mem hc
  rw [← Ascii.isHexDigit_toLower]
  exact isHexDigit_of_mem_encode hlower

/-- What is written is in lower case. -/
theorem lower_encode (b : Bytes) : Ascii.lower (encode b) = encode b := by
  have hdigit : ∀ n < 16, (digit n).toLower = digit n := by decide
  have hoctet (x : UInt8) : (digitsOf x).map Char.toLower = digitsOf x := by
    have hx := x.toNat_lt
    simp only [digitsOf, List.map_cons, List.map_nil, hdigit (x.toNat / 16) (by omega),
      hdigit (x.toNat % 16) (by omega)]
  rw [Ascii.lower, encode, String.toList_ofList, List.map_flatMap, funext hoctet]

/-- Octets are written, if there are any. -/
theorem encode_eq_empty {b : Bytes} : encode b = "" ↔ b = [] := by
  rw [encode, ← String.toList_inj, String.toList_ofList]
  cases b <;> simp [digitsOf]

end ProxyFilter.Hex
