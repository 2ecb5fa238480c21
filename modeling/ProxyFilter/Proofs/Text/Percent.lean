import ProxyFilter.Proofs.Text.Utf8
import ProxyFilter.Text.Percent

/-!
# Components of queries, written and read again

A text is read from its percent-encoding as it was (`Percent.decode_encode`): each octet is read
from what it is written as, whatever follows (`Percent.decodeBytes_written`). The encoding has only
letters, digits and the marks `-._~%` (`Percent.isWritable_of_mem_encode`), so none of the
characters that a query is cut at.
-/

namespace ProxyFilter.Percent

/-- What an octet is written as. -/
def written (b : UInt8) : List Char :=
  if isUnreserved b then [Char.ofNat b.toNat] else escape b

/-- A component is written octet by octet. -/
theorem toList_encode (s : String) : (encode s).toList = (Utf8.encode s).flatMap written :=
  String.toList_ofList

/-- A digit of an escape is one octet, and stands for its value. -/
theorem hexValue?_digit : ∀ n < 16, (Hex.digit n).toUpper.toNat < 128 ∧
    Byte.hexValue? (UInt8.ofNat (Hex.digit n).toUpper.toNat) = some n := by
  decide

/-- An octet that does not begin an escape is read as it is. -/
theorem decodeBytes_cons {b : UInt8} (h : b ≠ 37) (rest : Bytes) :
    decodeBytes (b :: rest) = b :: decodeBytes rest := by
  rw [decodeBytes.eq_def]
  simp only [if_neg h]

/-- An escape is read as the octet for its two digits. -/
theorem decodeBytes_escape {h l : UInt8} {high low : Nat} (hhigh : Byte.hexValue? h = some high)
    (hlow : Byte.hexValue? l = some low) (rest : Bytes) :
    decodeBytes (37 :: h :: l :: rest) = UInt8.ofNat (16 * high + low) :: decodeBytes rest := by
  rw [decodeBytes.eq_def]
  simp only [if_true, hhigh, hlow]

/-- A percent sign that begins no escape is read as it is. -/
theorem decodeBytes_percent {h l : UInt8} (hnone : ∀ high low : Nat,
    Byte.hexValue? h = some high → Byte.hexValue? l = some low → False) (rest : Bytes) :
    decodeBytes (37 :: h :: l :: rest) = 37 :: decodeBytes (h :: l :: rest) := by
  conv_lhs => rw [decodeBytes.eq_def]
  cases hhigh : Byte.hexValue? h with
  | none => simp only [if_true, hhigh]
  | some high =>
    cases hlow : Byte.hexValue? l with
    | none => simp only [if_true, hhigh, hlow]
    | some low => exact (hnone high low hhigh hlow).elim

/-- Unreserved octets are those of some ASCII characters, and begin no escape. -/
theorem isUnreserved_bounds {b : UInt8} (h : isUnreserved b = true) : b.toNat < 128 ∧ b ≠ 37 := by
  simp only [isUnreserved, Byte.isAlnum, Byte.isAlpha, Byte.isUpper, Byte.isDigit, Bool.or_eq_true,
    Bool.and_eq_true, decide_eq_true_eq, beq_iff_eq, UInt8.le_iff_toNat_le, ← UInt8.toNat_inj,
    ne_eq, UInt8.toNat_ofNat] at h ⊢
  omega

/-- An octet is read from what it is written as, whatever follows. -/
theorem decodeBytes_written (b : UInt8) (rest : Bytes) :
    decodeBytes ((written b).flatMap String.utf8EncodeChar ++ rest) = b :: decodeBytes rest := by
  have hb := b.toNat_lt
  rw [written]
  split
  · next hunreserved =>
    obtain ⟨hascii, hne⟩ := isUnreserved_bounds hunreserved
    have hnumber : (Char.ofNat b.toNat).toNat = b.toNat := Utf8.toNat_charOfNat (by left; omega)
    rw [List.flatMap_singleton, Utf8.utf8EncodeChar_ascii (by omega), hnumber, UInt8.ofNat_toNat,
      List.singleton_append, decodeBytes_cons hne]
  · obtain ⟨hhigh, hhighValue⟩ := hexValue?_digit (b.toNat / 16) (by omega)
    obtain ⟨hlow, hlowValue⟩ := hexValue?_digit (b.toNat % 16) (by omega)
    have hoctets : (escape b).flatMap String.utf8EncodeChar =
        [37, UInt8.ofNat (Hex.digit (b.toNat / 16)).toUpper.toNat,
          UInt8.ofNat (Hex.digit (b.toNat % 16)).toUpper.toNat] := by
      simp only [escape, Hex.digitsOf, List.map_cons, List.map_nil, List.flatMap_cons,
        List.flatMap_nil, Utf8.utf8EncodeChar_ascii hhigh, Utf8.utf8EncodeChar_ascii hlow]
      rfl
    have hvalue : UInt8.ofNat (16 * (b.toNat / 16) + b.toNat % 16) = b := by
      rw [Nat.div_add_mod, UInt8.ofNat_toNat]
    rw [hoctets]
    exact (decodeBytes_escape hhighValue hlowValue rest).trans (by rw [hvalue])

/-- **A component is read from its percent-encoding as it was.** -/
theorem decode_encode (s : String) : decode (encode s) = s := by
  have hoctets (b : Bytes) :
      decodeBytes ((b.flatMap written).flatMap String.utf8EncodeChar) = b := by
    induction b with
    | nil => rfl
    | cons x b ih => rw [List.flatMap_cons, List.flatMap_append, decodeBytes_written, ih]
  have hwritten : Utf8.encode (encode s) =
      ((Utf8.encode s).flatMap written).flatMap String.utf8EncodeChar := by
    rw [Utf8.encode, toList_encode]
  rw [decode, hwritten, hoctets, Utf8.decodeLossy_encode]

/-- The characters of which percent-encodings are made. -/
def isWritable (c : Char) : Bool := c.isAlphanum || ['-', '.', '_', '~', '%'].contains c

/-- An octet is written in such characters. -/
theorem isWritable_of_mem_written (b : UInt8) : ∀ c ∈ written b, isWritable c = true := by
  have hall : ∀ n < 256, (written (UInt8.ofNat n)).all isWritable = true := by decide +kernel
  have hb := hall b.toNat b.toNat_lt
  rw [UInt8.ofNat_toNat] at hb
  exact List.all_eq_true.1 hb

/-- A percent-encoding is made of such characters. -/
theorem isWritable_of_mem_encode {s : String} {c : Char} (h : c ∈ (encode s).toList) :
    isWritable c = true := by
  rw [toList_encode] at h
  obtain ⟨b, -, hc⟩ := List.mem_flatMap.1 h
  exact isWritable_of_mem_written b c hc

/-- A character of another kind is in no percent-encoding. -/
theorem not_mem_encode {s : String} {c : Char} (h : isWritable c = false) :
    c ∉ (encode s).toList := by
  intro hmem
  rw [isWritable_of_mem_encode hmem] at h
  cases h

end ProxyFilter.Percent
