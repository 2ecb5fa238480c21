import Mathlib.Data.List.Basic
import ProxyFilter.Http.Trace
import ProxyFilter.Proofs.Text.Hex
import ProxyFilter.Proofs.Text.Split

/-!
# The form of a `traceparent` header

`IsTraceparent` says which texts are `VERSION-TRACE-PARENT-FLAGS`, without a word on how they are
read. The reader accepts exactly these, and takes the ids and the recording bit from them
(`Trace.ofTraceparent?_eq_some_iff`), with one addition: the flags are read as a number, and a
number may have a sign. So a plus sign and one digit pass for two digits
(`Trace.ofTraceparent?_signed`).
-/

namespace ProxyFilter

/-- A text without the mark is the first part of what it begins, where the mark follows it. -/
theorem Text.splitAll_cons {c : Char} {sep part : String} (hsep : sep.toList = [c])
    (hpart : c ∉ part.toList) (rest : String) :
    splitAll c (part ++ sep ++ rest) = part :: splitAll c rest := by
  rw [splitAll_append hsep, splitAll_of_not_mem hpart, List.singleton_append]

namespace Trace

/-- The text is so many hexadecimal digits. -/
def IsHex (size : Nat) (s : String) : Prop :=
  s.length = size ∧ ∀ c ∈ s.toList, Ascii.isHexDigit c = true

/-- The text is so many hexadecimal digits, and not all of them are zero. -/
def IsNonzeroHex (size : Nat) (s : String) : Prop := IsHex size s ∧ ∃ c ∈ s.toList, c ≠ '0'

/-- The text is `VERSION-TRACE-PARENT-FLAGS`. Only versions other than `00` may have more fields,
and there is no version `ff`. -/
structure IsTraceparent (text version trace parent flags : String) : Prop where
  fields : ∃ more, text = version ++ "-" ++ (trace ++ "-" ++ (parent ++ "-" ++ (flags ++ more))) ∧
    (more = "" ∨ version ≠ "00" ∧ ∃ rest, more = "-" ++ rest)
  isVersion : IsHex 2 version ∧ Ascii.lower version ≠ "ff"
  isTrace : IsNonzeroHex 32 trace
  isParent : IsNonzeroHex 16 parent

/-- The flags are two hexadecimal digits, which stand for the octet. -/
def IsFlags (flags : String) (octet : UInt8) : Prop :=
  IsHex 2 flags ∧ Hex.decode? flags = some [octet]

/-- The flags are a plus sign and one hexadecimal digit, which stands for the octet. -/
def IsSignedFlags (flags : String) (octet : UInt8) : Prop :=
  ∃ digit, flags = "+" ++ digit ∧ IsHex 1 digit ∧ Hex.decode? ("0" ++ digit) = some [octet]

variable {text version trace parent flags field : String} {octet : UInt8}

/-! ## Fields -/

/-- Hexadecimal digits are no marks between fields. -/
theorem IsHex.dash_notMem {size : Nat} (h : IsHex size field) : '-' ∉ field.toList := by
  intro hdash
  have hdigit := h.2 '-' hdash
  cases hdigit

/-- The test for ids looks for digits that are not all zero. -/
theorem isId_iff {size : Nat} : isId size field = true ↔ IsNonzeroHex size field := by
  simp [isId, IsNonzeroHex, IsHex]

/-- The test for versions looks for two digits other than `ff`. -/
theorem isVersion_iff :
    isVersion field = true ↔ IsHex 2 field ∧ Ascii.lower field ≠ "ff" := by
  have hlower : Ascii.lower "ff" = "ff" := by decide
  simp [isVersion, IsHex, Ascii.sameName, hlower]

/-! ## Flags -/

/-- A hexadecimal digit has the value that it has in a pair of digits. -/
theorem value?_of_isHexDigit {c : Char} (hc : Ascii.isHexDigit c = true) :
    Hex.value? c = some (flags?.hexDigitValue c) ∧ flags?.hexDigitValue c < 16 :=
  Ascii.of_isHexDigit (P := fun c =>
    Hex.value? c = some (flags?.hexDigitValue c) ∧ flags?.hexDigitValue c < 16)
    (by decide +kernel) hc

/-- Two hexadecimal digits stand for an octet. -/
theorem decodeChars?_pair {a b : Char} (ha : Ascii.isHexDigit a = true)
    (hb : Ascii.isHexDigit b = true) : ∃ octet : UInt8,
      Hex.decodeChars? [a, b] = some [octet] ∧
        octet.toNat = 16 * flags?.hexDigitValue a + flags?.hexDigitValue b := by
  obtain ⟨hhigh, hhighLt⟩ := value?_of_isHexDigit ha
  obtain ⟨hlow, hlowLt⟩ := value?_of_isHexDigit hb
  refine ⟨.ofNat (16 * flags?.hexDigitValue a + flags?.hexDigitValue b), ?_, ?_⟩
  · simp only [Hex.decodeChars?, hhigh, hlow, Option.bind_eq_bind, Option.bind_some,
      Option.pure_def]
  · exact UInt8.toNat_ofNat_of_lt' (by simp only [UInt8.size]; omega)

/-- Flags in their form are read as what they stand for. -/
theorem IsFlags.flags? (h : IsFlags flags octet) : flags? flags = some octet.toNat := by
  obtain ⟨⟨hlength, hdigits⟩, hdecode⟩ := h
  rw [← String.length_toList] at hlength
  obtain ⟨a, b, hab⟩ := List.length_eq_two.1 hlength
  rw [hab] at hdigits
  have ha : Ascii.isHexDigit a = true := hdigits a (by simp)
  have hb : Ascii.isHexDigit b = true := hdigits b (by simp)
  have hsign : a ≠ '+' := by
    rintro rfl
    cases ha
  obtain ⟨octet', hoctet, hvalue⟩ := decodeChars?_pair ha hb
  rw [Hex.decode?, hab, hoctet] at hdecode
  cases hdecode
  simp [Trace.flags?, hab, ha, hb, hsign, hvalue]

/-- Flags with a sign in place of the first digit are read as what the other digit stands for. -/
theorem IsSignedFlags.flags? (h : IsSignedFlags flags octet) :
    flags? flags = some octet.toNat := by
  obtain ⟨digit, rfl, ⟨hlength, hdigits⟩, hdecode⟩ := h
  rw [← String.length_toList] at hlength
  obtain ⟨b, hdigit⟩ := List.length_eq_one_iff.1 hlength
  rw [hdigit] at hdigits
  have hb : Ascii.isHexDigit b = true := hdigits b (by simp)
  obtain ⟨octet', hoctet, hvalue⟩ := decodeChars?_pair (a := '0') rfl hb
  rw [Hex.decode?, String.toList_append, hdigit] at hdecode
  obtain rfl : octet' = octet := by simpa using hoctet.symm.trans hdecode
  simp [Trace.flags?, hdigit, hb, hvalue, flags?.hexDigitValue]

/-- Flags are read in their form, and with a sign in place of the first digit. -/
theorem flags?_eq_some {n : Nat} : flags? flags = some n ↔
    ∃ octet : UInt8, octet.toNat = n ∧ (IsFlags flags octet ∨ IsSignedFlags flags octet) := by
  constructor
  · intro h
    unfold Trace.flags? at h
    split at h
    · next a b hab =>
      split at h
      · next hb =>
        split at h
        · next hsign =>
          subst hsign
          cases h
          obtain ⟨octet, hoctet, hvalue⟩ := decodeChars?_pair (a := '0') rfl hb
          refine ⟨octet, by simpa [flags?.hexDigitValue] using hvalue,
            .inr ⟨String.singleton b, ?_, ⟨by simp, by simpa using hb⟩, ?_⟩⟩
          · simp [← String.toList_inj, hab]
          · rw [Hex.decode?, ← hoctet]
            simp
        · split at h
          · next ha =>
            cases h
            obtain ⟨octet, hoctet, hvalue⟩ := decodeChars?_pair ha hb
            have hlength : flags.length = 2 := by rw [← String.length_toList, hab]; rfl
            refine ⟨octet, hvalue, .inl ⟨⟨hlength, by simp [hab, ha, hb]⟩, ?_⟩⟩
            rw [Hex.decode?, hab, hoctet]
          · cases h
      · cases h
    · cases h
  · rintro ⟨octet, rfl, h | h⟩
    · exact h.flags?
    · exact h.flags?

/-- No flags hold the mark between fields. -/
theorem dash_notMem_of_flags (h : IsFlags flags octet ∨ IsSignedFlags flags octet) :
    '-' ∉ flags.toList := by
  rcases h with h | ⟨digit, rfl, hdigit, -⟩
  · exact h.1.dash_notMem
  · simpa using hdigit.dash_notMem

/-! ## The whole header -/

/-- A text in the form falls into its fields, and versions other than `00` may have more. -/
theorem IsTraceparent.splitAll (h : IsTraceparent text version trace parent flags)
    (hflags : '-' ∉ flags.toList) : ∃ more,
      Text.splitAll '-' text = version :: trace :: parent :: flags :: more ∧
        (version ≠ "00" ∨ more = []) := by
  obtain ⟨more, rfl, hmore⟩ := h.fields
  rw [Text.splitAll_cons rfl h.isVersion.1.dash_notMem, Text.splitAll_cons rfl
    h.isTrace.1.dash_notMem, Text.splitAll_cons rfl h.isParent.1.dash_notMem]
  rcases hmore with rfl | ⟨hversion, rest, rfl⟩
  · rw [String.append_empty, Text.splitAll_of_not_mem hflags]
    exact ⟨[], rfl, .inr rfl⟩
  · rw [← String.append_assoc, Text.splitAll_cons rfl hflags]
    exact ⟨_, rfl, .inl hversion⟩

/-- A text that falls into fields in the form is in the form. -/
theorem isTraceparent_of_splitAll {more : List String}
    (h : Text.splitAll '-' text = version :: trace :: parent :: flags :: more)
    (hversion : IsHex 2 version ∧ Ascii.lower version ≠ "ff")
    (hmore : version ≠ "00" ∨ more = []) (htrace : IsNonzeroHex 32 trace)
    (hparent : IsNonzeroHex 16 parent) : IsTraceparent text version trace parent flags := by
  refine ⟨?_, hversion, htrace, hparent⟩
  have hjoin : "-".intercalate (Text.splitAll '-' text) = text :=
    Text.intercalate_splitAll rfl text
  rw [h, String.intercalate_cons_cons, String.intercalate_cons_cons,
    String.intercalate_cons_cons] at hjoin
  cases more with
  | nil =>
    refine ⟨"", ?_, .inl rfl⟩
    rw [← hjoin]
    simp [String.append_assoc]
  | cons field more =>
    rw [String.intercalate_cons_cons] at hjoin
    refine ⟨"-" ++ "-".intercalate (field :: more), ?_, .inr ⟨by simpa using hmore, _, rfl⟩⟩
    rw [← hjoin]
    simp only [String.append_assoc]

/-- **A context is read from a text just where the text, without the blanks around it, is
`VERSION-TRACE-PARENT-FLAGS`: a version of two hexadecimal digits other than `ff`, ids of
thirty-two and of sixteen that are not all zero, and flags of two; or of a plus sign and one. More
fields may follow where the version is not `00`. The ids are taken in lower case, and the lowest
bit of the flags tells whether the trace is recorded.** -/
theorem ofTraceparent?_eq_some_iff {value : String} {t : Trace} :
    ofTraceparent? value = some t ↔ ∃ version trace parent flags octet,
      IsTraceparent (Text.trim value) version trace parent flags ∧
        (IsFlags flags octet ∨ IsSignedFlags flags octet) ∧
        t = { traceId := Ascii.lower trace, spanId := some (Ascii.lower parent),
              sampled := some (octet.toNat.testBit 0), format := .w3c } := by
  constructor
  · intro h
    unfold ofTraceparent? at h
    split at h
    · next version trace parent flags more hfields =>
      split at h
      · next hvalid =>
        simp only [Bool.and_eq_true, Bool.or_eq_true, bne_iff_ne, List.isEmpty_iff, isId_iff,
          isVersion_iff] at hvalid
        obtain ⟨⟨⟨hversion, hmore⟩, htrace⟩, hparent⟩ := hvalid
        obtain ⟨n, hn, rfl⟩ := Option.map_eq_some_iff.1 h
        obtain ⟨octet, rfl, hflags⟩ := flags?_eq_some.1 hn
        refine ⟨version, trace, parent, flags, octet,
          isTraceparent_of_splitAll hfields hversion hmore htrace hparent, hflags, ?_⟩
        rw [Nat.testBit_zero]
        rfl
      · cases h
    · cases h
  · rintro ⟨version, trace, parent, flags, octet, h, hflags, rfl⟩
    obtain ⟨more, hfields, hmore⟩ := h.splitAll (dash_notMem_of_flags hflags)
    have hvalid : (isVersion version && (version != "00" || more.isEmpty) && isId 32 trace
        && isId 16 parent) = true := by
      simp only [Bool.and_eq_true, Bool.or_eq_true, bne_iff_ne, List.isEmpty_iff, isId_iff,
        isVersion_iff]
      exact ⟨⟨⟨h.isVersion, hmore⟩, h.isTrace⟩, h.isParent⟩
    have hn : flags? flags = some octet.toNat := flags?_eq_some.2 ⟨octet, rfl, hflags⟩
    rw [ofTraceparent?, hfields]
    simp only [hvalid, if_true, hn, Option.map_some, Nat.testBit_zero]
    rfl

/-- A header with a sign in its flags. -/
def signedHeader : String := "00-4bf92f3577b34da6a3ce929d0e0e4736-00f067aa0ba902b7-+1"

/-- A header is read that is not in the form, because of the sign in its flags. -/
theorem ofTraceparent?_signed :
    ofTraceparent? signedHeader = some ⟨"4bf92f3577b34da6a3ce929d0e0e4736",
      some "00f067aa0ba902b7", some true, .w3c⟩ ∧
    ¬ ∃ version trace parent flags octet,
      IsTraceparent (Text.trim signedHeader) version trace parent flags ∧
        IsFlags flags octet := by
  refine ⟨by decide +kernel, ?_⟩
  rintro ⟨version, trace, parent, flags, octet, h, hflags⟩
  have hcut : Text.splitAll '-' (Text.trim signedHeader) =
      ["00", "4bf92f3577b34da6a3ce929d0e0e4736", "00f067aa0ba902b7", "+1"] := by decide +kernel
  obtain ⟨more, hfields, -⟩ := h.splitAll hflags.1.dash_notMem
  rw [hcut] at hfields
  simp only [List.cons.injEq] at hfields
  obtain ⟨-, -, -, rfl, -⟩ := hfields
  have hsign := hflags.1.2 '+' (by decide)
  cases hsign

end Trace

end ProxyFilter
