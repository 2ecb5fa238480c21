import ProxyFilter.Proofs.Text.Blank
import ProxyFilter.Proofs.Text.Split
import ProxyFilter.Proofs.Text.Utf8
import ProxyFilter.Text.Ascii

/-!
# Plain texts

A text is plain if it has no control character of ASCII except tabs (`Text.IsPlain`): it can be sent
in a header without ending it. What is cut from plain texts or joined of them is plain, and so is
what is read from octets of plain texts, broken or not (`Text.isPlain_decodeLossy`).
-/

namespace ProxyFilter.Text

/-- Of the control characters of ASCII the text has tabs at most. -/
def IsPlain (s : String) : Prop := ∀ c ∈ s.toList, Ascii.isControl c = true → c = '\t'

/-- A text is plain if each of its characters is a tab or no control character. -/
theorem isPlain_iff_all {s : String} :
    (s.toList.all fun c => ! Ascii.isControl c || c == '\t') = true ↔ IsPlain s := by
  simp only [List.all_eq_true, Bool.or_eq_true, Bool.not_eq_true', beq_iff_eq, IsPlain]
  refine forall₂_congr fun c _ => ?_
  cases Ascii.isControl c <;> simp

instance (s : String) : Decidable (IsPlain s) := decidable_of_iff _ isPlain_iff_all

variable {s t : String}

/-- A text of characters of a plain text is plain. -/
theorem IsPlain.of_subset (hs : IsPlain s) (h : ∀ c ∈ t.toList, c ∈ s.toList) : IsPlain t :=
  fun c hc => hs c (h c hc)

/-- Plain texts one after the other are plain. -/
theorem IsPlain.append (hs : IsPlain s) (ht : IsPlain t) : IsPlain (s ++ t) := by
  intro c hc
  rw [String.toList_append, List.mem_append] at hc
  exact hc.elim (hs c) (ht c)

/-- What joins plain texts is plain, if it joins them by a plain text. -/
theorem isPlain_intercalate {sep : String} {parts : List String} (hsep : IsPlain sep)
    (hparts : ∀ part ∈ parts, IsPlain part) : IsPlain (sep.intercalate parts) := by
  intro c hc
  rw [String.toList_intercalate] at hc
  rcases mem_intercalate hc with hc | ⟨part, hpart, hc⟩
  · exact hsep c hc
  · obtain ⟨text, htext, rfl⟩ := List.mem_map.1 hpart
    exact hparts text htext c hc

/-! ## Cuts -/

/-- The parts of a plain text are plain. -/
theorem IsPlain.splitAll (hs : IsPlain s) {d : Char} {part : String}
    (hpart : part ∈ Text.splitAll d s) : IsPlain part :=
  hs.of_subset fun _ => mem_of_mem_splitAll hpart

/-- A plain text is plain without the blanks at its ends. -/
theorem IsPlain.trim (hs : IsPlain s) : IsPlain (Text.trim s) :=
  hs.of_subset fun _ => mem_of_mem_trim

/-! ## Octets -/

/-- What is read from octets of plain texts is plain, also where broken pieces are shown: a control
character is one octet, and this octet is that character of one of the texts. -/
theorem isPlain_decodeLossy {b : Bytes} (h : ∀ x ∈ b, ∃ s, IsPlain s ∧ x ∈ Utf8.encode s) :
    IsPlain (Utf8.decodeLossy b) := by
  intro c hc hcontrol
  have hascii : c.toNat < 128 := by
    simp only [Ascii.isControl, Bool.or_eq_true, decide_eq_true_eq, beq_iff_eq] at hcontrol
    omega
  have hnumber := Utf8.toNat_ofNat (n := c.toNat) (by omega)
  obtain ⟨s, hs, hmem⟩ := h _ (Utf8.mem_of_mem_decodeLossy hc hascii)
  have hchar := Utf8.mem_encode hmem (by omega)
  rw [hnumber, Char.ofNat_toNat] at hchar
  exact hs c hchar hcontrol

end ProxyFilter.Text
