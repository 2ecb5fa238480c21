import Mathlib.Data.List.DropRight
import ProxyFilter.Text.Blank

/-!
# Texts without blanks at their ends

Trimming leaves nothing to trim (`trim_trim`), and blanks in front of a text do not matter to it
(`trim_of_cons_blank`). The texts that trimming leaves as they are have no blank at either end
(`trim_eq_self_iff`).
-/

namespace ProxyFilter.Text

/-- Dropping at the beginning stops at a character that stays. -/
theorem dropWhile_append_cons {p : Char → Bool} {c : Char} (hc : p c = false)
    (before after : List Char) :
    (before ++ c :: after).dropWhile p = before.dropWhile p ++ c :: after := by
  rw [List.dropWhile_append]
  split
  · next hempty => rw [List.isEmpty_iff.1 hempty, List.dropWhile_cons_of_neg (by simp [hc])]; rfl
  · rfl

/-- Dropping at the end stops at a character that stays. -/
theorem dropEndWhile_append_cons {p : Char → Bool} {c : Char} (hc : p c = false)
    (before after : List Char) :
    dropEndWhile p (before ++ c :: after) = before ++ c :: dropEndWhile p after := by
  have hreverse : (before ++ c :: after).reverse = after.reverse ++ c :: before.reverse := by simp
  rw [dropEndWhile, dropEndWhile, hreverse, dropWhile_append_cons hc]
  simp

/-- Trimming takes away what stands before the first character that is not blank. -/
theorem trimChars_append_cons {before : List Char} {c : Char}
    (hbefore : ∀ d ∈ before, isBlank d = true) (hc : isBlank c = false) (after : List Char) :
    trimChars (before ++ c :: after) = c :: dropEndWhile isBlank after := by
  rw [trimChars, List.dropWhile_append_of_pos hbefore, List.dropWhile_cons_of_neg (by simp [hc])]
  exact dropEndWhile_append_cons hc [] after

/-- Blanks at the beginning stay away when those at the end go. -/
theorem dropWhile_dropEndWhile {p : Char → Bool} {cs : List Char}
    (h : cs.dropWhile p = cs) : (dropEndWhile p cs).dropWhile p = dropEndWhile p cs := by
  have hpre : dropEndWhile p cs <+: cs := List.rdropWhile_prefix p cs
  rw [List.dropWhile_eq_self_iff] at h ⊢
  intro hpos
  rw [hpre.getElem hpos]
  exact h (Nat.lt_of_lt_of_le hpos hpre.length_le)

/-- A trimmed text has no blanks at its ends. -/
@[simp] theorem trim_trim (s : String) : trim (trim s) = trim s := by
  have hstart : (s.toList.dropWhile isBlank).dropWhile isBlank = s.toList.dropWhile isBlank :=
    List.dropWhile_idempotent isBlank _
  have hend (cs : List Char) : dropEndWhile isBlank (dropEndWhile isBlank cs) =
      dropEndWhile isBlank cs := List.rdropWhile_idempotent isBlank cs
  simp only [trim, trimChars, String.toList_ofList, dropWhile_dropEndWhile hstart, hend]

/-- A blank in front of a text is trimmed with those that follow it. -/
theorem trim_of_cons_blank {s t : String} {c : Char} (hc : isBlank c = true)
    (hs : s.toList = c :: t.toList) : trim s = trim t := by
  simp [trim, trimChars, hs, hc]

/-- What is left of characters when blanks are trimmed is some of them, in order. -/
theorem trimChars_sublist (cs : List Char) : List.Sublist (trimChars cs) cs :=
  (List.rdropWhile_prefix isBlank _).sublist.trans (List.dropWhile_sublist isBlank)

/-- Trimming takes characters away only. -/
theorem mem_of_mem_trim {s : String} {c : Char} (h : c ∈ (trim s).toList) : c ∈ s.toList := by
  rw [trim, String.toList_ofList] at h
  exact (trimChars_sublist _).mem h

/-- Nothing is left of a text of blanks, and of no other. -/
theorem trim_eq_empty_iff {s : String} : trim s = "" ↔ ∀ c ∈ s.toList, isBlank c = true := by
  have hempty : trimChars s.toList = [] ↔ ∀ c ∈ s.toList.dropWhile isBlank, isBlank c = true :=
    List.rdropWhile_eq_nil_iff
  rw [trim, String.ofList_eq_empty_iff, hempty]
  constructor
  · intro h c hc
    rw [← List.takeWhile_append_dropWhile (p := isBlank) (l := s.toList), List.mem_append] at hc
    exact hc.elim List.mem_takeWhile_imp (h c)
  · exact fun h c hc => h c ((List.dropWhile_sublist isBlank).mem hc)

/-- A text is left as it is where it has no blank at either end. -/
theorem trim_eq_self_iff {s : String} : trim s = s ↔
    (∀ c ∈ s.toList.head?, isBlank c = false) ∧ ∀ c ∈ s.toList.getLast?, isBlank c = false := by
  have hends (cs : List Char) : trimChars cs = cs ↔
      cs.dropWhile isBlank = cs ∧ dropEndWhile isBlank cs = cs := by
    constructor
    · intro h
      have hlength : (trimChars cs).length ≤ (cs.dropWhile isBlank).length :=
        (List.rdropWhile_prefix isBlank _).length_le
      have hstart : cs.dropWhile isBlank = cs :=
        (List.dropWhile_sublist isBlank).eq_of_length_le (by rwa [h] at hlength)
      exact ⟨hstart, by rwa [trimChars, hstart] at h⟩
    · rintro ⟨hstart, hend⟩
      rw [trimChars, hstart, hend]
  have hfirst (cs : List Char) : cs.dropWhile isBlank = cs ↔
      ∀ c ∈ cs.head?, isBlank c = false := by
    cases cs <;> simp [List.dropWhile_eq_self_iff]
  have hlast (cs : List Char) : dropEndWhile isBlank cs = cs ↔
      ∀ c ∈ cs.getLast?, isBlank c = false := by
    rw [dropEndWhile, List.reverse_eq_iff, hfirst, List.head?_reverse]
  rw [trim, ← String.toList_inj, String.toList_ofList, hends, hfirst, hlast]

/-- A trimmed text does not end in blanks alone. -/
theorem exists_not_isBlank {s : String} {before after : List Char} (h : trim s = s)
    (hs : s.toList = before ++ after) (hne : after ≠ []) : ∃ c ∈ after, isBlank c = false := by
  have hlast : after.getLast hne ∈ s.toList.getLast? := by
    rw [hs, List.getLast?_append_of_ne_nil _ hne, List.getLast?_eq_some_getLast hne]
    rfl
  exact ⟨after.getLast hne, List.getLast_mem hne, (trim_eq_self_iff.1 h).2 _ hlast⟩

/-- A text without blanks is left as it is. -/
theorem trim_of_forall {s : String} (h : ∀ c ∈ s.toList, isBlank c = false) : trim s = s :=
  trim_eq_self_iff.2
    ⟨fun c hc => h c (List.mem_of_mem_head? hc), fun c hc => h c (List.mem_of_getLast? hc)⟩

end ProxyFilter.Text
