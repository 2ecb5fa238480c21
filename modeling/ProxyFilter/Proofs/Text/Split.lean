import Mathlib.Data.List.TakeWhile
import ProxyFilter.Text.Split

/-!
# Cuts of texts

What the cuts at one character say of a text: at the first one (`splitOnceChars?_eq_some`), at the
last one (`splitLast?_eq_some`) and at all of them (`splitAll_eq_three`). The parts make up the
text, and which cut it is, is told by the parts that do not have the character. Nothing is lost or
made when parts are joined (`mem_intercalate`), so the characters of a part are those of the text
(`mem_of_mem_splitAll`), and a change of the other characters leaves the cuts where they are
(`splitOn_map`).
-/

namespace ProxyFilter.Text

variable {c : Char}

/-- The first `c` is the one with none before it. -/
theorem splitOnceChars?_eq_some {cs before after : List Char} :
    splitOnceChars? c cs = some (before, after) ↔ c ∉ before ∧ cs = before ++ c :: after := by
  induction cs generalizing before with
  | nil => simp [splitOnceChars?]
  | cons d cs ih =>
    by_cases hd : d = c
    · subst hd
      simp only [splitOnceChars?, if_true, Option.some.injEq, Prod.mk.injEq]
      constructor
      · rintro ⟨rfl, rfl⟩
        exact ⟨by simp, rfl⟩
      · rintro ⟨hbefore, hcs⟩
        cases before with
        | nil =>
          cases hcs
          exact ⟨rfl, rfl⟩
        | cons e before =>
          cases hcs
          exact absurd List.mem_cons_self hbefore
    · simp only [splitOnceChars?, if_neg hd, Option.map_eq_some_iff, Prod.exists, Prod.mk.injEq]
      constructor
      · rintro ⟨before, after, h, rfl, rfl⟩
        obtain ⟨hbefore, rfl⟩ := ih.1 h
        exact ⟨by simp [hbefore, Ne.symm hd], rfl⟩
      · rintro ⟨hbefore, hcs⟩
        cases before with
        | nil =>
          cases hcs
          exact absurd rfl hd
        | cons e before =>
          obtain ⟨rfl, rfl⟩ := List.cons.inj hcs
          exact ⟨before, after, ih.2 ⟨fun h => hbefore (List.mem_cons_of_mem _ h), rfl⟩, rfl, rfl⟩

/-- The last `c` is the one with none after it. -/
theorem splitLastChars?_eq_some {cs before after : List Char} :
    splitLastChars? c cs = some (before, after) ↔ c ∉ after ∧ cs = before ++ c :: after := by
  simp only [splitLastChars?, Option.map_eq_some_iff, Prod.exists, Prod.mk.injEq,
    splitOnceChars?_eq_some]
  constructor
  · rintro ⟨after, before, ⟨hafter, hcs⟩, rfl, rfl⟩
    refine ⟨by simpa using hafter, ?_⟩
    simpa using congrArg List.reverse hcs
  · rintro ⟨hafter, rfl⟩
    exact ⟨after.reverse, before.reverse, ⟨by simpa using hafter, by simp⟩, by simp, by simp⟩

/-- What is not cut at its last `c` has none. -/
theorem splitLastChars?_eq_none {cs : List Char} : splitLastChars? c cs = none ↔ c ∉ cs := by
  constructor
  · intro h hmem
    obtain ⟨after, before, hcs, hafter⟩ := List.eq_append_cons_of_mem (List.mem_reverse.2 hmem)
    have hcut : splitLastChars? c cs = some (before.reverse, after.reverse) :=
      splitLastChars?_eq_some.2 ⟨by simpa using hafter, by simpa using congrArg List.reverse hcs⟩
    rw [h] at hcut
    cases hcut
  · intro h
    rw [Option.eq_none_iff_forall_ne_some]
    rintro ⟨before, after⟩ hcut
    obtain ⟨-, rfl⟩ := splitLastChars?_eq_some.1 hcut
    exact h (by simp)

/-- The last `c` of a text is the one with none after it. -/
theorem splitLast?_eq_some {s before after : String} :
    splitLast? c s = some (before, after) ↔
      c ∉ after.toList ∧ s.toList = before.toList ++ c :: after.toList := by
  simp only [splitLast?, Option.map_eq_some_iff, Prod.exists, Prod.mk.injEq]
  constructor
  · rintro ⟨cs, ds, h, rfl, rfl⟩
    simpa using splitLastChars?_eq_some.1 h
  · intro h
    exact ⟨before.toList, after.toList, splitLastChars?_eq_some.2 h, by simp, by simp⟩

/-- A text is not cut at a last `c` where it has none. -/
theorem splitLast?_eq_none {s : String} : splitLast? c s = none ↔ c ∉ s.toList := by
  rw [splitLast?, Option.map_eq_none_iff, splitLastChars?_eq_none]

/-- No part between the `c`s has one. -/
theorem not_mem_of_mem_splitOn {cs part : List Char} (h : part ∈ cs.splitOn c) : c ∉ part := by
  induction cs generalizing part with
  | nil =>
    obtain rfl : part = [] := by simpa using h
    exact List.not_mem_nil
  | cons d cs ih =>
    rw [List.splitOn_cons_eq_if_modifyHead] at h
    split at h
    · rcases List.mem_cons.1 h with rfl | h
      · exact List.not_mem_nil
      · exact ih h
    · next hd =>
      cases hparts : cs.splitOn c with
      | nil => exact absurd hparts (List.splitOn_ne_nil c cs)
      | cons first parts =>
        rw [hparts, List.modifyHead_cons] at h
        rcases List.mem_cons.1 h with rfl | h
        · have hfirst : c ∉ first := ih (by rw [hparts]; exact List.mem_cons_self)
          simpa [hfirst] using Ne.symm (by simpa using hd)
        · exact ih (by rw [hparts]; exact List.mem_cons_of_mem _ h)

/-- The `c`s cut a text in three where three parts without one are joined by two. -/
theorem splitAll_eq_three {s x y z : String} : splitAll c s = [x, y, z] ↔
    c ∉ x.toList ∧ c ∉ y.toList ∧ c ∉ z.toList ∧
      s.toList = x.toList ++ c :: (y.toList ++ c :: z.toList) := by
  constructor
  · intro h
    have hparts : s.toList.splitOn c = [x.toList, y.toList, z.toList] := by
      have := congrArg (List.map String.toList) h
      simpa [splitAll, Function.comp_def] using this
    have hmem (part) (h : part ∈ [x.toList, y.toList, z.toList]) : c ∉ part :=
      not_mem_of_mem_splitOn (hparts ▸ h)
    refine ⟨hmem _ (by simp), hmem _ (by simp), hmem _ (by simp), ?_⟩
    have hjoin : [c].intercalate (s.toList.splitOn c) = s.toList := List.intercalate_splitOn c
    rw [← hjoin, hparts]
    simp [List.intercalate, List.intersperse]
  · rintro ⟨hx, hy, hz, hs⟩
    rw [splitAll, hs, List.splitOn_append_cons_self_of_not_mem hx,
      List.splitOn_append_cons_self_of_not_mem hy, List.splitOn_eq_singleton hz]
    simp

/-- The first `c` of a text is the one with none before it. -/
theorem splitOnce?_eq_some {s before after : String} :
    splitOnce? c s = some (before, after) ↔
      c ∉ before.toList ∧ s.toList = before.toList ++ c :: after.toList := by
  simp only [splitOnce?, Option.map_eq_some_iff, Prod.exists, Prod.mk.injEq]
  constructor
  · rintro ⟨cs, ds, h, rfl, rfl⟩
    simpa using splitOnceChars?_eq_some.1 h
  · intro h
    exact ⟨before.toList, after.toList, splitOnceChars?_eq_some.2 h, by simp, by simp⟩

/-- A text is not cut where it has no `c`. -/
theorem splitOnce?_eq_none {s : String} : splitOnce? c s = none ↔ c ∉ s.toList := by
  constructor
  · intro h hmem
    obtain ⟨cs, ds, hs, hfirst⟩ := List.eq_append_cons_of_mem hmem
    have hcut : splitOnce? c s = some (String.ofList cs, String.ofList ds) :=
      splitOnce?_eq_some.2 ⟨by simpa using hfirst, by simpa using hs⟩
    rw [h] at hcut
    cases hcut
  · intro h
    cases hcut : splitOnce? c s with
    | none => rfl
    | some parts =>
      obtain ⟨-, hs⟩ := splitOnce?_eq_some.1 hcut
      exact absurd (by simp [hs]) h

/-- What stands before the first `c` is what the cut there gives. -/
theorem before_of_splitOnce? {s first after : String} (h : splitOnce? c s = some (first, after)) :
    before c s = first := by
  obtain ⟨hfirst, hs⟩ := splitOnce?_eq_some.1 h
  have hall : ∀ d ∈ first.toList, (d != c) = true := fun d hd => by
    simp only [bne_iff_ne]
    rintro rfl
    exact hfirst hd
  rw [before, hs, List.takeWhile_append_of_pos hall]
  simp

/-- All of a text stands before the first `c` where there is none. -/
theorem before_of_splitOnce?_none {s : String} (h : splitOnce? c s = none) : before c s = s := by
  have hall : ∀ d ∈ s.toList, (d != c) = true := fun d hd => by
    simp only [bne_iff_ne]
    rintro rfl
    exact splitOnce?_eq_none.1 h hd
  rw [before, List.takeWhile_eq_self_iff.2 hall, String.ofList_toList]

/-- No part between the `c`s of a text has one. -/
theorem not_mem_of_mem_splitAll {s part : String} (h : part ∈ splitAll c s) : c ∉ part.toList := by
  obtain ⟨cs, hcs, rfl⟩ := List.mem_map.1 h
  rw [String.toList_ofList]
  exact not_mem_of_mem_splitOn hcs

/-- Parts without a `c` that are joined by it are cut at it again. -/
theorem splitAll_intercalate {parts : List String} {sep : String} (hsep : sep.toList = [c])
    (hparts : ∀ part ∈ parts, c ∉ part.toList) (hne : parts ≠ []) :
    splitAll c (sep.intercalate parts) = parts := by
  rw [splitAll, String.toList_intercalate, hsep, List.splitOn_intercalate]
  · simp
  · simpa using hparts
  · simpa using hne

/-- A text has one part at least. -/
theorem splitAll_ne_nil (c : Char) (s : String) : splitAll c s ≠ [] := by
  simp [splitAll, List.splitOn_ne_nil]

/-- A text is what its parts are joined to. -/
theorem intercalate_splitAll {sep : String} (hsep : sep.toList = [c]) (s : String) :
    sep.intercalate (splitAll c s) = s := by
  have hparts : (splitAll c s).map String.toList = s.toList.splitOn c := by
    simp [splitAll, Function.comp_def]
  rw [← String.toList_inj, String.toList_intercalate, hsep, hparts]
  exact List.intercalate_splitOn c

/-- A text is cut at a `c` in it into the parts of what stands before and after. -/
theorem splitAll_append {sep : String} (hsep : sep.toList = [c]) (s t : String) :
    splitAll c (s ++ sep ++ t) = splitAll c s ++ splitAll c t := by
  rw [splitAll, String.toList_append, String.toList_append, hsep, List.append_assoc,
    List.singleton_append, List.splitOn_append_cons_self, List.map_append]
  rfl

/-- A text without a `c` is one part. -/
theorem splitAll_of_not_mem {s : String} (h : c ∉ s.toList) : splitAll c s = [s] := by
  rw [splitAll, List.splitOn_eq_singleton h, List.map_singleton, String.ofList_toList]

/-- Characters are not cut at a text that begins with one that is not among them. -/
theorem splitTextLoop_of_not_mem {more gathered cs : List Char} (h : c ∉ cs) :
    splitTextLoop c more gathered cs 0 = [gathered.reverse ++ cs] := by
  induction cs generalizing gathered with
  | nil => simp [splitTextLoop]
  | cons d cs ih =>
    obtain ⟨hd, hcs⟩ := not_or.1 (mt List.mem_cons.2 h)
    have hdelimiter : (c :: more).isPrefixOf (d :: cs) = false := by simp [List.isPrefixOf, hd]
    rw [splitTextLoop, hdelimiter, if_neg Bool.false_ne_true, ih hcs, List.reverse_cons,
      List.append_assoc, List.singleton_append]

/-- A text is not cut at another one that begins with a character it does not have. -/
theorem splitText_of_not_mem {delimiter s : String} {more : List Char}
    (hdelimiter : delimiter.toList = c :: more) (h : c ∉ s.toList) :
    splitText delimiter s = [s] := by
  rw [splitText, hdelimiter, splitTextChars, splitTextLoop_of_not_mem h, List.reverse_nil,
    List.nil_append, List.map_singleton, String.ofList_toList]

/-- What is joined of parts has what the parts have, and what stands between two of them. -/
theorem mem_intercalate {sep : List Char} {parts : List (List Char)} {d : Char} :
    d ∈ sep.intercalate parts → d ∈ sep ∨ ∃ part ∈ parts, d ∈ part := by
  induction parts with
  | nil => simp
  | cons part parts ih =>
    cases parts with
    | nil => simpa using Or.inr
    | cons next parts =>
      rw [List.intercalate_cons_cons, List.mem_append, List.mem_append]
      rintro ((h | h) | h)
      · exact .inr ⟨part, List.mem_cons_self, h⟩
      · exact .inl h
      · exact (ih h).imp_right fun ⟨p, hp, hd⟩ => ⟨p, List.mem_cons_of_mem _ hp, hd⟩

/-- What a part has is in what it is joined in. -/
theorem mem_intercalate_of_mem {sep : List Char} {parts : List (List Char)} {part : List Char}
    {d : Char} (hpart : part ∈ parts) (hd : d ∈ part) : d ∈ sep.intercalate parts := by
  induction parts with
  | nil => cases hpart
  | cons first parts ih =>
    cases parts with
    | nil =>
      obtain rfl : part = first := by simpa using hpart
      simpa using hd
    | cons next parts =>
      rw [List.intercalate_cons_cons]
      rcases List.mem_cons.1 hpart with rfl | hpart
      · simp [hd]
      · exact List.mem_append_right _ (ih hpart)

/-- The characters of a part between the `c`s are those of the whole. -/
theorem mem_of_mem_splitOn {cs part : List Char} {d : Char} (hpart : part ∈ cs.splitOn c)
    (hd : d ∈ part) : d ∈ cs := by
  have hjoin : [c].intercalate (cs.splitOn c) = cs := List.intercalate_splitOn c
  rw [← hjoin]
  exact mem_intercalate_of_mem hpart hd

/-- The characters of the whole are `c` and those of the parts between the `c`s. -/
theorem mem_splitOn_of_mem {cs : List Char} {d : Char} (hd : d ∈ cs) :
    d = c ∨ ∃ part ∈ cs.splitOn c, d ∈ part := by
  have hjoin : [c].intercalate (cs.splitOn c) = cs := List.intercalate_splitOn c
  rw [← hjoin] at hd
  exact (mem_intercalate hd).imp_left List.mem_singleton.1

/-- The characters of a part between the `c`s are those of the text. -/
theorem mem_of_mem_splitAll {s part : String} {d : Char} (hpart : part ∈ splitAll c s)
    (hd : d ∈ part.toList) : d ∈ s.toList := by
  obtain ⟨cs, hcs, rfl⟩ := List.mem_map.1 hpart
  rw [String.toList_ofList] at hd
  exact mem_of_mem_splitOn hcs hd

/-- A change of characters that leaves the `c`s where they are changes the parts. -/
theorem splitOn_map {f : Char → Char} (hf : ∀ d, f d = c ↔ d = c) (cs : List Char) :
    (cs.map f).splitOn c = (cs.splitOn c).map (List.map f) := by
  induction cs with
  | nil => simp
  | cons d cs ih =>
    rw [List.map_cons, List.splitOn_cons_eq_if_modifyHead, List.splitOn_cons_eq_if_modifyHead, ih]
    by_cases hd : d = c
    · simp [hd, (hf c).2 rfl]
    · have hfd : f d ≠ c := fun h => hd ((hf d).1 h)
      cases hparts : cs.splitOn c with
      | nil => exact absurd hparts (List.splitOn_ne_nil c cs)
      | cons part parts => simp [hd, hfd]

end ProxyFilter.Text
