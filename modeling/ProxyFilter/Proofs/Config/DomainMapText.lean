import Mathlib.Data.List.Induction
import ProxyFilter.Proofs.Config.DomainMap
import ProxyFilter.Proofs.Text.Blank
import ProxyFilter.Proofs.Text.Lines

/-!
# Texts that are domain maps

A line of a domain map says nothing (`DomainMap.SaysNothing`), is an entry (`DomainMap.IsEntry`) or
offends: it has another number of words, or an earlier entry has its source (`DomainMap.Offends`).
What one line does to the map is told by `DomainMap.addLine_cases`; by induction on the lines the
map has an entry for each line that is one, or the first line that offends is reported with its
number (`DomainMap.addLines_result`). A whole text is judged so by `DomainMap.parse_lines`.
-/

namespace ProxyFilter.DomainMap

/-- The line says nothing: it is blank, or `#` is its first character that is not. -/
def SaysNothing (line : String) : Prop :=
  Text.AreBlank line.toList ∨
    ∃ before comment, line.toList = before ++ '#' :: comment ∧ Text.AreBlank before

/-- The line is an entry: it says something, and has a source and a target. -/
def IsEntry (line source target : String) : Prop :=
  ¬ SaysNothing line ∧ Text.ArePair line source target

/-- The entries of lines, one for each line that is one, in lower case. -/
inductive Lists : List String → List (String × String) → Prop
  | done : Lists [] []
  | nothing {lines : List String} {entries : List (String × String)} {line : String} :
      Lists lines entries → SaysNothing line → Lists (lines ++ [line]) entries
  | entry {lines : List String} {entries : List (String × String)} {line source target : String} :
      Lists lines entries → IsEntry line source target →
      Lists (lines ++ [line]) (entries ++ [(Ascii.lower source, Ascii.lower target)])

/-- Why a line is refused after the lines before it. -/
inductive Offends (before : List String) (line : String) : String → Prop
  | fields : ¬ SaysNothing line → (∀ source target, ¬ IsEntry line source target) →
      Offends before line "expected 'source_domain target_domain'"
  | repeated {earlier source target source' target' : String} : IsEntry line source target →
      earlier ∈ before → IsEntry earlier source' target' →
      Ascii.sameName source' source = true → Offends before line "duplicate source domain"

/-- No line is refused after the lines before it. -/
def NoneOffends (lines : List String) : Prop := ∀ before line after reason,
  lines = before ++ line :: after → ¬ Offends before line reason

/-- The line with this number, counted from one, is the first that is refused. -/
def FirstOffends (lines : List String) (number : Nat) (reason : String) : Prop :=
  ∃ before line after, lines = before ++ line :: after ∧ number = before.length + 1 ∧
    Offends before line reason ∧ NoneOffends before

variable {m m' : DomainMap} {number : Nat} {line source target source' target' reason : String}
  {lines before : List String} {entries : List (String × String)}

/-! ## Lines -/

/-- Where a line is not blank, its first character that is not says whether it is a comment. -/
theorem saysNothing_iff {c : Char} {before after : List Char}
    (hline : line.toList = before ++ c :: after) (hbefore : Text.AreBlank before)
    (hc : Text.isBlank c = false) : SaysNothing line ↔ c = '#' := by
  have hhash : Text.isBlank '#' = false := by decide
  constructor
  · rintro (hblank | ⟨before', comment, hline', hbefore'⟩)
    · rw [hblank c (by simp [hline])] at hc
      cases hc
    · have hdrop := congrArg (List.dropWhile Text.isBlank) (hline.symm.trans hline')
      rw [List.dropWhile_append_of_pos hbefore, List.dropWhile_append_of_pos hbefore',
        List.dropWhile_cons_of_neg (by simp [hc]),
        List.dropWhile_cons_of_neg (by simp [hhash])] at hdrop
      exact (List.cons.inj hdrop).1
  · rintro rfl
    exact .inr ⟨before, after, hline, hbefore⟩

/-- The test for lines that say nothing looks at their first character that is not blank. -/
theorem isSkipped_iff : isSkipped line = true ↔ SaysNothing line := by
  rcases Text.exists_first_word line.toList with hblank | ⟨before, word, rest, hline, hbefore,
    ⟨hne, hword⟩, -⟩
  · have htrim : Text.trim line = "" := Text.trim_eq_empty_iff.2 hblank
    simp [isSkipped, htrim, SaysNothing, hblank]
  · obtain ⟨c, word, rfl⟩ := List.exists_cons_of_ne_nil hne
    have hc : Text.isBlank c = false := hword c List.mem_cons_self
    rw [saysNothing_iff hline hbefore hc]
    have htrim : Text.trim line =
        String.ofList (c :: Text.dropEndWhile Text.isBlank (word ++ rest)) :=
      congrArg String.ofList (hline ▸ Text.trimChars_append_cons hbefore hc (word ++ rest))
    simp [isSkipped, htrim]

/-- A line that says nothing leaves the map as it is. -/
theorem addLine_of_saysNothing (h : SaysNothing line) : m.addLine number line = .ok m :=
  if_pos (isSkipped_iff.2 h)

/-- A line has one source and one target at most. -/
theorem IsEntry.unique (h : IsEntry line source target) (h' : IsEntry line source' target') :
    source' = source ∧ target' = target := by
  have hwords := Text.words_eq_pair_iff.2 h.2
  rw [Text.words_eq_pair_iff.2 h'.2] at hwords
  simpa using hwords

/-- An entry is added to the map, if its source is new to it. -/
theorem addLine_of_isEntry (h : IsEntry line source target) : m.addLine number line =
    if (m.get? (Ascii.lower source)).isSome then
      .error (.domainMapping number "duplicate source domain")
    else .ok ⟨m.entries ++ [(Ascii.lower source, Ascii.lower target)]⟩ := by
  have hskip : ¬ isSkipped line = true := mt isSkipped_iff.1 h.1
  rw [addLine, if_neg hskip, Text.words_eq_pair_iff.2 h.2]

/-- A line that says something and is no entry is refused. -/
theorem addLine_of_fields (hnothing : ¬ SaysNothing line)
    (h : ∀ source target, ¬ IsEntry line source target) : m.addLine number line =
      .error (.domainMapping number "expected 'source_domain target_domain'") := by
  have hskip : ¬ isSkipped line = true := mt isSkipped_iff.1 hnothing
  rw [addLine, if_neg hskip]
  split
  · next source target hwords =>
    exact absurd ⟨hnothing, Text.words_eq_pair_iff.1 hwords⟩ (h source target)
  · rfl

/-! ## Entries -/

/-- The sources of the entries are those of the lines, in lower case. -/
theorem Lists.mem_sources_iff (h : Lists lines entries) :
    Ascii.lower source ∈ entries.map Prod.fst ↔ ∃ earlier ∈ lines, ∃ source' target',
      IsEntry earlier source' target' ∧ Ascii.sameName source' source = true := by
  induction h with
  | done => simp
  | nothing _ hnothing ih =>
    rw [ih]
    constructor
    · rintro ⟨earlier, hearlier, hentry⟩
      exact ⟨earlier, List.mem_append_left _ hearlier, hentry⟩
    · rintro ⟨earlier, hearlier, source', target', hentry, hsame⟩
      rcases List.mem_append.1 hearlier with hearlier | hearlier
      · exact ⟨earlier, hearlier, source', target', hentry, hsame⟩
      · obtain rfl := List.mem_singleton.1 hearlier
        exact absurd hnothing hentry.1
  | @entry lines entries line source₀ target₀ _ hline ih =>
    rw [List.map_append, List.mem_append, ih]
    constructor
    · rintro (⟨earlier, hearlier, hentry⟩ | hlast)
      · exact ⟨earlier, List.mem_append_left _ hearlier, hentry⟩
      · have hlower : Ascii.lower source = Ascii.lower source₀ := List.mem_singleton.1 hlast
        exact ⟨line, by simp, source₀, target₀, hline, beq_iff_eq.2 hlower.symm⟩
    · rintro ⟨earlier, hearlier, source', target', hentry, hsame⟩
      rcases List.mem_append.1 hearlier with hearlier | hearlier
      · exact .inl ⟨earlier, hearlier, source', target', hentry, hsame⟩
      · obtain rfl := List.mem_singleton.1 hearlier
        obtain ⟨rfl, rfl⟩ := hline.unique hentry
        right
        have hlower : Ascii.lower source' = Ascii.lower source := beq_iff_eq.1 hsame
        simp [hlower]

/-- The map has a target for a source just where it is the source of a line. -/
theorem Lists.isSome_get?_iff (h : Lists lines m.entries) :
    (m.get? (Ascii.lower source)).isSome = true ↔ ∃ earlier ∈ lines, ∃ source' target',
      IsEntry earlier source' target' ∧ Ascii.sameName source' source = true := by
  rw [← h.mem_sources_iff]
  constructor
  · intro hsome
    obtain ⟨target, htarget⟩ := Option.isSome_iff_exists.1 hsome
    exact List.mem_map_of_mem (mem_of_get? htarget)
  · intro hmem
    by_contra hnone
    exact not_mem_of_get?_eq_none (Option.not_isSome_iff_eq_none.1 hnone) hmem

/-- A line after others is entered in the map or refused. -/
theorem addLine_cases (hm : Lists before m.entries) (number : Nat) (line : String) :
    (∃ m', m.addLine number line = .ok m' ∧ Lists (before ++ [line]) m'.entries ∧
      ∀ reason, ¬ Offends before line reason) ∨
    ∃ reason, m.addLine number line = .error (.domainMapping number reason) ∧
      Offends before line reason := by
  by_cases hnothing : SaysNothing line
  · refine .inl ⟨m, addLine_of_saysNothing hnothing, hm.nothing hnothing, fun reason hoffends => ?_⟩
    cases hoffends with
    | fields hno => exact hno hnothing
    | repeated hentry => exact hentry.1 hnothing
  by_cases hentry : ∃ source target, IsEntry line source target
  · obtain ⟨source, target, hentry⟩ := hentry
    by_cases hsource : (m.get? (Ascii.lower source)).isSome = true
    · obtain ⟨earlier, hearlier, source', target', hentry', hsame⟩ := hm.isSome_get?_iff.1 hsource
      exact .inr ⟨_, (addLine_of_isEntry hentry).trans (if_pos hsource),
        .repeated hentry hearlier hentry' hsame⟩
    · refine .inl ⟨_, (addLine_of_isEntry hentry).trans (if_neg hsource), hm.entry hentry,
        fun reason hoffends => ?_⟩
      cases hoffends with
      | fields _ hno => exact hno source target hentry
      | repeated hline hearlier hentry' hsame =>
        obtain ⟨rfl, -⟩ := hentry.unique hline
        exact hsource (hm.isSome_get?_iff.2 ⟨_, hearlier, _, _, hentry', hsame⟩)
  · have hno : ∀ source target, ¬ IsEntry line source target := fun source target h =>
      hentry ⟨source, target, h⟩
    exact .inr ⟨_, addLine_of_fields hnothing hno, .fields hnothing hno⟩

/-! ## Texts -/

/-- Where no line offends, none does after one more line that does not. -/
theorem noneOffends_append_singleton : NoneOffends (before ++ [line]) ↔
    NoneOffends before ∧ ∀ reason, ¬ Offends before line reason := by
  constructor
  · intro h
    refine ⟨fun first offender rest reason hparts => ?_, fun reason => h before line [] reason rfl⟩
    exact h first offender (rest ++ [line]) reason (by simp [hparts])
  · rintro ⟨hbefore, hline⟩ first offender rest reason hparts
    rcases List.eq_nil_or_concat rest with rfl | ⟨rest, last, rfl⟩
    · obtain ⟨rfl, heq⟩ := List.append_inj' hparts rfl
      obtain rfl := List.singleton_inj.1 heq
      exact hline reason
    · rw [List.concat_eq_append, ← List.cons_append, ← List.append_assoc] at hparts
      exact hbefore first offender rest reason (List.append_inj' hparts rfl).1

/-- No line of none is refused. -/
theorem noneOffends_nil : NoneOffends [] := by
  intro before line after reason hparts
  cases before <;> cases hparts

/-- A line is refused for one reason only. -/
theorem Offends.unique {reason' : String} (h : Offends before line reason)
    (h' : Offends before line reason') : reason' = reason := by
  cases h with
  | fields _ hno =>
    cases h' with
    | fields => rfl
    | repeated hentry => exact absurd hentry (hno _ _)
  | repeated hentry =>
    cases h' with
    | fields _ hno => exact absurd hentry (hno _ _)
    | repeated => rfl

/-- A line that is refused does not stand among lines of which none is. -/
theorem NoneOffends.length_le {before' after after' : List String} {line' : String}
    (h : NoneOffends before) (hoffends : Offends before' line' reason)
    (hparts : before ++ line :: after = before' ++ line' :: after') :
    before.length ≤ before'.length := by
  rcases List.append_eq_append_iff.1 hparts with ⟨rest, rfl, -⟩ | ⟨rest, rfl, hrest⟩
  · simp
  · cases rest with
    | nil => simp
    | cons offender rest =>
      obtain ⟨rfl, -⟩ := List.cons.inj hrest
      exact absurd hoffends (h before' line' rest reason rfl)

/-- One line only is the first that is refused. -/
theorem FirstOffends.unique {number' : Nat} {reason' : String}
    (h : FirstOffends lines number reason) (h' : FirstOffends lines number' reason') :
    number' = number ∧ reason' = reason := by
  obtain ⟨before, line, after, rfl, rfl, hoffends, hnone⟩ := h
  obtain ⟨before', line', after', hparts, rfl, hoffends', hnone'⟩ := h'
  have hlength : before.length = before'.length :=
    Nat.le_antisymm (hnone.length_le hoffends' hparts) (hnone'.length_le hoffends hparts.symm)
  obtain ⟨rfl, hline⟩ := List.append_inj hparts hlength
  obtain ⟨rfl, -⟩ := List.cons.inj hline
  exact ⟨rfl, hoffends.unique hoffends'⟩

/-- Where one line is the first that is refused, some line is. -/
theorem FirstOffends.not_noneOffends (h : FirstOffends lines number reason) :
    ¬ NoneOffends lines := by
  obtain ⟨before, line, after, hparts, -, hoffends, -⟩ := h
  exact fun hnone => hnone before line after reason hparts hoffends

/-- Two lines have sources that differ in more than letter case. -/
def HaveOtherSources (earlier line : String) : Prop := ∀ source target source' target',
  IsEntry earlier source target → IsEntry line source' target' →
    Ascii.sameName source source' = false

/-- No line is refused where each one that says something is an entry, and no two of them have the
same source. By induction on the lines from their end. -/
theorem noneOffends_iff : NoneOffends lines ↔
    (∀ line ∈ lines, SaysNothing line ∨ ∃ source target, IsEntry line source target) ∧
      lines.Pairwise HaveOtherSources := by
  induction lines using List.reverseRecOn with
  | nil => simp [noneOffends_nil]
  | append_singleton lines line ih =>
    rw [noneOffends_append_singleton, ih, List.pairwise_append]
    simp only [List.mem_append, List.mem_singleton, or_imp, forall_and, forall_eq,
      List.pairwise_singleton, true_and, and_assoc]
    refine and_congr_right fun _ => ?_
    rw [and_left_comm]
    refine and_congr_right fun _ => ?_
    constructor
    · intro hno
      refine ⟨?_, fun earlier hearlier source target source' target' hentry hline => ?_⟩
      · by_contra hnot
        obtain ⟨hnothing, hentry⟩ := not_or.1 hnot
        exact hno _ (.fields hnothing fun source target h => hentry ⟨source, target, h⟩)
      · by_contra hsame
        exact hno _ (.repeated hline hearlier hentry (by simpa using hsame))
    · rintro ⟨hline, hother⟩ reason hoffends
      cases hoffends with
      | fields hnothing hno =>
        obtain ⟨source, target, hentry⟩ := hline.resolve_left hnothing
        exact hno source target hentry
      | repeated hentry hearlier hentry' hsame =>
        rw [hother _ hearlier _ _ _ _ hentry' hentry] at hsame
        cases hsame

/-- **Lines are entered in a map one by one, or the first that offends is reported.** By induction
on the lines that are left; `before` are those that are in the map. -/
theorem addLines_result (hm : Lists before m.entries) (hnone : NoneOffends before)
    (lines : List String) :
    (∃ m', m.addLines (before.length + 1) lines = .ok m' ∧
      Lists (before ++ lines) m'.entries ∧ NoneOffends (before ++ lines)) ∨
    ∃ number reason, m.addLines (before.length + 1) lines =
      .error (.domainMapping number reason) ∧ FirstOffends (before ++ lines) number reason := by
  induction lines generalizing m before with
  | nil =>
    rw [List.append_nil]
    exact .inl ⟨m, rfl, hm, hnone⟩
  | cons line lines ih =>
    have hparts : before ++ line :: lines = before ++ [line] ++ lines := by simp
    rcases addLine_cases hm (before.length + 1) line with ⟨m', hline, hm', hno⟩ |
      ⟨reason, hline, hoffends⟩
    · have hnumber : before.length + 1 + 1 = (before ++ [line]).length + 1 := by simp
      have hstep : m.addLines (before.length + 1) (line :: lines) =
          m'.addLines ((before ++ [line]).length + 1) lines := by
        rw [addLines, hline, hnumber]
        rfl
      rw [hstep, hparts]
      exact ih hm' (noneOffends_append_singleton.2 ⟨hnone, hno⟩)
    · refine .inr ⟨before.length + 1, reason, ?_, before, line, lines, rfl, rfl, hoffends, hnone⟩
      rw [addLines, hline]
      rfl

/-- **A text is a domain map where each of its lines that is not blank and no comment has a source
and a target, and no two of them have the same source, letter case ignored. The map has an entry
for each of these lines, in lower case. Otherwise the first line that offends is reported, with
its number among all lines and with what is wrong with it.** -/
theorem parse_lines (blob : String) : ∃ lines, Text.AreLines blob lines ∧
    (∀ other, Text.AreLines blob other → other = lines) ∧
    ((∃ m, parse blob = .ok m) ↔
      (∀ line ∈ lines, SaysNothing line ∨ ∃ source target, IsEntry line source target) ∧
        lines.Pairwise HaveOtherSources) ∧
    (∀ m, parse blob = .ok m → m.IsCanonical ∧ Lists lines m.entries) ∧
    ∀ e, parse blob = .error e ↔
      ∃ number reason, FirstOffends lines number reason ∧ e = .domainMapping number reason := by
  refine ⟨Text.lines blob, Text.areLines_iff.2 rfl, fun other hother =>
    (Text.areLines_iff.1 hother).symm, ?_⟩
  rw [← noneOffends_iff]
  have hresult := addLines_result (m := empty) .done noneOffends_nil (Text.lines blob)
  rcases hresult with ⟨m, hm, hlists, hnone⟩ | ⟨number, reason, herror, hfirst⟩
  · have hparse : parse blob = .ok m := hm
    refine ⟨⟨fun _ => hnone, fun _ => ⟨m, hparse⟩⟩, fun m' hm' => ?_, fun e => ⟨fun he => ?_, ?_⟩⟩
    · obtain rfl := Except.ok.inj (hparse.symm.trans hm')
      exact ⟨isCanonical_of_parse hparse, hlists⟩
    · cases hparse.symm.trans he
    · rintro ⟨number, reason, hfirst, rfl⟩
      exact absurd hnone hfirst.not_noneOffends
  · have hparse : parse blob = .error (.domainMapping number reason) := herror
    refine ⟨⟨?_, fun hnone => absurd hnone hfirst.not_noneOffends⟩, fun m hm => ?_,
      fun e => ⟨fun he => ?_, ?_⟩⟩
    · rintro ⟨m, hm⟩
      cases hparse.symm.trans hm
    · cases hparse.symm.trans hm
    · exact ⟨number, reason, hfirst, (Except.error.inj (hparse.symm.trans he)).symm⟩
    · rintro ⟨number', reason', hfirst', rfl⟩
      obtain ⟨rfl, rfl⟩ := hfirst.unique hfirst'
      exact hparse

end ProxyFilter.DomainMap
