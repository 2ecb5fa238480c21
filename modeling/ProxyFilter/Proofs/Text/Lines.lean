import Mathlib.Data.List.TakeWhile
import ProxyFilter.Text.Blank
import ProxyFilter.Text.Split

/-!
# The lines of a text, and the words of a line

`AreLines` says which lines a text falls into: each ends at a line feed, with a return before it or
without, and the last one may have no end. A text falls into lines in one way, which is that of
`Text.lines` (`areLines_iff`).

The words of a text are what its blanks separate. A text has no words where it is blank
(`wordsOf_eq_nil_iff`), and its first word stands after the blanks that it begins with
(`wordsOf_eq_cons_iff`), so two words are two where blanks stand between them
(`words_eq_pair_iff`).
-/

namespace ProxyFilter.Text

/-! ## Lines -/

/-- The lines that a text falls into. -/
inductive AreLines : String → List String → Prop
  | done : AreLines "" []
  | last {line : String} : line ≠ "" → '\n' ∉ line.toList → AreLines line [line]
  | feed {line rest : String} {lines : List String} : '\n' ∉ line.toList →
      line.toList.getLast? ≠ some '\r' → AreLines rest lines →
      AreLines (line ++ "\n" ++ rest) (line :: lines)
  | returnFeed {line rest : String} {lines : List String} : '\n' ∉ line.toList →
      AreLines rest lines → AreLines (line ++ "\r" ++ "\n" ++ rest) (line :: lines)

/-- The first line ends at the first line feed. -/
theorem lines_feed {line : String} (hline : '\n' ∉ line.toList) (rest : String) :
    lines (line ++ "\n" ++ rest) = String.ofList (dropReturn line.toList) :: lines rest := by
  have hcut : (line ++ "\n" ++ rest).toList.splitOn '\n' =
      line.toList :: rest.toList.splitOn '\n' := by
    rw [String.toList_append, String.toList_append, List.append_assoc]
    exact List.splitOn_append_cons_self_of_not_mem hline _
  obtain ⟨part, parts, hparts⟩ := List.exists_cons_of_ne_nil
    (List.splitOn_ne_nil '\n' rest.toList)
  simp only [lines, hcut, hparts, List.dropLast_cons_cons, List.getLast?_cons_cons, List.map_cons]
  split <;> simp

/-- A text without a line feed is one line, if it is not empty. -/
theorem lines_of_notMem {line : String} (hline : '\n' ∉ line.toList) (hne : line ≠ "") :
    lines line = [line] := by
  simp [lines, List.splitOn_eq_singleton hline, hne]

/-- A line that a return does not end is left as it is. -/
theorem dropReturn_of_ne {line : List Char} (h : line.getLast? ≠ some '\r') :
    dropReturn line = line := if_neg h

/-- The return that ends a line is taken away. -/
theorem dropReturn_append (line : List Char) : dropReturn (line ++ ['\r']) = line := by
  simp [dropReturn]

/-- A text that falls into lines is cut into them. -/
theorem AreLines.lines_eq {s : String} {ls : List String} (h : AreLines s ls) : lines s = ls := by
  induction h with
  | done => rfl
  | last hne hline => exact lines_of_notMem hline hne
  | feed hline hreturn _ ih => rw [lines_feed hline, dropReturn_of_ne hreturn, ih,
      String.ofList_toList]
  | @returnFeed line _ _ hline _ ih =>
    have hline' : '\n' ∉ (line ++ "\r").toList := by simpa using hline
    have hdrop : dropReturn (line ++ "\r").toList = line.toList := by
      rw [String.toList_append]
      exact dropReturn_append line.toList
    rw [lines_feed hline', hdrop, ih, String.ofList_toList]

/-- Every text falls into lines. By induction on its length. -/
theorem exists_areLines (s : String) : ∃ ls, AreLines s ls := by
  induction hn : s.toList.length using Nat.strongRecOn generalizing s with
  | ind n ih =>
    subst hn
    by_cases hfeed : '\n' ∈ s.toList
    · obtain ⟨before, after, hs, hbefore⟩ := List.eq_append_cons_of_mem hfeed
      obtain ⟨ls, hls⟩ := ih _ (by simp [hs]; omega) (String.ofList after) rfl
      by_cases hreturn : before.getLast? = some '\r'
      · obtain ⟨line, rfl⟩ := List.getLast?_eq_some_iff.1 hreturn
        have hparts : s = String.ofList line ++ "\r" ++ "\n" ++ String.ofList after := by
          simp [← String.toList_inj, hs]
        rw [hparts]
        exact ⟨_, .returnFeed (by simpa using hbefore) hls⟩
      · have hparts : s = String.ofList before ++ "\n" ++ String.ofList after := by
          simp [← String.toList_inj, hs]
        rw [hparts]
        exact ⟨_, .feed (by simpa using hbefore) (by simpa using hreturn) hls⟩
    · by_cases hne : s = ""
      · exact ⟨[], hne ▸ .done⟩
      · exact ⟨[s], .last hne hfeed⟩

/-- **A text falls into its lines, and into no others.** -/
theorem areLines_iff {s : String} {ls : List String} : AreLines s ls ↔ lines s = ls := by
  constructor
  · exact AreLines.lines_eq
  · rintro rfl
    obtain ⟨ls, hls⟩ := exists_areLines s
    rwa [hls.lines_eq]

/-! ## Words -/

/-- All characters are blank. -/
def AreBlank (cs : List Char) : Prop := ∀ c ∈ cs, isBlank c = true

/-- There are characters, and none of them is blank. -/
def IsWord (cs : List Char) : Prop := cs ≠ [] ∧ ∀ c ∈ cs, isBlank c = false

variable {cs word before rest : List Char} {c : Char} {words : List (List Char)}

/-- A blank in front of other characters changes none of their words. -/
theorem wordsOf_cons_of_isBlank (hc : isBlank c = true) (cs : List Char) :
    wordsOf (c :: cs) = wordsOf cs := by
  have hcut : ([] ++ c :: cs).splitOnP isBlank = [] :: cs.splitOnP isBlank :=
    List.splitOnP_append_cons_of_forall_mem (by simp) c hc cs
  rw [List.nil_append] at hcut
  simp [wordsOf, hcut]

/-- Blanks in front of other characters change none of their words. -/
theorem wordsOf_append_of_areBlank (h : AreBlank before) (cs : List Char) :
    wordsOf (before ++ cs) = wordsOf cs := by
  induction before with
  | nil => rfl
  | cons c before ih =>
    rw [AreBlank, List.forall_mem_cons] at h
    rw [List.cons_append, wordsOf_cons_of_isBlank h.1, ih h.2]

/-- A word that a blank follows, or nothing, is the first one. -/
theorem wordsOf_append_of_isWord (hword : IsWord word)
    (hrest : ∀ c ∈ rest.head?, isBlank c = true) :
    wordsOf (word ++ rest) = word :: wordsOf rest := by
  cases rest with
  | nil =>
    rw [List.append_nil, wordsOf, List.splitOnP_eq_singleton hword.2]
    simp [hword.1, wordsOf]
  | cons c rest =>
    have hc : isBlank c = true := hrest c rfl
    rw [wordsOf_cons_of_isBlank hc, wordsOf, List.splitOnP_append_cons_of_forall_mem hword.2 c hc]
    simp [hword.1, wordsOf]

/-- Characters begin with blanks, and then with a word, if they are not all blank. -/
theorem exists_first_word (cs : List Char) : AreBlank cs ∨ ∃ before word rest,
    cs = before ++ (word ++ rest) ∧ AreBlank before ∧ IsWord word ∧
      ∀ c ∈ rest.head?, isBlank c = true := by
  have hcs : cs = cs.takeWhile isBlank ++ cs.dropWhile isBlank :=
    List.takeWhile_append_dropWhile.symm
  have hbefore : AreBlank (cs.takeWhile isBlank) := fun c hc => List.mem_takeWhile_imp hc
  generalize cs.takeWhile isBlank = before at hcs hbefore
  cases htail : cs.dropWhile isBlank with
  | nil =>
    left
    rwa [hcs, htail, List.append_nil]
  | cons c tail =>
    right
    have hc : isBlank c = false := by
      have := List.head?_dropWhile_not isBlank cs
      rw [htail] at this
      simpa using this
    refine ⟨before, (c :: tail).takeWhile (! isBlank ·), (c :: tail).dropWhile (! isBlank ·),
      ?_, hbefore, ⟨?_, ?_⟩, ?_⟩
    · rw [List.takeWhile_append_dropWhile, ← htail, ← hcs]
    · simp [hc]
    · intro d hd
      simpa using List.mem_takeWhile_imp hd
    · intro d hd
      have := List.head?_dropWhile_not (! isBlank ·) (c :: tail)
      rw [Option.mem_def.1 hd] at this
      simpa using this

/-- Characters have no words just where they are blank. -/
theorem wordsOf_eq_nil_iff : wordsOf cs = [] ↔ AreBlank cs := by
  constructor
  · intro h
    rcases exists_first_word cs with hblank | ⟨before, word, rest, rfl, hbefore, hword, hrest⟩
    · exact hblank
    · rw [wordsOf_append_of_areBlank hbefore, wordsOf_append_of_isWord hword hrest] at h
      cases h
  · intro h
    have := wordsOf_append_of_areBlank h []
    rwa [List.append_nil] at this

/-- The first word stands after the blanks that the characters begin with, up to the next blank. -/
theorem wordsOf_eq_cons_iff : wordsOf cs = word :: words ↔ ∃ before rest,
    cs = before ++ (word ++ rest) ∧ AreBlank before ∧ IsWord word ∧
      (∀ c ∈ rest.head?, isBlank c = true) ∧ wordsOf rest = words := by
  constructor
  · intro h
    rcases exists_first_word cs with hblank | ⟨before, first, rest, rfl, hbefore, hfirst, hrest⟩
    · rw [wordsOf_eq_nil_iff.2 hblank] at h
      cases h
    · rw [wordsOf_append_of_areBlank hbefore, wordsOf_append_of_isWord hfirst hrest] at h
      obtain ⟨rfl, hwords⟩ := List.cons.inj h
      exact ⟨before, rest, rfl, hbefore, hfirst, hrest, hwords⟩
  · rintro ⟨before, rest, rfl, hbefore, hword, hrest, rfl⟩
    rw [wordsOf_append_of_areBlank hbefore, wordsOf_append_of_isWord hword hrest]

/-- The line has two words: blanks stand between them, and perhaps around them. -/
def ArePair (line first second : String) : Prop := ∃ before gap after,
  line.toList = before ++ (first.toList ++ (gap ++ (second.toList ++ after))) ∧
    AreBlank before ∧ IsWord first.toList ∧ (gap ≠ [] ∧ AreBlank gap) ∧ IsWord second.toList ∧
    AreBlank after

/-- **A line has two words where blanks stand between them.** -/
theorem words_eq_pair_iff {line first second : String} :
    Text.words line = [first, second] ↔ ArePair line first second := by
  have hwords : Text.words line = [first, second] ↔
      wordsOf line.toList = [first.toList, second.toList] := by
    rw [Text.words, List.map_eq_cons_iff]
    constructor
    · rintro ⟨word, words, hcs, rfl, hrest⟩
      obtain ⟨word', words', rfl, rfl, hnil⟩ := List.map_eq_cons_iff.1 hrest
      obtain rfl := List.map_eq_nil_iff.1 hnil
      simpa using hcs
    · intro hcs
      exact ⟨_, _, hcs, by simp, by simp⟩
  rw [hwords]
  constructor
  · intro h
    obtain ⟨before, rest, hline, hbefore, hfirst, hrest, h⟩ := wordsOf_eq_cons_iff.1 h
    obtain ⟨gap, after, rfl, hgap, hsecond, hafter, h⟩ := wordsOf_eq_cons_iff.1 h
    refine ⟨before, gap, after, hline, hbefore, hfirst, ⟨?_, hgap⟩, hsecond,
      wordsOf_eq_nil_iff.1 h⟩
    -- without a gap the second word would begin with the blank that ends the first one
    rintro rfl
    obtain ⟨c, cs, hc⟩ := List.exists_cons_of_ne_nil hsecond.1
    have hblank : isBlank c = true := hrest c (by simp [hc])
    have hletter : isBlank c = false := hsecond.2 c (by simp [hc])
    rw [hblank] at hletter
    cases hletter
  · rintro ⟨before, gap, after, hline, hbefore, hfirst, ⟨hne, hgap⟩, hsecond, hafter⟩
    obtain ⟨c, cs, rfl⟩ := List.exists_cons_of_ne_nil hne
    refine wordsOf_eq_cons_iff.2 ⟨before, _, hline, hbefore, hfirst, ?_, ?_⟩
    · intro d hd
      obtain rfl : c = d := by simpa using hd
      exact hgap c List.mem_cons_self
    · refine wordsOf_eq_cons_iff.2 ⟨_, after, rfl, hgap, hsecond, ?_, wordsOf_eq_nil_iff.2 hafter⟩
      exact fun d hd => hafter d (List.mem_of_mem_head? hd)

end ProxyFilter.Text
