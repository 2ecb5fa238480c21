import ProxyFilter.Unicode.Direction
import ProxyFilter.Unicode.Normal

/-!
# What the tables say of ASCII

No character of ASCII is a mark or is made of a letter and a mark, no mark that letters are joined
with is in ASCII, and none is written from right to left. So a text in ASCII is composed as it
stands (`compose_of_ascii`). The tables are long texts, so each is looked at once, as the list of
its characters.
-/

namespace ProxyFilter.Unicode

/-! ## Looking a number up -/

/-- What a map has for a number is one of its entries. -/
theorem CodeMap.mem_of_get? {m : CodeMap} {n : Nat} {text : List Nat} (h : m.get? n = some text) :
    (n, text) ∈ m.entries.toList := by
  unfold get? at h
  dsimp only at h
  split at h
  · next key found hentry =>
    split at h
    · next hkey =>
      cases h
      subst hkey
      exact Array.mem_toList_iff.2 (Array.mem_of_getElem? hentry)
    · cases h
  · cases h

/-- The entries of a map are those it is made of. -/
theorem CodeMap.mem_ofEntries {entries : List (Nat × List Nat)} {entry : Nat × List Nat} :
    entry ∈ (ofEntries entries).entries.toList ↔ entry ∈ entries := by
  rw [ofEntries, List.toList_toArray, List.mem_mergeSort]

/-- Entries that are written by their distances have numbers from the first one on, and each has a
record without its distance. -/
theorem CodeMap.of_mem_gapEntries {former : Nat} {records : List (List Nat)}
    {entry : Nat × List Nat} (h : entry ∈ gapEntries former records) :
    former ≤ entry.1 ∧ ∃ gap, gap :: entry.2 ∈ records := by
  induction records generalizing former with
  | nil => cases h
  | cons record records ih =>
    cases record with
    | nil => cases h
    | cons gap text =>
      rcases List.mem_cons.1 h with rfl | h
      · exact ⟨Nat.le_add_right _ _, gap, List.mem_cons_self⟩
      · obtain ⟨hle, gap', hmem⟩ := ih h
        exact ⟨by omega, gap', List.mem_cons_of_mem _ hmem⟩

/-- The numbers that characters list. -/
def numbersIn (cs : List Char) : List Nat :=
  ((cs.splitOnP Char.isWhitespace).filter (! ·.isEmpty)).map fun digits =>
    digits.foldl (fun n c => 10 * n + (c.toNat - 48)) 0

/-- The records of a table, by its characters. -/
theorem CodeMap.records_ofList (cs : List Char) :
    records (String.ofList cs) = (cs.splitOn ',').map numbersIn := by
  rw [records, String.toList_ofList]
  refine List.map_congr_left fun record _ => ?_
  rw [CodeSet.numbers, String.toList_ofList, numbersIn]

/-- A table of labels, by the characters of its text. -/
def labelTable (cs : List Char) : RunTable :=
  ⟨(CodeSet.runsFrom 0 [] 0 (cs.filter fun c => ! c.isWhitespace)).toArray⟩

/-- The table of labels that a text lists. -/
theorem RunTable.ofText_ofList (cs : List Char) : ofText (String.ofList cs) = labelTable cs := by
  rw [ofText, CodeSet.runs, String.toList_ofList, labelTable]

/-! ## Marks -/

/-- A record of a letter and a mark, of which the mark is not in ASCII. -/
def isMarkRecord : List Nat → Bool
  | [_, _, mark] => 128 ≤ mark && mark < 0x110000
  | _ => false

/-- Records of letters and marks that begin behind ASCII. -/
def areMarkRecords (records : List (List Nat)) : Bool :=
  records.all isMarkRecord && records.head?.any fun record => record.head?.any (128 ≤ ·)

set_option maxRecDepth 200000 in
/-- The table of letters and marks has such records. -/
theorem areMarkRecords_pairTable : areMarkRecords (CodeMap.records pairTable) = true := by
  obtain ⟨cs, htable, hrecords⟩ : ∃ cs, pairTable = String.ofList cs ∧
      areMarkRecords ((cs.splitOn ',').map numbersIn) = true := by
    refine ⟨?_, ?table, ?records⟩
    case table =>
      unfold pairTable
      with_unfolding_none exact Eq.refl _
    case records => decide +kernel
  rw [htable, CodeMap.records_ofList]
  exact hrecords

/-- A character of a letter and a mark is not in ASCII, and neither is the mark. -/
theorem of_mem_pairs {n : Nat} {text : List Nat} (h : (n, text) ∈ pairs.entries.toList) :
    128 ≤ n ∧ ∃ letter mark, text = [letter, mark] ∧ 128 ≤ mark ∧ mark < 0x110000 := by
  have hrecords := areMarkRecords_pairTable
  rw [pairs, CodeMap.mem_ofEntries] at h
  generalize CodeMap.records pairTable = records at hrecords h
  simp only [areMarkRecords, Bool.and_eq_true, List.all_eq_true] at hrecords
  obtain ⟨hall, hfirst⟩ := hrecords
  constructor
  · obtain _ | ⟨_ | ⟨gap, first⟩, more⟩ := records
    · cases h
    · cases h
    · have hgap : 128 ≤ gap := by simpa using hfirst
      rcases List.mem_cons.1 h with heq | h
      · cases heq
        omega
      · have := (CodeMap.of_mem_gapEntries h).1
        omega
  · obtain ⟨-, gap, hmem⟩ := CodeMap.of_mem_gapEntries h
    have hrecord := hall _ hmem
    unfold isMarkRecord at hrecord
    split at hrecord
    · next letter mark heq =>
      obtain ⟨-, htext⟩ := List.cons.inj heq
      simp only [Bool.and_eq_true, decide_eq_true_eq] at hrecord
      exact ⟨letter, mark, htext, hrecord⟩
    · cases hrecord

/-- A character of ASCII is not made of a letter and a mark. -/
theorem pairs_get?_of_ascii {n : Nat} (hn : n < 128) : pairs.get? n = none := by
  rw [Option.eq_none_iff_forall_ne_some]
  intro text h
  have := (of_mem_pairs (CodeMap.mem_of_get? h)).1
  omega

/-- No letter is joined with a character of ASCII. -/
theorem composite?_of_ascii {n : Nat} (letter : Nat) (hn : n < 128) :
    composite? letter n = none := by
  have hsyllable : syllable? letter n = none := by
    unfold syllable?
    rw [if_neg (by omega), if_neg (by omega)]
  have hjoined : composites.get? (pairKey letter n) = none := by
    rw [Option.eq_none_iff_forall_ne_some]
    intro text h
    have hmem := CodeMap.mem_of_get? h
    rw [composites, CodeMap.mem_ofEntries, List.mem_filterMap] at hmem
    obtain ⟨⟨c, parts⟩, hpair, hkey⟩ := hmem
    obtain ⟨-, letter', mark, rfl, hlow, hhigh⟩ := of_mem_pairs hpair
    simp only [Option.some.injEq, Prod.mk.injEq, pairKey] at hkey
    omega
  rw [composite?, hsyllable, hjoined]

/-- All characters of ASCII have one of some labels. -/
def labelsAscii (labels : List String) (t : RunTable) : Bool :=
  (List.range 128).all fun n => labels.contains (t.label n)

/-- A character of ASCII has one of the labels. -/
theorem mem_of_labelsAscii {labels : List String} {t : RunTable}
    (h : labelsAscii labels t = true) {n : Nat} (hn : n < 128) : t.label n ∈ labels := by
  have hn := List.all_eq_true.1 h n (List.mem_range.2 hn)
  simpa using hn

set_option maxRecDepth 20000 in
/-- The table of marks has no label for ASCII. -/
theorem labelsAscii_markClasses : labelsAscii ["-"] markClasses = true := by
  obtain ⟨cs, htable, hlabels⟩ : ∃ cs, markClassTable = String.ofList cs ∧
      labelsAscii ["-"] (labelTable cs) = true := by
    refine ⟨?_, ?table, ?labels⟩
    case table =>
      unfold markClassTable
      with_unfolding_none exact Eq.refl _
    case labels => decide +kernel
  rw [markClasses, htable, RunTable.ofText_ofList]
  exact hlabels

/-- A character of ASCII is no mark. -/
theorem markClass_of_ascii {n : Nat} (hn : n < 128) : markClass n = 0 := by
  have hlabel := List.mem_singleton.1 (mem_of_labelsAscii labelsAscii_markClasses hn)
  simp only [markClass, hlabel, if_true]

/-! ## Composed texts -/

variable {text : List Nat}

/-- A character of ASCII is taken apart into itself. -/
theorem decomposeChar_of_ascii {n : Nat} (hn : n < 128) (fuel : Nat) :
    decomposeChar pairs fuel n = [n] := by
  have hsyllable : syllableLetters? n = none := by
    unfold syllableLetters?
    exact if_neg (by omega)
  cases fuel with
  | zero => rfl
  | succ fuel => rw [decomposeChar, hsyllable, pairs_get?_of_ascii hn]

/-- A text in ASCII is taken apart into itself. -/
theorem decomposeReversed_of_ascii (h : ∀ n ∈ text, n < 128) :
    decomposeReversed text = text.reverse := by
  have hapart : text.flatMap (decomposeChar pairs 4) = text := by
    induction text with
    | nil => rfl
    | cons n text ih =>
      rw [List.flatMap_cons, decomposeChar_of_ascii (h n List.mem_cons_self),
        ih fun m hm => h m (List.mem_cons_of_mem _ hm)]
      rfl
  have hinsert (out : List Nat) :
      text.foldl (fun out n => insertMark n out) out = text.reverse ++ out := by
    clear hapart
    induction text generalizing out with
    | nil => rfl
    | cons n text ih =>
      have hfront : insertMark n out = n :: out := by
        have hclass := markClass_of_ascii (h n List.mem_cons_self)
        cases out with
        | nil => rfl
        | cons m out => rw [insertMark, if_neg (by omega)]
      rw [List.foldl_cons, hfront, ih fun m hm => h m (List.mem_cons_of_mem _ hm)]
      simp
  rw [decomposeReversed, hapart, hinsert, List.append_nil]

/-- A character of ASCII is put behind what has been composed. -/
theorem Composing.reversed_push {n : Nat} (s : Composing) (hn : n < 128) :
    (s.push n).reversed = n :: s.reversed := by
  have hclass := markClass_of_ascii hn
  have hjoined : s.joined? n = none := by
    unfold joined?
    cases s.letter with
    | none => rfl
    | some letter =>
      have hnone := composite?_of_ascii letter hn
      rw [Option.bind_eq_bind, Option.bind_some]
      split
      · exact hnone
      · rw [hclass, if_neg (Nat.not_lt_zero _)]
  rw [push, hjoined]
  simp [hclass, reversed]

/-- **A text in ASCII is composed as it stands.** -/
theorem compose_of_ascii (h : ∀ n ∈ text, n < 128) : compose text = text := by
  have hpush (s : Composing) :
      (text.foldl Composing.push s).reversed = text.reverse ++ s.reversed := by
    induction text generalizing s with
    | nil => rfl
    | cons n text ih =>
      rw [List.foldl_cons, ih (fun m hm => h m (List.mem_cons_of_mem _ hm)),
        s.reversed_push (h n List.mem_cons_self)]
      simp
  rw [compose, decomposeReversed_of_ascii h, List.reverse_reverse, hpush]
  simp [Composing.reversed]

/-! ## Directions -/

set_option maxRecDepth 20000 in
/-- The table of directions has three labels for ASCII. -/
theorem labelsAscii_directions : labelsAscii ["L", "E", "N"] directions = true := by
  obtain ⟨cs, htable, hlabels⟩ : ∃ cs, directionTable = String.ofList cs ∧
      labelsAscii ["L", "E", "N"] (labelTable cs) = true := by
    refine ⟨?_, ?table, ?labels⟩
    case table =>
      unfold directionTable
      with_unfolding_none exact Eq.refl _
    case labels => decide +kernel
  rw [directions, htable, RunTable.ofText_ofList]
  exact hlabels

/-- A character of ASCII is not written from right to left. -/
theorem Direction.ofCode_of_ascii {n : Nat} (hn : n < 128) :
    ofCode n = left ∨ ofCode n = digit ∨ ofCode n = neutral := by
  have hlabel := mem_of_labelsAscii labelsAscii_directions hn
  unfold ofCode
  generalize directions.label n = label at hlabel ⊢
  simp only [List.mem_cons, List.not_mem_nil, or_false] at hlabel
  rcases hlabel with rfl | rfl | rfl
  · exact .inl (by decide)
  · exact .inr (.inl (by decide))
  · exact .inr (.inr (by decide))

end ProxyFilter.Unicode
