import ProxyFilter.Proofs.Html.Markup
import ProxyFilter.Proofs.Html.Spans

/-!
# Reading a tag with a cursor

`StartTag.parse?` takes octets off a list. Here the same is done with a cursor that runs over a
buffer (`scanTag`), where every octet is looked up by its place and a place outside of the buffer is
a fault. Two things that the list does not show have to be proved of the cursor: that it moves on in
each round of the loop over the attributes (`lt_stop_of_scanAttribute`), and that no look-up is a
fault. Both follow from what each part of the scan comes to (`skip_eq`, `scanValue_eq`,
`scanAttribute_eq`), which is told by the octets from the cursor on. `scanTail_eq` puts the parts
together: the cursor finds the spans of just the tag that is read from the list.
-/

namespace ProxyFilter.Html

/-! ## Looking up octets -/

/-- What looking up octets in a buffer comes to. -/
inductive Scan (α : Type)
  /-- A place outside of the buffer was looked up. -/
  | fault
  /-- The buffer ends before the construct does. -/
  | ended
  | done (a : α)

namespace Scan
variable {α β : Type}

/-- Goes on with the result. -/
def bind : Scan α → (α → Scan β) → Scan β
  | .fault, _ => .fault
  | .ended, _ => .ended
  | .done a, f => f a

instance : Monad Scan where
  pure := .done
  bind := bind

/-- What is read, or the end of the buffer. -/
def ofOption : Option α → Scan α
  | some a => .done a
  | none => .ended

/-- The result together with the fact that it is the result. -/
def attach : (s : Scan α) → Scan { a // s = .done a }
  | .fault => .fault
  | .ended => .ended
  | .done a => .done ⟨a, rfl⟩

@[simp] theorem pure_eq (a : α) : (pure a : Scan α) = .done a := rfl

@[simp] theorem done_bind (a : α) (f : α → Scan β) : Scan.done a >>= f = f a := rfl

@[simp] theorem attach_done (a : α) : (Scan.done a).attach = .done ⟨a, rfl⟩ := rfl

end Scan

/-- The octet at a place that must be in the buffer. -/
def octetAt (b : Bytes) (i : Nat) : Scan UInt8 :=
  match b[i]? with
  | some x => .done x
  | none => .fault

/-- The octets from a place on that must not be behind the end of the buffer. -/
def octetsFrom (b : Bytes) (i : Nat) : Scan Bytes :=
  if i ≤ b.length then .done (b.drop i) else .fault

/-- The octet at a place, unless the buffer ends there. -/
def peek (b : Bytes) (i : Nat) : Scan UInt8 := .ofOption b[i]?

/-! ## The scan -/

/-- The first place from `i` on, the octet of which fails the test, or the end of the buffer. -/
def skip (p : UInt8 → Bool) (b : Bytes) (i : Nat) : Scan Nat := do
  if i < b.length then
    if p (← octetAt b i) then skip p b (i + 1) else return i
  else return i
termination_by b.length - i

/-- Finds the end of a value that begins at `i`. -/
def scanValue (b : Bytes) (i : Nat) : Scan ValueSpans := do
  match Quote.ofOctet? (← peek b i) with
  | some q =>
    match (← octetsFrom b (i + 1)).findIdx? (· == q.octet) with
    | some n => return ⟨⟨i, i + 1 + n + 1⟩, ⟨i + 1, i + 1 + n⟩, some q⟩
    | none => .ended
  | none =>
    let stop ← skip (fun x => ! endsBareValue x) b i
    if stop = b.length then .ended else return ⟨⟨i, stop⟩, ⟨i, stop⟩, none⟩

/-- Finds the value of an attribute whose name ends at `i`, if an `=` follows the name. -/
def scanValueAfter (b : Bytes) (i : Nat) : Scan (Option ValueSpans) := do
  let sign ← skip Byte.isSpace b i
  if (← peek b sign) = 61 then
    let start ← skip Byte.isSpace b (sign + 1)
    return some (← scanValue b start)
  else return none

/-- Finds the end of an attribute whose name begins at `i`. An `=` may only stand in front. -/
def scanAttribute (b : Bytes) (i : Nat) : Scan AttributeSpans := do
  let stop ← skip (fun x => ! endsAttributeName x) b (if (← octetAt b i) = 61 then i + 1 else i)
  return ⟨⟨i, stop⟩, ← scanValueAfter b stop⟩

/-! ## What the scan comes to -/

section
variable {b w : Bytes} {i : Nat} {x : UInt8}

/-- A place at which octets are left. -/
theorem lt_length_of_drop (h : b.drop i = x :: w) :
    b[i]? = some x ∧ i < b.length ∧ b.drop (i + 1) = w := by
  have hx : b[i]? = some x := by rw [← List.head?_drop, h, List.head?_cons]
  obtain ⟨hi, -⟩ := List.getElem?_eq_some_iff.1 hx
  exact ⟨hx, hi, by rw [← List.tail_drop, h, List.tail_cons]⟩

/-- The octets behind those that are left at a place. -/
theorem drop_add_length {u : Bytes} (h : b.drop i = u ++ w) : b.drop (i + u.length) = w := by
  rw [← List.drop_drop, h, List.drop_left]

/-- Where octets are left, one can be looked up. -/
theorem octetAt_eq (h : b.drop i = x :: w) : octetAt b i = .done x := by
  rw [octetAt, (lt_length_of_drop h).1]

/-- The octet at a place is the first of those that are left. -/
theorem peek_eq (b : Bytes) (i : Nat) : peek b i = .ofOption (b.drop i).head? := by
  rw [peek, List.head?_drop]

/-- The cursor stops behind the octets that pass the test, and never looks up a place outside of
the buffer. -/
theorem skip_eq (p : UInt8 → Bool) (b : Bytes) (i : Nat) :
    skip p b i = .done (i + ((b.drop i).takeWhile p).length) := by
  fun_induction skip p b i with
  | case1 i hi ih =>
    obtain ⟨x, w, hw⟩ : ∃ x w, b.drop i = x :: w :=
      List.exists_cons_of_ne_nil (by simpa using hi)
    rw [octetAt_eq hw, Scan.done_bind, hw]
    cases hx : p x with
    | true =>
      simp only [List.takeWhile_cons, hx, if_true]
      rw [ih, (lt_length_of_drop hw).2.2, List.length_cons, Nat.add_right_comm, Nat.add_assoc]
    | false => simp [hx]
  | case2 i hi =>
    rw [List.drop_eq_nil_of_le (by omega)]
    rfl

/-- The cursor stops behind blanks, where the rest of the octets are left. -/
theorem skip_spaces {blanks rest : Bytes} (hcut : splitSpaces (b.drop i) = (blanks, rest)) :
    skip Byte.isSpace b i = .done (i + blanks.length) ∧ b.drop (i + blanks.length) = rest := by
  obtain ⟨hb, -, -⟩ := splitSpaces_spec (b.drop i)
  rw [hcut] at hb
  refine ⟨?_, drop_add_length hb⟩
  rw [skip_eq]
  exact congrArg (fun cut : Bytes × Bytes => Scan.done (i + cut.1.length)) hcut

/-- The cut before the first octet that satisfies the test, found by its place. -/
theorem findIdx?_eq (p : UInt8 → Bool) (w : Bytes) : w.findIdx? p =
    match splitWhen p w with
    | (_, []) => none
    | (u, _ :: _) => some u.length := by
  obtain ⟨u, v, hcut⟩ : ∃ u v, splitWhen p w = (u, v) := ⟨_, _, rfl⟩
  obtain ⟨rfl, hu, hv⟩ := splitWhen_eq hcut
  have hnone : u.findIdx? p = none := List.findIdx?_eq_none_iff.2 hu
  rw [hcut, List.findIdx?_append, hnone]
  cases v with
  | nil => rfl
  | cons x v => simp [List.findIdx?_cons, hv x v rfl]

/-- A value is found where it is read. -/
theorem scanValue_eq (b : Bytes) (i : Nat) :
    scanValue b i =
      .ofOption ((valueText? (b.drop i)).map fun (q, inner, _) => valueSpans i q inner) := by
  rw [scanValue, peek_eq]
  cases hw : b.drop i with
  | nil => rfl
  | cons x w =>
    obtain ⟨-, hi, hnext⟩ := lt_length_of_drop hw
    simp only [List.head?_cons, Scan.ofOption, Scan.done_bind, valueText?]
    cases Quote.ofOctet? x with
    | some q =>
      -- the buffer has octets behind the quote, or ends with it
      have hrest : octetsFrom b (i + 1) = .done w := by
        rw [octetsFrom, if_pos (Nat.succ_le_of_lt hi), hnext]
      simp only [hrest, Scan.done_bind, findIdx?_eq]
      cases splitWhen (· == q.octet) w with
      | mk inner rest =>
        cases rest with
        | nil => rfl
        | cons y rest => rfl
    | none =>
      have hstop : skip (fun x => ! endsBareValue x) b i =
          .done (i + (splitWhen endsBareValue (x :: w)).1.length) := by
        rw [skip_eq, hw]
        rfl
      simp only [hstop, Scan.done_bind]
      cases hcut : splitWhen endsBareValue (x :: w) with
      | mk inner rest =>
        obtain ⟨hb, -, -⟩ := splitWhen_eq hcut
        have hlength : b.length = i + (inner.length + rest.length) := by
          have := congrArg List.length (hw.trans hb)
          simp only [List.length_drop, List.length_append] at this
          omega
        cases rest with
        | nil => simp [hlength]
        | cons y rest => simp [hlength, valueSpans, quoteOctets]

/-- A value behind a name is found where it is read. -/
theorem scanValueAfter_eq (b : Bytes) (i : Nat) :
    scanValueAfter b i = .ofOption ((valueAfterName? (b.drop i)).map fun (value, _) =>
      value.map fun v => valueSpans (i + v.lead.length) v.quote v.inner) := by
  cases hcut : splitSpaces (b.drop i) with
  | mk before rest =>
    obtain ⟨hsign, hrest⟩ := skip_spaces hcut
    rw [scanValueAfter, hsign, Scan.done_bind, peek_eq, hrest, valueAfterName?, hcut]
    cases rest with
    | nil => rfl
    | cons y more =>
      by_cases h61 : y = 61
      · subst h61
        obtain ⟨-, -, hmore⟩ := lt_length_of_drop hrest
        cases hcut' : splitSpaces more with
        | mk after text =>
          rw [← hmore] at hcut'
          obtain ⟨hstart, htext⟩ := skip_spaces hcut'
          rw [hmore] at hcut'
          simp only [List.head?_cons, Scan.ofOption, Scan.done_bind, if_true, hstart, scanValue_eq,
            htext, hcut']
          cases valueText? text with
          | none => rfl
          | some found => simp [Nat.add_assoc, Nat.add_comm 1]
      · simp [h61, Scan.ofOption]

/-- The cursor stops behind the name of an attribute. -/
theorem skip_attributeName (hw : b.drop i = x :: w) :
    skip (fun x => ! endsAttributeName x) b (if x = 61 then i + 1 else i) =
      .done (i + (attributeName (x :: w)).1.length) := by
  by_cases h61 : x = 61
  · subst h61
    simp [skip_eq, (lt_length_of_drop hw).2.2, attributeName, splitWhen, Nat.add_assoc,
      Nat.add_comm 1]
  · have hname : attributeName (x :: w) = splitWhen endsAttributeName (x :: w) := by
      rw [attributeName]
      simpa using h61
    rw [if_neg h61, skip_eq, hw, hname, splitWhen]

/-- An attribute is found where it is read. -/
theorem scanAttribute_eq (hw : b.drop i = x :: w) (hx : beginsAttributeName x = true) :
    scanAttribute b i =
      .ofOption ((valueAfterName? (attributeName (x :: w)).2).map fun (value, _) =>
        (TagAttribute.mk [] (attributeName (x :: w)).1 value).spans i) := by
  obtain ⟨name, rest, hread⟩ : ∃ name rest, attributeName (x :: w) = (name, rest) := ⟨_, _, rfl⟩
  obtain ⟨-, hb, -⟩ := eq_of_attributeName hx hread
  have hrest : b.drop (i + name.length) = rest := drop_add_length (hw.trans hb)
  rw [scanAttribute, octetAt_eq hw, Scan.done_bind, skip_attributeName hw, hread, Scan.done_bind,
    scanValueAfter_eq, hrest]
  cases valueAfterName? rest with
  | none => rfl
  | some found => rfl

/-- An attribute takes an octet at least, and where it stops what is read behind it is left. -/
theorem lt_stop_of_valueAfterName? {value : Option AttributeValue} {next : Bytes}
    (hw : b.drop i = x :: w) (hx : beginsAttributeName x = true)
    (hvalue : valueAfterName? (attributeName (x :: w)).2 = some (value, next)) :
    i < ((TagAttribute.mk [] (attributeName (x :: w)).1 value).spans i).stop ∧
      b.drop ((TagAttribute.mk [] (attributeName (x :: w)).1 value).spans i).stop = next := by
  obtain ⟨name, rest, hread⟩ : ∃ name rest, attributeName (x :: w) = (name, rest) := ⟨_, _, rfl⟩
  obtain ⟨hname, hb, hends⟩ := eq_of_attributeName hx hread
  rw [hread] at hvalue ⊢
  obtain ⟨-, hrest⟩ : ValueFits next value ∧
      rest = (TagAttribute.mk [] name value).afterName next := eq_of_valueAfterName? hends hvalue
  have hsource : b.drop i = (TagAttribute.mk [] name value).source ++ next := by
    rw [hw, hb, hrest, TagAttribute.source_append]
    rfl
  have hlength := (TagAttribute.mk [] name value).length_source_pos hname
  rw [TagAttribute.stop_spans]
  exact ⟨Nat.lt_add_of_pos_right hlength, drop_add_length hsource⟩

/-- The cursor moves on over an attribute. -/
theorem lt_stop_of_scanAttribute {a : AttributeSpans} (hw : b.drop i = x :: w)
    (hx : beginsAttributeName x = true) (h : scanAttribute b i = .done a) : i < a.stop := by
  rw [scanAttribute_eq hw hx] at h
  cases hvalue : valueAfterName? (attributeName (x :: w)).2 with
  | none =>
    rw [hvalue] at h
    cases h
  | some found =>
    rw [hvalue] at h
    cases h
    exact (lt_stop_of_valueAfterName? hw hx hvalue).1

/-- An octet that is no blank and neither ends a tag nor is a slash begins an attribute. -/
theorem beginsAttributeName_of_ne (hspace : Byte.isSpace x = false) (h62 : x ≠ 62)
    (h47 : x ≠ 47) : beginsAttributeName x = true := by
  simp [beginsAttributeName, isGapOctet, hspace, h62, h47]

/-- The octet at which the cursor stops behind blanks is none, and it is the first of those that
are left there. -/
theorem drop_of_skip {j : Nat} (hj : skip Byte.isSpace b i = .done j) (hx : peek b j = .done x) :
    i ≤ j ∧ Byte.isSpace x = false ∧ ∃ w, b.drop j = x :: w := by
  obtain ⟨blanks, rest, hcut⟩ : ∃ blanks rest, splitSpaces (b.drop i) = (blanks, rest) :=
    ⟨_, _, rfl⟩
  obtain ⟨hskip, hrest⟩ := skip_spaces hcut
  rw [hskip] at hj
  cases hj
  rw [peek_eq, hrest] at hx
  cases rest with
  | nil => cases hx
  | cons y w =>
    cases hx
    exact ⟨Nat.le_add_right _ _, (splitSpaces_eq_cons_iff.1 hcut).2.2, w, hrest⟩

end

/-! ## The loop over the attributes -/

/-- Finds the attributes and the end of a tag from `i` on. -/
def scanTail (b : Bytes) (i : Nat) : Scan TailSpans := do
  let start ← (skip Byte.isSpace b i).attach
  let x ← (peek b start).attach
  if h62 : x.1 = 62 then return ⟨[], false, start + 1⟩
  else if h47 : x.1 = 47 then
    if (← peek b (start + 1)) = 62 then return ⟨[], true, start + 2⟩ else scanTail b (start + 1)
  else
    let a ← (scanAttribute b start).attach
    let t ← scanTail b a.1.stop
    return { t with attributes := a :: t.attributes }
termination_by b.length - i
-- in each round the cursor is at an octet, and moves over a slash or an attribute
decreasing_by
  · obtain ⟨hle, -, w, hw⟩ := drop_of_skip start.2 x.2
    have := (lt_length_of_drop hw).2.1
    omega
  · obtain ⟨hle, hspace, w, hw⟩ := drop_of_skip start.2 x.2
    have := (lt_length_of_drop hw).2.1
    have := lt_stop_of_scanAttribute hw (beginsAttributeName_of_ne hspace h62 h47) a.2
    omega

/-- Finds the parts of a tag. -/
def scanTag (b : Bytes) : Scan TagSpans := do
  let stop ← skip (fun x => ! endsElementName x) b 1
  let t ← scanTail b stop
  return { t with name := ⟨1, stop⟩ }

/-! ## One round of the loop -/

section
variable {bound b w : Bytes} {i start : Nat} {x : UInt8}

/-- A round at the end of the buffer. -/
theorem scanTail_of_nil (hskip : skip Byte.isSpace b i = .done start) (hw : b.drop start = []) :
    scanTail b i = .ended := by
  rw [scanTail, hskip]
  simp only [Scan.attach_done, Scan.done_bind]
  rw [peek_eq, hw]
  rfl

/-- A round at a `>`. -/
theorem scanTail_of_gt (hskip : skip Byte.isSpace b i = .done start)
    (hw : b.drop start = 62 :: w) : scanTail b i = .done ⟨[], false, start + 1⟩ := by
  rw [scanTail, hskip]
  simp only [Scan.attach_done, Scan.done_bind]
  rw [peek_eq, hw]
  rfl

/-- A round at a slash. -/
theorem scanTail_of_slash (hskip : skip Byte.isSpace b i = .done start)
    (hw : b.drop start = 47 :: w) : scanTail b i =
      (do
        if (← peek b (start + 1)) = 62 then return ⟨[], true, start + 2⟩
        else scanTail b (start + 1)) := by
  rw [scanTail, hskip]
  simp only [Scan.attach_done, Scan.done_bind]
  rw [peek_eq b start, hw]
  rfl

/-- A round at the name of an attribute. -/
theorem scanTail_of_name (hskip : skip Byte.isSpace b i = .done start)
    (hw : b.drop start = x :: w) (hx : beginsAttributeName x = true) : scanTail b i =
      (do
        let a ← scanAttribute b start
        let t ← scanTail b a.stop
        return { t with attributes := a :: t.attributes }) := by
  have h62 : x ≠ 62 := by
    rintro rfl
    cases hx
  have h47 : x ≠ 47 := by
    rintro rfl
    cases hx
  rw [scanTail, hskip]
  simp only [Scan.attach_done, Scan.done_bind]
  rw [peek_eq, hw]
  simp only [List.head?_cons, Scan.ofOption, Scan.attach_done, Scan.done_bind, h62, h47, dite_false]
  cases scanAttribute b start <;> rfl

/-! ## The rounds together -/

/-- The spans of what is read as the attributes and the end of a tag, from `i` on. -/
def readSpans? (bound b : Bytes) (i : Nat) : Option TailSpans :=
  (readTail? bound b).map fun (t, _) => t.spans i

/-- One more octet in the gap before an attribute moves the attribute and those behind it. -/
theorem TagTail.spans_cons_gap (i : Nat) (x : UInt8) (t : TagTail) (gap name : Bytes)
    (value : Option AttributeValue) :
    TagTail.spans i { t with attributes := ⟨x :: gap, name, value⟩ :: t.attributes } =
      TagTail.spans (i + 1) { t with attributes := ⟨gap, name, value⟩ :: t.attributes } := by
  have hsource : (TagAttribute.mk (x :: gap) name value).source =
      x :: (TagAttribute.mk gap name value).source := rfl
  have hspans : (TagAttribute.mk (x :: gap) name value).spans i =
      (TagAttribute.mk gap name value).spans (i + 1) := by
    simp only [TagAttribute.spans, List.length_cons, Nat.add_assoc, Nat.add_comm 1]
  simp only [spans, attributeSpans, source, ending, hspans, hsource, List.flatMap_cons,
    List.length_append, List.length_cons, Nat.add_assoc, Nat.add_comm 1]

/-- An octet of a gap only moves what stands behind it. -/
theorem readSpans?_cons (bound : Bytes) (i : Nat) (hx : isGapOctet x = true)
    (hw : x = 47 → ∃ c more, w = c :: more ∧ c ≠ 62) :
    readSpans? bound (x :: w) i = readSpans? bound w (i + 1) := by
  cases bound with
  | nil => rfl
  | cons _ bound =>
    simp only [readSpans?, readTail?, readGap_cons hx hw]
    cases readGap w with
    | unfinished => rfl
    | tagEnd gap selfClosing rest =>
      simp [Gap.cons, TagTail.spans, attributeSpans, TagTail.source, TagTail.ending, Nat.add_assoc,
        Nat.add_comm 1]
    | more gap rest =>
      simp only [Gap.cons]
      cases valueAfterName? (attributeName rest).2 with
      | none => rfl
      | some found =>
        simp only [Option.map_map]
        exact congrArg (Option.map · _) (funext fun t => TagTail.spans_cons_gap i x t.1 gap _ _)

/-- Blanks only move what stands behind them. -/
theorem readSpans?_blanks {blanks : Bytes} (bound w : Bytes) (i : Nat)
    (hblanks : ∀ y ∈ blanks, Byte.isSpace y = true) :
    readSpans? bound (blanks ++ w) i = readSpans? bound w (i + blanks.length) := by
  induction blanks generalizing i with
  | nil => rfl
  | cons y blanks ih =>
    obtain ⟨hy, hblanks⟩ := List.forall_mem_cons.1 hblanks
    have hslash : y ≠ 47 := by
      rintro rfl
      exact absurd hy (by decide)
    rw [List.cons_append, readSpans?_cons bound i (by simp [isGapOctet, hy]) (absurd · hslash),
      ih (i + 1) hblanks, List.length_cons, Nat.add_assoc, Nat.add_comm 1]

/-- The octets that close a tag. -/
theorem readSpans?_closer (y : UInt8) (bound w : Bytes) (i : Nat) (selfClosing : Bool) :
    readSpans? (y :: bound) (closer selfClosing ++ w) i =
      some ⟨[], selfClosing, i + (closer selfClosing).length⟩ := by
  have hend : IsEndGap [] selfClosing := ⟨by simp, by simp⟩
  have hgap : readGap (closer selfClosing ++ w) = .tagEnd [] selfClosing w :=
    readGap_append_closer w hend
  simp [readSpans?, readTail?, hgap, TagTail.spans, attributeSpans, TagTail.source, TagTail.ending]

/-- An attribute, and what is read behind it. -/
theorem readSpans?_name (y : UInt8) (bound w : Bytes) (i : Nat)
    (hx : beginsAttributeName x = true) : readSpans? (y :: bound) (x :: w) i =
      (valueAfterName? (attributeName (x :: w)).2).bind fun (value, next) =>
        let a := (TagAttribute.mk [] (attributeName (x :: w)).1 value).spans i
        (readSpans? bound next a.stop).map fun t => { t with attributes := a :: t.attributes } := by
  have hnone : ∀ y ∈ ([] : Bytes), isGapOctet y = true := by simp
  have hgap : readGap (x :: w) = .more [] (x :: w) := readGap_append_name hnone hx
  simp only [readSpans?, readTail?, hgap, TagAttribute.stop_spans]
  cases valueAfterName? (attributeName (x :: w)).2 with
  | none => rfl
  | some found =>
    simp only [Option.map_map, Option.bind_some]
    refine congrArg (Option.map · _) (funext fun t => ?_)
    simp [TagTail.spans, attributeSpans, TagTail.source, TagTail.ending, Nat.add_assoc]

/-- A round finds what is read, if the rounds after it do. -/
theorem scanTail_round {rest : Bytes} (y : UInt8)
    (hskip : skip Byte.isSpace b i = .done start) (hrest : b.drop start = rest)
    (hends : ∀ x w, rest = x :: w → Byte.isSpace x = false)
    (hbound : rest.length ≤ bound.length)
    (hlater : start < b.length → ∀ j bound, start < j → b.length - j < List.length bound →
      scanTail b j = .ofOption (readSpans? bound (b.drop j) j)) :
    scanTail b i = .ofOption (readSpans? (y :: bound) rest start) := by
  have hlength := congrArg List.length hrest
  rw [List.length_drop] at hlength
  cases rest with
  | nil => exact scanTail_of_nil hskip hrest
  | cons x w =>
    obtain ⟨-, hlt, hw⟩ := lt_length_of_drop hrest
    by_cases h62 : x = 62
    · subst h62
      rw [scanTail_of_gt hskip hrest]
      exact congrArg Scan.ofOption (readSpans?_closer y bound w _ false).symm
    by_cases h47 : x = 47
    · subst h47
      rw [scanTail_of_slash hskip hrest, peek_eq, hw]
      cases w with
      | nil => rfl
      | cons c w =>
        by_cases hc : c = 62
        · subst hc
          exact congrArg Scan.ofOption (readSpans?_closer y bound w _ true).symm
        · have hnext := hlater hlt (start + 1) (y :: bound) (by omega)
            (by rw [List.length_cons]; omega)
          rw [hw] at hnext
          rw [readSpans?_cons _ _ rfl fun _ => ⟨c, w, rfl, hc⟩, ← hnext]
          exact if_neg hc
    · have hx := beginsAttributeName_of_ne (hends x w rfl) h62 h47
      rw [scanTail_of_name hskip hrest hx, readSpans?_name y bound w _ hx,
        scanAttribute_eq hrest hx]
      cases hvalue : valueAfterName? (attributeName (x :: w)).2 with
      | none => rfl
      | some found =>
        obtain ⟨value, next⟩ := found
        obtain ⟨hmove, hnext⟩ := lt_stop_of_valueAfterName? hrest hx hvalue
        have hbehind := hlater hlt _ bound hmove (by omega)
        rw [hnext] at hbehind
        simp only [Option.map_some, Option.bind_some, Scan.ofOption, Scan.done_bind, hbehind]
        cases readSpans? bound next _ <;> rfl

/-- **The attributes and the end of a tag are found where they are read.** By induction on the
octets that are left: each round of the loop takes one at least. -/
theorem scanTail_eq (hbound : (b.drop i).length < bound.length) :
    scanTail b i = .ofOption (readSpans? bound (b.drop i) i) := by
  induction hn : b.length - i using Nat.strong_induction_on generalizing i bound with
  | _ n ih =>
    subst hn
    obtain ⟨blanks, rest, hcut⟩ : ∃ blanks rest, splitSpaces (b.drop i) = (blanks, rest) :=
      ⟨_, _, rfl⟩
    obtain ⟨hskip, hrest⟩ := skip_spaces hcut
    obtain ⟨hb, hblanks, hends⟩ := splitSpaces_spec (b.drop i)
    simp only [hcut] at hb hblanks hends
    have hmoved := readSpans?_blanks bound rest i hblanks
    rw [← hb] at hmoved
    rw [hmoved]
    obtain ⟨y, bound, rfl⟩ : ∃ y more, bound = y :: more :=
      List.exists_cons_of_length_pos (by omega)
    have hshort : rest.length ≤ bound.length := by
      rw [hb, List.length_append, List.length_cons] at hbound
      omega
    refine scanTail_round y hskip hrest hends hshort fun hlt j bound hj hbound => ?_
    exact ih _ (by omega) (by rwa [List.length_drop]) rfl

/-- **A tag is found where it is read**, and no place outside of the buffer is looked up. -/
theorem scanTag_eq (b : Bytes) : scanTag (60 :: b) =
    .ofOption ((StartTag.parse? b).map fun (t, _) => t.spans) := by
  cases hcut : splitWhen endsElementName b with
  | mk name rest =>
    have hskip : skip (fun x => ! endsElementName x) (60 :: b) 1 = .done (1 + name.length) := by
      rw [skip_eq]
      exact congrArg (fun cut : Bytes × Bytes => Scan.done (1 + cut.1.length)) hcut
    have hrest : (60 :: b).drop (1 + name.length) = rest :=
      drop_add_length (u := name) (splitWhen_eq hcut).1
    have htail : scanTail (60 :: b) (1 + name.length) =
        .ofOption (readSpans? (60 :: rest) rest (1 + name.length)) := by
      have hbound : ((60 :: b).drop (1 + name.length)).length < (60 :: rest).length := by
        rw [hrest]
        exact Nat.lt_succ_self _
      rw [scanTail_eq hbound, hrest]
    rw [scanTag, hskip, Scan.done_bind, htail]
    simp only [StartTag.parse?, hcut, readSpans?]
    cases readTail? (60 :: rest) rest <;> rfl

end

/-! ## The main result -/

/-- **The tokenizer is total, well formed and stable.** With a cursor over the octets it comes to
an end in every buffer that begins with `<` and never looks up a place outside of it: it finds the
spans of the tag that is read, or that the buffer ends before the tag does. The spans of a tag that
it finds are well placed. And what is told of a buffer, be it that a construct is too long, is told
of every longer one. -/
theorem scanTag_total_stable (b : Bytes) :
    (scanTag (60 :: b) = match StartTag.parse? b with
      | some (t, _) => .done t.spans
      | none => .ended) ∧
    (∀ t, scanTag (60 :: b) = .done t → t.WellPlaced (60 :: b)) ∧
    ∀ limit more, Markup.next limit (60 :: b) ≠ .ok .undecided →
      Markup.next limit (60 :: (b ++ more)) =
        (Markup.next limit (60 :: b)).map (Markup.extend more) := by
  rw [scanTag_eq]
  refine ⟨?_, fun t ht => ?_, fun limit more h => Markup.next_append more h⟩
  · cases StartTag.parse? b <;> rfl
  · cases hread : StartTag.parse? b with
    | none =>
      rw [hread] at ht
      cases ht
    | some found =>
      rw [hread] at ht
      cases ht
      obtain ⟨-, hb⟩ := (StartTag.parse?_selfDelimiting b found.1 found.2).1 hread
      exact StartTag.spans_wellPlaced ⟨found.2, hb.symm⟩

/-- The octets of `<a b=">"/c>` after the `<`. -/
def slashedLink : Bytes := Utf8.encode "a b=\">\"/c>"

/-- The spans of the tag `<a b=">"/c>`. -/
def slashedLinkSpans : TagSpans where
  name := ⟨1, 2⟩
  attributes := [⟨⟨3, 4⟩, some ⟨⟨5, 8⟩, ⟨6, 7⟩, some .double⟩⟩, ⟨⟨9, 10⟩, none⟩]
  selfClosing := false
  length := 11

/-- The tag `<a b=">"/c>` is found, its spans are well placed, and with one octet more it is the
tag that a stream begins with. -/
theorem scanTag_total_stable_slashed :
    scanTag (60 :: slashedLink) = .done slashedLinkSpans ∧
      slashedLinkSpans.WellPlaced (60 :: slashedLink) ∧
      Markup.next 11 (60 :: (slashedLink ++ [60])) =
        (Markup.next 11 (60 :: slashedLink)).map (Markup.extend [60]) := by
  obtain ⟨hscan, hplaced, hstable⟩ := scanTag_total_stable slashedLink
  have hread : (StartTag.parse? slashedLink).map (fun (t, _) => t.spans) =
      some slashedLinkSpans := by decide +kernel
  obtain ⟨found, hfound, hspans⟩ := Option.map_eq_some_iff.1 hread
  rw [hfound] at hscan
  have hdone := hscan.trans (congrArg Scan.done hspans)
  exact ⟨hdone, hplaced _ hdone, hstable 11 [60] (by decide +kernel)⟩

end ProxyFilter.Html
