import Mathlib.Data.List.TakeWhile
import Mathlib.Tactic.Set
import Mathlib.Tactic.ByContra
import ProxyFilter.Html.Tag

/-!
# What a start tag may look like

`StartTag.WellFormed` says which records are start tags, without a word on how they are read: which
octets a name, a gap and a value may have, and what has to stand between two attributes so that the
one ends where the next begins. `StartTag.parse?_eq_some_iff` is the main result: reading accepts
exactly the sources of well-formed tags, whatever follows them.

A reader with this property is `SelfDelimiting`: what it cuts off a stream depends on the construct
alone. So it goes on to read the same of every longer stream (`SelfDelimiting.append`), a stream in
which it finds no end is a proper part of the construct (`SelfDelimiting.longer`), and it reads
nothing where no construct begins (`SelfDelimiting.eq_none`).
-/

namespace ProxyFilter.Html

/-! ## Readers that end by themselves -/

/-- The reader `f`, which begins after the octets `opening`, cuts off exactly the constructs that
satisfy `good`, each at the end of its `source`. -/
def SelfDelimiting {α : Type} (opening : Bytes) (good : α → Prop) (source : α → Bytes)
    (f : Bytes → Option (α × Bytes)) : Prop :=
  ∀ b a rest, f b = some (a, rest) ↔ good a ∧ opening ++ b = source a ++ rest

section
variable {α : Type} {opening b rest : Bytes} {good : α → Prop} {source : α → Bytes}
  {f : Bytes → Option (α × Bytes)} {a : α}

/-- What is read stays the same when more octets come. -/
theorem SelfDelimiting.append (hf : SelfDelimiting opening good source f)
    (h : f b = some (a, rest)) (more : Bytes) : f (b ++ more) = some (a, rest ++ more) := by
  obtain ⟨ha, hb⟩ := (hf b a rest).1 h
  refine (hf _ _ _).2 ⟨ha, ?_⟩
  rw [← List.append_assoc, hb, List.append_assoc]

/-- A construct that more octets complete is longer than what was there before. -/
theorem SelfDelimiting.longer (hf : SelfDelimiting opening good source f) (hb : f b = none)
    {more : Bytes} (h : f (b ++ more) = some (a, rest)) :
    (opening ++ b).length < (source a).length := by
  obtain ⟨ha, hsrc⟩ := (hf _ _ _).1 h
  rw [← List.append_assoc] at hsrc
  by_contra hle
  obtain ⟨left, hleft⟩ : source a <+: opening ++ b :=
    List.prefix_of_prefix_length_le ⟨rest, hsrc.symm⟩ ⟨more, rfl⟩ (by omega)
  have := (hf b a left).2 ⟨ha, hleft.symm⟩
  rw [hb] at this
  cases this

/-- Nothing is read where the octets do not begin with a construct. -/
theorem SelfDelimiting.eq_none (hf : SelfDelimiting opening good source f)
    (h : ∀ a, good a → ¬ source a <+: opening ++ b) : f b = none := by
  cases hcut : f b with
  | none => rfl
  | some found =>
    obtain ⟨hgood, hb⟩ := (hf b found.1 found.2).1 hcut
    exact absurd ⟨found.2, hb.symm⟩ (h found.1 hgood)

end

/-! ## Cutting at an octet -/

section
variable {p : UInt8 → Bool} {b u v : Bytes} {x : UInt8}

/-- Octets are cut at the first one that satisfies the test. -/
theorem splitWhen_append_cons (hu : ∀ y ∈ u, p y = false) (hx : p x = true) :
    splitWhen p (u ++ x :: v) = (u, x :: v) := by
  have hu' : ∀ y ∈ u, (! p y) = true := fun y hy => by simp [hu y hy]
  simp [splitWhen, List.takeWhile_append_of_pos hu', List.dropWhile_append_of_pos hu', hx]

/-- What a cut leaves before it fails the test, and both parts make up the whole. -/
theorem splitWhen_eq (h : splitWhen p b = (u, v)) :
    b = u ++ v ∧ (∀ y ∈ u, p y = false) ∧ ∀ x w, v = x :: w → p x = true := by
  simp only [splitWhen, Prod.mk.injEq] at h
  obtain ⟨rfl, rfl⟩ := h
  refine ⟨List.takeWhile_append_dropWhile.symm, fun y hy => ?_, fun x w hw => ?_⟩
  · simpa using List.mem_takeWhile_imp hy
  · have := List.head?_dropWhile_not (fun x => ! p x) b
    rw [hw] at this
    simpa using this

/-- A cut at an octet, in both directions. -/
theorem splitWhen_eq_cons_iff : splitWhen p b = (u, x :: v) ↔
    b = u ++ x :: v ∧ (∀ y ∈ u, p y = false) ∧ p x = true := by
  constructor
  · intro h
    obtain ⟨hb, hu, hx⟩ := splitWhen_eq h
    exact ⟨hb, hu, hx x v rfl⟩
  · rintro ⟨rfl, hu, hx⟩
    exact splitWhen_append_cons hu hx

/-- Blanks are cut off at the first octet that is none. -/
theorem splitSpaces_eq_splitWhen (b : Bytes) :
    splitSpaces b = splitWhen (fun x => ! Byte.isSpace x) b := by
  simp [splitSpaces, splitWhen]

/-- The blanks and the rest make up the whole, and the rest begins with no blank. -/
theorem splitSpaces_spec (b : Bytes) : b = (splitSpaces b).1 ++ (splitSpaces b).2 ∧
    (∀ y ∈ (splitSpaces b).1, Byte.isSpace y = true) ∧
      ∀ y w, (splitSpaces b).2 = y :: w → Byte.isSpace y = false := by
  obtain ⟨hb, hu, hv⟩ := splitWhen_eq (splitSpaces_eq_splitWhen b).symm
  exact ⟨hb, fun y hy => by simpa using hu y hy, fun y w hyw => by simpa using hv y w hyw⟩

/-- Blanks and what follows them, in both directions. -/
theorem splitSpaces_eq_cons_iff : splitSpaces b = (u, x :: v) ↔
    b = u ++ x :: v ∧ (∀ y ∈ u, Byte.isSpace y = true) ∧ Byte.isSpace x = false := by
  rw [splitSpaces_eq_splitWhen, splitWhen_eq_cons_iff]
  simp

end

/-! ## The parts of a tag -/

/-- The octet may stand in a gap. -/
def isGapOctet (x : UInt8) : Bool := Byte.isSpace x || x == 47

/-- The octet may begin the name of an attribute. -/
def beginsAttributeName (x : UInt8) : Bool := ! isGapOctet x && x != 62

/-- A name of an attribute. An `=` may only stand in front. -/
def IsAttributeName : Bytes → Prop
  | [] => False
  | x :: name => beginsAttributeName x = true ∧ ∀ y ∈ name, endsAttributeName y = false

/-- An `=` with blanks around it. -/
def IsLead (lead : Bytes) : Prop :=
  ∃ before after, lead = before ++ 61 :: after ∧ (∀ y ∈ before, Byte.isSpace y = true) ∧
    ∀ y ∈ after, Byte.isSpace y = true

/-- The first octet after the blanks that `next` begins with is not an `=`. -/
def NoLead (next : Bytes) : Prop := ∃ blanks x rest, next = blanks ++ x :: rest ∧
  (∀ y ∈ blanks, Byte.isSpace y = true) ∧ Byte.isSpace x = false ∧ x ≠ 61

/-- A value that ends where `next` begins. The quotes of a value are not among its octets; a value
without quotes has no blank and no `>`, does not look quoted, and one of the two follows it. -/
def ValueEnds (next : Bytes) : Option Quote → Bytes → Prop
  | some q, inner => ∀ y ∈ inner, (y == q.octet) = false
  | none, inner => (∀ y ∈ inner, endsBareValue y = false) ∧
      (∃ x rest, next = x :: rest ∧ endsBareValue x = true) ∧
      ∃ x rest, inner ++ next = x :: rest ∧ Byte.isSpace x = false ∧ Quote.ofOctet? x = none

/-- What may follow the name of an attribute, up to where `next` begins. -/
def ValueFits (next : Bytes) : Option AttributeValue → Prop
  | none => NoLead next ∧ ∃ x rest, next = x :: rest ∧ endsAttributeName x = true
  | some v => IsLead v.lead ∧ ValueEnds next v.quote v.inner

/-- An attribute that ends where `next` begins. -/
structure TagAttribute.EndsAt (a : TagAttribute) (next : Bytes) : Prop where
  gap : ∀ y ∈ a.gap, isGapOctet y = true
  name : IsAttributeName a.name
  value : ValueFits next a.value

/-- Attributes of which each ends where the next one begins, and the last one where the octets
`ending` begin. -/
def AttributesFit (ending : Bytes) : List TagAttribute → Prop
  | [] => True
  | a :: rest => a.EndsAt (rest.flatMap TagAttribute.source ++ ending) ∧ AttributesFit ending rest

/-- The octets that close a tag. -/
def closer (selfClosing : Bool) : Bytes := if selfClosing then [47, 62] else [62]

/-- A gap before the end of a tag. Its last slash is not the one of a self-closing tag. -/
def IsEndGap (gap : Bytes) (selfClosing : Bool) : Prop :=
  (∀ y ∈ gap, isGapOctet y = true) ∧ (selfClosing = false → gap.getLast? ≠ some 47)

namespace TagTail

/-- The octets after the attributes. -/
def ending (t : TagTail) : Bytes := t.gap ++ closer t.selfClosing

/-- The octets after the name of the element. -/
def source (t : TagTail) : Bytes := t.attributes.flatMap TagAttribute.source ++ t.ending

/-- Attributes and an end that are read as they are. -/
structure WellFormed (t : TagTail) : Prop where
  attributes : AttributesFit t.ending t.attributes
  gap : IsEndGap t.gap t.selfClosing

end TagTail

namespace StartTag

/-- The attributes and the end of a tag. -/
def tail (t : StartTag) : TagTail := ⟨t.attributes, t.gap, t.selfClosing⟩

/-- A tag that is read as it is: its name ends where the tail begins. -/
structure WellFormed (t : StartTag) : Prop where
  name : ∀ y ∈ t.name, endsElementName y = false
  boundary : ∃ x rest, t.tail.source = x :: rest ∧ endsElementName x = true
  tail : t.tail.WellFormed

/-- A tag is `<`, its name and its tail. -/
theorem source_eq (t : StartTag) : t.source = 60 :: (t.name ++ t.tail.source) := by
  cases h : t.selfClosing <;>
    simp [source, ending, tail, TagTail.source, TagTail.ending, closer, h]

end StartTag

/-! ## Gaps -/

/-- An octet of a gap is not the end of a tag. -/
theorem ne_gt_of_isGapOctet {x : UInt8} (hx : isGapOctet x = true) : x ≠ 62 := by
  rintro rfl
  exact absurd hx (by decide)

/-- An octet is put in front of a gap, unless it is the slash of a self-closing tag. -/
theorem readGap_cons {x : UInt8} {b : Bytes} (hx : isGapOctet x = true)
    (hb : x = 47 → ∃ c more, b = c :: more ∧ c ≠ 62) : readGap (x :: b) = (readGap b).cons x := by
  rw [readGap.eq_def]
  by_cases hs : Byte.isSpace x = true
  · simp [hs]
  · have h47 : x = 47 := by simpa [isGapOctet, hs] using hx
    subst h47
    obtain ⟨c, more, rfl, hc⟩ := hb rfl
    simp [hs, hc]

/-- The first octet after a gap is not `>`, where the gap is one before an attribute or before the
end of a self-closing tag. -/
theorem gap_append_head {gap b : Bytes} (hgap : ∀ y ∈ gap, isGapOctet y = true)
    (hb : gap = [] → ∃ c more, b = c :: more ∧ c ≠ 62) :
    ∃ c more, gap ++ b = c :: more ∧ c ≠ 62 := by
  cases gap with
  | nil => exact hb rfl
  | cons y gap => exact ⟨y, gap ++ b, rfl, ne_gt_of_isGapOctet (hgap y (.head _))⟩

/-- A gap before the end of a tag is read as one. -/
theorem readGap_append_closer {gap : Bytes} {selfClosing : Bool} (rest : Bytes)
    (hgap : IsEndGap gap selfClosing) :
    readGap (gap ++ (closer selfClosing ++ rest)) = .tagEnd gap selfClosing rest := by
  obtain ⟨hall, hlast⟩ := hgap
  induction gap with
  | nil => cases selfClosing <;> simp [readGap.eq_def, closer, Byte.isSpace]
  | cons x gap ih =>
    have hgap' : ∀ y ∈ gap, isGapOctet y = true := fun y hy => hall y (.tail _ hy)
    have hlast' : selfClosing = false → gap.getLast? ≠ some 47 := by
      intro hsc
      cases gap with
      | nil => simp
      | cons y gap => simpa using hlast hsc
    rw [List.cons_append, readGap_cons (hall x (.head _)), ih hgap' hlast', Gap.cons]
    rintro rfl
    refine gap_append_head hgap' fun hnil => ?_
    cases selfClosing with
    | true => exact ⟨47, 62 :: rest, rfl, by decide⟩
    | false => exact absurd (by rw [hnil]; rfl) (hlast rfl)

/-- A gap before an attribute is read as one. -/
theorem readGap_append_name {gap more : Bytes} {x : UInt8}
    (hgap : ∀ y ∈ gap, isGapOctet y = true) (hx : beginsAttributeName x = true) :
    readGap (gap ++ x :: more) = .more gap (x :: more) := by
  have hspace : Byte.isSpace x = false ∧ x ≠ 47 ∧ x ≠ 62 := by
    simpa [beginsAttributeName, isGapOctet, and_assoc] using hx
  induction gap with
  | nil => simp [readGap.eq_def, hspace]
  | cons y gap ih =>
    have hgap' : ∀ y ∈ gap, isGapOctet y = true := fun z hz => hgap z (.tail _ hz)
    rw [List.cons_append, readGap_cons (hgap y (.head _)), ih hgap', Gap.cons]
    exact fun _ => gap_append_head hgap' fun _ => ⟨x, more, rfl, hspace.2.2⟩

/-- A longer gap before the end of a tag comes from a shorter one. -/
theorem Gap.cons_eq_tagEnd {g : Gap} {x : UInt8} {gap rest : Bytes} {selfClosing : Bool}
    (h : g.cons x = .tagEnd gap selfClosing rest) :
    ∃ gap', gap = x :: gap' ∧ g = .tagEnd gap' selfClosing rest := by
  cases g with
  | tagEnd gap' _ _ =>
    simp only [Gap.cons, Gap.tagEnd.injEq] at h
    obtain ⟨rfl, rfl, rfl⟩ := h
    exact ⟨gap', rfl, rfl⟩
  | unfinished | more => cases h

/-- A longer gap before an attribute comes from a shorter one. -/
theorem Gap.cons_eq_more {g : Gap} {x : UInt8} {gap rest : Bytes}
    (h : g.cons x = .more gap rest) : ∃ gap', gap = x :: gap' ∧ g = .more gap' rest := by
  cases g with
  | more gap' _ =>
    simp only [Gap.cons, Gap.more.injEq] at h
    obtain ⟨rfl, rfl⟩ := h
    exact ⟨gap', rfl, rfl⟩
  | unfinished | tagEnd => cases h

/-- A gap before the end of a tag with one more octet in front. -/
theorem IsEndGap.cons {x : UInt8} {gap : Bytes} {selfClosing : Bool} (hx : isGapOctet x = true)
    (hlast : gap = [] → x = 47 → selfClosing = true) (hgap : IsEndGap gap selfClosing) :
    IsEndGap (x :: gap) selfClosing := by
  refine ⟨List.forall_mem_cons.2 ⟨hx, hgap.1⟩, fun hsc => ?_⟩
  cases gap with
  | nil =>
    intro h47
    have := hlast rfl (by simpa using h47)
    simp [hsc] at this
  | cons y gap => simpa using hgap.2 hsc

/-- Nothing but a gap before the end of a tag is read as one. -/
theorem eq_of_readGap_tagEnd {b gap rest : Bytes} {selfClosing : Bool}
    (h : readGap b = .tagEnd gap selfClosing rest) :
    IsEndGap gap selfClosing ∧ b = gap ++ (closer selfClosing ++ rest) := by
  fun_induction readGap b generalizing gap with
  | case1 | case4 | case7 => cases h
  | case2 x b hx ih =>
    obtain ⟨gap, rfl, hg⟩ := Gap.cons_eq_tagEnd h
    obtain ⟨hgap, rfl⟩ := ih hg
    refine ⟨hgap.cons (by simp [isGapOctet, hx]) ?_, rfl⟩
    rintro - rfl
    exact absurd hx (by decide)
  | case3 | case5 =>
    cases h
    exact ⟨⟨by simp, by simp⟩, rfl⟩
  | case6 c more hc _ _ ih =>
    obtain ⟨gap, rfl, hg⟩ := Gap.cons_eq_tagEnd h
    obtain ⟨hgap, hb⟩ := ih hg
    refine ⟨hgap.cons rfl fun hnil _ => ?_, by rw [hb]; rfl⟩
    cases selfClosing with
    | true => rfl
    | false =>
      rw [hnil] at hb
      exact absurd (List.cons.inj hb).1 hc

/-- Nothing but a gap before an attribute is read as one. -/
theorem eq_of_readGap_more {b gap rest : Bytes} (h : readGap b = .more gap rest) :
    (∀ y ∈ gap, isGapOctet y = true) ∧ b = gap ++ rest ∧
      ∃ x more, rest = x :: more ∧ beginsAttributeName x = true := by
  fun_induction readGap b generalizing gap with
  | case1 | case3 | case4 | case5 => cases h
  | case2 x b hx ih =>
    obtain ⟨gap, rfl, hg⟩ := Gap.cons_eq_more h
    obtain ⟨hgap, rfl, hrest⟩ := ih hg
    exact ⟨List.forall_mem_cons.2 ⟨by simp [isGapOctet, hx], hgap⟩, rfl, hrest⟩
  | case6 c more hc _ _ ih =>
    obtain ⟨gap, rfl, hg⟩ := Gap.cons_eq_more h
    obtain ⟨hgap, hb, hrest⟩ := ih hg
    exact ⟨List.forall_mem_cons.2 ⟨rfl, hgap⟩, by rw [hb]; rfl, hrest⟩
  | case7 x more hs hgt hslash =>
    cases h
    exact ⟨by simp, rfl, x, more, rfl, by simp [beginsAttributeName, isGapOctet, *]⟩

/-! ## Names -/

/-- A name ends at the first octet that ends names, whatever `=` it begins with. -/
theorem attributeName_append {name more : Bytes} {x : UInt8} (hname : IsAttributeName name)
    (hx : endsAttributeName x = true) : attributeName (name ++ x :: more) = (name, x :: more) := by
  cases name with
  | nil => cases hname
  | cons y name =>
    obtain ⟨hy, hall⟩ := hname
    have hcut := splitWhen_append_cons (p := endsAttributeName) (v := more) hall hx
    by_cases h61 : y = 61
    · subst h61
      simp [attributeName, hcut]
    · have hy' : endsAttributeName y = false := by
        simp_all [beginsAttributeName, isGapOctet, endsAttributeName]
      have hcut := splitWhen_append_cons (p := endsAttributeName) (v := more)
        (List.forall_mem_cons.2 ⟨hy', hall⟩) hx
      rw [attributeName, hcut]
      simpa using h61

/-- What is read as a name is one, and ends at an octet that ends names or with the stream. -/
theorem eq_of_attributeName {x : UInt8} {more name rest : Bytes}
    (hx : beginsAttributeName x = true) (h : attributeName (x :: more) = (name, rest)) :
    IsAttributeName name ∧ x :: more = name ++ rest ∧
      ∀ y w, rest = y :: w → endsAttributeName y = true := by
  by_cases h61 : x = 61
  · subst h61
    simp only [attributeName, Prod.mk.injEq] at h
    obtain ⟨rfl, rfl⟩ := h
    obtain ⟨hb, hu, hv⟩ := splitWhen_eq (p := endsAttributeName) (b := more) rfl
    exact ⟨⟨hx, hu⟩, congrArg (61 :: ·) hb, hv⟩
  · have hx' : endsAttributeName x = false := by
      simp_all [beginsAttributeName, isGapOctet, endsAttributeName]
    rw [attributeName] at h
    · obtain ⟨hb, hu, hv⟩ := splitWhen_eq h
      cases name with
      | nil =>
        have := hv x more (by simpa using hb.symm)
        rw [hx'] at this
        cases this
      | cons y name =>
        obtain ⟨rfl, -⟩ := List.cons.inj hb
        exact ⟨⟨hx, (List.forall_mem_cons.1 hu).2⟩, hb, hv⟩
    · simpa using h61

/-! ## Values -/

/-- The octet of a quote is that quote. -/
@[simp] theorem Quote.ofOctet?_octet (q : Quote) : Quote.ofOctet? q.octet = some q := by
  cases q <;> rfl

/-- A quote is written as its octet. -/
theorem Quote.eq_octet_of_ofOctet? {x : UInt8} {q : Quote} (h : Quote.ofOctet? x = some q) :
    x = q.octet := by
  simp only [Quote.ofOctet?] at h
  split at h
  · cases h; assumption
  · split at h
    · cases h; assumption
    · cases h

/-- No quote is a blank. -/
theorem Quote.isSpace_octet (q : Quote) : Byte.isSpace q.octet = false := by
  cases q <;> rfl

/-- A value is read as it is written. -/
theorem valueText?_outer {q : Option Quote} {inner next : Bytes} (h : ValueEnds next q inner) :
    valueText? (quoteOctets q ++ inner ++ quoteOctets q ++ next) = some (q, inner, next) := by
  cases q with
  | some q =>
    have hcut := splitWhen_append_cons (p := (· == q.octet)) (x := q.octet) (v := next) h (by simp)
    simp [valueText?, quoteOctets, hcut]
  | none =>
    obtain ⟨hall, ⟨x, rest, rfl, hx⟩, y, more, heq, -, hy⟩ := h
    have hcut := splitWhen_append_cons (p := endsBareValue) (v := rest) hall hx
    simp only [quoteOctets, List.nil_append, List.append_nil]
    rw [heq] at hcut ⊢
    simp [valueText?, hy, hcut]

/-- What is read as a value is written as one, if no blank stands in front. -/
theorem eq_of_valueText? {b inner next : Bytes} {q : Option Quote}
    (hb : ∀ y w, b = y :: w → Byte.isSpace y = false)
    (h : valueText? b = some (q, inner, next)) :
    ValueEnds next q inner ∧ b = quoteOctets q ++ inner ++ quoteOctets q ++ next := by
  cases b with
  | nil => cases h
  | cons x rest =>
    simp only [valueText?] at h
    split at h
    · next q' hq =>
      obtain rfl := Quote.eq_octet_of_ofOctet? hq
      split at h
      · cases h
      · next u y v hcut =>
        cases h
        obtain ⟨rfl, hu, hy⟩ := splitWhen_eq_cons_iff.1 hcut
        obtain rfl : y = q'.octet := by simpa using hy
        exact ⟨hu, by simp [quoteOctets]⟩
    · next hq =>
      split at h
      · cases h
      · next u v hv hcut =>
        cases h
        obtain ⟨hb', hu, hy⟩ := splitWhen_eq hcut
        cases next with
        | nil => exact absurd rfl hv
        | cons y w =>
          exact ⟨⟨hu, ⟨y, w, rfl, hy y w rfl⟩, x, rest, hb'.symm, hb x rest rfl, hq⟩,
            by simpa [quoteOctets] using hb'⟩

/-- A value does not begin with a blank. -/
theorem ValueEnds.head {next inner : Bytes} {q : Option Quote} (h : ValueEnds next q inner) :
    ∃ y w, quoteOctets q ++ inner ++ quoteOctets q ++ next = y :: w ∧ Byte.isSpace y = false := by
  cases q with
  | some q => exact ⟨q.octet, inner ++ (q.octet :: next), by simp [quoteOctets], q.isSpace_octet⟩
  | none =>
    obtain ⟨-, -, y, w, heq, hy, -⟩ := h
    exact ⟨y, w, by simpa [quoteOctets] using heq, hy⟩

/-- A value with what stands between it and the name is read as it is written. -/
theorem valueAfterName?_outer {v : AttributeValue} {next : Bytes} (hlead : IsLead v.lead)
    (hv : ValueEnds next v.quote v.inner) :
    valueAfterName? (v.lead ++ v.outer ++ next) = some (some v, next) := by
  obtain ⟨before, after, hsplit, hbefore, hafter⟩ := hlead
  obtain ⟨y, w, hyw, hy⟩ := hv.head
  have h1 : splitSpaces (before ++ 61 :: (after ++ (y :: w))) = (before, 61 :: (after ++ y :: w)) :=
    splitSpaces_eq_cons_iff.2 ⟨rfl, hbefore, rfl⟩
  have h2 : splitSpaces (after ++ y :: w) = (after, y :: w) :=
    splitSpaces_eq_cons_iff.2 ⟨rfl, hafter, hy⟩
  have hb : v.lead ++ v.outer ++ next = before ++ 61 :: (after ++ (y :: w)) := by
    rw [← hyw, hsplit, AttributeValue.outer]
    simp
  rw [hb, valueAfterName?, h1]
  simp only [↓reduceIte, h2]
  rw [← hyw, valueText?_outer hv]
  simp [← hsplit]

/-- Where no `=` follows, no value is read. -/
theorem valueAfterName?_of_noLead {next : Bytes} (h : NoLead next) :
    valueAfterName? next = some (none, next) := by
  obtain ⟨blanks, x, rest, rfl, hblanks, hx, h61⟩ := h
  rw [valueAfterName?, splitSpaces_eq_cons_iff.2 ⟨rfl, hblanks, hx⟩]
  simp [h61]

/-- Where no value is read, no `=` follows. -/
theorem eq_of_valueAfterName?_none {b next : Bytes} (h : valueAfterName? b = some (none, next)) :
    NoLead next ∧ b = next := by
  simp only [valueAfterName?] at h
  split at h
  · cases h
  · next blanks x rest hcut =>
    obtain ⟨rfl, hblanks, hx⟩ := splitSpaces_eq_cons_iff.1 hcut
    split at h
    · simp at h
    · next h61 =>
      cases h
      exact ⟨⟨blanks, x, rest, rfl, hblanks, hx, h61⟩, rfl⟩

/-- What is read as a value after a name is one, with all that stands between them. -/
theorem eq_of_valueAfterName?_some {b next : Bytes} {v : AttributeValue}
    (h : valueAfterName? b = some (some v, next)) :
    IsLead v.lead ∧ ValueEnds next v.quote v.inner ∧ b = v.lead ++ v.outer ++ next := by
  simp only [valueAfterName?] at h
  split at h
  · cases h
  · next blanks x rest hcut =>
    obtain ⟨rfl, hblanks, hx⟩ := splitSpaces_eq_cons_iff.1 hcut
    split at h
    · next h61 =>
      subst h61
      obtain ⟨⟨q, inner, next⟩, hvalue, heq⟩ := Option.map_eq_some_iff.1 h
      cases heq
      obtain ⟨hrest, hafter, hy⟩ := splitSpaces_spec rest
      obtain ⟨hv, hb⟩ := eq_of_valueText? hy hvalue
      rw [hb] at hrest
      refine ⟨⟨blanks, _, rfl, hblanks, hafter⟩, hv, ?_⟩
      conv => lhs; rw [hrest]
      simp [AttributeValue.outer]
    · cases h

/-! ## Tags -/

/-- The blanks and the `=` in front of a value end the name before them. -/
theorem IsLead.head {lead : Bytes} (h : IsLead lead) :
    ∃ x more, lead = x :: more ∧ endsAttributeName x = true := by
  obtain ⟨before, after, rfl, hbefore, -⟩ := h
  cases before with
  | nil => exact ⟨61, after, rfl, rfl⟩
  | cons x before => exact ⟨x, _, rfl, by simp [endsAttributeName, hbefore x (.head _)]⟩

/-- What follows the name of an attribute, its value included. -/
def TagAttribute.afterName (a : TagAttribute) (next : Bytes) : Bytes :=
  match a.value with
  | some v => v.lead ++ v.outer ++ next
  | none => next

/-- An attribute is its gap, its name and what follows them. -/
theorem TagAttribute.source_append (a : TagAttribute) (next : Bytes) :
    a.source ++ next = a.gap ++ (a.name ++ a.afterName next) := by
  cases h : a.value <;> simp [source, body, afterName, h]

/-- A name has a first octet. -/
theorem IsAttributeName.head {name : Bytes} (h : IsAttributeName name) :
    ∃ x more, name = x :: more ∧ beginsAttributeName x = true := by
  cases name with
  | nil => cases h
  | cons x more => exact ⟨x, more, rfl, h.1⟩

/-- An attribute takes an octet at least. -/
theorem TagAttribute.length_source_pos (a : TagAttribute) (h : IsAttributeName a.name) :
    0 < a.source.length := by
  obtain ⟨x, more, hname, -⟩ := h.head
  have hlength := congrArg List.length (a.source_append [])
  simp only [hname, List.length_append, List.length_cons, List.length_nil] at hlength
  omega

/-- What follows the name of an attribute ends the name, and is read as its value. -/
theorem ValueFits.read {a : TagAttribute} {next : Bytes} (h : ValueFits next a.value) :
    (∃ x more, a.afterName next = x :: more ∧ endsAttributeName x = true) ∧
      valueAfterName? (a.afterName next) = some (a.value, next) := by
  cases hv : a.value with
  | none =>
    rw [hv] at h
    simp only [TagAttribute.afterName, hv]
    exact ⟨h.2, valueAfterName?_of_noLead h.1⟩
  | some v =>
    rw [hv] at h
    simp only [TagAttribute.afterName, hv]
    obtain ⟨x, more, hx, hends⟩ := h.1.head
    exact ⟨⟨x, more ++ v.outer ++ next, by simp [hx], hends⟩, valueAfterName?_outer h.1 h.2⟩

/-- A value ends where it does whatever comes after the next octets. -/
theorem ValueFits.append {next : Bytes} {v : Option AttributeValue} (h : ValueFits next v)
    (rest : Bytes) : ValueFits (next ++ rest) v := by
  cases v with
  | none =>
    obtain ⟨⟨blanks, x, more, rfl, hlead⟩, y, w, hyw, hy⟩ := h
    exact ⟨⟨blanks, x, more ++ rest, by simp, hlead⟩, y, w ++ rest, by rw [hyw]; rfl, hy⟩
  | some v =>
    refine ⟨h.1, ?_⟩
    have hends := h.2
    cases hq : v.quote with
    | some q => rwa [hq] at hends
    | none =>
      rw [hq] at hends
      obtain ⟨hall, ⟨x, more, rfl, hx⟩, y, w, hyw, hy⟩ := hends
      refine ⟨hall, ⟨x, more ++ rest, rfl, hx⟩, y, w ++ rest, ?_, hy⟩
      rw [← List.append_assoc, hyw]
      rfl

/-- The next octets alone tell where a value ends, if not all of them are blank. -/
theorem ValueFits.of_append {next rest blanks more : Bytes} {x : UInt8}
    {v : Option AttributeValue} (hnext : splitSpaces next = (blanks, x :: more))
    (h : ValueFits (next ++ rest) v) : ValueFits next v := by
  obtain ⟨rfl, hblanks, hx⟩ := splitSpaces_eq_cons_iff.1 hnext
  obtain ⟨z, zs, hz⟩ : ∃ z zs, blanks ++ x :: more = z :: zs :=
    List.exists_cons_of_ne_nil (by simp)
  cases v with
  | none =>
    obtain ⟨⟨blanks', x', more', heq, hblanks', hx', h61⟩, y, w, hyw, hy⟩ := h
    have hcut := splitSpaces_eq_cons_iff.2 ⟨heq, hblanks', hx'⟩
    rw [List.append_assoc, List.cons_append,
      splitSpaces_eq_cons_iff.2 ⟨rfl, hblanks, hx⟩] at hcut
    cases hcut
    rw [hz] at hyw
    cases hyw
    exact ⟨⟨blanks, x, more, rfl, hblanks, hx, h61⟩, z, zs, hz, hy⟩
  | some v =>
    refine ⟨h.1, ?_⟩
    have hends := h.2
    cases hq : v.quote with
    | some q => rwa [hq] at hends
    | none =>
      rw [hq, hz] at hends
      obtain ⟨hall, ⟨y, w, hyw, hy⟩, u, us, hu, hspace⟩ := hends
      cases hyw
      rw [hz]
      refine ⟨hall, ⟨z, zs, rfl, hy⟩, ?_⟩
      cases hin : v.inner with
      | nil =>
        rw [hin] at hu
        cases hu
        exact ⟨z, zs, rfl, hspace⟩
      | cons i is =>
        rw [hin] at hu
        cases hu
        exact ⟨_, is ++ z :: zs, rfl, hspace⟩

/-- What is read after a name is a value that fits, or none. -/
theorem eq_of_valueAfterName? {b next gap name : Bytes} {v : Option AttributeValue}
    (hends : ∀ y w, b = y :: w → endsAttributeName y = true)
    (h : valueAfterName? b = some (v, next)) :
    ValueFits next v ∧ b = (TagAttribute.mk gap name v).afterName next := by
  cases v with
  | none =>
    obtain ⟨hlead, rfl⟩ := eq_of_valueAfterName?_none h
    obtain ⟨z, zs, hz⟩ : ∃ z zs, b = z :: zs := by
      obtain ⟨blanks, x, more, rfl, -⟩ := hlead
      exact List.exists_cons_of_ne_nil (by simp)
    exact ⟨⟨hlead, z, zs, hz, hends z zs hz⟩, rfl⟩
  | some v =>
    obtain ⟨hlead, hv, rfl⟩ := eq_of_valueAfterName?_some h
    exact ⟨⟨hlead, hv⟩, rfl⟩

/-- Not all octets of a tag are blank. -/
theorem TagTail.splitSpaces_source (t : TagTail) :
    ∃ blanks x more, splitSpaces t.source = (blanks, x :: more) := by
  obtain ⟨hsrc, hblanks, -⟩ := splitSpaces_spec t.source
  cases hcut : (splitSpaces t.source).2 with
  | cons x more => exact ⟨_, x, more, Prod.ext rfl hcut⟩
  | nil =>
    rw [hcut, List.append_nil] at hsrc
    have hgt : (62 : UInt8) ∈ t.source := by
      cases hs : t.selfClosing <;> simp [source, ending, closer, hs]
    rw [hsrc] at hgt
    exact absurd (hblanks 62 hgt) (by decide)

/-- Attributes that fit together are read back, with whatever follows the tag. -/
theorem readTail?_source {attributes : List TagAttribute} {gap bound : Bytes} {selfClosing : Bool}
    (hfit : AttributesFit (gap ++ closer selfClosing) attributes) (hgap : IsEndGap gap selfClosing)
    (hbound : attributes.length < bound.length) (rest : Bytes) :
    readTail? bound ((TagTail.mk attributes gap selfClosing).source ++ rest) =
      some (⟨attributes, gap, selfClosing⟩, rest) := by
  induction attributes generalizing bound with
  | nil =>
    cases bound with
    | nil => cases hbound
    | cons _ bound =>
      have hend := readGap_append_closer rest hgap
      simp only [TagTail.source, TagTail.ending, List.flatMap_nil, List.nil_append,
        List.append_assoc, readTail?, hend]
  | cons a attributes ih =>
    cases bound with
    | nil => cases hbound
    | cons _ bound =>
      obtain ⟨ha, hfit⟩ := hfit
      set next := (TagTail.mk attributes gap selfClosing).source with hnext
      change a.EndsAt next at ha
      obtain ⟨⟨x, more, hafter, hx⟩, hvalue⟩ := (ha.value.append rest).read
      obtain ⟨y, name, hname, hy⟩ := ha.name.head
      have hsrc : (TagTail.mk (a :: attributes) gap selfClosing).source ++ rest =
          a.gap ++ y :: (name ++ a.afterName (next ++ rest)) := by
        rw [← List.cons_append, ← hname, ← a.source_append]
        simp [hnext, TagTail.source, TagTail.ending]
      have hread : attributeName (y :: (name ++ a.afterName (next ++ rest))) =
          (a.name, a.afterName (next ++ rest)) := by
        rw [← List.cons_append, ← hname, hafter]
        exact attributeName_append ha.name hx
      simp only [hsrc, readTail?, readGap_append_name ha.gap hy, hread, hvalue,
        ih hfit (by simpa using hbound), Option.map_some]

/-- What is read as attributes and an end fits together and is written as it stands. -/
theorem eq_of_readTail? {bound b rest : Bytes} {t : TagTail}
    (h : readTail? bound b = some (t, rest)) : t.WellFormed ∧ b = t.source ++ rest := by
  induction bound generalizing b t with
  | nil => cases h
  | cons _ bound ih =>
    simp only [readTail?] at h
    split at h
    · cases h
    · next gap selfClosing rest' hgap =>
      cases h
      obtain ⟨hend, rfl⟩ := eq_of_readGap_tagEnd hgap
      exact ⟨⟨trivial, hend⟩, by simp [TagTail.source, TagTail.ending]⟩
    · next gap b' hgap =>
      obtain ⟨hall, rfl, x, more, rfl, hx⟩ := eq_of_readGap_more hgap
      obtain ⟨name, after, hread⟩ : ∃ name after, attributeName (x :: more) = (name, after) :=
        ⟨_, _, rfl⟩
      obtain ⟨hname, heq, hends⟩ := eq_of_attributeName hx hread
      rw [hread] at h
      simp only at h
      split at h
      · cases h
      · next value b'' hvalue =>
        obtain ⟨⟨t, rest'⟩, ht, hcons⟩ := Option.map_eq_some_iff.1 h
        cases hcons
        obtain ⟨hwf, rfl⟩ := ih ht
        obtain ⟨hfits, hafter⟩ := eq_of_valueAfterName? hends hvalue
        obtain ⟨blanks, y, w, hcut⟩ := t.splitSpaces_source
        refine ⟨⟨⟨⟨hall, hname, hfits.of_append hcut⟩, hwf.attributes⟩, hwf.gap⟩, ?_⟩
        rw [heq, hafter, ← TagAttribute.source_append ⟨gap, name, value⟩]
        simp [TagTail.source, TagTail.ending]

/-! ## The main result -/

namespace StartTag

/-- Every attribute takes an octet at least. -/
theorem length_le_of_attributesFit {ending : Bytes} {attributes : List TagAttribute}
    (h : AttributesFit ending attributes) :
    attributes.length ≤ (attributes.flatMap TagAttribute.source ++ ending).length := by
  induction attributes with
  | nil => simp
  | cons a attributes ih =>
    have hrest := ih h.2
    have ha := a.length_source_pos h.1.name
    simp only [List.length_append, List.length_cons, List.flatMap_cons] at hrest ⊢
    omega

/-- **Reading a start tag accepts exactly the sources of well-formed tags**, whatever follows
them. -/
theorem parse?_selfDelimiting : SelfDelimiting [60] WellFormed source parse? := by
  intro b t rest
  constructor
  · intro h
    obtain ⟨name, after, hread⟩ : ∃ name after, splitWhen endsElementName b = (name, after) :=
      ⟨_, _, rfl⟩
    rw [parse?, hread] at h
    obtain ⟨⟨tail, rest'⟩, htail, heq⟩ := Option.map_eq_some_iff.1 h
    cases heq
    obtain ⟨hwf, hsrc⟩ := eq_of_readTail? htail
    obtain ⟨hb, hname, hends⟩ := splitWhen_eq hread
    obtain ⟨blanks, x, more, hcut⟩ := tail.splitSpaces_source
    obtain ⟨y, w, hyw⟩ : ∃ y w, tail.source = y :: w := by
      rw [(splitSpaces_eq_cons_iff.1 hcut).1]
      exact List.exists_cons_of_ne_nil (by simp)
    refine ⟨⟨hname, ⟨y, w, hyw, ?_⟩, hwf⟩, ?_⟩
    · rw [hyw] at hsrc
      exact hends y _ hsrc
    · rw [source_eq]
      simp [hb, hsrc, StartTag.tail]
  · rintro ⟨⟨hname, ⟨x, more, hmore, hx⟩, htail⟩, hb⟩
    obtain rfl : b = t.name ++ (t.tail.source ++ rest) := by
      rw [source_eq] at hb
      simpa using hb
    have hcut : splitWhen endsElementName (t.name ++ (t.tail.source ++ rest)) =
        (t.name, t.tail.source ++ rest) := by
      rw [hmore]
      exact splitWhen_append_cons hname hx
    have hbound : t.attributes.length < (60 :: (t.tail.source ++ rest)).length := by
      have := length_le_of_attributesFit htail.attributes
      rw [List.length_cons, List.length_append]
      exact Nat.lt_succ_of_le (Nat.le_trans this (Nat.le_add_right _ _))
    rw [parse?, hcut]
    exact congrArg (Option.map _) (readTail?_source htail.attributes htail.gap hbound rest)

end StartTag

end ProxyFilter.Html
