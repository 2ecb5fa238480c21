import ProxyFilter.Proofs.Html.StartTag

/-!
# Where the parts of a tag stand

A tag keeps its octets. Who cuts them out of a buffer needs to know where they stand in it instead:
`StartTag.spans` says so, counted from the `<`. `TagSpans.WellPlaced` is what makes it safe to cut
at these places: the spans lie in the buffer before the last octet of the tag, which is its `>`, and
none of them begins before the one in front of it has ended. `StartTag.spans_wellPlaced` shows it
for every tag that a buffer begins with; it is carried by `InOrder`, which holds of one attribute
and is kept when attributes are put one behind the other. What is cut out there is what the tag is
made of (`StartTag.octets_spans`).
-/

namespace ProxyFilter.Html

/-! ## Spans -/

/-- The octets of a buffer from one place on, up to another. -/
structure Span where
  start : Nat
  stop : Nat
  deriving DecidableEq, Repr

/-- The spans lie between two places, each behind the one before it. -/
def InOrder (lo hi : Nat) : List Span → Prop
  | [] => lo ≤ hi
  | s :: rest => lo ≤ s.start ∧ s.start ≤ s.stop ∧ InOrder s.stop hi rest

section
variable {lo lo' mid hi : Nat} {spans rest : List Span}

/-- The spans may begin further behind. -/
theorem InOrder.weaken (hlo : lo' ≤ lo) (h : InOrder lo hi spans) : InOrder lo' hi spans := by
  cases spans with
  | nil => exact Nat.le_trans hlo h
  | cons s rest => exact ⟨Nat.le_trans hlo h.1, h.2⟩

/-- Spans up to a place and others from it on. -/
theorem InOrder.append (h : InOrder lo mid spans) (hrest : InOrder mid hi rest) :
    InOrder lo hi (spans ++ rest) := by
  induction spans generalizing lo with
  | nil => exact hrest.weaken h
  | cons s spans ih => exact ⟨h.1, h.2.1, ih h.2.2⟩

/-- Each span lies between the two places. -/
theorem InOrder.bounds (h : InOrder lo hi spans) :
    ∀ s ∈ spans, lo ≤ s.start ∧ s.start ≤ s.stop ∧ s.stop ≤ hi := by
  -- the places themselves have to be in order for the last span to end in time
  have hbounds : lo ≤ hi ∧ ∀ s ∈ spans, lo ≤ s.start ∧ s.start ≤ s.stop ∧ s.stop ≤ hi := by
    induction spans generalizing lo with
    | nil => exact ⟨h, by simp⟩
    | cons s spans ih =>
      obtain ⟨hstart, hstop, hrest⟩ := h
      obtain ⟨hle, hall⟩ := ih hrest
      refine ⟨by omega, List.forall_mem_cons.2 ⟨⟨hstart, hstop, hle⟩, ?_⟩⟩
      intro s' hs'
      obtain ⟨h1, h2, h3⟩ := hall s' hs'
      exact ⟨by omega, h2, h3⟩
  exact hbounds.2

/-- Each span ends before those behind it begin. -/
theorem InOrder.pairwise (h : InOrder lo hi spans) :
    spans.Pairwise fun s s' => s.stop ≤ s'.start := by
  induction spans generalizing lo with
  | nil => exact .nil
  | cons s spans ih =>
    obtain ⟨-, -, hrest⟩ := h
    exact .cons (fun s' hs' => (hrest.bounds s' hs').1) (ih hrest)

end

/-! ## The spans of a tag -/

/-- Where a value stands, with its quotes and without. -/
structure ValueSpans where
  outer : Span
  inner : Span
  quote : Option Quote
  deriving DecidableEq, Repr

/-- Where an attribute stands. -/
structure AttributeSpans where
  name : Span
  value : Option ValueSpans
  deriving DecidableEq, Repr

/-- The place behind an attribute. -/
def AttributeSpans.stop (a : AttributeSpans) : Nat :=
  match a.value with
  | some v => v.outer.stop
  | none => a.name.stop

/-- The name and the value of an attribute, if it has one, with its quotes. -/
def AttributeSpans.outers (a : AttributeSpans) : List Span :=
  a.name :: (a.value.map ValueSpans.outer).toList

/-- Where the attributes of a tag stand, and where it ends. -/
structure TailSpans where
  attributes : List AttributeSpans
  selfClosing : Bool
  /-- The number of octets up to the end of the tag. -/
  length : Nat
  deriving DecidableEq, Repr

/-- Where the parts of a tag stand. -/
structure TagSpans extends TailSpans where
  name : Span
  deriving DecidableEq, Repr

/-- The name of a tag, and the names and values of its attributes. -/
def TagSpans.outers (t : TagSpans) : List Span :=
  t.name :: t.attributes.flatMap AttributeSpans.outers

/-- The parts of a tag lie in the buffer, in order, and the tag ends in `>`. -/
structure TagSpans.WellPlaced (b : Bytes) (t : TagSpans) : Prop where
  bounds : ∀ s ∈ t.outers, s.start ≤ s.stop ∧ s.stop < t.length
  ordered : t.outers.Pairwise fun s s' => s.stop ≤ s'.start
  inner : ∀ a ∈ t.attributes, ∀ v ∈ a.value, v.outer.start ≤ v.inner.start ∧
    v.inner.start ≤ v.inner.stop ∧ v.inner.stop ≤ v.outer.stop
  length : t.length ≤ b.length
  gt : b[t.length - 1]? = some 62

/-- The spans of a value that begins at `start`. -/
def valueSpans (start : Nat) (quote : Option Quote) (inner : Bytes) : ValueSpans :=
  let mark := (quoteOctets quote).length
  { outer := ⟨start, start + mark + inner.length + mark⟩
    inner := ⟨start + mark, start + mark + inner.length⟩
    quote }

/-- The spans of an attribute, the gap before which begins at `start`. -/
def TagAttribute.spans (start : Nat) (a : TagAttribute) : AttributeSpans :=
  let name : Span := ⟨start + a.gap.length, start + a.gap.length + a.name.length⟩
  { name, value := a.value.map fun v => valueSpans (name.stop + v.lead.length) v.quote v.inner }

/-- The spans of attributes, the first of which begins at `start`. -/
def attributeSpans (start : Nat) : List TagAttribute → List AttributeSpans
  | [] => []
  | a :: rest => a.spans start :: attributeSpans (start + a.source.length) rest

/-- The spans of what follows the name of a tag, from `start` on. -/
def TagTail.spans (start : Nat) (t : TagTail) : TailSpans :=
  { attributes := attributeSpans start t.attributes
    selfClosing := t.selfClosing
    length := start + t.source.length }

/-- The spans of a tag, counted from its `<`. -/
def StartTag.spans (t : StartTag) : TagSpans :=
  { t.tail.spans (1 + t.name.length) with name := ⟨1, 1 + t.name.length⟩ }

/-! ## They are in order -/

/-- An attribute ends where its octets do. -/
theorem TagAttribute.stop_spans (start : Nat) (a : TagAttribute) :
    (a.spans start).stop = start + a.source.length := by
  cases hvalue : a.value with
  | none => simp [spans, AttributeSpans.stop, source, body, hvalue, Nat.add_assoc]
  | some v =>
    simp [spans, AttributeSpans.stop, source, body, hvalue, AttributeValue.outer, valueSpans,
      Nat.add_assoc]

/-- The spans of an attribute lie in its octets. -/
theorem TagAttribute.inOrder_spans (start : Nat) (a : TagAttribute) :
    InOrder start (start + a.source.length) (a.spans start).outers := by
  rw [← a.stop_spans start]
  cases hvalue : a.value with
  | none => simp [spans, AttributeSpans.stop, AttributeSpans.outers, InOrder, hvalue]
  | some v =>
    simp only [spans, AttributeSpans.stop, AttributeSpans.outers, InOrder, hvalue, valueSpans,
      Option.map_some, Option.toList_some]
    omega

/-- The spans of attributes lie in their octets, one attribute behind the other. -/
theorem inOrder_attributeSpans (start : Nat) (attributes : List TagAttribute) :
    InOrder start (start + (attributes.flatMap TagAttribute.source).length)
      ((attributeSpans start attributes).flatMap AttributeSpans.outers) := by
  induction attributes generalizing start with
  | nil => exact Nat.le_refl start
  | cons a rest ih =>
    have hrest := ih (start + a.source.length)
    rw [List.flatMap_cons, List.length_append, ← Nat.add_assoc]
    exact (a.inOrder_spans start).append hrest

/-- A value without its quotes lies within it. -/
theorem inner_le_of_mem_attributeSpans {start : Nat} {attributes : List TagAttribute}
    {a : AttributeSpans} (ha : a ∈ attributeSpans start attributes) : ∀ v ∈ a.value,
      v.outer.start ≤ v.inner.start ∧ v.inner.start ≤ v.inner.stop ∧
        v.inner.stop ≤ v.outer.stop := by
  induction attributes generalizing start with
  | nil => cases ha
  | cons first rest ih =>
    rcases List.mem_cons.1 ha with rfl | hrest
    · intro v hv
      obtain ⟨w, -, rfl⟩ := Option.map_eq_some_iff.1 hv
      simp only [valueSpans]
      omega
    · exact ih hrest

/-- **The parts of a tag are well placed** in every buffer that begins with it. -/
theorem StartTag.spans_wellPlaced {t : StartTag} {b : Bytes} (h : t.source <+: b) :
    t.spans.WellPlaced b := by
  obtain ⟨front, hfront⟩ : ∃ front, t.tail.ending = front ++ [62] := by
    cases hclosing : t.selfClosing with
    | false => exact ⟨t.gap, by simp [TagTail.ending, StartTag.tail, closer, hclosing]⟩
    | true => exact ⟨t.gap ++ [47], by simp [TagTail.ending, StartTag.tail, closer, hclosing]⟩
  have hlength : t.spans.length = t.source.length := by
    simp only [spans, TagTail.spans, source_eq, List.length_cons, List.length_append]
    omega
  have hsource : t.source =
      60 :: (t.name ++ t.attributes.flatMap TagAttribute.source ++ front) ++ [62] := by
    rw [source_eq, TagTail.source, hfront]
    simp [StartTag.tail]
  have horder : InOrder 1 (1 + t.name.length +
      (t.attributes.flatMap TagAttribute.source).length) t.spans.outers :=
    ⟨Nat.le_refl 1, Nat.le_add_right _ _, inOrder_attributeSpans _ _⟩
  have hlast : 1 + t.name.length + (t.attributes.flatMap TagAttribute.source).length <
      t.source.length := by
    rw [hsource]
    simp only [List.length_cons, List.length_append, List.length_nil]
    omega
  refine ⟨fun s hs => ?_, horder.pairwise, fun a ha => inner_le_of_mem_attributeSpans ha, ?_, ?_⟩
  · obtain ⟨-, hle, hstop⟩ := horder.bounds s hs
    exact ⟨hle, by omega⟩
  · rw [hlength]
    exact h.length_le
  · obtain ⟨rest, rfl⟩ := h
    rw [hlength, List.getElem?_append_left (by omega), ← List.getLast?_eq_getElem?, hsource,
      List.getLast?_concat]

/-! ## They hold the parts -/

/-- The octets of a buffer that a span takes up. -/
def Span.octets (b : Bytes) (s : Span) : Bytes := (b.drop s.start).take (s.stop - s.start)

/-- The octets of an attribute's name and of its value, with its quotes and without. -/
def AttributeSpans.octets (b : Bytes) (a : AttributeSpans) : Bytes × Option (Bytes × Bytes) :=
  (a.name.octets b, a.value.map fun v => (v.outer.octets b, v.inner.octets b))

/-- A span holds the octets that stand at it. -/
theorem Span.octets_append {start stop : Nat} {b u : Bytes} (front back : Bytes)
    (hb : b = front ++ (u ++ back)) (hstart : start = front.length)
    (hstop : stop = start + u.length) : Span.octets b ⟨start, stop⟩ = u := by
  subst hb hstart hstop
  simp [octets]

/-- The spans of an attribute hold its name and its value. -/
theorem TagAttribute.octets_spans (front back : Bytes) (a : TagAttribute) :
    (a.spans front.length).octets (front ++ (a.source ++ back)) =
      (a.name, a.value.map fun v => (v.outer, v.inner)) := by
  cases hvalue : a.value with
  | none =>
    simp only [AttributeSpans.octets, spans, hvalue, Option.map_none, Prod.mk.injEq, and_true]
    exact Span.octets_append (front ++ a.gap) back
      (by simp [source, body, hvalue]) (by simp) rfl
  | some v =>
    simp only [AttributeSpans.octets, spans, hvalue, Option.map_some, valueSpans, Prod.mk.injEq,
      Option.some.injEq]
    refine ⟨?_, ?_, ?_⟩
    · exact Span.octets_append (front ++ a.gap) (v.lead ++ v.outer ++ back)
        (by simp [source, body, hvalue]) (by simp) rfl
    · exact Span.octets_append (front ++ a.gap ++ a.name ++ v.lead) back
        (by simp [source, body, hvalue]) (by simp [Nat.add_assoc])
        (by simp [AttributeValue.outer, Nat.add_assoc])
    · exact Span.octets_append (front ++ a.gap ++ a.name ++ v.lead ++ quoteOctets v.quote)
        (quoteOctets v.quote ++ back)
        (by simp [source, body, hvalue, AttributeValue.outer]) (by simp [Nat.add_assoc]) rfl

/-- The spans of attributes hold their names and values. -/
theorem octets_attributeSpans (front back : Bytes) (attributes : List TagAttribute) :
    (attributeSpans front.length attributes).map
        (AttributeSpans.octets (front ++ (attributes.flatMap TagAttribute.source ++ back))) =
      attributes.map fun a => (a.name, a.value.map fun v => (v.outer, v.inner)) := by
  induction attributes generalizing front with
  | nil => rfl
  | cons a rest ih =>
    have hrest := ih (front ++ a.source)
    rw [List.length_append, List.append_assoc] at hrest
    rw [List.flatMap_cons, List.append_assoc, attributeSpans, List.map_cons, List.map_cons, hrest,
      a.octets_spans front]

/-- **The spans of a tag hold its parts** in every buffer that begins with it. -/
theorem StartTag.octets_spans {t : StartTag} {b : Bytes} (h : t.source <+: b) :
    t.spans.name.octets b = t.name ∧ t.spans.attributes.map (AttributeSpans.octets b) =
      t.attributes.map fun a => (a.name, a.value.map fun v => (v.outer, v.inner)) := by
  obtain ⟨rest, rfl⟩ := h
  have hsource : t.source ++ rest = (60 :: t.name) ++
      (t.attributes.flatMap TagAttribute.source ++ (t.tail.ending ++ rest)) := by
    rw [source_eq, TagTail.source]
    simp [StartTag.tail]
  refine ⟨Span.octets_append [60] _ hsource rfl rfl, ?_⟩
  have hattributes := octets_attributeSpans (60 :: t.name) (t.tail.ending ++ rest) t.attributes
  rw [List.length_cons, Nat.add_comm t.name.length 1] at hattributes
  rw [hsource]
  exact hattributes

end ProxyFilter.Html
