import ProxyFilter.Proofs.Html.StartTag
import ProxyFilter.Proofs.Html.TagEdits

/-!
# Replaced values stay inside their attributes

A rule may put any text in the place of a value. `AttributeValue.replace` quotes it, so that a
well-formed tag stays one (`Editor.EditsTag.wellFormed`), and what is read back from its source is
the tag that was written: no text closes its value, adds an attribute or ends the tag. A value
without quotes ends by what follows it, so the argument needs that what follows an attribute begins
as it did before (`BeginAlike`): its gap and its name, or the end of the tag, are not edited.
-/

namespace ProxyFilter.Html

/-! ## The octets of a replaced value -/

/-- A text in an attribute value: between quotes, only those of the same kind are escaped, and
without quotes it stands as it is. -/
def AttributeValue.Holds (v : AttributeValue) (text : String) : Prop :=
  v.inner = match v.quote with
    | some q => q.escape (Utf8.encode text)
    | none => Utf8.encode text

/-- No escaped octet is the quote. -/
theorem Quote.octet_notMem_escape (q : Quote) (b : Bytes) : q.octet ∉ q.escape b := by
  have hreference : q.octet ∉ q.reference := by cases q <;> decide
  intro hmem
  obtain ⟨x, -, hx⟩ := List.mem_flatMap.1 hmem
  split at hx
  · exact hreference hx
  · next hne => exact hne (List.mem_singleton.1 hx).symm

namespace AttributeValue
variable {v : AttributeValue} {text : String}

/-- The text stands in the value in whose place it is put, which keeps its quote if it has one. -/
theorem replace_holds (v : AttributeValue) (text : String) :
    (v.replace text).lead = v.lead ∧ (∀ q, v.quote = some q → (v.replace text).quote = some q) ∧
      (v.replace text).Holds text := by
  cases hq : v.quote with
  | some q => simp [replace, hq, Holds]
  | none =>
    simp only [replace, hq, Holds]
    split <;> simp

/-- An octet that needs no quotes neither ends a value nor begins a quoted one. -/
theorem plain_of_not_needsQuotes {x : UInt8} (hx : needsQuotes x = false) :
    endsBareValue x = false ∧ Byte.isSpace x = false ∧ Quote.ofOctet? x = none := by
  have hplain : Byte.isSpace x = false ∧ x ≠ 62 ∧ x ≠ 34 ∧ x ≠ 39 := by
    simp only [needsQuotes, Bool.or_eq_false_iff, beq_eq_false_iff_ne] at hx
    exact ⟨hx.1.1.1.1.1.1, hx.1.2, hx.1.1.1.1.1.2, hx.1.1.1.1.2⟩
  obtain ⟨hspace, hgt, hdouble, hsingle⟩ := hplain
  exact ⟨by simp [endsBareValue, hspace, hgt], hspace, by simp [Quote.ofOctet?, hdouble, hsingle]⟩

/-- A replaced value ends where the value ended. -/
theorem valueEnds_replace {next : Bytes} (h : ValueEnds next v.quote v.inner) (text : String) :
    ValueEnds next (v.replace text).quote (v.replace text).inner := by
  have hquoted (q : Quote) : ValueEnds next (some q) (q.escape (Utf8.encode text)) := by
    intro y hy
    rw [beq_eq_false_iff_ne]
    rintro rfl
    exact q.octet_notMem_escape _ hy
  cases hq : v.quote with
  | some q =>
    simp only [replace, hq]
    exact hquoted q
  | none =>
    rw [hq] at h
    simp only [replace, hq]
    split
    · exact hquoted .double
    · next hplain =>
      simp only [Bool.or_eq_true, List.isEmpty_iff, List.any_eq_true, not_or, not_exists, not_and,
        Bool.not_eq_true] at hplain
      obtain ⟨hne, hall⟩ := hplain
      obtain ⟨x, more, hx⟩ := List.exists_cons_of_ne_nil hne
      dsimp only
      refine ⟨fun y hy => (plain_of_not_needsQuotes (hall y hy)).1, h.2.1, ?_⟩
      obtain ⟨-, hspace, hquote⟩ := plain_of_not_needsQuotes (hall x (by simp [hx]))
      exact ⟨x, more ++ next, by rw [hx]; rfl, hspace, hquote⟩

end AttributeValue

/-! ## What follows a value -/

/-- Octets that have a beginning in common that is not blank. -/
def BeginAlike (b b' : Bytes) : Prop :=
  ∃ common u u', (∃ x ∈ common, Byte.isSpace x = false) ∧ b = common ++ u ∧ b' = common ++ u'

namespace BeginAlike
variable {b b' : Bytes}

/-- The first octet is the same. -/
theorem head {x : UInt8} {more : Bytes} (h : BeginAlike b b') (hb : b = x :: more) :
    ∃ more', b' = x :: more' := by
  obtain ⟨common, u, u', ⟨y, hy, -⟩, rfl, rfl⟩ := h
  cases common with
  | nil => cases hy
  | cons z common =>
    obtain ⟨rfl, -⟩ := List.cons.inj hb
    exact ⟨common ++ u', rfl⟩

/-- A value that ends at octets ends at those that begin like them. -/
theorem valueFits {v : Option AttributeValue} (h : BeginAlike b b') (hv : ValueFits b v) :
    ValueFits b' v := by
  obtain ⟨common, u, u', ⟨y, hy, hspace⟩, rfl, rfl⟩ := h
  obtain ⟨hcommon, hblanks, -⟩ := splitSpaces_spec common
  cases hcut : (splitSpaces common).2 with
  | cons x more => exact (hv.of_append (Prod.ext rfl hcut)).append u'
  | nil =>
    rw [hcut, List.append_nil] at hcommon
    rw [hcommon] at hy
    rw [hblanks y hy] at hspace
    cases hspace

end BeginAlike

/-! ## Attributes and tags -/

/-- An attribute before and after its value may have been replaced. -/
inductive TagAttribute.MayReplace (a : TagAttribute) : TagAttribute → Prop
  | keep : MayReplace a a
  | replace {v : AttributeValue} (text : String) : a.value = some v →
      MayReplace a { a with value := some (v.replace text) }

namespace TagAttribute.MayReplace
variable {a a' : TagAttribute} {next next' : Bytes}

/-- The gap and the name stay. -/
theorem gap_name (h : a.MayReplace a') : a'.gap = a.gap ∧ a'.name = a.name := by
  cases h <;> exact ⟨rfl, rfl⟩

/-- The attribute ends where it did. -/
theorem endsAt (h : a.MayReplace a') (ha : a.EndsAt next) : a'.EndsAt next := by
  cases h with
  | keep => exact ha
  | @replace v text hv =>
    have hfits := ha.value
    rw [hv] at hfits
    have hlead := (v.replace_holds text).1
    exact ⟨ha.gap, ha.name, hlead ▸ hfits.1, AttributeValue.valueEnds_replace hfits.2 text⟩

/-- Octets that begin with the attribute begin with its gap and its name. -/
theorem beginAlike (h : a.MayReplace a') (hname : IsAttributeName a.name) (next next' : Bytes) :
    BeginAlike (a.source ++ next) (a'.source ++ next') := by
  obtain ⟨x, more, hx, hbegins⟩ := hname.head
  have hspace : Byte.isSpace x = false := by
    simp only [beginsAttributeName, isGapOctet, Bool.and_eq_true, Bool.not_eq_true',
      Bool.or_eq_false_iff] at hbegins
    exact hbegins.1.1
  refine ⟨a.gap ++ a.name, a.afterName next, a'.afterName next', ⟨x, by simp [hx], hspace⟩, ?_, ?_⟩
  · rw [a.source_append, List.append_assoc]
  · rw [a'.source_append, h.gap_name.1, h.gap_name.2, List.append_assoc]

end TagAttribute.MayReplace

/-- Attributes that fit together still do when values of theirs are replaced, and begin as they
did. By induction on the attributes, from the last one. -/
theorem AttributesFit.mayReplace {ending : Bytes} {as as' : List TagAttribute}
    (hending : ∃ x ∈ ending, Byte.isSpace x = false)
    (h : List.Forall₂ TagAttribute.MayReplace as as') (hfit : AttributesFit ending as) :
    AttributesFit ending as' ∧ BeginAlike (as.flatMap TagAttribute.source ++ ending)
      (as'.flatMap TagAttribute.source ++ ending) := by
  induction h with
  | nil => exact ⟨trivial, ending, [], [], hending, by simp, by simp⟩
  | @cons a a' as as' ha _ ih =>
    obtain ⟨hfirst, hrest⟩ := hfit
    obtain ⟨hrest', halike⟩ := ih hrest
    have hfirst' := ha.endsAt hfirst
    refine ⟨⟨⟨hfirst'.gap, hfirst'.name, halike.valueFits hfirst'.value⟩, hrest'⟩, ?_⟩
    rw [List.flatMap_cons, List.flatMap_cons, List.append_assoc, List.append_assoc]
    exact ha.beginAlike hfirst.name _ _

namespace Editor
variable {r : Editor} {tag changed : StartTag}

/-- The attributes of an edited tag are those of the tag, one by one, with values replaced. -/
theorem EditsTag.mayReplace (h : r.EditsTag tag changed) :
    List.Forall₂ TagAttribute.MayReplace tag.attributes changed.attributes := by
  refine List.forall₂_iff_get.2 ⟨h.length.symm, fun place hplace hplace' => ?_⟩
  obtain ⟨a', ha', hedits⟩ := h.values place _ (List.getElem?_eq_getElem hplace)
  obtain rfl : changed.attributes[place] = a' :=
    Option.some.inj ((List.getElem?_eq_getElem hplace').symm.trans ha')
  generalize hchanged : changed.attributes[place] = a' at hedits
  rw [List.get_eq_getElem, List.get_eq_getElem, hchanged]
  cases hedits with
  | keep => exact .keep
  | replace hvalue _ _ => exact .replace _ hvalue

/-- **An edited tag is well-formed**, whatever texts the rules put in. -/
theorem EditsTag.wellFormed (h : r.EditsTag tag changed) (htag : tag.WellFormed) :
    changed.WellFormed := by
  have hgt : (62 : UInt8) ∈ tag.tail.ending := by
    cases hs : tag.selfClosing <;> simp [TagTail.ending, closer, StartTag.tail, hs]
  obtain ⟨hfit, halike⟩ :=
    AttributesFit.mayReplace ⟨62, hgt, by decide⟩ h.mayReplace htag.tail.attributes
  have hending : changed.tail.ending = tag.tail.ending := by
    simp only [TagTail.ending, StartTag.tail, h.gap, h.selfClosing]
  rw [← hending] at hfit
  obtain ⟨x, more, hmore, hx⟩ := htag.boundary
  obtain ⟨more', hmore'⟩ := halike.head hmore
  rw [← hending] at hmore'
  refine ⟨h.name ▸ htag.name, ⟨x, more', hmore', hx⟩, hfit, ?_⟩
  have hgap := htag.tail.gap
  simp only [StartTag.tail] at hgap ⊢
  rwa [h.gap, h.selfClosing]

end Editor

/-- An attribute as it is read back: without a new text it is what it was, and with one only its
value is another, which holds the text in the quotes it had, or in quotes of its own. -/
inductive TagAttribute.Becomes (a : TagAttribute) : Option String → TagAttribute → Prop
  | same : Becomes a none a
  | value {v v' : AttributeValue} {text : String} : a.value = some v → v'.lead = v.lead →
      (∀ q, v.quote = some q → v'.quote = some q) → v'.Holds text →
      Becomes a (some text) { a with value := some v' }

namespace Editor
variable {r : Editor} {tag changed : StartTag}

/-- Every attribute of an edited tag has become what its new text makes of it. -/
theorem EditsTag.becomes (h : r.EditsTag tag changed) {place : Nat} {a : TagAttribute}
    (ha : tag.attributes[place]? = some a) : ∃ a', changed.attributes[place]? = some a' ∧
      a.Becomes (tag.newText? r.attributeRules place) a' := by
  obtain ⟨a', ha', hedits⟩ := h.values place a ha
  refine ⟨a', ha', ?_⟩
  cases hedits with
  | keep hnew => exact hnew ▸ .same
  | @replace v original text hvalue hdecode hrevised =>
    have hnew : tag.newText? r.attributeRules place = some text := by
      simp only [StartTag.newText?, StartTag.textAt?, ha, hvalue, hdecode, Option.bind_some]
      exact hrevised
    obtain ⟨hlead, hquote, hholds⟩ := v.replace_holds text
    exact hnew ▸ .value hvalue hlead hquote hholds

/-- **An edited tag is read back as the one start tag that was written**: it ends where its source
ends, whatever follows, its name, its gap and its end are those of the tag, and so are its
attributes, in order, but for the values with a new text, and these hold that text. -/
theorem parse?_of_editTag {b rest : Bytes} (h : StartTag.parse? b = some (tag, rest))
    (hedit : r.editTag tag = .ok changed) :
    (∃ written, changed.source = 60 :: written ∧
      ∀ more, StartTag.parse? (written ++ more) = some (changed, more)) ∧
    changed.name = tag.name ∧ changed.gap = tag.gap ∧ changed.selfClosing = tag.selfClosing ∧
    changed.attributes.length = tag.attributes.length ∧
    ∀ (place : Nat) (a : TagAttribute), tag.attributes[place]? = some a →
      ∃ a', changed.attributes[place]? = some a' ∧
      a.Becomes (tag.newText? r.attributeRules place) a' := by
  have htag := edits_of_editTag hedit
  have hwf := htag.wellFormed ((StartTag.parse?_selfDelimiting _ _ _).1 h).1
  refine ⟨⟨_, changed.source_eq, fun more => ?_⟩, htag.name, htag.gap, htag.selfClosing,
    htag.length, fun place a => htag.becomes⟩
  refine (StartTag.parse?_selfDelimiting _ _ _).2 ⟨hwf, ?_⟩
  rw [changed.source_eq]
  rfl

/-- Every link goes to a text that would end its value and its tag. -/
def escapeEditor : Editor :=
  empty.editAttribute ⟨some "a", none⟩ "href" fun _ => some "/\"><i>"

/-- A link without quotes around its target, and nothing after it. -/
def bareLink : StartTag :=
  ⟨Utf8.encode "a", [⟨[32], Utf8.encode "href", some ⟨[61], none, Utf8.encode "x"⟩⟩], [], false⟩

/-- The link to that text. -/
def escapedLink : StartTag :=
  ⟨Utf8.encode "a", [⟨[32], Utf8.encode "href",
    some ⟨[61], some .double, Utf8.encode "/&quot;><i>"⟩⟩], [], false⟩

/-- The octets `<a href="/&quot;><i>">` are one tag. -/
theorem parse?_of_editTag_link :
    StartTag.parse? (Utf8.encode "a href=x>") = some (bareLink, []) ∧
      escapeEditor.editTag bareLink = .ok escapedLink ∧
      ((∃ written, escapedLink.source = 60 :: written ∧
        ∀ more, StartTag.parse? (written ++ more) = some (escapedLink, more)) ∧
      escapedLink.name = bareLink.name ∧ escapedLink.gap = bareLink.gap ∧
      escapedLink.selfClosing = bareLink.selfClosing ∧
      escapedLink.attributes.length = bareLink.attributes.length ∧
      ∀ (place : Nat) (a : TagAttribute), bareLink.attributes[place]? = some a →
        ∃ a', escapedLink.attributes[place]? = some a' ∧
          a.Becomes (bareLink.newText? escapeEditor.attributeRules place) a') :=
  have h : StartTag.parse? (Utf8.encode "a href=x>") = some (bareLink, []) := by decide +kernel
  have hedit : escapeEditor.editTag bareLink = .ok escapedLink := by decide +kernel
  ⟨h, hedit, parse?_of_editTag h hedit⟩

end Editor

end ProxyFilter.Html
