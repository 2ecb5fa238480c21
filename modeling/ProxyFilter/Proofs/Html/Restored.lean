import Mathlib.Data.List.Induction
import ProxyFilter.Proofs.Html.Faults
import ProxyFilter.Proofs.Html.ReplacedValues

/-!
# Rules that undo each other

Each rule sees the text that those before it left, so a value may change on the way and be what it
was in the end. `Editor.Restores` says that the rules together leave every value of a tag as it was.
Such a tag can be edited, but it need not come out in the octets it had: a value that changed on the
way is written anew, and a text without quotes may get some (`AttributeValue.replace_eq_self_iff`).
A value that no rule changes is never written anew. So the octets of the tag stay just where no
value that changes on the way is in want of quotes.
-/

namespace ProxyFilter.Html

/-! ## Texts on their way through rules -/

/-- The text that rules leave, one after the other. -/
def runRules (rules : List AttributeRule) (text : String) : String :=
  rules.foldl (fun text rule => (rule.transform text).getD text) text

/-- Some rule leaves another text than those before it did. -/
def ChangesOnTheWay (rules : List AttributeRule) (text : String) : Prop :=
  ∃ before rule, before ++ [rule] <+: rules ∧
    runRules (before ++ [rule]) text ≠ runRules before text

/-- The text after one more rule. -/
theorem runRules_append (rules : List AttributeRule) (rule : AttributeRule) (text : String) :
    runRules (rules ++ [rule]) text =
      (rule.transform (runRules rules text)).getD (runRules rules text) := by
  unfold runRules
  rw [List.foldl_append, List.foldl_cons, List.foldl_nil]

/-- No rule changes a text on its way through none. -/
theorem not_changesOnTheWay_nil (text : String) : ¬ ChangesOnTheWay [] text := by
  rintro ⟨before, rule, hprefix, -⟩
  exact absurd (List.prefix_nil.1 hprefix) (by simp)

/-- A text changes on its way through one more rule there, or before it. -/
theorem changesOnTheWay_append {rules : List AttributeRule} {rule : AttributeRule} {text : String} :
    ChangesOnTheWay (rules ++ [rule]) text ↔
      ChangesOnTheWay rules text ∨ runRules (rules ++ [rule]) text ≠ runRules rules text := by
  constructor
  · rintro ⟨before, last, hprefix, hchange⟩
    rcases List.prefix_concat_iff.1 hprefix with heq | hprefix
    · obtain ⟨rfl, hlast⟩ := List.append_inj' heq rfl
      cases hlast
      exact .inr hchange
    · exact .inl ⟨before, last, hprefix, hchange⟩
  · rintro (⟨before, last, hprefix, hchange⟩ | hchange)
    · exact ⟨before, last, hprefix.trans (List.prefix_append _ _), hchange⟩
    · exact ⟨rules, rule, List.prefix_rfl, hchange⟩

/-- The new text, if there is one, is what the rules leave, and there is one just where a rule
changes the text on the way. By induction on the rules, from the last one. -/
theorem revised?_spec (rules : List AttributeRule) (original : String) :
    (revised? rules original).getD original = runRules rules original ∧
      ((revised? rules original).isSome = true ↔ ChangesOnTheWay rules original) := by
  induction rules using List.reverseRecOn with
  | nil => exact ⟨rfl, by simp [revised?, not_changesOnTheWay_nil]⟩
  | append_singleton rules rule ih =>
    obtain ⟨hleft, hchanges⟩ := ih
    have hrevised : revised? (rules ++ [rule]) original =
        rule.revise original (revised? rules original) := by
      unfold revised?
      rw [List.foldl_append, List.foldl_cons, List.foldl_nil]
    rw [hrevised, changesOnTheWay_append, runRules_append, AttributeRule.revise, hleft, ← hchanges]
    cases rule.transform (runRules rules original) with
    | none => exact ⟨hleft, by simp⟩
    | some text =>
      by_cases hsame : text = runRules rules original
      · simp only [hsame, if_true, Option.getD_some, ne_eq, not_true_eq_false, or_false]
        exact ⟨hleft, trivial⟩
      · simp [hsame]

/-! ## Values written anew -/

/-- A value in no want of quotes: it has some, or its text needs none. -/
def AttributeValue.IsSettled (v : AttributeValue) : Prop :=
  v.quote = none → v.inner ≠ [] ∧ ∀ x ∈ v.inner, needsQuotes x = false

/-- Octets without a quote are left as they are by its escapes. -/
theorem Quote.escape_of_not_mem {q : Quote} {b : Bytes} (h : ∀ y ∈ b, (y == q.octet) = false) :
    q.escape b = b := by
  induction b with
  | nil => rfl
  | cons x b ih =>
    have hx : x ≠ q.octet := by
      have := h x List.mem_cons_self
      simpa using this
    have hrest := ih fun y hy => h y (List.mem_cons_of_mem _ hy)
    unfold escape at hrest ⊢
    rw [List.flatMap_cons, if_neg hx, hrest]
    rfl

/-- A value that its own text is put in the place of is the same just where it is in no want of
quotes. -/
theorem AttributeValue.replace_eq_self_iff {v : AttributeValue} {next : Bytes} {text : String}
    (hends : ValueEnds next v.quote v.inner) (htext : v.inner = Utf8.encode text) :
    v.replace text = v ↔ v.IsSettled := by
  obtain ⟨lead, quote, inner⟩ := v
  obtain rfl : inner = Utf8.encode text := htext
  cases quote with
  | some q =>
    have hescape : q.escape (Utf8.encode text) = Utf8.encode text := Quote.escape_of_not_mem hends
    simp [replace, IsSettled, hescape]
  | none =>
    have hsettled : (AttributeValue.mk lead none (Utf8.encode text)).IsSettled ↔
        ¬ ((Utf8.encode text).isEmpty || (Utf8.encode text).any needsQuotes) = true := by
      simp [IsSettled]
    have hreplace : (AttributeValue.mk lead none (Utf8.encode text)).replace text =
        if (Utf8.encode text).isEmpty || (Utf8.encode text).any needsQuotes then
          ⟨lead, some .double, Quote.double.escape (Utf8.encode text)⟩
        else ⟨lead, none, Utf8.encode text⟩ := rfl
    rw [hsettled, hreplace]
    split
    · next hneeds => exact iff_of_false (by simp) (not_not_intro hneeds)
    · next hplain => exact iff_of_true rfl hplain

/-! ## Tags -/

/-- Each of the attributes that fit together ends somewhere. -/
theorem AttributesFit.endsAt {ending : Bytes} {as : List TagAttribute} (h : AttributesFit ending as)
    {a : TagAttribute} (ha : a ∈ as) : ∃ next, a.EndsAt next := by
  induction as with
  | nil => cases ha
  | cons first rest ih =>
    rcases List.mem_cons.1 ha with rfl | ha
    · exact ⟨_, h.1⟩
    · exact ih h.2 ha

/-- Well-formed tags with the same octets are the same. -/
theorem StartTag.WellFormed.eq_of_source {t t' : StartTag} (h : t.WellFormed) (h' : t'.WellFormed)
    (hsource : t.source = t'.source) : t = t' := by
  have hread (u : StartTag) (hu : u.WellFormed) (heq : u.source = t.source) :
      StartTag.parse? (t.name ++ t.tail.source) = some (u, []) := by
    refine (StartTag.parse?_selfDelimiting _ _ _).2 ⟨hu, ?_⟩
    rw [heq, t.source_eq, List.append_nil]
    rfl
  have hsame := (hread t h rfl).symm.trans (hread t' h' hsource.symm)
  exact (Prod.mk.inj (Option.some.inj hsame)).1

namespace Editor
variable {r : Editor} {tag changed : StartTag}

/-- The rules together leave every value that they are for as it was. -/
def Restores (r : Editor) (tag : StartTag) : Prop :=
  ∀ place v, (tag.attributes[place]?).bind TagAttribute.value = some v →
    r.rulesAt tag place ≠ [] →
    ∃ text, v.inner = Utf8.encode text ∧ runRules (r.rulesAt tag place) text = text

/-- Values that change on the way are in no want of quotes. -/
def ChangesSettled (r : Editor) (tag : StartTag) : Prop :=
  ∀ place v text, (tag.attributes[place]?).bind TagAttribute.value = some v →
    v.inner = Utf8.encode text → ChangesOnTheWay (r.rulesAt tag place) text → v.IsSettled

/-- Every value that rules are for can be read where they leave it as it was. -/
theorem Restores.exists_editTag (h : r.Restores tag) : ∃ changed, r.editTag tag = .ok changed := by
  cases hedit : r.editTag tag with
  | ok changed => exact ⟨changed, rfl⟩
  | error e =>
    obtain ⟨rule, ⟨before, after, hrules, -, hcannot⟩, -⟩ := editTag_eq_error_iff.1 hedit
    obtain ⟨place, v, hat, hvalue, hinner⟩ := hcannot
    have hmem : rule ∈ r.rulesAt tag place := by
      refine List.mem_filter.2 ⟨?_, hat⟩
      rw [hrules]
      simp
    obtain ⟨text, htext, -⟩ := h place v hvalue (List.ne_nil_of_mem hmem)
    exact absurd htext (hinner text)

/-- An attribute of a tag whose values are restored has its own text put in the place of its value,
if that changes on the way, and is as it was otherwise. -/
theorem EditsAttribute.of_restores (h : r.Restores tag) {place : Nat} {a a' : TagAttribute}
    (ha : tag.attributes[place]? = some a) (hedits : r.EditsAttribute tag place a a') :
    (a' = a ∧ ∀ v text, a.value = some v → v.inner = Utf8.encode text →
      ¬ ChangesOnTheWay (r.rulesAt tag place) text) ∨
    ∃ v text, a.value = some v ∧ v.inner = Utf8.encode text ∧
      ChangesOnTheWay (r.rulesAt tag place) text ∧
        a' = { a with value := some (v.replace text) } := by
  cases hedits with
  | keep hnone =>
    refine .inl ⟨rfl, fun v text hvalue htext hchange => ?_⟩
    have hdecode : tag.textAt? place = some text := by
      rw [StartTag.textAt?, ha, Option.bind_some, hvalue, Option.bind_some]
      exact Utf8.decode?_eq_some_iff.2 htext
    rw [StartTag.newText?, hdecode, Option.bind_some] at hnone
    have hsome := (revised?_spec (r.rulesAt tag place) text).2.2 hchange
    rw [rulesAt, hnone] at hsome
    cases hsome
  | @replace v original text hvalue hdecode hrevised =>
    have hinner : v.inner = Utf8.encode original := Utf8.decode?_eq_some_iff.1 hdecode
    obtain ⟨hleft, hchanges⟩ := revised?_spec (r.rulesAt tag place) original
    rw [hrevised] at hleft hchanges
    have hchange : ChangesOnTheWay (r.rulesAt tag place) original := hchanges.1 rfl
    have hrules : r.rulesAt tag place ≠ [] := by
      intro hnil
      rw [hnil] at hchange
      exact not_changesOnTheWay_nil _ hchange
    obtain ⟨text', htext', hrun⟩ := h place v (by rw [ha, Option.bind_some, hvalue]) hrules
    obtain rfl : original = text' :=
      Option.some.inj (hdecode.symm.trans (Utf8.decode?_eq_some_iff.2 htext'))
    obtain rfl : text = original := hleft.trans hrun
    exact .inr ⟨v, text, hvalue, hinner, hchange, rfl⟩

/-- An attribute of a tag whose values are restored stays as it was just where its value, if it
changes on the way, is in no want of quotes. -/
theorem EditsAttribute.eq_iff_isSettled (hwf : tag.WellFormed) (h : r.Restores tag) {place : Nat}
    {a a' : TagAttribute} (ha : tag.attributes[place]? = some a)
    (hedits : r.EditsAttribute tag place a a') : a' = a ↔ ∀ v text, a.value = some v →
      v.inner = Utf8.encode text → ChangesOnTheWay (r.rulesAt tag place) text → v.IsSettled := by
  rcases hedits.of_restores h ha with ⟨rfl, hkeep⟩ | ⟨v, text, hvalue, htext, hchange, rfl⟩
  · refine ⟨fun _ v text hvalue htext hchange => ?_, fun _ => rfl⟩
    exact absurd hchange (hkeep v text hvalue htext)
  · obtain ⟨next, hat⟩ := hwf.tail.attributes.endsAt (List.mem_of_getElem? ha)
    have hends : ValueEnds next v.quote v.inner := by
      have hfits := hat.value
      rw [hvalue] at hfits
      exact hfits.2
    have hsame := AttributeValue.replace_eq_self_iff hends htext
    obtain ⟨gap, name, value⟩ := a
    obtain rfl : value = some v := hvalue
    constructor
    · intro heq v' text' hvalue' _ _
      obtain rfl : v = v' := Option.some.inj hvalue'
      exact hsame.1 (Option.some.inj (congrArg TagAttribute.value heq))
    · intro hsettled
      rw [hsame.2 (hsettled v text rfl htext hchange)]

/-- A tag whose values are restored is edited into itself just where those that change on the way
are in no want of quotes. -/
theorem EditsTag.eq_iff_changesSettled (hwf : tag.WellFormed) (h : r.Restores tag)
    (hedits : r.EditsTag tag changed) : changed = tag ↔ r.ChangesSettled tag := by
  constructor
  · rintro rfl place v text hplaced htext hchange
    obtain ⟨a, ha, hvalue⟩ := Option.bind_eq_some_iff.1 hplaced
    obtain ⟨a', ha', hat⟩ := hedits.values place a ha
    have hsame : a' = a := Option.some.inj (ha'.symm.trans ha)
    exact (hat.eq_iff_isSettled hwf h ha).1 hsame v text hvalue htext hchange
  · intro hsettled
    have hattributes : changed.attributes = tag.attributes := by
      refine List.ext_getElem hedits.length fun place hplace hplace' => ?_
      have ha := List.getElem?_eq_getElem hplace'
      obtain ⟨a', ha', hat⟩ := hedits.values place _ ha
      obtain rfl : changed.attributes[place] = a' :=
        Option.some.inj ((List.getElem?_eq_getElem hplace).symm.trans ha')
      refine (hat.eq_iff_isSettled hwf h ha).2 fun v text hvalue => hsettled place v text ?_
      rw [ha, Option.bind_some, hvalue]
    obtain ⟨name, attributes, gap, selfClosing⟩ := changed
    obtain ⟨name', attributes', gap', selfClosing'⟩ := tag
    obtain ⟨rfl, rfl, rfl, -, -⟩ := hedits
    cases hattributes
    rfl

/-- **Rules that together leave every value as it was leave the octets of the tag as they were, just
where no value that changes on the way is in want of quotes.** What is given out for the tag stands
between the text before it and the markup that is put in after it. -/
theorem stepTag_of_restores {b rest : Bytes} (hread : StartTag.parse? b = some (tag, rest))
    (h : r.Restores tag) : ∃ out,
      (∀ s text left, ∃ s', r.stepTag s text tag left =
        .advance (text ++ out ++ (injections tag r.injectRules s.injected).1) s' left) ∧
      (out = tag.source ↔ r.ChangesSettled tag) := by
  obtain ⟨changed, hedit⟩ := h.exists_editTag
  have hwf : tag.WellFormed := ((StartTag.parse?_selfDelimiting _ _ _).1 hread).1
  have hedits := edits_of_editTag hedit
  refine ⟨changed.source, fun s text left => ?_, ?_⟩
  · rw [stepTag, hedit]
    exact ⟨_, rfl⟩
  · rw [← hedits.eq_iff_changesSettled hwf h]
    constructor
    · exact (hedits.wellFormed hwf).eq_of_source hwf
    · rintro rfl
      rfl

/-- Two rules for the target of a link, of which the second puts back what the first takes away. -/
def undoingEditor : Editor :=
  (empty.editAttribute ⟨some "a", none⟩ "href" fun _ => some "/").editAttribute ⟨some "a", none⟩
    "href" fun _ => some "?k=v"

/-- A link to that target, in these quotes. -/
def queryLink (quote : Option Quote) : StartTag :=
  ⟨Utf8.encode "a", [⟨[32], Utf8.encode "href", some ⟨[61], quote, Utf8.encode "?k=v"⟩⟩], [], false⟩

/-- The rules for the target of the link leave it as it was. -/
theorem restores_queryLink (quote : Option Quote) : undoingEditor.Restores (queryLink quote) := by
  intro place v hvalue hrules
  cases place with
  | zero =>
    obtain rfl : (⟨[61], quote, Utf8.encode "?k=v"⟩ : AttributeValue) = v := Option.some.inj hvalue
    refine ⟨"?k=v", rfl, ?_⟩
    have hall : undoingEditor.rulesAt (queryLink quote) 0 = undoingEditor.attributeRules := rfl
    rw [hall]
    rfl
  | succ place => cases hvalue

/-- The octets `<a href='?k=v'>` stay as they are. -/
theorem stepTag_of_restores_quoted :
    StartTag.parse? (Utf8.encode "a href='?k=v'>") = some (queryLink (some .single), []) ∧
      undoingEditor.Restores (queryLink (some .single)) ∧
      undoingEditor.ChangesSettled (queryLink (some .single)) ∧
      ∀ s, ∃ s', undoingEditor.stepTag s [] (queryLink (some .single)) [] =
        .advance (Utf8.encode "<a href='?k=v'>") s' [] := by
  have hread : StartTag.parse? (Utf8.encode "a href='?k=v'>") =
      some (queryLink (some .single), []) := by decide +kernel
  have hrestores := restores_queryLink (some .single)
  have hsettled : undoingEditor.ChangesSettled (queryLink (some .single)) := by
    intro place v text hvalue _ _ hquote
    cases place with
    | zero =>
      cases hvalue
      cases hquote
    | succ place => cases hvalue
  obtain ⟨out, hstep, hsame⟩ := stepTag_of_restores hread hrestores
  refine ⟨hread, hrestores, hsettled, fun s => ?_⟩
  obtain ⟨s', hs'⟩ := hstep s [] []
  rw [hsame.2 hsettled] at hs'
  refine ⟨s', hs'.trans ?_⟩
  rfl

/-- The octets `<a href=?k=v>` come out as `<a href="?k=v">`, though the rules leave the target of
the link as it was. -/
theorem stepTag_unquoted :
    StartTag.parse? (Utf8.encode "a href=?k=v>") = some (queryLink none, []) ∧
      undoingEditor.Restores (queryLink none) ∧
      (undoingEditor.editTag (queryLink none)).toOption.map StartTag.source =
        some (Utf8.encode "<a href=\"?k=v\">") ∧
      Utf8.encode "<a href=\"?k=v\">" ≠ (queryLink none).source :=
  ⟨by decide +kernel, restores_queryLink none, by decide +kernel, by decide +kernel⟩

end Editor

end ProxyFilter.Html
