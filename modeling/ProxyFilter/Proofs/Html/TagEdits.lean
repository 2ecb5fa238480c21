import ProxyFilter.Html.Editor
import ProxyFilter.Proofs.Failure

/-!
# What rules make of a tag

Rules for attributes are applied in order, and each one sees the text that those before it left.
Seen from one value, only the rules at its place matter (`Editor.rulesAt`): they take its text from
one to the next, and `revised?` is the outcome. `Editor.EditsTag` says of a whole tag that every
value has become what its rules make of it and that all else is as it was; this is what
`Editor.editTag` does (`Editor.edits_of_editTag`).
-/

namespace ProxyFilter.Html

/-! ## Rules at a place -/

/-- The rule is for the value of the attribute at a place of the tag. -/
def AttributeRule.isAt (tag : StartTag) (place : Nat) (rule : AttributeRule) : Bool :=
  rule.selector.isFor tag && tag.find? rule.target == some place

/-- The text that a value has now, `changed` if a rule has changed it, after one more rule. -/
def AttributeRule.revise (original : String) (changed : Option String) (rule : AttributeRule) :
    Option String :=
  match rule.transform (changed.getD original) with
  | none => changed
  | some text => if text = changed.getD original then changed else some text

/-- The text that rules, applied in order, leave in place of a text, if one of them changes it. -/
def revised? (rules : List AttributeRule) (original : String) : Option String :=
  rules.foldl (AttributeRule.revise original) none

/-- The text of the value at a place, if there is one and it is text. -/
def StartTag.textAt? (tag : StartTag) (place : Nat) : Option String :=
  ((tag.attributes[place]?).bind TagAttribute.value).bind fun v => Utf8.decode? v.inner

/-- The new text for the value at a place, if rules change it. -/
def StartTag.newText? (tag : StartTag) (rules : List AttributeRule) (place : Nat) :
    Option String :=
  (tag.textAt? place).bind (revised? (rules.filter (AttributeRule.isAt tag place)))

/-- Only a rule that gives a text another one changes it. -/
theorem exists_change_of_revised? {rules : List AttributeRule} {original text : String}
    (h : revised? rules original = some text) :
    ∃ rule ∈ rules, ∃ before after, rule.transform before = some after ∧ after ≠ before := by
  by_contra hnone
  have hkeep (rule) (hrule : rule ∈ rules) (changed : Option String) :
      rule.revise original changed = changed := by
    simp only [AttributeRule.revise]
    split
    · rfl
    · next text' htext' =>
      split
      · rfl
      · next hne => exact absurd ⟨rule, hrule, _, text', htext', hne⟩ hnone
  have hfold : revised? rules original = none := by
    clear h hnone
    unfold revised?
    induction rules with
    | nil => rfl
    | cons rule rules ih =>
      rw [List.foldl_cons, hkeep rule List.mem_cons_self]
      exact ih fun rule' hrule' => hkeep rule' (List.mem_cons_of_mem _ hrule')
  rw [hfold] at h
  cases h

/-- No rules make no new text. -/
@[simp] theorem StartTag.newText?_nil (tag : StartTag) (place : Nat) :
    tag.newText? [] place = none := by
  cases htext : tag.textAt? place <;> simp [newText?, revised?, htext]

/-- One more rule at another place leaves the new text of a value as it is. -/
theorem StartTag.newText?_append_of_not {tag : StartTag} {rules : List AttributeRule}
    {rule : AttributeRule} {place : Nat} (h : rule.isAt tag place = false) :
    tag.newText? (rules ++ [rule]) place = tag.newText? rules place := by
  simp [newText?, List.filter_append, h]

/-- One more rule at the place of a value revises its text. -/
theorem StartTag.newText?_append {tag : StartTag} {rules : List AttributeRule}
    {rule : AttributeRule} {place : Nat} (h : rule.isAt tag place = true) :
    tag.newText? (rules ++ [rule]) place =
      (tag.textAt? place).bind fun original =>
        rule.revise original (tag.newText? rules place) := by
  cases htext : tag.textAt? place with
  | none => simp [newText?, htext]
  | some original => simp [newText?, htext, List.filter_append, h, revised?]

/-! ## Edits -/

/-- The edits hold the new texts that rules have made, place by place. -/
def Edits.Reflect (tag : StartTag) (rules : List AttributeRule) (edits : Edits) : Prop :=
  ∀ place, edits.lookup place = tag.newText? rules place

/-- A new edit of a place takes the place of the former one. -/
theorem Edits.lookup_replace (edits : Edits) (place place' : Nat) (text : String) :
    List.lookup place' ((place, text) :: edits.filter fun e => e.1 != place) =
      if place' = place then some text else edits.lookup place' := by
  by_cases hplace : place' = place
  · simp [hplace]
  · have hne : (place' == place) = false := by simpa using hplace
    simp only [List.lookup_cons, hne, if_neg hplace]
    induction edits with
    | nil => rfl
    | cons e edits ih =>
      obtain ⟨key, value⟩ := e
      by_cases hkey : key = place
      · subst hkey
        simp [ih, List.lookup_cons, hne]
      · simp [hkey, List.lookup_cons, ih]

/-- A rule is at one place at most. -/
theorem AttributeRule.isAt_iff {tag : StartTag} {rule : AttributeRule} {place : Nat} :
    rule.isAt tag place = true ↔
      rule.selector.isFor tag = true ∧ tag.find? rule.target = some place := by
  simp [isAt]

/-- What a rule does with the edits: nothing where it is for no value or leaves the text of its
value as it is, and otherwise it edits that value. -/
theorem AttributeRule.edit_cases {tag : StartTag} {rule : AttributeRule} {edits edits' : Edits}
    (h : rule.edit tag edits = .ok edits') :
    (edits' = edits ∧ ∀ place, rule.isAt tag place = true →
      (tag.attributes[place]?).bind TagAttribute.value = none) ∨
    ∃ place v current, rule.isAt tag place = true ∧
      (tag.attributes[place]?).bind TagAttribute.value = some v ∧
      currentText? edits place v = some current ∧
      (edits' = edits ∧ (∀ text, rule.transform current = some text → text = current) ∨
        ∃ text, rule.transform current = some text ∧ text ≠ current ∧
          edits' = (place, text) :: edits.filter fun e => e.1 != place) := by
  simp only [edit] at h
  split at h
  · next hfor =>
    cases h
    refine .inl ⟨rfl, fun place hat => ?_⟩
    simp [(isAt_iff.1 hat).1] at hfor
  next hfor =>
  have hfor : rule.selector.isFor tag = true := by simpa using hfor
  split at h
  · next hfind =>
    cases h
    refine .inl ⟨rfl, fun place hat => ?_⟩
    simp [(isAt_iff.1 hat).2] at hfind
  next place hfind =>
  split at h
  · next hvalue =>
    cases h
    refine .inl ⟨rfl, fun place' hat => ?_⟩
    cases hfind.symm.trans (isAt_iff.1 hat).2
    exact hvalue
  next v hvalue =>
  split at h
  · cases h
  next current hcurrent =>
  refine .inr ⟨place, v, current, isAt_iff.2 ⟨hfor, hfind⟩, hvalue, hcurrent, ?_⟩
  split at h
  · next hnone =>
    cases h
    exact .inl ⟨rfl, by simp [hnone]⟩
  next text htext =>
  split at h
  · next heq =>
    cases h
    refine .inl ⟨rfl, fun text' htext' => ?_⟩
    cases htext.symm.trans htext'
    exact heq
  · next hne =>
    cases h
    exact .inr ⟨text, htext, hne, rfl⟩

/-- The text that a rule sees is the one that the rules before it left. -/
theorem Edits.Reflect.currentText? {tag : StartTag} {rules : List AttributeRule} {edits : Edits}
    (h : edits.Reflect tag rules) {place : Nat} {v : AttributeValue} {current : String}
    (hvalue : (tag.attributes[place]?).bind TagAttribute.value = some v)
    (hcurrent : Html.currentText? edits place v = some current) :
    ∃ original, tag.textAt? place = some original ∧
      current = (tag.newText? rules place).getD original := by
  have htext : tag.textAt? place = Utf8.decode? v.inner := by simp [StartTag.textAt?, hvalue]
  have hlookup := h place
  cases hdecode : Utf8.decode? v.inner with
  | none =>
    have hnew : tag.newText? rules place = none := by simp [StartTag.newText?, htext, hdecode]
    simp [Html.currentText?, hlookup, hnew, hdecode] at hcurrent
  | some original =>
    refine ⟨original, htext.trans hdecode, ?_⟩
    cases hnew : tag.newText? rules place <;>
      simp_all [Html.currentText?]

/-- One more rule keeps the edits those that the rules have made. -/
theorem AttributeRule.edit_reflect {tag : StartTag} {rules : List AttributeRule}
    {rule : AttributeRule} {edits edits' : Edits} (h : edits.Reflect tag rules)
    (hedit : rule.edit tag edits = .ok edits') : edits'.Reflect tag (rules ++ [rule]) := by
  intro place
  rcases edit_cases hedit with ⟨rfl, hnone⟩ | ⟨place', v, current, hat, hvalue, hcurrent, hedits⟩
  · rw [h place]
    cases hat : rule.isAt tag place with
    | false => exact (StartTag.newText?_append_of_not hat).symm
    | true =>
      have htext : tag.textAt? place = none := by simp [StartTag.textAt?, hnone place hat]
      simp [StartTag.newText?, htext]
  · obtain ⟨original, htext, rfl⟩ := h.currentText? hvalue hcurrent
    by_cases hplace : place = place'
    · subst hplace
      rw [StartTag.newText?_append hat, htext, Option.bind_some, revise]
      rcases hedits with ⟨rfl, hkeep⟩ | ⟨text, hnew, hne, rfl⟩
      · rw [h place]
        cases hnew : rule.transform ((tag.newText? rules place).getD original) with
        | none => rfl
        | some text => simp [hkeep text hnew]
      · rw [Edits.lookup_replace, if_pos rfl, hnew]
        simp [hne]
    · have hat' : rule.isAt tag place = false := by
        rw [Bool.eq_false_iff]
        intro hat'
        exact hplace (Option.some.inj ((isAt_iff.1 hat').2.symm.trans (isAt_iff.1 hat).2))
      rw [StartTag.newText?_append_of_not hat', ← h place]
      rcases hedits with ⟨rfl, -⟩ | ⟨text, -, -, rfl⟩
      · rfl
      · rw [Edits.lookup_replace, if_neg hplace]

/-- The edits of all rules are those that the rules have made. By induction on the rules. -/
theorem edits_reflect {tag : StartTag} {done rules : List AttributeRule} {edits edits' : Edits}
    (h : edits.Reflect tag done)
    (hedit : rules.foldlM (AttributeRule.edit tag) edits = .ok edits') :
    edits'.Reflect tag (done ++ rules) := by
  induction rules generalizing done edits with
  | nil =>
    cases hedit
    rwa [List.append_nil]
  | cons rule rules ih =>
    rw [List.foldlM_cons] at hedit
    obtain ⟨edits₁, hfirst, hrest⟩ := Except.bind_eq_ok hedit
    have := ih (rule.edit_reflect h hfirst) hrest
    rwa [List.append_assoc, List.singleton_append] at this

/-! ## Tags -/

namespace Editor

/-- The rules for the value of the attribute at a place, in order. -/
def rulesAt (r : Editor) (tag : StartTag) (place : Nat) : List AttributeRule :=
  r.attributeRules.filter (AttributeRule.isAt tag place)

/-- An attribute before and after the rules for its value: it is as it was where they change
nothing, and otherwise the text that they leave stands between its quotes. -/
inductive EditsAttribute (r : Editor) (tag : StartTag) (place : Nat) (a : TagAttribute) :
    TagAttribute → Prop
  | keep : tag.newText? r.attributeRules place = none → EditsAttribute r tag place a a
  | replace {v : AttributeValue} {original text : String} : a.value = some v →
      Utf8.decode? v.inner = some original → revised? (r.rulesAt tag place) original = some text →
      EditsAttribute r tag place a { a with value := some (v.replace text) }

/-- A tag before and after the rules: only values that rules change are others. -/
structure EditsTag (r : Editor) (tag changed : StartTag) : Prop where
  name : changed.name = tag.name
  gap : changed.gap = tag.gap
  selfClosing : changed.selfClosing = tag.selfClosing
  length : changed.attributes.length = tag.attributes.length
  values : ∀ place a, tag.attributes[place]? = some a →
    ∃ a', changed.attributes[place]? = some a' ∧ r.EditsAttribute tag place a a'

/-- What rules make of an attribute is determined. -/
theorem EditsAttribute.unique {r : Editor} {tag : StartTag} {place : Nat} {a a₁ a₂ : TagAttribute}
    (hplace : tag.attributes[place]? = some a) (h₁ : r.EditsAttribute tag place a a₁)
    (h₂ : r.EditsAttribute tag place a a₂) : a₁ = a₂ := by
  have hnew {v : AttributeValue} {original text : String} (hvalue : a.value = some v)
      (hdecode : Utf8.decode? v.inner = some original)
      (hrevised : revised? (r.rulesAt tag place) original = some text) :
      tag.newText? r.attributeRules place = some text := by
    have htext : tag.textAt? place = some original := by
      simp [StartTag.textAt?, hplace, hvalue, hdecode]
    rw [StartTag.newText?, htext]
    exact hrevised
  cases h₁ with
  | keep hnone =>
    cases h₂ with
    | keep => rfl
    | replace hvalue hdecode hrevised => simp [hnew hvalue hdecode hrevised] at hnone
  | replace hvalue hdecode hrevised =>
    have htext := hnew hvalue hdecode hrevised
    cases h₂ with
    | keep hnone => simp [htext] at hnone
    | replace hvalue' hdecode' hrevised' =>
      cases htext.symm.trans (hnew hvalue' hdecode' hrevised')
      cases hvalue.symm.trans hvalue'
      rfl

/-- What rules make of a tag is determined. -/
theorem EditsTag.unique {r : Editor} {tag changed₁ changed₂ : StartTag}
    (h₁ : r.EditsTag tag changed₁) (h₂ : r.EditsTag tag changed₂) : changed₁ = changed₂ := by
  have hattributes : changed₁.attributes = changed₂.attributes := by
    refine List.ext_getElem? fun place => ?_
    cases ha : tag.attributes[place]? with
    | none =>
      rw [List.getElem?_eq_none_iff] at ha
      rw [List.getElem?_eq_none (h₁.length ▸ ha), List.getElem?_eq_none (h₂.length ▸ ha)]
    | some a =>
      obtain ⟨a₁, ha₁, hedits₁⟩ := h₁.values place a ha
      obtain ⟨a₂, ha₂, hedits₂⟩ := h₂.values place a ha
      rw [ha₁, ha₂, hedits₁.unique ha hedits₂]
  obtain ⟨name₁, attributes₁, gap₁, selfClosing₁⟩ := changed₁
  obtain ⟨name₂, attributes₂, gap₂, selfClosing₂⟩ := changed₂
  obtain ⟨rfl, rfl, rfl, -, -⟩ := h₁
  obtain ⟨rfl, rfl, rfl, -, -⟩ := h₂
  cases hattributes
  rfl

/-- **The rules make of a tag what they make of each value.** -/
theorem edits_of_editTag {r : Editor} {tag changed : StartTag} (h : r.editTag tag = .ok changed) :
    r.EditsTag tag changed := by
  obtain ⟨edits, hfold, rfl⟩ := Except.map_eq_ok h
  have hstart : Edits.Reflect tag [] [] := fun place => (tag.newText?_nil place).symm
  have hreflect := edits_reflect hstart hfold
  rw [List.nil_append] at hreflect
  refine ⟨rfl, rfl, rfl, by simp [StartTag.withEdits], fun place a ha => ?_⟩
  cases hnew : tag.newText? r.attributeRules place with
  | none =>
    have hlookup : edits.lookup place = none := (hreflect place).trans hnew
    refine ⟨a, ?_, .keep hnew⟩
    simp [StartTag.withEdits, List.getElem?_mapIdx, ha, hlookup]
  | some text =>
    have hlookup : edits.lookup place = some text := (hreflect place).trans hnew
    obtain ⟨original, htext, hrevised⟩ := Option.bind_eq_some_iff.1 hnew
    obtain ⟨v, hvalue, hdecode⟩ := Option.bind_eq_some_iff.1 htext
    rw [ha, Option.bind_some] at hvalue
    refine ⟨_, ?_, .replace hvalue hdecode hrevised⟩
    simp [StartTag.withEdits, List.getElem?_mapIdx, ha, hlookup, TagAttribute.replace, hvalue]

end Editor

end ProxyFilter.Html
