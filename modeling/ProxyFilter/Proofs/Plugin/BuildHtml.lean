import ProxyFilter.Proofs.Plugin.Build

/-!
# Editors that are built

The section for markup is built up from an editor without rules, part by part. What every part adds
is said by `Html.Editor.Extends`, with the rules in order, and the parts are put together by
`Html.Editor.Extends.trans`. So an editor has one rule for each thing that is configured, made of
its settings, and no other rule (`HtmlSettings.IsMetBy`, `buildHtml_eq_ok`). It is left out only
where nothing is configured (`HtmlSettings.IsMetBy.isEmpty_iff`).
-/

namespace ProxyFilter

/-! ## Rules and their settings -/

/-- The rule puts the script of a challenge at the beginning of the head. -/
def RecaptchaSettings.IsMetBy (s : RecaptchaSettings) (rule : Html.InjectRule) : Prop :=
  ∃ key, s.resolve = .ok key ∧ rule = ⟨headSelector, Utf8.encode key.scriptTag⟩

/-- The rule puts the markup after the tags that it is configured for. -/
def InjectSettings.IsMetBy (s : InjectSettings) (rule : Html.InjectRule) : Prop :=
  Html.Selector.parse s.selector = .ok rule.selector ∧ rule.markup = Utf8.encode s.markup

/-- The rule changes links by the domain map that is configured. -/
def LinkSettings.IsMetBy (s : LinkSettings) (rule : Html.AttributeRule) : Prop :=
  ∃ map, DomainMap.parse s.mappings = .ok map ∧
    Html.Selector.parse s.selector = .ok rule.selector ∧ rule.target = Ascii.lower s.target ∧
    rule.transform = LinkDomain.replace? map

/-- The editor has a rule for each thing that is configured, in order, and no other rule. -/
structure HtmlSettings.IsMetBy (s : HtmlSettings) (r : Html.Editor) : Prop where
  inject : ∃ scripts injected, r.injectRules = scripts ++ injected ∧
    List.Forall₂ RecaptchaSettings.IsMetBy s.recaptcha.toList scripts ∧
    List.Forall₂ InjectSettings.IsMetBy s.inject injected
  links : List.Forall₂ LinkSettings.IsMetBy s.links.toList r.attributeRules
  limit : r.limit = s.maxTagBytes.getD Html.defaultLimit
  minLimit : Html.minLimit ≤ r.limit

/-! ## What the parts add -/

/-- The editor `r'` is `r` with more rules after its own. -/
structure Html.Editor.Extends (r r' : Html.Editor) (inject : List Html.InjectRule)
    (change : List Html.AttributeRule) : Prop where
  injectRules : r'.injectRules = r.injectRules ++ inject
  attributeRules : r'.attributeRules = r.attributeRules ++ change
  limit : r'.limit = r.limit

namespace Html.Editor
variable {r r' r'' : Editor} {inject inject' : List InjectRule}
  {change change' : List AttributeRule}

/-- An editor is itself with no more rules. -/
theorem Extends.refl (r : Editor) : r.Extends r [] [] where
  injectRules := (List.append_nil _).symm
  attributeRules := (List.append_nil _).symm
  limit := rfl

/-- More rules are added after those that were. -/
theorem Extends.trans (h : r.Extends r' inject change) (h' : r'.Extends r'' inject' change') :
    r.Extends r'' (inject ++ inject') (change ++ change') where
  injectRules := by rw [h'.injectRules, h.injectRules, List.append_assoc]
  attributeRules := by rw [h'.attributeRules, h.attributeRules, List.append_assoc]
  limit := h'.limit.trans h.limit

/-- One more rule for markup. -/
theorem extends_injectAfter (r : Editor) (selector : Selector) (markup : String) :
    r.Extends (r.injectAfter selector markup) [⟨selector, Utf8.encode markup⟩] [] where
  injectRules := rfl
  attributeRules := (List.append_nil _).symm
  limit := rfl

/-- One more rule for an attribute. -/
theorem extends_editAttribute (r : Editor) (selector : Selector) (name : String)
    (transform : String → Option String) :
    r.Extends (r.editAttribute selector name transform) []
      [⟨selector, Ascii.lower name, transform⟩] where
  injectRules := (List.append_nil _).symm
  attributeRules := rfl
  limit := rfl

end Html.Editor

section
variable {r r' : Html.Editor}

/-- A challenge adds the rule for its script. -/
theorem addRecaptcha_eq_ok {s : Option RecaptchaSettings} (h : addRecaptcha r s = .ok r') :
    ∃ rules, List.Forall₂ RecaptchaSettings.IsMetBy s.toList rules ∧ r.Extends r' rules [] := by
  cases s with
  | none =>
    cases h
    exact ⟨[], .nil, .refl _⟩
  | some s =>
    obtain ⟨key, hkey, rfl⟩ := Except.map_eq_ok h
    exact ⟨_, .cons ⟨key, hkey, rfl⟩ .nil, r.extends_injectAfter _ _⟩

/-- Settings for markup add the rule for it. -/
theorem addInject_eq_ok {s : InjectSettings} (h : addInject r s = .ok r') :
    ∃ rule, s.IsMetBy rule ∧ r.Extends r' [rule] [] := by
  obtain ⟨selector, hselector, rfl⟩ := Except.map_eq_ok h
  exact ⟨⟨selector, Utf8.encode s.markup⟩, ⟨hselector, rfl⟩, r.extends_injectAfter _ _⟩

/-- All settings for markup add their rules, in order. By induction on the settings. -/
theorem foldlM_addInject_eq_ok {settings : List InjectSettings}
    (h : settings.foldlM addInject r = .ok r') :
    ∃ rules, List.Forall₂ InjectSettings.IsMetBy settings rules ∧ r.Extends r' rules [] := by
  induction settings generalizing r with
  | nil =>
    cases h
    exact ⟨[], .nil, .refl _⟩
  | cons s settings ih =>
    rw [List.foldlM_cons] at h
    obtain ⟨between, hs, h⟩ := Except.bind_eq_ok h
    obtain ⟨rule, hrule, hfirst⟩ := addInject_eq_ok hs
    obtain ⟨rules, hrules, hrest⟩ := ih h
    exact ⟨rule :: rules, .cons hrule hrules, hfirst.trans hrest⟩

/-- Settings for links add the rule for them. -/
theorem addLinks_eq_ok {s : Option LinkSettings} (h : addLinks r s = .ok r') :
    ∃ rules, List.Forall₂ LinkSettings.IsMetBy s.toList rules ∧ r.Extends r' [] rules := by
  cases s with
  | none =>
    cases h
    exact ⟨[], .nil, .refl _⟩
  | some s =>
    obtain ⟨map, hmap, h⟩ := Except.bind_eq_ok h
    obtain ⟨selector, hselector, h⟩ := Except.bind_eq_ok h
    cases h
    have hrule : s.IsMetBy ⟨selector, Ascii.lower s.target, LinkDomain.replace? map⟩ :=
      ⟨map, hmap, hselector, rfl, rfl⟩
    exact ⟨[_], .cons hrule .nil, r.extends_editAttribute _ _ _⟩

end

/-! ## The section -/

/-- A limit is the one that is configured, or the usual one, and no less than the least. -/
theorem buildLimit_eq_ok {s : HtmlSettings} {limit : Nat} (h : buildLimit s = .ok limit) :
    limit = s.maxTagBytes.getD Html.defaultLimit ∧ Html.minLimit ≤ limit := by
  unfold buildLimit at h
  split at h
  · next hnone =>
    cases h
    rw [hnone]
    exact ⟨rfl, by decide⟩
  · next configured hsome =>
    split at h
    · cases h
    · next hlimit =>
      cases h
      rw [hsome]
      exact ⟨rfl, Nat.le_of_not_lt hlimit⟩

/-- **The editor that is built has a rule for each thing that is configured**, and is left out only
where it has none. -/
theorem buildHtml_eq_ok {s : HtmlSettings} {html : Option Html.Editor}
    (h : buildHtml s = .ok html) :
    ∃ r, s.IsMetBy r ∧ html = if r.isEmpty then none else some r := by
  obtain ⟨limit, hlimit, h⟩ := Except.bind_eq_ok h
  obtain ⟨withScript, hscript, h⟩ := Except.bind_eq_ok h
  obtain ⟨withMarkup, hmarkup, h⟩ := Except.bind_eq_ok h
  obtain ⟨r, hlinks, h⟩ := Except.bind_eq_ok h
  cases h
  obtain ⟨hconfigured, hleast⟩ := buildLimit_eq_ok hlimit
  obtain ⟨scripts, hscripts, hfirst⟩ := addRecaptcha_eq_ok hscript
  obtain ⟨injected, hinjected, hsecond⟩ := foldlM_addInject_eq_ok hmarkup
  obtain ⟨links, hlinks, hthird⟩ := addLinks_eq_ok hlinks
  have hall := (hfirst.trans hsecond).trans hthird
  have hkept : r.limit = limit := hall.limit.trans (Nat.max_eq_left hleast)
  refine ⟨r, ⟨⟨scripts, injected, ?_, hscripts, hinjected⟩, ?_, ?_, ?_⟩, rfl⟩
  · rw [hall.injectRules, List.append_nil]
    rfl
  · rwa [hall.attributeRules]
  · rw [hkept, hconfigured]
  · rwa [hkept]

/-- An editor has no rules just where none are configured. -/
theorem HtmlSettings.IsMetBy.isEmpty_iff {s : HtmlSettings} {r : Html.Editor} (h : s.IsMetBy r) :
    r.isEmpty = true ↔ s.recaptcha = none ∧ s.inject = [] ∧ s.links = none := by
  have hnone {α β : Type} {R : α → β → Prop} {as : List α} {bs : List β}
      (hall : List.Forall₂ R as bs) : bs = [] ↔ as = [] := by
    rw [← List.length_eq_zero_iff, ← hall.length_eq, List.length_eq_zero_iff]
  obtain ⟨scripts, injected, hrules, hscripts, hinjected⟩ := h.inject
  rw [Html.Editor.isEmpty, Bool.and_eq_true, List.isEmpty_iff, List.isEmpty_iff, hrules,
    List.append_eq_nil_iff, hnone h.links, hnone hscripts, hnone hinjected,
    Option.toList_eq_nil_iff, Option.toList_eq_nil_iff, and_comm, and_assoc]

end ProxyFilter
