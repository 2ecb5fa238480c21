import Mathlib.Data.List.Forall2
import ProxyFilter.Http.Device
import ProxyFilter.Proofs.Http.HeaderEdits
import ProxyFilter.Proofs.Text.Ascii

/-!
# How a client is classed

`Device.Decides` writes the rules down in the order of their turns, over what a user agent has in it
(`Device.Has`: a keyword in whatever letter case) and what the client says of itself. The scan for
keywords finds just these (`Device.mentions_iff`), and letter case plays no part in it: headers that
differ in letter case alone (`Header.SameButForCase`) class the client alike. Both together are
`Device.classify_eq_iff_decides`.
-/

namespace ProxyFilter

namespace Device

/-! ## Keywords -/

/-- A text has a keyword somewhere in it, in whatever letter case. -/
def Has (text keyword : String) : Prop :=
  ∃ before found after, text = before ++ found ++ after ∧ Ascii.sameName found keyword = true

/-- A text has one of the keywords in it. -/
def HasOneOf (keywords : List String) (text : String) : Prop :=
  ∃ keyword ∈ keywords, Has text keyword

/-- The scan for a keyword finds it wherever it stands. -/
theorem occursIn_iff {keyword : List Char} (cs : List Char) :
    occursIn keyword cs = true ↔ keyword <:+: cs := by
  induction cs with
  | nil => rw [occursIn, List.isEmpty_iff, List.infix_nil]
  | cons c cs ih =>
    rw [occursIn, Bool.or_eq_true, List.isPrefixOf_iff_prefix, ih, List.infix_cons_iff]

/-- The scan in lower case finds what stands there in whatever letter case. -/
theorem mentions_iff {text keyword : String} : mentions text keyword = true ↔ Has text keyword := by
  rw [mentions, occursIn_iff]
  constructor
  · rintro ⟨start, stop, hcut⟩
    rw [Ascii.toList_lower text] at hcut
    -- the cut of the lower-case form is the image of a cut of the text itself
    obtain ⟨front, after, htext, hfront, -⟩ := List.map_eq_append_iff.1 hcut.symm
    obtain ⟨before, found, rfl, -, hfound⟩ := List.map_eq_append_iff.1 hfront
    refine ⟨String.ofList before, String.ofList found, String.ofList after, ?_, ?_⟩
    · rw [← String.toList_inj, htext]
      simp
    · rw [Ascii.sameName, beq_iff_eq, ← String.toList_inj, Ascii.toList_lower, String.toList_ofList]
      exact hfound
  · rintro ⟨before, found, after, rfl, hsame⟩
    have hlower : Ascii.lower found = Ascii.lower keyword := beq_iff_eq.1 hsame
    refine ⟨before.toList.map Char.toLower, after.toList.map Char.toLower, ?_⟩
    rw [← hlower]
    simp

/-- Keywords are found one by one. -/
theorem any_mentions_iff {keywords : List String} {text : String} :
    keywords.any (mentions text) = true ↔ HasOneOf keywords text := by
  rw [List.any_eq_true]
  exact exists_congr fun keyword => and_congr_right fun _ => mentions_iff

/-- Texts that differ in letter case alone have the same keywords in them. -/
theorem mentions_of_sameName {a b : String} (hsame : Ascii.sameName a b = true) :
    mentions a = mentions b := by
  have hlower : Ascii.lower a = Ascii.lower b := beq_iff_eq.1 hsame
  funext keyword
  rw [mentions, mentions, hlower]

/-! ## The rules -/

/-- The class of a client by its user agent and by its own hint, blanks around it left out. Each
rule has its turn where no rule above it applies. -/
inductive Decides (botKeywords : List String) (agent : String) (hint : Option String) :
    Device → Prop
  | robot (hbot : HasOneOf botKeywords agent) : Decides botKeywords agent hint .bot
  | hintsPhone (hbot : ¬ HasOneOf botKeywords agent) (hhint : hint = some "?1") :
      Decides botKeywords agent hint .phone
  | hintsOther (hbot : ¬ HasOneOf botKeywords agent) (hhint : hint = some "?0") :
      Decides botKeywords agent hint .desktop
  | tablet (hbot : ¬ HasOneOf botKeywords agent) (hhint : hint ≠ some "?1" ∧ hint ≠ some "?0")
      (htablet : HasOneOf tabletKeywords agent) : Decides botKeywords agent hint .tablet
  | phone (hbot : ¬ HasOneOf botKeywords agent) (hhint : hint ≠ some "?1" ∧ hint ≠ some "?0")
      (htablet : ¬ HasOneOf tabletKeywords agent) (hphone : HasOneOf phoneKeywords agent) :
      Decides botKeywords agent hint .phone
  | android (hbot : ¬ HasOneOf botKeywords agent) (hhint : hint ≠ some "?1" ∧ hint ≠ some "?0")
      (htablet : ¬ HasOneOf tabletKeywords agent) (hphone : ¬ HasOneOf phoneKeywords agent)
      (handroid : Has agent "android") : Decides botKeywords agent hint .tablet
  | other (hbot : ¬ HasOneOf botKeywords agent) (hhint : hint ≠ some "?1" ∧ hint ≠ some "?0")
      (htablet : ¬ HasOneOf tabletKeywords agent) (hphone : ¬ HasOneOf phoneKeywords agent)
      (handroid : ¬ Has agent "android") : Decides botKeywords agent hint .desktop

/-- The user agent a request names first, or the empty text. -/
def agentOf (headers : HeaderSet) : String := (headers.get? Header.userAgent).getD ""

/-- What the client says of itself first, without the blanks around it. -/
def hintOf? (headers : HeaderSet) : Option String := (headers.get? mobileHint).map Text.trim

/-- The rules have a class for every client, and one only. -/
theorem Decides.unique {botKeywords : List String} {agent : String} {hint : Option String}
    {d d' : Device} (h : Decides botKeywords agent hint d)
    (h' : Decides botKeywords agent hint d') : d = d' := by
  cases h <;> cases h' <;> simp_all

/-- The class of a client is the one the rules give. -/
theorem decides_classify (botKeywords : List String) (headers : HeaderSet) :
    Decides botKeywords (agentOf headers) (hintOf? headers) (classify botKeywords headers) := by
  unfold agentOf hintOf? classify
  generalize (headers.get? Header.userAgent).getD "" = agent
  generalize (headers.get? mobileHint).map Text.trim = hint
  dsimp only
  split
  · next hbot => exact .robot (any_mentions_iff.1 hbot)
  · next hbot =>
    rw [any_mentions_iff] at hbot
    split
    · exact .hintsPhone hbot rfl
    · exact .hintsOther hbot rfl
    · next hphone hother =>
      have hsilent : hint ≠ some "?1" ∧ hint ≠ some "?0" := ⟨hphone, hother⟩
      split
      · next htablet => exact .tablet hbot hsilent (any_mentions_iff.1 htablet)
      · next htablet =>
        rw [any_mentions_iff] at htablet
        split
        · next hphones => exact .phone hbot hsilent htablet (any_mentions_iff.1 hphones)
        · next hphones =>
          rw [any_mentions_iff] at hphones
          split
          · next handroid =>
            exact .android hbot hsilent htablet hphones (mentions_iff.1 handroid)
          · next handroid =>
            rw [mentions_iff] at handroid
            exact .other hbot hsilent htablet hphones handroid

/-! ## Letter case -/

end Device

/-- Two headers that differ in letter case alone: in that of their names, and in that of their
values where they name the client program. -/
structure Header.SameButForCase (a b : Header) : Prop where
  /-- The names are one, letter case ignored. -/
  name : Ascii.sameName a.name b.name = true
  /-- The values are one, with letter case ignored in a user agent. -/
  value : a.value = b.value ∨
    a.isNamed Header.userAgent = true ∧ Ascii.sameName a.value b.value = true

/-- Two header sets that differ in letter case alone, header by header. -/
def HeaderSet.SameButForCase (a b : HeaderSet) : Prop :=
  List.Forall₂ Header.SameButForCase a.entries b.entries

/-- A header goes by the same names in another letter case. -/
theorem Header.SameButForCase.isNamed {a b : Header} (h : a.SameButForCase b) (name : String) :
    a.isNamed name = b.isNamed name := by
  have hlower : Ascii.lower a.name = Ascii.lower b.name := beq_iff_eq.1 h.name
  unfold Header.isNamed Ascii.sameName
  rw [hlower]

/-- The first header of a name stands at the same place in another letter case. -/
theorem HeaderSet.SameButForCase.find? {a b : HeaderSet} (h : a.SameButForCase b) (name : String) :
    Option.Rel Header.SameButForCase (a.entries.find? (Header.isNamed name))
      (b.entries.find? (Header.isNamed name)) := by
  obtain ⟨entries⟩ := a
  obtain ⟨entries'⟩ := b
  have hentries : List.Forall₂ Header.SameButForCase entries entries' := h
  show Option.Rel _ (entries.find? _) (entries'.find? _)
  induction hentries with
  | nil => exact .none
  | @cons first first' rest rest' hfirst hrest ih =>
    rw [List.find?_cons, List.find?_cons, ← hfirst.isNamed name]
    cases first.isNamed name with
    | true => exact .some hfirst
    | false => exact ih hrest

namespace Device

/-- The user agents differ in letter case at most. -/
theorem sameName_agentOf {a b : HeaderSet} (h : a.SameButForCase b) :
    Ascii.sameName (agentOf a) (agentOf b) = true := by
  have hfirst := h.find? Header.userAgent
  unfold agentOf HeaderSet.get?
  generalize a.entries.find? (Header.isNamed Header.userAgent) = first at hfirst
  generalize b.entries.find? (Header.isNamed Header.userAgent) = first' at hfirst
  cases hfirst with
  | none => exact Ascii.sameName_self ""
  | some hsame =>
    rcases hsame.value with heq | ⟨-, hcase⟩
    · simp [heq]
    · exact hcase

/-- The client says the same of itself: no header goes by this name and by that of user agents. -/
theorem hintOf?_congr {a b : HeaderSet} (h : a.SameButForCase b) : hintOf? a = hintOf? b := by
  have hfirst := h.find? mobileHint
  have hnamed := fun header => List.find?_some (p := Header.isNamed mobileHint)
    (l := a.entries) (a := header)
  unfold hintOf? HeaderSet.get?
  generalize a.entries.find? (Header.isNamed mobileHint) = first at hfirst hnamed
  generalize b.entries.find? (Header.isNamed mobileHint) = first' at hfirst
  cases hfirst with
  | none => rfl
  | @some header header' hsame =>
    rcases hsame.value with heq | ⟨hagent, -⟩
    · simp [heq]
    · have hother : header.isNamed Header.userAgent = false :=
        Header.isNamed_eq_false (by decide) (hnamed header rfl)
      rw [hother] at hagent
      cases hagent

/-- Headers that differ in letter case alone class the client alike. -/
theorem classify_congr {a b : HeaderSet} (botKeywords : List String) (h : a.SameButForCase b) :
    classify botKeywords a = classify botKeywords b := by
  have hmentions : mentions (agentOf a) = mentions (agentOf b) :=
    mentions_of_sameName (sameName_agentOf h)
  have hhint : (a.get? mobileHint).map Text.trim = (b.get? mobileHint).map Text.trim :=
    hintOf?_congr h
  unfold agentOf at hmentions
  simp only [classify, hmentions, hhint]

/-- **The rules class every client, in the order of their turns, and letter case plays no part.** -/
theorem classify_eq_iff_decides (botKeywords : List String) (headers : HeaderSet) :
    (∀ d, classify botKeywords headers = d ↔
      Decides botKeywords (agentOf headers) (hintOf? headers) d) ∧
    ∀ headers', headers.SameButForCase headers' →
      classify botKeywords headers' = classify botKeywords headers := by
  constructor
  · intro d
    constructor
    · rintro rfl
      exact decides_classify botKeywords headers
    · exact (decides_classify botKeywords headers).unique
  · intro headers' hsame
    exact (classify_congr botKeywords hsame).symm

/-- A robot that says it is a phone is a robot, in capitals too. -/
theorem classify_robot_in_capitals :
    Decides ["bot"] "Googlebot/2.1" (some "?1") .bot ∧
      classify ["bot"] (.ofPairs [("USER-AGENT", "GOOGLEBOT/2.1"), (mobileHint, "?1")]) = .bot := by
  have hrules := classify_eq_iff_decides ["bot"]
    (.ofPairs [("User-Agent", "Googlebot/2.1"), (mobileHint, "?1")])
  have hbot : classify ["bot"] (.ofPairs [("User-Agent", "Googlebot/2.1"), (mobileHint, "?1")]) =
      .bot := by decide +kernel
  refine ⟨(hrules.1 .bot).1 hbot, (hrules.2 _ ?_).trans hbot⟩
  exact .cons ⟨by decide +kernel, .inr ⟨by decide +kernel, by decide +kernel⟩⟩
    (.cons ⟨by decide +kernel, .inl rfl⟩ .nil)

end Device

end ProxyFilter
