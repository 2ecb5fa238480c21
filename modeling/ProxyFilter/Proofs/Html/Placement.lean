import Mathlib.Data.List.Induction
import ProxyFilter.Proofs.Html.LocalEdits

/-!
# Where markup is put

What is given out for a body is made of `Part`s: the pieces of the body in their order, each of them
as rules for attributes leave it, and between them the markup of rules. `Editor.LaidOut` says how
parts follow from pieces: a start tag is followed by the markup of the rules that fire there, and a
rule fires at the first tag that it is for (`InjectRule.fires`). So the markup of a rule stands just
once (`Editor.PutOnce`), or nowhere if the rule is for no start tag of the body. Markup is put into
what is given out and never read: with other markup in the rules the parts are the same
(`Editor.withMarkups`). The main result is `Editor.editChunks_placed`.
-/

namespace ProxyFilter.Html

/-! ## The parts of what is given out -/

/-- A part of what is given out for a body. -/
inductive Part
  /-- A piece of the body, and the octets that are given out for it. -/
  | piece (p : Piece) (octets : Bytes)
  /-- The markup of the rule at a place among the rules. -/
  | markup (place : Nat)

namespace Part

/-- The octets of a part, by the markup of each rule. -/
def octets (markupOf : Nat → Bytes) : Part → Bytes
  | piece _ octets => octets
  | markup place => markupOf place

/-- The piece of the body that a part is. -/
def piece? : Part → Option Piece
  | piece p _ => some p
  | markup _ => none

/-- The start tag of the body that a part is. -/
def tag? : Part → Option StartTag
  | piece (.startTag tag) _ => some tag
  | _ => none

/-- Markup holds no piece of the body. -/
@[simp] theorem filterMap_piece?_markup (places : List Nat) :
    (places.map markup).filterMap piece? = [] := by
  simp [List.filterMap_map, Function.comp_def, piece?]

/-- Markup holds no start tag of the body. -/
@[simp] theorem filterMap_tag?_markup (places : List Nat) :
    (places.map markup).filterMap tag? = [] := by
  simp [List.filterMap_map, Function.comp_def, tag?]

/-- A piece that is no start tag holds none. -/
theorem tag?_piece {p : Piece} (hp : ∀ tag, p ≠ .startTag tag) (octets : Bytes) :
    (piece p octets).tag? = none := by
  cases p with
  | startTag tag => exact absurd rfl (hp tag)
  | text | construct | contents | unfinished => rfl

end Part

/-- A rule fires at a tag if it is for that tag and for none of the tags before it. -/
def InjectRule.fires (earlier : List StartTag) (tag : StartTag) (rule : InjectRule) : Bool :=
  rule.selector.isFor tag && ! earlier.any rule.selector.isFor

namespace Editor

/-- The places below `n` of the rules that fire at a tag, in order. -/
def firing (r : Editor) (earlier : List StartTag) (tag : StartTag) (n : Nat) : List Nat :=
  (List.range n).filter fun place => (r.injectRules[place]?).any (InjectRule.fires earlier tag)

/-- What is given out for a piece: what it is, or the tag that rules for attributes make of it. -/
inductive WritesPiece (r : Editor) : Piece → Bytes → Prop
  | same {p : Piece} : (∀ tag, p ≠ .startTag tag) → WritesPiece r p p.source
  | startTag {tag changed : StartTag} : r.EditsTag tag changed →
      WritesPiece r (.startTag tag) changed.source

/-- The parts that pieces become after the tags `earlier`. -/
inductive LaidOut (r : Editor) : List StartTag → List Piece → List Part → Prop
  | done {earlier : List StartTag} : LaidOut r earlier [] []
  | same {earlier : List StartTag} {p : Piece} {pieces : List Piece} {parts : List Part} :
      (∀ tag, p ≠ .startTag tag) → LaidOut r earlier pieces parts →
      LaidOut r earlier (p :: pieces) (.piece p p.source :: parts)
  | startTag {earlier : List StartTag} {tag changed : StartTag} {pieces : List Piece}
      {parts : List Part} : r.EditsTag tag changed → LaidOut r (earlier ++ [tag]) pieces parts →
      LaidOut r earlier (.startTag tag :: pieces) (.piece (.startTag tag) changed.source ::
        ((r.firing earlier tag r.injectRules.length).map .markup ++ parts))

/-- The markup of a rule stands just once among parts that come after the tags `earlier`: behind the
first tag that the rule is for, after the markup of the rules before it that fire at that tag. -/
def PutOnce (r : Editor) (earlier : List StartTag) (place : Nat) (rule : InjectRule)
    (parts : List Part) : Prop :=
  ∃ before tag octets after,
    parts = before ++ .piece (.startTag tag) octets ::
      ((r.firing (earlier ++ before.filterMap Part.tag?) tag place).map .markup ++
        .markup place :: after) ∧
    rule.selector.isFor tag = true ∧
    (∀ other ∈ before.filterMap Part.tag?, rule.selector.isFor other = false) ∧
    .markup place ∉ before ∧ .markup place ∉ after

/-- The parts of what is given out for a body: its pieces in their order, each as rules leave it,
and the markup of each rule where it belongs, if it is for any start tag of the body. -/
structure Placed (r : Editor) (pieces : List Piece) (parts : List Part) : Prop where
  inOrder : parts.filterMap Part.piece? = pieces
  written : ∀ p octets, .piece p octets ∈ parts → r.WritesPiece p octets
  once : ∀ place rule, r.injectRules[place]? = some rule →
    ∀ tag, .startTag tag ∈ pieces → rule.selector.isFor tag = true → r.PutOnce [] place rule parts
  silent : ∀ place, (∀ rule, r.injectRules[place]? = some rule →
    ∀ tag, .startTag tag ∈ pieces → rule.selector.isFor tag = false) → .markup place ∉ parts

/-- The markup of the rule at a place. -/
def markupOf (r : Editor) (place : Nat) : Bytes :=
  ((r.injectRules[place]?).map InjectRule.markup).getD []

variable {r : Editor} {tag changed changed' : StartTag} {earlier : List StartTag}
  {pieces : List Piece} {parts parts' : List Part} {out : Bytes} {place : Nat} {rule : InjectRule}

/-! ## Rules that fire -/

/-- The places that are listed are those of the rules that fire. -/
theorem mem_firing {n : Nat} : place ∈ r.firing earlier tag n ↔
    place < n ∧ ∃ rule, r.injectRules[place]? = some rule ∧ rule.fires earlier tag = true := by
  simp [firing, Option.any_eq_true]

/-- Where a rule fires, the rules that do are those before it, itself, and later ones. -/
theorem exists_firing_eq (hrule : r.injectRules[place]? = some rule)
    (hfires : rule.fires earlier tag = true) : ∃ later,
    r.firing earlier tag r.injectRules.length = r.firing earlier tag place ++ place :: later ∧
      place ∉ later := by
  obtain ⟨hlt, -⟩ := List.getElem?_eq_some_iff.1 hrule
  obtain ⟨more, hmore⟩ : ∃ more, r.injectRules.length = place + 1 + more :=
    ⟨_, (Nat.add_sub_cancel' hlt).symm⟩
  refine ⟨((List.range more).map (place + 1 + ·)).filter fun i =>
    (r.injectRules[i]?).any (InjectRule.fires earlier tag), ?_, fun hmem => ?_⟩
  · rw [firing, hmore, List.range_add, List.range_succ, List.filter_append, List.filter_append,
      List.filter_singleton, hrule, Option.any_some, hfires, cond_true, List.append_assoc]
    rfl
  · obtain ⟨i, -, hi⟩ := List.mem_map.1 (List.mem_filter.1 hmem).1
    omega

/-- The markup of the rules that fire, by their places. By induction on the rules, from the last. -/
theorem flatMap_firing (r : Editor) (earlier : List StartTag) (tag : StartTag) :
    (r.firing earlier tag r.injectRules.length).flatMap r.markupOf = r.markupAt earlier tag := by
  have hrules (rules : List InjectRule) :
      ((List.range rules.length).filter fun i =>
          (rules[i]?).any (InjectRule.fires earlier tag)).flatMap
        (fun i => ((rules[i]?).map InjectRule.markup).getD []) =
      (rules.filter (InjectRule.fires earlier tag)).flatMap InjectRule.markup := by
    induction rules using List.reverseRecOn with
    | nil => rfl
    | append_singleton rules rule ih =>
      have hbefore : ∀ i ∈ List.range rules.length, (rules ++ [rule])[i]? = rules[i]? :=
        fun i hi => List.getElem?_append_left (List.mem_range.1 hi)
      have hlast : (rules ++ [rule])[rules.length]? = some rule := by simp
      rw [List.length_append, List.length_singleton, List.range_succ, List.filter_append,
        List.filter_append, List.flatMap_append, List.flatMap_append, ← ih,
        List.filter_congr fun i hi => by rw [hbefore i hi],
        List.flatMap_congr fun i hi => by rw [hbefore i (List.mem_filter.1 hi).1]]
      congr 1
      cases hfires : rule.fires earlier tag <;> simp [hfires]
  exact hrules r.injectRules

/-! ## Parts -/

/-- What is written piece by piece is laid out in parts. -/
theorem Writes.exists_parts (h : r.Writes earlier pieces out) :
    ∃ parts, r.LaidOut earlier pieces parts ∧ parts.flatMap (Part.octets r.markupOf) = out := by
  induction h with
  | done => exact ⟨[], .done, rfl⟩
  | same hp _ ih =>
    obtain ⟨parts, hparts, rfl⟩ := ih
    exact ⟨_, .same hp hparts, rfl⟩
  | @startTag earlier tag changed pieces out hedits _ ih =>
    obtain ⟨parts, hparts, rfl⟩ := ih
    refine ⟨_, .startTag hedits hparts, ?_⟩
    rw [← flatMap_firing, List.flatMap_cons, List.flatMap_append, List.flatMap_map,
      List.append_assoc]
    rfl

namespace LaidOut

/-- The pieces are laid out in their order. -/
theorem inOrder (h : r.LaidOut earlier pieces parts) : parts.filterMap Part.piece? = pieces := by
  induction h with
  | done => rfl
  | same _ _ ih => simp [Part.piece?, ih]
  | startTag _ _ ih => simp [Part.piece?, ih]

/-- Each piece is laid out as rules leave it. -/
theorem written (h : r.LaidOut earlier pieces parts) {p : Piece} {octets : Bytes}
    (hp : .piece p octets ∈ parts) : r.WritesPiece p octets := by
  induction h with
  | done => cases hp
  | same hother _ ih =>
    rcases List.mem_cons.1 hp with heq | hp
    · cases heq
      exact .same hother
    · exact ih hp
  | startTag hedits _ ih =>
    rcases List.mem_cons.1 hp with heq | hp
    · cases heq
      exact .startTag hedits
    · rcases List.mem_append.1 hp with hp | hp
      · obtain ⟨_, -, heq⟩ := List.mem_map.1 hp
        cases heq
      · exact ih hp

/-- Nothing is put by a rule that is for an earlier tag or for none of the pieces. -/
theorem silent (h : r.LaidOut earlier pieces parts)
    (hrule : ∀ rule, r.injectRules[place]? = some rule →
      (∃ first ∈ earlier, rule.selector.isFor first = true) ∨
        ∀ tag, .startTag tag ∈ pieces → rule.selector.isFor tag = false) :
    .markup place ∉ parts := by
  induction h with
  | done => exact List.not_mem_nil
  | same _ _ ih =>
    have hrest := ih fun rule hplace => (hrule rule hplace).imp_right fun hnone tag htag =>
      hnone tag (List.mem_cons_of_mem _ htag)
    simp [hrest]
  | @startTag earlier tag changed pieces parts _ _ ih =>
    have hquiet : place ∉ r.firing earlier tag r.injectRules.length := by
      rintro hmem
      obtain ⟨-, rule, hplace, hfires⟩ := mem_firing.1 hmem
      simp only [InjectRule.fires, Bool.and_eq_true, Bool.not_eq_true', List.any_eq_false] at hfires
      rcases hrule rule hplace with ⟨first, hfirst, hfor⟩ | hnone
      · exact hfires.2 first hfirst hfor
      · rw [hnone tag List.mem_cons_self] at hfires
        cases hfires.1
    have hrest := ih fun rule hplace => (hrule rule hplace).imp
      (fun ⟨first, hfirst, hfor⟩ => ⟨first, List.mem_append_left _ hfirst, hfor⟩)
      fun hnone tag htag => hnone tag (List.mem_cons_of_mem _ htag)
    simp [hrest, hquiet]

/-- The markup of a rule is put just once, if the rule is for no earlier tag and for one of the
pieces. By induction on the pieces: the rule fires at the first tag that it is for, and is silent
from then on. -/
theorem putOnce (h : r.LaidOut earlier pieces parts) (hplace : r.injectRules[place]? = some rule)
    (hearlier : ∀ first ∈ earlier, rule.selector.isFor first = false)
    (htag : .startTag tag ∈ pieces) (hfor : rule.selector.isFor tag = true) :
    r.PutOnce earlier place rule parts := by
  induction h with
  | done => cases htag
  | @same earlier p pieces parts hp _ ih =>
    have htag : .startTag tag ∈ pieces :=
      (List.mem_cons.1 htag).resolve_left fun heq => hp tag heq.symm
    obtain ⟨before, first, octets, after, rfl, hfirst, hothers, hbefore, hafter⟩ :=
      ih hearlier htag
    have htags : (Part.piece p p.source :: before).filterMap Part.tag? =
        before.filterMap Part.tag? := List.filterMap_cons_none (Part.tag?_piece hp _)
    refine ⟨.piece p p.source :: before, first, octets, after, ?_, hfirst, ?_, ?_, hafter⟩
    · rw [htags, List.cons_append]
    · rwa [htags]
    · simp [hbefore]
  | @startTag earlier now changed pieces parts hedits hrest ih =>
    cases hnow : rule.selector.isFor now with
    | true =>
      have hfires : rule.fires earlier now = true := by
        simp only [InjectRule.fires, hnow, Bool.true_and, Bool.not_eq_true', List.any_eq_false]
        exact fun first hfirst => by simp [hearlier first hfirst]
      obtain ⟨later, hfiring, hlater⟩ := exists_firing_eq hplace hfires
      have hsilent : .markup place ∉ parts := hrest.silent fun other hother =>
        .inl ⟨now, by simp, Option.some.inj (hplace.symm.trans hother) ▸ hnow⟩
      refine ⟨[], now, changed.source, later.map .markup ++ parts, ?_, hnow, by simp, by simp,
        by simp [hlater, hsilent]⟩
      simp [hfiring]
    | false =>
      have htag : .startTag tag ∈ pieces := by
        refine (List.mem_cons.1 htag).resolve_left fun heq => ?_
        cases heq
        rw [hnow] at hfor
        cases hfor
      have hearlier' : ∀ first ∈ earlier ++ [now], rule.selector.isFor first = false := by
        simpa [hnow, or_imp, forall_and] using hearlier
      obtain ⟨before, first, octets, after, rfl, hfirst, hothers, hbefore, hafter⟩ :=
        ih hearlier' htag
      have htags : (Part.piece (.startTag now) changed.source ::
          ((r.firing earlier now r.injectRules.length).map Part.markup ++ before)).filterMap
            Part.tag? = now :: before.filterMap Part.tag? := by
        simp [Part.tag?]
      have hquiet : place ∉ r.firing earlier now r.injectRules.length := by
        intro hmem
        obtain ⟨-, other, hother, hfires⟩ := mem_firing.1 hmem
        obtain rfl := Option.some.inj (hplace.symm.trans hother)
        simp [InjectRule.fires, hnow] at hfires
      refine ⟨.piece (.startTag now) changed.source ::
        ((r.firing earlier now r.injectRules.length).map .markup ++ before),
        first, octets, after, ?_, hfirst, ?_, ?_, hafter⟩
      · rw [htags, List.append_cons earlier]
        simp
      · rw [htags]
        simpa [hnow] using hothers
      · simp [hbefore, hquiet]

/-- Pieces are laid out as they should be. -/
theorem placed (h : r.LaidOut [] pieces parts) : r.Placed pieces parts where
  inOrder := h.inOrder
  written _ _ := h.written
  once _ _ hplace _ htag hfor := h.putOnce hplace (by simp) htag hfor
  silent _ hrule := h.silent fun rule hplace => .inr (hrule rule hplace)

end LaidOut

/-! ## Other markup -/

/-- The editor with other markup in its rules, by their places. -/
def withMarkups (r : Editor) (markupOf : Nat → Bytes) : Editor :=
  { r with
    injectRules := r.injectRules.mapIdx fun place rule => { rule with markup := markupOf place } }

section
variable {m : Nat → Bytes} {s : Scanner} {b : Bytes}

/-- The rules have their own markup. -/
theorem withMarkups_markupOf (r : Editor) : r.withMarkups r.markupOf = r := by
  have hrules : (r.injectRules.mapIdx fun place rule =>
      { rule with markup := r.markupOf place }) = r.injectRules := by
    refine List.ext_getElem? fun place => ?_
    cases hplace : r.injectRules[place]? <;> simp [List.getElem?_mapIdx, hplace, markupOf]
  rw [withMarkups, hrules]

/-- The rules with other markup, by their places. -/
theorem getElem?_injectRules_withMarkups (r : Editor) (m : Nat → Bytes) (place : Nat) :
    (r.withMarkups m).injectRules[place]? =
      (r.injectRules[place]?).map fun rule => { rule with markup := m place } := by
  simp [withMarkups, List.getElem?_mapIdx]

/-- The editor has as many rules. -/
theorem length_injectRules_withMarkups (r : Editor) (m : Nat → Bytes) :
    (r.withMarkups m).injectRules.length = r.injectRules.length := List.length_mapIdx

/-- The same rules fire. -/
theorem firing_withMarkups (r : Editor) (m : Nat → Bytes) (earlier : List StartTag)
    (tag : StartTag) (n : Nat) :
    (r.withMarkups m).firing earlier tag n = r.firing earlier tag n := by
  refine List.filter_congr fun place _ => ?_
  rw [getElem?_injectRules_withMarkups, Option.any_map]
  rfl

/-- Rules for attributes make the same of a tag. -/
theorem EditsTag.of_withMarkups (h : (r.withMarkups m).EditsTag tag changed) :
    r.EditsTag tag changed where
  name := h.name
  gap := h.gap
  selfClosing := h.selfClosing
  length := h.length
  values place a ha := by
    obtain ⟨a', ha', hedits⟩ := h.values place a ha
    refine ⟨a', ha', ?_⟩
    cases hedits with
    | keep hnone => exact .keep hnone
    | replace hvalue hdecode hrevised => exact .replace hvalue hdecode hrevised

/-- Pieces are laid out in the same way. -/
theorem LaidOut.of_withMarkups (h : (r.withMarkups m).LaidOut earlier pieces parts) :
    r.LaidOut earlier pieces parts := by
  induction h with
  | done => exact .done
  | same hp _ ih => exact .same hp ih
  | startTag hedits _ ih =>
    rw [firing_withMarkups, length_injectRules_withMarkups]
    exact .startTag hedits.of_withMarkups ih

/-- Pieces are laid out in one way. -/
theorem LaidOut.unique (h : r.LaidOut earlier pieces parts) (h' : r.LaidOut earlier pieces parts') :
    parts = parts' := by
  induction h generalizing parts' with
  | done =>
    cases h'
    rfl
  | same hp _ ih =>
    cases h' with
    | same _ hrest => rw [ih hrest]
    | startTag => exact absurd rfl (hp _)
  | startTag hedits _ ih =>
    cases h' with
    | same hp => exact absurd rfl (hp _)
    | startTag hedits' hrest => rw [hedits.unique hedits', ih hrest]

/-- Which rules have fired after a tag does not depend on their markup. -/
theorem injections_snd {rules rules' : List InjectRule} (dones : List Bool) (tag : StartTag)
    (h : rules.map InjectRule.selector = rules'.map InjectRule.selector) :
    (injections tag rules dones).2 = (injections tag rules' dones).2 := by
  induction rules generalizing rules' dones with
  | nil =>
    obtain rfl := List.map_eq_nil_iff.1 h.symm
    rfl
  | cons rule rules ih =>
    obtain ⟨rule', rules', rfl, hselector, hrules⟩ := List.map_eq_cons_iff.1 h.symm
    cases dones with
    | nil => rfl
    | cons done dones =>
      simp only [injections, hselector, ← ih dones hrules.symm]
      split <;> rfl

end

end Editor

/-- A step without the octets that it settles. -/
def Step.mute : Step → Step
  | .advance _ s rest => .advance [] s rest
  | .wait _ rest => .wait [] rest
  | .fail _ e => .fail [] e

namespace Editor

variable {r : Editor} {parts : List Part} {chunks : List Bytes} {out b : Bytes} {s : Scanner}

/-- With other markup the step at a start tag goes on in the same way. -/
theorem stepTag_withMarkups (r : Editor) (m : Nat → Bytes) (s : Scanner) (text : Bytes)
    (tag : StartTag) (rest : Bytes) :
    ((r.withMarkups m).stepTag s text tag rest).mute = (r.stepTag s text tag rest).mute := by
  have htag : (r.withMarkups m).editTag tag = r.editTag tag := rfl
  have hselectors : (r.withMarkups m).injectRules.map InjectRule.selector =
      r.injectRules.map InjectRule.selector :=
    List.ext_getElem? fun place => by
      simp [getElem?_injectRules_withMarkups, Function.comp_def]
  simp only [stepTag, htag]
  cases r.editTag tag with
  | error e => rfl
  | ok changed =>
    simp only [Step.mute, injections_snd s.injected tag hselectors]
    rfl

/-- With other markup a step goes on in the same way. -/
theorem step_withMarkups (r : Editor) (m : Nat → Bytes) (s : Scanner) (b : Bytes) :
    ((r.withMarkups m).step s b).mute = (r.step s b).mute := by
  have hlimit : (r.withMarkups m).limit = r.limit := rfl
  simp only [step]
  split
  · rfl
  · split
    · simp only [stepData, hlimit]
      split
      · rfl
      · split
        · rfl
        · rfl
        · rfl
        · exact stepTag_withMarkups ..
    · rfl

/-- With other markup scanning leaves the same octets, or fails in the same way. By induction on the
number of steps. -/
theorem scanLoop_withMarkups (r : Editor) (m : Nat → Bytes) (fuel : Nat) (s : Scanner) (b : Bytes) :
    ((r.withMarkups m).scanLoop fuel s b).rest = (r.scanLoop fuel s b).rest := by
  induction fuel generalizing s b with
  | zero => rfl
  | succ fuel ih =>
    have hstep := step_withMarkups r m s b
    simp only [scanLoop]
    split
    · rfl
    · cases hplain : r.step s b <;> cases hother : (r.withMarkups m).step s b <;>
        rw [hplain, hother] at hstep <;> cases hstep
      · exact ih _ _
      · rfl
      · rfl

/-- With other markup something becomes of the same octets. -/
theorem outcome_withMarkups (m : Nat → Bytes) (h : r.outcome s b = .ok out) :
    ∃ out', (r.withMarkups m).outcome s b = .ok out' := by
  obtain ⟨rest, hrest, -⟩ := Except.map_eq_ok h
  have hsame : ((r.withMarkups m).scan s b).rest = .ok rest :=
    (scanLoop_withMarkups r m _ s b).trans hrest
  exact ⟨_, by rw [outcome, hsame]; rfl⟩

/-- With other markup a stream begins in the same state. -/
theorem start_withMarkups (r : Editor) (m : Nat → Bytes) : (r.withMarkups m).start = r.start := by
  have hempty : (r.withMarkups m).injectRules.isEmpty = r.injectRules.isEmpty := by
    rw [Bool.eq_iff_iff, List.isEmpty_iff_length_eq_zero, List.isEmpty_iff_length_eq_zero,
      length_injectRules_withMarkups]
  simp only [start, isEmpty, List.map_const', length_injectRules_withMarkups, hempty]
  rfl

/-! ## Whole bodies -/

/-- What an editor with any markup gives out for a body is laid out in the same parts. -/
theorem exists_laidOut {pieces : List Piece} (hcut : Cut .data chunks.flatten pieces)
    (m : Nat → Bytes) (h : (r.withMarkups m).editChunks chunks = .ok out) :
    ∃ parts, r.LaidOut [] pieces parts ∧ parts.flatMap (Part.octets m) = out := by
  rw [editChunks_eq] at h
  have hwrites := writes_of_outcome hcut rfl (r.withMarkups m).start_follows h
  obtain ⟨parts, hlaid, rfl⟩ := hwrites.exists_parts
  refine ⟨parts, hlaid.of_withMarkups, List.flatMap_congr fun part hpart => ?_⟩
  cases part with
  | piece => rfl
  | markup place =>
    -- The part is the markup of a rule, as no other place is silent.
    obtain ⟨rule, hplace⟩ : ∃ rule, (r.withMarkups m).injectRules[place]? = some rule := by
      by_contra hnone
      exact hlaid.silent (fun rule hplace => absurd ⟨rule, hplace⟩ hnone) hpart
    rw [getElem?_injectRules_withMarkups] at hplace
    obtain ⟨rule, hrule, rfl⟩ := Option.map_eq_some_iff.1 hplace
    simp [Part.octets, markupOf, getElem?_injectRules_withMarkups, hrule]

/-- **Markup is put where it belongs.** However a body is cut into chunks, what is given out for it
is made of the pieces of the body in their order and of the markup of rules: once for each rule that
is for some start tag of the body, behind the first of these tags and the markup of the rules before
it that fire there, and nowhere for the other rules. Markup is not read: with any other markup in
the rules, the same parts are given out. -/
theorem editChunks_placed (h : r.editChunks chunks = .ok out) :
    ∃ pieces parts, Cut .data chunks.flatten pieces ∧
      (∀ other, Cut .data chunks.flatten other → other = pieces) ∧ r.Placed pieces parts ∧
      out = parts.flatMap (Part.octets r.markupOf) ∧
      ∀ m, (r.withMarkups m).editChunks chunks = .ok (parts.flatMap (Part.octets m)) := by
  obtain ⟨pieces, hcut⟩ := exists_cut .data chunks.flatten
  have hown : (r.withMarkups r.markupOf).editChunks chunks = .ok out := by
    rwa [withMarkups_markupOf]
  obtain ⟨parts, hlaid, hout⟩ := exists_laidOut hcut r.markupOf hown
  refine ⟨pieces, parts, hcut, fun _ => hcut.unique, hlaid.placed, hout.symm, fun m => ?_⟩
  obtain ⟨out', hout'⟩ : ∃ out', (r.withMarkups m).editChunks chunks = .ok out' := by
    rw [editChunks_eq] at h ⊢
    rw [start_withMarkups]
    exact outcome_withMarkups m h
  obtain ⟨parts', hlaid', rfl⟩ := exists_laidOut hcut m hout'
  rw [hout', hlaid.unique hlaid']

/-- After the first heading comes another one, and after the first tag of any kind a mark. -/
def headingEditor : Editor :=
  (empty.injectAfter ⟨some "h1", none⟩ "<h1>").injectAfter ⟨none, none⟩ "!"

/-- A body with two headings, of which the first is cut. -/
def headingChunks : List Bytes := [Utf8.encode "<!--<h1>--><h", Utf8.encode "1>a<h1>"]

/-- Both rules fire at the first heading of the body, and at no other. -/
theorem editChunks_placed_headings :
    headingEditor.editChunks headingChunks = .ok (Utf8.encode "<!--<h1>--><h1><h1>!a<h1>") ∧
      ∃ pieces parts, Cut .data headingChunks.flatten pieces ∧
        (∀ other, Cut .data headingChunks.flatten other → other = pieces) ∧
        headingEditor.Placed pieces parts ∧
        Utf8.encode "<!--<h1>--><h1><h1>!a<h1>" =
          parts.flatMap (Part.octets headingEditor.markupOf) ∧
        ∀ m, (headingEditor.withMarkups m).editChunks headingChunks =
          .ok (parts.flatMap (Part.octets m)) :=
  have h : headingEditor.editChunks headingChunks =
      .ok (Utf8.encode "<!--<h1>--><h1><h1>!a<h1>") := by decide +kernel
  ⟨h, editChunks_placed h⟩

end Editor

end ProxyFilter.Html
