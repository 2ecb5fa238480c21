import ProxyFilter.Proofs.Html.Chunks
import ProxyFilter.Proofs.Html.Pieces
import ProxyFilter.Proofs.Html.TagEdits

/-!
# Edits are local

What editing makes of a body is told piece by piece (`Editor.Writes`): every piece that is no start
tag is written as it is, and a start tag is written with new texts in the values that rules change,
and with the markup of the rules that fire at it. The scanner knows of the tags before it only
which rules have fired (`Scanner.Follows`), and once it is complete it does not look at the rest at
all; `Editor.writes_of_outcome` shows, piece by piece, that this makes no difference. The main
result is `Editor.editDocument_local`.
-/

namespace ProxyFilter.Html

/-! ## What is written -/

namespace Editor

/-- The markup that is put after a tag: that of the rules for it that are for no earlier tag. -/
def markupAt (r : Editor) (earlier : List StartTag) (tag : StartTag) : Bytes :=
  (r.injectRules.filter fun rule =>
    rule.selector.isFor tag && ! earlier.any rule.selector.isFor).flatMap InjectRule.markup

/-- What editing makes of pieces that come after the tags `earlier`. -/
inductive Writes (r : Editor) : List StartTag → List Piece → Bytes → Prop
  | done {earlier : List StartTag} : Writes r earlier [] []
  | same {earlier : List StartTag} {p : Piece} {pieces : List Piece} {out : Bytes} :
      (∀ tag, p ≠ .startTag tag) → Writes r earlier pieces out →
      Writes r earlier (p :: pieces) (p.source ++ out)
  | startTag {earlier : List StartTag} {tag changed : StartTag} {pieces : List Piece}
      {out : Bytes} : r.EditsTag tag changed → Writes r (earlier ++ [tag]) pieces out →
      Writes r earlier (.startTag tag :: pieces)
        (changed.source ++ r.markupAt earlier tag ++ out)

variable {r : Editor} {tag changed : StartTag} {earlier : List StartTag} {pieces : List Piece}
  {out : Bytes}

/-- No markup is put after a tag where every rule for it is for an earlier tag. -/
theorem markupAt_eq_nil (h : ∀ rule ∈ r.injectRules, rule.selector.isFor tag = true →
    earlier.any rule.selector.isFor = true) : r.markupAt earlier tag = [] := by
  have hnone : (r.injectRules.filter fun rule =>
      rule.selector.isFor tag && ! earlier.any rule.selector.isFor) = [] := by
    refine List.filter_eq_nil_iff.2 fun rule hrule => ?_
    cases hfor : rule.selector.isFor tag with
    | false => simp
    | true => simp [h rule hrule hfor]
  rw [markupAt, hnone]
  rfl

/-- A tag that no rule for attributes selects stays as it is. -/
theorem EditsTag.eq_of_not_isFor (h : r.EditsTag tag changed)
    (hrules : ∀ rule ∈ r.attributeRules, rule.selector.isFor tag = false) : changed = tag := by
  have hattributes : changed.attributes = tag.attributes := by
    refine List.ext_getElem? fun place => ?_
    cases ha : tag.attributes[place]? with
    | none =>
      rw [List.getElem?_eq_none_iff] at ha ⊢
      exact h.length ▸ ha
    | some a =>
      obtain ⟨a', ha', hedits⟩ := h.values place a ha
      cases hedits with
      | keep => exact ha'
      | replace _ _ hrevised =>
        obtain ⟨rule, hrule, -⟩ := exists_change_of_revised? hrevised
        obtain ⟨hmem, hat⟩ := List.mem_filter.1 hrule
        have := (AttributeRule.isAt_iff.1 hat).1
        rw [hrules rule hmem] at this
        cases this
  obtain ⟨name, attributes, gap, selfClosing⟩ := changed
  obtain ⟨rfl, rfl, rfl, -, -⟩ := h
  cases hattributes
  rfl

/-- Where no rule selects a tag, a body is written as it is. -/
theorem Writes.eq_of_not_isFor (h : r.Writes earlier pieces out)
    (hrules : ∀ tag, .startTag tag ∈ pieces →
      (∀ rule ∈ r.attributeRules, rule.selector.isFor tag = false) ∧
        ∀ rule ∈ r.injectRules, rule.selector.isFor tag = false) :
    out = pieces.flatMap Piece.source := by
  induction h with
  | done => rfl
  | same _ _ ih =>
    rw [ih fun tag htag => hrules tag (List.mem_cons_of_mem _ htag)]
    rfl
  | @startTag earlier tag changed pieces out hedits _ ih =>
    obtain ⟨hattribute, hinject⟩ := hrules tag List.mem_cons_self
    have hmarkup : r.markupAt earlier tag = [] :=
      markupAt_eq_nil fun rule hrule hfor => by simp [hinject rule hrule] at hfor
    rw [hedits.eq_of_not_isFor hattribute, hmarkup,
      ih fun tag htag => hrules tag (List.mem_cons_of_mem _ htag)]
    simp [Piece.source]

end Editor

/-! ## What the scanner knows -/

/-- The state of a scanner after some tags: which rules have fired, and, once the stream is
complete, that no rule has anything left to do. -/
structure Scanner.Follows (r : Editor) (earlier : List StartTag) (s : Scanner) : Prop where
  injected : s.injected = r.injectRules.map fun rule => earlier.any rule.selector.isFor
  complete : s.complete = true → r.attributeRules = [] ∧
    ∀ rule ∈ r.injectRules, earlier.any rule.selector.isFor = true

namespace Editor
variable {r : Editor} {s s' : Scanner} {tag changed : StartTag} {earlier : List StartTag}
  {pieces : List Piece} {b b' out rest : Bytes}

/-- A stream begins after no tags. -/
theorem start_follows (r : Editor) : r.start.scanner.Follows r [] where
  injected := rfl
  complete h := by
    have h : r.isEmpty = true := h
    simp only [isEmpty, Bool.and_eq_true, List.isEmpty_iff] at h
    exact ⟨h.1, by simp [h.2]⟩

/-- The markup that is put in is that of the rules that fire, and they are marked. -/
theorem injections_eq (tag : StartTag) (earlier : List StartTag) (rules : List InjectRule) :
    injections tag rules (rules.map fun rule => earlier.any rule.selector.isFor) =
      ((rules.filter fun rule =>
          rule.selector.isFor tag && ! earlier.any rule.selector.isFor).flatMap InjectRule.markup,
        rules.map fun rule => (earlier ++ [tag]).any rule.selector.isFor) := by
  induction rules with
  | nil => rfl
  | cons rule rules ih =>
    have hany : (earlier ++ [tag]).any rule.selector.isFor =
        (earlier.any rule.selector.isFor || rule.selector.isFor tag) := by simp
    simp only [List.map_cons, injections, ih, List.filter_cons, hany]
    cases rule.selector.isFor tag <;> cases earlier.any rule.selector.isFor <;> rfl

/-! ## What becomes of octets -/

/-- What becomes of octets is what becomes of those that one step leaves, after what it settles. -/
theorem outcome_of_step_advance (h : r.step s b = .advance out s' rest) :
    r.outcome s b = (r.outcome s' rest).map (out ++ ·) :=
  outcome_of_prepend (by rw [scan_eq, h])

/-- Octets in front that every step settles stand aside. -/
theorem outcome_of_step_prepend (h : r.step s b = (r.step s b').prepend out) :
    r.outcome s b = (r.outcome s b').map (out ++ ·) :=
  outcome_of_prepend (scan_of_step_prepend h)

/-- Octets that are kept are given out at the end. -/
theorem outcome_of_step_wait (h : r.step s b = .wait out rest) :
    r.outcome s b = .ok (out ++ rest) := by
  rw [outcome, scan_eq, h]
  rfl

/-- Nothing becomes of octets at which scanning fails. -/
theorem outcome_of_step_fail {e : StreamError} (h : r.step s b = .fail out e) :
    r.outcome s b = .error e := by
  rw [outcome, scan_eq, h]
  rfl

/-- Nothing becomes of no octets. -/
theorem outcome_nil (r : Editor) (s : Scanner) : r.outcome s [] = .ok [] := rfl

/-- Octets of a complete stream stay as they are. -/
theorem outcome_complete (hs : s.complete = true) : r.outcome s b = .ok b := by
  rw [outcome_of_step_advance (step_complete hs), outcome_nil]
  simp [Except.map]

/-! ## Piece by piece -/

/-- Where every rule has done what it can, any pieces are written as they are. -/
theorem writes_of_complete (hattribute : r.attributeRules = [])
    (hinject : ∀ rule ∈ r.injectRules, earlier.any rule.selector.isFor = true)
    (pieces : List Piece) : r.Writes earlier pieces (pieces.flatMap Piece.source) := by
  induction pieces generalizing earlier with
  | nil => exact .done
  | cons p pieces ih =>
    by_cases htag : ∃ tag, p = .startTag tag
    · obtain ⟨tag, rfl⟩ := htag
      have hedits : r.EditsTag tag tag := by
        refine ⟨rfl, rfl, rfl, rfl, fun place a ha => ⟨a, ha, .keep ?_⟩⟩
        rw [hattribute, StartTag.newText?_nil]
      have hmarkup : r.markupAt earlier tag = [] :=
        markupAt_eq_nil fun rule hrule _ => hinject rule hrule
      have hrest : r.Writes (earlier ++ [tag]) pieces (pieces.flatMap Piece.source) :=
        ih fun rule hrule => by simp [hinject rule hrule]
      simpa [hmarkup, Piece.source] using Writes.startTag hedits hrest
    · exact .same (fun tag heq => htag ⟨tag, heq⟩) (ih hinject)

/-- A stream that is complete writes the pieces of the rest as they are. -/
theorem writes_of_cut_of_complete {mode : Mode} (h : Cut mode b pieces) (hs : s.Follows r earlier)
    (hcomplete : s.complete = true) (hout : r.outcome s b = .ok out) :
    r.Writes earlier pieces out := by
  obtain ⟨hattribute, hinject⟩ := hs.complete hcomplete
  rw [outcome_complete hcomplete, ← h.flatMap_source] at hout
  cases hout
  exact writes_of_complete hattribute hinject pieces

/-- The step at octets that begin with `<`, by what is told of them. -/
def stepTold (r : Editor) (s : Scanner) (b : Bytes) : Except StreamError Markup → Step
  | .error e => .fail [] e
  | .ok .undecided => .wait [] b
  | .ok (.verbatim octets rest) => .advance octets s rest
  | .ok (.startTag tag rest) => r.stepTag s [] tag rest

/-- At a `<`, scanning goes by what is told. -/
theorem step_lt (hs : s.complete = false) (hmode : s.mode = .data) {tail : Bytes}
    (hb : b = 60 :: tail) : r.step s b = r.stepTold s b (Markup.next r.limit b) := by
  subst hb
  rw [step_data hs hmode, stepData_lt]
  rfl

/-- Where nothing fails, what is told of a construct is within the limit. -/
theorem step_within {octets : Bytes} {m : Markup}
    (hstep : r.step s b = r.stepTold s b (Markup.within r.limit octets m))
    (hout : r.outcome s b = .ok out) : r.step s b = r.stepTold s b (.ok m) := by
  rw [Markup.within] at hstep
  split at hstep
  · rw [outcome_of_step_fail hstep] at hout
    cases hout
  · exact hstep

/-- A run of text is given out, and scanning goes on after it. -/
theorem outcome_of_isText {octets : Bytes} (hs : s.complete = false) (hmode : s.mode = .data)
    (h : IsText octets rest) :
    r.outcome s (octets ++ rest) = (r.outcome s rest).map (octets ++ ·) := by
  rcases h with ⟨-, hall, -⟩ | ⟨rfl, hopens⟩
  · have htext : ∀ y ∈ octets, (y == 60) = false := fun y hy => by simpa using hall y hy
    refine outcome_of_step_prepend ?_
    rw [step_data hs hmode, step_data hs hmode, stepData_text htext]
  · have hstep : r.step s (60 :: rest) = _ := step_lt hs hmode rfl
    rw [Markup.next_of_opensNothing hopens] at hstep
    exact outcome_of_step_advance hstep

/-- A construct is given out, and scanning goes on after it. -/
theorem outcome_of_isConstruct {octets : Bytes} (hs : s.complete = false) (hmode : s.mode = .data)
    (h : IsConstruct octets) (hout : r.outcome s (octets ++ rest) = .ok out) :
    r.outcome s (octets ++ rest) = (r.outcome s rest).map (octets ++ ·) := by
  obtain ⟨x, more, hshape⟩ := h.shape
  have hlt : octets ++ rest = 60 :: (x :: more ++ rest) := by rw [hshape]; rfl
  have hstep : r.step s (octets ++ rest) = _ := step_lt hs hmode hlt
  rw [Markup.next_of_construct h] at hstep
  exact outcome_of_step_advance (step_within hstep hout)

/-- A construct without an end is given out at the end of the stream. -/
theorem outcome_of_isUnfinished {octets : Bytes} (hs : s.complete = false) (hmode : s.mode = .data)
    (h : IsUnfinished octets) (hout : r.outcome s octets = .ok out) : out = octets := by
  obtain ⟨tail, hlt, -⟩ := h.opens
  have hstep : r.step s octets = _ := step_lt hs hmode hlt
  rcases Markup.next_of_unfinished r.limit h with hnext | ⟨-, hnext⟩
  · rw [hnext] at hstep
    rw [outcome_of_step_wait hstep] at hout
    exact (Except.ok.inj hout).symm
  · rw [hnext] at hstep
    rw [outcome_of_step_fail hstep] at hout
    cases hout

/-- A start tag is given out with what rules make of it and the markup of those that fire, and
scanning goes on after it, in the mode that it opens and with that tag among the earlier ones. -/
theorem outcome_of_isNamed (hs : s.Follows r earlier) (hcomplete : s.complete = false)
    (hmode : s.mode = .data) (h : tag.IsNamed) (hout : r.outcome s (tag.source ++ rest) = .ok out) :
    ∃ changed s', r.editTag tag = .ok changed ∧ s'.mode = modeAfter tag ∧
      s'.Follows r (earlier ++ [tag]) ∧ r.outcome s (tag.source ++ rest) =
        (r.outcome s' rest).map (changed.source ++ r.markupAt earlier tag ++ ·) := by
  have hstep : r.step s (tag.source ++ rest) = _ :=
    step_lt hcomplete hmode (congrArg (· ++ rest) tag.source_eq)
  rw [Markup.next_of_startTag h] at hstep
  have hstep : r.step s (tag.source ++ rest) = r.stepTag s [] tag rest := step_within hstep hout
  rw [stepTag, hs.injected, injections_eq] at hstep
  cases htag : r.editTag tag with
  | error e =>
    rw [htag] at hstep
    rw [outcome_of_step_fail hstep] at hout
    cases hout
  | ok changed =>
    rw [htag] at hstep
    refine ⟨changed, _, rfl, rfl, ⟨rfl, fun hdone => ?_⟩, outcome_of_step_advance hstep⟩
    simpa [List.isEmpty_iff] using hdone

/-- The contents of a script or style are given out, and text and markup come after them. -/
theorem outcome_of_isContents {kind : RawText} {octets : Bytes} (hs : s.complete = false)
    (hmode : s.mode = .raw kind) (h : kind.IsContents octets rest) :
    r.outcome s (octets ++ rest) =
      (r.outcome { s with mode := .data } rest).map (octets ++ ·) := by
  have hstep (b : Bytes) : r.step s b = _ := (step_raw hs hmode).trans (stepRaw_eq kind)
  rcases RawText.findEnd_of_contents h with hfound | ⟨rfl, before, kept, rfl, hpending⟩
  · have := hstep (octets ++ rest)
    rw [hfound] at this
    exact outcome_of_step_advance this
  · have := hstep (before ++ kept)
    rw [hpending] at this
    rw [List.append_nil, outcome_nil]
    cases kept with
    | nil =>
      rw [outcome_of_step_advance this, outcome_nil]
      simp [Except.map]
    | cons y kept =>
      rw [outcome_of_step_wait this]
      simp [Except.map]

/-- **What becomes of octets is written piece by piece.** By induction on the pieces. -/
theorem writes_of_outcome {mode : Mode} (h : Cut mode b pieces) (hmode : s.mode = mode)
    (hs : s.Follows r earlier) (hout : r.outcome s b = .ok out) : r.Writes earlier pieces out := by
  induction h generalizing s earlier out with
  | done =>
    cases hout
    exact .done
  | @markup p rest pieces hstands hrest ih =>
    cases hcomplete : s.complete with
    | true => exact writes_of_cut_of_complete (.markup hstands hrest) hs hcomplete hout
    | false =>
    cases p with
    | text octets =>
      rw [Piece.source, outcome_of_isText hcomplete hmode hstands] at hout
      obtain ⟨out', hout', rfl⟩ := Except.map_eq_ok hout
      exact .same (by simp) (ih hmode hs hout')
    | construct octets =>
      have hnext := outcome_of_isConstruct hcomplete hmode hstands hout
      rw [Piece.source, hnext] at hout
      obtain ⟨out', hout', rfl⟩ := Except.map_eq_ok hout
      exact .same (by simp) (ih hmode hs hout')
    | startTag tag =>
      obtain ⟨changed, s', htag, hmode', hs', hnext⟩ :=
        outcome_of_isNamed hs hcomplete hmode hstands hout
      rw [Piece.source, hnext] at hout
      obtain ⟨out', hout', rfl⟩ := Except.map_eq_ok hout
      rw [← Piece.modeAfter_startTag] at hmode'
      exact .startTag (edits_of_editTag htag) (ih hmode' hs' hout')
    | unfinished octets =>
      obtain ⟨hstands, rfl⟩ := hstands
      rw [Piece.source, List.append_nil] at hout
      obtain rfl := outcome_of_isUnfinished hcomplete hmode hstands hout
      have hlast : r.Writes earlier (.unfinished out :: pieces) (out ++ []) :=
        .same (p := .unfinished out) (by simp) (ih hmode hs (outcome_nil r s))
      rwa [List.append_nil] at hlast
    | contents => exact hstands.elim
  | @contents kind octets rest pieces hcontents hrest ih =>
    cases hcomplete : s.complete with
    | true => exact writes_of_cut_of_complete (.contents hcontents hrest) hs hcomplete hout
    | false =>
      rw [outcome_of_isContents hcomplete hmode hcontents] at hout
      obtain ⟨out', hout', rfl⟩ := Except.map_eq_ok hout
      have hs' : Scanner.Follows r earlier { s with mode := .data } := ⟨hs.injected, hs.complete⟩
      exact .same (p := .contents octets) (by simp) (ih rfl hs' hout')

/-! ## Whole bodies -/

/-- **Edits are local.** A body falls into pieces in one way; each of them but the start tags is
written as it is, in place, and a start tag is written with other texts in the values that rules
change and with the markup of the rules that fire at it. So a body stays as it is where no rule
selects any of its start tags. -/
theorem editDocument_local {body : Bytes} (h : r.editDocument body = .ok out) :
    ∃ pieces, Cut .data body pieces ∧ (∀ other, Cut .data body other → other = pieces) ∧
      pieces.flatMap Piece.source = body ∧ r.Writes [] pieces out ∧
      ((∀ tag, .startTag tag ∈ pieces →
          (∀ rule ∈ r.attributeRules, rule.selector.isFor tag = false) ∧
            ∀ rule ∈ r.injectRules, rule.selector.isFor tag = false) → out = body) := by
  obtain ⟨pieces, hcut⟩ := exists_cut .data body
  rw [editDocument_eq_outcome] at h
  have hwrites := writes_of_outcome hcut rfl r.start_follows h
  refine ⟨pieces, hcut, fun _ => hcut.unique, hcut.flatMap_source, hwrites, fun hrules => ?_⟩
  rw [hwrites.eq_of_not_isFor hrules, hcut.flatMap_source]

/-- Every link goes to `/`, and there is markup after the first link. -/
def linkEditor : Editor :=
  (empty.editAttribute ⟨some "a", none⟩ "href" fun _ => some "/").injectAfter ⟨some "a", none⟩ "!"

/-- A link in a comment, one in markup, and one that the body leaves unfinished. -/
def linkBody : Bytes := Utf8.encode "<!--<a>--><a href=x>y</a><a href='x'"

/-- The body with its one link edited. -/
def linkBodyEdited : Bytes := Utf8.encode "<!--<a>--><a href=/>!y</a><a href='x'"

/-- Of three links, one is a start tag of the body. -/
theorem editDocument_local_links :
    linkEditor.editDocument linkBody = .ok linkBodyEdited ∧
      ∃ pieces, Cut .data linkBody pieces ∧
        (∀ other, Cut .data linkBody other → other = pieces) ∧
        pieces.flatMap Piece.source = linkBody ∧ linkEditor.Writes [] pieces linkBodyEdited ∧
        ((∀ tag, .startTag tag ∈ pieces →
            (∀ rule ∈ linkEditor.attributeRules, rule.selector.isFor tag = false) ∧
              ∀ rule ∈ linkEditor.injectRules, rule.selector.isFor tag = false) →
          linkBodyEdited = linkBody) :=
  have h : linkEditor.editDocument linkBody = .ok linkBodyEdited := by decide +kernel
  ⟨h, editDocument_local h⟩

end Editor

end ProxyFilter.Html
