import ProxyFilter.Proofs.Html.LocalEdits
import ProxyFilter.Proofs.Html.Retained
import ProxyFilter.Proofs.Text.Utf8

/-!
# Where editing fails

Editing a body fails at a piece of it, for one of two reasons (`Editor.FailsAt`): the piece is
markup and longer than the limit, or it is a start tag and a rule cannot read the value that it is
for (`AttributeRule.CannotRead`). Only pieces that are met count (`Editor.met`): once an editor has
done all that it can do, it does not look at the rest. `Editor.editTag_eq_error_iff` is what rules
do with one tag, `Editor.outcome_of_failsAt` and `Editor.outcome_of_not_failsAt` what scanning does
with one piece, and the rest is by induction on the pieces. The main result is
`Editor.editDocument_eq_error_iff`.
-/

namespace ProxyFilter.Html

/-! ## Rules that cannot read a value -/

/-- The rule is for a value of the tag, and that value is no text in UTF-8. -/
def AttributeRule.CannotRead (tag : StartTag) (rule : AttributeRule) : Prop :=
  ∃ place v, rule.isAt tag place = true ∧
    (tag.attributes[place]?).bind TagAttribute.value = some v ∧ ∀ text, v.inner ≠ Utf8.encode text

section
variable {tag : StartTag} {rule : AttributeRule} {done rules : List AttributeRule} {edits : Edits}
  {place : Nat} {v : AttributeValue} {e : StreamError}

/-- A value that is no text has no edit. -/
theorem Edits.Reflect.currentText?_eq_none (h : edits.Reflect tag done)
    (hvalue : (tag.attributes[place]?).bind TagAttribute.value = some v)
    (hinner : ∀ text, v.inner ≠ Utf8.encode text) : Html.currentText? edits place v = none := by
  have hdecode : Utf8.decode? v.inner = none := Utf8.decode?_eq_none_iff.2 hinner
  have hlookup : edits.lookup place = none := by
    rw [h place, StartTag.newText?, StartTag.textAt?, hvalue, Option.bind_some, hdecode]
    rfl
  rw [Html.currentText?, hlookup]
  exact hdecode

/-- A value without an edit whose text cannot be told is no text. -/
theorem forall_ne_encode_of_currentText? (h : currentText? edits place v = none) (text : String) :
    v.inner ≠ Utf8.encode text := by
  unfold currentText? at h
  split at h
  · cases h
  · exact Utf8.decode?_eq_none_iff.1 h text

/-- A rule fails just where it cannot read the value that it is for. -/
theorem AttributeRule.edit_eq_error_iff (h : edits.Reflect tag done) :
    rule.edit tag edits = .error e ↔ rule.CannotRead tag ∧ e = .invalidUtf8 rule.target := by
  constructor
  · intro hedit
    unfold edit at hedit
    split at hedit
    · cases hedit
    next hfor =>
    split at hedit
    · cases hedit
    next place hfind =>
    split at hedit
    · cases hedit
    next v hvalue =>
    split at hedit
    · next hcurrent =>
      cases hedit
      have hat : rule.isAt tag place = true := isAt_iff.2 ⟨by simpa using hfor, hfind⟩
      exact ⟨⟨place, v, hat, hvalue, forall_ne_encode_of_currentText? hcurrent⟩, rfl⟩
    · split at hedit
      · cases hedit
      · split at hedit <;> cases hedit
  · rintro ⟨⟨place, v, hat, hvalue, hinner⟩, rfl⟩
    obtain ⟨hfor, hfind⟩ := isAt_iff.1 hat
    simp only [edit, hfor, hfind, hvalue, h.currentText?_eq_none hvalue hinner]
    rfl

/-- Rules fail at the first one that cannot read the value that it is for. By induction on the
rules; the edits are those that the rules before have made. -/
theorem foldlM_edit_eq_error_iff (h : edits.Reflect tag done) :
    rules.foldlM (AttributeRule.edit tag) edits = .error e ↔
      ∃ rule, IsFirst (AttributeRule.CannotRead tag) rules rule ∧ e = .invalidUtf8 rule.target := by
  induction rules generalizing done edits with
  | nil =>
    constructor
    · intro hfold
      cases hfold
    · rintro ⟨rule, hfirst, -⟩
      exact absurd hfirst not_isFirst_nil
  | cons rule rules ih =>
    rw [List.foldlM_cons]
    cases hedit : rule.edit tag edits with
    | error e' =>
      obtain ⟨hcannot, rfl⟩ := (AttributeRule.edit_eq_error_iff h).1 hedit
      simp only [isFirst_cons_of_pos hcannot, exists_eq_left]
      constructor
      · intro hfail
        exact (Except.error.inj hfail).symm
      · rintro rfl
        rfl
    | ok edits' =>
      have hcan : ¬ rule.CannotRead tag := by
        intro hcannot
        rw [(AttributeRule.edit_eq_error_iff h).2 ⟨hcannot, rfl⟩] at hedit
        cases hedit
      simp only [isFirst_cons_of_neg hcan]
      exact ih (rule.edit_reflect h hedit)

/-- A tag cannot be edited just where a rule cannot read its value, and the first such rule
decides why. -/
theorem Editor.editTag_eq_error_iff {r : Editor} : r.editTag tag = .error e ↔
    ∃ rule, IsFirst (AttributeRule.CannotRead tag) r.attributeRules rule ∧
      e = .invalidUtf8 rule.target := by
  have hstart : Edits.Reflect tag [] [] := fun place => (tag.newText?_nil place).symm
  rw [editTag, Except.map_eq_error, foldlM_edit_eq_error_iff hstart]

end

/-! ## Pieces at which editing fails -/

namespace Piece

/-- The piece begins with markup: it is no text, and no contents of a script or style. -/
def isMarkup : Piece → Bool
  | construct _ | startTag _ | unfinished _ => true
  | text _ | contents _ => false

/-- The start tag that a piece is. -/
def tag? : Piece → Option StartTag
  | startTag tag => some tag
  | text _ | construct _ | contents _ | unfinished _ => none

end Piece

namespace Editor

/-- Why editing fails at a piece. The length is looked at first. -/
inductive FailsAt (r : Editor) : Piece → StreamError → Prop
  | tooLong {p : Piece} : p.isMarkup = true → r.limit < p.source.length →
      FailsAt r p (.tagTooLong r.limit)
  | notUtf8 {tag : StartTag} {rule : AttributeRule} : tag.source.length ≤ r.limit →
      IsFirst (AttributeRule.CannotRead tag) r.attributeRules rule →
      FailsAt r (.startTag tag) (.invalidUtf8 rule.target)

/-- Editing fails at a piece. -/
def Fails (r : Editor) (p : Piece) : Prop := ∃ e, r.FailsAt p e

/-- The editor has nothing to do any more after some start tags: it has no rules for attributes, and
each of its other rules is for one of these tags. -/
def isDoneAfter (r : Editor) (earlier : List StartTag) : Bool :=
  r.attributeRules.isEmpty && r.injectRules.all fun rule => earlier.any rule.selector.isFor

/-- The pieces that are looked at, of those that come after the tags `earlier`. -/
def met (r : Editor) : List StartTag → List Piece → List Piece
  | _, [] => []
  | earlier, p :: pieces =>
    if r.isDoneAfter earlier then [] else p :: r.met (earlier ++ p.tag?.toList) pieces

/-- The scanner after some start tags. -/
def scannerAfter (r : Editor) (earlier : List StartTag) (mode : Mode) : Scanner where
  mode := mode
  injected := r.injectRules.map fun rule => earlier.any rule.selector.isFor
  complete := r.isDoneAfter earlier

variable {r : Editor} {earlier : List StartTag} {mode : Mode} {p : Piece} {pieces : List Piece}
  {b rest : Bytes} {e : StreamError} {tag : StartTag} {limit : Nat}

/-- A stream begins after no tags. -/
theorem start_scanner (r : Editor) : r.start.scanner = r.scannerAfter [] .data := by
  have hinject : r.injectRules.isEmpty =
      r.injectRules.all fun rule => [].any rule.selector.isFor := by
    cases r.injectRules <;> rfl
  simp only [start, scannerAfter, isDoneAfter, isEmpty, hinject]
  rfl

/-- The step at a start tag, by what rules make of it. -/
theorem stepTag_scannerAfter (r : Editor) (earlier : List StartTag) (mode : Mode) (tag : StartTag)
    (rest : Bytes) : r.stepTag (r.scannerAfter earlier mode) [] tag rest =
      match r.editTag tag with
      | .error e => .fail [] e
      | .ok changed => .advance (changed.source ++ r.markupAt earlier tag)
          (r.scannerAfter (earlier ++ [tag]) (modeAfter tag)) rest := by
  rw [stepTag, scannerAfter, injections_eq]
  cases r.editTag tag with
  | error e => rfl
  | ok changed =>
    simp only [scannerAfter, isDoneAfter, List.all_map, List.nil_append]
    rfl

/-! ## Piece by piece -/

/-- What is told of markup that stands in front: what it is, within the limit. -/
theorem next_of_standsBefore (hlimit : minLimit ≤ limit) (h : p.StandsBefore rest)
    (hmarkup : p.isMarkup = true) :
    Markup.next limit (p.source ++ rest) = Markup.within limit p.source (p.told rest) := by
  cases p with
  | construct octets => exact Markup.next_of_construct h rest
  | startTag tag => exact Markup.next_of_startTag h rest
  | unfinished octets =>
    obtain ⟨h, rfl⟩ := h
    simp only [Piece.source, Piece.told, List.append_nil]
    rcases Markup.next_of_unfinished limit h with hnext | ⟨hlong, hnext⟩
    · obtain ⟨tail, rfl, -⟩ := h.opens
      have hle := Markup.length_le_of_next hlimit hnext
      rw [hnext, Markup.within, if_neg (Nat.not_lt.2 hle)]
    · rw [hnext, Markup.within, if_pos hlong]
  | text | contents => cases hmarkup

/-- The step at markup that stands in front. -/
theorem step_of_standsBefore (hlimit : minLimit ≤ r.limit) (hdone : r.isDoneAfter earlier = false)
    (h : p.StandsBefore rest) (hmarkup : p.isMarkup = true) :
    r.step (r.scannerAfter earlier .data) (p.source ++ rest) =
      r.stepTold (r.scannerAfter earlier .data) (p.source ++ rest)
        (Markup.within r.limit p.source (p.told rest)) := by
  obtain ⟨tail, htail⟩ : ∃ tail, p.source ++ rest = 60 :: tail := by
    rcases h.told with ⟨octets, rfl, -⟩ | ⟨htail, -⟩
    · cases hmarkup
    · exact htail
  rw [step_lt (s := r.scannerAfter earlier .data) hdone rfl htail,
    next_of_standsBefore hlimit h hmarkup]

/-- Editing fails where a piece at which it does stands in front. -/
theorem outcome_of_failsAt (hlimit : minLimit ≤ r.limit) (hdone : r.isDoneAfter earlier = false)
    (h : p.StandsBefore rest) (hfails : r.FailsAt p e) :
    r.outcome (r.scannerAfter earlier .data) (p.source ++ rest) = .error e := by
  cases hfails with
  | tooLong hmarkup hlong =>
    have hstep := step_of_standsBefore hlimit hdone h hmarkup
    rw [Markup.within, if_pos hlong] at hstep
    exact outcome_of_step_fail hstep
  | @notUtf8 tag rule hle hfirst =>
    have hstep := step_of_standsBefore hlimit hdone h rfl
    have hedit : r.editTag tag = .error (.invalidUtf8 rule.target) :=
      editTag_eq_error_iff.2 ⟨rule, hfirst, rfl⟩
    have htag := stepTag_scannerAfter r earlier .data tag rest
    rw [hedit] at htag
    have hwithin : ¬ r.limit < (Piece.startTag tag).source.length := Nat.not_lt.2 hle
    rw [Markup.within, if_neg hwithin] at hstep
    exact outcome_of_step_fail (hstep.trans htag)

/-- Editing goes on behind a piece at which it does not fail. -/
theorem outcome_of_not_failsAt (hlimit : minLimit ≤ r.limit)
    (hdone : r.isDoneAfter earlier = false) (h : p.StandsBefore rest) (hfails : ¬ r.Fails p) :
    ∃ out, r.outcome (r.scannerAfter earlier .data) (p.source ++ rest) =
      (r.outcome (r.scannerAfter (earlier ++ p.tag?.toList) p.modeAfter) rest).map (out ++ ·) := by
  have hstep (hmarkup : p.isMarkup = true) : r.step (r.scannerAfter earlier .data)
      (p.source ++ rest) = r.stepTold (r.scannerAfter earlier .data) (p.source ++ rest)
        (.ok (p.told rest)) := by
    have hle : ¬ r.limit < p.source.length := fun hlong => hfails ⟨_, .tooLong hmarkup hlong⟩
    rw [step_of_standsBefore hlimit hdone h hmarkup, Markup.within, if_neg hle]
  cases p with
  | text octets =>
    rw [Piece.tag?, Option.toList_none, List.append_nil]
    exact ⟨octets, outcome_of_isText hdone rfl h⟩
  | construct octets =>
    rw [Piece.tag?, Option.toList_none, List.append_nil]
    exact ⟨octets, outcome_of_step_advance (hstep rfl)⟩
  | startTag tag =>
    rw [Piece.modeAfter_startTag]
    have htag := stepTag_scannerAfter r earlier .data tag rest
    have hle : tag.source.length ≤ r.limit :=
      Nat.le_of_not_lt fun hlong => hfails ⟨_, .tooLong rfl hlong⟩
    cases hedit : r.editTag tag with
    | error e =>
      obtain ⟨rule, hfirst, -⟩ := editTag_eq_error_iff.1 hedit
      exact absurd ⟨_, .notUtf8 hle hfirst⟩ hfails
    | ok changed =>
      rw [hedit] at htag
      exact ⟨_, outcome_of_step_advance ((hstep rfl).trans htag)⟩
  | unfinished octets =>
    obtain ⟨-, rfl⟩ := h
    refine ⟨octets, ?_⟩
    rw [outcome_of_step_wait (hstep rfl), outcome_nil]
    simp [Piece.source, Except.map]
  | contents => exact h.elim

/-- Editing does not fail at the contents of a script or style. -/
theorem not_failsAt_contents {octets : Bytes} : ¬ r.FailsAt (.contents octets) e := by
  intro h
  cases h with
  | tooLong hmarkup => cases hmarkup

/-- No piece is met once an editor is done. -/
theorem met_of_done (hdone : r.isDoneAfter earlier = true) : r.met earlier pieces = [] := by
  cases pieces with
  | nil => rfl
  | cons => exact if_pos hdone

/-- The next piece is met while an editor is not done. -/
theorem met_cons (hdone : r.isDoneAfter earlier = false) :
    r.met earlier (p :: pieces) = p :: r.met (earlier ++ p.tag?.toList) pieces := by
  rw [met, hdone]
  rfl

/-- Editing does not fail any more once an editor is done. -/
theorem outcome_eq_error_iff_of_done (hdone : r.isDoneAfter earlier = true) :
    r.outcome (r.scannerAfter earlier mode) b = .error e ↔
      ∃ p, IsFirst r.Fails (r.met earlier pieces) p ∧ r.FailsAt p e := by
  have hout : r.outcome (r.scannerAfter earlier mode) b = .ok b := outcome_complete hdone
  simp [hout, met_of_done hdone, not_isFirst_nil]

/-- **Editing fails at the first piece at which it can, of those that are met.** By induction on the
pieces. -/
theorem outcome_eq_error_iff (hlimit : minLimit ≤ r.limit) (h : Cut mode b pieces) :
    r.outcome (r.scannerAfter earlier mode) b = .error e ↔
      ∃ p, IsFirst r.Fails (r.met earlier pieces) p ∧ r.FailsAt p e := by
  induction h generalizing earlier with
  | done => simp [outcome_nil, met, not_isFirst_nil]
  | @markup p rest pieces hstands hrest ih =>
    cases hdone : r.isDoneAfter earlier with
    | true => exact outcome_eq_error_iff_of_done hdone
    | false =>
    rw [met_cons hdone]
    by_cases hfails : r.Fails p
    · simp only [isFirst_cons_of_pos hfails, exists_eq_left]
      obtain ⟨e', hfails⟩ := hfails
      constructor
      · intro hout
        rw [outcome_of_failsAt hlimit hdone hstands hfails] at hout
        cases hout
        exact hfails
      · intro hfails
        exact outcome_of_failsAt hlimit hdone hstands hfails
    · obtain ⟨out, hout⟩ := outcome_of_not_failsAt hlimit hdone hstands hfails
      simp only [hout, Except.map_eq_error, isFirst_cons_of_neg hfails]
      exact ih
  | @contents kind octets rest pieces hcontents hrest ih =>
    cases hdone : r.isDoneAfter earlier with
    | true => exact outcome_eq_error_iff_of_done hdone
    | false =>
    have hfails : ¬ r.Fails (.contents octets) := fun ⟨_, h⟩ => not_failsAt_contents h
    rw [met_cons hdone, outcome_of_isContents hdone rfl hcontents, Except.map_eq_error, Piece.tag?,
      Option.toList_none, List.append_nil]
    simp only [isFirst_cons_of_neg hfails]
    exact ih

/-! ## Whole bodies -/

/-- **Errors are exact.** A body falls into pieces in one way, and editing it fails just where it
fails at one of the pieces that are met. The first of these decides why: it is markup longer than
the limit, or else a start tag with a value that a rule is for and cannot read, and then the first
such rule counts. -/
theorem editDocument_eq_error_iff (hr : r.Made) (body : Bytes) :
    ∃ pieces, Cut .data body pieces ∧ (∀ other, Cut .data body other → other = pieces) ∧
      ((∃ e, r.editDocument body = .error e) ↔ ∃ p ∈ r.met [] pieces, r.Fails p) ∧
      ∀ e, r.editDocument body = .error e ↔
        ∃ p, IsFirst r.Fails (r.met [] pieces) p ∧ r.FailsAt p e := by
  obtain ⟨pieces, hcut⟩ := exists_cut .data body
  have hwhy (e : StreamError) : r.editDocument body = .error e ↔
      ∃ p, IsFirst r.Fails (r.met [] pieces) p ∧ r.FailsAt p e := by
    rw [editDocument_eq_outcome, start_scanner]
    exact outcome_eq_error_iff hr.minLimit_le hcut
  refine ⟨pieces, hcut, fun _ => hcut.unique, ?_, hwhy⟩
  rw [← exists_isFirst_iff]
  constructor
  · rintro ⟨e, hfail⟩
    obtain ⟨p, hfirst, -⟩ := (hwhy e).1 hfail
    exact ⟨p, hfirst⟩
  · rintro ⟨p, hfirst⟩
    obtain ⟨-, -, -, -, e, hfails⟩ := id hfirst
    exact ⟨e, (hwhy e).2 ⟨p, hfirst, hfails⟩⟩

/-- Every link goes to `/`, and constructs are of sixteen octets at most. -/
def shortLinkEditor : Editor :=
  (empty.withLimit 16).editAttribute ⟨some "a", none⟩ "href" fun _ => some "/"

/-- A link to no text, and a comment that is too long. -/
def faultyBody : Bytes :=
  Utf8.encode "<a href=" ++ [255] ++ Utf8.encode "><!-- no more than that -->"

/-- The link is met before the comment, so it decides. -/
theorem editDocument_eq_error_iff_links :
    shortLinkEditor.editDocument faultyBody = .error (.invalidUtf8 "href") ∧
      ∃ pieces, Cut .data faultyBody pieces ∧
        (∀ other, Cut .data faultyBody other → other = pieces) ∧
        ((∃ e, shortLinkEditor.editDocument faultyBody = .error e) ↔
          ∃ p ∈ shortLinkEditor.met [] pieces, shortLinkEditor.Fails p) ∧
        ∀ e, shortLinkEditor.editDocument faultyBody = .error e ↔
          ∃ p, IsFirst shortLinkEditor.Fails (shortLinkEditor.met [] pieces) p ∧
            shortLinkEditor.FailsAt p e :=
  have hmade : shortLinkEditor.Made := .editAttribute _ _ _ (.withLimit _ .empty)
  ⟨by decide +kernel, editDocument_eq_error_iff hmade faultyBody⟩

end Editor

end ProxyFilter.Html
