import ProxyFilter.Proofs.Html.Chunks
import ProxyFilter.Proofs.Html.Pieces

/-!
# What a stream keeps back

Between two chunks a stream keeps what it cannot settle yet, and no more (`Editor.Retains`):
nothing, a construct that the octets so far leave unfinished, or octets that may begin the end tag
of the script or style that is open. `Editor.Takes` says what a step of scanning does with the
octets at hand. One that waits leaves just what may be kept, so a scan does (`Editor.scan_retains`),
by induction on the work, and so do all chunks (`Editor.feedAll_retains`). None of it is longer than
the limit of an editor that can be made (`Editor.Made`).

At the end of a stream what is kept is given out as it is, and from then on nothing happens any more
(`Editor.finish_feedAll`).
-/

namespace ProxyFilter.Html

/-! ## Editors that can be made -/

/-- The editors that can be made: the one without rules, and what comes of an editor with another
limit or one more rule. -/
inductive Editor.Made : Editor → Prop
  | empty : Made .empty
  | withLimit {r : Editor} (limit : Nat) : Made r → Made (r.withLimit limit)
  | editAttribute {r : Editor} (selector : Selector) (name : String)
      (transform : String → Option String) : Made r → Made (r.editAttribute selector name transform)
  | injectAfter {r : Editor} (selector : Selector) (markup : String) :
      Made r → Made (r.injectAfter selector markup)

/-- An editor that can be made has no limit below the least one. -/
theorem Editor.Made.minLimit_le {r : Editor} (h : r.Made) : minLimit ≤ r.limit := by
  induction h with
  | empty => decide
  | withLimit limit _ _ => exact Nat.le_max_right limit minLimit
  | editAttribute _ _ _ _ ih => exact ih
  | injectAfter _ _ _ ih => exact ih

/-! ## Constructs that cannot be told yet -/

namespace Markup
variable {limit : Nat} {octets b : Bytes} {m m' : Markup}

/-- What is told within the limit is what there is to tell. -/
theorem within_eq_ok (h : within limit octets m = .ok m') : m' = m ∧ octets.length ≤ limit := by
  unfold within at h
  split at h
  · cases h
  · next hle =>
    cases h
    exact ⟨rfl, Nat.le_of_not_lt hle⟩

/-- A reader that tells nothing yet has seen no more octets than the limit allows. -/
theorem length_le_of_passThrough {cut : Option (Bytes × Bytes)}
    (h : passThrough limit b cut = .ok .undecided) : b.length ≤ limit := by
  cases cut with
  | some found => cases (within_eq_ok h).1
  | none => exact (within_eq_ok h).2

/-- What cannot be told yet is within the limit. The beginnings whose length is not looked at are
shorter than the least limit. -/
theorem length_le_of_next (hlimit : minLimit ≤ limit)
    (h : next limit (60 :: b) = .ok .undecided) : (60 :: b).length ≤ limit := by
  have hshort {n : Nat} (hn : n ≤ 3) : n ≤ limit :=
    Nat.le_trans hn (Nat.le_trans (by decide) hlimit)
  cases b with
  | nil => exact hshort (by decide)
  | cons x rest =>
    simp only [next] at h
    split at h
    · split at h
      · next hdash => exact hshort (by rcases hdash with rfl | rfl <;> simp)
      · split at h <;> exact length_le_of_passThrough h
    · split at h
      · exact length_le_of_passThrough h
      · split at h
        · cases rest with
          | nil => exact hshort (by decide : 2 ≤ 3)
          | cons y rest =>
            simp only at h
            split at h
            · exact length_le_of_passThrough h
            · cases h
        · split at h
          · split at h
            · cases (within_eq_ok h).1
            · exact (within_eq_ok h).2
          · cases h

/-- What cannot be told yet is a construct without an end. -/
theorem isUnfinished_of_next (h : next limit (60 :: b) = .ok .undecided) :
    IsUnfinished (60 :: b) where
  opens := by
    refine ⟨b, rfl, fun hopens => ?_⟩
    rw [next_of_opensNothing hopens] at h
    cases h
  construct := by
    rintro read ⟨rest, hrest⟩ hread
    rw [← hrest, next_of_construct hread] at h
    cases (within_eq_ok h).1
  startTag := by
    rintro tag hnamed ⟨rest, hrest⟩
    rw [← hrest, next_of_startTag hnamed] at h
    cases (within_eq_ok h).1

end Markup

/-! ## Octets that may begin an end tag -/

namespace RawText
variable {kind : RawText} {b : Bytes}

/-- The octets begin the end tag of a script or style, up to the end of its name at most, letter
case ignored. -/
def IsBeginning (kind : RawText) (b : Bytes) : Prop :=
  ∃ more, Bytes.sameName (b ++ more) kind.closing = true

/-- Octets that may become the end tag begin it. -/
theorem isBeginning_of_mayBecome (h : mayBecome kind.closing b = true) : kind.IsBeginning b := by
  obtain ⟨more, hmore⟩ := mayBecome_iff.1 h
  refine ⟨kind.closing.drop b.length, beq_iff_eq.2 ?_⟩
  have hcut : more = (kind.closing.map Byte.lower).drop b.length := by
    rw [← hmore, ← List.length_map (f := Byte.lower), List.drop_left]
  rw [List.map_append, List.map_drop, ← hcut, hmore]

/-- The name of an end tag is shorter than the least limit. -/
theorem IsBeginning.length_le (h : kind.IsBeginning b) : b.length ≤ minLimit := by
  obtain ⟨more, hmore⟩ := h
  have hlen := congrArg List.length (beq_iff_eq.1 hmore)
  have hclosing : kind.closing.length ≤ minLimit := by cases kind <;> decide
  simp only [List.length_map, List.length_append] at hlen
  omega

/-- What is kept back of raw text may become its end tag. By induction on the raw text. -/
theorem mayBecome_of_findEnd {closing before rest : Bytes}
    (h : findEnd closing b = .pending before rest) (hrest : rest ≠ []) :
    mayBecome closing rest = true := by
  induction b generalizing before with
  | nil =>
    cases h
    exact absurd rfl hrest
  | cons x b ih =>
    rw [findEnd] at h
    split at h
    · next hmay =>
      cases h
      exact hmay
    · split at h
      · cases h
      · cases hend : findEnd closing b with
        | found => rw [hend] at h; cases h
        | pending before' rest' =>
          rw [hend] at h
          cases h
          exact ih hend

end RawText

/-! ## What is kept -/

namespace Editor

/-- What may be kept back of a stream that is read in a mode. -/
inductive Retains (r : Editor) : Mode → Bytes → Prop
  | nothing {mode : Mode} : Retains r mode []
  | construct {b : Bytes} : IsUnfinished b → Markup.next r.limit b = .ok .undecided →
      Retains r .data b
  | endTag {kind : RawText} {b : Bytes} : b ≠ [] → kind.IsBeginning b → Retains r (.raw kind) b

variable {r : Editor} {s s' : StreamState} {scanner scanner' : Scanner} {b out rest : Bytes}
  {mode : Mode} {chunks : List Bytes}

/-- What is kept back is within the limit. -/
theorem Retains.length_le (h : r.Retains mode b) (hlimit : minLimit ≤ r.limit) :
    b.length ≤ r.limit := by
  cases h with
  | nothing => exact Nat.zero_le _
  | construct hunfinished hnext =>
    obtain ⟨tail, rfl, -⟩ := hunfinished.opens
    exact Markup.length_le_of_next hlimit hnext
  | endTag _ hbegins => exact Nat.le_trans hbegins.length_le hlimit

/-- A step at octets, by what it does with them: they are given out as they are, or a start tag is
edited, or the last of them are kept back, or it fails. -/
inductive Takes (r : Editor) (scanner : Scanner) (b : Bytes) : Step → Prop
  | same {out rest : Bytes} (mode : Mode) : out ++ rest = b →
      Takes r scanner b (.advance out { scanner with mode } rest)
  | tag {text rest markup : Bytes} {tag changed : StartTag} {injected : List Bool} :
      text ++ tag.source ++ rest = b → r.editTag tag = .ok changed →
      injections tag r.injectRules scanner.injected = (markup, injected) →
      Takes r scanner b (.advance (text ++ changed.source ++ markup)
        { mode := modeAfter tag, injected,
          complete := r.attributeRules.isEmpty && injected.all id } rest)
  | wait {out rest : Bytes} : out ++ rest = b → r.Retains scanner.mode rest →
      Takes r scanner b (.wait out rest)
  | fail {out : Bytes} {e : StreamError} : Takes r scanner b (.fail out e)

/-- Text in front is settled in the same step. -/
theorem Takes.prepend {step : Step} (h : r.Takes scanner b step) (text : Bytes) :
    r.Takes scanner (text ++ b) (step.prepend text) := by
  cases h with
  | same mode hparts => exact .same mode (by rw [List.append_assoc, hparts])
  | @tag text' rest _ tag _ _ hparts hedit hinject =>
    have hparts' : text ++ text' ++ tag.source ++ rest = text ++ b := by
      rw [← hparts]
      simp only [List.append_assoc]
    simpa only [Step.prepend, List.append_assoc] using Takes.tag hparts' hedit hinject
  | wait hparts hretains => exact .wait (by rw [List.append_assoc, hparts]) hretains
  | fail => exact .fail

/-- The step at a start tag. -/
theorem stepTag_takes (r : Editor) (scanner : Scanner) (tag : StartTag) (rest : Bytes) :
    r.Takes scanner (tag.source ++ rest) (r.stepTag scanner [] tag rest) := by
  unfold stepTag
  split
  · exact .fail
  · next changed hedit => exact .tag rfl hedit rfl

/-- The step at a construct. -/
theorem stepData_lt_takes (hmode : scanner.mode = .data) (b : Bytes) :
    r.Takes scanner (60 :: b) (r.stepData scanner (60 :: b)) := by
  rw [stepData_lt]
  split
  · exact .fail
  · next hnext =>
    refine .wait rfl ?_
    rw [hmode]
    exact .construct (Markup.isUnfinished_of_next hnext) hnext
  · next octets rest hnext =>
    rcases Markup.next_eq_ok hnext (by simp) with ⟨_, _, heq, -⟩ | ⟨_, _, heq, -, hparts⟩
    · cases heq
    · cases heq
      exact .same scanner.mode hparts.symm
  · next tag rest hnext =>
    rcases Markup.next_eq_ok hnext (by simp) with ⟨_, _, heq, -, -, hparts⟩ | ⟨_, _, heq, -⟩
    · cases heq
      rw [hparts]
      exact stepTag_takes r scanner tag rest
    · cases heq

/-- The step at raw text. -/
theorem stepRaw_takes {kind : RawText} (hmode : scanner.mode = .raw kind) (b : Bytes) :
    r.Takes scanner b (stepRaw kind scanner b) := by
  have hparts := RawText.findEnd_octets kind.closing b
  rw [stepRaw_eq]
  split
  · next before rest hend =>
    rw [hend] at hparts
    exact .same .data hparts
  · next before rest hend =>
    rw [hend] at hparts
    split
    · next hrest =>
      obtain rfl := List.isEmpty_iff.1 hrest
      exact .same scanner.mode hparts
    · next hrest =>
      have hrest : rest ≠ [] := fun hnil => hrest (List.isEmpty_iff.2 hnil)
      have hmay := RawText.mayBecome_of_findEnd hend hrest
      refine .wait hparts ?_
      rw [hmode]
      exact .endTag hrest (RawText.isBeginning_of_mayBecome hmay)

/-- Every step is one of these. -/
theorem step_takes (r : Editor) (scanner : Scanner) (b : Bytes) :
    r.Takes scanner b (r.step scanner b) := by
  have hall : b ++ [] = b := List.append_nil b
  cases hs : scanner.complete with
  | true =>
    rw [step_complete hs]
    exact .same scanner.mode hall
  | false =>
    cases hmode : scanner.mode with
    | data =>
      rw [step_data hs hmode]
      rcases cut_at_lt b with htext | ⟨text, tail, htext, rfl⟩
      · rw [stepData_noLt htext]
        exact .same scanner.mode hall
      · rw [stepData_text htext]
        exact (stepData_lt_takes hmode tail).prepend text
    | raw kind =>
      rw [step_raw hs hmode]
      exact stepRaw_takes hmode b

/-- A step that goes on leaves the end of the octets. -/
theorem suffix_of_step_advance (h : r.step scanner b = .advance out scanner' rest) :
    rest <:+ b := by
  have htakes := step_takes r scanner b
  rw [h] at htakes
  cases htakes with
  | same _ hparts => exact ⟨out, hparts⟩
  | @tag text _ _ tag _ _ hparts => exact ⟨text ++ tag.source, hparts⟩

/-- A step that waits leaves the end of the octets, and what may be kept back. -/
theorem retains_of_step_wait (h : r.step scanner b = .wait out rest) :
    rest <:+ b ∧ r.Retains scanner.mode rest := by
  have htakes := step_takes r scanner b
  rw [h] at htakes
  cases htakes with
  | wait hparts hretains => exact ⟨⟨out, hparts⟩, hretains⟩

/-- What a scan leaves is the end of the octets, and what may be kept back. By induction on the
work: a step that goes on leaves less of it, and the last step leaves nothing or waits. -/
theorem scan_retains (h : r.scan scanner b = ⟨out, scanner', .ok rest⟩) :
    rest <:+ b ∧ r.Retains scanner'.mode rest := by
  induction hn : scanner.work b using Nat.strongRecOn generalizing scanner b out with
  | ind n ih =>
    subst hn
    by_cases hb : b = []
    · subst hb
      cases h
      exact ⟨List.suffix_rfl, .nothing⟩
    · rw [scan_eq] at h
      cases hstep : r.step scanner b with
      | advance out₁ scanner₁ b₁ =>
        simp only [hstep] at h
        cases hscan : r.scan scanner₁ b₁ with
        | mk out₂ scanner₂ rest₂ =>
          rw [hscan] at h
          cases h
          obtain ⟨hsuffix, hretains⟩ := ih _ (step_advance_work hb hstep) hscan rfl
          exact ⟨hsuffix.trans (suffix_of_step_advance hstep), hretains⟩
      | wait =>
        simp only [hstep] at h
        cases h
        exact retains_of_step_wait hstep
      | fail =>
        simp only [hstep] at h
        cases h

/-- Chunks that are taken without an error are scanned as a whole, and leave a settled state. -/
theorem feedAll_eq_ok (hs : s.Settled r) (h : r.feedAll s chunks = (s', .ok out)) :
    r.scan s.scanner (s.pending ++ chunks.flatten) = ⟨out, s'.scanner, .ok s'.pending⟩ ∧
      s'.Settled r := by
  have hall := r.feedAll_eq chunks hs
  cases hscan : r.scan s.scanner (s.pending ++ chunks.flatten) with
  | mk out' last left =>
    rw [hscan] at hall
    cases left with
    | error e =>
      simp only [h] at hall
      cases hall
    | ok rest =>
      simp only [h] at hall
      cases hall
      exact ⟨rfl, rfl, rfl, scan_rest hscan⟩

/-- **What is kept back is bounded, and cannot be settled yet.** After any chunks, the octets that
are kept are the last ones that came, no more than the limit allows, and they are none, a construct
that may still end in more than one way, or a beginning of the end tag of the script or style that
is open. -/
theorem feedAll_retains (hr : r.Made) (h : r.feedAll r.start chunks = (s, .ok out)) :
    s.pending <:+ chunks.flatten ∧ s.pending.length ≤ r.limit ∧
      r.Retains s.scanner.mode s.pending := by
  obtain ⟨hscan, -⟩ := feedAll_eq_ok r.start_settled h
  obtain ⟨hsuffix, hretains⟩ := scan_retains hscan
  exact ⟨hsuffix, hretains.length_le hr.minLimit_le, hretains⟩

/-- There is markup after the first paragraph, and constructs are of sixteen octets at most. -/
def paragraphEditor : Editor := (empty.withLimit 16).injectAfter ⟨some "p", none⟩ "!"

/-- A script whose end tag comes in two chunks and is not complete. -/
def scriptChunks : List Bytes := [Utf8.encode "a<script><p></", Utf8.encode "SCRI"]

/-- The state after these chunks. -/
def scriptState : StreamState where
  pending := Utf8.encode "</SCRI"
  out := []
  scanner := { mode := .raw .script, injected := [false], complete := false }
  finished := false

/-- What the chunks leave. -/
theorem feedAll_scriptChunks : paragraphEditor.feedAll paragraphEditor.start scriptChunks =
    (scriptState, .ok (Utf8.encode "a<script><p>")) := by
  decide +kernel

/-- The beginning of the end tag is kept back, in whichever letter case. -/
theorem feedAll_retains_script :
    paragraphEditor.feedAll paragraphEditor.start scriptChunks =
        (scriptState, .ok (Utf8.encode "a<script><p>")) ∧
      scriptState.pending <:+ scriptChunks.flatten ∧
      scriptState.pending.length ≤ paragraphEditor.limit ∧
      paragraphEditor.Retains scriptState.scanner.mode scriptState.pending :=
  have hmade : paragraphEditor.Made := .injectAfter _ _ (.withLimit _ .empty)
  ⟨feedAll_scriptChunks, feedAll_retains hmade feedAll_scriptChunks⟩

end Editor

/-! ## The end of a stream -/

/-- A call on a stream. -/
inductive StreamCall
  /-- One more chunk. -/
  | feed (chunk : Bytes)
  /-- The end of the stream. -/
  | finish

namespace StreamCall

/-- What a call gives out once the stream has ended. -/
def afterEnd : StreamCall → Except StreamError Bytes
  | feed _ => .error .alreadyFinished
  | finish => .ok []

/-- Makes a call: the state after it, and what it gives out. -/
def make (r : Editor) (s : StreamState) : StreamCall → StreamState × Except StreamError Bytes
  | feed chunk => r.feed s chunk
  | finish => r.finish s

/-- A call on a stream that has ended leaves the state as it is. -/
theorem make_of_finished {r : Editor} {s : StreamState} (hs : s.finished = true)
    (call : StreamCall) : call.make r s = (s, call.afterEnd) := by
  cases call with
  | feed chunk => exact if_pos hs
  | finish => exact if_pos hs

end StreamCall

namespace Editor
variable {r : Editor} {s : StreamState} {chunks : List Bytes} {out : Bytes}

/-- Makes calls in order: the state after the last one, and what each of them gives out. -/
def makeAll (r : Editor) (s : StreamState) :
    List StreamCall → StreamState × List (Except StreamError Bytes)
  | [] => (s, [])
  | call :: calls =>
    let (s, result) := call.make r s
    let (s, results) := r.makeAll s calls
    (s, result :: results)

/-- Calls on a stream that has ended leave the state as it is. By induction on the calls. -/
theorem makeAll_of_finished (hs : s.finished = true) (calls : List StreamCall) :
    r.makeAll s calls = (s, calls.map StreamCall.afterEnd) := by
  induction calls with
  | nil => rfl
  | cons call calls ih =>
    rw [makeAll, StreamCall.make_of_finished hs]
    simp only [ih, List.map_cons]

/-- A settled stream ends with what is kept, and all else is as it was. -/
theorem finish_eq_of_settled (hs : s.Settled r) :
    r.finish s = ({ s with pending := [], finished := true }, .ok s.pending) := by
  obtain ⟨hunfinished, hout, hpending⟩ := hs
  simp only [finish, hunfinished, hout, hpending]
  simp

/-- **A stream ends with exactly the octets that are kept.** After any chunks, the end of a stream
never fails: what is kept is given out as it is, no rule acts on it, and nothing is kept any more.
However many calls come after that and whichever they are, the state stays as it is, a chunk is
refused, and one more end gives out nothing. -/
theorem finish_feedAll (h : r.feedAll r.start chunks = (s, .ok out)) :
    ∃ s', r.finish s = (s', .ok s.pending) ∧ s'.pending = [] ∧ s'.finished = true ∧
      s'.scanner = s.scanner ∧
      ∀ calls, r.makeAll s' calls = (s', calls.map StreamCall.afterEnd) := by
  obtain ⟨-, hsettled⟩ := feedAll_eq_ok r.start_settled h
  exact ⟨_, finish_eq_of_settled hsettled, rfl, rfl, rfl, makeAll_of_finished rfl⟩

/-- The beginning of an end tag that is kept back is given out at the end. -/
theorem finish_feedAll_script :
    paragraphEditor.feedAll paragraphEditor.start scriptChunks =
        (scriptState, .ok (Utf8.encode "a<script><p>")) ∧
      ∃ s', paragraphEditor.finish scriptState = (s', .ok (Utf8.encode "</SCRI")) ∧
        s'.pending = [] ∧ s'.finished = true ∧ s'.scanner = scriptState.scanner ∧
        ∀ calls, paragraphEditor.makeAll s' calls = (s', calls.map StreamCall.afterEnd) :=
  ⟨feedAll_scriptChunks, finish_feedAll feedAll_scriptChunks⟩

end Editor

end ProxyFilter.Html
