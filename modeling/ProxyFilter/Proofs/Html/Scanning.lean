import ProxyFilter.Html.Editor
import ProxyFilter.Proofs.Html.Markup

/-!
# Scanning a stream in pieces

`Editor.scan` goes over the octets at hand step by step. `Editor.scan_eq` is its recursion, free of
the bound on the number of steps: every step that goes on leaves less work (`Scanner.work`), and
there are always steps enough. From it follows `Editor.scan_append`, the law of the module: to scan
two runs of octets at once is to scan the first one, and then what it left together with the second.
Each case rests on what `ProxyFilter.Proofs.Html.Markup` says of one construct.
-/

namespace ProxyFilter.Html

/-! ## Steps and the work they leave -/

/-- More settled octets in front of those of a step. -/
def Step.prepend (out : Bytes) : Step → Step
  | .advance out' s rest => .advance (out ++ out') s rest
  | .wait out' rest => .wait (out ++ out') rest
  | .fail out' e => .fail (out ++ out') e

/-- No octets in front change nothing. -/
@[simp] theorem Step.prepend_nil (step : Step) : step.prepend [] = step := by
  cases step <;> rfl

/-- A step that goes on with more octets in front is one that goes on without them. -/
theorem Step.prepend_eq_advance {step : Step} {text out rest : Bytes} {s : Scanner}
    (h : step.prepend text = .advance out s rest) :
    ∃ out', step = .advance out' s rest := by
  cases step with
  | advance out' _ _ => cases h; exact ⟨out', rfl⟩
  | wait | fail => cases h

/-- What is left to do: two units for each octet, and one for the end of raw text. -/
def Scanner.work (s : Scanner) (b : Bytes) : Nat :=
  2 * b.length + match s.mode with
    | .data => 0
    | .raw _ => 1

namespace Editor

variable {r : Editor} {s s' : Scanner} {b out rest : Bytes}

/-- A stream is text as a whole, or text up to a `<`. -/
theorem cut_at_lt (b : Bytes) : (∀ y ∈ b, (y == 60) = false) ∨
    ∃ text tail, (∀ y ∈ text, (y == 60) = false) ∧ b = text ++ 60 :: tail := by
  obtain ⟨text, after, hcut⟩ : ∃ text after, splitWhen (· == 60) b = (text, after) := ⟨_, _, rfl⟩
  obtain ⟨rfl, htext, hlt⟩ := splitWhen_eq hcut
  cases after with
  | nil => exact .inl (by simpa using htext)
  | cons x tail =>
    obtain rfl : x = 60 := by simpa using hlt x tail rfl
    exact .inr ⟨text, tail, htext, rfl⟩

/-- Text in front of a stream is settled in the same step. -/
theorem stepData_text {text : Bytes} (htext : ∀ y ∈ text, (y == 60) = false) :
    r.stepData s (text ++ b) = (r.stepData s b).prepend text := by
  have htext' : ∀ y ∈ text, (! (y == 60)) = true := fun y hy => by simp [htext y hy]
  have hcut : splitWhen (· == 60) (text ++ b) =
      (text ++ (splitWhen (· == 60) b).1, (splitWhen (· == 60) b).2) := by
    simp only [splitWhen, List.takeWhile_append_of_pos htext', List.dropWhile_append_of_pos htext']
  simp only [stepData, hcut]
  split
  · rfl
  · split
    · rfl
    · rfl
    · simp only [Step.prepend, List.append_assoc]
    · simp only [stepTag]
      split <;> simp only [Step.prepend, List.append_assoc]

/-- The step at a construct. -/
theorem stepData_lt : r.stepData s (60 :: b) =
    match Markup.next r.limit (60 :: b) with
    | .error e => .fail [] e
    | .ok .undecided => .wait [] (60 :: b)
    | .ok (.verbatim octets rest) => .advance octets s rest
    | .ok (.startTag tag rest) => r.stepTag s [] tag rest := by
  have hcut : splitWhen (· == 60) (60 :: b) = ([], 60 :: b) :=
    splitWhen_append_cons (p := (· == 60)) (u := []) (by simp) rfl
  simp only [stepData, hcut]
  rfl

/-- The step without a construct. -/
theorem stepData_noLt (hb : ∀ y ∈ b, (y == 60) = false) : r.stepData s b = .advance b s [] := by
  have := stepData_text (r := r) (s := s) (b := []) hb
  rw [List.append_nil] at this
  rw [this]
  simp [stepData, splitWhen, Step.prepend]

/-- The step at raw text, by where the text ends. -/
theorem stepRaw_eq (kind : RawText) : stepRaw kind s b =
    match RawText.findEnd kind.closing b with
    | .found before rest => .advance before { s with mode := .data } rest
    | .pending before rest => if rest.isEmpty then .advance before s [] else .wait before rest :=
  rfl

/-- Octets in front of the end of raw text are settled in the same step. -/
theorem stepRaw_after {kind : RawText} {b' before : Bytes}
    (h : RawText.findEnd kind.closing b = (RawText.findEnd kind.closing b').after before) :
    stepRaw kind s b = (stepRaw kind s b').prepend before := by
  rw [stepRaw_eq, stepRaw_eq, h]
  cases RawText.findEnd kind.closing b' with
  | found u rest => rw [RawText.End.after_found]; rfl
  | pending u rest =>
    rw [RawText.End.after_pending]
    simp only []
    split <;> rfl

/-- A start tag is settled with what it becomes, and what follows it is left. -/
theorem stepTag_advance {text : Bytes} {tag : StartTag}
    (h : r.stepTag s text tag rest = .advance out s' b) : b = rest := by
  simp only [stepTag] at h
  split at h
  · cases h
  · cases h
    rfl

/-- A step at text and markup that goes on settles an octet. -/
theorem stepData_advance_length (hb : b ≠ []) (h : r.stepData s b = .advance out s' rest) :
    rest.length < b.length := by
  rcases cut_at_lt b with htext | ⟨text, tail, htext, rfl⟩
  · rw [stepData_noLt htext] at h
    cases h
    exact List.length_pos_iff.2 hb
  · rw [stepData_text htext] at h
    obtain ⟨out', h⟩ := Step.prepend_eq_advance h
    rw [stepData_lt] at h
    have hlen : (text ++ 60 :: tail).length = text.length + (60 :: tail).length :=
      List.length_append
    split at h
    · cases h
    · cases h
    · next octets rest' hnext =>
      cases h
      rcases Markup.next_eq_ok hnext (by simp) with ⟨_, _, heq, -⟩ | ⟨_, _, heq, hne, hparts⟩
      · cases heq
      · cases heq
        have := congrArg List.length hparts
        have := List.length_pos_iff.2 hne
        simp only [List.length_append] at *
        omega
    · next tag rest' hnext =>
      obtain rfl := stepTag_advance h
      rcases Markup.next_eq_ok hnext (by simp) with ⟨_, _, heq, -, -, hparts⟩ | ⟨_, _, heq, -⟩
      · cases heq
        have := congrArg List.length hparts
        have : 0 < tag.source.length := by simp [StartTag.source]
        simp only [List.length_append] at *
        omega
      · cases heq

/-- A step that goes on leaves less work. -/
theorem step_advance_work (hb : b ≠ []) (h : r.step s b = .advance out s' rest) :
    s'.work rest < s.work b := by
  have hpos : 0 < b.length := List.length_pos_iff.2 hb
  have hmodes (s : Scanner) (b : Bytes) :
      2 * b.length ≤ s.work b ∧ s.work b ≤ 2 * b.length + 1 := by
    simp only [Scanner.work]
    split <;> omega
  simp only [step] at h
  split at h
  · cases h
    simp only [Scanner.work, List.length_nil]
    omega
  · split at h
    · have := stepData_advance_length hb h
      have := hmodes s b
      have := hmodes s' rest
      omega
    · next kind hmode =>
      have hparts := RawText.findEnd_octets kind.closing b
      rw [stepRaw_eq] at h
      split at h
      · next before rest' hfound =>
        cases h
        rw [hfound] at hparts
        simp only [Scanner.work, hmode, ← hparts, RawText.End.octets, List.length_append]
        omega
      · split at h
        · cases h
          simp only [Scanner.work, List.length_nil]
          omega
        · cases h

/-! ## The recursion of scanning -/

/-- With steps enough for the work, their number does not matter. -/
theorem scanLoop_congr {fuel fuel' : Nat} (h : s.work b < fuel) (h' : s.work b < fuel') :
    r.scanLoop fuel s b = r.scanLoop fuel' s b := by
  induction fuel generalizing fuel' s b with
  | zero => cases h
  | succ fuel ih =>
    cases fuel' with
    | zero => cases h'
    | succ fuel' =>
      simp only [scanLoop]
      split
      · rfl
      · next hb =>
        have hb : b ≠ [] := by simpa using hb
        split
        · next out s' rest hstep =>
          have := step_advance_work hb hstep
          have : s'.work rest < fuel' := by omega
          rw [ih (by omega) this]
        · rfl
        · rfl

/-- Nothing is made of no octets. -/
@[simp] theorem scan_nil (r : Editor) (s : Scanner) : r.scan s [] = ⟨[], s, .ok []⟩ := rfl

/-- No octets are settled, in the way of any mode. -/
theorem step_nil (r : Editor) (s : Scanner) : r.step s [] = .advance [] s [] := by
  simp only [step]
  split
  · rfl
  · split <;> rfl

/-- Scanning is one step, and the scan of what it leaves. -/
theorem scan_eq (r : Editor) (s : Scanner) (b : Bytes) : r.scan s b =
    match r.step s b with
    | .advance out s' rest => (r.scan s' rest).prepend out
    | .wait out rest => ⟨out, s, .ok rest⟩
    | .fail out e => ⟨out, s, .error e⟩ := by
  by_cases hb : b = []
  · subst hb
    rw [step_nil]
    rfl
  · cases hstep : r.step s b with
    | wait | fail => simp [scan, scanLoop, hb, hstep]
    | advance out s' rest =>
      have hfirst : r.scan s b = (r.scanLoop (2 * b.length + 1) s' rest).prepend out := by
        simp [scan, scanLoop, hb, hstep]
      have hwork := step_advance_work hb hstep
      have hfuel : s.work b < 2 * b.length + 2 := by
        simp only [Scanner.work]
        split <;> omega
      have hfuel' : s'.work rest < 2 * rest.length + 2 := by
        simp only [Scanner.work]
        split <;> omega
      rw [hfirst, scanLoop_congr (show s'.work rest < 2 * b.length + 1 by omega) hfuel']
      rfl

/-- A step with more octets in front gives a scan with them in front. -/
theorem scan_of_step_prepend {b' : Bytes} (h : r.step s b = (r.step s b').prepend out) :
    r.scan s b = (r.scan s b').prepend out := by
  rw [scan_eq r s b, scan_eq r s b', h]
  cases r.step s b' <;> simp [Step.prepend, Scanned.prepend]

/-! ## Scanning two runs of octets -/

/-- What scanning makes of more octets, after what it made of those before: it goes on with what
was not settled. -/
def resume (r : Editor) (t : Scanned) (more : Bytes) : Scanned :=
  match t.rest with
  | .ok rest => (r.scan t.scanner (rest ++ more)).prepend t.out
  | .error _ => t

/-- Settled octets in front stay in front. -/
theorem resume_prepend (t : Scanned) (more : Bytes) :
    r.resume (t.prepend out) more = (r.resume t more).prepend out := by
  obtain ⟨out', s, rest⟩ := t
  cases rest <;> simp [resume, Scanned.prepend]

/-- A scan goes on after a settled step as it would have gone on anyway. -/
theorem resume_of_step_advance {more : Bytes} (h : r.step s b = .advance out s' rest)
    (hmore : r.step s (b ++ more) = .advance out s' (rest ++ more))
    (ih : r.scan s' (rest ++ more) = r.resume (r.scan s' rest) more) :
    r.scan s (b ++ more) = r.resume (r.scan s b) more := by
  rw [scan_eq r s b, scan_eq r s (b ++ more), h, hmore]
  simp only [ih, resume_prepend]

/-- A scan goes on after a failed step as it did: not at all. -/
theorem resume_of_step_fail {more : Bytes} {e : StreamError} (h : r.step s b = .fail out e)
    (hmore : r.step s (b ++ more) = .fail out e) :
    r.scan s (b ++ more) = r.resume (r.scan s b) more := by
  rw [scan_eq r s b, scan_eq r s (b ++ more), h, hmore]
  rfl

/-- After a step that waits for more octets, a scan looks at the rest again. -/
theorem resume_of_step_wait {more : Bytes} (h : r.step s b = .wait out rest)
    (hmore : r.step s (b ++ more) = (r.step s (rest ++ more)).prepend out) :
    r.scan s (b ++ more) = r.resume (r.scan s b) more := by
  rw [scan_eq r s b, h, scan_of_step_prepend hmore]
  rfl

/-- The step of a complete stream. -/
theorem step_complete (hs : s.complete = true) : r.step s b = .advance b s [] := by
  rw [step, if_pos hs]

/-- The step at text and markup. -/
theorem step_data (hs : s.complete = false) (hmode : s.mode = .data) :
    r.step s b = r.stepData s b := by
  rw [step, if_neg (by simp [hs])]
  simp only [hmode]

/-- The step at raw text. -/
theorem step_raw {kind : RawText} (hs : s.complete = false) (hmode : s.mode = .raw kind) :
    r.step s b = stepRaw kind s b := by
  rw [step, if_neg (by simp [hs])]
  simp only [hmode]

/-- A run of octets that one step settles as a whole is out of the way of what comes next. -/
theorem resume_of_step_settled {more : Bytes} (h : r.step s b = .advance b s [])
    (hmore : r.step s (b ++ more) = (r.step s more).prepend b) :
    r.scan s (b ++ more) = r.resume (r.scan s b) more := by
  rw [scan_eq r s b, h, scan_of_step_prepend hmore]
  simp [resume, Scanned.prepend]

section
variable {more : Bytes}
  (ih : ∀ s' rest, s'.work rest < s.work b →
    r.scan s' (rest ++ more) = r.resume (r.scan s' rest) more)
include ih

/-- The law of scanning at a construct: what `Markup.next` tells of it stays. -/
theorem scan_append_at_lt {tail : Bytes} (hb : b = 60 :: tail) (hs : s.complete = false)
    (hmode : s.mode = .data) : r.scan s (b ++ more) = r.resume (r.scan s b) more := by
  subst hb
  have hstep (b : Bytes) := (step_data (r := r) (b := 60 :: b) hs hmode).trans stepData_lt
  cases hnext : Markup.next r.limit (60 :: tail) with
  | error e =>
    have hmore := Markup.next_append more (by rw [hnext]; simp)
    rw [hnext] at hmore
    have h : r.step s (60 :: tail) = .fail [] e := by rw [hstep, hnext]
    exact resume_of_step_fail h (by rw [List.cons_append, hstep, hmore]; rfl)
  | ok m =>
    by_cases hm : m = .undecided
    · subst hm
      have h : r.step s (60 :: tail) = .wait [] (60 :: tail) := by rw [hstep, hnext]
      exact resume_of_step_wait h (Step.prepend_nil _).symm
    · have hmore := Markup.next_append more (by rw [hnext]; simpa using hm)
      rw [hnext] at hmore
      cases m with
      | undecided => exact absurd rfl hm
      | verbatim octets rest =>
        have h : r.step s (60 :: tail) = .advance octets s rest := by rw [hstep, hnext]
        refine resume_of_step_advance h (by rw [List.cons_append, hstep, hmore]; rfl) ?_
        exact ih s rest (step_advance_work (by simp) h)
      | startTag tag rest =>
        have h : r.step s (60 :: tail) = r.stepTag s [] tag rest := by rw [hstep, hnext]
        have h' : r.step s (60 :: tail ++ more) = r.stepTag s [] tag (rest ++ more) := by
          rw [List.cons_append, hstep, hmore]
          rfl
        cases htag : r.editTag tag with
        | error e =>
          simp only [stepTag, htag] at h h'
          exact resume_of_step_fail h h'
        | ok changed =>
          simp only [stepTag, htag] at h h'
          exact resume_of_step_advance h h' (ih _ rest (step_advance_work (by simp) h))

/-- The law of scanning at text and markup. Text in front of the first construct stands aside. -/
theorem scan_append_data (hs : s.complete = false) (hmode : s.mode = .data) :
    r.scan s (b ++ more) = r.resume (r.scan s b) more := by
  have hstep (b : Bytes) := step_data (r := r) (b := b) hs hmode
  rcases cut_at_lt b with htext | ⟨text, tail, htext, rfl⟩
  · exact resume_of_step_settled (by rw [hstep, stepData_noLt htext])
      (by rw [hstep, hstep, stepData_text htext])
  · have hfront (b : Bytes) : r.scan s (text ++ b) = (r.scan s b).prepend text :=
      scan_of_step_prepend (by rw [hstep, hstep, stepData_text htext])
    have hrest : r.scan s (60 :: tail ++ more) = r.resume (r.scan s (60 :: tail)) more := by
      refine scan_append_at_lt (fun s' rest hwork => ih s' rest ?_) rfl hs hmode
      simp only [Scanner.work, List.length_append] at hwork ⊢
      omega
    rw [List.append_assoc, hfront, hfront, hrest, resume_prepend]

/-- The law of scanning at raw text: its end is where it was, or is yet to be found. -/
theorem scan_append_raw {kind : RawText} (hs : s.complete = false) (hmode : s.mode = .raw kind)
    (hb : b ≠ []) : r.scan s (b ++ more) = r.resume (r.scan s b) more := by
  have hstep (b : Bytes) := step_raw (r := r) (b := b) hs hmode
  have hmore := RawText.findEnd_append kind.closing b more
  have hparts := RawText.findEnd_octets kind.closing b
  cases hend : RawText.findEnd kind.closing b with
  | found before rest =>
    rw [hend] at hmore
    have h : r.step s b = .advance before { s with mode := .data } rest := by
      rw [hstep, stepRaw_eq, hend]
    exact resume_of_step_advance h (by rw [hstep, stepRaw_eq, hmore])
      (ih _ rest (step_advance_work hb h))
  | pending before rest =>
    rw [hend] at hmore hparts
    by_cases hrest : rest = []
    · subst hrest
      obtain rfl : before = b := by simpa [RawText.End.octets] using hparts
      exact resume_of_step_settled (by rw [hstep, stepRaw_eq, hend]; rfl)
        (by rw [hstep, hstep, stepRaw_after hmore, List.nil_append])
    · have h : r.step s b = .wait before rest := by
        rw [hstep, stepRaw_eq, hend]
        simp [hrest]
      exact resume_of_step_wait h (by rw [hstep, hstep, stepRaw_after hmore])

end

/-- **Scanning two runs of octets at once is scanning the first, and then what it left together
with the second.** By induction on the work. -/
theorem scan_append (r : Editor) (s : Scanner) (b more : Bytes) :
    r.scan s (b ++ more) = r.resume (r.scan s b) more := by
  induction hn : s.work b using Nat.strongRecOn generalizing s b with
  | ind n ih =>
    subst hn
    have ih (s' : Scanner) (rest : Bytes) (hwork : s'.work rest < s.work b) :=
      ih _ hwork s' rest rfl
    by_cases hb : b = []
    · subst hb
      simp [resume, Scanned.prepend]
    · cases hs : s.complete with
      | true =>
        exact resume_of_step_settled (step_complete hs)
          (by rw [step_complete hs, step_complete hs, Step.prepend])
      | false =>
        cases hmode : s.mode with
        | data => exact scan_append_data ih hs hmode
        | raw kind => exact scan_append_raw ih hs hmode hb

end Editor

end ProxyFilter.Html
