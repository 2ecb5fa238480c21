import ProxyFilter.Proofs.Html.LocalEdits
import ProxyFilter.Proofs.Html.Retained

/-!
# Complete streams

Once every rule has done all that it can do, a stream is complete and the rest of it passes through
unread. `Editor.editThrough` reads on all the same: it takes the same steps
(`Editor.stepThrough`) as if no stream were ever complete. The two part at the step that completes a
stream. From there on the slow way changes nothing (`Editor.stepThrough_advance_same`), so it gives
out in pieces what the fast way gives out at once (`Editor.scan_agrees`), unless it finds an
error in octets that the fast way does not look at. The main result is
`Editor.editChunks_of_editThrough`.
-/

namespace ProxyFilter.Html

namespace Editor

/-! ## Reading on -/

/-- One step of scanning, complete or not. -/
def stepThrough (r : Editor) (s : Scanner) (b : Bytes) : Step :=
  r.step { s with complete := false } b

/-- A step that goes on leaves less work. -/
theorem stepThrough_advance_work {r : Editor} {s s' : Scanner} {b out rest : Bytes} (hb : b ≠ [])
    (h : r.stepThrough s b = .advance out s' rest) : s'.work rest < s.work b :=
  step_advance_work (s := { s with complete := false }) hb h

/-- Scans the octets at hand, complete or not. -/
def scanThrough (r : Editor) (s : Scanner) (b : Bytes) : Scanned :=
  if _ : b = [] then ⟨[], s, .ok []⟩
  else
    match _ : r.stepThrough s b with
    | .advance out s' rest => (r.scanThrough s' rest).prepend out
    | .wait out rest => ⟨out, s, .ok rest⟩
    | .fail out e => ⟨out, s, .error e⟩
termination_by s.work b
decreasing_by exact stepThrough_advance_work ‹_› ‹_›

/-- Edits chunks after octets that are kept, complete or not. -/
def editThroughFrom (r : Editor) (s : Scanner) (kept : Bytes) :
    List Bytes → Except StreamError Bytes
  | [] => do
    let scanned := r.scanThrough s kept
    let rest ← scanned.rest
    return scanned.out ++ rest
  | chunk :: chunks => do
    let scanned := r.scanThrough s (kept ++ chunk)
    let rest ← scanned.rest
    let out ← r.editThroughFrom scanned.scanner rest chunks
    return scanned.out ++ out

/-- Edits a body that comes in chunks, complete or not. -/
def editThrough (r : Editor) (chunks : List Bytes) : Except StreamError Bytes :=
  r.editThroughFrom r.start.scanner [] chunks

variable {r : Editor} {s s' t : Scanner} {b kept out rest text chunk : Bytes}
  {chunks : List Bytes} {tag : StartTag}

/-- Before a stream is complete there is no difference. -/
theorem stepThrough_of_not_complete (hs : s.complete = false) :
    r.stepThrough s b = r.step s b := by
  obtain ⟨mode, injected, complete⟩ := s
  cases hs
  rfl

/-- Nothing is made of no octets. -/
theorem scanThrough_nil (r : Editor) (s : Scanner) : r.scanThrough s [] = ⟨[], s, .ok []⟩ := by
  rw [scanThrough, dif_pos rfl]

/-- Scanning is one step, and the scan of what it leaves. -/
theorem scanThrough_eq (hb : b ≠ []) : r.scanThrough s b =
    match r.stepThrough s b with
    | .advance out s' rest => (r.scanThrough s' rest).prepend out
    | .wait out rest => ⟨out, s, .ok rest⟩
    | .fail out e => ⟨out, s, .error e⟩ := by
  rw [scanThrough, dif_neg hb]
  split <;> simp only [*]

/-- At the end, what is kept is scanned once more, and what that leaves is given out. -/
theorem editThroughFrom_nil_eq_ok (h : r.editThroughFrom s kept [] = .ok out) :
    ∃ first t rest, r.scanThrough s kept = ⟨first, t, .ok rest⟩ ∧ out = first ++ rest := by
  obtain ⟨rest, hrest, hout⟩ := Except.bind_eq_ok h
  cases hscan : r.scanThrough s kept with
  | mk first t left =>
    rw [hscan] at hrest hout
    cases hrest
    exact ⟨first, t, rest, rfl, (Except.ok.inj hout).symm⟩

/-- A chunk is scanned after what is kept, and then come the chunks after it. -/
theorem editThroughFrom_cons_eq_ok (h : r.editThroughFrom s kept (chunk :: chunks) = .ok out) :
    ∃ first t rest last, r.scanThrough s (kept ++ chunk) = ⟨first, t, .ok rest⟩ ∧
      r.editThroughFrom t rest chunks = .ok last ∧ out = first ++ last := by
  obtain ⟨rest, hrest, h⟩ := Except.bind_eq_ok h
  obtain ⟨last, hlast, hout⟩ := Except.bind_eq_ok h
  cases hscan : r.scanThrough s (kept ++ chunk) with
  | mk first t left =>
    rw [hscan] at hrest hlast hout
    cases hrest
    exact ⟨first, t, rest, last, rfl, hlast, (Except.ok.inj hout).symm⟩

/-! ## When a stream is complete -/

/-- The stream is complete just where there are no rules for attributes and each of the other rules
has fired. -/
def IsMarked (r : Editor) (s : Scanner) : Prop :=
  s.complete = (r.attributeRules.isEmpty && s.injected.all id)

/-- A stream without rules begins complete, and no other does. -/
theorem start_isMarked (r : Editor) : r.IsMarked r.start.scanner := by
  have hinject : r.injectRules.isEmpty = (r.injectRules.map fun _ => false).all id := by
    cases r.injectRules <;> rfl
  exact congrArg (r.attributeRules.isEmpty && ·) hinject

/-- A step keeps the mark right: a start tag sets it, and nothing else needs to. -/
theorem step_isMarked (hs : r.IsMarked s) (h : r.step s b = .advance out s' rest) :
    r.IsMarked s' := by
  have htakes := step_takes r s b
  rw [h] at htakes
  cases htakes with
  | same => exact hs
  | tag => rfl

/-- A scan keeps the mark right. By induction on the work. -/
theorem scan_isMarked (hs : r.IsMarked s) (b : Bytes) : r.IsMarked (r.scan s b).scanner := by
  induction hn : s.work b using Nat.strongRecOn generalizing s b with
  | ind n ih =>
    subst hn
    by_cases hb : b = []
    · subst hb
      exact hs
    · rw [scan_eq]
      cases hstep : r.step s b with
      | advance out s' rest =>
        exact ih _ (step_advance_work hb hstep) (step_isMarked hs hstep) rest rfl
      | wait | fail => exact hs

/-- In a stream that is complete every rule has fired. -/
theorem IsMarked.all_injected (h : r.IsMarked s) (hs : s.complete = true) :
    s.injected.all id = true := by
  rw [IsMarked, hs] at h
  exact (Bool.and_eq_true_iff.1 h.symm).2

/-! ## Nothing is left to do -/

/-- Where every rule has fired, none fires any more. By induction on the rules. -/
theorem injections_of_all (tag : StartTag) {rules : List InjectRule} {dones : List Bool}
    (h : dones.all id = true) : injections tag rules dones = ([], dones) := by
  induction rules generalizing dones with
  | nil => rfl
  | cons rule rules ih =>
    cases dones with
    | nil => rfl
    | cons done dones =>
      obtain ⟨hdone, hdones⟩ : done = true ∧ dones.all id = true := by simpa using h
      simp [injections, ih hdones, hdone]

/-- Without rules for attributes, a tag that is edited stays as it is. -/
theorem eq_of_editTag {changed : StartTag} (hr : r.attributeRules = [])
    (h : r.editTag tag = .ok changed) : changed = tag :=
  (edits_of_editTag h).eq_of_not_isFor fun rule hrule => by simp [hr] at hrule

/-- Where every rule has fired, a step that reads on gives out octets as they are. -/
theorem stepThrough_advance_same (hr : r.attributeRules = []) (hs : s.injected.all id = true)
    (h : r.stepThrough s b = .advance out s' rest) :
    out ++ rest = b ∧ s'.injected.all id = true := by
  have htakes := step_takes r { s with complete := false } b
  rw [← stepThrough, h] at htakes
  cases htakes with
  | same _ hparts => exact ⟨hparts, hs⟩
  | tag hparts hedit hinject =>
    obtain rfl := eq_of_editTag hr hedit
    obtain ⟨rfl, rfl⟩ := Prod.mk.inj ((injections_of_all _ hs).symm.trans hinject)
    exact ⟨by rw [List.append_nil, hparts], hs⟩

/-- A step that waits gives out octets as they are. -/
theorem stepThrough_wait_same (h : r.stepThrough s b = .wait out rest) : out ++ rest = b := by
  have htakes := step_takes r { s with complete := false } b
  rw [← stepThrough, h] at htakes
  cases htakes with
  | wait hparts => exact hparts

/-- Where every rule has fired, reading on gives out what there is. By induction on the work. -/
theorem scanThrough_same (hr : r.attributeRules = []) (hs : s.injected.all id = true)
    (h : r.scanThrough s b = ⟨out, t, .ok rest⟩) :
    out ++ rest = b ∧ t.injected.all id = true := by
  induction hn : s.work b using Nat.strongRecOn generalizing s b out with
  | ind n ih =>
    subst hn
    by_cases hb : b = []
    · subst hb
      rw [scanThrough_nil] at h
      cases h
      exact ⟨rfl, hs⟩
    · rw [scanThrough_eq hb] at h
      cases hstep : r.stepThrough s b with
      | advance first s₁ b₁ =>
        simp only [hstep] at h
        obtain ⟨hparts, hs₁⟩ := stepThrough_advance_same hr hs hstep
        cases hscan : r.scanThrough s₁ b₁ with
        | mk last s₂ left =>
          rw [hscan] at h
          cases h
          obtain ⟨hb₁, ht⟩ := ih _ (stepThrough_advance_work hb hstep) hs₁ hscan rfl
          refine ⟨?_, ht⟩
          rw [List.append_assoc, hb₁, hparts]
      | wait =>
        simp only [hstep] at h
        cases h
        exact ⟨stepThrough_wait_same hstep, hs⟩
      | fail =>
        simp only [hstep] at h
        cases h

/-- Where every rule has fired, any chunks are given out as they are. By induction on the chunks. -/
theorem editThroughFrom_same (hr : r.attributeRules = []) (hs : s.injected.all id = true)
    (h : r.editThroughFrom s kept chunks = .ok out) : out = kept ++ chunks.flatten := by
  induction chunks generalizing s kept out with
  | nil =>
    obtain ⟨first, t, rest, hscan, rfl⟩ := editThroughFrom_nil_eq_ok h
    rw [(scanThrough_same hr hs hscan).1, List.flatten_nil, List.append_nil]
  | cons chunk chunks ih =>
    obtain ⟨first, t, rest, last, hscan, hlast, rfl⟩ := editThroughFrom_cons_eq_ok h
    obtain ⟨hparts, ht⟩ := scanThrough_same hr hs hscan
    rw [ih ht hlast, ← List.append_assoc, hparts, List.append_assoc, List.flatten_cons]

/-! ## Both ways -/

/-- A complete stream gives out what there is, at once. -/
theorem scan_complete (hs : s.complete = true) : r.scan s b = ⟨b, s, .ok []⟩ := by
  rw [scan_eq, step_complete hs]
  simp [Scanned.prepend]

/-- What a scan and one that reads on make of the same octets. Either the stream is not complete and
they are alike, or it is, and then all octets are given out, where the scan that reads on may keep
some. -/
inductive Agrees (r : Editor) : Scanned → Scanned → Prop
  | alike {out rest : Bytes} {s : Scanner} : s.complete = false → r.IsMarked s →
      Agrees r ⟨out, s, .ok rest⟩ ⟨out, s, .ok rest⟩
  | complete {out rest : Bytes} {s t : Scanner} : s.complete = true → t.injected.all id = true →
      Agrees r ⟨out ++ rest, s, .ok []⟩ ⟨out, t, .ok rest⟩

/-- Settled octets in front make no difference. -/
theorem Agrees.prepend {fast slow : Scanned} (h : r.Agrees fast slow) (first : Bytes) :
    r.Agrees (fast.prepend first) (slow.prepend first) := by
  cases h with
  | alike hs hmarked => exact .alike hs hmarked
  | @complete out rest s t hs hall =>
    have hagrees : r.Agrees ⟨first ++ out ++ rest, s, .ok []⟩ ⟨first ++ out, t, .ok rest⟩ :=
      .complete hs hall
    rwa [List.append_assoc] at hagrees

/-- Where a stream is complete, the scan gives out what a scan that reads on gives out and keeps. -/
theorem agrees_of_complete (hr : r.attributeRules = []) (hs : s.complete = true)
    (hmarked : r.IsMarked s) (h : (r.scanThrough s b).rest = .ok rest) :
    r.Agrees (r.scan s b) (r.scanThrough s b) := by
  cases hscan : r.scanThrough s b with
  | mk out t left =>
    rw [hscan] at h
    cases h
    obtain ⟨rfl, ht⟩ := scanThrough_same hr (hmarked.all_injected hs) hscan
    rw [scan_complete hs]
    exact .complete hs ht

/-- **A scan agrees with one that reads on and finds no error.** By induction on the work: the steps
are the same up to the one that completes the stream. -/
theorem scan_agrees (hr : r.attributeRules = []) (hs : s.complete = false)
    (hmarked : r.IsMarked s) (h : (r.scanThrough s b).rest = .ok rest) :
    r.Agrees (r.scan s b) (r.scanThrough s b) := by
  induction hn : s.work b using Nat.strongRecOn generalizing s b with
  | ind n ih =>
    subst hn
    by_cases hb : b = []
    · subst hb
      rw [scan_nil, scanThrough_nil]
      exact .alike hs hmarked
    · rw [scanThrough_eq hb, stepThrough_of_not_complete hs] at h ⊢
      rw [scan_eq]
      cases hstep : r.step s b with
      | advance first s₁ b₁ =>
        simp only [hstep] at h ⊢
        have hmarked₁ := step_isMarked hmarked hstep
        refine Agrees.prepend ?_ first
        cases hs₁ : s₁.complete with
        | true => exact agrees_of_complete hr hs₁ hmarked₁ h
        | false => exact ih _ (step_advance_work hb hstep) hs₁ hmarked₁ h rfl
      | wait => exact .alike hs hmarked
      | fail =>
        simp only [hstep] at h
        cases h

/-- What reading on makes of chunks is what becomes of them, while a stream is not complete. By
induction on the chunks. -/
theorem outcome_of_not_complete (hr : r.attributeRules = []) (hs : s.complete = false)
    (hmarked : r.IsMarked s) (h : r.editThroughFrom s kept chunks = .ok out) :
    r.outcome s (kept ++ chunks.flatten) = .ok out := by
  induction chunks generalizing s kept out with
  | nil =>
    obtain ⟨first, t, rest, hscan, rfl⟩ := editThroughFrom_nil_eq_ok h
    have hagrees := scan_agrees hr hs hmarked (congrArg Scanned.rest hscan)
    rw [List.flatten_nil, List.append_nil, outcome]
    generalize r.scan s kept = scanned at hagrees ⊢
    rw [hscan] at hagrees
    cases hagrees with
    | alike => rfl
    | complete => simp [Except.map]
  | cons chunk chunks ih =>
    obtain ⟨first, t, rest, last, hscan, hlast, rfl⟩ := editThroughFrom_cons_eq_ok h
    have hagrees := scan_agrees hr hs hmarked (congrArg Scanned.rest hscan)
    rw [List.flatten_cons, ← List.append_assoc]
    generalize hfast : r.scan s (kept ++ chunk) = scanned at hagrees
    rw [hscan] at hagrees
    cases hagrees with
    | alike ht hmarked =>
      rw [outcome_append _ hfast, ih ht hmarked hlast]
      rfl
    | complete hu ht =>
      rw [outcome_append _ hfast, outcome_complete hu, editThroughFrom_same hr ht hlast,
        ← List.append_assoc]
      rfl

/-- What reading on makes of chunks is what becomes of them. -/
theorem outcome_of_editThroughFrom (hr : r.attributeRules = []) (hmarked : r.IsMarked s)
    (h : r.editThroughFrom s kept chunks = .ok out) :
    r.outcome s (kept ++ chunks.flatten) = .ok out := by
  cases hs : s.complete with
  | true => rw [outcome_complete hs, editThroughFrom_same hr (hmarked.all_injected hs) h]
  | false => exact outcome_of_not_complete hr hs hmarked h

/-- A complete stream takes any chunks as they are. By induction on the chunks. -/
theorem makeAll_of_complete {s : StreamState} (hs : s.Settled r) (hpending : s.pending = [])
    (hcomplete : s.scanner.complete = true) (more : List Bytes) :
    r.makeAll s (more.map .feed) = (s, more.map .ok) := by
  have hsame : (⟨[], [], s.scanner, false⟩ : StreamState) = s := by
    obtain ⟨pending, out, scanner, finished⟩ := s
    obtain ⟨rfl, rfl, -⟩ := hs
    cases hpending
    rfl
  have hfeed (chunk : Bytes) : r.feed s chunk = (s, .ok chunk) := by
    have hscan : r.scan s.scanner (s.pending ++ chunk) = ⟨chunk, s.scanner, .ok []⟩ := by
      rw [hpending, List.nil_append, scan_complete hcomplete]
    rw [(feed_settled hs hscan).1, hsame]
  induction more with
  | nil => rfl
  | cons chunk more ih =>
    simp only [List.map_cons, makeAll, StreamCall.make, hfeed, ih]

/-- **Not to look at the rest of a complete stream makes no difference.** Where there are no rules
for attributes and a body can be edited by reading all of it, it is edited to the same octets in
whichever chunks it comes. After any chunks, a stream is complete just where there are no rules for
attributes and each of the other rules has fired, and then nothing is kept and further chunks are
given out as they are. -/
theorem editChunks_of_editThrough (r : Editor) :
    (r.attributeRules = [] → ∀ chunks chunks' out, chunks'.flatten = chunks.flatten →
      r.editThrough chunks = .ok out → r.editChunks chunks' = .ok out) ∧
    ∀ chunks s out, r.feedAll r.start chunks = (s, .ok out) →
      s.scanner.complete = (r.attributeRules.isEmpty && s.scanner.injected.all id) ∧
      (s.scanner.complete = true → s.pending = [] ∧
        ∀ more : List Bytes, r.makeAll s (more.map .feed) = (s, more.map .ok)) := by
  constructor
  · intro hr chunks chunks' out hflatten h
    have houtcome := outcome_of_editThroughFrom hr r.start_isMarked h
    rw [List.nil_append] at houtcome
    rw [editChunks_eq, hflatten]
    exact houtcome
  · intro chunks s out h
    obtain ⟨hscan, hsettled⟩ := feedAll_eq_ok r.start_settled h
    have hmarked := scan_isMarked r.start_isMarked (r.start.pending ++ chunks.flatten)
    rw [hscan] at hmarked
    refine ⟨hmarked, fun hcomplete => ?_⟩
    have hpending : s.pending = [] := by
      have hagain := hsettled.pending
      rw [scan_complete hcomplete] at hagain
      exact (Scanned.mk.inj hagain).1
    exact ⟨hpending, makeAll_of_complete hsettled hpending hcomplete⟩

/-- A body in which nothing is left to do after its first tag. -/
def paragraphChunks : List Bytes := [Utf8.encode "<p", Utf8.encode ">a<b", Utf8.encode ">c<p"]

/-- The body with markup after that tag. -/
def paragraphsEdited : Bytes := Utf8.encode "<p>!a<b>c<p"

/-- The state after these chunks. -/
def paragraphState : StreamState where
  pending := []
  out := []
  scanner := { mode := .data, injected := [true], complete := true }
  finished := false

/-- Both ways edit the body alike, and the fast way keeps nothing of the tag that it ends with. -/
theorem editChunks_of_editThrough_paragraphs :
    paragraphEditor.editThrough paragraphChunks = .ok paragraphsEdited ∧
      paragraphEditor.editChunks paragraphChunks = .ok paragraphsEdited ∧
      paragraphEditor.feedAll paragraphEditor.start paragraphChunks =
        (paragraphState, .ok paragraphsEdited) ∧
      paragraphState.scanner.complete = true ∧ paragraphState.pending = [] ∧
      ∀ more : List Bytes, paragraphEditor.makeAll paragraphState (more.map .feed) =
        (paragraphState, more.map .ok) :=
  have hthrough : paragraphEditor.editThrough paragraphChunks = .ok paragraphsEdited := by
    decide +kernel
  have hfeed : paragraphEditor.feedAll paragraphEditor.start paragraphChunks =
      (paragraphState, .ok paragraphsEdited) := by
    decide +kernel
  have ⟨hsame, hstates⟩ := editChunks_of_editThrough paragraphEditor
  have ⟨hpending, hmore⟩ := (hstates _ _ _ hfeed).2 rfl
  ⟨hthrough, hsame rfl _ _ _ rfl hthrough, hfeed, rfl, hpending, hmore⟩

end Editor

end ProxyFilter.Html
