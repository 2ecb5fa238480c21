import ProxyFilter.Proofs.Plugin.Body
import ProxyFilter.Proofs.Plugin.Gates

/-!
# Calls on an exchange

The host calls an exchange as it likes: a `Call` is one of the three phases or a property that is
told, and `Exchange.run` makes calls one after the other, in any order and number. A call that stops
the exchange is the last one that does anything. From then on every call is answered by
`Call.silent`: headers stay as they are and nothing of a body is given out
(`Exchange.run_of_stopped`). The main result is `Exchange.run_stops_once`; what one call does to an
open exchange is `Exchange.call_of_open`, and the rest is by induction on the calls.
-/

namespace ProxyFilter

open Html (Editor)

/-! ## Calls and answers -/

/-- A call of the host on an exchange. -/
inductive Call
  /-- The headers of the request, and what the clock says then. -/
  | requestHeaders (now : Instant) (headers : HeaderSet)
  /-- The headers of the response. -/
  | responseHeaders (headers : HeaderSet)
  /-- A chunk of the body of the response. -/
  | responseBody (chunk : Bytes) (isLast : Bool)
  /-- What the host knows about the exchange. -/
  | setProperty (name value : String)
  deriving DecidableEq, Repr

/-- What the host gets for a call. -/
inductive Answer
  /-- Headers, and what to do. -/
  | headers (headers : HeaderSet) (decision : Decision)
  /-- What to do with a chunk. -/
  | body (outcome : BodyOutcome)
  /-- Nothing. -/
  | none
  deriving DecidableEq, Repr

/-- The exchange is over. -/
def BodyOutcome.stops : BodyOutcome → Bool
  | proceed _ => false
  | respond _ => true

/-- The exchange is over. -/
def Answer.stops : Answer → Bool
  | headers _ decision => decision.stops
  | body outcome => outcome.stops
  | none => false

/-- The answer that leaves headers as they are and gives out nothing. -/
def Call.silent : Call → Answer
  | requestHeaders _ headers | responseHeaders headers => .headers headers .proceed
  | responseBody _ _ => .body (.proceed [])
  | setProperty _ _ => .none

/-- The response where the body of a response cannot be edited. -/
def LocalResponse.internalError : LocalResponse := text .internalError "internal server error"

/-- What cannot be edited is an internal error, whatever the cause. -/
theorem LocalResponse.ofRejection_ofStreamError (e : Html.StreamError) :
    ofRejection (.ofStreamError e) = internalError := by
  simp only [ofRejection, Rejection.ofStreamError, Rejection.status, Rejection.body, internalError]

namespace Exchange

/-- One call: the state after it, and the answer. -/
def call (p : Plugin) (x : Exchange) : Call → Exchange × Answer
  | .requestHeaders now headers =>
    let (x, headers, decision) := x.requestHeaders p now headers
    (x, .headers headers decision)
  | .responseHeaders headers =>
    let (x, headers, decision) := x.responseHeaders p headers
    (x, .headers headers decision)
  | .responseBody chunk isLast =>
    let (x, outcome) := x.responseBody p chunk isLast
    (x, .body outcome)
  | .setProperty name value => (x.setProperty name value, .none)

/-- Calls one after the other: the state after the last one, and all answers. -/
def run (p : Plugin) (x : Exchange) : List Call → Exchange × List Answer
  | [] => (x, [])
  | c :: calls =>
    let (x, answer) := x.call p c
    let (x, answers) := run p x calls
    (x, answer :: answers)

/-- The exchange was stopped, and holds nothing back. -/
structure Stopped (x : Exchange) : Prop where
  closed : x.closed = true
  stream : x.stream = none

/-- A chunk that comes to an open exchange and cannot be edited. -/
def CannotEdit (p : Plugin) (x : Exchange) (chunk : Bytes) (isLast : Bool) : Prop :=
  x.closed = false ∧ ∃ r s e, p.html = some r ∧ x.stream = some s ∧
    (editChunk r s chunk isLast).2 = .error e

variable {p : Plugin} {x : Exchange}

/-! ## One call -/

/-- Nothing is held back once an exchange is stopped. -/
theorem Stopped.pendingBytes (hx : x.Stopped) : x.pendingBytes = 0 := by
  rw [Exchange.pendingBytes, hx.stream]
  rfl

/-- An exchange is stopped by being closed. -/
theorem stopped_close (x : Exchange) : x.close.Stopped := ⟨rfl, rfl⟩

/-- A call on a stopped exchange is answered in silence, and the exchange stays stopped. -/
theorem call_of_stopped (hx : x.Stopped) (c : Call) :
    (x.call p c).2 = c.silent ∧ (x.call p c).1.Stopped := by
  cases c with
  | requestHeaders now headers =>
    simp only [call, requestHeaders, hx.closed, if_true]
    exact ⟨rfl, hx⟩
  | responseHeaders headers =>
    simp only [call, responseHeaders, hx.closed, if_true]
    exact ⟨rfl, hx⟩
  | responseBody chunk isLast =>
    simp only [call, responseBody, hx.closed, if_true]
    exact ⟨rfl, hx⟩
  | setProperty name value => exact ⟨rfl, hx.closed, hx.stream⟩

/-- The headers of a request stop an open exchange with the answer that says so, or leave it
open. -/
theorem requestHeaders_of_open (hx : x.closed = false) (now : Instant) (headers : HeaderSet) :
    (x.requestHeaders p now headers).2.2.stops = true ∧
        (x.requestHeaders p now headers).1 = x.close ∨
      (x.requestHeaders p now headers).2.2.stops = false ∧
        (x.requestHeaders p now headers).1 = x := by
  simp only [requestHeaders, hx, Bool.false_eq_true, if_false]
  rcases p.routeRequest x.properties now headers with ⟨e, halt⟩
  cases halt with
  | none => exact .inr ⟨stops_ofModified e.modified, rfl⟩
  | some halt => cases halt <;> exact .inl ⟨rfl, rfl⟩

/-- The headers of a response stop an open exchange with the answer that says so, or leave it
open. -/
theorem responseHeaders_of_open (hx : x.closed = false) (headers : HeaderSet) :
    (x.responseHeaders p headers).2.2.stops = true ∧
        (x.responseHeaders p headers).1 = x.close ∨
      (x.responseHeaders p headers).2.2.stops = false ∧
        (x.responseHeaders p headers).1.closed = false := by
  have hready (media : String) : (x.prepareBody p media).closed = false := by
    rw [prepareBody, hx]
  simp only [responseHeaders, hx, Bool.false_eq_true, if_false]
  split
  · exact .inl ⟨rfl, rfl⟩
  · split <;> exact .inr ⟨rfl, hready _⟩

/-- A chunk that cannot be edited stops an open exchange with an internal error. -/
theorem responseBody_of_cannotEdit {chunk : Bytes} {isLast : Bool}
    (h : x.CannotEdit p chunk isLast) :
    x.responseBody p chunk isLast = (x.close, .respond .internalError) := by
  obtain ⟨hx, r, s, e, hhtml, hstream, hedit⟩ := h
  rw [responseBody_of_error hx hstream hhtml hedit, LocalResponse.ofRejection_ofStreamError]

/-- Any other chunk leaves an open exchange open, and is given out in some form. -/
theorem responseBody_of_not_cannotEdit {chunk : Bytes} {isLast : Bool} (hx : x.closed = false)
    (h : ¬ x.CannotEdit p chunk isLast) : ∃ out,
      (x.responseBody p chunk isLast).2 = .proceed out ∧
        (x.responseBody p chunk isLast).1.closed = false := by
  have hafter (y : Exchange) (hy : y.closed = false) : (y.afterChunk isLast).closed = false := by
    cases isLast <;> exact hy
  simp only [responseBody, hx, Bool.false_eq_true, if_false]
  split
  · next s r hstream hhtml =>
    split
    · next e hedit => exact absurd ⟨hx, r, s, e, hhtml, hstream, by rw [hedit]⟩ h
    · exact ⟨_, rfl, hafter _ rfl⟩
  · exact ⟨_, rfl, hafter x hx⟩

/-- **A call on an open exchange stops it with the answer that says so, or leaves it open.** -/
theorem call_of_open (hx : x.closed = false) (c : Call) :
    (x.call p c).2.stops = true ∧ (x.call p c).1.Stopped ∨
      (x.call p c).2.stops = false ∧ (x.call p c).1.closed = false := by
  cases c with
  | requestHeaders now headers =>
    rcases requestHeaders_of_open (p := p) hx now headers with ⟨hstops, hclose⟩ | ⟨hgoes, hsame⟩
    · exact .inl ⟨hstops, hclose ▸ stopped_close x⟩
    · exact .inr ⟨hgoes, (congrArg Exchange.closed hsame).trans hx⟩
  | responseHeaders headers =>
    rcases responseHeaders_of_open (p := p) hx headers with ⟨hstops, hclose⟩ | hgoes
    · exact .inl ⟨hstops, hclose ▸ stopped_close x⟩
    · exact .inr hgoes
  | responseBody chunk isLast =>
    by_cases hedit : x.CannotEdit p chunk isLast
    · refine .inl ?_
      simp only [call, responseBody_of_cannotEdit hedit]
      exact ⟨rfl, stopped_close x⟩
    · obtain ⟨out, hout, hopen⟩ := responseBody_of_not_cannotEdit hx hedit
      refine .inr ⟨?_, hopen⟩
      simp only [call, Answer.stops, hout, BodyOutcome.stops]
  | setProperty name value => exact .inr ⟨rfl, hx⟩

/-! ## Many calls -/

/-- The first call, and those after it. -/
theorem run_cons (p : Plugin) (x : Exchange) (c : Call) (calls : List Call) :
    x.run p (c :: calls) = (((x.call p c).1.run p calls).1,
      (x.call p c).2 :: ((x.call p c).1.run p calls).2) := rfl

/-- More calls go on from the state after those before. -/
theorem run_append (p : Plugin) (x : Exchange) (calls after : List Call) :
    x.run p (calls ++ after) = (((x.run p calls).1.run p after).1,
      (x.run p calls).2 ++ ((x.run p calls).1.run p after).2) := by
  induction calls generalizing x with
  | nil => rfl
  | cons c calls ih => simp only [List.cons_append, run_cons, ih]

/-- Calls on a stopped exchange are answered in silence, and it stays stopped. -/
theorem run_of_stopped (hx : x.Stopped) (calls : List Call) :
    (x.run p calls).2 = calls.map Call.silent ∧ (x.run p calls).1.Stopped := by
  induction calls generalizing x with
  | nil => exact ⟨rfl, hx⟩
  | cons c calls ih =>
    obtain ⟨hsilent, hstopped⟩ := call_of_stopped (p := p) hx c
    obtain ⟨hrest, hend⟩ := ih hstopped
    rw [run_cons, List.map_cons, hsilent, hrest]
    exact ⟨rfl, hend⟩

/-- A silent answer does not stop an exchange. -/
theorem stops_silent (c : Call) : c.silent.stops = false := by
  cases c <;> rfl

/-- Calls on an open exchange leave it open and none of them stops it, or just one of them stops
it. By induction on the calls: the first is as `call_of_open` says, and those after a call that
stops are silent. -/
theorem run_of_open (hx : x.closed = false) (calls : List Call) :
    (x.run p calls).1.Stopped ∧ (x.run p calls).2.countP Answer.stops = 1 ∨
      (x.run p calls).1.closed = false ∧ (x.run p calls).2.countP Answer.stops = 0 := by
  induction calls generalizing x with
  | nil => exact .inr ⟨hx, rfl⟩
  | cons c calls ih =>
    rw [run_cons]
    rcases call_of_open (p := p) hx c with ⟨hstops, hstopped⟩ | ⟨hgoes, hopen⟩
    · obtain ⟨hsilent, hend⟩ := run_of_stopped (p := p) hstopped calls
      refine .inl ⟨hend, ?_⟩
      rw [List.countP_cons_of_pos hstops, hsilent, List.countP_map,
        List.countP_eq_zero.2 fun c _ => by simp [stops_silent]]
    · rw [List.countP_cons_of_neg (by simp [hgoes])]
      exact ih hopen

/-- **An exchange is stopped exactly if some call was answered so, and at most one is. From then on
nothing is held back, headers stay as they are and nothing of a body is given out. In particular a
chunk that cannot be edited is answered by an internal error, whatever the chunk, and nothing of it
follows.** -/
theorem run_stops_once (p : Plugin) (calls : List Call) :
    ((start.run p calls).1.closed = true ↔
      ∃ answer ∈ (start.run p calls).2, answer.stops = true) ∧
    (start.run p calls).2.countP Answer.stops ≤ 1 ∧
    ((start.run p calls).1.closed = true → ∀ after,
      (start.run p (calls ++ after)).2 = (start.run p calls).2 ++ after.map Call.silent ∧
      (start.run p (calls ++ after)).1.closed = true ∧
      (start.run p (calls ++ after)).1.pendingBytes = 0) ∧
    (∀ chunk isLast, (start.run p calls).1.CannotEdit p chunk isLast → ∀ after,
      (start.run p (calls ++ .responseBody chunk isLast :: after)).2 =
        (start.run p calls).2 ++
          .body (.respond .internalError) :: after.map Call.silent) := by
  have hfirst : ((start.run p calls).1.closed = true ↔
      0 < (start.run p calls).2.countP Answer.stops) ∧
      (start.run p calls).2.countP Answer.stops ≤ 1 ∧
      ((start.run p calls).1.closed = true → (start.run p calls).1.Stopped) := by
    rcases run_of_open (p := p) (x := start) rfl calls with ⟨hstopped, hone⟩ | ⟨hopen, hnone⟩
    · simp [hstopped.closed, hone, hstopped]
    · simp [hopen, hnone]
  refine ⟨?_, hfirst.2.1, fun hclosed after => ?_, fun chunk isLast hedit after => ?_⟩
  · rw [hfirst.1, List.countP_pos_iff]
  · obtain ⟨hsilent, hend⟩ := run_of_stopped (p := p) (hfirst.2.2 hclosed) after
    rw [run_append, hsilent]
    exact ⟨rfl, hend.closed, hend.pendingBytes⟩
  · obtain ⟨hsilent, -⟩ := run_of_stopped (p := p) (stopped_close (start.run p calls).1) after
    rw [run_append, run_cons]
    simp only [call, responseBody_of_cannotEdit hedit, hsilent]

/-- An editor of pages whose tags have at most sixteen octets. -/
def narrowEditor : Editor := (Editor.empty.withLimit 16).injectAfter ⟨some "h1", none⟩ "!"

/-- A plugin with such an editor. -/
def narrowPlugin : Plugin := { markingPlugin with html := some narrowEditor }

/-- A chunk with a longer tag, after text that is settled. -/
def longTagChunk : Bytes := Utf8.encode "text<img alt='a long text'>"

/-- Nothing of such a chunk is given out, and the text before the tag is not either. -/
theorem run_stops_once_longTag :
    (start.run narrowPlugin [.responseHeaders pageHeaders]).1.CannotEdit narrowPlugin longTagChunk
      false ∧
    ∀ after, (start.run narrowPlugin
        ([.responseHeaders pageHeaders] ++ .responseBody longTagChunk false :: after)).2 =
      (start.run narrowPlugin [.responseHeaders pageHeaders]).2 ++
        .body (.respond .internalError) :: after.map Call.silent := by
  have hedit : (start.run narrowPlugin [.responseHeaders pageHeaders]).1.CannotEdit narrowPlugin
      longTagChunk false :=
    ⟨by decide +kernel, narrowEditor, narrowEditor.start, .tagTooLong 16, rfl, by decide +kernel,
      by decide +kernel⟩
  exact ⟨hedit, (run_stops_once narrowPlugin [.responseHeaders pageHeaders]).2.2.2 _ _ hedit⟩

end Exchange

end ProxyFilter
