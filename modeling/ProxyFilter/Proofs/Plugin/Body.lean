import ProxyFilter.Plugin.Exchange
import ProxyFilter.Proofs.Html.Chunks

/-!
# The body of a response

The host hands over a body chunk by chunk (`Exchange.bodyOutcomes`). `Exchange.editedBody` is what
editing makes of the whole body, if the response is one that is edited, and `Exchange.masked` what
masking makes of a run of octets. The calls give out the edited body in pieces, one for each chunk,
and mask each piece by itself; if the body cannot be edited, one call stops the exchange and those
after it give out nothing. This is `Exchange.bodyOutcomes_of_open`; by induction on the chunks, with
the stream settled between two of them.
-/

namespace ProxyFilter

open Html (Editor StreamState StreamError)

namespace Exchange

/-! ## Calls -/

/-- The outcomes of all calls for a body, of which the last one is told to be the last. -/
def bodyOutcomes (p : Plugin) (x : Exchange) : List Bytes → List BodyOutcome
  | [] => []
  | chunk :: chunks =>
    let (x, outcome) := x.responseBody p chunk chunks.isEmpty
    outcome :: bodyOutcomes p x chunks

/-- What editing makes of the body of a response: only markup is edited, and only where there are
rules for it. -/
def editedBody (p : Plugin) (headers : HeaderSet) (body : Bytes) : Except StreamError Bytes :=
  match p.html with
  | some r => if mediaType headers = "text/html" then r.editDocument body else .ok body
  | none => .ok body

/-- What masking makes of octets in the body of a response. -/
def masked (p : Plugin) (headers : HeaderSet) (b : Bytes) : Bytes :=
  if ! p.masker.isEmpty && isMaskable (mediaType headers) then p.masker.apply b else b

/-- Every call goes on, and together they give out the octets in pieces, each of them masked by
itself. -/
def GoesOn (mask : Bytes → Bytes) (calls : Nat) (b : Bytes) (outcomes : List BodyOutcome) : Prop :=
  ∃ pieces : List Bytes, pieces.length = calls ∧ pieces.flatten = b ∧
    outcomes = pieces.map fun piece => .proceed (mask piece)

/-- One call stops the exchange with an internal error, those before it go on, and those after it
give out nothing. -/
def Breaks (calls : Nat) (outcomes : List BodyOutcome) : Prop :=
  ∃ (before : List Bytes) (response : LocalResponse) (after : Nat),
    before.length + 1 + after = calls ∧ response.status.code = 500 ∧
      response.body = Utf8.encode "internal server error" ∧
      outcomes = before.map .proceed ++ .respond response :: List.replicate after (.proceed [])

section
variable {p : Plugin} {x x' : Exchange} {mask : Bytes → Bytes} {calls : Nat} {b : Bytes}
  {outcomes : List BodyOutcome}

/-- One more piece in front. -/
theorem GoesOn.cons (h : GoesOn mask calls b outcomes) (piece : Bytes) :
    GoesOn mask (calls + 1) (piece ++ b) (.proceed (mask piece) :: outcomes) := by
  obtain ⟨pieces, rfl, rfl, rfl⟩ := h
  exact ⟨piece :: pieces, rfl, rfl, rfl⟩

/-- One more call that goes on in front. -/
theorem Breaks.cons (h : Breaks calls outcomes) (b : Bytes) :
    Breaks (calls + 1) (.proceed b :: outcomes) := by
  obtain ⟨before, response, after, hcalls, hstatus, hbody, rfl⟩ := h
  refine ⟨b :: before, response, after, ?_, hstatus, hbody, rfl⟩
  rw [List.length_cons]
  omega

/-- The first call, and those after it. -/
theorem bodyOutcomes_cons {chunk : Bytes} {chunks : List Bytes} {outcome : BodyOutcome}
    (h : x.responseBody p chunk chunks.isEmpty = (x', outcome)) :
    x.bodyOutcomes p (chunk :: chunks) = outcome :: x'.bodyOutcomes p chunks := by
  rw [bodyOutcomes, h]

/-- Once an exchange is stopped, nothing is given out. -/
theorem bodyOutcomes_of_closed (hx : x.closed = true) (chunks : List Bytes) :
    x.bodyOutcomes p chunks = List.replicate chunks.length (.proceed []) := by
  induction chunks with
  | nil => rfl
  | cons chunk chunks ih =>
    have hcall (isLast : Bool) : x.responseBody p chunk isLast = (x, .proceed []) := by
      simp [responseBody, hx]
    rw [bodyOutcomes_cons (hcall _), ih]
    rfl

/-! ## A body that is not edited -/

/-- Without a stream every chunk is a piece. By induction on the chunks. -/
theorem bodyOutcomes_of_noStream (hx : x.closed = false) (hstream : x.stream = none)
    (chunks : List Bytes) :
    GoesOn (maskChunk p x) chunks.length chunks.flatten (x.bodyOutcomes p chunks) := by
  induction chunks with
  | nil => exact ⟨[], rfl, rfl, rfl⟩
  | cons chunk chunks ih =>
    have hafter (isLast : Bool) : x.afterChunk isLast = x := by
      cases isLast with
      | false => rfl
      | true =>
        obtain ⟨properties, stream, mask, closed⟩ := x
        cases hstream
        rfl
    have hcall (isLast : Bool) :
        x.responseBody p chunk isLast = (x, .proceed (maskChunk p x chunk)) := by
      simp [responseBody, hx, hstream, hafter]
    rw [bodyOutcomes_cons (hcall _)]
    exact ih.cons chunk

/-! ## A body that is edited -/

section
variable {r : Editor} {s : StreamState} {chunk out rest : Bytes} {scanner : Html.Scanner}
  {e : StreamError}

/-- A chunk before the last one is fed to the stream. -/
theorem editChunk_of_ok (hs : s.Settled r)
    (h : r.scan s.scanner (s.pending ++ chunk) = ⟨out, scanner, .ok rest⟩) :
    editChunk r s chunk false = (⟨rest, [], scanner, false⟩, .ok out) := by
  simp [editChunk, (Editor.feed_settled hs h).1]

/-- The last chunk is fed to the stream, and what is kept is given out with it. -/
theorem editChunk_last (hs : s.Settled r)
    (h : r.scan s.scanner (s.pending ++ chunk) = ⟨out, scanner, .ok rest⟩) :
    (editChunk r s chunk true).2 = .ok (out ++ rest) := by
  obtain ⟨hfeed, hsettled⟩ := Editor.feed_settled hs h
  have hfinish := Editor.finish_settled hsettled
  simp only [editChunk, hfeed, if_true, hfinish, Except.map]

/-- A chunk at which scanning fails is not edited. -/
theorem editChunk_of_error (hs : s.Settled r)
    (h : r.scan s.scanner (s.pending ++ chunk) = ⟨out, scanner, .error e⟩) (isLast : Bool) :
    (editChunk r s chunk isLast).2 = .error e := by
  have hfeed := Editor.feed_error hs (congrArg Html.Scanned.rest h)
  simp only [editChunk]
  split
  · next hchunk =>
    rw [hchunk] at hfeed
    exact hfeed
  · next hchunk =>
    rw [hchunk] at hfeed
    cases hfeed

/-- A chunk that is edited goes on, masked. -/
theorem responseBody_of_ok {s' : StreamState} {isLast : Bool} (hx : x.closed = false)
    (hstream : x.stream = some s) (hhtml : p.html = some r)
    (h : editChunk r s chunk isLast = (s', .ok out)) : x.responseBody p chunk isLast =
      (afterChunk { x with stream := some s' } isLast, .proceed (maskChunk p x out)) := by
  simp [responseBody, hx, hstream, hhtml, h]

/-- A chunk that cannot be edited stops the exchange. -/
theorem responseBody_of_error {isLast : Bool} (hx : x.closed = false)
    (hstream : x.stream = some s) (hhtml : p.html = some r)
    (h : (editChunk r s chunk isLast).2 = .error e) : x.responseBody p chunk isLast =
      (x.close, .respond (.ofRejection (.ofStreamError e))) := by
  simp only [responseBody, hx, hstream, hhtml]
  split
  · next hclosed => cases hclosed
  · split
    · next e' hedit =>
      rw [hedit] at h
      cases h
      rfl
    · next hedit =>
      rw [hedit] at h
      cases h

/-- The response where a body cannot be edited is an internal error. -/
theorem internalError_of_streamError (e : StreamError) :
    (LocalResponse.ofRejection (.ofStreamError e)).status.code = 500 ∧
      (LocalResponse.ofRejection (.ofStreamError e)).body =
        Utf8.encode "internal server error" := by
  refine ⟨rfl, ?_⟩
  simp only [LocalResponse.ofRejection, LocalResponse.text, Rejection.ofStreamError, Rejection.body]

/-- The calls from one at which the body cannot be edited on. -/
theorem breaks_of_error (chunks : List Bytes) (hx : x.closed = false)
    (hstream : x.stream = some s) (hhtml : p.html = some r)
    (h : (editChunk r s chunk chunks.isEmpty).2 = .error e) :
    Breaks (chunks.length + 1) (x.bodyOutcomes p (chunk :: chunks)) := by
  have hcalls := bodyOutcomes_cons (responseBody_of_error hx hstream hhtml h)
  have hclose : x.close.closed = true := rfl
  rw [bodyOutcomes_of_closed hclose] at hcalls
  obtain ⟨hstatus, hbody⟩ := internalError_of_streamError e
  exact ⟨[], _, chunks.length, by simp [Nat.add_comm], hstatus, hbody, hcalls⟩

/-- **The calls give out what becomes of the body.** By induction on the chunks, of which there is
at least one to end the stream; between two of them the stream is settled. -/
theorem bodyOutcomes_of_stream (chunks : List Bytes) (hne : chunks ≠ []) (hx : x.closed = false)
    (hstream : x.stream = some s) (hhtml : p.html = some r) (hs : s.Settled r) :
    match r.outcome s.scanner (s.pending ++ chunks.flatten) with
    | .ok b => GoesOn (maskChunk p x) chunks.length b (x.bodyOutcomes p chunks)
    | .error _ => Breaks chunks.length (x.bodyOutcomes p chunks) := by
  induction chunks generalizing x s with
  | nil => exact absurd rfl hne
  | cons chunk chunks ih =>
    rw [List.flatten_cons, ← List.append_assoc]
    cases hscan : r.scan s.scanner (s.pending ++ chunk) with
    | mk out scanner left =>
    cases left with
    | error e =>
      rw [Editor.outcome_append_of_error _ hscan]
      exact breaks_of_error chunks hx hstream hhtml (editChunk_of_error hs hscan _)
    | ok rest =>
      rw [Editor.outcome_append _ hscan]
      obtain ⟨hfeed, hsettled⟩ := Editor.feed_settled hs hscan
      by_cases hlast : chunks = []
      · subst hlast
        have hout : r.outcome scanner (rest ++ ([] : List Bytes).flatten) = .ok rest := by
          rw [List.flatten_nil, List.append_nil, Editor.outcome, hsettled.pending]
          rfl
        rw [hout]
        obtain ⟨s', hedit⟩ : ∃ s', editChunk r s chunk true = (s', .ok (out ++ rest)) :=
          ⟨_, Prod.ext rfl (editChunk_last hs hscan)⟩
        refine ⟨[out ++ rest], rfl, by simp, ?_⟩
        rw [bodyOutcomes_cons (responseBody_of_ok hx hstream hhtml hedit)]
        rfl
      · have hmore : chunks.isEmpty = false := by simpa using hlast
        have hcall : x.responseBody p chunk chunks.isEmpty =
            ({ x with stream := some ⟨rest, [], scanner, false⟩ },
              .proceed (maskChunk p x out)) := by
          rw [hmore]
          exact responseBody_of_ok hx hstream hhtml (editChunk_of_ok hs hscan)
        rw [bodyOutcomes_cons hcall]
        have hrest := ih (x := { x with stream := some ⟨rest, [], scanner, false⟩ }) hlast hx rfl
          hsettled
        simp only at hrest
        cases hout : r.outcome scanner (rest ++ chunks.flatten) with
        | ok b =>
          rw [hout] at hrest
          exact hrest.cons out
        | error e =>
          rw [hout] at hrest
          exact hrest.cons _

end

/-! ## From the headers of a response to the end of its body -/

variable {x₀ : Exchange} {headers headers' : HeaderSet} {decision : Decision}

/-- An exchange that the headers of a response leave open has been made ready for its body. -/
theorem eq_prepareBody_of_open (h : x₀.responseHeaders p headers = (x, headers', decision))
    (hopen : x.closed = false) : x = x₀.prepareBody p (mediaType headers) := by
  simp only [responseHeaders] at h
  split at h
  · next hclosed =>
    cases h
    rw [hclosed] at hopen
    cases hopen
  · split at h
    · cases h
      cases hopen
    · split at h <;> cases h <;> rfl

/-- The calls for a body, by whether it is edited. -/
theorem bodyOutcomes_eq (h : x₀.responseHeaders p headers = (x, headers', decision))
    (hopen : x.closed = false) (chunks : List Bytes) :
    match editedBody p headers chunks.flatten with
    | .ok b => GoesOn (masked p headers) chunks.length b (x.bodyOutcomes p chunks)
    | .error _ => Breaks chunks.length (x.bodyOutcomes p chunks) := by
  have hx := eq_prepareBody_of_open h hopen
  have hmask : maskChunk p x = masked p headers := by
    funext b
    rw [hx]
    rfl
  rw [← hmask]
  by_cases hstream : x.stream = none
  · have hplain : editedBody p headers chunks.flatten = .ok chunks.flatten := by
      rw [hx] at hstream
      cases hhtml : p.html with
      | none => simp [editedBody, hhtml]
      | some r =>
        have hmedia : mediaType headers ≠ "text/html" := by
          intro hmedia
          simp [prepareBody, hmedia, hhtml] at hstream
        simp [editedBody, hhtml, hmedia]
    rw [hplain]
    exact bodyOutcomes_of_noStream hopen hstream chunks
  · obtain ⟨r, hhtml, hstart, hmedia⟩ : ∃ r, p.html = some r ∧ x.stream = some r.start ∧
        mediaType headers = "text/html" := by
      rw [hx] at hstream ⊢
      by_cases hmedia : mediaType headers = "text/html"
      · cases hhtml : p.html with
        | none => simp [prepareBody, hhtml] at hstream
        | some r => exact ⟨r, rfl, by simp [prepareBody, hmedia, hhtml], hmedia⟩
      · simp [prepareBody, hmedia] at hstream
    have hedited : editedBody p headers chunks.flatten =
        r.outcome r.start.scanner (r.start.pending ++ chunks.flatten) := by
      simp only [editedBody, hhtml, if_pos hmedia, Editor.editDocument_eq_outcome]
      rfl
    rw [hedited]
    by_cases hne : chunks = []
    · subst hne
      exact ⟨[], rfl, rfl, rfl⟩
    · exact bodyOutcomes_of_stream chunks hne hopen hstart hhtml r.start_settled

/-- **The calls for a body give out the edited body, masked piece by piece**, or, if it cannot be
edited, one of them stops the exchange and those after it give out nothing. -/
theorem bodyOutcomes_of_open (h : x₀.responseHeaders p headers = (x, headers', decision))
    (hopen : x.closed = false) (chunks : List Bytes) :
    (∀ b, editedBody p headers chunks.flatten = .ok b →
      GoesOn (masked p headers) chunks.length b (x.bodyOutcomes p chunks)) ∧
    ∀ e, editedBody p headers chunks.flatten = .error e →
      Breaks chunks.length (x.bodyOutcomes p chunks) := by
  have hall := bodyOutcomes_eq h hopen chunks
  constructor
  · intro b hb
    rwa [hb] at hall
  · intro e he
    rwa [he] at hall

end

/-- A plugin that puts a mark after the first heading of a page. -/
def markingPlugin : Plugin where
  auth := []
  denylist := none
  redirect := none
  pathRule := none
  queryHeaders := []
  device := none
  traceHeader := none
  geo := none
  statusRemap := none
  html := some (Editor.empty.injectAfter ⟨some "h1", none⟩ "!")
  masker := []

/-- The headers of a page. -/
def pageHeaders : HeaderSet := .ofPairs [(Header.contentType, "text/html; charset=utf-8")]

/-- A page in three chunks, the first of which ends inside the tag of the heading. -/
def pageChunks : List Bytes := [Utf8.encode "<p><h", Utf8.encode "1>x", Utf8.encode "</h1>"]

/-- The marked page is given out in three pieces. -/
theorem bodyOutcomes_of_open_page : ∃ x headers' decision,
    start.responseHeaders markingPlugin pageHeaders = (x, headers', decision) ∧ x.closed = false ∧
      editedBody markingPlugin pageHeaders pageChunks.flatten =
        .ok (Utf8.encode "<p><h1>!x</h1>") ∧
      GoesOn (masked markingPlugin pageHeaders) 3 (Utf8.encode "<p><h1>!x</h1>")
        (x.bodyOutcomes markingPlugin pageChunks) := by
  rcases hresult : start.responseHeaders markingPlugin pageHeaders with ⟨x, headers', decision⟩
  have hopen : x.closed = false := by
    have : (start.responseHeaders markingPlugin pageHeaders).1.closed = false := by decide +kernel
    rwa [hresult] at this
  have hedited : editedBody markingPlugin pageHeaders pageChunks.flatten =
      .ok (Utf8.encode "<p><h1>!x</h1>") := by decide +kernel
  exact ⟨x, headers', decision, rfl, hopen, hedited,
    (bodyOutcomes_of_open hresult hopen pageChunks).1 _ hedited⟩

end Exchange

end ProxyFilter
