import ProxyFilter.Proofs.Http.HeaderEdits
import ProxyFilter.Proofs.Plugin.Calls

/-!
# The length of a body

The headers of a response may tell how long its body is, and a client holds the server to it: a body
that turns out shorter or longer is cut off or waited for. Whether the body will be changed is
decided with the headers (`Exchange.prepareBody`), and the chunks come in calls of their own, with
others between them. So what the headers said has to hold in the state for as long as chunks come:
an exchange that `LeavesBody` gives out each chunk as it came, holds nothing back, and leaves the
body from then on (`Exchange.call_of_leavesBody`), up to the next headers of a response
(`Exchange.run_of_leavesBody`). The main result is `Exchange.run_of_contentLength`: where the
headers still tell a length, the exchange leaves the body.
-/

namespace ProxyFilter

/-- The headers of a response are handed over. -/
def Call.isResponseHeaders : Call → Bool
  | responseHeaders _ => true
  | requestHeaders _ _ | responseBody _ _ | setProperty _ _ => false

namespace Exchange

/-- The exchange neither edits a body nor masks it. -/
structure LeavesBody (x : Exchange) : Prop where
  stream : x.stream = none
  mask : x.mask = false

variable {p : Plugin} {x x' : Exchange} {headers headers' : HeaderSet} {decision : Decision}

/-- An exchange that does not change bodies leaves them as they are. -/
theorem leavesBody_of_changesBody (h : x.changesBody = false) : x.LeavesBody := by
  simp only [changesBody, Bool.or_eq_false_iff, Option.isSome_eq_false_iff,
    Option.isNone_iff_eq_none] at h
  exact ⟨h.1, h.2⟩

/-- An exchange that is stopped leaves bodies as they are. -/
theorem leavesBody_close (x : Exchange) : x.close.LeavesBody := ⟨rfl, rfl⟩

namespace LeavesBody

/-- Nothing is held back. -/
theorem pendingBytes (hx : x.LeavesBody) : x.pendingBytes = 0 := by
  rw [Exchange.pendingBytes, hx.stream]
  rfl

/-- A chunk is given out as it came, and the exchange stays as it is. -/
theorem responseBody (hx : x.LeavesBody) (hopen : x.closed = false) (chunk : Bytes)
    (isLast : Bool) : x.responseBody p chunk isLast = (x, .proceed chunk) := by
  have hafter : x.afterChunk isLast = x := by
    obtain ⟨properties, stream, mask, closed⟩ := x
    obtain rfl : stream = none := hx.stream
    cases isLast <;> rfl
  simp [Exchange.responseBody, hopen, hx.stream, hafter, maskChunk, hx.mask]

end LeavesBody

/-! ## What the headers of a response say -/

/-- Headers that still tell the length of the body come from an exchange that leaves it: the length
is removed by the same condition under which the body is changed. -/
theorem leavesBody_of_responseHeaders (hopen : x.closed = false)
    (h : x.responseHeaders p headers = (x', headers', decision))
    (hlength : headers'.contains Header.contentLength = true) : x'.LeavesBody := by
  simp only [responseHeaders, hopen, Bool.false_eq_true, if_false] at h
  split at h
  · cases h
    exact leavesBody_close x
  · split at h
    · cases h
      rw [HeaderSet.contains_remove] at hlength
      cases hlength
    · next hkept =>
      cases h
      rw [hlength, Bool.and_true, Bool.not_eq_true] at hkept
      exact leavesBody_of_changesBody hkept

/-! ## The calls after them -/

/-- No call but one with the headers of a response makes an exchange change bodies. -/
theorem call_of_leavesBody (hx : x.LeavesBody) {c : Call} (hc : c.isResponseHeaders = false) :
    (x.call p c).1.LeavesBody := by
  cases c with
  | requestHeaders now headers =>
    cases hclosed : x.closed with
    | true => simpa only [call, requestHeaders, hclosed, if_true] using hx
    | false =>
      rcases requestHeaders_of_open (p := p) hclosed now headers with ⟨-, hclose⟩ | ⟨-, hsame⟩
      · simpa only [call, hclose] using leavesBody_close x
      · simpa only [call, hsame] using hx
  | responseHeaders headers => cases hc
  | responseBody chunk isLast =>
    cases hclosed : x.closed with
    | true => simpa only [call, Exchange.responseBody, hclosed, if_true] using hx
    | false => simpa only [call, hx.responseBody hclosed] using hx
  | setProperty name value => exact ⟨hx.stream, hx.mask⟩

/-- An exchange leaves bodies as they are until headers of a response come. By induction on the
calls. -/
theorem run_of_leavesBody (hx : x.LeavesBody) {calls : List Call}
    (hcalls : ∀ c ∈ calls, c.isResponseHeaders = false) : (x.run p calls).1.LeavesBody := by
  induction calls generalizing x with
  | nil => exact hx
  | cons c calls ih =>
    obtain ⟨hc, hcalls⟩ := List.forall_mem_cons.1 hcalls
    rw [run_cons]
    exact ih (call_of_leavesBody hx hc) hcalls

/-- **A body whose length is told is given out as it comes.** If the headers of a response keep a
length that they tell, then until the next headers of a response, whatever calls are made, a chunk
on the open exchange is answered by that chunk and nothing is held back. -/
theorem run_of_contentLength (hopen : x.closed = false)
    (h : x.responseHeaders p headers = (x', headers', decision))
    (hlength : headers'.contains Header.contentLength = true) {calls : List Call}
    (hcalls : ∀ c ∈ calls, c.isResponseHeaders = false) :
    (x'.run p calls).1.pendingBytes = 0 ∧
    ∀ chunk isLast, (x'.run p calls).1.closed = false →
      (x'.run p (calls ++ [.responseBody chunk isLast])).2 =
        (x'.run p calls).2 ++ [.body (.proceed chunk)] ∧
      (x'.run p (calls ++ [.responseBody chunk isLast])).1.pendingBytes = 0 := by
  have hleaves := run_of_leavesBody (p := p) (leavesBody_of_responseHeaders hopen h hlength) hcalls
  refine ⟨hleaves.pendingBytes, fun chunk isLast hclosed => ?_⟩
  have hcall : (x'.run p calls).1.call p (.responseBody chunk isLast) =
      ((x'.run p calls).1, .body (.proceed chunk)) := by
    simp only [call, hleaves.responseBody hclosed]
  rw [run_append, run_cons, hcall]
  exact ⟨rfl, hleaves.pendingBytes⟩

/-- A plugin that edits pages and masks digits. -/
def digitMaskingPlugin : Plugin :=
  { markingPlugin with
    masker := [⟨⟨.ofExpr false (.octet (.range 48 57)), []⟩, [.octet 35]⟩] }

/-- The headers of an image that tell its length. -/
def imageHeaders : HeaderSet :=
  .ofPairs [(Header.contentType, "image/png"), ("Content-Length", "4")]

/-- The calls from the first half of an image up to the second. -/
def imageCalls : List Call := [.responseBody [49, 50] false, .setProperty "place" "SE"]

/-- The second half of an image is given out as it came. -/
theorem run_of_contentLength_image : ∃ x headers decision,
    start.closed = false ∧
      start.responseHeaders digitMaskingPlugin imageHeaders = (x, headers, decision) ∧
      headers.contains Header.contentLength = true ∧
      (∀ c ∈ imageCalls, c.isResponseHeaders = false) ∧
      (x.run digitMaskingPlugin imageCalls).1.closed = false ∧
      (x.run digitMaskingPlugin (imageCalls ++ [.responseBody [51, 52] true])).2 =
        (x.run digitMaskingPlugin imageCalls).2 ++ [.body (.proceed [51, 52])] := by
  have hheaders : start.responseHeaders digitMaskingPlugin imageHeaders =
      (start.prepareBody digitMaskingPlugin "image/png", imageHeaders, .proceed) := by
    have hmedia : mediaType imageHeaders = "image/png" := by decide +kernel
    have hkept : (start.prepareBody digitMaskingPlugin "image/png").changesBody = false := by
      decide +kernel
    simp only [responseHeaders, hmedia, hkept]
    rfl
  have hcalls : ∀ c ∈ imageCalls, c.isResponseHeaders = false := by decide
  have hopen : ((start.prepareBody digitMaskingPlugin "image/png").run digitMaskingPlugin
      imageCalls).1.closed = false := by rfl
  exact ⟨_, _, _, rfl, hheaders, by decide, hcalls, hopen,
    ((run_of_contentLength rfl hheaders (by decide) hcalls).2 [51, 52] true hopen).1⟩

end Exchange

end ProxyFilter
