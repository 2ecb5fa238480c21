import ProxyFilter.Proofs.Http.HeaderEdits
import ProxyFilter.Proofs.Plugin.Body
import ProxyFilter.Proofs.Plugin.Gates

/-!
# Whether headers were changed

A host that is told to go on without changes keeps the headers that it has, so a change that is not
told is lost. Each stage of the request phase leaves the headers as they are or marks them as
changed (`Edited.KeptOrMarked`), and this carries over from each stage to all of them
(`Plugin.editRequest_keptOrMarked`). The response phase does one of three things
(`Exchange.responseHeaders_cases`). The main result is `Exchange.decision_tells_changes`.
-/

namespace ProxyFilter

/-! ## The stages of the request phase -/

/-- Headers are kept as they are, or marked as changed. -/
def Edited.KeptOrMarked (e e' : Edited) : Prop := e' = e ∨ e'.modified = true

namespace Edited.KeptOrMarked
variable {e e' e'' : Edited}

/-- Nothing is done. -/
theorem refl (e : Edited) : KeptOrMarked e e := .inl rfl

/-- Changed headers are marked as changed. -/
theorem change (e : Edited) (headers : HeaderSet) : KeptOrMarked e (e.change headers) := .inr rfl

/-- Two stages keep headers or mark them if each does: the second one does not take a mark away,
unless it sets its own. -/
theorem trans (h : KeptOrMarked e e') (h' : KeptOrMarked e' e'') : KeptOrMarked e e'' := by
  rcases h' with rfl | hmarked
  · exact h
  · exact .inr hmarked

end Edited.KeptOrMarked

namespace Plugin
variable (p : Plugin) (properties : Properties) (e : Edited)

/-- Removing tokens marks headers as changed, if there is one to be removed. -/
theorem stripTokens_keptOrMarked : e.KeptOrMarked (p.stripTokens e) := by
  rw [stripTokens]
  induction p.auth.filter AuthStage.strip generalizing e with
  | nil => exact .refl e
  | cons stage stages ih =>
    exact (Edited.KeptOrMarked.change e (stage.scheme.source.strip e.headers)).trans (ih _)

/-- A path that is changed is marked. -/
theorem editPath_keptOrMarked : e.KeptOrMarked (p.editPath e) := by
  rw [editPath]
  split
  · exact .change e _
  · exact .refl e

/-- Parameters that are copied are marked, also if one of them is refused. By induction on the
copies. -/
theorem copyParams_keptOrMarked (params : List Param) (copies : List QueryHeaderSettings) :
    e.KeptOrMarked (copyParams params copies e).1 := by
  induction copies generalizing e with
  | nil => exact .refl e
  | cons copy copies ih =>
    rw [copyParams]
    split
    · exact ih e
    · split
      · next value _ _ =>
        exact (Edited.KeptOrMarked.change e _).trans (ih (e.set copy.header value))
      · exact .refl e

/-- A device that is told is marked. -/
theorem tellDevice_keptOrMarked : e.KeptOrMarked (p.tellDevice e) := by
  rw [tellDevice]
  split
  · exact .change e _
  · exact .refl e

/-- A trace that is told is marked. -/
theorem tellTrace_keptOrMarked : e.KeptOrMarked (p.tellTrace e) := by
  rw [tellTrace]
  split
  · exact .change e _
  · exact .refl e

/-- A place that is told or removed is marked. -/
theorem tellPlace_keptOrMarked : e.KeptOrMarked (p.tellPlace properties e) := by
  rw [tellPlace]
  split
  · exact .refl e
  · split
    · exact .change e _
    · split
      · exact .change e _
      · exact .refl e

/-- **All edits of a request keep its headers or mark them as changed.** -/
theorem editRequest_keptOrMarked (headers : HeaderSet) :
    Edited.KeptOrMarked ⟨headers, false⟩ (p.editRequest properties headers).1 := by
  have hcopied : Edited.KeptOrMarked ⟨headers, false⟩
      (p.copyQuery (p.editPath (p.stripTokens ⟨headers, false⟩))).1 :=
    ((p.stripTokens_keptOrMarked _).trans (p.editPath_keptOrMarked _)).trans
      (copyParams_keptOrMarked _ _ _)
  rw [editRequest]
  split
  · next hcopy =>
    rw [hcopy] at hcopied
    exact hcopied
  · next hcopy =>
    rw [hcopy] at hcopied
    exact ((hcopied.trans (p.tellDevice_keptOrMarked _)).trans (p.tellTrace_keptOrMarked _)).trans
      (p.tellPlace_keptOrMarked properties _)

end Plugin

namespace Exchange
variable {p : Plugin} {x : Exchange} {now : Instant} {headers : HeaderSet}

/-! ## Decisions -/

/-- The decision to go on with headers as they were is made where they are not marked. -/
theorem ofModified_eq_proceed {modified : Bool} (h : Decision.ofModified modified = .proceed) :
    modified = false := by
  cases modified with
  | false => rfl
  | true => cases h

/-- A request that goes on unchanged has the headers that it came with. -/
theorem requestHeaders_of_proceed (h : (x.requestHeaders p now headers).2.2 = .proceed) :
    (x.requestHeaders p now headers).2.1 = headers := by
  cases hx : x.closed with
  | true => rw [requestHeaders_of_closed hx]
  | false =>
    have hgoes : (x.requestHeaders p now headers).2.2.stops = false := by rw [h]; rfl
    obtain ⟨-, hresult⟩ := requestHeaders_of_goesOn hx hgoes
    rw [hresult] at h ⊢
    rcases p.editRequest_keptOrMarked x.properties headers with hkept | hmarked
    · exact congrArg Edited.headers hkept
    · rw [ofModified_eq_proceed h] at hmarked
      cases hmarked

/-- The headers of a response are kept and the exchange goes on, or their length is removed and the
exchange goes on with that change, or they are kept and the exchange is stopped. -/
theorem responseHeaders_cases (p : Plugin) (x : Exchange) (headers : HeaderSet) :
    (x.responseHeaders p headers).2 = (headers, .proceed) ∨
    headers.contains Header.contentLength = true ∧ (x.responseHeaders p headers).2 =
      (headers.remove Header.contentLength, .proceedModified) ∨
    ∃ response, (x.responseHeaders p headers).2 = (headers, .respond response) := by
  rw [responseHeaders]
  split
  · exact .inl rfl
  · split
    · next response _ => exact .inr (.inr ⟨response, rfl⟩)
    · dsimp only
      split
      · next hlength =>
        rw [Bool.and_eq_true] at hlength
        exact .inr (.inl ⟨hlength.2, rfl⟩)
      · exact .inl rfl

/-- **A decision tells whether the headers were changed, in any state of an exchange.** Headers of a
request or a response with which the exchange goes on unchanged are those that came. Where it goes
on with changed headers of a response, only all entries that tell its length are gone, and there was
one. A response that is stopped has the headers that came. -/
theorem decision_tells_changes (p : Plugin) (x : Exchange) (now : Instant) (headers : HeaderSet) :
    ((x.requestHeaders p now headers).2.2 = .proceed →
      (x.requestHeaders p now headers).2.1 = headers) ∧
    ((x.responseHeaders p headers).2.2 = .proceed →
      (x.responseHeaders p headers).2.1 = headers) ∧
    ((x.responseHeaders p headers).2.2 = .proceedModified →
      headers.contains Header.contentLength = true ∧
      (x.responseHeaders p headers).2.1.entries =
        Header.without Header.contentLength headers.entries) ∧
    ((x.responseHeaders p headers).2.2.stops = true →
      (x.responseHeaders p headers).2.1 = headers) := by
  refine ⟨requestHeaders_of_proceed, ?_⟩
  rcases responseHeaders_cases p x headers with hkept | ⟨hlength, hremoved⟩ | ⟨response, hstopped⟩
  · rw [hkept]
    exact ⟨fun _ => rfl, nofun, nofun⟩
  · rw [hremoved]
    exact ⟨nofun, fun _ => ⟨hlength, rfl⟩, nofun⟩
  · rw [hstopped]
    exact ⟨nofun, nofun, fun _ => rfl⟩

/-- A plugin that edits pages, replaces failures, and tells the place of clients. -/
def busyPlugin : Plugin :=
  { markingPlugin with geo := some .default, statusRemap := some ⟨5, ⟨404⟩⟩ }

/-- The headers of a response with a status and a media type, which tell its length twice. -/
def lengthHeaders (status media : String) : HeaderSet :=
  .ofPairs [("Content-Length", "4"), (Header.status, status), (Header.contentType, media),
    ("content-length", "5")]

/-- A request without a place and an image are left alone, a page loses its length, and a failure
keeps it. -/
theorem decision_tells_changes_length :
    (start.requestHeaders busyPlugin .epoch pageHeaders).2.2 = .proceed ∧
    (start.requestHeaders busyPlugin .epoch pageHeaders).2.1 = pageHeaders ∧
    (start.responseHeaders busyPlugin (lengthHeaders "200" "image/png")).2.2 = .proceed ∧
    (start.responseHeaders busyPlugin (lengthHeaders "200" "image/png")).2.1 =
      lengthHeaders "200" "image/png" ∧
    (start.responseHeaders busyPlugin (lengthHeaders "200" "text/html")).2.2 = .proceedModified ∧
    (start.responseHeaders busyPlugin (lengthHeaders "200" "text/html")).2.1.entries =
      [⟨Header.status, "200"⟩, ⟨Header.contentType, "text/html"⟩] ∧
    (start.responseHeaders busyPlugin (lengthHeaders "503" "text/html")).2.2.stops = true ∧
    (start.responseHeaders busyPlugin (lengthHeaders "503" "text/html")).2.1 =
      lengthHeaders "503" "text/html" := by
  have hrequest : (start.requestHeaders busyPlugin .epoch pageHeaders).2.2 = .proceed := by
    decide +kernel
  have himage : (start.responseHeaders busyPlugin (lengthHeaders "200" "image/png")).2.2 =
      .proceed := by decide +kernel
  have hpage : (start.responseHeaders busyPlugin (lengthHeaders "200" "text/html")).2.2 =
      .proceedModified := by decide +kernel
  have hfailure : (start.responseHeaders busyPlugin (lengthHeaders "503" "text/html")).2.2.stops =
      true := by decide +kernel
  have htells := decision_tells_changes busyPlugin start .epoch
  exact ⟨hrequest, (htells _).1 hrequest, himage, (htells _).2.1 himage, hpage,
    ((htells _).2.2.1 hpage).2.trans (by decide +kernel), hfailure, (htells _).2.2.2 hfailure⟩

end Exchange

end ProxyFilter
