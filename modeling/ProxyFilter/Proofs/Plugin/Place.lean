import ProxyFilter.Proofs.Http.HeaderEdits
import ProxyFilter.Proofs.Plugin.Calls

/-!
# The header for the place of a client

A server believes what the place header says, so a client must not be able to write it. The stage
that tells the place is the last one to edit a request: whatever the client sent and the stages
before have written, it leaves one entry under the name or none (`Plugin.under_tellPlace`), and so
do the headers of a request that goes on (`Exchange.exists_tellPlace_of_goesOn`). What the entry
says is what the host told last (`IsToldLast`), since no other call has a part in the properties of
an exchange (`Exchange.property?_run`). The main result is `Exchange.requestHeaders_place`.
-/

namespace ProxyFilter

/-- What an exchange is told under a name, last of all. -/
def IsToldLast (name : String) (calls : List Call) (value : String) : Prop :=
  ∃ before after, calls = before ++ .setProperty name value :: after ∧
    ∀ value', .setProperty name value' ∉ after

namespace Plugin
variable {p : Plugin} {g : GeoSettings}

/-- **The place is all that is left under its name**, and nothing is where it is not known. -/
theorem under_tellPlace (hg : p.geo = some g) (properties : Properties) (e : Edited) :
    Header.under g.header (p.tellPlace properties e).headers.entries =
      match (properties.lookup g.property).filter (! ·.isEmpty) with
      | some place => [⟨g.header, place⟩]
      | none => [] := by
  simp only [tellPlace, hg]
  cases (properties.lookup g.property).filter (! ·.isEmpty) with
  | some place => exact (e.headers.set_changes g.header place).under_set
  | none =>
    cases hsent : e.headers.contains g.header with
    | true => exact Header.under_without_self ..
    | false => exact (HeaderSet.contains_eq_false_iff.1 hsent).under

/-- A request that can be edited gets its headers from the stage for the place. -/
theorem exists_tellPlace_of_editRequest {properties : Properties} {headers : HeaderSet}
    (h : (p.editRequest properties headers).2 = none) :
    ∃ e, (p.editRequest properties headers).1 = p.tellPlace properties e := by
  rw [editRequest] at h ⊢
  generalize p.copyQuery (p.editPath (p.stripTokens ⟨headers, false⟩)) = copied at h ⊢
  obtain ⟨e, reason⟩ := copied
  cases reason with
  | none => exact ⟨p.tellTrace (p.tellDevice e), rfl⟩
  | some reason => cases h

end Plugin

namespace Exchange
variable {p : Plugin} {g : GeoSettings} {x : Exchange} {now : Instant} {headers : HeaderSet}

/-! ## The last stage -/

/-- The headers with which a request goes on come from the stage for the place. -/
theorem exists_tellPlace_of_goesOn (hx : x.closed = false)
    (h : (x.requestHeaders p now headers).2.2.stops = false) :
    ∃ e, (x.requestHeaders p now headers).2.1 = (p.tellPlace x.properties e).headers := by
  obtain ⟨hedits, hresult⟩ := requestHeaders_of_goesOn hx h
  obtain ⟨e, hedited⟩ := Plugin.exists_tellPlace_of_editRequest hedits
  rw [hresult, hedited]
  exact ⟨e, rfl⟩

/-! ## What the host has told -/

/-- A value that is told is the one that is known under its name. -/
theorem property?_setProperty_self (x : Exchange) (name value : String) :
    (x.setProperty name value).property? name = some value := by
  simp [property?, setProperty]

/-- A value that is told leaves those under other names. By induction on what was known. -/
theorem property?_setProperty_of_ne {name other : String} (h : other ≠ name) (x : Exchange)
    (value : String) : (x.setProperty name value).property? other = x.property? other := by
  have hne : (other == name) = false := beq_eq_false_iff_ne.2 h
  simp only [property?, setProperty, List.lookup_cons, hne]
  induction x.properties with
  | nil => rfl
  | cons known properties ih =>
    by_cases hname : known.1 = name
    · have hother : (other == known.1) = false := by rw [hname, hne]
      rw [List.filter_cons_of_neg (by simp [hname]), ih, List.lookup_cons, hother]
    · rw [List.filter_cons_of_pos (by simp [hname]), List.lookup_cons, List.lookup_cons, ih]

/-- What was told stays when a body is prepared for. -/
theorem properties_prepareBody (p : Plugin) (x : Exchange) (media : String) :
    (x.prepareBody p media).properties = x.properties := rfl

/-- No phase has a part in what was told. -/
theorem properties_call (p : Plugin) (x : Exchange) {c : Call}
    (hc : ∀ name value, c ≠ .setProperty name value) :
    (x.call p c).1.properties = x.properties := by
  cases c with
  | requestHeaders now headers =>
    cases hx : x.closed with
    | true => simp only [call, requestHeaders_of_closed hx]
    | false =>
      rcases requestHeaders_of_open (p := p) hx now headers with ⟨-, hclose⟩ | ⟨-, hsame⟩
      · simp only [call, hclose, close]
      · simp only [call, hsame]
  | responseHeaders headers =>
    simp only [call, responseHeaders]
    split
    · rfl
    · split
      · rfl
      · split <;> exact properties_prepareBody p x _
  | responseBody chunk isLast =>
    simp only [call, responseBody]
    split
    · rfl
    · split
      · split
        · rfl
        · cases isLast <;> rfl
      · cases isLast <;> rfl
  | setProperty name value => exact absurd rfl (hc name value)

/-- What a call tells under a name is known then. -/
theorem property?_call_of_tells (p : Plugin) (x : Exchange) (name told : String) :
    (x.call p (.setProperty name told)).1.property? name = some told :=
  x.property?_setProperty_self name told

/-- A call that tells nothing under a name leaves what is known. -/
theorem property?_call_of_silent (p : Plugin) (x : Exchange) {c : Call} {name : String}
    (hc : ∀ told, c ≠ .setProperty name told) :
    (x.call p c).1.property? name = x.property? name := by
  cases c with
  | setProperty other told =>
    have hother : name ≠ other := by
      rintro rfl
      exact hc told rfl
    exact property?_setProperty_of_ne hother x told
  | requestHeaders | responseHeaders | responseBody =>
    rw [property?, properties_call p x (by simp), property?]

/-- What is told last is told by a later call, or by the first one and not again. -/
theorem isToldLast_cons {name value : String} {c : Call} {calls : List Call} :
    IsToldLast name (c :: calls) value ↔ IsToldLast name calls value ∨
      c = .setProperty name value ∧ ∀ told, .setProperty name told ∉ calls := by
  constructor
  · rintro ⟨before, after, hcalls, hafter⟩
    cases before with
    | nil =>
      obtain ⟨rfl, rfl⟩ := List.cons.inj hcalls
      exact .inr ⟨rfl, hafter⟩
    | cons first before =>
      obtain ⟨-, rfl⟩ := List.cons.inj hcalls
      exact .inl ⟨before, after, rfl, hafter⟩
  · rintro (⟨before, after, rfl, hafter⟩ | ⟨rfl, hcalls⟩)
    · exact ⟨c :: before, after, rfl, hafter⟩
    · exact ⟨[], calls, rfl, hcalls⟩

/-- **An exchange knows under a name what it is told last, or what it knew if it is told nothing.**
By induction on the calls. -/
theorem property?_run (p : Plugin) (x : Exchange) (calls : List Call) (name value : String) :
    (x.run p calls).1.property? name = some value ↔ IsToldLast name calls value ∨
      (∀ told, .setProperty name told ∉ calls) ∧ x.property? name = some value := by
  induction calls generalizing x with
  | nil => simp [run, IsToldLast]
  | cons c calls ih =>
    rw [run_cons, ih, isToldLast_cons]
    by_cases htells : ∃ told, c = .setProperty name told
    · obtain ⟨told, rfl⟩ := htells
      rw [property?_call_of_tells]
      have hagain : ¬ ∀ told', Call.setProperty name told' ∉ .setProperty name told :: calls :=
        fun h => h told List.mem_cons_self
      simp only [hagain, false_and, or_false, Option.some.injEq, Call.setProperty.injEq, true_and]
      rw [and_comm]
    · have hsilent : ∀ told, c ≠ .setProperty name told := fun told h => htells ⟨told, h⟩
      rw [property?_call_of_silent p x hsilent]
      simp [hsilent, Ne.symm (hsilent _)]

/-- An exchange knows nothing before it is told. -/
theorem property?_run_start (p : Plugin) (calls : List Call) (name value : String) :
    (start.run p calls).1.property? name = some value ↔ IsToldLast name calls value := by
  rw [property?_run]
  exact or_iff_left fun h => nomatch h.2

/-- **The header for the place says what the host knows, whatever the client sent.** Where a request
goes on in an open exchange, the place that is known is the only entry under the name of the header,
and if none is known or an empty one there is no such entry. What an exchange knows is what it was
told last. -/
theorem requestHeaders_place (hg : p.geo = some g) (x : Exchange) (now : Instant)
    (headers : HeaderSet) (hopen : x.closed = false)
    (hgoes : (x.requestHeaders p now headers).2.2.stops = false) :
    (∀ place, x.property? g.property = some place → place ≠ "" →
      Header.under g.header (x.requestHeaders p now headers).2.1.entries = [⟨g.header, place⟩]) ∧
    ((∀ place, x.property? g.property = some place → place = "") →
      Header.under g.header (x.requestHeaders p now headers).2.1.entries = []) ∧
    ∀ calls, x = (start.run p calls).1 → ∀ place,
      x.property? g.property = some place ↔ IsToldLast g.property calls place := by
  obtain ⟨e, hedited⟩ := exists_tellPlace_of_goesOn hopen hgoes
  have hknown : x.properties.lookup g.property = x.property? g.property := rfl
  rw [hedited, Plugin.under_tellPlace hg, hknown]
  refine ⟨fun place hknows hplace => ?_, fun hnone => ?_, ?_⟩
  · rw [hknows, Option.filter_some_pos (by simpa using hplace)]
  · cases hproperty : x.property? g.property with
    | none => rfl
    | some place =>
      obtain rfl := hnone place hproperty
      rfl
  · rintro calls rfl place
    exact property?_run_start p calls g.property place

/-- A plugin that tells the place under a name to which a parameter and the device are written
too. -/
def placePlugin : Plugin :=
  { markingPlugin with
    queryHeaders := [⟨"country", "x-country"⟩]
    device := some ⟨"X-COUNTRY", []⟩
    geo := some ⟨"region", "X-Country"⟩ }

/-- A request that says where its client is in two headers and a parameter. -/
def spoofedRequest : HeaderSet :=
  .ofPairs [("x-country", "NO"), (Header.path, "/?country=DK"), ("X-Country", "FI")]

/-- The calls that tell a place, and then another one. -/
def placeCalls (place : String) : List Call :=
  [.setProperty "region" "FR", .setProperty "region" place, .setProperty "city" "Paris"]

/-- The place that the host told last replaces all that the request says, or all of it goes. -/
theorem requestHeaders_place_spoofed :
    (start.run placePlugin (placeCalls "SE")).1.property? "region" = some "SE" ∧
    ((start.run placePlugin (placeCalls "SE")).1.requestHeaders placePlugin .epoch
      spoofedRequest).2.2.stops = false ∧
    IsToldLast "region" (placeCalls "SE") "SE" ∧
    Header.under "X-Country" ((start.run placePlugin (placeCalls "SE")).1.requestHeaders
      placePlugin .epoch spoofedRequest).2.1.entries = [⟨"X-Country", "SE"⟩] ∧
    Header.under "X-Country" ((start.run placePlugin (placeCalls "")).1.requestHeaders
      placePlugin .epoch spoofedRequest).2.1.entries = [] := by
  have hgoes (place : String) (hplace : place = "SE" ∨ place = "") :
      ((start.run placePlugin (placeCalls place)).1.requestHeaders placePlugin .epoch
        spoofedRequest).2.2.stops = false := by
    rcases hplace with rfl | rfl <;> decide +kernel
  have htold : (start.run placePlugin (placeCalls "SE")).1.property? "region" = some "SE" := by
    decide +kernel
  have hplace := requestHeaders_place rfl (start.run placePlugin (placeCalls "SE")).1 .epoch
    spoofedRequest rfl (hgoes "SE" (.inl rfl))
  have hempty := requestHeaders_place rfl (start.run placePlugin (placeCalls "")).1 .epoch
    spoofedRequest rfl (hgoes "" (.inr rfl))
  refine ⟨htold, hgoes "SE" (.inl rfl), (hplace.2.2 _ rfl "SE").1 htold,
    hplace.1 "SE" htold (by decide), hempty.2.1 fun place hknown => ?_⟩
  have hblank : (start.run placePlugin (placeCalls "")).1.property? "region" = some "" := by
    decide +kernel
  exact Option.some.inj (hknown.symm.trans hblank)

end Exchange

end ProxyFilter
