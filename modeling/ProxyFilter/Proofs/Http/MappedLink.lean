import ProxyFilter.Proofs.Config.DomainMapText
import ProxyFilter.Proofs.Http.LinkDomain
import ProxyFilter.Proofs.Http.PlainDomain

/-!
# Links whose host is mapped

A link that is written out in full is a scheme, perhaps a user, a host, perhaps a port, and a tail,
with blanks around it (`WrittenLink`). If browsers take it for an address and a map that was read
has a target for its host, the target comes in the place of the host and all else stays, with one
exception: where the tail is empty, blanks after the link are taken for a part of its authority, and
no source of a map has a blank. `LinkDomain.replace?_text` is the whole truth about such links.
-/

namespace ProxyFilter

namespace DomainMap

variable {m : DomainMap} {blob source target : String}

/-- The sources of a map that lines make are words, in lower case. -/
theorem Lists.isWord_of_mem {lines : List String} {entries : List (String × String)}
    (h : Lists lines entries) (hmem : (source, target) ∈ entries) :
    ∃ word : String, Text.IsWord word.toList ∧ source = Ascii.lower word := by
  induction h with
  | done => cases hmem
  | nothing _ _ ih => exact ih hmem
  | @entry _ _ _ word target' _ hline ih =>
    rcases List.mem_append.1 hmem with hmem | hlast
    · exact ih hmem
    · cases List.mem_singleton.1 hlast
      obtain ⟨-, _, _, _, -, -, hword, -⟩ := hline
      exact ⟨word, hword, rfl⟩

/-- What a map that was read has a target for is a word in lower case. -/
theorem exists_word_of_targetOf? {host : String} (h : parse blob = .ok m)
    (htarget : m.targetOf? host = some target) :
    ∃ word : String, Text.IsWord word.toList ∧ Ascii.lower host = Ascii.lower word := by
  have hlists : Lists (Text.lines blob) m.entries := by
    rcases addLines_result (m := empty) .done noneOffends_nil (Text.lines blob) with
      ⟨m', hm', hlists, -⟩ | ⟨number, reason, herror, -⟩
    · obtain rfl : m' = m := Except.ok.inj (hm'.symm.trans h)
      exact hlists
    · cases herror.symm.trans h
  exact hlists.isWord_of_mem (mem_of_get? htarget)

/-- No blank is in what a map that was read has a target for. -/
theorem not_isBlank_of_targetOf? {host : String} (h : parse blob = .ok m)
    (htarget : m.targetOf? host = some target) {c : Char} (hc : c ∈ host.toList) :
    Text.isBlank c = false := by
  obtain ⟨word, ⟨-, hword⟩, hsource⟩ := exists_word_of_targetOf? h htarget
  have hlower : host.toList.map Char.toLower = word.toList.map Char.toLower := by
    rw [← Ascii.toList_lower, hsource, Ascii.toList_lower]
  have hblank (d : Char) : Text.isBlank d.toLower = Text.isBlank d :=
    Ascii.toLower_invariant Text.isBlank (by decide +kernel) d
  obtain ⟨d, hd, hsame⟩ := List.mem_map.1 (hlower ▸ List.mem_map_of_mem hc)
  rw [← hblank, ← hsame, hblank]
  exact hword d hd

end DomainMap

/-- A link with the blanks around it, cut at its host. -/
structure WrittenLink where
  /-- The blanks in front. -/
  before : List Char
  scheme : List Char
  /-- The user, and perhaps a password. -/
  user : Option (List Char)
  host : List Char
  /-- The digits of the port. -/
  port : Option (List Char)
  /-- The path, the query and the fragment. -/
  tail : List Char
  /-- The blanks behind. -/
  after : List Char
  blankBefore : Text.AreBlank before
  isScheme : scheme.map Char.toLower = "http".toList ∨ scheme.map Char.toLower = "https".toList
  userInside : ∀ name ∈ user, ∀ c ∈ name, WebAddress.endsAuthority c = false
  hostPlain : ∀ c ∈ host, DomainName.IsPlain c
  portDigits : ∀ digits ∈ port, ∀ d ∈ digits, d.isDigit = true
  tailBegins : ∀ c ∈ tail.head?, LinkDomain.endsAuthority c = true
  blankAfter : Text.AreBlank after

namespace WrittenLink

/-- The user with its mark, or nothing. -/
def userText (l : WrittenLink) : List Char :=
  match l.user with
  | some name => name ++ ['@']
  | none => []

/-- The port with its mark, or nothing. -/
def portText (l : WrittenLink) : List Char :=
  match l.port with
  | some digits => ':' :: digits
  | none => []

/-- The text of the link with these characters for its host. -/
def textWith (l : WrittenLink) (host : List Char) : String :=
  String.ofList (WebAddress.written (l.before ++ l.scheme) l.userText host l.portText
    (l.tail ++ l.after))

/-- The text of the link. -/
def text (l : WrittenLink) : String := l.textWith l.host

variable (l : WrittenLink)

/-- A blank is no mark of an address. -/
theorem ne_of_isBlank {c mark : Char} (hc : Text.isBlank c = true)
    (hmark : Text.isBlank mark = false) : c ≠ mark := by
  rintro rfl
  rw [hc] at hmark
  cases hmark

/-- No colon stands before the one behind the scheme. -/
theorem noColon : ':' ∉ l.before ++ l.scheme := by
  intro hmem
  rcases List.mem_append.1 hmem with hmem | hmem
  · exact ne_of_isBlank (l.blankBefore _ hmem) (by decide) rfl
  · have hlower : ':' ∈ l.scheme.map Char.toLower := List.mem_map.2 ⟨':', hmem, rfl⟩
    rcases l.isScheme with hscheme | hscheme <;>
    · rw [hscheme] at hlower
      exact absurd hlower (by decide)

/-- A user ends with its mark. -/
theorem userEnds : l.userText = [] ∨ ∃ name, l.userText = name ++ ['@'] := by
  unfold userText
  cases l.user with
  | none => exact .inl rfl
  | some name => exact .inr ⟨name, rfl⟩

/-- No character of a user ends the authority. -/
theorem userText_inside {c : Char} (hc : c ∈ l.userText) : WebAddress.endsAuthority c = false := by
  have hinside := l.userInside
  unfold userText at hc
  cases huser : l.user with
  | none =>
    rw [huser] at hc
    cases hc
  | some name =>
    rw [huser] at hc
    rcases List.mem_append.1 hc with hc | hc
    · exact hinside name huser c hc
    · rw [List.mem_singleton.1 hc]
      rfl

/-- A port is made of digits behind its mark. -/
theorem portText_cases : l.portText = [] ∨
    ∃ digits, l.portText = ':' :: digits ∧ ∀ d ∈ digits, d.isDigit = true := by
  have hdigits := l.portDigits
  unfold portText
  cases hport : l.port with
  | none => exact .inl rfl
  | some digits => exact .inr ⟨digits, rfl, hdigits digits hport⟩

/-- The host is the text of one, unless it is empty. -/
theorem isHostText (hne : l.host ≠ []) : Host.IsHostText l.host := by
  refine .plain hne fun c hc => ?_
  rw [← Host.isHostChar_toLower]
  exact Host.isHostChar_of_isAllowed (l.hostPlain c hc).toLower

/-- What follows the host has no user in it, blanks included. -/
theorem noUser : '@' ∉ l.host ++ (l.portText ++ l.after) := by
  intro hmem
  rcases List.mem_append.1 hmem with hmem | hmem
  · exact absurd (l.hostPlain _ hmem) (by unfold DomainName.IsPlain; decide)
  · rcases List.mem_append.1 hmem with hmem | hmem
    · rcases l.portText_cases with hport | ⟨digits, hport, hdigits⟩
      · rw [hport] at hmem
        cases hmem
      · rw [hport] at hmem
        rcases List.mem_cons.1 hmem with heq | hmem
        · exact absurd heq (by decide)
        · exact absurd (hdigits _ hmem) (by decide)
    · exact ne_of_isBlank (l.blankAfter _ hmem) (by decide) rfl

/-- The tail ends the authority, if no blanks stand in its place. -/
theorem tailEnds (htail : l.tail = [] → l.after = []) :
    ∀ c ∈ (l.tail ++ l.after).head?, LinkDomain.endsAuthority c = true := by
  intro c hc
  refine l.tailBegins c ?_
  cases htext : l.tail with
  | nil =>
    rw [htext, htail htext] at hc
    cases hc
  | cons d tail =>
    rw [htext] at hc
    exact hc

/-- The parts of the link stand where its text is cut, if blanks behind it do not follow the host or
the port. -/
theorem stands (hne : l.host ≠ []) (htail : l.tail = [] → l.after = []) :
    WebAddress.Stands l.text (l.before ++ l.scheme) l.userText l.host l.portText
      (l.tail ++ l.after) where
  eq := String.toList_ofList
  noColon := l.noColon
  userEnds := l.userEnds
  userInside _ hc := l.userText_inside hc
  isHostText := l.isHostText hne
  portBegins := by
    rcases l.portText_cases with hport | ⟨digits, hport, -⟩
    · exact .inl hport
    · exact .inr (.inl ⟨digits, hport⟩)
  noUser := fun hmem => l.noUser (List.mem_append_right _ (List.mem_append_left _ hmem))
  tailBegins c hc := LinkDomain.isSolid_of_endsAuthority (l.tailEnds htail c hc)

/-- The port and the tail of the link are cut off, if blanks behind it do not follow the host or the
port. -/
theorem isCut (htail : l.tail = [] → l.after = []) :
    LinkDomain.IsCut l.portText (l.tail ++ l.after) where
  digits := l.portText_cases
  tailEnds := l.tailEnds htail

end WrittenLink

namespace LinkDomain

variable {map : DomainMap} {blob target : String} {l : WrittenLink} {address : WebAddress}

/-- The user, the host, the port and blanks behind them belong to the authority. -/
theorem endsAuthority_of_link (hhost : l.host ≠ []) {c : Char}
    (hc : c ∈ l.userText ++ (l.host ++ (l.portText ++ l.after))) : endsAuthority c = false := by
  let bare : WrittenLink := { l with after := [], blankAfter := fun _ h => nomatch h }
  have hstands := bare.stands hhost fun _ => rfl
  have hinside := endsAuthority_of_stands (c := c) hstands (bare.isCut fun _ => rfl)
  rw [← List.append_assoc l.host, ← List.append_assoc] at hc
  rcases List.mem_append.1 hc with hc | hc
  · exact hinside hc
  · have hne {mark : Char} (hmark : Text.isBlank mark = false) : c ≠ mark :=
      WrittenLink.ne_of_isBlank (l.blankAfter c hc) hmark
    simp only [endsAuthority, Bool.or_eq_false_iff, beq_eq_false_iff_ne]
    exact ⟨⟨hne (by decide), hne (by decide)⟩, hne (by decide)⟩

/-- A host and a port with blanks behind them are taken for a host, since a port ends in a digit or
its colon. -/
theorem hostOf_of_blank (hhost : l.host ≠ []) (hafter : l.after ≠ []) :
    Authority.HostOf (String.ofList (l.host ++ (l.portText ++ l.after)))
      (String.ofList (l.host ++ (l.portText ++ l.after))) := by
  refine .portless ?_ fun host digits heq => ?_
  · obtain ⟨c, more, hcut⟩ := List.exists_cons_of_ne_nil hhost
    have hplain := l.hostPlain c (by simp [hcut])
    rw [String.toList_ofList, hcut]
    rintro hhead
    obtain rfl : c = '[' := by simpa using hhead
    exact absurd hplain (by unfold DomainName.IsPlain; decide)
  · obtain ⟨blanks, last, hlast⟩ := (List.eq_nil_or_concat l.after).resolve_left hafter
    have hblank : Text.isBlank last = true := l.blankAfter last (by simp [hlast])
    have hform : (l.host ++ (l.portText ++ blanks)) ++ [last] =
        (host.toList ++ [':']) ++ digits.toList := by
      have hlists := congrArg String.toList heq
      simpa [hlast] using hlists
    rcases List.eq_nil_or_concat digits.toList with hnone | ⟨ds, d, hdigits⟩
    · rw [hnone, List.append_nil] at hform
      obtain rfl : last = ':' := List.singleton_inj.1 (List.append_inj' hform rfl).2
      exact absurd hblank (by decide)
    · have hends : (l.host ++ (l.portText ++ blanks)) ++ [last] =
          (host.toList ++ ':' :: ds) ++ [d] := by
        rw [hform, hdigits]
        simp
      obtain rfl : last = d := List.singleton_inj.1 (List.append_inj' hends rfl).2
      refine ⟨last, by simp [hdigits], ?_⟩
      rw [Bool.eq_false_iff]
      intro hdigit
      have hchar := Host.isHostChar_of_isHexDigit (Ascii.isHexDigit_of_isDigit hdigit)
      simp [Host.isHostChar, hblank] at hchar

/-- Blanks behind a host or a port are taken for a part of the host. -/
theorem parts?_host_of_blank {parts : Parts} (hhost : l.host ≠ []) (htail : l.tail = [])
    (hafter : l.after ≠ []) (h : parts? l.text = some parts) :
    parts.host = String.ofList (l.host ++ (l.portText ++ l.after)) := by
  obtain ⟨scheme, rest, user, hostPort, port, hscheme, huser, hport, -, -⟩ := parts?_eq_some h
  have htext : l.text.toList = (l.before ++ l.scheme) ++ ':' :: '/' :: '/' ::
      (l.userText ++ (l.host ++ (l.portText ++ l.after))) := by
    rw [WrittenLink.text, WrittenLink.textWith, String.toList_ofList, htail, List.nil_append]
    rfl
  rw [htext, splitScheme?_of_not_mem l.noColon, Option.some.injEq, Prod.mk.injEq] at hscheme
  obtain ⟨-, rfl⟩ := hscheme
  have hauthority : (l.userText ++ (l.host ++ (l.portText ++ l.after))).takeWhile
      (fun c => ! endsAuthority c) = l.userText ++ (l.host ++ (l.portText ++ l.after)) := by
    rw [List.takeWhile_eq_self_iff]
    intro c hc
    rw [endsAuthority_of_link hhost hc, Bool.not_false]
  rw [hauthority, splitUser_append l.userEnds l.noUser, Prod.mk.injEq] at huser
  obtain ⟨-, rfl⟩ := huser
  have hcut := (hostOf_of_blank hhost hafter).splitHostPort
  rw [hport] at hcut
  exact hcut

/-- **The host of a link is replaced by its target, and all else stays, the blanks around it
included; only where blanks follow the host or the port at once, nothing is replaced.** The map is
any that was read, and the host is a source of it, letter case ignored. -/
theorem replace?_text (hmap : DomainMap.parse blob = .ok map)
    (htarget : map.Sends (String.ofList l.host) target)
    (haddress : WebAddress.parse? (Text.trim l.text) = some address) :
    replace? map l.text =
      if l.tail = [] ∧ l.after ≠ [] then none else some (l.textWith target.toList) := by
  have hfound := (DomainMap.isCanonical_of_parse hmap).targetOf?_eq_some_iff.2 htarget
  have hhost : l.host ≠ [] := by
    intro hempty
    obtain ⟨word, ⟨hne, -⟩, hsource⟩ := DomainMap.exists_word_of_targetOf? hmap hfound
    rw [hempty] at hsource
    exact hne (by simpa using congrArg String.toList hsource)
  split
  · next hblank =>
    rw [Option.eq_none_iff_forall_ne_some]
    intro out hout
    obtain ⟨_, parts, _, -, hparts, hsource, -⟩ := replace?_eq_some hout
    have hpartsHost := parts?_host_of_blank hhost hblank.1 hblank.2 hparts
    obtain ⟨c, more, hafter⟩ := List.exists_cons_of_ne_nil hblank.2
    have hc : c ∈ parts.host.toList := by
      rw [hpartsHost, String.toList_ofList, hafter]
      simp
    have hnot := DomainMap.not_isBlank_of_targetOf? hmap hsource hc
    rw [l.blankAfter c (by simp [hafter])] at hnot
    cases hnot
  · next hblank =>
    have hafter : l.tail = [] → l.after = [] := by
      intro htail
      by_contra hne
      exact hblank ⟨htail, hne⟩
    exact replace?_of_stands haddress (l.stands hhost hafter) (l.isCut hafter) hfound

/-- A text is an address where its parts are. -/
theorem parse?_of_cuts {text : String} {secure : Bool} {h : Host} {port : Option Nat}
    (rest host after : List Char)
    (hrest : WebAddress.afterScheme? (WebAddress.clean text.toList) = some (secure, rest))
    (hcut : WebAddress.splitHost false (WebAddress.withoutUser
      ((rest.dropWhile fun c => c == '/' || c == '\\').takeWhile fun c =>
        ! WebAddress.endsAuthority c)) = (host, after))
    (hhost : Host.parse? host = some h) (hport : WebAddress.port? after = some port) :
    WebAddress.parse? text = some ⟨secure, h, port⟩ := by
  simp only [WebAddress.parse?, hrest, hcut, hhost, hport, Option.bind_eq_bind, Option.bind_some,
    Option.pure_def]

/-- A map of one domain. -/
def abcMap : DomainMap := ⟨[("abc.com", "xyz.com")]⟩

/-- The domain is read in either letter case. -/
theorem parse?_abc {host : List Char} (h : host.map Char.toLower = "abc.com".toList)
    (hplain : ∀ c ∈ host, DomainName.IsPlain c) :
    Host.parse? host = some (.domain "abc.com") := by
  have hmark : ∀ label ∈ "abc.com".toList.splitOn '.',
      ¬ DomainName.Label.encodedMark <+: label := by
    decide +kernel
  have hdomain : Host.ofDomain? "abc.com".toList = some (.domain "abc.com") := by decide +kernel
  rw [Host.parse?_of_isPlain hplain (h ▸ hmark), h, hdomain]

/-- A link with all parts that a link may have, and blanks around it. -/
def fullLink : WrittenLink where
  before := [' ']
  scheme := "HTTP".toList
  user := some "u:p".toList
  host := "Abc.com".toList
  port := some "80".toList
  tail := "/?q".toList
  after := ['\n']
  blankBefore := List.forall_mem_singleton.2 rfl
  isScheme := .inl rfl
  userInside := by simp [WebAddress.endsAuthority]
  hostPlain := by simp [DomainName.IsPlain]
  portDigits := by simp [Char.isDigit]
  tailBegins := by simp [LinkDomain.endsAuthority]
  blankAfter := List.forall_mem_singleton.2 rfl

/-- The host of that link is replaced. -/
theorem replace?_text_fullLink : DomainMap.parse "abc.com xyz.com" = .ok abcMap ∧
    fullLink.text = " HTTP://u:p@Abc.com:80/?q\n" ∧
    replace? abcMap fullLink.text = some " HTTP://u:p@xyz.com:80/?q\n" := by
  have hmap : DomainMap.parse "abc.com xyz.com" = .ok abcMap := by rfl
  have htarget : abcMap.Sends (String.ofList fullLink.host) "xyz.com" :=
    ⟨"abc.com", List.mem_singleton.2 rfl, by decide +kernel⟩
  have haddress : WebAddress.parse? (Text.trim fullLink.text) =
      some ⟨false, .domain "abc.com", some 80⟩ := by
    refine parse?_of_cuts "//u:p@Abc.com:80/?q".toList fullLink.host ":80".toList ?_ ?_
      (parse?_abc (by decide) fullLink.hostPlain) ?_
    · decide +kernel
    · decide +kernel
    · decide +kernel
  have hreplaced := replace?_text hmap htarget haddress
  rw [if_neg (by decide)] at hreplaced
  exact ⟨hmap, by decide +kernel, hreplaced.trans (by decide +kernel)⟩

/-- Nothing is replaced in `https://abc.com` with a blank behind it. -/
theorem replace?_blank_behind : DomainMap.parse "abc.com xyz.com" = .ok abcMap ∧
    WebAddress.parse? (Text.trim "https://abc.com ") = some ⟨true, .domain "abc.com", none⟩ ∧
    replace? abcMap "https://abc.com " = none := by
  have haddress : WebAddress.parse? (Text.trim "https://abc.com ") =
      some ⟨true, .domain "abc.com", none⟩ := by
    have hplain : ∀ c ∈ "abc.com".toList, DomainName.IsPlain c := by simp [DomainName.IsPlain]
    refine parse?_of_cuts "//abc.com".toList "abc.com".toList [] ?_ ?_
      (parse?_abc (by decide) hplain) rfl
    · decide +kernel
    · decide +kernel
  have hparts : parts? "https://abc.com " = some ⟨"https://", "abc.com ", ""⟩ := by decide +kernel
  have hnone : abcMap.targetOf? "abc.com " = none := by decide +kernel
  refine ⟨rfl, haddress, ?_⟩
  rw [replace?, haddress, hparts]
  simp only [Option.bind_eq_bind, Option.bind_some, hnone, Option.bind_none]

end LinkDomain

end ProxyFilter
