import ProxyFilter.Http.LinkDomain
import ProxyFilter.Proofs.Config.DomainMap
import ProxyFilter.Proofs.Http.Authority
import ProxyFilter.Proofs.Http.WebAddress

/-!
# Links to other domains

A link is valid by what browsers read of it, and its host is found by cutting its text: at `://`, at
the end of the authority, at the last `@` and at a port. `LinkDomain.hostReplaced_of_replace?` shows
that the two agree for an address that is regular (`LinkDomain.IsRegular`) and a map whose sources
are texts of hosts (`DomainMap.NamesHosts`), so that only the host is replaced, and only if a source
names it (`LinkDomain.replace?_host`). An address that is not regular can hold a second text that
looks like its authority: browsers end the authority at a backslash and the cuts do not, so that a
part of the path is taken for the host (`LinkDomain.replace?_backslash`).
-/

namespace ProxyFilter

open WebAddress (Stands written)

/-- A text is spelt as browsers write the host that it names. -/
def Host.IsSpelt (text : String) : Prop :=
  ∃ host, Host.parse? text.toList = some host ∧ host.text = text

/-- Every source of a map is the text of a host. -/
def DomainMap.NamesHosts (map : DomainMap) : Prop :=
  ∀ source target, (source, target) ∈ map.entries → Host.IsHostText source.toList

/-- A map names hosts if its sources are spelt as browsers write them. -/
theorem DomainMap.namesHosts_of_isSpelt {map : DomainMap}
    (h : ∀ source target, (source, target) ∈ map.entries → Host.IsSpelt source) :
    map.NamesHosts := by
  intro source target hmem
  obtain ⟨host, hread, htext⟩ := h source target hmem
  rw [← htext]
  exact Host.isHostText_text hread

namespace LinkDomain

/-! ## Cuts -/

variable {scheme rest authority user hostPort host port tail : List Char} {value : String}
variable {map : DomainMap}

/-- The scheme of an address ends at `://`. -/
theorem splitScheme?_of_not_mem (h : ':' ∉ scheme) (rest : List Char) :
    splitScheme? (scheme ++ ':' :: '/' :: '/' :: rest) = some (scheme, rest) := by
  induction scheme with
  | nil => rfl
  | cons c scheme ih =>
    rw [List.mem_cons, not_or] at h
    rw [List.cons_append, splitScheme?, ih h.2]
    · rfl
    · rintro rest' rfl
      exact absurd rfl h.1

/-- A user ends at the last `@`. -/
theorem splitUser_eq (h : splitUser authority = (user, hostPort)) :
    authority = user ++ hostPort ∧ '@' ∉ hostPort ∧
      (user = [] ∨ ∃ name, user = name ++ ['@']) := by
  simp only [splitUser] at h
  split at h
  · next name rest hcut =>
    cases h
    obtain ⟨hrest, rfl⟩ := Text.splitLastChars?_eq_some.1 hcut
    exact ⟨by simp, hrest, .inr ⟨name, rfl⟩⟩
  · next hcut =>
    cases h
    exact ⟨rfl, Text.splitLastChars?_eq_none.1 hcut, .inl rfl⟩

/-- What is cut from an address is its scheme and what follows `://`. -/
theorem splitScheme?_eq_some {cs : List Char} (h : splitScheme? cs = some (scheme, rest)) :
    cs = scheme ++ ':' :: '/' :: '/' :: rest := by
  induction cs generalizing scheme with
  | nil => cases h
  | cons c cs ih =>
    rw [splitScheme?.eq_def] at h
    split at h
    · cases h
    · next hcs =>
      cases h
      exact hcs
    · next hcs =>
      cases hcs
      obtain ⟨⟨scheme, rest⟩, hcut, heq⟩ := Option.map_eq_some_iff.1 h
      cases heq
      rw [ih hcut, List.cons_append]

/-- What follows a user is cut from it at the last `@`. -/
theorem splitUser_append (huser : user = [] ∨ ∃ name, user = name ++ ['@'])
    (hhost : '@' ∉ hostPort) : splitUser (user ++ hostPort) = (user, hostPort) := by
  rcases huser with rfl | ⟨name, rfl⟩
  · rw [splitUser, List.nil_append, Text.splitLastChars?_eq_none.2 hhost]
  · have hcut : Text.splitLastChars? '@' (name ++ ['@'] ++ hostPort) = some (name, hostPort) :=
      Text.splitLastChars?_eq_some.2 ⟨hhost, by simp⟩
    rw [splitUser, hcut]

/-- The parts of an address stand where it is cut. -/
theorem parts?_eq_some {parts : Parts} (h : parts? value = some parts) :
    ∃ scheme rest user hostPort port, splitScheme? value.toList = some (scheme, rest) ∧
      splitUser (rest.takeWhile fun c => ! endsAuthority c) = (user, hostPort) ∧
      Authority.splitHostPort (String.ofList hostPort) = (parts.host, port) ∧
      parts.head.toList = scheme ++ ':' :: '/' :: '/' :: user ∧
      parts.tail.toList = port.toList ++ rest.dropWhile fun c => ! endsAuthority c := by
  rw [parts?] at h
  obtain ⟨⟨scheme, rest⟩, hcut, h⟩ := Option.bind_eq_some_iff.1 h
  rcases huser : splitUser (rest.takeWhile fun c => ! endsAuthority c) with ⟨user, hostPort⟩
  rcases hhost : Authority.splitHostPort (String.ofList hostPort) with ⟨host, port⟩
  simp only [huser, hhost, Option.pure_def, Option.some.injEq] at h
  subst h
  exact ⟨scheme, rest, user, hostPort, port, hcut, huser, hhost, by simp, by simp⟩

/-! ## What is replaced -/

/-- The first `://` of an address follows its first colon, and no backslash stands before the last
`@` of its authority. A text without `://` is regular. -/
def IsRegular (value : String) : Prop :=
  ∀ scheme rest, splitScheme? value.toList = some (scheme, rest) → ':' ∉ scheme ∧
    '\\' ∉ (splitUser (rest.takeWhile fun c => ! endsAuthority c)).1

/-- What is replaced by its target. -/
theorem replace?_eq_some {out : String} (h : replace? map value = some out) :
    ∃ address parts target, WebAddress.parse? (Text.trim value) = some address ∧
      parts? value = some parts ∧ map.targetOf? parts.host = some target ∧
      out = parts.head ++ target ++ parts.tail := by
  rw [replace?] at h
  obtain ⟨address, haddress, h⟩ := Option.bind_eq_some_iff.1 h
  obtain ⟨parts, hparts, h⟩ := Option.bind_eq_some_iff.1 h
  obtain ⟨target, htarget, h⟩ := Option.bind_eq_some_iff.1 h
  cases h
  exact ⟨address, parts, target, haddress, hparts, htarget, rfl⟩

/-- What ends an authority where it is cut ends it for browsers too, and is solid. -/
theorem isSolid_of_endsAuthority {c : Char} (h : endsAuthority c = true) :
    WebAddress.IsSolid c ∧ WebAddress.endsAuthority c = true := by
  simp only [endsAuthority, Bool.or_eq_true, beq_iff_eq] at h
  rcases h with (rfl | rfl) | rfl <;> exact ⟨⟨by decide, by decide⟩, by decide⟩

/-- What ends an authority for browsers alone is a backslash. -/
theorem endsAuthority_of_not {c : Char} (h : endsAuthority c = false) (hc : c ≠ '\\') :
    WebAddress.endsAuthority c = false := by
  simp only [endsAuthority, WebAddress.endsAuthority, Bool.or_eq_false_iff, beq_eq_false_iff_ne]
    at h ⊢
  exact ⟨⟨⟨h.1.1, hc⟩, h.1.2⟩, h.2⟩

/-- Where an address is cut in parts, if the host is the text of one. -/
theorem stands_of_cuts {host port : String}
    (hvalue : value.toList = scheme ++ ':' :: '/' :: '/' :: rest) (hscheme : ':' ∉ scheme)
    (hslash : '\\' ∉ (splitUser (rest.takeWhile fun c => ! endsAuthority c)).1)
    (huser : splitUser (rest.takeWhile fun c => ! endsAuthority c) = (user, hostPort))
    (hport : Authority.splitHostPort (String.ofList hostPort) = (host, port))
    (hhost : Host.IsHostText host.toList) : Stands value scheme user host.toList port.toList
      (rest.dropWhile fun c => ! endsAuthority c) := by
  obtain ⟨hauthority, hnoUser, huserEnds⟩ := splitUser_eq huser
  obtain ⟨hparts, hbegins⟩ := Authority.splitHostPort_eq hport
  rw [String.toList_ofList] at hparts
  rw [huser] at hslash
  have hrest : rest = user ++ (host.toList ++ (port.toList ++
      rest.dropWhile fun c => ! endsAuthority c)) := by
    conv_lhs => rw [← List.takeWhile_append_dropWhile (p := fun c => ! endsAuthority c) (l := rest),
      hauthority, hparts]
    simp
  refine ⟨by rw [hvalue, written, ← hrest], hscheme, huserEnds, fun c hc => ?_, hhost, hbegins,
    ?_, ?_⟩
  · have hmem : c ∈ rest.takeWhile fun c => ! endsAuthority c :=
      hauthority ▸ List.mem_append_left _ hc
    have hinside := List.mem_takeWhile_imp hmem
    exact endsAuthority_of_not (by simpa using hinside) fun heq => hslash (heq ▸ hc)
  · exact fun hmem => hnoUser (hparts ▸ List.mem_append_right _ hmem)
  · intro c hc
    have hends := List.head?_dropWhile_not (fun c => ! endsAuthority c) rest
    rw [hc] at hends
    exact isSolid_of_endsAuthority (by simpa using hends)

/-- A text is given out for another one with the host of an address replaced: the text that the host
is read from stands before all that ends the authority, the source that it is in lower case names
the same host, the target of the source comes in its place, and all else stays. -/
def HostReplaced (map : DomainMap) (value out : String) (address : WebAddress) : Prop :=
  ∃ scheme user host port tail source target, Stands value scheme user host port tail ∧
    (∀ c ∈ user ++ host, WebAddress.endsAuthority c = false) ∧
    Host.parse? host = some address.host ∧
    Ascii.lower (String.ofList host) = source ∧
    Host.parse? source.toList = some address.host ∧
    (Host.IsSpelt source → address.host.text = source) ∧
    map.get? source = some target ∧
    out.toList = written scheme user target.toList port tail

/-- Where something is replaced in a regular address, it is the host. -/
theorem hostReplaced_of_replace? (hmap : map.NamesHosts) (hvalue : IsRegular value) {out : String}
    (h : replace? map value = some out) : ∃ address,
      WebAddress.parse? (Text.trim value) = some address ∧ HostReplaced map value out address := by
  obtain ⟨address, parts, target, haddress, hparts, htarget, rfl⟩ := replace?_eq_some h
  obtain ⟨scheme, rest, user, hostPort, port, hcut, huser, hport, hhead, htail⟩ :=
    parts?_eq_some hparts
  obtain ⟨hscheme, hslash⟩ := hvalue scheme rest hcut
  have hhost : Host.IsHostText parts.host.toList := by
    have hsource := hmap _ _ (DomainMap.mem_of_get? htarget)
    rw [Ascii.toList_lower] at hsource
    exact hsource.of_map_toLower
  have hstands := stands_of_cuts (splitScheme?_eq_some hcut) hscheme hslash huser hport hhost
  have hread := WebAddress.parse?_host hstands haddress
  have hsource : Host.parse? (Ascii.lower parts.host).toList = some address.host := by
    rw [Ascii.toList_lower, Host.parse?_map_toLower, hread]
  refine ⟨address, haddress, scheme, user, parts.host.toList, port.toList, _,
    Ascii.lower parts.host, target, hstands, fun c hc => ?_, hread, by rw [String.ofList_toList],
    hsource, ?_, htarget, by simp [written, hhead, htail]⟩
  · rcases List.mem_append.1 hc with hc | hc
    · exact hstands.userInside c hc
    · exact (WebAddress.isSolid_of_isHostText hhost hc).2.1
  · rintro ⟨other, hother, htext⟩
    obtain rfl : other = address.host := Option.some.inj (hother.symm.trans hsource)
    exact htext

/-- A port is made of digits, if there is one, and what follows it begins where an authority is
cut off. -/
structure IsCut (port tail : List Char) : Prop where
  digits : port = [] ∨ ∃ digits, port = ':' :: digits ∧ ∀ d ∈ digits, d.isDigit = true
  tailEnds : ∀ c ∈ tail.head?, endsAuthority c = true

/-- A user, a host and a port are cut from what follows them. -/
theorem endsAuthority_of_stands (h : Stands value scheme user host port tail)
    (hcut : IsCut port tail) {c : Char} (hc : c ∈ user ++ (host ++ port)) :
    endsAuthority c = false := by
  have hweaken (h : WebAddress.endsAuthority c = false) : endsAuthority c = false := by
    simp only [endsAuthority, WebAddress.endsAuthority, Bool.or_eq_false_iff,
      beq_eq_false_iff_ne] at h ⊢
    exact ⟨⟨h.1.1.1, h.1.2⟩, h.2⟩
  rcases List.mem_append.1 hc with hc | hc
  · exact hweaken (h.userInside c hc)
  · rcases List.mem_append.1 hc with hc | hc
    · exact hweaken (WebAddress.isSolid_of_isHostText h.isHostText hc).2.1
    · rcases hcut.digits with rfl | ⟨digits, rfl, hdigits⟩
      · cases hc
      · rcases List.mem_cons.1 hc with rfl | hc
        · decide
        · have hdigit := hdigits c hc
          simp only [endsAuthority, Bool.or_eq_false_iff, beq_eq_false_iff_ne]
          refine ⟨⟨?_, ?_⟩, ?_⟩ <;>
          · rintro rfl
            exact absurd hdigit (by decide)

/-- A text is cut where the first character stands that is not `p`. -/
theorem takeWhile_dropWhile_append {p : Char → Bool} (h : ∀ c ∈ authority, p c = true)
    (htail : ∀ c ∈ tail.head?, p c = false) :
    (authority ++ tail).takeWhile p = authority ∧ (authority ++ tail).dropWhile p = tail := by
  rw [List.takeWhile_append_of_pos h, List.dropWhile_append_of_pos h]
  cases tail with
  | nil => simp
  | cons c tail => simp [htail c rfl]

/-- An address is cut where its parts stand. -/
theorem parts?_of_stands (h : Stands value scheme user host port tail) (hcut : IsCut port tail) :
    parts? value = some
      { head := String.ofList (scheme ++ [':', '/', '/'] ++ user), host := String.ofList host,
        tail := String.ofList port ++ String.ofList tail } := by
  have hinside : ∀ c ∈ user ++ (host ++ port), (! endsAuthority c) = true := fun c hc => by
    rw [endsAuthority_of_stands h hcut hc, Bool.not_false]
  have hform : written scheme user host port tail =
      scheme ++ ':' :: '/' :: '/' :: (user ++ (host ++ port) ++ tail) := by simp [written]
  have htail : ∀ c ∈ tail.head?, (! endsAuthority c) = false := fun c hc => by
    rw [hcut.tailEnds c hc, Bool.not_true]
  obtain ⟨htake, hdrop⟩ := takeWhile_dropWhile_append hinside htail
  have hnoUser : '@' ∉ host ++ port := by
    rw [List.mem_append, not_or]
    exact ⟨fun hmem => (WebAddress.isSolid_of_isHostText h.isHostText hmem).2.2 rfl, h.noUser⟩
  simp only [parts?, h.eq, hform, splitScheme?_of_not_mem h.noColon, htake, hdrop,
    splitUser_append h.userEnds hnoUser, Authority.splitHostPort_append h.isHostText hcut.digits,
    Option.bind_eq_bind, Option.bind_some, Option.pure_def]

/-- The host of an address is replaced where it stands. -/
theorem replace?_of_stands {address : WebAddress} {target : String}
    (haddress : WebAddress.parse? (Text.trim value) = some address)
    (h : Stands value scheme user host port tail) (hcut : IsCut port tail)
    (htarget : map.targetOf? (String.ofList host) = some target) : replace? map value =
      some (String.ofList (written scheme user target.toList port tail)) := by
  simp only [replace?, haddress, parts?_of_stands h hcut, htarget, Option.bind_eq_bind,
    Option.bind_some, Option.pure_def, Option.some.injEq]
  apply String.toList_inj.1
  simp [written]

/-- **Only the host of a link is replaced, and only if a source of the map names it**, where the
sources are texts of hosts and the address is regular. An address whose host no source names is left
alone, and one whose host is a source has it replaced. -/
theorem replace?_host (hmap : map.NamesHosts) (hvalue : IsRegular value) :
    (∀ out, replace? map value = some out → ∃ address,
      WebAddress.parse? (Text.trim value) = some address ∧ HostReplaced map value out address) ∧
    (∀ address, WebAddress.parse? (Text.trim value) = some address →
      (∀ source target, (source, target) ∈ map.entries →
        Host.parse? source.toList ≠ some address.host) → replace? map value = none) ∧
    ∀ address scheme user host port tail target,
      WebAddress.parse? (Text.trim value) = some address →
      Stands value scheme user host port tail → IsCut port tail →
      map.targetOf? (String.ofList host) = some target →
      replace? map value = some (String.ofList (written scheme user target.toList port tail)) := by
  refine ⟨fun out h => hostReplaced_of_replace? hmap hvalue h, fun address haddress hnone => ?_,
    fun _ _ _ _ _ _ _ haddress h hcut htarget => replace?_of_stands haddress h hcut htarget⟩
  rw [Option.eq_none_iff_forall_ne_some]
  intro out h
  obtain ⟨other, hother, _, _, _, _, _, source, target, -, -, -, -, hsource, -, htarget, -⟩ :=
    hostReplaced_of_replace? hmap hvalue h
  obtain rfl : other = address := Option.some.inj (hother.symm.trans haddress)
  exact hnone source target (DomainMap.mem_of_get? htarget) hsource

/-- A map with one address of eight groups. -/
def groupsMap : DomainMap := ⟨[("[::2]", "new.example")]⟩

/-- The address is spelt as browsers write it. -/
theorem namesHosts_groupsMap : groupsMap.NamesHosts := by
  refine DomainMap.namesHosts_of_isSpelt fun source target h => ?_
  obtain ⟨rfl, rfl⟩ : source = "[::2]" ∧ target = "new.example" := by simpa [groupsMap] using h
  exact ⟨.v6 [0, 0, 0, 0, 0, 0, 0, 2], by decide +kernel, by decide +kernel⟩

/-- The host of a link with a user and a port is replaced. -/
theorem replace?_host_user : groupsMap.NamesHosts ∧ IsRegular "HTTP://[::1]@[::2]:80/a\\@[::1]" ∧
    replace? groupsMap "HTTP://[::1]@[::2]:80/a\\@[::1]" =
      some "HTTP://[::1]@new.example:80/a\\@[::1]" ∧
    ∃ address, WebAddress.parse? (Text.trim "HTTP://[::1]@[::2]:80/a\\@[::1]") = some address ∧
      HostReplaced groupsMap "HTTP://[::1]@[::2]:80/a\\@[::1]"
        "HTTP://[::1]@new.example:80/a\\@[::1]" address := by
  have hvalue : IsRegular "HTTP://[::1]@[::2]:80/a\\@[::1]" := by
    intro scheme rest h
    have hcut : splitScheme? "HTTP://[::1]@[::2]:80/a\\@[::1]".toList =
        some ("HTTP".toList, "[::1]@[::2]:80/a\\@[::1]".toList) := by decide +kernel
    rw [hcut] at h
    cases h
    decide +kernel
  have hout : replace? groupsMap "HTTP://[::1]@[::2]:80/a\\@[::1]" =
      some "HTTP://[::1]@new.example:80/a\\@[::1]" := by decide +kernel
  exact ⟨namesHosts_groupsMap, hvalue, hout,
    (replace?_host namesHosts_groupsMap hvalue).1 _ hout⟩

/-- Browsers end an authority at a backslash, and what is replaced here stands after it. -/
theorem replace?_backslash : groupsMap.NamesHosts ∧ ∃ address,
    WebAddress.parse? (Text.trim "http://[::1]\\@[::2]/") = some address ∧
      groupsMap.get? address.host.text = none ∧
      replace? groupsMap "http://[::1]\\@[::2]/" = some "http://[::1]\\@new.example/" :=
  ⟨namesHosts_groupsMap, ⟨false, .v6 [0, 0, 0, 0, 0, 0, 0, 1], none⟩, by decide +kernel,
    by decide +kernel, by decide +kernel⟩

end LinkDomain

end ProxyFilter
