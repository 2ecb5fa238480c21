import ProxyFilter.Http.Host
import ProxyFilter.Proofs.Http.Address
import ProxyFilter.Proofs.Http.DomainName
import ProxyFilter.Proofs.Text.LetterCase
import ProxyFilter.Text.Blank

/-!
# Texts of hosts

A host is read in either letter case (`Host.parse?_map_toLower`). A text that has no blank, no
control and none of the marks that addresses are cut at, or has colons too and stands in brackets,
is an `IsHostText`. Not each of them is read as a host, but each host is written as one
(`Host.isHostText_text`).
-/

namespace ProxyFilter.Host

variable {cs inside : List Char} {host : Host} {c : Char}

/-! ## Reading -/

/-- An opening bracket has no letter case. -/
theorem toLower_eq_open (c : Char) : c.toLower = '[' ↔ c = '[' :=
  Ascii.toLower_eq_mark (by decide) c

/-- A closing bracket has no letter case. -/
theorem toLower_eq_close (c : Char) : c.toLower = ']' ↔ c = ']' :=
  Ascii.toLower_eq_mark (by decide) c

/-- The host that a domain in ASCII stands for. -/
def ofDomain? (domain : List Char) : Option Host :=
  if domain.isEmpty then none
  else if endsInNumber domain then (v4? domain).map .v4
  else some (.domain (String.ofList domain))

/-- The host that the octets of a name stand for. -/
def ofOctets? (octets : Bytes) : Option Host :=
  (Utf8.decode? octets).bind fun name => (DomainName.toAscii? name.toList).bind ofDomain?

/-- A text without a bracket in front is decoded and brought to ASCII. -/
theorem parse?_of_head?_ne (h : cs.head? ≠ some '[') : parse? cs =
    ofOctets? (Percent.decodeBytes (Utf8.encode (String.ofList cs))) := by
  rw [parse?]
  · refine Option.bind_congr fun name _ => Option.bind_congr fun domain _ => ?_
    simp only [ofDomain?]
    split <;> rfl
  · rintro rest rfl
    exact h rfl

/-- Octets stand for a host in either letter case. -/
theorem ofOctets?_map_lower (octets : Bytes) :
    ofOctets? (octets.map Byte.lower) = ofOctets? octets := by
  have hname (name : String) : DomainName.toAscii? (Ascii.lower name).toList =
      DomainName.toAscii? name.toList := by
    rw [Ascii.toList_lower, DomainName.toAscii?_map_toLower]
  rw [ofOctets?, ofOctets?, Utf8.decode?_map_lower, Option.bind_map]
  simp only [Function.comp_def, hname]

/-- **A host is read in either letter case.** -/
theorem parse?_map_toLower (cs : List Char) : parse? (cs.map Char.toLower) = parse? cs := by
  by_cases hhead : cs.head? = some '['
  · obtain ⟨rest, rfl⟩ := List.head?_eq_some_iff.1 hhead
    have hclose : (rest.map Char.toLower).getLast? = some ']' ↔ rest.getLast? = some ']' := by
      rw [List.getLast?_map, Option.map_eq_some_iff]
      simp [toLower_eq_close]
    have hlower : ('[' :: rest).map Char.toLower = '[' :: rest.map Char.toLower := rfl
    rw [hlower, parse?, parse?, ← List.map_dropLast, Address.groups?_map_toLower]
    simp only [hclose]
  · have hlower : (cs.map Char.toLower).head? ≠ some '[' := by
      rw [List.head?_map, ne_eq, Option.map_eq_some_iff]
      rintro ⟨c, hc, hopen⟩
      exact hhead (hc.trans (congrArg some ((toLower_eq_open c).1 hopen)))
    have hencode : Utf8.encode (String.ofList (cs.map Char.toLower)) =
        (Utf8.encode (String.ofList cs)).map Byte.lower := by
      rw [← Utf8.encode_lower, Ascii.lower, String.toList_ofList]
    rw [parse?_of_head?_ne hlower, parse?_of_head?_ne hhead, hencode, ← ofOctets?_map_lower,
      Percent.decodeBytes_map_lower, ofOctets?_map_lower]

/-! ## Writing -/

/-- A character that is no blank, no control and no mark that addresses are cut at. -/
def isHostChar (c : Char) : Bool :=
  ! Text.isBlank c && 32 < c.toNat && ! "/\\?#@:[]".toList.contains c

/-- A text in such characters, or in such characters and colons in brackets. -/
inductive IsHostText : List Char → Prop
  | plain {cs : List Char} : cs ≠ [] → (∀ c ∈ cs, isHostChar c = true) → IsHostText cs
  | bracketed {inside : List Char} : (∀ c ∈ inside, isHostChar c = true ∨ c = ':') →
      IsHostText ('[' :: (inside ++ [']']))

/-- No character of this kind is a mark. -/
theorem ne_of_isHostChar {mark : Char} (hc : isHostChar c = true)
    (hmark : isHostChar mark = false) : c ≠ mark := by
  rintro rfl
  rw [hc] at hmark
  cases hmark

/-- A character is of this kind in either letter case. -/
theorem isHostChar_toLower (c : Char) : isHostChar c.toLower = isHostChar c :=
  Ascii.toLower_invariant isHostChar (by decide +kernel) c

/-- The characters of a domain in ASCII are of this kind. -/
theorem isHostChar_of_isAllowed (hc : DomainName.IsAllowed c) : isHostChar c = true :=
  Ascii.of_forall_lt (P := fun c => DomainName.isForbidden c = false → isHostChar c = true)
    (by decide +kernel) hc.1 hc.2

/-- Hexadecimal digits are of this kind. -/
theorem isHostChar_of_isHexDigit (hc : Ascii.isHexDigit c = true) : isHostChar c = true :=
  isHostChar_of_isAllowed (DomainName.isAllowed_of_isHexDigit hc)

/-- A text is that of a host in either letter case. -/
theorem IsHostText.of_map_toLower (h : IsHostText (cs.map Char.toLower)) : IsHostText cs := by
  generalize hlower : cs.map Char.toLower = lower at h
  cases h with
  | plain hne hall =>
    subst hlower
    refine .plain (by simpa using hne) fun c hc => ?_
    rw [← isHostChar_toLower]
    exact hall _ (List.mem_map_of_mem hc)
  | @bracketed inside hall =>
    obtain ⟨first, rest, rfl, hfirst, hrest⟩ := List.map_eq_cons_iff.1 hlower
    obtain ⟨inside', last, rfl, rfl, hlast⟩ := List.map_eq_append_iff.1 hrest
    obtain ⟨last, rfl, hlast'⟩ := List.map_eq_singleton_iff.1 hlast
    obtain rfl : first = '[' := (toLower_eq_open first).1 hfirst
    obtain rfl : last = ']' := (toLower_eq_close last).1 hlast'
    refine .bracketed fun c hc => ?_
    have := hall _ (List.mem_map_of_mem hc)
    rwa [isHostChar_toLower, Address.toLower_eq_colon] at this

/-- Four octets are written as the text of a host. -/
theorem isHostText_octetsText (octets : List Nat) (hne : octets ≠ []) :
    IsHostText (Address.octetsText octets).toList := by
  refine .plain ?_ fun c hc => ?_
  · obtain ⟨n, octets, rfl⟩ := List.exists_cons_of_ne_nil hne
    rw [Address.octetsText, String.toList_intercalate, List.map_cons, List.map_cons,
      String.toList_ofList]
    have hdigits : Nat.toDigits 10 n ≠ [] := Nat.toDigits_ne_nil
    cases octets <;> simp [List.intercalate_cons_cons, hdigits]
  · rcases Address.mem_octetsText hc with hdigit | rfl
    · exact isHostChar_of_isHexDigit (Ascii.isHexDigit_of_isDigit hdigit)
    · decide

/-- **A host is written as the text of a host.** -/
theorem isHostText_text (h : parse? cs = some host) : IsHostText host.text.toList := by
  by_cases hhead : cs.head? = some '['
  · obtain ⟨rest, rfl⟩ := List.head?_eq_some_iff.1 hhead
    simp only [parse?, Option.ite_none_right_eq_some] at h
    obtain ⟨groups, -, rfl⟩ := Option.map_eq_some_iff.1 h.2
    have htext : (text (.v6 groups)).toList =
        '[' :: ((Address.shortText groups).toList ++ [']']) := by
      simp [text]
    rw [htext]
    exact .bracketed fun c hc => (Address.mem_shortText hc).imp_left isHostChar_of_isHexDigit
  · rw [parse?_of_head?_ne hhead] at h
    obtain ⟨name, -, h⟩ := Option.bind_eq_some_iff.1 h
    obtain ⟨domain, hdomain, h⟩ := Option.bind_eq_some_iff.1 h
    simp only [ofDomain?] at h
    split at h
    · cases h
    · next hempty =>
      split at h
      · obtain ⟨n, -, rfl⟩ := Option.map_eq_some_iff.1 h
        exact isHostText_octetsText _ (by simp)
      · cases h
        rw [text, String.toList_ofList]
        exact .plain (by simpa using hempty) fun c hc =>
          isHostChar_of_isAllowed (DomainName.isAllowed_of_toAscii? hdomain c hc)

end ProxyFilter.Host
