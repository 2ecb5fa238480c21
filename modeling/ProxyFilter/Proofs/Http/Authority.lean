import ProxyFilter.Http.Authority
import ProxyFilter.Proofs.Http.Host
import ProxyFilter.Proofs.Text.Split

/-!
# Cuts of hosts and ports

Nothing is lost where a host is cut from a port (`Authority.splitHostPort_eq`), and the text of a
host with a port after it is cut between the two (`Authority.splitHostPort_append`). Of any other
text, `Authority.HostOf` says what its host is, and the cut gives that
(`Authority.splitHostPort_fst_eq_iff`).
-/

namespace ProxyFilter.Authority

/-- A host and a port are cut at a colon or behind brackets, and nothing is lost. -/
theorem splitHostPort_eq {authority host port : String}
    (h : splitHostPort authority = (host, port)) :
    authority.toList = host.toList ++ port.toList ∧
      (port.toList = [] ∨ (∃ digits, port.toList = ':' :: digits) ∨
        host.toList.head? = some '[') := by
  simp only [splitHostPort] at h
  split at h
  · next hbracket =>
    split at h
    · next inside port' hcut =>
      cases h
      obtain ⟨-, hcut⟩ := Text.splitOnce?_eq_some.1 hcut
      have heq : authority.toList = (inside ++ "]").toList ++ port.toList := by simpa using hcut
      have hhead : (inside ++ "]").toList.head? = some '[' := by
        rw [heq, List.head?_append] at hbracket
        simpa using hbracket
      exact ⟨heq, .inr (.inr hhead)⟩
    · cases h
      exact ⟨by simp, .inl rfl⟩
  · split at h
    · next host' port' hcut =>
      obtain ⟨-, hcut⟩ := Text.splitLast?_eq_some.1 hcut
      split at h
      · cases h
        exact ⟨by simpa using hcut, .inr (.inl ⟨port'.toList, by simp⟩)⟩
      · cases h
        exact ⟨by simp, .inl rfl⟩
    · cases h
      exact ⟨by simp, .inl rfl⟩

/-- The text of a host is cut from the port that follows it. -/
theorem splitHostPort_append {host port : List Char} (hhost : Host.IsHostText host)
    (hport : port = [] ∨ ∃ digits, port = ':' :: digits ∧ ∀ d ∈ digits, d.isDigit = true) :
    splitHostPort (String.ofList (host ++ port)) = (String.ofList host, String.ofList port) := by
  cases hhost with
  | plain hne hall =>
    have hbracket : ¬ (host ++ port).head? = some '[' := by
      obtain ⟨c, more, rfl⟩ := List.exists_cons_of_ne_nil hne
      rintro hhead
      obtain rfl : c = '[' := by simpa using hhead
      exact absurd (hall _ List.mem_cons_self) (by decide)
    have hcolon : ':' ∉ host := fun hmem => absurd (hall _ hmem) (by decide)
    rw [splitHostPort, String.toList_ofList, if_neg hbracket]
    rcases hport with rfl | ⟨digits, rfl, hdigits⟩
    · have hnone : Text.splitLast? ':' (String.ofList (host ++ [])) = none :=
        Text.splitLast?_eq_none.2 (by simpa using hcolon)
      rw [hnone, List.append_nil]
    · have hdigit : ':' ∉ digits := fun hmem => absurd (hdigits _ hmem) (by decide)
      have hcut : Text.splitLast? ':' (String.ofList (host ++ ':' :: digits)) =
          some (String.ofList host, String.ofList digits) :=
        Text.splitLast?_eq_some.2 ⟨by simpa using hdigit, by simp⟩
      have hall : (String.ofList digits).toList.all Char.isDigit = true := by simpa using hdigits
      have hport : String.ofList (':' :: digits) = ":" ++ String.ofList digits :=
        String.toList_inj.1 (by simp)
      simp only [hcut, hall, if_true, hport]
  | @bracketed inside hall =>
    have hclose : ']' ∉ '[' :: inside := by
      rw [List.mem_cons, not_or]
      exact ⟨by decide, fun hmem => absurd (hall _ hmem) (by decide)⟩
    have hcut : Text.splitOnce? ']' (String.ofList ('[' :: (inside ++ [']']) ++ port)) =
        some (String.ofList ('[' :: inside), String.ofList port) :=
      Text.splitOnce?_eq_some.2 ⟨by simpa using hclose, by simp⟩
    simp only [splitHostPort, hcut, String.toList_ofList]
    simp [String.ofList_append, String.append_assoc]

/-! ## The host of an authority -/

/-- The host that stands before the port of an authority, if it has one. -/
inductive HostOf (authority : String) : String → Prop
  /-- An address in brackets ends with them, whatever follows. -/
  | bracketed {inside after : String} (heq : authority = "[" ++ inside ++ "]" ++ after)
    (hinside : ']' ∉ inside.toList) : HostOf authority ("[" ++ inside ++ "]")
  /-- Brackets that are not closed have no port after them. -/
  | unclosed (hopen : authority.toList.head? = some '[') (hclose : ']' ∉ authority.toList) :
    HostOf authority authority
  /-- A port is a colon and digits, or a colon alone. -/
  | beforePort {host digits : String} (hopen : authority.toList.head? ≠ some '[')
    (heq : authority = host ++ ":" ++ digits) (hdigits : ∀ d ∈ digits.toList, d.isDigit = true) :
    HostOf authority host
  /-- What ends in no port is a host. -/
  | portless (hopen : authority.toList.head? ≠ some '[')
    (hother : ∀ host digits, authority = host ++ ":" ++ digits →
      ∃ d ∈ digits.toList, d.isDigit = false) : HostOf authority authority

variable {authority host : String}

/-- A last colon before digits alone is a cut before a port. -/
theorem splitLast?_of_digits {digits : String} (heq : authority = host ++ ":" ++ digits)
    (hdigits : ∀ d ∈ digits.toList, d.isDigit = true) :
    Text.splitLast? ':' authority = some (host, digits) :=
  Text.splitLast?_eq_some.2
    ⟨fun hmem => absurd (hdigits _ hmem) (by decide), by simp [heq]⟩

/-- **A host is cut from the port after it.** -/
theorem HostOf.splitHostPort (h : HostOf authority host) :
    (splitHostPort authority).1 = host := by
  cases h with
  | @bracketed inside after heq hinside =>
    have hcut : Text.splitOnce? ']' authority = some ("[" ++ inside, after) :=
      Text.splitOnce?_eq_some.2 ⟨by simpa using hinside, by simp [heq]⟩
    rw [Authority.splitHostPort, if_pos (by simp [heq]), hcut]
  | unclosed hopen hclose =>
    rw [Authority.splitHostPort, if_pos hopen, Text.splitOnce?_eq_none.2 hclose]
  | @beforePort _ digits hopen heq hdigits =>
    have hall : digits.toList.all Char.isDigit = true := by simpa using hdigits
    rw [Authority.splitHostPort, if_neg hopen, splitLast?_of_digits heq hdigits]
    simp only [hall, if_true]
  | portless hopen hother =>
    rw [Authority.splitHostPort, if_neg hopen]
    split
    · next host port hcut =>
      obtain ⟨-, heq⟩ := Text.splitLast?_eq_some.1 hcut
      obtain ⟨d, hd, hnot⟩ := hother host port (by rw [← String.toList_inj]; simp [heq])
      have hall : ¬ port.toList.all Char.isDigit = true := fun hall => by
        rw [List.all_eq_true.1 hall d hd] at hnot
        cases hnot
      rw [if_neg hall]
    · rfl

/-- Every authority has a host. -/
theorem exists_hostOf (authority : String) : ∃ host, HostOf authority host := by
  by_cases hopen : authority.toList.head? = some '['
  · cases hcut : Text.splitOnce? ']' authority with
    | none => exact ⟨_, .unclosed hopen (Text.splitOnce?_eq_none.1 hcut)⟩
    | some parts =>
      obtain ⟨before, after⟩ := parts
      obtain ⟨hbefore, heq⟩ := Text.splitOnce?_eq_some.1 hcut
      obtain ⟨inside, hinside⟩ : ∃ inside, before.toList = '[' :: inside := by
        cases hlist : before.toList with
        | nil => simp [heq, hlist] at hopen
        | cons c inside =>
          obtain rfl : c = '[' := by simpa [heq, hlist] using hopen
          exact ⟨inside, rfl⟩
      have hparts : authority = "[" ++ String.ofList inside ++ "]" ++ after := by
        rw [← String.toList_inj]
        simp [heq, hinside]
      have hfirst : ']' ∉ (String.ofList inside).toList := by
        rw [hinside] at hbefore
        simpa using fun hmem => hbefore (List.mem_cons_of_mem _ hmem)
      exact ⟨_, .bracketed hparts hfirst⟩
  · by_cases hport : ∃ host digits, authority = host ++ ":" ++ digits ∧
        ∀ d ∈ digits.toList, d.isDigit = true
    · obtain ⟨host, digits, heq, hdigits⟩ := hport
      exact ⟨host, .beforePort hopen heq hdigits⟩
    · refine ⟨authority, .portless hopen fun host digits heq => ?_⟩
      by_contra hall
      exact hport ⟨host, digits, heq, by simpa using hall⟩

/-- The cut gives the host of an authority. -/
theorem splitHostPort_fst_eq_iff : (splitHostPort authority).1 = host ↔ HostOf authority host := by
  refine ⟨fun h => ?_, HostOf.splitHostPort⟩
  obtain ⟨host', hhost⟩ := exists_hostOf authority
  rwa [← h, hhost.splitHostPort]

end ProxyFilter.Authority
