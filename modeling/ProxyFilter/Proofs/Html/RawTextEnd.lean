import Mathlib.Order.Bounds.Basic
import Mathlib.Order.Nat
import ProxyFilter.Proofs.Html.Retained

/-!
# The end of raw text

`RawText.findEnd` looks for the end tag of a script or style octet by octet, and stops early where
all that is left may still become one. Here its answer is told by places among the octets, without a
word on how it looks: `RawText.FirstEnd` is the least place at which an end tag begins, and
`RawText.IsEnough` says how many octets have to be kept so that the first end tag begins among them
or after them, whatever octets may come.

An end is found just where the first end tag begins (`RawText.findEnd_eq_found_iff`). If there is
none, what is kept is enough (`RawText.isEnough_of_findEnd`), since the octets before it are
settled. It is also no more than has to be kept (`RawText.length_le_of_isEnough`), since some octets
complete it to an end tag, which is then the first one. `RawText.findEnd_exact` puts these together.
-/

namespace ProxyFilter.Html.RawText

variable {kind : RawText} {b before rest : Bytes} {place kept : Nat}

/-! ## Places -/

/-- An end tag begins at a place. -/
def EndsAt (kind : RawText) (b : Bytes) (place : Nat) : Prop := kind.EndsBefore (b.drop place)

/-- The first end tag begins at a place. -/
def FirstEnd (kind : RawText) (b : Bytes) (place : Nat) : Prop :=
  IsLeast {place | kind.EndsAt b place} place

/-- It is enough to keep so many octets, the last ones: whatever octets come after them, the first
end tag does not begin before what is kept. -/
def IsEnough (kind : RawText) (b : Bytes) (kept : Nat) : Prop :=
  ∀ more place, kind.FirstEnd (b ++ more) place → b.length ≤ place + kept

/-- No end tag begins where there are no octets. -/
theorem EndsBefore.ne_nil (h : kind.EndsBefore rest) : rest ≠ [] := by
  rintro rfl
  obtain ⟨name, x, more, hnil, -⟩ := h
  exact absurd hnil (by simp)

/-- A place at which an end tag begins is among the octets. -/
theorem EndsAt.lt_length (h : kind.EndsAt b place) : place < b.length := by
  have hne : b.drop place ≠ [] := h.ne_nil
  rwa [ne_eq, List.drop_eq_nil_iff, Nat.not_le] at hne

/-- Where an end tag begins, there is a first one. -/
theorem exists_firstEnd (h : kind.EndsAt b place) : ∃ first, kind.FirstEnd b first := by
  classical
  have hsome : ∃ place, kind.EndsAt b place := ⟨place, h⟩
  exact ⟨Nat.find hsome, Nat.isLeast_find hsome⟩

/-- The first end tag begins where the contents before it end. -/
theorem firstEnd_iff : kind.FirstEnd (before ++ rest) before.length ↔
    kind.EndsBefore rest ∧ kind.IsContents before rest := by
  have hplace : kind.EndsAt (before ++ rest) before.length ↔ kind.EndsBefore rest := by
    rw [EndsAt, List.drop_left]
  constructor
  · rintro ⟨hends, hleast⟩
    have hends := hplace.1 hends
    refine ⟨hends, .inr hends, fun outer inner hparts hinner hearly => hinner ?_⟩
    subst hparts
    have hinside : kind.EndsAt (outer ++ inner ++ rest) outer.length := by
      rwa [EndsAt, List.append_assoc, List.drop_left]
    have hle := hleast hinside
    rw [List.length_append] at hle
    exact List.eq_nil_of_length_eq_zero (by omega)
  · rintro ⟨hends, hcontents⟩
    refine ⟨hplace.2 hends, fun place hearly => Nat.le_of_not_lt fun hlt => ?_⟩
    have hinner : before.drop place ≠ [] := by
      rwa [ne_eq, List.drop_eq_nil_iff, Nat.not_le]
    have hends : kind.EndsBefore (before.drop place ++ rest) := by
      rw [← List.drop_append_of_le_length (Nat.le_of_lt hlt)]
      exact hearly
    exact hcontents.first _ _ (List.take_append_drop place before).symm hinner hends

/-! ## What is found -/

/-- An end that is found is an end tag. By induction on the raw text. -/
theorem endsBefore_of_findEnd (h : findEnd kind.closing b = .found before rest) :
    kind.EndsBefore rest := by
  induction b generalizing before with
  | nil => cases h
  | cons x b ih =>
    rw [findEnd] at h
    split at h
    · cases h
    · split at h
      · next hbegins =>
        cases h
        exact endsBefore_iff.2 hbegins
      · cases hend : findEnd kind.closing b with
        | found before' rest' =>
          rw [hend] at h
          cases h
          exact ih hend
        | pending => rw [hend] at h; cases h

/-- An end is found just where the first end tag begins. -/
theorem findEnd_eq_found_iff : findEnd kind.closing b = .found before rest ↔
    before ++ rest = b ∧ kind.FirstEnd b before.length := by
  constructor
  · intro h
    obtain ⟨octets, tail, rfl, hcontents⟩ := exists_contents kind b
    rcases findEnd_of_contents hcontents with hfound | ⟨rfl, kept, last, -, hpending⟩
    · cases hfound.symm.trans h
      exact ⟨rfl, firstEnd_iff.2 ⟨endsBefore_of_findEnd h, hcontents⟩⟩
    · rw [List.append_nil] at h
      cases hpending.symm.trans h
  · rintro ⟨rfl, hfirst⟩
    obtain ⟨hends, hcontents⟩ := firstEnd_iff.1 hfirst
    rcases findEnd_of_contents hcontents with hfound | ⟨hnil, -⟩
    · exact hfound
    · exact absurd hnil hends.ne_nil

/-- The first end tag is found. -/
theorem FirstEnd.findEnd (h : kind.FirstEnd b place) :
    RawText.findEnd kind.closing b = .found (b.take place) (b.drop place) := by
  have hlen : (b.take place).length = place :=
    List.length_take_of_le (Nat.le_of_lt (EndsAt.lt_length h.1))
  refine findEnd_eq_found_iff.2 ⟨List.take_append_drop place b, ?_⟩
  rwa [hlen]

/-! ## What is kept -/

/-- What is kept, behind what is not, makes up all octets. -/
theorem append_of_findEnd {closing : Bytes} (h : findEnd closing b = .pending before rest) :
    before ++ rest = b := by
  have hparts := findEnd_octets closing b
  rwa [h] at hparts

/-- With more octets, the end is looked for in what was kept. -/
theorem findEnd_append_of_pending {closing more : Bytes}
    (h : findEnd closing b = .pending before rest) :
    findEnd closing (b ++ more) = (findEnd closing (rest ++ more)).after before := by
  rw [findEnd_append, h]

/-- An end that is found behind octets is found with these in front. -/
theorem End.exists_of_after_eq_found {e : End} {octets tail : Bytes}
    (h : e.after before = .found octets tail) : ∃ inner, octets = before ++ inner := by
  cases e with
  | found inner rest =>
    rw [End.after_found] at h
    cases h
    exact ⟨inner, rfl⟩
  | pending inner rest =>
    rw [End.after_pending] at h
    cases h

/-- If no end is found, no end tag begins anywhere. -/
theorem not_endsAt_of_findEnd (h : findEnd kind.closing b = .pending before rest) (place : Nat) :
    ¬ kind.EndsAt b place := by
  intro hends
  obtain ⟨first, hfirst⟩ := exists_firstEnd hends
  cases hfirst.findEnd.symm.trans h

/-- What is kept is enough: the octets before it are settled, so that with more of them the end is
looked for behind them. -/
theorem isEnough_of_findEnd (h : findEnd kind.closing b = .pending before rest) :
    kind.IsEnough b rest.length := by
  intro more place hfirst
  have hfound := hfirst.findEnd
  rw [findEnd_append_of_pending h] at hfound
  obtain ⟨inner, hinner⟩ := End.exists_of_after_eq_found hfound
  have hle : before.length ≤ place := by
    have hlen := congrArg List.length hinner
    simp only [List.length_take, List.length_append] at hlen
    omega
  rw [← append_of_findEnd h, List.length_append]
  omega

/-- A beginning of the end tag is completed to one by some octets. -/
theorem IsBeginning.exists_endsBefore (h : kind.IsBeginning b) :
    ∃ more, kind.EndsBefore (b ++ more) := by
  obtain ⟨more, hname⟩ := h
  refine ⟨more ++ [62], b ++ more, 62, [], ?_, hname, by decide⟩
  rw [List.append_assoc]

/-- Octets that are kept are completed to an end tag by some octets, and with these it is the
first one. -/
theorem exists_firstEnd_of_findEnd (h : findEnd kind.closing b = .pending before rest)
    (hrest : rest ≠ []) : ∃ more, kind.FirstEnd (b ++ more) before.length := by
  have hbegins := isBeginning_of_mayBecome (mayBecome_of_findEnd h hrest)
  obtain ⟨more, hends⟩ := hbegins.exists_endsBefore
  have hfirst : kind.FirstEnd (rest ++ more) 0 := ⟨hends, fun place _ => Nat.zero_le place⟩
  have hlonger : findEnd kind.closing (b ++ more) = .found (before ++ []) (rest ++ more) := by
    rw [findEnd_append_of_pending h, hfirst.findEnd]
    exact End.after_found before [] (rest ++ more)
  rw [List.append_nil] at hlonger
  exact ⟨more, (findEnd_eq_found_iff.1 hlonger).2⟩

/-- Nothing less than what is kept is enough. -/
theorem length_le_of_isEnough (h : findEnd kind.closing b = .pending before rest)
    (henough : kind.IsEnough b kept) : rest.length ≤ kept := by
  by_cases hrest : rest = []
  · subst hrest
    exact Nat.zero_le kept
  · obtain ⟨more, hfirst⟩ := exists_firstEnd_of_findEnd h hrest
    have hle := henough more _ hfirst
    rw [← append_of_findEnd h, List.length_append] at hle
    omega

/-- **The end of raw text is never missed, and no octet is kept in vain.** An end is found just
where the first end tag begins, letter case ignored. Octets are kept just if there is no end tag,
and they are the fewest of the last ones so that, whatever octets may come, the first end tag does
not begin before them. -/
theorem findEnd_exact (kind : RawText) (b : Bytes) :
    (∀ before rest, findEnd kind.closing b = .found before rest ↔
      before ++ rest = b ∧ kind.FirstEnd b before.length) ∧
    ∀ before rest, findEnd kind.closing b = .pending before rest ↔
      before ++ rest = b ∧ (∀ place, ¬ kind.EndsAt b place) ∧
        IsLeast {kept | kind.IsEnough b kept} rest.length := by
  have hkept : ∀ {before rest}, findEnd kind.closing b = .pending before rest →
      IsLeast {kept | kind.IsEnough b kept} rest.length := fun h =>
    ⟨isEnough_of_findEnd h, fun _ henough => length_le_of_isEnough h henough⟩
  refine ⟨fun before rest => findEnd_eq_found_iff, fun before rest => ⟨fun h => ?_, ?_⟩⟩
  · exact ⟨append_of_findEnd h, not_endsAt_of_findEnd h, hkept h⟩
  · rintro ⟨rfl, hnone, hleast⟩
    cases hend : findEnd kind.closing (before ++ rest) with
    | found octets tail =>
      obtain ⟨-, hfirst⟩ := findEnd_eq_found_iff.1 hend
      exact absurd hfirst.1 (hnone _)
    | pending octets tail =>
      have hlen : tail.length = rest.length := (hkept hend).unique hleast
      obtain ⟨rfl, rfl⟩ := List.append_inj' (append_of_findEnd hend) hlen
      rfl

/-- After a `<` that begins nothing, the beginning of an end tag is kept. -/
example : findEnd script.closing (Utf8.encode "</scripts><</SCR") =
    .pending (Utf8.encode "</scripts><") (Utf8.encode "</SCR") := by
  decide +kernel

end ProxyFilter.Html.RawText
