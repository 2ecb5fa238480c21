import ProxyFilter.Config.DomainMap
import ProxyFilter.Proofs.Failure
import ProxyFilter.Proofs.Text.Ascii

/-!
# Maps of domains that were read

A map that was read from a text has each source once, and in lower case
(`DomainMap.isCanonical_of_parse`). So a host has one target at most, and it is found in whatever
letter case the host is written (`DomainMap.targetOf?_eq_some_iff`).
-/

namespace ProxyFilter.DomainMap

variable {m m' : DomainMap} {host source target line : String} {number : Nat}

/-- Each source of the map stands there once, in lower case. -/
structure IsCanonical (m : DomainMap) : Prop where
  nodup : (m.entries.map Prod.fst).Nodup
  lower : ∀ entry ∈ m.entries, Ascii.lower entry.1 = entry.1

/-- The host is a source of the map, letter case ignored, and this is its target. -/
def Sends (m : DomainMap) (host target : String) : Prop :=
  ∃ source, (source, target) ∈ m.entries ∧ Ascii.sameName host source = true

/-! ## Reading -/

/-- The map without entries is canonical. -/
theorem isCanonical_empty : empty.IsCanonical := ⟨List.nodup_nil, by simp [empty]⟩

/-- A line is skipped, or it has a source that is new to the map and its target. -/
theorem addLine_eq_ok (h : m.addLine number line = .ok m') : m' = m ∨ ∃ source target,
    m.get? (Ascii.lower source) = none ∧
      m' = ⟨m.entries ++ [(Ascii.lower source, Ascii.lower target)]⟩ := by
  simp only [addLine] at h
  split at h
  · cases h
    exact .inl rfl
  · split at h
    · next source target _ =>
      split at h
      · cases h
      · next hnew =>
        cases h
        exact .inr ⟨source, target, by simpa using hnew, rfl⟩
    · cases h

/-- What a map has a target for is one of its sources. -/
theorem mem_of_get? (h : m.get? source = some target) : (source, target) ∈ m.entries := by
  obtain ⟨before, after, hentries, -⟩ := List.lookup_eq_some_iff.1 h
  rw [hentries]
  exact List.mem_append_right _ List.mem_cons_self

/-- What a map has no target for is none of its sources. -/
theorem not_mem_of_get?_eq_none (h : m.get? source = none) : source ∉ m.entries.map Prod.fst := by
  intro hmem
  obtain ⟨entry, hentry, rfl⟩ := List.mem_map.1 hmem
  have hother := List.lookup_eq_none_iff.1 h entry hentry
  simp at hother

/-- A line more leaves a map canonical. -/
theorem IsCanonical.addLine (hm : m.IsCanonical) (h : m.addLine number line = .ok m') :
    m'.IsCanonical := by
  obtain rfl | ⟨source, target, hnew, rfl⟩ := addLine_eq_ok h
  · exact hm
  · refine ⟨?_, fun entry hentry => ?_⟩
    · rw [List.map_append, List.map_singleton, List.nodup_append]
      refine ⟨hm.nodup, by simp, fun old hold new hnew' => ?_⟩
      obtain rfl := List.mem_singleton.1 hnew'
      rintro rfl
      exact not_mem_of_get?_eq_none hnew hold
    · rcases List.mem_append.1 hentry with hentry | hentry
      · exact hm.lower entry hentry
      · obtain rfl := List.mem_singleton.1 hentry
        exact Ascii.lower_lower source

/-- More lines leave a map canonical. -/
theorem IsCanonical.addLines {lines : List String} (hm : m.IsCanonical)
    (h : m.addLines number lines = .ok m') : m'.IsCanonical := by
  induction lines generalizing m number with
  | nil =>
    cases h
    exact hm
  | cons line lines ih =>
    obtain ⟨next, hline, hrest⟩ := Except.bind_eq_ok h
    exact ih (hm.addLine hline) hrest

/-- **A map that was read is canonical.** -/
theorem isCanonical_of_parse {blob : String} (h : parse blob = .ok m) : m.IsCanonical :=
  isCanonical_empty.addLines h

/-! ## Targets -/

/-- **A host has a target just where it is a source of the map, and only that of this source.** -/
theorem IsCanonical.targetOf?_eq_some_iff (hm : m.IsCanonical) :
    m.targetOf? host = some target ↔ m.Sends host target := by
  constructor
  · intro h
    exact ⟨Ascii.lower host, mem_of_get? h, by simp [Ascii.sameName]⟩
  · rintro ⟨source, hentry, hsame⟩
    obtain ⟨before, after, hentries⟩ := List.append_of_mem hentry
    have hlower : Ascii.lower source = source := hm.lower (source, target) hentry
    have hsource : Ascii.lower host = source := (beq_iff_eq.1 hsame).trans hlower
    rw [targetOf?, get?, List.lookup_eq_some_iff, hsource]
    refine ⟨before, after, hentries, fun entry hbefore => ?_⟩
    have hdistinct := hm.nodup
    rw [hentries, List.map_append, List.map_cons, List.nodup_append] at hdistinct
    have hne := hdistinct.2.2 entry.1 (List.mem_map_of_mem hbefore) source List.mem_cons_self
    simpa using Ne.symm hne

end ProxyFilter.DomainMap
