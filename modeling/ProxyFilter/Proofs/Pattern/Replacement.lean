import ProxyFilter.Pattern.Replacement

/-!
# Where the octets of a replaced text come from

A rule that replaces a match makes no octets: those it writes stand in the text it is applied to, or
in its template (`ReplaceFirst.mem_applyOctets`), and those of a template stand in the text that it
was read from (`Template.mem_of_octet_mem_parse`).
-/

namespace ProxyFilter.Pattern

/-! ## Templates -/

/-- A reference is to a group, and what follows it is the end of what it was read from. -/
theorem reference?_eq_some {b rest : Bytes} {piece : TemplatePiece}
    (h : reference? b = some (piece, rest)) : (∃ name, piece = groupRef name) ∧ rest <:+ b := by
  unfold reference? at h
  split at h
  · next inside =>
    split at h
    · cases h
    · next d after hafter =>
      obtain ⟨name, -, h⟩ := Option.map_eq_some_iff.1 h
      cases h
      have hinside : d :: rest <:+ inside := hafter ▸ List.dropWhile_suffix _
      exact ⟨⟨name, rfl⟩, ((List.suffix_cons d rest).trans hinside).trans (List.suffix_cons _ _)⟩
  · dsimp only at h
    split at h
    · cases h
    · obtain ⟨name, -, h⟩ := Option.map_eq_some_iff.1 h
      cases h
      exact ⟨⟨name, rfl⟩, List.drop_suffix _ _⟩

/-- A group is no octet. -/
theorem groupRef_ne_octet (name : String) (x : UInt8) : groupRef name ≠ .octet x := by
  unfold groupRef
  split <;> exact nofun

/-- An octet of a template is one of those it was read from. -/
theorem Template.mem_of_octet_mem_read {x : UInt8} {fuel : Nat} {b : Bytes}
    (h : .octet x ∈ Template.read fuel b) : x ∈ b := by
  fun_induction Template.read fuel b
  case case3 | case5 | case6 => grind
  case case4 href ih =>
    obtain ⟨⟨name, rfl⟩, hsuffix⟩ := reference?_eq_some href
    rcases List.mem_cons.1 h with h | h
    · exact absurd h.symm (groupRef_ne_octet name x)
    · exact List.mem_cons_of_mem _ (hsuffix.mem (ih h))
  all_goals cases h

/-- An octet of a template stands in its text. -/
theorem Template.mem_of_octet_mem_parse {x : UInt8} {text : String}
    (h : .octet x ∈ Template.parse text) : x ∈ Utf8.encode text :=
  mem_of_octet_mem_read h

/-! ## Matches -/

/-- The octets between two places are some of the text. -/
theorem Haystack.mem_slice {h : Haystack} {first last : Nat} {x : UInt8}
    (hx : x ∈ h.slice first last) : x ∈ h.toList := by
  rw [slice, Array.toList_extract] at hx
  exact List.mem_of_mem_drop (List.mem_of_mem_take hx)

/-- The octets of a group are some of the text. -/
theorem Match.mem_group? {m : Match} {h : Haystack} {index : Nat} {octets : Bytes} {x : UInt8}
    (hgroup : m.group? h index = some octets) (hx : x ∈ octets) : x ∈ h.toList := by
  obtain ⟨first, -, hgroup⟩ := Option.bind_eq_some_iff.1 hgroup
  obtain ⟨last, -, hgroup⟩ := Option.bind_eq_some_iff.1 hgroup
  cases hgroup
  exact Haystack.mem_slice hx

/-- What a template stands for has octets of the template and of the text. -/
theorem Regex.mem_expand {r : Regex} {t : Template} {h : Haystack} {m : Match} {x : UInt8}
    (hx : x ∈ r.expand t h m) : x ∈ h.toList ∨ .octet x ∈ t := by
  obtain ⟨piece, hpiece, hx⟩ := List.mem_flatMap.1 hx
  have hgroup {octets : Option Bytes} (hoctets : ∀ b, octets = some b → ∀ y ∈ b, y ∈ h.toList)
      (hx : x ∈ octets.getD []) : x ∈ h.toList := by
    cases octets with
    | none => cases hx
    | some b => exact hoctets b rfl x hx
  cases piece with
  | octet b =>
    rw [List.mem_singleton.1 hx]
    exact .inr hpiece
  | number n => exact .inl (hgroup (fun b hb y hy => Match.mem_group? hb hy) hx)
  | named name =>
    refine .inl (hgroup (fun b hb y hy => ?_) hx)
    obtain ⟨n, -, hb⟩ := Option.bind_eq_some_iff.1 hb
    exact Match.mem_group? hb hy

/-- **A text after a rule has octets of the text before and of the template.** -/
theorem ReplaceFirst.mem_applyOctets {r : ReplaceFirst} {input : Bytes} {x : UInt8}
    (hx : x ∈ r.applyOctets input) : x ∈ input ∨ .octet x ∈ r.template := by
  simp only [applyOctets] at hx
  split at hx
  · exact .inl hx
  · simp only [List.mem_append] at hx
    rcases hx with (hx | hx) | hx
    · exact .inl (Haystack.mem_slice hx)
    · exact Regex.mem_expand hx
    · exact .inl (Haystack.mem_slice hx)

end ProxyFilter.Pattern
