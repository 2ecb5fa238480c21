import ProxyFilter.Http.Address
import ProxyFilter.Proofs.Failure
import ProxyFilter.Proofs.Text.Ascii
import ProxyFilter.Proofs.Text.Split

/-!
# Texts of network addresses

The texts that are read as eight groups have no characters but hexadecimal digits, colons and dots
(`Address.isGroupChar_of_groups?`), and letter case does not matter in them
(`Address.groups?_map_toLower`). The text that groups are written as has hexadecimal digits and
colons only (`Address.mem_shortText`), and that of octets digits and dots
(`Address.mem_octetsText`).
-/

namespace ProxyFilter.Address

variable {cs before after : List Char} {c : Char}

/-! ## Characters that are read -/

/-- A character that stands in the text of eight groups. -/
def isGroupChar (c : Char) : Bool := Ascii.isHexDigit c || c == ':' || c == '.'

/-- Hexadecimal digits stand in the text of eight groups. -/
theorem isGroupChar_of_isHexDigit (h : Ascii.isHexDigit c = true) : isGroupChar c = true := by
  simp [isGroupChar, h]

/-- A group has hexadecimal digits only. -/
theorem isHexDigit_of_group? {g : Nat} (h : group? cs = some g) :
    ∀ c ∈ cs, Ascii.isHexDigit c = true := by
  simp only [group?, Option.ite_none_right_eq_some, Bool.and_eq_true, List.all_eq_true] at h
  exact h.1.2

/-- An octet has digits only. -/
theorem isDigit_of_octet? {n : Nat} (h : octet? cs = some n) : ∀ c ∈ cs, c.isDigit = true := by
  simp only [octet?, Option.ite_none_right_eq_some, Option.filter_eq_some_iff] at h
  have hdigits := h.2.1
  simp only [Text.natOfChars?, Option.ite_none_left_eq_some, Bool.or_eq_true, List.any_eq_true,
    not_or, not_exists, not_and, Bool.not_eq_true', Bool.not_eq_false] at hdigits
  exact hdigits.1.2

/-- Four octets have digits and dots only. -/
theorem mem_of_octets? {octets : List Nat} (h : octets? cs = some octets) (hc : c ∈ cs) :
    c.isDigit = true ∨ c = '.' := by
  simp only [octets?, Option.ite_none_right_eq_some] at h
  rcases Text.mem_splitOn_of_mem (c := '.') hc with rfl | ⟨part, hpart, hc⟩
  · exact .inr rfl
  · obtain ⟨n, hn⟩ := Option.exists_of_mem_of_mapM h.2 hpart
    exact .inl (isDigit_of_octet? hn c hc)

/-- Four octets have the characters of groups. -/
theorem isGroupChar_of_octets? {octets : List Nat} (h : octets? cs = some octets) :
    ∀ c ∈ cs, isGroupChar c = true := by
  intro c hc
  rcases mem_of_octets? h hc with hdigit | rfl
  · exact isGroupChar_of_isHexDigit (Ascii.isHexDigit_of_isDigit hdigit)
  · rfl

/-- Fields that are read as groups have hexadecimal digits and dots only. -/
theorem isGroupChar_of_groupsOf? {tail : Bool} {fields : List (List Char)} {groups : List Nat}
    (h : groupsOf? tail fields = some groups) :
    ∀ field ∈ fields, ∀ c ∈ field, isGroupChar c = true := by
  have hgroup {field : List Char} {g : Nat} (h : group? field = some g) :
      ∀ c ∈ field, isGroupChar c = true := fun c hc =>
    isGroupChar_of_isHexDigit (isHexDigit_of_group? h c hc)
  fun_induction groupsOf? tail fields generalizing groups with
  | case1 => simp
  | case2 field g hg => simpa using hgroup hg
  | case3 field hg htail =>
    obtain ⟨octets, hoctets, -⟩ := Option.map_eq_some_iff.1 h
    simpa using isGroupChar_of_octets? hoctets
  | case4 => cases h
  | case5 field rest _ ih =>
    obtain ⟨g, hg, h⟩ := Option.bind_eq_some_iff.1 h
    obtain ⟨more, hmore, -⟩ := Option.bind_eq_some_iff.1 h
    intro field' hfield
    rcases List.mem_cons.1 hfield with rfl | hfield
    · exact hgroup hg
    · exact ih hmore field' hfield

/-- Fields between colons have the characters of groups. -/
theorem isGroupChar_of_groupsOf?_splitOn {tail : Bool} {groups : List Nat}
    (h : groupsOf? tail (cs.splitOn ':') = some groups) : ∀ c ∈ cs, isGroupChar c = true := by
  intro c hc
  rcases Text.mem_splitOn_of_mem (c := ':') hc with rfl | ⟨field, hfield, hc⟩
  · rfl
  · exact isGroupChar_of_groupsOf? h field hfield c hc

/-- A side of a gap has the characters of groups. -/
theorem isGroupChar_of_side? {tail : Bool} {groups : List Nat} (h : side? tail cs = some groups) :
    ∀ c ∈ cs, isGroupChar c = true := by
  simp only [side?] at h
  split at h
  · next hempty =>
    rw [List.isEmpty_iff.1 hempty]
    simp
  · exact isGroupChar_of_groupsOf?_splitOn h

/-- What stands around the first gap. -/
theorem splitGap?_eq_some (h : splitGap? cs = some (before, after)) :
    cs = before ++ ':' :: ':' :: after := by
  fun_induction splitGap? cs generalizing before with
  | case1 => cases h
  | case2 rest =>
    cases h
    rfl
  | case3 c rest _ ih =>
    obtain ⟨⟨before', after'⟩, hrest, heq⟩ := Option.map_eq_some_iff.1 h
    cases heq
    rw [ih hrest, List.cons_append]

/-- **A text of eight groups has no other characters than hexadecimal digits, colons and dots.** -/
theorem isGroupChar_of_groups? {groups : List Nat} (h : groups? cs = some groups) :
    ∀ c ∈ cs, isGroupChar c = true := by
  simp only [groups?] at h
  split at h
  · exact isGroupChar_of_groupsOf?_splitOn (Option.filter_eq_some_iff.1 h).1
  · next before after hgap =>
    obtain ⟨head, hhead, h⟩ := Option.bind_eq_some_iff.1 h
    obtain ⟨tail, htail, -⟩ := Option.bind_eq_some_iff.1 h
    rw [splitGap?_eq_some hgap]
    intro c hc
    simp only [List.mem_append, List.mem_cons] at hc
    rcases hc with hc | rfl | rfl | hc
    · exact isGroupChar_of_side? hhead c hc
    · rfl
    · rfl
    · exact isGroupChar_of_side? htail c hc

/-! ## Letter case -/

/-- Colons have no letter case. -/
theorem toLower_eq_colon (c : Char) : c.toLower = ':' ↔ c = ':' :=
  Ascii.toLower_eq_mark (by decide) c

/-- Dots have no letter case. -/
theorem toLower_eq_dot (c : Char) : c.toLower = '.' ↔ c = '.' :=
  Ascii.toLower_eq_mark (by decide) c

/-- Digits have no letter case. -/
theorem map_toLower_of_isDigit (h : ∀ c ∈ cs, c.isDigit = true) : cs.map Char.toLower = cs := by
  have hdigit (c : Char) (hc : c.isDigit = true) : c.toLower = c :=
    Ascii.of_isHexDigit (P := fun c => c.isDigit = true → c.toLower = c) (by decide +kernel)
      (Ascii.isHexDigit_of_isDigit hc) hc
  rw [List.map_congr_left fun c hc => hdigit c (h c hc), List.map_id']

/-- An octet is read in either letter case. -/
theorem octet?_map_toLower (cs : List Char) : octet? (cs.map Char.toLower) = octet? cs := by
  by_cases hdigits : ∀ c ∈ cs, c.isDigit = true
  · rw [map_toLower_of_isDigit hdigits]
  · have hnone {ds : List Char} (h : ¬ ∀ c ∈ ds, c.isDigit = true) : octet? ds = none := by
      rw [Option.eq_none_iff_forall_ne_some]
      exact fun n hn => h (isDigit_of_octet? hn)
    rw [hnone hdigits, hnone (by simpa using hdigits)]

/-- Four octets are read in either letter case. -/
theorem octets?_map_toLower (cs : List Char) : octets? (cs.map Char.toLower) = octets? cs := by
  simp only [octets?, Text.splitOn_map toLower_eq_dot, List.length_map, List.mapM_map]
  congr 2
  exact funext octet?_map_toLower

/-- A group is read in either letter case. -/
theorem group?_map_toLower (cs : List Char) : group? (cs.map Char.toLower) = group? cs := by
  have hvalue : ∀ c, hexValue c.toLower = hexValue c :=
    Ascii.toLower_invariant hexValue (by decide +kernel)
  simp [group?, List.all_map, Function.comp_def, List.foldl_map, hvalue]

/-- Fields are read in either letter case. -/
theorem groupsOf?_map_toLower (tail : Bool) (fields : List (List Char)) :
    groupsOf? tail (fields.map (List.map Char.toLower)) = groupsOf? tail fields := by
  fun_induction groupsOf? tail fields with
  | case1 => rfl
  | case2 field g hg => simp [groupsOf?, group?_map_toLower, hg]
  | case3 field hg htail => simp [groupsOf?, group?_map_toLower, octets?_map_toLower, hg, htail]
  | case4 field hg htail => simp [groupsOf?, group?_map_toLower, hg, htail]
  | case5 field rest hrest ih =>
    cases rest with
    | nil => exact absurd rfl hrest
    | cons next rest =>
      simp only [List.map_cons] at ih ⊢
      simp only [groupsOf?, group?_map_toLower, ih]

/-- A side of a gap is read in either letter case. -/
theorem side?_map_toLower (tail : Bool) (cs : List Char) :
    side? tail (cs.map Char.toLower) = side? tail cs := by
  simp [side?, Text.splitOn_map toLower_eq_colon, groupsOf?_map_toLower]

/-- The first gap is at once or later. -/
theorem splitGap?_cons (c : Char) (rest : List Char) : splitGap? (c :: rest) =
    if c = ':' ∧ rest.head? = some ':' then some ([], rest.tail)
    else (splitGap? rest).map fun (before, after) => (c :: before, after) := by
  split
  · next h =>
    obtain ⟨rfl, hhead⟩ := h
    obtain ⟨rest, rfl⟩ := List.head?_eq_some_iff.1 hhead
    rfl
  · next h =>
    rw [splitGap?]
    rintro rest' rfl rfl
    exact h ⟨rfl, rfl⟩

/-- The first gap is found in either letter case. -/
theorem splitGap?_map_toLower (cs : List Char) : splitGap? (cs.map Char.toLower) =
    (splitGap? cs).map fun (before, after) =>
      (before.map Char.toLower, after.map Char.toLower) := by
  induction cs with
  | nil => rfl
  | cons c rest ih =>
    have hgap : c.toLower = ':' ∧ (rest.map Char.toLower).head? = some ':' ↔
        c = ':' ∧ rest.head? = some ':' := by
      rw [toLower_eq_colon, List.head?_map, Option.map_eq_some_iff]
      simp [toLower_eq_colon]
    rw [List.map_cons, splitGap?_cons, splitGap?_cons, ih]
    by_cases h : c = ':' ∧ rest.head? = some ':'
    · rw [if_pos (hgap.2 h), if_pos h]
      simp
    · rw [if_neg (mt hgap.1 h), if_neg h]
      cases splitGap? rest <;> rfl

/-- **Eight groups are read in either letter case.** -/
theorem groups?_map_toLower (cs : List Char) : groups? (cs.map Char.toLower) = groups? cs := by
  simp only [groups?, splitGap?_map_toLower]
  cases splitGap? cs with
  | none => simp [Text.splitOn_map toLower_eq_colon, groupsOf?_map_toLower]
  | some gap => simp [side?_map_toLower]

/-! ## Texts that are written -/

/-- Digits of a base up to sixteen are hexadecimal. -/
theorem isHexDigit_of_mem_toDigits (n : Nat) (hc : c ∈ Nat.toDigits 16 n) :
    Ascii.isHexDigit c = true := by
  have hdigit : ∀ d < 16, Ascii.isHexDigit (Nat.digitChar d) = true := by decide
  induction n using Nat.strongRecOn with
  | ind n ih =>
    rw [Nat.toDigits_eq_if (by decide)] at hc
    split at hc
    · next hn =>
      rw [List.mem_singleton.1 hc]
      exact hdigit n hn
    · rcases List.mem_append.1 hc with hc | hc
      · exact ih (n / 16) (by omega) hc
      · rw [List.mem_singleton.1 hc]
        exact hdigit _ (Nat.mod_lt _ (by decide))

/-- Octets are written in digits and dots. -/
theorem mem_octetsText {octets : List Nat} (hc : c ∈ (octetsText octets).toList) :
    c.isDigit = true ∨ c = '.' := by
  rw [octetsText, String.toList_intercalate] at hc
  rcases Text.mem_intercalate hc with hc | ⟨part, hpart, hc⟩
  · exact .inr (by simpa using hc)
  · simp only [List.map_map, List.mem_map, Function.comp_apply, String.toList_ofList] at hpart
    obtain ⟨n, -, rfl⟩ := hpart
    exact .inl (Nat.isDigit_of_mem_toDigits (by decide) (by decide) hc)

/-- Groups are written in hexadecimal digits and colons. -/
theorem mem_groupsText {groups : List Nat} (hc : c ∈ (groupsText groups).toList) :
    Ascii.isHexDigit c = true ∨ c = ':' := by
  rw [groupsText, String.toList_intercalate] at hc
  rcases Text.mem_intercalate hc with hc | ⟨part, hpart, hc⟩
  · exact .inr (by simpa using hc)
  · simp only [List.map_map, List.mem_map, Function.comp_apply, String.toList_ofList] at hpart
    obtain ⟨n, -, rfl⟩ := hpart
    exact .inl (isHexDigit_of_mem_toDigits n hc)

/-- **Groups with a gap are written in hexadecimal digits and colons.** -/
theorem mem_shortText {groups : List Nat} (hc : c ∈ (shortText groups).toList) :
    Ascii.isHexDigit c = true ∨ c = ':' := by
  simp only [shortText] at hc
  split at hc
  · simp only [String.toList_append, List.mem_append] at hc
    rcases hc with (hc | hc) | hc
    · exact mem_groupsText hc
    · exact .inr (by simpa using hc)
    · exact mem_groupsText hc
  · exact mem_groupsText hc

end ProxyFilter.Address
