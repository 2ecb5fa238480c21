import ProxyFilter.Proofs.Http.Host
import ProxyFilter.Proofs.Text.Percent
import ProxyFilter.Proofs.Unicode.AsciiText

/-!
# Domains that are written in ASCII

A domain in letters, digits, hyphens and dots that has no encoded label is brought to ASCII by
letter case alone (`DomainName.toAscii?_of_isPlain`), and what is left is the host
(`Host.parse?_of_isPlain`).
-/

namespace ProxyFilter

namespace DomainName

variable {c : Char} {name label : List Char}

/-- A letter or a digit of ASCII, a hyphen or a dot. -/
def IsPlain (c : Char) : Prop := c.isAlphanum = true ∨ c = '-' ∨ c = '.'

/-- These characters are in ASCII. -/
theorem IsPlain.lt (h : IsPlain c) : c.toNat < 128 := by
  rcases h with h | rfl | rfl
  · delta Char.isAlphanum Char.isAlpha Char.isUpper Char.isLower Char.isDigit at h
    simp only [Bool.or_eq_true, Bool.and_eq_true, decide_eq_true_eq, UInt32.le_iff_toNat_le,
      ge_iff_le] at h
    show c.val.toNat < 128
    have hupper : 'Z'.val.toNat = 90 := rfl
    have hlower : 'z'.val.toNat = 122 := rfl
    have hdigit : '9'.val.toNat = 57 := rfl
    omega
  · decide
  · decide

/-- What holds of these characters, by their numbers. -/
theorem IsPlain.of_forall {P : Char → Prop} (h : IsPlain c)
    (hall : ∀ n < 128, (Char.ofNat n).isAlphanum = true ∨ Char.ofNat n = '-' ∨ Char.ofNat n = '.' →
      P (Char.ofNat n)) : P c :=
  Ascii.of_forall_lt (P := fun c => IsPlain c → P c) hall h.lt h

/-- They are so in either letter case, and may stand in a domain. -/
theorem IsPlain.toLower (h : IsPlain c) : c.toLower.toNat < 128 ∧ isForbidden c.toLower = false :=
  h.of_forall (P := fun c => c.toLower.toNat < 128 ∧ isForbidden c.toLower = false)
    (by decide +kernel)

/-- A character of ASCII becomes the same in lower case. -/
theorem mapCode?_of_lt (h : c.toNat < 128) : mapCode? c.toNat = some [c.toLower.toNat] := by
  rw [mapCode?, if_pos h, Char.ofNat_toNat]

/-- Mapping brings a name in ASCII to lower case. -/
theorem mapped?_of_isPlain (h : ∀ c ∈ name, IsPlain c) :
    mapped? name = some (name.map Char.toLower) := by
  have hcodes : name.mapM (fun c => mapCode? c.toNat) =
      some (name.map fun c => [c.toLower.toNat]) := by
    induction name with
    | nil => rfl
    | cons c name ih =>
      obtain ⟨hc, hname⟩ := List.forall_mem_cons.1 h
      rw [List.mapM_cons, mapCode?_of_lt hc.lt, ih hname]
      rfl
  have hflatten : (name.map fun c => [c.toLower.toNat]).flatten =
      name.map fun c => c.toLower.toNat := by
    rw [← List.flatMap_def, List.map_eq_flatMap]
  have hascii : ∀ n ∈ name.map (fun c => c.toLower.toNat), n < 128 := by
    intro n hn
    obtain ⟨c, hc, rfl⟩ := List.mem_map.1 hn
    exact (h c hc).toLower.1
  rw [mapped?, hcodes, Option.bind_eq_bind, Option.bind_some, hflatten,
    Unicode.compose_of_ascii hascii]
  simp [Function.comp_def]

/-- A label in ASCII is sent as it is, unless it begins as encoded labels do. -/
theorem Label.parse?_of_ascii (h : ∀ c ∈ label, c.toNat < 128) (hmark : ¬ encodedMark <+: label) :
    Label.parse? label = some ⟨label, label⟩ := by
  have hall : label.all (·.toNat < 128) = true := by simpa using h
  rw [Label.parse?, if_neg (by rwa [List.isPrefixOf_iff_prefix]), if_pos hall]

/-- A label in ASCII has nothing that is written from right to left. -/
theorem hasRightward_of_ascii (h : ∀ c ∈ label, c.toNat < 128) : hasRightward label = false := by
  rw [hasRightward, directionsOf, List.any_map, List.any_eq_false]
  intro c hc
  have hdirection := Unicode.Direction.ofCode_of_ascii (h c hc)
  rw [Function.comp_apply]
  generalize Unicode.Direction.ofCode c.toNat = direction at hdirection ⊢
  rcases hdirection with rfl | rfl | rfl <;> decide

/-- **A domain in letters, digits, hyphens and dots without encoded labels is brought to lower
case.** -/
theorem toAscii?_of_isPlain (h : ∀ c ∈ name, IsPlain c)
    (hlabels : ∀ label ∈ (name.map Char.toLower).splitOn '.', ¬ Label.encodedMark <+: label) :
    toAscii? name = some (name.map Char.toLower) := by
  have hlower : ∀ c ∈ name.map Char.toLower, c.toNat < 128 ∧ isForbidden c = false := by
    intro c hc
    obtain ⟨d, hd, rfl⟩ := List.mem_map.1 hc
    exact (h d hd).toLower
  have hforbidden : (name.map Char.toLower).any isForbidden = false := by
    rw [List.any_eq_false]
    intro c hc
    rw [(hlower c hc).2]
    decide
  have hascii : ∀ label ∈ (name.map Char.toLower).splitOn '.', ∀ c ∈ label, c.toNat < 128 :=
    fun label hlabel c hc => (hlower c (Text.mem_of_mem_splitOn hlabel hc)).1
  have hparse : ((name.map Char.toLower).splitOn '.').mapM Label.parse? =
      some (((name.map Char.toLower).splitOn '.').map fun label => ⟨label, label⟩) := by
    generalize (name.map Char.toLower).splitOn '.' = labels at hlabels hascii
    induction labels with
    | nil => rfl
    | cons label labels ih =>
      obtain ⟨hmark, hmarks⟩ := List.forall_mem_cons.1 hlabels
      obtain ⟨hlabel, hrest⟩ := List.forall_mem_cons.1 hascii
      rw [List.mapM_cons, Label.parse?_of_ascii hlabel hmark, ih hmarks hrest]
      rfl
  have hright : (((name.map Char.toLower).splitOn '.').map fun label =>
      (⟨label, label⟩ : Label)).any (fun l => hasRightward l.shown) = false := by
    rw [List.any_map, List.any_eq_false]
    intro label hlabel
    rw [Function.comp_apply, hasRightward_of_ascii (hascii label hlabel)]
    decide
  rw [toAscii?, mapped?_of_isPlain h, Option.bind_eq_bind, Option.bind_some, hforbidden]
  simp only [Bool.false_eq_true, if_false, hparse, Option.bind_eq_bind, Option.bind_some, hright,
    Bool.false_and, Option.pure_def, List.map_map]
  have hsent : (Label.ascii ∘ fun label => (⟨label, label⟩ : Label)) = id := rfl
  rw [hsent, List.map_id]
  exact congrArg some (List.intercalate_splitOn '.')

end DomainName

/-- Octets without a percent sign are read as they are. -/
theorem Percent.decodeBytes_of_not_mem {b : Bytes} (h : 37 ∉ b) : decodeBytes b = b := by
  induction b with
  | nil => rw [decodeBytes]
  | cons x b ih =>
    rw [List.mem_cons, not_or] at h
    rw [decodeBytes_cons (Ne.symm h.1), ih h.2]

/-- **A domain in letters, digits, hyphens and dots without encoded labels is read as the host that
it is in lower case.** -/
theorem Host.parse?_of_isPlain {name : List Char} (h : ∀ c ∈ name, DomainName.IsPlain c)
    (hlabels : ∀ label ∈ (name.map Char.toLower).splitOn '.',
      ¬ DomainName.Label.encodedMark <+: label) :
    Host.parse? name = ofDomain? (name.map Char.toLower) := by
  have hnot {mark : Char} (hmark : ¬ DomainName.IsPlain mark) : mark ∉ name :=
    fun hmem => hmark (h mark hmem)
  have hopen : name.head? ≠ some '[' := fun hhead =>
    hnot (by unfold DomainName.IsPlain; decide) (List.mem_of_mem_head? hhead)
  have hpercent : 37 ∉ Utf8.encode (String.ofList name) := by
    intro hmem
    have hchar := Utf8.mem_encode hmem (by decide)
    rw [String.toList_ofList] at hchar
    exact hnot (by unfold DomainName.IsPlain; decide) hchar
  rw [parse?_of_head?_ne hopen, Percent.decodeBytes_of_not_mem hpercent, ofOctets?,
    Utf8.decode?_encode, Option.bind_some, String.toList_ofList,
    DomainName.toAscii?_of_isPlain h hlabels, Option.bind_some]

end ProxyFilter
