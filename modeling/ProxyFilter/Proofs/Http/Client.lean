import ProxyFilter.Proofs.Http.AddressText
import ProxyFilter.Proofs.Text.Blank

/-!
# Clients that are compared

The form in which a client is compared is read as the folded address of the client, and as none
where its text is no address (`Address.parse?_canonical`). So clients are compared as addresses,
however these are spelt, and never an address with another text (`Address.sameClient_eq`). The text
of no client at all has nothing but brackets in it (`Address.NamesNobody`), and no other text names
the same client as it (`Address.sameClient_empty_iff`).
-/

namespace ProxyFilter.Address

/-! ## Addresses and other texts -/

/-- An address is read in either letter case. -/
theorem parse?_lower (s : String) : parse? (Ascii.lower s) = parse? s := by
  simp only [parse?, Ascii.toList_lower, octets?_map_toLower, groups?_map_toLower]

/-- **The form in which a client is compared is read as its folded address, if it has one.** -/
theorem parse?_canonical (s : String) : parse? (canonical s) = (parse? (bare s)).map fold := by
  rw [canonical]
  cases h : parse? (bare s) with
  | some a => exact parse?_text (wellFormed_of_parse? h).fold
  | none => exact (parse?_lower (bare s)).trans h

/-- **Two texts that are addresses without the blanks and brackets around them name the same client
exactly if the addresses are equal once mapped ones are folded. An address and a text that is none
do not, and other texts do where they differ in letter case only.** -/
theorem sameClient_eq (a b : String) : sameClient a b =
    match parse? (bare a), parse? (bare b) with
    | some x, some y => decide (x.fold = y.fold)
    | none, none => Ascii.sameName (bare a) (bare b)
    | _, _ => false := by
  have hread : canonical a = canonical b →
      (parse? (bare a)).map fold = (parse? (bare b)).map fold := by
    intro h
    rw [← parse?_canonical, ← parse?_canonical, h]
  rw [sameClient, Bool.eq_iff_iff, beq_iff_eq]
  cases ha : parse? (bare a) with
  | some x =>
    cases hb : parse? (bare b) with
    | some y =>
      rw [ha, hb, Option.map_some, Option.map_some, Option.some.injEq] at hread
      rw [decide_eq_true_eq]
      refine ⟨hread, fun hfold => ?_⟩
      simp only [canonical, ha, hb, hfold]
    | none =>
      rw [ha, hb] at hread
      exact ⟨fun h => (nomatch hread h), nofun⟩
  | none =>
    cases hb : parse? (bare b) with
    | some y =>
      rw [ha, hb] at hread
      exact ⟨fun h => (nomatch hread h), nofun⟩
    | none => simp only [canonical, ha, hb, Ascii.sameName, beq_iff_eq]

/-! ## No client -/

/-- The text has nothing in it but blanks around it, brackets that open and brackets that close. -/
def NamesNobody (s : String) : Prop :=
  ∃ m n, (Text.trim s).toList = List.replicate m '[' ++ List.replicate n ']'

/-- Nothing is left of a text without the blanks and brackets around it. -/
theorem bare_eq_empty_iff {s : String} : bare s = "" ↔ NamesNobody s := by
  have hdrop (cs : List Char) : Text.dropEndWhile (· == ']') cs = [] ↔ ∀ c ∈ cs, c = ']' := by
    have hnil := @List.rdropWhile_eq_nil_iff Char (· == ']') cs
    simp only [beq_iff_eq] at hnil
    exact hnil
  rw [NamesNobody, Text.trim, String.toList_ofList, bare, ← String.toList_inj,
    String.toList_ofList]
  generalize Text.trimChars s.toList = cs
  refine (hdrop _).trans ⟨fun hclose => ?_, ?_⟩
  · have hopen : ∀ c ∈ cs.takeWhile (· == '['), c = '[' := fun c hc => by
      simpa using List.mem_takeWhile_imp hc
    refine ⟨(cs.takeWhile (· == '[')).length, (cs.dropWhile (· == '[')).length, ?_⟩
    rw [← List.eq_replicate_of_mem hopen, ← List.eq_replicate_of_mem hclose,
      List.takeWhile_append_dropWhile]
  · rintro ⟨m, n, rfl⟩ c hc
    have hopen : ∀ c ∈ List.replicate m '[', (c == '[') = true := fun c hc => by
      simpa using List.eq_of_mem_replicate hc
    rw [List.dropWhile_append_of_pos hopen] at hc
    exact List.eq_of_mem_replicate ((List.dropWhile_sublist _).mem hc)

/-- **A text names the same client as the empty text just where it names nobody.** -/
theorem sameClient_empty_iff {s : String} : sameClient s "" = true ↔ NamesNobody s := by
  have hempty : canonical "" = "" := by decide
  have hnone : parse? "" = none := by decide
  rw [← bare_eq_empty_iff, sameClient, beq_iff_eq, hempty]
  constructor
  · intro h
    cases hread : parse? (bare s) with
    | some a =>
      have hform := parse?_canonical s
      rw [h, hread, hnone] at hform
      cases hform
    | none =>
      simp only [canonical, hread] at h
      rw [← String.toList_inj, Ascii.toList_lower] at h
      rw [← String.toList_inj]
      exact List.map_eq_nil_iff.1 h
  · intro h
    rw [canonical, h, hnone]
    rfl

end ProxyFilter.Address
