import Mathlib.Algebra.Group.Nat.Defs
import ProxyFilter.Proofs.Http.Address

/-!
# Addresses, written and read again

An address that was read has numbers that are as many and as small as they must be
(`Address.WellFormed`, `Address.wellFormed_of_parse?`). Such an address is read again from the one
text it is written as (`Address.parse?_text`): octets and groups are read from their digits, the
first gap is the one that was left for the longest run of zeros (`Address.splitGap?_groupsText`),
and what was left out of the groups there is zero (`Address.longestZeros_isRun`).
-/

namespace ProxyFilter.Address

variable {cs : List Char} {octets groups : List Nat} {n : Nat} {a : Address}

/-! ## Numbers of addresses that are read -/

/-- The numbers of an address are as many and as small as they must be. -/
inductive WellFormed : Address → Prop
  | v4 {octets : List Nat} (hlength : octets.length = 4) (hrange : ∀ n ∈ octets, n < 256) :
    WellFormed (.v4 octets)
  | v6 {groups : List Nat} (hlength : groups.length = 8) (hrange : ∀ g ∈ groups, g < 65536) :
    WellFormed (.v6 groups)

/-- An octet is below 256. -/
theorem octet?_lt (h : octet? cs = some n) : n < 256 := by
  simp only [octet?, Option.ite_none_right_eq_some, Option.filter_eq_some_iff,
    decide_eq_true_eq] at h
  omega

/-- Four octets are four, each below 256. -/
theorem octets?_range (h : octets? cs = some octets) :
    octets.length = 4 ∧ ∀ n ∈ octets, n < 256 := by
  simp only [octets?, Option.ite_none_right_eq_some] at h
  refine ⟨(Option.length_of_mapM h.2).trans h.1, fun n hn => ?_⟩
  obtain ⟨part, -, hpart⟩ := Option.exists_of_mem_mapM h.2 hn
  exact octet?_lt hpart

/-- Hexadecimal digits stand for less than what one more digit in front of them would. -/
theorem foldl_hexValue_lt (hdigits : ∀ c ∈ cs, Ascii.isHexDigit c = true) (init : Nat) :
    cs.foldl (fun n c => 16 * n + hexValue c) init < (init + 1) * 16 ^ cs.length := by
  induction cs generalizing init with
  | nil => simp
  | cons c cs ih =>
    rw [List.forall_mem_cons] at hdigits
    have hc : hexValue c < 16 :=
      Ascii.of_isHexDigit (P := fun c => hexValue c < 16) (by decide +kernel) hdigits.1
    calc cs.foldl (fun n c => 16 * n + hexValue c) (16 * init + hexValue c)
      _ < (16 * init + hexValue c + 1) * 16 ^ cs.length := ih hdigits.2 _
      _ ≤ ((init + 1) * 16) * 16 ^ cs.length := Nat.mul_le_mul_right _ (by omega)
      _ = (init + 1) * 16 ^ (c :: cs).length := by
        rw [Nat.mul_assoc, ← Nat.pow_succ', List.length_cons]

/-- A group is below 65536. -/
theorem group?_lt (h : group? cs = some n) : n < 65536 := by
  have hdigits := isHexDigit_of_group? h
  simp only [group?, Option.ite_none_right_eq_some, Bool.and_eq_true, decide_eq_true_eq] at h
  obtain ⟨⟨⟨-, hlength⟩, -⟩, hn⟩ := h
  rw [← Option.some.inj hn]
  calc cs.foldl (fun n c => 16 * n + hexValue c) 0
    _ < (0 + 1) * 16 ^ cs.length := foldl_hexValue_lt hdigits 0
    _ ≤ 1 * 16 ^ 4 := Nat.mul_le_mul_left _ (Nat.pow_le_pow_right (by decide) hlength)

/-- Groups that four octets fill are below 65536. -/
theorem pair_lt (hrange : ∀ n ∈ octets, n < 256) : ∀ g ∈ pair octets, g < 65536 := by
  fun_cases pair octets with
  | case1 a b c d =>
    simp only [List.forall_mem_cons] at hrange ⊢
    exact ⟨by omega, by omega, by simp⟩
  | case2 => simp

/-- Groups that are read are below 65536. -/
theorem groupsOf?_lt {tail : Bool} {fields : List (List Char)}
    (h : groupsOf? tail fields = some groups) : ∀ g ∈ groups, g < 65536 := by
  fun_induction groupsOf? tail fields generalizing groups with
  | case1 =>
    cases h
    simp
  | case2 field g hg =>
    cases h
    simpa using group?_lt hg
  | case3 field hg htail =>
    obtain ⟨octets, hoctets, rfl⟩ := Option.map_eq_some_iff.1 h
    exact pair_lt (octets?_range hoctets).2
  | case4 => cases h
  | case5 field rest _ ih =>
    obtain ⟨g, hg, h⟩ := Option.bind_eq_some_iff.1 h
    obtain ⟨more, hmore, h⟩ := Option.bind_eq_some_iff.1 h
    cases h
    exact List.forall_mem_cons.2 ⟨group?_lt hg, ih hmore⟩

/-- Groups on a side of a gap are below 65536. -/
theorem side?_lt {tail : Bool} (h : side? tail cs = some groups) : ∀ g ∈ groups, g < 65536 := by
  simp only [side?] at h
  split at h
  · cases h
    simp
  · exact groupsOf?_lt h

/-- Eight groups are eight, each below 65536. -/
theorem groups?_range (h : groups? cs = some groups) :
    groups.length = 8 ∧ ∀ g ∈ groups, g < 65536 := by
  simp only [groups?] at h
  split at h
  · obtain ⟨hgroups, hlength⟩ := Option.filter_eq_some_iff.1 h
    exact ⟨by simpa using hlength, groupsOf?_lt hgroups⟩
  · obtain ⟨head, hhead, h⟩ := Option.bind_eq_some_iff.1 h
    obtain ⟨tail, htail, h⟩ := Option.bind_eq_some_iff.1 h
    obtain ⟨hlength, h⟩ := Option.ite_none_right_eq_some.1 h
    cases h
    constructor
    · simp only [List.length_append, List.length_replicate]
      omega
    · intro g hg
      simp only [List.mem_append, List.mem_replicate] at hg
      rcases hg with (hg | ⟨-, rfl⟩) | hg
      · exact side?_lt hhead g hg
      · decide
      · exact side?_lt htail g hg

/-- **An address that is read is well formed.** -/
theorem wellFormed_of_parse? {s : String} (h : parse? s = some a) : a.WellFormed := by
  simp only [parse?] at h
  split at h
  · next octets hoctets =>
    cases h
    exact .v4 (octets?_range hoctets).1 (octets?_range hoctets).2
  · obtain ⟨groups, hgroups, rfl⟩ := Option.map_eq_some_iff.1 h
    exact .v6 (groups?_range hgroups).1 (groups?_range hgroups).2

/-- A mapped address has one form. -/
theorem mapped?_eq_some (h : mapped? groups = some octets) : ∃ a b,
    groups = [0, 0, 0, 0, 0, 65535, a, b] ∧ octets = [a / 256, a % 256, b / 256, b % 256] := by
  unfold mapped? at h
  split at h
  · next a b =>
    cases h
    exact ⟨a, b, rfl, rfl⟩
  · cases h

/-- Octets that a mapped address carries are four, each below 256. -/
theorem mapped?_range (h : mapped? groups = some octets) (hrange : ∀ g ∈ groups, g < 65536) :
    octets.length = 4 ∧ ∀ n ∈ octets, n < 256 := by
  obtain ⟨a, b, rfl, rfl⟩ := mapped?_eq_some h
  simp only [List.forall_mem_cons] at hrange ⊢
  exact ⟨rfl, by omega, by omega, by omega, by omega, by simp⟩

/-- A folded address is well formed too. -/
theorem WellFormed.fold (h : a.WellFormed) : a.fold.WellFormed := by
  cases h with
  | v4 hlength hrange => exact .v4 hlength hrange
  | @v6 groups hlength hrange =>
    simp only [Address.fold]
    split
    · next octets hmapped =>
      exact .v4 (mapped?_range hmapped hrange).1 (mapped?_range hmapped hrange).2
    · exact .v6 hlength hrange

/-! ## Digits -/

/-- An octet is read from its digits. -/
theorem octet?_toDigits (h : n < 256) : octet? (Nat.toDigits 10 n) = some n := by
  have hall : ∀ n < 256, octet? (Nat.toDigits 10 n) = some n := by decide +kernel
  exact hall n h

/-- Hexadecimal digits stand for the number that is written in them. -/
theorem foldl_hexValue_toDigits (n : Nat) :
    (Nat.toDigits 16 n).foldl (fun n c => 16 * n + hexValue c) 0 = n := by
  have hdigit : ∀ d < 16, hexValue (Nat.digitChar d) = d := by decide
  induction n using Nat.strongRecOn with
  | ind n ih =>
    rw [Nat.toDigits_eq_if (by decide)]
    split
    · next hn => simpa using hdigit n hn
    · rw [List.foldl_append, ih (n / 16) (by omega), List.foldl_cons, List.foldl_nil,
        hdigit _ (Nat.mod_lt _ (by decide)), Nat.div_add_mod]

/-- A group is read from its digits. -/
theorem group?_toDigits (h : n < 65536) : group? (Nat.toDigits 16 n) = some n := by
  have hpos : 1 ≤ (Nat.toDigits 16 n).length := Nat.length_toDigits_pos
  have hlength : (Nat.toDigits 16 n).length ≤ 4 :=
    (Nat.length_toDigits_le_iff (by decide) (by decide)).2 h
  have hdigits : (Nat.toDigits 16 n).all Ascii.isHexDigit = true :=
    List.all_eq_true.2 fun c hc => isHexDigit_of_mem_toDigits n hc
  simp only [group?, hpos, hlength, hdigits, decide_true, Bool.and_self, if_true,
    foldl_hexValue_toDigits]

/-- A group is written without colons. -/
theorem colon_notMem_toDigits (n : Nat) : ':' ∉ Nat.toDigits 16 n := by
  intro hmem
  exact absurd (isHexDigit_of_mem_toDigits n hmem) (by decide)

/-! ## Octets -/

/-- Octets are written with dots between their digits. -/
theorem toList_octetsText (octets : List Nat) :
    (octetsText octets).toList = ['.'].intercalate (octets.map (Nat.toDigits 10)) := by
  rw [octetsText, String.toList_intercalate, List.map_map]
  congr 1
  exact List.map_congr_left fun n _ => String.toList_ofList

/-- **Four octets are read from what they are written as.** -/
theorem octets?_octetsText (hlength : octets.length = 4) (hrange : ∀ n ∈ octets, n < 256) :
    octets? (octetsText octets).toList = some octets := by
  have hdot : ∀ part ∈ octets.map (Nat.toDigits 10), '.' ∉ part := by
    intro part hpart hmem
    obtain ⟨n, -, rfl⟩ := List.mem_map.1 hpart
    exact absurd (Nat.isDigit_of_mem_toDigits (by decide) (by decide) hmem) (by decide)
  have hne : octets.map (Nat.toDigits 10) ≠ [] := by
    rintro hnil
    rw [List.map_eq_nil_iff.1 hnil] at hlength
    cases hlength
  rw [octets?, toList_octetsText, List.splitOn_intercalate _ hdot hne]
  simp only [List.length_map, hlength, if_true]
  exact Option.mapM_map_eq_some fun n hn => octet?_toDigits (hrange n hn)

/-- A text with a colon is not read as four octets. -/
theorem octets?_of_colon_mem (h : ':' ∈ cs) : octets? cs = none := by
  rw [Option.eq_none_iff_forall_ne_some]
  intro octets hoctets
  rcases mem_of_octets? hoctets h with hdigit | hdot
  · exact absurd hdigit (by decide)
  · exact absurd hdot (by decide)

/-! ## Groups -/

/-- Groups are written with colons between their digits. -/
theorem toList_groupsText (groups : List Nat) :
    (groupsText groups).toList = [':'].intercalate (groups.map (Nat.toDigits 16)) := by
  rw [groupsText, String.toList_intercalate, List.map_map]
  congr 1
  exact List.map_congr_left fun n _ => String.toList_ofList

/-- No group is written as nothing. -/
theorem toList_groupsText_nil : (groupsText []).toList = [] := rfl

/-- One group is written in its digits. -/
theorem toList_groupsText_singleton (g : Nat) :
    (groupsText [g]).toList = Nat.toDigits 16 g := by
  rw [toList_groupsText, List.map_singleton, List.intercalate_singleton]

/-- A group is written before the others. -/
theorem toList_groupsText_cons_cons (g g' : Nat) (rest : List Nat) :
    (groupsText (g :: g' :: rest)).toList =
      Nat.toDigits 16 g ++ ':' :: (groupsText (g' :: rest)).toList := by
  rw [toList_groupsText, toList_groupsText, List.map_cons, List.map_cons,
    List.intercalate_cons_cons, List.append_assoc, List.singleton_append]

/-- Fields are read as the groups that are written in them. By induction on the groups. -/
theorem groupsOf?_map_toDigits (tail : Bool) (hrange : ∀ g ∈ groups, g < 65536) :
    groupsOf? tail (groups.map (Nat.toDigits 16)) = some groups := by
  induction groups with
  | nil => rfl
  | cons g groups ih =>
    rw [List.forall_mem_cons] at hrange
    have hg := group?_toDigits hrange.1
    cases groups with
    | nil => simp only [List.map_cons, List.map_nil, groupsOf?, hg]
    | cons g' groups =>
      have hrest := ih hrange.2
      simp only [List.map_cons] at hrest ⊢
      simp only [groupsOf?, hg, hrest, Option.bind_eq_bind, Option.bind_some, Option.pure_def]

/-- Fields between colons are read as the groups that are written so. -/
theorem groupsOf?_splitOn_groupsText (tail : Bool) (hne : groups ≠ [])
    (hrange : ∀ g ∈ groups, g < 65536) :
    groupsOf? tail ((groupsText groups).toList.splitOn ':') = some groups := by
  have hcolon : ∀ part ∈ groups.map (Nat.toDigits 16), ':' ∉ part := by
    intro part hpart
    obtain ⟨n, -, rfl⟩ := List.mem_map.1 hpart
    exact colon_notMem_toDigits n
  rw [toList_groupsText, List.splitOn_intercalate _ hcolon (by simpa using hne)]
  exact groupsOf?_map_toDigits tail hrange

/-- A side of a gap is read as the groups that are written there. -/
theorem side?_groupsText (tail : Bool) (hrange : ∀ g ∈ groups, g < 65536) :
    side? tail (groupsText groups).toList = some groups := by
  by_cases hne : groups = []
  · subst hne
    rfl
  · have hread := groupsOf?_splitOn_groupsText tail hne hrange
    have hnonempty : (groupsText groups).toList ≠ [] := by
      intro hnil
      have hnone : groupsOf? tail (([] : List Char).splitOn ':') = none := by
        cases tail <;> decide
      rw [hnil] at hread
      cases hnone.symm.trans hread
    rw [side?, if_neg (by simpa using hnonempty), hread]

/-! ## The gap -/

/-- No gap begins in a field. -/
theorem splitGap?_field {field : List Char} (h : ':' ∉ field) (rest : List Char) :
    splitGap? (field ++ rest) =
      (splitGap? rest).map fun (before, after) => (field ++ before, after) := by
  induction field with
  | nil => simp
  | cons c field ih =>
    rw [List.mem_cons, not_or] at h
    have hgap : ¬ (c = ':' ∧ (field ++ rest).head? = some ':') := fun hgap => h.1 hgap.1.symm
    rw [List.cons_append, splitGap?_cons, if_neg hgap, ih h.2, Option.map_map]
    rfl

/-- Groups are written with a digit first. -/
theorem head?_groupsText_cons (g : Nat) (groups : List Nat) (rest : List Char) :
    ((groupsText (g :: groups)).toList ++ rest).head? ≠ some ':' := by
  obtain ⟨c, digits, hdigits⟩ := List.exists_cons_of_ne_nil (Nat.toDigits_ne_nil (b := 16) (n := g))
  have hc : c ≠ ':' := by
    rintro rfl
    exact colon_notMem_toDigits g (hdigits ▸ List.mem_cons_self)
  cases groups with
  | nil => simpa [toList_groupsText_singleton, hdigits] using hc
  | cons g' groups => simpa [toList_groupsText_cons_cons, hdigits] using hc

/-- No gap begins in groups that are written without one. By induction on the groups. -/
theorem splitGap?_groupsText (groups : List Nat) (rest : List Char) :
    splitGap? ((groupsText groups).toList ++ rest) =
      (splitGap? rest).map fun (before, after) =>
        ((groupsText groups).toList ++ before, after) := by
  induction groups with
  | nil => simp [toList_groupsText_nil]
  | cons g groups ih =>
    have hfield := colon_notMem_toDigits g
    cases groups with
    | nil => rw [toList_groupsText_singleton, splitGap?_field hfield]
    | cons g' groups =>
      have hcolon : ¬ (':' = ':' ∧
          ((groupsText (g' :: groups)).toList ++ rest).head? = some ':') :=
        fun hgap => head?_groupsText_cons g' groups rest hgap.2
      rw [toList_groupsText_cons_cons, List.append_assoc, splitGap?_field hfield,
        List.cons_append, splitGap?_cons, if_neg hcolon, ih, Option.map_map, Option.map_map]
      simp [Function.comp_def]

/-- The groups have a run of zeros of this length at this place. -/
def IsRun (groups : List Nat) (run : Nat × Nat) : Prop :=
  ∃ before after, groups = before ++ (List.replicate run.2 0 ++ after) ∧ before.length = run.1

/-- The zeros that a list begins with, and the others. -/
theorem replicate_zerosAhead_append (groups : List Nat) :
    List.replicate (zerosAhead groups) 0 ++ groups.dropWhile (· == 0) = groups := by
  have hzeros : groups.takeWhile (· == 0) = List.replicate (zerosAhead groups) 0 :=
    List.eq_replicate_of_mem fun g hg => by simpa using List.mem_takeWhile_imp hg
  rw [← hzeros, List.takeWhile_append_dropWhile]

/-- What is found as the longest run is a run of zeros, if what was found before is one. By
induction on the groups that are still to be looked at. -/
theorem longestZeros_isRun (rest : List Nat) :
    ∀ (before : List Nat) (best : Nat × Nat), IsRun (before ++ rest) best →
      IsRun (before ++ rest) (longestZeros best before.length rest) := by
  induction rest with
  | nil => exact fun before best h => h
  | cons g rest ih =>
    intro before best h
    rw [longestZeros]
    generalize hnext : (if zerosAhead (g :: rest) > best.2 then
      (before.length, zerosAhead (g :: rest)) else best) = next
    have hrun : IsRun (before ++ g :: rest) next := by
      rw [← hnext]
      split
      · exact ⟨before, _, by rw [replicate_zerosAhead_append], rfl⟩
      · exact h
    rw [List.append_cons] at hrun ⊢
    simpa using ih (before ++ [g]) next hrun

/-- **Eight groups are read from what they are written as, with a gap or without one.** -/
theorem groups?_shortText (hlength : groups.length = 8) (hrange : ∀ g ∈ groups, g < 65536) :
    groups? (shortText groups).toList = some groups := by
  have hrun : IsRun groups (longestZeros (0, 0) 0 groups) :=
    longestZeros_isRun groups [] (0, 0) ⟨[], groups, rfl, rfl⟩
  obtain ⟨before, after, hgroups, hplace⟩ := hrun
  simp only [shortText]
  generalize longestZeros (0, 0) 0 groups = run at hgroups hplace ⊢
  split
  · next hlong =>
    have htake : groups.take run.1 = before := by
      rw [hgroups, ← hplace, List.take_left]
    have hdrop : groups.drop (run.1 + run.2) = after := by
      rw [hgroups, ← hplace, ← List.drop_drop, List.drop_left,
        List.drop_left' List.length_replicate]
    have hbefore : ∀ g ∈ before, g < 65536 := fun g hg => hrange g (by simp [hgroups, hg])
    have hafter : ∀ g ∈ after, g < 65536 := fun g hg => hrange g (by simp [hgroups, hg])
    have htotal : before.length + (run.2 + after.length) = 8 := by
      rw [← hlength, hgroups, List.length_append, List.length_append, List.length_replicate]
    have hgap : splitGap? (groupsText before ++ "::" ++ groupsText after).toList =
        some ((groupsText before).toList, (groupsText after).toList) := by
      rw [String.toList_append, String.toList_append, List.append_assoc, splitGap?_groupsText]
      simp [splitGap?]
    have hleft : 8 - before.length - after.length = run.2 := by omega
    have hfewer : before.length + after.length < 8 := by omega
    rw [htake, hdrop]
    simp only [groups?, hgap, side?_groupsText _ hbefore, side?_groupsText _ hafter,
      Option.bind_eq_bind, Option.bind_some, if_pos hfewer, hleft, List.append_assoc, hgroups]
  · have hne : groups ≠ [] := by
      rintro rfl
      cases hlength
    have hgap : splitGap? (groupsText groups).toList = none := by
      simpa [splitGap?] using splitGap?_groupsText groups []
    simp only [groups?, hgap, groupsOf?_splitOn_groupsText true hne hrange]
    simp [hlength]

/-! ## Addresses -/

/-- Octets are written without colons. -/
theorem colon_notMem_octetsText (octets : List Nat) : ':' ∉ (octetsText octets).toList := by
  intro hmem
  rcases mem_octetsText hmem with hdigit | hdot
  · exact absurd hdigit (by decide)
  · exact absurd hdot (by decide)

/-- Four octets are written with a dot, so not as one group. -/
theorem group?_octetsText (hlength : octets.length = 4) :
    group? (octetsText octets).toList = none := by
  rw [Option.eq_none_iff_forall_ne_some]
  intro g hg
  have hdot : '.' ∈ (octetsText octets).toList := by
    rcases octets with _ | ⟨a, _ | ⟨b, octets⟩⟩
    · cases hlength
    · cases hlength
    · rw [toList_octetsText, List.map_cons, List.map_cons, List.intercalate_cons_cons]
      simp only [List.mem_append, List.mem_singleton, or_true, true_or]
  exact absurd (isHexDigit_of_group? hg '.' hdot) (by decide)

/-- A mapped address is read from what it is written as. -/
theorem groups?_mapped (hmapped : mapped? groups = some octets)
    (hrange : ∀ n ∈ octets, n < 256) :
    groups? ("::ffff:" ++ octetsText octets).toList = some groups := by
  obtain ⟨a, b, rfl, rfl⟩ := mapped?_eq_some hmapped
  generalize htext : (octetsText [a / 256, a % 256, b / 256, b % 256]).toList = text
  have hgap : splitGap? ("::ffff:" ++ octetsText [a / 256, a % 256, b / 256, b % 256]).toList =
      some ([], ['f', 'f', 'f', 'f'] ++ ':' :: text) := by
    rw [String.toList_append, htext]
    rfl
  have hcolon : ':' ∉ text := htext ▸ colon_notMem_octetsText _
  have hfields : (['f', 'f', 'f', 'f'] ++ ':' :: text).splitOn ':' =
      [['f', 'f', 'f', 'f'], text] := by
    rw [List.splitOn_append_cons_self_of_not_mem (by decide), List.splitOn_eq_singleton hcolon]
  have hfirst : group? ['f', 'f', 'f', 'f'] = some 65535 := by decide
  have hlast : group? text = none := htext ▸ group?_octetsText rfl
  have hoctets : octets? text = some [a / 256, a % 256, b / 256, b % 256] :=
    htext ▸ octets?_octetsText rfl hrange
  have hpair : pair [a / 256, a % 256, b / 256, b % 256] = [a, b] := by
    simp only [pair, Nat.div_add_mod']
  have hside : side? true (['f', 'f', 'f', 'f'] ++ ':' :: text) = some [65535, a, b] := by
    rw [side?, if_neg (by simp), hfields]
    simp [groupsOf?, hfirst, hlast, hoctets, hpair]
  simp only [groups?, hgap, hside, Option.bind_eq_bind]
  rfl

/-- Eight groups are written with a colon. -/
theorem colon_mem_shortText (hlength : groups.length = 8) :
    ':' ∈ (shortText groups).toList := by
  simp only [shortText]
  split
  · simp
  · rcases groups with _ | ⟨g, _ | ⟨g', groups⟩⟩
    · cases hlength
    · cases hlength
    · simp [toList_groupsText_cons_cons]

/-- **A well-formed address is read from the text it is written as.** -/
theorem parse?_text (h : a.WellFormed) : parse? a.text = some a := by
  cases h with
  | v4 hlength hrange => simp only [parse?, text, octets?_octetsText hlength hrange]
  | @v6 groups hlength hrange =>
    simp only [parse?, text]
    cases hmapped : mapped? groups with
    | some octets =>
      have hcolon : ':' ∈ ("::ffff:" ++ octetsText octets).toList := by simp
      simp only [octets?_of_colon_mem hcolon,
        groups?_mapped hmapped (mapped?_range hmapped hrange).2, Option.map_some]
    | none =>
      simp only [octets?_of_colon_mem (colon_mem_shortText hlength),
        groups?_shortText hlength hrange, Option.map_some]

end ProxyFilter.Address
