import ProxyFilter.Json.Syntax
import ProxyFilter.Proofs.Failure
import ProxyFilter.Text.Decimal

/-!
# Numbers of JSON values

A negative integer of a value that was read is one that sixty-four bits can hold
(`Literal.number?_inRange`), so what `int64?` gives for a member of such a value is an integer of
that range (`int64?_range`).
-/

namespace ProxyFilter.Json

/-- A negative integer is one that sixty-four bits can hold. -/
def Number.InRange : Number → Prop
  | negative n => Text.int64Min ≤ n ∧ n < 0
  | _ => True

/-- The number of a literal is in range. -/
theorem Literal.number?_inRange {literal : Literal} {n : Number}
    (h : literal.number? = some n) : n.InRange := by
  simp only [Literal.number?] at h
  split at h
  · split at h
    · cases h
      trivial
    · split at h
      · next hrange =>
        cases h
        simp only [Number.InRange, Text.int64Min]
        omega
      · cases h
        trivial
  · obtain ⟨x, -, rfl⟩ := Option.map_eq_some_iff.1 h
    trivial

/-- A value that is read as a number is in range. -/
theorem Node.toValueWithin?_inRange {depth : Nat} {node : Node} {n : Number}
    (h : toValueWithin? depth node = some (.number n)) : n.InRange := by
  cases node with
  | number literal =>
    simp only [toValueWithin?] at h
    obtain ⟨n', hn, heq⟩ := Option.map_eq_some_iff.1 h
    cases heq
    exact Literal.number?_inRange hn
  | null | bool b | string s | array items | object members =>
    cases depth <;> simp [toValueWithin?, Option.bind_eq_some_iff] at h

/-- A member that stands in an object is the one added or was there before. -/
theorem mem_insertMember {key k : String} {v w : Json} {members : List (String × Json)}
    (h : (k, w) ∈ insertMember key v members) : w = v ∨ (k, w) ∈ members := by
  induction members with
  | nil => simp_all [insertMember]
  | cons member members ih =>
    obtain ⟨k', w'⟩ := member
    simp only [insertMember] at h
    split at h
    · rcases List.mem_cons.1 h with h | h
      · cases h
        exact .inl rfl
      · exact .inr (List.mem_cons_of_mem _ h)
    · rcases List.mem_cons.1 h with h | h
      · exact .inr (h ▸ List.mem_cons_self)
      · exact (ih h).imp_right (List.mem_cons_of_mem _)

/-- A member of an object that was put together from members is one of them. -/
theorem mem_foldl_insertMember {members done : List (String × Json)} {k : String} {w : Json}
    (h : (k, w) ∈ members.foldl (fun done (k, v) => insertMember k v done) done) :
    (∃ k', (k', w) ∈ members) ∨ (k, w) ∈ done := by
  induction members generalizing done with
  | nil => exact .inr h
  | cons member members ih =>
    rcases ih h with ⟨k', hmem⟩ | hmem
    · exact .inl ⟨k', List.mem_cons_of_mem _ hmem⟩
    · rcases mem_insertMember hmem with rfl | hmem
      · exact .inl ⟨member.1, List.mem_cons_self⟩
      · exact .inr hmem

/-- The members of a value that is read are read. -/
theorem Node.toValueWithin?_member {depth : Nat} {node : Node} {members : List (String × Json)}
    (h : toValueWithin? depth node = some (.object members)) {k : String} {v : Json}
    (hmem : (k, v) ∈ members) : ∃ depth node, toValueWithin? depth node = some v := by
  cases node with
  | object nodes =>
    cases depth with
    | zero => simp [toValueWithin?] at h
    | succ depth =>
      simp only [toValueWithin?] at h
      obtain ⟨read, hread, heq⟩ := Option.bind_eq_some_iff.1 h
      cases heq
      rcases mem_foldl_insertMember hmem with ⟨k', hmem⟩ | hmem
      · obtain ⟨⟨key, node⟩, -, hnode⟩ := Option.exists_of_mem_mapM hread hmem
        obtain ⟨key', -, hnode⟩ := Option.bind_eq_some_iff.1 hnode
        obtain ⟨v', hv', heq⟩ := Option.bind_eq_some_iff.1 hnode
        cases heq
        exact ⟨depth, node, hv'⟩
      · cases hmem
  | null | bool b | number literal | string s | array items =>
    cases depth <;> simp [toValueWithin?] at h

/-- The integer of a member of a value that was read is one that sixty-four bits can hold. -/
theorem int64?_range {b : Bytes} {v member : Json} {key : String} {n : Int}
    (hparse : parse? b = some v) (hget : v.get? key = some member) (hint : member.int64? = some n) :
    Text.int64Min ≤ n ∧ n ≤ Text.int64Max := by
  obtain ⟨root, -, hroot⟩ := Option.bind_eq_some_iff.1 hparse
  obtain ⟨members, hmembers, hlookup⟩ := Option.bind_eq_some_iff.1 hget
  cases v with
  | object members' =>
    cases hmembers
    obtain ⟨before, after, hentries, -⟩ := List.lookup_eq_some_iff.1 hlookup
    have hmem : (key, member) ∈ members := by simp [hentries]
    obtain ⟨depth, node, hnode⟩ := Node.toValueWithin?_member hroot hmem
    cases member with
    | number number =>
      have hrange := Node.toValueWithin?_inRange hnode
      cases number with
      | natural n' =>
        simp only [int64?, Option.ite_none_right_eq_some, Option.some.injEq] at hint
        simp only [Text.int64Min, Text.int64Max]
        omega
      | negative n' =>
        cases hint
        simp only [Number.InRange, Text.int64Min] at hrange
        simp only [Text.int64Min, Text.int64Max]
        omega
      | real x => cases hint
    | null | bool | string | array | object => cases hint
  | null | bool | number | string | array => cases hmembers

end ProxyFilter.Json
