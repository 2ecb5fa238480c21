import Mathlib.Data.List.Forall2

/-!
# Computations that may fail

What is known of a computation in several parts once it has succeeded: each part has
(`Except.bind_eq_ok`, `Except.throwIf_eq_ok`, `Except.map_eq_ok`), and so has each element of a list
(`Except.forall₂_of_mapM_eq_ok`, `Option.exists_of_mem_mapM`, `Option.exists_of_mem_of_mapM`), and a
list that is written element by element is read so (`Option.mapM_map_eq_some`). What goes over a
list until it fails is decided by the first element of a kind (`IsFirst`).
-/

namespace ProxyFilter

/-- A computation in two parts succeeds only if both do. -/
theorem Except.bind_eq_ok {ε α β : Type} {x : Except ε α} {f : α → Except ε β} {b : β}
    (h : x >>= f = .ok b) : ∃ a, x = .ok a ∧ f a = .ok b := by
  cases x with
  | error e => cases h
  | ok a => exact ⟨a, rfl, h⟩

/-- A computation that begins with a check succeeds only if the check lets it go on. -/
theorem Except.throwIf_eq_ok {ε β : Type} {c : Prop} [Decidable c] {e : ε}
    {f : PUnit → Except ε β} {b : β} (h : (if c then throw e >>= f else f ⟨⟩) = .ok b) :
    ¬ c ∧ f ⟨⟩ = .ok b := by
  by_cases hc : c
  · rw [if_pos hc] at h
    cases h
  · rw [if_neg hc] at h
    exact ⟨hc, h⟩

/-- What a computation succeeds with is changed, and not whether it succeeds. -/
theorem Except.map_eq_ok {ε α β : Type} {x : Except ε α} {f : α → β} {b : β}
    (h : x.map f = .ok b) : ∃ a, x = .ok a ∧ f a = b := by
  cases x with
  | error e => cases h
  | ok a =>
    cases h
    exact ⟨a, rfl, rfl⟩

/-- What a computation succeeds with is changed, and not why it fails. -/
theorem Except.map_eq_error {ε α β : Type} {x : Except ε α} {f : α → β} {e : ε} :
    x.map f = .error e ↔ x = .error e := by
  cases x with
  | error e' =>
    constructor <;> intro h <;> cases h <;> rfl
  | ok a => exact ⟨nofun, nofun⟩

/-- A computation whose result passes a test succeeds. -/
theorem Except.exists_ok_of_any {ε α : Type} {x : Except ε α} {test : α → Bool}
    (h : x.toOption.any test = true) : ∃ a, x = .ok a ∧ test a = true := by
  cases x with
  | error e => cases h
  | ok a => exact ⟨a, rfl, h⟩

/-- A list is made element by element. -/
theorem Except.forall₂_of_mapM_eq_ok {ε α β : Type} {f : α → Except ε β} {as : List α}
    {bs : List β} (h : as.mapM f = .ok bs) : List.Forall₂ (fun a b => f a = .ok b) as bs := by
  induction as generalizing bs with
  | nil =>
    cases h
    exact .nil
  | cons a as ih =>
    rw [List.mapM_cons] at h
    obtain ⟨b, hb, h⟩ := bind_eq_ok h
    obtain ⟨bs', hbs, h⟩ := bind_eq_ok h
    cases h
    exact .cons hb (ih hbs)

/-- What a list is mapped to comes from it. -/
theorem Option.exists_of_mem_mapM {α β : Type} {f : α → Option β} {as : List α} {bs : List β}
    (h : as.mapM f = some bs) {b : β} (hb : b ∈ bs) : ∃ a ∈ as, f a = some b := by
  induction as generalizing bs with
  | nil =>
    cases h
    cases hb
  | cons a as ih =>
    rw [List.mapM_cons] at h
    obtain ⟨b', hb', h⟩ := Option.bind_eq_some_iff.1 h
    obtain ⟨bs', hbs', h⟩ := Option.bind_eq_some_iff.1 h
    cases h
    rcases List.mem_cons.1 hb with rfl | hb
    · exact ⟨a, List.mem_cons_self, hb'⟩
    · obtain ⟨a', ha', hfa'⟩ := ih hbs' hb
      exact ⟨a', List.mem_cons_of_mem _ ha', hfa'⟩

/-- Each element of a list that is mapped gives something. -/
theorem Option.exists_of_mem_of_mapM {α β : Type} {f : α → Option β} {as : List α} {bs : List β}
    (h : as.mapM f = some bs) {a : α} (ha : a ∈ as) : ∃ b, f a = some b := by
  induction as generalizing bs with
  | nil => cases ha
  | cons a' as ih =>
    rw [List.mapM_cons] at h
    obtain ⟨b, hb, h⟩ := Option.bind_eq_some_iff.1 h
    obtain ⟨bs', hbs', -⟩ := Option.bind_eq_some_iff.1 h
    rcases List.mem_cons.1 ha with rfl | ha
    · exact ⟨b, hb⟩
    · exact ih hbs' ha

/-- A list is mapped to one of its length. -/
theorem Option.length_of_mapM {α β : Type} {f : α → Option β} {as : List α} {bs : List β}
    (h : as.mapM f = some bs) : bs.length = as.length := by
  induction as generalizing bs with
  | nil =>
    cases h
    rfl
  | cons a as ih =>
    rw [List.mapM_cons] at h
    obtain ⟨b, hb, h⟩ := Option.bind_eq_some_iff.1 h
    obtain ⟨bs', hbs', h⟩ := Option.bind_eq_some_iff.1 h
    cases h
    rw [List.length_cons, List.length_cons, ih hbs']

/-- A list is read again from what its elements are written as. -/
theorem Option.mapM_map_eq_some {α β : Type} {f : β → Option α} {g : α → β} {as : List α}
    (h : ∀ a ∈ as, f (g a) = some a) : (as.map g).mapM f = some as := by
  induction as with
  | nil => rfl
  | cons a as ih =>
    rw [List.forall_mem_cons] at h
    rw [List.map_cons, List.mapM_cons, h.1, ih h.2]
    rfl

/-! ## The first of a kind -/

/-- The element is the first one of a list that is of a kind. -/
def IsFirst {α : Type} (P : α → Prop) (as : List α) (a : α) : Prop :=
  ∃ before after, as = before ++ a :: after ∧ (∀ b ∈ before, ¬ P b) ∧ P a

section
variable {α : Type} {P : α → Prop} {a b : α} {as : List α}

/-- No element is the first one of no elements. -/
theorem not_isFirst_nil : ¬ IsFirst P [] a := by
  rintro ⟨before, after, hnil, -⟩
  cases before <;> cases hnil

/-- An element of the kind comes first where it stands in front. -/
theorem isFirst_cons_of_pos (hb : P b) : IsFirst P (b :: as) a ↔ a = b := by
  constructor
  · rintro ⟨before, after, hparts, hbefore, -⟩
    cases before with
    | nil => exact (List.cons.inj hparts).1.symm
    | cons c before =>
      obtain ⟨rfl, -⟩ := List.cons.inj hparts
      exact absurd hb (hbefore b List.mem_cons_self)
  · rintro rfl
    exact ⟨[], as, rfl, by simp, hb⟩

/-- An element of another kind in front makes no difference. -/
theorem isFirst_cons_of_neg (hb : ¬ P b) : IsFirst P (b :: as) a ↔ IsFirst P as a := by
  constructor
  · rintro ⟨before, after, hparts, hbefore, ha⟩
    cases before with
    | nil =>
      obtain ⟨rfl, -⟩ := List.cons.inj hparts
      exact absurd ha hb
    | cons c before =>
      obtain ⟨rfl, hrest⟩ := List.cons.inj hparts
      exact ⟨before, after, hrest, fun c hc => hbefore c (List.mem_cons_of_mem _ hc), ha⟩
  · rintro ⟨before, after, rfl, hbefore, ha⟩
    exact ⟨b :: before, after, rfl, List.forall_mem_cons.2 ⟨hb, hbefore⟩, ha⟩

/-- Where an element is of the kind, one is the first. By induction on the list. -/
theorem exists_isFirst_iff : (∃ a, IsFirst P as a) ↔ ∃ a ∈ as, P a := by
  constructor
  · rintro ⟨a, before, after, rfl, -, ha⟩
    exact ⟨a, by simp, ha⟩
  · rintro ⟨a, hmem, ha⟩
    induction as with
    | nil => cases hmem
    | cons b as ih =>
      by_cases hb : P b
      · exact ⟨b, (isFirst_cons_of_pos hb).2 rfl⟩
      · have hmem : a ∈ as := by
          refine (List.mem_cons.1 hmem).resolve_left ?_
          rintro rfl
          exact hb ha
        obtain ⟨first, hfirst⟩ := ih hmem
        exact ⟨first, (isFirst_cons_of_neg hb).2 hfirst⟩

end

end ProxyFilter
