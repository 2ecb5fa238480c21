import ProxyFilter.Html.Markup
import ProxyFilter.Proofs.Html.StartTag

/-!
# What is told of a stream is told of every longer one

`Markup.next` and `RawText.findEnd` look at the octets that have come so far. Here it is shown that
more octets never change what they tell. `Markup.next_append` says so of constructs: each of its
readers is `SelfDelimiting`, so a construct ends where it ended before, and one that was too long
already has only grown. `RawText.findEnd_append` says it of the contents of scripts and styles,
where only the octets that are kept have to be looked at again.
-/

namespace ProxyFilter.Html

/-! ## Constructs that pass through -/

/-- The octets `needle` occur in `before ++ needle` at its end only. -/
def FirstEndsAfter (needle before : Bytes) : Prop :=
  ∀ earlier, earlier ++ needle <+: before ++ needle → earlier = before

/-- Octets that a stream begins with occur there first. -/
theorem firstEndsAfter_nil (needle : Bytes) : FirstEndsAfter needle [] := by
  intro earlier h
  have hlen := h.length_le
  simp only [List.length_append, List.nil_append] at hlen
  exact List.eq_nil_of_length_eq_zero (by omega)

/-- One more octet in front moves a first occurrence, unless it makes an earlier one. -/
theorem firstEndsAfter_cons {needle before : Bytes} {x : UInt8}
    (hx : ¬ needle <+: x :: (before ++ needle)) :
    FirstEndsAfter needle (x :: before) ↔ FirstEndsAfter needle before := by
  constructor
  · intro h earlier hearlier
    have := h (x :: earlier) (by simpa using hearlier)
    exact (List.cons.inj this).2
  · intro h earlier hearlier
    cases earlier with
    | nil => exact absurd hearlier hx
    | cons y earlier =>
      obtain ⟨rfl, hrest⟩ := List.cons_prefix_cons.1 hearlier
      rw [h earlier hrest]

/-- A stream is cut after the first occurrence of some octets. -/
theorem splitAtFirst?_selfDelimiting {needle : Bytes} (hneedle : needle ≠ []) :
    SelfDelimiting [] (FirstEndsAfter needle) (· ++ needle) (Bytes.splitAtFirst? needle) := by
  intro b before rest
  simp only [List.nil_append]
  induction b generalizing before with
  | nil => simp [Bytes.splitAtFirst?, hneedle]
  | cons x b ih =>
    rw [Bytes.splitAtFirst?]
    by_cases hpre : needle <+: x :: b
    · rw [if_pos (List.isPrefixOf_iff_prefix.2 hpre)]
      obtain ⟨after, hafter⟩ := hpre
      constructor
      · intro h
        cases h
        exact ⟨firstEndsAfter_nil needle, by simp [← hafter]⟩
      · rintro ⟨hfirst, hb⟩
        have hpre : needle <+: before ++ needle :=
          List.prefix_of_prefix_length_le ⟨after, hafter⟩ ⟨rest, hb.symm⟩ (by simp)
        obtain rfl := hfirst [] hpre
        simp [hb]
    · rw [if_neg (by rwa [List.isPrefixOf_iff_prefix])]
      constructor
      · intro h
        obtain ⟨⟨before, rest'⟩, hb, heq⟩ := Option.map_eq_some_iff.1 h
        cases heq
        obtain ⟨hfirst, rfl⟩ := (ih before).1 hb
        refine ⟨(firstEndsAfter_cons fun h => hpre ?_).2 hfirst, by simp⟩
        exact h.trans (by simp)
      · rintro ⟨hfirst, hb⟩
        cases before with
        | nil => exact absurd ⟨rest, hb.symm⟩ hpre
        | cons y before =>
          obtain ⟨rfl, rfl⟩ := List.cons.inj hb
          have hfirst := (firstEndsAfter_cons fun h => hpre (h.trans (by simp))).1 hfirst
          rw [(ih before).2 ⟨hfirst, rfl⟩]
          rfl

/-- The octets of a construct that ends at its first `>` after `opening`. -/
def EndsAtGt (opening octets : Bytes) : Prop :=
  ∃ inside, octets = opening ++ (inside ++ [62]) ∧ ∀ y ∈ inside, (y == 62) = false

/-- The octets of a comment. -/
def IsComment (octets : Bytes) : Prop :=
  ∃ inside, octets = [60, 33] ++ (inside ++ [45, 45, 62]) ∧ FirstEndsAfter [45, 45, 62] inside

/-- Declarations and end tags end at the first `>`. -/
theorem throughGt?_selfDelimiting (opening : Bytes) :
    SelfDelimiting opening (EndsAtGt opening) id (Markup.throughGt? opening) := by
  intro b octets rest
  constructor
  · intro h
    simp only [Markup.throughGt?] at h
    split at h
    · cases h
    · next inside gt rest' hcut =>
      cases h
      obtain ⟨rfl, hinside, hgt⟩ := splitWhen_eq_cons_iff.1 hcut
      obtain rfl : gt = 62 := by simpa using hgt
      exact ⟨⟨inside, by simp, hinside⟩, by simp⟩
  · rintro ⟨⟨inside, rfl, hinside⟩, hb⟩
    obtain rfl : b = inside ++ 62 :: rest := by simpa using hb
    have hcut := splitWhen_append_cons (x := 62) (v := rest) hinside rfl
    simp [Markup.throughGt?, hcut]

/-- Comments end at the first `-->`, which may share its dashes with the beginning. -/
theorem throughCommentEnd?_selfDelimiting :
    SelfDelimiting [60, 33] IsComment id Markup.throughCommentEnd? := by
  intro b octets rest
  have hne : ([45, 45, 62] : Bytes) ≠ [] := by simp
  have hcut := splitAtFirst?_selfDelimiting hne
  constructor
  · intro h
    obtain ⟨⟨inside, rest'⟩, hinside, heq⟩ := Option.map_eq_some_iff.1 h
    cases heq
    obtain ⟨hfirst, hb⟩ := (hcut b inside rest).1 hinside
    exact ⟨⟨inside, by simp, hfirst⟩, by simpa using hb⟩
  · rintro ⟨⟨inside, rfl, hfirst⟩, hb⟩
    have hb : [] ++ b = inside ++ [45, 45, 62] ++ rest := by simpa using hb
    rw [Markup.throughCommentEnd?, (hcut b inside rest).2 ⟨hfirst, hb⟩]
    simp

/-! ## Constructs -/

/-- What a stream begins with, when more octets come at its end. -/
def Markup.extend (more : Bytes) : Markup → Markup
  | .undecided => .undecided
  | .verbatim octets rest => .verbatim octets (rest ++ more)
  | .startTag tag rest => .startTag tag (rest ++ more)

namespace Markup

/-- What is told by a reader within a limit: the construct it reads, if it reads one. -/
def toldBy {α : Type} (limit : Nat) (source : α → Bytes) (construct : α → Bytes → Markup)
    (b : Bytes) : Option (α × Bytes) → Except StreamError Markup
  | some (a, rest) => within limit (source a) (construct a rest)
  | none => within limit b .undecided

/-- What a self-delimiting reader tells of a stream, be it that a construct is too long, it tells
of every longer one. -/
theorem toldBy_append {α : Type} {limit : Nat} {opening b more : Bytes} {good : α → Prop}
    {source : α → Bytes} {construct : α → Bytes → Markup} {f : Bytes → Option (α × Bytes)}
    (hf : SelfDelimiting opening good source f)
    (hextend : ∀ a rest, (construct a rest).extend more = construct a (rest ++ more))
    (h : toldBy limit source construct (opening ++ b) (f b) ≠ .ok .undecided) :
    toldBy limit source construct (opening ++ b ++ more) (f (b ++ more)) =
      (toldBy limit source construct (opening ++ b) (f b)).map (extend more) := by
  cases hb : f b with
  | some found =>
    obtain ⟨a, rest⟩ := found
    rw [hf.append hb more]
    simp only [toldBy, within]
    split
    · rfl
    · simp only [Except.map, hextend]
  | none =>
    have hlong : limit < (opening ++ b).length := by
      by_contra hle
      exact h (by rw [hb, toldBy, within, if_neg hle])
    have hlonger : (opening ++ b).length ≤ (opening ++ b ++ more).length := by simp
    have hfail :
        toldBy limit source construct (opening ++ b) none = .error (.tagTooLong limit) := by
      rw [toldBy, within, if_pos hlong]
    rw [hfail]
    cases hmore : f (b ++ more) with
    | none =>
      rw [toldBy, within, if_pos (by omega)]
      rfl
    | some found =>
      obtain ⟨a, rest⟩ := found
      have := hf.longer hb hmore
      rw [toldBy, within, if_pos (by omega)]
      rfl

/-- Where at least two octets follow `<!`, or one that is no dash, it is settled whether a comment
begins there. -/
theorem isPrefixOf_dashes_append {rest : Bytes} (more : Bytes)
    (h : ¬ (rest = [] ∨ rest = [45])) :
    [45, 45].isPrefixOf (rest ++ more) = [45, 45].isPrefixOf rest ∧
      ¬ (rest ++ more = [] ∨ rest ++ more = [45]) := by
  match rest with
  | [] => exact absurd (.inl rfl) h
  | [y] =>
    have hy : y ≠ 45 := by
      rintro rfl
      exact h (.inr rfl)
    simp [List.isPrefixOf, hy, Ne.symm hy]
  | y :: z :: w => simp [List.isPrefixOf]

/-- Declarations, end tags and comments are told of by their readers. -/
theorem passThrough_eq_toldBy (limit : Nat) (b : Bytes) (cut : Option (Bytes × Bytes)) :
    passThrough limit b cut = toldBy limit id verbatim b cut := by
  cases cut <;> rfl

/-- A start tag is told of by its reader. -/
theorem next_of_isAlpha (limit : Nat) {x : UInt8} (hx : Byte.isAlpha x = true) (rest : Bytes) :
    next limit (60 :: x :: rest) =
      toldBy limit StartTag.source startTag (60 :: x :: rest) (StartTag.parse? (x :: rest)) := by
  have hne : ∀ y, Byte.isAlpha y = false → x ≠ y := by
    rintro y hy rfl
    rw [hx] at hy
    cases hy
  simp only [next, hx, hne 33 rfl, hne 63 rfl, hne 47 rfl, if_true, if_false]
  cases StartTag.parse? (x :: rest) <;> rfl

/-- What is told of a declaration or an end tag is told of every longer stream. -/
theorem throughGt?_append {limit : Nat} {x : UInt8} {rest : Bytes} (more : Bytes)
    (h : passThrough limit (60 :: x :: rest) (throughGt? [60, x] rest) ≠ .ok .undecided) :
    passThrough limit (60 :: x :: (rest ++ more)) (throughGt? [60, x] (rest ++ more)) =
      (passThrough limit (60 :: x :: rest) (throughGt? [60, x] rest)).map (extend more) := by
  rw [passThrough_eq_toldBy, passThrough_eq_toldBy] at *
  exact toldBy_append (throughGt?_selfDelimiting [60, x]) (fun _ _ => rfl) h

/-- **What is told of a stream is told of every longer one**: the construct it begins with, or that
it is too long. -/
theorem next_append {limit : Nat} {b : Bytes} (more : Bytes)
    (h : next limit (60 :: b) ≠ .ok .undecided) :
    next limit (60 :: (b ++ more)) = (next limit (60 :: b)).map (extend more) := by
  cases b with
  | nil => exact absurd rfl h
  | cons x rest =>
    by_cases hx : Byte.isAlpha x = true
    · rw [List.cons_append, next_of_isAlpha limit hx, next_of_isAlpha limit hx] at *
      exact toldBy_append (b := x :: rest) StartTag.parse?_selfDelimiting (fun _ _ => rfl) h
    simp only [List.cons_append, next, hx] at h ⊢
    split at h
    · next h33 =>
      subst h33
      split at h
      · exact absurd rfl h
      · next hdash =>
        obtain ⟨hbegin, hdash'⟩ := isPrefixOf_dashes_append more hdash
        simp only [hbegin, hdash, hdash', if_false, if_true]
        split at h
        · next hcomment =>
          simp only [hcomment, if_true]
          rw [passThrough_eq_toldBy, passThrough_eq_toldBy] at *
          exact toldBy_append throughCommentEnd?_selfDelimiting (fun _ _ => rfl) h
        · next hcomment =>
          simp only [hcomment]
          exact throughGt?_append more h
    · next h33 =>
      simp only [h33, if_false]
      split at h
      · next h63 =>
        subst h63
        exact throughGt?_append more h
      · next h63 =>
        simp only [h63, if_false]
        split at h
        · next h47 =>
          subst h47
          cases rest with
          | nil => exact absurd rfl h
          | cons y rest =>
            simp only [List.cons_append] at h ⊢
            by_cases hy : Byte.isAlpha y = true
            · simp only [hy, if_true] at h ⊢
              exact throughGt?_append more h
            · simp only [hy, if_true]
              rfl
        · next h47 =>
          simp only [h47]
          rfl

/-- A construct that is told of within the limit was read. -/
theorem toldBy_eq_ok {α : Type} {limit : Nat} {source : α → Bytes}
    {construct : α → Bytes → Markup} {b : Bytes} {cut : Option (α × Bytes)} {m : Markup}
    (h : toldBy limit source construct b cut = .ok m) (hm : m ≠ .undecided) :
    ∃ a rest, cut = some (a, rest) ∧ m = construct a rest ∧ (source a).length ≤ limit := by
  cases cut with
  | none =>
    simp only [toldBy, within] at h
    split at h
    · cases h
    · cases h
      exact absurd rfl hm
  | some found =>
    obtain ⟨a, rest⟩ := found
    simp only [toldBy, within] at h
    split at h
    · cases h
    · next hle =>
      cases h
      exact ⟨a, rest, rfl, rfl, by omega⟩

/-- What passes through a declaration or an end tag is the whole of it. -/
theorem eq_of_throughGt? {limit : Nat} {x : UInt8} {rest : Bytes} {m : Markup}
    (h : passThrough limit (60 :: x :: rest) (throughGt? [60, x] rest) = .ok m)
    (hm : m ≠ .undecided) :
    ∃ octets rest', m = .verbatim octets rest' ∧ octets ≠ [] ∧
      60 :: x :: rest = octets ++ rest' := by
  rw [passThrough_eq_toldBy] at h
  obtain ⟨octets, rest', hcut, rfl, -⟩ := toldBy_eq_ok h hm
  obtain ⟨⟨inside, rfl, -⟩, hb⟩ := (throughGt?_selfDelimiting [60, x] _ _ _).1 hcut
  exact ⟨_, rest', rfl, by simp, hb⟩

/-- What is told of a stream that begins with `<`: a well-formed start tag within the limit, or
some octets that pass through; with the rest they make up the stream. -/
theorem next_eq_ok {limit : Nat} {b : Bytes} {m : Markup} (h : next limit (60 :: b) = .ok m)
    (hm : m ≠ .undecided) :
    (∃ tag rest, m = .startTag tag rest ∧ tag.WellFormed ∧ tag.source.length ≤ limit ∧
      60 :: b = tag.source ++ rest) ∨
    ∃ octets rest, m = .verbatim octets rest ∧ octets ≠ [] ∧ 60 :: b = octets ++ rest := by
  cases b with
  | nil => exact absurd (Except.ok.inj h).symm hm
  | cons x rest =>
    by_cases hx : Byte.isAlpha x = true
    · rw [next_of_isAlpha limit hx] at h
      obtain ⟨tag, rest', hcut, rfl, hle⟩ := toldBy_eq_ok h hm
      obtain ⟨hwf, hb⟩ := (StartTag.parse?_selfDelimiting _ _ _).1 hcut
      exact .inl ⟨tag, rest', rfl, hwf, hle, hb⟩
    right
    simp only [next, hx] at h
    split at h
    · next h33 =>
      subst h33
      split at h
      · exact absurd (Except.ok.inj h).symm hm
      · split at h
        · rw [passThrough_eq_toldBy] at h
          obtain ⟨octets, rest', hcut, rfl, -⟩ := toldBy_eq_ok h hm
          obtain ⟨⟨inside, rfl, -⟩, hb⟩ := (throughCommentEnd?_selfDelimiting _ _ _).1 hcut
          exact ⟨_, rest', rfl, by simp, hb⟩
        · exact eq_of_throughGt? h hm
    · split at h
      · exact eq_of_throughGt? h hm
      · split at h
        · next h47 =>
          subst h47
          cases rest with
          | nil => exact absurd (Except.ok.inj h).symm hm
          | cons y rest =>
            by_cases hy : Byte.isAlpha y = true
            · simp only [hy, if_true] at h
              exact eq_of_throughGt? h hm
            · simp only [hy] at h
              cases h
              exact ⟨[60], _, rfl, by simp, rfl⟩
        · cases h
          exact ⟨[60], _, rfl, by simp, rfl⟩

end Markup

/-! ## Scripts and styles -/

namespace RawText

/-- All octets of raw text, cut or not. -/
def End.octets : End → Bytes
  | .found before rest | .pending before rest => before ++ rest

/-- One more octet stands in front of the others. -/
theorem End.octets_cons (b : UInt8) (e : End) : (e.cons b).octets = b :: e.octets := by
  cases e <;> rfl

/-- More octets of raw text before its end. -/
def End.after (before : Bytes) (e : End) : End := before.foldr End.cons e

/-- No octets before the end change nothing. -/
@[simp] theorem End.after_nil (e : End) : e.after [] = e := rfl

/-- The first octet before an end. -/
@[simp] theorem End.after_cons (b : UInt8) (before : Bytes) (e : End) :
    e.after (b :: before) = (e.after before).cons b := rfl

/-- Octets in front of a found end. -/
theorem End.after_found (before u rest : Bytes) :
    (End.found u rest).after before = .found (before ++ u) rest := by
  induction before with
  | nil => rfl
  | cons b before ih => rw [End.after_cons, ih]; rfl

/-- Octets in front of an end that may come. -/
theorem End.after_pending (before u rest : Bytes) :
    (End.pending u rest).after before = .pending (before ++ u) rest := by
  induction before with
  | nil => rfl
  | cons b before ih => rw [End.after_cons, ih]; rfl

section
variable {closing b : Bytes}

/-- All octets at hand begin the end tag, letter case ignored. -/
theorem mayBecome_iff :
    mayBecome closing b = true ↔ b.map Byte.lower <+: closing.map Byte.lower := by
  simp only [mayBecome, Bytes.sameName, beq_iff_eq]
  constructor
  · intro h
    have hlen := congrArg List.length h
    simp only [List.length_map, List.length_take] at hlen
    rw [List.take_of_length_le (by omega), List.map_take] at h
    exact h ▸ List.take_prefix _ _
  · intro h
    have hlen := h.length_le
    simp only [List.length_map] at hlen
    rw [List.take_of_length_le (by omega), List.map_take]
    simpa using List.prefix_iff_eq_take.1 h

/-- The octets begin with the end tag, letter case ignored, and an octet that ends its name. -/
theorem beginsWithEndTag_iff : beginsWithEndTag closing b = true ↔
    ∃ name x rest, b = name ++ x :: rest ∧ name.map Byte.lower = closing.map Byte.lower ∧
      endsClosing x = true := by
  simp only [beginsWithEndTag, Bytes.startsWithName, Bytes.sameName, Bool.and_eq_true,
    beq_iff_eq]
  constructor
  · rintro ⟨hname, hends⟩
    obtain ⟨x, hx, hends⟩ := (Option.any_eq_true _ _).1 hends
    obtain ⟨rest, hrest⟩ := List.head?_eq_some_iff.1 hx
    refine ⟨b.take closing.length, x, rest, ?_, hname.symm, hends⟩
    rw [← hrest, List.take_append_drop]
  · rintro ⟨name, x, rest, rfl, hname, hends⟩
    have hlen : name.length = closing.length := by
      simpa using congrArg List.length hname
    simp [← hlen, hname, hends]

/-- Octets that cannot become the end tag stay so when more come. -/
theorem mayBecome_append (more : Bytes) (h : mayBecome closing b = false) :
    mayBecome closing (b ++ more) = false := by
  rw [Bool.eq_false_iff, ne_eq, mayBecome_iff] at h ⊢
  rw [List.map_append]
  exact fun hmore => h ((List.prefix_append _ _).trans hmore)

/-- Whether octets that cannot become the end tag begin with it does not change when more come. -/
theorem beginsWithEndTag_append (more : Bytes) (h : mayBecome closing b = false) :
    beginsWithEndTag closing (b ++ more) = beginsWithEndTag closing b := by
  rw [Bool.eq_iff_iff, beginsWithEndTag_iff, beginsWithEndTag_iff]
  constructor
  · rintro ⟨name, x, rest, hb, hname, hx⟩
    rcases List.append_eq_append_iff.1 hb with ⟨left, rfl, -⟩ | ⟨left, rfl, hleft⟩
    · refine absurd (mayBecome_iff.2 ?_) (Bool.eq_false_iff.1 h)
      rw [← hname, List.map_append]
      exact List.prefix_append _ _
    · cases left with
      | nil =>
        refine absurd (mayBecome_iff.2 ?_) (Bool.eq_false_iff.1 h)
        rw [List.append_nil]
        exact hname ▸ List.prefix_rfl
      | cons y left =>
        obtain ⟨rfl, -⟩ := List.cons.inj hleft
        exact ⟨name, x, left, rfl, hname, hx⟩
  · rintro ⟨name, x, rest, rfl, hname, hx⟩
    exact ⟨name, x, rest ++ more, by simp, hname, hx⟩

end

/-- **Where raw text ends is settled once it is found, and octets before a possible end tag are
settled too**: with more octets only those from there on have to be looked at. -/
theorem findEnd_append (closing b more : Bytes) : findEnd closing (b ++ more) =
    match findEnd closing b with
    | .found before rest => .found before (rest ++ more)
    | .pending before rest => (findEnd closing (rest ++ more)).after before := by
  induction b with
  | nil => rfl
  | cons x b ih =>
    by_cases hmay : mayBecome closing (x :: b) = true
    · simp [findEnd, hmay]
    · have hmay := Bool.eq_false_iff.2 hmay
      have hmore := mayBecome_append more hmay
      have hbegins := beginsWithEndTag_append more hmay
      rw [List.cons_append] at hmore hbegins ⊢
      simp only [findEnd, hmay, hmore, hbegins]
      by_cases hend : beginsWithEndTag closing (x :: b) = true
      · simp [hend]
      · simp only [hend, ih]
        cases findEnd closing b <;> rfl

/-- What raw text is cut into makes up the whole. -/
theorem findEnd_octets (closing b : Bytes) : (findEnd closing b).octets = b := by
  induction b with
  | nil => rfl
  | cons x b ih =>
    simp only [findEnd]
    split
    · rfl
    · split
      · rfl
      · rw [End.octets_cons, ih]

end RawText

end ProxyFilter.Html
