import ProxyFilter.Html.Editor
import ProxyFilter.Proofs.Html.Markup

/-!
# The pieces of a body

`Cut` says how a body falls into pieces, without a word on how it is scanned: runs of text,
constructs that pass through (comments, declarations and end tags), start tags, the contents of
scripts and styles, and a construct that the body leaves unfinished. Every body is cut
(`exists_cut`), and in one way only (`Cut.unique`), so one may speak of the pieces of a body. What
ties the pieces to the scanner is what `Markup.next` and `RawText.findEnd` tell at each of them
(`Markup.next_of_construct`, `Markup.next_of_startTag`, `Markup.next_of_unfinished`,
`RawText.findEnd_of_contents`), and that it takes a start tag for the beginning of a script or style
just where the tag is one (`Piece.modeAfter_startTag`).
-/

namespace ProxyFilter.Html

/-! ## The pieces -/

/-- A piece of a body. -/
inductive Piece
  /-- A run of text. -/
  | text (octets : Bytes)
  /-- A comment, a declaration or an end tag. -/
  | construct (octets : Bytes)
  /-- A start tag. -/
  | startTag (tag : StartTag)
  /-- The contents of a script or style. -/
  | contents (octets : Bytes)
  /-- A construct without an end. -/
  | unfinished (octets : Bytes)
  deriving DecidableEq, Repr

/-- The octets of a piece. -/
def Piece.source : Piece → Bytes
  | text octets | construct octets | contents octets | unfinished octets => octets
  | startTag tag => tag.source

/-- What follows a `<` shows that no markup begins there. -/
def OpensNothing : Bytes → Prop
  | [] => False
  | x :: rest => x ≠ 33 ∧ x ≠ 63 ∧ Byte.isAlpha x = false ∧
      (x = 47 → ∃ y more, rest = y :: more ∧ Byte.isAlpha y = false)

/-- A run of text in front of `rest`: octets up to the next `<`, or a `<` that opens nothing. -/
def IsText (octets rest : Bytes) : Prop :=
  (octets ≠ [] ∧ (∀ y ∈ octets, y ≠ 60) ∧ ∀ x more, rest = x :: more → x = 60) ∨
    octets = [60] ∧ OpensNothing rest

/-- A comment, a declaration of either kind, or an end tag, up to the octet that ends it. -/
inductive IsConstruct (octets : Bytes) : Prop
  | comment (begins : [60, 33, 45, 45] <+: octets) (comment : IsComment octets)
  | declaration (begins : ¬ [60, 33, 45, 45] <+: octets) (ends : EndsAtGt [60, 33] octets)
  | instruction (ends : EndsAtGt [60, 63] octets)
  | endTag {x : UInt8} (letter : Byte.isAlpha x = true) (begins : [60, 47, x] <+: octets)
      (ends : EndsAtGt [60, 47] octets)

/-- A start tag as it stands in a body: its name begins with a letter. -/
structure StartTag.IsNamed (tag : StartTag) : Prop where
  wellFormed : tag.WellFormed
  letter : ∃ x more, tag.name = x :: more ∧ Byte.isAlpha x = true

/-- A construct that has no end: a `<` that may open something, and nothing that it opens is
complete. -/
structure IsUnfinished (octets : Bytes) : Prop where
  opens : ∃ rest, octets = 60 :: rest ∧ ¬ OpensNothing rest
  construct : ∀ read, read <+: octets → ¬ IsConstruct read
  startTag : ∀ tag : StartTag, tag.IsNamed → ¬ tag.source <+: octets

/-- The end tag of a script or style begins here, letter case ignored. -/
def RawText.EndsBefore (kind : RawText) (rest : Bytes) : Prop :=
  ∃ name x more, rest = name ++ x :: more ∧ Bytes.sameName name kind.closing = true ∧
    endsClosing x = true

/-- The contents of a script or style in front of `rest`: up to its first end tag, or all that is
left if it has none. -/
structure RawText.IsContents (kind : RawText) (octets rest : Bytes) : Prop where
  ends : rest = [] ∨ kind.EndsBefore rest
  first : ∀ before after, octets = before ++ after → after ≠ [] → ¬ kind.EndsBefore (after ++ rest)

/-- The piece stands in front of `rest`, where text and markup are read. -/
def Piece.StandsBefore (rest : Bytes) : Piece → Prop
  | text octets => IsText octets rest
  | construct octets => IsConstruct octets
  | startTag tag => tag.IsNamed
  | unfinished octets => IsUnfinished octets ∧ rest = []
  | contents _ => False

/-- The name of the element. -/
def RawText.elementName : RawText → String
  | script => "script"
  | style => "style"

/-- The start tag opens a script or style: it goes by that name, letter case ignored, and does not
close itself. -/
def StartTag.Opens (tag : StartTag) (kind : RawText) : Prop :=
  tag.selfClosing = false ∧ Bytes.sameName tag.name (Utf8.encode kind.elementName) = true

instance (tag : StartTag) (kind : RawText) : Decidable (tag.Opens kind) :=
  inferInstanceAs (Decidable (_ ∧ _))

/-- How the octets after a piece are read: as contents after a tag that opens a script or style. -/
def Piece.modeAfter : Piece → Mode
  | startTag tag =>
    if tag.Opens .script then .raw .script
    else if tag.Opens .style then .raw .style
    else .data
  | _ => .data

/-- A start tag is taken for the beginning of a script or style just where it opens one. -/
theorem Piece.modeAfter_startTag (tag : StartTag) :
    (startTag tag).modeAfter = Html.modeAfter tag := by
  cases hclosing : tag.selfClosing with
  | true => simp [modeAfter, Html.modeAfter, StartTag.Opens, hclosing]
  | false =>
    simp only [modeAfter, Html.modeAfter, StartTag.Opens, hclosing, RawText.ofName?,
      RawText.elementName, true_and, Bool.false_eq_true, if_false]
    split
    · rfl
    · split <;> rfl

/-- A body, read in a mode, and the pieces that it falls into. -/
inductive Cut : Mode → Bytes → List Piece → Prop
  | done : Cut .data [] []
  | markup {p : Piece} {rest : Bytes} {pieces : List Piece} : p.StandsBefore rest →
      Cut p.modeAfter rest pieces → Cut .data (p.source ++ rest) (p :: pieces)
  | contents {kind : RawText} {octets rest : Bytes} {pieces : List Piece} :
      kind.IsContents octets rest → Cut .data rest pieces →
      Cut (.raw kind) (octets ++ rest) (.contents octets :: pieces)

/-- The pieces of a body make it up. -/
theorem Cut.flatMap_source {mode : Mode} {body : Bytes} {pieces : List Piece}
    (h : Cut mode body pieces) : pieces.flatMap Piece.source = body := by
  induction h with
  | done => rfl
  | markup _ _ ih => rw [List.flatMap_cons, ih]
  | contents _ _ ih =>
    rw [List.flatMap_cons, ih]
    rfl

/-! ## What is told of the pieces -/

namespace Markup
variable {limit : Nat} {octets rest : Bytes} {x : UInt8}

/-- A comment is told of by the reader for comments. -/
theorem next_of_dashes : next limit (60 :: 33 :: 45 :: 45 :: rest) =
    passThrough limit (60 :: 33 :: 45 :: 45 :: rest) (throughCommentEnd? (45 :: 45 :: rest)) := by
  simp [next, List.isPrefixOf]

/-- A declaration is told of by the reader up to `>`, once it is clear that it is no comment. -/
theorem next_of_noDashes (hdash : ¬ (rest = [] ∨ rest = [45])) (hopen : ¬ [45, 45] <+: rest) :
    next limit (60 :: 33 :: rest) = passThrough limit (60 :: 33 :: rest)
      (throughGt? [60, 33] rest) := by
  have hopen' : [45, 45].isPrefixOf rest = false := by
    rwa [Bool.eq_false_iff, ne_eq, List.isPrefixOf_iff_prefix]
  simp only [next, hdash, hopen', if_true, if_false, Bool.false_eq_true]

/-- A declaration of the other kind is told of by the reader up to `>`. -/
theorem next_of_question : next limit (60 :: 63 :: rest) =
    passThrough limit (60 :: 63 :: rest) (throughGt? [60, 63] rest) := by
  simp [next]

/-- An end tag is told of by the reader up to `>`. -/
theorem next_of_slash (hx : Byte.isAlpha x = true) : next limit (60 :: 47 :: x :: rest) =
    passThrough limit (60 :: 47 :: x :: rest) (throughGt? [60, 47] (x :: rest)) := by
  simp [next, hx]

/-- A construct up to a `>` is read as such. -/
theorem throughGt?_of_endsAtGt {opening b : Bytes} (h : EndsAtGt opening octets)
    (hb : opening ++ b = octets ++ rest) : throughGt? opening b = some (octets, rest) :=
  (throughGt?_selfDelimiting opening b octets rest).2 ⟨h, hb⟩

/-- A construct is told of as such, within the limit. -/
theorem next_of_construct (h : IsConstruct octets) (rest : Bytes) :
    next limit (octets ++ rest) = within limit octets (.verbatim octets rest) := by
  cases h with
  | comment hbegins hcomment =>
    obtain ⟨more, rfl⟩ := hbegins
    have hcut := (throughCommentEnd?_selfDelimiting (45 :: 45 :: (more ++ rest)) _ rest).2
      ⟨hcomment, rfl⟩
    exact next_of_dashes.trans (congrArg _ hcut)
  | declaration hbegins hends =>
    obtain ⟨inside, rfl, -⟩ := id hends
    have hdash : ¬ (inside ++ 62 :: rest = [] ∨ inside ++ 62 :: rest = [45]) := by
      cases inside <;> simp
    have hopen : ¬ [45, 45] <+: inside ++ 62 :: rest := by
      intro hpre
      match inside with
      | [] => simp at hpre
      | [y] => simp at hpre
      | y :: z :: inside =>
        simp only [List.cons_append, List.cons_prefix_cons] at hpre
        obtain ⟨rfl, rfl, -⟩ := hpre
        exact hbegins ⟨inside ++ [62], rfl⟩
    have hcut : throughGt? [60, 33] (inside ++ 62 :: rest) = some (_, rest) :=
      throughGt?_of_endsAtGt hends (by simp)
    have hnext : next limit (60 :: 33 :: (inside ++ 62 :: rest)) = _ :=
      (next_of_noDashes hdash hopen).trans (congrArg _ hcut)
    simpa [passThrough] using hnext
  | instruction hends =>
    obtain ⟨inside, rfl, -⟩ := id hends
    have hcut : throughGt? [60, 63] (inside ++ 62 :: rest) = some (_, rest) :=
      throughGt?_of_endsAtGt hends (by simp)
    have hnext : next limit (60 :: 63 :: (inside ++ 62 :: rest)) = _ :=
      next_of_question.trans (congrArg _ hcut)
    simpa [passThrough] using hnext
  | @endTag x hletter hbegins hends =>
    obtain ⟨more, rfl⟩ := hbegins
    have hcut : throughGt? [60, 47] (x :: (more ++ rest)) = some (_, rest) :=
      throughGt?_of_endsAtGt hends rfl
    exact (next_of_slash hletter).trans (congrArg _ hcut)

/-- A start tag is told of as such, within the limit. -/
theorem next_of_startTag {tag : StartTag} (h : tag.IsNamed) (rest : Bytes) :
    next limit (tag.source ++ rest) = within limit tag.source (.startTag tag rest) := by
  obtain ⟨x, more, hname, hletter⟩ := h.letter
  have hsource : tag.source ++ rest = 60 :: x :: (more ++ (tag.tail.source ++ rest)) := by
    rw [StartTag.source_eq, hname]
    simp
  have hcut := (StartTag.parse?_selfDelimiting (x :: (more ++ (tag.tail.source ++ rest))) tag
    rest).2 ⟨h.wellFormed, hsource.symm⟩
  rw [hsource, next_of_isAlpha limit hletter, hcut]
  rfl

/-- A `<` that opens nothing passes through alone. -/
theorem next_of_opensNothing (h : OpensNothing rest) :
    next limit (60 :: rest) = .ok (.verbatim [60] rest) := by
  cases rest with
  | nil => cases h
  | cons x rest =>
    obtain ⟨h33, h63, hletter, hslash⟩ := h
    by_cases h47 : x = 47
    · obtain ⟨y, more, rfl, hy⟩ := hslash h47
      simp [next, h47, hy]
    · simp [next, h33, h63, h47, hletter]

/-- A reader that finds no end tells nothing, or that the construct is too long. -/
theorem passThrough_none (limit : Nat) (b : Bytes) :
    passThrough limit b none = .ok .undecided ∨
      limit < b.length ∧ passThrough limit b none = .error (.tagTooLong limit) := by
  simp only [passThrough, within]
  split
  · next hlong => exact .inr ⟨hlong, rfl⟩
  · exact .inl rfl

end Markup

/-- No letter ends the name of an element. -/
theorem endsElementName_of_isAlpha {x : UInt8} (hx : Byte.isAlpha x = true) :
    endsElementName x = false := by
  rw [Bool.eq_false_iff]
  intro h
  simp only [endsElementName, Byte.isSpace, Bool.or_eq_true, beq_iff_eq] at h
  rcases h with (((((rfl | rfl) | rfl) | rfl) | rfl) | rfl) | rfl <;> exact absurd hx (by decide)

/-- A tag that a `<` and a letter begin is one with a name. -/
theorem StartTag.WellFormed.isNamed {tag : StartTag} {x : UInt8} {b rest : Bytes}
    (h : tag.WellFormed) (hx : Byte.isAlpha x = true) (hb : 60 :: x :: b = tag.source ++ rest) :
    tag.IsNamed := by
  refine ⟨h, ?_⟩
  rw [StartTag.source_eq] at hb
  cases hname : tag.name with
  | cons y more =>
    rw [hname] at hb
    obtain ⟨rfl, -⟩ := List.cons.inj (List.cons.inj hb).2
    exact ⟨x, more, rfl, hx⟩
  | nil =>
    -- The name would end before the letter, at an octet that is no letter.
    obtain ⟨y, more, hmore, hy⟩ := h.boundary
    rw [hname, hmore] at hb
    obtain ⟨rfl, -⟩ := List.cons.inj (List.cons.inj hb).2
    rw [endsElementName_of_isAlpha hx] at hy
    cases hy

namespace IsUnfinished
variable {b : Bytes} {x : UInt8}

/-- A letter after the `<` begins no start tag that ends. -/
theorem parse?_eq_none (h : IsUnfinished (60 :: x :: b)) (hx : Byte.isAlpha x = true) :
    StartTag.parse? (x :: b) = none := by
  refine StartTag.parse?_selfDelimiting.eq_none fun tag hwf hread => ?_
  obtain ⟨rest, hrest⟩ := id hread
  exact h.startTag tag (hwf.isNamed hx hrest.symm) hread

/-- Two dashes after `<!` begin no comment that ends. -/
theorem throughCommentEnd?_eq_none (h : IsUnfinished (60 :: 33 :: 45 :: 45 :: b)) :
    Markup.throughCommentEnd? (45 :: 45 :: b) = none := by
  refine throughCommentEnd?_selfDelimiting.eq_none fun read hcomment hread => ?_
  have hlen : 4 ≤ read.length := by
    obtain ⟨inside, rfl, -⟩ := hcomment
    simp
  have hbegins : [60, 33, 45, 45] <+: read :=
    List.prefix_of_prefix_length_le ⟨b, rfl⟩ hread hlen
  exact h.construct read hread (.comment hbegins hcomment)

/-- No construct up to a `>` ends. -/
theorem throughGt?_eq_none {opening : Bytes} (h : IsUnfinished (opening ++ b))
    (hkind : ∀ read, read <+: opening ++ b → EndsAtGt opening read → IsConstruct read) :
    Markup.throughGt? opening b = none :=
  (throughGt?_selfDelimiting opening).eq_none fun read hends hread =>
    h.construct read hread (hkind read hread hends)

end IsUnfinished

/-- Of a construct without an end nothing is told, or that it is too long. -/
theorem Markup.next_of_unfinished (limit : Nat) {octets : Bytes} (h : IsUnfinished octets) :
    next limit octets = .ok .undecided ∨
      limit < octets.length ∧ next limit octets = .error (.tagTooLong limit) := by
  obtain ⟨b, rfl, hopens⟩ := h.opens
  cases b with
  | nil => exact .inl rfl
  | cons x rest =>
    by_cases hletter : Byte.isAlpha x = true
    · rw [next_of_isAlpha limit hletter, h.parse?_eq_none hletter]
      exact passThrough_none limit _
    by_cases h33 : x = 33
    · subst h33
      by_cases hdash : rest = [] ∨ rest = [45]
      · rcases hdash with rfl | rfl <;> exact .inl rfl
      by_cases hopen : [45, 45] <+: rest
      · obtain ⟨more, rfl⟩ := hopen
        have hnext : next limit (60 :: 33 :: 45 :: 45 :: more) = _ :=
          next_of_dashes.trans (congrArg _ h.throughCommentEnd?_eq_none)
        exact hnext ▸ passThrough_none limit _
      · rw [next_of_noDashes hdash hopen,
          IsUnfinished.throughGt?_eq_none (b := rest) h fun read hread hends => ?_]
        · exact passThrough_none limit _
        · refine .declaration (fun hbegins => hopen ?_) hends
          simpa using hbegins.trans hread
    by_cases h63 : x = 63
    · subst h63
      rw [next_of_question,
        IsUnfinished.throughGt?_eq_none (b := rest) h fun _ _ hends => .instruction hends]
      exact passThrough_none limit _
    · obtain ⟨rfl, hrest⟩ : x = 47 ∧ ∀ y more, rest = y :: more → Byte.isAlpha y = true := by
        simpa [OpensNothing, h33, h63, hletter] using hopens
      cases rest with
      | nil => exact .inl rfl
      | cons y more =>
        have hy := hrest y more rfl
        rw [next_of_slash hy,
          IsUnfinished.throughGt?_eq_none (b := y :: more) h fun read hread hends => ?_]
        · exact passThrough_none limit _
        · have hlen : 3 ≤ read.length := by
            obtain ⟨inside, rfl, -⟩ := id hends
            simp
          have hbegins : [60, 47, y] <+: read :=
            List.prefix_of_prefix_length_le ⟨more, rfl⟩ hread hlen
          exact .endTag hy hbegins hends

namespace RawText
variable {kind : RawText} {octets rest : Bytes}

/-- Where the end tag begins is what the scanner looks for. -/
theorem endsBefore_iff : kind.EndsBefore rest ↔ beginsWithEndTag kind.closing rest = true := by
  simp only [EndsBefore, beginsWithEndTag_iff, Bytes.sameName, beq_iff_eq]

/-- Octets that an end tag follows are not only a beginning of it. -/
theorem mayBecome_of_endsBefore (before : Bytes) (h : kind.EndsBefore rest) :
    mayBecome kind.closing (before ++ rest) = false := by
  obtain ⟨name, x, more, rfl, hname, -⟩ := h
  rw [Bool.eq_false_iff, ne_eq, mayBecome_iff]
  intro hpre
  have hle := hpre.length_le
  have hlen : name.length = kind.closing.length := by
    simpa using congrArg List.length (beq_iff_eq.1 hname)
  simp only [List.length_map, List.length_append, List.length_cons] at hle
  omega

/-- Contents without their first octet are contents. -/
theorem IsContents.tail {y : UInt8} (h : kind.IsContents (y :: octets) rest) :
    kind.IsContents octets rest where
  ends := h.ends
  first before after hparts := h.first (y :: before) after (congrArg (y :: ·) hparts)

/-- The end of contents is found, or they go on to the end of the stream. By induction on the
contents. -/
theorem findEnd_of_contents (h : kind.IsContents octets rest) :
    findEnd kind.closing (octets ++ rest) = .found octets rest ∨
      rest = [] ∧ ∃ before kept, octets = before ++ kept ∧
        findEnd kind.closing octets = .pending before kept := by
  induction octets with
  | nil =>
    rcases h.ends with rfl | hends
    · exact .inr ⟨rfl, [], [], rfl, rfl⟩
    · have hmay := mayBecome_of_endsBefore [] hends
      have hbegins := endsBefore_iff.1 hends
      cases rest with
      | nil => cases hmay
      | cons y rest =>
        rw [List.nil_append] at hmay
        exact .inl (by simp [findEnd, hmay, hbegins])
  | cons y octets ih =>
    have hbegins : beginsWithEndTag kind.closing (y :: (octets ++ rest)) = false := by
      rw [Bool.eq_false_iff, ne_eq, ← endsBefore_iff]
      exact h.first [] (y :: octets) rfl (by simp)
    by_cases hmay : mayBecome kind.closing (y :: (octets ++ rest)) = true
    · rcases h.ends with rfl | hends
      · rw [List.append_nil] at hmay
        exact .inr ⟨rfl, [], y :: octets, rfl, by simp [findEnd, hmay]⟩
      · have := mayBecome_of_endsBefore (y :: octets) hends
        exact absurd (hmay.symm.trans this) (by decide)
    · rcases ih h.tail with hfound | ⟨rfl, before, kept, rfl, hpending⟩
      · left
        simp [findEnd, hmay, hbegins, hfound, End.cons]
      · right
        rw [List.append_nil] at hmay hbegins
        exact ⟨rfl, y :: before, kept, rfl, by simp [findEnd, hmay, hbegins, hpending, End.cons]⟩

/-- All octets are contents up to the first end tag, or to their end. -/
theorem exists_contents (kind : RawText) (b : Bytes) :
    ∃ octets rest, b = octets ++ rest ∧ kind.IsContents octets rest := by
  induction b with
  | nil =>
    refine ⟨[], [], rfl, .inl rfl, fun before after hparts hafter => ?_⟩
    exact absurd (List.append_eq_nil_iff.1 hparts.symm).2 hafter
  | cons y b ih =>
    by_cases hends : kind.EndsBefore (y :: b)
    · refine ⟨[], y :: b, rfl, .inr hends, fun before after hparts hafter => ?_⟩
      exact absurd (List.append_eq_nil_iff.1 hparts.symm).2 hafter
    · obtain ⟨octets, rest, rfl, hcontents⟩ := ih
      refine ⟨y :: octets, rest, rfl, hcontents.ends, fun before after hparts hafter => ?_⟩
      cases before with
      | nil =>
        rw [List.nil_append] at hparts
        rwa [← hparts]
      | cons z before => exact hcontents.first before after (List.cons.inj hparts).2 hafter

/-- Octets are contents up to one place only. -/
theorem IsContents.unique {octets' rest' : Bytes} (h : kind.IsContents octets rest)
    (h' : kind.IsContents octets' rest') (heq : octets' ++ rest' = octets ++ rest) :
    octets' = octets ∧ rest' = rest := by
  have hfound := findEnd_of_contents h
  have hfound' := findEnd_of_contents h'
  rw [heq] at hfound'
  rcases hfound with hfound | ⟨rfl, before, kept, rfl, hpending⟩
  · rcases hfound' with hfound' | ⟨rfl, before, kept, hparts, hpending⟩
    · exact End.found.inj (hfound'.symm.trans hfound)
    · rw [← List.append_nil octets', heq, hfound] at hpending
      cases hpending
  · rw [List.append_nil] at heq hfound'
    rcases hfound' with hfound' | ⟨rfl, -⟩
    · rw [hpending] at hfound'
      cases hfound'
    · exact ⟨by simpa using heq, rfl⟩

end RawText

/-! ## Every body is cut, and in one way -/

/-- A construct begins with `<` and has more octets. -/
theorem IsConstruct.shape {octets : Bytes} (h : IsConstruct octets) :
    ∃ x more, octets = 60 :: x :: more := by
  cases h with
  | comment _ h | declaration _ h | instruction h | endTag _ _ h =>
    obtain ⟨inside, rfl, -⟩ := h
    exact ⟨_, _, rfl⟩

/-- No construct is text. -/
theorem IsConstruct.not_isText {octets rest : Bytes} (h : IsConstruct octets) :
    ¬ IsText octets rest := by
  obtain ⟨x, more, rfl⟩ := h.shape
  rintro (⟨-, hall, -⟩ | ⟨hlone, -⟩)
  · exact hall 60 (by simp) rfl
  · cases hlone

namespace Piece
variable {p p' : Piece} {b rest rest' : Bytes}

/-- A piece has an octet at least. -/
theorem StandsBefore.source_ne_nil (h : p.StandsBefore rest) : p.source ≠ [] := by
  cases p with
  | text octets =>
    rcases h with ⟨hne, -⟩ | ⟨rfl, -⟩
    · exact hne
    · exact List.cons_ne_nil _ _
  | construct octets =>
    obtain ⟨x, more, rfl⟩ := h.shape
    exact List.cons_ne_nil _ _
  | startTag tag =>
    rw [source, StartTag.source_eq]
    exact List.cons_ne_nil _ _
  | unfinished octets =>
    obtain ⟨more, rfl, -⟩ := h.1.opens
    exact List.cons_ne_nil _ _
  | contents => exact h.elim

/-- At a `<` stands a piece. -/
theorem exists_standsBefore_lt (tail : Bytes) :
    ∃ p rest, 60 :: tail = source p ++ rest ∧ p.StandsBefore rest := by
  by_cases hopens : OpensNothing tail
  · exact ⟨.text [60], tail, rfl, .inr ⟨rfl, hopens⟩⟩
  by_cases hconstruct : ∃ read, read <+: 60 :: tail ∧ IsConstruct read
  · obtain ⟨octets, ⟨rest, hrest⟩, hconstruct⟩ := hconstruct
    exact ⟨.construct octets, rest, hrest.symm, hconstruct⟩
  by_cases htag : ∃ tag : StartTag, tag.IsNamed ∧ tag.source <+: 60 :: tail
  · obtain ⟨tag, hnamed, ⟨rest, hrest⟩⟩ := htag
    exact ⟨.startTag tag, rest, hrest.symm, hnamed⟩
  · refine ⟨.unfinished (60 :: tail), [], by simp [source], ⟨⟨tail, rfl, hopens⟩, ?_, ?_⟩, rfl⟩
    · exact fun read hread h => hconstruct ⟨read, hread, h⟩
    · exact fun tag hnamed hread => htag ⟨tag, hnamed, hread⟩

/-- At every place but the end stands a piece. -/
theorem exists_standsBefore (hb : b ≠ []) :
    ∃ p rest, b = source p ++ rest ∧ p.StandsBefore rest := by
  obtain ⟨octets, rest, hcut⟩ : ∃ octets rest, splitWhen (· == 60) b = (octets, rest) :=
    ⟨_, _, rfl⟩
  obtain ⟨rfl, hall, hlt⟩ := splitWhen_eq hcut
  cases octets with
  | cons y octets =>
    refine ⟨.text (y :: octets), rest, rfl, .inl ⟨List.cons_ne_nil _ _, ?_, ?_⟩⟩
    · exact fun z hz => by simpa using hall z hz
    · exact fun x more hx => by simpa using hlt x more hx
  | nil =>
    cases rest with
    | nil => exact absurd rfl hb
    | cons x tail =>
      obtain rfl : x = 60 := by simpa using hlt x tail rfl
      exact exists_standsBefore_lt tail

/-- What is told of a stream that the piece begins. -/
def told (rest : Bytes) : Piece → Markup
  | text octets | construct octets => .verbatim octets rest
  | startTag tag => .startTag tag rest
  | contents _ | unfinished _ => .undecided

/-- A piece is a run of text up to the next `<`, or it begins with `<` and, where no limit is in
the way, is told of as what it is. -/
theorem StandsBefore.told (h : p.StandsBefore rest) :
    (∃ octets, p = .text octets ∧ octets ≠ [] ∧ (∀ y ∈ octets, (y == 60) = false) ∧
      ∀ x more, rest = x :: more → x = 60) ∨
    (∃ tail, p.source ++ rest = 60 :: tail) ∧ ∀ limit, (p.source ++ rest).length ≤ limit →
      Markup.next limit (p.source ++ rest) = .ok (p.told rest) := by
  have hwithin {limit : Nat} {m : Markup} (hlimit : (p.source ++ rest).length ≤ limit) :
      Markup.within limit p.source m = .ok m := by
    rw [List.length_append] at hlimit
    rw [Markup.within, if_neg (by omega)]
  cases p with
  | text octets =>
    rcases h with ⟨hne, hall, hlt⟩ | ⟨rfl, hopens⟩
    · exact .inl ⟨octets, rfl, hne, fun y hy => by simpa using hall y hy, hlt⟩
    · exact .inr ⟨⟨rest, rfl⟩, fun _ _ => Markup.next_of_opensNothing hopens⟩
  | construct octets =>
    obtain ⟨x, more, hshape⟩ := h.shape
    refine .inr ⟨⟨x :: (more ++ rest), by simp [source, hshape]⟩, fun limit hlimit => ?_⟩
    exact (Markup.next_of_construct h rest).trans (hwithin hlimit)
  | startTag tag =>
    refine .inr ⟨⟨_, congrArg (· ++ rest) tag.source_eq⟩, fun limit hlimit => ?_⟩
    exact (Markup.next_of_startTag h rest).trans (hwithin hlimit)
  | unfinished octets =>
    obtain ⟨h, rfl⟩ := h
    obtain ⟨more, hmore, -⟩ := h.opens
    refine .inr ⟨⟨more, by simp [source, hmore]⟩, fun limit hlimit => ?_⟩
    rw [List.append_nil] at hlimit ⊢
    rcases Markup.next_of_unfinished limit h with htold | ⟨hlong, -⟩
    · exact htold
    · exact absurd hlong (Nat.not_lt.2 hlimit)
  | contents => exact h.elim

/-- Two runs of text that begin at one place are one. -/
theorem text_unique {octets octets' : Bytes} (hall : ∀ y ∈ octets, (y == 60) = false)
    (hlt : ∀ x more, rest = x :: more → x = 60) (hall' : ∀ y ∈ octets', (y == 60) = false)
    (hlt' : ∀ x more, rest' = x :: more → x = 60) (heq : octets' ++ rest' = octets ++ rest) :
    octets' = octets ∧ rest' = rest := by
  have hcut {u v : Bytes} (hu : ∀ y ∈ u, (y == 60) = false)
      (hv : ∀ x more, v = x :: more → x = 60) : splitWhen (· == 60) (u ++ v) = (u, v) := by
    cases v with
    | cons x more => exact splitWhen_append_cons hu (by simp [hv x more rfl])
    | nil =>
      have hu' : ∀ y ∈ u, (! (y == 60)) = true := fun y hy => by simp [hu y hy]
      simp [splitWhen, List.takeWhile_eq_self_iff.2 hu', List.dropWhile_eq_nil_iff.2 hu']
  have hboth := hcut hall' hlt'
  rw [heq, hcut hall hlt] at hboth
  exact ⟨(congrArg Prod.fst hboth).symm, (congrArg Prod.snd hboth).symm⟩

/-- No run of text begins with `<`. -/
theorem text_ne_lt {octets tail : Bytes} (hne : octets ≠ [])
    (hall : ∀ y ∈ octets, (y == 60) = false) : octets ++ rest ≠ 60 :: tail := by
  cases octets with
  | nil => exact absurd rfl hne
  | cons y octets =>
    intro heq
    have := hall y (.head _)
    rw [(List.cons.inj heq).1] at this
    cases this

/-- What is told of a piece tells which one it is, and what comes after it. -/
theorem eq_of_told (h : p.StandsBefore rest) (h' : p'.StandsBefore rest')
    (heq : p'.source ++ rest' = p.source ++ rest) (htold : p'.told rest' = p.told rest) :
    p' = p ∧ rest' = rest := by
  cases p with
  | text octets =>
    cases p' with
    | text octets' =>
      cases htold
      exact ⟨rfl, rfl⟩
    | construct octets' =>
      cases htold
      exact absurd h (IsConstruct.not_isText h')
    | startTag | unfinished => cases htold
    | contents => exact h'.elim
  | construct octets =>
    cases p' with
    | text octets' =>
      cases htold
      exact absurd h' (IsConstruct.not_isText h)
    | construct octets' =>
      cases htold
      exact ⟨rfl, rfl⟩
    | startTag | unfinished => cases htold
    | contents => exact h'.elim
  | startTag tag =>
    cases p' with
    | startTag tag' =>
      cases htold
      exact ⟨rfl, rfl⟩
    | text | construct | unfinished => cases htold
    | contents => exact h'.elim
  | unfinished octets =>
    cases p' with
    | unfinished octets' =>
      obtain ⟨-, rfl⟩ := h
      obtain ⟨-, rfl⟩ := h'
      rw [List.append_nil, List.append_nil] at heq
      exact ⟨congrArg unfinished heq, rfl⟩
    | text | construct | startTag => cases htold
    | contents => exact h'.elim
  | contents => exact h.elim

/-- At a place stands one piece only. -/
theorem StandsBefore.unique (h : p.StandsBefore rest) (h' : p'.StandsBefore rest')
    (heq : p'.source ++ rest' = p.source ++ rest) : p' = p ∧ rest' = rest := by
  rcases h.told with ⟨octets, rfl, hne, hall, hlt⟩ | ⟨⟨tail, htail⟩, htold⟩
  · rcases h'.told with ⟨octets', rfl, -, hall', hlt'⟩ | ⟨⟨tail', htail'⟩, -⟩
    · obtain ⟨rfl, rfl⟩ := text_unique hall hlt hall' hlt' heq
      exact ⟨rfl, rfl⟩
    · exact absurd (heq.symm.trans htail') (text_ne_lt hne hall)
  · rcases h'.told with ⟨octets', rfl, hne', hall', -⟩ | ⟨-, htold'⟩
    · exact absurd (heq.trans htail) (text_ne_lt hne' hall')
    · refine eq_of_told h h' heq ?_
      have hboth := htold' _ (Nat.le_refl _)
      rw [heq, htold _ (Nat.le_refl _)] at hboth
      exact (Except.ok.inj hboth).symm

end Piece

/-- Where text and markup are read, octets are cut. By induction on their number. -/
theorem exists_cut_data (b : Bytes) : ∃ pieces, Cut .data b pieces := by
  induction hn : b.length using Nat.strongRecOn generalizing b with
  | ind n ih =>
    subst hn
    by_cases hb : b = []
    · subst hb
      exact ⟨[], .done⟩
    · obtain ⟨p, rest, rfl, hstands⟩ := Piece.exists_standsBefore hb
      have hlen : rest.length < (p.source ++ rest).length := by
        have := List.length_pos_iff.2 hstands.source_ne_nil
        rw [List.length_append]
        omega
      cases hmode : p.modeAfter with
      | data =>
        obtain ⟨pieces, hpieces⟩ := ih _ hlen rest rfl
        exact ⟨p :: pieces, .markup hstands (hmode ▸ hpieces)⟩
      | raw kind =>
        obtain ⟨octets, rest, rfl, hcontents⟩ := RawText.exists_contents kind rest
        have hle : rest.length ≤ (octets ++ rest).length := by simp
        obtain ⟨pieces, hpieces⟩ := ih _ (Nat.lt_of_le_of_lt hle hlen) rest rfl
        exact ⟨p :: .contents octets :: pieces,
          .markup hstands (hmode ▸ .contents hcontents hpieces)⟩

/-- Every body is cut. -/
theorem exists_cut (mode : Mode) (b : Bytes) : ∃ pieces, Cut mode b pieces := by
  cases mode with
  | data => exact exists_cut_data b
  | raw kind =>
    obtain ⟨octets, rest, rfl, hcontents⟩ := RawText.exists_contents kind b
    obtain ⟨pieces, hpieces⟩ := exists_cut_data rest
    exact ⟨_, .contents hcontents hpieces⟩

/-- **A body falls into pieces in one way only.** By induction on the pieces. -/
theorem Cut.unique {mode : Mode} {b : Bytes} {pieces pieces' : List Piece}
    (h : Cut mode b pieces) (h' : Cut mode b pieces') : pieces' = pieces := by
  induction h generalizing pieces' with
  | done =>
    generalize hb : ([] : Bytes) = b at h'
    cases h' with
    | done => rfl
    | markup hstands =>
      exact absurd (List.append_eq_nil_iff.1 hb.symm).1 hstands.source_ne_nil
  | @markup p rest pieces hstands _ ih =>
    generalize hb : p.source ++ rest = b at h'
    cases h' with
    | done => exact absurd (List.append_eq_nil_iff.1 hb).1 hstands.source_ne_nil
    | markup hstands' hrest' =>
      obtain ⟨rfl, rfl⟩ := hstands.unique hstands' hb.symm
      rw [ih hrest']
  | @contents kind octets rest pieces hcontents _ ih =>
    generalize hb : octets ++ rest = b at h'
    cases h' with
    | contents hcontents' hrest' =>
      obtain ⟨rfl, rfl⟩ := hcontents.unique hcontents' hb.symm
      rw [ih hrest']

end ProxyFilter.Html
