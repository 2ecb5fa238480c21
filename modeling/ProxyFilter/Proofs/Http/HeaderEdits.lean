import ProxyFilter.Http.Header

/-!
# Edits of header sets

Headers are changed by three edits (`HeaderEdit`), each of which is about the entries of one name.
`HeaderEdit.Changes` says what an edit makes of a list of entries and where: a name that is set has
one entry, in place of the first former one or last; of a name that is removed there is none; and
what is added is joined to the last entry of the name, or stands last. What the operations do is
looked up in their definitions once (`HeaderSet.edit_changes`), and all else follows from the
relation: the entries of other names stay as they are (`HeaderEdit.Changes.without`), and the values
under each name change as a list of their own (`HeaderEdit.Changes.getAll`). So a header set is a
table of lists of values under any sequence of edits (`HeaderSet.getAll_editAll`), in which a name
that has one value at most never gets more (`HeaderSet.IsSingle.editAll`). The main result is
`HeaderSet.editAll_exact`.
-/

namespace ProxyFilter

/-! ## Entries by name -/

/-- A name is the same as itself. -/
@[simp] theorem Ascii.sameName_self (name : String) : sameName name name = true := by
  simp [sameName]

namespace Header
variable {name other value : String} {entries before after : List Header} {h : Header}

/-- The entries under a name, in order. -/
def under (name : String) (entries : List Header) : List Header := entries.filter (isNamed name)

/-- The entries under all other names, in order. -/
def without (name : String) (entries : List Header) : List Header :=
  entries.filter fun h => ! h.isNamed name

/-- No entry goes by the name. -/
def Absent (name : String) (entries : List Header) : Prop := ∀ h ∈ entries, h.isNamed name = false

/-- A header goes by its own name. -/
@[simp] theorem isNamed_self (name value : String) : isNamed name ⟨name, value⟩ = true :=
  Ascii.sameName_self name

/-- Names that differ in letter case alone are names of the same headers. -/
theorem isNamed_of_sameName (hsame : Ascii.sameName name other = true) :
    isNamed name = isNamed other := by
  have hlower : Ascii.lower name = Ascii.lower other := by simpa [Ascii.sameName] using hsame
  funext e
  simp only [isNamed, Ascii.sameName, hlower]

/-- No header goes by two names that differ in more than letter case. -/
theorem isNamed_eq_false (hother : Ascii.sameName name other = false)
    (hnamed : h.isNamed other = true) : h.isNamed name = false := by
  simp only [isNamed, Ascii.sameName, beq_iff_eq, beq_eq_false_iff_ne, ne_eq] at hother hnamed ⊢
  exact fun hname => hother (hname.symm.trans hnamed)

@[simp] theorem under_nil (name : String) : under name [] = [] := rfl

@[simp] theorem without_nil (name : String) : without name [] = [] := rfl

@[simp] theorem under_append (name : String) (before after : List Header) :
    under name (before ++ after) = under name before ++ under name after :=
  List.filter_append ..

@[simp] theorem without_append (name : String) (before after : List Header) :
    without name (before ++ after) = without name before ++ without name after :=
  List.filter_append ..

/-- An entry of the name is one of those under it. -/
theorem under_cons (hnamed : h.isNamed name = true) (after : List Header) :
    under name (h :: after) = h :: under name after :=
  List.filter_cons_of_pos hnamed

/-- An entry of the name is none of those under other names. -/
theorem without_cons (hnamed : h.isNamed name = true) (after : List Header) :
    without name (h :: after) = without name after := by
  simp [without, hnamed]

@[simp] theorem under_cons_self (name value : String) (after : List Header) :
    under name (⟨name, value⟩ :: after) = ⟨name, value⟩ :: under name after :=
  under_cons (isNamed_self name value) after

@[simp] theorem without_cons_self (name value : String) (after : List Header) :
    without name (⟨name, value⟩ :: after) = without name after :=
  without_cons (isNamed_self name value) after

/-- The name is absent from the entries under other names. -/
theorem absent_without (name : String) (entries : List Header) :
    Absent name (without name entries) :=
  fun h hmem => by simpa using (List.mem_filter.1 hmem).2

/-- There are no entries under a name that is absent. -/
theorem Absent.under (habsent : Absent name entries) : under name entries = [] :=
  List.filter_eq_nil_iff.2 fun h hmem => by simp [habsent h hmem]

/-- All entries are under other names than one that is absent. -/
theorem Absent.without (habsent : Absent name entries) : without name entries = entries :=
  List.filter_eq_self.2 fun h hmem => by simp [habsent h hmem]

/-- There are no entries of the name under other names. -/
@[simp] theorem under_without_self (name : String) (entries : List Header) :
    under name (without name entries) = [] :=
  (absent_without name entries).under

/-- The entries under other names are all under other names. -/
@[simp] theorem without_without (name : String) (entries : List Header) :
    without name (without name entries) = without name entries :=
  (absent_without name entries).without

/-- The order of entries does not matter to whether a name is absent. -/
theorem Absent.reverse (habsent : Absent name entries) : Absent name entries.reverse :=
  fun h hmem => habsent h (List.mem_reverse.1 hmem)

/-- The first entry of a name is found where it stands. -/
theorem Absent.findIdx?_append (habsent : Absent name before) (hnamed : h.isNamed name = true)
    (after : List Header) :
    (before ++ h :: after).findIdx? (isNamed name) = some before.length := by
  simp [List.findIdx?_append, List.findIdx?_eq_none_iff.2 habsent, List.findIdx?_cons, hnamed]

/-- The entries under another name are found among those that are left of one. -/
theorem under_without (hother : Ascii.sameName name other = false) (entries : List Header) :
    under other (without name entries) = under other entries := by
  rw [under, without, List.filter_filter]
  refine List.filter_congr fun e _ => ?_
  cases hnamed : e.isNamed other with
  | false => rfl
  | true => simp [isNamed_eq_false hother hnamed]

/-- A name is absent, or some entry is the first of it. -/
theorem absent_or_first (name : String) (entries : List Header) : Absent name entries ∨
    ∃ before first after, entries = before ++ first :: after ∧ Absent name before ∧
      first.isNamed name = true := by
  cases hfind : entries.find? (isNamed name) with
  | none => exact .inl fun h hmem => by simpa using List.find?_eq_none.1 hfind h hmem
  | some first =>
    obtain ⟨hfirst, before, after, hentries, hbefore⟩ := List.find?_eq_some_iff_append.1 hfind
    exact .inr ⟨before, first, after, hentries, fun h hmem => by simpa using hbefore h hmem, hfirst⟩

/-- A name is absent, or some entry is the last of it. -/
theorem absent_or_last (name : String) (entries : List Header) : Absent name entries ∨
    ∃ before last after, entries = before ++ last :: after ∧ last.isNamed name = true ∧
      Absent name after := by
  rcases absent_or_first name entries.reverse with habsent | ⟨after, last, before, hentries, hafter,
    hlast⟩
  · exact .inl (by simpa using habsent.reverse)
  · exact .inr ⟨before.reverse, last, after.reverse, by simpa using congrArg List.reverse hentries,
      hlast, hafter.reverse⟩

end Header

/-! ## What an edit changes -/

/-- An edit of the entries under one name. -/
inductive HeaderEdit
  /-- A value is added. -/
  | add (name value : String)
  /-- One value replaces all others. -/
  | set (name value : String)
  /-- All values are removed. -/
  | remove (name : String)
  deriving DecidableEq, Repr

open Header (Absent)

namespace HeaderEdit

/-- The name that an edit is about. -/
def name : HeaderEdit → String
  | add name _ | set name _ | remove name => name

/-- What an edit makes of entries, and where. -/
inductive Changes : HeaderEdit → List Header → List Header → Prop
  /-- The new entry stands in place of the first former one, and the later ones are gone. -/
  | setFirst {name value : String} {before after : List Header} {first : Header}
      (hbefore : Absent name before) (hfirst : first.isNamed name = true) :
      Changes (set name value) (before ++ first :: after)
        (before ++ ⟨name, value⟩ :: Header.without name after)
  /-- The new entry stands last. -/
  | setLast {name value : String} {entries : List Header} (habsent : Absent name entries) :
      Changes (set name value) entries (entries ++ [⟨name, value⟩])
  /-- The former entries are gone. -/
  | remove {name : String} {entries : List Header} :
      Changes (remove name) entries (Header.without name entries)
  /-- The value is joined to the last former one. -/
  | addJoined {name value : String} {before after : List Header} {last : Header}
      (hjoins : Ascii.sameName name Header.setCookie = false) (hlast : last.isNamed name = true)
      (hafter : Absent name after) :
      Changes (add name value) (before ++ last :: after)
        (before ++ { last with value := last.value ++ ", " ++ value } :: after)
  /-- The value has a new entry, which stands last. -/
  | addLast {name value : String} {entries : List Header}
      (hfresh : Ascii.sameName name Header.setCookie = true ∨ Absent name entries) :
      Changes (add name value) entries (entries ++ [⟨name, value⟩])

end HeaderEdit

/-- An element is changed where it stands. -/
theorem modify_length {α : Type} (before : List α) (a : α) (after : List α) (f : α → α) :
    (before ++ a :: after).modify before.length f = before ++ f a :: after := by
  rw [List.modify_eq_take_cons_drop (by simp)]
  simp

namespace HeaderSet

/-- The header set after an edit. -/
def edit (hs : HeaderSet) : HeaderEdit → HeaderSet
  | .add name value => hs.add name value
  | .set name value => hs.set name value
  | .remove name => hs.remove name

/-- The header set after edits one after the other. -/
def editAll (hs : HeaderSet) (edits : List HeaderEdit) : HeaderSet := edits.foldl edit hs

/-- The values under a name are those of its entries. -/
theorem getAll_eq (hs : HeaderSet) (name : String) :
    hs.getAll name = (Header.under name hs.entries).map Header.value := rfl

/-- A name under which nothing is found is absent. -/
theorem contains_eq_false_iff {hs : HeaderSet} {name : String} :
    hs.contains name = false ↔ Absent name hs.entries := by
  simp [contains, Absent]

/-- Nothing goes by a name that is removed. -/
@[simp] theorem contains_remove (hs : HeaderSet) (name : String) :
    (hs.remove name).contains name = false :=
  contains_eq_false_iff.2 (Header.absent_without name hs.entries)

/-- A name that is set has one entry in place of the former ones. Nothing before the first of them
goes, so its place is still the same when the new one is put in. -/
theorem set_changes (hs : HeaderSet) (name value : String) :
    (HeaderEdit.set name value).Changes hs.entries (hs.set name value).entries := by
  obtain ⟨entries⟩ := hs
  rcases Header.absent_or_first name entries with habsent | ⟨before, first, after, rfl, hbefore,
    hfirst⟩
  · have hothers : (entries.filter fun h => ! h.isNamed name) = entries := habsent.without
    have hset : (HeaderSet.set ⟨entries⟩ name value).entries = entries ++ [⟨name, value⟩] := by
      simp only [HeaderSet.set, List.findIdx?_eq_none_iff.2 habsent, hothers]
    rw [hset]
    exact .setLast habsent
  · have hothers : ((before ++ first :: after).filter fun h => ! h.isNamed name) =
        before ++ Header.without name after := by
      have := Header.without_append name before (first :: after)
      rwa [hbefore.without, Header.without_cons hfirst] at this
    have hset : (HeaderSet.set ⟨before ++ first :: after⟩ name value).entries =
        before ++ ⟨name, value⟩ :: Header.without name after := by
      simp only [HeaderSet.set, hbefore.findIdx?_append hfirst, hothers, List.take_left,
        List.drop_left]
    rw [hset]
    exact .setFirst hbefore hfirst

/-- A value that is added is joined to the last one of its name, or has an entry of its own. The
last entry is the first one of the reversed entries. -/
theorem add_changes (hs : HeaderSet) (name value : String) :
    (HeaderEdit.add name value).Changes hs.entries (hs.add name value).entries := by
  obtain ⟨entries⟩ := hs
  cases hcookie : Ascii.sameName name Header.setCookie with
  | true =>
    simp only [HeaderSet.add, hcookie, if_true]
    exact .addLast (.inl hcookie)
  | false =>
    rcases Header.absent_or_last name entries with habsent | ⟨before, last, after, rfl, hlast,
      hafter⟩
    · have hnone : entries.reverse.findIdx? (Header.isNamed name) = none :=
        List.findIdx?_eq_none_iff.2 habsent.reverse
      simp only [HeaderSet.add, hcookie, Bool.false_eq_true, if_false, hnone]
      exact .addLast (.inr habsent)
    · have hreverse : (before ++ last :: after).reverse =
          after.reverse ++ last :: before.reverse := by simp
      have hfound : (after.reverse ++ last :: before.reverse).findIdx? (Header.isNamed name) =
          some after.reverse.length := hafter.reverse.findIdx?_append hlast before.reverse
      have hadd : (HeaderSet.add ⟨before ++ last :: after⟩ name value).entries =
          before ++ { last with value := last.value ++ ", " ++ value } :: after := by
        simp only [HeaderSet.add, hcookie, Bool.false_eq_true, if_false, hreverse, hfound,
          modify_length]
        simp
      rw [hadd]
      exact .addJoined hcookie hlast hafter

/-- **Every edit changes the entries as it should.** -/
theorem edit_changes (hs : HeaderSet) (e : HeaderEdit) :
    e.Changes hs.entries (hs.edit e).entries := by
  cases e with
  | add name value => exact hs.add_changes name value
  | set name value => exact hs.set_changes name value
  | remove name => exact .remove

end HeaderSet

/-! ## Other names, and the values under each name -/

namespace HeaderEdit

/-- A value is joined to the last of some values, and is the only one where there is none. -/
def joinLast (value : String) : List String → List String
  | [] => [value]
  | [last] => [last ++ ", " ++ value]
  | first :: next :: values => first :: joinLast value (next :: values)

/-- What an edit makes of the values under a name. -/
def onValues (e : HeaderEdit) (name : String) (values : List String) : List String :=
  if Ascii.sameName e.name name then
    match e with
    | add name value =>
      if Ascii.sameName name Header.setCookie then values ++ [value] else joinLast value values
    | set _ value => [value]
    | remove _ => []
  else values

/-- The last of some values is the one that is joined to. -/
theorem joinLast_append (value last : String) (values : List String) :
    joinLast value (values ++ [last]) = values ++ [last ++ ", " ++ value] := by
  induction values with
  | nil => rfl
  | cons first values ih =>
    cases values with
    | nil => rfl
    | cons next values => simpa [joinLast] using ih

/-- One value is not made two by joining. -/
theorem length_joinLast (value : String) {values : List String} (h : values.length ≤ 1) :
    (joinLast value values).length ≤ 1 := by
  cases values with
  | nil => simp [joinLast]
  | cons first values =>
    obtain rfl : values = [] := by simpa using h
    simp [joinLast]

/-- An edit does not make two values of one, but for the cookies that a response sets. -/
theorem length_onValues (e : HeaderEdit) {name : String} {values : List String}
    (hname : Ascii.sameName name Header.setCookie = false) (h : values.length ≤ 1) :
    (e.onValues name values).length ≤ 1 := by
  unfold onValues
  split
  · next hsame =>
    cases e with
    | add name' value =>
      have hlower : Ascii.lower name' = Ascii.lower name := beq_iff_eq.1 hsame
      have hjoins : Ascii.sameName name' Header.setCookie = false := by
        simpa only [Ascii.sameName, hlower] using hname
      simpa only [hjoins, Bool.false_eq_true, if_false] using length_joinLast value h
    | set _ value => exact Nat.le_refl 1
    | remove _ => exact Nat.zero_le 1
  · exact h

namespace Changes
variable {e : HeaderEdit} {entries entries' : List Header}

/-- **The entries of other names stay as they are, and in order.** -/
theorem without (h : e.Changes entries entries') :
    Header.without e.name entries' = Header.without e.name entries := by
  cases h with
  | setFirst _ hfirst => simp [HeaderEdit.name, Header.without_cons hfirst]
  | setLast _ => simp [HeaderEdit.name]
  | remove => simp [HeaderEdit.name]
  | @addJoined name value before after last _ hlast _ =>
    have hjoined : Header.isNamed name { last with value := last.value ++ ", " ++ value } = true :=
      hlast
    simp [HeaderEdit.name, Header.without_cons hlast, Header.without_cons hjoined]
  | addLast _ => simp [HeaderEdit.name]

/-- Just one entry is left of a name that is set. -/
theorem under_set {name value : String} (h : (set name value).Changes entries entries') :
    Header.under name entries' = [⟨name, value⟩] := by
  cases h with
  | setFirst hbefore _ => simp [hbefore.under]
  | setLast habsent => simp [habsent.under]

/-- No entry is left of a name that is removed. -/
theorem under_remove {name : String} (h : (HeaderEdit.remove name).Changes entries entries') :
    Header.under name entries' = [] := by
  cases h with
  | remove => simp

/-- An entry stands there before its name is set, or is the new one. -/
theorem mem_set {name value : String} (h : (set name value).Changes entries entries')
    {header : Header} (hmem : header ∈ entries') : header ∈ entries ∨ header = ⟨name, value⟩ := by
  cases h with
  | setFirst _ _ =>
    rcases List.mem_append.1 hmem with hmem | hmem
    · exact .inl (List.mem_append_left _ hmem)
    · rcases List.mem_cons.1 hmem with rfl | hmem
      · exact .inr rfl
      · have hafter := (List.mem_filter.1 hmem).1
        exact .inl (List.mem_append_right _ (List.mem_cons_of_mem _ hafter))
  | setLast _ => simpa using hmem

/-- The values under the name of an edit are what it makes of them. -/
theorem getAll_self (h : e.Changes entries entries') :
    HeaderSet.getAll ⟨entries'⟩ e.name = e.onValues e.name (HeaderSet.getAll ⟨entries⟩ e.name) := by
  simp only [HeaderSet.getAll_eq, onValues, Ascii.sameName_self, if_true]
  cases h with
  | setFirst hbefore _ => simp [HeaderEdit.name, hbefore.under]
  | setLast habsent => simp [HeaderEdit.name, habsent.under]
  | remove => simp [HeaderEdit.name]
  | @addJoined name value before after last hjoins hlast hafter =>
    have hjoined : Header.isNamed name { last with value := last.value ++ ", " ++ value } = true :=
      hlast
    simp [HeaderEdit.name, hjoins, hafter.under, Header.under_cons hlast,
      Header.under_cons hjoined, joinLast_append]
  | @addLast name value entries hfresh =>
    cases hcookie : Ascii.sameName name Header.setCookie with
    | true => simp [HeaderEdit.name, hcookie]
    | false =>
      have habsent : Absent name entries := hfresh.resolve_left (by simp [hcookie])
      simp [HeaderEdit.name, hcookie, habsent.under, joinLast]

/-- **The values under each name change as a list of their own.** -/
theorem getAll (h : e.Changes entries entries') (name : String) :
    HeaderSet.getAll ⟨entries'⟩ name = e.onValues name (HeaderSet.getAll ⟨entries⟩ name) := by
  cases hsame : Ascii.sameName e.name name with
  | true =>
    have hnamed : Header.isNamed name = Header.isNamed e.name :=
      (Header.isNamed_of_sameName hsame).symm
    have heach (entries : List Header) :
        HeaderSet.getAll ⟨entries⟩ name = HeaderSet.getAll ⟨entries⟩ e.name := by
      simp only [HeaderSet.getAll, hnamed]
    rw [heach, heach, h.getAll_self]
    simp only [onValues, hsame, Ascii.sameName_self]
  | false =>
    have hkept : e.onValues name (HeaderSet.getAll ⟨entries⟩ name) =
        HeaderSet.getAll ⟨entries⟩ name := by simp [onValues, hsame]
    rw [hkept, HeaderSet.getAll_eq, HeaderSet.getAll_eq, ← Header.under_without hsame entries',
      h.without, Header.under_without hsame entries]

end Changes

end HeaderEdit

/-! ## Sequences of edits -/

namespace HeaderSet

/-- An edit changes the values under each name as a list of their own. -/
theorem getAll_edit (hs : HeaderSet) (e : HeaderEdit) (name : String) :
    (hs.edit e).getAll name = e.onValues name (hs.getAll name) :=
  (hs.edit_changes e).getAll name

/-- More edits go on from what those before have made. -/
theorem editAll_append (hs : HeaderSet) (edits : List HeaderEdit) (e : HeaderEdit) :
    hs.editAll (edits ++ [e]) = (hs.editAll edits).edit e := by
  simp [editAll]

/-- **The values under a name are what the edits make of them one after the other.** By induction
on the edits. -/
theorem getAll_editAll (hs : HeaderSet) (edits : List HeaderEdit) (name : String) :
    (hs.editAll edits).getAll name =
      edits.foldl (fun values e => e.onValues name values) (hs.getAll name) := by
  induction edits generalizing hs with
  | nil => rfl
  | cons e edits ih =>
    have hrest := ih (hs.edit e)
    rw [getAll_edit] at hrest
    exact hrest

/-- No name has two values, but for the cookies that a response sets. -/
def IsSingle (hs : HeaderSet) : Prop :=
  ∀ name, Ascii.sameName name Header.setCookie = false → (hs.getAll name).length ≤ 1

/-- No name has a value where there are no headers. -/
theorem isSingle_empty : empty.IsSingle := fun _ _ => Nat.zero_le 1

/-- A name that has one value at most has no more after an edit: only the cookies that a response
sets are not joined. -/
theorem IsSingle.edit {hs : HeaderSet} (h : hs.IsSingle) (e : HeaderEdit) :
    (hs.edit e).IsSingle := by
  intro name hname
  rw [getAll_edit]
  exact HeaderEdit.length_onValues e hname (h name hname)

/-- **A name that has one value at most never gets more.** By induction on the edits. -/
theorem IsSingle.editAll {hs : HeaderSet} (h : hs.IsSingle) (edits : List HeaderEdit) :
    (hs.editAll edits).IsSingle := by
  induction edits generalizing hs with
  | nil => exact h
  | cons e edits ih => exact ih (h.edit e)

/-- **A header set is an ordered table of values under names that ignore letter case.** Whatever
edits came before, one more changes the entries of its name at their places, so that one is left of
a name that is set and none of a name that is removed, and leaves the entries of all other names as
they are and in order. The values under a name are what the edits make of them as a list of their
own, and names that have one value at most never get more, but for cookies that a response sets. -/
theorem editAll_exact (hs : HeaderSet) (edits : List HeaderEdit) :
    (∀ e : HeaderEdit,
      e.Changes (hs.editAll edits).entries (hs.editAll (edits ++ [e])).entries ∧
      Header.without e.name (hs.editAll (edits ++ [e])).entries =
        Header.without e.name (hs.editAll edits).entries) ∧
    (∀ name value,
      Header.under name (hs.editAll (edits ++ [.set name value])).entries = [⟨name, value⟩]) ∧
    (∀ name, Header.under name (hs.editAll (edits ++ [.remove name])).entries = []) ∧
    (∀ name, (hs.editAll edits).getAll name =
      edits.foldl (fun values e => e.onValues name values) (hs.getAll name)) ∧
    (hs.IsSingle → (hs.editAll edits).IsSingle) := by
  have hlast (e : HeaderEdit) :
      e.Changes (hs.editAll edits).entries (hs.editAll (edits ++ [e])).entries := by
    rw [editAll_append]
    exact (hs.editAll edits).edit_changes e
  refine ⟨fun e => ⟨hlast e, (hlast e).without⟩, fun name value => (hlast _).under_set,
    fun name => (hlast _).under_remove, hs.getAll_editAll edits, fun hsingle => ?_⟩
  exact hsingle.editAll edits

/-- Headers of which only the cookies that are set go by one name. -/
def singleHeaders : HeaderSet :=
  .ofPairs [("Via", "1.1 a"), ("Set-Cookie", "a=1"), ("set-cookie", "b=2"), ("Age", "7")]

/-- Edits of these headers, by names in other letter cases. -/
def mixedEdits : List HeaderEdit :=
  [.add "VIA" "1.1 b", .set "age" "8", .remove "SET-COOKIE", .add "Set-cookie" "c=3"]

/-- A value is joined, one is replaced in its place and two are removed, and each name has one. -/
theorem editAll_exact_mixed : singleHeaders.IsSingle ∧
    (singleHeaders.editAll mixedEdits).IsSingle ∧
    (singleHeaders.editAll mixedEdits).entries =
      [⟨"Via", "1.1 a, 1.1 b"⟩, ⟨"age", "8"⟩, ⟨"Set-cookie", "c=3"⟩] := by
  have hadded : singleHeaders = empty.editAll [.add "Via" "1.1 a", .add "Set-Cookie" "a=1",
      .add "set-cookie" "b=2", .add "Age" "7"] := by decide +kernel
  have hsingle : singleHeaders.IsSingle := by
    rw [hadded]
    exact isSingle_empty.editAll _
  exact ⟨hsingle, (editAll_exact singleHeaders mixedEdits).2.2.2.2 hsingle, by decide +kernel⟩

end HeaderSet

end ProxyFilter
