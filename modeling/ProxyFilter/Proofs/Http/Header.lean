import ProxyFilter.Proofs.Http.HeaderEdits
import ProxyFilter.Proofs.Text.Blank
import ProxyFilter.Proofs.Text.Split

/-!
# Header sets after a change

What is read under a name once its entries are removed (`HeaderSet.getAll_remove`) or replaced
(`HeaderSet.getAll_set`, and `HeaderSet.getAll_set_of_ne` for the other names), and which cookies
are left once those of a name are removed: the pieces that stay are gathered in one header and read
from it again (`HeaderSet.cookiePieces_removeCookie`), so no cookie of that name is
(`HeaderSet.cookie?_removeCookie`). A cookie that is joined with others is read from them if no
other goes by its name (`HeaderSet.cookie?_set_join`).
-/

namespace ProxyFilter

namespace HeaderSet

/-- The first value under a name is the first of all. -/
theorem get?_eq_head? (hs : HeaderSet) (name : String) : hs.get? name = (hs.getAll name).head? := by
  simp [get?, getAll, List.head?_filter]

/-- Nothing is left of a name that is removed. -/
@[simp] theorem getAll_remove (hs : HeaderSet) (name : String) :
    (hs.remove name).getAll name = [] := by
  have hvalues : (hs.remove name).getAll name = _ := hs.getAll_edit (.remove name) name
  simpa [HeaderEdit.onValues, HeaderEdit.name] using hvalues

/-- A name that is set has that one value. -/
@[simp] theorem getAll_set (hs : HeaderSet) (name value : String) :
    (hs.set name value).getAll name = [value] := by
  have hvalues : (hs.set name value).getAll name = _ := hs.getAll_edit (.set name value) name
  simpa [HeaderEdit.onValues, HeaderEdit.name] using hvalues

/-- Nothing is left of a name that is removed. -/
@[simp] theorem get?_remove (hs : HeaderSet) (name : String) :
    (hs.remove name).get? name = none := by
  rw [get?_eq_head?, getAll_remove, List.head?_nil]

/-- A name that is set has that value. -/
@[simp] theorem get?_set (hs : HeaderSet) (name value : String) :
    (hs.set name value).get? name = some value := by
  rw [get?_eq_head?, getAll_set, List.head?_cons]

/-- A name that is set leaves what the other names have. -/
theorem getAll_set_of_ne {name other : String} (h : Ascii.sameName name other = false)
    (hs : HeaderSet) (value : String) : (hs.set name value).getAll other = hs.getAll other := by
  have hvalues : (hs.set name value).getAll other = _ := hs.getAll_edit (.set name value) other
  simpa [HeaderEdit.onValues, HeaderEdit.name, h] using hvalues

/-- A name that is set leaves what the other names have. -/
theorem get?_set_of_ne {name other : String} (h : Ascii.sameName name other = false)
    (hs : HeaderSet) (value : String) : (hs.set name value).get? other = hs.get? other := by
  rw [get?_eq_head?, getAll_set_of_ne h, ← get?_eq_head?]

/-! ## Cookies -/

/-- A text between two semicolons, without blanks at its ends. -/
def IsCookiePiece (piece : String) : Prop := ';' ∉ piece.toList ∧ Text.trim piece = piece

/-- The pieces of a header set are cookie pieces. -/
theorem isCookiePiece_of_mem {hs : HeaderSet} {piece : String} (h : piece ∈ hs.cookiePieces) :
    IsCookiePiece piece := by
  obtain ⟨value, -, hpiece⟩ := List.mem_flatMap.1 h
  obtain ⟨part, hpart, rfl⟩ := List.mem_map.1 hpiece
  exact ⟨fun hmem => Text.not_mem_of_mem_splitAll hpart (Text.mem_of_mem_trim hmem),
    Text.trim_trim part⟩

/-- Joining with a blank after each mark is joining with the mark alone, with a blank in front of
each part but the first. -/
theorem intercalate_cons_blank (c : Char) (part : List Char) (parts : List (List Char)) :
    [c, ' '].intercalate (part :: parts) =
      [c].intercalate (part :: parts.map (' ' :: ·)) := by
  induction parts generalizing part with
  | nil => rfl
  | cons next parts ih =>
    rw [List.map_cons, List.intercalate_cons_cons, List.intercalate_cons_cons, ih]
    cases parts with
    | nil => simp [List.intercalate]
    | cons => simp [List.intercalate_cons_cons]

/-- Texts that are joined for one header are read from it again, without blanks at their ends. -/
theorem map_trim_splitAll_join {pieces : List String} (hne : pieces ≠ [])
    (hpieces : ∀ piece ∈ pieces, ';' ∉ piece.toList) :
    (Text.splitAll ';' ("; ".intercalate pieces)).map Text.trim = pieces.map Text.trim := by
  obtain ⟨piece, pieces, rfl⟩ := List.exists_cons_of_ne_nil hne
  have hparts : Text.splitAll ';' ("; ".intercalate (piece :: pieces)) =
      piece :: pieces.map fun p => String.ofList (' ' :: p.toList) := by
    have hjoin : ("; ".intercalate (piece :: pieces)).toList =
        [';'].intercalate (piece.toList :: (pieces.map String.toList).map (' ' :: ·)) := by
      rw [String.toList_intercalate]
      exact intercalate_cons_blank ';' _ _
    rw [Text.splitAll, hjoin, List.splitOn_intercalate]
    · simp
    · intro part hpart
      simp only [List.map_map, List.mem_cons, List.mem_map, Function.comp_apply] at hpart
      rcases hpart with rfl | ⟨p, hp, rfl⟩
      · exact hpieces piece List.mem_cons_self
      · have := hpieces p (List.mem_cons_of_mem _ hp)
        simpa using this
    · simp
  have htrim (p : String) : Text.trim (String.ofList (' ' :: p.toList)) = Text.trim p :=
    Text.trim_of_cons_blank (c := ' ') rfl (by simp)
  rw [hparts, List.map_cons, List.map_map, List.map_cons]
  exact congrArg (Text.trim piece :: ·) (List.map_congr_left fun p _ => htrim p)

/-- Pieces that are joined for one header are read from it again. -/
theorem splitAll_join {pieces : List String} (hne : pieces ≠ [])
    (hpieces : ∀ piece ∈ pieces, IsCookiePiece piece) :
    (Text.splitAll ';' ("; ".intercalate pieces)).map Text.trim = pieces := by
  rw [map_trim_splitAll_join hne fun piece hpiece => (hpieces piece hpiece).1,
    List.map_congr_left fun piece hpiece => (hpieces piece hpiece).2, List.map_id']

/-- The pieces that stay are those that are read once the cookies of a name are removed. -/
theorem cookiePieces_removeCookie (hs : HeaderSet) (name : String) :
    (hs.removeCookie name).cookiePieces = hs.cookiesWithout name := by
  rw [removeCookie]
  cases hkept : hs.cookiesWithout name with
  | nil => simp [cookiePieces]
  | cons piece pieces =>
    have hpieces : ∀ p ∈ piece :: pieces, IsCookiePiece p := fun p hp =>
      isCookiePiece_of_mem (List.mem_of_mem_filter (hkept ▸ hp))
    simp [cookiePieces, splitAll_join (by simp) hpieces]

/-- No cookie of a name is left once they are removed. -/
theorem cookie?_removeCookie (hs : HeaderSet) (name : String) :
    (hs.removeCookie name).cookie? name = none := by
  rw [cookie?, cookiePieces_removeCookie, Option.map_eq_none_iff, List.find?_eq_none]
  rintro ⟨key, value⟩ hmem hkey
  obtain ⟨piece, hpiece, hcut⟩ := List.mem_filterMap.1 hmem
  have hname : cookieName piece = key := Text.before_of_splitOnce? hcut
  have hother := (List.mem_filter.1 hpiece).2
  simp only [Bool.and_eq_true, bne_iff_ne] at hother
  exact hother.2 (hname.trans (by simpa using hkey))

/-- The text of a cookie header is read as a cookie of another name, or as none. -/
def IsOtherCookie (name cookie : String) : Prop :=
  ';' ∉ cookie.toList ∧ ∀ value, Text.splitOnce? '=' (Text.trim cookie) ≠ some (name, value)

/-- Cookies of other names are passed over when one is looked for. -/
theorem find?_of_isOtherCookie {name : String} {cookies : List String}
    (h : ∀ cookie ∈ cookies, IsOtherCookie name cookie) :
    ((cookies.map Text.trim).filterMap (Text.splitOnce? '=')).find? (fun (k, _) => k == name) =
      none := by
  rw [List.find?_eq_none]
  rintro ⟨key, value⟩ hmem hkey
  obtain ⟨piece, hpiece, hother⟩ := List.mem_filterMap.1 hmem
  obtain ⟨cookie, hcookie, rfl⟩ := List.mem_map.1 hpiece
  obtain ⟨-, hnone⟩ := h cookie hcookie
  have hkey : key = name := by simpa using hkey
  exact hnone value (hkey ▸ hother)

/-- **A cookie is read from the header it is joined in with cookies of other names.** -/
theorem cookie?_set_join {name value : String} {before after : List String} (hs : HeaderSet)
    (hname : '=' ∉ name.toList) (hpiece : IsCookiePiece (name ++ "=" ++ value))
    (hothers : ∀ cookie ∈ before ++ after, IsOtherCookie name cookie) :
    (hs.set Header.cookie
      ("; ".intercalate (before ++ (name ++ "=" ++ value) :: after))).cookie? name =
        some value := by
  have hpieces : (hs.set Header.cookie
      ("; ".intercalate (before ++ (name ++ "=" ++ value) :: after))).cookiePieces =
        before.map Text.trim ++ (name ++ "=" ++ value) :: after.map Text.trim := by
    have hmarks : ∀ piece ∈ before ++ (name ++ "=" ++ value) :: after, ';' ∉ piece.toList := by
      intro piece hmem
      rcases List.mem_append.1 hmem with hmem | hmem
      · exact (hothers piece (List.mem_append_left _ hmem)).1
      · rcases List.mem_cons.1 hmem with rfl | hmem
        · exact hpiece.1
        · exact (hothers piece (List.mem_append_right _ hmem)).1
    simp only [cookiePieces, getAll_set, List.flatMap_singleton,
      map_trim_splitAll_join (by simp) hmarks, List.map_append, List.map_cons, hpiece.2]
  have hcut : Text.splitOnce? '=' (name ++ "=" ++ value) = some (name, value) :=
    Text.splitOnce?_eq_some.2 ⟨hname, by simp⟩
  have hskip := find?_of_isOtherCookie fun cookie hmem =>
    hothers cookie (List.mem_append_left _ hmem)
  rw [cookie?, hpieces, List.filterMap_append, List.find?_append, hskip, Option.none_or,
    List.filterMap_cons_some hcut, List.find?_cons_of_pos (by simp)]
  rfl

end HeaderSet

end ProxyFilter
