import ProxyFilter.Http.Query
import ProxyFilter.Proofs.Text.Percent
import ProxyFilter.Proofs.Text.Split

/-!
# Queries after a parameter is removed or added

A path is made up of the part before its query and of raw segments (`Query.join_segments`), and a
path that is made up of such parts is cut into them again (`Query.splitPath_join`,
`Query.segments_join`). Seen so, `Query.removeParam` takes the first segment of a name away and
nothing else (`Query.removeParam_eq_join`, `Query.segments_removeParam`). So a parameter of that
name is left exactly where a later segment carries it (`Query.getParam?_removeParam`).

`Query.addParam` adds one segment after the others (`Query.segments_addParam`), and the part before
the query stays (`Query.splitPath_addParam`). So a parameter that the path did not have is read as
it was added (`Query.getParam?_addParam`).
-/

namespace ProxyFilter.Query

/-- The raw segments of the query of a path. -/
def segments (path : String) : List String :=
  match (splitPath path).2 with
  | some query => Text.splitAll '&' query
  | none => []

/-- The segment has this name, decoded. -/
def isFor (key segment : String) : Bool := Percent.decode (segmentKey segment) == key

/-- A parameter of this name is read from the segment. Empty segments are skipped. -/
def carries (key segment : String) : Bool := ! segment.isEmpty && isFor key segment

/-- The name of a parameter is what stands before the `=` of its segment. -/
theorem key_ofSegment (segment : String) :
    (ofSegment segment).key = Percent.decode (segmentKey segment) := by
  rw [ofSegment, segmentKey]
  cases hcut : Text.splitOnce? '=' segment with
  | none => rw [Text.before_of_splitOnce?_none hcut]
  | some parts => rw [Text.before_of_splitOnce? hcut]

/-- The parameters of a path are those of its segments that are not empty. -/
theorem ofPath_eq (path : String) :
    ofPath path = ((segments path).filter (! ·.isEmpty)).map ofSegment := by
  rw [ofPath, segments]
  cases (splitPath path).2 <;> rfl

/-- A parameter is read from the first segment that carries it. -/
theorem getParam?_eq (path key : String) : getParam? path key =
    ((segments path).find? (carries key)).map fun segment => (ofSegment segment).value := by
  have hcarries : (fun s : String => decide ((! s.isEmpty) = true ∧
      ((fun param : Param => param.key == key) ∘ ofSegment) s = true)) = carries key := by
    funext s
    simp only [carries, isFor, Function.comp_apply, key_ofSegment, Bool.decide_and,
      Bool.decide_eq_true]
  rw [getParam?, get?, ofPath_eq, List.find?_map, List.find?_filter, hcarries, Option.map_map]
  rfl

/-- A path with a query is cut at its first question mark. -/
theorem splitPath_eq_some {path bare query : String} :
    splitPath path = (bare, some query) ↔ Text.splitOnce? '?' path = some (bare, query) := by
  rw [splitPath]
  cases Text.splitOnce? '?' path <;> simp [Prod.ext_iff]

/-- A path has no question mark, or it is cut at the first one. -/
theorem splitPath_cases (path : String) :
    (splitPath path = (path, none) ∧ '?' ∉ path.toList) ∨ ∃ bare query,
      splitPath path = (bare, some query) ∧ '?' ∉ bare.toList ∧ path = bare ++ "?" ++ query := by
  cases hcut : Text.splitOnce? '?' path with
  | none => exact .inl ⟨by simp [splitPath, hcut], Text.splitOnce?_eq_none.1 hcut⟩
  | some parts =>
    obtain ⟨bare, query⟩ := parts
    obtain ⟨hbare, hpath⟩ := Text.splitOnce?_eq_some.1 hcut
    refine .inr ⟨bare, query, splitPath_eq_some.2 hcut, hbare, ?_⟩
    rw [← String.toList_inj]
    simp [hpath]

/-- The part of a path before its query has no question mark. -/
theorem not_mem_bare (path : String) : '?' ∉ (splitPath path).1.toList := by
  obtain ⟨hpath, hbare⟩ | ⟨bare, query, hpath, hbare, -⟩ := splitPath_cases path
  · rwa [hpath]
  · rwa [hpath]

/-- A path is cut where the question mark was put. -/
theorem splitPath_append {bare query : String} (hbare : '?' ∉ bare.toList) :
    splitPath (bare ++ "?" ++ query) = (bare, some query) :=
  splitPath_eq_some.2 (Text.splitOnce?_eq_some.2 ⟨hbare, by simp⟩)

/-- A path without a question mark is not cut. -/
theorem splitPath_of_not_mem {bare : String} (hbare : '?' ∉ bare.toList) :
    splitPath bare = (bare, none) := by
  simp [splitPath, Text.splitOnce?_eq_none.2 hbare]

/-! ## Segments that are joined -/

/-- The path that raw segments make up with the part before them. -/
def join (bare : String) : List String → String
  | [] => bare
  | segment :: segments => bare ++ "?" ++ "&".intercalate (segment :: segments)

variable {bare : String} {kept : List String}

/-- The part before the segments is read from the path they make up. -/
theorem splitPath_join (hbare : '?' ∉ bare.toList) (kept : List String) :
    (splitPath (join bare kept)).1 = bare := by
  cases kept with
  | nil => rw [join, splitPath_of_not_mem hbare]
  | cons segment kept => rw [join, splitPath_append hbare]

/-- Segments are read from the path they make up. -/
theorem segments_join (hbare : '?' ∉ bare.toList)
    (hkept : ∀ segment ∈ kept, '&' ∉ segment.toList) : segments (join bare kept) = kept := by
  cases kept with
  | nil => rw [join, segments, splitPath_of_not_mem hbare]
  | cons segment kept =>
    rw [join, segments, splitPath_append hbare]
    exact Text.splitAll_intercalate rfl hkept (List.cons_ne_nil _ _)

/-- No segment has the mark that segments are cut at. -/
theorem not_mem_of_mem_segments {path segment : String} (h : segment ∈ segments path) :
    '&' ∉ segment.toList := by
  rw [segments] at h
  split at h
  · exact Text.not_mem_of_mem_splitAll h
  · cases h

/-- **A path is made up of the part before its query and its segments.** -/
theorem join_segments (path : String) : join (splitPath path).1 (segments path) = path := by
  obtain ⟨hpath, -⟩ | ⟨bare, query, hpath, -, heq⟩ := splitPath_cases path
  · simp only [segments, hpath, join]
  · obtain ⟨segment, rest, hsegments⟩ :=
      List.exists_cons_of_ne_nil (Text.splitAll_ne_nil '&' query)
    have hquery : "&".intercalate (segment :: rest) = query := by
      rw [← hsegments, Text.intercalate_splitAll rfl]
    simp only [segments, hpath, hsegments, join, hquery]
    exact heq.symm

/-! ## A parameter less -/

/-- Removing a segment takes the first one of the name away, if there is one. -/
theorem eraseSegment?_eq (key : String) (segments : List String) :
    eraseSegment? key segments =
      if segments.any (isFor key) then some (segments.eraseP (isFor key)) else none := rfl

/-- A path without a parameter is made up of the segments but the first one of the name. -/
theorem removeParam_eq_join (path key : String) : removeParam path key =
    join (splitPath path).1 ((segments path).eraseP (isFor key)) := by
  obtain ⟨hpath, -⟩ | ⟨bare, query, hpath, -, -⟩ := splitPath_cases path
  · simp only [removeParam, segments, hpath, List.eraseP_nil, join]
  · have hsegments : segments path = Text.splitAll '&' query := by rw [segments, hpath]
    rw [removeParam, hpath]
    simp only [← hsegments, eraseSegment?_eq]
    by_cases hany : (segments path).any (isFor key) = true
    · rw [if_pos hany]
      cases (segments path).eraseP (isFor key) <;> rfl
    · have hsame : (segments path).eraseP (isFor key) = segments path :=
        List.eraseP_of_forall_not (by simpa using hany)
      have hjoin := join_segments path
      rw [hpath] at hjoin
      rw [if_neg hany, hsame, hjoin]

/-- **Of the segments of a path, the first one of the name is taken away.** -/
theorem segments_removeParam (path key : String) :
    segments (removeParam path key) = (segments path).eraseP (isFor key) := by
  rw [removeParam_eq_join]
  exact segments_join (not_mem_bare path) fun segment hsegment =>
    not_mem_of_mem_segments (List.eraseP_subset hsegment)

/-- The part of a path before its query stays when a parameter is removed. -/
theorem splitPath_removeParam (path key : String) :
    (splitPath (removeParam path key)).1 = (splitPath path).1 := by
  rw [removeParam_eq_join, splitPath_join (not_mem_bare path)]

/-- The path has a parameter of a name twice: after the first segment of the name there is one more
that carries a value, and none between the two carries any. -/
def Repeats (path key : String) : Prop :=
  ∃ before first between second after,
    segments path = before ++ first :: (between ++ second :: after) ∧
      (∀ segment ∈ before, isFor key segment = false) ∧ isFor key first = true ∧
      (∀ segment ∈ between, carries key segment = false) ∧ carries key second = true ∧
      (ofSegment second).value ≠ ""

/-- **A parameter of a name is left with a value after one was removed just where the path has it
twice.** -/
theorem getParam?_removeParam (path key : String) :
    (∃ value, getParam? (removeParam path key) key = some value ∧ value ≠ "") ↔
      Repeats path key := by
  have hnone (segment : String) (h : isFor key segment = false) :
      carries key segment = false := by simp [carries, h]
  simp only [getParam?_eq, segments_removeParam, Option.map_eq_some_iff]
  constructor
  · rintro ⟨value, ⟨second, hfind, rfl⟩, hvalue⟩
    have hcarries : carries key second = true := List.find?_some hfind
    have hsecond : isFor key second = true := (Bool.and_eq_true_iff.1 hcarries).2
    have hmem : second ∈ segments path := List.eraseP_subset (List.mem_of_find?_eq_some hfind)
    obtain ⟨first, before, rest, hbefore, hfirst, hsegments, hkept⟩ :=
      List.exists_of_eraseP hmem hsecond
    have hbefore : ∀ segment ∈ before, isFor key segment = false := fun segment hsegment =>
      Bool.eq_false_iff.2 (hbefore segment hsegment)
    have hskip : before.find? (carries key) = none :=
      List.find?_eq_none.2 fun segment hsegment => by simp [hnone segment (hbefore _ hsegment)]
    rw [hkept, List.find?_append, hskip, Option.none_or] at hfind
    obtain ⟨-, between, after, rfl, hbetween⟩ := List.find?_eq_some_iff_append.1 hfind
    exact ⟨before, first, between, second, after, hsegments, hbefore, hfirst,
      fun segment hsegment => by simpa using hbetween segment hsegment, hcarries, hvalue⟩
  · rintro ⟨before, first, between, second, after, hsegments, hbefore, hfirst, hbetween, hsecond,
      hvalue⟩
    have hkept : (segments path).eraseP (isFor key) = before ++ (between ++ second :: after) := by
      rw [hsegments, List.eraseP_append_right _ fun segment hsegment => by
        simp [hbefore segment hsegment], List.eraseP_cons_of_pos hfirst]
    have hfind : (before ++ (between ++ second :: after)).find? (carries key) = some second := by
      refine List.find?_eq_some_iff_append.2
        ⟨hsecond, before ++ between, after, by simp, fun segment hsegment => ?_⟩
      rcases List.mem_append.1 hsegment with hsegment | hsegment
      · simp [hnone segment (hbefore segment hsegment)]
      · simp [hbetween segment hsegment]
    exact ⟨_, ⟨second, hkept ▸ hfind, rfl⟩, hvalue⟩

/-! ## A parameter more -/

/-- The segment of a parameter that is added. -/
def written (key value : String) : String := Percent.encode key ++ "=" ++ Percent.encode value

/-- A segment that is written has none of the marks that segments are cut at. -/
theorem not_mem_written (key value : String) : '&' ∉ (written key value).toList := by
  simp [written, Percent.not_mem_encode (c := '&') rfl]

/-- Of a path with a parameter more, the query is one segment longer. -/
theorem splitPath_addParam_eq (path key value : String) :
    splitPath (addParam path key value) = ((splitPath path).1,
      some (((splitPath path).2.map (· ++ "&")).getD "" ++ written key value)) := by
  have hshape : addParam path key value =
      path ++ (if path.contains '?' then "&" else "?") ++ written key value := by
    simp only [addParam, written, String.append_assoc]
  rw [hshape, String.contains_char_eq]
  obtain ⟨hpath, hbare⟩ | ⟨bare, query, hpath, hbare, heq⟩ := splitPath_cases path
  · simp [hbare, splitPath_append hbare, hpath]
  · have hmem : '?' ∈ path.toList := by simp [heq]
    have hlonger : path ++ "&" ++ written key value =
        bare ++ "?" ++ (query ++ "&" ++ written key value) := by
      simp only [heq, String.append_assoc]
    simp [hmem, hlonger, splitPath_append hbare, hpath]

/-- The part of a path before its query stays when a parameter is added. -/
theorem splitPath_addParam (path key value : String) :
    (splitPath (addParam path key value)).1 = (splitPath path).1 := by
  rw [splitPath_addParam_eq]

/-- A parameter is added in a segment after the others. -/
theorem segments_addParam (path key value : String) :
    segments (addParam path key value) = segments path ++ [written key value] := by
  have hlast := Text.splitAll_of_not_mem (not_mem_written key value)
  rw [segments, splitPath_addParam_eq, segments]
  cases (splitPath path).2 with
  | none => simp [hlast]
  | some query => simp [Text.splitAll_append, hlast]

/-- The segment of a parameter that is added stands for it. -/
theorem ofSegment_written (key value : String) : ofSegment (written key value) = ⟨key, value⟩ := by
  have hcut : Text.splitOnce? '=' (written key value) =
      some (Percent.encode key, Percent.encode value) :=
    Text.splitOnce?_eq_some.2 ⟨Percent.not_mem_encode rfl, by simp [written]⟩
  simp only [ofSegment, hcut, Percent.decode_encode]

/-- The segment of a parameter that is added is not empty. -/
theorem isEmpty_written (key value : String) : (written key value).isEmpty = false := by
  simp [written]

/-- **Parameters are read from the path that their segments make up.** -/
theorem ofPath_join_written (hbare : '?' ∉ bare.toList) (params : List Param) :
    ofPath (join bare (params.map fun p => written p.key p.value)) = params := by
  have hmarks : ∀ segment ∈ params.map (fun p => written p.key p.value), '&' ∉ segment.toList :=
    List.forall_mem_map.2 fun p _ => not_mem_written p.key p.value
  have hkept : ∀ segment ∈ params.map (fun p => written p.key p.value),
      (! segment.isEmpty) = true :=
    List.forall_mem_map.2 fun p _ => by rw [isEmpty_written, Bool.not_false]
  rw [ofPath_eq, segments_join hbare hmarks, List.filter_eq_self.2 hkept, List.map_map]
  refine List.map_id'' (fun p => ?_) params
  rw [Function.comp_apply, ofSegment_written]

/-- The segment of a parameter that is added has its name. -/
theorem isFor_written (key value : String) : isFor key (written key value) = true := by
  simp [isFor, ← key_ofSegment, ofSegment_written]

/-- **A parameter that a path did not have is read as it was added.** -/
theorem getParam?_addParam {path key : String} (habsent : getParam? path key = none)
    (value : String) : getParam? (addParam path key value) key = some value := by
  have hcarries : carries key (written key value) = true := by
    simp [carries, isEmpty_written, isFor_written]
  rw [getParam?_eq, Option.map_eq_none_iff] at habsent
  rw [getParam?_eq, segments_addParam, List.find?_append, habsent, Option.none_or,
    List.find?_cons_of_pos hcarries, Option.map_some, ofSegment_written]

end ProxyFilter.Query
