import ProxyFilter.Proofs.Http.Query

/-!
# What is read of a path once a parameter is added or removed

A parameter that is added is read after those that the path had, and the path is as before once it
is removed again, also where its query is irregular (`Query.addParam_exact`). Where no segment, not
even an empty one, has the name, nothing else could be taken for the parameter.

Removing works on all segments and reading skips the empty ones. For a name that is not empty the
two agree on which segment has it (`Query.carries_eq_isFor`), so a parameter is removed just where
one is read, with one mark of those around its segment (`Query.removeParam_exact`).
-/

namespace ProxyFilter.Query

variable {path key value : String}

/-! ## A parameter more -/

/-- A parameter that is added is read after the others. -/
theorem ofPath_addParam (path key value : String) :
    ofPath (addParam path key value) = ofPath path ++ [⟨key, value⟩] := by
  rw [ofPath_eq, ofPath_eq, segments_addParam, List.filter_append, List.map_append,
    List.filter_cons_of_pos (by simp [isEmpty_written]), List.filter_nil, List.map_singleton,
    ofSegment_written]

/-- A parameter that is added is the one that is removed, if no segment has its name. -/
theorem removeParam_addParam (habsent : ∀ segment ∈ segments path, isFor key segment = false)
    (value : String) : removeParam (addParam path key value) key = path := by
  have hkept : (segments path ++ [written key value]).eraseP (isFor key) = segments path := by
    rw [List.eraseP_append_right _ fun segment hsegment => by simp [habsent segment hsegment],
      List.eraseP_cons_of_pos (isFor_written key value), List.append_nil]
  rw [removeParam_eq_join, splitPath_addParam, segments_addParam, hkept, join_segments]

/-- **A parameter that is added is read after those of the path, as it was given. If no segment of
the path has its name, the path is left as it was once the parameter is removed.** -/
theorem addParam_exact (path key value : String) :
    ofPath (addParam path key value) = ofPath path ++ [⟨key, value⟩] ∧
      ((∀ segment ∈ segments path, Percent.decode (segmentKey segment) ≠ key) →
        removeParam (addParam path key value) key = path) := by
  refine ⟨ofPath_addParam path key value, fun habsent => removeParam_addParam ?_ value⟩
  intro segment hsegment
  exact beq_eq_false_iff_ne.2 (habsent segment hsegment)

/-- A parameter with marks of its own, added to a query with empty segments and broken escapes. -/
theorem addParam_exact_irregular :
    (∀ segment ∈ segments "/p?a=1&&b=%zz&", Percent.decode (segmentKey segment) ≠ "k&=") ∧
      addParam "/p?a=1&&b=%zz&" "k&=" "é+?" = "/p?a=1&&b=%zz&&k%26%3D=%C3%A9%2B%3F" ∧
      ofPath (addParam "/p?a=1&&b=%zz&" "k&=" "é+?") =
        [⟨"a", "1"⟩, ⟨"b", "%zz"⟩, ⟨"k&=", "é+?"⟩] ∧
      removeParam (addParam "/p?a=1&&b=%zz&" "k&=" "é+?") "k&=" = "/p?a=1&&b=%zz&" := by
  have habsent : ∀ segment ∈ segments "/p?a=1&&b=%zz&",
      Percent.decode (segmentKey segment) ≠ "k&=" := by decide +kernel
  have hparams : ofPath "/p?a=1&&b=%zz&" = [⟨"a", "1"⟩, ⟨"b", "%zz"⟩] := by decide +kernel
  have htext : addParam "/p?a=1&&b=%zz&" "k&=" "é+?" =
      "/p?a=1&&b=%zz&&k%26%3D=%C3%A9%2B%3F" := by
    rw [addParam, String.contains_char_eq]
    rfl
  obtain ⟨hadded, hremoved⟩ := addParam_exact "/p?a=1&&b=%zz&" "k&=" "é+?"
  exact ⟨habsent, htext, by rw [hadded, hparams]; rfl, hremoved habsent⟩

/-! ## A parameter less -/

/-- A name that is not empty is read from every segment that has it. -/
theorem carries_eq_isFor (hkey : key ≠ "") : carries key = isFor key := by
  funext segment
  rw [carries]
  cases hempty : segment.isEmpty with
  | false => simp
  | true =>
    obtain rfl : segment = "" := by simpa using hempty
    have hdecoded : Percent.decode (segmentKey "") = "" := by decide
    simp [isFor, hdecoded, Ne.symm hkey]

/-- Of the parameters of a path, the first one of a name is removed. -/
theorem ofPath_removeParam (path : String) (hkey : key ≠ "") :
    ofPath (removeParam path key) = (ofPath path).eraseP (·.key == key) := by
  have hname : (fun param : Param => param.key == key) ∘ ofSegment = isFor key := by
    funext segment
    simp only [Function.comp_apply, key_ofSegment, isFor]
  have hread : (fun segment => isFor key segment && ! segment.isEmpty) = isFor key := by
    rw [← carries_eq_isFor hkey]
    funext segment
    cases hempty : segment.isEmpty <;> simp [carries, hempty]
  rw [ofPath_eq, ofPath_eq, segments_removeParam, List.eraseP_map, hname, List.eraseP_filter, hread]

/-- A path in which no parameter of the name is read stays as it is. -/
theorem removeParam_of_getParam?_eq_none (hkey : key ≠ "") (habsent : getParam? path key = none) :
    removeParam path key = path := by
  rw [getParam?_eq, Option.map_eq_none_iff, carries_eq_isFor hkey, List.find?_eq_none] at habsent
  rw [removeParam_eq_join, List.eraseP_of_forall_not habsent, join_segments]

/-- What goes with a segment between others: the mark in front of it, or behind it where it is the
first one, and the question mark where it is the only one. -/
def cutText (segment : String) : List String → List String → String
  | [], [] => "?" ++ segment
  | [], _ :: _ => segment ++ "&"
  | _ :: _, _ => "&" ++ segment

/-- More segments follow those before them after a mark. -/
theorem join_append {before : List String} (hne : before ≠ []) (bare segment : String)
    (after : List String) : join bare (before ++ segment :: after) =
      join bare before ++ "&" ++ "&".intercalate (segment :: after) := by
  have hjoin : "&".intercalate (before ++ segment :: after) =
      "&".intercalate before ++ "&" ++ "&".intercalate (segment :: after) :=
    String.intercalate_append_of_ne_nil hne (List.cons_ne_nil segment after)
  obtain ⟨first, before, rfl⟩ := List.exists_cons_of_ne_nil hne
  rw [List.cons_append] at hjoin ⊢
  simp only [join, hjoin, String.append_assoc]

/-- A path made up of one segment less is what is left when that text is cut out. -/
theorem exists_join_cut (bare segment : String) (before after : List String) :
    ∃ front back, join bare (before ++ segment :: after) =
        front ++ cutText segment before after ++ back ∧
      join bare (before ++ after) = front ++ back := by
  cases before with
  | nil =>
    cases after with
    | nil => exact ⟨bare, "", by simp [join, cutText, String.append_assoc], by simp [join]⟩
    | cons next after =>
      refine ⟨bare ++ "?", "&".intercalate (next :: after), ?_, rfl⟩
      simp only [List.nil_append, join, cutText, String.intercalate_cons_cons,
        String.append_assoc]
  | cons first before =>
    have hne : first :: before ≠ [] := List.cons_ne_nil _ _
    cases after with
    | nil =>
      refine ⟨join bare (first :: before), "", ?_, by simp⟩
      simp only [join_append hne, cutText, String.intercalate_singleton, String.append_assoc,
        String.append_empty]
    | cons next after =>
      refine ⟨join bare (first :: before), "&" ++ "&".intercalate (next :: after), ?_, ?_⟩
      · simp only [join_append hne, cutText, String.intercalate_cons_cons, String.append_assoc]
      · simp only [join_append hne, String.append_assoc]

/-- **Removing takes away the segment that is read, and nothing else.** A path in which no parameter
of the name is read stays as it is. Otherwise the segment of the value that is read is cut out with
one mark, the part before the query and the other segments stay as they were, and of the parameters
the first one of the name is gone. -/
theorem removeParam_exact (path : String) (hkey : key ≠ "") :
    (getParam? path key = none → removeParam path key = path) ∧
    ∀ value, getParam? path key = some value → ∃ before segment after front back,
      segments path = before ++ segment :: after ∧
      (∀ other ∈ before, (ofSegment other).key ≠ key) ∧ ofSegment segment = ⟨key, value⟩ ∧
      path = front ++ cutText segment before after ++ back ∧
      removeParam path key = front ++ back ∧
      (splitPath (removeParam path key)).1 = (splitPath path).1 ∧
      segments (removeParam path key) = before ++ after ∧
      ofPath (removeParam path key) = (ofPath path).eraseP (·.key == key) := by
  refine ⟨removeParam_of_getParam?_eq_none hkey, fun value hread => ?_⟩
  rw [getParam?_eq, Option.map_eq_some_iff, carries_eq_isFor hkey] at hread
  obtain ⟨segment, hfind, rfl⟩ := hread
  obtain ⟨hname, before, after, hsegments, hbefore⟩ := List.find?_eq_some_iff_append.1 hfind
  have hother : ∀ other ∈ before, isFor key other = false := fun other hmem => by
    simpa using hbefore other hmem
  have hkept : (segments path).eraseP (isFor key) = before ++ after := by
    rw [hsegments, List.eraseP_append_right _ fun other hmem => by simp [hother other hmem],
      List.eraseP_cons_of_pos hname]
  obtain ⟨front, back, hpath, hleft⟩ :=
    exists_join_cut (splitPath path).1 segment before after
  rw [← hsegments, join_segments] at hpath
  rw [← hkept, ← removeParam_eq_join] at hleft
  refine ⟨before, segment, after, front, back, hsegments, fun other hmem => ?_, ?_, hpath, hleft,
    splitPath_removeParam path key, by rw [segments_removeParam, hkept],
    ofPath_removeParam path hkey⟩
  · rw [key_ofSegment]
    exact beq_eq_false_iff_ne.1 (hother other hmem)
  · have hsegmentKey : (ofSegment segment).key = key := by
      rw [key_ofSegment]
      exact beq_iff_eq.1 hname
    rw [← hsegmentKey]

/-- A name that is escaped where it is read, after an empty segment and before a second one. -/
theorem removeParam_exact_escaped :
    "token" ≠ "" ∧ getParam? "/p?&%74oken=a%2Bb&x&token" "token" = some "a+b" ∧
      removeParam "/p?&%74oken=a%2Bb&x&token" "token" = "/p?&x&token" ∧
      ofPath (removeParam "/p?&%74oken=a%2Bb&x&token" "token") = [⟨"x", ""⟩, ⟨"token", ""⟩] := by
  have hread : getParam? "/p?&%74oken=a%2Bb&x&token" "token" = some "a+b" := by decide +kernel
  have hparams : ofPath "/p?&%74oken=a%2Bb&x&token" =
      [⟨"token", "a+b"⟩, ⟨"x", ""⟩, ⟨"token", ""⟩] := by decide +kernel
  obtain ⟨-, hremoved⟩ := removeParam_exact "/p?&%74oken=a%2Bb&x&token" (by decide : "token" ≠ "")
  obtain ⟨before, segment, after, front, back, -, -, -, -, -, -, -, hleft⟩ := hremoved _ hread
  exact ⟨by decide, hread, by decide +kernel, by rw [hleft, hparams]; rfl⟩

end ProxyFilter.Query
