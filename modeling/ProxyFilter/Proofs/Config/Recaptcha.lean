import ProxyFilter.Config.Recaptcha
import ProxyFilter.Proofs.Html.Pieces
import ProxyFilter.Proofs.Http.Query

/-!
# The markup of a challenge key

A site key is any text that is not blank, and it goes through a query and a quoted value before it
stands in a page. `RecaptchaKey.isEmptyScript_scriptTag` says what a page gets: the markup is read
as one script without contents (`Html.IsEmptyScript`), whatever follows it, for no address of a
script has a quote. `RecaptchaKey.ofPath_scriptAddress` says what the address asks for: the key as
it was configured, and the session mark where the key is one of a session.
-/

namespace ProxyFilter

/-! ## Scripts without contents -/

namespace Html

/-- The end tag of a script. -/
def scriptEnd : Bytes := Utf8.encode "</script>"

/-- The octets are the start tag of a script and the end tag that belongs to it. So they are read,
and nothing else is read of them, whatever follows. -/
structure IsEmptyScript (octets : Bytes) (tag : StartTag) : Prop where
  source : octets = tag.source ++ scriptEnd
  parse (rest : Bytes) : StartTag.parse? (octets.tail ++ rest) = some (tag, scriptEnd ++ rest)
  startTag (limit : Nat) (rest : Bytes) : Markup.next limit (octets ++ rest) =
    Markup.within limit tag.source (.startTag tag (scriptEnd ++ rest))
  mode : modeAfter tag = .raw .script
  contents (rest : Bytes) :
    RawText.findEnd RawText.script.closing (scriptEnd ++ rest) = .found [] (scriptEnd ++ rest)
  endTag (limit : Nat) (rest : Bytes) : Markup.next limit (scriptEnd ++ rest) =
    Markup.within limit scriptEnd (.verbatim scriptEnd rest)
  pieces {rest : Bytes} {after : List Piece} : Cut .data rest after →
    Cut .data (octets ++ rest)
      (.startTag tag :: .contents [] :: .construct scriptEnd :: after)

/-- Where all octets are found to fail a test, each one fails it. -/
theorem eq_false_of_all {p : UInt8 → Bool} {b : Bytes} (h : b.all (! p ·) = true) :
    ∀ y ∈ b, p y = false := by
  intro y hy
  have hnot : (! p y) = true := List.all_eq_true.1 h y hy
  simpa using hnot

/-- The end tag of a script is a construct. -/
theorem isConstruct_scriptEnd : IsConstruct scriptEnd := by
  have hletter : Byte.isAlpha 115 = true := rfl
  have hname : ∀ y ∈ Utf8.encode "script", (y == 62) = false := eq_false_of_all rfl
  exact .endTag hletter ⟨Utf8.encode "cript>", rfl⟩ ⟨Utf8.encode "script", rfl, hname⟩

/-- In front of its end tag a script has no contents. -/
theorem isContents_nil (rest : Bytes) : RawText.script.IsContents [] (scriptEnd ++ rest) where
  ends := .inr ⟨Utf8.encode "</script", 62, rest, rfl, rfl, rfl⟩
  first _ _ hparts hafter := absurd (List.append_eq_nil_iff.1 hparts.symm).2 hafter

/-- A start tag with a name that is a script's, and its end tag, are a script without contents. -/
theorem isEmptyScript_of_isNamed {tag : StartTag} (hnamed : tag.IsNamed)
    (hmode : modeAfter tag = .raw .script) : IsEmptyScript (tag.source ++ scriptEnd) tag where
  source := rfl
  parse rest := by
    refine (StartTag.parse?_selfDelimiting _ _ _).2 ⟨hnamed.wellFormed, ?_⟩
    rw [StartTag.source_eq]
    simp
  startTag limit rest := by
    rw [List.append_assoc]
    exact Markup.next_of_startTag hnamed _
  mode := hmode
  contents rest := by
    rcases RawText.findEnd_of_contents (isContents_nil rest) with hfound | ⟨hnil, -⟩
    · exact hfound
    · cases hnil
  endTag limit rest := Markup.next_of_construct isConstruct_scriptEnd rest
  pieces {rest after} hafter := by
    rw [List.append_assoc]
    refine .markup (p := .startTag tag) hnamed ?_
    rw [Piece.modeAfter_startTag, hmode]
    exact .contents (isContents_nil rest) (.markup (p := .construct scriptEnd)
      isConstruct_scriptEnd hafter)

/-- The start tag of a script that is loaded from an address. -/
def scriptFrom (address : Bytes) : StartTag where
  name := Utf8.encode "script"
  attributes :=
    [⟨[32], Utf8.encode "src", some ⟨[61], some .double, address⟩⟩,
      ⟨[32], Utf8.encode "async", none⟩, ⟨[32], Utf8.encode "defer", none⟩]
  gap := []
  selfClosing := false

/-- The attributes of such a tag fit together, where no quote stands in the address. -/
theorem attributesFit_scriptFrom {address : Bytes} (h : ∀ y ∈ address, (y == 34) = false) :
    AttributesFit [62] (scriptFrom address).attributes := by
  have hblank : ∀ y ∈ ([32] : Bytes), Byte.isSpace y = true := List.forall_mem_singleton.2 rfl
  have hgap : ∀ y ∈ ([32] : Bytes), isGapOctet y = true := List.forall_mem_singleton.2 rfl
  have hsrc : IsAttributeName (Utf8.encode "src") := ⟨rfl, eq_false_of_all rfl⟩
  have hasync : IsAttributeName (Utf8.encode "async") := ⟨rfl, eq_false_of_all rfl⟩
  have hdefer : IsAttributeName (Utf8.encode "defer") := ⟨rfl, eq_false_of_all rfl⟩
  refine ⟨⟨hgap, hsrc, ?src⟩, ⟨hgap, hasync, ?async⟩, ⟨hgap, hdefer, ?defer⟩, trivial⟩
  case src =>
    exact ⟨⟨[], [], rfl, by simp, by simp⟩, h⟩
  case async =>
    -- The next name follows after a blank.
    exact ⟨⟨[32], 100, _, rfl, hblank, rfl, by decide⟩, 32, _, rfl, rfl⟩
  case defer =>
    exact ⟨⟨[], 62, [], rfl, by simp, rfl, by decide⟩, 62, [], rfl, rfl⟩

/-- Such a tag is read as it is, where no quote stands in the address. -/
theorem isNamed_scriptFrom {address : Bytes} (h : ∀ y ∈ address, (y == 34) = false) :
    (scriptFrom address).IsNamed := by
  have hname : ∀ y ∈ Utf8.encode "script", endsElementName y = false := eq_false_of_all rfl
  have hgap : IsEndGap [] false := ⟨List.forall_mem_nil _, fun _ => by simp⟩
  exact ⟨⟨hname, ⟨32, _, rfl, rfl⟩, ⟨attributesFit_scriptFrom h, hgap⟩⟩, 115, _, rfl, rfl⟩

/-- The markup that loads a script is read as one script without contents, where no quote stands
in the address. -/
theorem isEmptyScript_scriptFrom {address : Bytes} (h : ∀ y ∈ address, (y == 34) = false) :
    IsEmptyScript ((scriptFrom address).source ++ scriptEnd) (scriptFrom address) :=
  isEmptyScript_of_isNamed (isNamed_scriptFrom h) rfl

end Html

/-! ## Keys -/

/-- A key is accepted just where its type is a word for one and the key is not blank. It is kept as
it was configured. -/
theorem RecaptchaSettings.resolve_eq_ok {s : RecaptchaSettings} {k : RecaptchaKey} :
    s.resolve = .ok k ↔ keyTypes.lookup s.keyType = some k.keyType ∧
      (Text.trim s.key).isEmpty = false ∧ k.key = s.key := by
  obtain ⟨keyType, key⟩ := k
  rw [resolve]
  cases keyTypes.lookup s.keyType with
  | none => simp
  | some found =>
    cases (Text.trim s.key).isEmpty <;> simp [eq_comm]

/-- The word for session keys stands for them alone. -/
theorem RecaptchaSettings.lookup_session {word : String} {keyType : KeyType}
    (h : keyTypes.lookup word = some keyType) : keyType = .session ↔ word = "SESSION" := by
  rw [keyTypes, List.lookup_cons] at h
  split at h
  · next hword =>
    cases h
    exact iff_of_true rfl (beq_iff_eq.1 hword)
  · next hword =>
    rw [List.lookup_cons] at h
    split at h
    · cases h
      exact iff_of_false KeyType.noConfusion (beq_eq_false_iff_ne.1 hword)
    · cases h

namespace RecaptchaKey

/-- The parameters that the address of the script has. -/
def parameters (k : RecaptchaKey) : List Param :=
  ⟨"render", k.key⟩ :: match k.keyType with
    | .session => [⟨"waf", "session"⟩]
    | .action => []

/-- The address of the script is made up of the segments of these parameters. -/
theorem scriptAddress_eq (k : RecaptchaKey) : k.scriptAddress =
    Query.join "https://www.google.com/recaptcha/enterprise.js"
      (k.parameters.map fun p => Query.written p.key p.value) := by
  have hscript : "https://www.google.com/recaptcha/enterprise.js?render=" =
      "https://www.google.com/recaptcha/enterprise.js" ++ "?" ++ "render=" := by decide +kernel
  have hrender : Query.written "render" k.key = "render=" ++ Percent.encode k.key := by
    have hname : Percent.encode "render" ++ "=" = "render=" := by decide +kernel
    rw [Query.written, hname]
  unfold scriptAddress parameters
  rw [List.map_cons, hrender, hscript, Query.join]
  cases k.keyType with
  | session =>
    have hwaf : Query.written "waf" "session" = "waf=session" := by decide +kernel
    have hmark : "&waf=session" = "&" ++ "waf=session" := by decide +kernel
    rw [List.map_singleton, hwaf, String.intercalate_cons_cons, String.intercalate_singleton]
    simp only [hmark, String.append_assoc]
  | action =>
    rw [List.map_nil, String.intercalate_singleton]
    simp only [String.append_empty, String.append_assoc]

/-- **The address of the script has the key as a parameter, the session mark where the key is one
of a session, and no other parameter.** -/
theorem ofPath_scriptAddress (k : RecaptchaKey) : Query.ofPath k.scriptAddress = k.parameters := by
  have hbare : '?' ∉ "https://www.google.com/recaptcha/enterprise.js".toList := by decide
  rw [scriptAddress_eq]
  exact Query.ofPath_join_written hbare k.parameters

/-- No quote stands in the address of the script. -/
theorem not_mem_scriptAddress (k : RecaptchaKey) : '"' ∉ k.scriptAddress.toList := by
  have hscript : '"' ∉ "https://www.google.com/recaptcha/enterprise.js?render=".toList := by decide
  have hkey : '"' ∉ (Percent.encode k.key).toList := Percent.not_mem_encode rfl
  unfold scriptAddress
  rw [String.toList_append, String.toList_append, List.mem_append, List.mem_append, not_or, not_or]
  refine ⟨⟨hscript, hkey⟩, ?_⟩
  cases k.keyType with
  | session => decide
  | action => decide

/-- The markup of a key is the tag of a script from its address, and the end tag. -/
theorem encode_scriptTag (k : RecaptchaKey) : Utf8.encode k.scriptTag =
    (Html.scriptFrom (Utf8.encode k.scriptAddress)).source ++ Html.scriptEnd := by
  have hopening : Utf8.encode "<script src=\"" =
      [60] ++ Utf8.encode "script" ++ [32] ++ Utf8.encode "src" ++ [61, 34] := by decide +kernel
  have hend : Utf8.encode "\" async defer></script>" =
      [34, 32] ++ Utf8.encode "async" ++ [32] ++ Utf8.encode "defer" ++ [62] ++ Html.scriptEnd := by
    decide +kernel
  unfold scriptTag
  rw [Utf8.encode_append, Utf8.encode_append, hopening, hend]
  simp [Html.scriptFrom, Html.StartTag.source, Html.StartTag.ending, Html.TagAttribute.source,
    Html.TagAttribute.body, Html.AttributeValue.outer, Html.quoteOctets, Html.Quote.octet]

/-- The markup of a key is read as one script without contents. -/
theorem isEmptyScript_scriptTag (k : RecaptchaKey) :
    Html.IsEmptyScript (Utf8.encode k.scriptTag)
      (Html.scriptFrom (Utf8.encode k.scriptAddress)) := by
  rw [encode_scriptTag]
  refine Html.isEmptyScript_scriptFrom fun y hy => ?_
  rw [beq_eq_false_iff_ne]
  rintro rfl
  exact k.not_mem_scriptAddress (Utf8.mem_encode hy (by decide))

/-- **The markup of every accepted key is one script without contents, whatever follows it.** Its
tag has an address and two marks, and the address asks for the key as it was configured, for a
session where the key is one of a session, and for nothing else. -/
theorem scriptTag_of_resolve {s : RecaptchaSettings} {k : RecaptchaKey} (h : s.resolve = .ok k) :
    ∃ tag address, Html.IsEmptyScript (Utf8.encode k.scriptTag) tag ∧
      tag.name = Utf8.encode "script" ∧
      tag.attributes.map (fun a => (a.name, a.value.map Html.AttributeValue.inner)) =
        [(Utf8.encode "src", some (Utf8.encode address)), (Utf8.encode "async", none),
          (Utf8.encode "defer", none)] ∧
      Query.ofPath address =
        ⟨"render", s.key⟩ :: if s.keyType = "SESSION" then [⟨"waf", "session"⟩] else [] := by
  obtain ⟨hlookup, -, hkey⟩ := RecaptchaSettings.resolve_eq_ok.1 h
  have hsession := RecaptchaSettings.lookup_session hlookup
  refine ⟨Html.scriptFrom (Utf8.encode k.scriptAddress), k.scriptAddress,
    k.isEmptyScript_scriptTag, rfl, ?_, ?_⟩
  · simp only [Html.scriptFrom, List.map_cons, List.map_nil, Option.map_some, Option.map_none]
  · rw [ofPath_scriptAddress, parameters, hkey]
    cases hkeyType : k.keyType with
    | session => rw [if_pos (hsession.1 hkeyType)]
    | action => rw [if_neg fun hword => by simp [hsession.2 hword] at hkeyType]

/-- A key of a session with the marks of queries and of markup in it. -/
def markedSettings : RecaptchaSettings := ⟨"SESSION", " a\"&waf=x#'>%25</é"⟩

/-- The markup of such a key is one script without contents, and asks for the whole of it. -/
theorem scriptTag_of_resolve_marked :
    ∃ k, markedSettings.resolve = .ok k ∧
      ∃ tag address, Html.IsEmptyScript (Utf8.encode k.scriptTag) tag ∧
        tag.name = Utf8.encode "script" ∧
        tag.attributes.map (fun a => (a.name, a.value.map Html.AttributeValue.inner)) =
          [(Utf8.encode "src", some (Utf8.encode address)), (Utf8.encode "async", none),
            (Utf8.encode "defer", none)] ∧
        Query.ofPath address =
          [⟨"render", " a\"&waf=x#'>%25</é"⟩, ⟨"waf", "session"⟩] := by
  have hkey : markedSettings.resolve = .ok ⟨.session, markedSettings.key⟩ := by
    refine RecaptchaSettings.resolve_eq_ok.2 ⟨rfl, ?_, rfl⟩
    decide +kernel
  obtain ⟨tag, address, hscript, hname, hattributes, hquery⟩ := scriptTag_of_resolve hkey
  rw [if_pos (by rfl : markedSettings.keyType = "SESSION")] at hquery
  exact ⟨_, hkey, tag, address, hscript, hname, hattributes, hquery⟩

end RecaptchaKey

end ProxyFilter
