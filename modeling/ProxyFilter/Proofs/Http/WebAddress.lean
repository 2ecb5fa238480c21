import ProxyFilter.Http.WebAddress
import ProxyFilter.Proofs.Http.Host
import ProxyFilter.Proofs.Text.Blank

/-!
# Where the host of a web address stands

Browsers drop characters at both ends of an address and others anywhere, so the text of an address
and what is read of it differ. A character that `IsSolid` is never dropped, and tells one half of an
address from the other (`WebAddress.clean_trimChars`). The characters of a host are solid, and from
this `WebAddress.parse?_host` finds the host: if an address begins with a scheme, `://` and a user,
and the text of a host follows, then this text is what the host is read from.
-/

namespace ProxyFilter.WebAddress

variable {cs before after user host port tail scheme : List Char} {x c : Char}

/-! ## What is dropped -/

/-- A character that is kept wherever it stands. -/
structure IsSolid (c : Char) : Prop where
  blank : Text.isBlank c = false
  trimmed : isTrimmed c = false

/-- What is left of the beginning of an address. -/
def cleanStart (cs : List Char) : List Char :=
  ((cs.dropWhile Text.isBlank).dropWhile isTrimmed).filter fun c => ! isPassedOver c

/-- What is left of the end of an address. -/
def cleanEnd (cs : List Char) : List Char :=
  (Text.dropEndWhile isTrimmed (Text.dropEndWhile Text.isBlank cs)).filter fun c =>
    ! isPassedOver c

/-- A solid character is not passed over. -/
theorem IsSolid.passedOver (h : IsSolid c) : isPassedOver c = false := by
  have htrimmed := h.trimmed
  simp only [isPassedOver, Bool.or_eq_false_iff, beq_eq_false_iff_ne]
  refine ⟨⟨?_, ?_⟩, ?_⟩ <;>
  · rintro rfl
    exact absurd htrimmed (by decide)

/-- A solid character parts an address: of what stands before it only the beginning is trimmed, and
of what stands after it only the end. -/
theorem clean_trimChars (hx : IsSolid x) (before after : List Char) :
    clean (Text.trimChars (before ++ x :: after)) = cleanStart before ++ x :: cleanEnd after := by
  have hclean (cs : List Char) : clean cs =
      (Text.dropEndWhile isTrimmed (cs.dropWhile isTrimmed)).filter fun c => ! isPassedOver c := rfl
  rw [hclean, Text.trimChars, Text.dropWhile_append_cons hx.blank,
    Text.dropEndWhile_append_cons hx.blank, Text.dropWhile_append_cons hx.trimmed,
    Text.dropEndWhile_append_cons hx.trimmed, List.filter_append,
    List.filter_cons_of_pos (by simp [hx.passedOver])]
  rfl

/-- Before a solid character nothing is trimmed at the end. -/
theorem cleanEnd_append_cons (hx : IsSolid x) (before after : List Char) :
    cleanEnd (before ++ x :: after) =
      (before.filter fun c => ! isPassedOver c) ++ x :: cleanEnd after := by
  rw [cleanEnd, Text.dropEndWhile_append_cons hx.blank, Text.dropEndWhile_append_cons hx.trimmed,
    List.filter_append, List.filter_cons_of_pos (by simp [hx.passedOver])]
  rfl

/-- A solid character is kept. -/
theorem cleanEnd_cons (hx : IsSolid x) (after : List Char) :
    cleanEnd (x :: after) = x :: cleanEnd after :=
  cleanEnd_append_cons hx [] after

/-- Solid characters are kept. -/
theorem cleanEnd_append (h : ∀ c ∈ before, IsSolid c) (after : List Char) :
    cleanEnd (before ++ after) = before ++ cleanEnd after := by
  induction before with
  | nil => rfl
  | cons c before ih =>
    obtain ⟨hc, hbefore⟩ := List.forall_mem_cons.1 h
    rw [List.cons_append, cleanEnd_cons hc, ih hbefore, List.cons_append]

/-- Nothing is added at the end. -/
theorem mem_of_mem_cleanEnd (h : c ∈ cleanEnd cs) : c ∈ cs := by
  have hmem := (List.mem_filter.1 h).1
  have hbegins (p : Char → Bool) (cs : List Char) : Text.dropEndWhile p cs <+: cs :=
    List.rdropWhile_prefix p cs
  exact (hbegins _ _).subset ((hbegins _ _).subset hmem)

/-! ## What a host is read from -/

/-- The text of a host is solid, and ends neither an authority nor a user. -/
theorem isSolid_of_isHostText (h : Host.IsHostText host) (hc : c ∈ host) :
    IsSolid c ∧ endsAuthority c = false ∧ c ≠ '@' := by
  have hplain (hc : Host.isHostChar c = true) :
      IsSolid c ∧ endsAuthority c = false ∧ c ≠ '@' := by
    have hmark {mark : Char} (hmark : Host.isHostChar mark = false) : c ≠ mark :=
      Host.ne_of_isHostChar hc hmark
    simp only [Host.isHostChar, Bool.and_eq_true, Bool.not_eq_true', decide_eq_true_eq] at hc
    refine ⟨⟨hc.1.1, by simpa [isTrimmed] using hc.1.2⟩, ?_, hmark (by decide)⟩
    simp only [endsAuthority, Bool.or_eq_false_iff, beq_eq_false_iff_ne]
    exact ⟨⟨⟨hmark (by decide), hmark (by decide)⟩, hmark (by decide)⟩, hmark (by decide)⟩
  cases h with
  | plain _ hall => exact hplain (hall c hc)
  | bracketed hall =>
    simp only [List.mem_cons, List.mem_append, List.not_mem_nil, or_false] at hc
    rcases hc with rfl | hc | rfl
    · exact ⟨⟨by decide, by decide⟩, by decide, by decide⟩
    · rcases hall c hc with hc | rfl
      · exact hplain hc
      · exact ⟨⟨by decide, by decide⟩, by decide, by decide⟩
    · exact ⟨⟨by decide, by decide⟩, by decide, by decide⟩

/-- The text of a host is not empty. -/
theorem ne_nil_of_isHostText (h : Host.IsHostText host) : host ≠ [] := by
  cases h with
  | plain hne _ => exact hne
  | bracketed => simp

/-- What follows the first colon of an address. -/
theorem afterScheme?_eq_some {secure : Bool} {rest : List Char} (hbefore : ':' ∉ before)
    (h : afterScheme? (before ++ ':' :: after) = some (secure, rest)) : rest = after := by
  have hkeep : ∀ c ∈ before, (c != ':') = true := fun c hc => by
    simpa using fun heq : c = ':' => hbefore (heq ▸ hc)
  have hdrop : (before ++ ':' :: after).dropWhile (· != ':') = ':' :: after := by
    rw [List.dropWhile_append_of_pos hkeep, List.dropWhile_cons_of_neg (by simp)]
  simp only [afterScheme?, hdrop, List.isEmpty_cons, Bool.false_eq_true, if_false, List.drop_one,
    List.tail_cons] at h
  split at h
  · cases h
    rfl
  · split at h
    · cases h
      rfl
    · cases h

/-- What follows the last `@` of an authority. -/
theorem withoutUser_append (huser : user = [] ∨ ∃ name, user = name ++ ['@'])
    (hafter : '@' ∉ after) : withoutUser (user ++ after) = after := by
  have hkeep : ∀ c ∈ after.reverse, (c != '@') = true := fun c hc => by
    simpa using fun heq : c = '@' => hafter (heq ▸ List.mem_reverse.1 hc)
  rcases huser with rfl | ⟨name, rfl⟩
  · rw [withoutUser, List.nil_append, List.takeWhile_eq_self_iff.2 hkeep, List.reverse_reverse]
  · have hreverse : (name ++ ['@'] ++ after).reverse = after.reverse ++ '@' :: name.reverse := by
      simp
    rw [withoutUser, hreverse, List.takeWhile_append_of_pos hkeep,
      List.takeWhile_cons_of_neg (by simp), List.append_nil, List.reverse_reverse]

/-- A run without colons and brackets belongs to the host. -/
theorem splitHost_append (h : ∀ c ∈ host, c ≠ ':' ∧ c ≠ '[' ∧ c ≠ ']') (after : List Char) :
    splitHost false (host ++ after) =
      (host ++ (splitHost false after).1, (splitHost false after).2) := by
  induction host with
  | nil => rfl
  | cons c host ih =>
    obtain ⟨⟨hcolon, hopen, hclose⟩, hhost⟩ := List.forall_mem_cons.1 h
    rw [List.cons_append, splitHost, if_neg (by simp [hcolon]), if_neg hopen, if_neg hclose,
      ih hhost]
    rfl

/-- What stands in brackets belongs to the host. -/
theorem splitHost_bracketed {inside : List Char} (h : ∀ c ∈ inside, c ≠ '[' ∧ c ≠ ']')
    (after : List Char) : splitHost false ('[' :: (inside ++ ']' :: after)) =
      ('[' :: (inside ++ ']' :: (splitHost false after).1), (splitHost false after).2) := by
  have hinside : splitHost true (inside ++ ']' :: after) =
      (inside ++ ']' :: (splitHost false after).1, (splitHost false after).2) := by
    induction inside with
    | nil => rfl
    | cons c inside ih =>
      obtain ⟨⟨hopen, hclose⟩, hinside⟩ := List.forall_mem_cons.1 h
      rw [List.cons_append, splitHost, if_neg (by simp), if_neg hopen, if_neg hclose, ih hinside]
      rfl
  rw [splitHost, if_neg (by simp), if_pos rfl, hinside]

/-- The text of a host in front of what may be a port is what the host is read from. -/
theorem parse?_of_splitHost (hhost : Host.IsHostText host)
    (hport : port = [] ∨ (∃ digits, port = ':' :: digits) ∨ host.head? = some '[') {h : Host}
    (hread : Host.parse? (splitHost false (host ++ port)).1 = some h) :
    Host.parse? host = some h := by
  cases hhost with
  | plain _ hall =>
    have hmarks : ∀ c ∈ host, c ≠ ':' ∧ c ≠ '[' ∧ c ≠ ']' := fun c hc =>
      ⟨Host.ne_of_isHostChar (hall c hc) (by decide),
        Host.ne_of_isHostChar (hall c hc) (by decide),
        Host.ne_of_isHostChar (hall c hc) (by decide)⟩
    have hnone : (splitHost false port).1 = [] := by
      rcases hport with rfl | ⟨digits, rfl⟩ | hhead
      · rfl
      · rw [splitHost, if_pos (by simp)]
      · exact absurd rfl (hmarks '[' (List.mem_of_mem_head? hhead)).2.1
    rwa [splitHost_append hmarks, hnone, List.append_nil] at hread
  | @bracketed inside hall =>
    have hmarks : ∀ c ∈ inside, c ≠ '[' ∧ c ≠ ']' := by
      refine fun c hc => ⟨?_, ?_⟩ <;>
      · rintro rfl
        exact absurd (hall _ hc) (by decide)
    have hform : '[' :: (inside ++ [']']) ++ port = '[' :: (inside ++ ']' :: port) := by simp
    rw [hform, splitHost_bracketed hmarks] at hread
    -- Anything between the bracket and the port would be read as part of the groups.
    rcases List.eq_nil_or_concat (splitHost false port).1 with hnone | ⟨more, last, hmore⟩
    · rwa [hnone] at hread
    · exfalso
      rw [hmore] at hread
      have hform : '[' :: (inside ++ ']' :: (more.concat last)) =
          '[' :: ((inside ++ ']' :: more) ++ [last]) := by simp
      simp only [hform, Host.parse?, List.getLast?_append, List.getLast?_singleton,
        List.dropLast_concat, Option.ite_none_right_eq_some] at hread
      obtain ⟨groups, hgroups, -⟩ := Option.map_eq_some_iff.1 hread.2
      exact absurd (Address.isGroupChar_of_groups? hgroups ']' (by simp)) (by decide)

/-! ## Addresses as they stand -/

/-- The characters of an address that is made of its parts. -/
def written (scheme user host port tail : List Char) : List Char :=
  scheme ++ ':' :: '/' :: '/' :: (user ++ (host ++ (port ++ tail)))

/-- The parts of an address as they stand in a text, each where its neighbours end. -/
structure Stands (text : String) (scheme user host port tail : List Char) : Prop where
  eq : text.toList = written scheme user host port tail
  noColon : ':' ∉ scheme
  userEnds : user = [] ∨ ∃ name, user = name ++ ['@']
  userInside : ∀ c ∈ user, endsAuthority c = false
  isHostText : Host.IsHostText host
  portBegins : port = [] ∨ (∃ digits, port = ':' :: digits) ∨ host.head? = some '['
  noUser : '@' ∉ port
  tailBegins : ∀ c ∈ tail.head?, IsSolid c ∧ endsAuthority c = true

/-- What is left of a port and what follows it is some of the port, up to the end of the
authority. -/
theorem mem_of_mem_takeWhile_cleanEnd (htail : ∀ c ∈ tail.head?, IsSolid c ∧ endsAuthority c = true)
    (hc : c ∈ (cleanEnd (port ++ tail)).takeWhile fun c => ! endsAuthority c) : c ∈ port := by
  cases tail with
  | nil =>
    rw [List.append_nil] at hc
    exact mem_of_mem_cleanEnd ((List.takeWhile_prefix _).subset hc)
  | cons x tail =>
    obtain ⟨hsolid, hends⟩ := htail x rfl
    rw [cleanEnd_append_cons hsolid, List.takeWhile_append] at hc
    split at hc
    · rw [List.takeWhile_cons_of_neg (by simp [hends]), List.append_nil] at hc
      exact List.mem_of_mem_filter hc
    · exact List.mem_of_mem_filter ((List.takeWhile_prefix _).subset hc)

/-- What is left of a port begins as the port does. -/
theorem takeWhile_cleanEnd_cases
    (htail : ∀ c ∈ tail.head?, IsSolid c ∧ endsAuthority c = true)
    (hport : port = [] ∨ ∃ digits, port = ':' :: digits) :
    ((cleanEnd (port ++ tail)).takeWhile fun c => ! endsAuthority c) = [] ∨
      ∃ digits, ((cleanEnd (port ++ tail)).takeWhile fun c => ! endsAuthority c) =
        ':' :: digits := by
  rcases hport with rfl | ⟨digits, rfl⟩
  · exact .inl (List.eq_nil_iff_forall_not_mem.2 fun c hc =>
      absurd (mem_of_mem_takeWhile_cleanEnd htail hc) List.not_mem_nil)
  · have hcolon : IsSolid ':' := ⟨by decide, by decide⟩
    rw [List.cons_append, cleanEnd_cons hcolon, List.takeWhile_cons_of_pos (by decide)]
    exact .inr ⟨_, rfl⟩

/-- What is read of an address is its scheme, the slashes, what is left of the user, the host, and
what is left of all that follows it. -/
theorem Stands.clean {text : String} (h : Stands text scheme user host port tail) :
    clean (Text.trim text).toList = cleanStart scheme ++ ':' :: '/' :: '/' ::
      ((user.filter fun c => ! isPassedOver c) ++ (host ++ cleanEnd (port ++ tail))) := by
  have hcolon : IsSolid ':' := ⟨by decide, by decide⟩
  have hslash : IsSolid '/' := ⟨by decide, by decide⟩
  have hsolid : ∀ c ∈ host, IsSolid c := fun c hc => (isSolid_of_isHostText h.isHostText hc).1
  obtain ⟨x, more, rfl⟩ := List.exists_cons_of_ne_nil (ne_nil_of_isHostText h.isHostText)
  obtain ⟨hx, hmore⟩ := List.forall_mem_cons.1 hsolid
  rw [Text.trim, String.toList_ofList, h.eq, written, clean_trimChars hcolon, cleanEnd_cons hslash,
    cleanEnd_cons hslash]
  simp only [List.cons_append]
  rw [cleanEnd_append_cons hx, cleanEnd_append hmore]

/-- What is left of a user ends as the user does. -/
theorem filter_user (h : user = [] ∨ ∃ name, user = name ++ ['@']) :
    (user.filter fun c => ! isPassedOver c) = [] ∨
      ∃ name, (user.filter fun c => ! isPassedOver c) = name ++ ['@'] := by
  rcases h with rfl | ⟨name, rfl⟩
  · exact .inl rfl
  · exact .inr ⟨name.filter fun c => ! isPassedOver c, by
      rw [List.filter_append, List.filter_cons_of_pos (by decide), List.filter_nil]⟩

/-- The authority of an address: up to what ends it, after any slashes. -/
def authorityOf (rest : List Char) : List Char :=
  (rest.dropWhile fun c => c == '/' || c == '\\').takeWhile fun c => ! endsAuthority c

/-- The host of an address that is read is read from its authority. -/
theorem parse?_eq_some {text : String} {address : WebAddress} (h : parse? text = some address) :
    ∃ secure rest, afterScheme? (WebAddress.clean text.toList) = some (secure, rest) ∧
      Host.parse? (splitHost false (withoutUser (authorityOf rest))).1 = some address.host := by
  rw [parse?] at h
  obtain ⟨⟨secure, rest⟩, hscheme, h⟩ := Option.bind_eq_some_iff.1 h
  obtain ⟨host, hhost, h⟩ := Option.bind_eq_some_iff.1 h
  obtain ⟨port, -, h⟩ := Option.bind_eq_some_iff.1 h
  cases h
  exact ⟨secure, rest, hscheme, hhost⟩

/-- The authority begins after two slashes, if no other one follows them. -/
theorem authorityOf_slashes (hne : before ≠ []) (h : ∀ c ∈ before, endsAuthority c = false) :
    authorityOf ('/' :: '/' :: (before ++ after)) =
      before ++ after.takeWhile fun c => ! endsAuthority c := by
  obtain ⟨x, more, rfl⟩ := List.exists_cons_of_ne_nil hne
  have hx : ¬ (x == '/' || x == '\\') = true := by
    have := h x List.mem_cons_self
    simp only [endsAuthority, Bool.or_eq_false_iff] at this
    simp [this.1.1]
  rw [authorityOf, List.dropWhile_cons_of_pos (by decide), List.dropWhile_cons_of_pos (by decide),
    List.cons_append, List.dropWhile_cons_of_neg (p := fun c => c == '/' || c == '\\') hx,
    ← List.cons_append,
    List.takeWhile_append_of_pos fun c hc => by simp [h c hc]]

/-- **The host of an address is read from where it stands.** -/
theorem parse?_host {text : String} {address : WebAddress}
    (h : Stands text scheme user host port tail) (hread : parse? (Text.trim text) = some address) :
    Host.parse? host = some address.host := by
  obtain ⟨secure, rest, hscheme, hread⟩ := parse?_eq_some hread
  have hcolon : ':' ∉ cleanStart scheme := fun hmem =>
    h.noColon ((List.dropWhile_sublist _).mem
      ((List.dropWhile_sublist _).mem (List.mem_of_mem_filter hmem)))
  rw [h.clean] at hscheme
  obtain rfl := afterScheme?_eq_some hcolon hscheme
  have hinside : ∀ c ∈ (user.filter fun c => ! isPassedOver c) ++ host,
      endsAuthority c = false := by
    intro c hc
    rcases List.mem_append.1 hc with hc | hc
    · exact h.userInside c (List.mem_of_mem_filter hc)
    · exact (isSolid_of_isHostText h.isHostText hc).2.1
  have hne : (user.filter fun c => ! isPassedOver c) ++ host ≠ [] :=
    List.append_ne_nil_of_right_ne_nil _ (ne_nil_of_isHostText h.isHostText)
  rw [← List.append_assoc, authorityOf_slashes hne hinside, List.append_assoc,
    withoutUser_append (filter_user h.userEnds)] at hread
  · refine parse?_of_splitHost h.isHostText ?_ hread
    rcases h.portBegins with hport | hport | hbracket
    · exact (takeWhile_cleanEnd_cases h.tailBegins (.inl hport)).imp_right .inl
    · exact (takeWhile_cleanEnd_cases h.tailBegins (.inr hport)).imp_right .inl
    · exact .inr (.inr hbracket)
  · intro hmem
    rcases List.mem_append.1 hmem with hmem | hmem
    · exact (isSolid_of_isHostText h.isHostText hmem).2.2 rfl
    · exact h.noUser (mem_of_mem_takeWhile_cleanEnd h.tailBegins hmem)

end ProxyFilter.WebAddress
