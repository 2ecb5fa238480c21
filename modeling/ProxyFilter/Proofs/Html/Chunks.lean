import ProxyFilter.Proofs.Html.Scanning

/-!
# Streams in chunks

A body comes as a list of chunks: `Editor.editChunks` feeds them in order from the state in which a
stream begins, ends the stream, and puts what is given out into one run of octets. It stops at the
first error. Between two chunks a state is settled (`StreamState.Settled`): scanning what is kept
settles nothing more. So feeding goes on where one scan of all chunks would have gone on
(`Editor.feedAll_eq`), and what becomes of a body does not depend on where it is cut
(`Editor.editChunks_chunk_invariant`).
-/

namespace ProxyFilter.Html

/-- Between two chunks nothing is held back that scanning could settle. -/
structure StreamState.Settled (r : Editor) (s : StreamState) : Prop where
  unfinished : s.finished = false
  out : s.out = []
  pending : r.scan s.scanner s.pending = ⟨[], s.scanner, .ok s.pending⟩

namespace Editor

/-- Takes chunks in order, up to the first error. -/
def feedAll (r : Editor) (s : StreamState) : List Bytes → StreamState × Except StreamError Bytes
  | [] => (s, .ok [])
  | chunk :: chunks =>
    match r.feed s chunk with
    | (s, .error e) => (s, .error e)
    | (s, .ok out) => ((r.feedAll s chunks).1, (r.feedAll s chunks).2.map (out ++ ·))

/-- Edits a body that comes in chunks. -/
def editChunks (r : Editor) (chunks : List Bytes) : Except StreamError Bytes := do
  let (s, fed) := r.feedAll r.start chunks
  let head ← fed
  let tail ← (r.finish s).2
  return head ++ tail

section
variable {r : Editor} {s : StreamState} {b out rest : Bytes} {scanner scanner' : Scanner}

/-- What a scan leaves is settled: scanning it again settles nothing. -/
theorem scan_rest (h : r.scan scanner b = ⟨out, scanner', .ok rest⟩) :
    r.scan scanner' rest = ⟨[], scanner', .ok rest⟩ := by
  have hagain := scan_append r scanner b []
  simp only [List.append_nil, h, resume] at hagain
  cases hrest : r.scan scanner' rest with
  | mk out' scanner'' rest' =>
    rw [hrest] at hagain
    obtain ⟨hout, rfl, rfl⟩ := Scanned.mk.inj hagain
    obtain rfl : out' = [] := by simpa using hout
    rfl

/-- A stream begins settled. -/
theorem start_settled (r : Editor) : r.start.Settled r := ⟨rfl, rfl, rfl⟩

/-- A chunk that can be scanned leaves a settled state. -/
theorem feed_settled {chunk : Bytes} (hs : s.Settled r)
    (h : r.scan s.scanner (s.pending ++ chunk) = ⟨out, scanner, .ok rest⟩) :
    r.feed s chunk = (⟨rest, [], scanner, false⟩, .ok out) ∧
      StreamState.Settled r ⟨rest, [], scanner, false⟩ := by
  refine ⟨?_, rfl, rfl, scan_rest h⟩
  simp [feed, hs.unfinished, hs.out, h]

/-- A chunk at which scanning fails is refused. -/
theorem feed_error {chunk : Bytes} {e : StreamError} (hs : s.Settled r)
    (h : (r.scan s.scanner (s.pending ++ chunk)).rest = .error e) :
    (r.feed s chunk).2 = .error e := by
  simp [feed, hs.unfinished, h]

/-- The end of a settled stream gives out what is kept. -/
theorem finish_settled (hs : s.Settled r) : (r.finish s).2 = .ok s.pending := by
  simp [finish, hs.unfinished, hs.out, hs.pending]

/-! ## All chunks -/

/-- Chunks are taken one by one as one scan of all of them would take them. By induction on the
chunks; between two of them the state is settled. -/
theorem feedAll_eq (r : Editor) (chunks : List Bytes) (hs : s.Settled r) :
    match r.scan s.scanner (s.pending ++ chunks.flatten) with
    | ⟨out, scanner, .ok rest⟩ => r.feedAll s chunks = (⟨rest, [], scanner, false⟩, .ok out)
    | ⟨_, _, .error e⟩ => (r.feedAll s chunks).2 = .error e := by
  induction chunks generalizing s with
  | nil =>
    obtain ⟨pending, out, scanner, finished⟩ := s
    obtain ⟨rfl, rfl, hpending⟩ := hs
    rw [List.flatten_nil, List.append_nil, hpending]
    rfl
  | cons chunk chunks ih =>
    rw [List.flatten_cons, ← List.append_assoc, scan_append]
    cases hfirst : r.scan s.scanner (s.pending ++ chunk) with
    | mk out scanner left =>
      cases left with
      | error e =>
        have hfeed := feed_error hs (congrArg Scanned.rest hfirst)
        simp only [resume, feedAll]
        split
        · next hchunk => rwa [hchunk] at hfeed
        · next hchunk =>
          rw [hchunk] at hfeed
          cases hfeed
      | ok rest =>
        obtain ⟨hfeed, hsettled⟩ := feed_settled hs hfirst
        have hchunks := ih hsettled
        simp only [resume, feedAll, hfeed, Scanned.prepend]
        cases hscan : r.scan scanner (rest ++ chunks.flatten) with
        | mk out' scanner' left' =>
          rw [hscan] at hchunks
          cases left' with
          | ok rest' =>
            simp only at hchunks ⊢
            rw [hchunks]
            rfl
          | error e =>
            simp only at hchunks ⊢
            rw [hchunks]
            rfl

/-- What becomes of a body in chunks, by one scan of the whole. -/
theorem editChunks_eq (r : Editor) (chunks : List Bytes) : r.editChunks chunks =
    (r.scan r.start.scanner chunks.flatten).rest.map
      ((r.scan r.start.scanner chunks.flatten).out ++ ·) := by
  have hall := r.feedAll_eq chunks r.start_settled
  have hstart : r.start.pending ++ chunks.flatten = chunks.flatten := rfl
  rw [hstart] at hall
  cases hscan : r.scan r.start.scanner chunks.flatten with
  | mk out scanner left =>
    rw [hscan] at hall
    cases left with
    | ok rest =>
      simp only at hall
      have hfinish : (r.finish ⟨rest, [], scanner, false⟩).2 = .ok rest :=
        finish_settled ⟨rfl, rfl, scan_rest hscan⟩
      simp [editChunks, hall, hfinish]
      rfl
    | error e =>
      simp only at hall
      simp [editChunks, hall]
      rfl

/-- A body in one piece is one in a single chunk. -/
theorem editDocument_eq (r : Editor) (body : Bytes) :
    r.editDocument body = r.editChunks [body] := by
  simp only [editDocument, editChunks, feedAll]
  cases r.feed r.start body with
  | mk s fed =>
    cases fed with
    | error e => rfl
    | ok out =>
      simp only [Except.map, List.append_nil]

/-- What becomes of octets after which the stream ends. -/
def outcome (r : Editor) (s : Scanner) (b : Bytes) : Except StreamError Bytes :=
  (r.scan s b).rest.map ((r.scan s b).out ++ ·)

/-- A body in one piece becomes what becomes of its octets. -/
theorem editDocument_eq_outcome (r : Editor) (body : Bytes) :
    r.editDocument body = r.outcome r.start.scanner body := by
  rw [editDocument_eq, editChunks_eq, List.flatten_singleton]
  rfl

/-- Where a scan is another one with octets in front, what becomes of the octets is so too. -/
theorem outcome_of_prepend {s s' : Scanner} {b b' : Bytes}
    (h : r.scan s b = (r.scan s' b').prepend out) :
    r.outcome s b = (r.outcome s' b').map (out ++ ·) := by
  rw [outcome, outcome, h]
  cases hrest : (r.scan s' b').rest <;> simp [Scanned.prepend, hrest, Except.map]

/-- After octets that can be scanned, what they leave goes on with the octets that come next. -/
theorem outcome_append (more : Bytes) (h : r.scan scanner b = ⟨out, scanner', .ok rest⟩) :
    r.outcome scanner (b ++ more) = (r.outcome scanner' (rest ++ more)).map (out ++ ·) := by
  refine outcome_of_prepend ?_
  rw [scan_append, h]
  rfl

/-- After octets at which scanning fails nothing becomes of a stream. -/
theorem outcome_append_of_error {e : StreamError} (more : Bytes)
    (h : r.scan scanner b = ⟨out, scanner', .error e⟩) :
    r.outcome scanner (b ++ more) = .error e := by
  rw [outcome, scan_append, h]
  rfl

/-- **What becomes of a body does not depend on where it is cut into chunks**: two ways to cut it
give the same octets, or fail for the same reason. -/
theorem editChunks_chunk_invariant {body : Bytes} {chunks chunks' : List Bytes}
    (h : chunks.flatten = body) (h' : chunks'.flatten = body) :
    (∃ out, r.editChunks chunks = .ok out ∧ r.editChunks chunks' = .ok out) ∨
      (∃ e, r.editChunks chunks = .error e ∧ r.editChunks chunks' = .error e) := by
  have heq : r.editChunks chunks' = r.editChunks chunks := by
    rw [editChunks_eq, editChunks_eq, h, h']
  cases hresult : r.editChunks chunks with
  | ok out => exact .inl ⟨out, rfl, heq.trans hresult⟩
  | error e => exact .inr ⟨e, rfl, heq.trans hresult⟩

/-- The body `<a>b`, cut inside the tag and around it, with markup to put after the tag. -/
theorem editChunks_cut_in_tag :
    ([[60], [97, 62, 98]] : List Bytes).flatten = [60, 97, 62, 98] ∧
      ([[60, 97, 62], [], [98]] : List Bytes).flatten = [60, 97, 62, 98] ∧
      ((∃ out, (empty.injectAfter ⟨some "a", none⟩ "!").editChunks [[60], [97, 62, 98]] = .ok out ∧
          (empty.injectAfter ⟨some "a", none⟩ "!").editChunks [[60, 97, 62], [], [98]] = .ok out) ∨
        (∃ e, (empty.injectAfter ⟨some "a", none⟩ "!").editChunks [[60], [97, 62, 98]] = .error e ∧
          (empty.injectAfter ⟨some "a", none⟩ "!").editChunks [[60, 97, 62], [], [98]]
            = .error e)) :=
  ⟨rfl, rfl, editChunks_chunk_invariant rfl rfl⟩

end

end Editor

end ProxyFilter.Html
