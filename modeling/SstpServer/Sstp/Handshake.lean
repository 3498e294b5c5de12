import SstpServer.Sstp.Preamble

/-!
# Reading the preamble

The server reads until it has seen the empty line behind the header lines, checks the request and
answers; the packet loop then starts with an empty buffer and gets the reads that are left.  What
a read brings beyond the empty line is checked along with the header and not passed on.
-/

namespace SstpServer.Sstp

open SstpServer.Wire

/-! ## The handshake -/

/-- Most bytes of a header block. -/
def maxHeaderBytes : Nat := 4096

/-- Most bytes that a read brings. -/
def preambleChunk : Nat := 512

/-- The offset behind the first empty line. -/
def findHeaderTerminator : Bytes → Option Nat
  | [] => none
  | byte :: rest =>
      if headerTerminator <+: byte :: rest then some 4
      else (findHeaderTerminator rest).map (· + 1)

/-- Why the preamble fails. -/
inductive PreambleError where
  | io
  | eof (count : Nat)
  | tooLarge
  | bad (request : BadRequest)
  deriving DecidableEq, Repr

/-- The bytes of one read. -/
abbrev ReadChunk := { bytes : Bytes // bytes ≠ [] ∧ bytes.length ≤ preambleChunk }

/-- How the stream ends. -/
inductive ReadEnd where
  | eof
  | failed
  deriving DecidableEq, Repr

def ReadEnd.error (count : Nat) : ReadEnd → PreambleError
  | .eof => .eof count
  | .failed => .io

/-- The bytes of some reads. -/
def streamOf (chunks : List ReadChunk) : Bytes :=
  (chunks.map Subtype.val).flatten

/-- Read until the buffer has an empty line.  The reads that are left belong to the packet
loop. -/
def readHeaderBlock (ends : ReadEnd) (buf : Bytes) :
    List ReadChunk → Except PreambleError Bytes × List ReadChunk
  | [] => (.error (ends.error buf.length), [])
  | chunk :: rest =>
      if maxHeaderBytes < buf.length + chunk.1.length then (.error .tooLarge, rest)
      else if (findHeaderTerminator (buf ++ chunk.1)).isSome then (.ok (buf ++ chunk.1), rest)
      else readHeaderBlock ends (buf ++ chunk.1) rest

/-- Check the header block and answer the request. -/
def answer (writeOk : Bool) (raw : Bytes) : Except PreambleError Preamble :=
  match parseRequest raw with
  | .error request => .error (.bad request)
  | .ok preamble => if writeOk then .ok preamble else .error .io

/-- The handshake over some reads, and the reads it leaves. -/
def handshake (ends : ReadEnd) (writeOk : Bool) (chunks : List ReadChunk) :
    Except PreambleError Preamble × List ReadChunk :=
  match readHeaderBlock ends [] chunks with
  | (.error error, rest) => (.error error, rest)
  | (.ok raw, rest) => (answer writeOk raw, rest)

/-! ## The end of the header block -/

theorem eq_append_of_findHeaderTerminator {text : Bytes} {offset : Nat}
    (found : findHeaderTerminator text = some offset) :
    ∃ head after, text = head ++ headerTerminator ++ after ∧
      offset = (head ++ headerTerminator).length := by
  induction text generalizing offset with
  | nil => cases found
  | cons byte rest ih =>
    unfold findHeaderTerminator at found
    split_ifs at found with here
    · rcases here with ⟨after, starts⟩
      cases found
      exact ⟨[], after, starts.symm, rfl⟩
    · rcases Option.map_eq_some_iff.mp found with ⟨inner, foundInner, rfl⟩
      rcases ih foundInner with ⟨head, after, rfl, rfl⟩
      exact ⟨byte :: head, after, rfl, rfl⟩

theorem findHeaderTerminator_bounds {text : Bytes} {offset : Nat}
    (found : findHeaderTerminator text = some offset) : 4 ≤ offset ∧ offset ≤ text.length := by
  rcases eq_append_of_findHeaderTerminator found with ⟨head, after, rfl, rfl⟩
  simp [headerTerminator]

/-- The first empty line of a text is that of every longer text, and the other way round where it
does not reach into the bytes added. -/
theorem findHeaderTerminator_eq_some_iff (text more : Bytes) (offset : Nat) :
    findHeaderTerminator text = some offset ↔
      findHeaderTerminator (text ++ more) = some offset ∧ offset ≤ text.length := by
  induction text generalizing offset with
  | nil =>
    constructor
    · intro found
      cases found
    · rintro ⟨found, reaches⟩
      have atLeast := (findHeaderTerminator_bounds found).1
      simp at reaches
      omega
  | cons byte rest ih =>
    rw [List.cons_append, findHeaderTerminator, findHeaderTerminator]
    by_cases starts : headerTerminator <+: byte :: (rest ++ more)
    · by_cases fits : 4 ≤ (byte :: rest).length
      · have here : headerTerminator <+: byte :: rest :=
          List.prefix_of_prefix_length_le starts ⟨more, rfl⟩ fits
        rw [if_pos here, if_pos starts]
        constructor
        · intro found
          cases found
          exact ⟨rfl, fits⟩
        · exact And.left
      · have notHere : ¬headerTerminator <+: byte :: rest := fun here => fits here.length_le
        rw [if_neg notHere, if_pos starts]
        constructor
        · intro found
          rcases Option.map_eq_some_iff.mp found with ⟨inner, foundInner, rfl⟩
          have bounds := findHeaderTerminator_bounds foundInner
          simp only [List.length_cons] at fits
          omega
        · rintro ⟨found, reaches⟩
          cases found
          exact absurd reaches fits
    · have notHere : ¬headerTerminator <+: byte :: rest :=
        fun here => starts (here.trans ⟨more, rfl⟩)
      rw [if_neg notHere, if_neg starts]
      cases offset with
      | zero => simp
      | succ inner => simpa using ih inner

/-- Reading on shows whether the empty line has been read. -/
theorem isSome_findHeaderTerminator_iff {text more : Bytes} {offset : Nat}
    (found : findHeaderTerminator (text ++ more) = some offset) :
    (findHeaderTerminator text).isSome ↔ offset ≤ text.length := by
  rw [Option.isSome_iff_exists]
  constructor
  · rintro ⟨first, early⟩
    rcases (findHeaderTerminator_eq_some_iff text more first).mp early with ⟨same, reaches⟩
    cases found.symm.trans same
    exact reaches
  · intro reaches
    exact ⟨offset, (findHeaderTerminator_eq_some_iff text more offset).mpr ⟨found, reaches⟩⟩

/-! ## What the reads bring -/

/-- What the read that brings the end of the header block brings beyond it. -/
def overread (offset : Nat) : List ReadChunk → Bytes
  | [] => []
  | chunk :: rest =>
      if offset ≤ chunk.1.length then chunk.1.drop offset
      else overread (offset - chunk.1.length) rest

@[simp]
theorem streamOf_nil : streamOf [] = [] :=
  rfl

@[simp]
theorem streamOf_cons (chunk : ReadChunk) (rest : List ReadChunk) :
    streamOf (chunk :: rest) = chunk.1 ++ streamOf rest := by
  simp [streamOf]

theorem append_streamOf_cons (buf : Bytes) (chunk : ReadChunk) (rest : List ReadChunk) :
    buf ++ streamOf (chunk :: rest) = buf ++ chunk.1 ++ streamOf rest := by
  rw [streamOf_cons, List.append_assoc]

/-- Without an empty line within the limit, the stream is too large or ends too early. -/
theorem readHeaderBlock_of_absent (ends : ReadEnd) (buf : Bytes) (chunks : List ReadChunk)
    (small : buf.length ≤ maxHeaderBytes)
    (absent : ∀ offset, findHeaderTerminator (buf ++ streamOf chunks) = some offset →
      maxHeaderBytes < offset) :
    (readHeaderBlock ends buf chunks).1 =
      .error (if maxHeaderBytes < (buf ++ streamOf chunks).length then .tooLarge
        else ends.error (buf ++ streamOf chunks).length) := by
  induction chunks generalizing buf with
  | nil =>
    rw [streamOf_nil, List.append_nil, if_neg (Nat.not_lt.mpr small)]
    rfl
  | cons chunk rest ih =>
    rw [append_streamOf_cons] at absent ⊢
    unfold readHeaderBlock
    by_cases large : maxHeaderBytes < buf.length + chunk.1.length
    · have largeStream : maxHeaderBytes < (buf ++ chunk.1 ++ streamOf rest).length := by
        simp only [List.length_append]
        omega
      rw [if_pos large, if_pos largeStream]
    · have none : ¬(findHeaderTerminator (buf ++ chunk.1)).isSome := by
        intro found
        rcases Option.isSome_iff_exists.mp found with ⟨offset, found⟩
        have beyond := absent offset ((findHeaderTerminator_eq_some_iff _ _ _).mp found).1
        have within := (findHeaderTerminator_bounds found).2
        rw [List.length_append] at within
        omega
      rw [if_neg large, if_neg none]
      apply ih
      · rw [List.length_append]
        omega
      · exact absent

/-- The read that completes the header block, in two parts. -/
theorem take_append_drop_chunk {buf chunk : Bytes} {offset : Nat} (rest : Bytes)
    (pending : buf.length < offset) (completes : offset - buf.length ≤ chunk.length) :
    (buf ++ chunk ++ rest).take offset ++ chunk.drop (offset - buf.length) = buf ++ chunk := by
  have cut : (buf ++ chunk ++ rest).take offset = buf ++ chunk.take (offset - buf.length) := by
    rw [List.append_assoc, List.take_append, List.take_of_length_le pending.le,
      List.take_append_of_le_length completes]
  rw [cut, List.append_assoc, List.take_append_drop]

/-- With an empty line within the limit, the read that brings it brings what follows it too. -/
theorem readHeaderBlock_of_found (ends : ReadEnd) (buf : Bytes) {chunks : List ReadChunk}
    {offset : Nat} (found : findHeaderTerminator (buf ++ streamOf chunks) = some offset)
    (within : offset ≤ maxHeaderBytes) (pending : buf.length < offset) :
    ∃ rest, buf ++ streamOf chunks =
        (buf ++ streamOf chunks).take offset ++ overread (offset - buf.length) chunks ++
          streamOf rest ∧
      readHeaderBlock ends buf chunks =
        (if maxHeaderBytes < offset + (overread (offset - buf.length) chunks).length then
            .error .tooLarge
          else .ok ((buf ++ streamOf chunks).take offset ++
            overread (offset - buf.length) chunks), rest) := by
  induction chunks generalizing buf with
  | nil =>
    have reaches := (findHeaderTerminator_bounds found).2
    rw [streamOf_nil, List.append_nil] at reaches
    omega
  | cons chunk rest ih =>
    rw [append_streamOf_cons] at found ⊢
    have ends_here := isSome_findHeaderTerminator_iff found
    rw [List.length_append] at ends_here
    unfold readHeaderBlock overread
    by_cases completes : offset - buf.length ≤ chunk.1.length
    · have count : offset + (chunk.1.drop (offset - buf.length)).length =
          buf.length + chunk.1.length := by
        rw [List.length_drop]
        omega
      rw [if_pos completes, take_append_drop_chunk _ pending completes, count,
        if_pos (ends_here.mpr (by omega))]
      refine ⟨rest, rfl, ?_⟩
      split_ifs <;> rfl
    · have notLarge : ¬maxHeaderBytes < buf.length + chunk.1.length := by omega
      have notYet : ¬(findHeaderTerminator (buf ++ chunk.1)).isSome := by
        rw [ends_here]
        omega
      have left : offset - (buf ++ chunk.1).length = offset - buf.length - chunk.1.length := by
        rw [List.length_append]
        omega
      rw [if_neg completes, if_neg notLarge, if_neg notYet, ← left]
      apply ih (buf ++ chunk.1) found
      rw [List.length_append]
      omega

/-! ## Independence of the reads -/

/-- The outcome of a stream that is cut behind its empty line. -/
def outcomeOf (ends : ReadEnd) (writeOk : Bool) (stream : Bytes) :
    Except PreambleError Preamble :=
  match (findHeaderTerminator stream).filter (· ≤ maxHeaderBytes) with
  | some offset => answer writeOk (stream.take offset)
  | none =>
      .error (if maxHeaderBytes < stream.length then .tooLarge else ends.error stream.length)

/-- The handshake has the outcome of the stream, and the packet loop gets all that follows the
empty line. -/
def Lossless (ends : ReadEnd) (writeOk : Bool) (chunks : List ReadChunk) : Prop :=
  (handshake ends writeOk chunks).1 = outcomeOf ends writeOk (streamOf chunks) ∧
    ∀ preamble offset, (handshake ends writeOk chunks).1 = .ok preamble →
      findHeaderTerminator (streamOf chunks) = some offset →
        streamOf (handshake ends writeOk chunks).2 = (streamOf chunks).drop offset

theorem answer_eq_ok_iff (writeOk : Bool) (raw : Bytes) :
    (∃ preamble, answer writeOk raw = .ok preamble) ↔ writeOk = true ∧ IsRequest raw := by
  rw [← parseRequest_eq_ok_iff]
  unfold answer
  cases parseRequest raw <;> cases writeOk <;> simp

theorem answer_eq_nonAscii_iff (writeOk : Bool) (raw : Bytes) :
    answer writeOk raw = .error (.bad .nonAscii) ↔ ¬IsAscii raw := by
  rw [← parseRequest_eq_nonAscii_iff]
  unfold answer
  cases parseRequest raw <;> cases writeOk <;> simp

theorem answer_ne_tooLarge (writeOk : Bool) (raw : Bytes) :
    answer writeOk raw ≠ .error .tooLarge := by
  unfold answer
  cases parseRequest raw <;> cases writeOk <;> simp

theorem answer_append {stream : Bytes} {offset : Nat} (writeOk : Bool) (extra : Bytes)
    (found : findHeaderTerminator stream = some offset) :
    answer writeOk (stream.take offset ++ extra) =
      if IsAscii extra then answer writeOk (stream.take offset)
      else .error (.bad .nonAscii) := by
  rcases eq_append_of_findHeaderTerminator found with ⟨head, after, rfl, rfl⟩
  rw [List.take_left]
  split_ifs with isAscii
  · unfold answer
    rw [parseRequest_append head extra isAscii]
  · rw [answer_eq_nonAscii_iff, isAscii_append_iff]
    exact fun both => isAscii both.2

theorem handshake_of_found (ends : ReadEnd) (writeOk : Bool) {chunks : List ReadChunk}
    {offset : Nat} (found : findHeaderTerminator (streamOf chunks) = some offset)
    (within : offset ≤ maxHeaderBytes) :
    ∃ rest, (streamOf chunks).drop offset = overread offset chunks ++ streamOf rest ∧
      handshake ends writeOk chunks =
        (if maxHeaderBytes < offset + (overread offset chunks).length then .error .tooLarge
          else answer writeOk ((streamOf chunks).take offset ++ overread offset chunks), rest) := by
  have bounds := findHeaderTerminator_bounds found
  have pending : ([] : Bytes).length < offset := by
    rw [List.length_nil]
    omega
  rcases readHeaderBlock_of_found ends [] found within pending with
    ⟨rest, stream, block⟩
  rw [List.nil_append, List.length_nil, Nat.sub_zero] at stream block
  have left : (streamOf chunks).drop offset = overread offset chunks ++ streamOf rest := by
    have cut := List.take_append_drop offset (streamOf chunks)
    nth_rewrite 3 [stream] at cut
    rw [List.append_assoc] at cut
    exact List.append_cancel_left cut
  refine ⟨rest, left, ?_⟩
  unfold handshake
  rw [block]
  split_ifs <;> rfl

theorem outcomeOf_of_found (ends : ReadEnd) (writeOk : Bool) {stream : Bytes} {offset : Nat}
    (found : findHeaderTerminator stream = some offset) (within : offset ≤ maxHeaderBytes) :
    outcomeOf ends writeOk stream = answer writeOk (stream.take offset) := by
  unfold outcomeOf
  rw [found, Option.filter_some, if_pos (decide_eq_true within)]

theorem lossless_of_absent (ends : ReadEnd) (writeOk : Bool) {chunks : List ReadChunk}
    (absent : ∀ offset, findHeaderTerminator (streamOf chunks) = some offset →
      maxHeaderBytes < offset) :
    Lossless ends writeOk chunks := by
  have beyond : (findHeaderTerminator (streamOf chunks)).filter (· ≤ maxHeaderBytes) = none := by
    rw [Option.filter_eq_none_iff]
    intro offset found within
    exact absurd (absent offset found) (Nat.not_lt.mpr (of_decide_eq_true within))
  have refused := readHeaderBlock_of_absent ends [] chunks (Nat.zero_le _) absent
  rw [List.nil_append] at refused
  have outcome : (handshake ends writeOk chunks).1 = outcomeOf ends writeOk (streamOf chunks) := by
    unfold handshake outcomeOf
    rw [beyond]
    rcases block : readHeaderBlock ends [] chunks with ⟨result, rest⟩
    rw [block] at refused
    dsimp only at refused
    rw [refused]
  refine ⟨outcome, ?_⟩
  intro preamble offset accepted
  rw [outcome, outcomeOf, beyond] at accepted
  cases accepted

section Found

variable (ends : ReadEnd) (writeOk : Bool) {chunks : List ReadChunk} {offset : Nat}
  (found : findHeaderTerminator (streamOf chunks) = some offset)
  (within : offset ≤ maxHeaderBytes)

include found within

/-- What is read too much changes the outcome when it breaks the limit or brings the first byte
that is no ASCII. -/
theorem handshake_eq_outcomeOf_iff :
    (handshake ends writeOk chunks).1 = outcomeOf ends writeOk (streamOf chunks) ↔
      offset + (overread offset chunks).length ≤ maxHeaderBytes ∧
        (IsAscii ((streamOf chunks).take offset) → IsAscii (overread offset chunks)) := by
  rcases handshake_of_found ends writeOk found within with ⟨rest, -, shaken⟩
  rw [shaken, outcomeOf_of_found ends writeOk found within, answer_append writeOk _ found]
  dsimp only
  split_ifs with large isAscii
  · exact iff_of_false (answer_ne_tooLarge _ _).symm fun fits => absurd fits.1 (Nat.not_le.mpr large)
  · exact iff_of_true rfl ⟨Nat.not_lt.mp large, fun _ => isAscii⟩
  · rw [eq_comm, answer_eq_nonAscii_iff]
    simp [Nat.not_lt.mp large, isAscii]

/-- The packet loop misses what is read too much. -/
theorem streamOf_handshake_eq_drop_iff :
    streamOf (handshake ends writeOk chunks).2 = (streamOf chunks).drop offset ↔
      overread offset chunks = [] := by
  rcases handshake_of_found ends writeOk found within with ⟨rest, left, shaken⟩
  rw [shaken, left]
  exact List.self_eq_append_left

/-- Where the empty line is within the limit, nothing may follow it in the read that brings it,
except behind a request that is refused in any case. -/
theorem lossless_iff_of_found :
    Lossless ends writeOk chunks ↔
      overread offset chunks = [] ∨
        ¬(writeOk = true ∧ IsRequest ((streamOf chunks).take offset)) ∧
          offset + (overread offset chunks).length ≤ maxHeaderBytes ∧
          (IsAscii ((streamOf chunks).take offset) → IsAscii (overread offset chunks)) := by
  have outcome := handshake_eq_outcomeOf_iff ends writeOk found within
  have delivered := streamOf_handshake_eq_drop_iff ends writeOk found within
  have accepted := answer_eq_ok_iff writeOk ((streamOf chunks).take offset)
  constructor
  · rintro ⟨same, lossless⟩
    by_cases request : writeOk = true ∧ IsRequest ((streamOf chunks).take offset)
    · rcases accepted.mpr request with ⟨preamble, answered⟩
      rw [← outcomeOf_of_found ends writeOk found within, ← same] at answered
      exact .inl (delivered.mp (lossless preamble offset answered found))
    · exact .inr ⟨request, outcome.mp same⟩
  · rintro (nothing | ⟨refused, fits⟩)
    · refine ⟨outcome.mpr ?_, ?_⟩
      · rw [nothing]
        exact ⟨within, fun _ => List.forall_mem_nil _⟩
      · intro preamble first _ foundFirst
        cases found.symm.trans foundFirst
        exact delivered.mpr nothing
    · have same := outcome.mpr fits
      refine ⟨same, ?_⟩
      intro preamble first answered
      rw [same, outcomeOf_of_found ends writeOk found within] at answered
      exact absurd (accepted.mp ⟨preamble, answered⟩) refused

end Found

/-- For every stream and every way to read it, the handshake has the outcome of the stream and
passes on all that follows the header block, if and only if the read that brings its end brings
nothing else, or the request is refused in any case and what is read too much neither breaks the
limit nor brings the first byte that is no ASCII. -/
theorem lossless_iff (ends : ReadEnd) (writeOk : Bool) (chunks : List ReadChunk) :
    Lossless ends writeOk chunks ↔
      ∀ offset, findHeaderTerminator (streamOf chunks) = some offset → offset ≤ maxHeaderBytes →
        overread offset chunks = [] ∨
          ¬(writeOk = true ∧ IsRequest ((streamOf chunks).take offset)) ∧
            offset + (overread offset chunks).length ≤ maxHeaderBytes ∧
            (IsAscii ((streamOf chunks).take offset) → IsAscii (overread offset chunks)) := by
  constructor
  · intro lossless offset found within
    exact (lossless_iff_of_found ends writeOk found within).mp lossless
  · intro condition
    by_cases within : ∃ offset, findHeaderTerminator (streamOf chunks) = some offset ∧
        offset ≤ maxHeaderBytes
    · rcases within with ⟨offset, found, within⟩
      exact (lossless_iff_of_found ends writeOk found within).mpr (condition offset found within)
    · apply lossless_of_absent
      intro offset found
      exact Nat.not_le.mp fun fits => within ⟨offset, found, fits⟩

/-- A request, and the packet that the client sends next. -/
def pipelinedRequest : Bytes :=
  ascii "SSTP_DUPLEX_POST /sra_\x7bBA195980-CD49-458b-9E23-C84EE0ADCD75\x7d/ HTTP/1.1\r\n" ++
    ascii "Content-Length: 18446744073709551615\r\n\r\n" ++
    [0x10, 0x01, 0x00, 0x0e, 0x00, 0x01, 0x00, 0x01, 0x00, 0x01, 0x00, 0x06, 0x00, 0x01]

theorem pipelinedRequest_fits :
    pipelinedRequest ≠ [] ∧ pipelinedRequest.length ≤ preambleChunk := by
  simp [pipelinedRequest, ascii, preambleChunk]

/-- In one read with the request, the packet is lost. -/
theorem not_lossless_pipelinedRequest :
    ¬Lossless .eof true [⟨pipelinedRequest, pipelinedRequest_fits⟩] := by
  rintro ⟨-, lossless⟩
  have accepted : (handshake .eof true [⟨pipelinedRequest, pipelinedRequest_fits⟩]).1 =
      .ok ⟨none⟩ := by
    decide +kernel
  have ended : findHeaderTerminator (streamOf [⟨pipelinedRequest, pipelinedRequest_fits⟩]) =
      some 112 := by
    decide +kernel
  have lost := (streamOf_handshake_eq_drop_iff .eof true ended (by decide)).mp
    (lossless ⟨none⟩ 112 accepted ended)
  exact absurd lost (by decide +kernel)

end SstpServer.Sstp
