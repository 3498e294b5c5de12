import Mathlib.Data.List.Basic
import SstpServer.Wire.Bytes

/-!
# The HTTPS preamble

Before any packet the client posts a request to a well-known path.  The bytes of a request are
ASCII, so each is a character of its text.  What follows the empty line behind the headers
counts in the check of the bytes and in no other.
-/

namespace SstpServer.Sstp

open SstpServer.Wire

/-! ## Text -/

/-- The bytes of an ASCII text. -/
def ascii (text : String) : Bytes :=
  text.toList.map fun char => UInt8.ofNat char.toNat

def sstpUri : Bytes := ascii "/sra_\x7bBA195980-CD49-458b-9E23-C84EE0ADCD75\x7d/"

def sstpMethod : Bytes := ascii "SSTP_DUPLEX_POST"

def ulonglongMaxStr : Bytes := ascii "18446744073709551615"

def IsAscii (bytes : Bytes) : Prop :=
  ∀ byte ∈ bytes, byte < 0x80

instance (bytes : Bytes) : Decidable (IsAscii bytes) :=
  inferInstanceAs (Decidable (∀ byte ∈ bytes, byte < 0x80))

/-- The lines of a text that are separated by CR LF. -/
def splitLines : Bytes → List Bytes
  | [] => [[]]
  | 13 :: 10 :: rest => [] :: splitLines rest
  | byte :: rest =>
      match splitLines rest with
      | line :: lines => (byte :: line) :: lines
      | [] => [[byte]]

/-- The two parts around the first colon. -/
def splitOnceColon : Bytes → Option (Bytes × Bytes)
  | [] => none
  | byte :: rest =>
      if byte = 58 then some ([], rest)
      else (splitOnceColon rest).map fun parts => (byte :: parts.1, parts.2)

def isWhitespace (byte : UInt8) : Bool :=
  (9 ≤ byte && byte ≤ 13) || byte = 32

def trim (text : Bytes) : Bytes :=
  ((text.dropWhile isWhitespace).reverse.dropWhile isWhitespace).reverse

def toAsciiLowercase (byte : UInt8) : UInt8 :=
  if 65 ≤ byte ∧ byte ≤ 90 then byte + 32 else byte

def EqIgnoreAsciiCase (first second : Bytes) : Prop :=
  first.map toAsciiLowercase = second.map toAsciiLowercase

instance (first second : Bytes) : Decidable (EqIgnoreAsciiCase first second) :=
  inferInstanceAs (Decidable (_ = _))

/-! ## The request -/

/-- What is wrong with a request. -/
inductive BadRequest where
  | nonAscii
  | emptyRequest
  | missingMethod
  | missingUri
  | missingVersion
  | trailingTokens
  | method
  | uri
  | version
  | missingColon
  | contentLength
  | missingContentLength
  deriving DecidableEq, Repr

def BadRequest.message : BadRequest → String
  | .nonAscii => "non-ASCII byte in header block"
  | .emptyRequest => "empty request"
  | .missingMethod => "missing method"
  | .missingUri => "missing URI"
  | .missingVersion => "missing version"
  | .trailingTokens => "trailing tokens on request line"
  | .method => "method must be SSTP_DUPLEX_POST"
  | .uri => "URI must be the SSTP well-known path"
  | .version => "HTTP version must be 1.1"
  | .missingColon => "header missing colon"
  | .contentLength => "Content-Length must be ULONGLONG_MAX"
  | .missingContentLength => "missing Content-Length header"

/-- An accepted request. -/
structure Preamble where
  correlationId : Option Bytes
  deriving DecidableEq, Repr

/-- Check the request line. -/
def checkRequestLine (line : Bytes) : Except BadRequest Unit :=
  match line.splitOn 32 with
  | [] => .error .missingMethod
  | [_] => .error .missingUri
  | [_, _] => .error .missingVersion
  | [method, uri, version] =>
      if method ≠ sstpMethod then .error .method
      else if uri ≠ sstpUri then .error .uri
      else if version ≠ ascii "HTTP/1.1" then .error .version
      else .ok ()
  | _ => .error .trailingTokens

/-- Walk the header lines up to the first empty one. -/
def walkHeaders (contentLengthOk : Bool) (correlationId : Option Bytes) :
    List Bytes → Except BadRequest (Bool × Option Bytes)
  | [] => .ok (contentLengthOk, correlationId)
  | line :: rest =>
      if line = [] then .ok (contentLengthOk, correlationId)
      else
        match splitOnceColon line with
        | none => .error .missingColon
        | some (name, value) =>
            if EqIgnoreAsciiCase name (ascii "content-length") then
              if trim value ≠ ulonglongMaxStr then .error .contentLength
              else walkHeaders true correlationId rest
            else if EqIgnoreAsciiCase name (ascii "sstpcorrelationid") then
              if (trim value).length ≤ 64 then walkHeaders contentLengthOk (some (trim value)) rest
              else walkHeaders contentLengthOk correlationId rest
            else walkHeaders contentLengthOk correlationId rest

/-- Check a request line and the header lines behind it. -/
def checkLines (line : Bytes) (rest : List Bytes) : Except BadRequest Preamble := do
  checkRequestLine line
  let (contentLengthOk, correlationId) ← walkHeaders false none rest
  if contentLengthOk then .ok ⟨correlationId⟩ else .error .missingContentLength

def parseRequest (raw : Bytes) : Except BadRequest Preamble :=
  if ¬IsAscii raw then .error .nonAscii
  else
    match splitLines raw with
    | [] => .error .emptyRequest
    | line :: rest => checkLines line rest

/-! ## The form of a request -/

/-- The header lines in front of the first empty line. -/
def headerLines (lines : List Bytes) : List Bytes :=
  lines.takeWhile (· ≠ [])

def IsContentLength (header : Bytes) : Prop :=
  ∃ parts, splitOnceColon header = some parts ∧
    EqIgnoreAsciiCase parts.1 (ascii "content-length")

/-- A header has a colon, and one that gives a length gives the largest one. -/
def IsHeader (header : Bytes) : Prop :=
  ∃ parts, splitOnceColon header = some parts ∧
    (EqIgnoreAsciiCase parts.1 (ascii "content-length") → trim parts.2 = ulonglongMaxStr)

/-- A request that the server accepts. -/
def IsRequest (raw : Bytes) : Prop :=
  IsAscii raw ∧ ∃ line rest, splitLines raw = line :: rest ∧
    line.splitOn 32 = [sstpMethod, sstpUri, ascii "HTTP/1.1"] ∧
    (∀ header ∈ headerLines rest, IsHeader header) ∧
    ∃ header ∈ headerLines rest, IsContentLength header

theorem isHeader_iff {header : Bytes} {parts : Bytes × Bytes}
    (split : splitOnceColon header = some parts) :
    IsHeader header ↔
      (EqIgnoreAsciiCase parts.1 (ascii "content-length") → trim parts.2 = ulonglongMaxStr) := by
  simp [IsHeader, split]

theorem isContentLength_iff {header : Bytes} {parts : Bytes × Bytes}
    (split : splitOnceColon header = some parts) :
    IsContentLength header ↔ EqIgnoreAsciiCase parts.1 (ascii "content-length") := by
  simp [IsContentLength, split]

theorem checkRequestLine_eq_ok_iff (line : Bytes) :
    checkRequestLine line = .ok () ↔
      line.splitOn 32 = [sstpMethod, sstpUri, ascii "HTTP/1.1"] := by
  unfold checkRequestLine
  split
  case h_4 method uri version parts =>
    rw [parts]
    split_ifs <;> simp_all
  all_goals simp_all

theorem walkHeaders_eq_ok_iff (contentLengthOk : Bool) (correlationId : Option Bytes)
    (lines : List Bytes) :
    (∃ found, walkHeaders contentLengthOk correlationId lines = .ok (true, found)) ↔
      (∀ header ∈ headerLines lines, IsHeader header) ∧
        (contentLengthOk = true ∨ ∃ header ∈ headerLines lines, IsContentLength header) := by
  induction lines generalizing contentLengthOk correlationId with
  | nil => simp [walkHeaders, headerLines]
  | cons line rest ih =>
    by_cases empty : line = []
    · simp [walkHeaders, headerLines, empty]
    · have headers : headerLines (line :: rest) = line :: headerLines rest := by
        simp [headerLines, empty]
      rw [headers, List.forall_mem_cons, List.exists_mem_cons_iff]
      unfold walkHeaders
      rw [if_neg empty]
      cases split : splitOnceColon line with
      | none =>
        have noHeader : ¬IsHeader line := by simp [IsHeader, split]
        simp [noHeader]
      | some parts =>
        rw [isHeader_iff split, isContentLength_iff split]
        dsimp only
        split_ifs with isLength wrong
        · simp [isLength, wrong]
        · rw [ih]
          simp_all
        all_goals
          rw [ih]
          simp_all

theorem checkLines_eq_ok_iff (line : Bytes) (rest : List Bytes) :
    (∃ preamble, checkLines line rest = .ok preamble) ↔
      checkRequestLine line = .ok () ∧ ∃ found, walkHeaders false none rest = .ok (true, found) := by
  unfold checkLines
  cases checkRequestLine line with
  | error bad => simp [bind, Except.bind]
  | ok checked =>
    cases walkHeaders false none rest with
    | error bad => simp [bind, Except.bind]
    | ok walked =>
      rcases walked with ⟨_ | _, found⟩ <;> simp [bind, Except.bind]

/-- The check accepts the requests of this form and no others. -/
theorem parseRequest_eq_ok_iff (raw : Bytes) :
    (∃ preamble, parseRequest raw = .ok preamble) ↔ IsRequest raw := by
  unfold parseRequest IsRequest
  by_cases isAscii : IsAscii raw
  · simp only [isAscii, not_true_eq_false, if_false, true_and]
    cases lines : splitLines raw with
    | nil => simp
    | cons line rest =>
      rw [checkLines_eq_ok_iff, checkRequestLine_eq_ok_iff, walkHeaders_eq_ok_iff]
      simp
  · simp [isAscii]

/-! ## Lines behind the empty line -/

/-- The empty line, with the end of the line before it. -/
def headerTerminator : Bytes := [13, 10, 13, 10]

theorem splitLines_ne_nil (text : Bytes) : splitLines text ≠ [] := by
  fun_cases splitLines text <;> simp_all

/-- A line end is where a text can be cut: a carriage return before it takes no part in it. -/
theorem splitLines_append (before after : Bytes) :
    splitLines (before ++ 13 :: 10 :: after) = splitLines before ++ splitLines after := by
  fun_induction splitLines before with
  | case1 => rfl
  | case2 rest ih => simpa [splitLines] using ih
  | case3 byte rest notEnd line lines split ih =>
    have stillNotEnd : ∀ more, byte = 13 → rest ++ 13 :: 10 :: after = 10 :: more → False := by
      intro more carriageReturn starts
      cases rest with
      | nil => simp at starts
      | cons head tail =>
        rw [List.cons_append, List.cons.injEq] at starts
        exact notEnd tail carriageReturn (by rw [starts.1])
    rw [List.cons_append, splitLines.eq_3 _ _ stillNotEnd, ih, split]
    rfl
  | case4 byte rest notEnd split ih => exact absurd split (splitLines_ne_nil rest)

/-- The walk stops at the empty line. -/
theorem walkHeaders_append (contentLengthOk : Bool) (correlationId : Option Bytes)
    (lines more : List Bytes) :
    walkHeaders contentLengthOk correlationId (lines ++ [] :: more) =
      walkHeaders contentLengthOk correlationId (lines ++ [[]]) := by
  induction lines generalizing contentLengthOk correlationId with
  | nil => rfl
  | cons line rest ih => simp only [List.cons_append, walkHeaders, ih]

theorem walkHeaders_ne_nonAscii (contentLengthOk : Bool) (correlationId : Option Bytes)
    (lines : List Bytes) :
    walkHeaders contentLengthOk correlationId lines ≠ .error .nonAscii := by
  fun_induction walkHeaders contentLengthOk correlationId lines <;> simp_all

theorem checkRequestLine_ne_nonAscii (line : Bytes) :
    checkRequestLine line ≠ .error .nonAscii := by
  unfold checkRequestLine
  split
  all_goals first | split_ifs <;> simp | simp

theorem checkLines_ne_nonAscii (line : Bytes) (rest : List Bytes) :
    checkLines line rest ≠ .error .nonAscii := by
  intro refused
  unfold checkLines at refused
  cases request : checkRequestLine line with
  | error bad =>
    rw [request] at refused
    cases refused
    exact checkRequestLine_ne_nonAscii line request
  | ok checked =>
    cases walk : walkHeaders false none rest with
    | error bad =>
      rw [request, walk] at refused
      cases refused
      exact walkHeaders_ne_nonAscii false none rest walk
    | ok walked =>
      rw [request, walk] at refused
      dsimp only [bind, Except.bind] at refused
      split_ifs at refused
      cases refused

theorem parseRequest_eq_nonAscii_iff (raw : Bytes) :
    parseRequest raw = .error .nonAscii ↔ ¬IsAscii raw := by
  unfold parseRequest
  constructor
  · intro refused
    by_contra isAscii
    rw [if_neg (not_not_intro isAscii)] at refused
    split at refused
    · cases refused
    · exact checkLines_ne_nonAscii _ _ refused
  · intro notAscii
    rw [if_pos notAscii]

theorem isAscii_append_iff (first second : Bytes) :
    IsAscii (first ++ second) ↔ IsAscii first ∧ IsAscii second :=
  List.forall_mem_append

/-- What follows the empty line counts in the check of the bytes, and in no other. -/
theorem parseRequest_append (head extra : Bytes) (isAscii : IsAscii extra) :
    parseRequest (head ++ headerTerminator ++ extra) = parseRequest (head ++ headerTerminator) := by
  have cut : ∀ more, splitLines (head ++ headerTerminator ++ more) =
      splitLines head ++ [] :: splitLines more := by
    intro more
    rw [List.append_assoc]
    exact splitLines_append head (13 :: 10 :: more)
  have cutHead := cut []
  rw [List.append_nil] at cutHead
  have sameBytes : IsAscii (head ++ headerTerminator ++ extra) ↔
      IsAscii (head ++ headerTerminator) := by
    rw [isAscii_append_iff]
    exact and_iff_left isAscii
  unfold parseRequest
  simp only [sameBytes, cut, cutHead]
  cases lines : splitLines head with
  | nil => exact absurd lines (splitLines_ne_nil head)
  | cons line rest =>
    simp only [List.cons_append, checkLines, splitLines]
    rw [walkHeaders_append false none rest (splitLines extra),
      walkHeaders_append false none rest [[]]]

end SstpServer.Sstp
