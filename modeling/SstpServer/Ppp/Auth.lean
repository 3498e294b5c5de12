import SstpServer.Iteration.Cursor
import SstpServer.Ppp.Frame

/-!
# Authentication packets

PAP and CHAP share a header of Code, Identifier and Length.  The two decoders
differ in the codes they admit: PAP only decodes an Authenticate-Request, while
the CHAP decoder takes a Challenge as readily as a Response.
-/

namespace SstpServer.Ppp

open SstpServer.Wire
open SstpServer.Iteration

/-- Errors of the authentication packet decoders. -/
inductive AuthPacketError where
  | truncated (need available : Nat)
  | unexpectedCode (expected actual : UInt8)
  | lengthTooSmall (declared : Nat)
  | lengthExceedsBuffer (declared available : Nat)
  deriving DecidableEq, Repr

/-- Header length shared by PAP and CHAP. -/
def authHeaderLen : Nat := 4

/-- Decode the shared header: the packet's code must be admitted, and the body
is bounded by the declared Length. -/
def decodeAuthHeader (accept : List UInt8) (buf : Bytes) :
    Except AuthPacketError (UInt8 × Bytes) :=
  match buf with
  | code :: identifier :: high :: low :: _ =>
      let length := be16 high low
      if code ∉ accept then
        .error (.unexpectedCode (accept.headD 0) code)
      else if length < authHeaderLen then
        .error (.lengthTooSmall length)
      else if buf.length < length then
        .error (.lengthExceedsBuffer length buf.length)
      else
        .ok (identifier, slice buf authHeaderLen length)
  | short => .error (.truncated authHeaderLen short.length)

/-- The code of a decoded packet was admitted, and its identifier is the second
byte. -/
theorem decodeAuthHeader_eq_ok {accept : List UInt8} {buf body : Bytes}
    {identifier : UInt8}
    (decoded : decodeAuthHeader accept buf = .ok (identifier, body)) :
    ∃ code rest, buf = code :: identifier :: rest ∧ code ∈ accept := by
  unfold decodeAuthHeader at decoded
  split at decoded
  · rename_i code identifier high low rest
    simp only at decoded
    split at decoded
    · cases decoded
    · rename_i admitted
      split at decoded
      · cases decoded
      · split at decoded
        · cases decoded
        · cases decoded
          exact ⟨code, high :: low :: rest, rfl, not_not.mp admitted⟩
  · cases decoded

namespace Pap

/-- PAP packet codes. -/
inductive Code where
  | authenticateRequest
  | authenticateAck
  | authenticateNak
  deriving DecidableEq, Repr

def Code.asU8 : Code → UInt8
  | authenticateRequest => 1
  | authenticateAck => 2
  | authenticateNak => 3

/-- A decoded Authenticate-Request. -/
structure AuthenticateRequest where
  identifier : UInt8
  peerId : Bytes
  password : Bytes
  deriving DecidableEq, Repr

/-- Decode an Authenticate-Request. -/
def decodeAuthenticateRequest (buf : Bytes) :
    Except AuthPacketError AuthenticateRequest :=
  match decodeAuthHeader [Code.authenticateRequest.asU8] buf with
  | .error error => .error error
  | .ok (identifier, body) =>
      match body with
      | [] => .error (.truncated 1 0)
      | first :: _ =>
          let peerLen := first.toNat
          if body.length < 1 + peerLen + 1 then
            .error (.truncated (1 + peerLen + 1) body.length)
          else
            let passwordOff := 1 + peerLen
            let passwordLen := (body.getD passwordOff 0).toNat
            let passwordStart := passwordOff + 1
            if body.length < passwordStart + passwordLen then
              .error (.truncated (passwordStart + passwordLen) body.length)
            else
              .ok ⟨identifier, slice body 1 (1 + peerLen),
                slice body passwordStart (passwordStart + passwordLen)⟩

/-- Encode an Authenticate-Ack or -Nak. -/
def encodeResponse (code : Code) (identifier : UInt8) (message : Bytes) : Bytes :=
  code.asU8 :: identifier ::
    (toBe16 (authHeaderLen + 1 + message.length) ++
      UInt8.ofNat message.length :: message)

@[simp]
theorem length_encodeResponse (code : Code) (identifier : UInt8)
    (message : Bytes) :
    (encodeResponse code identifier message).length = message.length + 5 := by
  simp [encodeResponse]
  omega

end Pap

namespace Chap

/-- CHAP packet codes. -/
inductive Code where
  | challenge
  | response
  | success
  | failure
  deriving DecidableEq, Repr

def Code.asU8 : Code → UInt8
  | challenge => 1
  | response => 2
  | success => 3
  | failure => 4

/-- A decoded Challenge or Response. -/
structure ChallengeResponse where
  identifier : UInt8
  value : Bytes
  name : Bytes
  deriving DecidableEq, Repr

/-- Decode a Challenge or a Response; they share the layout. -/
def decodeChallengeResponse (buf : Bytes) :
    Except AuthPacketError ChallengeResponse :=
  match decodeAuthHeader [Code.challenge.asU8, Code.response.asU8] buf with
  | .error error => .error error
  | .ok (identifier, body) =>
      match body with
      | [] => .error (.truncated 1 0)
      | size :: _ =>
          let valueSize := size.toNat
          if body.length < 1 + valueSize then
            .error (.truncated (1 + valueSize) body.length)
          else
            .ok ⟨identifier, slice body 1 (1 + valueSize), body.drop (1 + valueSize)⟩

/-- Encode a Challenge or a Response. -/
def encodeChallengeResponse (code : Code) (identifier : UInt8)
    (value name : Bytes) : Bytes :=
  code.asU8 :: identifier ::
    (toBe16 (authHeaderLen + 1 + value.length + name.length) ++
      UInt8.ofNat value.length :: (value ++ name))

/-- Encode a Success or a Failure. -/
def encodeTerminal (code : Code) (identifier : UInt8) (message : Bytes) : Bytes :=
  code.asU8 :: identifier :: (toBe16 (authHeaderLen + message.length) ++ message)

@[simp]
theorem length_encodeChallengeResponse (code : Code) (identifier : UInt8)
    (value name : Bytes) :
    (encodeChallengeResponse code identifier value name).length =
      value.length + name.length + 5 := by
  simp [encodeChallengeResponse]
  omega

@[simp]
theorem length_encodeTerminal (code : Code) (identifier : UInt8)
    (message : Bytes) :
    (encodeTerminal code identifier message).length = message.length + 4 := by
  simp [encodeTerminal]
  omega

/-- A decoded packet carries one of the two admitted codes and the identifier of
its second byte. -/
theorem decodeChallengeResponse_eq_ok {buf : Bytes} {packet : ChallengeResponse}
    (decoded : decodeChallengeResponse buf = .ok packet) :
    ∃ code rest, buf = code :: packet.identifier :: rest ∧
      (code = Code.challenge.asU8 ∨ code = Code.response.asU8) := by
  unfold decodeChallengeResponse at decoded
  split at decoded
  · cases decoded
  · rename_i identifier body header
    rcases decodeAuthHeader_eq_ok header with ⟨code, rest, bufEq, admitted⟩
    split at decoded
    · cases decoded
    · simp only at decoded
      split at decoded
      · cases decoded
      · cases decoded
        exact ⟨code, rest, bufEq, by simpa using admitted⟩

/-- An encoded Challenge or Response decodes to its fields. -/
theorem decodeChallengeResponse_encodeChallengeResponse {code : Code}
    (admitted : code = .challenge ∨ code = .response) (identifier : UInt8)
    (value name : Bytes) (valueFits : value.length < 256)
    (fits : value.length + name.length + 5 < 65536) :
    decodeChallengeResponse (encodeChallengeResponse code identifier value name) =
      .ok ⟨identifier, value, name⟩ := by
  have codeAdmitted : code.asU8 ∈ [Code.challenge.asU8, Code.response.asU8] := by
    rcases admitted with rfl | rfl <;> decide
  have declared : be16
      (UInt8.ofNat ((authHeaderLen + 1 + value.length + name.length) / 256))
      (UInt8.ofNat (authHeaderLen + 1 + value.length + name.length)) =
      authHeaderLen + 1 + value.length + name.length :=
    be16_ofNat (by simp only [authHeaderLen]; omega)
  have header : decodeAuthHeader [Code.challenge.asU8, Code.response.asU8]
      (encodeChallengeResponse code identifier value name) =
        .ok (identifier, UInt8.ofNat value.length :: (value ++ name)) := by
    simp only [encodeChallengeResponse, toBe16, List.cons_append, List.nil_append,
      decodeAuthHeader, declared]
    rw [if_neg (not_not.mpr codeAdmitted), if_neg (by omega),
      if_neg (by simp [authHeaderLen]; omega)]
    rw [slice, List.take_of_length_le (by simp [authHeaderLen]; omega)]
    rfl
  have size : (UInt8.ofNat value.length).toNat = value.length := by
    rw [UInt8.toNat_ofNat']
    omega
  simp only [decodeChallengeResponse, header, size]
  rw [if_neg (by simp; omega)]
  simp [slice, Nat.add_comm 1]

end Chap

/-! ## Lossy UTF-8 -/

/-- The UTF-8 encoding of the replacement character. -/
def replacementCharacter : Bytes := [0xEF, 0xBF, 0xBD]

/-- A UTF-8 continuation byte. -/
def isContinuation (byte : UInt8) : Bool :=
  0x80 ≤ byte && byte ≤ 0xBF

/-- The second bytes a multi-byte leading byte admits, with the number of
continuation bytes that follow them. -/
def utf8Lead (lead : UInt8) : Option ((UInt8 → Bool) × Nat) :=
  if 0xC2 ≤ lead && lead ≤ 0xDF then
    some (isContinuation, 0)
  else if lead == 0xE0 then
    some (fun byte => 0xA0 ≤ byte && byte ≤ 0xBF, 1)
  else if lead == 0xED then
    some (fun byte => 0x80 ≤ byte && byte ≤ 0x9F, 1)
  else if 0xE1 ≤ lead && lead ≤ 0xEF then
    some (isContinuation, 1)
  else if lead == 0xF0 then
    some (fun byte => 0x90 ≤ byte && byte ≤ 0xBF, 2)
  else if 0xF1 ≤ lead && lead ≤ 0xF3 then
    some (isContinuation, 2)
  else if lead == 0xF4 then
    some (fun byte => 0x80 ≤ byte && byte ≤ 0x8F, 2)
  else
    none

/-- The next character of a byte string, or a replacement character for the
longest malformed prefix. -/
def nextUtf8Chunk (cursor : Bytes) : Option (Bytes × Bytes) :=
  match cursor with
  | [] => none
  | lead :: tail =>
      if lead < 0x80 then
        some ([lead], tail)
      else
        match utf8Lead lead, tail with
        | some (second, extra), next :: more =>
            if second next then
              let continued := (more.take extra).takeWhile isContinuation
              if continued.length = extra then
                some (lead :: next :: continued, more.drop extra)
              else
                some (replacementCharacter, more.drop continued.length)
            else
              some (replacementCharacter, tail)
        | _, _ => some (replacementCharacter, tail)

/-- Every malformed sequence becomes one replacement character.  Each chunk takes at least one
byte, so all of the bytes are read. -/
def fromUtf8Lossy (bytes : Bytes) : Bytes :=
  (collect List.length nextUtf8Chunk bytes).flatten

end SstpServer.Ppp
