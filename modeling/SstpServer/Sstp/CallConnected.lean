import SstpServer.Sstp.State
import SstpServer.Transition.Run

/-!
# Admission of a Call-Connected

A pending call is connected by one packet: a Call-Connected whose Crypto-Binding
answers the Call-Connect-Ack.  This module follows the bytes of a read buffer
through the packet parser, the attribute iterator and the binding check, and
states the admitted buffers byte by byte.
-/

namespace SstpServer.Sstp

open SstpServer.Wire SstpServer.Transition

/-! ## The read path -/

/-- A Call-Connected with its Compound MAC field zeroed. -/
def zeroedMac (buf : Bytes) : Bytes :=
  slice buf 0 80 ++ List.replicate 32 0

/-- Hand a parsed message to the machine.  A Call-Connected is verified against
the packet at the head of the read buffer. -/
def dispatchControl (crypto : Crypto) (ssm : StateMachine) (message : ControlMessage)
    (buf : Bytes) (nonce : Block 32) : StepOut × StateMachine :=
  match message with
  | .callConnected binding => ssm.verifyCallConnected crypto binding (zeroedMac buf)
  | other => ssm.onMessage crypto other nonce

/-- Parse a control packet at the head of the read buffer and hand it over. -/
def readControl (crypto : Crypto) (ssm : StateMachine) (buf : Bytes) (nonce : Block 32) :
    Except ParseError (Option (StepOut × StateMachine)) :=
  match Packet.parse buf with
  | .error error => .error error
  | .ok (.data _, _) => .ok none
  | .ok (.control packet, _) =>
      (parseControl packet).map fun message =>
        some (dispatchControl crypto ssm message buf nonce)

/-- The buffer connects the call. -/
def Connects (crypto : Crypto) (ssm : StateMachine) (buf : Bytes) (nonce : Block 32) : Prop :=
  ∃ out after, readControl crypto ssm buf nonce = .ok (some (out, after)) ∧
    after.state = .serverCallConnected

/-! ## The bytes of a Call-Connected -/

/-- The buffer starts with a complete Call-Connected that holds one
Crypto-Binding.  The reserved bits and the attribute count are free. -/
structure IsCallConnected (buf : Bytes) : Prop where
  complete : callConnectedLen ≤ buf.length
  version : buf.getD 0 0 = sstpVersion10
  control : (buf.getD 1 0).toNat % 2 = 1
  length : be16 (buf.getD 2 0) (buf.getD 3 0) % 4096 = callConnectedLen
  messageType : be16 (buf.getD 4 0) (buf.getD 5 0) = MessageType.callConnected.asU16
  attributeId : buf.getD 9 0 = AttributeId.cryptoBinding.asU8
  attributeLength : be16 (buf.getD 10 0) (buf.getD 11 0) % 4096 = 104

/-- The buffer starts with a control packet that carries `message`. -/
def Carries (buf : Bytes) (message : ControlMessage) : Prop :=
  ∃ packet used, Packet.parse buf = .ok (.control packet, used) ∧
    parseControl packet = .ok message

theorem Packet.ofBody_eq_control_iff {flags : UInt8} {body : Bytes} {packet : ControlPacket} :
    Packet.ofBody flags body = .ok (.control packet) ↔
      flags.toNat % 2 = 1 ∧ ControlPacket.parseBody body = .ok packet := by
  unfold Packet.ofBody
  split_ifs with control
  · cases ControlPacket.parseBody body <;> simp [Except.map, control]
  · simp [control]

theorem parseControl_eq_callConnected_iff {packet : ControlPacket} {binding : CryptoBinding} :
    parseControl packet = .ok (.callConnected binding) ↔
      packet.msgType = .callConnected ∧
        soleAttribute packet.attrs Attribute.asCryptoBinding
          (attrHeaderLen + cryptoBindingValueLen) = .ok binding := by
  unfold parseControl
  cases packet.msgType with
  | callConnected =>
      cases soleAttribute packet.attrs Attribute.asCryptoBinding
        (attrHeaderLen + cryptoBindingValueLen) <;> simp [Except.map]
  | callConnectRequest =>
      cases soleAttribute packet.attrs Attribute.asEncapsulatedProtocol
        (attrHeaderLen + 2) <;> simp [Except.map]
  | _ => simp

/-- A Crypto-Binding is the sole attribute exactly when it fills the attributes. -/
theorem soleAttribute_asCryptoBinding_iff {attrs : Bytes} {binding : CryptoBinding}
    {expected : Nat} :
    soleAttribute attrs Attribute.asCryptoBinding expected = .ok binding ↔
      attrs.length = 104 ∧ lengthField attrs = 104 ∧
        attrs.getD 1 0 = AttributeId.cryptoBinding.asU8 ∧
          CryptoBinding.ofValue (slice attrs 4 104) = binding := by
  rw [soleAttribute_eq_ok_iff]
  constructor
  · rintro ⟨⟨id, value⟩, first, decoded⟩
    obtain ⟨header, fits, isId, rfl, last⟩ := nextAttribute_eq_some_ok_iff.mp first
    obtain ⟨rfl, sized, rfl⟩ := Attribute.asCryptoBinding_eq_ok_iff.mp decoded
    have nothingLeft := List.drop_eq_nil_iff.mp last
    have filled : lengthField attrs = 104 := by
      simp only [length_slice, attrHeaderLen, cryptoBindingValueLen] at sized header
      omega
    rw [filled] at fits nothingLeft
    exact ⟨Nat.le_antisymm nothingLeft fits, filled, isId, by rw [filled]; rfl⟩
  · rintro ⟨sized, filled, isId, rfl⟩
    refine ⟨⟨.cryptoBinding, slice attrs 4 104⟩, ?_, ?_⟩
    · rw [nextAttribute_eq_some_ok_iff, filled, sized]
      exact ⟨by decide, le_rfl, isId, rfl, List.drop_eq_nil_iff.mpr (le_of_eq sized)⟩
    · refine Attribute.asCryptoBinding_eq_ok_iff.mpr ⟨rfl, ?_, rfl⟩
      simp [sized, cryptoBindingValueLen]

/-- The parsers accept exactly the buffers laid out as a Call-Connected, and read
the binding at its fixed offset. -/
theorem carries_callConnected_iff {buf : Bytes} {binding : CryptoBinding} :
    Carries buf (.callConnected binding) ↔
      IsCallConnected buf ∧ CryptoBinding.ofValue (slice buf 12 112) = binding := by
  constructor
  · rintro ⟨⟨msgType, numAttrs, attrs⟩, used, parsed, decoded⟩
    obtain ⟨framed, content⟩ := Packet.parse_eq_ok_iff.mp parsed
    obtain ⟨control, body⟩ := Packet.ofBody_eq_control_iff.mp content
    obtain ⟨extra, isType, -, rfl⟩ := ControlPacket.parseBody_eq_ok_iff.mp body
    obtain ⟨rfl, sole⟩ := parseControl_eq_callConnected_iff.mp decoded
    obtain ⟨sized, attributeLength, attributeId, rfl⟩ :=
      soleAttribute_asCryptoBinding_iff.mp sole
    have complete := framed.complete
    have full : used = 112 := by
      simp only [drop_slice, length_slice, sstpHeaderLen, sstpControlExtraLen] at sized
      omega
    subst full
    simp only [drop_slice, sstpHeaderLen, sstpControlExtraLen] at *
    rw [lengthField_slice _ (by decide)] at attributeLength
    rw [getD_slice _ (by decide)] at attributeId
    rw [getD_slice _ (by decide), getD_slice _ (by decide)] at isType
    rw [slice_slice _ _ _ _ _ (by decide)]
    exact ⟨⟨complete, framed.version, control, framed.length, isType, attributeId,
      attributeLength⟩, rfl⟩
  · rintro ⟨layout, rfl⟩
    have complete : 112 ≤ buf.length := layout.complete
    refine ⟨⟨.callConnected, be16 (buf.getD 6 0) (buf.getD 7 0), slice buf 8 112⟩, 112,
      Packet.parse_eq_ok_iff.mpr ⟨⟨layout.version, layout.length, by decide, complete⟩, ?_⟩,
      parseControl_eq_callConnected_iff.mpr ⟨rfl, ?_⟩⟩
    · refine Packet.ofBody_eq_control_iff.mpr ⟨layout.control,
        ControlPacket.parseBody_eq_ok_iff.mpr ⟨?_, ?_, ?_, drop_slice _ _ _ _⟩⟩
      · rw [length_slice_of_le complete]
        decide
      · rw [getD_slice _ (by decide), getD_slice _ (by decide)]
        exact layout.messageType
      · rw [getD_slice _ (by decide), getD_slice _ (by decide)]
        rfl
    · refine soleAttribute_asCryptoBinding_iff.mpr ⟨length_slice_of_le complete, ?_, ?_, ?_⟩
      · rw [lengthField_slice _ (by decide)]
        exact layout.attributeLength
      · rw [getD_slice _ (by decide)]
        exact layout.attributeId
      · rw [slice_slice _ _ _ _ _ (by decide)]

/-- A Call-Connected with zero nonce, certificate hash and MAC. -/
def zeroCallConnected : Bytes :=
  writeHeader true callConnectedLen ++ writeControlExtra .callConnected 1 ++
    writeAttrHeader .cryptoBinding (attrHeaderLen + cryptoBindingValueLen) ++
    [0, 0, 0, certHashProtocolSha256] ++ List.replicate 96 0

/-! ## The copy that is verified

The session copies the packet out of its read buffer and zeroes the MAC in the copy.  A range that
does not lie in its slice would panic; here it has no value. -/

/-- A range of a slice. -/
def checkedRange (bytes : Bytes) (start stop : Nat) : Option Bytes :=
  if start ≤ stop ∧ stop ≤ bytes.length then some (slice bytes start stop) else none

/-- A slice with a range of it zeroed. -/
def checkedZero (bytes : Bytes) (start stop : Nat) : Option Bytes :=
  if start ≤ stop ∧ stop ≤ bytes.length then
    some (bytes.take start ++ List.replicate (stop - start) 0 ++ bytes.drop stop)
  else none

/-- The packet at the read position with its MAC zeroed.  The copy goes into an array of the size
of a Call-Connected, which has to be the size of the range. -/
def zeroedCopy (rxBuf : Bytes) (readPos : Nat) : Option Bytes := do
  let range ← checkedRange rxBuf readPos (readPos + callConnectedLen)
  let copy ← if range.length = callConnectedLen then some range else none
  checkedZero copy 80 112

/-- The fields of a binding are these bytes of a packet. -/
structure BindingAt (packet : Bytes) (binding : CryptoBinding) : Prop where
  hashProtocol : packet[15]? = some binding.hashProtocol
  nonce : checkedRange packet 16 48 = some binding.nonce.toList
  certHashBlock : checkedRange packet 48 80 = some binding.certHashBlock.toList
  compoundMacBlock : checkedRange packet 80 112 = some binding.compoundMacBlock.toList

theorem checkedRange_of_le {bytes : Bytes} {start stop : Nat} (ordered : start ≤ stop)
    (bound : stop ≤ bytes.length) : checkedRange bytes start stop = some (slice bytes start stop) :=
  if_pos ⟨ordered, bound⟩

/-- A block of a binding is the range of the packet that it is read from. -/
theorem checkedRange_eq_ofBytes {packet : Bytes} (complete : 112 ≤ packet.length) (start : Nat)
    (bound : start + 32 ≤ 100) :
    checkedRange packet (12 + start) (12 + (start + 32)) =
      some (Block.ofBytes 32 (slice (slice packet 12 112) start (start + 32))).toList := by
  have sized : (slice packet (12 + start) (12 + (start + 32))).length = 32 := by
    rw [length_slice_of_le (by omega)]
    omega
  rw [slice_slice _ _ _ _ _ (by omega), Block.toList_ofBytes sized,
    checkedRange_of_le (by omega) (by omega)]

theorem bindingAt_ofValue {packet : Bytes} (complete : 112 ≤ packet.length) :
    BindingAt packet (CryptoBinding.ofValue (slice packet 12 112)) where
  hashProtocol := by
    have read : (slice packet 12 112).getD 3 0 = packet.getD 15 0 := getD_slice packet (by decide)
    have inside : packet[15]? = some packet[15] := List.getElem?_eq_getElem (by omega)
    change packet[15]? = some ((slice packet 12 112).getD 3 0)
    rw [read, List.getD_eq_getElem?_getD, inside, Option.getD_some]
  nonce := checkedRange_eq_ofBytes complete 4 (by decide)
  certHashBlock := checkedRange_eq_ofBytes complete 36 (by decide)
  compoundMacBlock := checkedRange_eq_ofBytes complete 68 (by decide)

/-- Where a Call-Connected lies at the read position, the copy stays in range. -/
theorem zeroedCopy_eq {rxBuf : Bytes} {readPos : Nat}
    (complete : callConnectedLen ≤ (rxBuf.drop readPos).length) :
    zeroedCopy rxBuf readPos = some (zeroedMac (rxBuf.drop readPos)) := by
  have bound : readPos + callConnectedLen ≤ rxBuf.length := by
    rw [List.length_drop] at complete
    unfold callConnectedLen at complete ⊢
    omega
  have range : slice rxBuf readPos (readPos + callConnectedLen) =
      (rxBuf.drop readPos).take callConnectedLen := by
    rw [slice, List.take_drop]
  have sized : ((rxBuf.drop readPos).take callConnectedLen).length = callConnectedLen :=
    List.length_take_of_le complete
  have zeroed : checkedZero ((rxBuf.drop readPos).take callConnectedLen) 80 112 =
      some (zeroedMac (rxBuf.drop readPos)) := by
    have nothingAfter : ((rxBuf.drop readPos).take callConnectedLen).drop 112 = [] :=
      List.drop_eq_nil_of_le (le_of_eq sized)
    rw [checkedZero, if_pos ⟨by decide, ge_of_eq sized⟩, nothingAfter, List.append_nil,
      List.take_take]
    rfl
  rw [zeroedCopy, checkedRange_of_le (Nat.le_add_right _ _) bound, range]
  simp only [Option.bind_eq_bind, Option.bind_some, sized, if_true, zeroed]

/-- Zeroing changes the MAC and nothing else. -/
theorem getElem?_zeroedMac {packet : Bytes} (complete : 112 ≤ packet.length) {offset : Nat}
    (bound : offset < 112) :
    (zeroedMac packet)[offset]? = if 80 ≤ offset then some 0 else packet[offset]? := by
  have sized : (slice packet 0 80).length = 80 := length_slice_of_le (by omega)
  split_ifs with mac
  · rw [zeroedMac, List.getElem?_append_right (by omega), sized,
      List.getElem?_replicate_of_lt (by omega)]
  · rw [zeroedMac, List.getElem?_append_left (by omega), slice, List.drop_zero,
      List.getElem?_take_of_lt (by omega)]

/-- A packet that is parsed as a Call-Connected has the one length of a Call-Connected, and its
binding lies at fixed offsets.  The copy that is verified therefore stays in range, and what is
zeroed in it are the bytes of the MAC and no others. -/
theorem callConnected_inRange {rxBuf : Bytes} {readPos used : Nat} {packet : ControlPacket}
    {binding : CryptoBinding}
    (parsed : Packet.parse (rxBuf.drop readPos) = .ok (.control packet, used))
    (decoded : parseControl packet = .ok (.callConnected binding)) :
    used = callConnectedLen ∧ lengthField (rxBuf.drop readPos) = 112 ∧
      BindingAt (rxBuf.drop readPos) binding ∧
      ∃ copy, zeroedCopy rxBuf readPos = some copy ∧ copy.length = 112 ∧
        ∀ offset < 112, copy[offset]? =
          if 80 ≤ offset then some 0 else (rxBuf.drop readPos)[offset]? := by
  obtain ⟨layout, rfl⟩ := carries_callConnected_iff.mp ⟨packet, used, parsed, decoded⟩
  have complete : 112 ≤ (rxBuf.drop readPos).length := layout.complete
  have declared : lengthField (rxBuf.drop readPos) = 112 := layout.length
  have framed := (Packet.parse_eq_ok_iff.mp parsed).1
  refine ⟨framed.length.symm.trans declared, declared, bindingAt_ofValue complete,
    zeroedMac (rxBuf.drop readPos), zeroedCopy_eq layout.complete, ?_,
    fun offset bound => getElem?_zeroedMac complete bound⟩
  rw [zeroedMac, List.length_append, length_slice_of_le (by omega), List.length_replicate]

theorem callConnected_inRange_zeroCallConnected :
    let rxBuf : Bytes := [0x10, 0, 0] ++ zeroCallConnected
    let binding := CryptoBinding.ofValue (slice zeroCallConnected 12 112)
    BindingAt (rxBuf.drop 3) binding ∧
      ∃ copy, zeroedCopy rxBuf 3 = some copy ∧ copy.length = 112 := by
  intro rxBuf binding
  have parsed : Packet.parse (rxBuf.drop 3) =
      .ok (.control ⟨.callConnected, 1, slice zeroCallConnected 8 112⟩, 112) := by decide +kernel
  have decoded : parseControl ⟨.callConnected, 1, slice zeroCallConnected 8 112⟩ =
      .ok (.callConnected binding) := by decide +kernel
  obtain ⟨-, -, fields, copy, copied, sized, -⟩ := callConnected_inRange parsed decoded
  exact ⟨fields, copy, copied, sized⟩

/-! ## The admitted buffers -/

/-- The bytes that answer an exchange under a hash protocol. -/
structure Answers (crypto : Crypto) (exchange : ServerBindingState) (buf : Bytes)
    (protocol : HashProtocol) : Prop where
  isCallConnected : IsCallConnected buf
  hashProtocol : buf.getD 15 0 = protocol.asU8
  advertised : exchange.serverHashProtocolSupported &&& protocol.asU8 ≠ 0
  nonce : slice buf 16 48 = exchange.serverNonce.toList
  certHash : slice buf 48 (48 + protocol.hashLen) = exchange.certHash protocol
  mac : slice buf 80 (80 + protocol.hashLen) =
    crypto.compoundMac exchange.effectiveHlak (zeroedMac buf) protocol

theorem HashProtocol.hashLen_le (protocol : HashProtocol) : protocol.hashLen ≤ 32 := by
  cases protocol <;> decide

/-- A block field keeps the bytes it is read from. -/
theorem take_toList_ofBytes_slice {buf : Bytes} {start count : Nat}
    (complete : start + 32 ≤ buf.length) (bound : count ≤ 32) :
    (Block.ofBytes 32 (slice buf start (start + 32))).toList.take count =
      slice buf start (start + count) := by
  have sized : (slice buf start (start + 32)).length = 32 := by
    rw [length_slice_of_le complete]
    omega
  rw [Block.toList_ofBytes sized]
  simp only [slice, List.take_drop, List.take_take]
  rw [Nat.min_eq_left (Nat.add_le_add_left bound start)]

theorem answers_iff_bindingValid {crypto : Crypto} {exchange : ServerBindingState}
    {buf : Bytes} {protocol : HashProtocol} (layout : IsCallConnected buf) :
    Answers crypto exchange buf protocol ↔
      BindingValid crypto (CryptoBinding.ofValue (slice buf 12 112)) exchange
        (zeroedMac buf) protocol := by
  have complete : 112 ≤ buf.length := layout.complete
  have bound := protocol.hashLen_le
  have hashProtocol : (slice buf 12 112).getD 3 0 = buf.getD 15 0 :=
    getD_slice buf (by decide)
  have nonce : Block.ofBytes 32 (slice (slice buf 12 112) 4 36) = exchange.serverNonce ↔
      slice buf 16 48 = exchange.serverNonce.toList := by
    have sized : (slice buf 16 48).length = 32 := length_slice_of_le (by omega)
    rw [slice_slice _ _ _ _ _ (by decide)]
    exact Block.ofBytes_eq_iff sized _
  have certHash : (Block.ofBytes 32 (slice (slice buf 12 112) 36 68)).toList.take
      protocol.hashLen = slice buf 48 (48 + protocol.hashLen) := by
    rw [slice_slice _ _ _ _ _ (by decide)]
    exact take_toList_ofBytes_slice (by omega) bound
  have mac : (Block.ofBytes 32 (slice (slice buf 12 112) 68 100)).toList.take
      protocol.hashLen = slice buf 80 (80 + protocol.hashLen) := by
    rw [slice_slice _ _ _ _ _ (by decide)]
    exact take_toList_ofBytes_slice (by omega) bound
  constructor
  · intro answers
    exact ⟨hashProtocol.trans answers.hashProtocol, answers.advertised,
      nonce.mpr answers.nonce, certHash.trans answers.certHash, (mac.trans answers.mac).symm⟩
  · intro valid
    exact ⟨layout, hashProtocol.symm.trans valid.protocolEq, valid.advertised,
      nonce.mp valid.nonceEq, certHash.symm.trans valid.certHashEq,
      mac.symm.trans valid.macEq.symm⟩

theorem readControl_eq_ok_some_iff {crypto : Crypto} {ssm : StateMachine} {buf : Bytes}
    {nonce : Block 32} {result : StepOut × StateMachine} :
    readControl crypto ssm buf nonce = .ok (some result) ↔
      ∃ message, Carries buf message ∧
        dispatchControl crypto ssm message buf nonce = result := by
  unfold readControl Carries
  cases Packet.parse buf with
  | error error => simp
  | ok parsed =>
      obtain ⟨packet, used⟩ := parsed
      cases packet with
      | data payload => simp
      | control packet =>
          cases decoded : parseControl packet <;> simp [Except.map, decoded]

/-- A Call-Connected is the only message that connects a pending call. -/
theorem dispatchControl_state_of_ne {crypto : Crypto} {ssm : StateMachine}
    {message : ControlMessage} {buf : Bytes} {nonce : Block 32}
    (pending : ssm.state = .serverCallConnectedPending)
    (connected : (dispatchControl crypto ssm message buf nonce).2.state =
      .serverCallConnected) :
    ∃ binding, message = .callConnected binding := by
  cases message with
  | callConnected binding => exact ⟨binding, rfl⟩
  | callConnectRequest protocolId =>
      simp [dispatchControl, StateMachine.onMessage, StateMachine.onCallConnectRequest,
        StateMachine.isInTerminalDrain, StateMachine.startAbort, StateMachine.transition,
        pending] at connected
  | _ =>
      simp [dispatchControl, StateMachine.onMessage, StateMachine.onCallDisconnect,
        StateMachine.onCallDisconnectAck, StateMachine.onCallAbort,
        StateMachine.onEchoRequest, StateMachine.onEchoResponse, StateMachine.startAbort,
        StateMachine.transition, pending] at connected

theorem verifyCallConnected_connected_iff {crypto : Crypto} {ssm : StateMachine}
    {exchange : ServerBindingState} {binding : CryptoBinding} {packet : Bytes}
    (pending : ssm.state = .serverCallConnectedPending)
    (bound : ssm.binding = some exchange) :
    (ssm.verifyCallConnected crypto binding packet).2.state = .serverCallConnected ↔
      verify crypto binding exchange packet = .ok := by
  unfold StateMachine.verifyCallConnected StateMachine.applyBinding
  rw [if_neg (not_not.mpr pending), bound]
  simp only
  cases verify crypto binding exchange packet <;>
    simp [StateMachine.advanceToConnected, StateMachine.startAbort, StateMachine.transition]

/-- A pending call is connected exactly by the bytes that answer its exchange. -/
theorem connects_iff_answers {crypto : Crypto} {ssm : StateMachine}
    {exchange : ServerBindingState} {buf : Bytes} {nonce : Block 32}
    (pending : ssm.state = .serverCallConnectedPending)
    (bound : ssm.binding = some exchange) :
    Connects crypto ssm buf nonce ↔ ∃ protocol, Answers crypto exchange buf protocol := by
  constructor
  · rintro ⟨out, after, read, connected⟩
    obtain ⟨message, carries, dispatched⟩ := readControl_eq_ok_some_iff.mp read
    rw [← show (dispatchControl crypto ssm message buf nonce).2 = after by
      rw [dispatched]] at connected
    obtain ⟨binding, rfl⟩ := dispatchControl_state_of_ne pending connected
    obtain ⟨layout, rfl⟩ := carries_callConnected_iff.mp carries
    obtain ⟨protocol, valid⟩ := verify_eq_ok_iff.mp
      ((verifyCallConnected_connected_iff pending bound).mp connected)
    exact ⟨protocol, (answers_iff_bindingValid layout).mpr valid⟩
  · rintro ⟨protocol, answers⟩
    have layout := answers.isCallConnected
    refine ⟨_, _, readControl_eq_ok_some_iff.mpr
      ⟨_, carries_callConnected_iff.mpr ⟨layout, rfl⟩, rfl⟩, ?_⟩
    exact (verifyCallConnected_connected_iff pending bound).mpr
      (verify_eq_ok_iff.mpr ⟨protocol, (answers_iff_bindingValid layout).mp answers⟩)

/-! ## Runs of the machine -/

/-- The machine after a sequence of calls on a new connection. -/
def machineAfter (crypto : Crypto) (certHashSha1 : Block 20) (certHashSha256 : Block 32)
    (calls : List StateMachine.Call) : StateMachine :=
  finalState (StateMachine.step crypto) (.new certHashSha1 certHashSha256) calls

/-- What the machine has sent along a sequence of calls. -/
def packetsSent (crypto : Crypto) (certHashSha1 : Block 20) (certHashSha256 : Block 32)
    (calls : List StateMachine.Call) : List Bytes :=
  (visits (StateMachine.step crypto) (.new certHashSha1 certHashSha256) calls).map
    fun visit => (visit.1.run crypto visit.2).1.send

def isCallConnectAck (bytes : Bytes) : Bool :=
  match Packet.parse bytes with
  | .ok (.control packet, _) => packet.msgType = .callConnectAck
  | _ => false

/-- The last Call-Connect-Ack among the packets sent. -/
def lastCallConnectAck (sent : List Bytes) : Option Bytes :=
  sent.reverse.find? isCallConnectAck

theorem isCallConnectAck_encodeCallConnectAck (hashBitmask : UInt8) (nonce : Block 32) :
    isCallConnectAck (encodeCallConnectAck hashBitmask nonce) = true := by
  have parsed := Packet.parse_encodedControl .callConnectAck (by decide : 1 < 65536)
    (show callConnectAckLen = emptyControlLen +
      (writeAttrHeader .cryptoBindingReq (attrHeaderLen + cryptoBindingReqValueLen) ++
        ([0, 0, 0, hashBitmask] ++ nonce.toList)).length by
      simp [writeAttrHeader]; rfl)
    (by decide)
  have encoded : encodeCallConnectAck hashBitmask nonce =
      writeHeader true callConnectAckLen ++ (writeControlExtra .callConnectAck 1 ++
        (writeAttrHeader .cryptoBindingReq (attrHeaderLen + cryptoBindingReqValueLen) ++
          ([0, 0, 0, hashBitmask] ++ nonce.toList))) := by
    simp only [encodeCallConnectAck, List.append_assoc]
  rw [isCallConnectAck, encoded, parsed]
  rfl

/-- What an exchange with nonce `nonce` keeps of the machine's certificate hashes. -/
def exchangeOf (ssm : StateMachine) (nonce : Block 32) (hlak : Option (Block 32)) :
    ServerBindingState :=
  ⟨nonce, ssm.serverCertHashSha1, ssm.serverCertHashSha256, StateMachine.hashBitmask, hlak⟩

/-- A pending call keeps the nonce of the last Call-Connect-Ack. -/
def PendingAfterAck (ssm : StateMachine) (sent : List Bytes) : Prop :=
  ssm.state = .serverCallConnectedPending →
    ∃ nonce hlak, ssm.binding = some (exchangeOf ssm nonce hlak) ∧
      lastCallConnectAck sent = some (encodeCallConnectAck StateMachine.hashBitmask nonce)

namespace StateMachine

/-- A message that leaves the machine pending is an accepted request. -/
theorem onMessage_pending {crypto : Crypto} {ssm : StateMachine} {message : ControlMessage}
    {nonce : Block 32}
    (pending : (ssm.onMessage crypto message nonce).2.state = .serverCallConnectedPending) :
    (ssm.onMessage crypto message nonce).1.send = encodeCallConnectAck hashBitmask nonce ∧
      (ssm.onMessage crypto message nonce).2 =
        { ssm with
          state := .serverCallConnectedPending
          binding := some (exchangeOf ssm nonce none) } := by
  obtain ⟨state, certHashSha1, certHashSha256, binding⟩ := ssm
  cases message with
  | callConnectRequest protocolId =>
      simp only [onMessage, onCallConnectRequest] at pending ⊢
      split_ifs at pending ⊢ with drain request protocol
      · cases pending
        cases drain
      · cases pending
      · cases pending
        cases not_not.mp request
      · exact ⟨rfl, rfl⟩
  | callConnected received =>
      simp only [onMessage, onCallConnectedStructural] at pending
      split_ifs at pending with drain
      · cases pending
        cases drain
      · cases pending
      · unfold applyBinding at pending
        split at pending
        · cases pending
        · split at pending <;> cases pending
  | _ => cases state <;> cases pending

/-- A call that leaves the machine pending accepts the request, or finds it pending and
sends nothing. -/
theorem run_pending {crypto : Crypto} {ssm : StateMachine} {call : Call}
    (pending : (ssm.run crypto call).2.state = .serverCallConnectedPending) :
    (∃ nonce, (ssm.run crypto call).1.send = encodeCallConnectAck hashBitmask nonce ∧
        (ssm.run crypto call).2 =
          { ssm with
            state := .serverCallConnectedPending
            binding := some (exchangeOf ssm nonce none) }) ∨
      ssm.state = .serverCallConnectedPending ∧ (ssm.run crypto call).1.send = [] ∧
        ((ssm.run crypto call).2 = ssm ∨
          ∃ hlak, (ssm.run crypto call).2 = ssm.onInnerAuthCompleted hlak) := by
  cases call with
  | httpsAccepted => cases pending
  | message message nonce => exact Or.inl ⟨nonce, onMessage_pending pending⟩
  | callConnected received packet =>
      obtain ⟨state, certHashSha1, certHashSha256, binding⟩ := ssm
      simp only [run, verifyCallConnected] at pending
      split_ifs at pending
      · cases pending
      · unfold applyBinding at pending
        split at pending
        · cases pending
        · split at pending <;> cases pending
  | dataPacket =>
      refine Or.inr ⟨pending, ?_, Or.inl rfl⟩
      simp only [run, onDataPacket]
      split_ifs <;> rfl
  | innerAuthCompleted hlak => exact Or.inr ⟨pending, rfl, Or.inr ⟨hlak, rfl⟩⟩
  | higherLayerDisconnect => cases pending
  | helloTimeout => exact Or.inr ⟨pending, rfl, Or.inl rfl⟩
  | timer timer =>
      obtain ⟨state, certHashSha1, certHashSha256, binding⟩ := ssm
      cases timer with
      | negotiation => cases pending
      | abortT1 => cases pending
      | hello =>
          simp only [run, onTimer, onHelloExpired] at pending ⊢
          split_ifs at pending ⊢ with connected
          · exact Or.inr ⟨pending, rfl, Or.inl rfl⟩
          · cases pending
            cases not_not.mp connected
      | abortT2 | disconnectT1 | disconnectT2 => exact Or.inr ⟨pending, rfl, Or.inl rfl⟩

end StateMachine

theorem lastCallConnectAck_append (sent : List Bytes) (bytes : Bytes) :
    lastCallConnectAck (sent ++ [bytes]) =
      if isCallConnectAck bytes then some bytes else lastCallConnectAck sent := by
  simp only [lastCallConnectAck, List.reverse_append, List.reverse_cons, List.reverse_nil,
    List.nil_append, List.cons_append, List.find?_cons]
  split <;> rename_i isAck <;> simp [isAck]

theorem PendingAfterAck.step {crypto : Crypto} {ssm : StateMachine} {sent : List Bytes}
    (pendingAfterAck : PendingAfterAck ssm sent) (call : StateMachine.Call) :
    PendingAfterAck (ssm.step crypto call) (sent ++ [(ssm.run crypto call).1.send]) := by
  intro pending
  rw [lastCallConnectAck_append]
  rcases StateMachine.run_pending pending with ⟨nonce, send, after⟩ | ⟨before, send, kept⟩
  · rw [send, if_pos (isCallConnectAck_encodeCallConnectAck _ _), StateMachine.step, after]
    exact ⟨nonce, none, rfl, rfl⟩
  · obtain ⟨nonce, hlak, bound, last⟩ := pendingAfterAck before
    rw [send, StateMachine.step, last]
    rcases kept with unchanged | ⟨newHlak, updated⟩
    · rw [unchanged]
      exact ⟨nonce, hlak, bound, rfl⟩
    · rw [updated]
      refine ⟨nonce, newHlak, ?_, rfl⟩
      simp [StateMachine.onInnerAuthCompleted, bound, exchangeOf]

/-- Along every sequence of calls, a pending call keeps the nonce of the last
Call-Connect-Ack. -/
theorem pendingAfterAck_machineAfter (crypto : Crypto) (certHashSha1 : Block 20)
    (certHashSha256 : Block 32) (calls : List StateMachine.Call) :
    PendingAfterAck (machineAfter crypto certHashSha1 certHashSha256 calls)
      (packetsSent crypto certHashSha1 certHashSha256 calls) := by
  have keeps : ∀ (history : List (StateMachine × StateMachine.Call)) ssm call,
      PendingAfterAck ssm (history.map fun visit => (visit.1.run crypto visit.2).1.send) →
        PendingAfterAck (ssm.step crypto call)
          ((history ++ [(ssm, call)]).map fun visit => (visit.1.run crypto visit.2).1.send) := by
    intro history ssm call holds
    rw [List.map_append]
    exact holds.step call
  have initially : PendingAfterAck (StateMachine.new certHashSha1 certHashSha256) [] := by
    intro pending
    cases pending
  have holds := visits_finalState_induction keeps initially
  exact holds calls

/-- The certificate hash of the connection for a protocol. -/
def StateMachine.certHash (ssm : StateMachine) : HashProtocol → Bytes
  | .sha1 => ssm.serverCertHashSha1.toList
  | .sha256 => ssm.serverCertHashSha256.toList

/-- The HLAK handed up since the last Call-Connect-Ack; zero if there was none. -/
def StateMachine.hlak (ssm : StateMachine) : Block 32 :=
  (ssm.binding.map ServerBindingState.effectiveHlak).getD (Block.zero 32)

/-- The bytes that connect a call whose Call-Connect-Ack was `ack`: the hash protocol is
one the Ack advertised, the nonce is the Ack's, the certificate hash is the server's, and
the MAC is that of the packet with its MAC field zeroed. -/
structure AnswersAck (crypto : Crypto) (ssm : StateMachine) (ack buf : Bytes)
    (protocol : HashProtocol) : Prop where
  isCallConnected : IsCallConnected buf
  hashProtocol : buf.getD 15 0 = protocol.asU8
  advertised : ack.getD 15 0 &&& protocol.asU8 ≠ 0
  nonce : slice buf 16 48 = slice ack 16 48
  certHash : slice buf 48 (48 + protocol.hashLen) = ssm.certHash protocol
  mac : slice buf 80 (80 + protocol.hashLen) =
    crypto.compoundMac ssm.hlak (zeroedMac buf) protocol

theorem answers_exchangeOf_iff {crypto : Crypto} {ssm : StateMachine} {nonce : Block 32}
    {hlak : Option (Block 32)} {buf : Bytes} {protocol : HashProtocol}
    (bound : ssm.binding = some (exchangeOf ssm nonce hlak)) :
    Answers crypto (exchangeOf ssm nonce hlak) buf protocol ↔
      AnswersAck crypto ssm (encodeCallConnectAck StateMachine.hashBitmask nonce) buf
        protocol := by
  have nonceField : slice (encodeCallConnectAck StateMachine.hashBitmask nonce) 16 48 =
      nonce.toList := by
    have sized : nonce.toList.length = 32 := nonce.toList_length
    rw [slice, List.take_of_length_le (by simp [encodeCallConnectAck, writeControlExtra,
      writeAttrHeader, sized, sstpHeaderLen])]
    rfl
  have hlakEq : ssm.hlak = (exchangeOf ssm nonce hlak).effectiveHlak := by
    rw [StateMachine.hlak, bound]
    rfl
  have certHashEq : ssm.certHash protocol = (exchangeOf ssm nonce hlak).certHash protocol := by
    cases protocol <;> rfl
  constructor
  · rintro ⟨layout, hashProtocol, advertised, nonceEq, certHash, mac⟩
    exact ⟨layout, hashProtocol, advertised, nonceEq.trans nonceField.symm,
      certHash.trans certHashEq.symm, by rw [mac, hlakEq]⟩
  · rintro ⟨layout, hashProtocol, advertised, nonceEq, certHash, mac⟩
    exact ⟨layout, hashProtocol, advertised, nonceEq.trans nonceField,
      certHash.trans certHashEq, by rw [mac, hlakEq]⟩

/-- On the read path a pending call is connected exactly by the buffers that start with a
Call-Connected answering the last Call-Connect-Ack. -/
theorem connects_iff (crypto : Crypto) (certHashSha1 : Block 20) (certHashSha256 : Block 32)
    (calls : List StateMachine.Call) (buf : Bytes) (nonce : Block 32)
    (pending : (machineAfter crypto certHashSha1 certHashSha256 calls).state =
      .serverCallConnectedPending) :
    Connects crypto (machineAfter crypto certHashSha1 certHashSha256 calls) buf nonce ↔
      ∃ ack protocol,
        lastCallConnectAck (packetsSent crypto certHashSha1 certHashSha256 calls) = some ack ∧
          AnswersAck crypto (machineAfter crypto certHashSha1 certHashSha256 calls) ack buf
            protocol := by
  obtain ⟨sentNonce, hlak, bound, last⟩ :=
    pendingAfterAck_machineAfter crypto certHashSha1 certHashSha256 calls pending
  rw [connects_iff_answers pending bound, last]
  constructor
  · rintro ⟨protocol, answers⟩
    exact ⟨_, protocol, rfl, (answers_exchangeOf_iff bound).mp answers⟩
  · rintro ⟨ack, protocol, isLast, answers⟩
    cases isLast
    exact ⟨protocol, (answers_exchangeOf_iff bound).mpr answers⟩

/-- Keyed functions that return zero blocks. -/
def zeroCrypto : Crypto where
  hmacSha1 _ _ := Block.zero 20
  hmacSha256 _ _ := Block.zero 32
  prfPlusSha1Cmk _ _ := Block.zero 20
  prfPlusSha256Cmk _ _ := Block.zero 32

/-- An accepted request for PPP under the zero nonce. -/
def acceptedRequest : List StateMachine.Call :=
  [.httpsAccepted, .message (.callConnectRequest sstpEncapsulatedProtocolPpp) (Block.zero 32)]

theorem connects_zeroCallConnected :
    (machineAfter zeroCrypto (Block.zero 20) (Block.zero 32) acceptedRequest).state =
        .serverCallConnectedPending ∧
      Connects zeroCrypto (machineAfter zeroCrypto (Block.zero 20) (Block.zero 32)
        acceptedRequest) zeroCallConnected (Block.zero 32) := by
  refine ⟨rfl, (connects_iff _ _ _ _ _ _ rfl).mpr
    ⟨encodeCallConnectAck StateMachine.hashBitmask (Block.zero 32), .sha256, ?_, ?_⟩⟩
  · decide
  · exact ⟨⟨by decide, by decide, by decide, by decide, by decide, by decide, by decide⟩,
      by decide, by decide, by decide, by decide, by decide⟩

end SstpServer.Sstp
