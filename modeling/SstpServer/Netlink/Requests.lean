import SstpServer.Netlink.RtNetlink
import SstpServer.Ppp.Ipcp

/-!
# The requests that configure an interface

A session configures its interface with three requests: one sets the MTU, one adds the pair of
addresses of the link, and one sets it up.  Each is a family header and at most two attributes.
The kernel reads a request by its type: the header at a fixed offset, and the attributes by a
walk, where a later attribute replaces an earlier one of the same type.  What it reads is what
the session has asked for.
-/

namespace SstpServer.Netlink

open SstpServer.Wire SstpServer.Iteration SstpServer.Ppp

/-! ## Encoders -/

def rtmNewaddr : UInt16 := 20

def ifaAddress : UInt16 := 1

def ifaLocal : UInt16 := 2

def iflaMtu : UInt16 := 4

def nlmFReplace : UInt16 := 0x100

def nlmFExcl : UInt16 := 0x200

def nlmFCreate : UInt16 := 0x400

def afInet : UInt8 := 2

def iffUp : UInt32 := 1

/-- The family header of an address, for IPv4 and the scope of the universe. -/
def ifaddrmsg (order : ByteOrder) (prefixLen : UInt8) (index : UInt32) : Bytes :=
  [afInet, prefixLen, 0, 0] ++ toNeBytes order 4 index.toNat

def encodeAddP2pAddr (order : ByteOrder) (seq ifindex : UInt32) (localIp peer : Ipv4) :
    Option MessageBuf :=
  message order rtmNewaddr
    (nlmFRequest ||| nlmFAck ||| nlmFCreate ||| nlmFReplace ||| nlmFExcl) seq
    (ifaddrmsg order 32 ifindex)
    [.pushAttrBytes ifaLocal localIp.toList, .pushAttrBytes ifaAddress peer.toList]

-- An index that is not an `i32` makes the process panic, here and in the next encoder.
def encodeSetLinkUp (order : ByteOrder) (seq ifindex : UInt32) : Option MessageBuf :=
  if ifindex.toNat < 2 ^ 31 then
    message order rtmNewlink (nlmFRequest ||| nlmFAck) seq (ifinfomsg order ifindex iffUp iffUp) []
  else none

def encodeSetMtu (order : ByteOrder) (seq ifindex mtu : UInt32) : Option MessageBuf :=
  if ifindex.toNat < 2 ^ 31 then
    message order rtmNewlink (nlmFRequest ||| nlmFAck) seq (ifinfomsg order ifindex 0 0)
      [.pushAttrBytes iflaMtu (toNeBytes order 4 mtu.toNat)]
  else none

/-! ## What the kernel reads -/

/-- The requests as the kernel understands them. -/
inductive Request where
  | setLink (ifindex flags change : UInt32) (mtu : Option UInt32)
  | newAddr (ifindex : UInt32) (prefixLen : UInt8) (localIp address : Bytes)
  deriving DecidableEq

/-- The interface that a request is about. -/
def Request.ifindex : Request → UInt32
  | .setLink ifindex _ _ _ | .newAddr ifindex _ _ _ => ifindex

/-- The payload of the last attribute of a type. -/
def Attrs.find? (key : UInt16) : Attrs → Option Bytes
  | .nil => none
  | .flat attrType payload rest =>
      (rest.find? key).or (if attrType = key then some payload else none)
  | .nested _ _ rest => rest.find? key

def u32Of (order : ByteOrder) (bytes : Bytes) : UInt32 :=
  .ofNat (fromNeBytes order bytes)

def readLink (order : ByteOrder) (header : Bytes) (attrs : Attrs) : Option Request :=
  some (.setLink (u32Of order (slice header 4 8)) (u32Of order (slice header 8 12))
    (u32Of order (slice header 12 16)) ((attrs.find? iflaMtu).map (u32Of order)))

def readAddr (order : ByteOrder) (header : Bytes) (attrs : Attrs) : Option Request := do
  let localIp ← attrs.find? ifaLocal
  let address ← attrs.find? ifaAddress
  if header.getD 0 0 = afInet then
    some (.newAddr (u32Of order (slice header 4 8)) (header.getD 1 0) localIp address)
  else none

/-- The lengths of the family headers of the two types of request. -/
def familyLen (msgType : UInt16) : Option Nat :=
  if msgType = rtmNewlink then some 16
  else if msgType = rtmNewaddr then some 8
  else none

def readFamily (order : ByteOrder) (msgType : UInt16) (header : Bytes) (attrs : Attrs) :
    Option Request :=
  if msgType = rtmNewlink then readLink order header attrs else readAddr order header attrs

def readRequest (order : ByteOrder) (bytes : Bytes) : Option Request := do
  let msgType := UInt16.ofNat (fromNeBytes order (slice bytes 4 6))
  let len ← familyLen msgType
  let attrs ← attributes order len bytes
  readFamily order msgType (slice bytes nlmsgHdrlen (nlmsgHdrlen + len)) attrs

/-! ## Requests are read as they are meant -/

@[simp]
theorem u32Of_toNeBytes (order : ByteOrder) (value : UInt32) :
    u32Of order (toNeBytes order 4 value.toNat) = value := by
  rw [u32Of, fromNeBytes_toNeBytes order value.toNat_lt, UInt32.ofNat_toNat]

/-- The fields of a message header, whatever is behind it. -/
theorem slice_nlmsghdr (order : ByteOrder) (len : Nat) (msgType flags : UInt16) (seq pid : UInt32)
    (rest : Bytes) :
    slice (nlmsghdr order len msgType flags seq pid ++ rest) 0 4 = toNeBytes order 4 len ∧
      slice (nlmsghdr order len msgType flags seq pid ++ rest) 4 6 =
        toNeBytes order 2 msgType.toNat ∧
      slice (nlmsghdr order len msgType flags seq pid ++ rest) 6 8 = toNeBytes order 2 flags.toNat ∧
      slice (nlmsghdr order len msgType flags seq pid ++ rest) 8 12 =
        toNeBytes order 4 seq.toNat := by
  have fields : nlmsghdr order len msgType flags seq pid ++ rest =
      [] ++ (toNeBytes order 4 len ++ (toNeBytes order 2 msgType.toNat ++
        (toNeBytes order 2 flags.toNat ++ (toNeBytes order 4 seq.toNat ++
          (toNeBytes order 4 pid.toNat ++ rest))))) := by
    simp [nlmsghdr]
  rw [fields]
  refine ⟨slice_middle rfl (by simp), ?_, ?_, ?_⟩ <;> rw [List.nil_append]
  · exact slice_middle (by simp) (by simp)
  · rw [← List.append_assoc]
    exact slice_middle (by simp) (by simp)
  · rw [← List.append_assoc, ← List.append_assoc]
    exact slice_middle (by simp) (by simp)

/-- What a reader finds in the bytes of a message. -/
structure Finished (order : ByteOrder) (bytes : Bytes) (msgType flags : UInt16) (header : Bytes)
    (tree : Attrs) : Prop where
  long : nlmsgHdrlen ≤ bytes.length
  len : fromNeBytes order (slice bytes 0 4) = bytes.length
  aligned : bytes.length % 4 = 0
  isType : UInt16.ofNat (fromNeBytes order (slice bytes 4 6)) = msgType
  isFlags : UInt16.ofNat (fromNeBytes order (slice bytes 6 8)) = flags
  isHeader : slice bytes nlmsgHdrlen (nlmsgHdrlen + header.length) = header
  isTree : attributes order header.length bytes = some tree

/-- The header and the tree that were pushed are found in the finished message. -/
theorem finished_message {order : ByteOrder} {msgType flags : UInt16} {seq : UInt32}
    {header : Bytes} {calls : List Call} {tree : Attrs} {buf : MessageBuf}
    (builds : Builds calls tree) (fits : tree.Fits) (plain : tree.Plain)
    (aligned : header.length % 4 = 0)
    (built : message order msgType flags seq header calls = some buf) :
    Finished order buf.bytes msgType flags header tree := by
  rw [message_eq order msgType flags seq header builds fits] at built
  rcases Option.ite_none_right_eq_some.mp built with ⟨small, same⟩
  have total : buf.bytes.length = nlmsgHdrlen + nlmsgAlign header.length + tree.size := by
    rw [← Option.some.inj same]
    simp only [List.length_append, length_nlmsghdr, length_padTo4, Attrs.length_encode]
  rw [← total] at small same
  generalize buf.bytes.length = len at small same total
  have bytes : buf.bytes = nlmsghdr order len msgType flags seq 0 ++ (header ++ tree.encode order) := by
    rw [← Option.some.inj same, padTo4_of_aligned aligned, List.append_assoc]
  have isLen : buf.bytes.length = len := by
    rw [bytes, total]
    simp only [List.length_append, length_nlmsghdr, Attrs.length_encode, nlmsgAlign]
    omega
  have area : buf.bytes.drop (nlmsgHdrlen + nlmsgAlign header.length) = tree.encode order := by
    rw [bytes, ← List.append_assoc]
    apply List.drop_left'
    rw [List.length_append, length_nlmsghdr, nlmsgAlign]
    omega
  rcases slice_nlmsghdr order len msgType flags seq 0 (header ++ tree.encode order) with
    ⟨lenField, typeField, flagsField, -⟩
  rw [← bytes] at lenField typeField flagsField
  refine ⟨by omega, ?_, ?_, ?_, ?_, ?_, ?_⟩
  · rw [lenField, isLen, fromNeBytes_toNeBytes order small]
  · have whole := tree.size_mod
    rw [isLen, total, nlmsgHdrlen, nlmsgAlign]
    omega
  · rw [typeField, fromNeBytes_toNeBytes order msgType.toNat_lt, UInt16.ofNat_toNat]
  · rw [flagsField, fromNeBytes_toNeBytes order flags.toNat_lt, UInt16.ofNat_toNat]
  · rw [bytes]
    exact slice_middle (length_nlmsghdr ..) rfl
  · simp only [attributes, area, Attrs.length_encode]
    exact walk_encode order fits plain (Nat.lt_succ_self _)

/-- A finished message is read by its type, from the header and the tree that were pushed. -/
theorem Finished.readRequest_eq {order : ByteOrder} {bytes header : Bytes} {msgType flags : UInt16}
    {tree : Attrs} (finished : Finished order bytes msgType flags header tree)
    (family : familyLen msgType = some header.length) :
    readRequest order bytes = readFamily order msgType header tree := by
  simp only [readRequest, finished.isType, family, Option.bind_eq_bind, Option.bind_some,
    finished.isTree, finished.isHeader]

/-- The attributes of a small tree are small. -/
theorem Attrs.fits_of_size_lt {tree : Attrs} (small : tree.size < 65536) : tree.Fits := by
  induction tree with
  | nil => trivial
  | flat attrType payload rest ih =>
      rw [size, nlmsgAlign] at small
      exact ⟨by omega, ih (by omega)⟩
  | nested attrType inner rest ihInner ihRest =>
      rw [size] at small
      exact ⟨by omega, ihInner (by omega), ihRest (by omega)⟩

/-- A request with few attributes is built, with its flags and its number. -/
theorem exists_finished (order : ByteOrder) (msgType flags : UInt16) (seq : UInt32)
    {header : Bytes} {calls : List Call} {tree : Attrs} (builds : Builds calls tree)
    (plain : tree.Plain) (small : tree.size < 65536)
    (aligned : header.length % 4 = 0 ∧ header.length ≤ 16) :
    ∃ buf, message order msgType flags seq header calls = some buf ∧ buf.flags = flags ∧
      buf.seq = seq ∧ Finished order buf.bytes msgType flags header tree := by
  have fits := Attrs.fits_of_size_lt small
  have total : nlmsgHdrlen + nlmsgAlign header.length + tree.size < 2 ^ 32 := by
    rw [nlmsgHdrlen, nlmsgAlign]
    omega
  have built := message_eq order msgType flags seq header builds fits
  dsimp only at built
  rw [if_pos total] at built
  exact ⟨_, built, rfl, rfl, finished_message builds fits plain aligned.1 built⟩

/-- The family header of a link gives back its fields. -/
theorem readLink_ifinfomsg (order : ByteOrder) (index flags change : UInt32) (attrs : Attrs) :
    readLink order (ifinfomsg order index flags change) attrs =
      some (.setLink index flags change ((attrs.find? iflaMtu).map (u32Of order))) := by
  have fields : ifinfomsg order index flags change =
      ([0, 0] ++ toNeBytes order 2 0) ++ (toNeBytes order 4 index.toNat ++
        (toNeBytes order 4 flags.toNat ++ (toNeBytes order 4 change.toNat ++ []))) := by
    simp [ifinfomsg]
  have isIndex : slice (ifinfomsg order index flags change) 4 8 = toNeBytes order 4 index.toNat := by
    rw [fields]
    exact slice_middle (by simp) (by simp)
  have isFlags : slice (ifinfomsg order index flags change) 8 12 = toNeBytes order 4 flags.toNat := by
    rw [fields, ← List.append_assoc]
    exact slice_middle (by simp) (by simp)
  have isChange : slice (ifinfomsg order index flags change) 12 16 =
      toNeBytes order 4 change.toNat := by
    rw [fields, ← List.append_assoc, ← List.append_assoc]
    exact slice_middle (by simp) (by simp)
  rw [readLink, isIndex, isFlags, isChange]
  simp only [u32Of_toNeBytes]

theorem exists_encodeSetMtu (order : ByteOrder) (seq mtu : UInt32) {ifindex : UInt32}
    (index : ifindex.toNat < 2 ^ 31) :
    ∃ buf, encodeSetMtu order seq ifindex mtu = some buf ∧
      readRequest order buf.bytes = some (.setLink ifindex 0 0 (some mtu)) := by
  have builds : Builds [.pushAttrBytes iflaMtu (toNeBytes order 4 mtu.toNat)]
      (.flat iflaMtu (toNeBytes order 4 mtu.toNat) .nil) := .flat rfl .nil
  rcases exists_finished order rtmNewlink (nlmFRequest ||| nlmFAck) seq builds
    ⟨by decide, trivial⟩ (by simp [Attrs.size, nlattrLen, nlmsgAlign])
    (show (ifinfomsg order ifindex 0 0).length % 4 = 0 ∧ _ by simp [ifinfomsg]) with
    ⟨buf, built, -, -, finished⟩
  refine ⟨buf, (if_pos index).trans built, ?_⟩
  rw [finished.readRequest_eq (by simp [familyLen, ifinfomsg])]
  exact (readLink_ifinfomsg ..).trans (by simp [Attrs.find?])

theorem exists_encodeSetLinkUp (order : ByteOrder) (seq : UInt32) {ifindex : UInt32}
    (index : ifindex.toNat < 2 ^ 31) :
    ∃ buf, encodeSetLinkUp order seq ifindex = some buf ∧
      readRequest order buf.bytes = some (.setLink ifindex iffUp iffUp none) := by
  rcases exists_finished order rtmNewlink (nlmFRequest ||| nlmFAck) seq .nil trivial (by decide)
    (show (ifinfomsg order ifindex iffUp iffUp).length % 4 = 0 ∧ _ by simp [ifinfomsg]) with
    ⟨buf, built, -, -, finished⟩
  refine ⟨buf, (if_pos index).trans built, ?_⟩
  rw [finished.readRequest_eq (by simp [familyLen, ifinfomsg])]
  exact readLink_ifinfomsg ..

theorem exists_encodeAddP2pAddr (order : ByteOrder) (seq ifindex : UInt32) (localIp peer : Ipv4) :
    ∃ buf, encodeAddP2pAddr order seq ifindex localIp peer = some buf ∧
      readRequest order buf.bytes = some (.newAddr ifindex 32 localIp.toList peer.toList) := by
  have builds : Builds
      [.pushAttrBytes ifaLocal localIp.toList, .pushAttrBytes ifaAddress peer.toList]
      (.flat ifaLocal localIp.toList (.flat ifaAddress peer.toList .nil)) :=
    .flat rfl (.flat rfl .nil)
  rcases exists_finished order rtmNewaddr
    (nlmFRequest ||| nlmFAck ||| nlmFCreate ||| nlmFReplace ||| nlmFExcl) seq builds
    ⟨by decide, by decide, trivial⟩ (by simp [Attrs.size, nlattrLen, nlmsgAlign])
    (show (ifaddrmsg order 32 ifindex).length % 4 = 0 ∧ _ by simp [ifaddrmsg]) with
    ⟨buf, built, -, -, finished⟩
  have isIndex : slice (ifaddrmsg order 32 ifindex) 4 8 = toNeBytes order 4 ifindex.toNat :=
    slice_last rfl (by simp)
  have isInet : (ifaddrmsg order 32 ifindex).getD 0 0 = afInet ∧
      (ifaddrmsg order 32 ifindex).getD 1 0 = 32 :=
    ⟨rfl, rfl⟩
  refine ⟨buf, built, ?_⟩
  rw [finished.readRequest_eq (by simp [familyLen, ifaddrmsg, rtmNewaddr, rtmNewlink]), readFamily,
    if_neg (by decide), readAddr, isIndex, isInet.1, isInet.2]
  simp [Attrs.find?, ifaLocal, ifaAddress]

/-! ## Acknowledgements -/

theorem ofBytes_nlmsghdr (order : ByteOrder) {len : Nat} (fits : len < 2 ^ 32)
    (msgType flags : UInt16) (seq pid : UInt32) :
    Nlmsghdr.ofBytes order (nlmsghdr order len msgType flags seq pid) = ⟨len, msgType, seq⟩ := by
  have fields := slice_nlmsghdr order len msgType flags seq pid []
  rw [List.append_nil] at fields
  rw [Nlmsghdr.ofBytes, fields.1, fields.2.1, fields.2.2.2, fromNeBytes_toNeBytes order fits,
    fromNeBytes_toNeBytes order msgType.toNat_lt, fromNeBytes_toNeBytes order seq.toNat_lt,
    UInt16.ofNat_toNat, UInt32.ofNat_toNat]

/-- The answer of the kernel to a request: its code, and the header of the request. -/
def ack (order : ByteOrder) (seq : UInt32) (code : Int32) (request : Bytes) : Bytes :=
  nlmsghdr order 36 nlmsgError 0 seq 0 ++
    (toNeBytes order 4 code.toUInt32.toNat ++ (Block.ofBytes 16 request).toList)

@[simp]
theorem length_ack (order : ByteOrder) (seq : UInt32) (code : Int32) (request : Bytes) :
    (ack order seq code request).length = 36 := by
  simp [ack, nlmsgHdrlen]

theorem readHdr_ack (order : ByteOrder) (seq : UInt32) (code : Int32) (request : Bytes) :
    readHdr order (ack order seq code request) 0 = some ⟨36, nlmsgError, seq⟩ := by
  have fits : 0 + nlmsgHdrlen ≤ (ack order seq code request).length := by
    rw [length_ack, nlmsgHdrlen]
    omega
  have hdr : slice (ack order seq code request) 0 (0 + nlmsgHdrlen) =
      nlmsghdr order 36 nlmsgError 0 seq 0 := by
    rw [ack, ← List.nil_append (nlmsghdr order 36 nlmsgError 0 seq 0 ++ _)]
    exact slice_middle rfl (by simp)
  rw [readHdr_of_le order fits, hdr, ofBytes_nlmsghdr order (by decide)]

theorem codeAt_ack (order : ByteOrder) (seq : UInt32) (code : Int32) (request : Bytes) :
    codeAt order (ack order seq code request) 0 = code := by
  have bytes : slice (ack order seq code request) (0 + nlmsgHdrlen) (0 + nlmsgHdrlen + 4) =
      toNeBytes order 4 code.toUInt32.toNat :=
    slice_middle (by simp) (by simp)
  rw [codeAt, bytes, i32OfBytes, fromNeBytes_toNeBytes order code.toUInt32.toNat_lt,
    UInt32.ofNat_toNat, Int32.toInt32_toUInt32]

theorem messageAt_ack (order : ByteOrder) (seq : UInt32) (code : Int32) (request : Bytes) :
    MessageAt order (ack order seq code request) 0 ⟨36, nlmsgError, seq⟩ where
  header := readHdr_ack order seq code request
  long := by simp [nlmsgHdrlen]
  inside := by simp
  coded _ := by simp [nlmsgHdrlen]

/-- The walk of an acknowledgement ends with its code, or strikes off its sequence number. -/
theorem drainAcks_ack (order : ByteOrder) (seq : UInt32) (code : Int32) (request : Bytes) :
    drainAcks order (ack order seq code request) {seq} =
      some (if code = 0 then ⟨.ok (), ∅⟩ else ⟨.error (.kernel (-code)), {seq}⟩) := by
  have message := messageAt_ack order seq code request
  have isCode := codeAt_ack order seq code request
  have behind (hdr : Nlmsghdr) : ¬MessageAt order (ack order seq code request) 36 hdr := by
    intro other
    have inside := other.inside
    have long := other.long
    rw [length_ack] at inside
    unfold nlmsgHdrlen at long
    omega
  unfold drainAcks
  rcases drainPass_cases order (ack order seq code request) ⟨0, {seq}⟩ with
    ⟨result, done, stops⟩ | ⟨hdr, here, accepted, next⟩
  · rw [run_of_done done]
    cases stops with
    | finished short => simp [nlmsgHdrlen] at short
    | truncated _ none => exact absurd message (none _)
    | kernel _ refuses =>
        have nonzero : code ≠ 0 := isCode ▸ refuses.2
        rw [if_neg nonzero, isCode]
  · cases Option.some.inj (message.header.symm.trans here.header)
    have zero : code = 0 := by
      by_contra nonzero
      exact accepted ⟨rfl, isCode.symm ▸ nonzero⟩
    have acks : Acknowledges order (ack order seq code request) 0 ⟨36, nlmsgError, seq⟩ :=
      ⟨rfl, isCode.trans zero⟩
    dsimp only at next
    rw [if_pos acks, Finset.sdiff_self] at next
    rw [length_ack, run_of_next next, if_pos zero]
    rcases drainPass_cases order (ack order seq code request) ⟨0 + nlmsgAlign 36, ∅⟩ with
      ⟨result, done, stops⟩ | ⟨hdr, there, -, -⟩
    · rw [run_of_done done]
      cases stops with
      | finished _ => rfl
      | truncated fits _ => simp [nlmsgHdrlen, nlmsgAlign] at fits
      | kernel there _ => exact absurd there (behind _)
    · exact absurd there (behind hdr)

/-- The client takes the code of an acknowledgement for the result. -/
theorem RtNetlink.exchange_ack (order : ByteOrder) (op : String) (buf : MessageBuf)
    {client : RtNetlink} {code : Int32} {request : Bytes}
    (sent : client.sock.send buf.bytes = .ok ())
    (received : client.sock.recv = .ok (ack order buf.seq code request)) :
    client.exchange order op buf =
      some (if code = 0 then .ok () else .error (.kernel op (-code))) := by
  have isReceived : client.sock.recvInto 4096 = .ok (ack order buf.seq code request) := by
    rw [NetlinkSocket.recvInto, received]
    exact congrArg Except.ok (List.take_of_length_le (by simp))
  rw [exchange, sent]
  dsimp only
  rw [isReceived]
  dsimp only
  rw [drainAcks_ack]
  split
  · rfl
  · rfl

end SstpServer.Netlink
