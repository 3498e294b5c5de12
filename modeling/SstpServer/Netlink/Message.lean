import SstpServer.Wire.Bytes

/-!
# Netlink messages

A request to the kernel is built in one buffer: the message header, a header of the family, and
attributes, which may nest.  No length is known when its header is written.  The one of a nested
attribute is patched when the attribute is closed, through a stack of offsets, and the one of the
message at the end.

A reader walks the attributes from length to length and descends where the type has the nested
flag.  The calls that build a tree of attributes leave bytes from which the walk recovers it.
-/

namespace SstpServer.Netlink

open SstpServer.Wire

/-! ## Fields in the byte order of the host -/

inductive ByteOrder where
  | little
  | big
  deriving DecidableEq, Repr

/-- The lower `size` bytes of a number, the lowest first. -/
def lowBytes : Nat → Nat → Bytes
  | 0, _ => []
  | size + 1, value => UInt8.ofNat value :: lowBytes size (value / 256)

/-- The number whose bytes are given, the lowest first. -/
def lowValue : Bytes → Nat
  | [] => 0
  | byte :: rest => byte.toNat + 256 * lowValue rest

def toNeBytes (order : ByteOrder) (size value : Nat) : Bytes :=
  match order with
  | .little => lowBytes size value
  | .big => (lowBytes size value).reverse

def fromNeBytes (order : ByteOrder) (bytes : Bytes) : Nat :=
  match order with
  | .little => lowValue bytes
  | .big => lowValue bytes.reverse

@[simp]
theorem length_lowBytes (size value : Nat) : (lowBytes size value).length = size := by
  induction size generalizing value with
  | zero => rfl
  | succ size ih => rw [lowBytes, List.length_cons, ih]

@[simp]
theorem length_toNeBytes (order : ByteOrder) (size value : Nat) :
    (toNeBytes order size value).length = size := by
  cases order <;> simp [toNeBytes]

theorem lowValue_lowBytes {size value : Nat} (bound : value < 256 ^ size) :
    lowValue (lowBytes size value) = value := by
  induction size generalizing value with
  | zero =>
      rw [pow_zero] at bound
      rw [Nat.lt_one_iff.mp bound]
      rfl
  | succ size ih =>
      have upper : value / 256 < 256 ^ size := by
        rw [pow_succ] at bound
        exact Nat.div_lt_of_lt_mul (by omega)
      have lowest : (UInt8.ofNat value).toNat = value % 256 := rfl
      rw [lowBytes, lowValue, ih upper, lowest]
      omega

theorem fromNeBytes_toNeBytes (order : ByteOrder) {size value : Nat} (bound : value < 256 ^ size) :
    fromNeBytes order (toNeBytes order size value) = value := by
  cases order with
  | little => exact lowValue_lowBytes bound
  | big =>
      rw [fromNeBytes, toNeBytes, List.reverse_reverse]
      exact lowValue_lowBytes bound

/-! ## Building a message -/

def nlmsgHdrlen : Nat := 16

def nlattrLen : Nat := 4

/-- The flag of a nested attribute, in its type. -/
def nlaFNested : UInt16 := 0x8000

/-- The next multiple of four. -/
def nlmsgAlign (len : Nat) : Nat :=
  (len + 3) / 4 * 4

def nlmsghdr (order : ByteOrder) (len : Nat) (msgType flags : UInt16) (seq pid : UInt32) : Bytes :=
  toNeBytes order 4 len ++ toNeBytes order 2 msgType.toNat ++ toNeBytes order 2 flags.toNat ++
    toNeBytes order 4 seq.toNat ++ toNeBytes order 4 pid.toNat

def nlattr (order : ByteOrder) (len : Nat) (attrType : UInt16) : Bytes :=
  toNeBytes order 2 len ++ toNeBytes order 2 attrType.toNat

/-- Overwrite the bytes at an offset; they have to be there. -/
def patch (bytes : Bytes) (offset : Nat) (field : Bytes) : Option Bytes :=
  if offset + field.length ≤ bytes.length then
    some (bytes.take offset ++ field ++ bytes.drop (offset + field.length))
  else none

def padTo4 (bytes : Bytes) : Bytes :=
  if bytes.length % 4 = 0 then bytes else padTo4 (bytes ++ [0])
termination_by (4 - bytes.length % 4) % 4
decreasing_by
  rw [List.length_append, List.length_singleton]
  omega

/-- The buffer of one request, with the offsets of the attributes that are open, innermost
first. -/
structure MessageBuf where
  bytes : Bytes
  nestStack : List Nat
  seq : UInt32
  flags : UInt16
  deriving DecidableEq, Repr

namespace MessageBuf

def new (order : ByteOrder) (msgType flags : UInt16) (seq : UInt32) : MessageBuf :=
  ⟨nlmsghdr order 0 msgType flags seq 0, [], seq, flags⟩

/-- Append a header, given by its bytes. -/
def pushStruct (value : Bytes) (buf : MessageBuf) : MessageBuf :=
  { buf with bytes := padTo4 (buf.bytes ++ value) }

-- A length that does not fit its field makes the process panic.
def pushAttrBytes (order : ByteOrder) (attrType : UInt16) (payload : Bytes) (buf : MessageBuf) :
    Option MessageBuf :=
  let total := nlattrLen + payload.length
  if total < 65536 then
    some { buf with bytes := padTo4 (buf.bytes ++ nlattr order total attrType ++ payload) }
  else none

def pushAttrU8 (order : ByteOrder) (attrType : UInt16) (value : UInt8) (buf : MessageBuf) :
    Option MessageBuf :=
  buf.pushAttrBytes order attrType [value]

def pushAttrBe32 (order : ByteOrder) (attrType : UInt16) (value : UInt32) (buf : MessageBuf) :
    Option MessageBuf :=
  buf.pushAttrBytes order attrType (toNeBytes .big 4 value.toNat)

def pushAttrCstr (order : ByteOrder) (attrType : UInt16) (value : Bytes) (buf : MessageBuf) :
    Option MessageBuf :=
  buf.pushAttrBytes order attrType (value ++ [0])

def nestBegin (order : ByteOrder) (attrType : UInt16) (buf : MessageBuf) : MessageBuf :=
  { buf with
    nestStack := buf.bytes.length :: buf.nestStack
    bytes := buf.bytes ++ nlattr order 0 (attrType ||| nlaFNested) }

def nestEnd (order : ByteOrder) (buf : MessageBuf) : Option MessageBuf :=
  match buf.nestStack with
  | [] => none
  | offset :: outer =>
      let len := buf.bytes.length - offset
      if len < 65536 then
        (patch buf.bytes offset (toNeBytes order 2 len)).map fun bytes =>
          { buf with bytes := padTo4 bytes, nestStack := outer }
      else none

def finalize (order : ByteOrder) (buf : MessageBuf) : Option MessageBuf :=
  if buf.nestStack = [] ∧ buf.bytes.length < 2 ^ 32 then
    (patch buf.bytes 0 (toNeBytes order 4 buf.bytes.length)).map fun bytes => { buf with bytes }
  else none

end MessageBuf

/-- A call that writes attributes. -/
inductive Call where
  | pushAttrBytes (attrType : UInt16) (payload : Bytes)
  | pushAttrU8 (attrType : UInt16) (value : UInt8)
  | pushAttrBe32 (attrType : UInt16) (value : UInt32)
  | pushAttrCstr (attrType : UInt16) (value : Bytes)
  | nestBegin (attrType : UInt16)
  | nestEnd
  deriving DecidableEq, Repr

def MessageBuf.call (order : ByteOrder) (buf : MessageBuf) : Call → Option MessageBuf
  | .pushAttrBytes attrType payload => buf.pushAttrBytes order attrType payload
  | .pushAttrU8 attrType value => buf.pushAttrU8 order attrType value
  | .pushAttrBe32 attrType value => buf.pushAttrBe32 order attrType value
  | .pushAttrCstr attrType value => buf.pushAttrCstr order attrType value
  | .nestBegin attrType => some (buf.nestBegin order attrType)
  | .nestEnd => buf.nestEnd order

def MessageBuf.run (order : ByteOrder) : MessageBuf → List Call → Option MessageBuf
  | buf, [] => some buf
  | buf, call :: rest => (buf.call order call).bind fun next => next.run order rest

/-- The buffer that attributes are written to. -/
def opened (order : ByteOrder) (msgType flags : UInt16) (seq : UInt32) (header : Bytes) :
    MessageBuf :=
  (MessageBuf.new order msgType flags seq).pushStruct header

/-- A whole request. -/
def message (order : ByteOrder) (msgType flags : UInt16) (seq : UInt32) (header : Bytes)
    (calls : List Call) : Option MessageBuf :=
  ((opened order msgType flags seq header).run order calls).bind (MessageBuf.finalize order)

/-! ## Trees of attributes -/

/-- A sequence of attributes; a nested one holds a sequence of its own. -/
inductive Attrs where
  | nil
  | flat (attrType : UInt16) (payload : Bytes) (rest : Attrs)
  | nested (attrType : UInt16) (inner rest : Attrs)
  deriving DecidableEq, Repr

/-- The type and payload that a call pushes as a flat attribute. -/
def Call.flat? : Call → Option (UInt16 × Bytes)
  | .pushAttrBytes attrType payload => some (attrType, payload)
  | .pushAttrU8 attrType value => some (attrType, [value])
  | .pushAttrBe32 attrType value => some (attrType, toNeBytes .big 4 value.toNat)
  | .pushAttrCstr attrType value => some (attrType, value ++ [0])
  | .nestBegin _ | .nestEnd => none

/-- Properly nested calls, and the tree that they push. -/
inductive Builds : List Call → Attrs → Prop
  | nil : Builds [] .nil
  | flat {call : Call} {attrType : UInt16} {payload : Bytes} {calls : List Call} {rest : Attrs} :
      call.flat? = some (attrType, payload) → Builds calls rest →
        Builds (call :: calls) (.flat attrType payload rest)
  | nested (attrType : UInt16) {within calls : List Call} {inner rest : Attrs} :
      Builds within inner → Builds calls rest →
        Builds (.nestBegin attrType :: (within ++ .nestEnd :: calls)) (.nested attrType inner rest)

namespace Attrs

/-- The bytes of a sequence of attributes. -/
def encode (order : ByteOrder) : Attrs → Bytes
  | .nil => []
  | .flat attrType payload rest =>
      padTo4 (nlattr order (nlattrLen + payload.length) attrType ++ payload) ++ rest.encode order
  | .nested attrType inner rest =>
      nlattr order (nlattrLen + (inner.encode order).length) (attrType ||| nlaFNested) ++
        inner.encode order ++ rest.encode order

/-- The number of bytes of a sequence of attributes. -/
def size : Attrs → Nat
  | .nil => 0
  | .flat _ payload rest => nlmsgAlign (nlattrLen + payload.length) + rest.size
  | .nested _ inner rest => nlattrLen + inner.size + rest.size

/-- The length of each attribute fits its field. -/
def Fits : Attrs → Prop
  | .nil => True
  | .flat _ payload rest => nlattrLen + payload.length < 65536 ∧ rest.Fits
  | .nested _ inner rest => nlattrLen + inner.size < 65536 ∧ inner.Fits ∧ rest.Fits

/-- No type has the nested flag of its own. -/
def Plain : Attrs → Prop
  | .nil => True
  | .flat attrType _ rest => attrType &&& nlaFNested = 0 ∧ rest.Plain
  | .nested attrType inner rest => attrType &&& nlaFNested = 0 ∧ inner.Plain ∧ rest.Plain

end Attrs

/-! ## Padding and patching -/

theorem padTo4_of_aligned {bytes : Bytes} (aligned : bytes.length % 4 = 0) :
    padTo4 bytes = bytes := by
  rw [padTo4, if_pos aligned]

theorem padTo4_eq (bytes : Bytes) :
    padTo4 bytes = bytes ++ List.replicate (nlmsgAlign bytes.length - bytes.length) 0 := by
  fun_induction padTo4 bytes with
  | case1 bytes aligned =>
      have none : nlmsgAlign bytes.length - bytes.length = 0 := by
        unfold nlmsgAlign
        omega
      rw [none, List.replicate_zero, List.append_nil]
  | case2 bytes unaligned ih =>
      have one : nlmsgAlign bytes.length - bytes.length =
          nlmsgAlign (bytes ++ [0]).length - (bytes ++ [0]).length + 1 := by
        rw [List.length_append, List.length_singleton]
        unfold nlmsgAlign
        omega
      rw [ih, one, List.replicate_succ, List.append_assoc]
      rfl

@[simp]
theorem length_padTo4 (bytes : Bytes) : (padTo4 bytes).length = nlmsgAlign bytes.length := by
  rw [padTo4_eq, List.length_append, List.length_replicate]
  unfold nlmsgAlign
  omega

theorem nlmsgAlign_mod (len : Nat) : nlmsgAlign len % 4 = 0 :=
  Nat.mul_mod_left _ _

/-- Behind aligned bytes, padding is that of the rest. -/
theorem padTo4_append {bytes : Bytes} (aligned : bytes.length % 4 = 0) (rest : Bytes) :
    padTo4 (bytes ++ rest) = bytes ++ padTo4 rest := by
  have same : nlmsgAlign (bytes ++ rest).length - (bytes ++ rest).length =
      nlmsgAlign rest.length - rest.length := by
    rw [List.length_append]
    unfold nlmsgAlign
    omega
  rw [padTo4_eq, padTo4_eq rest, same, List.append_assoc]

theorem patch_append (before : Bytes) {old field : Bytes} (sized : old.length = field.length)
    (after : Bytes) :
    patch (before ++ (old ++ after)) before.length field = some (before ++ (field ++ after)) := by
  have inside : before.length + field.length ≤ (before ++ (old ++ after)).length := by
    simp only [List.length_append, sized]
    omega
  rw [patch, if_pos inside, List.take_left, ← List.append_assoc before old, ← sized,
    ← List.length_append, List.drop_left, List.append_assoc]

@[simp]
theorem length_nlattr (order : ByteOrder) (len : Nat) (attrType : UInt16) :
    (nlattr order len attrType).length = nlattrLen := by
  simp [nlattr, nlattrLen]

@[simp]
theorem length_nlmsghdr (order : ByteOrder) (len : Nat) (msgType flags : UInt16)
    (seq pid : UInt32) : (nlmsghdr order len msgType flags seq pid).length = nlmsgHdrlen := by
  simp [nlmsghdr, nlmsgHdrlen]

@[simp]
theorem Attrs.length_encode (order : ByteOrder) (tree : Attrs) :
    (tree.encode order).length = tree.size := by
  induction tree with
  | nil => rfl
  | flat attrType payload rest ih => simp [encode, size, ih]
  | nested attrType inner rest ihInner ihRest =>
      simp [encode, size, ihInner, ihRest, Nat.add_assoc]

theorem Attrs.size_mod (tree : Attrs) : tree.size % 4 = 0 := by
  induction tree with
  | nil => rfl
  | flat attrType payload rest ih =>
      have aligned := nlmsgAlign_mod (nlattrLen + payload.length)
      rw [size]
      omega
  | nested attrType inner rest ihInner ihRest =>
      rw [size, nlattrLen]
      omega

/-! ## What the calls write -/

section Calls

variable (order : ByteOrder)

theorem MessageBuf.call_of_flat {call : Call} {attrType : UInt16} {payload : Bytes}
    (flat : call.flat? = some (attrType, payload)) (buf : MessageBuf) :
    buf.call order call = buf.pushAttrBytes order attrType payload := by
  cases call <;> cases flat <;> rfl

theorem MessageBuf.run_append (buf : MessageBuf) (first second : List Call) :
    buf.run order (first ++ second) =
      (buf.run order first).bind fun next => next.run order second := by
  induction first generalizing buf with
  | nil => rfl
  | cons call rest ih =>
      rw [List.cons_append, run, run, Option.bind_assoc]
      exact congrArg (Option.bind _) (funext ih)

theorem MessageBuf.pushAttrBytes_eq {buf : MessageBuf} (aligned : buf.bytes.length % 4 = 0)
    (attrType : UInt16) {payload : Bytes} (fits : nlattrLen + payload.length < 65536) :
    buf.pushAttrBytes order attrType payload =
      some { buf with
        bytes := buf.bytes ++
          padTo4 (nlattr order (nlattrLen + payload.length) attrType ++ payload) } := by
  rw [pushAttrBytes, if_pos fits, List.append_assoc, padTo4_append aligned]

/-- Closing an attribute writes its length into the header that opened it. -/
theorem MessageBuf.nestEnd_eq {buf : MessageBuf} (aligned : buf.bytes.length % 4 = 0)
    (attrType : UInt16) {inner : Bytes} (innerAligned : inner.length % 4 = 0)
    (fits : nlattrLen + inner.length < 65536) :
    ({ buf.nestBegin order attrType with
        bytes := (buf.nestBegin order attrType).bytes ++ inner } : MessageBuf).nestEnd order =
      some { buf with
        bytes := buf.bytes ++
          (nlattr order (nlattrLen + inner.length) (attrType ||| nlaFNested) ++ inner) } := by
  have len : (buf.bytes ++ nlattr order 0 (attrType ||| nlaFNested) ++ inner).length -
      buf.bytes.length = nlattrLen + inner.length := by
    simp only [List.length_append, length_nlattr]
    omega
  have patched : patch (buf.bytes ++ nlattr order 0 (attrType ||| nlaFNested) ++ inner)
      buf.bytes.length (toNeBytes order 2 (nlattrLen + inner.length)) =
        some (buf.bytes ++
          (nlattr order (nlattrLen + inner.length) (attrType ||| nlaFNested) ++ inner)) := by
    have sized : (toNeBytes order 2 0).length =
        (toNeBytes order 2 (nlattrLen + inner.length)).length := by
      simp
    have written := patch_append buf.bytes sized
      (toNeBytes order 2 (attrType ||| nlaFNested).toNat ++ inner)
    simpa only [nlattr, List.append_assoc] using written
  have unpadded : (buf.bytes ++
      (nlattr order (nlattrLen + inner.length) (attrType ||| nlaFNested) ++ inner)).length % 4 =
        0 := by
    simp only [List.length_append, length_nlattr, nlattrLen]
    omega
  dsimp only [nestEnd, nestBegin]
  rw [len, if_pos fits, patched, Option.map_some, padTo4_of_aligned unpadded]

/-- Calls that push a tree append its bytes. -/
theorem Builds.run_eq {calls : List Call} {tree : Attrs} (builds : Builds calls tree)
    (fits : tree.Fits) {buf : MessageBuf} (aligned : buf.bytes.length % 4 = 0) :
    buf.run order calls = some { buf with bytes := buf.bytes ++ tree.encode order } := by
  induction builds generalizing buf with
  | nil =>
      rw [Attrs.encode, List.append_nil]
      rfl
  | @flat call attrType payload calls rest flat _ ih =>
      rcases fits with ⟨here, later⟩
      have next : (buf.bytes ++
          padTo4 (nlattr order (nlattrLen + payload.length) attrType ++ payload)).length % 4 =
            0 := by
        have padded := nlmsgAlign_mod (nlattr order (nlattrLen + payload.length) attrType ++
          payload).length
        rw [List.length_append, length_padTo4]
        omega
      rw [MessageBuf.run, MessageBuf.call_of_flat order flat,
        MessageBuf.pushAttrBytes_eq order aligned attrType here, Option.bind_some,
        ih later next, Attrs.encode, List.append_assoc]
  | @nested attrType within calls inner rest _ _ ihInner ihRest =>
      rcases fits with ⟨here, within', later⟩
      rw [← Attrs.length_encode order inner] at here
      have innerAligned : (inner.encode order).length % 4 = 0 := by
        rw [Attrs.length_encode]
        exact inner.size_mod
      have begun : (buf.nestBegin order attrType).bytes.length % 4 = 0 := by
        rw [MessageBuf.nestBegin, List.length_append, length_nlattr, nlattrLen]
        omega
      have ended : (buf.bytes ++ (nlattr order (nlattrLen + (inner.encode order).length)
          (attrType ||| nlaFNested) ++ inner.encode order)).length % 4 = 0 := by
        rw [List.length_append, List.length_append, length_nlattr, nlattrLen]
        omega
      -- Open, run the calls within, close, run the calls behind.
      rw [MessageBuf.run, MessageBuf.call, Option.bind_some, MessageBuf.run_append,
        ihInner within' begun, Option.bind_some, MessageBuf.run, MessageBuf.call,
        MessageBuf.nestEnd_eq order aligned attrType innerAligned here, Option.bind_some,
        ihRest later ended, Attrs.encode]
      simp only [List.append_assoc]

end Calls

/-! ## Alignment -/

/-- The offsets at which calls start an attribute. -/
def attrStarts (order : ByteOrder) : MessageBuf → List Call → List Nat
  | _, [] => []
  | buf, call :: rest =>
      (if call = .nestEnd then [] else [buf.bytes.length]) ++
        (buf.call order call).elim [] fun next => attrStarts order next rest

theorem MessageBuf.aligned_of_call {order : ByteOrder} {call : Call} {buf next : MessageBuf}
    (aligned : buf.bytes.length % 4 = 0) (called : buf.call order call = some next) :
    next.bytes.length % 4 = 0 := by
  cases flat : call.flat? with
  | some attr =>
      rw [call_of_flat order flat] at called
      rcases Option.ite_none_right_eq_some.mp called with ⟨-, pushed⟩
      rw [← Option.some.inj pushed, length_padTo4]
      exact nlmsgAlign_mod _
  | none =>
      cases call with
      | nestBegin attrType =>
          rw [← Option.some.inj called, nestBegin, List.length_append, length_nlattr, nlattrLen]
          omega
      | nestEnd =>
          rw [MessageBuf.call, nestEnd] at called
          split at called
          · cases called
          · rcases Option.ite_none_right_eq_some.mp called with ⟨-, patched⟩
            rcases Option.map_eq_some_iff.mp patched with ⟨bytes, -, rfl⟩
            rw [length_padTo4]
            exact nlmsgAlign_mod _
      | _ => cases flat

theorem attrStarts_aligned (order : ByteOrder) {buf : MessageBuf}
    (aligned : buf.bytes.length % 4 = 0) (calls : List Call) :
    ∀ start ∈ attrStarts order buf calls, start % 4 = 0 := by
  induction calls generalizing buf with
  | nil => nofun
  | cons call rest ih =>
      intro start member
      rw [attrStarts] at member
      rcases List.mem_append.mp member with here | later
      · split_ifs at here with closes
        · cases here
        · rw [List.mem_singleton.mp here]
          exact aligned
      · cases called : buf.call order call with
        | none =>
            rw [called] at later
            cases later
        | some next =>
            rw [called] at later
            exact ih (MessageBuf.aligned_of_call aligned called) start later

/-! ## Reading the attributes back -/

/-- Walk the attributes of an area: advance by the aligned length, and descend where the nested
flag is set.  Nothing may be left over. -/
def walk (order : ByteOrder) : Nat → Bytes → Option Attrs
  | 0, _ => none
  | fuel + 1, area =>
      if area = [] then some .nil
      else
        let len := fromNeBytes order (slice area 0 2)
        let attrType := UInt16.ofNat (fromNeBytes order (slice area 2 4))
        if area.length < nlattrLen ∨ len < nlattrLen ∨ area.length < len then none
        else
          (walk order fuel (area.drop (nlmsgAlign len))).bind fun rest =>
            if attrType &&& nlaFNested = 0 then
              some (.flat attrType (slice area nlattrLen len) rest)
            else
              (walk order fuel (slice area nlattrLen len)).map fun inner =>
                .nested (attrType &&& ~~~nlaFNested) inner rest

/-- The attributes of a message behind a family header. -/
def attributes (order : ByteOrder) (headerLen : Nat) (bytes : Bytes) : Option Attrs :=
  let area := bytes.drop (nlmsgHdrlen + nlmsgAlign headerLen)
  walk order (area.length + 1) area

/-! A type keeps its other bits when the flag is set and taken away again. -/

theorem and_compl_eq_self {attrType flag : UInt16} (plain : attrType &&& flag = 0) :
    attrType &&& ~~~flag = attrType := by
  rw [← UInt16.toBitVec_inj] at plain ⊢
  ext bit inside
  have clear : (attrType.toBitVec &&& flag.toBitVec).getLsbD bit = false := by
    rw [← UInt16.toBitVec_and, plain]
    exact BitVec.getLsbD_zero
  rw [BitVec.getLsbD_and] at clear
  simp only [UInt16.toBitVec_and, UInt16.toBitVec_not, BitVec.getElem_and, BitVec.getElem_not]
  grind

theorem or_and_compl (attrType flag : UInt16) :
    (attrType ||| flag) &&& ~~~flag = attrType &&& ~~~flag := by
  rw [← UInt16.toBitVec_inj]
  ext bit inside
  simp only [UInt16.toBitVec_and, UInt16.toBitVec_or, UInt16.toBitVec_not, BitVec.getElem_and,
    BitVec.getElem_or, BitVec.getElem_not]
  grind

theorem or_and_self (attrType flag : UInt16) : (attrType ||| flag) &&& flag = flag := by
  rw [← UInt16.toBitVec_inj]
  ext bit inside
  simp only [UInt16.toBitVec_and, UInt16.toBitVec_or, BitVec.getElem_and, BitVec.getElem_or]
  grind

theorem and_compl_and (attrType flag : UInt16) : attrType &&& ~~~flag &&& flag = 0 := by
  rw [← UInt16.toBitVec_inj]
  ext bit inside
  simp only [UInt16.toBitVec_and, UInt16.toBitVec_not, BitVec.getElem_and, BitVec.getElem_not]
  simp

/-- The fields of an attribute header. -/
theorem slice_nlattr (order : ByteOrder) (len : Nat) (attrType : UInt16) (rest : Bytes) :
    slice (nlattr order len attrType ++ rest) 0 2 = toNeBytes order 2 len ∧
      slice (nlattr order len attrType ++ rest) 2 4 = toNeBytes order 2 attrType.toNat := by
  rw [nlattr, List.append_assoc]
  constructor
  · change slice ([] ++ (toNeBytes order 2 len ++ (toNeBytes order 2 attrType.toNat ++ rest))) 0 2 =
      toNeBytes order 2 len
    exact slice_middle rfl (by rw [length_toNeBytes])
  · exact slice_middle (length_toNeBytes order 2 len) (by rw [length_toNeBytes])

/-- One step of the walk, at an attribute with its padding. -/
theorem walk_attr (order : ByteOrder) (fuel : Nat) {len : Nat} (attrType : UInt16)
    {payload padding : Bytes} (rest : Bytes) (isLen : nlattrLen + payload.length = len)
    (fits : len < 65536) (padded : len + padding.length = nlmsgAlign len) :
    walk order (fuel + 1) (nlattr order len attrType ++ (payload ++ (padding ++ rest))) =
      (walk order fuel rest).bind fun others =>
        if attrType &&& nlaFNested = 0 then some (.flat attrType payload others)
        else
          (walk order fuel payload).map fun inner =>
            .nested (attrType &&& ~~~nlaFNested) inner others := by
  rcases slice_nlattr order len attrType (payload ++ (padding ++ rest)) with ⟨first, second⟩
  have readLen : fromNeBytes order (toNeBytes order 2 len) = len :=
    fromNeBytes_toNeBytes order fits
  have readType : UInt16.ofNat (fromNeBytes order (toNeBytes order 2 attrType.toNat)) =
      attrType := by
    rw [fromNeBytes_toNeBytes order attrType.toNat_lt, UInt16.ofNat_toNat]
  have readPayload :
      slice (nlattr order len attrType ++ (payload ++ (padding ++ rest))) nlattrLen len = payload :=
    slice_middle (length_nlattr order len attrType) isLen
  have readRest : (nlattr order len attrType ++ (payload ++ (padding ++ rest))).drop
      (nlmsgAlign len) = rest := by
    rw [← List.append_assoc payload, ← List.append_assoc]
    apply List.drop_left'
    simp only [List.length_append, length_nlattr]
    omega
  have size : (nlattr order len attrType ++ (payload ++ (padding ++ rest))).length =
      len + padding.length + rest.length := by
    simp only [List.length_append, length_nlattr]
    omega
  have present : nlattr order len attrType ++ (payload ++ (padding ++ rest)) ≠ [] := by
    apply List.ne_nil_of_length_pos
    rw [size, ← isLen, nlattrLen]
    omega
  have inside : ¬(len + padding.length + rest.length < nlattrLen ∨ len < nlattrLen ∨
      len + padding.length + rest.length < len) := by
    omega
  rw [walk, if_neg present]
  dsimp only
  rw [first, second, readLen, readType, readPayload, readRest, size, if_neg inside]

/-- The walk recovers a tree from its bytes. -/
theorem walk_encode (order : ByteOrder) {tree : Attrs} (fits : tree.Fits) (plain : tree.Plain)
    {fuel : Nat} (enough : tree.size < fuel) : walk order fuel (tree.encode order) = some tree := by
  induction tree generalizing fuel with
  | nil =>
      cases fuel with
      | zero => exact absurd enough (Nat.not_lt_zero _)
      | succ fuel => rfl
  | flat attrType payload rest ih =>
      rcases fits with ⟨here, later⟩
      rw [Attrs.size, nlattrLen, nlmsgAlign] at enough
      cases fuel with
      | zero => exact absurd enough (Nat.not_lt_zero _)
      | succ fuel =>
          have padded : nlattrLen + payload.length + (List.replicate
              (nlmsgAlign (nlattrLen + payload.length) - (nlattrLen + payload.length))
              (0 : UInt8)).length = nlmsgAlign (nlattrLen + payload.length) := by
            rw [List.length_replicate, nlmsgAlign]
            omega
          rw [Attrs.encode, padTo4_eq, List.length_append, length_nlattr, List.append_assoc,
            List.append_assoc, walk_attr order fuel attrType _ rfl here padded,
            ih later plain.2 (by omega), Option.bind_some, if_pos plain.1]
  | nested attrType inner rest ihInner ihRest =>
      rcases fits with ⟨here, within, later⟩
      rcases plain with ⟨unflagged, plainInner, plainRest⟩
      rw [Attrs.size, nlattrLen] at enough
      cases fuel with
      | zero => exact absurd enough (Nat.not_lt_zero _)
      | succ fuel =>
          have flagged : ¬(attrType ||| nlaFNested) &&& nlaFNested = 0 := by
            rw [or_and_self]
            decide
          have aligned := inner.size_mod
          -- A nested attribute needs no padding of its own.
          have padded : nlattrLen + inner.size + ([] : Bytes).length =
              nlmsgAlign (nlattrLen + inner.size) := by
            rw [nlmsgAlign, nlattrLen, List.length_nil]
            omega
          have step := walk_attr order fuel (attrType ||| nlaFNested) (rest.encode order)
            (congrArg (nlattrLen + ·) (inner.length_encode order)) here padded
          rw [Attrs.encode, Attrs.length_encode, List.append_assoc]
          refine step.trans ?_
          rw [ihRest later plainRest (by omega), Option.bind_some, if_neg flagged,
            ihInner within plainInner (by omega), Option.map_some, or_and_compl,
            and_compl_eq_self unflagged]

/-- The walk takes the flag out of the types. -/
theorem plain_of_walk {order : ByteOrder} {fuel : Nat} {area : Bytes} {tree : Attrs}
    (walked : walk order fuel area = some tree) : tree.Plain := by
  induction fuel generalizing area tree with
  | zero => cases walked
  | succ fuel ih =>
      rw [walk] at walked
      split_ifs at walked with nothing
      · cases walked
        trivial
      · dsimp only at walked
        split_ifs at walked with _ unflagged
        · rcases Option.bind_eq_some_iff.mp walked with ⟨rest, walkedRest, here⟩
          cases here
          exact ⟨unflagged, ih walkedRest⟩
        · rcases Option.bind_eq_some_iff.mp walked with ⟨rest, walkedRest, here⟩
          rcases Option.map_eq_some_iff.mp here with ⟨inner, walkedInner, rfl⟩
          exact ⟨and_compl_and _ _, ih walkedInner, ih walkedRest⟩

/-! ## Whole messages -/

/-- Properly nested calls leave the header with the length, the family header and the tree. -/
theorem message_eq (order : ByteOrder) (msgType flags : UInt16) (seq : UInt32) (header : Bytes)
    {calls : List Call} {tree : Attrs} (builds : Builds calls tree) (fits : tree.Fits) :
    let total := nlmsgHdrlen + nlmsgAlign header.length + tree.size
    message order msgType flags seq header calls =
      if total < 2 ^ 32 then
        some ⟨nlmsghdr order total msgType flags seq 0 ++ padTo4 header ++ tree.encode order, [],
          seq, flags⟩
      else none := by
  intro total
  have start : opened order msgType flags seq header =
      ⟨nlmsghdr order 0 msgType flags seq 0 ++ padTo4 header, [], seq, flags⟩ := by
    rw [opened, MessageBuf.new, MessageBuf.pushStruct, padTo4_append (by simp [nlmsgHdrlen])]
  have aligned : (nlmsghdr order 0 msgType flags seq 0 ++ padTo4 header).length % 4 = 0 := by
    have padded := nlmsgAlign_mod header.length
    rw [List.length_append, length_nlmsghdr, length_padTo4, nlmsgHdrlen]
    omega
  have size : (nlmsghdr order 0 msgType flags seq 0 ++ padTo4 header ++ tree.encode order).length =
      total := by
    simp only [List.length_append, length_nlmsghdr, length_padTo4, Attrs.length_encode, total]
  have sized : (toNeBytes order 4 0).length = (toNeBytes order 4 total).length := by
    simp
  have patched := patch_append [] sized
    (toNeBytes order 2 msgType.toNat ++ (toNeBytes order 2 flags.toNat ++
      (toNeBytes order 4 seq.toNat ++ (toNeBytes order 4 (0 : UInt32).toNat ++
        (padTo4 header ++ tree.encode order)))))
  rw [message, start, builds.run_eq order fits aligned, Option.bind_some, MessageBuf.finalize]
  dsimp only
  rw [size]
  by_cases small : total < 2 ^ 32
  · rw [if_pos ⟨rfl, small⟩, if_pos small]
    simp only [nlmsghdr, List.append_assoc, List.nil_append, List.length_nil] at patched ⊢
    rw [patched]
    rfl
  · rw [if_neg fun both => small both.2, if_neg small]

/-- A finished message says its own length, its attributes start at multiples of four, and a walk
recovers the tree that was pushed, as long as no type has the nested flag of its own.  A message
is finished whenever its length fits the header. -/
theorem message_wellFormed (order : ByteOrder) (msgType flags : UInt16) (seq : UInt32)
    (header : Bytes) {calls : List Call} {tree : Attrs} (builds : Builds calls tree)
    (fits : tree.Fits) :
    ((message order msgType flags seq header calls).isSome ↔
        nlmsgHdrlen + nlmsgAlign header.length + tree.size < 2 ^ 32) ∧
      ∀ buf, message order msgType flags seq header calls = some buf →
        fromNeBytes order (slice buf.bytes 0 4) = buf.bytes.length ∧
          (∀ start ∈ attrStarts order (opened order msgType flags seq header) calls,
            start % 4 = 0) ∧
          (attributes order header.length buf.bytes = some tree ↔ tree.Plain) := by
  have built := message_eq order msgType flags seq header builds fits
  dsimp only at built
  constructor
  · rw [built]
    split_ifs with small
    · exact ⟨fun _ => small, fun _ => rfl⟩
    · exact ⟨nofun, fun fitting => (small fitting).elim⟩
  · intro buf finished
    rw [built] at finished
    rcases Option.ite_none_right_eq_some.mp finished with ⟨small, same⟩
    cases Option.some.inj same
    generalize total : nlmsgHdrlen + nlmsgAlign header.length + tree.size = len at small
    refine ⟨?_, ?_, ?_⟩
    · have first : slice (nlmsghdr order len msgType flags seq 0 ++ padTo4 header ++
          tree.encode order) 0 4 = toNeBytes order 4 len := by
        simp only [nlmsghdr, List.append_assoc]
        rw [← List.nil_append (toNeBytes order 4 len ++ _)]
        exact slice_middle rfl (by rw [length_toNeBytes])
      rw [first, fromNeBytes_toNeBytes order small, ← total]
      simp only [List.length_append, length_nlmsghdr, length_padTo4, Attrs.length_encode]
    · apply attrStarts_aligned order
      rw [opened, MessageBuf.pushStruct, length_padTo4]
      exact nlmsgAlign_mod _
    · have area : (nlmsghdr order len msgType flags seq 0 ++ padTo4 header ++
          tree.encode order).drop (nlmsgHdrlen + nlmsgAlign header.length) = tree.encode order := by
        apply List.drop_left'
        rw [List.length_append, length_nlmsghdr, length_padTo4]
      rw [attributes]
      dsimp only
      rw [area, Attrs.length_encode]
      exact ⟨plain_of_walk, fun plain => walk_encode order fits plain (Nat.lt_succ_self _)⟩

/-- A table of a rule's expressions: one nested attribute within another, and text that needs
padding. -/
theorem message_wellFormed_nested :
    ∃ buf, message .little 0xA06 0x0C05 7 [2, 0, 0, 0]
        [.pushAttrCstr 1 [0x73, 0x73, 0x74, 0x70], .nestBegin 4, .nestBegin 1,
          .pushAttrU8 2 7, .nestEnd, .nestEnd] = some buf ∧
      fromNeBytes .little (slice buf.bytes 0 4) = buf.bytes.length ∧
      attributes .little 4 buf.bytes =
        some (.flat 1 [0x73, 0x73, 0x74, 0x70, 0]
          (.nested 4 (.nested 1 (.flat 2 [7] .nil) .nil) .nil)) := by
  have builds : Builds
      [.pushAttrCstr 1 [0x73, 0x73, 0x74, 0x70], .nestBegin 4, .nestBegin 1, .pushAttrU8 2 7,
        .nestEnd, .nestEnd]
      (.flat 1 [0x73, 0x73, 0x74, 0x70, 0]
        (.nested 4 (.nested 1 (.flat 2 [7] .nil) .nil) .nil)) :=
    .flat rfl (.nested 4 (.nested 1 (.flat rfl .nil) .nil) .nil)
  rcases message_wellFormed .little 0xA06 0x0C05 7 [2, 0, 0, 0] builds
    ⟨by decide, ⟨by decide, ⟨by decide, ⟨by decide, trivial⟩, trivial⟩, trivial⟩⟩ with
    ⟨finishes, wellFormed⟩
  rcases Option.isSome_iff_exists.mp (finishes.mpr (by decide)) with ⟨buf, finished⟩
  rcases wellFormed buf finished with ⟨length, -, recovers⟩
  exact ⟨buf, finished, length,
    recovers.mpr ⟨by decide, by decide, ⟨by decide, ⟨by decide, trivial⟩, trivial⟩, trivial⟩⟩

end SstpServer.Netlink
