import SstpServer.Netlink.Requests
import SstpServer.Shape.MssHandles

/-!
# The transactions of the shared table as bytes

A transaction is sent as three messages: one that begins it, the request, and one that ends it.
The request is a tree of attributes.  A rule is a list of expressions in such a tree, each with a
name and the attributes of its own.

The kernel takes the messages apart and reads the request from its attributes.  What it reads is
the transaction that the process has recorded.
-/

namespace SstpServer.Shape

open SstpServer.Wire SstpServer.Netlink

/-! ## Names -/

/-- The bytes of a name. -/
def ascii (name : String) : Bytes :=
  name.toList.map fun c => UInt8.ofNat c.toNat

/-- A short name of characters that are one byte each, none of them NUL. -/
structure Named (name : String) : Prop where
  each : ∀ c ∈ name.toList, 0 < c.toNat ∧ c.toNat < 128
  short : name.toList.length ≤ 32

theorem Named.plain {name : String} (named : Named name) : 0 ∉ ascii name := by
  intro member
  rcases List.mem_map.mp member with ⟨c, inside, zero⟩
  rcases named.each c inside with ⟨positive, small⟩
  have value := congrArg UInt8.toNat zero
  rw [UInt8.toNat_ofNat_of_lt' (by simp [UInt8.size]; omega)] at value
  exact positive.ne' value

theorem Named.length_le {name : String} (named : Named name) : (ascii name).length ≤ 32 := by
  rw [ascii, List.length_map]
  exact named.short

/-- A number behind letters. -/
theorem named_append_toString {letters : String} (named : Named letters)
    (short : letters.toList.length ≤ 22) {n : Nat} (small : n < 10 ^ 10) :
    Named (letters ++ toString n) := by
  have digits : (toString n).toList = Nat.toDigits 10 n := by
    simp [Nat.toString_eq_repr, Nat.toList_repr]
  constructor
  · intro c member
    rw [String.toList_append, List.mem_append, digits] at member
    rcases member with letter | digit
    · exact named.each c letter
    · have isDigit := Nat.isDigit_of_mem_toDigits (by decide) (by decide) digit
      rw [Char.isDigit] at isDigit
      simp only [ge_iff_le, Bool.and_eq_true, decide_eq_true_eq, UInt32.le_iff_toNat_le] at isDigit
      change 0 < c.val.toNat ∧ c.val.toNat < 128
      have bounds : '0'.val.toNat = 48 ∧ '9'.val.toNat = 57 := ⟨rfl, rfl⟩
      omega
  · have few : (Nat.toDigits 10 n).length ≤ 10 :=
      (Nat.length_toDigits_le_iff (by decide) (by decide)).mpr small
    rw [String.toList_append, List.length_append, digits]
    omega

theorem named_setName (mss : UInt16) : Named (setName mss) :=
  named_append_toString ⟨by simp, by simp⟩ (by simp) (by have := mss.toNat_lt; omega)

theorem named_chainName (mss : UInt16) : Named (chainName mss) :=
  named_append_toString ⟨by simp, by simp⟩ (by simp) (by have := mss.toNat_lt; omega)

/-- The name of the table, with the identifier of the process. -/
def tableName (pid : UInt32) : String :=
  "sstp_mss_" ++ toString pid.toNat

theorem named_tableName (pid : UInt32) : Named (tableName pid) :=
  named_append_toString ⟨by simp, by simp⟩ (by simp) (by have := pid.toNat_lt; omega)

/-! ## Expressions -/

abbrev Calls := List Netlink.Call

def nftaListElem : UInt16 := 1

def nftaExprName : UInt16 := 1

def nftaExprData : UInt16 := 2

def nftaDataValue : UInt16 := 1

def nftaMetaDreg : UInt16 := 1

def nftaMetaKey : UInt16 := 2

def nftaLookupSet : UInt16 := 1

def nftaLookupSreg : UInt16 := 2

def nftaPayloadDreg : UInt16 := 1

def nftaPayloadBase : UInt16 := 2

def nftaPayloadOffset : UInt16 := 3

def nftaPayloadLen : UInt16 := 4

def nftaBitwiseSreg : UInt16 := 1

def nftaBitwiseDreg : UInt16 := 2

def nftaBitwiseLen : UInt16 := 3

def nftaBitwiseMask : UInt16 := 4

def nftaBitwiseXor : UInt16 := 5

def nftaBitwiseOp : UInt16 := 6

def nftaCmpSreg : UInt16 := 1

def nftaCmpOp : UInt16 := 2

def nftaCmpData : UInt16 := 3

def nftaImmediateDreg : UInt16 := 1

def nftaImmediateData : UInt16 := 2

def nftaExthdrType : UInt16 := 2

def nftaExthdrOffset : UInt16 := 3

def nftaExthdrLen : UInt16 := 4

def nftaExthdrOp : UInt16 := 6

def nftaExthdrSreg : UInt16 := 7

def nftCmpEq : UInt32 := 0

def nftBitwiseBool : UInt32 := 0

def nftExthdrOpTcpopt : UInt32 := 1

def exprBegin (name : String) : Calls :=
  [.nestBegin nftaListElem, .pushAttrCstr nftaExprName (ascii name), .nestBegin nftaExprData]

def exprEnd : Calls :=
  [.nestEnd, .nestEnd]

def encodeMetaLoad (key dreg : UInt32) : Calls :=
  exprBegin "meta" ++ [.pushAttrBe32 nftaMetaKey key, .pushAttrBe32 nftaMetaDreg dreg] ++ exprEnd

def encodeLookup (sreg : UInt32) (setName : Bytes) : Calls :=
  exprBegin "lookup" ++
    [.pushAttrCstr nftaLookupSet setName, .pushAttrBe32 nftaLookupSreg sreg] ++ exprEnd

/-- A value in a nest of its own. -/
def pushData (attrType : UInt16) (data : Bytes) : Calls :=
  [.nestBegin attrType, .pushAttrBytes nftaDataValue data, .nestEnd]

def encodeCmp (sreg : UInt32) (data : Bytes) (op : UInt32) : Calls :=
  exprBegin "cmp" ++
    ([.pushAttrBe32 nftaCmpSreg sreg, .pushAttrBe32 nftaCmpOp op] ++ pushData nftaCmpData data) ++
    exprEnd

def encodePayloadLoad (dreg base offset len : UInt32) : Calls :=
  exprBegin "payload" ++
    [.pushAttrBe32 nftaPayloadDreg dreg, .pushAttrBe32 nftaPayloadBase base,
      .pushAttrBe32 nftaPayloadOffset offset, .pushAttrBe32 nftaPayloadLen len] ++
    exprEnd

def encodeBitwise (sreg dreg : UInt32) (mask xor : Bytes) : Calls :=
  exprBegin "bitwise" ++
    ([.pushAttrBe32 nftaBitwiseSreg sreg, .pushAttrBe32 nftaBitwiseDreg dreg,
      .pushAttrBe32 nftaBitwiseLen (UInt32.ofNat mask.length)] ++
      pushData nftaBitwiseMask mask ++ pushData nftaBitwiseXor xor ++
      [.pushAttrBe32 nftaBitwiseOp nftBitwiseBool]) ++
    exprEnd

def encodeImmediate (dreg : UInt32) (data : Bytes) : Calls :=
  exprBegin "immediate" ++
    ([.pushAttrBe32 nftaImmediateDreg dreg] ++ pushData nftaImmediateData data) ++ exprEnd

def encodeExthdrSet (sreg : UInt32) (option : UInt8) (offset len : UInt32) : Calls :=
  exprBegin "exthdr" ++
    [.pushAttrBe32 nftaExthdrOp nftExthdrOpTcpopt, .pushAttrU8 nftaExthdrType option,
      .pushAttrBe32 nftaExthdrOffset offset, .pushAttrBe32 nftaExthdrLen len,
      .pushAttrBe32 nftaExthdrSreg sreg] ++
    exprEnd

/-! ## Rules -/

def nftReg1 : UInt32 := 1

def nftMetaIifname : UInt32 := 6

def nftMetaOifname : UInt32 := 7

def nftMetaL4proto : UInt32 := 16

def nftPayloadTransportHeader : UInt32 := 2

def ipprotoTcp : UInt8 := 6

/-- The expressions of a rule: the interface is in the set, the packet is a TCP packet with SYN and
without RST, and its option for the segment size is written. -/
def encodeRule (setName : Bytes) (ingress : Bool) (mss : UInt16) : List Calls :=
  [encodeMetaLoad (if ingress then nftMetaIifname else nftMetaOifname) nftReg1,
    encodeLookup nftReg1 setName,
    encodeMetaLoad nftMetaL4proto nftReg1,
    encodeCmp nftReg1 [ipprotoTcp] nftCmpEq,
    encodePayloadLoad nftReg1 nftPayloadTransportHeader 13 1,
    encodeBitwise nftReg1 nftReg1 [0x06] [0x00],
    encodeCmp nftReg1 [0x02] nftCmpEq,
    encodeImmediate nftReg1 (toNeBytes .big 2 mss.toNat),
    encodeExthdrSet nftReg1 2 2 2]

/-- An expression of a rule, as the kernel holds it. -/
inductive Expr where
  | metaLoad (key dreg : UInt32)
  | lookup (sreg : UInt32) (set : Bytes)
  | cmpEq (sreg : UInt32) (data : Bytes)
  | payload (dreg base offset len : UInt32)
  | bitwise (sreg dreg : UInt32) (mask xor : Bytes)
  | immediate (dreg : UInt32) (data : Bytes)
  | setOption (sreg : UInt32) (option : UInt8) (offset len : UInt32)
  deriving DecidableEq

/-- The expressions that a rule stands for. -/
def ruleExprs (setName : Bytes) (ingress : Bool) (mss : UInt16) : List Expr :=
  [.metaLoad (if ingress then nftMetaIifname else nftMetaOifname) nftReg1,
    .lookup nftReg1 setName,
    .metaLoad nftMetaL4proto nftReg1,
    .cmpEq nftReg1 [ipprotoTcp],
    .payload nftReg1 nftPayloadTransportHeader 13 1,
    .bitwise nftReg1 nftReg1 [0x06] [0x00],
    .cmpEq nftReg1 [0x02],
    .immediate nftReg1 (toNeBytes .big 2 mss.toNat),
    .setOption nftReg1 2 2 2]

/-! ## Transactions -/

def nfnlSubsysNftables : UInt16 := 10

def nfnlMsgBatchBegin : UInt16 := 0x10

def nfnlMsgBatchEnd : UInt16 := 0x11

def nftMsgNewtable : UInt16 := 0

def nftMsgDeltable : UInt16 := 2

def nftMsgNewchain : UInt16 := 3

def nftMsgNewrule : UInt16 := 6

def nftMsgNewset : UInt16 := 9

def nftMsgNewsetelem : UInt16 := 12

def nftMsgDelsetelem : UInt16 := 14

def nfprotoUnspec : UInt8 := 0

def nfprotoIpv4 : UInt8 := 2

def nfnetlinkV0 : UInt8 := 0

def nfInetForward : UInt32 := 2

def nfAccept : UInt32 := 1

-- A signed number in an unsigned attribute.
def nfIpPriMangle : UInt32 := (-150 : Int32).toUInt32

-- The first attribute of every request is the name of the table.
def nftaTable : UInt16 := 1

def nftaChainName : UInt16 := 3

def nftaChainHook : UInt16 := 4

def nftaChainPolicy : UInt16 := 5

def nftaChainType : UInt16 := 7

def nftaHookHooknum : UInt16 := 1

def nftaHookPriority : UInt16 := 2

def nftaRuleChain : UInt16 := 2

def nftaRuleExpressions : UInt16 := 4

def nftaSetName : UInt16 := 2

def nftaSetFlags : UInt16 := 3

def nftaSetKeyType : UInt16 := 4

def nftaSetKeyLen : UInt16 := 5

def nftaSetId : UInt16 := 10

def nftaSetUserdata : UInt16 := 13

def nftaSetElemListSet : UInt16 := 2

def nftaSetElemListElements : UInt16 := 3

def nftaSetElemKey : UInt16 := 1

def nftSetFlags : UInt32 := 0

def nftKeyTypeIfname : UInt32 := 0x29

def ifnamsiz : UInt32 := 16

def nlmFAppend : UInt16 := 0x800

/-- The order of the bytes of a key, for programs that list the set. -/
def ifnameSetUserdata (order : ByteOrder) : Bytes :=
  [0, 4] ++ toNeBytes order 4 1

-- The subsystem is in network order, whatever the order of the host.
def nfgenmsg (family : UInt8) (resId : UInt16) : Bytes :=
  [family, nfnetlinkV0] ++ toNeBytes .big 2 resId.toNat

def nftMsgType (op : UInt16) : UInt16 :=
  (nfnlSubsysNftables <<< 8) ||| op

/-- A transaction as it is sent, with the sequence numbers whose acknowledgement is awaited. -/
structure WireBatch where
  bytes : Bytes
  expectedAcks : List UInt32
  deriving DecidableEq

def WireBatch.push (buf : MessageBuf) (batch : WireBatch) : WireBatch :=
  { bytes := batch.bytes ++ buf.bytes
    expectedAcks :=
      if buf.flags &&& nlmFAck ≠ 0 then batch.expectedAcks ++ [buf.seq] else batch.expectedAcks }

def pushEnvelope (order : ByteOrder) (msgType : UInt16) (seq : UInt32) (batch : WireBatch) :
    Option WireBatch :=
  (message order msgType nlmFRequest seq (nfgenmsg nfprotoUnspec nfnlSubsysNftables) []).map
    fun buf => { batch with bytes := batch.bytes ++ buf.bytes }

/-- One request between the two that enclose it; the three have consecutive numbers. -/
def nfBatch (order : ByteOrder) (seq : UInt32) (op flags : UInt16) (calls : Calls) :
    Option WireBatch := do
  let batch ← pushEnvelope order nfnlMsgBatchBegin seq ⟨[], []⟩
  let buf ← message order (nftMsgType op) flags (seq + 1) (nfgenmsg nfprotoIpv4 0) calls
  pushEnvelope order nfnlMsgBatchEnd (seq + 2) (batch.push buf)

section

variable (order : ByteOrder) (table : Bytes) (seq : UInt32)

def buildCreateTableBatch : Option WireBatch :=
  nfBatch order seq nftMsgNewtable (nlmFRequest ||| nlmFAck ||| nlmFCreate ||| nlmFExcl)
    [.pushAttrCstr nftaTable table]

def buildDeleteTableBatch : Option WireBatch :=
  nfBatch order seq nftMsgDeltable (nlmFRequest ||| nlmFAck) [.pushAttrCstr nftaTable table]

def buildCreateSetBatch (setId : UInt32) (setName : Bytes) : Option WireBatch :=
  nfBatch order seq nftMsgNewset (nlmFRequest ||| nlmFAck ||| nlmFCreate ||| nlmFExcl)
    [.pushAttrCstr nftaTable table, .pushAttrCstr nftaSetName setName,
      .pushAttrBe32 nftaSetFlags nftSetFlags, .pushAttrBe32 nftaSetKeyType nftKeyTypeIfname,
      .pushAttrBe32 nftaSetKeyLen ifnamsiz, .pushAttrBe32 nftaSetId setId,
      .pushAttrBytes nftaSetUserdata (ifnameSetUserdata order)]

def buildCreateChainBatch (chainName : Bytes) : Option WireBatch :=
  nfBatch order seq nftMsgNewchain (nlmFRequest ||| nlmFAck ||| nlmFCreate ||| nlmFExcl)
    [.pushAttrCstr nftaTable table, .pushAttrCstr nftaChainName chainName,
      .pushAttrCstr nftaChainType (ascii "filter"), .pushAttrBe32 nftaChainPolicy nfAccept,
      .nestBegin nftaChainHook, .pushAttrBe32 nftaHookHooknum nfInetForward,
      .pushAttrBe32 nftaHookPriority nfIpPriMangle, .nestEnd]

def buildRuleBatch (chainName setName : Bytes) (ingress : Bool) (mss : UInt16) :
    Option WireBatch :=
  nfBatch order seq nftMsgNewrule (nlmFRequest ||| nlmFAck ||| nlmFCreate ||| nlmFAppend)
    ([.pushAttrCstr nftaTable table, .pushAttrCstr nftaRuleChain chainName,
      .nestBegin nftaRuleExpressions] ++ (encodeRule setName ingress mss).flatten ++ [.nestEnd])

def encodeSetElemMsg (setName : Bytes) (key : IfKey) : Calls :=
  [.pushAttrCstr nftaTable table, .pushAttrCstr nftaSetElemListSet setName,
    .nestBegin nftaSetElemListElements, .nestBegin nftaListElem, .nestBegin nftaSetElemKey,
    .pushAttrBytes nftaDataValue key.toList, .nestEnd, .nestEnd, .nestEnd]

def buildAddElemBatch (setName : Bytes) (key : IfKey) : Option WireBatch :=
  nfBatch order seq nftMsgNewsetelem (nlmFRequest ||| nlmFAck ||| nlmFCreate)
    (encodeSetElemMsg table setName key)

def buildDelElemBatch (setName : Bytes) (key : IfKey) : Option WireBatch :=
  nfBatch order seq nftMsgDelsetelem (nlmFRequest ||| nlmFAck) (encodeSetElemMsg table setName key)

end

/-- The bytes of a transaction. -/
def Batch.build (order : ByteOrder) (pid seq setId : UInt32) : Batch → Option WireBatch
  | .createTable => buildCreateTableBatch order (ascii (tableName pid)) seq
  | .deleteTable => buildDeleteTableBatch order (ascii (tableName pid)) seq
  | .createSet setName => buildCreateSetBatch order (ascii (tableName pid)) seq setId (ascii setName)
  | .createChain chainName => buildCreateChainBatch order (ascii (tableName pid)) seq (ascii chainName)
  | .rule chainName clamp =>
      buildRuleBatch order (ascii (tableName pid)) seq (ascii chainName) (ascii clamp.setName)
        clamp.ingress clamp.mss
  | .addElem setName key => buildAddElemBatch order (ascii (tableName pid)) seq (ascii setName) key
  | .delElem setName key => buildDelElemBatch order (ascii (tableName pid)) seq (ascii setName) key

/-! ## What the kernel reads -/

/-- The attributes in the last nest of a type. -/
def nest? (key : UInt16) : Attrs → Option Attrs
  | .nil => none
  | .flat _ _ rest => nest? key rest
  | .nested attrType inner rest =>
      (nest? key rest).or (if attrType = key then some inner else none)

/-- The elements of a list; nothing else may stand there. -/
def elems? : Attrs → Option (List Attrs)
  | .nil => some []
  | .flat _ _ _ => none
  | .nested attrType inner rest =>
      if attrType = nftaListElem then (elems? rest).map (inner :: ·) else none

def be32? (key : UInt16) (attrs : Attrs) : Option UInt32 :=
  (attrs.find? key).map (u32Of .big)

def cstr? (key : UInt16) (attrs : Attrs) : Option Bytes :=
  (attrs.find? key).map (List.takeWhile (· ≠ 0))

def data? (key : UInt16) (attrs : Attrs) : Option Bytes :=
  (nest? key attrs).bind (Attrs.find? nftaDataValue)

/-- The expressions that rules of this program are made of. -/
inductive ExprKind where
  | metaLoad
  | lookup
  | cmp
  | payload
  | bitwise
  | immediate
  | exthdr
  deriving DecidableEq

def ExprKind.name : ExprKind → String
  | .metaLoad => "meta"
  | .lookup => "lookup"
  | .cmp => "cmp"
  | .payload => "payload"
  | .bitwise => "bitwise"
  | .immediate => "immediate"
  | .exthdr => "exthdr"

def ExprKind.ofName (name : Bytes) : Option ExprKind :=
  [metaLoad, lookup, cmp, payload, bitwise, immediate, exthdr].find? fun kind =>
    ascii kind.name = name

def readData (attrs : Attrs) : ExprKind → Option Expr
  | .metaLoad => do
      some (.metaLoad (← be32? nftaMetaKey attrs) (← be32? nftaMetaDreg attrs))
  | .lookup => do
      some (.lookup (← be32? nftaLookupSreg attrs) (← cstr? nftaLookupSet attrs))
  | .cmp => do
      let op ← be32? nftaCmpOp attrs
      let sreg ← be32? nftaCmpSreg attrs
      let data ← data? nftaCmpData attrs
      if op = nftCmpEq then some (.cmpEq sreg data) else none
  | .payload => do
      some (.payload (← be32? nftaPayloadDreg attrs) (← be32? nftaPayloadBase attrs)
        (← be32? nftaPayloadOffset attrs) (← be32? nftaPayloadLen attrs))
  | .bitwise => do
      let len ← be32? nftaBitwiseLen attrs
      let op ← be32? nftaBitwiseOp attrs
      let sreg ← be32? nftaBitwiseSreg attrs
      let dreg ← be32? nftaBitwiseDreg attrs
      let mask ← data? nftaBitwiseMask attrs
      let xor ← data? nftaBitwiseXor attrs
      if op = nftBitwiseBool ∧ mask.length = len.toNat ∧ xor.length = len.toNat then
        some (.bitwise sreg dreg mask xor)
      else none
  | .immediate => do
      some (.immediate (← be32? nftaImmediateDreg attrs) (← data? nftaImmediateData attrs))
  | .exthdr => do
      let op ← be32? nftaExthdrOp attrs
      let option ← attrs.find? nftaExthdrType
      let offset ← be32? nftaExthdrOffset attrs
      let len ← be32? nftaExthdrLen attrs
      let sreg ← be32? nftaExthdrSreg attrs
      if op = nftExthdrOpTcpopt then some (.setOption sreg (option.getD 0 0) offset len) else none

def readExpr (elem : Attrs) : Option Expr := do
  let kind ← ExprKind.ofName (← cstr? nftaExprName elem)
  readData (← nest? nftaExprData elem) kind

/-- The list in a nest, each of its elements read. -/
def readList {α : Type} (read : Attrs → Option α) (key : UInt16) (attrs : Attrs) :
    Option (List α) := do
  let elems ← elems? (← nest? key attrs)
  elems.mapM read

/-- The requests as the kernel understands them. -/
inductive NfRequest where
  | newTable (table : Bytes)
  | delTable (table : Bytes)
  | newSet (table name : Bytes) (flags keyType keyLen id : UInt32) (userdata : Bytes)
  | newChain (table name kind : Bytes) (policy hooknum priority : UInt32)
  | newRule (table chain : Bytes) (exprs : List Expr)
  | newSetElem (table set : Bytes) (keys : List Bytes)
  | delSetElem (table set : Bytes) (keys : List Bytes)
  deriving DecidableEq

def readElems (attrs : Attrs) : Option (List Bytes) :=
  readList (data? nftaSetElemKey) nftaSetElemListElements attrs

def readNf (op : UInt16) (attrs : Attrs) : Option NfRequest := do
  let table ← cstr? nftaTable attrs
  if op = nftMsgNewtable then some (.newTable table)
  else if op = nftMsgDeltable then some (.delTable table)
  else if op = nftMsgNewset then
    some (.newSet table (← cstr? nftaSetName attrs) (← be32? nftaSetFlags attrs)
      (← be32? nftaSetKeyType attrs) (← be32? nftaSetKeyLen attrs) (← be32? nftaSetId attrs)
      (← attrs.find? nftaSetUserdata))
  else if op = nftMsgNewchain then
    let hook ← nest? nftaChainHook attrs
    some (.newChain table (← cstr? nftaChainName attrs) (← cstr? nftaChainType attrs)
      (← be32? nftaChainPolicy attrs) (← be32? nftaHookHooknum hook)
      (← be32? nftaHookPriority hook))
  else if op = nftMsgNewrule then
    some (.newRule table (← cstr? nftaRuleChain attrs)
      (← readList readExpr nftaRuleExpressions attrs))
  else if op = nftMsgNewsetelem then
    some (.newSetElem table (← cstr? nftaSetElemListSet attrs) (← readElems attrs))
  else if op = nftMsgDelsetelem then
    some (.delSetElem table (← cstr? nftaSetElemListSet attrs) (← readElems attrs))
  else none

/-- A request, with the family that it is for and its flags. -/
structure NfMessage where
  family : UInt8
  flags : UInt16
  request : NfRequest
  deriving DecidableEq

def msgTypeOf (order : ByteOrder) (msg : Bytes) : UInt16 :=
  .ofNat (fromNeBytes order (slice msg 4 6))

/-- The upper byte of the type is the subsystem, the lower one the operation. -/
def readNfMessage (order : ByteOrder) (msg : Bytes) : Option NfMessage := do
  let attrs ← attributes order 4 msg
  if msgTypeOf order msg >>> 8 = nfnlSubsysNftables then
    let request ← readNf (msgTypeOf order msg &&& 0xff) attrs
    some ⟨(slice msg nlmsgHdrlen (nlmsgHdrlen + 4)).getD 0 0,
      .ofNat (fromNeBytes order (slice msg 6 8)), request⟩
  else none

/-- The first message, and what is behind it. -/
def takeMessage (order : ByteOrder) (bytes : Bytes) : Option (Bytes × Bytes) :=
  let len := fromNeBytes order (slice bytes 0 4)
  if nlmsgHdrlen ≤ len ∧ len ≤ bytes.length then
    some (bytes.take len, bytes.drop (nlmsgAlign len))
  else none

/-- The messages up to the one that ends a transaction. -/
def readUntilEnd (order : ByteOrder) : Nat → Bytes → Option (List NfMessage)
  | 0, _ => none
  | fuel + 1, bytes => do
      let (msg, rest) ← takeMessage order bytes
      if msgTypeOf order msg = nfnlMsgBatchEnd then some []
      else
        let request ← readNfMessage order msg
        let others ← readUntilEnd order fuel rest
        some (request :: others)

/-- A transaction begins with a message that names the subsystem. -/
def readBatch (order : ByteOrder) (bytes : Bytes) : Option (List NfMessage) := do
  let (msg, rest) ← takeMessage order bytes
  if msgTypeOf order msg = nfnlMsgBatchBegin ∧
      fromNeBytes .big (slice msg (nlmsgHdrlen + 2) (nlmsgHdrlen + 4)) =
        nfnlSubsysNftables.toNat then
    readUntilEnd order bytes.length rest
  else none

/-! ## Lists are read as they are meant -/

/-- Calls that push one element of a list, from which a value is read. -/
def Pushes {α : Type} (read : Attrs → Option α) (calls : Calls) (value : α) : Prop :=
  ∃ elem : Attrs,
    (∀ {rest : Calls} {tree : Attrs}, Builds rest tree →
      Builds (calls ++ rest) (.nested nftaListElem elem tree)) ∧
    elem.Plain ∧ elem.size ≤ 512 ∧ read elem = some value

/-- Calls that push elements one after the other push a list, and their values are read from it. -/
theorem builds_list {α : Type} {read : Attrs → Option α} {calls : List Calls} {values : List α}
    (pushes : List.Forall₂ (Pushes read) calls values) :
    ∃ tree elems, Builds calls.flatten tree ∧ tree.Plain ∧
      tree.size ≤ 516 * values.length ∧ elems? tree = some elems ∧
      elems.mapM read = some values := by
  induction pushes with
  | nil => exact ⟨.nil, [], .nil, trivial, Nat.le_refl _, rfl, rfl⟩
  | cons first _ ih =>
      rcases first with ⟨elem, builds, plain, small, isValue⟩
      rcases ih with ⟨tree, elems, rest, plainRest, smallRest, isElems, isValues⟩
      refine ⟨.nested nftaListElem elem tree, elem :: elems, builds rest,
        ⟨by decide, plain, plainRest⟩, ?_, ?_, ?_⟩
      · rw [Attrs.size, nlattrLen, List.length_cons]
        omega
      · rw [elems?, if_pos rfl, isElems, Option.map_some]
      · simp [List.mapM_cons, isValue, isValues]

theorem cstr_of_plain {name : Bytes} (plain : 0 ∉ name) :
    (name ++ [0]).takeWhile (fun byte => !decide (byte = 0)) = name := by
  have each : ∀ byte ∈ name, (!decide (byte = 0)) = true := by
    intro byte member
    rw [Bool.not_eq_true', decide_eq_false_iff_not]
    rintro rfl
    exact plain member
  rw [List.takeWhile_append_of_pos each]
  exact List.append_nil name

/-! ## Expressions are read as they are meant -/

theorem ExprKind.ofName_name (kind : ExprKind) : ofName (ascii kind.name) = some kind := by
  cases kind <;> rfl

theorem pushes_expr (kind : ExprKind) {body : Calls} {data : Attrs} {expr : Expr}
    (builds : Builds body data) (plain : data.Plain) (small : data.size ≤ 256)
    (isExpr : readData data kind = some expr) :
    Pushes readExpr (exprBegin kind.name ++ body ++ exprEnd) expr := by
  have plainName : 0 ∉ ascii kind.name := by cases kind <;> decide
  have shortName : (ascii kind.name).length ≤ 16 := by cases kind <;> decide
  refine ⟨.flat nftaExprName (ascii kind.name ++ [0]) (.nested nftaExprData data .nil),
    fun rest => ?_, ⟨by decide, by decide, plain, trivial⟩, ?_, ?_⟩
  · have element : Builds (.pushAttrCstr nftaExprName (ascii kind.name) ::
        .nestBegin nftaExprData :: (body ++ [.nestEnd]))
        (.flat nftaExprName (ascii kind.name ++ [0]) (.nested nftaExprData data .nil)) :=
      .flat rfl (.nested nftaExprData builds .nil)
    have whole := Builds.nested nftaListElem element rest
    simpa [exprBegin, exprEnd] using whole
  · simp only [Attrs.size, nlattrLen, nlmsgAlign, List.length_append, List.length_singleton]
    omega
  · have isName : cstr? nftaExprName
        (.flat nftaExprName (ascii kind.name ++ [0]) (.nested nftaExprData data .nil)) =
          some (ascii kind.name) := by
      simp [cstr?, Attrs.find?, cstr_of_plain plainName]
    have isData : nest? nftaExprData
        (.flat nftaExprName (ascii kind.name ++ [0]) (.nested nftaExprData data .nil)) =
          some data := by
      simp [nest?]
    simp [readExpr, isName, isData, ExprKind.ofName_name, isExpr]

theorem pushes_metaLoad (key dreg : UInt32) :
    Pushes readExpr (encodeMetaLoad key dreg) (.metaLoad key dreg) := by
  refine pushes_expr .metaLoad (.flat rfl (.flat rfl .nil)) ?_ ?_ ?_
  · exact ⟨by decide, by decide, trivial⟩
  · simp [Attrs.size, nlattrLen, nlmsgAlign]
  · simp [readData, be32?, Attrs.find?, nftaMetaKey, nftaMetaDreg]

theorem pushes_lookup (sreg : UInt32) {setName : Bytes} (plain : 0 ∉ setName)
    (short : setName.length ≤ 32) :
    Pushes readExpr (encodeLookup sreg setName) (.lookup sreg setName) := by
  refine pushes_expr .lookup (.flat rfl (.flat rfl .nil)) ?_ ?_ ?_
  · exact ⟨by decide, by decide, trivial⟩
  · simp only [Attrs.size, nlattrLen, nlmsgAlign, length_toNeBytes, List.length_append,
      List.length_singleton]
    omega
  · simp [readData, cstr?, be32?, Attrs.find?, nftaLookupSet, nftaLookupSreg, cstr_of_plain plain]

theorem pushes_cmp (sreg : UInt32) {data : Bytes} (short : data.length ≤ 32) :
    Pushes readExpr (encodeCmp sreg data nftCmpEq) (.cmpEq sreg data) := by
  refine pushes_expr .cmp (.flat rfl (.flat rfl (.nested nftaCmpData (.flat rfl .nil) .nil)))
    ?_ ?_ ?_
  · exact ⟨by decide, by decide, by decide, ⟨by decide, trivial⟩, trivial⟩
  · simp only [Attrs.size, nlattrLen, nlmsgAlign, length_toNeBytes]
    omega
  · simp [readData, be32?, data?, nest?, Attrs.find?, nftaCmpSreg, nftaCmpOp]

theorem pushes_payload (dreg base offset len : UInt32) :
    Pushes readExpr (encodePayloadLoad dreg base offset len) (.payload dreg base offset len) := by
  refine pushes_expr .payload (.flat rfl (.flat rfl (.flat rfl (.flat rfl .nil)))) ?_ ?_ ?_
  · exact ⟨by decide, by decide, by decide, by decide, trivial⟩
  · simp [Attrs.size, nlattrLen, nlmsgAlign]
  · simp [readData, be32?, Attrs.find?, nftaPayloadDreg, nftaPayloadBase, nftaPayloadOffset,
      nftaPayloadLen]

theorem pushes_bitwise (sreg dreg : UInt32) {mask xor : Bytes} (short : mask.length ≤ 32)
    (sized : xor.length = mask.length) :
    Pushes readExpr (encodeBitwise sreg dreg mask xor) (.bitwise sreg dreg mask xor) := by
  refine pushes_expr .bitwise (.flat rfl (.flat rfl (.flat rfl
    (.nested nftaBitwiseMask (.flat rfl .nil) (.nested nftaBitwiseXor (.flat rfl .nil)
      (.flat rfl .nil)))))) ?_ ?_ ?_
  · exact ⟨by decide, by decide, by decide, by decide, ⟨by decide, trivial⟩, by decide,
      ⟨by decide, trivial⟩, by decide, trivial⟩
  · simp only [Attrs.size, nlattrLen, nlmsgAlign, length_toNeBytes, sized]
    omega
  · have isLen : (UInt32.ofNat mask.length).toNat = mask.length :=
      UInt32.toNat_ofNat_of_lt' (by simp [UInt32.size]; omega)
    have read := congrArg UInt32.toNat (u32Of_toNeBytes .big (UInt32.ofNat mask.length))
    rw [isLen] at read
    simp [readData, be32?, data?, nest?, Attrs.find?, nftaBitwiseSreg, nftaBitwiseDreg,
      nftaBitwiseLen, nftaBitwiseMask, nftaBitwiseXor, nftaBitwiseOp, isLen, read, sized]

theorem pushes_immediate (dreg : UInt32) {data : Bytes} (short : data.length ≤ 32) :
    Pushes readExpr (encodeImmediate dreg data) (.immediate dreg data) := by
  refine pushes_expr .immediate (.flat rfl (.nested nftaImmediateData (.flat rfl .nil) .nil))
    ?_ ?_ ?_
  · exact ⟨by decide, by decide, ⟨by decide, trivial⟩, trivial⟩
  · simp only [Attrs.size, nlattrLen, nlmsgAlign, length_toNeBytes]
    omega
  · simp [readData, be32?, data?, nest?, Attrs.find?]

theorem pushes_exthdrSet (sreg : UInt32) (option : UInt8) (offset len : UInt32) :
    Pushes readExpr (encodeExthdrSet sreg option offset len)
      (.setOption sreg option offset len) := by
  refine pushes_expr .exthdr (.flat rfl (.flat rfl (.flat rfl (.flat rfl (.flat rfl .nil)))))
    ?_ ?_ ?_
  · exact ⟨by decide, by decide, by decide, by decide, by decide, trivial⟩
  · simp [Attrs.size, nlattrLen, nlmsgAlign]
  · simp [readData, be32?, Attrs.find?, nftaExthdrOp, nftaExthdrType, nftaExthdrOffset,
      nftaExthdrLen, nftaExthdrSreg]

/-- The expressions of a rule are read as they are meant. -/
theorem pushes_rule {setName : Bytes} (plain : 0 ∉ setName) (short : setName.length ≤ 32)
    (ingress : Bool) (mss : UInt16) :
    List.Forall₂ (Pushes readExpr) (encodeRule setName ingress mss)
      (ruleExprs setName ingress mss) :=
  .cons (pushes_metaLoad ..) <| .cons (pushes_lookup _ plain short) <|
  .cons (pushes_metaLoad ..) <| .cons (pushes_cmp _ (by decide)) <|
  .cons (pushes_payload ..) <| .cons (pushes_bitwise _ _ (by decide) rfl) <|
  .cons (pushes_cmp _ (by decide)) <| .cons (pushes_immediate _ (by simp)) <|
  .cons (pushes_exthdrSet ..) .nil

/-! ## Transactions are read as they are meant -/

theorem takeMessage_append {order : ByteOrder} {msg header : Bytes} {msgType flags : UInt16}
    {tree : Attrs} (finished : Finished order msg msgType flags header tree) (rest : Bytes) :
    takeMessage order (msg ++ rest) = some (msg, rest) := by
  have long := finished.long
  have aligned := finished.aligned
  have isLen : fromNeBytes order (slice (msg ++ rest) 0 4) = msg.length := by
    have start : slice ((msg ++ rest).take msg.length) 0 4 = slice (msg ++ rest) 0 4 :=
      slice_take _ (le_trans (by decide) long)
    rw [← start, List.take_left, finished.len]
  have inside : nlmsgHdrlen ≤ msg.length ∧ msg.length ≤ (msg ++ rest).length :=
    ⟨long, by simp⟩
  have padded : nlmsgAlign msg.length = msg.length := by
    rw [nlmsgAlign]
    omega
  simp only [takeMessage, isLen, if_pos inside, padded, List.take_left, List.drop_left]

theorem pushEnvelope_eq (order : ByteOrder) (msgType : UInt16) (seq : UInt32) :
    ∃ msg, Finished order msg msgType nlmFRequest (nfgenmsg nfprotoUnspec nfnlSubsysNftables) .nil ∧
      ∀ batch, pushEnvelope order msgType seq batch =
        some { batch with bytes := batch.bytes ++ msg } := by
  rcases exists_finished order msgType nlmFRequest seq .nil trivial (by decide)
    (show (nfgenmsg nfprotoUnspec nfnlSubsysNftables).length % 4 = 0 ∧ _ by decide) with
    ⟨buf, built, -, -, finished⟩
  exact ⟨buf.bytes, finished, fun batch => by rw [pushEnvelope, built, Option.map_some]⟩

/-- The kernel reads the one request of a transaction from the tree that was pushed. -/
theorem readBatch_nfBatch (order : ByteOrder) (seq : UInt32) {op flags : UInt16} {calls : Calls}
    {tree : Attrs} {request : NfRequest} (builds : Builds calls tree) (plain : tree.Plain)
    (small : tree.size < 65536)
    (isOp : nftMsgType op >>> 8 = nfnlSubsysNftables ∧ nftMsgType op &&& 0xff = op ∧
      nftMsgType op ≠ nfnlMsgBatchEnd)
    (acked : flags &&& nlmFAck ≠ 0) (isRequest : readNf op tree = some request) :
    ∃ wire, nfBatch order seq op flags calls = some wire ∧ wire.expectedAcks = [seq + 1] ∧
      readBatch order wire.bytes = some [⟨nfprotoIpv4, flags, request⟩] := by
  rcases pushEnvelope_eq order nfnlMsgBatchBegin seq with ⟨first, isFirst, begins⟩
  rcases pushEnvelope_eq order nfnlMsgBatchEnd (seq + 2) with ⟨last, isLast, ends⟩
  rcases exists_finished order (nftMsgType op) flags (seq + 1) builds plain small
    (show (nfgenmsg nfprotoIpv4 0).length % 4 = 0 ∧ _ by decide) with
    ⟨buf, built, isFlags, isSeq, isMsg⟩
  refine ⟨⟨[] ++ first ++ buf.bytes ++ last, [seq + 1]⟩, ?_, rfl, ?_⟩
  · simp only [nfBatch, begins, built, ends, Option.bind_eq_bind, Option.bind_some,
      WireBatch.push, isFlags, isSeq, if_pos acked, List.nil_append]
  · have subsystem : slice first (nlmsgHdrlen + 2) (nlmsgHdrlen + 4) =
        toNeBytes .big 2 nfnlSubsysNftables.toNat := by
      have header := congrArg (slice · 2 4) isFirst.isHeader
      rw [slice_slice _ _ _ _ _ (by decide)] at header
      exact header
    have isMsg' : msgTypeOf order buf.bytes = nftMsgType op := isMsg.isType
    have isTree : attributes order 4 buf.bytes = some tree := isMsg.isTree
    have isHeader : slice buf.bytes nlmsgHdrlen (nlmsgHdrlen + 4) = nfgenmsg nfprotoIpv4 0 :=
      isMsg.isHeader
    have readMsg : readNfMessage order buf.bytes = some ⟨nfprotoIpv4, flags, request⟩ := by
      simp only [readNfMessage, isTree, isMsg', isOp.1, isOp.2.1, isRequest, isHeader,
        isMsg.isFlags, Option.bind_eq_bind, Option.bind_some, if_true]
      rfl
    have begun : msgTypeOf order first = nfnlMsgBatchBegin := isFirst.isType
    have ended : msgTypeOf order last = nfnlMsgBatchEnd := isLast.isType
    have takeLast : takeMessage order last = some (last, []) := by
      have taken := takeMessage_append isLast []
      rwa [List.append_nil] at taken
    have bytes : ([] ++ first ++ buf.bytes ++ last).length = first.length + buf.bytes.length +
        (last.length - 2) + 2 := by
      have long := isLast.long
      rw [nlmsgHdrlen] at long
      simp only [List.nil_append, List.length_append]
      omega
    rw [readBatch, bytes]
    simp only [List.nil_append, List.append_assoc, takeMessage_append isFirst,
      takeMessage_append isMsg, takeLast, begun, ended, isMsg', isOp.2.2, subsystem, readMsg,
      readUntilEnd, Option.bind_eq_bind, Option.bind_some, if_true, if_false]
    rfl

/-- What the kernel is to understand by a transaction. -/
def Batch.meaning (order : ByteOrder) (pid setId : UInt32) : Batch → NfMessage
  | .createTable =>
      ⟨nfprotoIpv4, nlmFRequest ||| nlmFAck ||| nlmFCreate ||| nlmFExcl,
        .newTable (ascii (tableName pid))⟩
  | .deleteTable => ⟨nfprotoIpv4, nlmFRequest ||| nlmFAck, .delTable (ascii (tableName pid))⟩
  | .createSet setName =>
      ⟨nfprotoIpv4, nlmFRequest ||| nlmFAck ||| nlmFCreate ||| nlmFExcl,
        .newSet (ascii (tableName pid)) (ascii setName) nftSetFlags nftKeyTypeIfname ifnamsiz setId
          (ifnameSetUserdata order)⟩
  | .createChain chainName =>
      ⟨nfprotoIpv4, nlmFRequest ||| nlmFAck ||| nlmFCreate ||| nlmFExcl,
        .newChain (ascii (tableName pid)) (ascii chainName) (ascii "filter") nfAccept nfInetForward
          nfIpPriMangle⟩
  | .rule chainName clamp =>
      ⟨nfprotoIpv4, nlmFRequest ||| nlmFAck ||| nlmFCreate ||| nlmFAppend,
        .newRule (ascii (tableName pid)) (ascii chainName)
          (ruleExprs (ascii clamp.setName) clamp.ingress clamp.mss)⟩
  | .addElem setName key =>
      ⟨nfprotoIpv4, nlmFRequest ||| nlmFAck ||| nlmFCreate,
        .newSetElem (ascii (tableName pid)) (ascii setName) [key.toList]⟩
  | .delElem setName key =>
      ⟨nfprotoIpv4, nlmFRequest ||| nlmFAck,
        .delSetElem (ascii (tableName pid)) (ascii setName) [key.toList]⟩

/-- The names in a transaction. -/
def Batch.names : Batch → List String
  | .createTable | .deleteTable => []
  | .createSet name | .createChain name | .addElem name _ | .delElem name _ => [name]
  | .rule chainName clamp => [chainName, clamp.setName]

/-- A transaction is sent, the kernel reads it from the bytes, and the acknowledgement of its
request is awaited. -/
def Batch.IsRead (order : ByteOrder) (pid seq setId : UInt32) (batch : Batch) : Prop :=
  ∃ wire, batch.build order pid seq setId = some wire ∧ wire.expectedAcks = [seq + 1] ∧
    readBatch order wire.bytes = some [batch.meaning order pid setId]

section

variable {order : ByteOrder} {pid seq setId : UInt32} {name : String}

/-- The element that is added or deleted. -/
theorem readElems_encodeSetElemMsg (named : Named name) (key : IfKey) :
    ∃ tree, Builds (encodeSetElemMsg (ascii (tableName pid)) (ascii name) key) tree ∧ tree.Plain ∧
      tree.size < 65536 ∧ cstr? nftaTable tree = some (ascii (tableName pid)) ∧
      cstr? nftaSetElemListSet tree = some (ascii name) ∧ readElems tree = some [key.toList] := by
  have table := named_tableName pid
  have shortTable := table.length_le
  have short := named.length_le
  refine ⟨_, .flat rfl (.flat rfl (.nested nftaSetElemListElements (.nested nftaListElem
    (.nested nftaSetElemKey (.flat rfl .nil) .nil) .nil) .nil)), ?_, ?_, ?_, ?_, ?_⟩
  · exact ⟨by decide, by decide, by decide, ⟨by decide, ⟨by decide, ⟨by decide, trivial⟩, trivial⟩,
      trivial⟩, trivial⟩
  · simp only [Attrs.size, nlattrLen, nlmsgAlign, List.length_append, List.length_singleton,
      List.Vector.toList_length]
    omega
  · simp [cstr?, Attrs.find?, nftaTable, nftaSetElemListSet, cstr_of_plain table.plain]
  · simp [cstr?, Attrs.find?, cstr_of_plain named.plain]
  · simp [readElems, readList, data?, nest?, elems?, Attrs.find?]

theorem isRead_createSet (named : Named name) :
    (Batch.createSet name).IsRead order pid seq setId := by
  have table := named_tableName pid
  have shortTable := table.length_le
  have short := named.length_le
  refine readBatch_nfBatch order seq (.flat rfl (.flat rfl (.flat rfl (.flat rfl (.flat rfl
    (.flat rfl (.flat rfl .nil))))))) ?_ ?_ (by decide) (by decide) ?_
  · exact ⟨by decide, by decide, by decide, by decide, by decide, by decide, by decide, trivial⟩
  · simp only [Attrs.size, nlattrLen, nlmsgAlign, List.length_append, length_toNeBytes,
      ifnameSetUserdata, List.length_cons, List.length_nil]
    omega
  · simp [readNf, cstr?, be32?, Attrs.find?, nftMsgNewset, nftMsgNewtable, nftMsgDeltable, nftaTable,
      nftaSetName, nftaSetFlags, nftaSetKeyType, nftaSetKeyLen, nftaSetId, nftaSetUserdata,
      cstr_of_plain table.plain, cstr_of_plain named.plain]

theorem isRead_createChain (named : Named name) :
    (Batch.createChain name).IsRead order pid seq setId := by
  have table := named_tableName pid
  have shortTable := table.length_le
  have short := named.length_le
  refine readBatch_nfBatch order seq (.flat rfl (.flat rfl (.flat rfl (.flat rfl
    (.nested nftaChainHook (.flat rfl (.flat rfl .nil)) .nil))))) ?_ ?_ (by decide) (by decide) ?_
  · exact ⟨by decide, by decide, by decide, by decide, by decide, ⟨by decide, by decide, trivial⟩,
      trivial⟩
  · have kind : (ascii "filter").length = 6 := rfl
    simp only [Attrs.size, nlattrLen, nlmsgAlign, List.length_append, List.length_singleton,
      length_toNeBytes, kind]
    omega
  · have kind : 0 ∉ ascii "filter" := by decide
    simp [readNf, cstr?, be32?, nest?, Attrs.find?, nftMsgNewset, nftMsgNewtable, nftMsgDeltable,
      nftMsgNewchain, nftaTable, nftaChainName, nftaChainType, nftaChainPolicy, nftaHookHooknum,
      nftaHookPriority, cstr_of_plain table.plain, cstr_of_plain named.plain, cstr_of_plain kind]

theorem isRead_rule {clamp : Rule} (named : Named name) (namedSet : Named clamp.setName) :
    (Batch.rule name clamp).IsRead order pid seq setId := by
  have table := named_tableName pid
  have shortTable := table.length_le
  have short := named.length_le
  rcases builds_list (pushes_rule namedSet.plain namedSet.length_le clamp.ingress clamp.mss) with
    ⟨tree, elems, builds, plain, small, isElems, isExprs⟩
  refine readBatch_nfBatch order seq
    (.flat rfl (.flat rfl (.nested nftaRuleExpressions builds .nil))) ?_ ?_ (by decide)
    (by decide) ?_
  · exact ⟨by decide, by decide, by decide, plain, trivial⟩
  · have count : (ruleExprs (ascii clamp.setName) clamp.ingress clamp.mss).length = 9 := rfl
    rw [count] at small
    simp only [Attrs.size, nlattrLen, nlmsgAlign, List.length_append, List.length_singleton]
    omega
  · simp [readNf, cstr?, nest?, readList, Attrs.find?, nftMsgNewset, nftMsgNewtable,
      nftMsgDeltable, nftMsgNewchain, nftMsgNewrule, nftaTable, nftaRuleChain,
      cstr_of_plain table.plain, cstr_of_plain named.plain, isElems, isExprs]

end

/-- From the bytes that are sent for a transaction the kernel reads that transaction. -/
theorem isRead_of_named (order : ByteOrder) (pid seq setId : UInt32) {batch : Batch}
    (named : ∀ name ∈ batch.names, Named name) : batch.IsRead order pid seq setId := by
  have table := named_tableName pid
  have shortTable := table.length_le
  cases batch with
  | createTable | deleteTable =>
      refine readBatch_nfBatch order seq (.flat rfl .nil) ⟨by decide, trivial⟩ ?_ (by decide)
        (by decide) ?_
      · simp only [Attrs.size, nlattrLen, nlmsgAlign, List.length_append, List.length_singleton]
        omega
      · simp [readNf, cstr?, Attrs.find?, nftMsgNewtable, nftMsgDeltable, cstr_of_plain table.plain]
  | createSet => exact isRead_createSet (List.forall_mem_singleton.mp named)
  | createChain => exact isRead_createChain (List.forall_mem_singleton.mp named)
  | rule =>
      rcases List.forall_mem_cons.mp named with ⟨chain, set⟩
      exact isRead_rule chain (List.forall_mem_singleton.mp set)
  | addElem name key | delElem name key =>
      rcases readElems_encodeSetElemMsg (List.forall_mem_singleton.mp named) key with
        ⟨tree, builds, plain, small, isTable, isSet, isKeys⟩
      refine readBatch_nfBatch order seq builds plain small (by decide) (by decide) ?_
      simp [readNf, isTable, isSet, isKeys, nftMsgNewset, nftMsgNewtable, nftMsgDeltable,
        nftMsgNewchain, nftMsgNewrule, nftMsgNewsetelem, nftMsgDelsetelem]

/-! ## Everything that is sent -/

namespace SharedMssTable

/-- The names in all transactions are proper ones. -/
def SendsNamed (s : SharedMssTable) : Prop :=
  ∀ batch ∈ s.done, ∀ name ∈ batch.names, Named name

variable {s : SharedMssTable} {faults : Faults} {mss : UInt16}

theorem sendsNamed_exchangeBatch (sends : s.SendsNamed) (op : Op) {batch : Batch}
    (named : ∀ name ∈ batch.names, Named name) :
    (s.exchangeBatch faults op batch).2.SendsNamed := by
  rcases exchangeBatch_cases faults op batch s with ⟨error, -, failed⟩ | ⟨kernel, -, done⟩
  · rw [failed]
    exact sends
  · rw [done]
    intro other member
    rcases List.mem_append.mp member with before | here
    · exact sends other before
    · rw [List.mem_singleton.mp here]
      exact named

theorem sendsNamed_andThen {attempt : Attempt} {next : SharedMssTable → Attempt}
    (first : attempt.2.SendsNamed)
    (second : ∀ t, attempt = (.ok (), t) → t.SendsNamed → (next t).2.SendsNamed) :
    (attempt.andThen next).2.SendsNamed := by
  rcases attempt with ⟨_ | ⟨⟩, t⟩
  · exact first
  · exact second t rfl first

theorem sendsNamed_ensureTable (sends : s.SendsNamed) : (s.ensureTable faults).2.SendsNamed := by
  unfold ensureTable
  split_ifs
  · exact sends
  · have flushed : (s.exchangeBatch faults .flushStaleTable .deleteTable).2.SendsNamed :=
      sendsNamed_exchangeBatch sends _ nofun
    exact sendsNamed_andThen (sendsNamed_exchangeBatch flushed .createTable nofun)
      fun t _ sends => sends

theorem sendsNamed_createGroup (sends : s.SendsNamed) {group : MssGroup}
    (named : group.setName = setName mss ∧ group.chainName = chainName mss) :
    (s.createGroup faults mss group).2.SendsNamed := by
  have set : Named group.setName := named.1 ▸ named_setName mss
  have chain : Named group.chainName := named.2 ▸ named_chainName mss
  unfold createGroup
  refine sendsNamed_andThen (sendsNamed_exchangeBatch sends _ ?_) fun t _ sends => ?_
  · exact List.forall_mem_singleton.mpr set
  refine sendsNamed_andThen (sendsNamed_exchangeBatch sends _ ?_) fun t _ sends => ?_
  · exact List.forall_mem_singleton.mpr chain
  refine sendsNamed_andThen (sendsNamed_exchangeBatch sends _ ?_) fun t _ sends => ?_
  · exact List.forall_mem_cons.mpr ⟨chain, List.forall_mem_singleton.mpr set⟩
  exact sendsNamed_exchangeBatch sends _
    (List.forall_mem_cons.mpr ⟨chain, List.forall_mem_singleton.mpr set⟩)

theorem sendsNamed_ensureGroup (consistent : s.Consistent) (sends : s.SendsNamed) :
    (s.ensureGroup faults mss).2.SendsNamed := by
  unfold ensureGroup
  dsimp only
  rw [group_setGroup]
  split_ifs
  · exact sends
  · have entered : (s.setGroup mss (s.group mss)).SendsNamed := sends
    exact sendsNamed_andThen (sendsNamed_createGroup entered (group_named consistent mss))
      fun t _ sends => sends

theorem sendsNamed_addElement (consistent : s.Consistent) (sends : s.SendsNamed)
    (ifname : Bytes) : (s.addElement faults ifname mss).2.SendsNamed := by
  have set : Named (s.group mss).setName := (group_named consistent mss).1 ▸ named_setName mss
  exact sendsNamed_andThen
    (sendsNamed_exchangeBatch sends _ (List.forall_mem_singleton.mpr set)) fun t _ sends => sends

theorem sendsNamed_addRequests (consistent : s.Consistent) (sends : s.SendsNamed)
    (ifname : Bytes) : (s.addRequests faults ifname mss).2.SendsNamed := by
  have soundSocket := sound_openSocket faults mss consistent
  have opens : (s.openSocket faults).2.SendsNamed := by
    unfold openSocket
    split_ifs <;> exact sends
  refine sendsNamed_andThen opens fun t opened sends => ?_
  rw [opened] at soundSocket
  have soundTable := sound_ensureTable faults mss soundSocket.consistent
  refine sendsNamed_andThen (sendsNamed_ensureTable sends) fun u ensured sends => ?_
  rw [ensured] at soundTable
  have soundGroup : Sound mss u (u.ensureGroup faults mss) :=
    sound_ensureGroup faults soundTable.consistent (tableExists_of_ensureTable ensured)
  refine sendsNamed_andThen (sendsNamed_ensureGroup soundTable.consistent sends)
    fun v made sends => ?_
  rw [made] at soundGroup
  exact sendsNamed_addElement soundGroup.consistent sends ifname

theorem sendsNamed_step (consistent : s.Consistent) (sends : s.SendsNamed) (call : Call) :
    (s.step call).SendsNamed := by
  cases call with
  | add faults ifname mss =>
      rw [step, add]
      split_ifs
      · exact sends
      · exact sendsNamed_addRequests consistent sends ifname
  | remove faults ifname mss =>
      rw [step, remove]
      split_ifs
      · exact sends
      · split
        · exact sends
        · rename_i group found
          have set : Named group.setName :=
            (consistent.named mss group found).1 ▸ named_setName mss
          exact sendsNamed_exchangeBatch sends _ (List.forall_mem_singleton.mpr set)

/-- Whatever calls are made and whichever requests fail, the kernel has read each transaction that
it has carried out from its bytes as the one that was meant. -/
theorem isRead_of_mem_done (kernel : Kernel) (calls : List Call) (order : ByteOrder)
    (pid seq setId : UInt32) {batch : Batch}
    (sent : batch ∈ (Transition.finalState step (new kernel) calls).done) :
    batch.IsRead order pid seq setId := by
  have keeps : ∀ s call, s.Consistent ∧ s.SendsNamed → (step s call).Consistent ∧
      (step s call).SendsNamed :=
    fun s call before =>
      ⟨(step_sound before.1 call).1, sendsNamed_step before.1 before.2 call⟩
  have final := Transition.finalState_invariant keeps ⟨consistent_new kernel, nofun⟩ calls
  exact isRead_of_named order pid seq setId (final.2 batch sent)

/-- The name `ppp0`. -/
def oneName : Bytes := [0x70, 0x70, 0x70, 0x30]

/-- The rule for packets that come from the interface of a first session. -/
theorem isRead_firstRule :
    ∃ wire, (Batch.rule (chainName 1400) (clampRule true 1400)).build .little 4711 7 1 = some wire ∧
      wire.expectedAcks = [8] ∧
      readBatch .little wire.bytes =
        some [⟨2, 0xc05, .newRule (ascii (tableName 4711)) (ascii (chainName 1400))
          (ruleExprs (ascii (setName 1400)) true 1400)⟩] :=
  isRead_of_mem_done none [.add noFaults oneName 1400] .little 4711 7 1 (by decide)

end SharedMssTable

end SstpServer.Shape
