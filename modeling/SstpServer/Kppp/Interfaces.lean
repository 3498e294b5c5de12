import SstpServer.Netlink.Requests
import SstpServer.Resource.Scope

/-!
# The interfaces of the host

A session changes the host in two ways: it holds descriptors, some of which keep an interface
alive, and it sends requests to rtnetlink.  The kernel carries a request out, or refuses it, and
answers with its code.  When the descriptor of an interface is closed, the interface goes.
-/

namespace SstpServer.Kppp

open SstpServer.Wire SstpServer.Ppp SstpServer.Netlink SstpServer.Resource

/-! ## The host -/

/-- An interface, with its pairs of addresses and their prefix lengths. -/
structure Netdev where
  mtu : UInt32 := 1500
  up : Bool := false
  addrs : List (Bytes × Bytes × UInt8) := []
  deriving DecidableEq

/-- A descriptor of the process.  One of `/dev/ppp` or `/dev/net/tun` may own an interface. -/
inductive Fd where
  | ppp (dev : Option UInt32)
  | tun (dev : Option UInt32)
  | netlink
  | sstp
  | session
  | channel
  deriving DecidableEq

/-- The interfaces by their index, and the descriptors of the process, the last one first. -/
@[ext]
structure Host where
  devs : UInt32 → Option Netdev
  fds : List Fd

namespace Host

def opened (fd : Fd) (h : Host) : Host :=
  { h with fds := fd :: h.fds }

/-- A new interface. -/
def plugged (i : UInt32) (h : Host) : Host :=
  { h with devs := Function.update h.devs i (some {}) }

/-- Change an interface. -/
def configured (i : UInt32) (change : Netdev → Netdev) (h : Host) : Host :=
  { h with devs := Function.update h.devs i ((h.devs i).map change) }

/-- A descriptor that owns an interface takes it along. -/
def closed (fd : Fd) (h : Host) : Host :=
  match fd with
  | .ppp (some i) | .tun (some i) => ⟨Function.update h.devs i none, h.fds.erase fd⟩
  | _ => { h with fds := h.fds.erase fd }

theorem closed_of_plain {fd : Fd} (plain : ∀ i, fd ≠ .ppp (some i) ∧ fd ≠ .tun (some i))
    (h : Host) : h.closed fd = { h with fds := h.fds.erase fd } := by
  unfold closed
  split
  · exact absurd rfl (plain _).1
  · exact absurd rfl (plain _).2
  · rfl

theorem closed_opened {fd : Fd} (plain : ∀ i, fd ≠ .ppp (some i) ∧ fd ≠ .tun (some i))
    (h : Host) : (h.opened fd).closed fd = h := by
  simp [closed_of_plain plain, opened]

end Host

/-! ## Requests -/

def einval : Int32 := 22

/-- An interface after a change of the link; only the flags in `change` are touched. -/
def Netdev.setLink (flags change : UInt32) (mtu : Option UInt32) (dev : Netdev) : Netdev :=
  { dev with
    mtu := mtu.getD dev.mtu
    up := if change &&& iffUp = 0 then dev.up else flags &&& iffUp ≠ 0 }

def Netdev.addAddr (localIp address : Bytes) (prefixLen : UInt8) (dev : Netdev) : Netdev :=
  { dev with addrs := dev.addrs ++ [(localIp, address, prefixLen)] }

namespace Host

def carryOut (h : Host) : Request → Host
  | .setLink ifindex flags change mtu => h.configured ifindex (·.setLink flags change mtu)
  | .newAddr ifindex prefixLen localIp address =>
      h.configured ifindex (·.addAddr localIp address prefixLen)

/-- The code of the answer to a request, and the host behind it.  The kernel may refuse a request
for a reason of its own, the `verdict`. -/
def serve (verdict : Int32) (request : Request) (h : Host) : Int32 × Host :=
  if verdict ≠ 0 then (verdict, h)
  else if (h.devs request.ifindex).isNone then (-enodev, h)
  else (0, h.carryOut request)

/-- What the kernel makes of the bytes of a request. -/
def receive (order : ByteOrder) (verdict : Int32) (bytes : Bytes) (h : Host) : Int32 × Host :=
  match readRequest order bytes with
  | none => (-einval, h)
  | some request => h.serve verdict request

end Host

/-- What becomes of one exchange: whether the request can be sent, the verdict of the kernel and
whether the answer can be received. -/
structure Delivery where
  sent : Except IoError Unit := .ok ()
  verdict : Int32 := 0
  received : Except IoError Unit := .ok ()

/-- The socket of one exchange whose answer has this code. -/
def Delivery.sock (delivery : Delivery) (order : ByteOrder) (buf : MessageBuf) (code : Int32) :
    NetlinkSocket where
  send _ := delivery.sent
  recv := delivery.received.map fun _ => ack order buf.seq code buf.bytes

/-- An exchange of the client with the kernel.  A request that the process cannot build makes it
panic. -/
def exchange (order : ByteOrder) (op : String) (request : Option MessageBuf)
    (delivery : Delivery) : Fallible Host NetlinkError Unit :=
  ExceptT.mk fun h => do
    let buf ← request
    let (code, h') :=
      if delivery.sent.isOk then h.receive order delivery.verdict buf.bytes else (0, h)
    let result ← RtNetlink.exchange order op buf ⟨delivery.sock order buf code, buf.seq⟩
    some (result, h')

/-- The pair of addresses of a session's link, and its MTU if it is to be set. -/
structure SessionIpConfig where
  localIp : Ipv4
  peer : Ipv4
  mtu : Option UInt32

section

variable (order : ByteOrder)

def setMtu (seq ifindex mtu : UInt32) (delivery : Delivery) : Fallible Host NetlinkError Unit :=
  exchange order "RTM_NEWLINK(IFLA_MTU)" (encodeSetMtu order seq ifindex mtu) delivery

def addP2pAddr (seq ifindex : UInt32) (localIp peer : Ipv4) (delivery : Delivery) :
    Fallible Host NetlinkError Unit :=
  exchange order "RTM_NEWADDR" (encodeAddP2pAddr order seq ifindex localIp peer) delivery

def setLinkUp (seq ifindex : UInt32) (delivery : Delivery) : Fallible Host NetlinkError Unit :=
  exchange order "RTM_NEWLINK(IFF_UP)" (encodeSetLinkUp order seq ifindex) delivery

/-- Configure an interface with up to three requests; the first failure ends the sequence. -/
def netlinkBringUp (deliveries : Nat → Delivery) (ifindex : UInt32) (cfg : SessionIpConfig)
    (seq : UInt32) : Fallible Host NetlinkError Unit := do
  let seq ← match cfg.mtu with
    | some mtu => do
        setMtu order seq ifindex mtu (deliveries 0)
        pure (seq + 1)
    | none => pure seq
  addP2pAddr order seq ifindex cfg.localIp cfg.peer (deliveries 1)
  setLinkUp order (seq + 1) ifindex (deliveries 2)

end

/-! ## What an exchange does to the host -/

/-- The kernel has carried a request out. -/
def Served (request : Request) (h h' : Host) : Prop :=
  (h.devs request.ifindex).isSome = true ∧ h' = h.carryOut request

/-- The answer is zero exactly when the request is carried out. -/
theorem Host.serve_cases (verdict : Int32) (request : Request) (h : Host) :
    (h.serve verdict request).1 = 0 ∧ Served request h (h.serve verdict request).2 ∨
      (h.serve verdict request).1 ≠ 0 ∧ (h.serve verdict request).2 = h := by
  unfold Host.serve
  split
  · rename_i refused
    exact Or.inr ⟨refused, rfl⟩
  · split
    · have code : -enodev ≠ 0 := by decide
      exact Or.inr ⟨code, rfl⟩
    · rename_i there
      exact Or.inl ⟨rfl, Option.isSome_iff_ne_none.mpr (by simpa using there), rfl⟩

/-- The client learns the code of the answer, unless the answer is lost. -/
def Delivery.result (delivery : Delivery) (op : String) (code : Int32) : Except NetlinkError Unit :=
  match delivery.received with
  | .error source => .error (.recv op source)
  | .ok _ => if code = 0 then .ok () else .error (.kernel op (-code))

theorem outcome_exchange {order : ByteOrder} {op : String} {buf : MessageBuf} {request : Request}
    (reads : readRequest order buf.bytes = some request) (delivery : Delivery) (h : Host) :
    outcome (exchange order op (some buf) delivery) h =
      match delivery.sent with
      | .error source => some (.error (.send op source), h)
      | .ok _ =>
          some (delivery.result op (h.serve delivery.verdict request).1,
            (h.serve delivery.verdict request).2) := by
  rcases delivery with ⟨sent, verdict, received⟩
  cases sent with
  | error source => rfl
  | ok _ =>
      have receives : h.receive order verdict buf.bytes = h.serve verdict request := by
        rw [Host.receive, reads]
      have answered : RtNetlink.exchange order op buf
          ⟨Delivery.sock ⟨.ok (), verdict, received⟩ order buf (h.serve verdict request).1,
            buf.seq⟩ =
          some (Delivery.result ⟨.ok (), verdict, received⟩ op (h.serve verdict request).1) := by
        cases received with
        | error source => rfl
        | ok _ => exact RtNetlink.exchange_ack order op buf rfl rfl
      rw [← receives] at answered ⊢
      change (RtNetlink.exchange order op buf
        ⟨Delivery.sock ⟨.ok (), verdict, received⟩ order buf
          (h.receive order verdict buf.bytes).1, buf.seq⟩).bind
            (fun result => some (result, (h.receive order verdict buf.bytes).2)) = _
      rw [answered]
      rfl

/-- A successful exchange has carried the request out.  A failed one may have done so: when the
answer is lost, the client cannot tell. -/
theorem exchange_meets {order : ByteOrder} {op : String} {buf : MessageBuf} {request : Request}
    (reads : readRequest order buf.bytes = some request) (delivery : Delivery) (h : Host) :
    Meets (exchange order op (some buf) delivery) h (fun _ h' => Served request h h')
      fun _ h' => h' = h ∨ Served request h h' := by
  have left : outcome (exchange order op (some buf) delivery) h = _ :=
    outcome_exchange reads delivery h
  rcases delivery with ⟨sent, verdict, received⟩
  cases sent with
  | error source => exact Or.inr ⟨.send op source, h, left, Or.inl rfl⟩
  | ok _ =>
      rcases Host.serve_cases verdict request h with ⟨zero, served⟩ | ⟨nonzero, same⟩
      · cases received with
        | error source => exact Or.inr ⟨_, _, left, Or.inr served⟩
        | ok _ =>
            dsimp only [Delivery.result] at left
            rw [if_pos zero] at left
            exact Or.inl ⟨_, _, left, served⟩
      · cases received with
        | error source => exact Or.inr ⟨_, _, left, Or.inl same⟩
        | ok _ =>
            dsimp only [Delivery.result] at left
            rw [if_neg nonzero] at left
            exact Or.inr ⟨_, _, left, Or.inl same⟩

/-! ## Configuring an interface -/

namespace Host

theorem configured_configured (i : UInt32) (first second : Netdev → Netdev) (h : Host) :
    (h.configured i first).configured i second = h.configured i (second ∘ first) := by
  ext1
  · funext j
    by_cases same : j = i
    · simp [configured, same]
    · simp [configured, same]
  · rfl

theorem configured_id (i : UInt32) (h : Host) : h.configured i id = h := by
  ext1
  · simp [configured]
  · rfl

end Host

/-- The interface as the session wants it. -/
def SessionIpConfig.applied (cfg : SessionIpConfig) (dev : Netdev) : Netdev where
  mtu := cfg.mtu.getD dev.mtu
  up := true
  addrs := dev.addrs ++ [(cfg.localIp.toList, cfg.peer.toList, 32)]

/-- An exchange about one interface changes that interface, at most. -/
theorem exchange_configures {order : ByteOrder} {op : String} {request : Option MessageBuf}
    {i : UInt32} {change : Netdev → Netdev} {asked : Request}
    (built : ∃ buf, request = some buf ∧ readRequest order buf.bytes = some asked)
    (means : ∀ h : Host, h.carryOut asked = h.configured i change) (delivery : Delivery) (h : Host) :
    Meets (exchange order op request delivery) h (fun _ h' => h' = h.configured i change)
      fun _ h' => ∃ partly, h' = h.configured i partly := by
  rcases built with ⟨buf, rfl, reads⟩
  refine (exchange_meets reads delivery h).mono ?_ ?_
  · rintro _ h' ⟨-, rfl⟩
    exact means h
  · rintro _ h' (rfl | ⟨-, rfl⟩)
    · exact ⟨id, (h'.configured_id i).symm⟩
    · exact ⟨change, means h⟩

section

variable (order : ByteOrder) {i : UInt32} (seq : UInt32) (delivery : Delivery) (h : Host)

theorem setMtu_meets (index : i.toNat < 2 ^ 31) (mtu : UInt32) :
    Meets (setMtu order seq i mtu delivery) h
      (fun _ h' => h' = h.configured i (·.setLink 0 0 (some mtu)))
      fun _ h' => ∃ partly, h' = h.configured i partly :=
  exchange_configures (exists_encodeSetMtu order seq mtu index) (fun _ => rfl) delivery h

theorem addP2pAddr_meets (localIp peer : Ipv4) :
    Meets (addP2pAddr order seq i localIp peer delivery) h
      (fun _ h' => h' = h.configured i (·.addAddr localIp.toList peer.toList 32))
      fun _ h' => ∃ partly, h' = h.configured i partly :=
  exchange_configures (exists_encodeAddP2pAddr order seq i localIp peer) (fun _ => rfl) delivery h

theorem setLinkUp_meets (index : i.toNat < 2 ^ 31) :
    Meets (setLinkUp order seq i delivery) h
      (fun _ h' => h' = h.configured i (·.setLink iffUp iffUp none))
      fun _ h' => ∃ partly, h' = h.configured i partly :=
  exchange_configures (exists_encodeSetLinkUp order seq index) (fun _ => rfl) delivery h

/-- What remains to be done after the MTU. -/
theorem addressAndUp_meets (index : i.toNat < 2 ^ 31) (deliveries : Nat → Delivery)
    (localIp peer : Ipv4) :
    Meets (do
        addP2pAddr order seq i localIp peer (deliveries 1)
        setLinkUp order (seq + 1) i (deliveries 2)) h
      (fun _ h' => h' = h.configured i
        ((·.setLink iffUp iffUp none) ∘ (·.addAddr localIp.toList peer.toList 32)))
      fun _ h' => ∃ partly, h' = h.configured i partly := by
  refine (addP2pAddr_meets order seq (deliveries 1) h localIp peer).bind ?_
  rintro _ _ rfl
  refine (setLinkUp_meets order (seq + 1) (deliveries 2) _ index).mono ?_ ?_
  · rintro _ _ rfl
    exact h.configured_configured i _ _
  · rintro _ _ ⟨partly, rfl⟩
    exact ⟨_, h.configured_configured i _ _⟩

/-- The requests of a bring-up set the MTU, add the pair of addresses and set the link up; a
failure leaves the other interfaces alone. -/
theorem netlinkBringUp_meets (index : i.toNat < 2 ^ 31) (deliveries : Nat → Delivery)
    (cfg : SessionIpConfig) :
    Meets (netlinkBringUp order deliveries i cfg seq) h (fun _ h' => h' = h.configured i cfg.applied)
      fun _ h' => ∃ partly, h' = h.configured i partly := by
  rcases cfg with ⟨localIp, peer, mtu⟩
  cases mtu with
  | none =>
      refine (addressAndUp_meets order seq h index deliveries localIp peer).mono ?_ ?_
      · rintro _ _ rfl
        rfl
      · exact fun _ _ left => left
  | some mtu =>
      refine (setMtu_meets order seq (deliveries 0) h index mtu).bind ?_
      rintro _ _ rfl
      refine (addressAndUp_meets order (seq + 1) _ index deliveries localIp peer).mono ?_ ?_
      · rintro _ _ rfl
        exact h.configured_configured i _ _
      · rintro _ _ ⟨partly, rfl⟩
        exact ⟨_, h.configured_configured i _ _⟩

end

end SstpServer.Kppp
