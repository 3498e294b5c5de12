import SstpServer.Ppp.Frame
import SstpServer.Ppp.Ipcp

/-!
# The data path of a session

Once IPCP has converged a session gets a network device: a kernel PPP unit whose
bytes the kernel module handles, or a TUN device served by the session task.
-/

namespace SstpServer.Session

open SstpServer.Wire
open SstpServer.Ppp

/-- The operator's choice of data path. -/
inductive DataPathMode where
  | auto
  | kernel
  | tun
  deriving DecidableEq, Repr

/-- The backend that serves a session. -/
inductive Backend where
  | kernel
  | tun
  deriving DecidableEq, Repr

/-- A network device as the kernel created it. -/
structure Device where
  ifname : Bytes
  ifindex : Nat
  deriving DecidableEq, Repr

/-- A live data path. -/
structure KpppSession where
  backend : Backend
  device : Device
  localIp : Ipv4
  peerIp : Ipv4
  mtu : Nat
  deriving DecidableEq

def defaultMtu : Nat := 1400

/-- The device MTU: the requested one clamped to `[576, 1500]`. -/
def effectiveMtu (requested : Option Nat) : Nat :=
  match requested with
  | none => defaultMtu
  | some mtu => max 576 (min mtu 1500)

namespace KpppSession

def isKernel (kppp : KpppSession) : Bool :=
  kppp.backend = .kernel

def isTun (kppp : KpppSession) : Bool :=
  kppp.backend = .tun

/-- Bring the data path up.  `kernel` and `tun` are the devices the two backends
would create; a backend that fails creates none. -/
def bringUp (mode : DataPathMode) (kernel tun : Option Device) (localIp peerIp : Ipv4)
    (mtu : Option Nat) : Option KpppSession :=
  let up (backend : Backend) (device : Device) : KpppSession :=
    ⟨backend, device, localIp, peerIp, effectiveMtu mtu⟩
  match mode with
  | .tun => tun.map (up .tun)
  | .kernel => kernel.map (up .kernel)
  | .auto =>
      match kernel with
      | some device => some (up .kernel device)
      | none => tun.map (up .tun)

end KpppSession

/-- The frame for a packet read from the TUN device, whose version nibble selects
the protocol. -/
def readFrame (packet : Bytes) : Option Bytes :=
  match packet with
  | [] => none
  | first :: _ =>
      match first.toNat / 16 with
      | 4 => some (encodeFrame ProtocolId.ip.asU16 packet)
      | 6 => some (encodeFrame ProtocolId.ipv6.asU16 packet)
      | _ => none

/-- What becomes of an inbound PPP frame. -/
inductive NpFilter where
  | notNetworkLayer
  | forward
  | dropPreIpcp
  | dropMruExceeded
  deriving DecidableEq, Repr

/-- The network-layer filter. -/
def npFilterDecide (networkReady : Bool) (mtu protocol infoLen : Nat) : NpFilter :=
  match ProtocolId.fromU16 protocol with
  | none => .notNetworkLayer
  | some id =>
      if ¬id.isNetworkLayer then .notNetworkLayer
      else if ¬networkReady then .dropPreIpcp
      else if mtu < infoLen then .dropMruExceeded
      else .forward

/-- A frame is forwarded exactly when it carries IP, the device is up and the packet
fits its MTU. -/
theorem npFilterDecide_eq_forward_iff {networkReady : Bool} {mtu protocol infoLen : Nat} :
    npFilterDecide networkReady mtu protocol infoLen = .forward ↔
      (∃ id, ProtocolId.fromU16 protocol = some id ∧ id.isNetworkLayer = true) ∧
        networkReady = true ∧ infoLen ≤ mtu := by
  unfold npFilterDecide
  cases ProtocolId.fromU16 protocol with
  | none => simp
  | some id =>
      simp only [Option.some.injEq, exists_eq_left']
      split_ifs <;> simp_all

theorem npFilterDecide_eq_notNetworkLayer_iff {networkReady : Bool} {mtu protocol infoLen : Nat} :
    npFilterDecide networkReady mtu protocol infoLen = .notNetworkLayer ↔
      ¬∃ id, ProtocolId.fromU16 protocol = some id ∧ id.isNetworkLayer = true := by
  unfold npFilterDecide
  cases ProtocolId.fromU16 protocol with
  | none => simp
  | some id =>
      simp only [Option.some.injEq, exists_eq_left']
      split_ifs <;> simp_all

end SstpServer.Session
