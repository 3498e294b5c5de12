import SstpServer.Kppp.Interfaces
import SstpServer.Session.DataPath

/-!
# Bringing up the data path of a session

A session gets an interface of its own: a PPP unit that the kernel module serves, or a TUN
device.  The process opens the device, configures the interface over rtnetlink and, for the
kernel module, attaches the connection and binds the module's channel to the unit.  Any of these
may fail.  The owners of what has been opened by then go out of scope and close it.

When both ways are allowed the TUN device comes second, after everything of the first attempt
has been given back.
-/

namespace SstpServer.Kppp

open SstpServer.Wire SstpServer.Ppp SstpServer.Netlink SstpServer.Resource
open SstpServer.Session (DataPathMode Device KpppSession)

/-! ## The steps -/

/-- The index of an interface, which the kernel keeps in an `int`. -/
abbrev IfIndex := { i : UInt32 // i.toNat < 2 ^ 31 }

inductive UnitError where
  | opening (source : IoError)
  | newUnit (source : IoError)
  deriving DecidableEq

inductive KmodError where
  | notAvailable
  | openDenied (source : IoError)
  | attach (source : IoError)
  | ioctl (what : String) (source : IoError)
  | channelBind (what : String) (source : IoError)
  deriving DecidableEq

inductive TunError where
  | opening (source : IoError)
  | setIff (source : IoError)
  | nonblock (source : IoError)
  | resolveIfindex (source : IoError)
  | register (source : IoError)
  | socket (source : IoError)
  | netlink (error : NetlinkError)
  deriving DecidableEq

inductive BringUpError where
  | unit (error : UnitError)
  | socket (source : IoError)
  | netlink (error : NetlinkError)
  | kmod (error : KmodError)
  | tun (error : TunError)
  | resolveIfindex (source : IoError)
  deriving DecidableEq

def enoent : Int32 := 2

/-- A device node that is missing means that the module is not loaded. -/
def KmodError.ofOpen (source : IoError) : KmodError :=
  if source = .os enoent then .notAvailable else .openDenied source

/-- The results of the system calls of the kernel path, in the order they are made. -/
structure PppEnv where
  openPpp : Except IoError Unit := .ok ()
  newUnit : Except IoError IfIndex
  resolve : Except IoError Unit := .ok ()
  socket : Except IoError Unit := .ok ()
  deliveries : Nat → Delivery := fun _ => {}
  probe : Except IoError Unit := .ok ()
  openSstp : Except IoError Unit := .ok ()
  attach : Except IoError Unit := .ok ()
  nonblock : Except IoError Unit := .ok ()
  chanIndex : Except IoError Unit := .ok ()
  openChan : Except IoError Unit := .ok ()
  attchan : Except IoError Unit := .ok ()
  connect : Except IoError Unit := .ok ()

/-- The results of the system calls of the TUN path. -/
structure TunEnv where
  openTun : Except IoError Unit := .ok ()
  setIff : Except IoError IfIndex
  nonblock : Except IoError Unit := .ok ()
  resolve : Except IoError Unit := .ok ()
  socket : Except IoError Unit := .ok ()
  deliveries : Nat → Delivery := fun _ => {}
  register : Except IoError Unit := .ok ()

/-- The data path of a session. -/
inductive Backend where
  | ppp (ifindex mtu : UInt32)
  | tun (ifindex mtu : UInt32)
  deriving DecidableEq

def defaultMtu : UInt32 := 1400

def effectiveMtu (requested : Option UInt32) : UInt32 :=
  match requested with
  | none => defaultMtu
  | some mtu => if mtu < 576 then 576 else if 1500 < mtu then 1500 else mtu

theorem toNat_effectiveMtu (requested : Option UInt32) :
    (effectiveMtu requested).toNat = Session.effectiveMtu (requested.map UInt32.toNat) := by
  cases requested with
  | none => rfl
  | some mtu =>
      simp only [effectiveMtu, Session.effectiveMtu, Option.map_some, UInt32.lt_iff_toNat_lt]
      split_ifs <;> simp at * <;> omega

/-- A descriptor becomes the owner of a new interface. -/
def Host.owning (fd owner : Fd) (i : UInt32) (h : Host) : Host :=
  ({ h with fds := h.fds.erase fd }.plugged i).opened owner

/-- `Unit::new`. -/
def unitNew (env : PppEnv) : Fallible Host BringUpError IfIndex := do
  acquire (env.openPpp.mapError fun e => .unit (.opening e)) fun _ => Host.opened (.ppp none)
  onError (Host.closed (.ppp none)) do
    acquire (env.newUnit.mapError fun e => .unit (.newUnit e)) fun i =>
      Host.owning (.ppp none) (.ppp (some i.1)) i.1

/-- `bind_channel_to_unit`. -/
def bindChannelToUnit (env : PppEnv) : Fallible Host BringUpError Unit := do
  acquire (env.openChan.mapError fun e => .kmod (.channelBind "open(/dev/ppp)" e)) fun _ =>
    Host.opened .channel
  onError (Host.closed .channel) do
    check (env.attchan.mapError fun e => .kmod (.channelBind "PPPIOCATTCHAN" e))
    check (env.connect.mapError fun e => .kmod (.channelBind "PPPIOCCONNECT" e))

/-- `KmodSession::attach`.  The device node is closed as soon as there is a session. -/
def kmodAttach (env : PppEnv) : Fallible Host BringUpError Unit := do
  acquire (env.openSstp.mapError fun e => .kmod (.ofOpen e)) fun _ => Host.opened .sstp
  always (Host.closed .sstp) do
    acquire (env.attach.mapError fun e => .kmod (.attach e)) fun _ => Host.opened .session
  onError (Host.closed .session) do
    check (env.nonblock.mapError fun e => .kmod (.ioctl "fcntl(O_NONBLOCK) on session_fd" e))
    check (env.chanIndex.mapError fun e => .kmod (.ioctl "SSTP_IOC_GET_CHAN_INDEX" e))
    bindChannelToUnit env

section

variable (order : ByteOrder)

def bringUpPpp (env : PppEnv) (localIp peer : Ipv4) (mtu : UInt32) :
    Fallible Host BringUpError Backend := do
  let i ← unitNew env
  onError (Host.closed (.ppp (some i.1))) do
    check (env.resolve.mapError .resolveIfindex)
    acquire (env.socket.mapError .socket) fun _ => Host.opened .netlink
    always (Host.closed .netlink) do
      mapError .netlink (netlinkBringUp order env.deliveries i.1 ⟨localIp, peer, some mtu⟩ 1)
      check (env.probe.mapError fun e => .kmod (.ofOpen e))
      kmodAttach env
      pure (.ppp i.1 mtu)

/-- `TunSession::bring_up`. -/
def tunBringUp (env : TunEnv) (localIp peer : Ipv4) (mtu : UInt32) :
    Fallible Host BringUpError Backend := do
  acquire (env.openTun.mapError fun e => .tun (.opening e)) fun _ => Host.opened (.tun none)
  let i ← onError (Host.closed (.tun none)) do
    acquire (env.setIff.mapError fun e => .tun (.setIff e)) fun i =>
      Host.owning (.tun none) (.tun (some i.1)) i.1
  onError (Host.closed (.tun (some i.1))) do
    check (env.nonblock.mapError fun e => .tun (.nonblock e))
    check (env.resolve.mapError fun e => .tun (.resolveIfindex e))
    acquire (env.socket.mapError fun e => .tun (.socket e)) fun _ => Host.opened .netlink
    always (Host.closed .netlink) do
      mapError (fun e => .tun (.netlink e))
        (netlinkBringUp order env.deliveries i.1 ⟨localIp, peer, some mtu⟩ 1)
      check (env.register.mapError fun e => .tun (.register e))
      pure (.tun i.1 mtu)

/-- `KpppSession::bring_up`. -/
def bringUp (pppEnv : PppEnv) (tunEnv : TunEnv) (mode : DataPathMode) (localIp peer : Ipv4)
    (mtu : Option UInt32) : Fallible Host BringUpError Backend :=
  let mtu := effectiveMtu mtu
  match mode with
  | .tun => tunBringUp order tunEnv localIp peer mtu
  | .kernel => bringUpPpp order pppEnv localIp peer mtu
  | .auto =>
      orElse (bringUpPpp order pppEnv localIp peer mtu) (tunBringUp order tunEnv localIp peer mtu)

end

/-! ## What the steps leave behind -/

namespace Host

/-- The host with one more interface, and with descriptors in front of those it had. -/
def hosting (fds : List Fd) (i : UInt32) (dev : Netdev) (h : Host) : Host :=
  { (h.plugged i).configured i fun _ => dev with fds := fds ++ h.fds }

variable {fds : List Fd} {i : UInt32} {dev : Netdev} {h : Host}

theorem devs_hosting : (h.hosting fds i dev).devs = Function.update h.devs i (some dev) := by
  funext j
  by_cases same : j = i
  · simp [hosting, configured, plugged, same]
  · simp [hosting, configured, plugged, same]

theorem owning_opened {fd owner : Fd} :
    (h.opened fd).owning fd owner i = h.hosting [owner] i {} := by
  ext1
  · rw [devs_hosting]
    rfl
  · simp [owning, opened, plugged, hosting]

theorem configured_hosting {change : Netdev → Netdev} :
    (h.hosting fds i dev).configured i change = h.hosting fds i (change dev) := by
  ext1
  · rw [devs_hosting]
    funext j
    by_cases same : j = i
    · simp [configured, devs_hosting, same]
    · simp [configured, devs_hosting, same]
  · rfl

/-- Closing a descriptor that owns no interface takes it out of the list. -/
theorem closed_hosting {fd : Fd} (plain : ∀ j, fd ≠ .ppp (some j) ∧ fd ≠ .tun (some j))
    (member : fd ∈ fds) :
    (h.hosting fds i dev).closed fd = h.hosting (fds.erase fd) i dev := by
  have erased : (fds ++ h.fds).erase fd = fds.erase fd ++ h.fds := List.erase_append_left _ member
  rw [closed_of_plain plain]
  change { h.hosting fds i dev with fds := (fds ++ h.fds).erase fd } = h.hosting (fds.erase fd) i dev
  rw [erased]
  rfl

theorem closed_hosting_cons {fd : Fd} (plain : ∀ j, fd ≠ .ppp (some j) ∧ fd ≠ .tun (some j)) :
    (h.hosting (fd :: fds) i dev).closed fd = h.hosting fds i dev := by
  rw [closed_hosting plain List.mem_cons_self, List.erase_cons_head]

/-- Closing the owner of a new interface restores the host. -/
theorem closed_owner {owner : Fd} (owns : owner = .ppp (some i) ∨ owner = .tun (some i))
    (fresh : h.devs i = none) : (h.hosting [owner] i dev).closed owner = h := by
  have isClosed : (h.hosting [owner] i dev).closed owner =
      ⟨Function.update (h.hosting [owner] i dev).devs i none, ([owner] ++ h.fds).erase owner⟩ := by
    rcases owns with rfl | rfl <;> rfl
  rw [isClosed, devs_hosting, Function.update_idem, ← fresh, Function.update_eq_self]
  simp

end Host

section

variable {h : Host} {fds : List Fd} {i : UInt32} {dev : Netdev}

/-- A device that is open becomes the owner of an interface, or is closed. -/
theorem owning_meets {fd : Fd} (plain : ∀ j, fd ≠ .ppp (some j) ∧ fd ≠ .tun (some j))
    (owner : UInt32 → Fd) (granted : Except IoError IfIndex) (wrap : IoError → BringUpError) :
    Meets (onError (Host.closed fd) do
        acquire (granted.mapError wrap) fun i => Host.owning fd (owner i.1) i.1) (h.opened fd)
      (fun i h' => granted = .ok i ∧ h' = h.hosting [owner i.1] i.1 {}) fun _ h' => h' = h := by
  apply Meets.onError
  apply Meets.acquire
  · exact fun _ => h.closed_opened plain
  · exact fun i isGranted => ⟨ok_of_mapError_eq_ok isGranted, Host.owning_opened⟩

theorem unitNew_meets (env : PppEnv) (h : Host) :
    Meets (unitNew env) h
      (fun i h' => env.newUnit = .ok i ∧ h' = h.hosting [.ppp (some i.1)] i.1 {})
      fun _ h' => h' = h := by
  apply Meets.acquire_bind
  · exact fun _ => rfl
  intro _ _
  exact owning_meets (by simp) (fun i => .ppp (some i)) env.newUnit _

/-- Binding the channel adds its descriptor, or nothing. -/
theorem bindChannelToUnit_meets (env : PppEnv) :
    Meets (bindChannelToUnit env) (h.hosting fds i dev)
      (fun _ h' => h' = h.hosting (.channel :: fds) i dev)
      fun _ h' => h' = h.hosting fds i dev := by
  have closes : (h.hosting (.channel :: fds) i dev).closed .channel = h.hosting fds i dev :=
    Host.closed_hosting_cons (by simp)
  apply Meets.acquire_bind
  · exact fun _ => rfl
  intro _ _
  apply Meets.onError
  apply Meets.check_bind
  · exact fun _ => closes
  intro _ _
  apply Meets.check
  · exact fun _ => closes
  · exact fun _ _ => rfl

theorem kmodAttach_meets (env : PppEnv) :
    Meets (kmodAttach env) (h.hosting fds i dev)
      (fun _ h' => h' = h.hosting (.channel :: .session :: fds) i dev)
      fun _ h' => h' = h.hosting fds i dev := by
  have closesBehind : (h.hosting (.session :: .sstp :: fds) i dev).closed .sstp =
      h.hosting (.session :: fds) i dev :=
    (Host.closed_hosting (by simp) (by simp)).trans (by simp)
  have closes : (h.hosting (.session :: fds) i dev).closed .session = h.hosting fds i dev :=
    Host.closed_hosting_cons (by simp)
  apply Meets.acquire_bind
  · exact fun _ => rfl
  intro _ _
  have attached : Meets (always (Host.closed .sstp) do
      acquire (env.attach.mapError fun e => BringUpError.kmod (.attach e)) fun _ =>
        Host.opened .session) (h.hosting (.sstp :: fds) i dev)
      (fun _ h' => h' = h.hosting (.session :: fds) i dev) fun _ h' => h' = h.hosting fds i dev := by
    apply Meets.always
    apply Meets.acquire
    · exact fun _ => Host.closed_hosting_cons (by simp)
    · exact fun _ _ => closesBehind
  apply attached.bind
  rintro _ _ rfl
  apply Meets.onError
  apply Meets.check_bind
  · exact fun _ => closes
  intro _ _
  apply Meets.check_bind
  · exact fun _ => closes
  intro _ _
  apply (bindChannelToUnit_meets env).mono (fun _ _ bound => bound)
  rintro _ _ rfl
  exact closes

variable (order : ByteOrder) (localIp peer : Ipv4) (mtu : UInt32)

/-- The interface of a session as it is configured. -/
def sessionDev (localIp peer : Ipv4) (mtu : UInt32) : Netdev where
  mtu := mtu
  up := true
  addrs := [(localIp.toList, peer.toList, 32)]

/-- The requests configure the new interface; whatever they have done to it, it is still the only
thing that has changed. -/
theorem netlinkBringUp_hosting (index : i.toNat < 2 ^ 31) (deliveries : Nat → Delivery) :
    Meets (netlinkBringUp order deliveries i ⟨localIp, peer, some mtu⟩ 1) (h.hosting fds i {})
      (fun _ h' => h' = h.hosting fds i (sessionDev localIp peer mtu))
      fun _ h' => ∃ partly, h' = h.hosting fds i partly := by
  apply (netlinkBringUp_meets order 1 (h.hosting fds i {}) index deliveries
    ⟨localIp, peer, some mtu⟩).mono
  · rintro _ _ rfl
    exact Host.configured_hosting
  · rintro _ _ ⟨partly, rfl⟩
    exact ⟨_, Host.configured_hosting⟩

/-- What both paths do once a descriptor owns the interface `i`: the interface is configured through
a client of its own, and the rest has to leave the host alone when it fails. -/
theorem configured_meets {owner : Fd} (owns : owner = .ppp (some i) ∨ owner = .tun (some i))
    (index : i.toNat < 2 ^ 31) (fresh : h.devs i = none) (fds : List Fd)
    (socket : Except BringUpError Unit) (deliveries : Nat → Delivery)
    (wrap : NetlinkError → BringUpError) {rest : Fallible Host BringUpError Backend}
    {backend : Backend}
    (completes : Meets rest (h.hosting [.netlink, owner] i (sessionDev localIp peer mtu))
      (fun b h' => b = backend ∧
        h' = h.hosting (fds ++ [.netlink, owner]) i (sessionDev localIp peer mtu))
      fun _ h' => h' = h.hosting [.netlink, owner] i (sessionDev localIp peer mtu))
    (plain : Fd.netlink ∉ fds) :
    Meets (do
        acquire socket fun _ => Host.opened .netlink
        always (Host.closed .netlink) do
          mapError wrap (netlinkBringUp order deliveries i ⟨localIp, peer, some mtu⟩ 1)
          rest) (h.hosting [owner] i {})
      (fun b h' => b = backend ∧ h' = h.hosting (fds ++ [owner]) i (sessionDev localIp peer mtu))
      fun _ h' => h'.closed owner = h := by
  have restores (dev : Netdev) :
      ((h.hosting [.netlink, owner] i dev).closed .netlink).closed owner = h := by
    rw [Host.closed_hosting_cons (by simp)]
    exact Host.closed_owner owns fresh
  apply Meets.acquire_bind
  · exact fun _ => Host.closed_owner owns fresh
  intro _ _
  apply Meets.always
  have configures : Meets (netlinkBringUp order deliveries i ⟨localIp, peer, some mtu⟩ 1)
      (h.hosting [.netlink, owner] i {}) _ _ :=
    netlinkBringUp_hosting order localIp peer mtu index deliveries
  apply (Meets.mapError (configures.mono (fun _ _ done => done) ?_)).bind
  · rintro _ _ rfl
    apply completes.mono
    · rintro _ _ ⟨rfl, rfl⟩
      refine ⟨rfl, (Host.closed_hosting (by simp) (by simp)).trans ?_⟩
      rw [List.erase_append_right _ plain, List.erase_cons_head]
    · rintro _ _ rfl
      exact restores _
  · rintro _ _ ⟨partly, rfl⟩
    exact restores partly

theorem bringUpPpp_meets (env : PppEnv) (h : Host)
    (fresh : ∀ i, env.newUnit = .ok i → h.devs i.1 = none) :
    Meets (bringUpPpp order env localIp peer mtu) h
      (fun backend h' => ∃ i, env.newUnit = .ok i ∧ backend = .ppp i.1 mtu ∧
        h' = h.hosting [.channel, .session, .ppp (some i.1)] i.1 (sessionDev localIp peer mtu))
      fun _ h' => h' = h := by
  apply (unitNew_meets env h).bind
  rintro i _ ⟨granted, rfl⟩
  apply Meets.onError
  apply Meets.check_bind
  · exact fun _ => Host.closed_owner (Or.inl rfl) (fresh i granted)
  intro _ _
  refine (configured_meets order localIp peer mtu (Or.inl rfl) i.2 (fresh i granted)
    [.channel, .session] _ env.deliveries _ ?_ (by simp)).mono (fun _ _ done => ⟨i, granted, done⟩)
    fun _ _ left => left
  apply Meets.check_bind
  · exact fun _ => rfl
  intro _ _
  apply (kmodAttach_meets env).bind
  rintro _ _ rfl
  apply Meets.pure
  exact ⟨rfl, rfl⟩

theorem tunBringUp_meets (env : TunEnv) (h : Host)
    (fresh : ∀ i, env.setIff = .ok i → h.devs i.1 = none) :
    Meets (tunBringUp order env localIp peer mtu) h
      (fun backend h' => ∃ i, env.setIff = .ok i ∧ backend = .tun i.1 mtu ∧
        h' = h.hosting [.tun (some i.1)] i.1 (sessionDev localIp peer mtu))
      fun _ h' => h' = h := by
  apply Meets.acquire_bind
  · exact fun _ => rfl
  intro _ _
  apply (owning_meets (by simp) (fun i => .tun (some i)) env.setIff _).bind
  rintro i _ ⟨granted, rfl⟩
  have restores : (h.hosting [.tun (some i.1)] i.1 {}).closed (.tun (some i.1)) = h :=
    Host.closed_owner (Or.inr rfl) (fresh i granted)
  apply Meets.onError
  apply Meets.check_bind
  · exact fun _ => restores
  intro _ _
  apply Meets.check_bind
  · exact fun _ => restores
  intro _ _
  refine (configured_meets order localIp peer mtu (Or.inr rfl) i.2 (fresh i granted) [] _
    env.deliveries _ ?_ (by simp)).mono (fun _ _ done => ⟨i, granted, done⟩) fun _ _ left => left
  apply Meets.check_bind
  · exact fun _ => rfl
  intro _ _
  apply Meets.pure
  exact ⟨rfl, rfl⟩

end

/-! ## The whole -/

namespace Backend

def ifindex : Backend → UInt32
  | .ppp ifindex _ | .tun ifindex _ => ifindex

def mtu : Backend → UInt32
  | .ppp _ mtu | .tun _ mtu => mtu

/-- The descriptors of a data path, the last one first. -/
def fds : Backend → List Fd
  | .ppp ifindex _ => [.channel, .session, .ppp (some ifindex)]
  | .tun ifindex _ => [.tun (some ifindex)]

/-- The kinds of data path that a mode allows. -/
def Allowed (mode : DataPathMode) : Backend → Prop
  | .ppp _ _ => mode ≠ .tun
  | .tun _ _ => mode ≠ .kernel

/-- The devices that the session finds the two kinds of data path to have created. -/
def kernelDevice (ifname : Bytes) : Backend → Option Device
  | .ppp ifindex _ => some ⟨ifname, ifindex.toNat⟩
  | .tun _ _ => none

def tunDevice (ifname : Bytes) : Backend → Option Device
  | .ppp _ _ => none
  | .tun ifindex _ => some ⟨ifname, ifindex.toNat⟩

/-- The data path as the session knows it. -/
def forSession (ifname : Bytes) (localIp peer : Ipv4) : Backend → KpppSession
  | .ppp ifindex mtu => ⟨.kernel, ⟨ifname, ifindex.toNat⟩, localIp, peer, mtu.toNat⟩
  | .tun ifindex mtu => ⟨.tun, ⟨ifname, ifindex.toNat⟩, localIp, peer, mtu.toNat⟩

/-- The session gets the data path by its own rule from the devices that were created. -/
theorem bringUp_forSession {backend : Backend} {mode : DataPathMode} {requested : Option UInt32}
    (allowed : backend.Allowed mode) (isMtu : backend.mtu = effectiveMtu requested)
    (ifname : Bytes) (localIp peer : Ipv4) :
    KpppSession.bringUp mode (backend.kernelDevice ifname) (backend.tunDevice ifname) localIp peer
      (requested.map UInt32.toNat) = some (backend.forSession ifname localIp peer) := by
  have same := toNat_effectiveMtu requested
  rw [← isMtu] at same
  cases backend <;> cases mode <;>
    simp_all [KpppSession.bringUp, kernelDevice, tunDevice, forSession, Allowed, mtu]

end Backend

/-- The host while a session has its data path. -/
def Host.serving (backend : Backend) (localIp peer : Ipv4) (h : Host) : Host :=
  h.hosting backend.fds backend.ifindex (sessionDev localIp peer backend.mtu)

section

variable {order : ByteOrder} {pppEnv : PppEnv} {tunEnv : TunEnv} {mode : DataPathMode}
  {localIp peer : Ipv4} {mtu : Option UInt32} {h : Host}

/-- When a path that fails leaves the host as it was, a bring-up does what the paths of its mode
do from there. -/
theorem bringUp_meets {ok : Backend → Host → Prop}
    (kernel : mode ≠ .tun → Meets (bringUpPpp order pppEnv localIp peer (effectiveMtu mtu)) h ok
      fun _ h' => h' = h)
    (tun : mode ≠ .kernel → Meets (tunBringUp order tunEnv localIp peer (effectiveMtu mtu)) h ok
      fun _ h' => h' = h) :
    Meets (bringUp order pppEnv tunEnv mode localIp peer mtu) h ok fun _ h' => h' = h := by
  cases mode with
  | auto =>
      apply (kernel (by decide)).orElse
      rintro _ rfl
      exact tun (by decide)
  | kernel => exact kernel (by decide)
  | tun => exact tun (by decide)

/-- A bring-up that succeeds leaves the host with exactly the interface and the descriptors of
the data path; the interface is up, with the effective MTU and the pair of addresses, and the
session gets this data path.  One that fails leaves the host as it was, whatever step has failed,
the fallback included. -/
theorem bringUp_exact (freshPpp : ∀ i, pppEnv.newUnit = .ok i → h.devs i.1 = none)
    (freshTun : ∀ i, tunEnv.setIff = .ok i → h.devs i.1 = none) :
    Meets (bringUp order pppEnv tunEnv mode localIp peer mtu) h
      (fun backend h' => backend.Allowed mode ∧ backend.mtu = effectiveMtu mtu ∧
        h' = h.serving backend localIp peer ∧
        ∀ ifname, KpppSession.bringUp mode (backend.kernelDevice ifname) (backend.tunDevice ifname)
          localIp peer (mtu.map UInt32.toNat) = some (backend.forSession ifname localIp peer))
      fun _ h' => h' = h := by
  apply bringUp_meets
  · intro allowed
    apply (bringUpPpp_meets order localIp peer _ pppEnv h freshPpp).mono
    · rintro _ _ ⟨i, _, rfl, rfl⟩
      have isAllowed : (Backend.ppp i.1 (effectiveMtu mtu)).Allowed mode := allowed
      exact ⟨allowed, rfl, rfl, fun ifname => Backend.bringUp_forSession isAllowed rfl ifname _ _⟩
    · exact fun _ _ left => left
  · intro allowed
    apply (tunBringUp_meets order localIp peer _ tunEnv h freshTun).mono
    · rintro _ _ ⟨i, _, rfl, rfl⟩
      have isAllowed : (Backend.tun i.1 (effectiveMtu mtu)).Allowed mode := allowed
      exact ⟨allowed, rfl, rfl, fun ifname => Backend.bringUp_forSession isAllowed rfl ifname _ _⟩
    · exact fun _ _ left => left

end

/-- A host without interfaces. -/
def Host.bare : Host where
  devs _ := none
  fds := []

/-- The kernel module refuses the connection, and the TUN device takes its place. -/
theorem bringUp_fallback :
    Meets (bringUp .little
        { newUnit := .ok ⟨7, by decide⟩
          attach := .error (.os 95) }
        { setIff := .ok ⟨8, by decide⟩ }
        .auto ⟨[10, 0, 0, 1], rfl⟩ ⟨[10, 0, 0, 2], rfl⟩ (some 9000)) Host.bare
      (fun backend h' => backend.Allowed .auto ∧ backend.mtu = effectiveMtu (some 9000) ∧
        h' = Host.bare.serving backend ⟨[10, 0, 0, 1], rfl⟩ ⟨[10, 0, 0, 2], rfl⟩ ∧
        ∀ ifname, KpppSession.bringUp .auto (backend.kernelDevice ifname)
          (backend.tunDevice ifname) ⟨[10, 0, 0, 1], rfl⟩ ⟨[10, 0, 0, 2], rfl⟩ (some 9000) =
            some (backend.forSession ifname ⟨[10, 0, 0, 1], rfl⟩ ⟨[10, 0, 0, 2], rfl⟩))
      fun _ h' => h' = Host.bare :=
  bringUp_exact (fun _ _ => rfl) (fun _ _ => rfl)

end SstpServer.Kppp
