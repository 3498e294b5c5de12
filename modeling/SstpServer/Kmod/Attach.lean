import Mathlib.Data.Finset.Basic
import Mathlib.Data.List.Pairwise
import SstpServer.Resource.Scope
import SstpServer.Transition.Run

/-!
# Attaching a connection to the kernel

`SSTP_IOC_ATTACH` turns a TCP socket with kernel TLS into a session: it takes what the session
needs one piece after another, installs a descriptor and hooks the callbacks of the socket.  A
failure gives back what has been taken by then; closing the descriptor gives everything back and
restores the callbacks that were saved.

The workers and what goes on while they run are the subject of the session's lifetime; here an
attachment and a close are one step each.
-/

namespace SstpServer.Kmod

open SstpServer.Resource SstpServer.Transition

/-! ## Kernel objects -/

abbrev SessionId := Nat

abbrev SockId := Nat

inductive Errno where
  | fault
  | inval
  | nomem
  | badf
  | notsock
  | afnosupport
  | protonosupport
  | opnotsupp
  /-- The code that a function of the kernel has returned. -/
  | code (n : Int32)
  deriving DecidableEq

inductive TlsConf where
  | base
  | sw
  | hw
  | hwRecord
  deriving DecidableEq

/-- A callback of a socket: one of the kernel, or the module's. -/
inductive Handler where
  | kernel (address : Nat)
  | sstp
  deriving DecidableEq

inductive UserData where
  | kernel (address : Nat)
  | session (id : SessionId)
  deriving DecidableEq

structure Hooks where
  dataReady : Handler
  writeSpace : Handler
  userData : UserData
  deriving DecidableEq

structure Sock where
  family : UInt16
  protocol : UInt16
  /-- The configurations of the TLS context for sending and receiving. -/
  tls : Option (TlsConf × TlsConf)
  hooks : Hooks
  deriving DecidableEq

inductive File where
  | socket (type : UInt16) (sk : Option SockId)
  | session (id : SessionId)
  | other
  deriving DecidableEq

/-- `struct sstp_session`.  The hooks are saved while the callbacks are installed. -/
structure SstpSession where
  mtu : UInt32
  rxBuf : Bool := false
  tcpFile : Option File := none
  tcpSock : Option SockId := none
  chanRegistered : Bool := false
  wq : Bool := false
  saved : Option Hooks := none
  deriving DecidableEq

/-- What a session can hold. -/
inductive KernelObject where
  | memory
  | rxBuf
  | tcpFile
  | channel
  | workqueue
  deriving DecidableEq

def giveBack (member : Bool) (object : KernelObject) (held : Finset KernelObject) :
    Finset KernelObject :=
  if member then held.erase object else held

/-- The descriptors of the process, the sockets and the sessions, and what is held for each
session. -/
@[ext]
structure Kernel where
  files : Int32 → Option File
  reserved : Finset Int32
  socks : SockId → Sock
  sessions : SessionId → Option SstpSession
  held : SessionId → Finset KernelObject

namespace Kernel

/-- A session gets an object and remembers it. -/
def take (id : SessionId) (object : KernelObject) (set : SstpSession → SstpSession) (k : Kernel) :
    Kernel :=
  { k with
    sessions := Function.update k.sessions id ((k.sessions id).map set)
    held := Function.update k.held id (insert object (k.held id)) }

def setSession (id : SessionId) (set : SstpSession → SstpSession) (k : Kernel) : Kernel :=
  { k with sessions := Function.update k.sessions id ((k.sessions id).map set) }

def kzalloc (id : SessionId) (mtu : UInt32) (k : Kernel) : Kernel :=
  { k with
    sessions := Function.update k.sessions id (some { mtu })
    held := Function.update k.held id {.memory} }

/-- `sstp_session_release` of the last reference: each member is given back if it is set. -/
def release (id : SessionId) (k : Kernel) : Kernel :=
  match k.sessions id with
  | none => k
  | some s =>
      let held := giveBack s.chanRegistered .channel (k.held id)
      let held := giveBack s.wq .workqueue held
      let held := giveBack s.rxBuf .rxBuf held
      let held := giveBack s.tcpFile.isSome .tcpFile held
      { k with
        sessions := Function.update k.sessions id none
        held := Function.update k.held id (held.erase .memory) }

def reserveFd (fd : Int32) (k : Kernel) : Kernel :=
  { k with reserved := insert fd k.reserved }

def putUnusedFd (fd : Int32) (k : Kernel) : Kernel :=
  { k with reserved := k.reserved.erase fd }

def fdInstall (fd : Int32) (file : File) (k : Kernel) : Kernel :=
  { k with
    reserved := k.reserved.erase fd
    files := Function.update k.files fd (some file) }

def setHooks (sk : SockId) (hooks : Hooks) (k : Kernel) : Kernel :=
  { k with socks := Function.update k.socks sk { k.socks sk with hooks } }

/-- `sstp_demux_install_callback`. -/
def installCallback (id : SessionId) (k : Kernel) : Kernel :=
  match k.sessions id with
  | some { tcpSock := some sk, .. } =>
      (k.setSession id ({ · with saved := some (k.socks sk).hooks })).setHooks sk
        ⟨.sstp, .sstp, .session id⟩
  | _ => k

/-- `sstp_demux_remove_callback`. -/
def removeCallback (id : SessionId) (k : Kernel) : Kernel :=
  match k.sessions id with
  | some { saved := some hooks, tcpSock := some sk, .. } =>
      (k.setHooks sk hooks).setSession id ({ · with saved := none })
  | _ => k

/-- The last close of a descriptor; that of a session releases the session. -/
def closeFd (fd : Int32) (k : Kernel) : Kernel :=
  let k' := { k with files := Function.update k.files fd none }
  match k.files fd with
  | some (.session id) => (k'.removeCallback id).release id
  | _ => k'

end Kernel

/-! ## The ioctl -/

/-- `struct sstp_attach`. -/
structure SstpAttach where
  abiMajor : UInt16
  abiMinor : UInt16
  tcpFd : Int32
  mtu : UInt32
  sessionFd : Int32
  deriving DecidableEq

def abiVersionMajor : UInt16 := 0

def abiVersionMinor : UInt16 := 3

def afInet : UInt16 := 2

def afInet6 : UInt16 := 10

def sockStream : UInt16 := 1

def ipprotoTcp : UInt16 := 6

/-- The results of what the ioctl asks of the kernel, in the order it does. -/
structure AttachEnv where
  copyFromUser : Bool := true
  kzalloc : Option SessionId
  kmalloc : Bool := true
  registerChannel : Except Int32 Unit := .ok ()
  allocWorkqueue : Bool := true
  unusedFd : Except Int32 Int32
  getfile : Except Int32 Unit := .ok ()
  copyToUser : Bool := true

/-- An error unless a condition holds. -/
def require (e : Errno) (condition : Prop) [Decidable condition] : Except Errno Unit :=
  if condition then .ok () else .error e

def sockFromFile : File → Except Errno (UInt16 × Option SockId)
  | .socket type sk => .ok (type, sk)
  | .session _ | .other => .error .notsock

def sstpValidateKtls (type : UInt16) (sk : Option SockId) (k : Kernel) : Except Errno Unit :=
  match sk with
  | none => .error .inval
  | some sk =>
      let sock := k.socks sk
      if sock.family ≠ afInet ∧ sock.family ≠ afInet6 then .error .afnosupport
      else if type ≠ sockStream then .error .protonosupport
      else if sock.protocol ≠ ipprotoTcp then .error .protonosupport
      else
        match sock.tls with
        | none => .error .opnotsupp
        | some (tx, rx) => if tx = .base ∨ rx = .base then .error .opnotsupp else .ok ()

/-- Take what the session needs, from the receive buffer to the number of its descriptor. -/
def sstpFillSession (env : AttachEnv) (arg : SstpAttach) (id : SessionId) :
    Fallible Kernel Errno Int32 := do
  acquire (require .nomem env.kmalloc) fun _ => Kernel.take id .rxBuf ({ · with rxBuf := true })
  let file ← demand (fun k => (k.files arg.tcpFd).elim (.error .badf) .ok) fun file =>
    Kernel.take id .tcpFile ({ · with tcpFile := some file })
  let (type, sk) ← acquire (sockFromFile file) fun socket =>
    Kernel.setSession id ({ · with tcpSock := socket.2 })
  demand (sstpValidateKtls type sk) fun _ k => k
  acquire (env.registerChannel.mapError .code) fun _ =>
    Kernel.take id .channel ({ · with chanRegistered := true })
  acquire (require .nomem env.allocWorkqueue) fun _ =>
    Kernel.take id .workqueue ({ · with wq := true })
  let fd ← acquire (env.unusedFd.mapError .code) Kernel.reserveFd
  onError (Kernel.putUnusedFd fd) (check (env.getfile.mapError .code))
  pure fd

/-- `sstp_do_attach`.  From the point where the descriptor is installed, the descriptor owns the
session. -/
def sstpDoAttach (env : AttachEnv) (arg : SstpAttach) : Fallible Kernel Errno SstpAttach := do
  check (require .fault env.copyFromUser)
  check (require .inval (arg.abiMajor = abiVersionMajor))
  check (require .inval (0 ≤ arg.tcpFd))
  let id ← acquire (env.kzalloc.elim (.error .nomem) .ok) fun id =>
    Kernel.kzalloc id (if arg.mtu = 0 then 1500 else arg.mtu)
  let fd ← onError (Kernel.release id) (sstpFillSession env arg id)
  perform (Kernel.fdInstall fd (.session id))
  onError (Kernel.closeFd fd) (check (require .fault env.copyToUser))
  perform (Kernel.installCallback id)
  pure { arg with sessionFd := fd, abiMinor := abiVersionMinor }

/-! ## What an attachment leaves behind -/

/-- A socket that a session can be attached to: TCP, with kernel TLS both ways. -/
structure Secured (k : Kernel) (tcpFd : Int32) (sk : SockId) : Prop where
  file : k.files tcpFd = some (.socket sockStream (some sk))
  family : (k.socks sk).family = afInet ∨ (k.socks sk).family = afInet6
  protocol : (k.socks sk).protocol = ipprotoTcp
  tls : ∃ tx rx, (k.socks sk).tls = some (tx, rx) ∧ tx ≠ .base ∧ rx ≠ .base

theorem sstpValidateKtls_ok {tcpFd : Int32} {type : UInt16} {sk : Option SockId} {k : Kernel}
    {u : Unit} (file : k.files tcpFd = some (.socket type sk))
    (passed : sstpValidateKtls type sk k = .ok u) : ∃ i, sk = some i ∧ Secured k tcpFd i := by
  cases sk with
  | none => cases passed
  | some i =>
      unfold sstpValidateKtls at passed
      dsimp only at passed
      split_ifs at passed with family stream tcp
      split at passed
      · cases passed
      · rename_i tx rx tls
        split_ifs at passed with confs
        refine ⟨i, rfl, ?_, ?_, not_not.mp tcp, tx, rx, tls, not_or.mp confs⟩
        · rw [file, not_not.mp stream]
        · exact Decidable.or_iff_not_not_and_not.mpr family

/-- A session with its number, its descriptor and its socket. -/
structure Attachment where
  fd : Int32
  id : SessionId
  sk : SockId
  mtu : UInt32
  deriving DecidableEq

namespace Attachment

/-- The session of an attachment, before its callbacks are installed or with the hooks that it has
found then. -/
def session (a : Attachment) (saved : Option Hooks) : SstpSession where
  mtu := a.mtu
  rxBuf := true
  tcpFile := some (.socket sockStream (some a.sk))
  tcpSock := some a.sk
  chanRegistered := true
  wq := true
  saved

/-- The attachment is new to the kernel. -/
@[mk_iff]
structure Fresh (a : Attachment) (k : Kernel) : Prop where
  fd : k.files a.fd = none
  reserved : a.fd ∉ k.reserved
  id : k.sessions a.id = none
  held : k.held a.id = ∅

end Attachment

def KernelObject.all : Finset KernelObject := {.memory, .rxBuf, .tcpFile, .channel, .workqueue}

namespace Kernel

/-- The kernel with one more attachment. -/
def attached (a : Attachment) (k : Kernel) : Kernel where
  files := Function.update k.files a.fd (some (.session a.id))
  reserved := k.reserved
  socks := Function.update k.socks a.sk
    { k.socks a.sk with hooks := ⟨.sstp, .sstp, .session a.id⟩ }
  sessions := Function.update k.sessions a.id (some (a.session (some (k.socks a.sk).hooks)))
  held := Function.update k.held a.id KernelObject.all

end Kernel

/-- Whether a member of a session says that it holds an object. -/
def SstpSession.has (s : SstpSession) : KernelObject → Bool
  | .memory => true
  | .rxBuf => s.rxBuf
  | .tcpFile => s.tcpFile.isSome
  | .channel => s.chanRegistered
  | .workqueue => s.wq

def SstpSession.holds (s : SstpSession) : Finset KernelObject :=
  KernelObject.all.filter fun object => s.has object

theorem SstpSession.mem_holds {s : SstpSession} {object : KernelObject} :
    object ∈ s.holds ↔ s.has object = true := by
  have listed : object ∈ KernelObject.all := by cases object <;> decide
  simp [holds, listed]

theorem mem_giveBack {member : Bool} {object other : KernelObject} {held : Finset KernelObject} :
    other ∈ giveBack member object held ↔ other ∈ held ∧ (member = true → other ≠ object) := by
  cases member <;> simp [giveBack, and_comm]

namespace Kernel

variable {k : Kernel} {id : SessionId} {s : SstpSession}

/-- The kernel with a session that holds what its members say. -/
def holding (id : SessionId) (s : SstpSession) (k : Kernel) : Kernel :=
  { k with
    sessions := Function.update k.sessions id (some s)
    held := Function.update k.held id s.holds }

theorem take_holding {object : KernelObject} {set : SstpSession → SstpSession}
    (adds : ∀ other, (set s).has other = (decide (other = object) || s.has other)) :
    (k.holding id s).take id object set = k.holding id (set s) := by
  have isHolds : (set s).holds = insert object s.holds := by
    ext other
    simp [SstpSession.mem_holds, adds]
  ext1 <;> simp [take, holding, isHolds]

theorem setSession_holding {set : SstpSession → SstpSession} (same : (set s).has = s.has) :
    (k.holding id s).setSession id set = k.holding id (set s) := by
  ext1 <;> simp [setSession, holding, SstpSession.holds, same]

/-- The release gives back exactly what the members say. -/
theorem release_holding (unused : k.sessions id = none) (empty : k.held id = ∅) :
    (k.holding id s).release id = k := by
  have emptied : (giveBack s.tcpFile.isSome .tcpFile (giveBack s.rxBuf .rxBuf
      (giveBack s.wq .workqueue (giveBack s.chanRegistered .channel s.holds)))).erase .memory
        = ∅ := by
    ext object
    cases object <;>
      simp [mem_giveBack, SstpSession.mem_holds, SstpSession.has, Option.isSome_iff_ne_none]
  have isSome : (k.holding id s).sessions id = some s := by simp [holding]
  have isHeld : (k.holding id s).held id = s.holds := by simp [holding]
  simp only [release, isSome, isHeld, emptied]
  ext1
  · rfl
  · rfl
  · rfl
  · simp [holding, ← unused]
  · simp [holding, ← empty]

theorem kzalloc_eq_holding (id : SessionId) (mtu : UInt32) (k : Kernel) :
    k.kzalloc id mtu = k.holding id { mtu } := by
  have isHolds : ({ mtu } : SstpSession).holds = {.memory} := by
    ext object
    cases object <;> simp [SstpSession.mem_holds, SstpSession.has]
  ext1 <;> simp [kzalloc, holding, isHolds]

/-- Installing a descriptor uses up its reservation. -/
theorem fdInstall_reserveFd {fd : Int32} {file : File} (unreserved : fd ∉ k.reserved) :
    (k.reserveFd fd).fdInstall fd file =
      { k with files := Function.update k.files fd (some file) } := by
  simp [fdInstall, reserveFd, unreserved]

theorem putUnusedFd_reserveFd {fd : Int32} (unreserved : fd ∉ k.reserved) :
    (k.reserveFd fd).putUnusedFd fd = k := by
  simp [putUnusedFd, reserveFd, unreserved]

end Kernel

theorem Attachment.holds_session (a : Attachment) (saved : Option Hooks) :
    (a.session saved).holds = KernelObject.all := by
  ext object
  cases object <;>
    simp [SstpSession.mem_holds, SstpSession.has, Attachment.session, KernelObject.all]

namespace Kernel

section

variable {k : Kernel} {fd : Int32} {id : SessionId} {s : SstpSession}

theorem closeFd_session (isFile : k.files fd = some (.session id)) :
    k.closeFd fd =
      (({ k with files := Function.update k.files fd none } : Kernel).removeCallback id).release
        id := by
  simp only [closeFd, isFile]

theorem removeCallback_of_none (isSession : k.sessions id = some s) (unhooked : s.saved = none) :
    k.removeCallback id = k := by
  rcases s with ⟨mtu, rxBuf, tcpFile, tcpSock, chanRegistered, wq, saved⟩
  cases unhooked
  simp only [removeCallback, isSession]

theorem removeCallback_of_some {hooks : Hooks} {sk : SockId} (isSession : k.sessions id = some s)
    (hooked : s.saved = some hooks) (isSock : s.tcpSock = some sk) :
    k.removeCallback id = (k.setHooks sk hooks).setSession id ({ · with saved := none }) := by
  rcases s with ⟨mtu, rxBuf, tcpFile, tcpSock, chanRegistered, wq, saved⟩
  cases hooked
  cases isSock
  simp only [removeCallback, isSession]

end

variable {k : Kernel} {a : Attachment}

/-- The kernel when the descriptor of a session is installed. -/
def installed (a : Attachment) (k : Kernel) : Kernel :=
  { k.holding a.id (a.session none) with
    files := Function.update k.files a.fd (some (.session a.id)) }

theorem fdInstall_holding (fresh : a.Fresh k) :
    ((k.holding a.id (a.session none)).reserveFd a.fd).fdInstall a.fd (.session a.id) =
      k.installed a := by
  have unreserved : a.fd ∉ (k.holding a.id (a.session none)).reserved := fresh.reserved
  rw [fdInstall_reserveFd unreserved]
  rfl

theorem installCallback_installed (a : Attachment) (k : Kernel) :
    (k.installed a).installCallback a.id = k.attached a := by
  have isSession : (k.installed a).sessions a.id = some (a.session none) := by
    simp [installed, holding]
  simp only [installCallback, isSession, Attachment.session]
  ext1
  · rfl
  · rfl
  · rfl
  · simp [setHooks, setSession, installed, holding, attached, Attachment.session]
  · simp [setHooks, setSession, installed, holding, attached, a.holds_session]

theorem closeFd_installed (fresh : a.Fresh k) : (k.installed a).closeFd a.fd = k := by
  have isFile : (k.installed a).files a.fd = some (.session a.id) := by simp [installed]
  have closes : ({ k.installed a with
      files := Function.update (k.installed a).files a.fd none } : Kernel) =
      k.holding a.id (a.session none) := by
    have same : Function.update (k.installed a).files a.fd none = k.files := by
      simp [installed, ← fresh.fd]
    rw [same]
    rfl
  have isSession : (k.holding a.id (a.session none)).sessions a.id = some (a.session none) := by
    simp [holding]
  rw [closeFd_session isFile, closes, removeCallback_of_none isSession rfl]
  exact release_holding fresh.id fresh.held

/-- The kernel without an attachment, the socket with the hooks that were saved. -/
def detached (a : Attachment) (hooks : Hooks) (k : Kernel) : Kernel where
  files := Function.update k.files a.fd none
  reserved := k.reserved
  socks := Function.update k.socks a.sk { k.socks a.sk with hooks }
  sessions := Function.update k.sessions a.id none
  held := Function.update k.held a.id ∅

theorem closeFd_eq_detached {hooks : Hooks} (isFile : k.files a.fd = some (.session a.id))
    (isSession : k.sessions a.id = some (a.session (some hooks)))
    (isHeld : k.held a.id = KernelObject.all) : k.closeFd a.fd = k.detached a hooks := by
  have stillThere : ({ k with files := Function.update k.files a.fd none } : Kernel).sessions a.id =
      some (a.session (some hooks)) := isSession
  -- without its callbacks the session holds what its members say, on top of a kernel without it
  have unhooked : (({ k with files := Function.update k.files a.fd none } : Kernel).setHooks a.sk
      hooks).setSession a.id ({ · with saved := none }) =
        (k.detached a hooks).holding a.id (a.session none) := by
    ext1
    · rfl
    · rfl
    · rfl
    · simp [setSession, setHooks, holding, detached, isSession, Attachment.session]
    · simp [setSession, setHooks, holding, detached, a.holds_session, ← isHeld]
  rw [closeFd_session isFile, removeCallback_of_some stillThere rfl rfl, unhooked]
  exact release_holding (Function.update_self ..) (Function.update_self ..)

/-- Closing the descriptor undoes the attachment. -/
theorem closeFd_attached (fresh : a.Fresh k) : (k.attached a).closeFd a.fd = k := by
  have isFile : (k.attached a).files a.fd = some (.session a.id) := Function.update_self ..
  have isSession : (k.attached a).sessions a.id =
      some (a.session (some (k.socks a.sk).hooks)) := Function.update_self ..
  have isHeld : (k.attached a).held a.id = KernelObject.all := Function.update_self ..
  rw [closeFd_eq_detached isFile isSession isHeld]
  ext1
  · simp [attached, detached, ← fresh.fd]
  · rfl
  · simp [attached, detached]
  · simp [attached, detached, ← fresh.id]
  · simp [attached, detached, ← fresh.held]

end Kernel

section

variable {env : AttachEnv} {arg : SstpAttach} {k : Kernel} {id : SessionId}

theorem sstpFillSession_meets (mtu : UInt32)
    (unreserved : ∀ fd, env.unusedFd = .ok fd → fd ∉ k.reserved) :
    Meets (sstpFillSession env arg id) (k.holding id { mtu })
      (fun fd k' => env.unusedFd = .ok fd ∧ ∃ sk, Secured k arg.tcpFd sk ∧
        k' = (k.holding id (Attachment.session ⟨fd, id, sk, mtu⟩ none)).reserveFd fd)
      fun _ k' => ∃ s, k' = k.holding id s := by
  apply Meets.acquire_bind
  · exact fun _ => ⟨_, rfl⟩
  intro _ _
  rw [Kernel.take_holding (by intro other; cases other <;> rfl)]
  apply Meets.demand_bind
  · exact fun _ _ => ⟨_, rfl⟩
  intro file isFile
  rw [Kernel.take_holding (by intro other; cases other <;> rfl)]
  apply Meets.acquire_bind
  · exact fun _ => ⟨_, rfl⟩
  rintro ⟨type, sk⟩ isSocket
  rw [Kernel.setSession_holding rfl]
  apply Meets.demand_bind
  · exact fun _ _ => ⟨_, rfl⟩
  intro _ passed
  apply Meets.acquire_bind
  · exact fun _ => ⟨_, rfl⟩
  intro _ _
  rw [Kernel.take_holding (by intro other; cases other <;> rfl)]
  apply Meets.acquire_bind
  · exact fun _ => ⟨_, rfl⟩
  intro _ _
  rw [Kernel.take_holding (by intro other; cases other <;> rfl)]
  apply Meets.acquire_bind
  · exact fun _ => ⟨_, rfl⟩
  intro fd granted
  have isGranted := ok_of_mapError_eq_ok granted
  have opens (s : SstpSession) : Meets (onError (Kernel.putUnusedFd fd)
      (check (env.getfile.mapError Errno.code)) : Fallible Kernel Errno Unit)
      ((k.holding id s).reserveFd fd) (fun _ k' => k' = (k.holding id s).reserveFd fd)
      fun _ k' => ∃ s, k' = k.holding id s := by
    apply Meets.onError
    apply Meets.check
    · exact fun _ => ⟨_, Kernel.putUnusedFd_reserveFd (unreserved fd isGranted)⟩
    · exact fun _ _ => rfl
  apply (opens _).bind
  rintro _ _ rfl
  apply Meets.pure
  have isOpen : k.files arg.tcpFd = some file := by
    cases found : k.files arg.tcpFd with
    | none => simp [Kernel.holding, found] at isFile
    | some _ => simpa [Kernel.holding, found] using isFile
  cases file with
  | session _ => cases isSocket
  | other => cases isSocket
  | socket type' sk' =>
      cases isSocket
      rcases sstpValidateKtls_ok isOpen passed with ⟨i, rfl, secured⟩
      have stream : File.socket type (some i) = .socket sockStream (some i) :=
        Option.some.inj (isOpen.symm.trans secured.file)
      cases stream
      exact ⟨isGranted, i, secured, rfl⟩

theorem copyToUser_meets {a : Attachment} (copied : Bool) (fresh : a.Fresh k) :
    Meets (onError (Kernel.closeFd a.fd) (check (require .fault copied))) (k.installed a)
      (fun _ k' => k' = k.installed a) fun _ k' => k' = k := by
  apply Meets.onError
  apply Meets.check
  · exact fun _ => Kernel.closeFd_installed fresh
  · exact fun _ _ => rfl

/-- The kernel hands out memory and a descriptor that are not in use. -/
structure AttachEnv.Fresh (env : AttachEnv) (k : Kernel) : Prop where
  id : ∀ id, env.kzalloc = some id → k.sessions id = none ∧ k.held id = ∅
  fd : ∀ fd, env.unusedFd = .ok fd → k.files fd = none ∧ fd ∉ k.reserved

theorem sstpDoAttach_meets (env : AttachEnv) (arg : SstpAttach) (unused : env.Fresh k) :
    Meets (sstpDoAttach env arg) k
      (fun reply k' => ∃ a : Attachment, a.Fresh k ∧ Secured k arg.tcpFd a.sk ∧
        a.mtu = (if arg.mtu = 0 then 1500 else arg.mtu) ∧
        reply = { arg with sessionFd := a.fd, abiMinor := abiVersionMinor } ∧ k' = k.attached a)
      fun _ k' => k' = k := by
  apply Meets.check_bind
  · exact fun _ => rfl
  intro _ _
  apply Meets.check_bind
  · exact fun _ => rfl
  intro _ _
  apply Meets.check_bind
  · exact fun _ => rfl
  intro _ _
  apply Meets.acquire_bind
  · exact fun _ => rfl
  intro id granted
  have isId : env.kzalloc = some id := by
    cases result : env.kzalloc with
    | none => simp [result] at granted
    | some _ => simpa [result] using granted
  rcases unused.id id isId with ⟨noSession, nothing⟩
  rw [Kernel.kzalloc_eq_holding]
  have fills : Meets (onError (Kernel.release id) (sstpFillSession env arg id))
      (k.holding id { mtu := if arg.mtu = 0 then 1500 else arg.mtu }) _ fun _ k' => k' = k :=
    Meets.onError ((sstpFillSession_meets _ fun fd isFd => (unused.fd fd isFd).2).mono
      (fun _ _ filled => filled) (by
        rintro _ _ ⟨s, rfl⟩
        exact Kernel.release_holding noSession nothing))
  apply fills.bind
  rintro fd _ ⟨isFd, sk, secured, rfl⟩
  have fresh : Attachment.Fresh ⟨fd, id, sk, if arg.mtu = 0 then 1500 else arg.mtu⟩ k :=
    ⟨(unused.fd fd isFd).1, (unused.fd fd isFd).2, noSession, nothing⟩
  apply Meets.perform_bind
  have installs := Kernel.fdInstall_holding fresh
  dsimp only at installs
  rw [installs]
  apply (copyToUser_meets env.copyToUser fresh).bind
  rintro _ _ rfl
  apply Meets.perform_bind
  apply Meets.pure
  exact ⟨_, fresh, secured, rfl, rfl, k.installCallback_installed _⟩

/-- An attachment that fails leaves the kernel as it was.  One that succeeds has found a TCP socket
with kernel TLS both ways, and closing the descriptor it returns undoes all it has done. -/
theorem sstpDoAttach_exact (unused : env.Fresh k) :
    Meets (sstpDoAttach env arg) k
      (fun reply k' => (∃ sk, Secured k arg.tcpFd sk) ∧ k'.closeFd reply.sessionFd = k)
      fun _ k' => k' = k := by
  apply (sstpDoAttach_meets env arg unused).mono
  · rintro _ _ ⟨a, fresh, secured, _, rfl, rfl⟩
    exact ⟨⟨a.sk, secured⟩, Kernel.closeFd_attached fresh⟩
  · exact fun _ _ left => left

end

/-- A kernel with one socket that sessions can be attached to, behind descriptor 5. -/
def oneSocket : Kernel where
  files := Function.update (fun _ => none) 5 (some (.socket sockStream (some 0)))
  reserved := ∅
  socks _ := ⟨afInet, ipprotoTcp, some (.sw, .sw), ⟨.kernel 1, .kernel 2, .kernel 0⟩⟩
  sessions _ := none
  held _ := ∅

/-- An environment in which nothing fails. -/
def granting (id : SessionId) (fd : Int32) : AttachEnv where
  kzalloc := some id
  unusedFd := .ok fd

def attachSocket : SstpAttach := ⟨0, 3, 5, 0, -1⟩

theorem granting_fresh {id : SessionId} {fd : Int32} {k : Kernel} (noSession : k.sessions id = none)
    (nothing : k.held id = ∅) (unused : k.files fd = none) (unreserved : fd ∉ k.reserved) :
    (granting id fd).Fresh k where
  id _ isId := by
    cases isId
    exact ⟨noSession, nothing⟩
  fd _ isFd := by
    cases isFd
    exact ⟨unused, unreserved⟩

theorem sstpDoAttach_oneSocket :
    Meets (sstpDoAttach (granting 1 7) attachSocket) oneSocket
      (fun reply k' => (∃ sk, Secured oneSocket 5 sk) ∧ k'.closeFd reply.sessionFd = oneSocket)
      fun _ k' => k' = oneSocket :=
  sstpDoAttach_exact (granting_fresh rfl rfl rfl (by decide))

/-! ## Several sessions -/

inductive KernelMove where
  | attach (env : AttachEnv) (arg : SstpAttach)
  | close (fd : Int32)

namespace Kernel

/-- An attachment does not fault. -/
def step (k : Kernel) : KernelMove → Kernel
  | .attach env arg => (outcome (sstpDoAttach env arg) k).elim k Prod.snd
  | .close fd => k.closeFd fd

/-- No session is open on the socket behind a descriptor, and a descriptor that is closed belongs
to a session. -/
def Proper (k : Kernel) : KernelMove → Prop
  | .attach env arg =>
      env.Fresh k ∧ ∀ sk id s, Secured k arg.tcpFd sk → k.sessions id = some s →
        s.tcpSock ≠ some sk
  | .close fd => ∃ id, k.files fd = some (.session id)

def attachedAll (live : List Attachment) (k : Kernel) : Kernel :=
  live.foldr attached k

end Kernel

/-- Two attachments that have nothing in common. -/
structure Attachment.Apart (a b : Attachment) : Prop where
  fd : a.fd ≠ b.fd
  id : a.id ≠ b.id
  sk : a.sk ≠ b.sk

theorem Attachment.Apart.symm {a b : Attachment} (apart : a.Apart b) : b.Apart a :=
  ⟨apart.fd.symm, apart.id.symm, apart.sk.symm⟩

instance : Std.Symm Attachment.Apart := ⟨fun _ _ => Attachment.Apart.symm⟩

namespace Kernel

theorem attached_comm {a b : Attachment} (apart : a.Apart b) (k : Kernel) :
    (k.attached a).attached b = (k.attached b).attached a := by
  ext1
  · simp only [attached]
    rw [Function.update_comm apart.fd]
  · rfl
  · simp only [attached, Function.update_of_ne apart.sk, Function.update_of_ne apart.sk.symm]
    rw [Function.update_comm apart.sk]
  · simp only [attached, Function.update_of_ne apart.sk, Function.update_of_ne apart.sk.symm]
    rw [Function.update_comm apart.id]
  · simp only [attached]
    rw [Function.update_comm apart.id]

theorem attachedAll_perm {live live' : List Attachment} (apart : live.Pairwise Attachment.Apart)
    (perm : live.Perm live') (k : Kernel) : k.attachedAll live = k.attachedAll live' := by
  refine perm.foldr_eq' (fun a inLive b inLive' k => ?_) k
  by_cases same : a = b
  · rw [same]
  · exact attached_comm (apart.forall inLive inLive' same) k

/-- An attachment can be brought to the front. -/
theorem exists_attached {live : List Attachment} (apart : live.Pairwise Attachment.Apart)
    {a : Attachment} (member : a ∈ live) (k : Kernel) :
    ∃ rest, live.Perm (a :: rest) ∧ k.attachedAll live = (k.attachedAll rest).attached a :=
  ⟨live.erase a, List.perm_cons_erase member, attachedAll_perm apart (List.perm_cons_erase member) k⟩

section

variable {k : Kernel} {live : List Attachment}

theorem files_attachedAll {fd : Int32} (away : ∀ a ∈ live, a.fd ≠ fd) :
    (k.attachedAll live).files fd = k.files fd := by
  induction live with
  | nil => rfl
  | cons a rest ih =>
      have other : fd ≠ a.fd := (away a List.mem_cons_self).symm
      change Function.update (k.attachedAll rest).files a.fd _ fd = _
      rw [Function.update_of_ne other]
      exact ih fun b member => away b (List.mem_cons_of_mem _ member)

theorem fresh_attached {a b : Attachment} (fd : a.fd ≠ b.fd) (id : a.id ≠ b.id) :
    a.Fresh (k.attached b) ↔ a.Fresh k := by
  simp [Attachment.fresh_iff, attached, fd, id]

theorem fresh_attachedAll {a : Attachment} (away : ∀ b ∈ live, a.fd ≠ b.fd ∧ a.id ≠ b.id) :
    a.Fresh (k.attachedAll live) ↔ a.Fresh k := by
  induction live with
  | nil => rfl
  | cons b rest ih =>
      rcases List.forall_mem_cons.mp away with ⟨⟨fd, id⟩, others⟩
      exact (fresh_attached fd id).trans (ih others)

end

/-- All that has changed since `k₀` are the attachments in the list. -/
structure Serves (k₀ : Kernel) (live : List Attachment) (k : Kernel) : Prop where
  apart : live.Pairwise Attachment.Apart
  fresh : ∀ a ∈ live, a.Fresh k₀
  kernel : k = k₀.attachedAll live

namespace Serves

variable {k₀ k : Kernel} {live : List Attachment}

/-- An open attachment keeps its descriptor, its memory and its socket. -/
theorem lookup (serves : Serves k₀ live k) {a : Attachment} (member : a ∈ live) :
    k.files a.fd = some (.session a.id) ∧
      ∃ hooks, k.sessions a.id = some (a.session (some hooks)) := by
  rcases exists_attached serves.apart member k₀ with ⟨rest, _, front⟩
  rw [serves.kernel, front]
  exact ⟨Function.update_self .., _, Function.update_self ..⟩

theorem attach (serves : Serves k₀ live k) {a : Attachment} (fresh : a.Fresh k)
    (exclusive : ∀ id s, k.sessions id = some s → s.tcpSock ≠ some a.sk) :
    Serves k₀ (a :: live) (k.attached a) := by
  have apart : ∀ b ∈ live, a.Apart b := by
    intro b member
    rcases serves.lookup member with ⟨isFile, hooks, isSession⟩
    constructor
    · intro same
      rw [← same, fresh.fd] at isFile
      cases isFile
    · intro same
      rw [← same, fresh.id] at isSession
      cases isSession
    · intro same
      exact exclusive b.id _ isSession (congrArg some same.symm)
  refine ⟨List.pairwise_cons.mpr ⟨apart, serves.apart⟩, ?_, ?_⟩
  · intro b member
    rcases List.mem_cons.mp member with rfl | old
    · rw [serves.kernel] at fresh
      exact (fresh_attachedAll fun c isLive => ⟨(apart c isLive).fd, (apart c isLive).id⟩).mp fresh
    · exact serves.fresh b old
  · rw [serves.kernel]
    rfl

/-- Closing the descriptor of an attachment takes the attachment away. -/
theorem close (serves : Serves k₀ live k) {a : Attachment} (member : a ∈ live) :
    ∃ rest, live.Perm (a :: rest) ∧ Serves k₀ rest (k.closeFd a.fd) := by
  rcases exists_attached serves.apart member k₀ with ⟨rest, perm, front⟩
  have apart := List.pairwise_cons.mp ((perm.pairwise_iff Attachment.Apart.symm).mp serves.apart)
  refine ⟨rest, perm, apart.2, ?_, ?_⟩
  · exact fun b isRest => serves.fresh b (perm.mem_iff.mpr (List.mem_cons_of_mem _ isRest))
  · rw [serves.kernel, front]
    apply closeFd_attached
    exact (fresh_attachedAll fun b isRest => ⟨(apart.1 b isRest).fd, (apart.1 b isRest).id⟩).mpr
      (serves.fresh a member)

theorem step (serves : Serves k₀ live k) {move : KernelMove}
    (none₀ : ∀ fd id, k₀.files fd ≠ some (.session id)) (proper : k.Proper move) :
    ∃ live', Serves k₀ live' (k.step move) := by
  cases move with
  | attach env arg =>
      rcases sstpDoAttach_meets env arg proper.1 with
        ⟨reply, k', ran, a, fresh, secured, _, _, rfl⟩ | ⟨e, k', ran, rfl⟩
      · refine ⟨a :: live, ?_⟩
        simp only [Kernel.step, ran, Option.elim_some]
        exact serves.attach fresh fun id s isOpen => proper.2 a.sk id s secured isOpen
      · refine ⟨live, ?_⟩
        simp only [Kernel.step, ran, Option.elim_some]
        exact serves
  | close fd =>
      rcases proper with ⟨id, isFile⟩
      by_cases member : ∃ a ∈ live, a.fd = fd
      · rcases member with ⟨a, isLive, rfl⟩
        rcases serves.close isLive with ⟨rest, _, left⟩
        exact ⟨rest, left⟩
      · rw [serves.kernel, files_attachedAll fun a isLive same => member ⟨a, isLive, same⟩]
          at isFile
        exact absurd isFile (none₀ fd id)

end Serves

end Kernel

end SstpServer.Kmod
