import SstpServer.Ppp.Calls
import SstpServer.Session.Forwarding

/-!
# The MSS clamp of a session's interface

When the network comes up, the TCP segments through the new device are clamped to what fits
a packet of the device and, wrapped in SSTP and TLS, a packet of the underlay.  The device and
the clamp each have a default of their own for the case that no MTU was agreed on.
-/

namespace SstpServer.Session

open SstpServer.Wire
open SstpServer.Ppp

/-! ## The clamp -/

/-- Whether a name has a word in it. -/
def NameContains (name word : String) : Prop :=
  word.toList <:+: name.toList

instance (name word : String) : Decidable (NameContains name word) :=
  inferInstanceAs (Decidable (word.toList <:+: name.toList))

/-- Most bytes that TLS adds to a record. -/
def tlsRecordOverhead (version cipher : String) : Nat :=
  if version = "TLSv1.3" then 22
  else if version = "TLSv1.2" then
    if NameContains cipher "CHACHA20" then 21
    else if NameContains cipher "GCM" then 29
    else 56
  else 56

/-- The bounds from which the MSS is taken. -/
structure Mss4Bounds where
  mssLink : Nat
  mssUnderlay : Nat
  mss4 : Nat
  tlsOverhead : Nat
  encap : Nat
  deriving DecidableEq, Repr

def underlayPmtu : Nat := 1500

def innerIpTcp : Nat := 40

def outerIpTcp : Nat := 40

def sstpData : Nat := 4

def pppAcp : Nat := 4

/-- The MSS for a device MTU and a TLS session. -/
def computeMss4 (mtu : Nat) (version cipher : String) : Mss4Bounds :=
  let tls := tlsRecordOverhead version cipher
  let mtuClamped := max 576 (min mtu 1500)
  let mssLink := mtuClamped - innerIpTcp
  let encap := outerIpTcp + tls + sstpData + pppAcp
  let mssUnderlay := underlayPmtu - (encap + innerIpTcp)
  { mssLink
    mssUnderlay
    mss4 := max 536 (min (min mssLink mssUnderlay) 1460)
    tlsOverhead := tls
    encap }

/-- The MSS to which a session's interface is clamped. -/
def sessionMss4 (linkMtu : Option Nat) (version cipher : String) : Nat :=
  (computeMss4 (linkMtu.getD 1500) version cipher).mss4

/-! ## The clamp and the device -/

/-- TLS 1.3, and TLS 1.2 with one of the ciphers that add little to a record. -/
def AddsLittle (version cipher : String) : Prop :=
  version = "TLSv1.3" ∨
    version = "TLSv1.2" ∧ (NameContains cipher "CHACHA20" ∨ NameContains cipher "GCM")

instance (version cipher : String) : Decidable (AddsLittle version cipher) :=
  inferInstanceAs (Decidable (_ ∨ _ ∧ (_ ∨ _)))

theorem tlsRecordOverhead_le_of_addsLittle {version cipher : String}
    (little : AddsLittle version cipher) : tlsRecordOverhead version cipher ≤ 29 := by
  unfold tlsRecordOverhead
  rcases little with tls13 | ⟨tls12, cipher⟩
  · rw [if_pos tls13]
    decide
  · split_ifs with _ chacha gcm
    · decide
    · decide
    · decide
    · exact absurd cipher (not_or.mpr ⟨chacha, gcm⟩)

theorem tlsRecordOverhead_of_not_addsLittle {version cipher : String}
    (large : ¬AddsLittle version cipher) : tlsRecordOverhead version cipher = 56 := by
  rcases not_or.mp large with ⟨other, cbc⟩
  unfold tlsRecordOverhead
  rw [if_neg other]
  split_ifs with tls12 chacha gcm
  · exact absurd ⟨tls12, .inl chacha⟩ cbc
  · exact absurd ⟨tls12, .inr gcm⟩ cbc
  · rfl
  · rfl

/-- An agreed MTU bounds the segments and the device alike. -/
theorem sessionMss4_some_le (mtu : Nat) (version cipher : String) :
    sessionMss4 (some mtu) version cipher + innerIpTcp ≤ effectiveMtu (some mtu) := by
  simp only [sessionMss4, computeMss4, effectiveMtu, Option.getD_some, innerIpTcp]
  omega

/-- Without an agreed MTU the segments are bounded by the underlay alone. -/
theorem sessionMss4_none_le_iff (version cipher : String) :
    sessionMss4 none version cipher + innerIpTcp ≤ effectiveMtu none ↔
      ¬AddsLittle version cipher := by
  simp only [sessionMss4, computeMss4, effectiveMtu, Option.getD_none, innerIpTcp, outerIpTcp,
    sstpData, pppAcp, underlayPmtu, defaultMtu]
  by_cases little : AddsLittle version cipher
  · have small := tlsRecordOverhead_le_of_addsLittle little
    constructor
    · intro fits
      omega
    · intro large
      exact absurd little large
  · rw [tlsRecordOverhead_of_not_addsLittle little]
    exact ⟨fun _ => little, fun _ => by decide⟩

theorem isSome_mergeMtu (framed peer : Option Nat) :
    (mergeMtu framed peer).isSome ↔ framed.isSome ∨ peer.isSome := by
  cases framed <;> cases peer <;> simp [mergeMtu]

theorem KpppSession.mtu_of_bringUp {mode : DataPathMode} {kernel tun : Option Device}
    {localIp peerIp : Ipv4} {mtu : Option Nat} {kppp : KpppSession}
    (up : KpppSession.bringUp mode kernel tun localIp peerIp mtu = some kppp) :
    kppp.mtu = effectiveMtu mtu := by
  unfold KpppSession.bringUp at up
  cases mode <;> cases kernel <;> cases tun <;> cases up <;> rfl

theorem kppp_startAccounting (config : Config) (env : Env) (kppp : KpppSession) (s : Session) :
    (s.startAccounting config env kppp).kppp = s.kppp := by
  unfold startAccounting
  split <;> rfl

/-- The device of a session is made with the MTU of the assigned addresses. -/
theorem mtu_networkUp {config : Config} {env : Env} {addrs : AssignedAddrs} {s : Session}
    {kppp : KpppSession} (fresh : s.kppp = none)
    (up : (s.networkUp config env addrs).kppp = some kppp) : kppp.mtu = effectiveMtu addrs.mtu := by
  have down : ¬s.kppp.isSome = true := by
    rw [fresh]
    decide
  unfold networkUp at up
  rw [if_neg down] at up
  cases attach : attachMode config env with
  | none =>
      rw [attach] at up
      cases fresh.symm.trans up
  | some mode =>
      rw [attach] at up
      unfold bringUp at up
      dsimp only at up
      split at up
      · rename_i device created
        rw [kppp_startAccounting] at up
        cases up
        exact KpppSession.mtu_of_bringUp created
      · cases fresh.symm.trans up

/-- The MSS of a session's interface and the headers of IPv4 and TCP fit the MTU of the
interface exactly when an MTU was agreed on, or the TLS session is assumed to add much to a
record. -/
theorem mss_le_mtu_iff {config : Config} {env : Env} {ppp : Ppp} {addrs : AssignedAddrs}
    {s : Session} {kppp : KpppSession} (version cipher : String) (fresh : s.kppp = none)
    (up : (s.networkUp config env (ppp.grantedAddrs addrs)).kppp = some kppp) :
    sessionMss4 (ppp.grantedAddrs addrs).mtu version cipher + innerIpTcp ≤ kppp.mtu ↔
      addrs.mtu.isSome ∨ ppp.lcp.peerMru.isSome ∨ ¬AddsLittle version cipher := by
  rw [mtu_networkUp fresh up, ← or_assoc, ← isSome_mergeMtu]
  show sessionMss4 (mergeMtu addrs.mtu ppp.lcp.peerMru) _ _ + _ ≤
    effectiveMtu (mergeMtu addrs.mtu ppp.lcp.peerMru) ↔ _
  cases mergeMtu addrs.mtu ppp.lcp.peerMru with
  | some mtu => simp [sessionMss4_some_le]
  | none => simp [sessionMss4_none_le_iff]

/-- A peer that advertises no MRU. -/
def plainPpp : Ppp :=
  Ppp.new (Block.zero 4) .pap

/-- Addresses without a Framed-MTU. -/
def plainAddrs : AssignedAddrs :=
  ⟨Block.zero 4, none, none, none, none, none⟩

/-- The device of a session without an agreed MTU. -/
def plainDevice : KpppSession :=
  ⟨.tun, ⟨[], 1⟩, Block.zero 4, Block.zero 4, 1400⟩

theorem networkUp_plainDevice :
    ((sessionAfter tunConfig obligingEnv []).networkUp tunConfig obligingEnv
      (plainPpp.grantedAddrs plainAddrs)).kppp = some plainDevice := by
  decide +kernel

/-- With a cipher that adds 56 bytes to a record the segments fit. -/
theorem mss_le_mtu_cbc :
    sessionMss4 (plainPpp.grantedAddrs plainAddrs).mtu "TLSv1.2" "ECDHE-RSA-AES256-SHA" +
      innerIpTcp ≤ plainDevice.mtu := by
  have fresh : (sessionAfter tunConfig obligingEnv []).kppp = none := by decide +kernel
  have large : ¬AddsLittle "TLSv1.2" "ECDHE-RSA-AES256-SHA" := by decide +kernel
  exact (mss_le_mtu_iff _ _ fresh networkUp_plainDevice).mpr (.inr (.inr large))

/-- Under TLS 1.3 a segment of 1390 bytes needs a packet of 1430 on a device of 1400. -/
theorem mss_gt_mtu_tls13 :
    ((sessionAfter tunConfig obligingEnv []).networkUp tunConfig obligingEnv
        (plainPpp.grantedAddrs plainAddrs)).kppp = some plainDevice ∧
      ¬sessionMss4 (plainPpp.grantedAddrs plainAddrs).mtu "TLSv1.3" "TLS_AES_128_GCM_SHA256" +
        innerIpTcp ≤ plainDevice.mtu := by
  refine ⟨networkUp_plainDevice, ?_⟩
  decide +kernel

end SstpServer.Session
