import SstpServer.Ppp.Negotiation

/-!
# The option policies, apart from their walks

The server decides each option on its own: LCP takes a fixed set of options at
any value, IPCP takes exactly what was granted.  This module states the two
policies option by option and shows that the walks over a Configure-Request
collect precisely the options the policies turn down.
-/

namespace SstpServer.Ppp

open SstpServer.Wire
open SstpServer.Iteration

/-! ## Option lists -/

/-- The options in front of the first malformed one. -/
def leadingOptions : List (Except LcpPacketError ConfigOption) → List ConfigOption
  | .ok opt :: rest => opt :: leadingOptions rest
  | _ => []

/-- The option list ends in a malformed option. -/
def hasMalformed (items : List (Except LcpPacketError ConfigOption)) : Bool :=
  items.any fun item => !item.isOk

/-- Without a malformed option, every item is one of the options. -/
theorem exists_mem_leadingOptions {items : List (Except LcpPacketError ConfigOption)}
    (wellFormed : hasMalformed items = false) {item : Except LcpPacketError ConfigOption}
    (member : item ∈ items) : ∃ opt ∈ leadingOptions items, item = .ok opt := by
  induction items with
  | nil => cases member
  | cons first rest ih =>
      cases first with
      | error error => simp [hasMalformed, Except.isOk, Except.toBool] at wellFormed
      | ok opt =>
          rcases List.mem_cons.mp member with rfl | later
          · exact ⟨opt, List.mem_cons_self, rfl⟩
          · have restFormed : hasMalformed rest = false := by
              simpa [hasMalformed, Except.isOk, Except.toBool] using wellFormed
            obtain ⟨found, inRest, itemEq⟩ := ih restFormed later
            exact ⟨found, List.mem_cons_of_mem _ inRest, itemEq⟩

/-- The bytes of an option. -/
def ConfigOption.encode (opt : ConfigOption) : Bytes :=
  writeOption opt.optionType opt.value

/-! ## LCP -/

namespace LcpServer

/-- The options a Configure-Reject returns. -/
def rejectBody (items : List (Except LcpPacketError ConfigOption)) : Bytes :=
  ((leadingOptions items).filter fun opt => !accepts opt).flatMap ConfigOption.encode

@[simp]
theorem captureMru_pendingNak (lcp : LcpServer) (opt : ConfigOption) :
    (lcp.captureMru opt).pendingNak = lcp.pendingNak := by
  unfold captureMru
  split <;> rfl

/-- The walk collects the rejected options and notices every flaw. -/
theorem classifyOptions_spec (lcp : LcpServer) (anyBad : Bool)
    (items : List (Except LcpPacketError ConfigOption)) :
    (lcp.classifyOptions anyBad items).1.pendingNak = lcp.pendingNak ++ rejectBody items ∧
      (lcp.classifyOptions anyBad items).2 =
        (anyBad || hasMalformed items || (leadingOptions items).any fun opt => !accepts opt) := by
  induction items generalizing lcp anyBad with
  | nil => simp [classifyOptions, rejectBody, leadingOptions, hasMalformed]
  | cons item rest ih =>
      cases item with
      | error error =>
          simp [classifyOptions, rejectBody, leadingOptions, hasMalformed, Except.isOk,
            Except.toBool]
      | ok opt =>
          simp only [classifyOptions]
          by_cases accepted : accepts opt = true
          · rw [if_pos accepted, (ih _ _).1, (ih _ _).2]
            simp [rejectBody, leadingOptions, hasMalformed, accepted, Except.isOk,
              Except.toBool]
          · rw [if_neg accepted, (ih _ _).1, (ih _ _).2]
            simp [rejectBody, leadingOptions, hasMalformed, accepted, Except.isOk,
              Except.toBool, ConfigOption.encode]

end LcpServer

/-! ## IPCP -/

namespace IpcpServer

/-- What IPCP does with one option. -/
inductive Verdict where
  | accept
  | nak (addr : Ipv4)
  | reject
  deriving DecidableEq

/-- The address granted for an option type, for the types that can be granted. -/
def grantedFor (addrs : AssignedAddrs) : IpcpOptionId → Option Ipv4
  | .ipAddress => some addrs.ip
  | .primaryDns => addrs.dns1
  | .secondaryDns => addrs.dns2
  | .primaryNbns => addrs.nbns1
  | .secondaryNbns => addrs.nbns2
  | .ipCompressionProtocol | .mobileIpv4 => none

/-- The policy: what was granted is accepted, another value is answered with the
granted one, and what cannot be granted is rejected. -/
def judge (addrs : AssignedAddrs) (opt : ConfigOption) : Verdict :=
  match (IpcpOptionId.fromU8 opt.optionType).bind (grantedFor addrs) with
  | some addr => if opt.value = addr.toList then .accept else .nak addr
  | none => .reject

/-- The options a Configure-Nak proposes. -/
def nakBody (addrs : AssignedAddrs) (opts : List ConfigOption) : Bytes :=
  opts.flatMap fun opt =>
    match judge addrs opt with
    | .nak addr => writeIpv4Option opt.optionType addr
    | _ => []

/-- The options a Configure-Reject returns. -/
def rejectBody (addrs : AssignedAddrs) (opts : List ConfigOption) : Bytes :=
  (opts.filter fun opt => judge addrs opt = .reject).flatMap ConfigOption.encode

theorem optionType_of_fromU8 {value : UInt8} {option : IpcpOptionId}
    (known : IpcpOptionId.fromU8 value = some option) : value = option.asU8 := by
  unfold IpcpOptionId.fromU8 at known
  split at known <;> cases known <;>
    · apply UInt8.toNat_inj.mp
      assumption

theorem handleOptionalDnsLike_eq (nak reject : Bytes) (opt : ConfigOption)
    (ours : Option Ipv4) (optType : UInt8) :
    handleOptionalDnsLike nak reject opt ours optType =
      match ours with
      | some addr =>
          if opt.value = addr.toList then (nak, reject)
          else (nak ++ writeIpv4Option optType addr, reject)
      | none => (nak, reject ++ writeOption optType opt.value) := by
  unfold handleOptionalDnsLike
  cases ours with
  | none => rfl
  | some addr =>
      cases read : readIpv4Value opt.value with
      | ok client =>
          rw [readIpv4Value_eq_ok_iff.mp read]
          simp only [List.Vector.toList_injective.eq_iff]
      | error error =>
          have differs : opt.value ≠ addr.toList := fun equal => by
            simp [readIpv4Value_eq_ok_iff.mpr equal] at read
          simp only [if_neg differs]

/-- The peer's own address is handled like an option that is always granted. -/
theorem classifyOption_ipAddress {addrs : AssignedAddrs} {opt : ConfigOption}
    (known : IpcpOptionId.fromU8 opt.optionType = some .ipAddress) (nak reject : Bytes) :
    classifyOption addrs nak reject opt =
      handleOptionalDnsLike nak reject opt (some addrs.ip) IpcpOptionId.ipAddress.asU8 := by
  unfold classifyOption handleOptionalDnsLike
  cases read : readIpv4Value opt.value <;> simp [known]

/-- One option of the walk, by its verdict. -/
theorem classifyOption_eq (addrs : AssignedAddrs) (nak reject : Bytes) (opt : ConfigOption) :
    classifyOption addrs nak reject opt =
      (nak ++ nakBody addrs [opt], reject ++ rejectBody addrs [opt]) := by
  cases known : IpcpOptionId.fromU8 opt.optionType with
  | none => simp [classifyOption, nakBody, rejectBody, judge, known, ConfigOption.encode]
  | some option =>
      have type := optionType_of_fromU8 known
      have dnsLike : ∀ ours, grantedFor addrs option = ours →
          handleOptionalDnsLike nak reject opt ours option.asU8 =
            (nak ++ nakBody addrs [opt], reject ++ rejectBody addrs [opt]) := by
        rintro ours rfl
        rw [handleOptionalDnsLike_eq]
        cases granted : grantedFor addrs option with
        | none => simp [nakBody, rejectBody, judge, granted, ConfigOption.encode, type]
        | some addr =>
            by_cases same : opt.value = addr.toList <;>
              simp [nakBody, rejectBody, judge, granted, same, type]
      cases option with
      | ipAddress =>
          rw [classifyOption_ipAddress known]
          exact dnsLike _ rfl
      | primaryDns | secondaryDns | primaryNbns | secondaryNbns =>
          simp only [classifyOption, known]
          exact dnsLike _ rfl
      | ipCompressionProtocol | mobileIpv4 =>
          simp [classifyOption, nakBody, rejectBody, judge, known, grantedFor,
            ConfigOption.encode]

/-- The walk collects the bodies of the Nak and of the Reject, unless it meets a
malformed option. -/
theorem classifyOptions_eq (addrs : AssignedAddrs) (nak reject : Bytes)
    (items : List (Except LcpPacketError ConfigOption)) :
    classifyOptions addrs nak reject items =
      if hasMalformed items then none
      else some (nak ++ nakBody addrs (leadingOptions items),
        reject ++ rejectBody addrs (leadingOptions items)) := by
  induction items generalizing nak reject with
  | nil => simp [classifyOptions, hasMalformed, leadingOptions, nakBody, rejectBody]
  | cons item rest ih =>
      cases item with
      | error error => simp [classifyOptions, hasMalformed, Except.isOk, Except.toBool]
      | ok opt =>
          have malformed : hasMalformed (.ok opt :: rest) = hasMalformed rest := by
            simp [hasMalformed, Except.isOk, Except.toBool]
          have naks : nakBody addrs (opt :: leadingOptions rest) =
              nakBody addrs [opt] ++ nakBody addrs (leadingOptions rest) := by
            simp [nakBody]
          have rejects : rejectBody addrs (opt :: leadingOptions rest) =
              rejectBody addrs [opt] ++ rejectBody addrs (leadingOptions rest) := by
            simp [rejectBody, List.filter_cons]
            split <;> simp
          simp only [classifyOptions, classifyOption_eq, ih, malformed, leadingOptions, naks,
            rejects, List.append_assoc]

/-- An empty Nak and an empty Reject mean that every option is as granted. -/
theorem judge_eq_accept {addrs : AssignedAddrs} {opts : List ConfigOption}
    (noNak : nakBody addrs opts = []) (noReject : rejectBody addrs opts = [])
    {opt : ConfigOption} (member : opt ∈ opts) : judge addrs opt = .accept := by
  have naks := List.flatMap_eq_nil_iff.mp noNak opt member
  have rejects := List.flatMap_eq_nil_iff.mp noReject opt
  cases verdict : judge addrs opt with
  | accept => rfl
  | nak addr =>
      rw [verdict] at naks
      simp [writeIpv4Option] at naks
  | reject =>
      have listed : opt ∈ opts.filter fun opt => judge addrs opt = .reject := by
        simp [member, verdict]
      simpa [ConfigOption.encode, writeOption] using rejects listed

/-- A Configure-Request is good exactly when it is well formed and asks for
nothing but what was granted. -/
theorem classifyConfigureRequest_good {ipcp : IpcpServer} {opts : Bytes}
    (good : (ipcp.classifyConfigureRequest opts).1 = .rcvConfigReqGood) :
    hasMalformed (configOptions opts) = false ∧
      ∀ opt ∈ leadingOptions (configOptions opts), judge ipcp.addrs opt = .accept := by
  simp only [classifyConfigureRequest, classifyOptions_eq, List.nil_append] at good
  by_cases malformed : hasMalformed (configOptions opts) = true
  · simp [malformed] at good
  · simp only [malformed, Bool.false_eq_true, if_false] at good
    split_ifs at good with noReject noNak
    exact ⟨by simpa using malformed, fun opt member =>
      judge_eq_accept (not_not.mp noNak) (not_not.mp noReject) member⟩

/-- An option that asks for exactly what was granted. -/
def Grants (addrs : AssignedAddrs) (opt : ConfigOption) : Prop :=
  ∃ option addr, IpcpOptionId.fromU8 opt.optionType = some option ∧
    grantedFor addrs option = some addr ∧ opt.value = addr.toList

theorem grants_of_judge_eq_accept {addrs : AssignedAddrs} {opt : ConfigOption}
    (accepted : judge addrs opt = .accept) : Grants addrs opt := by
  unfold judge at accepted
  split at accepted
  · rename_i addr granted
    obtain ⟨option, known, grantedFor⟩ := Option.bind_eq_some_iff.mp granted
    split_ifs at accepted with same
    exact ⟨option, addr, known, grantedFor, same⟩
  · cases accepted

/-- Only a Configure-Request for what was granted is good, and its options are
the ones cached for the Ack. -/
theorem eventOf_good {ipcp : IpcpServer} {packet : LcpPacket}
    (good : (ipcp.eventOf packet).1 = .rcvConfigReqGood) :
    (ipcp.eventOf packet).2.lastCrOptions = packet.data ∧
      ∀ item ∈ configOptions packet.data, ∃ opt, item = .ok opt ∧ Grants ipcp.addrs opt := by
  constructor
  · have heard := ipcp.heard_eventOf packet
    generalize ipcp.eventOf packet = out at heard good ⊢
    cases heard with
    | request => rfl
    | _ => cases good
  · unfold eventOf at good
    split at good
    · obtain ⟨wellFormed, accepted⟩ := classifyConfigureRequest_good good
      intro item member
      obtain ⟨opt, listed, rfl⟩ := exists_mem_leadingOptions wellFormed member
      exact ⟨opt, rfl, grants_of_judge_eq_accept (accepted opt listed)⟩
    all_goals cases good

end IpcpServer

end SstpServer.Ppp
