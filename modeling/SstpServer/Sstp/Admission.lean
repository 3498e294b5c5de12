import SstpServer.Sstp.CallConnected

/-!
# Admission by a call of the machine

A call into the machine connects a pending call and reports it as established, or does
neither.  The first happens only for a Call-Connected that passes the binding check,
whose MAC is then that of the packet under the HLAK of the machine.
-/

namespace SstpServer.Sstp

open SstpServer.Wire

/-- The Call-Connected passes the binding check of a pending call. -/
structure Admits (crypto : Crypto) (ssm : StateMachine) (binding : CryptoBinding)
    (packet : Bytes) : Prop where
  pending : ssm.state = .serverCallConnectedPending
  valid : ∃ exchange, ssm.binding = some exchange ∧ verify crypto binding exchange packet = .ok

namespace StateMachine

variable {crypto : Crypto} {ssm : StateMachine} {binding : CryptoBinding} {packet : Bytes}

theorem run_of_admits (admits : Admits crypto ssm binding packet) :
    ssm.run crypto (.callConnected binding packet) = ssm.advanceToConnected := by
  obtain ⟨exchange, bound, accepted⟩ := admits.valid
  simp [run, verifyCallConnected, admits.pending, applyBinding, bound, accepted]

/-- An admitted call carries the MAC of its packet under the HLAK of the machine. -/
theorem mac_of_admits (admits : Admits crypto ssm binding packet) :
    ∃ protocol, binding.hashProtocol = protocol.asU8 ∧
      crypto.compoundMac ssm.hlak packet protocol =
        binding.compoundMacBlock.toList.take protocol.hashLen := by
  obtain ⟨exchange, bound, accepted⟩ := admits.valid
  obtain ⟨protocol, valid⟩ := verify_eq_ok_iff.mp accepted
  refine ⟨protocol, valid.protocolEq, ?_⟩
  rw [hlak, bound]
  exact valid.macEq

/-- A Call-Connected comes with its packet. -/
def Call.hasPacket : Call → Prop
  | .message (.callConnected _) _ => False
  | _ => True

/-- A call that is not an admitted Call-Connected neither reports the call as established
nor connects it. -/
theorem run_of_not_admits {call : Call} (hasPacket : call.hasPacket)
    (refused : ∀ binding packet, call = .callConnected binding packet →
      ¬Admits crypto ssm binding packet) :
    (ssm.run crypto call).1.notify ≠ some .sstpEstablished ∧
      ((ssm.run crypto call).2.state = .serverCallConnected →
        ssm.state = .serverCallConnected) := by
  cases call with
  | callConnected binding packet =>
      have refuse := refused binding packet rfl
      simp only [run, verifyCallConnected, applyBinding]
      split_ifs with other
      · simp [startAbort, transition]
      · split
        · simp [startAbort, transition]
        · rename_i exchange bound
          split
          · rename_i accepted
            exact (refuse ⟨not_not.mp other, exchange, bound, accepted⟩).elim
          · simp [startAbort, transition]
          · simp [startAbort, transition]
  | message message nonce =>
      cases message with
      | callConnected => exact hasPacket.elim
      | callConnectRequest protocolId =>
          simp only [run, onMessage, onCallConnectRequest]
          split_ifs <;> simp [startAbort, transition]
      | callDisconnect =>
          simp only [run, onMessage, onCallDisconnect]
          split <;> simp [transition]
      | callDisconnectAck =>
          simp only [run, onMessage, onCallDisconnectAck]
          split <;> simp [startAbort, transition]
      | callAbort =>
          simp only [run, onMessage, onCallAbort]
          split <;> simp [transition]
      | echoRequest =>
          simp only [run, onMessage, onEchoRequest]
          split <;> simp [startAbort, transition]
      | echoResponse =>
          simp only [run, onMessage, onEchoResponse]
          split <;> simp [startAbort, transition]
      | other => simp [run, onMessage, startAbort, transition]
  | httpsAccepted => simp [run, onHttpsAccepted, transition]
  | dataPacket =>
      simp only [run, onDataPacket]
      split_ifs <;> simp
  | innerAuthCompleted hlak => simp [run, onInnerAuthCompleted]
  | higherLayerDisconnect => simp [run, onHigherLayerDisconnect, transition]
  | helloTimeout => simp [run, onHelloTimeoutNoResponse]
  | timer timer =>
      cases timer <;> simp only [run, onTimer, onHelloExpired]
      case hello => split_ifs <;> simp
      all_goals simp [startAbort, transition]

end StateMachine

end SstpServer.Sstp
