import Powerlink.Cn.Node

/-! # The supervision of a controlled node

The fields of the context with which a node watches the bus: the NMT state, the state and the
error counters of the data link layer, the heartbeats, the SoC timeout and the history.  SDO
traffic, process data, the flags of a SoA and the answers of the node leave them as they are; only
the NMT events, the errors, a SoC, a PRes and the timeouts themselves reach them.

SDO traffic does not even leave the core. -/

namespace Powerlink

/-- The fields with which a node watches the bus. -/
structure Supervision where
  machine : CnNmtStateMachine
  dll : DllCsStateMachine
  errors : CnErrorCounters
  consumers : SortedMap NodeId (ℕ × ℕ)
  lastSocUs : ℕ
  checksSoc : Bool
  nextTickUs : Option ℕ
  history : List CnEvent

namespace CnContext

variable {σ : Type}

/-- The supervision of a context. -/
def supervision (c : CnContext σ) : Supervision where
  machine := c.nmtStateMachine
  dll := c.dllStateMachine
  errors := c.dllErrorManager
  consumers := c.heartbeatConsumers
  lastSocUs := c.lastSocReceptionTimeUs
  checksSoc := c.socTimeoutCheckActive
  nextTickUs := c.nextTickUs
  history := c.history

/-! ### Received frames -/

theorem supervision_receiveFlags (c : CnContext σ) (frame : PowerlinkFrame) :
    (c.receiveFlags frame).supervision = c.supervision := by
  cases frame with
  | soA soa =>
      dsimp only [receiveFlags]
      split_ifs
      · rfl
      · rfl
      · rfl
  | _ => rfl

theorem supervision_receiveNmtEvent (c : CnContext σ) (frame : PowerlinkFrame) :
    (c.receiveNmtEvent frame).2.supervision = c.supervision := by
  have hname : ∀ payload, (c.setHostName payload).supervision = c.supervision := by
    intro payload
    dsimp only [setHostName]
    split_ifs
    · rfl
    · split
      · rfl
      · rfl
  cases frame with
  | aSnd asnd =>
      dsimp only [receiveNmtEvent]
      split_ifs
      · unfold receiveNmtCommand
        split
        · rfl
        · split
          · rfl
          · split
            · exact hname _
            · rfl
      · rfl
  | _ => rfl

/-- The report of an error, after it was counted. -/
theorem supervision_signalError (c : CnContext σ) (error : DllError) (timeUs : ℕ) :
    (c.signalError error timeUs).supervision = c.supervision := by
  unfold signalError queueEmergency countStaticChange
  dsimp only
  split_ifs
  · rfl
  · rfl
  · rfl
  · rfl

/-! ### Answers -/

theorem supervision_toggleExceptionFlag (c : CnContext σ) :
    c.toggleExceptionFlag.supervision = c.supervision := by
  unfold toggleExceptionFlag
  split_ifs
  · rfl
  · rfl

theorem supervision_answerSoa (c : CnContext σ) (soa : SoAFrame) :
    (c.answerSoa soa).2.supervision = c.supervision := by
  unfold answerSoa
  split
  · rfl
  · dsimp only [buildStatusResponse]
    split_ifs
    · rfl
    · rfl
  · split
    · rfl
    · rfl
  · split
    · rfl
    · rfl
  · rfl

theorem supervision_answer {c d : CnContext σ} {frame : PowerlinkFrame}
    {response : Option PowerlinkFrame} (h : c.answer frame = some (response, d)) :
    d.supervision = c.supervision := by
  unfold answer at h
  split_ifs at h
  · cases frame with
    | soA soa =>
        dsimp only at h
        split_ifs at h
        · rw [← c.supervision_answerSoa soa, Option.some.inj h]
        · rw [← (Prod.mk.inj (Option.some.inj h)).2]
    | pReq preq =>
        dsimp only at h
        split_ifs at h
        · obtain ⟨⟨frame', e⟩, he, h⟩ := Option.bind_eq_some_iff.mp h
          obtain ⟨-, rfl⟩ := Prod.mk.inj (Option.some.inj h)
          obtain ⟨⟨tpdo, core⟩, -, he⟩ := Option.bind_eq_some_iff.mp he
          obtain ⟨-, rfl⟩ := Prod.mk.inj (Option.some.inj he)
          rfl
        · rw [← (Prod.mk.inj (Option.some.inj h)).2]
    | _ => rw [← (Prod.mk.inj (Option.some.inj h)).2]
  · rw [← (Prod.mk.inj (Option.some.inj h)).2]

variable [ObjectDictionaryStorage σ]

theorem supervision_receivePdo {c d : CnContext σ} {frame : PowerlinkFrame}
    (h : c.receivePdo frame = some d) : d.supervision = c.supervision := by
  have hconsume : ∀ {source payload version ready},
      c.consumePdo source payload version ready = some d → d.supervision = c.supervision := by
    intro source payload version ready hd
    obtain ⟨r, -, hr⟩ := Option.bind_eq_some_iff.mp hd
    rw [← Option.some.inj hr]
    rfl
  cases frame with
  | pReq preq =>
      dsimp only [receivePdo] at h
      split_ifs at h
      · exact hconsume h
      · rw [Option.some.inj h]
  | pRes pres => exact hconsume h
  | _ => rw [Option.some.inj h]

/-- All that follows the errors of a frame. -/
theorem supervision_respondFrame {c d : CnContext σ} {frame : PowerlinkFrame}
    {action : NodeAction} (h : c.respondFrame frame = some (action, d)) :
    d.supervision = c.supervision := by
  obtain ⟨e, hpdo, h⟩ := Option.bind_eq_some_iff.mp h
  obtain ⟨⟨response, f⟩, hanswer, h⟩ := Option.bind_eq_some_iff.mp h
  obtain ⟨-, rfl⟩ := Prod.mk.inj (Option.some.inj h)
  rw [supervision_answer hanswer, supervision_toggleExceptionFlag, supervision_receivePdo hpdo]

/-! ### SDO traffic -/

theorem receiveSdo_core (c : CnContext σ) (frame : ASndFrame) (timeUs : ℕ) :
    ∃ core, (c.receiveSdo frame timeUs).2 = { c with core := core } := by
  dsimp only [receiveSdo]
  split
  · exact ⟨_, rfl⟩
  · split
    · exact ⟨_, rfl⟩
    · exact ⟨_, rfl⟩

theorem processUdpDatagram_core (c : CnContext σ) (buffer : List UInt8) (ip : IpAddress)
    (port : UInt16) (timeUs : ℕ) :
    ∃ core, (c.processUdpDatagram buffer ip port timeUs).2 = { c with core := core } := by
  unfold processUdpDatagram
  split
  · exact ⟨c.core, rfl⟩
  · dsimp only
    split
    · exact ⟨_, rfl⟩
    · split
      · exact ⟨_, rfl⟩
      · exact ⟨_, rfl⟩

theorem receiveUdp_core (c : CnContext σ) (input : CycleInput) :
    ∃ core, (c.receiveUdp input).2 = { c with core := core } := by
  unfold receiveUdp
  split
  · exact ⟨c.core, rfl⟩
  · rename_i buffer ip port _
    obtain ⟨core, hcore⟩ := c.processUdpDatagram_core buffer ip port input.currentTimeUs
    split
    · rename_i hdatagram
      rw [hdatagram] at hcore
      dsimp only at hcore ⊢
      rw [hcore]
      exact ⟨_, rfl⟩
    · rename_i hdatagram
      rw [hdatagram] at hcore
      exact ⟨core, hcore⟩

omit [ObjectDictionaryStorage σ] in
theorem tickSdoServer_core (c : CnContext σ) (timeUs : ℕ) :
    ∃ core, (c.tickSdoServer timeUs).2 = { c with core := core } := by
  dsimp only [tickSdoServer]
  split
  · split
    · exact ⟨_, rfl⟩
    · exact ⟨_, rfl⟩
  · exact ⟨_, rfl⟩

end CnContext

end Powerlink
