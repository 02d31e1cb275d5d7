import Powerlink.Frame.Dll

/-! # The data link layer of a controlled node

The cycle state machine DLL_CS (`frame/cs_state_machine.rs`), the codes of the errors it reports
and the error counters of a controlled node (`frame/error`).  Every counted error has the same
threshold; reaching it resets the communication of the node. -/

namespace Powerlink

/-- `DllCsState`. -/
inductive DllCsState where
  | nonCyclic
  | waitSoc
  | waitPreq
  | waitSoa
deriving DecidableEq, Repr

/-- `DllCsEvent`. -/
inductive DllCsEvent where
  | soc
  | preq
  | pres
  | soa
  | asnd
  | socTimeout
deriving DecidableEq, Repr

/-- `DllCsStateMachine`, with the value of `Default`. -/
structure DllCsStateMachine where
  state : DllCsState := .nonCyclic
deriving DecidableEq, Repr

namespace DllCsStateMachine

/-- The cycle, in the NMT states that have one. -/
def cyclic (state : DllCsState) (event : DllCsEvent) : List DllError × DllCsState :=
  match state, event with
  | .waitPreq, .preq => ([], .waitSoa)
  | .waitSoa, .soa => ([], .waitSoc)
  | .waitSoa, .preq => ([.lossOfSoc, .lossOfSoa], .waitSoc)
  | .waitSoa, .socTimeout => ([.lossOfSoc, .lossOfSoa], .waitSoc)
  | .waitSoc, .asnd => ([], .waitSoc)
  | .waitSoc, .preq => ([.lossOfSoc], .waitSoc)
  | .waitSoc, .pres => ([.lossOfSoc], .waitSoc)
  | .waitSoc, .soa => ([.lossOfSoc], .waitSoc)
  | .waitSoc, .socTimeout => ([.lossOfSoc], .waitSoc)
  | .waitPreq, .pres => ([], .waitPreq)
  | .waitPreq, .asnd => ([.lossOfSoa], .waitPreq)
  | .waitPreq, .soc => ([.lossOfSoa], .waitPreq)
  | .waitPreq, .soa => ([.lossOfPreq], .waitSoc)
  | .waitPreq, .socTimeout => ([.lossOfSoc, .lossOfSoa], .waitSoc)
  | .waitSoa, .soc => ([.lossOfSoa], .waitPreq)
  | .waitSoa, .pres => ([], .waitSoa)
  | .waitSoa, .asnd => ([.lossOfSoa], .waitSoa)
  | _, .soc => ([], .waitPreq)
  | current, event =>
      ([.unexpectedEventInState (UInt8.ofNat current.ctorIdx) (UInt8.ofNat event.ctorIdx)], current)

/-- `DllCsStateMachine::process_event`. -/
def processEvent (machine : DllCsStateMachine) (event : DllCsEvent) (nmtState : NmtState) :
    List DllError × DllCsStateMachine :=
  match nmtState with
  | .nmtPreOperational2 | .nmtReadyToOperate | .nmtOperational | .nmtCsStopped =>
      let r := cyclic machine.state event
      (r.1, ⟨r.2⟩)
  | _ => ([], ⟨.nonCyclic⟩)

end DllCsStateMachine

/-- `DllError::to_error_code`. -/
def DllError.toErrorCode : DllError → UInt16
  | lossOfLink => 0x8165
  | badPhysicalMode => 0x8161
  | macBuffer => 0x8166
  | crc => 0x8164
  | collision => 0x8163
  | invalidFormat => 0x8241
  | lossOfSoc => 0x8245
  | lossOfSoa => 0x8244
  | lossOfPreq => 0x8242
  | lossOfPres _ => 0x8243
  | lossOfStatusRes _ => 0x8246
  | cycleTimeExceeded => 0x8233
  | latePres _ => 0x8236
  | soCJitter => 0x8235
  | pdoMapVersion _ => 0x8211
  | pdoPayloadShort _ => 0x8210
  | heartbeatTimeout _ => 0x8250
  | _ => 0x8000

/-! ### Error counters -/

namespace ThresholdCounter

/-- `ThresholdCounter::decrement`. -/
def decrement (c : ThresholdCounter) : ThresholdCounter :=
  { c with thresholdCnt := c.thresholdCnt - 1 }

/-- `ThresholdCounter::is_active`. -/
def isActive (c : ThresholdCounter) : Bool := decide (0 < c.thresholdCnt)

end ThresholdCounter

/-- `CnErrorCounters`, with the values of `CnErrorCounters::new`. -/
structure CnErrorCounters where
  collision : ThresholdCounter := .new 15
  lossOfSoc : ThresholdCounter := .new 15
  lossOfSoa : ThresholdCounter := .new 15
  lossOfPreq : ThresholdCounter := .new 15
  socJitter : ThresholdCounter := .new 15
  crcErrors : ThresholdCounter := .new 15
  heartbeatTimeout : ThresholdCounter := .new 15
  lossOfLinkCumulative : ℕ := 0
deriving DecidableEq, Repr

namespace CnErrorCounters

/-- `CnErrorCounters::is_any_active`. -/
def isAnyActive (c : CnErrorCounters) : Bool :=
  c.lossOfSoc.isActive || c.lossOfSoa.isActive || c.lossOfPreq.isActive || c.crcErrors.isActive ||
    c.collision.isActive || c.socJitter.isActive || c.heartbeatTimeout.isActive

/-- `CnErrorCounters::on_cycle_complete`: whether the last active error was just cleared, and the
new counters. -/
def onCycleComplete (c : CnErrorCounters) : Bool × CnErrorCounters :=
  let d := { c with
    lossOfSoc := c.lossOfSoc.decrement
    lossOfSoa := c.lossOfSoa.decrement
    lossOfPreq := c.lossOfPreq.decrement
    crcErrors := c.crcErrors.decrement
    collision := c.collision.decrement
    socJitter := c.socJitter.decrement
    heartbeatTimeout := c.heartbeatTimeout.decrement }
  (c.isAnyActive && !d.isAnyActive, d)

/-- The action for a counted error. -/
def thresholdAction (reached : Bool) : NmtAction := if reached then .resetCommunication else .none

/-- `CnErrorCounters::handle_error`: the NMT action, whether the error is signalled, and the new
counters. -/
def handleError (c : CnErrorCounters) (error : DllError) : NmtAction × Bool × CnErrorCounters :=
  match error with
  | .lossOfSoc =>
      let r := c.lossOfSoc.increment.checkAndReset
      (thresholdAction r.1, r.1, { c with lossOfSoc := r.2 })
  | .lossOfSoa =>
      let r := c.lossOfSoa.increment.checkAndReset
      (thresholdAction r.1, r.1, { c with lossOfSoa := r.2 })
  | .lossOfPreq =>
      let r := c.lossOfPreq.increment.checkAndReset
      (thresholdAction r.1, r.1, { c with lossOfPreq := r.2 })
  | .crc =>
      let r := c.crcErrors.increment.checkAndReset
      (thresholdAction r.1, r.1, { c with crcErrors := r.2 })
  | .collision =>
      let r := c.collision.increment.checkAndReset
      (thresholdAction r.1, r.1, { c with collision := r.2 })
  | .soCJitter =>
      let r := c.socJitter.increment.checkAndReset
      (thresholdAction r.1, r.1, { c with socJitter := r.2 })
  | .heartbeatTimeout _ =>
      let r := c.heartbeatTimeout.increment.checkAndReset
      (thresholdAction r.1, r.1, { c with heartbeatTimeout := r.2 })
  | .lossOfLink =>
      (.none, true, { c with lossOfLinkCumulative := min (c.lossOfLinkCumulative + 1) 0xFFFFFFFF })
  | .pdoMapVersion _ | .pdoPayloadShort _ => (.none, true, c)
  | _ => (.none, false, c)

end CnErrorCounters

end Powerlink
