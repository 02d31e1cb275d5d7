import Powerlink.Cn.ErrorBit

/-! # Telegram counters

The receive counters of `NMTTelegrCount_REC` (`0x1101`): one for each class of received telegrams.
`move_received` is what a step of the node does to them.  A frame is counted where it is sorted, an
SDO frame there and once more by the look of `process_ethernet_frame` at the raw octets; everything
else that the node does of itself leaves the counters as they are.

SDO requests, process data and the resets of the NMT can write the object too; `KeepsReceived` is
for the steps that do not. -/

namespace Powerlink

/-- The classes of received telegrams. -/
inductive TelegramClass where
  | soc
  | isochronous
  | asynchronous
  | sdo
deriving DecidableEq, Repr

instance : Fintype TelegramClass where
  elems := {.soc, .isochronous, .asynchronous, .sdo}
  complete k := by
    cases k with
    | soc | isochronous | asynchronous | sdo => decide

/-- The sub-index of the counter of a class. -/
def TelegramClass.subIndex : TelegramClass → UInt8
  | soc => 1
  | isochronous => 2
  | asynchronous => 4
  | sdo => 6

/-- The class of a frame for a node. -/
def telegramClass (nodeId : NodeId) : PowerlinkFrame → Option TelegramClass
  | .soc _ => some .soc
  | .pReq _ | .pRes _ => some .isochronous
  | .soA _ => some .asynchronous
  | .aSnd asnd =>
      if asnd.destination = nodeId then
        if asnd.serviceId = .sdo then some .sdo else some .asynchronous
      else none

/-! ### The counters in the dictionary -/

/-- The counter at a sub-index of a record. -/
def Object.counter : Object → UInt8 → Option UInt32
  | .record values, subIndex =>
      match values[subIndex.toNat - 1]? with
      | some (.unsigned32 v) => some v
      | _ => none
  | _, _ => none

/-- The receive counters. -/
abbrev ReceiveCounters := TelegramClass → Option UInt32

/-- The counters after a telegram. -/
def ReceiveCounters.counted (v : ReceiveCounters) (counts : Option TelegramClass) :
    ReceiveCounters :=
  fun k => if some k = counts then (v k).map (· + 1) else v k

theorem ReceiveCounters.counted_none (v : ReceiveCounters) : v.counted none = v := by
  funext k
  exact if_neg nofun

theorem ReceiveCounters.counted_apply (v : ReceiveCounters) (counts : Option TelegramClass)
    (k : TelegramClass) :
    v.counted counts k = (v k).map (· + UInt32.ofNat (if some k = counts then 1 else 0)) := by
  unfold counted
  split_ifs
  · rfl
  · have hzero : UInt32.ofNat 0 = 0 := rfl
    simp only [hzero, UInt32.add_zero, Option.map_id']

namespace ObjectDictionary

variable {σ : Type}

theorem readObject_incrementCounter (od : ObjectDictionary σ) (index : UInt16) (subIndex : UInt8) :
    (od.incrementCounter index subIndex).readObject index =
      (od.readObject index).map (incrementObject subIndex) := by
  unfold readObject incrementCounter
  dsimp only
  rw [SortedMap.get?_modify, if_pos rfl, Option.map_map, Option.map_map]
  rfl

/-- A count of a sub-index above zero. -/
theorem counter_incrementObject (object : Object) {subIndex subIndex' : UInt8}
    (h : subIndex ≠ 0) (h' : subIndex' ≠ 0) :
    (incrementObject subIndex object).counter subIndex' =
      if subIndex' = subIndex then (object.counter subIndex').map (· + 1)
      else object.counter subIndex' := by
  rcases object with v | values | values
  · cases v with
    | unsigned32 v =>
        dsimp only [incrementObject]
        rw [if_neg h]
        exact (ite_self _).symm
    | _ => exact (ite_self _).symm
  · exact (ite_self _).symm
  · dsimp only [incrementObject]
    rw [if_neg h]
    by_cases hsame : subIndex' = subIndex
    · subst hsame
      rw [if_pos rfl]
      unfold Object.counter
      rcases hvalue : values[subIndex'.toNat - 1]? with _ | value
      · dsimp only
        rw [hvalue]
        rfl
      · have hlt : subIndex'.toNat - 1 < values.length := (List.getElem?_eq_some_iff.mp hvalue).1
        cases value with
        | unsigned32 v =>
            dsimp only
            rw [List.getElem?_set_self hlt, hvalue]
            rfl
        | _ =>
            dsimp only
            rw [hvalue]
            rfl
    · have hpositive : ∀ s : UInt8, s ≠ 0 → 0 < s.toNat :=
        fun s hs => Nat.pos_of_ne_zero fun hzero => hs (UInt8.toNat_inj.mp hzero)
      have hposition : subIndex.toNat - 1 ≠ subIndex'.toNat - 1 := by
        have hfirst := hpositive subIndex h
        have hsecond := hpositive subIndex' h'
        intro heq
        exact hsame (UInt8.toNat_inj.mp (by omega))
      rw [if_neg hsame]
      split
      · unfold Object.counter
        dsimp only
        rw [List.getElem?_set_ne hposition]
      · rfl

end ObjectDictionary

namespace CnContext

variable {σ : Type}

/-- The receive counters of a node. -/
def received (c : CnContext σ) : ReceiveCounters :=
  fun k => (c.core.od.readObject 0x1101).bind fun object => object.counter k.subIndex

theorem received_congr {c d : CnContext σ}
    (h : d.core.od.readObject 0x1101 = c.core.od.readObject 0x1101) : d.received = c.received := by
  unfold received
  rw [h]

theorem received_count (c : CnContext σ) {subIndex : UInt8} (h : subIndex ≠ 0)
    (k : TelegramClass) :
    (c.count subIndex).received k =
      if k.subIndex = subIndex then (c.received k).map (· + 1) else c.received k := by
  have hk : k.subIndex ≠ 0 := by
    cases k with
    | soc | isochronous | asynchronous | sdo => decide
  have hobject : (c.count subIndex).core.od.readObject 0x1101 =
      (c.core.od.readObject 0x1101).map (ObjectDictionary.incrementObject subIndex) :=
    c.core.od.readObject_incrementCounter 0x1101 subIndex
  unfold received
  rw [hobject]
  cases c.core.od.readObject 0x1101 with
  | none => exact (ite_self _).symm
  | some object => exact ObjectDictionary.counter_incrementObject object h hk

/-- The count of a received telegram. -/
theorem received_count_class (c : CnContext σ) (k : TelegramClass) :
    (c.count k.subIndex).received = c.received.counted (some k) := by
  have hinjective : ∀ a b : TelegramClass, a.subIndex = b.subIndex ↔ some a = some b := by
    intro a b
    cases a with
    | soc | isochronous | asynchronous | sdo =>
        cases b with
        | soc | isochronous | asynchronous | sdo => decide
  funext k'
  rw [received_count _ (by cases k with | soc | isochronous | asynchronous | sdo => decide)]
  exact if_congr (hinjective k' k) rfl rfl

/-- The other telegram counters. -/
theorem received_count_other (c : CnContext σ) {subIndex : UInt8} (h : subIndex ≠ 0)
    (hother : ∀ k : TelegramClass, k.subIndex ≠ subIndex) :
    (c.count subIndex).received = c.received := by
  funext k
  rw [received_count _ h, if_neg (hother k)]

theorem received_countError (c : CnContext σ) (subIndex : UInt8) :
    (c.countError subIndex).received = c.received :=
  received_congr (c.core.od.readObject_modify (by decide) _)

theorem received_writeErrorRegister (c : CnContext σ) (value : UInt8) :
    (c.writeErrorRegister value).received = c.received :=
  received_congr (c.core.od.readObject_writeInternal (by decide) _ _ _)

/-! ### Up to the NMT event -/

/-- A SoC is counted before the end of its cycle. -/
theorem received_receiveSoc (c : CnContext σ) (timeUs : ℕ) :
    (c.receiveSoc timeUs).received = c.received.counted (some .soc) := by
  have hschedule : ∀ e : CnContext σ, (e.scheduleSocCheck timeUs).received = e.received := by
    intro e
    unfold scheduleSocCheck
    split
    · rfl
    · dsimp only
      split_ifs
      · split
        · split_ifs
          · rfl
          · rfl
        · rfl
      · rfl
  have hcomplete : ∀ e : CnContext σ, e.completeCycle.received = e.received := by
    intro e
    dsimp only [completeCycle]
    split_ifs
    · rw [received_countError]
      exact received_writeErrorRegister { e with dllErrorManager := _ } _
    · rfl
  dsimp only [receiveSoc]
  rw [hschedule, hcomplete]
  exact received_count_class { c.record (.socReceived timeUs c.nextTickUs) with
    lastSocReceptionTimeUs := timeUs, socTimeoutCheckActive := true } .soc

/-- The class of a frame that is not an ASnd; the others are counted before. -/
def acceptedClass : PowerlinkFrame → Option TelegramClass
  | .soc _ => some .soc
  | .pReq _ | .pRes _ => some .isochronous
  | .soA _ => some .asynchronous
  | .aSnd _ => none

/-- The counts of an accepted frame. -/
def countAccepted (c : CnContext σ) (frame : PowerlinkFrame) (timeUs : ℕ) : CnContext σ :=
  (c.receiveCycleStart frame timeUs).countReceived frame timeUs

theorem received_countAccepted (c : CnContext σ) (frame : PowerlinkFrame) (timeUs : ℕ) :
    (c.countAccepted frame timeUs).received = c.received.counted (acceptedClass frame) := by
  cases frame with
  | soc soc => exact c.received_receiveSoc timeUs
  | pReq preq => exact c.received_count_class .isochronous
  | pRes pres => exact c.received_count_class .isochronous
  | soA soa =>
      have hcount := c.received_count_class .asynchronous
      dsimp only [countAccepted, receiveCycleStart, countReceived]
      split_ifs
      · exact (received_count_other _ (by decide) (by decide)).trans hcount
      · exact hcount
  | aSnd asnd => exact c.received.counted_none.symm

theorem received_receiveFlags (c : CnContext σ) (frame : PowerlinkFrame) :
    (c.receiveFlags frame).received = c.received := by
  cases frame with
  | soA soa =>
      dsimp only [receiveFlags]
      split_ifs
      · exact received_countError { c with enFlag := false, emergencyQueue := [] } 6
      · rfl
      · rfl
  | _ => rfl

theorem received_receiveNmtEvent (c : CnContext σ) (frame : PowerlinkFrame) :
    (c.receiveNmtEvent frame).2.received = c.received := by
  have hname : ∀ payload, (c.setHostName payload).received = c.received := by
    intro payload
    dsimp only [setHostName]
    split_ifs
    · rfl
    · split
      · rfl
      · exact received_congr (c.core.od.readObject_writeInternal (by decide) _ _ _)
  cases frame with
  | aSnd asnd =>
      dsimp only [receiveNmtEvent]
      split_ifs
      · unfold receiveNmtCommand
        split
        · rfl
        · split
          · rfl
          · split
            · exact hname _
            · rfl
      · rfl
  | _ => rfl

/-! ### Errors -/

section errors

variable [ObjectDictionaryStorage σ]

/-- An event that is not a reset only writes the current state. -/
theorem received_processNmtEvent (c : CnContext σ) {event : NmtEvent}
    (h : MnNmtStateMachine.isReset event = false) :
    (c.processNmtEvent event).received = c.received := by
  apply received_congr
  dsimp only [processNmtEvent, CnNmtStateMachine.processEvent]
  rw [h, if_neg Bool.false_ne_true]
  split_ifs
  · exact c.core.od.readObject_writeInternal (by decide) _ _ _
  · rfl

/-- A frame that does not reset the node changes the counters only by its counts. -/
theorem received_receiveFrame (c : CnContext σ) (frame : PowerlinkFrame) (timeUs : ℕ)
    (h : ∀ event ∈ (((c.countAccepted frame timeUs).receiveFlags frame).receiveNmtEvent frame).1,
      MnNmtStateMachine.isReset event = false) :
    (c.receiveFrame frame timeUs).received = (c.countAccepted frame timeUs).received := by
  rw [← received_receiveFlags (c.countAccepted frame timeUs) frame,
    ← received_receiveNmtEvent ((c.countAccepted frame timeUs).receiveFlags frame) frame]
  unfold receiveFrame
  dsimp only
  unfold countAccepted at h ⊢
  generalize (((c.receiveCycleStart frame timeUs).countReceived frame timeUs).receiveFlags
    frame).receiveNmtEvent frame = r at h ⊢
  obtain ⟨event, d⟩ := r
  cases event with
  | none => rfl
  | some event => exact d.received_processNmtEvent (h event rfl)

omit [ObjectDictionaryStorage σ] in
theorem received_signalError (c : CnContext σ) (error : DllError) (timeUs : ℕ) :
    (c.signalError error timeUs).received = c.received := by
  have hchange : ∀ e : CnContext σ, e.countStaticChange.received = e.received := by
    intro e
    unfold countStaticChange
    split_ifs
    · exact e.received_countError 5
    · rfl
  have hqueue : ∀ (e : CnContext σ) (entry : ErrorEntry),
      (e.queueEmergency entry).received = e.received := by
    intro e entry
    unfold queueEmergency
    split_ifs
    · rw [received_countError]
      exact received_congr (e.core.od.readObject_modify (by decide) _)
    · exact e.received_countError 3
  unfold signalError
  dsimp only
  rw [hqueue, received_writeErrorRegister, hchange]
  rfl

theorem received_resetAfterError (c : CnContext σ) : c.resetAfterError.received = c.received :=
  c.received_processNmtEvent rfl

theorem received_handleDllError {c d : CnContext σ} {error : DllError} {timeUs : ℕ} {stop : Bool}
    (h : c.handleDllError error timeUs = (stop, d)) : d.received = c.received := by
  have hcounted : ∀ manager : CnErrorCounters,
      received { c.countError 1 with dllErrorManager := manager } = c.received :=
    fun _ => c.received_countError 1
  dsimp only [handleDllError] at h
  split_ifs at h
  · obtain ⟨-, rfl⟩ := Prod.mk.inj h
    rw [received_resetAfterError, received_signalError]
    exact hcounted _
  · obtain ⟨-, rfl⟩ := Prod.mk.inj h
    rw [received_resetAfterError]
    exact hcounted _
  · obtain ⟨-, rfl⟩ := Prod.mk.inj h
    rw [received_signalError]
    exact hcounted _
  · obtain ⟨-, rfl⟩ := Prod.mk.inj h
    exact hcounted _

theorem received_handleDllErrors {timeUs : ℕ} {stop : Bool} : ∀ {errors : List DllError}
    {c d : CnContext σ}, c.handleDllErrors errors timeUs = (stop, d) → d.received = c.received
  | [], c, d, h => by
      obtain ⟨-, rfl⟩ := Prod.mk.inj h
      rfl
  | error :: errors, c, d, h => by
      rw [handleDllErrors] at h
      split at h
      · rename_i e he
        obtain ⟨-, rfl⟩ := Prod.mk.inj h
        exact received_handleDllError he
      · rename_i e he
        exact (received_handleDllErrors h).trans (received_handleDllError he)

/-! ### The tick -/

theorem received_handleHeartbeatTimeout {c d : CnContext σ} {nodeId : NodeId} {timeUs : ℕ}
    {stop : Bool} (h : c.handleHeartbeatTimeout nodeId timeUs = (stop, d)) :
    d.received = c.received := by
  dsimp only [handleHeartbeatTimeout] at h
  split_ifs at h
  all_goals obtain ⟨-, rfl⟩ := Prod.mk.inj h
  · rw [received_resetAfterError, received_writeErrorRegister, received_countError]
    rfl
  · rw [received_resetAfterError]
    rfl
  · rw [received_resetAfterError]
    rfl
  · rw [received_writeErrorRegister, received_countError]
    rfl
  · rfl
  · rfl

theorem received_handleHeartbeatTimeouts {timeUs : ℕ} {stop : Bool} : ∀ {nodeIds : List NodeId}
    {c d : CnContext σ}, c.handleHeartbeatTimeouts nodeIds timeUs = (stop, d) →
    d.received = c.received
  | [], c, d, h => by
      obtain ⟨-, rfl⟩ := Prod.mk.inj h
      rfl
  | nodeId :: nodeIds, c, d, h => by
      rw [handleHeartbeatTimeouts] at h
      split at h
      · rename_i e he
        obtain ⟨-, rfl⟩ := Prod.mk.inj h
        exact received_handleHeartbeatTimeout he
      · rename_i e he
        exact (received_handleHeartbeatTimeouts h).trans (received_handleHeartbeatTimeout he)

theorem received_tickHeartbeats {c d : CnContext σ} {timeUs : ℕ} {stop : Bool}
    (h : c.tickHeartbeats timeUs = some (stop, d)) : d.received = c.received := by
  unfold tickHeartbeats at h
  split_ifs at h
  · split at h
    · cases h
    · have hbeaten := received_handleHeartbeatTimeouts (Option.some.inj h)
      exact hbeaten
  · obtain ⟨-, rfl⟩ := Prod.mk.inj (Option.some.inj h)
    rfl

theorem received_deliverSocTimeout {c d : CnContext σ} {state : NmtState} {timeUs : ℕ}
    (h : c.deliverSocTimeout state timeUs = some d) : d.received = c.received := by
  dsimp only [deliverSocTimeout] at h
  split at h
  · rename_i e herrors
    have he := received_handleDllErrors herrors
    rw [← Option.some.inj h]
    exact he
  · rename_i e herrors
    have he := received_handleDllErrors herrors
    split_ifs at h
    · obtain ⟨_, _, rfl⟩ := rescheduleSocCheck_frame h
      exact he
    · rw [← Option.some.inj h]
      exact he

theorem received_tickDeadline {c d : CnContext σ} {state : NmtState} {timeUs : ℕ}
    (h : c.tickDeadline state timeUs = some d) : d.received = c.received := by
  dsimp only [tickDeadline] at h
  split at h
  · split_ifs at h
    · rw [← Option.some.inj h]
      rfl
    · rw [← Option.some.inj h]
  · split_ifs at h
    · rw [← Option.some.inj h]
    · rw [← Option.some.inj h]
      exact received_processNmtEvent { c with nextTickUs := none } rfl
    · rw [← Option.some.inj h]
      rfl
    · have hdelivered := received_deliverSocTimeout h
      exact hdelivered
    · rw [← Option.some.inj h]
      rfl

omit [ObjectDictionaryStorage σ] in
theorem received_tickSdoServer (c : CnContext σ) (timeUs : ℕ) :
    (c.tickSdoServer timeUs).2.received = c.received := by
  have hserver : ∀ server,
      (count { c with core := { c.core with sdoServer := server } } 7).received = c.received :=
    fun server => received_count_other { c with core := { c.core with sdoServer := server } }
      (by decide) (by decide)
  dsimp only [tickSdoServer]
  generalize c.core.sdoServer.tick timeUs c.core.od = r
  obtain ⟨result, server⟩ := r
  split
  · dsimp only
    split
    · exact hserver _
    · exact hserver _
  · rfl

theorem received_processTick {c d : CnContext σ} {timeUs : ℕ} {action : NodeAction}
    (h : c.processTick timeUs = some (action, d)) : d.received = c.received := by
  have hserved := c.received_tickSdoServer timeUs
  unfold processTick at h
  split at h
  · rename_i sent e hserver
    obtain ⟨-, rfl⟩ := Prod.mk.inj (Option.some.inj h)
    rw [hserver] at hserved
    exact hserved
  · rename_i e hserver
    rw [hserver] at hserved
    split at h
    · cases h
    · rename_i f hbeats
      obtain ⟨-, rfl⟩ := Prod.mk.inj (Option.some.inj h)
      exact (received_tickHeartbeats hbeats).trans hserved
    · rename_i f hbeats
      obtain ⟨g, hg, h⟩ := Option.map_eq_some_iff.mp h
      obtain ⟨-, rfl⟩ := Prod.mk.inj h
      exact (received_tickDeadline hg).trans ((received_tickHeartbeats hbeats).trans hserved)

/-! ### Answers -/

omit [ObjectDictionaryStorage σ] in
theorem received_toggleExceptionFlag (c : CnContext σ) :
    c.toggleExceptionFlag.received = c.received := by
  unfold toggleExceptionFlag
  split_ifs
  · exact received_countError { c with enFlag := !c.enFlag, errorStatusChanged := false } 7
  · rfl

omit [ObjectDictionaryStorage σ] in
theorem received_answerSoa (c : CnContext σ) (soa : SoAFrame) :
    (c.answerSoa soa).2.received = c.received := by
  have htransmit : ∀ e : CnContext σ, (e.count 5).received = e.received :=
    fun e => e.received_count_other (by decide) (by decide)
  unfold answerSoa
  split
  · exact htransmit c
  · dsimp only [buildStatusResponse]
    split_ifs
    · exact htransmit c
    · exact (received_countError { c.count 5 with emergencyQueue := _ } 2).trans (htransmit c)
  · split
    · rfl
    · exact htransmit { c with pendingNmtRequests := _ }
  · split
    · rfl
    · exact received_count_other { c with sdoClient := _ } (by decide) (by decide)
  · rfl

omit [ObjectDictionaryStorage σ] in
theorem received_answer {c d : CnContext σ} {frame : PowerlinkFrame}
    {response : Option PowerlinkFrame} (h : c.answer frame = some (response, d)) :
    d.received = c.received := by
  unfold answer at h
  split_ifs at h
  · cases frame with
    | soA soa =>
        dsimp only at h
        split_ifs at h
        · rw [← c.received_answerSoa soa, Option.some.inj h]
        · rw [← (Prod.mk.inj (Option.some.inj h)).2]
    | pReq preq =>
        dsimp only at h
        split_ifs at h
        · obtain ⟨⟨frame', e⟩, he, h⟩ := Option.bind_eq_some_iff.mp h
          obtain ⟨-, rfl⟩ := Prod.mk.inj (Option.some.inj h)
          obtain ⟨⟨tpdo, core⟩, hbuild, he⟩ := Option.bind_eq_some_iff.mp he
          obtain ⟨-, rfl⟩ := Prod.mk.inj (Option.some.inj he)
          have hod : core.od = (c.count 3).core.od := buildTpdoPayload_od hbuild
          rw [← c.received_count_other (show (3 : UInt8) ≠ 0 by decide) (by decide)]
          apply received_congr
          rw [← hod]
        · rw [← (Prod.mk.inj (Option.some.inj h)).2]
    | _ => rw [← (Prod.mk.inj (Option.some.inj h)).2]
  · rw [← (Prod.mk.inj (Option.some.inj h)).2]

/-! ### Received data -/

/-- The SDO server leaves the counters as they are. -/
def sdoKeepsReceived (c : CnContext σ) (payload : List UInt8) (client : SdoClientInfo)
    (timeUs : ℕ) : Bool :=
  let r := c.core.sdoServer.handleRequest payload client c.core.od timeUs
  decide (received { c with core := { c.core with sdoServer := r.2.1, od := r.2.2 } } = c.received)

/-- The NMT event of a frame and its process data leave the counters as they are. -/
def acceptedKeepsReceived (c : CnContext σ) (frame : PowerlinkFrame) (timeUs : ℕ) : Bool :=
  decide ((c.receiveFrame frame timeUs).received = (c.countAccepted frame timeUs).received) &&
    (match c.beforePdo frame timeUs with
    | none => true
    | some d => (d.receivePdo frame).all fun e => decide (e.received = d.received))

/-- A frame without process data keeps them, unless it resets the node. -/
theorem acceptedKeepsReceived_of_not_reset {c : CnContext σ} {frame : PowerlinkFrame}
    {timeUs : ℕ} (hpdo : ∀ d : CnContext σ, d.receivePdo frame = some d)
    (h : ∀ event ∈ (((c.countAccepted frame timeUs).receiveFlags frame).receiveNmtEvent frame).1,
      MnNmtStateMachine.isReset event = false) :
    c.acceptedKeepsReceived frame timeUs = true := by
  unfold acceptedKeepsReceived
  rw [c.received_receiveFrame frame timeUs h, decide_eq_true rfl, Bool.true_and]
  cases c.beforePdo frame timeUs with
  | none => rfl
  | some d => simp [hpdo d]

/-- Only the counts of a received frame change the counters. -/
def frameKeepsReceived (c : CnContext σ) (frame : PowerlinkFrame) (timeUs : ℕ) : Bool :=
  match frame with
  | .aSnd asnd =>
      if asnd.destination = c.nodeId then
        if asnd.serviceId = .sdo then
          (c.count 6).sdoKeepsReceived asnd.payload (.asnd asnd.source asnd.ethHeader.sourceMac)
            timeUs
        else (c.count 4).acceptedKeepsReceived frame timeUs
      else true
  | _ => c.acceptedKeepsReceived frame timeUs

theorem received_respondFrame {c d : CnContext σ} {frame : PowerlinkFrame} {action : NodeAction}
    (h : c.respondFrame frame = some (action, d))
    (hkeeps : ((c.receivePdo frame).all fun e => decide (e.received = c.received)) = true) :
    d.received = c.received := by
  obtain ⟨e, hpdo, h⟩ := Option.bind_eq_some_iff.mp h
  obtain ⟨⟨response, f⟩, hanswer, h⟩ := Option.bind_eq_some_iff.mp h
  obtain ⟨-, rfl⟩ := Prod.mk.inj (Option.some.inj h)
  rw [hpdo] at hkeeps
  rw [received_answer hanswer, received_toggleExceptionFlag]
  exact of_decide_eq_true hkeeps

theorem received_processAccepted {c d : CnContext σ} {frame : PowerlinkFrame} {timeUs : ℕ}
    {action : NodeAction} (h : c.processAccepted frame timeUs = some (action, d))
    (hkeeps : c.acceptedKeepsReceived frame timeUs = true) :
    d.received = c.received.counted (acceptedClass frame) := by
  obtain ⟨hevent, hpdo⟩ := Bool.and_eq_true_iff.mp hkeeps
  have hreceived := of_decide_eq_true hevent
  rw [received_countAccepted] at hreceived
  rw [← hreceived]
  unfold processAccepted at h
  unfold beforePdo at hpdo
  dsimp only at h hpdo
  generalize c.receiveFrame frame timeUs = e at h hpdo ⊢
  generalize e.dllStateMachine.processEvent (dllCnEvent frame) e.nmtState = r at h hpdo
  split at h
  · rename_i f hstop
    obtain ⟨-, rfl⟩ := Prod.mk.inj (Option.some.inj h)
    have hview := received_handleDllErrors hstop
    exact hview
  · rename_i f hgo
    rw [hgo] at hpdo
    have hview := received_handleDllErrors hgo
    exact (received_respondFrame h hpdo).trans hview

/-- An SDO request is counted before the server handles it. -/
theorem received_receiveSdo {c : CnContext σ} {asnd : ASndFrame} {timeUs : ℕ}
    (hkeeps : (c.count 6).sdoKeepsReceived asnd.payload
      (.asnd asnd.source asnd.ethHeader.sourceMac) timeUs = true) :
    (c.receiveSdo asnd timeUs).2.received = c.received.counted (some .sdo) := by
  have hserved := of_decide_eq_true hkeeps
  have hcount : (c.count 6).received = _ := c.received_count_class .sdo
  rw [hcount] at hserved
  dsimp only [receiveSdo]
  split
  · exact hserved
  · split
    · exact (received_count_other _ (by decide) (by decide)).trans hserved
    · exact hserved

theorem received_processFrame {c d : CnContext σ} {frame : PowerlinkFrame} {timeUs : ℕ}
    {action : NodeAction} (h : c.processFrame frame timeUs = some (action, d))
    (hkeeps : c.frameKeepsReceived frame timeUs = true) :
    d.received = c.received.counted (telegramClass c.nodeId frame) := by
  cases frame with
  | aSnd asnd =>
      dsimp only [processFrame] at h
      dsimp only [frameKeepsReceived] at hkeeps
      dsimp only [telegramClass]
      by_cases hdest : asnd.destination = c.nodeId
      · rw [if_pos hdest] at hkeeps ⊢
        by_cases hsdo : asnd.serviceId = .sdo
        · rw [if_pos ⟨hdest, hsdo⟩] at h
          rw [if_pos hsdo] at hkeeps ⊢
          rw [← received_receiveSdo hkeeps, Option.some.inj h]
        · rw [if_neg fun hboth => hsdo hboth.2, if_pos hdest] at h
          rw [if_neg hsdo] at hkeeps ⊢
          rw [received_processAccepted h hkeeps, acceptedClass, ReceiveCounters.counted_none]
          exact c.received_count_class .asynchronous
      · rw [if_neg fun hboth => hdest hboth.1, if_neg hdest] at h
        obtain ⟨-, rfl⟩ := Prod.mk.inj (Option.some.inj h)
        rw [if_neg hdest, ReceiveCounters.counted_none]
  | soc | pReq | pRes | soA => exact received_processAccepted h hkeeps

/-- The look at the raw octets counts an SDO frame. -/
theorem received_prepare (c : CnContext σ) (buffer : List UInt8) :
    (c.prepare buffer).received =
      c.received.counted (if c.isSdoForNode buffer then some .sdo else none) := by
  have hcount : ∀ e : CnContext σ, e.nodeId = c.nodeId → e.received = c.received →
      (if e.isSdoForNode buffer then e.count 6 else e).received =
        c.received.counted (if c.isSdoForNode buffer then some .sdo else none) := by
    intro e hnode he
    have hlook : e.isSdoForNode buffer = c.isSdoForNode buffer := by
      unfold isSdoForNode
      rw [hnode]
    rw [hlook, ← he]
    split_ifs
    · exact e.received_count_class .sdo
    · exact e.received.counted_none.symm
  unfold prepare
  dsimp only
  by_cases hstate : c.nmtState = .nmtBasicEthernet
  · rw [if_pos hstate]
    have hnode : (c.processNmtEvent .powerlinkFrameReceived).nodeId = c.nodeId :=
      congrArg (fun v => v.machine.nodeId) (c.signals_processNmtEvent .powerlinkFrameReceived)
    exact hcount _ hnode (c.received_processNmtEvent rfl)
  · rw [if_neg hstate]
    exact hcount c rfl rfl

theorem received_handleInvalidFormat (c : CnContext σ) :
    c.handleInvalidFormat.received = c.received := by
  unfold handleInvalidFormat
  dsimp only
  split_ifs
  · rw [received_processNmtEvent _ rfl, received_writeErrorRegister]
    rfl
  · rw [received_processNmtEvent _ rfl]
    rfl
  · rw [received_writeErrorRegister]
    rfl
  · rfl

end errors

end CnContext

end Powerlink
