import Powerlink.Mn.Deadlines
import Powerlink.Mn.Queues

/-! # Where the returned frames come from

`TickGuard` says under which condition a tick takes each of its branches, and `Origin` lists what a
call can return: nothing, a datagram, a frame of an SDO transfer, an NMT command, the SoC of a new
cycle, the frame that advances the phase or a queued frame.  `runCycle_origin` says that the list is
complete. -/

namespace Powerlink

namespace MnContext

variable {σ : Type}

/-- The condition for each branch of `handle_tick`. -/
inductive TickGuard (c : MnContext σ) (t : ℕ) : TickPoint σ → Prop
  | start (hdue : c.cycleDue t = true) : TickGuard c t (.start c)
  | client {e : MnContext σ} {action : NodeAction} (h : c.tickSdoClient t = (some action, e)) :
      TickGuard c t (.answer action e)
  | server {d e : MnContext σ} {action : NodeAction} (hclient : c.tickSdoClient t = (none, d))
      (h : d.tickSdoServer t = (some action, e)) : TickGuard c t (.answer action e)
  | broadcast {d e : MnContext σ} {action : NodeAction}
      (h : d.initialOperationalActions = (some action, e)) : TickGuard c t (.answer action e)
  | activate (e : MnContext σ) : TickGuard c t (.activate e)
  | deliver {event : DllMsEvent} {e : MnContext σ} (h : e.pendingTimeoutEvent = some event) :
      TickGuard c t (.deliver event e)
  | advance {e : MnContext σ} (h : e.currentPhase = .soCSent) : TickGuard c t (.advance e)
  | own {e : MnContext σ} (h : e.currentPhase = .awaitingMnAsyncSend) : TickGuard c t (.own e)
  | rest (e : MnContext σ) : TickGuard c t (.rest e)

theorem DeadlineWay.tickGuard {c d : MnContext σ} {p : TickPoint σ} {t : ℕ}
    (h : DeadlineWay d p) : TickGuard c t p := by
  cases h with
  | activate next => exact .activate _
  | deliver next hpending => exact .deliver hpending
  | advance next hphase => exact .advance hphase
  | rest next => exact .rest _
  | broadcast next hactions => exact .broadcast hactions
  | own next _ hphase => exact .own hphase
  | proceed next _ hphase => exact .advance hphase
  | pause next later => exact .rest _

theorem TickWay.tickGuard {c : MnContext σ} {p : TickPoint σ} {t : ℕ} (h : TickWay c t p) :
    TickGuard c t p := by
  cases h with
  | start hdue => exact .start hdue
  | client hclient => exact .client hclient
  | server hclient hserver => exact .server hclient hserver
  | deadline _ _ hway => exact hway.tickGuard

theorem tickGuard (c : MnContext σ) (t : ℕ) : TickGuard c t (c.tickPoint t) :=
  (c.tickPoint_way t).tickGuard

/-- Up to its branch a tick leaves the phase and the pending timeout alone. -/
def SamePhase (c d : MnContext σ) : Prop :=
  d.currentPhase = c.currentPhase ∧ d.pendingTimeoutEvent = c.pendingTimeoutEvent

theorem SamePhase.trans {c d e : MnContext σ} (h : SamePhase c d) (h' : SamePhase d e) :
    SamePhase c e :=
  ⟨h'.1.trans h.1, h'.2.trans h.2⟩

theorem Still.samePhase {c d : MnContext σ} (h : Still c d) : SamePhase c d :=
  ⟨congrArg CycleView.phase h.view, congrArg CycleView.pending h.view⟩

theorem DeadlineWay.samePhase {c : MnContext σ} {p : TickPoint σ} (h : DeadlineWay c p) :
    SamePhase c p.context := by
  have hnext : ∀ next, SamePhase c { c with nextTickUs := next } := fun _ => ⟨rfl, rfl⟩
  cases h with
  | broadcast next h => exact (hnext next).trans (still_initialOperationalActions h).1.samePhase
  | own next h => exact (hnext next).trans (still_initialOperationalActions h).1.samePhase
  | proceed next h => exact (hnext next).trans (still_initialOperationalActions h).1.samePhase
  | pause next later h =>
      have hd := (hnext next).trans (still_initialOperationalActions h).1.samePhase
      exact hd.trans ⟨rfl, rfl⟩
  | _ => exact ⟨rfl, rfl⟩

theorem TickWay.samePhase {c : MnContext σ} {p : TickPoint σ} {t : ℕ} (h : TickWay c t p) :
    SamePhase c p.context := by
  cases h with
  | start => exact ⟨rfl, rfl⟩
  | client hclient => exact (still_tickSdoClient hclient).1.samePhase
  | server hclient hserver =>
      exact (still_tickSdoClient hclient).1.samePhase.trans
        (still_tickSdoServer hserver).1.samePhase
  | deadline hclient hserver hway =>
      exact ((still_tickSdoClient hclient).1.samePhase.trans
        (still_tickSdoServer hserver).1.samePhase).trans hway.samePhase

theorem samePhase_tickPoint (c : MnContext σ) (t : ℕ) : SamePhase c (c.tickPoint t).context :=
  (c.tickPoint_way t).samePhase

/-! ### Answers -/

/-- The frame of an SDO transfer or of an NMT command, or the dummy in its place. -/
def isTransfer : PowerlinkFrame → Bool
  | .aSnd frame => decide (frame.serviceId = .sdo) || decide (frame.serviceId = .nmtCommand)
  | .soc _ => true
  | _ => false

/-- The action sends nothing, a datagram, or the frame of a transfer. -/
def IsTransfer (action : NodeAction) : Prop :=
  action.frameType = none ∨ ∃ frame, isTransfer frame = true ∧ action = send frame

theorem isTransfer_buildSdoAsndRequest {c : MnContext σ} {nodeId : NodeId}
    {seqHeader : SequenceLayerHeader} {cmd : SdoCommand} {frame : PowerlinkFrame}
    (h : c.buildSdoAsndRequest nodeId seqHeader cmd = .ok frame) : isTransfer frame = true := by
  unfold buildSdoAsndRequest at h
  split at h
  · cases h
  · obtain ⟨payload, -, h⟩ := bind_eq_ok_iff.mp h
    rw [← Except.ok.inj h]
    rfl

theorem isTransfer_buildNmtCommandFrame (c : MnContext σ) (command : MnNmtCommandRequest)
    (nodeId : NodeId) (data : NmtCommandData) :
    isTransfer (c.buildNmtCommandFrame command nodeId data) = true := by
  dsimp only [buildNmtCommandFrame]
  split
  · rfl
  · rfl

theorem isTransfer_asndBuildResponse {data : SdoResponseData} {mac : MacAddress} {nodeId : NodeId}
    {action : NodeAction} (h : asndBuildResponse false data mac nodeId = .ok action) :
    IsTransfer action := by
  unfold asndBuildResponse at h
  split at h
  · rename_i source sourceMac _
    obtain ⟨payload, -, h⟩ := bind_eq_ok_iff.mp h
    refine .inr ⟨.aSnd (.new mac sourceMac source nodeId .sdo payload), rfl, ?_⟩
    unfold send
    rw [h]
  · cases h

theorem isTransfer_udpBuildResponse {data : SdoResponseData} {action : NodeAction}
    (h : udpBuildResponse data = .ok action) : IsTransfer action := by
  obtain ⟨ip, port, payload, rfl⟩ := sendUdp_of_udpBuildResponse h
  exact .inl rfl

theorem isTransfer_tickSdoClient {c d : MnContext σ} {t : ℕ} {action : NodeAction}
    (h : c.tickSdoClient t = (some action, d)) : IsTransfer action := by
  cases tickSdoClient_way h with
  | send hrequest hbuild => exact .inr ⟨_, isTransfer_buildSdoAsndRequest hbuild, rfl⟩

theorem isTransfer_tickSdoServer {c d : MnContext σ} {t : ℕ} {action : NodeAction}
    (h : c.tickSdoServer t = (some action, d)) : IsTransfer action := by
  cases tickSdoServer_way h with
  | send hresponse hbuild =>
      unfold buildResponse at hbuild
      split at hbuild
      · exact isTransfer_asndBuildResponse hbuild
      · exact isTransfer_udpBuildResponse hbuild

theorem isTransfer_initialOperationalActions {c d : MnContext σ} {action : NodeAction}
    (h : c.initialOperationalActions = (some action, d)) : IsTransfer action := by
  cases initialOperationalActions_way h with
  | broadcast => exact .inr ⟨_, isTransfer_buildNmtCommandFrame _ _ _ _, rfl⟩

/-- The own slot sends a transfer or the last queued frame. -/
theorem sendOwnAsync_origin {c d : MnContext σ} {t : ℕ} {action : NodeAction}
    (h : c.sendOwnAsync t = (action, d)) :
    IsTransfer action ∨ ∃ frame ∈ c.mnAsyncSendQueue, action = send frame := by
  cases sendOwnAsync_way h with
  | command => exact .inl (.inr ⟨_, isTransfer_buildNmtCommandFrame _ _ _ _, rfl⟩)
  | request _ _ hbuild => exact .inl (.inr ⟨_, isTransfer_buildSdoAsndRequest hbuild, rfl⟩)
  | frame _ hlast => exact .inr ⟨_, List.mem_of_getLast? hlast, rfl⟩
  | unused => exact .inl (.inl rfl)

variable [ObjectDictionaryStorage σ]

theorem isTransfer_handleSdoServerRequest {c d : MnContext σ} {payload : List UInt8}
    {client : SdoClientInfo} {t : ℕ} {action : NodeAction}
    (h : c.handleSdoServerRequest payload client t = (action, d)) : IsTransfer action := by
  cases handleSdoServerRequest_way h with
  | unanswered => exact .inl rfl
  | answered hresponse hbuild => exact isTransfer_asndBuildResponse hbuild

theorem isTransfer_receivePoint {c d : MnContext σ} {input : CycleInput} {action : NodeAction}
    (h : c.receivePoint input = .reply action d) : IsTransfer action := by
  obtain ⟨_, _, _, hrequest⟩ := exists_request_of_reply h
  exact isTransfer_handleSdoServerRequest hrequest

theorem isTransfer_receiveUdp {c d : MnContext σ} {input : CycleInput} {action : NodeAction}
    (h : c.receiveUdp input = (action, d)) : IsTransfer action := by
  cases receiveUdp_way h with
  | _ => exact .inl rfl

/-! ### The whole call -/

/-- What a call returns, with the context after it. -/
inductive Origin (c : MnContext σ) (input : CycleInput) (action : NodeAction) (d : MnContext σ) :
    Prop
  | transfer (h : IsTransfer action)
  | start {e : MnContext σ} (hcontext : c.tickContext input = some e)
      (hdue : e.cycleDue input.currentTimeUs = true)
      (hstart : e.startCycle input.currentTimeUs = (action, d))
  | advance {e f : MnContext σ} (hcontext : c.tickContext input = some e)
      (hbusy : e.pendingTimeoutEvent ≠ none ∨ e.currentPhase = .soCSent)
      (h : f.advanceCyclePhase input.currentTimeUs = some (action, d))
  | queued {e : MnContext σ} {frame : PowerlinkFrame} (hslot : c.ownSlot input = some e)
      (hframe : frame ∈ e.mnAsyncSendQueue) (haction : action = send frame)

/-- The list of the origins is complete. -/
theorem runCycle_origin {c d : MnContext σ} {input : CycleInput} {action : NodeAction}
    (h : c.runCycle input = some (action, d)) : Origin c input action d := by
  obtain hpath := runCycle_path h
  cases hpath with
  | frame hpoint _ => exact .transfer (isTransfer_receivePoint hpoint)
  | datagram _ hudp _ => exact .transfer (isTransfer_receiveUdp hudp)
  | @tick r e hethernet hudp htick =>
      have hcontext := tickContext_eq hethernet hudp
      have hguard := e.tickGuard input.currentTimeUs
      have hphase := e.samePhase_tickPoint input.currentTimeUs
      cases hpoint : e.tickPoint input.currentTimeUs with
      | start f =>
          rw [hpoint] at hguard htick
          cases hguard with
          | start hdue => exact .start hcontext hdue (Option.some.inj htick)
      | answer a f =>
          rw [hpoint] at hguard htick
          rw [← (Prod.mk.inj (Option.some.inj htick)).1]
          cases hguard with
          | client h => exact .transfer (isTransfer_tickSdoClient h)
          | server _ h => exact .transfer (isTransfer_tickSdoServer h)
          | broadcast h => exact .transfer (isTransfer_initialOperationalActions h)
      | activate f =>
          rw [hpoint] at htick
          rw [← (Prod.mk.inj (Option.some.inj htick)).1]
          exact .transfer (.inl rfl)
      | deliver event f =>
          rw [hpoint] at htick hguard hphase
          cases hguard with
          | deliver hpending =>
              refine .advance hcontext (.inl ?_) htick
              intro hnone
              cases hpending.symm.trans (hphase.2.trans hnone)
      | advance f =>
          rw [hpoint] at htick hguard hphase
          cases hguard with
          | advance hsoc => exact .advance hcontext (.inr (hphase.1.symm.trans hsoc)) htick
      | own f =>
          rw [hpoint] at htick
          have hslot : c.ownSlot input = some f := by
            rw [ownSlot, hcontext, Option.bind_some, hpoint]
          obtain htransfer | ⟨frame, hmem, haction⟩ := sendOwnAsync_origin (Option.some.inj htick)
          · exact .transfer htransfer
          · exact .queued hslot hmem haction
      | rest f =>
          rw [hpoint] at htick
          rw [← (Prod.mk.inj (Option.some.inj htick)).1]
          exact .transfer (.inl rfl)

/-! ### Idle calls -/

/-- The call starts a cycle. -/
def startsCycle (c : MnContext σ) (input : CycleInput) : Bool :=
  (c.tickContext input).any (fun e => e.cycleDue input.currentTimeUs)

theorem tickContext_of_reaches {c r e : MnContext σ} {input : CycleInput}
    (h : Reaches c input r e) : c.tickContext input = some e := by
  refine tickContext_eq ?_ h.udp
  rw [← receiveEthernet_eq]
  exact h.ethernet

omit [ObjectDictionaryStorage σ] in
/-- A received frame does not end the idle phase. -/
theorem view_of_received {c r : MnContext σ} (h : Received c.view r)
    (hidle : c.currentPhase = .idle) : r.view = c.view := by
  cases h with
  | quiet hview => exact hview
  | answered hphase => cases hidle.symm.trans hphase
  | asnd hphase => cases hidle.symm.trans hphase

omit [ObjectDictionaryStorage σ] in
/-- A tick in the idle phase that starts no cycle stays idle. -/
theorem Ticked.idle {v : CycleView} {t : ℕ} {d : MnContext σ} {action : NodeAction}
    (h : Ticked t v d action) (hphase : v.phase = .idle) (hpending : v.pending = none) :
    d.currentPhase = .idle ∧ action.IsAsync := by
  cases h with
  | sdo hd hasync => exact ⟨(congrArg CycleView.phase hd).trans hphase, hasync⟩
  | activate _ _ _ hd => exact ⟨(congrArg CycleView.phase hd).trans hphase, .inl rfl⟩
  | timeout _ _ _ hevent => cases hpending.symm.trans hevent
  | @progress _ w hexpired hprogressed =>
      have hw : w.phase = .idle := by
        cases hexpired with
        | refl => exact hphase
        | drop => exact hphase
      cases hprogressed with
      | still hd hasync => exact ⟨(congrArg CycleView.phase hd).trans hw, hasync⟩
      | wait _ _ _ hd => exact ⟨(congrArg CycleView.phase hd).trans hw, .inl rfl⟩
      | advance hsoc => cases hw.symm.trans hsoc
      | own hown => cases hw.symm.trans hown
      | command _ _ hown => cases hw.symm.trans hown

/-- The context of the tick after an idle phase. -/
theorem view_of_tickContext {c e : MnContext σ} {input : CycleInput} (hinv : c.CycleInv)
    (hidle : c.currentPhase = .idle) (h : c.tickContext input = some e) : e.view = c.view := by
  unfold tickContext at h
  split at h
  · rename_i r hethernet
    rw [← receiveEthernet_eq] at hethernet
    obtain ⟨hreceived, -, -⟩ := receiveEthernet_spec hethernet hinv.queue
    split at h
    · rename_i f hudp
      rw [← Option.some.inj h, (still_receiveUdp hudp).1.view]
      exact view_of_received hreceived hidle
    · cases h
  · cases h

/-- A call in the idle phase starts a cycle or stays idle. -/
theorem idle_runCycle {c d : MnContext σ} {input : CycleInput} {action : NodeAction}
    (h : c.runCycle input = some (action, d)) (hinv : c.CycleInv) (hidle : c.currentPhase = .idle)
    (hstarts : c.startsCycle input = false) : d.currentPhase = .idle ∧ action.IsAsync := by
  obtain ⟨-, r, hreceived, hrest⟩ := runCycle_spec h hinv.queue
  have hview := view_of_received hreceived hidle
  have hphase : c.view.phase = .idle := hidle
  have hpending : c.view.pending = none :=
    pending_of_phase hinv.noStall hphase (by decide) (by decide)
  obtain ⟨hsame, hasync⟩ | ⟨e, hreaches, hstart | hticked⟩ := hrest
  · have hd : d.view.phase = c.view.phase := congrArg CycleView.phase (hsame.trans hview)
    exact ⟨hd.trans hphase, hasync⟩
  · have hdue := hstart.due
    rw [startsCycle, tickContext_of_reaches hreaches, Option.any_some, hdue] at hstarts
    cases hstarts
  · rw [hreaches.still.view, hview] at hticked
    exact hticked.idle hphase hpending

end MnContext

end Powerlink
