import Powerlink.Frame.RoundTrip
import Powerlink.Mn.Api
import Powerlink.Mn.Origins

/-! # NMT info frames

`advance_cycle_phase` publishes the service that is configured for the number of the current
multiplexed cycle, which counts from one.  The background step of the asynchronous scheduler
publishes as well, but it takes the cycle count itself, from zero, for the number, and it queues the
frame for the own slot.

`published_as_configured` says that the info frames match the configuration, one in a cycle, in
every run in which the background step finds no info service. -/

namespace Powerlink

/-- The services of NMT info frames. -/
def ServiceId.isInfo : ServiceId → Bool
  | nmtPublishTime | nmtPublishNmtState | nmtPublishNodeState | nmtPublishNodeList
  | nmtPublishEmergNew | nmtPublishHeartbeat | nmtPublishActiveNodes => true
  | _ => false

/-- The list of these services. -/
def infoServices : List ServiceId :=
  [.nmtPublishTime, .nmtPublishNmtState, .nmtPublishNodeState, .nmtPublishNodeList,
    .nmtPublishEmergNew, .nmtPublishHeartbeat, .nmtPublishActiveNodes]

theorem isInfo_of_mem {s : ServiceId} (h : s ∈ infoServices) : s.isInfo = true := by
  revert s
  decide

theorem ServiceId.toByte_injective {s s' : ServiceId} (h : s.toByte = s'.toByte) : s = s' := by
  have hs := s.tryFrom_toByte
  rw [h, s'.tryFrom_toByte] at hs
  exact (Except.ok.inj hs).symm

/-- The service octet of a sent ASnd frame. -/
def NodeAction.service : NodeAction → Option UInt8
  | sendFrame bytes => if bytes[14]? = some MessageType.aSnd.toByte then bytes[17]? else none
  | _ => none

namespace MnContext

variable {σ : Type}

/-- The service octet is that of the frame. -/
theorem service_send (frame : PowerlinkFrame) : (send frame).service = none ∨
    ∃ f, frame = .aSnd f ∧ (send frame).service = some f.serviceId.toByte := by
  unfold send
  cases hsent : serializeFrameAction false frame with
  | error e => exact .inl rfl
  | ok action =>
      cases action with
      | noAction => exact .inl rfl
      | sendUdp ip port data => exact .inl rfl
      | sendFrame bytes =>
          obtain ⟨-, htype, -⟩ := sent_of_serializeFrameAction hsent
          have hbyte : bytes[14]? = some frame.messageType.toByte := htype
          dsimp only [NodeAction.service]
          rw [hbyte]
          cases frame with
          | aSnd f =>
              refine .inr ⟨f, rfl, ?_⟩
              obtain ⟨n, rfl⟩ := sendFrame_eq hsent
              rw [EthernetHeader.getElem?_bytes_append _ _ 3]
              rfl
          | _ => exact .inl rfl

/-- The frame is no NMT info frame. -/
def NotInfo (frame : PowerlinkFrame) : Prop :=
  ∀ f, frame = .aSnd f → f.serviceId.isInfo = false

theorem service_of_notInfo {frame : PowerlinkFrame} (h : NotInfo frame) {s : ServiceId}
    (hs : s.isInfo = true) : (send frame).service ≠ some s.toByte := by
  intro hservice
  obtain hnone | ⟨f, hf, hbyte⟩ := service_send frame
  · cases hnone.symm.trans hservice
  · have heq := ServiceId.toByte_injective (Option.some.inj (hbyte.symm.trans hservice))
    have hnot := h f hf
    rw [heq, hs] at hnot
    cases hnot

theorem notInfo_of_isTransfer {frame : PowerlinkFrame} (h : isTransfer frame = true) :
    NotInfo frame := by
  rintro f rfl
  obtain h | h := Bool.or_eq_true_iff.mp h
  · rw [of_decide_eq_true h]
    rfl
  · rw [of_decide_eq_true h]
    rfl

theorem service_of_isTransfer {action : NodeAction} (h : IsTransfer action) {s : ServiceId}
    (hs : s.isInfo = true) : action.service ≠ some s.toByte := by
  obtain hnone | ⟨frame, hframe, rfl⟩ := h
  · intro hservice
    cases action with
    | sendFrame bytes =>
        have hbyte : bytes[14]? = none := hnone
        dsimp only [NodeAction.service] at hservice
        rw [hbyte] at hservice
        cases hservice
    | sendUdp ip port data => cases hservice
    | noAction => cases hservice
  · exact service_of_notInfo (notInfo_of_isTransfer hframe) hs

/-- The frame for a polled node is no info frame. -/
theorem service_pollNode (c : MnContext σ) (nodeId : NodeId) (t : ℕ) {s : ServiceId}
    (hs : s.isInfo = true) : (c.pollNode nodeId t).1.service ≠ some s.toByte := by
  dsimp only [pollNode]
  generalize hd : record _ _ = d
  obtain ⟨-, hframe⟩ := buildPreqFrame_spec d nodeId (decide (0 < d.assignedCycle nodeId))
  apply service_of_notInfo _ hs
  intro f hf
  split_ifs at hframe
  · obtain ⟨preq, hpreq, -⟩ := hframe
    cases hpreq.symm.trans hf
  · cases hframe.symm.trans hf

theorem notInfo_buildSoaFrame (c : MnContext σ) (service : RequestedServiceId) (nodeId : NodeId)
    (er : Bool) : NotInfo (c.buildSoaFrame service nodeId er) := by
  intro f hf
  cases hf

theorem endPoint_publish {c e : MnContext σ} {serviceId : ServiceId}
    (h : c.endPoint = .publish serviceId e) :
    e.publishConfig.get? (e.currentMultiplexCycle + 1) = some serviceId := by
  dsimp only [endPoint] at h
  split at h
  · rename_i hget
    obtain ⟨rfl, rfl⟩ := AdvancePoint.publish.inj h
    exact hget
  · cases h

/-- The cycle advances to an info frame only for the number of the current cycle. -/
theorem advancePoint_publish {c e : MnContext σ} {serviceId : ServiceId}
    (h : c.advancePoint = .publish serviceId e) :
    e.publishConfig.get? (e.currentMultiplexCycle + 1) = some serviceId := by
  unfold advancePoint at h
  split_ifs at h
  · split at h
    · cases h
    · exact endPoint_publish h
  · exact endPoint_publish h

/-- The cycle advances to an info frame only as it is configured, and ends with it. -/
theorem publish_of_advance {c d : MnContext σ} {t : ℕ} {action : NodeAction} {s : ServiceId}
    (h : c.advanceCyclePhase t = some (action, d)) (hs : s.isInfo = true)
    (hservice : action.service = some s.toByte) :
    d.publishConfig.get? (d.currentMultiplexCycle + 1) = some s ∧ d.currentPhase = .idle := by
  rw [advanceCyclePhase_eq] at h
  cases hpoint : c.advancePoint with
  | poll nodeId e =>
      rw [hpoint] at h
      have hpoll := e.service_pollNode nodeId t hs
      have haction : (e.pollNode nodeId t).1 = action := congrArg Prod.fst (Option.some.inj h)
      rw [haction] at hpoll
      exact absurd hservice hpoll
  | publish serviceId e =>
      rw [hpoint] at h
      have hconfig := advancePoint_publish hpoint
      obtain ⟨rfl, rfl⟩ := Prod.mk.inj (Option.some.inj h)
      obtain hnone | ⟨f, hf, hbyte⟩ := service_send
        ((count { e with currentPhase := .idle } 5).buildNmtInfoFrame serviceId)
      · cases hnone.symm.trans hservice
      · have heq := ServiceId.toByte_injective (Option.some.inj (hbyte.symm.trans hservice))
        have hid : serviceId = f.serviceId := congrArg ASndFrame.serviceId (PowerlinkFrame.aSnd.inj hf)
        rw [← heq, ← hid]
        exact ⟨hconfig, rfl⟩
  | schedule e =>
      rw [hpoint] at h
      obtain ⟨choice, -, heq⟩ := Option.map_eq_some_iff.mp h
      rw [← (Prod.mk.inj heq).1] at hservice
      exact absurd hservice (service_of_notInfo (notInfo_buildSoaFrame _ _ _ _) hs)

theorem service_startCycle [ObjectDictionaryStorage σ] {c d : MnContext σ} {t : ℕ}
    {action : NodeAction} (h : c.startCycle t = (action, d)) {s : ServiceId}
    (hs : s.isInfo = true) : action.service ≠ some s.toByte := by
  rw [← (Prod.mk.inj h).1]
  apply service_of_notInfo _ hs
  intro f hf
  cases hf

variable [ObjectDictionaryStorage σ]

/-- The phase advances in a tick that was not idle before. -/
theorem not_idle_of_busy {c e : MnContext σ} {input : CycleInput} (hinv : c.CycleInv)
    (hcontext : c.tickContext input = some e)
    (hbusy : e.pendingTimeoutEvent ≠ none ∨ e.currentPhase = .soCSent) :
    c.currentPhase ≠ .idle := by
  intro hidle
  have hview := view_of_tickContext hinv hidle hcontext
  have hphase : e.currentPhase = .idle := (congrArg CycleView.phase hview).trans hidle
  have hpending : e.pendingTimeoutEvent = none :=
    (congrArg CycleView.pending hview).trans
      (pending_of_phase hinv.noStall hidle (by decide) (by decide))
  obtain hbusy | hbusy := hbusy
  · exact hbusy hpending
  · cases hphase.symm.trans hbusy

/-- The methods of the application do not touch the cycle. -/
theorem CycleInv.call {c d : MnContext σ} {call : MnCall} {action : NodeAction}
    (hinv : c.CycleInv) (h : c.call call = some (action, d)) : d.CycleInv := by
  cases call with
  | runCycle input => exact hinv.runCycle h
  | setHostname target hostname =>
      obtain ⟨-, rfl⟩ := Prod.mk.inj (Option.some.inj h)
      unfold setHostname
      split_ifs
      · exact hinv
      · exact hinv
      · exact ⟨hinv.noStall, hinv.queue⟩
  | _ =>
      obtain ⟨-, rfl⟩ := Prod.mk.inj (Option.some.inj h)
      exact ⟨hinv.noStall, hinv.queue⟩

end MnContext

/-! ### Runs -/

namespace ApiReturned

variable {σ : Type} [ObjectDictionaryStorage σ]

/-- The asynchronous actions that the call determines. -/
def choices (x : ApiReturned σ) : List MnContext.AsyncChoice :=
  match x.call with
  | .runCycle input => x.before.choices input
  | _ => []

/-- The call starts a cycle. -/
def startsCycle (x : ApiReturned σ) : Bool :=
  match x.call with
  | .runCycle input => x.before.startsCycle input
  | _ => false

/-- The call returns an NMT info frame. -/
def isInfo (x : ApiReturned σ) : Bool :=
  infoServices.any (fun s => decide (x.action.service = some s.toByte))

/-- The background step of the scheduler finds no info service. -/
def NoBackground (x : ApiReturned σ) : Prop := ∀ s, .publish s ∈ x.choices → s.isInfo = false

end ApiReturned

/-- The info frames since the last start of a cycle; the newest call comes first. -/
def infoInCycle {σ : Type} [ObjectDictionaryStorage σ] : List (ApiReturned σ) → ℕ
  | [] => 0
  | x :: returned =>
      if x.startsCycle then 0 else infoInCycle returned + if x.isInfo then 1 else 0

/-- A dictionary without nodes that publishes the NMT state in the first multiplexed cycle. -/
def publishingDictionary : ObjectDictionary Empty :=
  { mnDictionary 0 [] with
    entries := (mnDictionary 0 []).entries.insert 0x1F9E
      ⟨.array [.unsigned32 0x010D], "NMT_PublishConfig_AU32", none, none⟩ }

namespace ApiRun

variable {σ : Type} [ObjectDictionaryStorage σ]

/-- An info frame is returned in a cycle for whose number its service is configured, and there is
one in a cycle at most. -/
structure PublishesAsConfigured (r : ApiRun σ) : Prop where
  config : ∀ x ∈ r.returned, ∀ s : ServiceId, s.isInfo = true → x.action.service = some s.toByte →
    x.after.publishConfig.get? (x.after.currentMultiplexCycle + 1) = some s
  once : infoInCycle r.returned ≤ 1

/-- What is proved of the info frames of a run. -/
structure PublishInv (r : ApiRun σ) : Prop where
  cycle : r.context.CycleInv
  queue : ∀ frame ∈ r.context.mnAsyncSendQueue, MnContext.NotInfo frame
  published : r.PublishesAsConfigured
  idle : 0 < infoInCycle r.returned → r.context.currentPhase = .idle

/-- A call that returns no info frame. -/
theorem PublishInv.quiet {r : ApiRun σ} {call : MnCall} {action : NodeAction} {d : MnContext σ}
    (h : r.PublishInv) (hcycle : d.CycleInv)
    (hqueue : ∀ frame ∈ d.mnAsyncSendQueue, MnContext.NotInfo frame)
    (hquiet : ∀ s : ServiceId, s.isInfo = true → action.service ≠ some s.toByte)
    (hidle : ApiReturned.startsCycle ⟨r.context, call, action, d⟩ = false →
      r.context.currentPhase = .idle → d.currentPhase = .idle) :
    PublishInv ⟨d, ⟨r.context, call, action, d⟩ :: r.returned⟩ := by
  have hnot : ApiReturned.isInfo (⟨r.context, call, action, d⟩ : ApiReturned σ) = false := by
    unfold ApiReturned.isInfo
    rw [List.any_eq_false]
    intro s hs hdecide
    exact hquiet s (isInfo_of_mem hs) (of_decide_eq_true hdecide)
  have hcount : infoInCycle (⟨r.context, call, action, d⟩ :: r.returned) =
      if ApiReturned.startsCycle ⟨r.context, call, action, d⟩ then 0
      else infoInCycle r.returned := by
    rw [infoInCycle, hnot]
    rfl
  refine ⟨hcycle, hqueue, ⟨?_, ?_⟩, ?_⟩
  · refine List.forall_mem_cons.mpr ⟨?_, h.published.config⟩
    exact fun s hs hservice => absurd hservice (hquiet s hs)
  · dsimp only
    rw [hcount]
    split_ifs
    · exact Nat.zero_le 1
    · exact h.published.once
  · intro hpos
    dsimp only at hpos
    rw [hcount] at hpos
    split_ifs at hpos with hstarts
    · exact absurd hpos (Nat.lt_irrefl 0)
    · exact hidle (Bool.eq_false_of_not_eq_true hstarts) (h.idle hpos)

/-- A call that advances the cycle to an info frame. -/
theorem PublishInv.publish {r : ApiRun σ} {call : MnCall} {action : NodeAction} {d : MnContext σ}
    {s : ServiceId} (h : r.PublishInv) (hcycle : d.CycleInv)
    (hqueue : ∀ frame ∈ d.mnAsyncSendQueue, MnContext.NotInfo frame)
    (hbusy : r.context.currentPhase ≠ .idle) (hservice : action.service = some s.toByte)
    (hconfig : d.publishConfig.get? (d.currentMultiplexCycle + 1) = some s)
    (hidle : d.currentPhase = .idle) :
    PublishInv ⟨d, ⟨r.context, call, action, d⟩ :: r.returned⟩ := by
  have hzero : infoInCycle r.returned = 0 := by
    by_contra hne
    exact hbusy (h.idle (Nat.pos_of_ne_zero hne))
  refine ⟨hcycle, hqueue, ⟨?_, ?_⟩, fun _ => hidle⟩
  · refine List.forall_mem_cons.mpr ⟨?_, h.published.config⟩
    intro s' hs' hservice'
    rw [← ServiceId.toByte_injective (Option.some.inj (hservice.symm.trans hservice'))]
    exact hconfig
  · dsimp only [infoInCycle]
    rw [hzero]
    split_ifs
    all_goals omega

theorem PublishInv.runCycle {r : ApiRun σ} {input : CycleInput} {action : NodeAction}
    {d : MnContext σ} (h : r.PublishInv) (hrun : r.context.runCycle input = some (action, d))
    (hno : ApiReturned.NoBackground ⟨r.context, .runCycle input, action, d⟩) :
    PublishInv ⟨d, ⟨r.context, .runCycle input, action, d⟩ :: r.returned⟩ := by
  obtain ⟨hqueue, hslot⟩ := MnContext.queued_runCycle hrun
    (fun e request _ => MnContext.notInfo_of_isTransfer rfl)
    (fun e s hmem f hf => by
      rw [← PowerlinkFrame.aSnd.inj hf]
      exact hno s hmem) h.queue
  have hcycle := h.cycle.runCycle hrun
  have hidle := fun hstarts hphase =>
    (MnContext.idle_runCycle hrun h.cycle hphase hstarts).1
  have horigin := MnContext.runCycle_origin hrun
  cases horigin with
  | transfer htransfer =>
      exact h.quiet hcycle hqueue (fun s hs => MnContext.service_of_isTransfer htransfer hs) hidle
  | start _ _ hstart =>
      exact h.quiet hcycle hqueue (fun s hs => MnContext.service_startCycle hstart hs) hidle
  | advance hcontext hbusy hadvance =>
      have hbusy := MnContext.not_idle_of_busy h.cycle hcontext hbusy
      by_cases hinfo : ∃ s : ServiceId, s.isInfo = true ∧ action.service = some s.toByte
      · obtain ⟨s, hs, hservice⟩ := hinfo
        obtain ⟨hconfig, hphase⟩ := MnContext.publish_of_advance hadvance hs hservice
        exact h.publish hcycle hqueue hbusy hservice hconfig hphase
      · exact h.quiet hcycle hqueue (fun s hs hservice => hinfo ⟨s, hs, hservice⟩) hidle
  | queued hown hframe haction =>
      refine h.quiet hcycle hqueue (fun s hs => ?_) hidle
      rw [haction]
      exact MnContext.service_of_notInfo (hslot _ hown _ hframe) hs

theorem PublishInv.call {r : ApiRun σ} {call : MnCall} {action : NodeAction} {d : MnContext σ}
    (h : r.PublishInv) (hcall : r.context.call call = some (action, d))
    (hno : ApiReturned.NoBackground ⟨r.context, call, action, d⟩) :
    PublishInv ⟨d, ⟨r.context, call, action, d⟩ :: r.returned⟩ := by
  have hcycle := h.cycle.call hcall
  have hnone : ∀ s : ServiceId, s.isInfo = true → NodeAction.noAction.service ≠ some s.toByte :=
    fun _ _ hservice => nomatch hservice
  cases call with
  | runCycle input => exact h.runCycle hcall hno
  | setHostname target hostname =>
      obtain ⟨rfl, rfl⟩ := Prod.mk.inj (Option.some.inj hcall)
      unfold MnContext.setHostname at hcycle ⊢
      split_ifs at hcycle ⊢
      · exact h.quiet hcycle h.queue hnone (fun _ hphase => hphase)
      · exact h.quiet hcycle h.queue hnone (fun _ hphase => hphase)
      · exact h.quiet hcycle h.queue hnone (fun _ hphase => hphase)
  | _ =>
      obtain ⟨rfl, rfl⟩ := Prod.mk.inj (Option.some.inj hcall)
      exact h.quiet hcycle h.queue hnone (fun _ hphase => hphase)

/-- The info frames are published as it is configured in every run in which the background step of
the scheduler finds no info service. -/
theorem published_as_configured :
    Throughout (fun r : ApiRun σ =>
      (∀ x ∈ r.returned, x.NoBackground) → r.PublishesAsConfigured) := by
  have hinv : Throughout (fun r : ApiRun σ =>
      (∀ x ∈ r.returned, x.NoBackground) → r.PublishInv) := by
    apply throughout_of_call
    · intro od mac cfg machine cycleTimeUs lists publish _ _
      exact {
        cycle := MnContext.cycleInv_initial _ _ _ _ _ _ _
        queue := fun _ hframe => nomatch hframe
        published := ⟨(fun _ hx => nomatch hx), Nat.zero_le 1⟩
        idle := fun _ => rfl }
    · intro r call action d hr hcall hno
      obtain ⟨hnew, hold⟩ := List.forall_mem_cons.mp hno
      exact (hr hold).call hcall hnew
  exact hinv.mono (fun r hr hno => (hr hno).published)

/-- A service that is configured for cycle 1 is published when the count is 1, in cycle 2. -/
theorem published_in_wrong_cycle :
    ¬ Throughout (fun r : ApiRun Empty => r.PublishesAsConfigured) := by
  intro h
  have hconfig := h.mono (fun r hr x hx => hr.config x hx .nmtPublishNmtState rfl)
    publishingDictionary ⟨0, 0, 0, 0, 0, 240⟩ none
    [.runCycle (.idle 0), .runCycle (.idle 10), .runCycle (.idle 1000), .runCycle (.idle 1001),
      .runCycle (.idle 1002)]
  revert hconfig
  apply Runs.not_always_reached
  decide +kernel

end ApiRun

end Powerlink
