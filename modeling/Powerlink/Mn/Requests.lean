import Powerlink.Mn.Deadlines
import Powerlink.Mn.Queues

/-! # The length of the request queues

Every received PRes with the RS flag adds an entry to the queue of requests, whether or not its
source is configured and however many entries of it are already there, while an asynchronous slot
takes one entry at most.  `queues_bounded` says that this is the only way for the queues to grow out
of bounds: it is enough that such a PRes comes from a configured node with fewer than seven
entries. -/

namespace Powerlink

namespace MnContext

variable {σ : Type}

/-- The entries of a node in the queue of requests. -/
def requestsOf (c : MnContext σ) (nodeId : NodeId) : ℕ :=
  c.asyncRequestQueue.countP (fun r => decide (r.nodeId = nodeId))

/-- No node is queued twice for a StatusRequest, and the requests come from configured nodes, seven
from each at most. -/
structure QueuesBounded (c : MnContext σ) : Prop where
  status : c.pendingStatusRequests.Nodup
  configured : ∀ r ∈ c.asyncRequestQueue, (c.nodeInfo.get? r.nodeId).isSome
  bounded : ∀ nodeId, c.requestsOf nodeId ≤ 7

/-- Entries are taken from the queues. -/
structure Shrinks (c d : MnContext σ) : Prop where
  requests : d.asyncRequestQueue.Sublist c.asyncRequestQueue
  status : c.pendingStatusRequests.Nodup → d.pendingStatusRequests.Nodup

theorem Shrinks.trans {c d e : MnContext σ} (h : Shrinks c d) (h' : Shrinks d e) : Shrinks c e :=
  ⟨h'.requests.trans h.requests, fun hnodup => h'.status (h.status hnodup)⟩

theorem Fed.shrinks {c d : MnContext σ} (h : Fed c d []) : Shrinks c d where
  requests := by
    rw [h.requests, List.append_nil]
  status := h.status

/-! ### Taking entries -/

/-- The next asynchronous action takes one entry at most. -/
theorem shrinks_apply {c : MnContext σ} {choice : AsyncChoice} (h : choice.Found c) :
    Shrinks c (choice.apply c).2 := by
  cases choice with
  | status nodeId =>
      exact ⟨List.Sublist.refl _, fun hnodup => hnodup.sublist (List.dropLast_sublist _)⟩
  | grant r rest =>
      refine ⟨?_, id⟩
      obtain ⟨request, -, heq⟩ := Option.map_eq_some_iff.mp h
      obtain ⟨rfl, rfl⟩ := Prod.mk.inj heq
      exact List.erase_sublist
  | _ => exact ⟨List.Sublist.refl _, id⟩

/-- The own slot takes a command or a frame. -/
theorem shrinks_sendOwnAsync {c d : MnContext σ} {t : ℕ} {action : NodeAction}
    (h : c.sendOwnAsync t = (action, d)) : Shrinks c d := by
  cases sendOwnAsync_way h with
  | _ => exact ⟨List.Sublist.refl _, id⟩

theorem shrinks_initialOperationalActions {c d : MnContext σ} {action : Option NodeAction}
    (h : c.initialOperationalActions = (action, d)) : Shrinks c d := by
  cases initialOperationalActions_way h with
  | _ => exact ⟨List.Sublist.refl _, id⟩

variable [ObjectDictionaryStorage σ]

/-- An event of the NMT state machine takes nothing. -/
theorem shrinks_processNmtEvent (c : MnContext σ) (event : NmtEvent) :
    Shrinks c (c.processNmtEvent event) := by
  have hqueues := c.processNmtEvent_queues event
  have hrequests : (c.processNmtEvent event).asyncRequestQueue = c.asyncRequestQueue :=
    congrArg QueueView.requests hqueues
  have hstatus : (c.processNmtEvent event).pendingStatusRequests = c.pendingStatusRequests :=
    congrArg QueueView.status hqueues
  exact ⟨hrequests ▸ List.Sublist.refl _, fun hnodup => hstatus ▸ hnodup⟩

theorem QueueStep.shrinks {choices : List AsyncChoice} {c d : MnContext σ} (h : QueueStep choices c d) : Shrinks c d := by
  cases h with
  | same h => exact h.fed.shrinks
  | fed h => exact h.shrinks
  | choose h _ => exact shrinks_apply h
  | actions h => exact shrinks_initialOperationalActions h
  | activate => exact c.shrinks_processNmtEvent .timeout

theorem QueuePath.shrinks {choices : List AsyncChoice} {c d : MnContext σ} (h : QueuePath choices c d) : Shrinks c d := by
  induction h with
  | refl => exact ⟨List.Sublist.refl _, id⟩
  | tail _ hstep ih => exact ih.trans hstep.shrinks

/-- A call first queues the request that it has received, and then only takes entries. -/
theorem runCycle_requests {c d : MnContext σ} {input : CycleInput} {action : NodeAction}
    (h : c.runCycle input = some (action, d)) :
    ∃ e, Fed c e (c.receivedRequests input) ∧ Shrinks e d := by
  obtain ⟨e, hfed, hway⟩ := runCycle_queues h
  refine ⟨e, hfed, ?_⟩
  cases hway with
  | path _ hpath => exact QueuePath.shrinks hpath
  | own _ hpath hown => exact (QueuePath.shrinks hpath).trans (shrinks_sendOwnAsync hown)

end MnContext

/-! ### Runs -/

/-- No step of the boot-up adds or removes a node. -/
theorem BootStep.configured {reports : NodeId → CnState → NmtState → Prop}
    {identified : NodeId → Prop} {v w : BootView} (h : BootStep reports identified v w)
    (nodeId : NodeId) (hget : (v.nodes.get? nodeId).isSome) : (w.nodes.get? nodeId).isSome := by
  have hreplaces : ∀ {nodes m info info'}, v.nodes.Replaces nodes m info info' →
      (nodes.get? nodeId).isSome := by
    intro nodes m info info' hr
    by_cases hm : nodeId = m
    · rw [hm, hr.new]
      rfl
    · rwa [hr.other nodeId hm]
  cases h with
  | keep hr => exact hreplaces hr
  | report _ hr => exact hreplaces hr
  | lose hr => exact hreplaces hr
  | identify hr => exact hreplaces hr
  | answer => exact hget
  | verify hr => exact hreplaces hr
  | move => exact hget

theorem MnContext.configured_runCycle {σ : Type} [ObjectDictionaryStorage σ] {c d : MnContext σ}
    {input : CycleInput} {action : NodeAction} (h : c.runCycle input = some (action, d))
    (hqueue : c.QueueOk) {nodeId : NodeId} (hget : (c.nodeInfo.get? nodeId).isSome) :
    (d.nodeInfo.get? nodeId).isSome := by
  obtain ⟨v, hreceived, hticked⟩ := MnContext.runCycle_boot h hqueue
  have hv : (v.nodes.get? nodeId).isSome :=
    hreceived.induct (fun a b hstep ha => hstep.configured nodeId ha) hget
  have hd : (d.bootView.nodes.get? nodeId).isSome :=
    hticked.induct (fun a b hstep ha => hstep.configured nodeId ha) hv
  exact hd

/-- The PRes of a node that has a frame to send. -/
def CycleInput.presRequest (nodeId : UInt8) (nmtState : NmtState) (timeUs : ℕ) : CycleInput where
  ethernetFrame := some (PowerlinkFrame.pRes
    { ethHeader := .new ⟨0, 0, 0, 0, 0, 240⟩ ⟨0, 0, 0, 0, 0, nodeId⟩
      destination := cAdrBroadcastNodeId
      source := ⟨nodeId⟩
      nmtState := nmtState
      flags := ⟨false, false, false, .low1, ⟨1⟩⟩
      pdoVersion := ⟨0⟩
      payloadSize := 0
      payload := [] }).received
  udpDatagram := none
  currentTimeUs := timeUs

/-- A request that is received comes from a configured node with fewer than seven entries. -/
def Returned.HasRoom {σ : Type} (x : Returned σ) : Prop :=
  ∀ request ∈ x.before.receivedRequests x.input,
    (x.before.nodeInfo.get? request.nodeId).isSome ∧ x.before.requestsOf request.nodeId < 7

namespace MnContext

variable {σ : Type}

/-- A call receives one request at most. -/
theorem receivedRequests_cases (c : MnContext σ) (input : CycleInput) :
    c.receivedRequests input = [] ∨ ∃ request, c.receivedRequests input = [request] := by
  unfold receivedRequests
  split_ifs
  · exact .inl rfl
  · split
    · unfold presRequests
      split_ifs
      · exact .inr ⟨_, rfl⟩
      · exact .inl rfl
    · exact .inl rfl

/-- With room for the request that is received the queue stays within its bounds. -/
theorem QueuesBounded.requests {c d e : MnContext σ} {request : AsyncRequest}
    (h : c.QueuesBounded) (hfed : Fed c e [request]) (hshrinks : Shrinks e d)
    (hroom : c.requestsOf request.nodeId < 7) (nodeId : NodeId) : d.requestsOf nodeId ≤ 7 := by
  have hle : d.requestsOf nodeId ≤ e.requestsOf nodeId := hshrinks.requests.countP_le
  have hsum : e.requestsOf nodeId =
      c.requestsOf nodeId + if request.nodeId = nodeId then 1 else 0 := by
    unfold requestsOf
    rw [hfed.requests, List.countP_append, List.countP_singleton]
    simp only [decide_eq_true_eq]
  have hbounded := h.bounded nodeId
  split_ifs at hsum with hnode
  · rw [hnode] at hroom
    omega
  · omega

end MnContext

namespace MnRun

variable {σ : Type} [ObjectDictionaryStorage σ]

/-- The queues are bounded in every run in which every request that is received comes from a
configured node with fewer than seven entries. -/
theorem queues_bounded :
    Throughout (fun r : MnRun σ =>
      (∀ x ∈ r.returned, x.HasRoom) → r.context.QueuesBounded) := by
  apply throughout_of_cycleInv
  · intro od mac cfg machine cycleTimeUs lists publish _ _
    exact ⟨List.nodup_nil, nofun, fun _ => Nat.zero_le _⟩
  · intro r input action d hcycle hbounded hrun hroom
    obtain ⟨hnew, hold⟩ := List.forall_mem_cons.mp hroom
    have hinv := hbounded hold
    obtain ⟨e, hfed, hshrinks⟩ := MnContext.runCycle_requests hrun
    have hconfigured : ∀ {nodeId}, (r.context.nodeInfo.get? nodeId).isSome →
        (d.nodeInfo.get? nodeId).isSome := MnContext.configured_runCycle hrun hcycle.queue
    obtain hnone | ⟨request, hone⟩ := r.context.receivedRequests_cases input
    · rw [hnone] at hfed
      have hsub := (hfed.shrinks.trans hshrinks).requests
      refine ⟨hshrinks.status (hfed.status hinv.status), ?_, ?_⟩
      · exact fun request hmem => hconfigured (hinv.configured request (hsub.subset hmem))
      · exact fun nodeId => hsub.countP_le.trans (hinv.bounded nodeId)
    · rw [hone] at hfed
      have hmem : request ∈ r.context.receivedRequests input := by
        rw [hone]
        exact List.mem_singleton_self request
      obtain ⟨hsource, hroom⟩ := hnew request hmem
      refine ⟨hshrinks.status (hfed.status hinv.status), ?_, hinv.requests hfed hshrinks hroom⟩
      intro request hmem
      have hmem' := hshrinks.requests.subset hmem
      rw [hfed.requests] at hmem'
      obtain hmem' | hmem' := List.mem_append.mp hmem'
      · exact hconfigured (hinv.configured request hmem')
      · rw [List.mem_singleton.mp hmem']
        exact hconfigured hsource

/-- A node that keeps its RS flag set for eight PRes frames has eight entries. -/
theorem queues_not_bounded : ¬ Throughout (fun r : MnRun Empty => r.context.QueuesBounded) := by
  intro h
  have hbounded := h.mono (fun r hr => hr.bounded ⟨1⟩)
  revert hbounded
  apply not_throughout (mnDictionary 0x100 [9]) ⟨0, 0, 0, 0, 0, 240⟩ none
    (.idle 0 :: List.replicate 8 (.presRequest 1 .nmtPreOperational2 10))
  decide +kernel

end MnRun

end Powerlink
