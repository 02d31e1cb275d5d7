import Powerlink.Mn.BusAccess
import Powerlink.Mn.Commands
import Powerlink.Cn.Runs

/-! # The start of the mandatory nodes

A managing node that has become operational starts the mandatory nodes once: bit 1 of the startup
flags says whether by a broadcast at once, or by commands to the single nodes that wait for the own
asynchronous slot.

`cycle::tick` queues a command for the first mandatory node only, and a controlled node takes no
NMT command that is not addressed to itself, so that none accepts the broadcast.
`mandatory_nodes_started` says that every mandatory node is started, exactly once for every entry
into `NmtOperational`, if the flag asks for single commands and there is no second mandatory
node. -/

namespace Powerlink

namespace MnContext

variable {σ : Type}

/-- The command that starts a node. -/
def startCommand (nodeId : NodeId) : NmtCommandEntry := (.state .startNode, nodeId, .none)

/-- The one-time actions are still to do; they are done by the next `cycle::tick`. -/
def owesStart (c : MnContext σ) : ℕ :=
  if c.nmtState = .nmtOperational ∧ c.initialOperationalActionsDone = false then 1 else 0

/-- One for an operational node. -/
def operational (c : MnContext σ) : ℕ := if c.nmtState = .nmtOperational then 1 else 0

/-- The mandatory nodes are started one by one, and there is only one. -/
def StartsSingly (c : MnContext σ) : Prop :=
  c.nmtStateMachine.startupBit 1 = false ∧
    ∀ nodeId ∈ c.mandatoryNodes, c.mandatoryNodes.head? = some nodeId

end MnContext

/-- A node in `NmtReadyToOperate` does not stay there when it receives the octets. -/
def CnContext.AcceptsStart {σ : Type} [ObjectDictionaryStorage σ] (c : CnContext σ)
    (bytes : List UInt8) : Prop :=
  c.nmtState = .nmtReadyToOperate → ∀ timeUs action d,
    c.processEthernetFrame bytes timeUs = some (action, d) → d.nmtState ≠ .nmtReadyToOperate

namespace ApiReturned

variable {σ : Type} [ObjectDictionaryStorage σ]

/-- The commands to start a node that the node itself queues in a call. -/
def startsQueued (x : ApiReturned σ) (nodeId : NodeId) : ℕ :=
  match x.call with
  | .runCycle _ => x.queued.count (MnContext.startCommand nodeId)
  | _ => 0

/-- One for a call in which the node becomes operational. -/
def entersOperational (x : ApiReturned σ) : ℕ :=
  if x.before.nmtState ≠ .nmtOperational ∧ x.after.nmtState = .nmtOperational then 1 else 0

/-- The call sends the broadcast that starts all nodes, and not from the queue. -/
def broadcastsStart (x : ApiReturned σ) : Bool :=
  x.ownSlot.isNone && x.after.sendsCommand x.action (MnContext.startCommand cAdrBroadcastNodeId)

end ApiReturned

namespace ApiRun

variable {σ : Type} [ObjectDictionaryStorage σ]

/-- The number of commands to start a node that were queued. -/
def startsQueued (r : ApiRun σ) (nodeId : NodeId) : ℕ :=
  (r.returned.map (fun x => x.startsQueued nodeId)).sum

/-- The number of entries into `NmtOperational`. -/
def entries (r : ApiRun σ) : ℕ := (r.returned.map ApiReturned.entersOperational).sum

/-- Without bit 1, a command is queued for each mandatory node, once for every entry. -/
def StartsEach (r : ApiRun σ) : Prop :=
  r.context.nmtStateMachine.startupBit 1 = false → ∀ nodeId ∈ r.context.mandatoryNodes,
    r.startsQueued nodeId + r.context.owesStart = r.entries

/-- With bit 1, a broadcast is sent once for every entry, and every controlled node accepts it. -/
def StartsAll (r : ApiRun σ) : Prop :=
  r.context.nmtStateMachine.startupBit 1 = true →
    r.returned.countP ApiReturned.broadcastsStart + r.context.owesStart = r.entries ∧
    ∀ x ∈ r.returned, x.broadcastsStart = true → ∀ bytes, x.action = .sendFrame bytes →
      CnRun.Throughout (fun s : CnRun σ => s.context.AcceptsStart bytes)

/-- The commands are queued before the own slot is used. -/
def StartsBeforeSlot (r : ApiRun σ) : Prop :=
  ∀ x ∈ r.returned, ∀ c, x.ownSlot = some c → c.owesStart = 0

end ApiRun

/-! ### What a step owes -/

namespace MnNmtStateMachine

/-- `NmtOperational` is not left by an event of the boot-up. -/
theorem Moves.operational {m m' : MnNmtStateMachine} (h : m.Moves m')
    (hop : m.currentState = .nmtOperational) : m'.currentState = .nmtOperational := by
  induction h with
  | refl => exact hop
  | tail _ hstep ih =>
      obtain ⟨event, hevent, rfl⟩ := hstep
      dsimp only [nextState]
      rw [ih]
      cases event with
      | error => cases hevent
      | _ => rfl

theorem Moves.startupBit {m m' : MnNmtStateMachine} (h : m.Moves m') (bit : UInt32) :
    m'.startupBit bit = m.startupBit bit := by
  induction h with
  | refl => rfl
  | tail _ hstep ih =>
      obtain ⟨event, -, rfl⟩ := hstep
      exact ih

end MnNmtStateMachine

namespace MnContext

variable {σ : Type} {c d e : MnContext σ} {nodeId : NodeId}

/-- The flag of the one-time actions is set in `NmtOperational` only. -/
def DoneWhenOperational (c : MnContext σ) : Prop :=
  c.initialOperationalActionsDone = true → c.nmtState = .nmtOperational

/-- The account of a step: an entry into `NmtOperational` is paid by one command, or is owed. -/
structure Pays (nodeId : NodeId) (c d : MnContext σ) : Prop where
  mandatory : d.mandatoryNodes = c.mandatoryNodes
  startup : d.nmtStateMachine.startupBit 1 = c.nmtStateMachine.startupBit 1
  stays : c.nmtState = .nmtOperational → d.nmtState = .nmtOperational
  done : c.DoneWhenOperational → d.DoneWhenOperational
  account : c.DoneWhenOperational → c.nmtStateMachine.startupBit 1 = false →
    c.mandatoryNodes.head? = some nodeId →
    d.pendingNmtCommands.count (startCommand nodeId) + d.owesStart + c.operational =
      c.pendingNmtCommands.count (startCommand nodeId) + c.owesStart + d.operational

theorem Pays.refl (nodeId : NodeId) (c : MnContext σ) : Pays nodeId c c :=
  ⟨rfl, rfl, id, id, fun _ _ _ => rfl⟩

theorem Pays.trans (h : Pays nodeId c d) (h' : Pays nodeId d e) : Pays nodeId c e where
  mandatory := h'.mandatory.trans h.mandatory
  startup := h'.startup.trans h.startup
  stays := fun hc => h'.stays (h.stays hc)
  done := fun hc => h'.done (h.done hc)
  account := by
    intro hc hbit hhead
    have hfirst := h.account hc hbit hhead
    have hsecond := h'.account (h.done hc) (h.startup.trans hbit) (h.mandatory ▸ hhead)
    omega

/-- A step that changes the NMT state at most, and queues no start. -/
theorem pays_of_count (hmandatory : d.mandatoryNodes = c.mandatoryNodes)
    (hstartup : d.nmtStateMachine.startupBit 1 = c.nmtStateMachine.startupBit 1)
    (hstays : c.nmtState = .nmtOperational → d.nmtState = .nmtOperational)
    (hdone : d.initialOperationalActionsDone = c.initialOperationalActionsDone)
    (hcount : d.pendingNmtCommands.count (startCommand nodeId) =
      c.pendingNmtCommands.count (startCommand nodeId)) : Pays nodeId c d where
  mandatory := hmandatory
  startup := hstartup
  stays := hstays
  done := fun hc hd => hstays (hc (hdone ▸ hd))
  account := by
    intro hc _ _
    rw [hcount]
    unfold owesStart operational
    rw [hdone]
    by_cases hop : c.nmtState = .nmtOperational
    · rw [hstays hop, hop]
    · have hflag : c.initialOperationalActionsDone = false :=
        Bool.eq_false_iff.mpr (fun hflag => hop (hc hflag))
      rw [hflag]
      simp [hop]

theorem SameQueues.pays (h : SameQueues c d) (nodeId : NodeId) : Pays nodeId c d := by
  have hstate : d.nmtState = c.nmtState := congrArg MnNmtStateMachine.currentState h.machine
  refine pays_of_count h.mandatory (by rw [h.machine]) ?_ h.done (by rw [h.commands])
  exact fun hop => hstate.trans hop

theorem Fed.pays {requests : List AsyncRequest} (h : Fed c d requests) (nodeId : NodeId) :
    Pays nodeId c d := by
  obtain ⟨queued, hqueued, hother⟩ := h.commands
  have hnone : queued.count (startCommand nodeId) = 0 :=
    List.count_eq_zero.mpr (fun hmem => hother _ hmem rfl)
  refine pays_of_count h.mandatory (h.machine.startupBit 1) h.machine.operational h.done ?_
  rw [hqueued, List.count_append, hnone, Nat.add_zero]

/-- What the one-time actions do. -/
inductive ActionsStep (c : MnContext σ) : MnContext σ → Prop
  /-- All nodes are started by a broadcast. -/
  | broadcast (howes : c.owesStart = 1) (hbit : c.nmtStateMachine.startupBit 1 = true) :
      ActionsStep c (count { c with initialOperationalActionsDone := true } 5)
  /-- The first mandatory node, if there is one, is started by a command. -/
  | command (howes : c.owesStart = 1) (hbit : c.nmtStateMachine.startupBit 1 = false) :
      ActionsStep c { c with
        initialOperationalActionsDone := true
        pendingNmtCommands :=
          c.pendingNmtCommands ++ c.mandatoryNodes.head?.toList.map startCommand }
  /-- The flag is cleared below `NmtOperational`. -/
  | clear (hstate : c.nmtState ≠ .nmtOperational) :
      ActionsStep c { c with initialOperationalActionsDone := false }
  /-- Nothing is owed. -/
  | settled (howes : c.owesStart = 0) : ActionsStep c c

theorem initialOperationalActions_cases {action : Option NodeAction}
    (h : c.initialOperationalActions = (action, d)) : ActionsStep c d := by
  cases initialOperationalActions_way h with
  | broadcast hdue hbit => exact .broadcast (if_pos hdue) hbit
  | command hdue hbit hhead =>
      have hcommand := ActionsStep.command (if_pos hdue) hbit
      rw [hhead] at hcommand
      exact hcommand
  | nobody hdue hbit hhead =>
      have hcommand := ActionsStep.command (if_pos hdue) hbit
      rw [hhead] at hcommand
      simpa [actionsDone] using hcommand
  | reset hstate => exact .clear (fun heq => absurd hstate (by rw [heq]; decide))
  | settled hnot => exact .settled (if_neg hnot)

/-- The one-time actions leave nothing owed. -/
theorem ActionsStep.owesStart (h : ActionsStep c d) : d.owesStart = 0 := by
  cases h with
  | broadcast howes hbit => exact if_neg (by simp [count])
  | command howes hbit => exact if_neg (by simp)
  | clear hstate => exact if_neg (fun hop => hstate hop.1)
  | settled howes => exact howes

/-- The one-time actions pay what is owed. -/
theorem ActionsStep.pays (h : ActionsStep c d) (nodeId : NodeId) : Pays nodeId c d := by
  have howed : c.owesStart = 1 → c.nmtState = .nmtOperational := by
    intro howes
    by_contra hop
    rw [MnContext.owesStart, if_neg (fun h => hop h.1)] at howes
    cases howes
  cases h with
  | broadcast howes hbit =>
      refine ⟨rfl, rfl, id, fun _ _ => howed howes, ?_⟩
      intro _ hnot
      rw [hbit] at hnot
      cases hnot
  | command howes hbit =>
      refine ⟨rfl, rfl, id, fun _ _ => howed howes, ?_⟩
      intro _ _ hhead
      have hpaid := (ActionsStep.command howes hbit).owesStart
      rw [hhead] at hpaid ⊢
      rw [hpaid, howes]
      simp only [Option.toList_some, List.map_cons, List.map_nil, List.count_append,
        List.count_singleton_self]
      rfl
  | clear hstate =>
      refine ⟨rfl, rfl, id, fun _ => nofun, ?_⟩
      intro _ _ _
      have hbefore : c.owesStart = 0 := if_neg (fun hop => hstate hop.1)
      rw [hbefore, (ActionsStep.clear hstate).owesStart]
      rfl
  | settled => exact Pays.refl nodeId c

variable [ObjectDictionaryStorage σ]

theorem pays_activate (c : MnContext σ) (nodeId : NodeId) :
    Pays nodeId c (c.processNmtEvent .timeout) := by
  have hqueues := c.processNmtEvent_queues .timeout
  have hmachine : (c.processNmtEvent .timeout).nmtStateMachine =
      { c.nmtStateMachine with currentState := c.nmtStateMachine.nextState .timeout } :=
    (congrArg QueueView.machine hqueues).trans (MnNmtStateMachine.processEvent_machine _ _ rfl)
  refine pays_of_count (congrArg QueueView.mandatory hqueues) (by rw [hmachine]; rfl) ?_
    (congrArg QueueView.done hqueues)
    (congrArg (fun q : QueueView => q.commands.count (startCommand nodeId)) hqueues)
  intro hop
  have hstate : c.nmtStateMachine.currentState = .nmtOperational := hop
  rw [nmtState_timeout]
  unfold MnNmtStateMachine.nextState
  rw [hstate]

theorem QueueStep.pays {choices : List AsyncChoice} (h : QueueStep choices c d)
    (nodeId : NodeId) : Pays nodeId c d := by
  cases h with
  | same h => exact h.pays nodeId
  | fed h => exact h.pays nodeId
  | @choose choice h _ =>
      cases choice with
      | _ => exact pays_of_count rfl rfl id rfl rfl
  | actions h => exact (initialOperationalActions_cases h).pays nodeId
  | activate => exact c.pays_activate nodeId

theorem QueuePath.pays {choices : List AsyncChoice} (h : QueuePath choices c d)
    (nodeId : NodeId) : Pays nodeId c d := by
  induction h with
  | refl => exact Pays.refl nodeId c
  | tail _ hstep ih => exact ih.trans (hstep.pays nodeId)

omit [ObjectDictionaryStorage σ] in
/-- The own slot leaves everything but the queues. -/
theorem sendOwnAsync_frame {t : ℕ} {action : NodeAction} (h : c.sendOwnAsync t = (action, d)) :
    d.nmtStateMachine = c.nmtStateMachine ∧
      d.initialOperationalActionsDone = c.initialOperationalActionsDone ∧
      d.mandatoryNodes = c.mandatoryNodes := by
  cases sendOwnAsync_way h with
  | _ => exact ⟨rfl, rfl, rfl⟩

/-! ### The own slot -/

omit [ObjectDictionaryStorage σ] in
/-- Only the follow-up actions reach the own slot. -/
theorem DeadlineWay.actions_of_own (h : DeadlineWay c (.own d)) :
    ∃ e : MnContext σ, e.initialOperationalActions = (none, d) := by
  cases h with
  | own next hactions => exact ⟨_, hactions⟩

omit [ObjectDictionaryStorage σ] in
theorem tickPoint_own {t : ℕ} (h : c.tickPoint t = .own d) :
    ∃ e : MnContext σ, e.initialOperationalActions = (none, d) := by
  have hway := c.tickPoint_way t
  rw [h] at hway
  cases hway with
  | deadline _ _ hway => exact hway.actions_of_own

/-- Nothing is owed in the own slot. -/
theorem owesStart_ownSlot {input : CycleInput} (h : c.ownSlot input = some d) :
    d.owesStart = 0 := by
  cases hcontext : c.tickContext input with
  | none =>
      rw [ownSlot, hcontext] at h
      cases h
  | some e =>
      obtain ⟨f, hactions⟩ := tickPoint_own (tickPoint_of_ownSlot hcontext h)
      exact (initialOperationalActions_cases hactions).owesStart

end MnContext

/-! ### What a call owes -/

namespace ApiReturned

variable {σ : Type} [ObjectDictionaryStorage σ]

/-- The account of a call. -/
structure Pays (nodeId : NodeId) (x : ApiReturned σ) : Prop where
  mandatory : x.after.mandatoryNodes = x.before.mandatoryNodes
  startup : x.after.nmtStateMachine.startupBit 1 = x.before.nmtStateMachine.startupBit 1
  done : x.before.DoneWhenOperational → x.after.DoneWhenOperational
  account : x.before.DoneWhenOperational → x.before.nmtStateMachine.startupBit 1 = false →
    x.before.mandatoryNodes.head? = some nodeId →
    x.startsQueued nodeId + x.after.owesStart = x.before.owesStart + x.entersOperational

omit [ObjectDictionaryStorage σ] in
/-- An operational node stays so, and the calls that make it operational are counted. -/
theorem operational_add_entersOperational {x : ApiReturned σ}
    (h : x.before.nmtState = .nmtOperational → x.after.nmtState = .nmtOperational) :
    x.before.operational + x.entersOperational = x.after.operational := by
  unfold entersOperational MnContext.operational
  by_cases hop : x.before.nmtState = .nmtOperational
  · simp [hop, h hop]
  · simp [hop]

/-- A method of the application leaves the account alone. -/
theorem pays_of_method {c d : MnContext σ} {call : MnCall} {action : NodeAction}
    (hcall : ∀ nodeId, (ApiReturned.mk c call action d).startsQueued nodeId = 0)
    (hmachine : d.nmtStateMachine = c.nmtStateMachine)
    (hdone : d.initialOperationalActionsDone = c.initialOperationalActionsDone)
    (hmandatory : d.mandatoryNodes = c.mandatoryNodes) (nodeId : NodeId) :
    (ApiReturned.mk c call action d).Pays nodeId := by
  have hstate : d.nmtState = c.nmtState := congrArg MnNmtStateMachine.currentState hmachine
  refine ⟨hmandatory, by rw [hmachine], ?_, ?_⟩
  · intro hc hd
    exact hstate.trans (hc (hdone ▸ hd))
  · intro _ _ _
    have howes : d.owesStart = c.owesStart := by
      unfold MnContext.owesStart
      rw [hstate, hdone]
    have henters : (ApiReturned.mk c call action d).entersOperational = 0 :=
      if_neg (fun h => h.1 (hstate ▸ h.2))
    rw [hcall, henters, Nat.zero_add, Nat.add_zero]
    exact howes

/-- A call of `run_cycle`, up to the context `w` in which the own slot is used or that is the last
one. -/
theorem pays_of_runCycle {c d w : MnContext σ} {input : CycleInput} {action : NodeAction}
    {nodeId : NodeId} (hpays : MnContext.Pays nodeId c w)
    (hwaiting : (ApiReturned.mk c (.runCycle input) action d).waiting = w.pendingNmtCommands)
    (hqueues : (ApiReturned.mk c (.runCycle input) action d).Queues)
    (hmachine : d.nmtStateMachine = w.nmtStateMachine)
    (hdone : d.initialOperationalActionsDone = w.initialOperationalActionsDone)
    (hmandatory : d.mandatoryNodes = w.mandatoryNodes) :
    (ApiReturned.mk c (.runCycle input) action d).Pays nodeId := by
  have hstate : d.nmtState = w.nmtState := congrArg MnNmtStateMachine.currentState hmachine
  refine ⟨hmandatory.trans hpays.mandatory, by rw [hmachine]; exact hpays.startup, ?_, ?_⟩
  · intro hc hd
    exact hstate.trans (hpays.done hc (hdone ▸ hd))
  · intro hc hbit hhead
    have haccount := hpays.account hc hbit hhead
    have henters := operational_add_entersOperational
      (x := ApiReturned.mk c (.runCycle input) action d) (fun hop => hstate.trans (hpays.stays hop))
    have hcount : w.pendingNmtCommands.count (MnContext.startCommand nodeId) =
        c.pendingNmtCommands.count (MnContext.startCommand nodeId) +
          (ApiReturned.mk c (.runCycle input) action d).startsQueued nodeId := by
      rw [← hwaiting, hqueues.waiting, List.count_append]
      rfl
    have howes : d.owesStart = w.owesStart := by
      unfold MnContext.owesStart
      rw [hstate, hdone]
    have hop : d.operational = w.operational := by
      unfold MnContext.operational
      rw [hstate]
    dsimp only at henters ⊢
    omega

end ApiReturned

theorem MnContext.call_pays {σ : Type} [ObjectDictionaryStorage σ] {c d : MnContext σ}
    {call : MnCall} {action : NodeAction} (h : c.call call = some (action, d)) (nodeId : NodeId) :
    (ApiReturned.mk c call action d).Pays nodeId := by
  have hqueues := call_queues h
  cases call with
  | runCycle input =>
      obtain ⟨e, hfed, hway⟩ := runCycle_queues h
      cases hway with
      | path hslot hpath =>
          refine ApiReturned.pays_of_runCycle
            ((hfed.pays nodeId).trans (QueuePath.pays hpath nodeId)) ?_ hqueues rfl rfl rfl
          unfold ApiReturned.waiting ApiReturned.ownSlot
          dsimp only
          rw [hslot]
      | @own o hslot hpath hown =>
          obtain ⟨hmachine, hdone, hmandatory⟩ := sendOwnAsync_frame hown
          refine ApiReturned.pays_of_runCycle
            ((hfed.pays nodeId).trans (QueuePath.pays hpath nodeId)) ?_ hqueues hmachine hdone
            hmandatory
          unfold ApiReturned.waiting ApiReturned.ownSlot
          dsimp only
          rw [hslot]
  | setHostname target hostname =>
      obtain ⟨-, rfl⟩ := Prod.mk.inj (Option.some.inj h)
      apply ApiReturned.pays_of_method
      · exact fun _ => rfl
      all_goals
        unfold setHostname
        split_ifs
        · rfl
        · rfl
        · rfl
  | _ =>
      obtain ⟨-, rfl⟩ := Prod.mk.inj (Option.some.inj h)
      apply ApiReturned.pays_of_method
      · exact fun _ => rfl
      · rfl
      · rfl
      · rfl

/-! ### Every run -/

namespace ApiRun

variable {σ : Type} [ObjectDictionaryStorage σ]

/-- The account of a run, for the first mandatory node. -/
structure StartInv (r : ApiRun σ) : Prop where
  done : r.context.DoneWhenOperational
  slot : r.StartsBeforeSlot
  account : r.context.nmtStateMachine.startupBit 1 = false →
    ∀ nodeId, r.context.mandatoryNodes.head? = some nodeId →
      r.startsQueued nodeId + r.context.owesStart = r.entries

theorem start_inv : Throughout (fun r : ApiRun σ => r.StartInv) := by
  apply throughout_of_call
  · intro od mac cfg machine cycleTimeUs lists publish hstate
    refine ⟨nofun, fun x hx => (nomatch hx), ?_⟩
    intro _ nodeId _
    have hne : machine.currentState ≠ .nmtOperational := by
      rw [hstate]
      decide
    exact congrArg (0 + ·) (if_neg (fun hop => hne hop.1))
  · intro r call action d hr hcall
    refine ⟨?_, ?_, ?_⟩
    · exact (MnContext.call_pays hcall ⟨0⟩).done hr.done
    · refine List.forall_mem_cons.mpr ⟨?_, hr.slot⟩
      intro c hslot
      cases call with
      | runCycle input => exact MnContext.owesStart_ownSlot hslot
      | _ => cases hslot
    · intro hbit nodeId hhead
      have hpays := MnContext.call_pays hcall nodeId
      have hbit' := hpays.startup.symm.trans hbit
      have hhead' := (congrArg List.head? hpays.mandatory).symm.trans hhead
      have hbefore := hr.account hbit' nodeId hhead'
      have haccount := hpays.account hr.done hbit' hhead'
      unfold startsQueued entries at hbefore ⊢
      simp only [List.map_cons, List.sum_cons]
      dsimp only at haccount
      omega

/-- Every mandatory node is started exactly once for every entry into `NmtOperational`, in every
run of a node that starts its nodes one by one and has one mandatory node at most. -/
theorem mandatory_nodes_started :
    Throughout (fun r : ApiRun σ => r.context.StartsSingly →
      r.StartsEach ∧ r.StartsAll ∧ r.StartsBeforeSlot) := by
  refine start_inv.mono ?_
  intro r hinv hsingly
  refine ⟨?_, ?_, hinv.slot⟩
  · intro hbit nodeId hmem
    exact hinv.account hbit nodeId (hsingly.2 nodeId hmem)
  · intro hbit
    rw [hsingly.1] at hbit
    cases hbit

/-- Two nodes become ready, and the managing node operational; the next cycle reaches its first
follow-up action. -/
def twoNodesOperational : List MnCall :=
  (twoNodesPreop ++ ([.pres 1 .nmtReadyToOperate 3020, .pres 2 .nmtReadyToOperate 3030, .idle 4000,
    .idle 4001] : List CycleInput)).map .runCycle

/-- The broadcast that starts all nodes. -/
def startBroadcast : PowerlinkFrame :=
  .aSnd (.new ⟨0, 0, 0, 0, 0, 240⟩ cDllMulticastAsnd cAdrBroadcastNodeId cAdrMnDefNodeId
    .nmtCommand [0x21, 0])

/-- The second of two mandatory nodes is not started, and the broadcast leaves a controlled node in
`NmtReadyToOperate`. -/
theorem mandatory_node_not_started :
    ¬Throughout (fun r : ApiRun Empty => r.StartsEach) ∧
      ¬Throughout (fun r : ApiRun Empty => r.StartsAll) := by
  constructor
  · intro h
    have heach := h.mono (fun r hr => show r.context.nmtStateMachine.startupBit 1 = false →
        ⟨2⟩ ∈ r.context.mandatoryNodes →
        r.startsQueued ⟨2⟩ + r.context.owesStart = r.entries from
      fun hbit hmem => hr hbit ⟨2⟩ hmem)
      (mnDictionary 0 [9, 9]) ⟨0, 0, 0, 0, 0, 240⟩ none twoNodesOperational
    revert heach
    apply Runs.not_always_reached
    decide +kernel
  · intro h
    have hignored : ¬CnRun.Throughout (fun s : CnRun Empty =>
        s.context.AcceptsStart startBroadcast.received) := by
      intro hall
      have haccepts := hall.mono (fun s hs => show s.context.nmtState = .nmtReadyToOperate →
          (s.context.processEthernetFrame startBroadcast.received 3000).all
            (fun p => p.2.nmtState ≠ .nmtReadyToOperate) from by
        intro hready
        cases hframe : s.context.processEthernetFrame startBroadcast.received 3000 with
        | none => rfl
        | some p => exact decide_eq_true (hs hready 3000 p.1 p.2 hframe))
        (cnDictionary 1 0 []) ⟨0, 0, 0, 0, 0, 1⟩ [.soc 1000, .soc 2000, .configurationComplete]
      revert haccepts
      apply Runs.not_always_reached
      decide +kernel
    have hall := h.mono (fun r hr => show r.context.nmtStateMachine.startupBit 1 = true →
        ∀ x ∈ r.returned, x.broadcastsStart = true →
          x.action ≠ .sendFrame startBroadcast.received from
      fun hbit x hx hbroadcast haction =>
        hignored ((hr hbit).2 x hx hbroadcast startBroadcast.received haction))
      (mnDictionary 2 [9, 9]) ⟨0, 0, 0, 0, 0, 240⟩ none twoNodesOperational
    revert hall
    apply Runs.not_always_reached
    decide +kernel

end ApiRun

end Powerlink
