import Powerlink.Mn.Boot
import Powerlink.Mn.Deadlines

/-! # The order of the boot-up

The transitions of a managing node from `NmtPreOperational1` to `NmtOperational` wait for the
mandatory nodes.  The first two look at the tracked states and always hold what they promise.  The
last one only looks at `communication_ok`, which stays set when a node stops, is lost or comes back
to `PreOperational`, and which a PRes sets in any tracked state.  `boot_order` says that nothing
else can go wrong: as long as neither happens, every mandatory node takes part and has sent a PRes
within its limit since it last entered `PreOperational`. -/

namespace Powerlink

open MnContext

/-- A PRes of the node within its limit has arrived since the node last entered
`PreOperational`. -/
def verifiedSince (nodeId : NodeId) : List MnEvent → Bool
  | [] => false
  | .presReceived source withinLimit _ _ :: log =>
      decide (source = nodeId) && withinLimit || verifiedSince nodeId log
  | .tracked source _ .preOperational :: log =>
      !decide (source = nodeId) && verifiedSince nodeId log
  | _ :: log => verifiedSince nodeId log

/-- The tracked state of an identified node that has neither stopped nor been lost. -/
def HasJoined (state : CnState) : Prop := state = .identified ∨ TakesPart state

instance (state : CnState) : Decidable (HasJoined state) :=
  inferInstanceAs (Decidable (_ ∨ _))

/-- The condition for the first two transitions of the boot-up. -/
def MnEvent.gateMet (mandatoryNodes : List NodeId) : MnEvent → Bool
  | .transition .nmtPreOperational1 .nmtPreOperational2 nodes =>
      mandatoryNodes.all (fun nodeId => decide (HasJoined (nodes.state nodeId)))
  | .transition .nmtPreOperational2 .nmtReadyToOperate nodes =>
      mandatoryNodes.all (fun nodeId => decide (TakesPart (nodes.state nodeId)))
  | _ => true

/-- The condition for the transition to `NmtOperational`. -/
def operationalGateMet (mandatoryNodes : List NodeId) : List MnEvent → Bool
  | [] => true
  | .transition old new nodes :: log =>
      (!decide (old = .nmtReadyToOperate ∧ new = .nmtOperational) ||
        mandatoryNodes.all (fun nodeId =>
          decide (TakesPart (nodes.state nodeId)) && verifiedSince nodeId log)) &&
        operationalGateMet mandatoryNodes log
  | _ :: log => operationalGateMet mandatoryNodes log

/-- A verified mandatory node does not stop, is not lost and does not come back to
`PreOperational`, and a mandatory node is verified only while it takes part. -/
def MnEvent.keepsVerified (mandatoryNodes : List NodeId) : MnEvent → Bool
  | .tracked nodeId info new =>
      !(decide (nodeId ∈ mandatoryNodes) && info.communicationOk &&
        decide (new = .stopped ∨ new = .missing ∨ new = .preOperational))
  | .presReceived nodeId withinLimit state nmtState =>
      !(decide (nodeId ∈ mandatoryNodes) && withinLimit &&
        decide (nmtState = .nmtReadyToOperate)) || decide (TakesPart state)
  | _ => true

theorem verifiedSince_tracked {nodeId source : NodeId} {info : CnInfo} {new : CnState}
    (log : List MnEvent) (h : source ≠ nodeId ∨ new ≠ .preOperational) :
    verifiedSince nodeId (.tracked source info new :: log) = verifiedSince nodeId log := by
  cases new with
  | preOperational =>
      obtain hne | hne := h
      · show (!decide (source = nodeId) && verifiedSince nodeId log) = _
        rw [decide_eq_false hne]
        rfl
      · exact absurd rfl hne
  | _ => rfl

theorem verifiedSince_filter (nodeId : NodeId) : ∀ history : List MnEvent,
    verifiedSince nodeId (history.filter (fun e => !e.isCycle)) = verifiedSince nodeId history
  | [] => rfl
  | event :: history => by
      have ih := verifiedSince_filter nodeId history
      cases event with
      | presReceived source withinLimit state nmtState =>
          exact congrArg (decide (source = nodeId) && withinLimit || ·) ih
      | tracked source info new =>
          cases new with
          | preOperational => exact congrArg (!decide (source = nodeId) && ·) ih
          | _ => exact ih
      | _ => exact ih

theorem operationalGateMet_transition {mandatoryNodes : List NodeId} {old new : NmtState}
    {nodes : NodeTable} {log : List MnEvent} (h : operationalGateMet mandatoryNodes log = true)
    (hgate : old = .nmtReadyToOperate → new = .nmtOperational → ∀ nodeId ∈ mandatoryNodes,
      TakesPart (nodes.state nodeId) ∧ verifiedSince nodeId log = true) :
    operationalGateMet mandatoryNodes (.transition old new nodes :: log) = true := by
  refine Bool.and_eq_true_iff.mpr ⟨?_, h⟩
  by_cases hmove : old = .nmtReadyToOperate ∧ new = .nmtOperational
  · refine Bool.or_eq_true_iff.mpr (.inr ?_)
    rw [List.all_eq_true]
    intro nodeId hmem
    obtain ⟨htakes, hsince⟩ := hgate hmove.1 hmove.2 nodeId hmem
    exact Bool.and_eq_true_iff.mpr ⟨decide_eq_true htakes, hsince⟩
  · rw [decide_eq_false hmove]
    rfl

theorem operationalGateMet_filter (mandatoryNodes : List NodeId) : ∀ history : List MnEvent,
    operationalGateMet mandatoryNodes (history.filter (fun e => !e.isCycle)) =
      operationalGateMet mandatoryNodes history
  | [] => rfl
  | event :: history => by
      have ih := operationalGateMet_filter mandatoryNodes history
      cases event with
      | transition old new nodes =>
          show ((_ || mandatoryNodes.all (fun nodeId => _ &&
            verifiedSince nodeId (history.filter (fun e => !e.isCycle)))) &&
            operationalGateMet mandatoryNodes (history.filter (fun e => !e.isCycle))) = _
          simp only [verifiedSince_filter, ih]
          rfl
      | _ => exact ih

/-! ### Steps -/

/-- Nothing has broken the verification. -/
def BootView.AllKept (v : BootView) : Prop :=
  ∀ e ∈ v.log, e.keepsVerified v.mandatoryNodes = true

/-- A mandatory node whose flag is set takes part and was verified since. -/
def BootView.Verified (v : BootView) : Prop :=
  ∀ nodeId ∈ v.mandatoryNodes, ∀ info, v.nodes.get? nodeId = some info →
    info.communicationOk = true → TakesPart info.state ∧ verifiedSince nodeId v.log = true

/-- What is proved of the boot-up of every reached context. -/
structure BootView.OrderInv (v : BootView) : Prop where
  gates : ∀ e ∈ v.log, e.gateMet v.mandatoryNodes = true
  operational : v.AllKept → operationalGateMet v.mandatoryNodes v.log = true ∧ v.Verified

theorem BootView.Verified.replace {v : BootView} {nodes : NodeTable} {nodeId : NodeId}
    {info info' : CnInfo} {log : List MnEvent} (hv : v.Verified)
    (h : v.nodes.Replaces nodes nodeId info info')
    (hlog : ∀ m, m ≠ nodeId → verifiedSince m v.log = true → verifiedSince m log = true)
    (hself : nodeId ∈ v.mandatoryNodes → info'.communicationOk = true →
      TakesPart info'.state ∧ verifiedSince nodeId log = true) :
    BootView.Verified { v with nodes := nodes, log := log } := by
  intro m hmem i hget hok
  by_cases hm : m = nodeId
  · subst hm
    obtain rfl := Option.some.inj (h.new.symm.trans hget)
    exact hself hmem hok
  · rw [h.other m hm] at hget
    obtain ⟨htakes, hsince⟩ := hv m hmem i hget hok
    exact ⟨htakes, hlog m hm hsince⟩

theorem keepsVerified_of_ok {mandatoryNodes : List NodeId} {nodeId : NodeId} {info : CnInfo}
    {new : CnState} (h : (MnEvent.tracked nodeId info new).keepsVerified mandatoryNodes = true)
    (hmem : nodeId ∈ mandatoryNodes) (hok : info.communicationOk = true) :
    new ≠ .stopped ∧ new ≠ .missing ∧ new ≠ .preOperational := by
  simp only [MnEvent.keepsVerified, hmem, hok, decide_true, Bool.true_and, Bool.not_eq_true',
    decide_eq_false_iff_not, not_or] at h
  exact h

theorem takesPart_of_keepsVerified {mandatoryNodes : List NodeId} {nodeId : NodeId}
    {state : CnState}
    (h : (MnEvent.presReceived nodeId true state .nmtReadyToOperate).keepsVerified
      mandatoryNodes = true) (hmem : nodeId ∈ mandatoryNodes) : TakesPart state := by
  simp only [MnEvent.keepsVerified, hmem, decide_true, Bool.true_and, Bool.not_true, Bool.false_or,
    decide_eq_true_eq] at h
  exact h

/-- The states that the condition for `NmtPreOperational2` lets pass. -/
theorem hasJoined_of_check {mandatoryNodes : List NodeId} {nodes : NodeTable}
    (h : checkAllMandatoryIdentified mandatoryNodes nodes = true) {nodeId : NodeId}
    (hmem : nodeId ∈ mandatoryNodes) : HasJoined (nodes.state nodeId) := by
  have hstate := List.all_eq_true.mp h nodeId hmem
  rw [Bool.and_eq_true_iff, decide_eq_true_iff, decide_eq_true_iff] at hstate
  revert hstate
  generalize nodes.state nodeId = state
  cases state <;> decide

/-- The states that the condition for `NmtReadyToOperate` lets pass. -/
theorem takesPart_of_check {mandatoryNodes : List NodeId} {nodes : NodeTable}
    (h : checkAllMandatoryPreop mandatoryNodes nodes = true) {nodeId : NodeId}
    (hmem : nodeId ∈ mandatoryNodes) : TakesPart (nodes.state nodeId) := by
  have hstate := List.all_eq_true.mp h nodeId hmem
  rw [Bool.and_eq_true_iff, decide_eq_true_iff, decide_eq_true_iff] at hstate
  revert hstate
  generalize nodes.state nodeId = state
  cases state <;> decide

/-- The first two transitions hold what they promise. -/
theorem BootView.Gate.met {v : BootView} {new : NmtState} (h : v.Gate new) :
    (MnEvent.transition v.machine.currentState new v.nodes).gateMet v.mandatoryNodes = true := by
  unfold MnEvent.gateMet
  split
  · rename_i heq
    obtain ⟨hold, hnew, rfl⟩ := MnEvent.transition.inj heq
    rw [List.all_eq_true]
    intro nodeId hmem
    exact decide_eq_true (hasJoined_of_check (h.identified hold hnew) hmem)
  · rename_i heq
    obtain ⟨hold, hnew, rfl⟩ := MnEvent.transition.inj heq
    rw [List.all_eq_true]
    intro nodeId hmem
    exact decide_eq_true (takesPart_of_check (h.preop hold hnew) hmem)
  · rfl

/-- The transition to `NmtOperational` holds what it promises while the flags are right. -/
theorem BootView.Verified.operational {v : BootView} (hv : v.Verified)
    (h : checkAllMandatoryCommVerified v.mandatoryNodes v.nodes = true) {nodeId : NodeId}
    (hmem : nodeId ∈ v.mandatoryNodes) :
    TakesPart (v.nodes.state nodeId) ∧ verifiedSince nodeId v.log = true := by
  have hflag := List.all_eq_true.mp h nodeId hmem
  cases hget : v.nodes.get? nodeId with
  | none =>
      rw [hget] at hflag
      cases hflag
  | some info =>
      rw [hget] at hflag
      rw [NodeTable.state_of_get? hget]
      exact hv nodeId hmem info hget hflag

variable {reports : NodeId → CnState → NmtState → Prop} {identified : NodeId → Prop}

theorem takesPart_of_le {state : CnState} (hle : .preOperational ≤ state)
    (hstopped : state ≠ .stopped) (hmissing : state ≠ .missing) : TakesPart state := by
  revert hle hstopped hmissing
  cases state <;> decide

/-- The tracked state of a node changes. -/
theorem BootView.OrderInv.tracked {v : BootView} {nodes : NodeTable} {nodeId : NodeId}
    {info info' : CnInfo} {new : CnState} (hv : v.OrderInv)
    (h : v.nodes.Replaces nodes nodeId info info') (hstate : info'.state = new)
    (hok : v.Verified → nodeId ∈ v.mandatoryNodes → info'.communicationOk = true →
      info.communicationOk = true ∧ .preOperational ≤ new) :
    BootView.OrderInv { v with nodes := nodes, log := .tracked nodeId info new :: v.log } := by
  constructor
  · exact List.forall_mem_cons.mpr ⟨rfl, hv.gates⟩
  · intro hkept
    obtain ⟨hhead, htail⟩ := List.forall_mem_cons.mp hkept
    obtain ⟨hgate, hverified⟩ := hv.operational htail
    refine ⟨hgate, hverified.replace h ?_ ?_⟩
    · intro m hm hsince
      rw [verifiedSince_tracked _ (.inl hm.symm)]
      exact hsince
    · intro hmem hflag
      -- the flag of a verified node stays set only when the node becomes operational
      obtain ⟨hwas, hle⟩ := hok hverified hmem hflag
      obtain ⟨hstopped, hmissing, hpreop⟩ := keepsVerified_of_ok hhead hmem hwas
      obtain ⟨-, hsince⟩ := hverified nodeId hmem info h.old hwas
      rw [verifiedSince_tracked _ (.inr hpreop), hstate]
      exact ⟨takesPart_of_le hle hstopped hmissing, hsince⟩

/-- A node is identified; it was unknown or lost and thus not verified. -/
theorem BootView.OrderInv.identify {v : BootView} {nodes : NodeTable} {nodeId : NodeId}
    {info info' : CnInfo} (hv : v.OrderInv) (h : v.nodes.Replaces nodes nodeId info info')
    (hwas : info.state = .unknown ∨ info.state = .missing) (hstate : info'.state = .identified)
    (hok : info'.communicationOk = info.communicationOk) :
    BootView.OrderInv { v with
      nodes := nodes
      log := .tracked nodeId info .identified :: .validated nodeId :: v.log } := by
  have hvalidated : BootView.OrderInv { v with log := .validated nodeId :: v.log } := by
    constructor
    · exact List.forall_mem_cons.mpr ⟨rfl, hv.gates⟩
    · exact fun hkept => hv.operational (List.forall_mem_cons.mp hkept).2
  refine hvalidated.tracked h hstate ?_
  intro hverified hmem hflag
  obtain ⟨htakes, -⟩ := hverified _ hmem _ h.old (hok ▸ hflag)
  obtain hwas | hwas := hwas
  · rw [hwas] at htakes
    exact absurd htakes (by decide)
  · rw [hwas] at htakes
    exact absurd htakes (by decide)

/-- A PRes arrives. -/
theorem BootView.OrderInv.answer {v : BootView} (hv : v.OrderInv) (nodeId : NodeId)
    (withinLimit : Bool) (state : CnState) (nmtState : NmtState) :
    BootView.OrderInv { v with
      log := .presReceived nodeId withinLimit state nmtState :: v.log } := by
  constructor
  · exact List.forall_mem_cons.mpr ⟨rfl, hv.gates⟩
  · intro hkept
    obtain ⟨hgate, hverified⟩ := hv.operational (List.forall_mem_cons.mp hkept).2
    refine ⟨hgate, ?_⟩
    intro m hmem info hget hflag
    obtain ⟨htakes, hsince⟩ := hverified m hmem info hget hflag
    exact ⟨htakes, Bool.or_eq_true_iff.mpr (.inr hsince)⟩

/-- The PRes that has just arrived verifies the communication. -/
theorem BootView.OrderInv.verify {v : BootView} {nodes : NodeTable} {nodeId : NodeId}
    {info info' : CnInfo} {log : List MnEvent} (hv : v.OrderInv)
    (h : v.nodes.Replaces nodes nodeId info info')
    (hlog : v.log = .presReceived nodeId true info.state .nmtReadyToOperate :: log)
    (hstate : info'.state = info.state) : BootView.OrderInv { v with nodes := nodes } := by
  refine ⟨hv.gates, fun hkept => ?_⟩
  obtain ⟨hgate, hverified⟩ := hv.operational hkept
  refine ⟨hgate, hverified.replace h (fun _ _ => id) ?_⟩
  intro hmem _
  have hhead : (MnEvent.presReceived nodeId true info.state .nmtReadyToOperate).keepsVerified
      v.mandatoryNodes = true :=
    hkept _ (by rw [hlog]; exact List.mem_cons_self)
  rw [hstate, hlog]
  refine ⟨takesPart_of_keepsVerified hhead hmem, ?_⟩
  show (decide (nodeId = nodeId) && true || verifiedSince nodeId log) = true
  rw [decide_eq_true rfl]
  rfl

/-- One step keeps the order. -/
theorem BootView.OrderInv.step {v w : BootView} (hstep : BootStep reports identified v w)
    (hv : v.OrderInv) : w.OrderInv := by
  cases hstep with
  | keep h hstate hok =>
      refine ⟨hv.gates, fun hkept => ?_⟩
      obtain ⟨hgate, hverified⟩ := hv.operational hkept
      refine ⟨hgate, hverified.replace h (fun _ _ => id) ?_⟩
      intro hmem hflag
      rw [hstate]
      exact hverified _ hmem _ h.old (hok ▸ hflag)
  | report reported h hreports hne hstate hok =>
      refine hv.tracked h rfl ?_
      intro _ _ hflag
      rw [hok, Bool.and_eq_true_iff, Bool.not_eq_true', decide_eq_false_iff_not] at hflag
      exact ⟨hflag.1, Nat.not_lt.mp hflag.2⟩
  | lose h hstate hok => exact hv.tracked h hstate (fun _ _ hflag => ⟨hok ▸ hflag, by decide⟩)
  | identify h hidentified hwas hstate hok => exact hv.identify h hwas hstate hok
  | answer nodeId withinLimit => exact hv.answer nodeId withinLimit _ _
  | verify h hlog hstate hok => exact hv.verify h hlog hstate
  | move new hgate =>
      constructor
      · exact List.forall_mem_cons.mpr ⟨hgate.met, hv.gates⟩
      · intro hkept
        obtain ⟨hmet, hverified⟩ := hv.operational (List.forall_mem_cons.mp hkept).2
        refine ⟨operationalGateMet_transition hmet ?_, hverified⟩
        intro hold hnew nodeId hmem
        exact hverified.operational (hgate.verified hold hnew) hmem

/-! ### Runs -/

namespace MnRun

variable {σ : Type} [ObjectDictionaryStorage σ]

/-- In every run the managing node leaves `NmtPreOperational1` only when every mandatory node has
joined, and `NmtPreOperational2` only when every mandatory node takes part.  It becomes operational
only when every mandatory node takes part and was verified since it last entered `PreOperational`,
as long as no verified mandatory node stops, is lost or comes back to `PreOperational`, and none is
verified that does not take part. -/
theorem boot_order :
    Throughout (fun r : MnRun σ =>
      (∀ e ∈ r.context.history, e.gateMet r.context.mandatoryNodes = true) ∧
      ((∀ e ∈ r.context.history, e.keepsVerified r.context.mandatoryNodes = true) →
        operationalGateMet r.context.mandatoryNodes r.context.history = true)) := by
  have hinv : Throughout (fun r : MnRun σ => r.context.bootView.OrderInv) := by
    apply throughout_of_cycleInv
    · intro od mac cfg machine cycleTimeUs lists publish hfresh
      constructor
      · exact fun _ he => nomatch he
      · refine fun _ => ⟨rfl, ?_⟩
        intro nodeId _ info hget hflag
        rw [hfresh nodeId info hget] at hflag
        cases hflag
    · intro r input action d hcycle hinv hrun
      obtain ⟨v, hreceived, hticked⟩ := runCycle_boot hrun hcycle.queue
      have hv := hreceived.induct (fun _ _ => BootView.OrderInv.step) hinv
      exact hticked.induct (fun _ _ => BootView.OrderInv.step) hv
  refine hinv.mono ?_
  intro r hinv
  constructor
  · intro e he
    cases hcycle : e.isCycle with
    | true => cases e <;> first | rfl | cases hcycle
    | false => exact hinv.gates e (List.mem_filter.mpr ⟨he, by rw [hcycle]; rfl⟩)
  · intro hkept
    rw [← operationalGateMet_filter]
    exact (hinv.operational (fun e he => hkept e (List.mem_of_mem_filter he))).1

/-- A verified node stops and keeps its flag, so that the managing node becomes operational with
the next one. -/
theorem operational_with_stopped_node :
    ¬ Throughout (fun r : MnRun Empty =>
      (∀ e ∈ r.context.history, e.gateMet r.context.mandatoryNodes = true) ∧
        operationalGateMet r.context.mandatoryNodes r.context.history = true) := by
  apply not_throughout (mnDictionary 0 [9, 9]) ⟨0, 0, 0, 0, 0, 240⟩ none
    (twoNodesPreop ++ [.pres 1 .nmtReadyToOperate 3020, .pres 1 .nmtCsStopped 3030,
      .pres 2 .nmtReadyToOperate 3040])
  decide +kernel

end MnRun

end Powerlink
