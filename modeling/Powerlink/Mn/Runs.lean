import Powerlink.Lib.Runs
import Powerlink.Mn.Steps

/-! # Runs of a managing node

A run starts with `ManagingNode::new` and takes one call of `run_cycle` after the other, with any
received bytes and any times.  Its state is the context and everything that was returned so far;
it is `none` where the node could not be created, has panicked or does not return.

`throughout_of_runCycle` is the invariant rule for such runs. -/

namespace Powerlink

variable {σ : Type}

/-- A call that has returned: its argument and its action, with the contexts before and after. -/
structure Returned (σ : Type) where
  before : MnContext σ
  input : CycleInput
  action : NodeAction
  after : MnContext σ

/-- The state of a run, with the newest call first. -/
structure MnRun (σ : Type) where
  context : MnContext σ
  returned : List (Returned σ)

namespace MnRun

variable [ObjectDictionaryStorage σ]

/-- The state before the first call. -/
def start (od : ObjectDictionary σ) (macAddress : MacAddress)
    (configurationInterface : Option ConfigurationInterface) : Option (MnRun σ) :=
  match ManagingNode.new od macAddress configurationInterface with
  | .ok c => some ⟨c, []⟩
  | .error _ => none

/-- One call. -/
def step (s : Option (MnRun σ)) (input : CycleInput) : Option (MnRun σ) :=
  match s with
  | none => none
  | some r =>
      match r.context.runCycle input with
      | none => none
      | some (action, d) => some ⟨d, ⟨r.context, input, action, d⟩ :: r.returned⟩

/-- A property of the states that are reached. -/
def Holds (P : MnRun σ → Prop) : Option (MnRun σ) → Prop
  | none => True
  | some r => P r

instance (P : MnRun σ → Prop) [DecidablePred P] : DecidablePred (Holds P)
  | none => inferInstanceAs (Decidable True)
  | some r => inferInstanceAs (Decidable (P r))

/-- The property holds in every state of every run. -/
def Throughout (P : MnRun σ → Prop) : Prop :=
  ∀ (od : ObjectDictionary σ) (macAddress : MacAddress)
    (configurationInterface : Option ConfigurationInterface) (inputs : List CycleInput),
    Runs.Always step (Holds P) (start od macAddress configurationInterface) inputs

/-- The invariant rule: what holds for a new node and is kept by every call holds throughout every
run. -/
theorem throughout_of_runCycle {P : MnRun σ → Prop}
    (hnew : ∀ (od : ObjectDictionary σ) mac cfg c, ManagingNode.new od mac cfg = .ok c → P ⟨c, []⟩)
    (hstep : ∀ (r : MnRun σ) (input : CycleInput) (action : NodeAction) (d : MnContext σ), P r →
      r.context.runCycle input = some (action, d) →
      P ⟨d, ⟨r.context, input, action, d⟩ :: r.returned⟩) : Throughout P := by
  intro od mac cfg inputs
  apply Runs.always_of_step
  · intro s input hs
    cases s with
    | none => trivial
    | some r =>
        cases hrun : r.context.runCycle input with
        | none =>
            rw [step, hrun]
            trivial
        | some p =>
            rw [step, hrun]
            exact hstep r input p.1 p.2 hs hrun
  · unfold start
    split
    · rename_i c hc
      exact hnew od mac cfg c hc
    · trivial

omit [ObjectDictionaryStorage σ] in
theorem Holds.mono {P Q : MnRun σ → Prop} (h : ∀ r, P r → Q r) :
    ∀ s : Option (MnRun σ), Holds P s → Holds Q s
  | none, _ => trivial
  | some r, hr => h r hr

theorem Throughout.mono {P Q : MnRun σ → Prop} (h : ∀ r, P r → Q r) (hP : Throughout P) :
    Throughout Q :=
  fun od mac cfg inputs => (hP od mac cfg inputs).mono (Holds.mono h)

/-- One run is enough against a property. -/
theorem not_throughout {P : MnRun σ → Prop} [DecidablePred P] (od : ObjectDictionary σ)
    (mac : MacAddress) (cfg : Option ConfigurationInterface) (inputs : List CycleInput)
    (h : (Runs.run step (start od mac cfg) inputs).any (fun r => !decide (P r)) = true) :
    ¬ Throughout P := by
  intro hP
  have hlast := (hP od mac cfg inputs).last
  cases hrun : Runs.run step (start od mac cfg) inputs with
  | none =>
      rw [hrun] at h
      cases h
  | some r =>
      rw [hrun] at h hlast
      have hr : P r := hlast
      simp only [Option.any_some, hr, decide_true, Bool.not_true, Bool.false_eq_true] at h

end MnRun

/-! ### Received frames of a run -/

/-- The octets of a frame on the wire. -/
def PowerlinkFrame.received (frame : PowerlinkFrame) : List UInt8 :=
  frame.ethernetHeader.bytes ++ padPayload frame.bytes

/-- A call without a received frame. -/
def CycleInput.idle (timeUs : ℕ) : CycleInput := ⟨none, none, timeUs⟩

/-- The IdentResponse of a node without any identity values. -/
def CycleInput.identResponse (nodeId : UInt8) (timeUs : ℕ) : CycleInput where
  ethernetFrame := some (PowerlinkFrame.aSnd (.new ⟨0, 0, 0, 0, 0, nodeId⟩ ⟨0, 0, 0, 0, 0, 240⟩
    cAdrMnDefNodeId ⟨nodeId⟩ .identResponse
    ([0, 0, NmtState.nmtPreOperational1.toByte] ++ List.replicate 155 0))).received
  udpDatagram := none
  currentTimeUs := timeUs

/-- The StatusResponse of a node in the given state. -/
def CycleInput.statusResponse (nodeId : UInt8) (nmtState : NmtState) (timeUs : ℕ) :
    CycleInput where
  ethernetFrame := some (PowerlinkFrame.aSnd (.new ⟨0, 0, 0, 0, 0, nodeId⟩ ⟨0, 0, 0, 0, 0, 240⟩
    cAdrMnDefNodeId ⟨nodeId⟩ .statusResponse
    ([0, 0, nmtState.toByte] ++ List.replicate 47 0))).received
  udpDatagram := none
  currentTimeUs := timeUs

/-- The PRes of a node in the given state, without process data. -/
def CycleInput.pres (nodeId : UInt8) (nmtState : NmtState) (timeUs : ℕ) : CycleInput where
  ethernetFrame := some (PowerlinkFrame.pRes
    { ethHeader := .new ⟨0, 0, 0, 0, 0, 240⟩ ⟨0, 0, 0, 0, 0, nodeId⟩
      destination := cAdrBroadcastNodeId
      source := ⟨nodeId⟩
      nmtState := nmtState
      flags := ⟨false, false, false, .low1, ⟨0⟩⟩
      pdoVersion := ⟨0⟩
      payloadSize := 0
      payload := [] }).received
  udpDatagram := none
  currentTimeUs := timeUs

/-- Two nodes are identified and report `NmtPreOperational2`; the cycle is idle again. -/
def twoNodesPreop : List CycleInput :=
  [.idle 0, .idle 10, .idle 1000, .idle 1001, .identResponse 1 1010, .idle 2000, .idle 2001,
    .identResponse 2 2010, .idle 3000, .idle 3001, .statusResponse 1 .nmtPreOperational2 3010,
    .statusResponse 2 .nmtPreOperational2 3011]

end Powerlink
