import Mathlib.Logic.Relation
import Powerlink.Mn.Node

/-! # What a received frame touches

The functions on the way of a received frame are sequences of a few elementary updates of the
context.  `Touch` lists these updates, each with what later proofs need of it, and for every function
there is one lemma that it is such a sequence.  A relation that is reflexive and transitive and holds
for every update therefore holds for all of these functions.

What a frame tells of its source is not among the updates: the request of a PRes, the EN flag and
the acknowledgement of a StatusResponse.

`DllTouch` does the same for the events of the data link layer. -/

namespace Powerlink

namespace MnContext

variable {σ : Type} [ObjectDictionaryStorage σ]

/-- A node does not report itself as missing. -/
theorem missing_of_ofReported {reported : NmtState} {current : CnState}
    (h : CnState.ofReported reported current = .missing) : current = .missing := by
  unfold CnState.ofReported at h
  split at h
  · cases h
  · cases h
  · cases h
  · cases h
  · cases h
  · exact h

/-- An elementary update. -/
inductive Touch (c : MnContext σ) : MnContext σ → Prop
  /-- A node is tracked in another state. -/
  | track (nodeId : NodeId) {new : CnState} (h : new ≠ .missing) : Touch c (c.track nodeId new)
  /-- Something of a node is noted that is neither its state nor one of its flags. -/
  | note (nodeId : NodeId) {f : CnInfo → CnInfo} (hstate : ∀ info, (f info).state = info.state)
      (hflags : ∀ info, (f info).enFlag = info.enFlag ∧ (f info).eaFlag = info.eaFlag) :
      Touch c { c with nodeInfo := c.nodeInfo.modify nodeId f }
  /-- The NMT state machine takes an event of its own. -/
  | nmt {event : NmtEvent} (h : MnNmtStateMachine.isInternal event = true) :
      Touch c (c.processNmtEvent event)
  /-- The identified nodes get their commands. -/
  | ready : Touch c { c with
      pendingNmtCommands := c.pendingNmtCommands ++ enableReadyCommands c.nodeInfo }
  /-- A node has passed the checks of `BOOT_STEP1`, and its address is cached. -/
  | validated (nodeId : NodeId) (cache : SortedMap IpAddress MacAddress) :
      Touch c { c.record (.validated nodeId) with arpCache := cache }
  /-- The download of a configuration is handed to the SDO clients. -/
  | download (nodeId : NodeId) (dcf : List UInt8) (t : ℕ) : Touch c { c with
      sdoClientManager :=
        (c.sdoClientManager.startConfigurationDownload nodeId dcf t c.core.od).2 }

/-- A sequence of updates. -/
abbrev Touches : MnContext σ → MnContext σ → Prop := Relation.ReflTransGen Touch

theorem touches_checkBootupState (c : MnContext σ) : Touches c c.checkBootupState := by
  unfold checkBootupState
  split
  · split_ifs
    · exact (Relation.ReflTransGen.single (.nmt rfl)).tail .ready
    · exact .refl
  · split_ifs
    · exact .single (.nmt rfl)
    · exact .refl
  · split_ifs
    · exact .single (.nmt rfl)
    · exact .refl
  · exact .refl

theorem touches_updateCnState (c : MnContext σ) (nodeId : NodeId) (reported : NmtState) :
    Touches c (c.updateCnState nodeId reported) := by
  dsimp only [updateCnState]
  split
  · exact .refl
  · rename_i info _
    split_ifs with hsame hbelow
    · exact .refl
    all_goals
      have hnew : CnState.ofReported reported info.state ≠ .missing :=
        fun hnew => hsame (missing_of_ofReported hnew ▸ hnew.symm)
      have htrack : Touches c (c.track nodeId (CnState.ofReported reported info.state)) :=
        .single (.track nodeId hnew)
    · refine (htrack.tail (.note nodeId ?_ ?_)).trans (touches_checkBootupState _)
      · exact fun _ => rfl
      · exact fun _ => ⟨rfl, rfl⟩
    · exact htrack.trans (touches_checkBootupState _)

theorem touches_trackPres (c : MnContext σ) (pres : PResFrame) (t : ℕ) :
    Touches c (c.trackPres pres t) := by
  unfold trackPres
  split
  · exact .refl
  · refine .trans (.single (.note pres.source ?_ ?_)) (touches_updateCnState _ _ _)
    · exact fun _ => rfl
    · exact fun _ => ⟨rfl, rfl⟩

theorem touches_checkCommunication (c : MnContext σ) (pres : PResFrame) (info : CnInfo) :
    Touches c (c.checkCommunication pres info) := by
  unfold checkCommunication
  split_ifs
  · refine .trans (.single (.note pres.source ?_ ?_)) (touches_checkBootupState _)
    · exact fun _ => rfl
    · exact fun _ => ⟨rfl, rfl⟩
  · exact .refl

theorem touches_startDownload (c : MnContext σ) (nodeId : NodeId) (t : ℕ) :
    Touches c (c.startDownload nodeId t) := by
  unfold startDownload
  split
  · exact .refl
  · split
    · exact .refl
    · rename_i dcf _
      have hdownload : Touch c { c with
          sdoClientManager :=
            (c.sdoClientManager.startConfigurationDownload nodeId dcf t c.core.od).2 } :=
        .download nodeId dcf t
      split
      · rename_i heq
        rw [heq] at hdownload
        exact .single hdownload
      · rename_i heq
        rw [heq] at hdownload
        refine (Relation.ReflTransGen.single hdownload).tail (.note nodeId ?_ ?_)
        · exact fun _ => rfl
        · exact fun _ => ⟨rfl, rfl⟩

theorem touches_validateBootStep1Checks (c : MnContext σ) (nodeId : NodeId)
    (payload : IdentResponsePayload) (t : ℕ) :
    Touches c (c.validateBootStep1Checks nodeId payload t).2 := by
  unfold validateBootStep1Checks
  split_ifs
  · exact .refl
  · exact .refl
  · exact c.touches_startDownload nodeId t
  · exact .refl

theorem touches_handleIdentResponse (c : MnContext σ) (frame : ASndFrame) (t : ℕ) :
    Touches c (c.handleIdentResponse frame t) := by
  unfold handleIdentResponse
  split
  · exact .refl
  · split_ifs
    · split
      · exact .refl
      · rename_i payload _
        have hvalidate := c.touches_validateBootStep1Checks frame.source payload t
        split
        · rename_i d heq
          rwa [heq] at hvalidate
        · rename_i d heq
          rw [heq] at hvalidate
          refine .trans ?_ (touches_checkBootupState _)
          refine ((hvalidate.tail (.validated frame.source _)).tail (.track frame.source ?_)).tail
            (.note frame.source ?_ ?_)
          · decide
          · exact fun _ => rfl
          · exact fun _ => ⟨rfl, rfl⟩
    · exact .refl

/-! ### Events of the data link layer -/

/-- An elementary update of an event. -/
inductive DllTouch (c : MnContext σ) : MnContext σ → Prop
  /-- The cycle state machine moves. -/
  | machine (m : DllMsStateMachine) : DllTouch c { c with dllStateMachine := m }
  /-- An error is counted. -/
  | counters (counters : MnErrorCounters) : DllTouch c { c with dllErrorManager := counters }
  /-- A node is lost. -/
  | lose (nodeId : NodeId) : DllTouch c (c.applyNmtAction (.resetNode nodeId))

abbrev DllTouches : MnContext σ → MnContext σ → Prop := Relation.ReflTransGen DllTouch

theorem touches_foldl_handleDllError (event : DllMsEvent) (reportingNodeId : NodeId) :
    ∀ (errors : List DllError) (c : MnContext σ),
      (∀ e ∈ errors, DllMsStateMachine.Reported event reportingNodeId e) →
      DllTouches c (errors.foldl (fun c error => c.handleDllError reportingNodeId error) c)
  | [], c, _ => .refl
  | error :: errors, c, h => by
      have hhead : DllTouches c (c.handleDllError reportingNodeId error) := by
        obtain ⟨counters, heq | ⟨-, heq⟩⟩ := c.handleDllError_cases (h error List.mem_cons_self)
        · rw [heq]
          exact .single (.counters counters)
        · rw [heq]
          exact (Relation.ReflTransGen.single (.counters counters)).tail (.lose reportingNodeId)
      exact hhead.trans (touches_foldl_handleDllError event reportingNodeId errors _
        (fun e he => h e (List.mem_cons_of_mem _ he)))

theorem touches_handleDllEvent (c : MnContext σ) (event : DllMsEvent) (frame : PowerlinkFrame) :
    DllTouches c (c.handleDllEvent event frame) := by
  dsimp only [handleDllEvent]
  refine .trans (.single (.machine _)) (touches_foldl_handleDllError event (c.reportingNode frame)
    _ _ (fun e he => DllMsStateMachine.processEvent_errors he))

end MnContext

end Powerlink
