import Mathlib.Logic.Relation
import Powerlink.Mn.Runs

/-! # What one call does to the boot-up

`BootStep` lists the elementary steps by which a managing node changes what it knows of its nodes
and its own NMT state: a node reports a state, is lost, is identified, answers a poll, has its
communication verified, or the managing node itself moves on.  Reports and identifications are
labelled, so that they can be traced back to the received frame.

`runCycle_boot` says that a call is a sequence of such steps, in which only the node that the
received frame comes from reports a state or is identified. -/

namespace Powerlink

/-- One entry of the table is replaced. -/
structure NodeTable.Replaces (nodes nodes' : NodeTable) (nodeId : NodeId) (info info' : CnInfo) :
    Prop where
  old : nodes.get? nodeId = some info
  new : nodes'.get? nodeId = some info'
  other : ∀ m, m ≠ nodeId → nodes'.get? m = nodes.get? m

namespace NodeTable

variable {nodes nodes' : NodeTable} {nodeId : NodeId} {info info' : CnInfo}

theorem replaces_modify (h : nodes.get? nodeId = some info) (f : CnInfo → CnInfo) :
    nodes.Replaces (nodes.modify nodeId f) nodeId info (f info) where
  old := h
  new := by
    rw [SortedMap.get?_modify, if_pos rfl, h]
    rfl
  other := by
    intro m hm
    rw [SortedMap.get?_modify, if_neg hm]

theorem Replaces.trans {nodes'' : NodeTable} {info'' : CnInfo}
    (h : nodes.Replaces nodes' nodeId info info')
    (h' : nodes'.Replaces nodes'' nodeId info' info'') :
    nodes.Replaces nodes'' nodeId info info'' where
  old := h.old
  new := h'.new
  other := fun m hm => (h'.other m hm).trans (h.other m hm)

theorem state_of_get? (h : nodes.get? nodeId = some info) : nodes.state nodeId = info.state := by
  unfold state
  rw [h]

theorem Replaces.state_ne (h : nodes.Replaces nodes' nodeId info info') {m : NodeId}
    (hm : m ≠ nodeId) : nodes'.state m = nodes.state m := by
  unfold state
  rw [h.other m hm]

end NodeTable

/-! ### The steps -/

/-- The conditions on the mandatory nodes for the transitions of the boot-up. -/
structure BootView.Gate (v : BootView) (new : NmtState) : Prop where
  identified : v.machine.currentState = .nmtPreOperational1 → new = .nmtPreOperational2 →
    checkAllMandatoryIdentified v.mandatoryNodes v.nodes = true
  preop : v.machine.currentState = .nmtPreOperational2 → new = .nmtReadyToOperate →
    checkAllMandatoryPreop v.mandatoryNodes v.nodes = true
  verified : v.machine.currentState = .nmtReadyToOperate → new = .nmtOperational →
    checkAllMandatoryCommVerified v.mandatoryNodes v.nodes = true

/-- One step of the boot-up.  `reports` says which states are reported by which nodes, together
with the state in which the node is tracked, and `identified` which nodes are identified. -/
inductive BootStep (reports : NodeId → CnState → NmtState → Prop) (identified : NodeId → Prop)
    (v : BootView) : BootView → Prop
  /-- Something else of a node is noted. -/
  | keep {nodes : NodeTable} {nodeId : NodeId} {info info' : CnInfo}
      (h : v.nodes.Replaces nodes nodeId info info') (hstate : info'.state = info.state)
      (hok : info'.communicationOk = info.communicationOk) :
      BootStep reports identified v { v with nodes := nodes }
  /-- A node reports another state; below `PreOperational` it has to be verified again. -/
  | report {nodes : NodeTable} {nodeId : NodeId} {info info' : CnInfo} (reported : NmtState)
      (h : v.nodes.Replaces nodes nodeId info info') (hreports : reports nodeId info.state reported)
      (hne : info.state ≠ CnState.ofReported reported info.state)
      (hstate : info'.state = CnState.ofReported reported info.state)
      (hok : info'.communicationOk =
        (info.communicationOk && !decide (info'.state < .preOperational))) :
      BootStep reports identified v
        { v with nodes := nodes, log := .tracked nodeId info info'.state :: v.log }
  /-- A node is declared missing. -/
  | lose {nodes : NodeTable} {nodeId : NodeId} {info info' : CnInfo}
      (h : v.nodes.Replaces nodes nodeId info info') (hstate : info'.state = .missing)
      (hok : info'.communicationOk = info.communicationOk) :
      BootStep reports identified v
        { v with nodes := nodes, log := .tracked nodeId info .missing :: v.log }
  /-- An IdentResponse passes the checks. -/
  | identify {nodes : NodeTable} {nodeId : NodeId} {info info' : CnInfo}
      (h : v.nodes.Replaces nodes nodeId info info') (hidentified : identified nodeId)
      (hwas : info.state = .unknown ∨ info.state = .missing) (hstate : info'.state = .identified)
      (hok : info'.communicationOk = info.communicationOk) :
      BootStep reports identified v { v with
        nodes := nodes
        log := .tracked nodeId info .identified :: .validated nodeId :: v.log }
  /-- A PRes arrives. -/
  | answer (nodeId : NodeId) (withinLimit : Bool) :
      BootStep reports identified v { v with
        log := .presReceived nodeId withinLimit (v.nodes.state nodeId) v.machine.currentState ::
          v.log }
  /-- The PRes that has just arrived verifies the communication. -/
  | verify {nodes : NodeTable} {nodeId : NodeId} {info info' : CnInfo} {log : List MnEvent}
      (h : v.nodes.Replaces nodes nodeId info info')
      (hlog : v.log = .presReceived nodeId true info.state .nmtReadyToOperate :: log)
      (hstate : info'.state = info.state) (hok : info'.communicationOk = true) :
      BootStep reports identified v { v with nodes := nodes }
  /-- The NMT state changes. -/
  | move (new : NmtState) (hgate : v.Gate new) :
      BootStep reports identified v { v with
        machine := { v.machine with currentState := new }
        log := .transition v.machine.currentState new v.nodes :: v.log }

/-- A sequence of steps. -/
abbrev BootSteps (reports : NodeId → CnState → NmtState → Prop) (identified : NodeId → Prop) :
    BootView → BootView → Prop :=
  Relation.ReflTransGen (BootStep reports identified)

/-- The invariant rule for a sequence of steps. -/
theorem BootSteps.induct {reports : NodeId → CnState → NmtState → Prop} {identified : NodeId → Prop}
    {P : BootView → Prop} {v w : BootView} (h : BootSteps reports identified v w)
    (hstep : ∀ a b, BootStep reports identified a b → P a → P b) (hv : P v) : P w := by
  induction h with
  | refl => exact hv
  | tail _ hlast ih => exact hstep _ _ hlast ih

namespace MnContext

variable {σ : Type} {reports : NodeId → CnState → NmtState → Prop} {identified : NodeId → Prop}

/-! ### The tracked nodes and the NMT state -/

theorem bootView_record (c : MnContext σ) {event : MnEvent} (h : event.isCycle = false) :
    (c.record event).bootView = { c.bootView with log := event :: c.bootView.log } := by
  have hlog : (event :: c.history).filter (fun e => !e.isCycle) =
      event :: c.history.filter (fun e => !e.isCycle) :=
    List.filter_cons_of_pos (by rw [h]; rfl)
  simp only [bootView, record, hlog]

theorem track_of_ne {c : MnContext σ} {nodeId : NodeId} {info : CnInfo} {new : CnState}
    (hget : c.nodeInfo.get? nodeId = some info) (hne : info.state ≠ new) :
    c.track nodeId new = record { c with
      nodeInfo := c.nodeInfo.modify nodeId (fun info => { info with state := new }) }
      (.tracked nodeId info new) := by
  unfold track
  rw [hget]
  dsimp only
  rw [if_neg hne]
  rfl

theorem boot_lose (c : MnContext σ) (nodeId : NodeId) :
    BootSteps reports identified c.bootView (c.track nodeId .missing).bootView := by
  cases hget : c.nodeInfo.get? nodeId with
  | none =>
      unfold track
      rw [hget]
  | some info =>
      by_cases hmissing : info.state = .missing
      · unfold track
        rw [hget]
        dsimp only
        rw [if_pos hmissing]
      · rw [track_of_ne hget hmissing, bootView_record _ rfl]
        have hreplaces := NodeTable.replaces_modify hget
          (fun info => { info with state := .missing })
        exact .single (.lose hreplaces rfl rfl)

variable [ObjectDictionaryStorage σ]

theorem boot_processNmtEvent (c : MnContext σ) {event : NmtEvent}
    (hreset : MnNmtStateMachine.isReset event = false)
    (hgate : c.bootView.Gate (c.nmtStateMachine.nextState event)) :
    BootSteps reports identified c.bootView (c.processNmtEvent event).bootView := by
  have hmachine := c.nmtStateMachine.processEvent_machine c.core.od hreset
  dsimp only [processNmtEvent]
  split_ifs with hsame
  · have hnext : c.nmtStateMachine.nextState event = c.nmtStateMachine.currentState := by
      rw [hmachine] at hsame
      exact hsame
    have hmachine' : (c.nmtStateMachine.processEvent event c.core.od).1 = c.nmtStateMachine := by
      rw [hmachine, hnext]
    simp only [bootView, hmachine']
    exact .refl
  · rw [bootView_record _ rfl, hmachine]
    exact .single (.move _ hgate)

theorem boot_checkBootupState (c : MnContext σ) :
    BootSteps reports identified c.bootView c.checkBootupState.bootView := by
  unfold checkBootupState
  split
  · rename_i hnmt
    have hnmt' : c.nmtStateMachine.currentState = .nmtPreOperational1 := hnmt
    split_ifs with hcheck
    · refine c.boot_processNmtEvent rfl ?_
      exact {
        identified := fun _ _ => hcheck
        preop := fun h => nomatch hnmt'.symm.trans h
        verified := fun h => nomatch hnmt'.symm.trans h }
    · exact .refl
  · rename_i hnmt
    have hnmt' : c.nmtStateMachine.currentState = .nmtPreOperational2 := hnmt
    split_ifs with hcheck
    · refine c.boot_processNmtEvent rfl ?_
      exact {
        identified := fun h => nomatch hnmt'.symm.trans h
        preop := fun _ _ => (Bool.and_eq_true_iff.mp hcheck).1
        verified := fun h => nomatch hnmt'.symm.trans h }
    · exact .refl
  · rename_i hnmt
    have hnmt' : c.nmtStateMachine.currentState = .nmtReadyToOperate := hnmt
    split_ifs with hcheck
    · refine c.boot_processNmtEvent rfl ?_
      exact {
        identified := fun h => nomatch hnmt'.symm.trans h
        preop := fun h => nomatch hnmt'.symm.trans h
        verified := fun _ _ => (Bool.and_eq_true_iff.mp hcheck).1 }
    · exact .refl
  · exact .refl

/-- An event that is none of the boot-up. -/
theorem gate_of_state {v : BootView} {old new : NmtState} (hold : v.machine.currentState = old)
    (hone : old ≠ .nmtPreOperational1) (htwo : old ≠ .nmtPreOperational2)
    (hready : old ≠ .nmtReadyToOperate) : v.Gate new where
  identified := fun h => absurd (hold.symm.trans h) hone
  preop := fun h => absurd (hold.symm.trans h) htwo
  verified := fun h => absurd (hold.symm.trans h) hready

theorem boot_updateCnState (c : MnContext σ) (nodeId : NodeId) (reported : NmtState)
    (hreports : ∀ info, c.nodeInfo.get? nodeId = some info → reports nodeId info.state reported) :
    BootSteps reports identified c.bootView (c.updateCnState nodeId reported).bootView := by
  dsimp only [updateCnState]
  split
  · exact .refl
  · rename_i info hget
    split
    · exact .refl
    · rename_i hne
      refine .head ?_ (boot_checkBootupState _)
      rw [track_of_ne hget hne]
      have hreplaces := NodeTable.replaces_modify hget
        (fun i => { i with state := CnState.ofReported reported info.state })
      split_ifs with hlow
      · -- below `PreOperational` the flag is cleared as well
        have hcleared := hreplaces.trans (NodeTable.replaces_modify hreplaces.new
          (fun i => { i with communicationOk := false }))
        have hok : false = (info.communicationOk &&
            !decide (CnState.ofReported reported info.state < .preOperational)) := by
          rw [decide_eq_true hlow]
          exact (Bool.and_false _).symm
        have hstep : BootStep reports identified c.bootView _ :=
          .report reported hcleared (hreports info hget) hne rfl hok
        exact hstep
      · have hok : info.communicationOk = (info.communicationOk &&
            !decide (CnState.ofReported reported info.state < .preOperational)) := by
          rw [decide_eq_false hlow]
          exact (Bool.and_true _).symm
        have hstep : BootStep reports identified c.bootView _ :=
          .report reported hreplaces (hreports info hget) hne rfl hok
        exact hstep

/-! ### Received frames -/

theorem boot_trackPres (c : MnContext σ) (pres : PResFrame) (t : ℕ)
    (hreports : ∀ info, c.nodeInfo.get? pres.source = some info →
      reports pres.source info.state pres.nmtState) :
    BootSteps reports identified c.bootView (c.trackPres pres t).bootView := by
  unfold trackPres
  split
  · exact .refl
  · rename_i info hget
    have hreplaces := NodeTable.replaces_modify hget (fun info =>
      { info with nmtState := pres.nmtState, lastPresTimeUs := t, dllErrors := 0 })
    refine .head ?_ (boot_updateCnState _ _ _ ?_)
    · exact BootStep.keep hreplaces rfl rfl
    · intro info' hget'
      obtain rfl := Option.some.inj (hreplaces.new.symm.trans hget')
      exact hreports info hget

omit [ObjectDictionaryStorage σ] in
theorem boot_queueRequest (c : MnContext σ) (pres : PResFrame) :
    (c.queueRequest pres).bootView = c.bootView := by
  unfold queueRequest
  split_ifs
  · rfl
  · rfl

omit [ObjectDictionaryStorage σ] in
theorem withinLimit_queueRequest (c : MnContext σ) (pres : PResFrame) :
    (c.queueRequest pres).withinLimit pres = c.withinLimit pres := by
  unfold queueRequest
  split_ifs
  · rfl
  · rfl

/-- The PRes at the head of the log verifies the communication of its source. -/
theorem boot_checkCommunication (c : MnContext σ) (pres : PResFrame) {info : CnInfo}
    {log : List MnEvent} (old : CnInfo) (hget : c.nodeInfo.get? pres.source = some info)
    (hlog : c.bootView.log =
      .presReceived pres.source (c.withinLimit pres) info.state c.nmtState :: log) :
    BootSteps reports identified c.bootView (c.checkCommunication pres old).bootView := by
  unfold checkCommunication
  split_ifs with hcheck
  · obtain ⟨hnmt, -, hwithin⟩ := hcheck
    rw [hwithin, hnmt] at hlog
    have hverify := NodeTable.replaces_modify hget
      (fun info => { info with communicationOk := true })
    refine .head ?_ (boot_checkBootupState _)
    exact BootStep.verify hverify hlog rfl rfl
  · exact .refl

theorem boot_handlePresFrame (c : MnContext σ) (pres : PResFrame) :
    BootSteps reports identified c.bootView (c.handlePresFrame pres).bootView := by
  dsimp only [handlePresFrame]
  generalize hr : c.record _ = r
  have hrecord : r.bootView = { c.bootView with
      log := .presReceived pres.source (c.withinLimit pres) (c.nodeInfo.state pres.source)
        c.nmtState :: c.bootView.log } := by
    rw [← hr]
    exact c.bootView_record rfl
  have hlimit : (r.queueRequest pres).withinLimit pres = c.withinLimit pres := by
    rw [withinLimit_queueRequest, ← hr]
    rfl
  have hqueue := r.boot_queueRequest pres
  generalize r.queueRequest pres = q at hqueue hlimit
  rw [hrecord] at hqueue
  have hanswer : BootStep reports identified c.bootView q.bootView := by
    rw [hqueue]
    exact .answer pres.source (c.withinLimit pres)
  split
  · exact .single hanswer
  · rename_i info hget
    have hflag := NodeTable.replaces_modify hget (fun info => { info with enFlag := pres.flags.en })
    have hkeep : BootStep reports identified q.bootView (q.checkExceptionFlag pres info).bootView :=
      .keep hflag rfl rfl
    refine .head hanswer (.head hkeep ?_)
    have hnodes : q.nodeInfo = c.nodeInfo := congrArg BootView.nodes hqueue
    have hmachine : q.nmtStateMachine = c.nmtStateMachine := congrArg BootView.machine hqueue
    have hstate : c.nodeInfo.state pres.source = info.state :=
      NodeTable.state_of_get? (hnodes ▸ hget)
    have hlog : q.bootView.log = .presReceived pres.source (q.withinLimit pres) info.state
        q.nmtState :: c.bootView.log := by
      rw [hqueue, hlimit, hstate]
      unfold nmtState
      rw [hmachine]
    exact boot_checkCommunication _ pres info hflag.new hlog

omit [ObjectDictionaryStorage σ] in
theorem boot_startDownload (c : MnContext σ) {nodeId : NodeId} {info : CnInfo} (t : ℕ)
    (hget : c.nodeInfo.get? nodeId = some info) :
    BootSteps reports identified c.bootView (c.startDownload nodeId t).bootView := by
  unfold startDownload
  split
  · exact .refl
  · split
    · exact .refl
    · split
      · exact .refl
      · have hreplaces := NodeTable.replaces_modify hget
          (fun info => { info with sdoState := .inProgress })
        exact .single (BootStep.keep hreplaces rfl rfl)

omit [ObjectDictionaryStorage σ] in
/-- The checks leave the context alone when they are passed. -/
theorem validateBootStep1Checks_passed {c d : MnContext σ} {nodeId : NodeId}
    {payload : IdentResponsePayload} {t : ℕ}
    (h : c.validateBootStep1Checks nodeId payload t = (true, d)) : d = c := by
  unfold validateBootStep1Checks at h
  split_ifs at h
  · cases h
  · cases h
  · cases h
  · exact (Prod.mk.inj h).2.symm

omit [ObjectDictionaryStorage σ] in
theorem boot_validateBootStep1Checks {c d : MnContext σ} {nodeId : NodeId} {info : CnInfo}
    {payload : IdentResponsePayload} {t : ℕ} {passed : Bool}
    (hget : c.nodeInfo.get? nodeId = some info)
    (h : c.validateBootStep1Checks nodeId payload t = (passed, d)) :
    BootSteps reports identified c.bootView d.bootView := by
  unfold validateBootStep1Checks at h
  split_ifs at h
  · rw [← (Prod.mk.inj h).2]
  · rw [← (Prod.mk.inj h).2]
  · rw [← (Prod.mk.inj h).2]
    exact c.boot_startDownload t hget
  · rw [← (Prod.mk.inj h).2]

omit [ObjectDictionaryStorage σ] in
/-- An identified node is tracked as such, and its identity is noted. -/
theorem boot_identified {c e : MnContext σ} {nodeId : NodeId} {info : CnInfo}
    {arpCache : SortedMap IpAddress MacAddress}
    (hcached : { c.record (.validated nodeId) with arpCache := arpCache } = e)
    (hget : c.nodeInfo.get? nodeId = some info)
    (hwas : info.state = .unknown ∨ info.state = .missing) (hidentified : identified nodeId)
    (identity : Option CnIdentity) :
    BootStep reports identified c.bootView
      (bootView { e.track nodeId .identified with
        nodeInfo := (e.track nodeId .identified).nodeInfo.modify nodeId
          (fun info => { info with identity := identity }) }) := by
  have hne : info.state ≠ .identified := by
    intro hstate
    rw [hstate] at hwas
    obtain h | h := hwas
    · cases h
    · cases h
  have hget' : e.nodeInfo.get? nodeId = some info := by
    rw [← hcached]
    exact hget
  rw [track_of_ne hget' hne]
  have htracked := NodeTable.replaces_modify hget (fun info => { info with state := .identified })
  have hnoted := htracked.trans (NodeTable.replaces_modify htracked.new
    (fun info => { info with identity := identity }))
  have hstep : BootStep reports identified c.bootView _ :=
    .identify hnoted hidentified hwas rfl rfl
  subst hcached
  exact hstep

theorem boot_handleIdentResponse (c : MnContext σ) (frame : ASndFrame) (t : ℕ)
    (hidentified : ∀ payload, IdentResponsePayload.deserialize frame.payload = .ok payload →
      (c.validateBootStep1Checks frame.source payload t).1 = true → identified frame.source) :
    BootSteps reports identified c.bootView (c.handleIdentResponse frame t).bootView := by
  unfold handleIdentResponse
  split
  · exact .refl
  · rename_i info hget
    split_ifs with hwas
    · split
      · exact .refl
      · rename_i payload hpayload
        split
        · rename_i d hvalidate
          exact boot_validateBootStep1Checks hget hvalidate
        · rename_i d hvalidate
          obtain rfl := validateBootStep1Checks_passed hvalidate
          have hpassed := hidentified payload hpayload (congrArg Prod.fst hvalidate)
          refine .head ?_ (boot_checkBootupState _)
          generalize hcached : ({ d.record (.validated frame.source) with
            arpCache := d.arpCache.insert (ipFromNodeId frame.source) frame.ethHeader.sourceMac } :
            MnContext σ) = e
          exact boot_identified hcached hget hwas hpassed _
    · exact .refl

theorem boot_handleStatusResponse (c : MnContext σ) (frame : ASndFrame)
    (hreports : ∀ info payload, c.nodeInfo.get? frame.source = some info →
      StatusResponsePayload.deserialize frame.payload = .ok payload →
      reports frame.source info.state payload.nmtState) :
    BootSteps reports identified c.bootView (c.handleStatusResponse frame).bootView := by
  dsimp only [handleStatusResponse]
  split
  · exact .refl
  · rename_i info hget
    have hreplaces := NodeTable.replaces_modify hget
      (fun info => { info with eaFlag := info.enFlag })
    split
    · exact .single (BootStep.keep hreplaces rfl rfl)
    · rename_i payload hpayload
      refine .head ?_ (boot_updateCnState _ _ _ ?_)
      · exact BootStep.keep hreplaces rfl rfl
      intro info' hget'
      obtain rfl := Option.some.inj (hreplaces.new.symm.trans hget')
      exact hreports info payload hget hpayload

end MnContext

/-- The NMT state of its sender that a frame reports. -/
def PowerlinkFrame.report : PowerlinkFrame → Option (NodeId × NmtState)
  | .pRes frame => some (frame.source, frame.nmtState)
  | .aSnd frame =>
      if frame.serviceId = .statusResponse then
        match StatusResponsePayload.deserialize frame.payload with
        | .ok payload => some (frame.source, payload.nmtState)
        | .error _ => none
      else none
  | _ => none

namespace MnContext

variable {σ : Type} {reports : NodeId → CnState → NmtState → Prop} {identified : NodeId → Prop}

/-- A frame is an IdentResponse of the node that passes the checks. -/
def Identifies (c : MnContext σ) (frame : PowerlinkFrame) (t : ℕ) (nodeId : NodeId) : Prop :=
  ∃ asnd payload, frame = .aSnd asnd ∧ asnd.serviceId = .identResponse ∧ asnd.source = nodeId ∧
    IdentResponsePayload.deserialize asnd.payload = .ok payload ∧
    (c.validateBootStep1Checks nodeId payload t).1 = true

/-- The reports and identifications of a frame are allowed. -/
structure Allows (reports : NodeId → CnState → NmtState → Prop) (identified : NodeId → Prop)
    (c : MnContext σ) (frame : PowerlinkFrame) (t : ℕ) : Prop where
  report : ∀ nodeId reported info, frame.report = some (nodeId, reported) →
    c.nodeInfo.get? nodeId = some info → reports nodeId info.state reported
  identify : ∀ nodeId, c.Identifies frame t nodeId → identified nodeId

/-- The nodes and the outcome of the checks matter. -/
theorem Allows.congr {c d : MnContext σ} {frame : PowerlinkFrame} {t : ℕ}
    (h : Allows reports identified c frame t) (hnodes : d.nodeInfo = c.nodeInfo)
    (hvalidate : ∀ nodeId payload, (d.validateBootStep1Checks nodeId payload t).1 =
      (c.validateBootStep1Checks nodeId payload t).1) : Allows reports identified d frame t := by
  constructor
  · intro nodeId reported info hreport hget
    rw [hnodes] at hget
    exact h.report nodeId reported info hreport hget
  · rintro nodeId ⟨asnd, payload, hframe, hservice, hsource, hpayload, hpassed⟩
    rw [hvalidate] at hpassed
    exact h.identify nodeId ⟨asnd, payload, hframe, hservice, hsource, hpayload, hpassed⟩

variable [ObjectDictionaryStorage σ]

theorem boot_handleAsndFrame (c : MnContext σ) (frame : ASndFrame) (t : ℕ)
    (h : Allows reports identified c (.aSnd frame) t) :
    BootSteps reports identified c.bootView (c.handleAsndFrame frame t).bootView := by
  unfold handleAsndFrame
  split
  · rename_i hservice
    apply boot_handleIdentResponse
    intro payload hpayload hpassed
    exact h.identify _ ⟨frame, payload, rfl, hservice, rfl, hpayload, hpassed⟩
  · rename_i hservice
    apply boot_handleStatusResponse
    intro info payload hget hpayload
    refine h.report _ _ info ?_ hget
    show (if frame.serviceId = .statusResponse then _ else none) = _
    rw [if_pos hservice, hpayload]
  · exact .refl

theorem boot_processAsnd (c : MnContext σ) (frame : ASndFrame) (t : ℕ)
    (h : Allows reports identified c (.aSnd frame) t) :
    BootSteps reports identified c.bootView (c.processAsnd frame t).bootView := by
  have hcount : Allows reports identified (c.count 4) (.aSnd frame) t :=
    h.congr rfl (fun nodeId payload => c.validateBootStep1Checks_count 4 nodeId payload t)
  dsimp only [processAsnd]
  split_ifs
  · refine boot_handleAsndFrame { c.count 4 with pendingTimeoutEvent := none } frame t ?_
    refine hcount.congr rfl ?_
    intro nodeId payload
    rw [validateBootStep1Checks_fst, validateBootStep1Checks_fst]
    rfl
  · exact boot_handleAsndFrame (c.count 4) frame t hcount

theorem boot_processPres {c d : MnContext σ} {pres : PResFrame} {t : ℕ}
    (h : c.processPres pres t = some d)
    (hreports : ∀ info, c.nodeInfo.get? pres.source = some info →
      reports pres.source info.state pres.nmtState) :
    BootSteps reports identified c.bootView d.bootView := by
  dsimp only [processPres] at h
  have htracked : BootSteps reports identified c.bootView ((c.count 2).trackPres pres t).bootView :=
    boot_trackPres (c.count 2) pres t hreports
  refine htracked.trans ?_
  split_ifs at h
  · obtain ⟨r, -, h⟩ := Option.bind_eq_some_iff.mp h
    obtain ⟨⟨action, e⟩, hadvance, h⟩ := Option.bind_eq_some_iff.mp h
    obtain rfl := Option.some.inj h
    obtain ⟨-, hboot, -⟩ := advanceCyclePhase_spec hadvance
    rw [hboot]
    refine .trans ?_ (boot_handlePresFrame _ pres)
    rw [bootView_record_cycle _ rfl]
    exact .refl
  · obtain rfl := Option.some.inj h
    exact boot_handlePresFrame _ pres

/-! ### Events of the data link layer -/

theorem boot_foldl_handleDllError (event : DllMsEvent) (reportingNodeId : NodeId) :
    ∀ (errors : List DllError) (c : MnContext σ),
      (∀ e ∈ errors, DllMsStateMachine.Reported event reportingNodeId e) →
      BootSteps reports identified c.bootView
        (errors.foldl (fun c error => c.handleDllError reportingNodeId error) c).bootView
  | [], c, _ => .refl
  | error :: errors, c, h => by
      have hhead : BootSteps reports identified c.bootView
          (c.handleDllError reportingNodeId error).bootView := by
        obtain ⟨counters, heq | ⟨-, heq⟩⟩ := c.handleDllError_cases (h error List.mem_cons_self)
        · rw [heq]
          exact .refl
        · rw [heq]
          exact boot_lose { c with dllErrorManager := counters } reportingNodeId
      exact hhead.trans (boot_foldl_handleDllError event reportingNodeId errors _
        (fun e he => h e (List.mem_cons_of_mem _ he)))

theorem boot_handleDllEvent (c : MnContext σ) (event : DllMsEvent) (frame : PowerlinkFrame) :
    BootSteps reports identified c.bootView (c.handleDllEvent event frame).bootView := by
  dsimp only [handleDllEvent]
  generalize hr : c.dllStateMachine.processEvent _ _ _ _ _ _ _ _ = r
  have herrors : ∀ e ∈ r.1, DllMsStateMachine.Reported event (c.reportingNode frame) e := by
    intro e he
    rw [← hr] at he
    exact DllMsStateMachine.processEvent_errors he
  exact boot_foldl_handleDllError event (c.reportingNode frame) r.1
    { c with dllStateMachine := r.2 } herrors

/-! ### One call -/

theorem boot_processFrame {c d : MnContext σ} {frame : PowerlinkFrame} {t : ℕ}
    (hnmt : frame.nmtEvent = none) (h : c.processFrame frame t = some d)
    (hallows : Allows reports identified c frame t) :
    BootSteps reports identified c.bootView d.bootView := by
  have hevent : dllMnEvent frame ≠ .presTimeout := by
    cases frame <;> exact fun heq => nomatch heq
  obtain ⟨m, e, hdll⟩ := c.handleDllEvent_of_ne hevent frame
  dsimp only [processFrame] at h
  rw [hnmt] at h
  dsimp only at h
  generalize c.handleDllEvent (dllMnEvent frame) frame = f at h hdll
  have hboot : f.bootView = c.bootView := by
    rw [hdll]
    rfl
  have hf : Allows reports identified f frame t := by
    rw [hdll]
    refine hallows.congr rfl ?_
    intro nodeId payload
    rw [validateBootStep1Checks_fst, validateBootStep1Checks_fst]
    rfl
  rw [← hboot]
  split at h
  · exact boot_processPres h (fun info hget => hf.report _ _ info rfl hget)
  · obtain rfl := Option.some.inj h
    exact f.boot_processAsnd _ t hf
  · obtain rfl := Option.some.inj h
    exact .refl

theorem boot_processPowerlinkFrame {c d : MnContext σ} {frame : PowerlinkFrame} {t : ℕ}
    {action : NodeAction} (h : c.processPowerlinkFrame frame t = some (action, d))
    (hallows : Allows reports identified c frame t) :
    BootSteps reports identified c.bootView d.bootView := by
  unfold processPowerlinkFrame at h
  split at h
  · obtain ⟨e, hframe, heq⟩ := Option.map_eq_some_iff.mp h
    rw [← (Prod.mk.inj heq).2]
    exact boot_processFrame rfl hframe hallows
  · unfold processAsndFrame at h
    split_ifs at h
    · obtain ⟨e, hresponse, heq⟩ := Option.map_eq_some_iff.mp h
      rw [← (Prod.mk.inj heq).2, (still_processSdoResponse hresponse).boot]
    · obtain ⟨hstill, -⟩ := still_handleSdoServerRequest (Option.some.inj h)
      rw [hstill.boot]
      exact .refl
    · obtain ⟨e, hframe, heq⟩ := Option.map_eq_some_iff.mp h
      rw [← (Prod.mk.inj heq).2]
      exact boot_processFrame rfl hframe hallows
  · rw [← (Prod.mk.inj (Option.some.inj h)).2]

end MnContext

/-- The POWERLINK frame that a call receives. -/
def CycleInput.frame (input : CycleInput) : Option PowerlinkFrame :=
  match input.ethernetFrame with
  | none => none
  | some buffer =>
      if MnContext.isPowerlinkBuffer buffer then (deserializeFrame buffer).toOption else none

namespace MnContext

variable {σ : Type} [ObjectDictionaryStorage σ]

omit [ObjectDictionaryStorage σ] in
/-- The received frame reports a state of the node, which is tracked in the given one. -/
def Reports (c : MnContext σ) (input : CycleInput) (nodeId : NodeId) (state : CnState)
    (reported : NmtState) : Prop :=
  ∃ frame info, input.frame = some frame ∧ frame.report = some (nodeId, reported) ∧
    c.nodeInfo.get? nodeId = some info ∧ info.state = state

omit [ObjectDictionaryStorage σ] in
/-- The received frame is an IdentResponse of the node that passes the checks. -/
def Validates (c : MnContext σ) (input : CycleInput) (nodeId : NodeId) : Prop :=
  ∃ frame, input.frame = some frame ∧ c.Identifies frame input.currentTimeUs nodeId

theorem boot_receiveEthernet {c d : MnContext σ} {input : CycleInput} {action : NodeAction}
    (h : c.receiveEthernet input = some (action, d)) :
    BootSteps (c.Reports input) (c.Validates input) c.bootView d.bootView := by
  unfold receiveEthernet processEthernetFrame at h
  split at h
  · rw [← (Prod.mk.inj (Option.some.inj h)).2]
  · rename_i buffer hbuffer
    split_ifs at h with hpowerlink hreset
    · rw [← (Prod.mk.inj (Option.some.inj h)).2]
      apply c.boot_processNmtEvent rfl
      exact gate_of_state hreset (by decide) (by decide) (by decide)
    · split at h
      · rename_i frame hframe
        have hinput : input.frame = some frame := by
          unfold CycleInput.frame
          rw [hbuffer]
          dsimp only
          rw [if_pos hpowerlink, hframe]
          rfl
        refine boot_processPowerlinkFrame h ?_
        exact {
          report := fun nodeId reported info hreport hget =>
            ⟨frame, info, hinput, hreport, hget, rfl⟩
          identify := fun nodeId hidentifies => ⟨frame, hinput, hidentifies⟩ }
      · rw [← (Prod.mk.inj (Option.some.inj h)).2]
    · rw [← (Prod.mk.inj (Option.some.inj h)).2]

/-- A tick neither reports nor identifies anything. -/
theorem BootTicked.steps {c d : MnContext σ} (h : BootTicked c d) :
    BootSteps (fun _ _ _ => False) (fun _ => False) c.bootView d.bootView := by
  cases h with
  | same h =>
      rw [h]
  | activate e he hnmt h =>
      rw [h, ← he]
      apply e.boot_processNmtEvent rfl
      exact gate_of_state hnmt (by decide) (by decide) (by decide)
  | timeout e event he h =>
      rw [h, ← he]
      exact e.boot_handleDllEvent event timeoutFrame

/-- A call is a sequence of steps, first those of the received frame and then those of the tick. -/
theorem runCycle_boot {c d : MnContext σ} {input : CycleInput} {action : NodeAction}
    (h : c.runCycle input = some (action, d)) (hqueue : c.QueueOk) :
    ∃ v, BootSteps (c.Reports input) (c.Validates input) c.bootView v ∧
      BootSteps (fun _ _ _ => False) (fun _ => False) v d.bootView := by
  obtain ⟨⟨a, r⟩, hethernet, h⟩ := Option.bind_eq_some_iff.mp h
  obtain ⟨-, -, hq⟩ := receiveEthernet_spec hethernet hqueue
  obtain ⟨hstill, -⟩ := still_receiveUdp (Prod.mk.eta (p := r.receiveUdp input)).symm
  refine ⟨r.bootView, boot_receiveEthernet hethernet, ?_⟩
  dsimp only at h
  split_ifs at h
  · rw [← (Prod.mk.inj (Option.some.inj h)).2]
  · rw [← (Prod.mk.inj (Option.some.inj h)).2, hstill.boot]
  · obtain ⟨-, hboot, -⟩ := handleTick_spec h (hstill.queue hq)
    rw [← hstill.boot]
    exact hboot.steps

end MnContext

end Powerlink
