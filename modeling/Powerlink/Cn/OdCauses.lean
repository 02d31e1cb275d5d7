import Powerlink.Cn.Answers
import Powerlink.Cn.ErrorBit
import Powerlink.Node.OdCalls

/-! # What changes the dictionary of a controlled node

Every change of the dictionary of a controlled node has a reason in the call of the application.
`CnCall.Writes` lists the reasons with the dictionary calls that they allow, and `call_dictionary`
says that the list is complete for every call.

An object that is neither written by SDO, nor mapped by the RPDO channel for the received frame, nor
reset, nor one of the records of the node, stays as it is (`entry_kept`). -/

namespace Powerlink

open ObjectDictionary (OdCall ChangedBy)

/-- The source of the process data that a node takes from a frame. -/
def PowerlinkFrame.pdoSource (nodeId : NodeId) : PowerlinkFrame → Option NodeId
  | .pReq preq => if preq.destination = nodeId then some preq.source else none
  | .pRes pres => some pres.source
  | _ => none

/-- The frame sets the host name of a node. -/
def PowerlinkFrame.SetsHostName (nodeId : NodeId) : PowerlinkFrame → Prop
  | .aSnd asnd => asnd.destination = nodeId ∧ asnd.serviceId = .nmtCommand ∧
      ∃ octet, asnd.payload.head? = some octet ∧
        NmtManagingCommand.tryFrom octet = .ok .nmtNetHostNameSet
  | _ => False

/-- A dictionary call that a frame brings about before its process data is taken. -/
inductive PowerlinkFrame.Writes (nodeId : NodeId) (frame : PowerlinkFrame) : OdCall → Prop
  | own {call : OdCall} (h : call.Own) : Writes nodeId frame call
  /-- The event of the frame resets the node. -/
  | event {event : NmtEvent} {call : OdCall} (hhands : frame.Hands nodeId event)
      (h : call.OfEvent event) : Writes nodeId frame call
  | hostName (name : String) (h : frame.SetsHostName nodeId) :
      Writes nodeId frame (.writeInternal 0x1F9A 0 (.visibleString name) false)
  /-- The SDO server writes for a request. -/
  | request {asnd : ASndFrame} {call : OdCall} (hframe : frame = .aSnd asnd)
      (hdest : asnd.destination = nodeId) (hservice : asnd.serviceId = .sdo) (h : call.Checked) :
      Writes nodeId frame call

/-- A frame with process data brings about no other call than those for the records. -/
theorem PowerlinkFrame.Writes.own_of_pdoSource {nodeId source : NodeId} {frame : PowerlinkFrame}
    {call : OdCall} (hsource : frame.pdoSource nodeId = some source)
    (h : frame.Writes nodeId call) : call.Own := by
  cases h with
  | own h => exact h
  | event hhands => cases hhands <;> cases hsource
  | hostName name hsets =>
      cases frame with
      | aSnd asnd => cases hsource
      | _ => cases hsets
  | request hframe =>
      subst hframe
      cases hsource

/-- A dictionary call that a frame brings about, given the dictionary before. -/
inductive PowerlinkFrame.Changes {σ : Type} (nodeId : NodeId) (od : ObjectDictionary σ)
    (frame : PowerlinkFrame) : OdCall → Prop
  | frame {call : OdCall} (h : frame.Writes nodeId call) : Changes nodeId od frame call
  /-- The process data of the frame is for the mapped objects. -/
  | processData {source : NodeId} {call : OdCall} (hsource : frame.pdoSource nodeId = some source)
      (h : call.OfPdo (od.rpdoEntries source)) : Changes nodeId od frame call

theorem PowerlinkFrame.Changes.of_same {σ : Type} {nodeId : NodeId} {od od' : ObjectDictionary σ}
    {frame : PowerlinkFrame} {call : OdCall} (h : frame.Changes nodeId od call)
    (hentries : ∀ source, frame.pdoSource nodeId = some source →
      od.rpdoEntries source = od'.rpdoEntries source) : frame.Changes nodeId od' call := by
  cases h with
  | frame h => exact .frame h
  | processData hsource h =>
      rw [hentries _ hsource] at h
      exact .processData hsource h

/-- Why a call of the application changes the dictionary of a node, given the dictionary before. -/
inductive CnCall.Writes {σ : Type} (nodeId : NodeId) (od : ObjectDictionary σ) :
    CnCall → OdCall → Prop
  /-- The node keeps its own records. -/
  | own {call : CnCall} {odCall : OdCall} (h : odCall.Own) : Writes nodeId od call odCall
  /-- A frame is received. -/
  | frame {input : CycleInput} {frame : PowerlinkFrame} {odCall : OdCall}
      (hinput : input.frame = some frame) (h : frame.Changes nodeId od odCall) :
      Writes nodeId od (.runCycle input) odCall
  /-- A received datagram asks the SDO server. -/
  | datagram {input : CycleInput} {odCall : OdCall} (hinput : input.udpDatagram ≠ none)
      (h : odCall.Checked) : Writes nodeId od (.runCycle input) odCall

namespace CnContext

variable {σ : Type} [ObjectDictionaryStorage σ]

/-- The allowed calls lead from the dictionary of one context to that of the other one; the addresses
of the node are the same. -/
structure CoreBy (allowed : OdCall → Prop) (c d : CnContext σ) : Prop where
  od : ChangedBy allowed c.core.od d.core.od
  mac : d.core.macAddress = c.core.macAddress
  nodeId : d.nodeId = c.nodeId

variable {allowed : OdCall → Prop} {c d e : CnContext σ}

theorem CoreBy.refl (allowed : OdCall → Prop) (c : CnContext σ) : CoreBy allowed c c :=
  ⟨.refl _ _ _, rfl, rfl⟩

theorem CoreBy.trans (h : CoreBy allowed c d) (h' : CoreBy allowed d e) : CoreBy allowed c e :=
  ⟨h.od.trans h'.od, h'.mac.trans h.mac, h'.nodeId.trans h.nodeId⟩

theorem CoreBy.mono {allowed' : OdCall → Prop} (hallowed : ∀ k, allowed k → allowed' k)
    (h : CoreBy allowed c d) : CoreBy allowed' c d :=
  ⟨h.od.mono hallowed, h.mac, h.nodeId⟩

/-- The core is the same. -/
theorem CoreBy.of_core (h : d.core = c.core) (hnode : d.nodeId = c.nodeId) :
    CoreBy allowed c d := by
  refine ⟨?_, congrArg CoreNodeContext.macAddress h, hnode⟩
  rw [h]
  exact .refl _ _ _

/-- Only the records of the node are changed. -/
abbrev Records (c d : CnContext σ) : Prop := CoreBy OdCall.Own c d

theorem records_count (c : CnContext σ) (subIndex : UInt8) : Records c (c.count subIndex) :=
  ⟨ObjectDictionary.changedBy_one (OdCall.Own.telegrams subIndex) _, rfl, rfl⟩

theorem records_countError (c : CnContext σ) (subIndex : UInt8) :
    Records c (c.countError subIndex) :=
  ⟨ObjectDictionary.changedBy_one (OdCall.Own.errors subIndex) _, rfl, rfl⟩

theorem records_writeErrorRegister (c : CnContext σ) (value : UInt8) :
    Records c (c.writeErrorRegister value) :=
  ⟨ObjectDictionary.changedBy_one (OdCall.Own.errorRegister value) _, rfl, rfl⟩

/-- The state machine is driven by an event. -/
theorem coreBy_processNmtEvent (c : CnContext σ) (event : NmtEvent) :
    CoreBy (OdCall.OfEvent event) c (c.processNmtEvent event) :=
  ⟨ObjectDictionary.changedBy_processEvent _ event _, rfl, congrArg (fun v => v.machine.nodeId)
    (c.signals_processNmtEvent event)⟩

theorem records_processNmtEvent (c : CnContext σ) {event : NmtEvent}
    (h : MnNmtStateMachine.isReset event = false) : Records c (c.processNmtEvent event) :=
  (c.coreBy_processNmtEvent event).mono (fun _ hcall => hcall.own_of_not_reset h)

/-! ### Errors -/

theorem records_signalError (c : CnContext σ) (error : DllError) (timeUs : ℕ) :
    Records c (c.signalError error timeUs) := by
  have hchange : ∀ e : CnContext σ, Records e e.countStaticChange := by
    intro e
    unfold countStaticChange
    split_ifs
    · exact e.records_countError 5
    · exact .refl _ _
  have hqueue : ∀ (e : CnContext σ) (entry : ErrorEntry), Records e (e.queueEmergency entry) := by
    intro e entry
    unfold queueEmergency
    split_ifs
    · have hhistory : Records e { e with
          emergencyQueue := e.emergencyQueue ++ [entry]
          core := { e.core with od := writeErrorToHistory e.core.od entry } } :=
        ⟨ObjectDictionary.changedBy_one (OdCall.Own.errorHistory entry) _, rfl, rfl⟩
      exact hhistory.trans (records_countError _ 2)
    · exact e.records_countError 3
  unfold signalError
  dsimp only
  have hstart : Records c { c with errorStatusChanged := true } := .of_core rfl rfl
  exact ((hstart.trans (hchange _)).trans (records_writeErrorRegister _ _)).trans (hqueue _ _)

theorem records_resetAfterError (c : CnContext σ) : Records c c.resetAfterError :=
  (c.records_processNmtEvent (rfl : MnNmtStateMachine.isReset .error = false)).trans
    (.of_core rfl rfl)

theorem records_handleDllError {error : DllError} {timeUs : ℕ} {stop : Bool}
    (h : c.handleDllError error timeUs = (stop, d)) : Records c d := by
  have hcounted : ∀ manager : CnErrorCounters,
      Records c { c.countError 1 with dllErrorManager := manager } :=
    fun _ => (c.records_countError 1).trans (.of_core rfl rfl)
  dsimp only [handleDllError] at h
  split_ifs at h
  all_goals obtain ⟨-, rfl⟩ := Prod.mk.inj h
  · exact ((hcounted _).trans (records_signalError _ error timeUs)).trans (records_resetAfterError _)
  · exact (hcounted _).trans (records_resetAfterError _)
  · exact (hcounted _).trans (records_signalError _ error timeUs)
  · exact hcounted _

theorem records_handleDllErrors {timeUs : ℕ} {stop : Bool} : ∀ {errors : List DllError}
    {c d : CnContext σ}, c.handleDllErrors errors timeUs = (stop, d) → Records c d
  | [], c, d, h => by
      obtain ⟨-, rfl⟩ := Prod.mk.inj h
      exact .refl _ _
  | error :: errors, c, d, h => by
      rw [handleDllErrors] at h
      split at h
      · rename_i e he
        obtain ⟨-, rfl⟩ := Prod.mk.inj h
        exact records_handleDllError he
      · rename_i e he
        exact (records_handleDllError he).trans (records_handleDllErrors h)

theorem records_handleInvalidFormat (c : CnContext σ) : Records c c.handleInvalidFormat := by
  have hwritten : ∀ (e : CnContext σ) (value : UInt8), e.core = c.core →
      e.nodeId = c.nodeId → Records c (e.writeErrorRegister value) :=
    fun e value he hnode => (CoreBy.of_core he hnode).trans (e.records_writeErrorRegister value)
  unfold handleInvalidFormat
  dsimp only
  split_ifs
  · refine CoreBy.trans ?_ (records_processNmtEvent _ rfl)
    exact hwritten _ _ rfl rfl
  · refine CoreBy.trans ?_ (records_processNmtEvent _ rfl)
    exact .of_core rfl rfl
  · exact hwritten _ _ rfl rfl
  · exact .of_core rfl rfl

/-! ### The tick -/

theorem records_handleHeartbeatTimeout {nodeId : NodeId} {timeUs : ℕ} {stop : Bool}
    (h : c.handleHeartbeatTimeout nodeId timeUs = (stop, d)) : Records c d := by
  have hregister : ∀ (e : CnContext σ) (value : UInt8), e.core = c.core →
      e.nodeId = c.nodeId → Records c ((e.countError 5).writeErrorRegister value) :=
    fun e value he hnode => ((CoreBy.of_core he hnode).trans (e.records_countError 5)).trans
      (records_writeErrorRegister _ value)
  dsimp only [handleHeartbeatTimeout] at h
  split_ifs at h
  all_goals obtain ⟨-, rfl⟩ := Prod.mk.inj h
  · refine CoreBy.trans ?_ (records_resetAfterError _)
    exact hregister _ _ rfl rfl
  · refine CoreBy.trans ?_ (records_resetAfterError _)
    exact .of_core rfl rfl
  · refine CoreBy.trans ?_ (records_resetAfterError _)
    exact .of_core rfl rfl
  · exact hregister _ _ rfl rfl
  · exact .of_core rfl rfl
  · exact .of_core rfl rfl

theorem records_handleHeartbeatTimeouts {timeUs : ℕ} {stop : Bool} : ∀ {nodeIds : List NodeId}
    {c d : CnContext σ}, c.handleHeartbeatTimeouts nodeIds timeUs = (stop, d) → Records c d
  | [], c, d, h => by
      obtain ⟨-, rfl⟩ := Prod.mk.inj h
      exact .refl _ _
  | nodeId :: nodeIds, c, d, h => by
      rw [handleHeartbeatTimeouts] at h
      split at h
      · rename_i e he
        obtain ⟨-, rfl⟩ := Prod.mk.inj h
        exact records_handleHeartbeatTimeout he
      · rename_i e he
        exact (records_handleHeartbeatTimeout he).trans (records_handleHeartbeatTimeouts h)

theorem records_tickHeartbeats {timeUs : ℕ} {stop : Bool}
    (h : c.tickHeartbeats timeUs = some (stop, d)) : Records c d := by
  unfold tickHeartbeats at h
  split_ifs at h
  · split at h
    · cases h
    · refine CoreBy.trans ?_ (records_handleHeartbeatTimeouts (Option.some.inj h))
      exact .of_core rfl rfl
  · obtain ⟨-, rfl⟩ := Prod.mk.inj (Option.some.inj h)
    exact .refl _ _

theorem records_tickDeadline {state : NmtState} {timeUs : ℕ}
    (h : c.tickDeadline state timeUs = some d) : Records c d := by
  have hsame : ∀ {e : CnContext σ}, some e = some d → e.core = c.core → e.nodeId = c.nodeId →
      Records c d := by
    intro e hd he hnode
    obtain rfl := Option.some.inj hd
    exact .of_core he hnode
  dsimp only [tickDeadline] at h
  split at h
  · split_ifs at h
    · exact hsame h rfl rfl
    · exact hsame h rfl rfl
  · split_ifs at h
    · exact hsame h rfl rfl
    · rw [← Option.some.inj h]
      refine CoreBy.trans ?_ ((records_processNmtEvent _ rfl).trans (.of_core rfl rfl))
      exact .of_core rfl rfl
    · exact hsame h rfl rfl
    · dsimp only [deliverSocTimeout] at h
      split at h
      · rename_i e herrors
        rw [← Option.some.inj h]
        refine CoreBy.trans ?_ (records_handleDllErrors herrors)
        exact .of_core rfl rfl
      · rename_i e herrors
        have he : Records c e := by
          refine CoreBy.trans ?_ (records_handleDllErrors herrors)
          exact .of_core rfl rfl
        split_ifs at h
        · obtain ⟨_, _, rfl, rfl⟩ := rescheduleSocCheck_frame h
          exact he.trans (.of_core rfl rfl)
        · rw [← Option.some.inj h]
          exact he
    · exact hsame h rfl rfl

theorem records_tickSdoServer (c : CnContext σ) (timeUs : ℕ) :
    Records c (c.tickSdoServer timeUs).2 := by
  dsimp only [tickSdoServer]
  generalize c.core.sdoServer.tick timeUs c.core.od = r
  obtain ⟨result, server⟩ := r
  have hserver : Records c { c with core := { c.core with sdoServer := server } } :=
    ⟨.refl _ _ _, rfl, rfl⟩
  split
  · dsimp only
    split
    · exact hserver.trans (records_count _ 7)
    · exact hserver.trans (records_count _ 7)
  · exact hserver

theorem records_processTick {timeUs : ℕ} {action : NodeAction}
    (h : c.processTick timeUs = some (action, d)) : Records c d := by
  have hserved := c.records_tickSdoServer timeUs
  unfold processTick at h
  split at h
  · rename_i sent e hserver
    obtain ⟨-, rfl⟩ := Prod.mk.inj (Option.some.inj h)
    rwa [hserver] at hserved
  · rename_i e hserver
    rw [hserver] at hserved
    split at h
    · cases h
    · rename_i f hbeats
      obtain ⟨-, rfl⟩ := Prod.mk.inj (Option.some.inj h)
      exact hserved.trans (records_tickHeartbeats hbeats)
    · rename_i f hbeats
      obtain ⟨g, hg, h⟩ := Option.map_eq_some_iff.mp h
      obtain ⟨-, rfl⟩ := Prod.mk.inj h
      exact (hserved.trans (records_tickHeartbeats hbeats)).trans (records_tickDeadline hg)

/-! ### Answers -/

theorem records_toggleExceptionFlag (c : CnContext σ) : Records c c.toggleExceptionFlag := by
  unfold toggleExceptionFlag
  split_ifs
  · refine CoreBy.trans ?_ (records_countError _ 7)
    exact .of_core rfl rfl
  · exact .refl _ _

theorem records_answerSoa (c : CnContext σ) (soa : SoAFrame) : Records c (c.answerSoa soa).2 := by
  unfold answerSoa
  split
  · exact c.records_count 5
  · dsimp only [buildStatusResponse]
    split_ifs
    · exact (c.records_count 5).trans (.of_core rfl rfl)
    · refine (c.records_count 5).trans (CoreBy.trans ?_ (records_countError _ 2))
      exact .of_core rfl rfl
  · split
    · exact .refl _ _
    · refine CoreBy.trans ?_ (records_count _ 5)
      exact .of_core rfl rfl
  · split
    · exact .of_core rfl rfl
    · refine CoreBy.trans ?_ (records_count _ 7)
      exact .of_core rfl rfl
  · exact .refl _ _

omit [ObjectDictionaryStorage σ] in
theorem mac_applyTpdoMapping {result : Except PowerlinkError (List UInt8)} :
    ∀ {entries : List PdoMappingEntry} {core core' : CoreNodeContext σ} {payload : List UInt8},
      applyTpdoMapping core payload entries = some (result, core') →
      core'.macAddress = core.macAddress
  | [], core, core', payload, h => by rw [← (Prod.mk.inj (Option.some.inj h)).2]
  | entry :: entries, core, core', payload, h => by
      have hentry : ∀ {r}, applyTpdoMappingEntry core payload entry = some r →
          r.2.macAddress = core.macAddress := by
        intro r hr
        unfold applyTpdoMappingEntry at hr
        split at hr
        · split_ifs at hr
          · rw [← Option.some.inj hr]
          · rw [← Option.some.inj hr]
          · rw [← Option.some.inj hr]
          · split at hr
            · rw [← Option.some.inj hr]
            · split_ifs at hr
              · rw [← Option.some.inj hr]
              · rw [← Option.some.inj hr]
        · rw [← Option.some.inj hr]
      rw [applyTpdoMapping] at h
      split at h
      · cases h
      · rename_i hr
        rw [← (Prod.mk.inj (Option.some.inj h)).2]
        exact hentry hr
      · rename_i hr
        exact (mac_applyTpdoMapping h).trans (hentry hr)

omit [ObjectDictionaryStorage σ] in
theorem mac_buildTpdoPayload {core core' : CoreNodeContext σ}
    {result : Except PowerlinkError (List UInt8 × PDOVersion)}
    (h : buildTpdoPayload core = some (result, core')) : core'.macAddress = core.macAddress := by
  unfold buildTpdoPayload at h
  dsimp only at h
  split at h
  · cases h
  · rename_i hmapping
    rw [← (Prod.mk.inj (Option.some.inj h)).2]
    exact mac_applyTpdoMapping hmapping
  · rename_i hmapping
    rw [← (Prod.mk.inj (Option.some.inj h)).2]
    exact mac_applyTpdoMapping hmapping

theorem records_answer {frame : PowerlinkFrame} {response : Option PowerlinkFrame}
    (h : c.answer frame = some (response, d)) : Records c d := by
  unfold answer at h
  split_ifs at h
  · cases frame with
    | soA soa =>
        dsimp only at h
        split_ifs at h
        · have hanswer := c.records_answerSoa soa
          rwa [Option.some.inj h] at hanswer
        · rw [← (Prod.mk.inj (Option.some.inj h)).2]
          exact .refl _ _
    | pReq preq =>
        dsimp only at h
        split_ifs at h
        · obtain ⟨⟨frame', e⟩, he, h⟩ := Option.bind_eq_some_iff.mp h
          obtain ⟨-, rfl⟩ := Prod.mk.inj (Option.some.inj h)
          obtain ⟨⟨tpdo, core⟩, hbuild, he⟩ := Option.bind_eq_some_iff.mp he
          obtain ⟨-, rfl⟩ := Prod.mk.inj (Option.some.inj he)
          refine (c.records_count 3).trans ⟨?_, mac_buildTpdoPayload hbuild, rfl⟩
          have hod : core.od = (c.count 3).core.od := buildTpdoPayload_od hbuild
          rw [← hod]
          exact .refl _ _ _
        · rw [← (Prod.mk.inj (Option.some.inj h)).2]
          exact .refl _ _
    | _ =>
        rw [← (Prod.mk.inj (Option.some.inj h)).2]
        exact .refl _ _
  · rw [← (Prod.mk.inj (Option.some.inj h)).2]
    exact .refl _ _

/-! ### Received frames -/

/-- The host name is the only value that a frame sets. -/
theorem coreBy_receiveNmtEvent (c : CnContext σ) (frame : PowerlinkFrame) :
    CoreBy (frame.Writes c.nodeId) c (c.receiveNmtEvent frame).2 := by
  cases frame with
  | aSnd asnd =>
      dsimp only [receiveNmtEvent]
      split_ifs with haddressed
      · unfold receiveNmtCommand
        split
        · exact .refl _ _
        · rename_i commandId hhead
          split
          · exact .refl _ _
          · split
            · rename_i hmanaging
              have hsets : (PowerlinkFrame.aSnd asnd).SetsHostName c.nodeId :=
                ⟨haddressed.1, haddressed.2, commandId, hhead, hmanaging⟩
              dsimp only [setHostName]
              split_ifs
              · exact .refl _ _
              · split
                · exact .refl _ _
                · exact ⟨ObjectDictionary.changedBy_one
                    (PowerlinkFrame.Writes.hostName _ hsets) _, rfl, rfl⟩
            · exact .refl _ _
      · exact .refl _ _
  | _ => exact .refl _ _

/-- What a frame does before its process data is taken. -/
theorem coreBy_receiveFrame (c : CnContext σ) (frame : PowerlinkFrame) (timeUs : ℕ) :
    CoreBy (frame.Writes c.nodeId) c (c.receiveFrame frame timeUs) := by
  have hsoc : Records c (c.receiveCycleStart frame timeUs) := by
    cases frame with
    | soc soc =>
        have hcomplete : ∀ e : CnContext σ, Records e e.completeCycle := by
          intro e
          dsimp only [completeCycle]
          split_ifs
          · refine CoreBy.trans ?_ (records_countError _ 5)
            refine CoreBy.trans (CoreBy.trans ?_ (records_writeErrorRegister _ _)) (.of_core rfl rfl)
            exact .of_core rfl rfl
          · exact .of_core rfl rfl
        have hschedule : ∀ e : CnContext σ, Records e (e.scheduleSocCheck timeUs) := by
          intro e
          unfold scheduleSocCheck
          split
          · exact .of_core rfl rfl
          · dsimp only
            split_ifs
            · split
              · split_ifs
                · exact .of_core rfl rfl
                · exact .refl _ _
              · exact .of_core rfl rfl
            · exact .of_core rfl rfl
        dsimp only [receiveCycleStart, receiveSoc]
        refine CoreBy.trans (CoreBy.trans (CoreBy.trans ?_ (records_count _ 1)) (hcomplete _))
          (hschedule _)
        exact .of_core rfl rfl
    | _ => exact .refl _ _
  have hcount : ∀ e : CnContext σ, Records e (e.countReceived frame timeUs) := by
    intro e
    cases frame with
    | pReq preq => exact e.records_count 2
    | pRes pres => exact (e.records_count 2).trans (.of_core rfl rfl)
    | soA soa =>
        dsimp only [countReceived]
        split_ifs
        · exact (e.records_count 4).trans (records_count _ 8)
        · exact e.records_count 4
    | _ => exact .refl _ _
  have hflags : ∀ e : CnContext σ, Records e (e.receiveFlags frame) := by
    intro e
    cases frame with
    | soA soa =>
        dsimp only [receiveFlags]
        split_ifs
        · refine CoreBy.trans (CoreBy.trans ?_ (records_countError _ 6)) (.of_core rfl rfl)
          exact .of_core rfl rfl
        · exact .of_core rfl rfl
        · exact .refl _ _
    | _ => exact .refl _ _
  have hflagged : Records c
      (((c.receiveCycleStart frame timeUs).countReceived frame timeUs).receiveFlags frame) :=
    (hsoc.trans (hcount _)).trans (hflags _)
  have hnode := c.nodeId_receiveFlags frame timeUs
  unfold receiveFrame
  dsimp only
  generalize ((c.receiveCycleStart frame timeUs).countReceived frame timeUs).receiveFlags frame = e
    at hflagged hnode ⊢
  have hevent : CoreBy (frame.Writes c.nodeId) e (e.receiveNmtEvent frame).2 := by
    rw [← hnode]
    exact e.coreBy_receiveNmtEvent frame
  have hhands : ∀ event, (e.receiveNmtEvent frame).1 = some event → frame.Hands c.nodeId event := by
    intro event h
    rw [← hnode]
    exact e.hands_receiveNmtEvent h
  refine (hflagged.mono (fun _ h => .own h)).trans (hevent.trans ?_)
  cases hraised : (e.receiveNmtEvent frame).1 with
  | none => exact .refl _ _
  | some event =>
      exact (coreBy_processNmtEvent _ event).mono (fun _ h => .event (hhands event hraised) h)

/-- Process data is consumed before the answer. -/
theorem coreBy_respondFrame {frame : PowerlinkFrame} {action : NodeAction}
    (h : c.respondFrame frame = some (action, d)) :
    CoreBy (frame.Changes c.nodeId c.core.od) c d := by
  obtain ⟨e, hpdo, h⟩ := Option.bind_eq_some_iff.mp h
  obtain ⟨⟨response, f⟩, hanswer, h⟩ := Option.bind_eq_some_iff.mp h
  obtain ⟨-, rfl⟩ := Prod.mk.inj (Option.some.inj h)
  have hconsumed : ∀ {source payload version isReady},
      frame.pdoSource c.nodeId = some source →
      c.consumePdo source payload version isReady = some e →
      CoreBy (frame.Changes c.nodeId c.core.od) c e := by
    intro source payload version isReady hsource hconsume
    obtain ⟨r, hr, hconsume⟩ := Option.bind_eq_some_iff.mp hconsume
    obtain rfl := Option.some.inj hconsume
    obtain ⟨od, server, client, hreceived⟩ := received_consumePdoPayload hr
    refine ⟨?_, ?_, rfl⟩
    · have hchanged := ObjectDictionary.changedBy_consumePdoPayload hr
      exact hchanged.mono (fun _ h => .processData hsource h)
    · rw [hreceived]
  have he : CoreBy (frame.Changes c.nodeId c.core.od) c e := by
    cases frame with
    | pReq preq =>
        dsimp only [receivePdo] at hpdo
        split_ifs at hpdo with hdest
        · exact hconsumed (if_pos hdest) hpdo
        · rw [← Option.some.inj hpdo]
          exact .refl _ _
    | pRes pres => exact hconsumed rfl hpdo
    | _ =>
        rw [← Option.some.inj hpdo]
        exact .refl _ _
  have hanswered := (records_toggleExceptionFlag e).trans (records_answer hanswer)
  exact he.trans (hanswered.mono (fun _ h => .frame (.own h)))

/-- The frame finds the channels as they are before it. -/
theorem coreBy_processAccepted {frame : PowerlinkFrame} {timeUs : ℕ} {action : NodeAction}
    (h : c.processAccepted frame timeUs = some (action, d)) :
    CoreBy (frame.Changes c.nodeId c.core.od) c d := by
  have hreceived := c.coreBy_receiveFrame frame timeUs
  unfold processAccepted at h
  dsimp only at h
  generalize c.receiveFrame frame timeUs = e at h hreceived
  have herrors : ∀ {stop : Bool} {machine errors} {f : CnContext σ},
      handleDllErrors { e with dllStateMachine := machine } errors timeUs = (stop, f) →
      CoreBy (frame.Writes c.nodeId) c f := by
    intro stop machine errors f hf
    refine hreceived.trans (CoreBy.mono (fun _ h => .own h) ?_)
    refine CoreBy.trans ?_ (records_handleDllErrors hf)
    exact .of_core rfl rfl
  split at h
  · rename_i f hstop
    obtain ⟨-, rfl⟩ := Prod.mk.inj (Option.some.inj h)
    exact (herrors hstop).mono (fun _ h => .frame h)
  · rename_i f hgo
    have hf := herrors hgo
    refine (hf.mono (fun _ h => .frame h)).trans ((coreBy_respondFrame h).mono ?_)
    intro k hk
    rw [hf.nodeId] at hk
    exact hk.of_same fun source hsource =>
      ObjectDictionary.rpdoEntries_of_own (hf.od.mono fun _ h => h.own_of_pdoSource hsource) source

/-- A request is counted and handed to the SDO server. -/
theorem coreBy_handleRequest (c : CnContext σ) (payload : List UInt8) (client : SdoClientInfo)
    (timeUs : ℕ) :
    CoreBy (fun k => k.Own ∨ k.Checked) c
      (let e := c.count 6
        let r := e.core.sdoServer.handleRequest payload client e.core.od timeUs
        { e with core := { e.core with sdoServer := r.2.1, od := r.2.2 } }) := by
  refine ((c.records_count 6).mono (fun _ h => .inl h)).trans ⟨?_, rfl, rfl⟩
  exact (ObjectDictionary.changedBy_handleRequest _ payload client _ timeUs).mono
    (fun _ h => .inr h)

theorem coreBy_receiveSdo (c : CnContext σ) (asnd : ASndFrame) (timeUs : ℕ) :
    CoreBy (fun k => k.Own ∨ k.Checked) c (c.receiveSdo asnd timeUs).2 := by
  have hserved := c.coreBy_handleRequest asnd.payload
    (.asnd asnd.source asnd.ethHeader.sourceMac) timeUs
  dsimp only [receiveSdo]
  split
  · exact hserved
  · split
    · exact hserved.trans ((records_count _ 7).mono (fun _ h => .inl h))
    · exact hserved

theorem coreBy_processFrame {frame : PowerlinkFrame} {timeUs : ℕ} {action : NodeAction}
    (h : c.processFrame frame timeUs = some (action, d)) :
    CoreBy (frame.Changes c.nodeId c.core.od) c d := by
  cases frame with
  | aSnd asnd =>
      dsimp only [processFrame] at h
      split_ifs at h with hsdo hdest
      · have hserved := c.coreBy_receiveSdo asnd timeUs
        rw [Option.some.inj h] at hserved
        refine hserved.mono (fun k hk => .frame ?_)
        exact hk.elim .own (.request rfl hsdo.1 hsdo.2)
      · refine ((c.records_count 4).mono (fun _ h => .frame (.own h))).trans
          ((coreBy_processAccepted h).mono ?_)
        intro k hk
        exact hk.of_same fun source hsource => by cases hsource
      · obtain ⟨-, rfl⟩ := Prod.mk.inj (Option.some.inj h)
        exact .refl _ _
  | _ => exact coreBy_processAccepted h

theorem records_prepare (c : CnContext σ) (buffer : List UInt8) : Records c (c.prepare buffer) := by
  have hwoken : Records c (c.processNmtEvent .powerlinkFrameReceived) :=
    c.records_processNmtEvent rfl
  unfold prepare
  dsimp only
  split_ifs
  · exact hwoken.trans (records_count _ 6)
  · exact hwoken
  · exact c.records_count 6
  · exact .refl _ _

/-! ### One call -/

theorem coreBy_receiveEthernet {input : CycleInput} {action : NodeAction}
    (h : c.receiveEthernet input = some (action, d)) :
    CoreBy ((CnCall.runCycle input).Writes c.nodeId c.core.od) c d := by
  obtain ⟨buffer, frame, -, hframe, hprocess⟩ | ⟨-, -, hrest⟩ := receiveEthernet_cases h
  · have hprepared := c.records_prepare buffer
    refine (hprepared.mono (fun _ h => .own h)).trans ((coreBy_processFrame hprocess).mono ?_)
    intro k hk
    rw [hprepared.nodeId] at hk
    exact .frame hframe (hk.of_same fun source _ =>
      ObjectDictionary.rpdoEntries_of_own hprepared.od source)
  · obtain ⟨-, rfl⟩ | ⟨buffer, -, rfl | rfl⟩ := hrest
    · exact .refl _ _
    · exact (c.records_prepare buffer).mono (fun _ h => .own h)
    · exact ((c.records_prepare buffer).trans (records_handleInvalidFormat _)).mono
        (fun _ h => .own h)

theorem coreBy_receiveUdp (c : CnContext σ) (input : CycleInput) (nodeId : NodeId)
    (od : ObjectDictionary σ) :
    CoreBy ((CnCall.runCycle input).Writes nodeId od) c (c.receiveUdp input).2 := by
  unfold receiveUdp
  cases hdatagram : input.udpDatagram with
  | none => exact .refl _ _
  | some datagram =>
      obtain ⟨buffer, ip, port⟩ := datagram
      have hserved : CoreBy (fun k => k.Own ∨ k.Checked) c
          (c.processUdpDatagram buffer ip port input.currentTimeUs).2 := by
        unfold processUdpDatagram
        split
        · exact .refl _ _
        · rename_i seqHeader cmd _
          have hrequest := c.coreBy_handleRequest
            (MnContext.udpSdoPayload seqHeader cmd buffer.length) (.udp ip port)
            input.currentTimeUs
          dsimp only at hrequest ⊢
          split
          · exact hrequest
          · split
            · exact hrequest
            · exact hrequest
      have hreason : ∀ k : OdCall, k.Own ∨ k.Checked →
          (CnCall.runCycle input).Writes nodeId od k := by
        intro k hk
        exact hk.elim .own (.datagram (by rw [hdatagram]; exact Option.some_ne_none _))
      dsimp only
      split
      · rename_i hsent
        rw [hsent] at hserved
        exact (hserved.trans ((records_count _ 7).mono (fun _ h => .inl h))).mono hreason
      · rename_i hsent
        rw [hsent] at hserved
        exact hserved.mono hreason

/-- A call changes the dictionary only for the reasons that are listed. -/
theorem coreBy_call {call : CnCall} {action : NodeAction} (h : c.call call = some (action, d)) :
    CoreBy (call.Writes c.nodeId c.core.od) c d := by
  cases call with
  | runCycle input =>
      change c.runCycle input = some (action, d) at h
      obtain ⟨⟨sent, e⟩, hreceived, h⟩ := Option.bind_eq_some_iff.mp h
      have he := coreBy_receiveEthernet hreceived
      have hserved := he.trans (e.coreBy_receiveUdp input c.nodeId c.core.od)
      dsimp only at h
      split_ifs at h
      · obtain ⟨-, rfl⟩ := Prod.mk.inj (Option.some.inj h)
        exact he
      · obtain ⟨-, rfl⟩ := Prod.mk.inj (Option.some.inj h)
        exact hserved
      · exact hserved.trans ((records_processTick h).mono (fun _ h => .own h))
  | queueSdoRequest payload =>
      obtain ⟨-, rfl⟩ := Prod.mk.inj (Option.some.inj h)
      exact .of_core rfl rfl
  | queueNmtRequest command target =>
      obtain ⟨-, rfl⟩ := Prod.mk.inj (Option.some.inj h)
      exact .of_core rfl rfl
  | configurationComplete =>
      obtain ⟨-, rfl⟩ := Prod.mk.inj (Option.some.inj h)
      exact (records_processNmtEvent c rfl).mono (fun _ h => .own h)

end CnContext

/-! ### What a call leaves alone -/

/-- The call resets the node and restores the object. -/
def CnCall.Restores (nodeId : NodeId) (call : CnCall) (index : UInt16) : Prop :=
  ∃ input frame event area, call = .runCycle input ∧ input.frame = some frame ∧
    frame.Hands nodeId event ∧ area ∈ ObjectDictionary.restoredAreas event ∧
    area.1 ≤ index ∧ index ≤ area.2

/-- The call has process data for the object. -/
def CnCall.Feeds {σ : Type} (nodeId : NodeId) (od : ObjectDictionary σ) (call : CnCall)
    (index : UInt16) : Prop :=
  ∃ input frame source entry, call = .runCycle input ∧ input.frame = some frame ∧
    frame.pdoSource nodeId = some source ∧ entry ∈ od.rpdoEntries source ∧ entry.index = index

section kept

variable {σ : Type} [ObjectDictionaryStorage σ] {nodeId : NodeId} {od d : ObjectDictionary σ}
  {call : CnCall} {odCall : OdCall} {index : UInt16}

omit [ObjectDictionaryStorage σ] in
/-- A call restores no other area than those of the received reset. -/
theorem CnCall.Writes.outside {startIndex endIndex : UInt16}
    (h : call.Writes nodeId od (.restorePowerOnValues startIndex endIndex))
    (hrestores : ¬call.Restores nodeId index) : index < startIndex ∨ endIndex < index := by
  have hown : ¬(OdCall.restorePowerOnValues startIndex endIndex).Own := by
    intro hown
    cases hown
  cases h with
  | own h => exact absurd h hown
  | datagram _ h => cases h
  | @frame input frame _ hinput h =>
      cases h with
      | processData _ h =>
          cases h with
          | own h => exact absurd h hown
          | channel _ _ h => cases h
      | frame h =>
          cases h with
          | own h => exact absurd h hown
          | request _ _ _ h => cases h
          | @event event _ hhands h =>
              cases h with
              | own h => exact absurd h hown
              | restore h =>
                  by_contra hinside
                  rw [not_or, UInt16.not_lt, UInt16.not_lt] at hinside
                  exact hrestores ⟨input, frame, event, _, rfl, hinput, hhands, h, hinside⟩

/-- The types of an object that is not restored. -/
theorem CnCall.Writes.typesAt_kept {types : ObjectTypes} (h : call.Writes nodeId od odCall)
    (hhistory : index ≠ 0x1003) (hrestores : ¬call.Restores nodeId index)
    (htypes : d.typesAt index = some types) : (d.call odCall).typesAt index = some types := by
  have hkept : d.CallRestoresTypes odCall → (d.call odCall).typesAt index = some types :=
    fun hcall => ((d.keepsTypes_call_iff odCall).mpr hcall).objects index types hhistory htypes
  cases odCall with
  | restorePowerOnValues startIndex endIndex =>
      have houtside := h.outside hrestores
      have hsame := d.get?_restorePowerOnValues_outside (houtside.imp_right Or.inl)
      rw [← htypes]
      exact congrArg (fun entry => (entry.map ObjectEntry.object).map Object.types) hsame
  | _ => exact hkept trivial

/-- A checked write leaves an object alone that is read-only. -/
theorem get?_checked (hcall : odCall.Checked)
    (hreadOnly : ∀ entry, d.entries.get? index = some entry →
      ObjectDictionary.isReadOnly entry.access = true) :
    (d.call odCall).entries.get? index = d.entries.get? index := by
  cases odCall with
  | write i s v =>
      by_cases hi : index = i
      · subst hi
        change (d.write index s v).2.entries.get? index = _
        obtain hentries | hwrite := d.entries_write index s v
        · rw [hentries]
        · rw [hwrite]
          unfold ObjectDictionary.writeInternal
          split
          · rfl
          · rename_i entry hentry
            rw [Bool.true_and, if_pos (hreadOnly entry hentry)]
      · exact ObjectDictionary.get?_call (.write i s v) rfl hi
  | _ => cases hcall

/-- An object that is read-only, no record of the node and not restored is changed by process data
only. -/
theorem CnCall.Writes.get?_kept (h : call.Writes nodeId od odCall)
    (hown : index ∉ ObjectDictionary.ownObjects) (hname : index ≠ 0x1F9A)
    (hrestores : ¬call.Restores nodeId index) (hfeeds : ¬call.Feeds nodeId od index)
    (hreadOnly : ∀ entry, d.entries.get? index = some entry →
      ObjectDictionary.isReadOnly entry.access = true) :
    (d.call odCall).entries.get? index = d.entries.get? index := by
  have houtside : ∀ {a b}, odCall = .restorePowerOnValues a b →
      (d.call odCall).entries.get? index = d.entries.get? index := by
    rintro a b rfl
    exact d.get?_restorePowerOnValues_outside ((h.outside hrestores).imp_right .inl)
  cases h with
  | own h => exact ObjectDictionary.get?_own h hown
  | datagram _ h => exact get?_checked h hreadOnly
  | @frame input frame _ hinput h =>
      cases h with
      | frame h =>
          cases h with
          | own h => exact ObjectDictionary.get?_own h hown
          | event _ h =>
              cases h with
              | own h => exact ObjectDictionary.get?_own h hown
              | restore => exact houtside rfl
          | hostName name =>
              exact ObjectDictionary.get?_call
                (.writeInternal 0x1F9A 0 (.visibleString name) false) rfl hname
          | request _ _ _ h => exact get?_checked h hreadOnly
      | @processData source _ hsource h =>
          cases h with
          | own h => exact ObjectDictionary.get?_own h hown
          | channel _ _ h => exact get?_checked h hreadOnly
          | @object entry value hentry _ =>
              have hne : index ≠ entry.index := by
                rintro rfl
                exact hfeeds ⟨input, frame, source, entry, rfl, hinput, hsource, hentry, rfl⟩
              exact ObjectDictionary.get?_call
                (.writeInternal entry.index entry.subIndex value false) rfl hne

end kept

/-- The call kept the objects: the types of what it did not restore, and the values of what is
read-only, unless it is a record of the node, its host name, or mapped for the received process
data. -/
structure CnReturned.KeepsObjects {σ : Type} [ObjectDictionaryStorage σ] (x : CnReturned σ) :
    Prop where
  types : ∀ index types, index ≠ 0x1003 → ¬x.call.Restores x.before.nodeId index →
    x.before.core.od.typesAt index = some types → x.after.core.od.typesAt index = some types
  values : ∀ index, index ∉ ObjectDictionary.ownObjects → index ≠ 0x1F9A →
    ¬x.call.Restores x.before.nodeId index →
    ¬x.call.Feeds x.before.nodeId x.before.core.od index →
    (∀ entry, x.before.core.od.entries.get? index = some entry →
      ObjectDictionary.isReadOnly entry.access = true) →
    x.after.core.od.entries.get? index = x.before.core.od.entries.get? index

theorem CnContext.keepsObjects_call {σ : Type} [ObjectDictionaryStorage σ] {c d : CnContext σ}
    {call : CnCall} {action : NodeAction} (h : c.call call = some (action, d)) :
    CnReturned.KeepsObjects ⟨c, call, action, d⟩ where
  types index types hhistory hrestores htypes :=
    (coreBy_call h).od.induct (fun od => od.typesAt index = some types) htypes
      (fun _ _ hwrites ha => hwrites.typesAt_kept hhistory hrestores ha)
  values index hown hname hrestores hfeeds hreadOnly := by
    refine (coreBy_call h).od.induct
      (fun od => od.entries.get? index = c.core.od.entries.get? index) rfl ?_
    intro a k hwrites ha
    rw [← ha]
    refine hwrites.get?_kept hown hname hrestores hfeeds (fun entry hentry => ?_)
    rw [ha] at hentry
    exact hreadOnly entry hentry

/-- No call that a controlled node takes, whatever it receives, changes the type of a value that it
does not restore for a received reset, the error history apart; and it changes no value of a
read-only object, but for the records of the node, its host name, and what is mapped for the
received process data. -/
theorem CnRun.keeps_objects {σ : Type} [ObjectDictionaryStorage σ] :
    Throughout (fun r : CnRun σ => ∀ x ∈ r.returned, x.KeepsObjects) := by
  apply throughout_of_new
  · intro od mac c _
    exact List.forall_mem_nil _
  · intro r call action d hr hcall
    exact List.forall_mem_cons.mpr ⟨CnContext.keepsObjects_call hcall, hr⟩

end Powerlink
