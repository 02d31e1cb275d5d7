import Powerlink.Nmt.Resets
import Powerlink.Node.PdoChecked
import Powerlink.Sdo.Access
import Powerlink.Sdo.Writes

/-! # The dictionary calls of a node

The parts of a node that share its dictionary change it by the calls of `OdCall` only.  `ChangedBy`
says which calls: an SDO server writes with the access rights checked (`changedBy_handleRequest`), an
NMT event publishes the state and restores the areas of its reset (`changedBy_processEvent`), and
received process data is written to the objects that the first RPDO channel for its source maps
(`changedBy_consumePdoPayload`).

A node keeps its own records in the objects of `ownObjects`; the calls for them are `OdCall.Own`, and
they leave every other object alone. -/

namespace Powerlink

namespace ObjectDictionary

variable {σ : Type}

/-- The objects with the records of a node: the error register, the error history, the telegram and
error counters, the PDO error nodes and the NMT state. -/
def ownObjects : List UInt16 := [0x1001, 0x1003, 0x1101, 0x1102, 0x1C80, 0x1C81, 0x1F8C]

/-- A call by which a node keeps its own records. -/
inductive OdCall.Own : OdCall → Prop
  | telegrams (subIndex : UInt8) : Own (.incrementCounter 0x1101 subIndex)
  | errors (subIndex : UInt8) : Own (.incrementCounter 0x1102 subIndex)
  | errorRegister (value : UInt8) : Own (.writeInternal 0x1001 0 (.unsigned8 value) false)
  | errorHistory (entry : ErrorEntry) : Own (.writeErrorToHistory entry)
  | nmtState (state : NmtState) : Own (.writeInternal 0x1F8C 0 (.unsigned8 state.toByte) false)
  | pdoErrors (index : UInt16) (hindex : index = 0x1C80 ∨ index = 0x1C81) (nodes : List UInt8) :
      Own (.writeInternal index 0 (.octetString nodes) false)

/-- The object that a call can change; a reset restores whole areas, and `init` any object. -/
def OdCall.target : OdCall → Option UInt16
  | .write index _ _ | .writeInternal index _ _ _ | .incrementCounter index _ => some index
  | .writeErrorToHistory _ => some 0x1003
  | .init | .restorePowerOnValues .. => none

theorem OdCall.Own.target_mem {call : OdCall} (h : call.Own) :
    ∃ index ∈ ownObjects, call.target = some index := by
  have htelegrams : (0x1101 : UInt16) ∈ ownObjects := by decide
  have herrors : (0x1102 : UInt16) ∈ ownObjects := by decide
  have hregister : (0x1001 : UInt16) ∈ ownObjects := by decide
  have hhistory : (0x1003 : UInt16) ∈ ownObjects := by decide
  have hstate : (0x1F8C : UInt16) ∈ ownObjects := by decide
  have hversion : (0x1C80 : UInt16) ∈ ownObjects := by decide
  have hshort : (0x1C81 : UInt16) ∈ ownObjects := by decide
  cases h with
  | telegrams => exact ⟨_, htelegrams, rfl⟩
  | errors => exact ⟨_, herrors, rfl⟩
  | errorRegister => exact ⟨_, hregister, rfl⟩
  | errorHistory => exact ⟨_, hhistory, rfl⟩
  | nmtState => exact ⟨_, hstate, rfl⟩
  | pdoErrors index hindex =>
      obtain rfl | rfl := hindex
      · exact ⟨_, hversion, rfl⟩
      · exact ⟨_, hshort, rfl⟩

theorem get?_writeInternal_ne (od : ObjectDictionary σ) {index index' : UInt16} (h : index' ≠ index)
    (subIndex : UInt8) (value : ObjectValue) (checkAccess : Bool) :
    (od.writeInternal index subIndex value checkAccess).2.entries.get? index' =
      od.entries.get? index' := by
  unfold writeInternal
  split
  · rfl
  · split_ifs
    · rfl
    · split
      · rfl
      · exact (SortedMap.get?_modify _ _ _ _).trans (if_neg h)

section calls

variable [ObjectDictionaryStorage σ]

/-- An SDO write is a checked write, or it changes only the storage. -/
theorem entries_write (od : ObjectDictionary σ) (index : UInt16) (subIndex : UInt8)
    (value : ObjectValue) : (od.write index subIndex value).2.entries = od.entries ∨
      (od.write index subIndex value).2 = (od.writeInternal index subIndex value true).2 := by
  unfold write
  split_ifs
  · left
    unfold storeParameters
    split_ifs
    · rfl
    · split <;> rfl
  · exact .inl rfl
  · left
    unfold restoreDefaults
    split_ifs
    · rfl
    · split <;> rfl
  · exact .inl rfl
  · split
    · split
      · exact .inl rfl
      · exact .inr rfl
    · exact .inl rfl
  · exact .inr rfl

/-- A call leaves the objects alone that are not its target. -/
theorem get?_call {od : ObjectDictionary σ} (call : OdCall) {index index' : UInt16}
    (htarget : call.target = some index) (h : index' ≠ index) :
    (od.call call).entries.get? index' = od.entries.get? index' := by
  cases call with
  | write i s v =>
      obtain rfl := Option.some.inj htarget
      change (od.write i s v).2.entries.get? index' = _
      obtain hentries | hwrite := od.entries_write i s v
      · rw [hentries]
      · rw [hwrite]
        exact od.get?_writeInternal_ne h s v true
  | writeInternal i s v checkAccess =>
      obtain rfl := Option.some.inj htarget
      exact od.get?_writeInternal_ne h s v checkAccess
  | incrementCounter i s =>
      obtain rfl := Option.some.inj htarget
      exact (SortedMap.get?_modify _ _ _ _).trans (if_neg h)
  | writeErrorToHistory entry =>
      obtain rfl := Option.some.inj htarget
      exact (SortedMap.get?_modify _ _ _ _).trans (if_neg h)
  | init => cases htarget
  | restorePowerOnValues => cases htarget

theorem get?_own {od : ObjectDictionary σ} {call : OdCall} {index : UInt16} (hcall : call.Own)
    (h : index ∉ ownObjects) : (od.call call).entries.get? index = od.entries.get? index := by
  obtain ⟨index', hmem, htarget⟩ := hcall.target_mem
  refine get?_call _ htarget ?_
  rintro rfl
  exact h hmem

/-! ### Allowed calls -/

/-- The allowed calls lead from one dictionary to the other. -/
abbrev ChangedBy (allowed : OdCall → Prop) (od od' : ObjectDictionary σ) : Prop :=
  Runs.LedBy call allowed od od'

variable {allowed : OdCall → Prop}

theorem changedBy_one {c : OdCall} (h : allowed c) (od : ObjectDictionary σ) :
    ChangedBy allowed od (od.call c) := .one _ h od

theorem changedBy_publish (od : ObjectDictionary σ) (state : NmtState) :
    ChangedBy OdCall.Own od (od.publish state) :=
  changedBy_one (OdCall.Own.nmtState state) od

/-- An SDO server writes with the access rights checked. -/
def OdCall.Checked : OdCall → Prop
  | .write .. => True
  | _ => False

theorem changedBy_write (od : ObjectDictionary σ) (index : UInt16) (subIndex : UInt8)
    (value : ObjectValue) : ChangedBy OdCall.Checked od (od.write index subIndex value).2 :=
  changedBy_one (c := .write index subIndex value) trivial od

/-! ### SDO requests -/

theorem changedBy_performOdWrite (s : SdoTransferState) (od : ObjectDictionary σ) :
    ChangedBy OdCall.Checked od (s.performOdWrite od).2 := by
  unfold SdoTransferState.performOdWrite
  split
  · split
    · split_ifs
      · exact .refl _ _ _
      · rename_i value _ _
        have hwrite := od.changedBy_write s.index s.subIndex value
        split
        · rename_i od' hod
          rwa [hod] at hwrite
        · rename_i e od' hod
          rwa [hod] at hwrite
    · exact .refl _ _ _
    · exact .refl _ _ _
  · split_ifs
    · exact .refl _ _ _
    · exact .refl _ _ _

theorem changedBy_processDownloadSegment (s : SdoTransferState) (command : SdoCommand)
    (od : ObjectDictionary σ) (timeUs : ℕ) :
    ChangedBy OdCall.Checked od (s.processDownloadSegment command od timeUs).2.2 := by
  unfold SdoTransferState.processDownloadSegment
  dsimp only
  split_ifs
  · exact .refl _ _ _
  · exact .refl _ _ _
  · exact .refl _ _ _
  · generalize SdoTransferState.mk _ _ _ _ _ _ _ _ _ = s'
    have hwrite := changedBy_performOdWrite s' od
    split
    · rename_i od' hod
      rwa [hod] at hwrite
    · rename_i code od' hod
      rwa [hod] at hwrite
  · exact .refl _ _ _

theorem changedBy_ofWrite (state : SdoServerState) (command : SdoCommand) (od : ObjectDictionary σ)
    (timeUs : ℕ) : ChangedBy OdCall.Checked od
      ((Verdict.ofWrite state command od timeUs : Verdict σ DefaultSdoHandler).odAfter od) := by
  have hdownload : ChangedBy OdCall.Checked od
      ((Verdict.ofDownload state command od timeUs : Verdict σ DefaultSdoHandler).odAfter od) := by
    unfold Verdict.ofDownload
    split
    · rename_i t
      have hsegment := changedBy_processDownloadSegment t command od timeUs
      split_ifs
      · exact .refl _ _ _
      · split
        · rename_i hdone
          rwa [hdone] at hsegment
        · exact .refl _ _ _
        · rename_i hrefused
          rwa [hrefused] at hsegment
    · exact .refl _ _ _
  unfold Verdict.ofWrite
  split
  · split
    · rename_i req _
      have hwrite := changedBy_performOdWrite (Handlers.expeditedWrite command req) od
      split
      · rename_i od' hod
        rwa [hod] at hwrite
      · rename_i code od' hod
        rwa [hod] at hwrite
    · exact .refl _ _ _
  · split
    · split_ifs
      · exact .refl _ _ _
      · exact .refl _ _ _
    · exact .refl _ _ _
  · exact hdownload
  · exact hdownload

theorem changedBy_ofCommand (state : SdoServerState) (command : SdoCommand)
    (od : ObjectDictionary σ) (timeUs : ℕ) (ch : DefaultSdoHandler) :
    ChangedBy OdCall.Checked od ((Verdict.ofCommand state command od timeUs ch).odAfter od) := by
  have hread : ∀ (tid : UInt8) (r : Except UInt32 ReadData), ChangedBy OdCall.Checked od
      ((Verdict.ofRead tid od r : Verdict σ DefaultSdoHandler).odAfter od) := by
    intro tid r
    rw [Verdict.ofRead_odAfter]
    exact .refl _ _ _
  have hservice : ChangedBy OdCall.Checked od
      ((Verdict.ofService state command od timeUs ch).odAfter od) := by
    unfold Verdict.ofService
    split
    · exact hread _ _
    · exact changedBy_ofWrite state command od timeUs
    · exact hread _ _
    · unfold Verdict.ofNamedWrite
      split
      · split
        · exact changedBy_ofWrite state _ od timeUs
        · exact .refl _ _ _
      · exact .refl _ _ _
    · exact hread _ _
    · exact hread _ _
    · exact .refl _ _ _
    · exact .refl _ _ _
    · exact .refl _ _ _
    · exact .refl _ _ _
    · exact .refl _ _ _
    · exact .refl _ _ _
    · exact .refl _ _ _
  have hupload : ∀ t, ChangedBy OdCall.Checked od
      ((Verdict.duringUpload t command od : Verdict σ DefaultSdoHandler).odAfter od) := by
    intro t
    unfold Verdict.duringUpload
    split_ifs
    · exact .refl _ _ _
    · exact .refl _ _ _
    · exact .refl _ _ _
    · exact .refl _ _ _
  unfold Verdict.ofCommand
  split
  · exact hupload _
  · split_ifs
    · exact .refl _ _ _
    · exact hservice

/-- An SDO request changes the dictionary by checked writes only. -/
theorem changedBy_handleRequest (server : SdoServer DefaultSdoHandler) (payload : List UInt8)
    (client : SdoClientInfo) (od : ObjectDictionary σ) (timeUs : ℕ) :
    ChangedBy OdCall.Checked od (server.handleRequest payload client od timeUs).2.2 := by
  rw [handleRequest_od server]
  generalize server.connection client = h
  obtain ⟨-, hshort⟩ | ⟨request, hdec⟩ :=
    h.handleRequest_decode payload od timeUs server.handler
  · rw [hshort]
    exact .refl _ _ _
  · by_cases hr : request.receiveCon = .errorResponse
    · rw [SdoSequenceHandler.handleRequest_errorResponse hdec hr]
      exact .refl _ _ _
    · rcases hseq : h.processSequenceLayer request with ⟨_ | responseHeader, h'⟩
      · rw [SdoSequenceHandler.handleRequest_rejected hdec hr hseq]
        exact .refl _ _ _
      · by_cases hempty : payload.drop 4 = []
        · rw [SdoSequenceHandler.handleRequest_empty hdec hr hseq hempty]
          exact .refl _ _ _
        · rw [SdoSequenceHandler.handleRequest_command hdec hr hseq hempty,
            SdoSequenceHandler.conclude_od, verdict]
          split
          · exact changedBy_ofCommand _ _ od timeUs _
          · exact .refl _ _ _

/-- A request to an embedded server changes the dictionary by checked writes only. -/
theorem changedBy_embedded (server : EmbeddedSdoServer) (channel : UInt16) (payload : List UInt8)
    (od : ObjectDictionary σ) :
    ChangedBy OdCall.Checked od (server.handleRequest channel payload od).2 := by
  unfold EmbeddedSdoServer.handleRequest
  dsimp only
  split
  · exact .refl _ _ _
  · rename_i req _
    split_ifs
    · exact .refl _ _ _
    · exact .refl _ _ _
    · dsimp only
      rw [processCommand_od]
      unfold EmbeddedSdoServer.execute
      split
      · split
        · exact .refl _ _ _
        · exact .refl _ _ _
      · split
        · exact .refl _ _ _
        · split
          · exact .refl _ _ _
          · rename_i value _
            have hwrite := od.changedBy_write req.index req.subIndex value
            split
            · rename_i od' hod
              rwa [hod] at hwrite
            · rename_i e od' hod
              rwa [hod] at hwrite
      · exact .refl _ _ _

/-! ### NMT events -/

/-- The areas that an NMT event restores. -/
def restoredAreas : NmtEvent → List (UInt16 × UInt16)
  | .reset | .swReset | .resetNode => [(0x2000, 0x5FFF), (0x6000, 0x9FFF), (0x1000, 0x1FFF)]
  | .resetCommunication => [(0x1000, 0x1FFF)]
  | _ => []

/-- A call of an NMT event: a publication of the state, or a restored area. -/
inductive OdCall.OfEvent (event : NmtEvent) : OdCall → Prop
  | own {call : OdCall} (h : call.Own) : OfEvent event call
  | restore {startIndex endIndex : UInt16} (h : (startIndex, endIndex) ∈ restoredAreas event) :
      OfEvent event (.restorePowerOnValues startIndex endIndex)

theorem changedBy_publishAll (states : List NmtState) :
    ∀ od : ObjectDictionary σ, ChangedBy OdCall.Own od (od.publishAll states) := by
  induction states with
  | nil => exact fun od => .refl _ _ od
  | cons state states ih => exact fun od => (od.changedBy_publish state).trans (ih _)

/-- An event restores the areas of its reset. -/
theorem changedBy_resetOd (od : ObjectDictionary σ) (event : NmtEvent) :
    ChangedBy (OdCall.OfEvent event) od (od.resetOd event) := by
  have hpublish : ∀ (d : ObjectDictionary σ) state,
      ChangedBy (OdCall.OfEvent event) d (d.publish state) :=
    fun d state => (d.changedBy_publish state).mono (fun _ h => .own h)
  have hrestore : ∀ (d : ObjectDictionary σ) {a b : UInt16}, (a, b) ∈ restoredAreas event →
      ChangedBy (OdCall.OfEvent event) d (d.restorePowerOnValues a b) :=
    fun d _ _ h => changedBy_one (OdCall.OfEvent.restore h) d
  have happlication : ∀ d : ObjectDictionary σ, (0x2000, 0x5FFF) ∈ restoredAreas event →
      (0x6000, 0x9FFF) ∈ restoredAreas event →
      ChangedBy (OdCall.OfEvent event) d d.resetApplicationOd :=
    fun d hfirst hsecond => ((hpublish d _).trans (hrestore _ hfirst)).trans (hrestore _ hsecond)
  have hcommunication : ∀ d : ObjectDictionary σ, (0x1000, 0x1FFF) ∈ restoredAreas event →
      ChangedBy (OdCall.OfEvent event) d d.resetCommunicationOd :=
    fun d h => (hpublish d _).trans (hrestore _ h)
  cases event with
  | reset | swReset =>
      have hareas : ∀ p ∈ [((0x2000 : UInt16), (0x5FFF : UInt16)), (0x6000, 0x9FFF),
          (0x1000, 0x1FFF)], p ∈ restoredAreas .reset := fun p hp => hp
      exact ((hpublish od _).trans (happlication _ (hareas _ (by decide)) (hareas _ (by decide)))).trans
        (hcommunication _ (hareas _ (by decide)))
  | resetNode =>
      have hareas : ∀ p ∈ [((0x2000 : UInt16), (0x5FFF : UInt16)), (0x6000, 0x9FFF),
          (0x1000, 0x1FFF)], p ∈ restoredAreas .resetNode := fun p hp => hp
      exact (happlication od (hareas _ (by decide)) (hareas _ (by decide))).trans
        (hcommunication _ (hareas _ (by decide)))
  | resetCommunication => exact hcommunication od (List.mem_singleton_self _)
  | _ => exact .refl _ _ od

theorem changedBy_of_eventOd {od d : ObjectDictionary σ} {event : NmtEvent} {state : NmtState}
    (h : EventOd od event state d) : ChangedBy (OdCall.OfEvent event) od d := by
  obtain ⟨states, rfl⟩ := h
  have hpublished := (changedBy_publishAll states (od.resetOd event)).trans
    (changedBy_publish _ state)
  exact (od.changedBy_resetOd event).trans (hpublished.mono (fun _ h => .own h))

theorem changedBy_processEvent (m : CnNmtStateMachine) (event : NmtEvent)
    (od : ObjectDictionary σ) :
    ChangedBy (OdCall.OfEvent event) od (m.processEvent event od).2 := by
  obtain ⟨-, hsame⟩ | hevent := m.processEvent_od event od
  · rw [hsame]
    exact .refl _ _ od
  · exact changedBy_of_eventOd hevent

theorem OdCall.OfEvent.own_of_not_reset {event : NmtEvent} {call : OdCall}
    (hreset : MnNmtStateMachine.isReset event = false) (h : OdCall.OfEvent event call) :
    call.Own := by
  cases h with
  | own h => exact h
  | restore h =>
      cases event with
      | reset | swReset | resetNode | resetCommunication => cases hreset
      | _ => cases h

/-! ### Process data -/

/-- The mapping entries of the RPDO channel that takes the payloads of a source. -/
def rpdoEntries (od : ObjectDictionary σ) (source : NodeId) : List PdoMappingEntry :=
  match findRpdoChannel od source with
  | none => []
  | some i =>
      match od.read (0x1600 + UInt16.ofNat i) 0 with
      | some (.unsigned8 numEntries) => mappingEntries od (0x1600 + UInt16.ofNat i) numEntries
      | _ => []

/-- A call for received process data: the record of an error, a write by the embedded server of a
mapped channel, or a write to a mapped object, whose access rights are not checked. -/
inductive OdCall.OfPdo (entries : List PdoMappingEntry) : OdCall → Prop
  | own {call : OdCall} (h : call.Own) : OfPdo entries call
  | channel {entry : PdoMappingEntry} {call : OdCall} (hentry : entry ∈ entries)
      (hchannel : isServerChannel entry.index = true) (h : call.Checked) : OfPdo entries call
  | object {entry : PdoMappingEntry} {value : ObjectValue} (hentry : entry ∈ entries)
      (hobject : isServerChannel entry.index = false ∧ isClientChannel entry.index = false) :
      OfPdo entries (.writeInternal entry.index entry.subIndex value false)

theorem changedBy_updatePdoErrorObject (od : ObjectDictionary σ) {index : UInt16}
    (hindex : index = 0x1C80 ∨ index = 0x1C81) (source : NodeId) :
    ChangedBy OdCall.Own od (updatePdoErrorObject od index source) := by
  unfold updatePdoErrorObject
  split_ifs
  · exact .refl _ _ od
  · split
    · dsimp only
      split
      · exact changedBy_one (OdCall.Own.pdoErrors index hindex _) od
      · exact .refl _ _ od
    · exact .refl _ _ od

theorem changedBy_applyRpdoMappingEntry {s s' : PdoState σ} {entry : PdoMappingEntry}
    {payload : List UInt8} {source : NodeId} {goOn : Bool} {entries : List PdoMappingEntry}
    (hentry : entry ∈ entries)
    (h : applyRpdoMappingEntry s entry payload source = some (goOn, s')) :
    ChangedBy (OdCall.OfPdo entries) s.1.od s'.1.od := by
  have done : ∀ {r : Bool × PdoState σ}, some r = some (goOn, s') →
      ChangedBy (OdCall.OfPdo entries) s.1.od r.2.1.od →
      ChangedBy (OdCall.OfPdo entries) s.1.od s'.1.od := by
    rintro ⟨_, r⟩ hr hchanged
    rwa [← (Prod.mk.inj (Option.some.inj hr)).2]
  unfold applyRpdoMappingEntry at h
  split at h
  · split_ifs at h with hshort hserver hclient
    · exact done h ((changedBy_updatePdoErrorObject _ (.inr rfl) source).mono (fun _ h => .own h))
    · exact done h ((changedBy_embedded _ _ _ _).mono (fun _ h => .channel hentry hserver h))
    · obtain ⟨client, -, h⟩ := Option.bind_eq_some_iff.mp h
      exact done h (.refl _ _ _)
    · split at h
      · exact done h (.refl _ _ _)
      · dsimp only at h
        split at h
        · exact done h (.refl _ _ _)
        · split_ifs at h
          · exact done h (.refl _ _ _)
          · exact done h (changedBy_one (OdCall.OfPdo.object hentry
              ⟨Bool.eq_false_iff.mpr hserver, Bool.eq_false_iff.mpr hclient⟩) _)
  · exact done h (.refl _ _ _)

theorem changedBy_applyRpdoMapping {payload : List UInt8} {source : NodeId}
    {entries : List PdoMappingEntry} : ∀ {rest : List PdoMappingEntry} {s s' : PdoState σ},
      (∀ entry ∈ rest, entry ∈ entries) → applyRpdoMapping payload source s rest = some s' →
      ChangedBy (OdCall.OfPdo entries) s.1.od s'.1.od
  | [], s, s', _, h => by
      rw [← Option.some.inj h]
      exact .refl _ _ _
  | entry :: rest, s, s', hrest, h => by
      obtain ⟨⟨goOn, r⟩, hentry, h⟩ := Option.bind_eq_some_iff.mp h
      rw [List.forall_mem_cons] at hrest
      have hr := changedBy_applyRpdoMappingEntry hrest.1 hentry
      dsimp only at h
      split_ifs at h
      · exact hr.trans (changedBy_applyRpdoMapping hrest.2 h)
      · rw [← Option.some.inj h]
        exact hr

/-- Received process data reaches the mapped objects only. -/
theorem changedBy_consumePdoPayload {s s' : PdoState σ} {source : NodeId} {payload : List UInt8}
    {version : PDOVersion} {isReady : Bool}
    (h : consumePdoPayload s source payload version isReady = some s') :
    ChangedBy (OdCall.OfPdo (s.1.od.rpdoEntries source)) s.1.od s'.1.od := by
  unfold consumePdoPayload at h
  split_ifs at h
  · rw [← Option.some.inj h]
    exact .refl _ _ _
  · split at h
    · rw [← Option.some.inj h]
      exact .refl _ _ _
    · rename_i i hchannel
      dsimp only at h
      split_ifs at h
      · rw [← Option.some.inj h]
        exact (changedBy_updatePdoErrorObject _ (.inl rfl) source).mono (fun _ h => .own h)
      · split at h
        · rename_i numEntries hnum
          have hentries : s.1.od.rpdoEntries source =
              mappingEntries s.1.od (0x1600 + UInt16.ofNat i) numEntries := by
            unfold rpdoEntries
            rw [hchannel]
            dsimp only
            rw [hnum]
          rw [hentries]
          exact changedBy_applyRpdoMapping (fun _ hmem => hmem) h
        · rw [← Option.some.inj h]
          exact .refl _ _ _

omit [ObjectDictionaryStorage σ] in
/-- The channels are configured between the records of a node. -/
theorem channel_not_own {base : UInt16} (hbase : base = 0x1400 ∨ base = 0x1600) {i : ℕ}
    (hi : i < 256) : base + UInt16.ofNat i ∉ ownObjects := by
  intro hmem
  have hsum : (base + UInt16.ofNat i).toNat = base.toNat + i := by
    rw [UInt16.toNat_add, UInt16.toNat_ofNat', Nat.mod_eq_of_lt (show i < 2 ^ 16 by omega)]
    obtain rfl | rfl := hbase
    · exact Nat.mod_eq_of_lt (by change 0x1400 + i < 2 ^ 16; omega)
    · exact Nat.mod_eq_of_lt (by change 0x1600 + i < 2 ^ 16; omega)
  have hlow : 0x1400 ≤ (base + UInt16.ofNat i).toNat ∧ (base + UInt16.ofNat i).toNat < 0x1700 := by
    rw [hsum]
    obtain rfl | rfl := hbase
    · change 0x1400 ≤ 0x1400 + i ∧ 0x1400 + i < 0x1700
      omega
    · change 0x1400 ≤ 0x1600 + i ∧ 0x1600 + i < 0x1700
      omega
  have hown : (ownObjects.all fun index =>
      decide (index.toNat < 0x1400 ∨ 0x1700 ≤ index.toNat)) = true := by decide
  have hcases := of_decide_eq_true (List.all_eq_true.mp hown _ hmem)
  omega

/-- The records of a node configure no channel. -/
theorem rpdoEntries_of_own {od od' : ObjectDictionary σ} (h : ChangedBy OdCall.Own od od')
    (source : NodeId) : od'.rpdoEntries source = od.rpdoEntries source := by
  have hread : ∀ (index : UInt16) (subIndex : UInt8), index ∉ ownObjects →
      od'.read index subIndex = od.read index subIndex := by
    intro index subIndex hindex
    refine h.const (fun d => d.read index subIndex) (fun d call hcall => ?_)
    unfold read
    rw [get?_own hcall hindex]
  have hchannel : findRpdoChannel od' source = findRpdoChannel od source := by
    refine List.find?_congr (fun i hi => ?_)
    unfold readU8
    rw [hread _ _ (channel_not_own (.inl rfl) (List.mem_range.mp hi))]
  unfold rpdoEntries
  rw [hchannel]
  split
  · rfl
  · rename_i i hi
    have hindex : (0x1600 : UInt16) + UInt16.ofNat i ∉ ownObjects :=
      channel_not_own (.inr rfl) (findRpdoChannel_lt hi)
    simp only [mappingEntries, hread _ _ hindex]

end calls

end ObjectDictionary

end Powerlink
