import Powerlink.Sdo.Access
import Powerlink.Sdo.Table
import Powerlink.Sdo.Transports

/-! # What the SDO layer sends in frames

The client manager hands out requests and the server hands out responses; both go through
`serializeSdoAsndPayload`, which counts four octets for the eight octets of a command header.

* `SdoClientManager.Ok` and `SdoServer.Ready` are the invariants of the two sides: what is stored
  for sending or for sending again is a request, or has the shape of a response.
* `serializeSdoAsndPayload_ok`: only a command with a total size that is no `initiate` fits into its
  buffer, and the receiver decodes it without the total size.

A response therefore never leaves in a frame (`asndBuildResponse_of_sendable`), and no request is
decoded from the octets of a command that does (`not_decoded`). -/

namespace Powerlink

open LittleEndian SdoSequenceHandler

/-! ### Requests -/

/-- A command of a client.  Only the first frame of a write announces the total size, and a write in
one frame always does. -/
structure SdoCommand.IsRequest (cmd : SdoCommand) : Prop where
  request : cmd.header.isResponse = false
  sized : cmd.dataSize.isSome → cmd.header.commandId = .writeByIndex ∧
    (cmd.header.segmentation = .expedited ∨ cmd.header.segmentation = .initiate)
  unsized : cmd.dataSize = none →
    ¬(cmd.header.commandId = .writeByIndex ∧ cmd.header.segmentation = .expedited)

/-- A command without total size that is no write is a request. -/
theorem SdoCommand.isRequest_of_ne {cmd : SdoCommand} (hrequest : cmd.header.isResponse = false)
    (hsize : cmd.dataSize = none) (hne : cmd.header.commandId ≠ .writeByIndex) : cmd.IsRequest := by
  refine ⟨hrequest, ?_, fun _ hwrite => hne hwrite.1⟩
  intro hsome
  rw [hsize] at hsome
  cases hsome

/-- No request is decoded from the octets of the command, if they are sent at all: they lack the
total size, and a write in one frame without it is no request. -/
def SdoCommand.Misread (cmd : SdoCommand) : Prop :=
  cmd.dataSize.isSome → cmd.header.segmentation ≠ .initiate →
    cmd.header.commandId = .writeByIndex ∧ cmd.header.segmentation = .expedited

theorem SdoCommand.IsRequest.misread {cmd : SdoCommand} (h : cmd.IsRequest) : cmd.Misread := by
  intro hsome hinitiate
  obtain ⟨hwrite, hexpedited | hinitiate'⟩ := h.sized hsome
  · exact ⟨hwrite, hexpedited⟩
  · exact absurd hinitiate' hinitiate

theorem SdoCommand.misread_of_unsized {cmd : SdoCommand} (h : cmd.dataSize = none) :
    cmd.Misread := by
  intro hsome
  rw [h] at hsome
  cases hsome

namespace SdoClientConnection

variable {σ : Type} {c : SdoClientConnection}

/-- What is prepared, and what is kept for sending again, is a request. -/
structure Ok (c : SdoClientConnection) : Prop where
  pending : ∀ cmd, c.pendingCommand = some cmd → cmd.IsRequest
  sent : ∀ p, c.lastSentCommand = some p → p.2.IsRequest

/-- A frame that is handed out: a request on a connection that is opened or open. -/
def HandsOut (p : SequenceLayerHeader × SdoCommand) : Prop :=
  p.1.sendCon ≠ .noConnection ∧ p.2.IsRequest

theorem Ok.of_eq {c' : SdoClientConnection} (h : c.Ok)
    (hpending : c'.pendingCommand = c.pendingCommand)
    (hsent : c'.lastSentCommand = c.lastSentCommand) : c'.Ok :=
  ⟨fun cmd hcmd => h.pending cmd (hpending ▸ hcmd), fun p hp => h.sent p (hsent ▸ hp)⟩

theorem Ok.of_cleared {c' : SdoClientConnection} (h : c.Ok)
    (hpending : c'.pendingCommand = c.pendingCommand) (hsent : c'.lastSentCommand = none) :
    c'.Ok := by
  refine ⟨fun cmd hcmd => h.pending cmd (hpending ▸ hcmd), fun p hp => ?_⟩
  rw [hsent] at hp
  cases hp

theorem ok_new (targetNodeId : NodeId) : (new targetNodeId).Ok := by
  refine ⟨fun cmd hcmd => ?_, fun p hp => ?_⟩
  · cases hcmd
  · cases hp

theorem prepareNextJobCommand_pendingCommand (c : SdoClientConnection) :
    c.prepareNextJobCommand.2.pendingCommand = c.pendingCommand := by
  obtain ⟨_, _, _, _, _, h⟩ := c.prepareNextJobCommand_frame
  rw [h]

theorem Ok.prepareNextJobCommand (h : c.Ok) : c.prepareNextJobCommand.2.Ok :=
  h.of_eq c.prepareNextJobCommand_pendingCommand c.prepareNextJobCommand_lastSentCommand

theorem Ok.startReadJob (h : c.Ok) (index : UInt16) (subIndex tid : UInt8) (t : ℕ)
    (od : ObjectDictionary σ) : (c.startReadJob index subIndex tid t od).2.Ok := by
  unfold SdoClientConnection.startReadJob
  split_ifs
  · exact h
  · refine ⟨?_, h.sent⟩
    intro cmd hcmd
    obtain rfl := Option.some.inj hcmd
    exact SdoCommand.isRequest_of_ne rfl rfl (by simp)

theorem Ok.startWriteJob (h : c.Ok) (index : UInt16) (subIndex : UInt8) (data : List UInt8)
    (tid : UInt8) (t : ℕ) (od : ObjectDictionary σ) :
    (c.startWriteJob index subIndex data tid t od).2.Ok := by
  unfold SdoClientConnection.startWriteJob
  split_ifs
  · exact h
  · exact h.of_eq rfl rfl

theorem Ok.startConciseDcfJob (h : c.Ok) (dcfData : List UInt8) (tid : UInt8) (t : ℕ)
    (od : ObjectDictionary σ) : (c.startConciseDcfJob dcfData tid t od).2.Ok := by
  unfold SdoClientConnection.startConciseDcfJob
  split_ifs
  · exact h
  · exact h
  · exact h.of_eq (prepareNextJobCommand_pendingCommand _)
      (prepareNextJobCommand_lastSentCommand _)

/-- Every segment of a write is a request. -/
theorem isRequest_getNextDownloadSegment (c : SdoClientConnection) :
    c.getNextDownloadSegment.1.IsRequest := by
  dsimp only [getNextDownloadSegment]
  by_cases hinitiate : c.offset = 0
  · refine ⟨rfl, fun _ => ⟨rfl, ?_⟩, ?_⟩
    · simp only [hinitiate, decide_true, if_true]
      split_ifs
      · exact .inl rfl
      · exact .inr rfl
    · simp [hinitiate]
  · refine ⟨rfl, by simp [hinitiate], ?_⟩
    rintro - ⟨-, hexpedited⟩
    simp only [hinitiate, decide_false, Bool.false_eq_true, if_false] at hexpedited
    split_ifs at hexpedited

/-- A request that is sent is kept. -/
theorem sendRequest_spec (h : c.Ok) {seq : SequenceLayerHeader} {cmd : SdoCommand}
    (hout : HandsOut (seq, cmd)) (t : ℕ) (od : ObjectDictionary σ) :
    (c.sendRequest seq cmd t od).2.Ok ∧
      ∀ p, (c.sendRequest seq cmd t od).1 = some p → HandsOut p := by
  refine ⟨⟨h.pending, ?_⟩, ?_⟩
  · intro p hp
    obtain rfl := Option.some.inj hp
    exact hout.2
  · intro p hp
    obtain rfl := Option.some.inj hp
    exact hout

theorem handsOut_requestHeader (c : SdoClientConnection) {cmd : SdoCommand} (h : cmd.IsRequest) :
    HandsOut (c.requestHeader, cmd) :=
  ⟨(by simp [requestHeader]), h⟩

theorem startDownload_spec (h : c.Ok) (t : ℕ) (od : ObjectDictionary σ) :
    (c.startDownload t od).2.Ok ∧ ∀ p, (c.startDownload t od).1 = some p → HandsOut p := by
  have hsend := sendRequest_spec
    (c := { c.getNextDownloadSegment.2.2 with state := .downloadInProgress }) (h.of_eq rfl rfl)
    (c.handsOut_requestHeader c.isRequest_getNextDownloadSegment) t od
  exact hsend

/-- What `get_pending_request` hands out is a request, and it is kept. -/
theorem getPendingRequest_spec (h : c.Ok) (t : ℕ) (od : ObjectDictionary σ) :
    (c.getPendingRequest t od).2.Ok ∧ ∀ p, (c.getPendingRequest t od).1 = some p → HandsOut p := by
  have hnone : ∀ c' : SdoClientConnection, c'.Ok →
      c'.Ok ∧ ∀ p, (none : Option (SequenceLayerHeader × SdoCommand)) = some p → HandsOut p :=
    fun c' hc' => ⟨hc', fun p hp => by cases hp⟩
  unfold getPendingRequest
  by_cases hsent : c.lastSentCommand.isSome
  · rw [if_pos hsent]
    exact hnone c h
  · rw [if_neg hsent]
    split
    · refine sendRequest_spec h ⟨fun hcon => ?_, SdoCommand.isRequest_of_ne rfl rfl (by simp)⟩ t od
      cases hcon
    · by_cases hdata : c.dataBuffer ≠ []
      · rw [if_pos hdata]
        exact startDownload_spec h t od
      · rw [if_neg hdata]
        split
        · rename_i cmd hcmd
          have hsend := sendRequest_spec
            (c := { c with pendingCommand := none, state := .uploadInit })
            ⟨fun cmd' hcmd' => (by cases hcmd'), h.sent⟩
            (c.handsOut_requestHeader (h.pending cmd hcmd)) t od
          exact hsend
        · have hprepared := h.prepareNextJobCommand
          split
          · rename_i c' hjob
            rw [hjob] at hprepared
            exact startDownload_spec hprepared t od
          · rename_i c' hjob
            rw [hjob] at hprepared
            exact hnone _ (hprepared.of_eq rfl rfl)
    · have hsend := sendRequest_spec (c := c.getNextDownloadSegment.2.2) (h.of_eq rfl rfl)
        (c.handsOut_requestHeader c.isRequest_getNextDownloadSegment) t od
      exact hsend
    · exact sendRequest_spec h
        (c.handsOut_requestHeader (SdoCommand.isRequest_of_ne rfl rfl (by simp))) t od
    · exact hnone c h

theorem processResponse_pendingCommand (c : SdoClientConnection)
    (seqHeader : SequenceLayerHeader) (cmd : SdoCommand) :
    (c.processResponse seqHeader cmd).pendingCommand = c.pendingCommand := by
  obtain ⟨_, _, _, _, _, _, h⟩ := c.processResponse_frame seqHeader cmd
  rw [h]

theorem Ok.handleResponse {c' : SdoClientConnection} (h : c.Ok) {seqHeader : SequenceLayerHeader}
    {cmd : SdoCommand} (hresponse : c.handleResponse seqHeader cmd = some c') : c'.Ok := by
  unfold SdoClientConnection.handleResponse at hresponse
  split at hresponse
  · obtain rfl := Option.some.inj hresponse
    exact h
  · dsimp only at hresponse
    split_ifs at hresponse
    · obtain rfl := Option.some.inj hresponse
      exact h
    · obtain rfl := Option.some.inj hresponse
      exact h.of_cleared rfl rfl
    · obtain rfl := Option.some.inj hresponse
      exact h.of_cleared rfl rfl
    · obtain rfl := Option.some.inj hresponse
      exact h.of_cleared rfl rfl
    · obtain rfl := Option.some.inj hresponse
      exact h.of_cleared (processResponse_pendingCommand _ _ _)
        (processResponse_lastSentCommand _ _ _)

/-- A timeout sends the kept request again, or an abort. -/
theorem tick_spec (h : c.Ok) (t : ℕ) (od : ObjectDictionary σ) :
    (c.tick t od).2.Ok ∧ ∀ p, (c.tick t od).1 = some p → p.2.Misread := by
  unfold tick
  split
  · exact ⟨h, fun p hp => by cases hp⟩
  · split_ifs
    · exact ⟨h, fun p hp => by cases hp⟩
    · exact ⟨h.of_eq rfl rfl, fun p hp => (h.sent p hp).misread⟩
    · refine ⟨h.of_cleared rfl rfl, ?_⟩
      intro p hp
      obtain rfl := Option.some.inj hp
      exact SdoCommand.misread_of_unsized rfl

end SdoClientConnection

/-! ### The client manager -/

namespace SdoClientManager

variable {σ : Type} {m : SdoClientManager}

/-- Every connection stores requests only. -/
def Ok (m : SdoClientManager) : Prop :=
  ∀ target c, m.connections.get? target = some c → SdoClientConnection.Ok c

theorem ok_new : new.Ok := by
  intro target c hget
  cases hget

theorem Ok.connection (h : m.Ok) (target : NodeId) : (m.connection target).Ok := by
  unfold SdoClientManager.connection
  cases hget : m.connections.get? target with
  | none => exact SdoClientConnection.ok_new target
  | some c => exact h target c hget

theorem Ok.insert (h : m.Ok) {c : SdoClientConnection} (hc : c.Ok) (target : NodeId)
    (tid : UInt8) : Ok ⟨m.connections.insert target c, tid⟩ :=
  fun _ _ hget => SortedMap.forall_insert h hc hget

theorem Ok.startConfigurationDownload (h : m.Ok) (target : NodeId) (dcfData : List UInt8) (t : ℕ)
    (od : ObjectDictionary σ) : (m.startConfigurationDownload target dcfData t od).2.Ok :=
  h.insert ((h.connection target).startConciseDcfJob dcfData m.getNextTid t od) target _

theorem Ok.readObjectByIndex (h : m.Ok) (target : NodeId) (index : UInt16) (subIndex : UInt8)
    (t : ℕ) (od : ObjectDictionary σ) : (m.readObjectByIndex target index subIndex t od).2.Ok :=
  h.insert ((h.connection target).startReadJob index subIndex m.getNextTid t od) target _

theorem Ok.writeObjectByIndex (h : m.Ok) (target : NodeId) (index : UInt16) (subIndex : UInt8)
    (data : List UInt8) (t : ℕ) (od : ObjectDictionary σ) :
    (m.writeObjectByIndex target index subIndex data t od).2.Ok :=
  h.insert ((h.connection target).startWriteJob index subIndex data m.getNextTid t od) target _

theorem Ok.handleResponse {m' : SdoClientManager} (h : m.Ok) {source : NodeId}
    {seq : SequenceLayerHeader} {cmd : SdoCommand}
    (hresponse : m.handleResponse source seq cmd = some m') : m'.Ok := by
  unfold SdoClientManager.handleResponse at hresponse
  split at hresponse
  · obtain rfl := Option.some.inj hresponse
    exact h
  · rename_i c hget
    obtain ⟨c', hc', hresponse⟩ := Option.bind_eq_some_iff.mp hresponse
    obtain rfl := Option.some.inj hresponse
    have hok := (h source c hget).handleResponse hc'
    intro target d hd
    dsimp only at hd
    split_ifs at hd
    · exact h target d (SortedMap.get?_of_erase hd)
    · exact SortedMap.forall_insert h hok hd

/-- A loop over the connections: what each of them may send. -/
theorem sweep_spec (h : m.Ok)
    {act : SdoClientConnection → Option (SequenceLayerHeader × SdoCommand) × SdoClientConnection}
    {P : SequenceLayerHeader × SdoCommand → Prop}
    (hact : ∀ c : SdoClientConnection, c.Ok → (act c).2.Ok ∧ ∀ p, (act c).1 = some p → P p) :
    (m.sweep act).2.Ok ∧ ∀ frame, (m.sweep act).1 = some frame → P frame.2 := by
  have hround : ∀ p ∈ m.connections.entries, ∀ acc : Option ClientFrame × List NodeId,
      (∀ frame, acc.1 = some frame → P frame.2) →
      ∃ acc' c', sweepConnection act p.1 p.2 acc = (.ok acc', c') ∧
        ∀ frame, acc'.1 = some frame → P frame.2 := by
    intro p hp acc hacc
    refine ⟨_, _, rfl, ?_⟩
    intro frame hframe
    dsimp only at hframe
    split at hframe
    · exact hacc frame hframe
    · obtain ⟨out, hout, rfl⟩ := Option.map_eq_some_iff.mp hframe
      have hc := h p.1 p.2 ((m.connections.mem_entries_iff p.1 p.2).mp hp)
      exact (hact p.2 hc).2 out hout
  have hkeep : ∀ target c (acc : Option ClientFrame × List NodeId), SdoClientConnection.Ok c →
      SdoClientConnection.Ok (sweepConnection act target c acc).2 := by
    intro target c acc hc
    dsimp only [sweepConnection]
    split
    · exact hc
    · exact (hact c hc).1
  obtain ⟨⟨frame, prune⟩, connections, hvisit, hframe⟩ :=
    SortedMap.visit_keeps (s := (none, [])) hround (fun frame hframe => by cases hframe)
  unfold sweep
  rw [hvisit]
  refine ⟨?_, hframe⟩
  intro target c hget
  refine SortedMap.visit_forall (P := fun _ c => SdoClientConnection.Ok c) (s := (none, []))
    (a := target) hkeep h ?_
  rw [hvisit]
  exact SortedMap.get?_of_eraseAll hget

/-- The manager hands out requests. -/
theorem getPendingRequest_spec (h : m.Ok) (t : ℕ) (od : ObjectDictionary σ) :
    (m.getPendingRequest t od).2.Ok ∧
      ∀ frame, (m.getPendingRequest t od).1 = some frame →
        SdoClientConnection.HandsOut frame.2 :=
  sweep_spec h (fun _ hc => SdoClientConnection.getPendingRequest_spec hc t od)

theorem tick_spec (h : m.Ok) (t : ℕ) (od : ObjectDictionary σ) :
    (m.tick t od).2.Ok ∧ ∀ frame, (m.tick t od).1 = some frame → frame.2.2.Misread :=
  sweep_spec (P := fun p => p.2.Misread) h (fun _ hc => SdoClientConnection.tick_spec hc t od)

end SdoClientManager

/-! ### The server -/

namespace SdoServer

variable {σ : Type} {server : SdoServer DefaultSdoHandler}

/-- Every connection is ready. -/
def Ready (server : SdoServer DefaultSdoHandler) : Prop :=
  ∀ client h, server.connections.get? client = some h → SdoSequenceHandler.Ready h

theorem ready_new : new.Ready := by
  intro client h hget
  cases hget

theorem Ready.connection (h : server.Ready) (client : SdoClientInfo) :
    (server.connection client).Ready := by
  unfold SdoServer.connection
  cases hget : server.connections.get? client with
  | none => exact SdoSequenceHandler.ready_new client
  | some d => exact h client d hget

/-- A round of the loop keeps the connection ready and finds a response that can be sent. -/
theorem tickConnection_spec {h : SdoSequenceHandler} (hh : h.Ready) (currentTimeUs : ℕ)
    (od : ObjectDictionary σ) (client : SdoClientInfo)
    (acc : Option SdoResponseData × List SdoClientInfo) :
    (tickConnection currentTimeUs od client h acc).2.Ready ∧
      ∀ acc' d, (∀ r, acc.1 = some r → Sendable r) →
        tickConnection currentTimeUs od client h acc = (.ok acc', d) →
        ∀ r, acc'.1 = some r → Sendable r := by
  have htick := sends_tick hh od currentTimeUs
  dsimp only [tickConnection]
  split
  · rename_i response hresponse
    refine ⟨hh, ?_⟩
    intro acc' d hacc heq r hr
    obtain ⟨heq, -⟩ := Prod.mk.inj heq
    obtain rfl := Except.ok.inj heq
    exact hacc r (hresponse.trans hr)
  · split
    · rename_i e d heq
      rw [heq] at htick
      refine ⟨htick.1, ?_⟩
      intro acc' d' hacc herror
      cases herror
    · rename_i response d heq
      rw [heq] at htick
      refine ⟨htick.1, ?_⟩
      intro acc' d' hacc heq' r hr
      obtain ⟨heq', -⟩ := Prod.mk.inj heq'
      obtain rfl := Except.ok.inj heq'
      exact htick.2 r (congrArg Except.ok hr)

theorem tick_spec (h : server.Ready) (currentTimeUs : ℕ) (od : ObjectDictionary σ) :
    (server.tick currentTimeUs od).2.Ready ∧
      ∀ r, (server.tick currentTimeUs od).1 = .ok (some r) → Sendable r := by
  refine ⟨?_, ?_⟩
  · intro client d hget
    exact SortedMap.visit_forall (P := fun _ d => SdoSequenceHandler.Ready d)
      (fun client d acc hd => (tickConnection_spec hd currentTimeUs od client acc).1) h
      (get?_tick hget)
  · intro r hr
    unfold tick at hr
    split at hr
    · cases hr
    · rename_i response prune connections hvisit
      have hvisit' := congrArg Prod.fst hvisit
      refine SortedMap.visit_invariant (J := fun acc => ∀ r, acc.1 = some r → Sendable r) ?_
        (fun r hr => by cases hr) hvisit' r (Except.ok.inj hr)
      intro p hp acc acc' d hacc heq
      have hd := h p.1 p.2 ((server.connections.mem_entries_iff p.1 p.2).mp hp)
      exact (tickConnection_spec hd currentTimeUs od p.1 acc).2 acc' d hacc heq

theorem handleRequest_spec [ObjectDictionaryStorage σ] (h : server.Ready) (payload : List UInt8)
    (client : SdoClientInfo) (od : ObjectDictionary σ) (currentTimeUs : ℕ) :
    (server.handleRequest payload client od currentTimeUs).2.1.Ready ∧
      ∀ r, (server.handleRequest payload client od currentTimeUs).1 = .ok r → Sendable r := by
  have hsends := sends_handleRequest (h.connection client) payload od currentTimeUs server.handler
  refine ⟨?_, ?_⟩
  · have hinsert : ∀ a d, (server.connections.insert client
        ((server.connection client).handleRequest payload od currentTimeUs
          server.handler).handler).get? a = some d → SdoSequenceHandler.Ready d :=
      fun a d hget => SortedMap.forall_insert h hsends.1 hget
    unfold handleRequest
    split_ifs with hlen
    · exact h
    · intro a d hget
      dsimp only at hget
      split at hget
      · exact hinsert a d hget
      · dsimp only at hget
        split_ifs at hget
        · exact hinsert a d (SortedMap.get?_of_erase hget)
        · exact hinsert a d hget
  · intro r hr
    rw [handleRequest_result] at hr
    exact hsends.2 r hr

end SdoServer

/-! ### The octets -/

/-- A response never leaves in a frame. -/
theorem asndBuildResponse_of_sendable {isCn : Bool} {data : SdoResponseData} (h : Sendable data)
    {macAddress : MacAddress} {nodeId : NodeId} {action : NodeAction} :
    asndBuildResponse isCn data macAddress nodeId ≠ .ok action := by
  intro hbuild
  unfold asndBuildResponse at hbuild
  split at hbuild
  · rw [serializeSdoAsndPayload_shaped h.1] at hbuild
    cases hbuild
  · cases hbuild

/-- The buffer is four octets short: a command fits only if it has a total size which is not
written. -/
theorem serializeSdoAsndPayload_ok {seq : SequenceLayerHeader} {cmd : SdoCommand}
    {payload : List UInt8} (h : serializeSdoAsndPayload seq cmd = .ok payload) :
    cmd.dataSize.isSome ∧ cmd.header.segmentation ≠ .initiate ∧
      payload = seq.bytes ++ cmd.bytes := by
  obtain ⟨⟨seqBuf, seqLen⟩, hseq, h⟩ := bind_eq_ok_iff.mp h
  obtain ⟨⟨cmdBuf, cmdLen⟩, hcmd, h⟩ := bind_eq_ok_iff.mp h
  obtain rfl := Except.ok.inj h
  have hlen := cmd.bytes_length
  have hseqBuf : seqBuf = seq.bytes := (congrArg Prod.fst (Except.ok.inj hseq)).symm
  rcases Nat.lt_or_ge (4 + 4 + (if cmd.dataSize.isSome then 4 else 0) + cmd.payload.length - 4)
    cmd.bytes.length with hshort | hfits
  · rw [SdoCommand.serialize_of_short hshort] at hcmd
    cases hcmd
  · have hsome : cmd.dataSize.isSome := by
      by_contra hnone
      rw [if_neg hnone] at hfits
      omega
    have hinitiate : cmd.header.segmentation ≠ .initiate := by
      intro hinitiate
      rw [if_pos hinitiate] at hlen
      rw [if_pos hsome] at hfits
      omega
    rw [SdoCommand.serialize_of_fits hfits] at hcmd
    obtain ⟨rfl, rfl⟩ := Prod.mk.inj (Except.ok.inj hcmd)
    exact ⟨hsome, hinitiate, by rw [hseqBuf, List.take_left]⟩

/-- What is decoded from the octets of a command that is no `initiate`, whatever follows them. -/
theorem SdoCommand.header_of_deserialize_bytes {cmd cmd' : SdoCommand} {rest : List UInt8}
    (hinitiate : cmd.header.segmentation ≠ .initiate)
    (h : SdoCommand.deserialize (cmd.bytes ++ rest) = .ok cmd') :
    cmd'.header = cmd.header ∧ cmd'.dataSize = none := by
  obtain ⟨s₀, s₁, hs⟩ : ∃ s₀ s₁, u16Bytes cmd.header.segmentSize = [s₀, s₁] := ⟨_, _, rfl⟩
  have hseg : u16OfBytes [s₀, s₁] = cmd.header.segmentSize := by rw [← hs, u16OfBytes_u16Bytes]
  unfold bytes deserialize at h
  simp only [hs, if_neg hinitiate, List.cons_append, List.nil_append, segmentation_flags,
    commandId_tryFrom_toByte, isResponse_flags, isAborted_flags, hseg, bind, Except.bind] at h
  split_ifs at h
  obtain rfl := Except.ok.inj h
  exact ⟨rfl, rfl⟩

/-- No request is decoded from the octets of a command that leaves in a frame. -/
theorem not_decoded {seq : SequenceLayerHeader} {cmd request : SdoCommand}
    {payload rest : List UInt8} (h : serializeSdoAsndPayload seq cmd = .ok payload)
    (hcmd : cmd.Misread) (hrequest : request.IsRequest) :
    SdoCommand.deserialize ((payload ++ rest).drop 4) ≠ .ok request := by
  obtain ⟨hsome, hinitiate, rfl⟩ := serializeSdoAsndPayload_ok h
  have hdrop : (seq.bytes ++ cmd.bytes ++ rest).drop 4 = cmd.bytes ++ rest := rfl
  intro hdecode
  rw [hdrop] at hdecode
  obtain ⟨hheader, hnone⟩ := SdoCommand.header_of_deserialize_bytes hinitiate hdecode
  refine hrequest.unsized hnone ?_
  rw [hheader]
  exact hcmd hsome hinitiate

/-- A command that is decoded does not depend on what follows it. -/
theorem SdoCommand.deserialize_append {buffer rest : List UInt8} {cmd : SdoCommand}
    (h : deserialize buffer = .ok cmd) : deserialize (buffer ++ rest) = .ok cmd := by
  have hlonger : ∀ {data : List UInt8} {n : ℕ}, ¬ data.length < n →
      ¬ (data ++ rest).length < n ∧ (data ++ rest).take n = data.take n := by
    intro data n hlen
    rw [List.length_append, List.take_append_of_le_length (not_lt.mp hlen)]
    exact ⟨by omega, rfl⟩
  unfold deserialize at h
  split at h
  · rename_i data
    obtain ⟨segmentation, hsegmentation, h⟩ := bind_eq_ok_iff.mp h
    obtain ⟨commandId, hcommand, h⟩ := bind_eq_ok_iff.mp h
    simp only [deserialize, List.cons_append, hsegmentation, hcommand, bind, Except.bind]
    dsimp only at h
    by_cases hinitiate : segmentation = .initiate
    · rw [if_pos hinitiate] at h ⊢
      rcases data with _ | ⟨d₀, _ | ⟨d₁, _ | ⟨d₂, _ | ⟨d₃, data⟩⟩⟩⟩
      case cons.cons.cons.cons =>
        dsimp only [List.cons_append] at h ⊢
        split_ifs at h with hshort
        obtain ⟨hlen, htake⟩ := hlonger hshort
        rw [if_neg hlen, htake]
        exact h
      all_goals cases h
    · rw [if_neg hinitiate] at h ⊢
      split_ifs at h with hshort
      obtain ⟨hlen, htake⟩ := hlonger hshort
      rw [if_neg hlen, htake]
      exact h
  · cases h

/-- The connection is not even opened in a header of zeros. -/
theorem SequenceLayerHeader.sendCon_of_zeros {n : ℕ} {seq : SequenceLayerHeader}
    (h : deserialize ((List.replicate n 0).take 4) = .ok seq) : seq.sendCon = .noConnection := by
  rw [List.take_replicate] at h
  rcases Nat.lt_or_ge n 4 with hlt | hge
  · rw [Nat.min_eq_right (Nat.le_of_lt hlt)] at h
    interval_cases n <;> cases h
  · rw [Nat.min_eq_left hge] at h
    obtain rfl := Except.ok.inj h
    rfl

end Powerlink
