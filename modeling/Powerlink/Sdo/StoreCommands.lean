import Powerlink.Sdo.Steps
import Powerlink.Od.Persistence

/-! # Store and restore over SDO

The objects `0x1010` and `0x1011` take a signature: a `VISIBLE_STRING` `save` or `load` that is
written to one of their sub-indices calls `store_parameters` or `restore_defaults`.  An SDO write
decodes its data with the type of the value that is stored there.

`command_reached_iff`: on an established connection the signature reaches the command exactly if the
sub-index is not zero and holds a `VISIBLE_STRING`.  The records that `populate_protocol_objects`
provides hold `UNSIGNED32`, and so the commands cannot be called on them
(`save_is_refused_after_init`).

To tell a call that fails from one that is not made, the backend records its calls (`Recorded`). -/

namespace Powerlink

open LittleEndian SdoSequenceHandler

/-! ### Backends that record their calls -/

/-- A call of a storage backend. -/
inductive StorageCall where
  | load
  | save (params : StoredParams)
  | clear
  | requestRestoreDefaults
  | clearRestoreDefaultsFlag

/-- A backend with the calls that it has received. -/
structure Recorded (σ : Type) where
  backend : σ
  calls : List StorageCall

instance (σ : Type) [ObjectDictionaryStorage σ] : ObjectDictionaryStorage (Recorded σ) where
  load s :=
    ((ObjectDictionaryStorage.load s.backend).1,
      ⟨(ObjectDictionaryStorage.load s.backend).2, s.calls ++ [.load]⟩)
  save s params :=
    ((ObjectDictionaryStorage.save s.backend params).1,
      ⟨(ObjectDictionaryStorage.save s.backend params).2, s.calls ++ [.save params]⟩)
  clear s :=
    ((ObjectDictionaryStorage.clear s.backend).1,
      ⟨(ObjectDictionaryStorage.clear s.backend).2, s.calls ++ [.clear]⟩)
  restoreDefaultsRequested s := ObjectDictionaryStorage.restoreDefaultsRequested s.backend
  requestRestoreDefaults s :=
    ((ObjectDictionaryStorage.requestRestoreDefaults s.backend).1,
      ⟨(ObjectDictionaryStorage.requestRestoreDefaults s.backend).2,
        s.calls ++ [.requestRestoreDefaults]⟩)
  clearRestoreDefaultsFlag s :=
    ((ObjectDictionaryStorage.clearRestoreDefaultsFlag s.backend).1,
      ⟨(ObjectDictionaryStorage.clearRestoreDefaultsFlag s.backend).2,
        s.calls ++ [.clearRestoreDefaultsFlag]⟩)

/-! ### The commands -/

/-- The two commands of the dictionary. -/
inductive ParamCommand where
  | store
  | restore
deriving DecidableEq, Repr

namespace ParamCommand

/-- The object of the command. -/
def index : ParamCommand → UInt16
  | store => 0x1010
  | restore => 0x1011

/-- The signature of the command. -/
def text : ParamCommand → String
  | store => "save"
  | restore => "load"

/-- The signature in ASCII. -/
def signature : ParamCommand → List UInt8
  | store => [0x73, 0x61, 0x76, 0x65]
  | restore => [0x6C, 0x6F, 0x61, 0x64]

theorem fromUtf8_signature (command : ParamCommand) :
    ObjectValue.fromUtf8 command.signature = some command.text := by
  cases command <;> decide

variable {σ : Type} [ObjectDictionaryStorage σ]

/-- What the command calls. -/
def run (command : ParamCommand) (od : ObjectDictionary σ) (subIndex : UInt8) :
    Except PowerlinkError Unit × ObjectDictionary σ :=
  match command with
  | store => od.storeParameters subIndex
  | restore => od.restoreDefaults subIndex

/-- The command is called by its signature. -/
theorem write_text (command : ParamCommand) (od : ObjectDictionary σ) {subIndex : UInt8}
    (hpos : subIndex > 0) :
    od.write command.index subIndex (.visibleString command.text) = command.run od subIndex := by
  cases command with
  | store => exact (if_pos rfl).trans (if_pos ⟨rfl, hpos⟩)
  | restore => exact ((if_neg (by decide)).trans (if_pos rfl)).trans (if_pos ⟨rfl, hpos⟩)

/-- Everything else is an error and leaves the dictionary alone. -/
theorem write_other (command : ParamCommand) (od : ObjectDictionary σ) (subIndex : UInt8)
    (value : ObjectValue) (h : ¬(value = .visibleString command.text ∧ subIndex > 0)) :
    ∃ e, od.write command.index subIndex value = (.error e, od) := by
  cases command with
  | store => exact ⟨_, (if_pos rfl).trans (if_neg h)⟩
  | restore => exact ⟨_, ((if_neg (by decide)).trans (if_pos rfl)).trans (if_neg h)⟩

/-- The call that the backend sees. -/
def call (command : ParamCommand) (od : ObjectDictionary σ) (subIndex : UInt8) : StorageCall :=
  match command with
  | store => .save (od.storableParams subIndex)
  | restore => .requestRestoreDefaults

theorem run_storage (command : ParamCommand) {od : ObjectDictionary (Recorded σ)} {s : Recorded σ}
    (hs : od.storage = some s) {subIndex : UInt8} (hpos : subIndex > 0) :
    ∃ s', (command.run od subIndex).2.storage = some s' ∧
      s'.calls = s.calls ++ [command.call od subIndex] := by
  have hne : subIndex ≠ 0 := by
    rintro rfl
    exact absurd hpos (by decide)
  cases command with
  | store =>
      simp only [run, ObjectDictionary.storeParameters, if_neg hne, hs]
      exact ⟨_, rfl, rfl⟩
  | restore =>
      simp only [run, ObjectDictionary.restoreDefaults, if_neg hne, hs]
      exact ⟨_, rfl, rfl⟩

end ParamCommand

/-! ### Decoding -/

/-- The value is a `VISIBLE_STRING`. -/
def ObjectValue.isText : ObjectValue → Bool
  | visibleString _ => true
  | _ => false

/-- A value is decoded with the type of the template. -/
theorem ObjectValue.deserialize_isText {data : List UInt8} {template value : ObjectValue}
    (h : deserialize data template = .ok value) : value.isText = template.isText := by
  cases template with
  | visibleString v =>
      simp only [deserialize] at h
      split at h
      · obtain rfl := Except.ok.inj h
        rfl
      · cases h
  | octetString v => obtain rfl := Except.ok.inj h; rfl
  | domain v => obtain rfl := Except.ok.inj h; rfl
  | unicodeString v | timeOfDay v | timeDifference v | netTime v =>
      simp only [deserialize] at h
      split_ifs at h
      obtain rfl := Except.ok.inj h
      rfl
  | macAddress v | ipAddress v =>
      simp only [deserialize] at h
      split at h
      · obtain rfl := Except.ok.inj h
        rfl
      · cases h
  | _ =>
      simp only [deserialize, deserializeFixed] at h
      split_ifs at h
      obtain rfl := Except.ok.inj h
      rfl

/-! ### The write of a signature -/

section

variable {σ : Type} [ObjectDictionaryStorage σ] {od : ObjectDictionary σ} {command : ParamCommand}
  {t : SdoTransferState} {value : ObjectValue}

/-- A signature that meets a text is handed to the command. -/
theorem performOdWrite_text (hindex : t.index = command.index)
    (hdata : t.dataBuffer = command.signature)
    (hread : od.read command.index t.subIndex = some value) (htext : value.isText = true)
    (hpos : t.subIndex > 0) :
    t.performOdWrite od =
      ((command.run od t.subIndex).1.mapError SdoTransferState.writeAbortCode,
        (command.run od t.subIndex).2) := by
  obtain ⟨text, rfl⟩ : ∃ text, value = .visibleString text := by
    cases value with
    | visibleString text => exact ⟨text, rfl⟩
    | _ => cases htext
  have hdecode : ObjectValue.deserialize t.dataBuffer (.visibleString text) =
      .ok (.visibleString command.text) := by
    simp only [ObjectValue.deserialize, hdata, command.fromUtf8_signature]
  unfold SdoTransferState.performOdWrite
  rw [hindex, hread]
  simp only [hdecode, ObjectValue.discriminant, command.write_text od hpos]
  rcases command.run od t.subIndex with ⟨_ | _, od'⟩ <;> rfl

/-- Any other value refuses it. -/
theorem performOdWrite_other (hindex : t.index = command.index)
    (hread : od.read command.index t.subIndex = some value)
    (h : ¬(value.isText = true ∧ t.subIndex > 0)) :
    ∃ abortCode, t.performOdWrite od = (.error abortCode, od) := by
  unfold SdoTransferState.performOdWrite
  rw [hindex, hread]
  dsimp only
  split
  · rename_i decoded hdecode
    split_ifs
    · exact ⟨_, rfl⟩
    · have htext := ObjectValue.deserialize_isText hdecode
      obtain ⟨e, hwrite⟩ := command.write_other od t.subIndex decoded (by
        rintro ⟨rfl, hpos⟩
        exact h ⟨htext.symm, hpos⟩)
      rw [hwrite]
      exact ⟨_, rfl⟩
  · exact ⟨_, rfl⟩
  · exact ⟨_, rfl⟩

end

/-- The command of an expedited write of a signature. -/
def signatureWrite (command : ParamCommand) (transactionId subIndex : UInt8) : SdoCommand where
  header :=
    { transactionId := transactionId
      commandId := .writeByIndex
      segmentSize := 8 }
  dataSize := none
  payload := u16Bytes command.index ++ [subIndex, 0] ++ command.signature

section

variable {σ η : Type} [ObjectDictionaryStorage σ] [SdoCommandHandler σ η]
  {command : ParamCommand} {transactionId subIndex : UInt8} {payload : List UInt8}
  {request : SequenceLayerHeader} {h : SdoSequenceHandler}

/-- What the server makes of the signature on an established connection. -/
theorem handleRequest_signature (od : ObjectDictionary σ) (currentTimeUs : ℕ) (ch : η)
    (hstate : h.state = .established)
    (hdec : SequenceLayerHeader.deserialize (payload.take 4) = .ok request)
    (hr : request.receiveCon ≠ .errorResponse)
    (hnext : request.sendSequenceNumber = nextSequence h.lastReceivedSequenceNumber)
    (hpayload : payload.drop 4 = (signatureWrite command transactionId subIndex).bytes) :
    ∃ (h' : SdoSequenceHandler) (responseHeader : SequenceLayerHeader) (t : SdoTransferState),
      t.index = command.index ∧ t.subIndex = subIndex ∧
      t.dataBuffer = command.signature ∧
      h.handleRequest payload od currentTimeUs ch =
        conclude h' responseHeader od currentTimeUs ch (transactionId,
          match t.performOdWrite od with
          | (.ok (), od') => .answer 0 [] od'
          | (.error abortCode, od') => .refuse abortCode od') := by
  have hopen : h.state.isOpen = true := by
    rw [hstate]
    rfl
  obtain ⟨sendCon, hseq⟩ := processSequenceLayer_inOrder hopen hnext
  have hreceived : (h.received request).state = .established := by
    simp only [received, acknowledge, hstate]
  have hne : payload.drop 4 ≠ [] := by
    rw [hpayload]
    exact List.cons_ne_nil _ _
  refine ⟨h.received request,
    ⟨request.sendSequenceNumber, .connectionValid, nextSequence h.sendSequenceNumber, sendCon⟩,
    Handlers.expeditedWrite (signatureWrite command transactionId subIndex).decoded
      ⟨command.index, subIndex, command.signature⟩, rfl, rfl, rfl, ?_⟩
  have hsize : (signatureWrite command transactionId subIndex).header.segmentSize.toNat ≤
      (signatureWrite command transactionId subIndex).payload.length := by
    cases command <;> exact Nat.le_refl 8
  rw [handleRequest_command hdec hr hseq hne, hreceived, hpayload, verdict_bytes hsize]
  have hdecoded : (signatureWrite command transactionId subIndex).decoded =
      signatureWrite command transactionId subIndex := by
    cases command <;> rfl
  have hrequest : WriteByIndexRequest.fromPayload
      (signatureWrite command transactionId subIndex).payload =
      .ok ⟨command.index, subIndex, command.signature⟩ :=
    WriteByIndexRequest.fromPayload_address _ _ _
  rw [hdecoded]
  have hverdict : Verdict.ofCommand (η := η) .established
      (signatureWrite command transactionId subIndex) od currentTimeUs ch =
      match (Handlers.expeditedWrite (signatureWrite command transactionId subIndex)
        ⟨command.index, subIndex, command.signature⟩).performOdWrite od with
      | (.ok (), od') => .answer 0 [] od'
      | (.error abortCode, od') => .refuse abortCode od' := by
    have hservice : Verdict.ofCommand (η := η) .established
        (signatureWrite command transactionId subIndex) od currentTimeUs ch =
        Verdict.ofWrite .established (signatureWrite command transactionId subIndex) od
          currentTimeUs := rfl
    rw [hservice]
    unfold Verdict.ofWrite
    rw [hrequest]
    rfl
  rw [hverdict]
  rfl

end

/-- The backend sees the call of the command for the sub-index, and if the command succeeds the
response is no abort. -/
structure Reaches {σ η : Type} [ObjectDictionaryStorage σ] (command : ParamCommand)
    (od : ObjectDictionary (Recorded σ)) (subIndex : UInt8) (out : Handled (Recorded σ) η) :
    Prop where
  called : ∃ s s', od.storage = some s ∧ out.od.storage = some s' ∧
    s'.calls = s.calls ++ [command.call od subIndex]
  answered : (command.run od subIndex).1 = .ok () →
    ∃ r, out.result = .ok r ∧ r.command.header.isAborted = false

/-- The signature reaches its command exactly if it is written over a text, and not at sub-index
zero. -/
theorem command_reached_iff {σ η : Type} [ObjectDictionaryStorage σ]
    [SdoCommandHandler (Recorded σ) η] {od : ObjectDictionary (Recorded σ)} {s : Recorded σ}
    (hs : od.storage = some s) {h : SdoSequenceHandler} (hstate : h.state = .established)
    {payload : List UInt8} {request : SequenceLayerHeader}
    (hdec : SequenceLayerHeader.deserialize (payload.take 4) = .ok request)
    (hr : request.receiveCon ≠ .errorResponse)
    (hnext : request.sendSequenceNumber = nextSequence h.lastReceivedSequenceNumber)
    (command : ParamCommand) {transactionId subIndex : UInt8}
    (hpayload : payload.drop 4 = (signatureWrite command transactionId subIndex).bytes)
    {value : ObjectValue} (hread : od.read command.index subIndex = some value)
    (currentTimeUs : ℕ) (ch : η) :
    Reaches command od subIndex (h.handleRequest payload od currentTimeUs ch) ↔
      value.isText = true ∧ subIndex > 0 := by
  obtain ⟨h', responseHeader, t, hindex, rfl, hdata, hout⟩ :=
    handleRequest_signature od currentTimeUs ch hstate hdec hr hnext hpayload
  rw [hout]
  by_cases htext : value.isText = true ∧ t.subIndex > 0
  · refine iff_of_true ?_ htext
    obtain ⟨s', hs', hcalls⟩ := command.run_storage hs htext.2
    rw [performOdWrite_text hindex hdata hread htext.1 htext.2]
    refine ⟨⟨s, s', hs, ?_, hcalls⟩, ?_⟩
    · rw [← hs']
      rcases command.run od t.subIndex with ⟨e | _, od'⟩ <;> rfl
    · intro hok
      rw [hok]
      exact ⟨_, rfl, rfl⟩
  · refine iff_of_false ?_ htext
    obtain ⟨abortCode, hwrite⟩ := performOdWrite_other hindex hread htext
    rw [hwrite]
    rintro ⟨⟨s₁, s', hs₁, hs', hcalls⟩, -⟩
    -- the refused write leaves the dictionary and the calls of its backend alone
    have hsame : s' = s₁ := Option.some.inj (hs'.symm.trans hs₁)
    have hlength := congrArg List.length hcalls
    rw [hsame] at hlength
    simp at hlength

/-- The request that writes the signature of the command to a sub-index. -/
def signatureRequest (command : ParamCommand) (subIndex : UInt8) : List UInt8 :=
  nextHeader.bytes ++ (signatureWrite command 1 subIndex).bytes

/-- A dictionary with a backend in memory, after `init`. -/
def recordedDictionary (entries : SortedMap UInt16 ObjectEntry) :
    ObjectDictionary (Recorded MemoryStorage) :=
  (ObjectDictionary.init ⟨entries, some ⟨⟨.empty, false⟩, []⟩⟩).2

/-- An application whose `0x1010` holds a text is called. -/
theorem save_reaches_text :
    Reaches .store
      (recordedDictionary (SortedMap.empty.insert 0x1010
        ⟨.array [.visibleString ""], "NMT_StoreParam", some .readWrite, none⟩)) 1
      (establishedHandler.handleRequest (signatureRequest .store 1)
        (recordedDictionary (SortedMap.empty.insert 0x1010
          ⟨.array [.visibleString ""], "NMT_StoreParam", some .readWrite, none⟩)) 0
        ({} : DefaultSdoHandler)) :=
  (command_reached_iff rfl rfl rfl (by decide) rfl .store rfl rfl 0 ({} : DefaultSdoHandler)).mpr
    ⟨rfl, by decide⟩

/-- The record of `populate_protocol_objects` refuses the signature. -/
theorem save_is_refused_after_init :
    (recordedDictionary .empty).read 0x1010 1 = some (.unsigned32 1) ∧
    ¬ Reaches .store (recordedDictionary .empty) 1
      (establishedHandler.handleRequest (signatureRequest .store 1) (recordedDictionary .empty) 0
        ({} : DefaultSdoHandler)) := by
  refine ⟨rfl, ?_⟩
  rintro ⟨-, hanswered⟩
  obtain ⟨r, hr, habort⟩ := hanswered rfl
  obtain rfl := Except.ok.inj hr
  exact absurd habort (by decide)

end Powerlink
