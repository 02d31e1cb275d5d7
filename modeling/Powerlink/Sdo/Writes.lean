import Powerlink.Od.Encoding
import Powerlink.Sdo.Embedded
import Powerlink.Sdo.Transfer

/-! # Writes to the dictionary

An expedited write reaches the dictionary on two ways, through the transfer state of the SDO server
(`perform_od_write`) and through the server of an embedded channel (`process_command`).  Both read
the octets against the current value, write the result and answer a failure by an abort code.

The two agree on what happens to the dictionary, and on the code of every failure but one: octets
that are too few for the type are `0x06070013` for a transfer and `0x06070010` for an embedded
channel (`same_outcome_iff`).  Octets that are too many are no failure: the value is read from the
first ones (`performOdWrite_take`), so the encoding of a value is not unique on this way in
(`one_encoding_iff`). -/

namespace Powerlink

open LittleEndian

variable {σ : Type} [ObjectDictionaryStorage σ]

/-! ### The length of the octets -/

namespace SdoTransferState

/-- Octets after the last one that the type reads are dropped. -/
theorem performOdWrite_take {s : SdoTransferState} {od : ObjectDictionary σ}
    {template : ObjectValue} {n : ℕ} (hread : od.read s.index s.subIndex = some template)
    (hsize : template.encodedSize = some n) (h : n ≤ s.dataBuffer.length) :
    s.performOdWrite od =
      performOdWrite { s with dataBuffer := s.dataBuffer.take n } od := by
  unfold performOdWrite
  dsimp only
  rw [hread]
  dsimp only
  rw [ObjectValue.deserialize_take hsize h]

theorem performOdWrite_of_short {s : SdoTransferState} {od : ObjectDictionary σ}
    {template : ObjectValue} {n : ℕ} (hread : od.read s.index s.subIndex = some template)
    (hsize : template.encodedSize = some n) (h : s.dataBuffer.length < n) :
    s.performOdWrite od = (.error 0x06070013, od) := by
  unfold performOdWrite
  rw [hread]
  dsimp only
  rw [ObjectValue.deserialize_of_short hsize h]

end SdoTransferState

/-- What a download does with octets that do not match the size of the type in the dictionary:
too few are refused, too many are cut. -/
structure CutsDownloads (σ : Type) [ObjectDictionaryStorage σ] (template : ObjectValue)
    (data : List UInt8) (n : ℕ) : Prop where
  refused : data.length < n → ∀ (od : ObjectDictionary σ) (s : SdoTransferState),
    od.read s.index s.subIndex = some template → s.dataBuffer = data →
      s.performOdWrite od = (.error 0x06070013, od)
  cut : n < data.length → ∀ (od : ObjectDictionary σ) (s : SdoTransferState),
    od.read s.index s.subIndex = some template → s.dataBuffer = data →
      s.performOdWrite od = { s with dataBuffer := data.take n }.performOdWrite od

/-- Every value is read back from its encoding.  Octets that are read are the encoding of the value
exactly if they are not too many for a type of fixed size; a download of too many is cut. -/
theorem one_encoding_iff (σ : Type) [ObjectDictionaryStorage σ] (template : ObjectValue)
    (data : List UInt8) :
    (∀ v : ObjectValue, v.discriminant = template.discriminant →
      ObjectValue.deserialize v.serialize template = .ok v) ∧
    ((∀ v, ObjectValue.deserialize data template = .ok v →
      v.discriminant = template.discriminant ∧ v.serialize = data) ↔
        ∀ n, template.encodedSize = some n → data.length ≤ n) ∧
    ∀ n, template.encodedSize = some n → CutsDownloads σ template data n := by
  refine ⟨fun v h => ObjectValue.deserialize_serialize_of_discriminant h,
    ObjectValue.serialize_of_deserialize_iff template data, ?_⟩
  intro n hsize
  constructor
  · rintro hshort od s hread rfl
    exact SdoTransferState.performOdWrite_of_short hread hsize hshort
  · rintro hlong od s hread rfl
    exact SdoTransferState.performOdWrite_take hread hsize hlong.le

/-- A dictionary with one octet at `0x2000`. -/
def oneOctet : ObjectDictionary Empty :=
  (ObjectDictionary.new none).insert 0x2000 ⟨.variable (.unsigned8 0), "", some .readWrite, none⟩

/-- The transfer that wrote octets to `0x2000`. -/
def octetTransfer (data : List UInt8) : SdoTransferState where
  transactionId := 0
  totalSize := data.length
  dataBuffer := data
  offset := data.length
  index := 0x2000
  subIndex := 0
  deadlineUs := none
  retransmissionsLeft := 0
  lastSentSegment := none

/-- Two octets are read as one, and a download of them succeeds. -/
theorem second_octet_is_cut :
    (¬ ∀ template v data, ObjectValue.deserialize data template = .ok v →
      v.discriminant = template.discriminant ∧ v.serialize = data) ∧
    ((octetTransfer [7, 9]).performOdWrite oneOctet).1 = .ok () := by
  constructor
  · intro h
    have h79 := (h (.unsigned8 0) (.unsigned8 7) [7, 9] (by decide)).2
    exact absurd h79 (by decide)
  · decide

/-! ### The outcome of an embedded write -/

/-- The outcome that a response of an embedded channel reports. -/
def reportedOutcome (response : List UInt8) : Option (Except UInt32 Unit) :=
  match PdoSdoCommand.deserialize response with
  | .ok r => some (if r.isAborted then .error (u32OfBytes (r.data.take 4)) else .ok ())
  | .error _ => none

/-- A write through the transfer state and one through an embedded channel end alike. -/
structure SameOutcome (od : ObjectDictionary σ) (index : UInt16)
    (transfer : Except UInt32 Unit × ObjectDictionary σ)
    (embedded : List UInt8 × ObjectDictionary σ) : Prop where
  dictionary : embedded.2 = transfer.2
  success : reportedOutcome embedded.1 = some (.ok ()) ↔ transfer.1 = .ok ()
  abortCode : ∀ code, transfer.1 = .error code → reportedOutcome embedded.1 = some (.error code)
  unchanged : ∀ code, transfer.1 = .error code → transfer.2.entries = od.entries ∧
    (index ≠ 0x1010 → index ≠ 0x1011 → transfer.2 = od)

/-- The octets are too few for the type of the object. -/
def TooFewOctets (od : ObjectDictionary σ) (index : UInt16) (subIndex : UInt8)
    (data : List UInt8) : Prop :=
  ∃ template n, od.read index subIndex = some template ∧ template.encodedSize = some n ∧
    data.length < n

/-- The two mappings of write errors to abort codes are one. -/
theorem writeErrorCode_eq (e : PowerlinkError) :
    EmbeddedSdoServer.writeErrorCode e = SdoTransferState.writeAbortCode e := by
  unfold EmbeddedSdoServer.writeErrorCode SdoTransferState.writeAbortCode
  cases e <;> first | rfl | (split <;> simp_all)

/-- The embedded server treats a write as the transfer does, but for the code of octets that are
too few. -/
theorem execute_write (od : ObjectDictionary σ) (s : SdoTransferState) (req : PdoSdoCommand)
    (hwrite : req.commandId = .writeByIndex) (hindex : req.index = s.index)
    (hsub : req.subIndex = s.subIndex) (hdata : req.data = s.dataBuffer) :
    (EmbeddedSdoServer.execute req od).2 = (s.performOdWrite od).2 ∧
    (TooFewOctets od s.index s.subIndex s.dataBuffer →
      (EmbeddedSdoServer.execute req od).1 = .error 0x06070010 ∧
        (s.performOdWrite od).1 = .error 0x06070013) ∧
    (¬TooFewOctets od s.index s.subIndex s.dataBuffer →
      (EmbeddedSdoServer.execute req od).1 = (s.performOdWrite od).1.map fun _ => []) := by
  unfold EmbeddedSdoServer.execute
  rw [hwrite, hindex, hsub, hdata]
  dsimp only
  cases hread : od.read s.index s.subIndex with
  | none =>
      have hfew : ¬TooFewOctets od s.index s.subIndex s.dataBuffer := by
        rintro ⟨template, n, htemplate, -⟩
        rw [hread] at htemplate
        cases htemplate
      unfold SdoTransferState.performOdWrite EmbeddedSdoServer.missingCode
      rw [hread]
      dsimp only
      split_ifs <;> exact ⟨rfl, fun h => absurd h hfew, fun _ => rfl⟩
  | some template =>
      unfold SdoTransferState.performOdWrite
      rw [hread]
      dsimp only
      have hiff : TooFewOctets od s.index s.subIndex s.dataBuffer ↔
          ObjectValue.deserialize s.dataBuffer template = .error .bufferTooShort := by
        rw [ObjectValue.deserialize_bufferTooShort_iff]
        constructor
        · rintro ⟨template', n, htemplate, hsize, hshort⟩
          obtain rfl := Option.some.inj (hread.symm.trans htemplate)
          exact ⟨n, hsize, hshort⟩
        · rintro ⟨n, hsize, hshort⟩
          exact ⟨template, n, hread, hsize, hshort⟩
      rw [hiff]
      cases hd : ObjectValue.deserialize s.dataBuffer template with
      | error e =>
          cases e with
          | bufferTooShort => exact ⟨rfl, fun _ => ⟨rfl, rfl⟩, fun h => absurd rfl h⟩
          | _ => exact ⟨rfl, nofun, fun _ => rfl⟩
      | ok value =>
          dsimp only
          rw [if_neg (not_not.mpr (ObjectValue.discriminant_of_deserialize hd))]
          cases hw : od.write s.index s.subIndex value with
          | mk result od' =>
              cases result with
              | ok u => exact ⟨rfl, nofun, fun _ => rfl⟩
              | error e =>
                  refine ⟨rfl, nofun, fun _ => ?_⟩
                  dsimp only
                  rw [writeErrorCode_eq]
                  rfl

/-- A successful write returns nothing. -/
theorem execute_write_ok {od : ObjectDictionary σ} {req : PdoSdoCommand} {data : List UInt8}
    (hwrite : req.commandId = .writeByIndex)
    (h : (EmbeddedSdoServer.execute req od).1 = .ok data) : data = [] := by
  unfold EmbeddedSdoServer.execute at h
  rw [hwrite] at h
  dsimp only at h
  split at h
  · cases h
  · split at h
    · cases h
    · split at h
      · exact (Except.ok.inj h).symm
      · cases h

/-- A response to a write reports the abort code or the success of the command. -/
theorem reportedOutcome_processCommand (req : PdoSdoCommand)
    (hwrite : req.commandId = .writeByIndex) (od : ObjectDictionary σ) (responseSeqNum : UInt8) :
    reportedOutcome (EmbeddedSdoServer.processCommand req od responseSeqNum).1 =
      some ((EmbeddedSdoServer.execute req od).1.map fun _ => ()) := by
  have hnothing : ∀ data, (EmbeddedSdoServer.execute req od).1 = .ok data → data = [] :=
    fun data h => execute_write_ok hwrite h
  unfold EmbeddedSdoServer.processCommand
  cases hx : EmbeddedSdoServer.execute req od with
  | mk result od' =>
      rw [hx] at hnothing
      unfold reportedOutcome
      cases result with
      | error code =>
          dsimp only
          rw [PdoSdoCommand.deserialize_serialize (by simp)]
          simp [PdoSdoCommand.decoded, Except.map, List.take_of_length_le]
      | ok data =>
          rw [hnothing data rfl]
          dsimp only
          rw [PdoSdoCommand.deserialize_serialize (by simp)]
          rfl

theorem processCommand_od (req : PdoSdoCommand) (od : ObjectDictionary σ) (responseSeqNum : UInt8) :
    (EmbeddedSdoServer.processCommand req od responseSeqNum).2 =
      (EmbeddedSdoServer.execute req od).2 := by
  unfold EmbeddedSdoServer.processCommand
  dsimp only
  split
  · rename_i h
    rw [h]
  · rename_i h
    rw [h]

/-- A failed write leaves the entries alone, and a write that is no store or restore command the
whole dictionary. -/
theorem performOdWrite_unchanged (s : SdoTransferState) (od : ObjectDictionary σ) {code : UInt32}
    (h : (s.performOdWrite od).1 = .error code) :
    (s.performOdWrite od).2.entries = od.entries ∧
      (s.index ≠ 0x1010 → s.index ≠ 0x1011 → (s.performOdWrite od).2 = od) := by
  unfold SdoTransferState.performOdWrite at h ⊢
  split at h
  · split at h
    · split_ifs at h ⊢ with htype
      · exact ⟨rfl, fun _ _ => rfl⟩
      · split at h
        · cases h
        · rename_i e od' hw
          have herror := congrArg Prod.fst hw
          refine ⟨?_, fun hstore hrestore => ?_⟩
          · have hentries := ObjectDictionary.write_error_entries herror
            rw [hw] at hentries
            exact hentries
          · have heq := ObjectDictionary.write_error_eq hstore hrestore herror
            rw [hw] at heq
            exact heq
    · exact ⟨rfl, fun _ _ => rfl⟩
    · exact ⟨rfl, fun _ _ => rfl⟩
  · split_ifs <;> exact ⟨rfl, fun _ _ => rfl⟩

/-- The transfer of some octets to an object. -/
def SdoTransferState.writing (s : SdoTransferState) (index : UInt16) (subIndex : UInt8)
    (data : List UInt8) : SdoTransferState :=
  { s with index := index, subIndex := subIndex, dataBuffer := data }

/-- The embedded command that writes some octets to an object. -/
def PdoSdoCommand.writing (req : PdoSdoCommand) (index : UInt16) (subIndex : UInt8)
    (data : List UInt8) : PdoSdoCommand :=
  { req with commandId := .writeByIndex, index := index, subIndex := subIndex, data := data }

/-- The two ways of an expedited write have the same outcome unless the octets are too few for the
type of the object. -/
theorem same_outcome_iff (od : ObjectDictionary σ) (index : UInt16) (subIndex : UInt8)
    (data : List UInt8) (s : SdoTransferState) (req : PdoSdoCommand) (responseSeqNum : UInt8) :
    SameOutcome od index ((s.writing index subIndex data).performOdWrite od)
      (EmbeddedSdoServer.processCommand (req.writing index subIndex data) od responseSeqNum) ↔
        ¬TooFewOctets od index subIndex data := by
  obtain ⟨hod, hfew, hmany⟩ := execute_write od (s.writing index subIndex data)
    (req.writing index subIndex data) rfl rfl rfl rfl
  have hreport := reportedOutcome_processCommand (req.writing index subIndex data) rfl od
    responseSeqNum
  constructor
  · intro h htoo
    obtain ⟨hembedded, htransfer⟩ := hfew htoo
    have hcode := h.abortCode _ htransfer
    rw [hreport, hembedded] at hcode
    exact absurd hcode (by decide)
  · intro hnot
    rw [hmany hnot] at hreport
    constructor
    · rw [processCommand_od, hod]
    · rw [hreport]
      cases ((s.writing index subIndex data).performOdWrite od).1 with
      | ok u => exact ⟨fun _ => rfl, fun _ => rfl⟩
      | error code => exact ⟨nofun, nofun⟩
    · intro code hcode
      rw [hreport, hcode]
      rfl
    · intro code hcode
      exact performOdWrite_unchanged _ od hcode

/-- No octet is too few for an unsigned one: the codes are `0x06070013` and `0x06070010`. -/
theorem empty_write_has_two_codes :
    ¬SameOutcome oneOctet 0x2000 (((octetTransfer []).writing 0x2000 0 []).performOdWrite oneOctet)
      (EmbeddedSdoServer.processCommand ((EmbeddedSdoClient.requestCommand
        ⟨.writeByIndex, 0x2000, 0, []⟩ 1).writing 0x2000 0 []) oneOctet 1) := by
  intro h
  have hcode := h.abortCode 0x06070013 (by decide)
  exact absurd hcode (by decide)

end Powerlink
