import Powerlink.Sdo.Command

/-! # Segmented transfers

The transfer state of `sdo/state.rs`.  An upload sends `dataBuffer` in chunks of at most
`maxExpeditedPayload` octets, keeps the last segment for retransmission and arms a deadline; a
download collects the received chunks and writes the whole buffer to the dictionary when the
`complete` frame arrives.

The chunk of an upload is the slice of the buffer from `offset` on.  The slice is in range as
long as `offset ≤ totalSize = dataBuffer.length`, which every upload of the server keeps. -/

namespace Powerlink

/-- `MAX_EXPEDITED_PAYLOAD`. -/
def maxExpeditedPayload : ℕ := 1452

/-- `OD_IDX_SDO_TIMEOUT`. -/
def odIdxSdoTimeout : UInt16 := 0x1300

/-- `OD_IDX_SDO_RETRIES`. -/
def odIdxSdoRetries : UInt16 := 0x1302

/-- `SdoTransferState`. -/
structure SdoTransferState where
  transactionId : UInt8
  totalSize : ℕ
  dataBuffer : List UInt8
  offset : ℕ
  index : UInt16
  subIndex : UInt8
  deadlineUs : Option ℕ
  retransmissionsLeft : ℕ
  lastSentSegment : Option SdoCommand
deriving DecidableEq, Repr

/-- `SdoServerState`. -/
inductive SdoServerState where
  | closed
  | opening
  | established
  | segmentedDownload (state : SdoTransferState)
  | segmentedUpload (state : SdoTransferState)
deriving DecidableEq, Repr

section timers

variable {σ : Type} (od : ObjectDictionary σ)

/-- The configured SDO timeout in microseconds. -/
def sdoTimeoutUs : ℕ := ((od.readU32 odIdxSdoTimeout 0).getD 15000).toNat * 1000

/-- The configured number of retransmissions. -/
def sdoRetries : ℕ := ((od.readU32 odIdxSdoRetries 0).getD 2).toNat

end timers

namespace SdoTransferState

variable {σ : Type}

/-! ### Uploads -/

/-- The size of the next upload chunk. -/
def currentChunkSize (s : SdoTransferState) : ℕ :=
  min maxExpeditedPayload (s.totalSize - s.offset)

/-- The next upload chunk. -/
def chunk (s : SdoTransferState) : List UInt8 :=
  (s.dataBuffer.drop s.offset).take s.currentChunkSize

/-- Nothing is left after the next chunk. -/
def isLastSegment (s : SdoTransferState) : Bool :=
  decide (s.totalSize ≤ s.offset + s.currentChunkSize)

theorem isLastSegment_eq_false_iff (s : SdoTransferState) :
    s.isLastSegment = false ↔ s.offset + maxExpeditedPayload < s.totalSize := by
  rw [isLastSegment, decide_eq_false_iff_not, currentChunkSize]
  omega

theorem currentChunkSize_of_not_last {s : SdoTransferState} (h : s.isLastSegment = false) :
    s.currentChunkSize = maxExpeditedPayload := by
  rw [isLastSegment_eq_false_iff] at h
  rw [currentChunkSize]
  omega

/-- The command that carries the next chunk. -/
def uploadSegment (s : SdoTransferState) : SdoCommand where
  header :=
    { transactionId := s.transactionId
      isResponse := true
      isAborted := false
      segmentation := if s.isLastSegment then .complete
        else if s.offset = 0 then .initiate else .segment
      commandId := .readByIndex
      segmentSize := UInt16.ofNat s.chunk.length }
  dataSize := if s.offset = 0 then some (UInt32.ofNat s.totalSize) else none
  payload := s.chunk

/-- `SdoTransferState::get_next_upload_segment`: the command, whether it is the last one, and
the new transfer state. -/
def getNextUploadSegment (s : SdoTransferState) (od : ObjectDictionary σ) (currentTimeUs : ℕ) :
    SdoCommand × Bool × SdoTransferState :=
  if s.isLastSegment then
    (s.uploadSegment, true,
      { s with
        offset := s.offset + s.currentChunkSize
        deadlineUs := none
        lastSentSegment := none })
  else
    (s.uploadSegment, false,
      { s with
        offset := s.offset + s.currentChunkSize
        deadlineUs := some (currentTimeUs + sdoTimeoutUs od)
        retransmissionsLeft := sdoRetries od
        lastSentSegment := some s.uploadSegment })

/-! ### Downloads -/

variable [ObjectDictionaryStorage σ]

/-- The abort code for an error of the dictionary write. -/
def writeAbortCode : PowerlinkError → UInt32
  | .storageError message => if message = "Object is read-only" then 0x06010002 else 0x08000020
  | .typeMismatch => 0x06070010
  | .validationError _ => 0x06090030
  | _ => 0x08000020

/-- `SdoTransferState::perform_od_write`. -/
def performOdWrite (s : SdoTransferState) (od : ObjectDictionary σ) :
    Except UInt32 Unit × ObjectDictionary σ :=
  match od.read s.index s.subIndex with
  | some typeTemplate =>
      match ObjectValue.deserialize s.dataBuffer typeTemplate with
      | .ok value =>
          if value.discriminant ≠ typeTemplate.discriminant then (.error 0x06070010, od)
          else match od.write s.index s.subIndex value with
            | (.ok (), od') => (.ok (), od')
            | (.error e, od') => (.error (writeAbortCode e), od')
      | .error .bufferTooShort => (.error 0x06070013, od)
      | .error _ => (.error 0x06070010, od)
  | none =>
      if (od.readObject s.index).isNone then (.error 0x06020000, od) else (.error 0x06090011, od)

/-- `SdoTransferState::process_download_segment`: completion or an abort code, the new transfer
state and the new dictionary. -/
def processDownloadSegment (s : SdoTransferState) (command : SdoCommand)
    (od : ObjectDictionary σ) (currentTimeUs : ℕ) :
    Except UInt32 Bool × SdoTransferState × ObjectDictionary σ :=
  if s.offset + command.payload.length > s.totalSize then (.error 0x06070010, s, od)
  else
    let s₁ := { s with
      dataBuffer := s.dataBuffer ++ command.payload
      offset := s.offset + command.payload.length }
    if command.header.segmentation = .complete then
      if s₁.offset ≠ s₁.totalSize then
        (.error (if s₁.offset < s₁.totalSize then 0x06070013 else 0x06070012), s₁, od)
      else match s₁.performOdWrite od with
        | (.ok (), od') => (.ok true, s₁, od')
        | (.error abortCode, od') => (.error abortCode, s₁, od')
    else
      (.ok false, { s₁ with deadlineUs := some (currentTimeUs + sdoTimeoutUs od) }, od)

end SdoTransferState

end Powerlink
