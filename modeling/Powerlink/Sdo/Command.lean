import Powerlink.Od.Dictionary

/-! # SDO commands

The command layer of `sdo/command/base.rs`: the command header with its segmentation and
command identifier, the codec of a whole command, the request payloads of the single services,
and the trait of `sdo/command/handler.rs` to which the optional services are delegated.

A command is eight fixed octets, four octets of total size in an `initiate` frame, and
`segmentSize` octets of payload.  `deserialize_bytes` is the round trip: decoding the octets of
a command gives the command back, up to the total size, which only an `initiate` frame carries,
and up to payload octets beyond `segmentSize`. -/

namespace Powerlink

open LittleEndian

/-- `CommandId`. -/
inductive CommandId where
  | nil
  | writeByIndex
  | readByIndex
  | writeAllByIndex
  | readAllByIndex
  | writeByName
  | readByName
  | fileWrite
  | fileRead
  | writeMultipleParamByIndex
  | readMultipleParamByIndex
  | abort
  | maxSegmentSize
deriving DecidableEq, Repr

/-- `CommandId as u8`. -/
def CommandId.toByte : CommandId → UInt8
  | nil => 0x00
  | writeByIndex => 0x01
  | readByIndex => 0x02
  | writeAllByIndex => 0x03
  | readAllByIndex => 0x04
  | writeByName => 0x05
  | readByName => 0x06
  | fileWrite => 0x20
  | fileRead => 0x21
  | writeMultipleParamByIndex => 0x31
  | readMultipleParamByIndex => 0x32
  | abort => 0x40
  | maxSegmentSize => 0x70

/-- `CommandId::try_from`. -/
def CommandId.tryFrom (value : UInt8) : Except PowerlinkError CommandId :=
  if value = 0x00 then .ok nil
  else if value = 0x01 then .ok writeByIndex
  else if value = 0x02 then .ok readByIndex
  else if value = 0x03 then .ok writeAllByIndex
  else if value = 0x04 then .ok readAllByIndex
  else if value = 0x05 then .ok writeByName
  else if value = 0x06 then .ok readByName
  else if value = 0x20 then .ok fileWrite
  else if value = 0x21 then .ok fileRead
  else if value = 0x31 then .ok writeMultipleParamByIndex
  else if value = 0x32 then .ok readMultipleParamByIndex
  else if value = 0x40 then .ok abort
  else if value = 0x70 then .ok maxSegmentSize
  else .error .invalidEnumValue

/-- `Segmentation`. -/
inductive Segmentation where
  | expedited
  | initiate
  | segment
  | complete
deriving DecidableEq, Repr

/-- `Segmentation as u8`. -/
def Segmentation.toByte : Segmentation → UInt8
  | expedited => 0
  | initiate => 1
  | segment => 2
  | complete => 3

/-- `Segmentation::try_from`. -/
def Segmentation.tryFrom (value : UInt8) : Except PowerlinkError Segmentation :=
  if value = 0 then .ok expedited
  else if value = 1 then .ok initiate
  else if value = 2 then .ok segment
  else if value = 3 then .ok complete
  else .error .invalidEnumValue

/-- `CommandLayerHeader`; the field defaults are those of `CommandLayerHeader::default`. -/
structure CommandLayerHeader where
  transactionId : UInt8 := 0
  isResponse : Bool := false
  isAborted : Bool := false
  segmentation : Segmentation := .expedited
  commandId : CommandId := .nil
  segmentSize : UInt16 := 0
deriving DecidableEq, Repr

/-- `SdoCommand`; `dataSize` is the total size announced by an `initiate` frame. -/
structure SdoCommand where
  header : CommandLayerHeader
  dataSize : Option UInt32
  payload : List UInt8
deriving DecidableEq, Repr

namespace SdoCommand

/-- `SdoCommand::deserialize`. -/
def deserialize (buffer : List UInt8) : Except PowerlinkError SdoCommand :=
  match buffer with
  | _ :: transactionId :: flags :: cid :: s₀ :: s₁ :: _ :: _ :: rest => do
      let segmentation ← Segmentation.tryFrom ((flags >>> 6) &&& 3)
      let commandId ← CommandId.tryFrom cid
      let segmentSize := u16OfBytes [s₀, s₁]
      let header : CommandLayerHeader :=
        { transactionId := transactionId
          isResponse := decide (flags &&& 0x10 ≠ 0)
          isAborted := decide (flags &&& 0x20 ≠ 0)
          segmentation := segmentation
          commandId := commandId
          segmentSize := segmentSize }
      if segmentation = .initiate then
        match rest with
        | d₀ :: d₁ :: d₂ :: d₃ :: data =>
            if data.length < segmentSize.toNat then .error .bufferTooShort
            else .ok ⟨header, some (u32OfBytes [d₀, d₁, d₂, d₃]), data.take segmentSize.toNat⟩
        | _ => .error .bufferTooShort
      else if rest.length < segmentSize.toNat then .error .bufferTooShort
      else .ok ⟨header, none, rest.take segmentSize.toNat⟩
  | _ => .error .bufferTooShort

/-- The transaction identifier is the second octet of a command. -/
theorem transactionId_of_deserialize {buffer : List UInt8} {c : SdoCommand}
    (h : deserialize buffer = .ok c) : buffer[1]? = some c.header.transactionId := by
  unfold deserialize at h
  split at h
  · rename_i b₀ tid flags cid s₀ s₁ _ _ rest
    cases hs : Segmentation.tryFrom ((flags >>> 6) &&& 3) with
    | error e => simp [hs, bind, Except.bind] at h
    | ok segmentation =>
        cases hc : CommandId.tryFrom cid with
        | error e => simp [hs, hc, bind, Except.bind] at h
        | ok commandId =>
            simp only [hs, hc, bind, Except.bind] at h
            split at h
            · split at h
              · split at h
                · cases h
                · cases h
                  rfl
              · cases h
            · split at h
              · cases h
              · cases h
                rfl
  · cases h

/-- The flag octet of a command header. -/
def flags (isResponse isAborted : Bool) (segmentation : Segmentation) : UInt8 :=
  (if isResponse then (0x10 : UInt8) else 0) ||| (if isAborted then (0x20 : UInt8) else 0) |||
    (segmentation.toByte <<< 6)

/-- The octets written by `SdoCommand::serialize`. -/
def bytes (c : SdoCommand) : List UInt8 :=
  [0, c.header.transactionId,
    flags c.header.isResponse c.header.isAborted c.header.segmentation,
    c.header.commandId.toByte] ++ u16Bytes c.header.segmentSize ++ [0, 0] ++
    (if c.header.segmentation = .initiate then u32Bytes (c.dataSize.getD 0) else []) ++ c.payload

/-- `SdoCommand::serialize`: the updated buffer and the number of octets written. -/
def serialize (c : SdoCommand) (buffer : List UInt8) : Except PowerlinkError (List UInt8 × ℕ) :=
  if buffer.length < 8 then .error .bufferTooShort
  else if c.header.segmentation = .initiate ∧ buffer.length < 12 then .error .bufferTooShort
  else if buffer.length < c.bytes.length then .error .bufferTooShort
  else .ok (c.bytes ++ buffer.drop c.bytes.length, c.bytes.length)

/-! ### The round trip -/

theorem segmentation_flags (r a : Bool) (s : Segmentation) :
    Segmentation.tryFrom ((flags r a s >>> 6) &&& 3) = .ok s := by
  cases r <;> cases a <;> cases s <;> rfl

theorem isResponse_flags (r a : Bool) (s : Segmentation) :
    decide (flags r a s &&& 0x10 ≠ 0) = r := by
  cases r <;> cases a <;> cases s <;> decide

theorem isAborted_flags (r a : Bool) (s : Segmentation) :
    decide (flags r a s &&& 0x20 ≠ 0) = a := by
  cases r <;> cases a <;> cases s <;> decide

theorem commandId_tryFrom_toByte (c : CommandId) : CommandId.tryFrom c.toByte = .ok c := by
  cases c <;> rfl

/-- What the receiver decodes from the octets of a command. -/
def decoded (c : SdoCommand) : SdoCommand :=
  { c with
    dataSize := if c.header.segmentation = .initiate then some (c.dataSize.getD 0) else none
    payload := c.payload.take c.header.segmentSize.toNat }

/-- A command whose payload has at least `segmentSize` octets decodes to itself. -/
theorem deserialize_bytes (c : SdoCommand) (h : c.header.segmentSize.toNat ≤ c.payload.length) :
    deserialize c.bytes = .ok c.decoded := by
  obtain ⟨s₀, s₁, hs⟩ : ∃ s₀ s₁, u16Bytes c.header.segmentSize = [s₀, s₁] := ⟨_, _, rfl⟩
  obtain ⟨d₀, d₁, d₂, d₃, hd⟩ : ∃ d₀ d₁ d₂ d₃, u32Bytes (c.dataSize.getD 0) = [d₀, d₁, d₂, d₃] :=
    ⟨_, _, _, _, rfl⟩
  have hseg : u16OfBytes [s₀, s₁] = c.header.segmentSize := by rw [← hs, u16OfBytes_u16Bytes]
  have hsize : u32OfBytes [d₀, d₁, d₂, d₃] = c.dataSize.getD 0 := by rw [← hd, u32OfBytes_u32Bytes]
  have hlt : ¬ c.payload.length < c.header.segmentSize.toNat := by omega
  unfold bytes deserialize decoded
  simp only [hs, hd, List.cons_append, List.nil_append, segmentation_flags,
    commandId_tryFrom_toByte, isResponse_flags, isAborted_flags, hseg]
  by_cases hi : c.header.segmentation = .initiate
  · simp only [if_pos hi, List.cons_append, List.nil_append, hsize]
    simp only [bind, Except.bind, if_pos hi, if_neg hlt]
  · simp only [if_neg hi, List.nil_append]
    simp only [bind, Except.bind, if_neg hi, if_neg hlt]

end SdoCommand

/-! ### Request payloads -/

/-- `ReadByIndexRequest`. -/
structure ReadByIndexRequest where
  index : UInt16
  subIndex : UInt8

/-- `ReadByIndexRequest::from_payload`. -/
def ReadByIndexRequest.fromPayload : List UInt8 → Except PowerlinkError ReadByIndexRequest
  | i₀ :: i₁ :: subIndex :: _ :: _ => .ok ⟨u16OfBytes [i₀, i₁], subIndex⟩
  | _ => .error .sdoInvalidCommandPayload

/-- `ReadByNameRequest::from_payload`: the name, up to a terminating zero. -/
def ReadByNameRequest.fromPayload (payload : List UInt8) : Except PowerlinkError String :=
  match ObjectValue.fromUtf8 (payload.takeWhile (· ≠ 0)) with
  | some name => .ok name
  | none => .error .sdoInvalidCommandPayload

/-- `WriteByIndexRequest`. -/
structure WriteByIndexRequest where
  index : UInt16
  subIndex : UInt8
  data : List UInt8

/-- `WriteByIndexRequest::from_payload`. -/
def WriteByIndexRequest.fromPayload : List UInt8 → Except PowerlinkError WriteByIndexRequest
  | i₀ :: i₁ :: subIndex :: _ :: data => .ok ⟨u16OfBytes [i₀, i₁], subIndex, data⟩
  | _ => .error .sdoInvalidCommandPayload

/-- The header of a request by index reads back. -/
theorem ReadByIndexRequest.fromPayload_address (index : UInt16) (subIndex : UInt8) :
    fromPayload (u16Bytes index ++ [subIndex, 0]) = .ok ⟨index, subIndex⟩ := by
  have hindex := u16OfBytes_u16Bytes index
  obtain ⟨i₀, i₁, hi⟩ : ∃ i₀ i₁, u16Bytes index = [i₀, i₁] := ⟨_, _, rfl⟩
  rw [hi] at hindex ⊢
  simp only [List.cons_append, List.nil_append, fromPayload, hindex]

theorem WriteByIndexRequest.fromPayload_address (index : UInt16) (subIndex : UInt8)
    (data : List UInt8) :
    fromPayload (u16Bytes index ++ [subIndex, 0] ++ data) = .ok ⟨index, subIndex, data⟩ := by
  have hindex := u16OfBytes_u16Bytes index
  obtain ⟨i₀, i₁, hi⟩ : ∃ i₀ i₁, u16Bytes index = [i₀, i₁] := ⟨_, _, rfl⟩
  rw [hi] at hindex ⊢
  simp only [List.cons_append, List.nil_append, fromPayload, hindex]

/-- `WriteByNameRequest`. -/
structure WriteByNameRequest where
  name : String
  data : List UInt8

/-- `WriteByNameRequest::from_payload`: a non-empty zero-terminated name, then the data. -/
def WriteByNameRequest.fromPayload (payload : List UInt8) :
    Except PowerlinkError WriteByNameRequest :=
  let nameEnd := (payload.findIdx? (· = 0)).getD 0
  if nameEnd = 0 then .error .sdoInvalidCommandPayload
  else match ObjectValue.fromUtf8 (payload.take nameEnd) with
    | some name => .ok ⟨name, payload.drop (nameEnd + 1)⟩
    | none => .error .sdoInvalidCommandPayload

/-- `MultipleParamEntry`. -/
structure MultipleParamEntry where
  index : UInt16
  subIndex : UInt8

/-- `chunks_exact(4)` read as parameter entries. -/
def MultipleParamEntry.ofChunks : List UInt8 → List MultipleParamEntry
  | i₀ :: i₁ :: subIndex :: _ :: rest => ⟨u16OfBytes [i₀, i₁], subIndex⟩ :: ofChunks rest
  | _ => []

/-- `ReadMultipleParamRequest::from_payload`. -/
def ReadMultipleParamRequest.fromPayload (payload : List UInt8) :
    Except PowerlinkError (List MultipleParamEntry) :=
  if payload.length % 4 ≠ 0 then .error .sdoInvalidCommandPayload
  else .ok (MultipleParamEntry.ofChunks payload)

/-! ### Delegated commands -/

/-- The trait `SdoCommandHandler`: every method answers the command and may change the
dictionary and its own state. -/
class SdoCommandHandler (σ η : Type) where
  handleWriteAllByIndex :
    η → SdoCommand → ObjectDictionary σ → SdoCommand × ObjectDictionary σ × η
  handleWriteMultipleParams :
    η → SdoCommand → ObjectDictionary σ → SdoCommand × ObjectDictionary σ × η
  handleFileRead : η → SdoCommand → ObjectDictionary σ → SdoCommand × ObjectDictionary σ × η
  handleFileWrite : η → SdoCommand → ObjectDictionary σ → SdoCommand × ObjectDictionary σ × η

/-- An abort response to a transaction. -/
def SdoCommand.abortResponse (transactionId : UInt8) (abortCode : UInt32) : SdoCommand where
  header :=
    { transactionId := transactionId
      isResponse := true
      isAborted := true
      segmentation := .expedited
      commandId := .nil
      segmentSize := 4 }
  dataSize := none
  payload := u32Bytes abortCode

/-- `DefaultSdoHandler`, which aborts every command. -/
structure DefaultSdoHandler where
deriving DecidableEq, Repr

/-- The function `abort` of `handler.rs`. -/
def DefaultSdoHandler.abort (command : SdoCommand) (abortCode : UInt32) : SdoCommand :=
  SdoCommand.abortResponse command.header.transactionId abortCode

instance (σ : Type) : SdoCommandHandler σ DefaultSdoHandler where
  handleWriteAllByIndex h command od := (DefaultSdoHandler.abort command 0x06010001, od, h)
  handleWriteMultipleParams h command od := (DefaultSdoHandler.abort command 0x06010001, od, h)
  handleFileRead h command od := (DefaultSdoHandler.abort command 0x06010001, od, h)
  handleFileWrite h command od := (DefaultSdoHandler.abort command 0x06010001, od, h)

end Powerlink
