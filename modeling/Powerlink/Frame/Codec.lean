import Powerlink.Frame.Frames

/-! # The frame codec

`frame/codec.rs` and the `Codec` implementations of the frame types.  A serializer writes the
octets of a frame after the Ethernet header into a buffer and pads them with zeros to the
46 octets of the smallest Ethernet payload; `serialize` returns the written octets and fails
where the buffer is too short for them.

`serializeFrameAction` (`node/mod.rs`) puts the Ethernet header in front and hands the frame to
the application; it never sends a PRes for a managing node.  A received buffer goes through
`deserializeFrame`.  `frameType` and `frameDestination` read the message type and the
destination back from the octets of a sent frame. -/

namespace Powerlink

open LittleEndian

/-! ### Serialization -/

/-- The Ethernet header, with the EtherType in network order. -/
def EthernetHeader.bytes (header : EthernetHeader) : List UInt8 :=
  header.destinationMac.bytes ++ header.sourceMac.bytes ++
    [(header.etherType >>> 8).toUInt8, header.etherType.toUInt8]

/-- A bit of a flag octet. -/
def flagBit (flag : Bool) (bit : UInt8) : UInt8 := if flag then 1 <<< bit else 0

/-- The octets of a SoC. -/
def SocFrame.bytes (frame : SocFrame) : List UInt8 :=
  [MessageType.soC.toByte, frame.destination.id, frame.source.id, 0,
    flagBit frame.flags.mc 7 ||| flagBit frame.flags.ps 6, 0] ++
    u32Bytes frame.netTime.seconds ++ u32Bytes frame.netTime.nanoseconds ++
    u32Bytes frame.relativeTime.seconds ++ u32Bytes frame.relativeTime.nanoseconds

/-- The octets of a PReq. -/
def PReqFrame.bytes (frame : PReqFrame) : List UInt8 :=
  [MessageType.pReq.toByte, frame.destination.id, frame.source.id, 0,
    flagBit frame.flags.ms 5 ||| flagBit frame.flags.ea 2 ||| flagBit frame.flags.rd 0, 0,
    frame.pdoVersion.version, 0] ++ u16Bytes frame.payloadSize ++ frame.payload

/-- The octets of a PRes. -/
def PResFrame.bytes (frame : PResFrame) : List UInt8 :=
  [MessageType.pRes.toByte, frame.destination.id, frame.source.id, frame.nmtState.toByte,
    flagBit frame.flags.ms 5 ||| flagBit frame.flags.en 4 ||| flagBit frame.flags.rd 0,
    (frame.flags.pr.toByte <<< 3) ||| frame.flags.rs.value,
    frame.pdoVersion.version, 0] ++ u16Bytes frame.payloadSize ++ frame.payload

/-- The octets of a SoA. -/
def SoAFrame.bytes (frame : SoAFrame) : List UInt8 :=
  [MessageType.soA.toByte, frame.destination.id, frame.source.id, frame.nmtState.toByte,
    flagBit frame.flags.ea 2 ||| flagBit frame.flags.er 1, 0, frame.reqServiceId.toByte,
    frame.targetNodeId.id, frame.eplVersion.version]

/-- The octets of an ASnd. -/
def ASndFrame.bytes (frame : ASndFrame) : List UInt8 :=
  [MessageType.aSnd.toByte, frame.destination.id, frame.source.id, frame.serviceId.toByte] ++
    frame.payload

/-- The octets of a frame, without padding. -/
def PowerlinkFrame.bytes : PowerlinkFrame → List UInt8
  | soc frame => frame.bytes
  | pReq frame => frame.bytes
  | pRes frame => frame.bytes
  | soA frame => frame.bytes
  | aSnd frame => frame.bytes

/-- Zeros up to the smallest Ethernet payload. -/
def padPayload (octets : List UInt8) : List UInt8 :=
  octets ++ List.replicate (46 - octets.length) 0

/-- `PowerlinkFrame::serialize` into a buffer of the given length: the octets written. -/
def PowerlinkFrame.serialize (frame : PowerlinkFrame) (bufferLen : ℕ) :
    Except PowerlinkError (List UInt8) :=
  if bufferLen < (padPayload frame.bytes).length then .error .bufferTooShort
  else .ok (padPayload frame.bytes)

/-- `NodeAction`. -/
inductive NodeAction where
  | sendFrame (bytes : List UInt8)
  | sendUdp (destIp : IpAddress) (destPort : UInt16) (data : List UInt8)
  | noAction
deriving DecidableEq, Repr

/-- The frame types that `serialize_frame_action` refuses, by node type. -/
def PowerlinkFrame.isRefused (isCn : Bool) : PowerlinkFrame → Bool
  | pRes _ => !isCn
  | aSnd _ => false
  | _ => isCn

/-- `serialize_frame_action`. -/
def serializeFrameAction (isCn : Bool) (frame : PowerlinkFrame) :
    Except PowerlinkError NodeAction :=
  if frame.isRefused isCn then .ok .noAction
  else do
    let octets ← frame.serialize 1504
    let buffer := frame.ethernetHeader.bytes ++ octets
    .ok (.sendFrame (buffer ++ List.replicate (60 - buffer.length) 0))

/-! ### Deserialization -/

/-- `CodecHelpers::deserialize_pl_header`, where the message type must be the expected one. -/
def checkMessageType (octet : UInt8) (expected : MessageType) : Except PowerlinkError Unit := do
  let messageType ← MessageType.tryFrom (octet &&& 0x7F)
  if messageType ≠ expected then .error .invalidPlFrame else .ok ()

/-- A flag of a flag octet. -/
def hasBit (octet bit : UInt8) : Bool := decide (octet &&& (1 <<< bit) ≠ 0)

/-- `SocFrame::deserialize`. -/
def SocFrame.deserialize (ethHeader : EthernetHeader) (buffer : List UInt8) :
    Except PowerlinkError SocFrame :=
  match buffer with
  | b₀ :: dest :: src :: _ :: flags :: _ :: times =>
      if times.length < 16 then .error .bufferTooShort
      else do
        checkMessageType b₀ .soC
        .ok { ethHeader := ethHeader
              destination := ⟨dest⟩
              source := ⟨src⟩
              flags := ⟨hasBit flags 7, hasBit flags 6⟩
              netTime := ⟨u32OfBytes (times.take 4), u32OfBytes ((times.drop 4).take 4)⟩
              relativeTime :=
                ⟨u32OfBytes ((times.drop 8).take 4), u32OfBytes ((times.drop 12).take 4)⟩ }
  | _ => .error .bufferTooShort

/-- `PReqFrame::deserialize`. -/
def PReqFrame.deserialize (ethHeader : EthernetHeader) (buffer : List UInt8) :
    Except PowerlinkError PReqFrame :=
  match buffer with
  | b₀ :: dest :: src :: _ :: flags :: _ :: version :: _ :: s₀ :: s₁ :: rest => do
      checkMessageType b₀ .pReq
      let payloadSize := u16OfBytes [s₀, s₁]
      if rest.length < payloadSize.toNat then .error .bufferTooShort
      else .ok { ethHeader := ethHeader
                 destination := ⟨dest⟩
                 source := ⟨src⟩
                 flags := ⟨hasBit flags 5, hasBit flags 2, hasBit flags 0⟩
                 pdoVersion := ⟨version⟩
                 payloadSize := payloadSize
                 payload := rest.take payloadSize.toNat }
  | _ => .error .bufferTooShort

/-- `PResFrame::deserialize`; a PRes must be a broadcast. -/
def PResFrame.deserialize (ethHeader : EthernetHeader) (buffer : List UInt8) :
    Except PowerlinkError PResFrame :=
  match buffer with
  | b₀ :: dest :: src :: state :: flags₁ :: flags₂ :: version :: _ :: s₀ :: s₁ :: rest => do
      checkMessageType b₀ .pRes
      if (⟨dest⟩ : NodeId) ≠ cAdrBroadcastNodeId then .error .invalidPlFrame
      else
        let nmtState ← NmtState.tryFrom state
        let pr ← PRFlag.tryFrom (flags₂ >>> 3)
        let payloadSize := u16OfBytes [s₀, s₁]
        if rest.length < payloadSize.toNat then .error .bufferTooShort
        else .ok { ethHeader := ethHeader
                   destination := ⟨dest⟩
                   source := ⟨src⟩
                   nmtState := nmtState
                   flags := ⟨hasBit flags₁ 5, hasBit flags₁ 4, hasBit flags₁ 0, pr,
                     .new (flags₂ &&& 7)⟩
                   pdoVersion := ⟨version⟩
                   payloadSize := payloadSize
                   payload := rest.take payloadSize.toNat }
  | _ => .error .bufferTooShort

/-- `SoAFrame::deserialize`. -/
def SoAFrame.deserialize (ethHeader : EthernetHeader) (buffer : List UInt8) :
    Except PowerlinkError SoAFrame :=
  match buffer with
  | b₀ :: dest :: src :: state :: flags :: _ :: service :: target :: version :: _ => do
      checkMessageType b₀ .soA
      let nmtState ← NmtState.tryFrom state
      let reqServiceId ← RequestedServiceId.tryFrom service
      .ok { ethHeader := ethHeader
            destination := ⟨dest⟩
            source := ⟨src⟩
            nmtState := nmtState
            flags := ⟨hasBit flags 2, hasBit flags 1⟩
            reqServiceId := reqServiceId
            targetNodeId := ⟨target⟩
            eplVersion := ⟨version⟩ }
  | _ => .error .bufferTooShort

/-- The heuristic that takes trailing zeros of the shortest frame for padding. -/
def trimPadding (payload : List UInt8) : List UInt8 :=
  (payload.reverse.dropWhile (fun octet => decide (octet = 0))).reverse

/-- `ASndFrame::deserialize`. -/
def ASndFrame.deserialize (ethHeader : EthernetHeader) (buffer : List UInt8) :
    Except PowerlinkError ASndFrame :=
  match buffer with
  | b₀ :: dest :: src :: service :: rest => do
      checkMessageType b₀ .aSnd
      let serviceId ← ServiceId.tryFrom service
      .ok { ethHeader := ethHeader
            destination := ⟨dest⟩
            source := ⟨src⟩
            serviceId := serviceId
            payload := if buffer.length = 46 then trimPadding rest else rest }
  | _ => .error .bufferTooShort

/-- `CodecHelpers::deserialize_eth_header`: the header and the octets behind it. -/
def deserializeEthHeader (buffer : List UInt8) :
    Except PowerlinkError (EthernetHeader × List UInt8) :=
  match buffer with
  | d₀ :: d₁ :: d₂ :: d₃ :: d₄ :: d₅ :: s₀ :: s₁ :: s₂ :: s₃ :: s₄ :: s₅ :: t₀ :: t₁ :: rest =>
      .ok (⟨⟨d₀, d₁, d₂, d₃, d₄, d₅⟩, ⟨s₀, s₁, s₂, s₃, s₄, s₅⟩,
        (t₀.toUInt16 <<< 8) ||| t₁.toUInt16⟩, rest)
  | _ => .error .bufferTooShort

/-- `deserialize_frame`. -/
def deserializeFrame (buffer : List UInt8) : Except PowerlinkError PowerlinkFrame := do
  let (ethHeader, plBuffer) ← deserializeEthHeader buffer
  if !ethHeader.isPowerlink then .error .invalidEthernetFrame
  else match plBuffer with
    | [] => .error .invalidPlFrame
    | b₀ :: _ =>
        match MessageType.tryFrom (b₀ &&& 0x7F) with
        | .ok .soC => (SocFrame.deserialize ethHeader plBuffer).map .soc
        | .ok .pReq => (PReqFrame.deserialize ethHeader plBuffer).map .pReq
        | .ok .pRes => (PResFrame.deserialize ethHeader plBuffer).map .pRes
        | .ok .soA => (SoAFrame.deserialize ethHeader plBuffer).map .soA
        | .ok .aSnd => (ASndFrame.deserialize ethHeader plBuffer).map .aSnd
        | .error _ => .error (.invalidMessageType (b₀ &&& 0x7F))

/-! ### Response payloads -/

/-- The 32-bit word at an offset of a payload. -/
def u32At (buffer : List UInt8) (offset : ℕ) : UInt32 := u32OfBytes ((buffer.drop offset).take 4)

/-- `IdentResponsePayload`, with the fields that the managing node reads. -/
structure IdentResponsePayload where
  nmtState : NmtState
  deviceType : UInt32
  vendorId : UInt32
  productCode : UInt32
  revisionNumber : UInt32
  serialNumber : UInt32
  verifyConfDate : UInt32
  verifyConfTime : UInt32
  appSwDate : UInt32
  appSwTime : UInt32
deriving DecidableEq, Repr

/-- `IdentResponsePayload::deserialize`. -/
def IdentResponsePayload.deserialize (buffer : List UInt8) :
    Except PowerlinkError IdentResponsePayload :=
  if buffer.length < 158 then .error .bufferTooShort
  else do
    let _ ← PRFlag.tryFrom (buffer.getD 1 0 >>> 3)
    let nmtState ← NmtState.tryFrom (buffer.getD 2 0)
    .ok { nmtState := nmtState
          deviceType := u32At buffer 22
          vendorId := u32At buffer 26
          productCode := u32At buffer 30
          revisionNumber := u32At buffer 34
          serialNumber := u32At buffer 38
          verifyConfDate := u32At buffer 50
          verifyConfTime := u32At buffer 54
          appSwDate := u32At buffer 58
          appSwTime := u32At buffer 62 }

/-- `StatusResponsePayload`, with the field that the managing node reads. -/
structure StatusResponsePayload where
  nmtState : NmtState
deriving DecidableEq, Repr

/-- `StatusResponsePayload::deserialize`; the error entries behind the header always decode. -/
def StatusResponsePayload.deserialize (buffer : List UInt8) :
    Except PowerlinkError StatusResponsePayload :=
  if buffer.length < 14 then .error .bufferTooShort
  else do
    let _ ← PRFlag.tryFrom (buffer.getD 1 0 >>> 3)
    let nmtState ← NmtState.tryFrom (buffer.getD 2 0)
    .ok ⟨nmtState⟩

/-! ### What goes on the wire -/

/-- The message type octet of a sent frame. -/
def NodeAction.frameType : NodeAction → Option UInt8
  | sendFrame bytes => bytes[14]?
  | _ => none

/-- The destination octet of a sent frame. -/
def NodeAction.frameDestination : NodeAction → Option UInt8
  | sendFrame bytes => bytes[15]?
  | _ => none

/-- The message type of a frame. -/
def PowerlinkFrame.messageType : PowerlinkFrame → MessageType
  | soc _ => .soC
  | pReq _ => .pReq
  | pRes _ => .pRes
  | soA _ => .soA
  | aSnd _ => .aSnd

/-- The destination of a frame. -/
def PowerlinkFrame.destination : PowerlinkFrame → NodeId
  | soc frame => frame.destination
  | pReq frame => frame.destination
  | pRes frame => frame.destination
  | soA frame => frame.destination
  | aSnd frame => frame.destination

/-- Nothing, a UDP datagram or an ASnd frame. -/
def NodeAction.IsAsync (action : NodeAction) : Prop :=
  action.frameType = none ∨ action.frameType = some MessageType.aSnd.toByte

@[simp] theorem EthernetHeader.length_bytes (header : EthernetHeader) :
    header.bytes.length = 14 := rfl

/-- Behind the Ethernet header. -/
theorem EthernetHeader.getElem?_bytes_append (header : EthernetHeader) (octets : List UInt8)
    (i : ℕ) : (header.bytes ++ octets)[14 + i]? = octets[i]? := by
  rw [List.getElem?_append_right (by simp)]
  simp

/-- A frame starts with its message type and its destination. -/
theorem PowerlinkFrame.bytes_eq (frame : PowerlinkFrame) :
    ∃ rest, frame.bytes = frame.messageType.toByte :: frame.destination.id :: rest := by
  cases frame <;> exact ⟨_, rfl⟩

/-- The octets of a sent frame: the Ethernet header, the frame and zeros. -/
theorem sendFrame_eq {isCn : Bool} {frame : PowerlinkFrame} {bytes : List UInt8}
    (h : serializeFrameAction isCn frame = .ok (.sendFrame bytes)) :
    ∃ n, bytes = frame.ethernetHeader.bytes ++ (frame.bytes ++ List.replicate n 0) := by
  unfold serializeFrameAction PowerlinkFrame.serialize at h
  split_ifs at h
  · cases h
  · cases h
  · obtain rfl := NodeAction.sendFrame.inj (Except.ok.inj h)
    refine ⟨46 - frame.bytes.length +
      (60 - (frame.ethernetHeader.bytes ++ padPayload frame.bytes).length), ?_⟩
    rw [List.replicate_add, padPayload]
    simp only [List.append_assoc]

/-- What a sent frame says about the frame that was built. -/
theorem sent_of_serializeFrameAction {isCn : Bool} {frame : PowerlinkFrame} {bytes : List UInt8}
    (h : serializeFrameAction isCn frame = .ok (.sendFrame bytes)) :
    frame.isRefused isCn = false ∧
      (NodeAction.sendFrame bytes).frameType = some frame.messageType.toByte ∧
      (NodeAction.sendFrame bytes).frameDestination = some frame.destination.id := by
  obtain ⟨rest, hbytes⟩ := frame.bytes_eq
  unfold serializeFrameAction at h
  split_ifs at h with hrefused
  · cases h
  · unfold PowerlinkFrame.serialize at h
    split_ifs at h with hlen
    · cases h
    · obtain rfl := NodeAction.sendFrame.inj (Except.ok.inj h)
      refine ⟨by simpa using hrefused, ?_, ?_⟩
      · unfold NodeAction.frameType
        simp only [List.append_assoc, frame.ethernetHeader.getElem?_bytes_append _ 0]
        simp [padPayload, hbytes]
      · unfold NodeAction.frameDestination
        simp only [List.append_assoc, frame.ethernetHeader.getElem?_bytes_append _ 1]
        simp [padPayload, hbytes]

/-- A frame that fits into the buffer and is not refused goes on the wire. -/
theorem exists_serializeFrameAction {isCn : Bool} {frame : PowerlinkFrame}
    (hrefused : frame.isRefused isCn = false) (hlen : frame.bytes.length ≤ 1504) :
    ∃ bytes, serializeFrameAction isCn frame = .ok (.sendFrame bytes) := by
  have hpad : (padPayload frame.bytes).length ≤ 1504 := by
    rw [padPayload, List.length_append, List.length_replicate]
    omega
  unfold serializeFrameAction PowerlinkFrame.serialize
  rw [if_neg (by rw [hrefused]; exact Bool.false_ne_true), if_neg (by omega)]
  exact ⟨_, rfl⟩

/-- The message type of a serialized frame. -/
theorem frameType_of_serializeFrameAction {isCn : Bool} {frame : PowerlinkFrame}
    {action : NodeAction} (h : serializeFrameAction isCn frame = .ok action) :
    action.frameType = none ∨ action.frameType = some frame.messageType.toByte := by
  cases action with
  | sendFrame bytes => exact .inr (sent_of_serializeFrameAction h).2.1
  | sendUdp ip port data => exact .inl rfl
  | noAction => exact .inl rfl

theorem isAsync_of_serializeFrameAction {isCn : Bool} {frame : PowerlinkFrame}
    {action : NodeAction} (h : serializeFrameAction isCn frame = .ok action)
    (htype : frame.messageType = .aSnd) : action.IsAsync := by
  have hframe := frameType_of_serializeFrameAction h
  rwa [htype] at hframe

end Powerlink
