import Powerlink.Nmt.States

/-! # POWERLINK frames

The frame types of `frame/basic.rs`, `frame/control` and `frame/poll` with the values of their
fields and their constructors.  The field `message_type` of the source is
the constructor of `PowerlinkFrame` here: `new` and `deserialize` of each frame type fix it. -/

namespace Powerlink

/-! ### Addresses and message types -/

/-- `C_DLL_ETHERTYPE_EPL`. -/
def cDllEthertypeEpl : UInt16 := 0x88AB

/-- `C_ADR_MN_DEF_NODE_ID`. -/
def cAdrMnDefNodeId : NodeId := ⟨240⟩

/-- `C_ADR_BROADCAST_NODE_ID`. -/
def cAdrBroadcastNodeId : NodeId := ⟨255⟩

/-- `C_DLL_MULTICAST_SOC`. -/
def cDllMulticastSoc : MacAddress := ⟨0x01, 0x11, 0x1E, 0x00, 0x00, 0x01⟩

/-- `C_DLL_MULTICAST_PRES`. -/
def cDllMulticastPres : MacAddress := ⟨0x01, 0x11, 0x1E, 0x00, 0x00, 0x02⟩

/-- `C_DLL_MULTICAST_SOA`. -/
def cDllMulticastSoa : MacAddress := ⟨0x01, 0x11, 0x1E, 0x00, 0x00, 0x03⟩

/-- `C_DLL_MULTICAST_ASND`. -/
def cDllMulticastAsnd : MacAddress := ⟨0x01, 0x11, 0x1E, 0x00, 0x00, 0x04⟩

/-- `NodeId::try_from`. -/
def NodeId.tryFrom (value : UInt8) : Except PowerlinkError NodeId :=
  if (1 ≤ value ∧ value ≤ 240) ∨ value = 253 ∨ value = 254 ∨ value = 255 then .ok ⟨value⟩
  else .error (.invalidNodeId value)

/-- `MessageType`. -/
inductive MessageType where
  | soC
  | pReq
  | pRes
  | soA
  | aSnd
deriving DecidableEq, Repr

/-- `MessageType as u8`. -/
def MessageType.toByte : MessageType → UInt8
  | soC => 0x01
  | pReq => 0x03
  | pRes => 0x04
  | soA => 0x05
  | aSnd => 0x06

/-- `MessageType::try_from`; the error is the one it is converted to. -/
def MessageType.tryFrom (value : UInt8) : Except PowerlinkError MessageType :=
  if value = 0x01 then .ok soC
  else if value = 0x03 then .ok pReq
  else if value = 0x04 then .ok pRes
  else if value = 0x05 then .ok soA
  else if value = 0x06 then .ok aSnd
  else .error .invalidEnumValue

/-- `EthernetHeader`. -/
structure EthernetHeader where
  destinationMac : MacAddress
  sourceMac : MacAddress
  etherType : UInt16
deriving DecidableEq, Repr

/-- `EthernetHeader::new`. -/
def EthernetHeader.new (dest src : MacAddress) : EthernetHeader := ⟨dest, src, cDllEthertypeEpl⟩

/-- `EthernetHeader::is_powerlink`. -/
def EthernetHeader.isPowerlink (header : EthernetHeader) : Bool :=
  decide (header.etherType = cDllEthertypeEpl)

/-! ### Service identifiers and flags -/

/-- `RequestedServiceId`. -/
inductive RequestedServiceId where
  | noService
  | identRequest
  | statusRequest
  | nmtRequestInvite
  | unspecifiedInvite
deriving DecidableEq, Repr

/-- `RequestedServiceId as u8`. -/
def RequestedServiceId.toByte : RequestedServiceId → UInt8
  | noService => 0x00
  | identRequest => 0x01
  | statusRequest => 0x02
  | nmtRequestInvite => 0x03
  | unspecifiedInvite => 0xFF

/-- `RequestedServiceId::try_from`. -/
def RequestedServiceId.tryFrom (value : UInt8) : Except PowerlinkError RequestedServiceId :=
  if value = 0x00 then .ok noService
  else if value = 0x01 then .ok identRequest
  else if value = 0x02 then .ok statusRequest
  else if value = 0x03 then .ok nmtRequestInvite
  else if value = 0xFF then .ok unspecifiedInvite
  else .error (.invalidRequestedServiceId value)

/-- `ServiceId`. -/
inductive ServiceId where
  | identResponse
  | statusResponse
  | nmtRequest
  | nmtCommand
  | sdo
  | nmtPublishTime
  | nmtPublishNmtState
  | nmtPublishNodeState
  | nmtPublishNodeList
  | nmtPublishEmergNew
  | nmtPublishHeartbeat
  | nmtPublishActiveNodes
deriving DecidableEq, Repr

/-- `ServiceId as u8`. -/
def ServiceId.toByte : ServiceId → UInt8
  | identResponse => 0x01
  | statusResponse => 0x02
  | nmtRequest => 0x03
  | nmtCommand => 0x04
  | sdo => 0x05
  | nmtPublishTime => 0x0B
  | nmtPublishNmtState => 0x0D
  | nmtPublishNodeState => 0x0E
  | nmtPublishNodeList => 0x0F
  | nmtPublishEmergNew => 0x10
  | nmtPublishHeartbeat => 0x11
  | nmtPublishActiveNodes => 0x12

/-- `ServiceId::try_from`. -/
def ServiceId.tryFrom (value : UInt8) : Except PowerlinkError ServiceId :=
  if value = 0x01 then .ok identResponse
  else if value = 0x02 then .ok statusResponse
  else if value = 0x03 then .ok nmtRequest
  else if value = 0x04 then .ok nmtCommand
  else if value = 0x05 then .ok sdo
  else if value = 0x0B then .ok nmtPublishTime
  else if value = 0x0D then .ok nmtPublishNmtState
  else if value = 0x0E then .ok nmtPublishNodeState
  else if value = 0x0F then .ok nmtPublishNodeList
  else if value = 0x10 then .ok nmtPublishEmergNew
  else if value = 0x11 then .ok nmtPublishHeartbeat
  else if value = 0x12 then .ok nmtPublishActiveNodes
  else .error (.invalidServiceId value)

/-- `PRFlag`. -/
inductive PRFlag where
  | low1
  | low2
  | low3
  | prioGenericRequest
  | high1
  | high2
  | high3
  | prioNmtRequest
deriving DecidableEq, Repr

/-- `PRFlag as u8`. -/
def PRFlag.toByte : PRFlag → UInt8
  | low1 => 0
  | low2 => 1
  | low3 => 2
  | prioGenericRequest => 3
  | high1 => 4
  | high2 => 5
  | high3 => 6
  | prioNmtRequest => 7

/-- `PRFlag::try_from`. -/
def PRFlag.tryFrom (value : UInt8) : Except PowerlinkError PRFlag :=
  let low := value &&& 7
  if low = 7 then .ok prioNmtRequest
  else if low = 6 then .ok high3
  else if low = 5 then .ok high2
  else if low = 4 then .ok high1
  else if low = 3 then .ok prioGenericRequest
  else if low = 2 then .ok low3
  else if low = 1 then .ok low2
  else if low = 0 then .ok low1
  else .error .invalidEnumValue

/-- `RSFlag`, a newtype of `u8`. -/
structure RSFlag where
  value : UInt8
deriving DecidableEq, Repr

/-- `RSFlag::new`. -/
def RSFlag.new (value : UInt8) : RSFlag := ⟨min value 7⟩

/-- `PDOVersion`, a newtype of `u8`. -/
structure PDOVersion where
  version : UInt8
deriving DecidableEq, Repr

/-- `EPLVersion`, a newtype of `u8`. -/
structure EPLVersion where
  version : UInt8
deriving DecidableEq, Repr

/-- `RelativeTime`. -/
structure RelativeTime where
  seconds : UInt32
  nanoseconds : UInt32
deriving DecidableEq, Repr

/-! ### The five frame types -/

/-- `SocFlags`, with the values of `SocFlags::default`. -/
structure SocFlags where
  mc : Bool := false
  ps : Bool := false
deriving DecidableEq, Repr

/-- `SocFrame`. -/
structure SocFrame where
  ethHeader : EthernetHeader
  destination : NodeId
  source : NodeId
  flags : SocFlags
  netTime : NetTime
  relativeTime : RelativeTime
deriving DecidableEq, Repr

/-- `SocFrame::new`. -/
def SocFrame.new (sourceMac : MacAddress) (flags : SocFlags) (netTime : NetTime)
    (relativeTime : RelativeTime) : SocFrame where
  ethHeader := .new cDllMulticastSoc sourceMac
  destination := cAdrBroadcastNodeId
  source := cAdrMnDefNodeId
  flags := flags
  netTime := netTime
  relativeTime := relativeTime

/-- `PReqFlags`. -/
structure PReqFlags where
  ms : Bool
  ea : Bool
  rd : Bool
deriving DecidableEq, Repr

/-- `PReqFrame`. -/
structure PReqFrame where
  ethHeader : EthernetHeader
  destination : NodeId
  source : NodeId
  flags : PReqFlags
  pdoVersion : PDOVersion
  payloadSize : UInt16
  payload : List UInt8
deriving DecidableEq, Repr

/-- `PReqFrame::new`. -/
def PReqFrame.new (sourceMac destMac : MacAddress) (targetNodeId : NodeId) (flags : PReqFlags)
    (pdoVersion : PDOVersion) (payload : List UInt8) : PReqFrame where
  ethHeader := .new destMac sourceMac
  destination := targetNodeId
  source := cAdrMnDefNodeId
  flags := flags
  pdoVersion := pdoVersion
  payloadSize := UInt16.ofNat payload.length
  payload := payload

/-- `PResFlags`. -/
structure PResFlags where
  ms : Bool
  en : Bool
  rd : Bool
  pr : PRFlag
  rs : RSFlag
deriving DecidableEq, Repr

/-- `PResFrame`. -/
structure PResFrame where
  ethHeader : EthernetHeader
  destination : NodeId
  source : NodeId
  nmtState : NmtState
  flags : PResFlags
  pdoVersion : PDOVersion
  payloadSize : UInt16
  payload : List UInt8
deriving DecidableEq, Repr

/-- `PResFrame::new`. -/
def PResFrame.new (sourceMac : MacAddress) (sourceNodeId : NodeId) (nmtState : NmtState)
    (flags : PResFlags) (pdoVersion : PDOVersion) (payload : List UInt8) : PResFrame where
  ethHeader := .new cDllMulticastPres sourceMac
  destination := cAdrBroadcastNodeId
  source := sourceNodeId
  nmtState := nmtState
  flags := flags
  pdoVersion := pdoVersion
  payloadSize := UInt16.ofNat payload.length
  payload := payload

/-- `SoAFlags`, with the values of `SoAFlags::default`. -/
structure SoAFlags where
  ea : Bool := false
  er : Bool := false
deriving DecidableEq, Repr

/-- `SoAFrame`. -/
structure SoAFrame where
  ethHeader : EthernetHeader
  destination : NodeId
  source : NodeId
  nmtState : NmtState
  flags : SoAFlags
  reqServiceId : RequestedServiceId
  targetNodeId : NodeId
  eplVersion : EPLVersion
deriving DecidableEq, Repr

/-- `SoAFrame::new`. -/
def SoAFrame.new (sourceMac : MacAddress) (nmtState : NmtState) (flags : SoAFlags)
    (requestedService : RequestedServiceId) (targetNodeId : NodeId) (eplVersion : EPLVersion) :
    SoAFrame where
  ethHeader := .new cDllMulticastSoa sourceMac
  destination := cAdrBroadcastNodeId
  source := cAdrMnDefNodeId
  nmtState := nmtState
  flags := flags
  reqServiceId := requestedService
  targetNodeId := targetNodeId
  eplVersion := eplVersion

/-- `ASndFrame`. -/
structure ASndFrame where
  ethHeader : EthernetHeader
  destination : NodeId
  source : NodeId
  serviceId : ServiceId
  payload : List UInt8
deriving DecidableEq, Repr

/-- `ASndFrame::new`. -/
def ASndFrame.new (sourceMac destMac : MacAddress) (targetNodeId sourceNodeId : NodeId)
    (serviceId : ServiceId) (payload : List UInt8) : ASndFrame where
  ethHeader := .new destMac sourceMac
  destination := targetNodeId
  source := sourceNodeId
  serviceId := serviceId
  payload := payload

/-- `PowerlinkFrame`. -/
inductive PowerlinkFrame where
  | soc (frame : SocFrame)
  | pReq (frame : PReqFrame)
  | pRes (frame : PResFrame)
  | soA (frame : SoAFrame)
  | aSnd (frame : ASndFrame)
deriving DecidableEq, Repr

namespace PowerlinkFrame

/-- `PowerlinkFrame::ethernet_header`. -/
def ethernetHeader : PowerlinkFrame → EthernetHeader
  | soc frame => frame.ethHeader
  | pReq frame => frame.ethHeader
  | pRes frame => frame.ethHeader
  | soA frame => frame.ethHeader
  | aSnd frame => frame.ethHeader

/-- `PowerlinkFrame::nmt_event`. -/
def nmtEvent : PowerlinkFrame → Option NmtEvent
  | soc _ => some .socReceived
  | soA _ => some .socSoAReceived
  | _ => none

end PowerlinkFrame

end Powerlink
