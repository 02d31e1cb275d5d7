import Powerlink.Cn.State
import Powerlink.Frame.Codec

/-! # The frames of a controlled node

The model of `node/cn/payload.rs` with the service payloads that a controlled node fills
(`frame/control/ident_response.rs`, `frame/control/status_response.rs`). -/

namespace Powerlink

open LittleEndian

variable {σ : Type}

/-! ### The IdentResponse -/

/-- `IdentResponsePayload` with all its fields; an address is the value whose little-endian octets
it is. -/
structure IdentResponse where
  pr : PRFlag
  rs : RSFlag
  nmtState : NmtState
  eplVersion : EPLVersion
  featureFlags : UInt32
  mtu : UInt16
  pollInSize : UInt16
  pollOutSize : UInt16
  responseTime : UInt32
  deviceType : UInt32
  vendorId : UInt32
  productCode : UInt32
  revisionNumber : UInt32
  serialNumber : UInt32
  verifyConfDate : UInt32
  verifyConfTime : UInt32
  appSwDate : UInt32
  appSwTime : UInt32
  ipAddress : UInt32
  subnetMask : UInt32
  defaultGateway : UInt32
  hostName : String
deriving DecidableEq, Repr

/-- The NMT state that the dictionary shows. -/
def publishedNmtState (od : ObjectDictionary σ) : NmtState :=
  match od.readU8 0x1F8C 0 with
  | some value =>
      match NmtState.tryFrom value with
      | .ok state => state
      | .error _ => .nmtNotActive
  | none => .nmtNotActive

namespace IdentResponse

/-- `IdentResponsePayload::new`. -/
def new (od : ObjectDictionary σ) : IdentResponse where
  pr := .prioGenericRequest
  rs := ⟨0⟩
  nmtState := publishedNmtState od
  eplVersion := ⟨(od.readU8 0x1F83 0).getD 0⟩
  featureFlags := (od.readU32 0x1F82 0).getD 0
  mtu := (od.readU16 0x1F98 8).getD 0
  pollInSize := (od.readU16 0x1F98 4).getD 0
  pollOutSize := (od.readU16 0x1F98 5).getD 0
  responseTime := (od.readU32 0x1F98 3).getD 0
  deviceType := (od.readU32 0x1000 0).getD 0
  vendorId := (od.readU32 0x1018 1).getD 0
  productCode := (od.readU32 0x1018 2).getD 0
  revisionNumber := (od.readU32 0x1018 3).getD 0
  serialNumber := (od.readU32 0x1018 4).getD 0
  verifyConfDate := (od.readU32 0x1020 1).getD 0
  verifyConfTime := (od.readU32 0x1020 2).getD 0
  appSwDate := (od.readU32 0x1F52 1).getD 0
  appSwTime := (od.readU32 0x1F52 2).getD 0
  ipAddress := (od.readU32 0x1E40 2).getD 0
  subnetMask := (od.readU32 0x1E40 3).getD 0
  defaultGateway := (od.readU32 0x1E40 5).getD 0
  hostName := match od.read 0x1F9A 0 with
    | some (.visibleString s) => s
    | _ => ""

/-- `IdentResponsePayload::serialize` into a buffer that is long enough. -/
def serialize (p : IdentResponse) : List UInt8 :=
  let hostName := p.hostName.toByteArray.data.toList.take 32
  let flags : List UInt8 :=
    [0, (p.pr.toByte <<< 3) ||| p.rs.value, p.nmtState.toByte, 0, p.eplVersion.version, 0]
  flags ++
    u32Bytes p.featureFlags ++ u16Bytes p.mtu ++ u16Bytes p.pollInSize ++
    u16Bytes p.pollOutSize ++ u32Bytes p.responseTime ++ [0, 0] ++ u32Bytes p.deviceType ++
    u32Bytes p.vendorId ++ u32Bytes p.productCode ++ u32Bytes p.revisionNumber ++
    u32Bytes p.serialNumber ++ List.replicate 8 0 ++ u32Bytes p.verifyConfDate ++
    u32Bytes p.verifyConfTime ++ u32Bytes p.appSwDate ++ u32Bytes p.appSwTime ++
    u32Bytes p.ipAddress ++ u32Bytes p.subnetMask ++ u32Bytes p.defaultGateway ++
    hostName ++ List.replicate (32 - hostName.length) 0 ++ List.replicate 48 0

end IdentResponse

/-! ### The StatusResponse -/

/-- `StatusResponsePayload` with all its fields; the static error bit field is the error register
followed by seven zeros. -/
structure StatusResponse where
  enFlag : Bool
  ecFlag : Bool
  pr : PRFlag
  rs : RSFlag
  nmtState : NmtState
  errorRegister : UInt8
  errorEntries : List ErrorEntry
deriving DecidableEq, Repr

/-- `StatusResponsePayload::serialize` into a buffer of the given length: the octets written, which
end with the terminator entry. -/
def StatusResponse.serialize (p : StatusResponse) (bufferLen : ℕ) :
    Except PowerlinkError (List UInt8) :=
  if bufferLen < 14 + p.errorEntries.length * 20 + 20 then .error .bufferTooShort
  else .ok
    ([flagBit p.enFlag 5 ||| flagBit p.ecFlag 4, (p.pr.toByte <<< 3) ||| p.rs.value,
        p.nmtState.toByte, 0, 0, 0, p.errorRegister] ++ List.replicate 7 0 ++
      p.errorEntries.flatMap ErrorEntry.serialize ++ List.replicate 20 0)

namespace CnContext

/-! ### The frames -/

/-- The RS and PR flags: pending NMT requests come before SDO requests. -/
def requestFlags (c : CnContext σ) : UInt8 × PRFlag :=
  if c.pendingNmtRequests.isEmpty then c.sdoClient.pendingRequestCountAndPriority
  else (UInt8.ofNat (min c.pendingNmtRequests.length 7), .prioNmtRequest)

/-- An ASnd frame to the managing node that has sent a SoA. -/
def asndTo (c : CnContext σ) (soa : SoAFrame) (serviceId : ServiceId) (payload : List UInt8) :
    PowerlinkFrame :=
  .aSnd (.new c.core.macAddress soa.ethHeader.sourceMac cAdrMnDefNodeId c.nodeId serviceId payload)

/-- `build_ident_response`. -/
def buildIdentResponse (c : CnContext σ) (soa : SoAFrame) : PowerlinkFrame :=
  let payload := { IdentResponse.new c.core.od with
    pr := c.requestFlags.2, rs := .new c.requestFlags.1 }
  c.asndTo soa .identResponse payload.serialize

/-- The payload of `build_status_response`; where even the terminator does not fit, the zeroed
buffer is sent as it is. -/
def statusPayload (p : StatusResponse) (maxPayloadSize : ℕ) : List UInt8 :=
  match p.serialize maxPayloadSize with
  | .ok payload => payload
  | .error _ =>
      match { p with errorEntries := [] }.serialize (min maxPayloadSize 34) with
      | .ok payload => payload
      | .error _ => List.replicate (min maxPayloadSize 34) 0

/-- `build_status_response`: the entries of the emergency queue that fit are taken. -/
def buildStatusResponse (c : CnContext σ) (soa : SoAFrame) : PowerlinkFrame × CnContext σ :=
  let nmtState := publishedNmtState c.core.od
  let errorRegister := (c.core.od.readU8 0x1001 0).getD 0
  let maxPayloadSize := ((c.core.od.readU16 0x1F98 8).getD 300).toNat - 4
  let maxEntries := (maxPayloadSize - (14 + 20)) / 20
  let entries := c.emergencyQueue.take maxEntries
  let c := { c with emergencyQueue := c.emergencyQueue.drop maxEntries }
  let c := if entries.isEmpty then c else c.countError 2
  let payload : StatusResponse :=
    { enFlag := c.enFlag
      ecFlag := c.ecFlag
      pr := c.requestFlags.2
      rs := .new c.requestFlags.1
      nmtState := nmtState
      errorRegister := errorRegister
      errorEntries := entries }
  (c.asndTo soa .statusResponse (statusPayload payload maxPayloadSize), c)

/-- `build_nmt_request`. -/
def buildNmtRequest (c : CnContext σ) (commandId : UInt8) (target : NodeId) (soa : SoAFrame) :
    PowerlinkFrame :=
  c.asndTo soa .nmtRequest [commandId, target.id]

/-- `build_pres_response`; a TPDO that cannot be built leaves an empty payload without RD. -/
def buildPresResponse (c : CnContext σ) : Option (PowerlinkFrame × CnContext σ) := do
  let (tpdo, core) ← buildTpdoPayload c.core
  let c := { c with core := core }
  let (payload, pdoVersion, payloadIsValid) := match tpdo with
    | .ok (payload, version) => (payload, version, true)
    | .error _ => (List.replicate (presPayloadLimit c.core.od) 0, ⟨0⟩, false)
  let flags : PResFlags :=
    { ms := false
      en := c.enFlag
      rd := decide (c.nmtState = .nmtOperational) && payloadIsValid
      pr := c.requestFlags.2
      rs := .new c.requestFlags.1 }
  some (.pRes (.new c.core.macAddress c.nodeId c.nmtState flags pdoVersion payload), c)

/-- The end of `process_frame`: the response frame becomes the action. -/
def respond (frame : PowerlinkFrame) : NodeAction :=
  match serializeFrameAction true frame with
  | .ok action => action
  | .error _ => .noAction

end CnContext

end Powerlink
