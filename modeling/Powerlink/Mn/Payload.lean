import Powerlink.Mn.State

/-! # The frames a managing node builds

The model of `node/mn/payload.rs`.  Where a PReq or an NMT command cannot be built, because the
MAC address of the node is unknown or its TPDO mapping does not fit, the builders return
`dummySoc`, a SoC with zero times, as the source does.  `buildPreqFrame_spec` and
`buildNmtCommandFrame_spec` say when that happens. -/

namespace Powerlink

open LittleEndian

namespace MnContext

variable {σ : Type}

/-- `scheduler::get_cn_mac_address`. -/
def getCnMacAddress (c : MnContext σ) (nodeId : NodeId) : Option MacAddress :=
  c.arpCache.get? (ipFromNodeId nodeId)

/-- The time of the cycle start as a `NetTime`. -/
def cycleNetTime (c : MnContext σ) : NetTime where
  seconds := UInt32.ofNat (c.currentCycleStartTimeUs / 1000000)
  nanoseconds := UInt32.ofNat (c.currentCycleStartTimeUs % 1000000 * 1000)

/-- `build_soc_frame`. -/
def buildSocFrame (c : MnContext σ) (currentMultiplexCycle multiplexCycleLen : UInt8) :
    PowerlinkFrame :=
  .soc (.new c.core.macAddress
    { mc := decide (0 < multiplexCycleLen) && decide (currentMultiplexCycle = 0), ps := false }
    c.cycleNetTime ⟨0, 0⟩)

/-- The frame that the builders return when they fail. -/
def dummySoc (c : MnContext σ) : PowerlinkFrame := .soc (.new c.core.macAddress {} ⟨0, 0⟩ ⟨0, 0⟩)

/-! ### PReq -/

/-- The first TPDO channel configured for a node. -/
def findTpdoChannel (c : MnContext σ) (targetNodeId : NodeId) : Option UInt8 :=
  ((List.range 256).find? (fun i =>
    decide (c.core.od.readU8 (0x1800 + UInt16.ofNat i) 1 = some targetNodeId.id))).map UInt8.ofNat

/-- The payload of a PReq: empty without a channel. -/
def preqPayload (c : MnContext σ) (targetNodeId : NodeId) :
    Except PowerlinkError (List UInt8 × PDOVersion) × CoreNodeContext σ :=
  match c.findTpdoChannel targetNodeId with
  | none => (.ok ([], ⟨0⟩), c.core)
  | some channel => buildTpdoPayload c.core channel

/-- `build_preq_frame`. -/
def buildPreqFrame (c : MnContext σ) (targetNodeId : NodeId) (isMultiplexed : Bool) :
    PowerlinkFrame × MnContext σ :=
  match c.getCnMacAddress targetNodeId with
  | none => (c.dummySoc, c)
  | some destMac =>
      let c' := { c with core := (c.preqPayload targetNodeId).2 }
      match (c.preqPayload targetNodeId).1 with
      | .error _ => (c.dummySoc, c')
      | .ok (payload, pdoVersion) =>
          let flags : PReqFlags :=
            { rd := decide (c.nmtState = .nmtOperational)
              ms := isMultiplexed
              ea := match c.nodeInfo.get? targetNodeId with
                | some info => info.eaFlag
                | none => false }
          (.pReq (.new c.core.macAddress destMac targetNodeId flags pdoVersion payload), c')

/-- A PReq for the node can be built. -/
def canPoll (c : MnContext σ) (nodeId : NodeId) : Bool :=
  (c.getCnMacAddress nodeId).isSome && (c.preqPayload nodeId).1.isOk

/-! ### SoA and ASnd -/

/-- `build_soa_frame`. -/
def buildSoaFrame (c : MnContext σ) (reqService : RequestedServiceId) (targetNode : NodeId)
    (setErFlag : Bool) : PowerlinkFrame :=
  .soA (.new c.core.macAddress c.nmtState { er := setErFlag } reqService targetNode
    ⟨(c.core.od.readU8 0x1F83 0).getD 0x15⟩)

/-- The payload of an NMT command. -/
def nmtCommandPayload (command : MnNmtCommandRequest) : NmtCommandData → List UInt8
  | .none => [command.asU8, 0]
  | .hostName name =>
      let hostName := name.toByteArray.data.toList.take 32
      [command.asU8, 0] ++ hostName ++ List.replicate (32 - hostName.length) 0
  | .flushArp nodeId => [command.asU8, 0, nodeId.id]

/-- `build_nmt_command_frame`. -/
def buildNmtCommandFrame (c : MnContext σ) (command : MnNmtCommandRequest)
    (targetNodeId : NodeId) (commandData : NmtCommandData) : PowerlinkFrame :=
  let destMac :=
    if targetNodeId = cAdrBroadcastNodeId then some cDllMulticastAsnd
    else c.getCnMacAddress targetNodeId
  match destMac with
  | none => c.dummySoc
  | some destMac =>
      .aSnd (.new c.core.macAddress destMac targetNodeId cAdrMnDefNodeId .nmtCommand
        (nmtCommandPayload command commandData))

/-- An NMT command for the node can be built. -/
def canCommand (c : MnContext σ) (nodeId : NodeId) : Bool :=
  decide (nodeId = cAdrBroadcastNodeId) || (c.getCnMacAddress nodeId).isSome

/-- `build_node_state_payload`. -/
def buildNodeStatePayload (c : MnContext σ) : List UInt8 :=
  c.nodeInfo.entries.foldl (fun payload p =>
    let idx := (p.1.id - 1).toNat
    if idx < payload.length then payload.set idx p.2.nmtState.toByte else payload)
    (List.replicate 239 0)

/-- The bit of a node in a node list. -/
def setNodeBit (payload : List UInt8) (nodeId : UInt8) : List UInt8 :=
  if nodeId = 0 ∨ 254 < nodeId then payload
  else
    let index := (nodeId - 1).toNat / 8
    match payload[index]? with
    | some byte => payload.set index (byte ||| (1 <<< ((nodeId - 1) % 8)))
    | none => payload

/-- `build_node_list_payload`. -/
def buildNodeListPayload (c : MnContext σ) (filter : CnInfo → Bool) : List UInt8 :=
  let payload := c.nodeInfo.entries.foldl
    (fun payload p => if filter p.2 then setNodeBit payload p.1.id else payload)
    (List.replicate 32 0)
  if .nmtPreOperational1 ≤ c.nmtState ∧ filter { state := .operational } then
    setNodeBit payload c.nmtStateMachine.nodeId.id
  else payload

/-- The payload of an NMT info service. -/
def nmtInfoPayload (c : MnContext σ) : ServiceId → List UInt8
  | .nmtPublishTime => u32Bytes c.cycleNetTime.seconds ++ u32Bytes c.cycleNetTime.nanoseconds
  | .nmtPublishNmtState => [c.nmtState.toByte]
  | .nmtPublishNodeState => c.buildNodeStatePayload
  | .nmtPublishNodeList => c.buildNodeListPayload (fun info => decide (.identified ≤ info.state))
  | .nmtPublishActiveNodes =>
      c.buildNodeListPayload (fun info => decide (info.state = .operational))
  | .nmtPublishEmergNew => c.buildNodeListPayload CnInfo.enFlag
  | .nmtPublishHeartbeat => List.replicate 32 0
  | _ => []

/-- `build_nmt_info_frame`. -/
def buildNmtInfoFrame (c : MnContext σ) (serviceId : ServiceId) : PowerlinkFrame :=
  .aSnd (.new c.core.macAddress cDllMulticastAsnd cAdrBroadcastNodeId cAdrMnDefNodeId serviceId
    (c.nmtInfoPayload serviceId))

/-- `build_sdo_asnd_request`. -/
def buildSdoAsndRequest (c : MnContext σ) (targetNodeId : NodeId)
    (seqHeader : SequenceLayerHeader) (cmd : SdoCommand) : Except PowerlinkError PowerlinkFrame :=
  match c.getCnMacAddress targetNodeId with
  | none => .error (.internalError "Missing CN MAC address")
  | some destMac => do
      let sdoPayload ← serializeSdoAsndPayload seqHeader cmd
      .ok (.aSnd (.new c.core.macAddress destMac targetNodeId cAdrMnDefNodeId .sdo sdoPayload))

/-- `serialize_frame_action(frame, context).unwrap_or(NoAction)`. -/
def send (frame : PowerlinkFrame) : NodeAction :=
  match serializeFrameAction false frame with
  | .ok action => action
  | .error _ => .noAction

/-- What is sent has the type of the frame. -/
theorem frameType_send (frame : PowerlinkFrame) :
    (send frame).frameType = none ∨ (send frame).frameType = some frame.messageType.toByte := by
  unfold send
  split
  · rename_i action h
    exact frameType_of_serializeFrameAction h
  · exact .inl rfl

/-- A frame that fits into the buffer is sent. -/
theorem send_of_length_le {frame : PowerlinkFrame} (hrefused : frame.isRefused false = false)
    (hlen : frame.bytes.length ≤ 1504) :
    (send frame).frameType = some frame.messageType.toByte ∧
      (send frame).frameDestination = some frame.destination.id := by
  obtain ⟨bytes, h⟩ := exists_serializeFrameAction hrefused hlen
  have hsend : send frame = .sendFrame bytes := by
    unfold send
    rw [h]
  rw [hsend]
  exact (sent_of_serializeFrameAction h).2

theorem isAsync_send {frame : PowerlinkFrame} (htype : frame.messageType = .aSnd) :
    (send frame).IsAsync := by
  have hframe := frameType_send frame
  rwa [htype] at hframe

theorem buildSdoAsndRequest_type {c : MnContext σ} {nodeId : NodeId}
    {seqHeader : SequenceLayerHeader} {cmd : SdoCommand} {frame : PowerlinkFrame}
    (h : c.buildSdoAsndRequest nodeId seqHeader cmd = .ok frame) : frame.messageType = .aSnd := by
  unfold buildSdoAsndRequest at h
  split at h
  · cases h
  · cases hp : serializeSdoAsndPayload seqHeader cmd with
    | error e =>
        rw [hp] at h
        cases h
    | ok payload =>
        rw [hp] at h
        obtain rfl := Except.ok.inj h
        rfl

/-! ### When a frame can be built -/

/-- A payload of a PReq fits into a frame. -/
theorem length_preqPayload {c : MnContext σ} {nodeId : NodeId} {payload : List UInt8}
    {version : PDOVersion} (h : (c.preqPayload nodeId).1 = .ok (payload, version)) :
    payload.length ≤ 1490 := by
  unfold preqPayload at h
  split at h
  · obtain ⟨rfl, -⟩ := Prod.mk.inj (Except.ok.inj h)
    exact Nat.zero_le _
  · exact length_buildTpdoPayload (Prod.ext h rfl)

/-- `build_preq_frame` only touches the dictionary and the SDO containers.  It returns a PReq that
fits into a frame when the node can be polled, and the dummy SoC otherwise. -/
theorem buildPreqFrame_spec (c : MnContext σ) (nodeId : NodeId) (isMultiplexed : Bool) :
    (∃ core, (c.buildPreqFrame nodeId isMultiplexed).2 = { c with core := core }) ∧
    if c.canPoll nodeId then
      ∃ preq, (c.buildPreqFrame nodeId isMultiplexed).1 = .pReq preq ∧
        preq.destination = nodeId ∧ preq.payload.length ≤ 1490
    else (c.buildPreqFrame nodeId isMultiplexed).1 = c.dummySoc := by
  unfold buildPreqFrame canPoll
  cases hmac : c.getCnMacAddress nodeId with
  | none => exact ⟨⟨c.core, rfl⟩, rfl⟩
  | some mac =>
      cases hpayload : (c.preqPayload nodeId).1 with
      | error e => exact ⟨⟨_, rfl⟩, rfl⟩
      | ok r => exact ⟨⟨_, rfl⟩, _, rfl, rfl, length_preqPayload hpayload⟩

/-- `build_nmt_command_frame` returns an ASnd when the node can be commanded, and the dummy SoC
otherwise. -/
theorem buildNmtCommandFrame_spec (c : MnContext σ) (command : MnNmtCommandRequest)
    (nodeId : NodeId) (data : NmtCommandData) :
    if c.canCommand nodeId then
      (c.buildNmtCommandFrame command nodeId data).messageType = .aSnd
    else c.buildNmtCommandFrame command nodeId data = c.dummySoc := by
  unfold buildNmtCommandFrame canCommand
  by_cases hid : nodeId = cAdrBroadcastNodeId
  · simp [hid, PowerlinkFrame.messageType]
  · cases hmac : c.getCnMacAddress nodeId with
    | none => simp [hid]
    | some mac => simp [hid, PowerlinkFrame.messageType]

theorem length_foldl {α : Type} {f : List UInt8 → α → List UInt8}
    (hf : ∀ payload a, (f payload a).length = payload.length) :
    ∀ (l : List α) (payload : List UInt8), (l.foldl f payload).length = payload.length
  | [], _ => rfl
  | a :: l, payload => by rw [List.foldl_cons, length_foldl hf l, hf]

theorem length_setNodeBit (payload : List UInt8) (nodeId : UInt8) :
    (setNodeBit payload nodeId).length = payload.length := by
  dsimp only [setNodeBit]
  split_ifs
  · rfl
  · split
    · exact List.length_set
    · rfl

theorem length_buildNodeStatePayload (c : MnContext σ) : c.buildNodeStatePayload.length = 239 := by
  unfold buildNodeStatePayload
  rw [length_foldl, List.length_replicate]
  intro payload p
  dsimp only
  split_ifs
  · exact List.length_set
  · rfl

theorem length_buildNodeListPayload (c : MnContext σ) (filter : CnInfo → Bool) :
    (c.buildNodeListPayload filter).length = 32 := by
  have hlist : (c.nodeInfo.entries.foldl
      (fun payload p => if filter p.2 then setNodeBit payload p.1.id else payload)
      (List.replicate 32 0)).length = 32 := by
    rw [length_foldl, List.length_replicate]
    intro payload p
    split_ifs
    · exact length_setNodeBit _ _
    · rfl
  dsimp only [buildNodeListPayload]
  split_ifs
  · rw [length_setNodeBit, hlist]
  · exact hlist

/-- The payload of an NMT info service is short. -/
theorem length_nmtInfoPayload (c : MnContext σ) (serviceId : ServiceId) :
    (c.nmtInfoPayload serviceId).length ≤ 239 := by
  unfold nmtInfoPayload
  split
  · simp [u32Bytes]
  · simp
  · rw [length_buildNodeStatePayload]
  · rw [length_buildNodeListPayload]
    omega
  · rw [length_buildNodeListPayload]
    omega
  · rw [length_buildNodeListPayload]
    omega
  · simp
  · simp

/-- The frames that end the isochronous phase are sent. -/
theorem send_buildNmtInfoFrame (c : MnContext σ) (serviceId : ServiceId) :
    (send (c.buildNmtInfoFrame serviceId)).frameType = some MessageType.aSnd.toByte ∧
      (send (c.buildNmtInfoFrame serviceId)).frameDestination = some cAdrBroadcastNodeId.id := by
  apply send_of_length_le rfl
  have hlen := c.length_nmtInfoPayload serviceId
  show ([_, _, _, _] ++ c.nmtInfoPayload serviceId).length ≤ 1504
  rw [List.length_append]
  simp only [List.length_cons, List.length_nil]
  omega

theorem send_buildSoaFrame (c : MnContext σ) (service : RequestedServiceId) (nodeId : NodeId)
    (er : Bool) :
    (send (c.buildSoaFrame service nodeId er)).frameType = some MessageType.soA.toByte ∧
      (send (c.buildSoaFrame service nodeId er)).frameDestination =
        some cAdrBroadcastNodeId.id := by
  apply send_of_length_le rfl
  show 9 ≤ 1504
  decide

theorem send_pReq {preq : PReqFrame} (hlen : preq.payload.length ≤ 1490) :
    (send (.pReq preq)).frameType = some MessageType.pReq.toByte ∧
      (send (.pReq preq)).frameDestination = some preq.destination.id := by
  apply send_of_length_le rfl
  show ([_, _, _, _, _, _, _, _] ++ u16Bytes preq.payloadSize ++ preq.payload).length ≤ 1504
  simp only [List.length_append, List.length_cons, List.length_nil, length_u16Bytes]
  omega

theorem send_soc (soc : SocFrame) :
    (send (.soc soc)).frameType = some MessageType.soC.toByte := by
  have hlen : (PowerlinkFrame.soc soc).bytes.length ≤ 1504 := by
    show 22 ≤ 1504
    decide
  exact (send_of_length_le rfl hlen).1

end MnContext

end Powerlink
