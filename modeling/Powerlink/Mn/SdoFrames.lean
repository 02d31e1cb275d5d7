import Powerlink.Mn.Publishing
import Powerlink.Sdo.Outgoing

/-! # SDO frames of a managing node

`NodeAction.Carries` says that a request can be decoded from the octets of a frame: an intact frame
carries its request (`carries_of_decoded`).  No request can be decoded from an SDO frame without
payload (`unread_of_bare`), nor from one whose payload is a command that fits into the buffer of
`serializeSdoAsndPayload` (`unread_of_misread`).  The managing node builds no other SDO frames. -/

namespace Powerlink

/-- The octets of the action are an SDO frame to the target of the request, from whose payload the
request is decoded. -/
def NodeAction.Carries (action : NodeAction) (request : ClientFrame) : Prop :=
  ∃ bytes, action = .sendFrame bytes ∧ bytes[14]? = some MessageType.aSnd.toByte ∧
    bytes[15]? = some request.1.id ∧ bytes[17]? = some ServiceId.sdo.toByte ∧
    SequenceLayerHeader.deserialize ((bytes.drop 18).take 4) = .ok request.2.1 ∧
    SdoCommand.deserialize ((bytes.drop 18).drop 4) = .ok request.2.2

/-- No request of a client can be decoded from the action. -/
def NodeAction.Unread (action : NodeAction) : Prop :=
  ∀ request : ClientFrame, SdoClientConnection.HandsOut request.2 → ¬ action.Carries request

theorem NodeAction.unread_noAction : noAction.Unread := by
  rintro request - ⟨bytes, haction, -⟩
  cases haction

theorem NodeAction.unread_sendUdp (ip : IpAddress) (port : UInt16) (data : List UInt8) :
    (sendUdp ip port data).Unread := by
  rintro request - ⟨bytes, haction, -⟩
  cases haction

/-- An SDO frame without payload. -/
def PowerlinkFrame.Bare (frame : PowerlinkFrame) : Prop :=
  ∀ f, frame = .aSnd f → f.serviceId = .sdo → f.payload = []

namespace MnContext

variable {σ : Type}

/-! ### Sent frames -/

theorem serialize_of_send {frame : PowerlinkFrame} {bytes : List UInt8}
    (h : send frame = .sendFrame bytes) :
    serializeFrameAction false frame = .ok (.sendFrame bytes) := by
  unfold send at h
  split at h
  · rename_i action hserialize
    rw [hserialize, h]
  · cases h

/-- What is decoded from a sent frame is decoded from its payload and the padding. -/
theorem payload_of_carries {frame : PowerlinkFrame} {request : ClientFrame}
    (h : (send frame).Carries request) : ∃ f n, frame = .aSnd f ∧ f.serviceId = .sdo ∧
      SequenceLayerHeader.deserialize ((f.payload ++ List.replicate n 0).take 4) =
        .ok request.2.1 ∧
      SdoCommand.deserialize ((f.payload ++ List.replicate n 0).drop 4) = .ok request.2.2 := by
  obtain ⟨bytes, haction, htype, -, hservice, hseq, hcmd⟩ := h
  have hread : (send frame).service = some ServiceId.sdo.toByte := by
    rw [haction]
    exact (if_pos htype).trans hservice
  obtain hnone | ⟨f, rfl, hbyte⟩ := service_send frame
  · cases hnone.symm.trans hread
  · obtain ⟨n, rfl⟩ := sendFrame_eq (serialize_of_send haction)
    exact ⟨f, n, rfl, ServiceId.toByte_injective (Option.some.inj (hbyte.symm.trans hread)),
      hseq, hcmd⟩

/-- An intact frame carries its request. -/
theorem carries_of_decoded {f : ASndFrame} {bytes : List UInt8} {seq : SequenceLayerHeader}
    {cmd : SdoCommand} (hsent : send (.aSnd f) = .sendFrame bytes) (hservice : f.serviceId = .sdo)
    (hseq : SequenceLayerHeader.deserialize (f.payload.take 4) = .ok seq)
    (hcmd : SdoCommand.deserialize (f.payload.drop 4) = .ok cmd) :
    (send (.aSnd f)).Carries (f.destination, seq, cmd) := by
  obtain ⟨n, rfl⟩ := sendFrame_eq (serialize_of_send hsent)
  have hlen : 4 ≤ f.payload.length := by
    by_contra hshort
    rw [List.drop_eq_nil_of_le (by omega)] at hcmd
    cases hcmd
  have hpayload : ((PowerlinkFrame.aSnd f).ethernetHeader.bytes ++
      ((PowerlinkFrame.aSnd f).bytes ++ List.replicate n 0)).drop 18 =
        f.payload ++ List.replicate n 0 := rfl
  refine ⟨_, hsent, rfl, rfl, ?_, ?_, ?_⟩
  · rw [← hservice]
    rfl
  · rw [hpayload, List.take_append_of_le_length hlen]
    exact hseq
  · rw [hpayload, List.drop_append_of_le_length hlen]
    exact SdoCommand.deserialize_append hcmd

theorem unread_of_bare {frame : PowerlinkFrame} (h : frame.Bare) : (send frame).Unread := by
  intro request hout hcarries
  obtain ⟨f, n, rfl, hservice, hseq, -⟩ := payload_of_carries hcarries
  rw [h f rfl hservice] at hseq
  exact hout.1 (SequenceLayerHeader.sendCon_of_zeros hseq)

theorem unread_of_misread {f : ASndFrame} {seq : SequenceLayerHeader} {cmd : SdoCommand}
    (hpayload : serializeSdoAsndPayload seq cmd = .ok f.payload) (hcmd : cmd.Misread) :
    (send (.aSnd f)).Unread := by
  intro request hout hcarries
  obtain ⟨g, n, heq, -, -, hdecode⟩ := payload_of_carries hcarries
  obtain rfl := PowerlinkFrame.aSnd.inj heq
  exact not_decoded hpayload hcmd hout.2 hdecode

theorem bare_soc (frame : SocFrame) : (PowerlinkFrame.soc frame).Bare := by
  intro f hf
  cases hf

theorem bare_pReq (frame : PReqFrame) : (PowerlinkFrame.pReq frame).Bare := by
  intro f hf
  cases hf

theorem bare_buildSoaFrame (c : MnContext σ) (service : RequestedServiceId) (nodeId : NodeId)
    (er : Bool) : (c.buildSoaFrame service nodeId er).Bare := by
  intro f hf
  cases hf

theorem bare_buildNmtCommandFrame (c : MnContext σ) (command : MnNmtCommandRequest)
    (nodeId : NodeId) (data : NmtCommandData) :
    (c.buildNmtCommandFrame command nodeId data).Bare := by
  intro f hf hservice
  dsimp only [buildNmtCommandFrame] at hf
  split at hf
  · cases hf
  · rw [← PowerlinkFrame.aSnd.inj hf] at hservice
    cases hservice

/-- A published frame of the SDO service has no payload. -/
theorem bare_buildNmtInfoFrame (c : MnContext σ) (serviceId : ServiceId) :
    (c.buildNmtInfoFrame serviceId).Bare := by
  intro f hf hservice
  rw [← PowerlinkFrame.aSnd.inj hf] at hservice ⊢
  obtain rfl : serviceId = .sdo := hservice
  rfl

/-- The frame that the scheduler queues for a request has no payload. -/
theorem bare_sdoRequestFrame (c : MnContext σ) (request : ClientFrame) :
    (c.sdoRequestFrame request).Bare := by
  intro f hf hservice
  rw [← PowerlinkFrame.aSnd.inj hf]
  rfl

theorem unread_buildSdoAsndRequest {c : MnContext σ} {nodeId : NodeId}
    {seqHeader : SequenceLayerHeader} {cmd : SdoCommand} {frame : PowerlinkFrame}
    (h : c.buildSdoAsndRequest nodeId seqHeader cmd = .ok frame) (hcmd : cmd.Misread) :
    (send frame).Unread := by
  unfold buildSdoAsndRequest at h
  split at h
  · cases h
  · obtain ⟨payload, hpayload, h⟩ := bind_eq_ok_iff.mp h
    rw [← Except.ok.inj h]
    exact unread_of_misread hpayload hcmd

end MnContext

end Powerlink
