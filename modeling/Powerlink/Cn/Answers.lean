import Powerlink.Cn.NmtCauses

/-! # What a controlled node sends

A controlled node sends a frame for one of two reasons: the frame that it has just received is
addressed to it and asks for an answer, or a connection of its SDO server is due.  `Answers` lists
the frames and their answers, and `Sends` both reasons; `call_sends` says that the list is complete
for every call of the application.

Two nodes with different node ids never answer the same frame (`Answers.unique`).  A frame that
reports an NMT state shows the state of its sender, or the one that its dictionary has
(`Sends.report`). -/

namespace Powerlink

namespace PowerlinkFrame

/-- The node that a frame names as its source. -/
def source : PowerlinkFrame → NodeId
  | soc frame => frame.source
  | pReq frame => frame.source
  | pRes frame => frame.source
  | soA frame => frame.source
  | aSnd frame => frame.source

end PowerlinkFrame

/-- The service of the ASnd frame that answers a request. -/
def RequestedServiceId.answer : RequestedServiceId → Option ServiceId
  | noService => none
  | identRequest => some .identResponse
  | statusRequest => some .statusResponse
  | nmtRequestInvite => some .nmtRequest
  | unspecifiedInvite => some .sdo

/-- The second frame is an answer of the node to the first one. -/
inductive PowerlinkFrame.Answers (nodeId : NodeId) : PowerlinkFrame → PowerlinkFrame → Prop
  /-- A PReq asks for the PRes. -/
  | poll (preq : PReqFrame) (pres : PResFrame) (hdest : preq.destination = nodeId)
      (hsource : pres.source = nodeId) : Answers nodeId (.pReq preq) (.pRes pres)
  /-- A SoA asks for the ASnd frame of a service. -/
  | invite (soa : SoAFrame) (asnd : ASndFrame) (htarget : soa.targetNodeId = nodeId)
      (hservice : soa.reqServiceId.answer = some asnd.serviceId) (hsource : asnd.source = nodeId)
      (hdest : asnd.destination = cAdrMnDefNodeId)
      (hmac : asnd.ethHeader.destinationMac = soa.ethHeader.sourceMac) :
      Answers nodeId (.soA soa) (.aSnd asnd)
  /-- An SDO request asks for an SDO response. -/
  | sdo (request response : ASndFrame) (hdest : request.destination = nodeId)
      (hrequest : request.serviceId = .sdo) (hresponse : response.serviceId = .sdo)
      (hsource : response.source = nodeId) : Answers nodeId (.aSnd request) (.aSnd response)

namespace PowerlinkFrame.Answers

variable {nodeId : NodeId} {request response : PowerlinkFrame}

theorem source_eq (h : Answers nodeId request response) : response.source = nodeId := by
  cases h with
  | poll _ _ _ hsource => exact hsource
  | invite _ _ _ _ hsource => exact hsource
  | sdo _ _ _ _ _ hsource => exact hsource

/-- A frame asks one node at most. -/
theorem unique {nodeId' : NodeId} {response' : PowerlinkFrame} (h : Answers nodeId request response)
    (h' : Answers nodeId' request response') : nodeId = nodeId' := by
  cases h with
  | poll _ _ hdest =>
      cases h' with
      | poll _ _ hdest' => exact hdest.symm.trans hdest'
  | invite _ _ htarget =>
      cases h' with
      | invite _ _ htarget' => exact htarget.symm.trans htarget'
  | sdo _ _ hdest =>
      cases h' with
      | sdo _ _ hdest' => exact hdest.symm.trans hdest'

/-- The receiver of the answer sees an answer. -/
theorem overWire (h : Answers nodeId request response) :
    Answers nodeId request response.overWire := by
  cases h with
  | poll preq pres hdest hsource => exact .poll preq pres hdest hsource
  | invite soa asnd htarget hservice hsource hdest hmac =>
      exact .invite soa _ htarget hservice hsource hdest hmac
  | sdo request response hdest hrequest hresponse hsource =>
      exact .sdo request _ hdest hrequest hresponse hsource

end PowerlinkFrame.Answers

/-! ### Frames on the wire -/

/-- The octets on the wire are those of the action. -/
theorem NodeAction.eq_of_mem_wire {action : NodeAction} {bytes : List UInt8}
    (h : bytes ∈ action.wire) : action = .sendFrame bytes := by
  cases action with
  | sendFrame sent => rw [List.mem_singleton.mp h]
  | _ => cases h

/-- What is on the wire is the frame with its padding, and the frame fits. -/
theorem received_of_serializeFrameAction {isCn : Bool} {frame : PowerlinkFrame} {bytes : List UInt8}
    (h : serializeFrameAction isCn frame = .ok (.sendFrame bytes)) :
    bytes = frame.received ∧ frame.bytes.length ≤ 1504 := by
  obtain ⟨hrefused, hlength⟩ := length_of_serializeFrameAction h
  rw [serializeFrameAction_eq hrefused hlength] at h
  exact ⟨(NodeAction.sendFrame.inj (Except.ok.inj h)).symm, hlength⟩

theorem respond_sends {frame : PowerlinkFrame} {bytes : List UInt8}
    (h : CnContext.respond frame = .sendFrame bytes) :
    bytes = frame.received ∧ frame.bytes.length ≤ 1504 := by
  unfold CnContext.respond at h
  split at h
  · rename_i action haction
    rw [h] at haction
    exact received_of_serializeFrameAction haction
  · cases h

/-- A response of the SDO server is an SDO frame of the node. -/
theorem asndBuildResponse_sends {isCn : Bool} {data : SdoResponseData} {mac : MacAddress}
    {nodeId : NodeId} {bytes : List UInt8}
    (h : asndBuildResponse isCn data mac nodeId = .ok (.sendFrame bytes)) :
    ∃ asnd : ASndFrame, bytes = (PowerlinkFrame.aSnd asnd).received ∧
      (PowerlinkFrame.aSnd asnd).Exact ∧ asnd.serviceId = .sdo ∧ asnd.source = nodeId := by
  unfold asndBuildResponse at h
  split at h
  · obtain ⟨payload, -, h⟩ := bind_eq_ok_iff.mp h
    exact ⟨_, (received_of_serializeFrameAction h).1, ⟨rfl, trivial⟩, rfl, rfl⟩
  · cases h

/-- A datagram is no frame. -/
theorem udpBuildResponse_sends {data : SdoResponseData} {bytes : List UInt8} :
    udpBuildResponse data ≠ .ok (.sendFrame bytes) := by
  intro h
  obtain ⟨ip, port, payload, heq⟩ := sendUdp_of_udpBuildResponse h
  cases heq

/-- The size of a PRes that fits is the declared one. -/
theorem PResFrame.exact_new {mac : MacAddress} {nodeId : NodeId} {nmtState : NmtState}
    {flags : PResFlags} {version : PDOVersion} {payload : List UInt8}
    (hrs : flags.rs.value.toNat < 8)
    (h : (PowerlinkFrame.pRes (.new mac nodeId nmtState flags version payload)).bytes.length ≤
      1504) : (PowerlinkFrame.pRes (.new mac nodeId nmtState flags version payload)).Exact := by
  have hpayload : payload.length ≤ 1494 := by
    simp only [PowerlinkFrame.bytes, PResFrame.bytes, PResFrame.new, List.length_append,
      List.length_cons, List.length_nil, LittleEndian.length_u16Bytes] at h
    omega
  refine ⟨rfl, ?_, rfl, hrs⟩
  change (UInt16.ofNat payload.length).toNat = payload.length
  rw [UInt16.toNat_ofNat', Nat.mod_eq_of_lt (Nat.lt_of_le_of_lt hpayload (by decide))]

/-! ### Reported states -/

/-- The octets that are taken for padding are zero. -/
theorem getD_receivedPayload (payload : List UInt8) (i : ℕ) :
    (receivedPayload payload).getD i 0 = payload.getD i 0 := by
  have hzero : ∀ octet ∈ payload.rtakeWhile (fun octet => decide (octet = 0)), octet = 0 := by
    intro octet hmem
    have himp := List.mem_rtakeWhile_imp hmem
    exact of_decide_eq_true himp
  have hsplit : payload = trimPadding payload ++
      payload.rtakeWhile (fun octet => decide (octet = 0)) :=
    List.rdropWhile_append_rtakeWhile.symm
  have htrim : (trimPadding payload).getD i 0 = payload.getD i 0 := by
    generalize payload.rtakeWhile (fun octet => decide (octet = 0)) = rest at hzero hsplit
    generalize trimPadding payload = front at hsplit ⊢
    subst hsplit
    simp only [List.getD_eq_getElem?_getD, List.getElem?_append]
    split_ifs with hlt
    · rfl
    · rw [List.getElem?_eq_none (not_lt.mp hlt)]
      cases hrest : rest[i - front.length]? with
      | none => rfl
      | some octet => exact (hzero octet (List.mem_of_getElem? hrest)).symm
  unfold receivedPayload
  split_ifs
  · exact htrim
  · rfl

/-- Of the ASnd frames a StatusResponse reports a state. -/
theorem PowerlinkFrame.report_aSnd {asnd : ASndFrame} {nodeId : NodeId} {reported : NmtState}
    (h : (PowerlinkFrame.aSnd asnd).report = some (nodeId, reported)) :
    asnd.serviceId = .statusResponse ∧ asnd.source = nodeId ∧
      ∃ payload, StatusResponsePayload.deserialize asnd.payload = .ok payload ∧
        payload.nmtState = reported := by
  dsimp only [report] at h
  split_ifs at h with hservice
  split at h
  · rename_i payload hpayload
    obtain ⟨hsource, hreported⟩ := Prod.mk.inj (Option.some.inj h)
    exact ⟨hservice, hsource, payload, hpayload, hreported⟩
  · cases h

/-- The state that a received StatusResponse reports is the one in its third octet. -/
theorem StatusResponsePayload.nmtState_of_received {payload : List UInt8}
    {decoded : StatusResponsePayload}
    (h : StatusResponsePayload.deserialize (receivedPayload payload) = .ok decoded) :
    NmtState.tryFrom (payload.getD 2 0) = .ok decoded.nmtState := by
  unfold StatusResponsePayload.deserialize at h
  split_ifs at h
  obtain ⟨-, -, h⟩ := bind_eq_ok_iff.mp h
  obtain ⟨nmtState, hstate, h⟩ := bind_eq_ok_iff.mp h
  rw [getD_receivedPayload] at hstate
  rw [← Except.ok.inj h]
  exact hstate

theorem CnContext.getD_statusPayload (p : StatusResponse) (maxPayloadSize : ℕ) :
    (statusPayload p maxPayloadSize).getD 2 0 = p.nmtState.toByte ∨
      (statusPayload p maxPayloadSize).getD 2 0 = 0 := by
  have hserialized : ∀ {q : StatusResponse} {len payload}, q.serialize len = .ok payload →
      payload.getD 2 0 = q.nmtState.toByte := by
    intro q len payload h
    unfold StatusResponse.serialize at h
    split_ifs at h
    rw [← Except.ok.inj h]
    rfl
  unfold statusPayload
  split
  · rename_i payload h
    exact .inl (hserialized h)
  · split
    · rename_i payload h
      have hstate := hserialized h
      exact .inl hstate
    · right
      rw [List.getD_eq_getElem?_getD]
      cases h : (List.replicate (min maxPayloadSize 34) (0 : UInt8))[2]? with
      | none => rfl
      | some octet => exact List.eq_of_mem_replicate (List.mem_of_getElem? h)

namespace CnContext

variable {σ : Type}

/-- The node is in the state, or its dictionary has the state. -/
def Shows (c : CnContext σ) (nmtState : NmtState) : Prop :=
  c.nmtState = nmtState ∨ publishedNmtState c.core.od = nmtState

/-- A state that a frame reports is shown by the node. -/
def ReportsItself (c : CnContext σ) (frame : PowerlinkFrame) : Prop :=
  ∀ nodeId reported, frame.overWire.report = some (nodeId, reported) → reported ≠ .nmtGsOff →
    nodeId = c.nodeId ∧ c.Shows reported

/-- Other services report nothing. -/
theorem reportsItself_of_service (c : CnContext σ) {asnd : ASndFrame}
    (h : asnd.serviceId ≠ .statusResponse) : c.ReportsItself (.aSnd asnd) := by
  intro nodeId reported hreport
  exact absurd (PowerlinkFrame.report_aSnd hreport).1 h

/-- The state is read from one object. -/
theorem publishedNmtState_congr {od od' : ObjectDictionary σ}
    (h : od'.read 0x1F8C 0 = od.read 0x1F8C 0) : publishedNmtState od' = publishedNmtState od := by
  unfold publishedNmtState ObjectDictionary.readU8
  rw [h]

theorem publishedNmtState_countIn (c : CnContext σ) {index : UInt16}
    (h : index = 0x1101 ∨ index = 0x1102) (subIndex : UInt8) :
    publishedNmtState (c.countIn index subIndex).core.od = publishedNmtState c.core.od := by
  apply publishedNmtState_congr
  refine c.core.od.read_incrementCounter ?_ _ _
  rintro rfl
  revert h
  decide

/-! ### The answer to a frame -/

/-- An IdentResponse shows what the dictionary has. -/
def IdentifiesItself (c : CnContext σ) (frame : PowerlinkFrame) : Prop :=
  ∀ asnd, frame = .aSnd asnd → asnd.serviceId = .identResponse →
    ∃ soa, frame = c.buildIdentResponse soa

theorem identifiesItself_of_service (c : CnContext σ) {asnd : ASndFrame}
    (h : asnd.serviceId ≠ .identResponse) : c.IdentifiesItself (.aSnd asnd) := by
  intro asnd' hframe hservice
  obtain rfl := PowerlinkFrame.aSnd.inj hframe
  exact absurd hservice h

/-- The answer of a node, which is in `c` behind it: it goes to the sender of the frame that asks
for it, it can be read where it fits, and it reports the state and the identity of the node itself. -/
structure Reply (c : CnContext σ) (request response : PowerlinkFrame) : Prop where
  answers : request.Answers c.nodeId response
  exact_of_fits : response.bytes.length ≤ 1504 → response.Exact
  reports : c.ReportsItself response
  identifies : c.IdentifiesItself response

/-- A frame to the sender of a SoA answers it. -/
theorem reply_asndTo {c d : CnContext σ} {soa : SoAFrame} {service : ServiceId}
    (payload : List UInt8) (htarget : soa.targetNodeId = c.nodeId)
    (hservice : soa.reqServiceId.answer = some service) (hsource : d.nodeId = c.nodeId)
    (hreports : service ≠ .statusResponse ∨ c.ReportsItself (d.asndTo soa service payload))
    (hidentifies : service ≠ .identResponse ∨ d.asndTo soa service payload =
      c.buildIdentResponse soa) : Reply c (.soA soa) (d.asndTo soa service payload) where
  answers := .invite soa _ htarget hservice hsource rfl rfl
  exact_of_fits := fun _ => ⟨rfl, trivial⟩
  reports := hreports.elim (fun hne => c.reportsItself_of_service hne) id
  identifies := hidentifies.elim (fun hne => c.identifiesItself_of_service hne)
    (fun hframe _ _ _ => ⟨soa, hframe⟩)

/-- A StatusResponse has the state of the dictionary. -/
theorem reportsItself_statusResponse {c d : CnContext σ} (soa : SoAFrame) {p : StatusResponse}
    (size : ℕ) (hnode : c.nodeId = d.nodeId) (hstate : publishedNmtState c.core.od = p.nmtState) :
    c.ReportsItself (d.asndTo soa .statusResponse (statusPayload p size)) := by
  intro nodeId reported hreport hne
  obtain ⟨-, hsource, decoded, hdecoded, rfl⟩ := PowerlinkFrame.report_aSnd hreport
  refine ⟨hsource.symm.trans hnode.symm, .inr ?_⟩
  have hread := StatusResponsePayload.nmtState_of_received hdecoded
  obtain hoctet | hoctet := getD_statusPayload p size
  · change NmtState.tryFrom ((statusPayload p size).getD 2 0) = _ at hread
    rw [hoctet, NmtState.tryFrom_toByte] at hread
    exact hstate.trans (Except.ok.inj hread)
  · change NmtState.tryFrom ((statusPayload p size).getD 2 0) = _ at hread
    rw [hoctet] at hread
    exact absurd (Except.ok.inj hread).symm hne

theorem buildStatusResponse_reply (c : CnContext σ) {soa : SoAFrame}
    (htarget : soa.targetNodeId = c.nodeId) (hservice : soa.reqServiceId = .statusRequest) :
    Reply (c.buildStatusResponse soa).2 (.soA soa) (c.buildStatusResponse soa).1 := by
  have hanswer : soa.reqServiceId.answer = some .statusResponse := by
    rw [hservice]
    rfl
  dsimp only [buildStatusResponse]
  split_ifs
  · refine reply_asndTo _ htarget hanswer rfl (.inr ?_) (.inl (by decide))
    exact reportsItself_statusResponse soa _ rfl rfl
  · refine reply_asndTo _ htarget hanswer rfl (.inr ?_) (.inl (by decide))
    refine reportsItself_statusResponse soa _ rfl ?_
    exact publishedNmtState_countIn { c with emergencyQueue := _ } (.inr rfl) 2

theorem answerSoa_reply {c d : CnContext σ} {soa : SoAFrame} {response : PowerlinkFrame}
    (htarget : soa.targetNodeId = c.nodeId) (h : c.answerSoa soa = (some response, d)) :
    Reply d (.soA soa) response := by
  have hother : ∀ {service : ServiceId} (e : CnContext σ) (payload : List UInt8),
      soa.reqServiceId.answer = some service → service ≠ .statusResponse → e.nodeId = c.nodeId →
      (service ≠ .identResponse ∨ e.asndTo soa service payload = e.buildIdentResponse soa) →
      Reply e (.soA soa) (e.asndTo soa service payload) :=
    fun e payload hservice hne hnode hidentifies =>
      reply_asndTo payload (htarget.trans hnode.symm) hservice rfl (.inl hne) hidentifies
  unfold answerSoa at h
  split at h
  · rename_i hservice
    obtain ⟨hresponse, rfl⟩ := Prod.mk.inj h
    rw [← Option.some.inj hresponse]
    exact hother (c.count 5) _ (by rw [hservice]; rfl) (by decide) rfl (.inr rfl)
  · rename_i hservice
    obtain ⟨hresponse, rfl⟩ := Prod.mk.inj h
    rw [← Option.some.inj hresponse]
    exact (c.count 5).buildStatusResponse_reply htarget hservice
  · rename_i hservice
    split at h
    · cases h
    · obtain ⟨hresponse, rfl⟩ := Prod.mk.inj h
      rw [← Option.some.inj hresponse]
      exact hother (count _ 5) _ (by rw [hservice]; rfl) (by decide) rfl (.inl (by decide))
  · rename_i hservice
    split at h
    · cases h
    · obtain ⟨hresponse, rfl⟩ := Prod.mk.inj h
      rw [← Option.some.inj hresponse]
      exact hother (count _ 7) _ (by rw [hservice]; rfl) (by decide) rfl (.inl (by decide))
  · cases h

theorem buildPresResponse_reply {c d : CnContext σ} {preq : PReqFrame} {response : PowerlinkFrame}
    (hdest : preq.destination = c.nodeId) (h : c.buildPresResponse = some (response, d)) :
    Reply d (.pReq preq) response := by
  obtain ⟨⟨tpdo, core⟩, -, h⟩ := Option.bind_eq_some_iff.mp h
  obtain ⟨rfl, rfl⟩ := Prod.mk.inj (Option.some.inj h)
  refine ⟨.poll preq _ hdest rfl, PResFrame.exact_new (RSFlag.new_lt _), ?_, nofun⟩
  intro nodeId reported hreport _
  obtain ⟨rfl, rfl⟩ := Prod.mk.inj (Option.some.inj hreport)
  exact ⟨rfl, .inl rfl⟩

theorem answer_reply {c d : CnContext σ} {frame response : PowerlinkFrame}
    (h : c.answer frame = some (some response, d)) : Reply d frame response := by
  unfold answer at h
  split_ifs at h
  · cases frame with
    | soA soa =>
        dsimp only at h
        split_ifs at h with htarget
        · exact answerSoa_reply htarget.1 (Option.some.inj h)
        · cases h
    | pReq preq =>
        dsimp only at h
        split_ifs at h with hdest
        · obtain ⟨⟨frame', e⟩, he, h⟩ := Option.bind_eq_some_iff.mp h
          obtain ⟨hresponse, rfl⟩ := Prod.mk.inj (Option.some.inj h)
          rw [← Option.some.inj hresponse]
          have hreply := buildPresResponse_reply (c := c.count 3) hdest.1 he
          exact hreply
        · cases h
    | _ => cases h
  · cases h

/-! ### What a call sends -/

/-- Why a node sends a frame in a call, which leaves it in `c`. -/
inductive Sends (c : CnContext σ) (input : CycleInput) : PowerlinkFrame → Prop
  /-- The frame answers the received one. -/
  | reply {request response : PowerlinkFrame} (hinput : input.frame = some request)
      (hreply : Reply c request response) : Sends c input response
  /-- A connection of the SDO server is due, and nothing is sent for the received data. -/
  | server (asnd : ASndFrame) (hservice : asnd.serviceId = .sdo) (hsource : asnd.source = c.nodeId) :
      Sends c input (.aSnd asnd)

theorem Sends.source_eq {c : CnContext σ} {input : CycleInput} {frame : PowerlinkFrame}
    (h : Sends c input frame) : frame.source = c.nodeId := by
  cases h with
  | reply _ hreply => exact hreply.answers.source_eq
  | server asnd _ hsource => exact hsource

/-- A controlled node reports its own state only. -/
theorem Sends.reportsItself {c : CnContext σ} {input : CycleInput} {frame : PowerlinkFrame}
    (h : Sends c input frame) : c.ReportsItself frame := by
  cases h with
  | reply _ hreply => exact hreply.reports
  | server asnd hservice =>
      apply c.reportsItself_of_service
      rw [hservice]
      decide

/-- A controlled node shows its own identity only. -/
theorem Sends.identifiesItself {c : CnContext σ} {input : CycleInput} {frame : PowerlinkFrame}
    (h : Sends c input frame) : c.IdentifiesItself frame := by
  cases h with
  | reply _ hreply => exact hreply.identifies
  | server asnd hservice =>
      apply c.identifiesItself_of_service
      rw [hservice]
      decide

variable [ObjectDictionaryStorage σ]

theorem respondFrame_sends {c d : CnContext σ} {frame : PowerlinkFrame} {bytes : List UInt8}
    (h : c.respondFrame frame = some (.sendFrame bytes, d)) :
    ∃ response, bytes = response.received ∧ response.Exact ∧ Reply d frame response := by
  obtain ⟨e, hpdo, h⟩ := Option.bind_eq_some_iff.mp h
  obtain ⟨⟨response, f⟩, hanswer, h⟩ := Option.bind_eq_some_iff.mp h
  obtain ⟨haction, rfl⟩ := Prod.mk.inj (Option.some.inj h)
  cases response with
  | none => cases haction
  | some response =>
      have hreply := answer_reply hanswer
      obtain ⟨hbytes, hfits⟩ := respond_sends haction
      exact ⟨response, hbytes, hreply.exact_of_fits hfits, hreply⟩

theorem processAccepted_sends {c d : CnContext σ} {frame : PowerlinkFrame} {timeUs : ℕ}
    {bytes : List UInt8} (h : c.processAccepted frame timeUs = some (.sendFrame bytes, d)) :
    ∃ response, bytes = response.received ∧ response.Exact ∧ Reply d frame response := by
  unfold processAccepted at h
  dsimp only at h
  split at h
  · cases h
  · exact respondFrame_sends h

theorem receiveSdo_sends {c d : CnContext σ} {asnd : ASndFrame} {timeUs : ℕ} {bytes : List UInt8}
    (hdest : asnd.destination = c.nodeId) (hservice : asnd.serviceId = .sdo)
    (h : c.receiveSdo asnd timeUs = (.sendFrame bytes, d)) :
    ∃ response, bytes = response.received ∧ response.Exact ∧ Reply d (.aSnd asnd) response := by
  dsimp only [receiveSdo] at h
  split at h
  · cases h
  · split at h
    · rename_i action haction
      obtain ⟨rfl, rfl⟩ := Prod.mk.inj h
      obtain ⟨response, hbytes, hexact, hresponse, hsource⟩ := asndBuildResponse_sends haction
      refine ⟨.aSnd response, hbytes, hexact, .sdo asnd response hdest hservice hresponse hsource,
        fun _ => hexact, reportsItself_of_service _ ?_, identifiesItself_of_service _ ?_⟩
      · rw [hresponse]
        decide
      · rw [hresponse]
        decide
    · cases h

theorem processFrame_sends {c d : CnContext σ} {frame : PowerlinkFrame} {timeUs : ℕ}
    {bytes : List UInt8} (h : c.processFrame frame timeUs = some (.sendFrame bytes, d)) :
    ∃ response, bytes = response.received ∧ response.Exact ∧ Reply d frame response := by
  cases frame with
  | aSnd asnd =>
      dsimp only [processFrame] at h
      split_ifs at h with hsdo
      · exact receiveSdo_sends hsdo.1 hsdo.2 (Option.some.inj h)
      · exact processAccepted_sends h
      · cases h
  | _ => exact processAccepted_sends h

theorem receiveUdp_sends (c : CnContext σ) (input : CycleInput) (bytes : List UInt8) :
    (c.receiveUdp input).1 ≠ .sendFrame bytes := by
  have hdatagram : ∀ buffer ip port timeUs,
      (c.processUdpDatagram buffer ip port timeUs).1 ≠ .sendFrame bytes := by
    intro buffer ip port timeUs haction
    unfold processUdpDatagram at haction
    split at haction
    · cases haction
    · dsimp only at haction
      split at haction
      · cases haction
      · split at haction
        · rename_i action hbuild
          have hsent : action = .sendFrame bytes := haction
          rw [hsent] at hbuild
          exact udpBuildResponse_sends hbuild
        · cases haction
  intro haction
  unfold receiveUdp at haction
  split at haction
  · cases haction
  · rename_i buffer ip port _
    split at haction
    · cases haction
    · rename_i action e _ hresult
      have hsent : action = .sendFrame bytes := haction
      have hdata := hdatagram buffer ip port input.currentTimeUs
      rw [hresult] at hdata
      exact hdata hsent

omit [ObjectDictionaryStorage σ] in
theorem tickSdoServer_sends {c d : CnContext σ} {timeUs : ℕ} {bytes : List UInt8}
    (h : c.tickSdoServer timeUs = (some (.sendFrame bytes), d)) :
    ∃ asnd : ASndFrame, bytes = (PowerlinkFrame.aSnd asnd).received ∧
      (PowerlinkFrame.aSnd asnd).Exact ∧ asnd.serviceId = .sdo ∧ asnd.source = d.nodeId := by
  dsimp only [tickSdoServer] at h
  split at h
  · split at h
    · rename_i action hbuilt
      obtain ⟨haction, rfl⟩ := Prod.mk.inj h
      rw [Option.some.inj haction] at hbuilt
      split at hbuilt
      · exact asndBuildResponse_sends hbuilt
      · exact absurd hbuilt udpBuildResponse_sends
    · cases h
  · cases h

theorem processTick_sends {c d : CnContext σ} {timeUs : ℕ} {bytes : List UInt8}
    (h : c.processTick timeUs = some (.sendFrame bytes, d)) :
    ∃ asnd : ASndFrame, bytes = (PowerlinkFrame.aSnd asnd).received ∧
      (PowerlinkFrame.aSnd asnd).Exact ∧ asnd.serviceId = .sdo ∧ asnd.source = d.nodeId := by
  unfold processTick at h
  rcases hserver : c.tickSdoServer timeUs with ⟨_ | sent, e⟩
  · rw [hserver] at h
    dsimp only at h
    split at h
    · cases h
    · cases h
    · obtain ⟨g, -, h⟩ := Option.map_eq_some_iff.mp h
      cases h
  · rw [hserver] at h
    obtain ⟨rfl, rfl⟩ := Prod.mk.inj (Option.some.inj h)
    exact tickSdoServer_sends hserver

/-- A frame is sent in a call of `run_cycle` only, and there is a reason for it. -/
theorem call_sends {c d : CnContext σ} {call : CnCall} {bytes : List UInt8}
    (h : c.call call = some (.sendFrame bytes, d)) :
    ∃ input frame, call = .runCycle input ∧ bytes = frame.received ∧ frame.Exact ∧
      Sends d input frame := by
  cases call with
  | runCycle input =>
      obtain ⟨⟨a, r⟩, hethernet, h⟩ := Option.bind_eq_some_iff.mp h
      dsimp only at h
      split_ifs at h with hsent hudp
      · obtain ⟨rfl, rfl⟩ := Prod.mk.inj (Option.some.inj h)
        obtain ⟨buffer, request, -, hframe, hprocess⟩ | ⟨-, hnone, -⟩ :=
          receiveEthernet_cases hethernet
        · obtain ⟨response, hbytes, hexact, hreply⟩ := processFrame_sends hprocess
          exact ⟨input, response, rfl, hbytes, hexact, .reply hframe hreply⟩
        · cases hnone
      · exact absurd (Prod.mk.inj (Option.some.inj h)).1 (r.receiveUdp_sends input bytes)
      · obtain ⟨asnd, hbytes, hexact, hservice, hsource⟩ := processTick_sends h
        exact ⟨input, .aSnd asnd, rfl, hbytes, hexact, .server asnd hservice hsource⟩
  | _ => cases h

/-- A frame on the wire is answered by one node at most. -/
theorem one_node_answers {c₁ c₂ d₁ d₂ : CnContext σ} {input₁ input₂ : CycleInput}
    {bytes₁ bytes₂ : List UInt8} (hwire : input₁.ethernetFrame = input₂.ethernetFrame)
    (h₁ : c₁.receiveEthernet input₁ = some (.sendFrame bytes₁, d₁))
    (h₂ : c₂.receiveEthernet input₂ = some (.sendFrame bytes₂, d₂)) : c₁.nodeId = c₂.nodeId := by
  have hreply : ∀ {c d : CnContext σ} {input : CycleInput} {bytes : List UInt8},
      c.receiveEthernet input = some (.sendFrame bytes, d) → d.nodeId = c.nodeId ∧
        ∃ request response, input.frame = some request ∧ request.Answers c.nodeId response := by
    intro c d input bytes h
    have hnode : d.nodeId = c.nodeId :=
      CnNmtStateMachine.nodeId_of_movedBy (movedBy_receiveEthernet h)
    obtain ⟨buffer, request, -, hframe, hprocess⟩ | ⟨-, hnone, -⟩ := receiveEthernet_cases h
    · obtain ⟨response, -, -, hreply⟩ := processFrame_sends hprocess
      exact ⟨hnode, request, response, hframe, hnode ▸ hreply.answers⟩
    · cases hnone
  obtain ⟨-, request, response₁, hframe₁, hanswers₁⟩ := hreply h₁
  obtain ⟨-, request', response₂, hframe₂, hanswers₂⟩ := hreply h₂
  have hsame : input₁.frame = input₂.frame := by
    unfold CycleInput.frame
    rw [hwire]
  obtain rfl := Option.some.inj (hframe₁.symm.trans (hsame.trans hframe₂))
  exact hanswers₁.unique hanswers₂

/-- A node with the given node id and MAC address that has received a SoC. -/
def startedCn (nodeId octet : UInt8) : Option (CnContext Empty) :=
  (ControlledNode.new (cnDictionary nodeId 0 []) ⟨0, 0, 0, 0, 0, octet⟩).toOption.bind fun c =>
    (c.call (.soc 1000)).map Prod.snd

/-- A request for the identity of node 1. -/
def identRequestInput : CycleInput where
  ethernetFrame := some (PowerlinkFrame.soA (.new ⟨0, 0, 0, 0, 0, 240⟩ .nmtPreOperational1
    { er := false } .identRequest ⟨1⟩ ⟨0x15⟩)).received
  udpDatagram := none
  currentTimeUs := 2000

/-- Two nodes that are both configured as node 1 answer the same request. -/
theorem two_devices_answer :
    ∃ c₁ c₂ d₁ d₂ : CnContext Empty, ∃ bytes₁ bytes₂, bytes₁ ≠ bytes₂ ∧
      c₁.receiveEthernet identRequestInput = some (.sendFrame bytes₁, d₁) ∧
      c₂.receiveEthernet identRequestInput = some (.sendFrame bytes₂, d₂) ∧
      c₁.nodeId = c₂.nodeId := by
  have hanswers : ∀ octet ∈ [(1 : UInt8), 2], ((startedCn 1 octet).bind fun c =>
      c.receiveEthernet identRequestInput).any (fun r =>
        r.1.wire.any (fun bytes => decide (bytes[11]? = some octet))) = true := by
    decide +kernel
  have hsent : ∀ octet ∈ [(1 : UInt8), 2], ∃ c d : CnContext Empty, ∃ bytes : List UInt8,
      c.receiveEthernet identRequestInput = some (.sendFrame bytes, d) ∧
        bytes[11]? = some octet := by
    intro octet hmem
    have h := hanswers octet hmem
    cases hc : startedCn 1 octet with
    | none =>
        rw [hc] at h
        cases h
    | some c =>
        rw [hc, Option.bind_some] at h
        cases hr : c.receiveEthernet identRequestInput with
        | none =>
            rw [hr] at h
            cases h
        | some r =>
            rw [hr, Option.any_some] at h
            obtain ⟨bytes, hbytes, hoctet⟩ := List.any_eq_true.mp h
            refine ⟨c, r.2, bytes, ?_, of_decide_eq_true hoctet⟩
            rw [hr, ← NodeAction.eq_of_mem_wire hbytes]
  obtain ⟨c₁, d₁, bytes₁, h₁, hoctet₁⟩ := hsent 1 (by decide)
  obtain ⟨c₂, d₂, bytes₂, h₂, hoctet₂⟩ := hsent 2 (by decide)
  refine ⟨c₁, c₂, d₁, d₂, bytes₁, bytes₂, ?_, h₁, h₂, one_node_answers rfl h₁ h₂⟩
  rintro rfl
  exact absurd (hoctet₁.symm.trans hoctet₂) (by decide)

end CnContext

/-! ### Runs -/

/-- What a call sends can be read by its receiver, and there is a reason for it. -/
def CnReturned.SendsByReason {σ : Type} (x : CnReturned σ) : Prop :=
  ∀ bytes, x.action = .sendFrame bytes → ∃ input frame, x.call = .runCycle input ∧
    bytes = frame.received ∧ deserializeFrame bytes = .ok frame.overWire ∧
    CnContext.Sends x.after input frame

namespace CnRun

variable {σ : Type} [ObjectDictionaryStorage σ]

theorem sendsByReason_throughout : Throughout (fun r : CnRun σ =>
    ∀ x ∈ r.returned, x.SendsByReason ∧
      x.before.nodeId = r.context.nodeId ∧ x.after.nodeId = r.context.nodeId) := by
  apply throughout_of_new
  · intro od mac c _
    exact List.forall_mem_nil _
  · intro r call action d hr hcall
    have hnode := CnContext.nodeId_call hcall
    refine List.forall_mem_cons.mpr ⟨⟨?_, hnode.symm, rfl⟩, ?_⟩
    · intro bytes hsent
      rw [show action = .sendFrame bytes from hsent] at hcall
      obtain ⟨input, frame, hinput, hbytes, hexact, hsends⟩ := CnContext.call_sends hcall
      refine ⟨input, frame, hinput, hbytes, ?_, hsends⟩
      rw [hbytes]
      exact deserializeFrame_padPayload hexact
    · intro x hx
      obtain ⟨hsends, hbefore, hafter⟩ := hr x hx
      exact ⟨hsends, hbefore.trans hnode.symm, hafter.trans hnode.symm⟩

end CnRun

end Powerlink
