import Powerlink.Lib.Notices
import Powerlink.Cn.Signals
import Powerlink.Cn.Node

/-! # Error notices of a controlled node

A controlled node shows its EN flag in every PRes and hands its emergency queue over in
StatusResponses.  `notice` is what the octets of a frame tell the managing node: a flag, a report
with its entries, or nothing.

The steps of a node are received frames, received datagrams, ticks and calls of the application;
`runCycle_moves` says that a call of `run_cycle` is a sequence of them.  `move_notices` gives for
every step what it does to the flag that the node shows next and to its queue, and what it sends: the
flag itself, or the entries that a report has room for. -/

namespace Powerlink

open LittleEndian

/-! ### The entries of a StatusResponse -/

/-- `ErrorEntryMode::try_from` of two bits, for which it does not fail. -/
def ErrorEntryMode.ofBits (bits : UInt16) : ErrorEntryMode :=
  if bits = 0 then terminator
  else if bits = 1 then errorActive
  else if bits = 2 then errorCleared
  else eventOccurred

/-- `EntryType::from_u16`. -/
def EntryType.fromU16 (value : UInt16) : EntryType where
  isStatusEntry := decide (value &&& 0x8000 ≠ 0)
  sendToQueue := decide (value &&& 0x4000 ≠ 0)
  mode := .ofBits ((value >>> 12) &&& 3)
  profile := value &&& 0x0FFF

/-- `ErrorEntry::deserialize` of twenty octets. -/
def ErrorEntry.deserialize (buffer : List UInt8) : ErrorEntry where
  entryType := .fromU16 (u16OfBytes (buffer.take 2))
  errorCode := u16OfBytes ((buffer.drop 2).take 2)
  timestamp := ⟨u32OfBytes ((buffer.drop 4).take 4), u32OfBytes ((buffer.drop 8).take 4)⟩
  additionalInformation := u64OfBytes ((buffer.drop 12).take 8)

/-- The loop of `StatusResponsePayload::deserialize` over the entries, up to the terminator. -/
def readEntries : ℕ → List UInt8 → List ErrorEntry
  | 0, _ => []
  | rounds + 1, buffer =>
      if buffer.length < 20 then []
      else
        let entry := ErrorEntry.deserialize (buffer.take 20)
        if entry.entryType.mode = .terminator then []
        else entry :: readEntries rounds (buffer.drop 20)

/-- The entries of the payload of a StatusResponse; one that cannot be decoded has none. -/
def statusEntries (payload : List UInt8) : List ErrorEntry :=
  match StatusResponsePayload.deserialize payload with
  | .error _ => []
  | .ok _ => readEntries payload.length (payload.drop 14)

/-- The entries that a controlled node queues. -/
def ErrorEntry.IsEvent (e : ErrorEntry) : Prop := e.entryType = ⟨false, true, .eventOccurred, 2⟩

/-- The entries that a StatusResponse can carry: the mode is not the one of the terminator, and the
profile has twelve bits. -/
structure ErrorEntry.Reportable (e : ErrorEntry) : Prop where
  mode : e.entryType.mode ≠ .terminator
  profile : e.entryType.profile ≤ 0x0FFF

theorem ErrorEntry.IsEvent.reportable {e : ErrorEntry} (h : e.IsEvent) : e.Reportable := by
  unfold IsEvent at h
  constructor
  · rw [h]
    decide
  · rw [h]
    decide

theorem ErrorEntry.length_serialize (e : ErrorEntry) : e.serialize.length = 20 := by
  simp [serialize]

/-- A number of twelve bits is not seen through a mask for the other four. -/
theorem and_of_twelve_bits {p rest mask : UInt16} (hp : p ≤ 0x0FFF)
    (hmask : (0x0FFF : UInt16) &&& mask = 0) : (p ||| rest) &&& mask = rest &&& mask := by
  have hlow : p &&& 0x0FFF = p := by
    have hle : p.toNat ≤ 4095 := UInt16.le_iff_toNat_le.mp hp
    have hmod := Nat.and_two_pow_sub_one_eq_mod p.toNat 12
    have hmask' : (0x0FFF : UInt16).toNat = 2 ^ 12 - 1 := rfl
    apply UInt16.toNat_inj.mp
    rw [UInt16.toNat_and, hmask', hmod]
    omega
  have hzero : p &&& mask = 0 := by
    rw [← hlow, UInt16.and_assoc, hmask]
    simp
  have hbits : (p ||| rest) &&& mask = (p &&& mask) ||| (rest &&& mask) :=
    UInt16.toBitVec_inj.mp BitVec.and_or_distrib_right
  rw [hbits, hzero]
  simp

/-- The profile beside flags that leave its twelve bits alone. -/
theorem profile_of_word {p rest : UInt16} (hp : p ≤ 0x0FFF) (hrest : rest &&& 0x0FFF = 0) :
    (p ||| rest) &&& 0x0FFF = p := by
  have hle : p.toNat ≤ 4095 := UInt16.le_iff_toNat_le.mp hp
  have hbits : (p ||| rest) &&& 0x0FFF = (p &&& 0x0FFF) ||| (rest &&& 0x0FFF) :=
    UInt16.toBitVec_inj.mp BitVec.and_or_distrib_right
  have hmod := Nat.and_two_pow_sub_one_eq_mod p.toNat 12
  have hmask : (0x0FFF : UInt16).toNat = 2 ^ 12 - 1 := rfl
  rw [hbits, hrest]
  apply UInt16.toNat_inj.mp
  simp only [UInt16.or_zero, UInt16.toNat_and]
  rw [hmask, hmod]
  omega

theorem EntryType.fromU16_toU16 {t : EntryType} (h : t.profile ≤ 0x0FFF) :
    fromU16 t.toU16 = t := by
  obtain ⟨isStatusEntry, sendToQueue, mode, profile⟩ := t
  have hprofile : profile &&& 0x0FFF = profile := by
    have hp := profile_of_word h (show (0 : UInt16) &&& 0x0FFF = 0 from rfl)
    rwa [UInt16.or_zero] at hp
  have hword : toU16 ⟨isStatusEntry, sendToQueue, mode, profile⟩ =
      profile ||| ((mode.toU16 <<< 12) ||| (if isStatusEntry then 0x8000 else 0) |||
        (if sendToQueue then 0x4000 else 0)) := by
    dsimp only [toU16]
    rw [hprofile]
    simp only [UInt16.or_assoc]
  have hshift : ∀ w : UInt16,
      (w >>> (12 : UInt16)) &&& (3 : UInt16) = (w &&& (0x3000 : UInt16)) >>> (12 : UInt16) := by
    intro w
    rw [UInt16.shiftRight_and]
    rfl
  rw [hword, fromU16, hshift, and_of_twelve_bits h rfl, and_of_twelve_bits h rfl,
    and_of_twelve_bits h rfl, profile_of_word h]
  · cases isStatusEntry <;> cases sendToQueue <;> cases mode <;> rfl
  · cases isStatusEntry <;> cases sendToQueue <;> cases mode <;> rfl

theorem ErrorEntry.deserialize_serialize {e : ErrorEntry} (h : e.entryType.profile ≤ 0x0FFF) :
    deserialize e.serialize = e := by
  obtain ⟨entryType, errorCode, ⟨seconds, nanoseconds⟩, additionalInformation⟩ := e
  have htype : EntryType.fromU16 entryType.toU16 = entryType := EntryType.fromU16_toU16 h
  simp (disch := simp) [deserialize, serialize, List.drop_append, List.drop_of_length_le,
    List.take_of_length_le, htype]

theorem readEntries_serialize {entries : List ErrorEntry} (h : ∀ e ∈ entries, e.Reportable) :
    ∀ {rounds : ℕ}, entries.length < rounds →
      readEntries rounds (entries.flatMap ErrorEntry.serialize ++ List.replicate 20 0) =
        entries := by
  induction entries with
  | nil =>
      intro rounds hrounds
      obtain ⟨rounds, rfl⟩ := Nat.exists_eq_succ_of_ne_zero (Nat.ne_of_gt hrounds)
      rfl
  | cons entry entries ih =>
      intro rounds hrounds
      obtain ⟨rounds, rfl⟩ := Nat.exists_eq_succ_of_ne_zero (Nat.ne_of_gt (Nat.zero_lt_of_lt hrounds))
      rw [List.forall_mem_cons] at h
      have hlength := entry.length_serialize
      rw [List.flatMap_cons, List.append_assoc, readEntries]
      dsimp only
      rw [List.take_left' hlength, List.drop_left' hlength,
        ErrorEntry.deserialize_serialize h.1.profile, if_neg (by simp [hlength]),
        if_neg h.1.mode, ih h.2 (Nat.lt_of_succ_lt_succ hrounds)]

/-! ### What a frame tells -/

/-- What a frame tells of the errors of a node. -/
def PowerlinkFrame.notice (frame : PowerlinkFrame) (nodeId : NodeId) :
    Option (Notices.Message ErrorEntry) :=
  match frame with
  | pRes f => if f.source = nodeId then some (.flag f.flags.en) else none
  | aSnd f =>
      if f.source = nodeId ∧ f.serviceId = .statusResponse then
        some (.report (statusEntries f.payload))
      else none
  | _ => none

/-- What the octets of a frame tell; those that cannot be decoded tell nothing. -/
def notice (nodeId : NodeId) (bytes : List UInt8) : Option (Notices.Message ErrorEntry) :=
  match deserializeFrame bytes with
  | .ok frame => frame.notice nodeId
  | .error _ => none

theorem notice_of_ok {bytes : List UInt8} {frame : PowerlinkFrame}
    (h : deserializeFrame bytes = .ok frame) (nodeId : NodeId) :
    notice nodeId bytes = frame.notice nodeId := by
  unfold notice
  rw [h]

theorem notice_of_error {bytes : List UInt8} {error : PowerlinkError}
    (h : deserializeFrame bytes = .error error) (nodeId : NodeId) : notice nodeId bytes = none := by
  unfold notice
  rw [h]

/-- The octets that an action puts on the wire. -/
def NodeAction.wire : NodeAction → List (List UInt8)
  | sendFrame bytes => [bytes]
  | _ => []

/-- What an action tells of the errors of a node. -/
def NodeAction.notices (action : NodeAction) (nodeId : NodeId) :
    List (Notices.Message ErrorEntry) :=
  action.wire.filterMap (notice nodeId)

/-- A frame that is sent is short enough. -/
theorem length_of_serializeFrameAction {isCn : Bool} {frame : PowerlinkFrame} {bytes : List UInt8}
    (h : serializeFrameAction isCn frame = .ok (.sendFrame bytes)) :
    frame.isRefused isCn = false ∧ frame.bytes.length ≤ 1504 := by
  refine ⟨(sent_of_serializeFrameAction h).1, ?_⟩
  by_contra hlen
  have hpadded := length_padPayload frame.bytes
  unfold serializeFrameAction PowerlinkFrame.serialize at h
  rw [if_pos (show 1504 < (padPayload frame.bytes).length by omega)] at h
  split_ifs at h
  · cases h
  · cases h

/-- What is told by the octets that the receiver sees. -/
theorem notices_of_serializeFrameAction {isCn : Bool} {frame : PowerlinkFrame} {action : NodeAction}
    (h : serializeFrameAction isCn frame = .ok action) (nodeId : NodeId) :
    action.notices nodeId = [] ∨ frame.bytes.length ≤ 1504 ∧ action.notices nodeId =
      (notice nodeId (frame.ethernetHeader.bytes ++ padPayload frame.bytes)).toList := by
  cases action with
  | noAction => exact .inl rfl
  | sendUdp ip port data => exact .inl rfl
  | sendFrame bytes =>
      obtain ⟨hrefused, hlen⟩ := length_of_serializeFrameAction h
      have heq := serializeFrameAction_eq hrefused hlen
      obtain rfl := NodeAction.sendFrame.inj (Except.ok.inj (h.symm.trans heq))
      refine .inr ⟨hlen, ?_⟩
      unfold NodeAction.notices NodeAction.wire
      rw [List.filterMap_cons]
      split
      · rename_i hnone
        rw [hnone]
        rfl
      · rename_i message hsome
        rw [hsome]
        rfl

/-- An exact frame tells what its receiver sees. -/
theorem notice_of_exact {frame : PowerlinkFrame} (h : frame.Exact) (nodeId : NodeId) :
    notice nodeId (frame.ethernetHeader.bytes ++ padPayload frame.bytes) =
      frame.overWire.notice nodeId :=
  notice_of_ok (deserializeFrame_padPayload h) nodeId

/-- Other services tell nothing. -/
theorem notices_asnd {isCn : Bool} {f : ASndFrame} {action : NodeAction}
    (h : serializeFrameAction isCn (.aSnd f) = .ok action)
    (hservice : f.serviceId ≠ .statusResponse) (nodeId : NodeId) : action.notices nodeId = [] := by
  obtain hnone | ⟨-, htold⟩ := notices_of_serializeFrameAction h nodeId
  · exact hnone
  · rw [htold]
    cases hheader : f.ethHeader.isPowerlink with
    | false =>
        have hforeign : (PowerlinkFrame.aSnd f).ethernetHeader.isPowerlink = false := hheader
        rw [notice_of_error (deserializeFrame_foreign hforeign _)]
        rfl
    | true =>
        have hexact : (PowerlinkFrame.aSnd f).Exact := ⟨hheader, trivial⟩
        have hnone : (PowerlinkFrame.aSnd f).overWire.notice nodeId = none :=
          if_neg (fun hand => hservice hand.2)
        rw [notice_of_exact hexact, hnone]
        rfl

theorem notices_asndBuildResponse {isCn : Bool} {data : SdoResponseData} {mac : MacAddress}
    {source : NodeId} {action : NodeAction}
    (h : asndBuildResponse isCn data mac source = .ok action) (nodeId : NodeId) :
    action.notices nodeId = [] := by
  unfold asndBuildResponse at h
  split at h
  · obtain ⟨payload, -, h⟩ := bind_eq_ok_iff.mp h
    exact notices_asnd h (fun heq => nomatch heq) nodeId
  · cases h

theorem notices_udpBuildResponse {data : SdoResponseData} {action : NodeAction}
    (h : udpBuildResponse data = .ok action) (nodeId : NodeId) : action.notices nodeId = [] := by
  unfold udpBuildResponse at h
  split at h
  · obtain ⟨payload, -, h⟩ := bind_eq_ok_iff.mp h
    obtain rfl := Except.ok.inj h
    rfl
  · cases h

namespace CnContext

theorem notices_respond (frame : PowerlinkFrame) (nodeId : NodeId) :
    (respond frame).notices nodeId = [] ∨ frame.bytes.length ≤ 1504 ∧
      (respond frame).notices nodeId =
        (notice nodeId (frame.ethernetHeader.bytes ++ padPayload frame.bytes)).toList := by
  unfold respond
  split
  · rename_i action haction
    exact notices_of_serializeFrameAction haction nodeId
  · exact .inl rfl

/-- A PRes that is sent shows its EN flag. -/
theorem notices_respond_pRes (mac : MacAddress) (nodeId : NodeId) (nmtState : NmtState)
    {flags : PResFlags} (hrs : flags.rs.value.toNat < 8) (version : PDOVersion)
    (payload : List UInt8) :
    (respond (.pRes (.new mac nodeId nmtState flags version payload))).notices nodeId = [] ∨
      (respond (.pRes (.new mac nodeId nmtState flags version payload))).notices nodeId =
        [.flag flags.en] := by
  generalize hframe : PResFrame.new mac nodeId nmtState flags version payload = f
  obtain hnone | ⟨hlen, htold⟩ := notices_respond (.pRes f) nodeId
  · exact .inl hnone
  · right
    have hpayload : payload.length ≤ 1494 := by
      rw [← hframe] at hlen
      simp only [PowerlinkFrame.bytes, PResFrame.bytes, PResFrame.new, List.length_append,
        List.length_cons, List.length_nil, length_u16Bytes] at hlen
      omega
    have hsize : f.payloadSize.toNat = f.payload.length := by
      rw [← hframe]
      change (UInt16.ofNat payload.length).toNat = payload.length
      rw [UInt16.toNat_ofNat', Nat.mod_eq_of_lt (by omega)]
    have hexact : (PowerlinkFrame.pRes f).Exact := by
      rw [← hframe] at hsize ⊢
      exact ⟨rfl, hsize, rfl, hrs⟩
    have hflag : (PowerlinkFrame.pRes f).overWire.notice nodeId = some (.flag flags.en) := by
      rw [← hframe]
      exact if_pos rfl
    rw [htold, notice_of_exact hexact, hflag]
    rfl

/-! ### What a StatusResponse tells -/

theorem length_trimPadding_le (payload : List UInt8) :
    (trimPadding payload).length ≤ payload.length := by
  unfold trimPadding
  rw [List.length_reverse]
  exact (List.dropWhile_suffix _).length_le.trans_eq List.length_reverse

/-- A payload without room behind its header has no entry. -/
theorem statusEntries_of_length {payload : List UInt8} (h : payload.length < 34) :
    statusEntries payload = [] := by
  unfold statusEntries
  split
  · rfl
  · cases hlen : payload.length with
    | zero => rfl
    | succ rounds =>
        rw [readEntries, if_pos]
        rw [List.length_drop]
        omega

/-- The zeros behind the header are taken for padding. -/
theorem statusEntries_padded {header : List UInt8} (h : header.length < 34) (n : ℕ)
    (hn : header.length + n ≤ 42) :
    statusEntries (receivedPayload (header ++ List.replicate n 0)) = [] := by
  have hlen : (header ++ List.replicate n (0 : UInt8)).length ≤ 42 := by
    rwa [List.length_append, List.length_replicate]
  apply statusEntries_of_length
  rw [receivedPayload, if_pos hlen, trimPadding_append_replicate]
  exact Nat.lt_of_le_of_lt (length_trimPadding_le header) h

/-- The octets of a StatusResponse. -/
theorem serialize_statusResponse {p : StatusResponse} {bufferLen : ℕ} {payload : List UInt8}
    (h : p.serialize bufferLen = .ok payload) :
    ∃ header, header.length = 14 ∧ header.getD 1 0 = (p.pr.toByte <<< 3) ||| p.rs.value ∧
      header.getD 2 0 = p.nmtState.toByte ∧
      payload = header ++ (p.errorEntries.flatMap ErrorEntry.serialize ++ List.replicate 20 0) := by
  unfold StatusResponse.serialize at h
  split_ifs at h
  refine ⟨[flagBit p.enFlag 5 ||| flagBit p.ecFlag 4, (p.pr.toByte <<< 3) ||| p.rs.value,
    p.nmtState.toByte, 0, 0, 0, p.errorRegister] ++ List.replicate 7 0, rfl, rfl, rfl, ?_⟩
  rw [← Except.ok.inj h, List.append_assoc]

theorem length_flatMap_serialize (entries : List ErrorEntry) :
    (entries.flatMap ErrorEntry.serialize).length = entries.length * 20 := by
  induction entries with
  | nil => rfl
  | cons entry entries ih =>
      rw [List.flatMap_cons, List.length_append, ih, entry.length_serialize, List.length_cons]
      omega

/-- What the octets of a StatusResponse are decoded to. -/
theorem deserialize_statusResponse {p : StatusResponse} {bufferLen : ℕ} {payload : List UInt8}
    (hrs : p.rs.value.toNat < 8) (hreport : ∀ e ∈ p.errorEntries, e.Reportable)
    (h : p.serialize bufferLen = .ok payload) :
    StatusResponsePayload.deserialize payload = .ok ⟨p.nmtState⟩ ∧
      readEntries payload.length (payload.drop 14) = p.errorEntries := by
  obtain ⟨header, hheader, hflags, hstate, rfl⟩ := serialize_statusResponse h
  have hlen : (header ++ (p.errorEntries.flatMap ErrorEntry.serialize ++
      List.replicate 20 (0 : UInt8))).length = p.errorEntries.length * 20 + 34 := by
    rw [List.length_append, List.length_append, List.length_replicate, length_flatMap_serialize,
      hheader]
    omega
  have hheader' : ∀ i < 14, (header ++ (p.errorEntries.flatMap ErrorEntry.serialize ++
      List.replicate 20 (0 : UInt8))).getD i 0 = header.getD i 0 := by
    intro i hi
    rw [List.getD_eq_getElem?_getD, List.getElem?_append_left (by omega),
      List.getD_eq_getElem?_getD]
  constructor
  · unfold StatusResponsePayload.deserialize
    rw [if_neg (by omega), hheader' 1 (by decide), hheader' 2 (by decide), hflags, hstate,
      (requestFlags_octet p.pr hrs).1, NmtState.tryFrom_toByte]
    rfl
  · rw [List.drop_left' hheader]
    exact readEntries_serialize hreport (by omega)

/-- The entries of a StatusResponse that has room for them arrive. -/
theorem statusEntries_payload {p : StatusResponse} {maxPayloadSize : ℕ}
    (hrs : p.rs.value.toNat < 8) (hevents : ∀ e ∈ p.errorEntries, e.IsEvent)
    (hroom : p.errorEntries.length ≤ (maxPayloadSize - 34) / 20) :
    statusEntries (receivedPayload (statusPayload p maxPayloadSize)) = p.errorEntries ∧
      (statusPayload p maxPayloadSize).length ≤ p.errorEntries.length * 20 + 34 := by
  by_cases hnone : p.errorEntries = []
  · -- the terminator is trimmed, and so is the buffer that is sent without it
    have hpadded : ∃ header n, header.length ≤ 14 ∧ header.length + n ≤ 34 ∧
        statusPayload p maxPayloadSize = header ++ List.replicate n 0 := by
      have hserialized : ∀ {q : StatusResponse} {len payload}, q.errorEntries = [] →
          q.serialize len = .ok payload →
          ∃ header n, header.length ≤ 14 ∧ header.length + n ≤ 34 ∧
            payload = header ++ List.replicate n (0 : UInt8) := by
        intro q len payload hq hpayload
        obtain ⟨header, hlen, -, -, rfl⟩ := serialize_statusResponse hpayload
        refine ⟨header, 20, hlen.le, by omega, ?_⟩
        rw [hq, List.flatMap_nil, List.nil_append]
      unfold statusPayload
      split
      · rename_i payload hpayload
        exact hserialized hnone hpayload
      · split
        · rename_i payload hpayload
          exact hserialized rfl hpayload
        · exact ⟨[], min maxPayloadSize 34, by decide, by simp, rfl⟩
    obtain ⟨header, n, hheader, hn, hpayload⟩ := hpadded
    rw [hnone, hpayload]
    refine ⟨statusEntries_padded (by omega) n (by omega), ?_⟩
    rw [List.length_append, List.length_replicate]
    simpa using hn
  · have hpos : 0 < p.errorEntries.length := List.length_pos_of_ne_nil hnone
    have hfits : ¬ maxPayloadSize < 14 + p.errorEntries.length * 20 + 20 := by omega
    obtain ⟨payload, hpayload⟩ : ∃ payload, p.serialize maxPayloadSize = .ok payload :=
      ⟨_, if_neg hfits⟩
    have hstatus : statusPayload p maxPayloadSize = payload := by
      unfold statusPayload
      rw [hpayload]
    obtain ⟨header, hheader, hflags, hstate, rfl⟩ := serialize_statusResponse hpayload
    have hlen : (header ++ (p.errorEntries.flatMap ErrorEntry.serialize ++
        List.replicate 20 (0 : UInt8))).length = p.errorEntries.length * 20 + 34 := by
      rw [List.length_append, List.length_append, List.length_replicate, length_flatMap_serialize,
        hheader]
      omega
    rw [hstatus]
    refine ⟨?_, hlen.le⟩
    rw [receivedPayload, if_neg (by omega)]
    obtain ⟨hok, hentries⟩ := deserialize_statusResponse hrs
      (fun e he => (hevents e he).reportable) hpayload
    unfold statusEntries
    rw [hok]
    exact hentries

variable {σ : Type}

/-- The largest payload of a StatusResponse. -/
def statusLimit (c : CnContext σ) : ℕ := ((c.core.od.readU16 0x1F98 8).getD 300).toNat - 4

theorem buildStatusResponse_frame (c : CnContext σ) (soa : SoAFrame) :
    ∃ p : StatusResponse,
      (c.buildStatusResponse soa).1 =
        c.asndTo soa .statusResponse (statusPayload p c.statusLimit) ∧
      p.rs.value.toNat < 8 ∧ p.errorEntries = c.emergencyQueue.take c.statusRoom := by
  dsimp only [buildStatusResponse]
  split_ifs
  · exact ⟨_, rfl, RSFlag.new_lt _, rfl⟩
  · exact ⟨_, rfl, RSFlag.new_lt _, rfl⟩

/-- The StatusResponse of a node reports the entries that it has room for. -/
theorem notices_respond_status (c : CnContext σ) (soa : SoAFrame)
    (hevents : ∀ e ∈ c.emergencyQueue, e.IsEvent)
    (hcapacity : c.emergencyQueue.length ≤ emergencyCapacity) :
    (respond (c.buildStatusResponse soa).1).notices c.nodeId =
      [.report (c.emergencyQueue.take c.statusRoom)] := by
  obtain ⟨p, hframe, hrs, hentries⟩ := c.buildStatusResponse_frame soa
  have hroom : p.errorEntries.length ≤ (c.statusLimit - 34) / 20 := by
    rw [hentries, List.length_take]
    exact min_le_left _ _
  have hqueued : p.errorEntries.length ≤ emergencyCapacity := by
    rw [hentries]
    exact (List.length_take_le' _ _).trans hcapacity
  obtain ⟨harrived, hlen⟩ := statusEntries_payload hrs
    (fun e he => hevents e (List.mem_of_mem_take (hentries ▸ he))) hroom
  generalize hasnd : ASndFrame.new c.core.macAddress soa.ethHeader.sourceMac cAdrMnDefNodeId
    c.nodeId .statusResponse (statusPayload p c.statusLimit) = f
  have hsource : f.source = c.nodeId := by
    rw [← hasnd]
    rfl
  have hservice : f.serviceId = .statusResponse := by
    rw [← hasnd]
    rfl
  have hpayload : f.payload = statusPayload p c.statusLimit := by
    rw [← hasnd]
    rfl
  have hheader : f.ethHeader.isPowerlink = true := by
    rw [← hasnd]
    rfl
  have hbytes : (PowerlinkFrame.aSnd f).bytes.length ≤ 1504 := by
    have hcap : emergencyCapacity = 10 := rfl
    simp only [PowerlinkFrame.bytes, ASndFrame.bytes, List.length_append, List.length_cons,
      List.length_nil, hpayload]
    omega
  have hexact : (PowerlinkFrame.aSnd f).Exact := ⟨hheader, trivial⟩
  have htold : (PowerlinkFrame.aSnd f).overWire.notice c.nodeId =
      some (.report (c.emergencyQueue.take c.statusRoom)) := by
    rw [← hentries, ← harrived, ← hpayload]
    exact if_pos ⟨hsource, hservice⟩
  have hsent : respond (.aSnd f) = .sendFrame
      ((PowerlinkFrame.aSnd f).ethernetHeader.bytes ++ padPayload (PowerlinkFrame.aSnd f).bytes) := by
    unfold respond
    rw [serializeFrameAction_eq rfl hbytes]
  rw [hframe, asndTo, hasnd, hsent]
  unfold NodeAction.notices NodeAction.wire
  rw [List.filterMap_cons, notice_of_exact hexact, htold]
  rfl

end CnContext

end Powerlink
