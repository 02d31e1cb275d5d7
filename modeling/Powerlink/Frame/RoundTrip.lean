import Powerlink.Frame.Codec
import Mathlib.Data.List.DropRight

/-! # Frames over the wire

What `deserialize_frame` makes of the octets of a frame.  `PowerlinkFrame.Exact` collects what the
octets of a frame can carry: the constructors of the cyclic frames build exact frames
(`Constructed.exact`), every accepted frame is exact (`exact_of_deserializeFrame`), and an exact
frame is decoded to `overWire`, which is the frame itself for the four cyclic types
(`deserializeFrame_padPayload`).  The cyclic codec is a round trip in both directions
(`cyclic_round_trip`).

An ASnd has no length field, and its receiver trims the zeros of the shortest frame.  A payload
survives exactly if it is longer than the padding can reach or does not end with a zero
(`asnd_survives_iff`). -/

namespace Powerlink

open LittleEndian

/-! ### The octets of the fields -/

/-- The type octet of a frame is read back. -/
theorem MessageType.tryFrom_toByte (messageType : MessageType) :
    tryFrom (messageType.toByte &&& 0x7F) = .ok messageType := by
  cases messageType <;> rfl

theorem checkMessageType_toByte (messageType : MessageType) :
    checkMessageType messageType.toByte messageType = .ok () := by
  cases messageType <;> rfl

theorem NmtState.tryFrom_toByte (state : NmtState) : tryFrom state.toByte = .ok state := by
  cases state <;> rfl

theorem RequestedServiceId.tryFrom_toByte (service : RequestedServiceId) :
    tryFrom service.toByte = .ok service := by
  cases service <;> rfl

theorem ServiceId.tryFrom_toByte (service : ServiceId) : tryFrom service.toByte = .ok service := by
  cases service <;> rfl

/-- An `RSFlag` is made by its constructor, which clamps it. -/
theorem RSFlag.new_lt (value : UInt8) : (new value).value.toNat < 8 := by
  have hmin : (new value).value = if value ≤ 7 then value else 7 := rfl
  rw [hmin]
  split_ifs with hle
  · exact Nat.lt_succ_of_le (UInt8.le_iff_toNat_le.mp hle)
  · decide

/-- The second flag octet of a PRes holds the PR and the RS flag. -/
theorem requestFlags_octet (pr : PRFlag) {rs : RSFlag} (hrs : rs.value.toNat < 8) :
    PRFlag.tryFrom (((pr.toByte <<< 3) ||| rs.value) >>> 3) = .ok pr ∧
      RSFlag.new (((pr.toByte <<< 3) ||| rs.value) &&& 7) = rs := by
  have hall : ∀ v : Fin 8,
      PRFlag.tryFrom (((pr.toByte <<< 3) ||| UInt8.ofNat v) >>> 3) = .ok pr ∧
        RSFlag.new (((pr.toByte <<< 3) ||| UInt8.ofNat v) &&& 7) = ⟨UInt8.ofNat v⟩ := by
    cases pr <;> decide
  obtain ⟨value⟩ := rs
  have hvalue := hall ⟨value.toNat, hrs⟩
  rwa [show UInt8.ofNat (⟨value.toNat, hrs⟩ : Fin 8).val = value from UInt8.ofNat_toNat] at hvalue

/-- The EtherType is written in network order. -/
theorem etherType_octets (etherType : UInt16) :
    ((etherType >>> 8).toUInt8.toUInt16 <<< 8) ||| etherType.toUInt8.toUInt16 = etherType := by
  have hlt := etherType.toNat_lt
  have hhigh : (((etherType.toNat >>> 8) % 2 ^ 8) <<< 8) % 2 ^ 16 =
      (etherType.toNat >>> 8) <<< 8 := by
    simp only [Nat.shiftRight_eq_div_pow, Nat.shiftLeft_eq]
    omega
  apply UInt16.toNat_inj.mp
  simp only [UInt16.toNat_or, UInt16.toNat_shiftLeft, UInt8.toNat_toUInt16, UInt16.toNat_toUInt8,
    UInt16.toNat_shiftRight]
  change ((((etherType.toNat >>> 8) % 2 ^ 8) <<< 8) % 2 ^ 16) ||| etherType.toNat % 2 ^ 8 =
    etherType.toNat
  rw [hhigh, ← Nat.shiftLeft_add_eq_or_of_lt (Nat.mod_lt _ (by decide))]
  simp only [Nat.shiftRight_eq_div_pow, Nat.shiftLeft_eq]
  omega

/-- The Ethernet header is read back. -/
theorem deserializeEthHeader_bytes (header : EthernetHeader) (octets : List UInt8) :
    deserializeEthHeader (header.bytes ++ octets) = .ok (header, octets) :=
  congrArg (fun etherType => Except.ok
    ((⟨header.destinationMac, header.sourceMac, etherType⟩ : EthernetHeader), octets))
    (etherType_octets header.etherType)

/-- Other EtherTypes are rejected. -/
theorem deserializeFrame_foreign {header : EthernetHeader} (h : header.isPowerlink = false)
    (octets : List UInt8) :
    deserializeFrame (header.bytes ++ octets) = .error .invalidEthernetFrame := by
  unfold deserializeFrame
  rw [deserializeEthHeader_bytes]
  simp only [bind, Except.bind, h, Bool.not_false, if_true]

/-- The frame type decides which decoder runs. -/
theorem deserializeFrame_bytes {header : EthernetHeader} (h : header.isPowerlink = true)
    (messageType : MessageType) (rest : List UInt8) :
    deserializeFrame (header.bytes ++ messageType.toByte :: rest) =
      match messageType with
      | .soC => (SocFrame.deserialize header (messageType.toByte :: rest)).map .soc
      | .pReq => (PReqFrame.deserialize header (messageType.toByte :: rest)).map .pReq
      | .pRes => (PResFrame.deserialize header (messageType.toByte :: rest)).map .pRes
      | .soA => (SoAFrame.deserialize header (messageType.toByte :: rest)).map .soA
      | .aSnd => (ASndFrame.deserialize header (messageType.toByte :: rest)).map .aSnd := by
  unfold deserializeFrame
  rw [deserializeEthHeader_bytes]
  simp only [bind, Except.bind, h, Bool.not_true, Bool.false_eq_true, if_false,
    MessageType.tryFrom_toByte]
  cases messageType <;> rfl

/-! ### Exact frames -/

/-- What the octets of a frame can carry: a POWERLINK header, a payload of the declared size, RS
flags of three bits and, for a PRes, the broadcast address. -/
def PowerlinkFrame.Exact (frame : PowerlinkFrame) : Prop :=
  frame.ethernetHeader.isPowerlink = true ∧
    match frame with
    | soc _ | soA _ | aSnd _ => True
    | pReq f => f.payloadSize.toNat = f.payload.length
    | pRes f => f.payloadSize.toNat = f.payload.length ∧ f.destination = cAdrBroadcastNodeId ∧
        f.flags.rs.value.toNat < 8

/-- The payload of a received ASnd, whose trailing zeros are gone where the frame may be padded. -/
def receivedPayload (payload : List UInt8) : List UInt8 :=
  if payload.length ≤ 42 then trimPadding payload else payload

/-- The frame that the receiver of the padded octets sees. -/
def PowerlinkFrame.overWire : PowerlinkFrame → PowerlinkFrame
  | aSnd f => aSnd { f with payload := receivedPayload f.payload }
  | frame => frame

theorem trimPadding_append_replicate (payload : List UInt8) (n : ℕ) :
    trimPadding (payload ++ List.replicate n 0) = trimPadding payload := by
  have hzeros : ∀ octet ∈ List.replicate n (0 : UInt8), decide (octet = 0) = true := by
    intro octet hmem
    exact decide_eq_true (List.eq_of_mem_replicate hmem)
  unfold trimPadding
  rw [List.reverse_append, List.reverse_replicate, List.dropWhile_append_of_pos hzeros]

theorem trimPadding_eq_self_iff (payload : List UInt8) :
    trimPadding payload = payload ↔ payload.getLast? ≠ some 0 := by
  refine List.rdropWhile_eq_self_iff.trans ?_
  rcases payload.eq_nil_or_concat with rfl | ⟨front, last, rfl⟩
  · simp
  · simp

/-- The octets of a SoC are read back. -/
theorem SocFrame.deserialize_bytes (f : SocFrame) (octets : List UInt8) :
    deserialize f.ethHeader (f.bytes ++ octets) = .ok f := by
  have hflags : ∀ mc ps : Bool,
      (⟨hasBit (flagBit mc 7 ||| flagBit ps 6) 7, hasBit (flagBit mc 7 ||| flagBit ps 6) 6⟩ :
        SocFlags) = ⟨mc, ps⟩ := by decide
  obtain ⟨ethHeader, destination, source, ⟨mc, ps⟩, ⟨s₁, n₁⟩, ⟨s₂, n₂⟩⟩ := f
  have hlength : ¬ (u32Bytes s₁ ++ u32Bytes n₁ ++ u32Bytes s₂ ++ u32Bytes n₂ ++ octets).length
      < 16 := by
    simp only [List.length_append, length_u32Bytes]
    omega
  have htimes : ∀ times : List UInt8,
      times = u32Bytes s₁ ++ u32Bytes n₁ ++ u32Bytes s₂ ++ u32Bytes n₂ ++ octets →
      times.take 4 = u32Bytes s₁ ∧ (times.drop 4).take 4 = u32Bytes n₁ ∧
        (times.drop 8).take 4 = u32Bytes s₂ ∧ (times.drop 12).take 4 = u32Bytes n₂ := by
    rintro times rfl
    exact ⟨rfl, rfl, rfl, rfl⟩
  simp only [bytes, deserialize, List.cons_append, List.nil_append, checkMessageType_toByte]
  obtain ⟨h₁, h₂, h₃, h₄⟩ := htimes _ rfl
  rw [if_neg hlength, h₁, h₂, h₃, h₄, hflags]
  simp only [u32OfBytes_u32Bytes]
  rfl

/-- A payload of the declared size is there, and it is what is taken. -/
theorem declared_payload {payloadSize : UInt16} {payload : List UInt8}
    (h : payloadSize.toNat = payload.length) (octets : List UInt8) :
    ¬ (payload ++ octets).length < payloadSize.toNat ∧
      (payload ++ octets).take payloadSize.toNat = payload := by
  rw [h]
  refine ⟨?_, List.take_left⟩
  rw [List.length_append]
  omega

/-- The two octets of a size. -/
theorem exists_u16Bytes (size : UInt16) :
    ∃ s₀ s₁, u16Bytes size = [s₀, s₁] ∧ u16OfBytes [s₀, s₁] = size :=
  ⟨_, _, rfl, u16OfBytes_u16Bytes size⟩

/-- The octets of a PReq of its declared size are read back. -/
theorem PReqFrame.deserialize_bytes {f : PReqFrame} (h : f.payloadSize.toNat = f.payload.length)
    (octets : List UInt8) : deserialize f.ethHeader (f.bytes ++ octets) = .ok f := by
  have hflags : ∀ ms ea rd : Bool,
      (⟨hasBit (flagBit ms 5 ||| flagBit ea 2 ||| flagBit rd 0) 5,
        hasBit (flagBit ms 5 ||| flagBit ea 2 ||| flagBit rd 0) 2,
        hasBit (flagBit ms 5 ||| flagBit ea 2 ||| flagBit rd 0) 0⟩ : PReqFlags) = ⟨ms, ea, rd⟩ := by
    decide
  obtain ⟨hlength, hpayload⟩ := declared_payload h octets
  obtain ⟨s₀, s₁, hoctets, hsize⟩ := exists_u16Bytes f.payloadSize
  simp only [bytes, deserialize, hoctets, List.cons_append, List.nil_append,
    checkMessageType_toByte, hsize, hflags, hpayload]
  exact if_neg hlength

/-- The octets of an exact PRes are read back. -/
theorem PResFrame.deserialize_bytes {f : PResFrame} (h : f.payloadSize.toNat = f.payload.length)
    (hdest : f.destination = cAdrBroadcastNodeId) (hrs : f.flags.rs.value.toNat < 8)
    (octets : List UInt8) : deserialize f.ethHeader (f.bytes ++ octets) = .ok f := by
  have hflags : ∀ ms en rd : Bool,
      hasBit (flagBit ms 5 ||| flagBit en 4 ||| flagBit rd 0) 5 = ms ∧
        hasBit (flagBit ms 5 ||| flagBit en 4 ||| flagBit rd 0) 4 = en ∧
        hasBit (flagBit ms 5 ||| flagBit en 4 ||| flagBit rd 0) 0 = rd := by
    decide
  obtain ⟨hms, hen, hrd⟩ := hflags f.flags.ms f.flags.en f.flags.rd
  obtain ⟨hpr, hnew⟩ := requestFlags_octet f.flags.pr hrs
  obtain ⟨hlength, hpayload⟩ := declared_payload h octets
  obtain ⟨s₀, s₁, hoctets, hsize⟩ := exists_u16Bytes f.payloadSize
  simp only [bytes, deserialize, hoctets, List.cons_append, List.nil_append,
    checkMessageType_toByte, NmtState.tryFrom_toByte, hpr, hnew, hsize, hms, hen, hrd, hpayload]
  have hbroadcast : ¬ (⟨f.destination.id⟩ : NodeId) ≠ cAdrBroadcastNodeId := not_not.mpr hdest
  refine (if_neg hbroadcast).trans ?_
  exact if_neg hlength

/-- The octets of a SoA are read back. -/
theorem SoAFrame.deserialize_bytes (f : SoAFrame) (octets : List UInt8) :
    deserialize f.ethHeader (f.bytes ++ octets) = .ok f := by
  have hflags : ∀ ea er : Bool,
      (⟨hasBit (flagBit ea 2 ||| flagBit er 1) 2, hasBit (flagBit ea 2 ||| flagBit er 1) 1⟩ :
        SoAFlags) = ⟨ea, er⟩ := by decide
  simp only [bytes, deserialize, List.cons_append, List.nil_append, checkMessageType_toByte,
    NmtState.tryFrom_toByte, RequestedServiceId.tryFrom_toByte, hflags]
  rfl

/-- The octets of an ASnd are read back, up to the payload. -/
theorem ASndFrame.deserialize_padPayload (f : ASndFrame) :
    deserialize f.ethHeader (padPayload f.bytes) =
      .ok { f with payload := receivedPayload f.payload } := by
  have hlength : f.bytes.length = f.payload.length + 4 := by
    simp only [bytes, List.length_append, List.length_cons, List.length_nil]
    omega
  have hpadded : padPayload f.bytes = MessageType.aSnd.toByte :: f.destination.id :: f.source.id ::
      f.serviceId.toByte :: (f.payload ++ List.replicate (46 - f.bytes.length) 0) := rfl
  have hpayload : (if (padPayload f.bytes).length = 46 then
      trimPadding (f.payload ++ List.replicate (46 - f.bytes.length) 0)
      else f.payload ++ List.replicate (46 - f.bytes.length) 0) = receivedPayload f.payload := by
    unfold receivedPayload
    rw [trimPadding_append_replicate, padPayload, List.length_append, List.length_replicate,
      hlength]
    split_ifs with hmin hle hle
    · rfl
    · omega
    · omega
    · rw [show 46 - (f.payload.length + 4) = 0 by omega, List.replicate_zero, List.append_nil]
  rw [hpadded] at hpayload ⊢
  simp only [deserialize, checkMessageType_toByte, ServiceId.tryFrom_toByte, hpayload]
  rfl

/-- What the receiver makes of an exact frame. -/
theorem deserializeFrame_padPayload {frame : PowerlinkFrame} (h : frame.Exact) :
    deserializeFrame (frame.ethernetHeader.bytes ++ padPayload frame.bytes) =
      .ok frame.overWire := by
  obtain ⟨hheader, hfields⟩ := h
  cases frame with
  | soc f =>
      refine (deserializeFrame_bytes hheader .soC _).trans ?_
      exact congrArg (Except.map PowerlinkFrame.soc) (f.deserialize_bytes _)
  | pReq f =>
      refine (deserializeFrame_bytes hheader .pReq _).trans ?_
      exact congrArg (Except.map PowerlinkFrame.pReq) (PReqFrame.deserialize_bytes hfields _)
  | pRes f =>
      refine (deserializeFrame_bytes hheader .pRes _).trans ?_
      exact congrArg (Except.map PowerlinkFrame.pRes)
        (PResFrame.deserialize_bytes hfields.1 hfields.2.1 hfields.2.2 _)
  | soA f =>
      refine (deserializeFrame_bytes hheader .soA _).trans ?_
      exact congrArg (Except.map PowerlinkFrame.soA) (f.deserialize_bytes _)
  | aSnd f =>
      refine (deserializeFrame_bytes hheader .aSnd _).trans ?_
      exact congrArg (Except.map PowerlinkFrame.aSnd) f.deserialize_padPayload

/-! ### Which frames are exact -/

/-- `C_DLL_ISOCHR_MAX_PAYL`. -/
def cDllIsochrMaxPayl : ℕ := 1490

/-- The frames that the constructors of the cyclic types build. -/
inductive Constructed : PowerlinkFrame → Prop
  | soc (sourceMac : MacAddress) (flags : SocFlags) (netTime : NetTime)
      (relativeTime : RelativeTime) : Constructed (.soc (.new sourceMac flags netTime relativeTime))
  | pReq (sourceMac destMac : MacAddress) (targetNodeId : NodeId) (flags : PReqFlags)
      (pdoVersion : PDOVersion) (payload : List UInt8) (h : payload.length ≤ cDllIsochrMaxPayl) :
      Constructed (.pReq (.new sourceMac destMac targetNodeId flags pdoVersion payload))
  | pRes (sourceMac : MacAddress) (sourceNodeId : NodeId) (nmtState : NmtState) (ms en rd : Bool)
      (pr : PRFlag) (rs : UInt8) (pdoVersion : PDOVersion) (payload : List UInt8)
      (h : payload.length ≤ cDllIsochrMaxPayl) :
      Constructed (.pRes (.new sourceMac sourceNodeId nmtState ⟨ms, en, rd, pr, .new rs⟩ pdoVersion
        payload))
  | soA (sourceMac : MacAddress) (nmtState : NmtState) (flags : SoAFlags)
      (requestedService : RequestedServiceId) (targetNodeId : NodeId) (eplVersion : EPLVersion) :
      Constructed
        (.soA (.new sourceMac nmtState flags requestedService targetNodeId eplVersion))

/-- A payload of the largest size is declared as it is. -/
theorem toNat_ofNat_length {payload : List UInt8} (h : payload.length ≤ cDllIsochrMaxPayl) :
    (UInt16.ofNat payload.length).toNat = payload.length := by
  have hlt : payload.length < 2 ^ 16 := Nat.lt_of_le_of_lt h (by decide)
  rw [UInt16.toNat_ofNat', Nat.mod_eq_of_lt hlt]

theorem Constructed.exact {frame : PowerlinkFrame} (h : Constructed frame) : frame.Exact := by
  cases h with
  | soc | soA => exact ⟨rfl, trivial⟩
  | pReq _ _ _ _ _ payload hlen => exact ⟨rfl, toNat_ofNat_length hlen⟩
  | pRes _ _ _ _ _ _ _ rs _ payload hlen =>
      exact ⟨rfl, toNat_ofNat_length hlen, rfl, RSFlag.new_lt rs⟩

/-- The constructors build no ASnd. -/
theorem Constructed.overWire {frame : PowerlinkFrame} (h : Constructed frame) :
    frame.overWire = frame := by
  cases h <;> rfl

section accepted

variable {ethHeader : EthernetHeader} {buffer : List UInt8}

/-- A payload that is taken has the declared size. -/
theorem length_take_declared {payloadSize : UInt16} {rest : List UInt8}
    (h : ¬ rest.length < payloadSize.toNat) :
    payloadSize.toNat = (rest.take payloadSize.toNat).length := by
  rw [List.length_take, min_eq_left (not_lt.mp h)]

theorem SocFrame.ethHeader_of_deserialize {f : SocFrame}
    (h : deserialize ethHeader buffer = .ok f) : f.ethHeader = ethHeader := by
  unfold deserialize at h
  split at h
  · split_ifs at h
    obtain ⟨-, -, h⟩ := bind_eq_ok_iff.mp h
    cases h
    rfl
  · cases h

theorem PReqFrame.exact_of_deserialize {f : PReqFrame}
    (h : deserialize ethHeader buffer = .ok f) :
    f.ethHeader = ethHeader ∧ f.payloadSize.toNat = f.payload.length := by
  unfold deserialize at h
  split at h
  · obtain ⟨-, -, h⟩ := bind_eq_ok_iff.mp h
    dsimp only at h
    split_ifs at h with hlength
    cases h
    exact ⟨rfl, length_take_declared hlength⟩
  · cases h

theorem PResFrame.exact_of_deserialize {f : PResFrame}
    (h : deserialize ethHeader buffer = .ok f) :
    f.ethHeader = ethHeader ∧ f.payloadSize.toNat = f.payload.length ∧
      f.destination = cAdrBroadcastNodeId ∧ f.flags.rs.value.toNat < 8 := by
  unfold deserialize at h
  split at h
  · obtain ⟨-, -, h⟩ := bind_eq_ok_iff.mp h
    split_ifs at h with hdest
    obtain ⟨nmtState, -, h⟩ := bind_eq_ok_iff.mp h
    obtain ⟨pr, -, h⟩ := bind_eq_ok_iff.mp h
    dsimp only at h
    split_ifs at h with hlength
    cases h
    exact ⟨rfl, length_take_declared hlength, not_not.mp hdest, RSFlag.new_lt _⟩
  · cases h

theorem SoAFrame.ethHeader_of_deserialize {f : SoAFrame}
    (h : deserialize ethHeader buffer = .ok f) : f.ethHeader = ethHeader := by
  unfold deserialize at h
  split at h
  · obtain ⟨-, -, h⟩ := bind_eq_ok_iff.mp h
    obtain ⟨nmtState, -, h⟩ := bind_eq_ok_iff.mp h
    obtain ⟨reqServiceId, -, h⟩ := bind_eq_ok_iff.mp h
    cases h
    rfl
  · cases h

theorem ASndFrame.ethHeader_of_deserialize {f : ASndFrame}
    (h : deserialize ethHeader buffer = .ok f) : f.ethHeader = ethHeader := by
  unfold deserialize at h
  split at h
  · obtain ⟨-, -, h⟩ := bind_eq_ok_iff.mp h
    obtain ⟨serviceId, -, h⟩ := bind_eq_ok_iff.mp h
    cases h
    rfl
  · cases h

/-- A mapped result comes from a result. -/
theorem map_eq_ok {α β : Type} {f : α → β} {x : Except PowerlinkError α} {b : β}
    (h : x.map f = .ok b) : ∃ a, x = .ok a ∧ f a = b := by
  cases x with
  | error e => cases h
  | ok a => exact ⟨a, rfl, Except.ok.inj h⟩

/-- Every accepted frame is exact. -/
theorem exact_of_deserializeFrame {frame : PowerlinkFrame}
    (h : deserializeFrame buffer = .ok frame) : frame.Exact := by
  unfold deserializeFrame at h
  obtain ⟨⟨ethHeader, plBuffer⟩, -, h⟩ := bind_eq_ok_iff.mp h
  dsimp only at h
  split_ifs at h with hheader
  have hpowerlink : ethHeader.isPowerlink = true := by
    simpa using hheader
  split at h
  · cases h
  · split at h
    · obtain ⟨f, hf, rfl⟩ := map_eq_ok h
      obtain rfl := SocFrame.ethHeader_of_deserialize hf
      exact ⟨hpowerlink, trivial⟩
    · obtain ⟨f, hf, rfl⟩ := map_eq_ok h
      obtain ⟨rfl, hsize⟩ := PReqFrame.exact_of_deserialize hf
      exact ⟨hpowerlink, hsize⟩
    · obtain ⟨f, hf, rfl⟩ := map_eq_ok h
      obtain ⟨rfl, hfields⟩ := PResFrame.exact_of_deserialize hf
      exact ⟨hpowerlink, hfields⟩
    · obtain ⟨f, hf, rfl⟩ := map_eq_ok h
      obtain rfl := SoAFrame.ethHeader_of_deserialize hf
      exact ⟨hpowerlink, trivial⟩
    · obtain ⟨f, hf, rfl⟩ := map_eq_ok h
      obtain rfl := ASndFrame.ethHeader_of_deserialize hf
      exact ⟨hpowerlink, trivial⟩
    · cases h

end accepted

/-! ### The cyclic frames -/

/-- The frame is written into every buffer that is long enough and read back as it was. -/
def PowerlinkFrame.RoundTrips (frame : PowerlinkFrame) : Prop :=
  ∀ bufferLen, max 46 frame.bytes.length ≤ bufferLen →
    ∃ octets, frame.serialize bufferLen = .ok octets ∧
      deserializeFrame (frame.ethernetHeader.bytes ++ octets) = .ok frame

theorem length_padPayload (octets : List UInt8) :
    (padPayload octets).length = max 46 octets.length := by
  rw [padPayload, List.length_append, List.length_replicate]
  omega

theorem roundTrips_of_exact {frame : PowerlinkFrame} (h : frame.Exact)
    (hwire : frame.overWire = frame) : frame.RoundTrips := by
  intro bufferLen hlen
  refine ⟨padPayload frame.bytes, ?_, ?_⟩
  · rw [← length_padPayload] at hlen
    exact if_neg (not_lt.mpr hlen)
  · rw [deserializeFrame_padPayload h, hwire]

/-- A cyclic frame is read back as it was written, and an accepted one does not change on the next
hop. -/
theorem cyclic_round_trip :
    (∀ frame, Constructed frame → frame.RoundTrips) ∧
      ∀ buffer frame, deserializeFrame buffer = .ok frame → frame.messageType ≠ .aSnd →
        frame.RoundTrips := by
  constructor
  · intro frame h
    exact roundTrips_of_exact h.exact h.overWire
  · intro buffer frame h hcyclic
    refine roundTrips_of_exact (exact_of_deserializeFrame h) ?_
    cases frame with
    | soc | pReq | pRes | soA => rfl
    | aSnd => exact absurd rfl hcyclic

/-- A PReq whose first bit and reserved octets are set and that carries more octets than it
declares. -/
def malformedPReq : List UInt8 :=
  (EthernetHeader.new ⟨0, 0, 0, 0, 0, 1⟩ ⟨0, 0, 0, 0, 0, 0xF0⟩).bytes ++
    [0x83, 1, 240, 0xAA, 0xFF, 0xBB, 0x10, 0xCC, 2, 0, 7, 8, 9]

/-- It is accepted, and what it is decoded to is stable. -/
theorem malformed_preq_is_stable :
    ∃ frame, deserializeFrame malformedPReq = .ok frame ∧ frame.RoundTrips :=
  ⟨.pReq (.new ⟨0, 0, 0, 0, 0, 0xF0⟩ ⟨0, 0, 0, 0, 0, 1⟩ ⟨1⟩ ⟨true, true, true⟩ ⟨0x10⟩ [7, 8]),
    by decide, cyclic_round_trip.2 malformedPReq _ (by decide) (by decide)⟩

/-! ### Payloads of ASnd frames -/

/-- An exact frame that fits is sent with its padding only. -/
theorem serializeFrameAction_eq {isCn : Bool} {frame : PowerlinkFrame}
    (hrefused : frame.isRefused isCn = false) (hlen : frame.bytes.length ≤ 1504) :
    serializeFrameAction isCn frame =
      .ok (.sendFrame (frame.ethernetHeader.bytes ++ padPayload frame.bytes)) := by
  have hpadded := length_padPayload frame.bytes
  have hbuffer : ¬ 1504 < (padPayload frame.bytes).length := by omega
  have hframe : 60 - (frame.ethernetHeader.bytes ++ padPayload frame.bytes).length = 0 := by
    rw [List.length_append, EthernetHeader.length_bytes]
    omega
  unfold serializeFrameAction PowerlinkFrame.serialize
  rw [if_neg (by rw [hrefused]; exact Bool.false_ne_true), if_neg hbuffer]
  simp only [bind, Except.bind, hframe, List.replicate_zero, List.append_nil]

/-- The frame is sent, and its receiver decodes an ASnd frame with the same payload. -/
def ASndFrame.Survives (isCn : Bool) (f : ASndFrame) : Prop :=
  ∃ bytes g, serializeFrameAction isCn (.aSnd f) = .ok (.sendFrame bytes) ∧
    deserializeFrame bytes = .ok (.aSnd g) ∧ g.payload = f.payload

theorem survives_iff_received (isCn : Bool) {f : ASndFrame} (hfits : f.payload.length ≤ 1504 - 4) :
    f.Survives isCn ↔ f.ethHeader.isPowerlink = true ∧ receivedPayload f.payload = f.payload := by
  have hlen : (PowerlinkFrame.aSnd f).bytes.length ≤ 1504 := by
    simp only [PowerlinkFrame.bytes, ASndFrame.bytes, List.length_append, List.length_cons,
      List.length_nil]
    omega
  have hsent : serializeFrameAction isCn (.aSnd f) = .ok (.sendFrame
      (f.ethHeader.bytes ++ padPayload f.bytes)) := serializeFrameAction_eq rfl hlen
  constructor
  · rintro ⟨bytes, g, hbytes, hg, hpayload⟩
    obtain rfl := NodeAction.sendFrame.inj (Except.ok.inj (hsent.symm.trans hbytes))
    cases hheader : f.ethHeader.isPowerlink with
    | false =>
        rw [deserializeFrame_foreign hheader] at hg
        cases hg
    | true =>
        have hexact : (PowerlinkFrame.aSnd f).Exact := ⟨hheader, trivial⟩
        have hdecoded := (deserializeFrame_padPayload hexact).symm.trans hg
        obtain rfl := PowerlinkFrame.aSnd.inj (Except.ok.inj hdecoded)
        exact ⟨rfl, hpayload⟩
  · rintro ⟨hheader, hpayload⟩
    have hexact : (PowerlinkFrame.aSnd f).Exact := ⟨hheader, trivial⟩
    have hdecoded := deserializeFrame_padPayload hexact
    exact ⟨_, _, hsent, hdecoded, hpayload⟩

/-- A payload survives exactly if the frame is a POWERLINK frame and the payload is longer than any
padding or does not end with a zero. -/
theorem asnd_survives_iff (isCn : Bool) {f : ASndFrame} (hfits : f.payload.length ≤ 1504 - 4) :
    f.Survives isCn ↔
      f.ethHeader.isPowerlink = true ∧ (42 < f.payload.length ∨ f.payload.getLast? ≠ some 0) := by
  rw [survives_iff_received isCn hfits]
  refine and_congr_right fun _ => ?_
  unfold receivedPayload
  split_ifs with hle
  · rw [trimPadding_eq_self_iff, or_iff_right (not_lt.mpr hle)]
  · exact iff_of_true rfl (.inl (not_le.mp hle))

/-- The SDO frame of a managing node with the sequence and command layer of a request to read
`0x1006`. -/
def readRequestFrame : ASndFrame :=
  .new ⟨0, 0, 0, 0, 0, 0xF0⟩ ⟨0, 0, 0, 0, 0, 1⟩ ⟨1⟩ cAdrMnDefNodeId .sdo
    [0x02, 0x06, 0, 0, 0, 1, 0, 0x02, 4, 0, 0, 0, 0x06, 0x10, 0, 0]

/-- The frame of a request that ends with an octet other than zero survives. -/
theorem nmt_request_survives :
    (ASndFrame.new ⟨0, 0, 0, 0, 0, 1⟩ ⟨0, 0, 0, 0, 0, 0xF0⟩ cAdrMnDefNodeId ⟨1⟩ .nmtRequest
      [0x28, 1]).Survives true :=
  (asnd_survives_iff true (by decide)).mpr ⟨rfl, .inr (by decide)⟩

/-- The request to read loses its last two octets, and the command layer with them. -/
theorem read_request_is_cut :
    readRequestFrame.payload.length ≤ 1504 - 4 ∧
      receivedPayload readRequestFrame.payload = readRequestFrame.payload.take 14 ∧
      ¬ readRequestFrame.Survives false := by
  refine ⟨by decide, by decide, ?_⟩
  rw [survives_iff_received false (by decide)]
  decide

end Powerlink
