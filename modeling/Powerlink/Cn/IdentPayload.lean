import Powerlink.Lib.Regions
import Powerlink.Cn.Notices
import Powerlink.Od.Encoding

/-! # The payload of an IdentResponse

The codec of `frame/control/ident_response.rs` with all its fields, as it writes into a buffer and
reads from one.  Every field that is written is read back (`deserialize_written`).

What a controlled node sends is what is written (`take_written_ofNode`), and the decoder of a
managing node keeps some of the fields (`deserialize_kept`). -/

namespace Powerlink

namespace ServicePayloads

open LittleEndian Regions

/-! ### Reading the fields -/

/-- The 16-bit word at an offset of a payload. -/
def u16At (buffer : List UInt8) (offset : ℕ) : UInt16 := u16OfBytes (region buffer offset 2)

/-- The IP address at an offset of a payload. -/
def ipAt (buffer : List UInt8) (offset : ℕ) : IpAddress :=
  ⟨buffer.getD offset 0, buffer.getD (offset + 1) 0, buffer.getD (offset + 2) 0,
    buffer.getD (offset + 3) 0⟩

theorem u16At_eq {buffer : List UInt8} {offset : ℕ} {x : UInt16}
    (h : region buffer offset (u16Bytes x).length = u16Bytes x) : u16At buffer offset = x := by
  rw [length_u16Bytes] at h
  unfold u16At
  rw [h, u16OfBytes_u16Bytes]

theorem u32At_eq {buffer : List UInt8} {offset : ℕ} {x : UInt32}
    (h : region buffer offset (u32Bytes x).length = u32Bytes x) : u32At buffer offset = x := by
  rw [length_u32Bytes] at h
  have hread : u32At buffer offset = u32OfBytes (region buffer offset 4) := rfl
  rw [hread, h, u32OfBytes_u32Bytes]

theorem ipAt_eq {buffer : List UInt8} {offset : ℕ} {a : IpAddress}
    (h : region buffer offset a.bytes.length = a.bytes) : ipAt buffer offset = a := by
  have hoctet : ∀ i < 4, buffer.getD (offset + i) 0 = a.bytes.getD i 0 := by
    intro i hi
    have hget := getElem?_region buffer offset 4 i
    have hregion : region buffer offset 4 = a.bytes := h
    rw [hregion, if_pos hi] at hget
    rw [List.getD_eq_getElem?_getD, List.getD_eq_getElem?_getD, hget]
  obtain ⟨b₀, b₁, b₂, b₃⟩ := a
  have h₀ := hoctet 0 (by decide)
  have h₁ := hoctet 1 (by decide)
  have h₂ := hoctet 2 (by decide)
  have h₃ := hoctet 3 (by decide)
  unfold ipAt
  rw [h₁, h₂, h₃, ← Nat.add_zero offset, h₀]
  rfl

/-! ### The host name -/

/-- The ranges of the octets that must follow the first octet of a character. -/
def utf8Followers (first : UInt8) : Option (List (UInt8 × UInt8)) :=
  if first < 0x80 then some []
  else if 0xC2 ≤ first ∧ first ≤ 0xDF then some [(0x80, 0xBF)]
  else if first = 0xE0 then some [(0xA0, 0xBF), (0x80, 0xBF)]
  else if first = 0xED then some [(0x80, 0x9F), (0x80, 0xBF)]
  else if 0xE1 ≤ first ∧ first ≤ 0xEF then some [(0x80, 0xBF), (0x80, 0xBF)]
  else if first = 0xF0 then some [(0x90, 0xBF), (0x80, 0xBF), (0x80, 0xBF)]
  else if 0xF1 ≤ first ∧ first ≤ 0xF3 then some [(0x80, 0xBF), (0x80, 0xBF), (0x80, 0xBF)]
  else if first = 0xF4 then some [(0x80, 0x8F), (0x80, 0xBF), (0x80, 0xBF)]
  else none

/-- The first octets of a list, as far as they are in the ranges. -/
def takeFollowers : List (UInt8 × UInt8) → List UInt8 → List UInt8
  | range :: ranges, b :: rest =>
      if range.1 ≤ b ∧ b ≤ range.2 then b :: takeFollowers ranges rest else []
  | _, _ => []

/-- The octets with U+FFFD in the place of each maximal part of an invalid sequence. -/
def lossyOctets : ℕ → List UInt8 → List UInt8
  | rounds + 1, first :: rest =>
      match utf8Followers first with
      | none => [0xEF, 0xBF, 0xBD] ++ lossyOctets rounds rest
      | some ranges =>
          let followers := takeFollowers ranges rest
          (if followers.length = ranges.length then first :: followers else [0xEF, 0xBF, 0xBD]) ++
            lossyOctets rounds (rest.drop followers.length)
  | _, _ => []

/-- `String::from_utf8_lossy`. -/
def fromUtf8Lossy (octets : List UInt8) : String :=
  match ObjectValue.fromUtf8 octets with
  | some s => s
  | none => (ObjectValue.fromUtf8 (lossyOctets octets.length octets)).getD ""

example : fromUtf8Lossy [0x61, 0xE2, 0x82, 0x62, 0xFF] = "a\uFFFDb\uFFFD" := by decide +kernel

theorem fromUtf8Lossy_toByteArray (s : String) :
    fromUtf8Lossy s.toByteArray.data.toList = s := by
  unfold fromUtf8Lossy
  rw [ObjectValue.fromUtf8_toByteArray]

/-! ### The IdentResponse -/

/-- `IdentResponsePayload`; an `RSFlag` has three bits. -/
@[ext] structure IdentResponsePayload where
  pr : PRFlag
  rs : RSFlag
  rs_lt : rs.value.toNat < 8
  nmtState : NmtState
  eplVersion : EPLVersion
  featureFlags : UInt32
  mtu : UInt16
  pollInSize : UInt16
  pollOutSize : UInt16
  responseTime : UInt32
  deviceType : UInt32
  vendorId : UInt32
  productCode : UInt32
  revisionNumber : UInt32
  serialNumber : UInt32
  verifyConfDate : UInt32
  verifyConfTime : UInt32
  appSwDate : UInt32
  appSwTime : UInt32
  ipAddress : IpAddress
  subnetMask : IpAddress
  defaultGateway : IpAddress
  hostName : String
deriving DecidableEq

namespace IdentResponsePayload

/-- The octets of the host name. -/
def hostNameBytes (p : IdentResponsePayload) : List UInt8 := p.hostName.toByteArray.data.toList

/-- The octets that are written, with their offsets. -/
def pieces (p : IdentResponsePayload) : List (Piece UInt8) :=
  [(1, [(p.pr.toByte <<< 3) ||| p.rs.value]), (2, [p.nmtState.toByte]),
    (4, [p.eplVersion.version]), (6, u32Bytes p.featureFlags), (10, u16Bytes p.mtu),
    (12, u16Bytes p.pollInSize), (14, u16Bytes p.pollOutSize), (16, u32Bytes p.responseTime),
    (22, u32Bytes p.deviceType), (26, u32Bytes p.vendorId), (30, u32Bytes p.productCode),
    (34, u32Bytes p.revisionNumber), (38, u32Bytes p.serialNumber),
    (50, u32Bytes p.verifyConfDate), (54, u32Bytes p.verifyConfTime), (58, u32Bytes p.appSwDate),
    (62, u32Bytes p.appSwTime), (66, p.ipAddress.bytes), (70, p.subnetMask.bytes),
    (74, p.defaultGateway.bytes), (78, p.hostNameBytes.take 32)]

/-- The buffer with the payload; the reserved octets are zero. -/
def written (p : IdentResponsePayload) (buffer : List UInt8) : List UInt8 :=
  spliceAll p.pieces (splice buffer 0 (List.replicate 158 0))

/-- `IdentResponsePayload::serialize`: the buffer afterwards, and how many octets are written. -/
def serialize (p : IdentResponsePayload) (buffer : List UInt8) :
    Except PowerlinkError (List UInt8 × ℕ) :=
  if buffer.length < 158 then .error .bufferTooShort
  else .ok (p.written buffer, 158)

/-- `IdentResponsePayload::deserialize`. -/
def deserialize (buffer : List UInt8) : Except PowerlinkError IdentResponsePayload :=
  if buffer.length < 158 then .error .bufferTooShort
  else do
    let octet₁ := buffer.getD 1 0
    let pr ← PRFlag.tryFrom (octet₁ >>> 3)
    let nmtState ← NmtState.tryFrom (buffer.getD 2 0)
    .ok { pr := pr
          rs := .new (octet₁ &&& 7)
          rs_lt := RSFlag.new_lt _
          nmtState := nmtState
          eplVersion := ⟨buffer.getD 4 0⟩
          featureFlags := u32At buffer 6
          mtu := u16At buffer 10
          pollInSize := u16At buffer 12
          pollOutSize := u16At buffer 14
          responseTime := u32At buffer 16
          deviceType := u32At buffer 22
          vendorId := u32At buffer 26
          productCode := u32At buffer 30
          revisionNumber := u32At buffer 34
          serialNumber := u32At buffer 38
          verifyConfDate := u32At buffer 50
          verifyConfTime := u32At buffer 54
          appSwDate := u32At buffer 58
          appSwTime := u32At buffer 62
          ipAddress := ipAt buffer 66
          subnetMask := ipAt buffer 70
          defaultGateway := ipAt buffer 74
          hostName := fromUtf8Lossy ((region buffer 78 32).takeWhile (· ≠ 0)) }

theorem length_ipBytes (a : IpAddress) : a.bytes.length = 4 := rfl

/-- The fields lie one behind the other, and the host name is the last one. -/
theorem inOrder (p : IdentResponsePayload) :
    InOrder 0 (78 + (p.hostNameBytes.take 32).length) p.pieces := by
  simp [pieces, InOrder, length_ipBytes]

theorem length_hostName_le (p : IdentResponsePayload) : (p.hostNameBytes.take 32).length ≤ 32 := by
  rw [List.length_take]
  omega

variable {p : IdentResponsePayload} {buffer : List UInt8}

theorem serialize_eq (p : IdentResponsePayload) (h : 158 ≤ buffer.length) :
    p.serialize buffer = .ok (p.written buffer, 158) :=
  if_neg (by omega)

theorem zeros_fit (h : 158 ≤ buffer.length) :
    0 + (List.replicate 158 (0 : UInt8)).length ≤ buffer.length := by
  rw [List.length_replicate]
  omega

/-- A field is read back from what was written. -/
theorem region_take_written (h : 158 ≤ buffer.length) (offset : ℕ) (data : List UInt8)
    (hmem : (offset, data) ∈ p.pieces) :
    region ((p.written buffer).take 158) offset data.length = data := by
  have hhost := p.length_hostName_le
  have hlength : (splice buffer 0 (List.replicate 158 (0 : UInt8))).length = buffer.length :=
    length_splice (zeros_fit h)
  have hbounds := p.inOrder.bounds
  rw [region_take ((hbounds _ hmem).2.trans (by omega))]
  refine region_spliceAll ?_ p.inOrder.pairwise_apart hmem
  intro piece hpiece
  have := (hbounds piece hpiece).2
  omega

/-- Behind the host name there are zeros. -/
theorem region_hostName (h : 158 ≤ buffer.length) (hshort : p.hostNameBytes.length ≤ 32) :
    region ((p.written buffer).take 158) 78 32 =
      p.hostNameBytes ++ List.replicate (32 - p.hostNameBytes.length) 0 := by
  have htake : p.hostNameBytes.take 32 = p.hostNameBytes := List.take_of_length_le hshort
  have hname := region_take_written (p := p) h 78 (p.hostNameBytes.take 32) (by simp [pieces])
  rw [htake] at hname
  have hfill := zeros_fit h
  have hzeros : (List.replicate 158 (0 : UInt8)).length = 158 := List.length_replicate
  have hrest : region ((p.written buffer).take 158)
      (78 + p.hostNameBytes.length) (32 - p.hostNameBytes.length) =
        List.replicate (32 - p.hostNameBytes.length) 0 := by
    have hbounds := p.inOrder.bounds
    rw [htake] at hbounds
    rw [region_take (by omega), written, region_spliceAll_of_apart]
    · have hwithin : 78 + p.hostNameBytes.length + (32 - p.hostNameBytes.length) ≤
          (List.replicate 158 (0 : UInt8)).length := by omega
      have hinside := region_splice_inside hfill hwithin
      rw [Nat.zero_add] at hinside
      rw [hinside, region_replicate (by omega)]
    · intro piece hpiece
      rw [length_splice hfill]
      have := (hbounds piece hpiece).2
      omega
    · intro piece hpiece
      exact .inr (hbounds piece hpiece).2
  have hsum : (32 : ℕ) = p.hostNameBytes.length + (32 - p.hostNameBytes.length) := by omega
  conv_lhs => rw [hsum]
  rw [region_add, hname, hrest]

/-- The octets that are written are decoded to the payload. -/
theorem deserialize_written (h : 158 ≤ buffer.length) (hshort : p.hostNameBytes.length ≤ 32)
    (hnul : 0 ∉ p.hostNameBytes) :
    deserialize ((p.written buffer).take 158) = .ok p := by
  have hname := region_hostName h hshort
  have hread := region_take_written (p := p) h
  have hlength : ((p.written buffer).take 158).length = 158 := by
    have hhost := p.length_hostName_le
    rw [List.length_take, written, length_spliceAll, length_splice (zeros_fit h)]
    · omega
    · intro piece hpiece
      have := (p.inOrder.bounds piece hpiece).2
      rw [length_splice (zeros_fit h)]
      omega
  generalize (p.written buffer).take 158 = octets at hname hread hlength
  have hoctet₁ : octets.getD 1 0 = (p.pr.toByte <<< 3) ||| p.rs.value :=
    getD_of_region (hread 1 [(p.pr.toByte <<< 3) ||| p.rs.value] (by simp [pieces])) 0
  have hstate : NmtState.tryFrom (octets.getD 2 0) = .ok p.nmtState := by
    rw [getD_of_region (hread 2 [p.nmtState.toByte] (by simp [pieces])) 0,
      NmtState.tryFrom_toByte]
  have hoctet₄ : octets.getD 4 0 = p.eplVersion.version :=
    getD_of_region (hread 4 [p.eplVersion.version] (by simp [pieces])) 0
  obtain ⟨hpr, hrs⟩ := requestFlags_octet p.pr p.rs_lt
  rw [← hoctet₁] at hpr hrs
  have hhostName : (region octets 78 32).takeWhile (· ≠ 0) = p.hostNameBytes := by
    rw [hname, List.takeWhile_append_of_pos]
    · cases 32 - p.hostNameBytes.length with
      | zero => exact List.append_nil _
      | succ n => simp [List.replicate_succ]
    · intro b hb
      exact decide_eq_true fun hzero => hnul (hzero ▸ hb)
  unfold deserialize
  rw [if_neg (by omega)]
  refine bind_eq_ok_iff.mpr ⟨p.pr, hpr, bind_eq_ok_iff.mpr ⟨p.nmtState, hstate, ?_⟩⟩
  apply congrArg Except.ok
  apply IdentResponsePayload.ext
  case rs => exact hrs
  case eplVersion => rw [hoctet₄]
  case featureFlags => exact u32At_eq (hread _ _ (by simp [pieces]))
  case mtu => exact u16At_eq (hread _ _ (by simp [pieces]))
  case pollInSize => exact u16At_eq (hread _ _ (by simp [pieces]))
  case pollOutSize => exact u16At_eq (hread _ _ (by simp [pieces]))
  case responseTime => exact u32At_eq (hread _ _ (by simp [pieces]))
  case deviceType => exact u32At_eq (hread _ _ (by simp [pieces]))
  case vendorId => exact u32At_eq (hread _ _ (by simp [pieces]))
  case productCode => exact u32At_eq (hread _ _ (by simp [pieces]))
  case revisionNumber => exact u32At_eq (hread _ _ (by simp [pieces]))
  case serialNumber => exact u32At_eq (hread _ _ (by simp [pieces]))
  case verifyConfDate => exact u32At_eq (hread _ _ (by simp [pieces]))
  case verifyConfTime => exact u32At_eq (hread _ _ (by simp [pieces]))
  case appSwDate => exact u32At_eq (hread _ _ (by simp [pieces]))
  case appSwTime => exact u32At_eq (hread _ _ (by simp [pieces]))
  case ipAddress => exact ipAt_eq (hread _ _ (by simp [pieces]))
  case subnetMask => exact ipAt_eq (hread _ _ (by simp [pieces]))
  case defaultGateway => exact ipAt_eq (hread _ _ (by simp [pieces]))
  case hostName =>
    rw [hhostName]
    exact fromUtf8Lossy_toByteArray p.hostName
  all_goals rfl

/-! ### The payload of a controlled node -/

/-- The octets of an address that the dictionary has as a word. -/
def ipOfWord (w : UInt32) : IpAddress :=
  ⟨UInt8.ofNat w.toNat, UInt8.ofNat (w.toNat / 256), UInt8.ofNat (w.toNat / 256 / 256),
    UInt8.ofNat (w.toNat / 256 / 256 / 256)⟩

theorem bytes_ipOfWord (w : UInt32) : (ipOfWord w).bytes = u32Bytes w := rfl

/-- The payload that a controlled node fills. -/
def ofNode (r : IdentResponse) (h : r.rs.value.toNat < 8) : IdentResponsePayload where
  pr := r.pr
  rs := r.rs
  rs_lt := h
  nmtState := r.nmtState
  eplVersion := r.eplVersion
  featureFlags := r.featureFlags
  mtu := r.mtu
  pollInSize := r.pollInSize
  pollOutSize := r.pollOutSize
  responseTime := r.responseTime
  deviceType := r.deviceType
  vendorId := r.vendorId
  productCode := r.productCode
  revisionNumber := r.revisionNumber
  serialNumber := r.serialNumber
  verifyConfDate := r.verifyConfDate
  verifyConfTime := r.verifyConfTime
  appSwDate := r.appSwDate
  appSwTime := r.appSwTime
  ipAddress := ipOfWord r.ipAddress
  subnetMask := ipOfWord r.subnetMask
  defaultGateway := ipOfWord r.defaultGateway
  hostName := r.hostName

/-- What a controlled node sends is what is written. -/
theorem take_written_ofNode (r : IdentResponse) (hrs : r.rs.value.toNat < 8)
    (h : 158 ≤ buffer.length) :
    ((ofNode r hrs).written buffer).take 158 = r.serialize := by
  have hzero : ∀ offset length, offset + length ≤ 158 →
      region (splice buffer 0 (List.replicate 158 0)) offset length =
        List.replicate length 0 := by
    intro offset length hle
    rw [← Nat.zero_add offset, region_splice_inside (zeros_fit h)
      (by rw [List.length_replicate]; exact hle), region_replicate hle]
  have horder : InOrder 0 158 (ofNode r hrs).pieces := by
    simp [pieces, InOrder, length_ipBytes]
    omega
  have hlength : (splice buffer 0 (List.replicate 158 (0 : UInt8))).length = buffer.length :=
    length_splice (zeros_fit h)
  have hlayout := region_spliceAll_eq_layout horder (by rw [hlength]; exact h)
  rw [Nat.sub_zero, region_zero] at hlayout
  rw [written, hlayout]
  generalize splice buffer 0 (List.replicate 158 (0 : UInt8)) = base at hzero
  have hrest : ∀ n ≤ 32, region base (78 + n) (158 - (78 + n)) =
      List.replicate (32 - n) 0 ++ List.replicate 48 0 := by
    intro n hn
    have hsum : 158 - (78 + n) = (32 - n) + 48 := by omega
    rw [hzero _ _ (by omega), hsum, List.replicate_add]
  simp [layout, pieces, hzero, length_ipBytes]
  rw [hrest _ (by omega)]
  unfold IdentResponse.serialize
  simp only [ofNode, bytes_ipOfWord, hostNameBytes, List.length_take, List.append_assoc]
  rfl

/-- The fields that a managing node keeps. -/
def kept (p : IdentResponsePayload) : Powerlink.IdentResponsePayload where
  nmtState := p.nmtState
  deviceType := p.deviceType
  vendorId := p.vendorId
  productCode := p.productCode
  revisionNumber := p.revisionNumber
  serialNumber := p.serialNumber
  verifyConfDate := p.verifyConfDate
  verifyConfTime := p.verifyConfTime
  appSwDate := p.appSwDate
  appSwTime := p.appSwTime

/-- A managing node decodes a payload and keeps these fields. -/
theorem deserialize_kept (buffer : List UInt8) :
    Powerlink.IdentResponsePayload.deserialize buffer = (deserialize buffer).map kept := by
  unfold Powerlink.IdentResponsePayload.deserialize deserialize
  by_cases h : buffer.length < 158
  · rw [if_pos h, if_pos h]
    rfl
  · rw [if_neg h, if_neg h]
    cases hpr : PRFlag.tryFrom (buffer.getD 1 0 >>> 3) with
    | error e => simp only [bind, Except.bind, Except.map, hpr]
    | ok pr =>
        cases hstate : NmtState.tryFrom (buffer.getD 2 0) with
        | error e => simp only [bind, Except.bind, Except.map, hpr]
        | ok nmtState => simp only [bind, Except.bind, Except.map, hpr, kept]

end IdentResponsePayload

end ServicePayloads

end Powerlink
