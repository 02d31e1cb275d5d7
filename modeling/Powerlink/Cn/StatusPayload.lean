import Powerlink.Cn.IdentPayload

/-! # The payload of a StatusResponse

The codec of `frame/control/status_response.rs` with all its fields.  The entries are put together in
a buffer of their own, which the next entry writes over; each ends up in a slot of twenty octets as
`ErrorEntry::serialize` has it (`spliceAll_entryPieces`), and the loop of the decoder reads the slots
up to the terminator (`readErrorEntries_of_slots`).

What a controlled node sends is what is written (`take_written_ofNode`), and the decoders of a
managing node keep the NMT state and the entries (`deserialize_kept`). -/

namespace Powerlink

namespace ServicePayloads

open LittleEndian Regions

/-- `StaticErrorBitField`. -/
structure StaticErrorBitField where
  errorRegister : UInt8
  specificErrors : { octets : List UInt8 // octets.length = 7 }
deriving DecidableEq

namespace StaticErrorBitField

/-- `StaticErrorBitField::serialize`. -/
def serialize (f : StaticErrorBitField) (buffer : List UInt8) :
    Except PowerlinkError (List UInt8 × ℕ) :=
  if buffer.length < 8 then .error .bufferTooShort
  else .ok (splice (splice buffer 0 [f.errorRegister]) 1 f.specificErrors, 8)

/-- `StaticErrorBitField::deserialize`. -/
def deserialize (buffer : List UInt8) : Except PowerlinkError StaticErrorBitField :=
  if buffer.length < 8 then .error .bufferTooShort
  else if h : (region buffer 1 7).length = 7 then
    .ok ⟨buffer.getD 0 0, ⟨region buffer 1 7, h⟩⟩
  else .error .sliceConversion

/-- The octets of the bit field. -/
def bytes (f : StaticErrorBitField) : List UInt8 := f.errorRegister :: f.specificErrors

theorem length_bytes (f : StaticErrorBitField) : f.bytes.length = 8 :=
  congrArg Nat.succ f.specificErrors.2

/-- A window of eight octets becomes the bit field. -/
theorem serialize_eq (f : StaticErrorBitField) {buffer : List UInt8} (h : buffer.length = 8) :
    f.serialize buffer = .ok (f.bytes, 8) := by
  have hseven := f.specificErrors.2
  have horder : InOrder 0 8 [(0, [f.errorRegister]), (1, f.specificErrors.1)] := by
    simp [InOrder, hseven]
  have hlayout := region_spliceAll_eq_layout horder h.ge
  have hlength : (spliceAll [(0, [f.errorRegister]), (1, f.specificErrors.1)] buffer).length =
      8 := by
    rw [length_spliceAll fun piece hpiece => (horder.bounds piece hpiece).2.trans h.ge, h]
  rw [Nat.sub_zero, region_zero, List.take_of_length_le hlength.le] at hlayout
  unfold serialize
  rw [if_neg (by omega)]
  refine congrArg (fun octets => Except.ok (octets, 8)) (hlayout.trans ?_)
  simp [layout, hseven, region, bytes]

theorem deserialize_bytes (f : StaticErrorBitField) : deserialize f.bytes = .ok f := by
  have hseven := f.specificErrors.2
  have hregion : region f.bytes 1 7 = f.specificErrors := List.take_of_length_le hseven.le
  unfold deserialize
  rw [if_neg (by rw [length_bytes]; decide), dif_pos (by rw [hregion, hseven])]
  obtain ⟨errorRegister, specificErrors⟩ := f
  exact congrArg (fun octets => Except.ok (⟨errorRegister, octets⟩ : StaticErrorBitField))
    (Subtype.ext hregion)

end StaticErrorBitField

/-! ### Error entries -/

/-- `ErrorEntryMode::try_from`. -/
def errorEntryModeTryFrom (value : UInt8) : Except PowerlinkError ErrorEntryMode :=
  if value = 0 then .ok .terminator
  else if value = 1 then .ok .errorActive
  else if value = 2 then .ok .errorCleared
  else if value = 3 then .ok .eventOccurred
  else .error .invalidEnumValue

/-- `EntryType::from_u16`. -/
def entryTypeFromU16 (value : UInt16) : Except PowerlinkError EntryType := do
  let mode ← errorEntryModeTryFrom ((value >>> 12) &&& 3).toUInt8
  .ok { isStatusEntry := decide (value &&& 0x8000 ≠ 0)
        sendToQueue := decide (value &&& 0x4000 ≠ 0)
        mode := mode
        profile := value &&& 0x0FFF }

/-- `ErrorEntry::deserialize`. -/
def deserializeErrorEntry (buffer : List UInt8) : Except PowerlinkError ErrorEntry :=
  if buffer.length < 20 then .error .bufferTooShort
  else do
    let entryType ← entryTypeFromU16 (u16At buffer 0)
    .ok { entryType := entryType
          errorCode := u16At buffer 2
          timestamp := ⟨u32At buffer 4, u32At buffer 8⟩
          additionalInformation := u64OfBytes (region buffer 12 8) }

/-- Two bits are a mode. -/
theorem errorEntryModeTryFrom_bits (value : UInt16) :
    errorEntryModeTryFrom ((value >>> 12) &&& 3).toUInt8 =
      .ok (.ofBits ((value >>> 12) &&& 3)) := by
  have hall : ∀ v : Fin 4, errorEntryModeTryFrom (UInt16.ofNat v).toUInt8 =
      .ok (.ofBits (UInt16.ofNat v)) := by decide
  generalize value >>> 12 = bits
  have hlt : (bits &&& 3).toNat < 4 := by
    have hand := Nat.and_two_pow_sub_one_eq_mod bits.toNat 2
    have hmask : (3 : UInt16).toNat = 2 ^ 2 - 1 := rfl
    rw [UInt16.toNat_and, hmask, hand]
    exact Nat.mod_lt _ (by decide)
  have hbits := hall ⟨(bits &&& 3).toNat, hlt⟩
  rwa [UInt16.ofNat_toNat] at hbits

theorem deserializeErrorEntry_eq {buffer : List UInt8} (h : 20 ≤ buffer.length) :
    deserializeErrorEntry buffer = .ok (ErrorEntry.deserialize buffer) := by
  unfold deserializeErrorEntry entryTypeFromU16
  rw [if_neg (by omega), errorEntryModeTryFrom_bits]
  rfl

/-! ### The loops over the entries -/

/-- The first word of an entry, as `StatusResponsePayload::serialize` puts it together. -/
def entryTypeVal (t : EntryType) : UInt16 :=
  let status : UInt16 := if t.isStatusEntry then (1 : UInt16) <<< (15 : UInt16) else 0
  let queue : UInt16 := if t.sendToQueue then (1 : UInt16) <<< (14 : UInt16) else 0
  (t.profile &&& (0x0FFF : UInt16)) ||| (t.mode.toU16 <<< (12 : UInt16)) ||| status ||| queue

theorem entryTypeVal_eq (t : EntryType) : entryTypeVal t = t.toU16 := rfl

/-- The octets that an entry puts into the entry buffer. -/
def entryPieces (entry : ErrorEntry) : List (Piece UInt8) :=
  [(0, u16Bytes (entryTypeVal entry.entryType)), (2, u16Bytes entry.errorCode),
    (4, u32Bytes entry.timestamp.seconds), (8, u32Bytes entry.timestamp.nanoseconds),
    (12, u64Bytes entry.additionalInformation)]

/-- The variables of the loop of `StatusResponsePayload::serialize`. -/
structure EntryLoop where
  buffer : List UInt8
  offset : ℕ
  entryBuffer : List UInt8

/-- One round: the entry buffer is filled and copied. -/
def EntryLoop.write (s : EntryLoop) (entry : ErrorEntry) : EntryLoop :=
  let entryBuffer := spliceAll (entryPieces entry) s.entryBuffer
  { buffer := splice s.buffer s.offset entryBuffer
    offset := s.offset + 20
    entryBuffer := entryBuffer }

/-- What is in the entry buffer from the entry before is written over. -/
theorem spliceAll_entryPieces (entry : ErrorEntry) {entryBuffer : List UInt8}
    (h : entryBuffer.length = 20) :
    spliceAll (entryPieces entry) entryBuffer = entry.serialize := by
  have horder : InOrder 0 20 (entryPieces entry) := by
    simp [entryPieces, InOrder]
  have hlayout := region_spliceAll_eq_layout horder h.ge
  have hlength : (spliceAll (entryPieces entry) entryBuffer).length = 20 := by
    rw [length_spliceAll fun piece hpiece => (horder.bounds piece hpiece).2.trans h.ge, h]
  rw [Nat.sub_zero, region_zero, List.take_of_length_le hlength.le] at hlayout
  rw [hlayout]
  simp [layout, entryPieces, region, entryTypeVal_eq, ErrorEntry.serialize]

/-- The entries in the buffer, one every twenty octets. -/
def entrySlots : ℕ → List ErrorEntry → List (Piece UInt8)
  | _, [] => []
  | offset, entry :: entries => (offset, entry.serialize) :: entrySlots (offset + 20) entries

theorem foldl_write (entries : List ErrorEntry) : ∀ {s : EntryLoop}, s.entryBuffer.length = 20 →
    (entries.foldl EntryLoop.write s).buffer = spliceAll (entrySlots s.offset entries) s.buffer ∧
      (entries.foldl EntryLoop.write s).offset = s.offset + 20 * entries.length ∧
        (entries.foldl EntryLoop.write s).entryBuffer.length = 20 := by
  induction entries with
  | nil => exact fun h => ⟨rfl, rfl, h⟩
  | cons entry entries ih =>
      intro s h
      have hentry := spliceAll_entryPieces entry h
      have hlength : (s.write entry).entryBuffer.length = 20 := by
        have hwrite : (s.write entry).entryBuffer = entry.serialize := hentry
        rw [hwrite, entry.length_serialize]
      obtain ⟨hbuffer, hoffset, hrest⟩ := ih hlength
      refine ⟨?_, ?_, hrest⟩
      · rw [List.foldl_cons, hbuffer]
        unfold EntryLoop.write
        rw [hentry]
        rfl
      · rw [List.foldl_cons, hoffset, List.length_cons]
        change s.offset + 20 + 20 * entries.length = _
        omega

theorem inOrder_entrySlots (entries : List ErrorEntry) : ∀ offset : ℕ,
    InOrder offset (offset + 20 * entries.length) (entrySlots offset entries) := by
  induction entries with
  | nil => exact fun offset => le_rfl
  | cons entry entries ih =>
      intro offset
      have hrest := ih (offset + 20)
      have hsum : offset + 20 + 20 * entries.length = offset + 20 * (entry :: entries).length := by
        rw [List.length_cons]
        omega
      rw [hsum] at hrest
      refine ⟨le_rfl, ?_⟩
      rw [entry.length_serialize]
      exact hrest

theorem mem_entrySlots {entries : List ErrorEntry} {i : ℕ} {entry : ErrorEntry} :
    ∀ {offset : ℕ}, entries[i]? = some entry →
      (offset + 20 * i, entry.serialize) ∈ entrySlots offset entries := by
  induction entries generalizing i with
  | nil =>
      intro offset h
      cases h
  | cons first entries ih =>
      intro offset h
      cases i with
      | zero =>
          cases h
          exact List.mem_cons_self
      | succ i =>
          have hmem : (offset + 20 + 20 * i, entry.serialize) ∈
              entrySlots (offset + 20) entries := ih h
          have hsum : offset + 20 + 20 * i = offset + 20 * (i + 1) := by omega
          rw [hsum] at hmem
          exact List.mem_cons_of_mem _ hmem

/-- The loop of `StatusResponsePayload::deserialize` from an offset on. -/
def readErrorEntries (buffer : List UInt8) (offset : ℕ) : Except PowerlinkError (List ErrorEntry) :=
  if buffer.length < offset + 20 then .ok []
  else do
    let entry ← deserializeErrorEntry (region buffer offset 20)
    if entry.entryType.mode = .terminator then .ok []
    else do
      let entries ← readErrorEntries buffer (offset + 20)
      .ok (entry :: entries)
termination_by buffer.length - offset

theorem length_region {buffer : List UInt8} {offset length : ℕ}
    (h : offset + length ≤ buffer.length) : (region buffer offset length).length = length := by
  unfold region
  rw [List.length_take, List.length_drop]
  omega

/-- Entries in their slots are read up to the terminator. -/
theorem readErrorEntries_of_slots {buffer : List UInt8} {entries : List ErrorEntry} :
    ∀ {offset : ℕ}, (∀ e ∈ entries, e.Reportable) →
      (∀ i e, entries[i]? = some e → region buffer (offset + 20 * i) 20 = e.serialize) →
      region buffer (offset + 20 * entries.length) 20 = List.replicate 20 0 →
      offset + 20 * entries.length + 20 ≤ buffer.length →
        readErrorEntries buffer offset = .ok entries := by
  induction entries with
  | nil =>
      intro offset _ _ hend hlength
      rw [readErrorEntries, if_neg (by simpa using hlength)]
      rw [List.length_nil, Nat.mul_zero, Nat.add_zero] at hend
      rw [hend]
      rfl
  | cons entry entries ih =>
      intro offset hreport hslots hend hlength
      rw [List.length_cons] at hend hlength
      rw [List.forall_mem_cons] at hreport
      have hfirst : region buffer offset 20 = entry.serialize := hslots 0 entry rfl
      have hentry : deserializeErrorEntry (region buffer offset 20) = .ok entry := by
        rw [deserializeErrorEntry_eq (by rw [length_region (by omega)]), hfirst,
          ErrorEntry.deserialize_serialize hreport.1.profile]
      have hrest : readErrorEntries buffer (offset + 20) = .ok entries := by
        apply ih hreport.2
        · intro i e he
          have hslot := hslots (i + 1) e he
          have hsum : offset + 20 * (i + 1) = offset + 20 + 20 * i := by omega
          rwa [hsum] at hslot
        · have hsum : offset + 20 * (entries.length + 1) = offset + 20 + 20 * entries.length := by
            omega
          rwa [hsum] at hend
        · omega
      rw [readErrorEntries, if_neg (by omega), hentry]
      refine bind_eq_ok_iff.mpr ⟨entry, rfl, ?_⟩
      rw [if_neg hreport.1.mode, hrest]
      rfl

/-- The rounds that `readEntries` is given are enough for the loop. -/
theorem readErrorEntries_eq (buffer : List UInt8) : ∀ (rounds offset : ℕ),
    buffer.length < offset + 20 + 20 * rounds →
      readErrorEntries buffer offset = .ok (readEntries rounds (buffer.drop offset)) := by
  intro rounds
  induction rounds with
  | zero =>
      intro offset h
      rw [readErrorEntries, if_pos (by omega)]
      rfl
  | succ rounds ih =>
      intro offset h
      rw [readErrorEntries, readEntries]
      by_cases hshort : buffer.length < offset + 20
      · rw [if_pos hshort, if_pos (by rw [List.length_drop]; omega)]
      · have hrest := ih (offset + 20) (by omega)
        have hentry : deserializeErrorEntry (region buffer offset 20) =
            .ok (ErrorEntry.deserialize ((buffer.drop offset).take 20)) :=
          deserializeErrorEntry_eq (by rw [length_region (by omega)])
        rw [if_neg hshort, if_neg (by rw [List.length_drop]; omega), hentry]
        refine bind_eq_ok_iff.mpr ⟨_, rfl, ?_⟩
        by_cases hend : (ErrorEntry.deserialize ((buffer.drop offset).take 20)).entryType.mode =
            .terminator
        · simp only [if_pos hend]
        · simp only [if_neg hend, hrest, List.drop_drop]
          rfl

/-! ### The payload -/

/-- `StatusResponsePayload`; an `RSFlag` has three bits. -/
@[ext] structure StatusResponsePayload where
  enFlag : Bool
  ecFlag : Bool
  pr : PRFlag
  rs : RSFlag
  rs_lt : rs.value.toNat < 8
  nmtState : NmtState
  staticErrorBitField : StaticErrorBitField
  errorEntries : List ErrorEntry

namespace StatusResponsePayload

instance : DecidableEq StatusResponsePayload := fun _ _ =>
  decidable_of_iff _ StatusResponsePayload.ext_iff.symm

/-- `StatusResponsePayload::serialize`: the buffer afterwards, and how many octets are written. -/
def serialize (p : StatusResponsePayload) (buffer : List UInt8) :
    Except PowerlinkError (List UInt8 × ℕ) :=
  let requiredSize := 14 + p.errorEntries.length * 20 + 20
  if buffer.length < requiredSize then .error .bufferTooShort
  else do
    let buffer := splice buffer 0 (List.replicate 14 0)
    let buffer := spliceAll [(0, [flagBit p.enFlag 5 ||| flagBit p.ecFlag 4]),
      (1, [(p.pr.toByte <<< 3) ||| p.rs.value]), (2, [p.nmtState.toByte])] buffer
    let (field, _) ← p.staticErrorBitField.serialize (region buffer 6 8)
    let s := p.errorEntries.foldl EntryLoop.write ⟨splice buffer 6 field, 14, List.replicate 20 0⟩
    let entryBuffer := List.replicate s.entryBuffer.length 0
    .ok (splice s.buffer s.offset entryBuffer, s.offset + 20)

/-- `StatusResponsePayload::deserialize`. -/
def deserialize (buffer : List UInt8) : Except PowerlinkError StatusResponsePayload :=
  if buffer.length < 14 then .error .bufferTooShort
  else do
    let octet₀ := buffer.getD 0 0
    let octet₁ := buffer.getD 1 0
    let pr ← PRFlag.tryFrom (octet₁ >>> 3)
    let nmtState ← NmtState.tryFrom (buffer.getD 2 0)
    let staticErrorBitField ← StaticErrorBitField.deserialize (region buffer 6 8)
    let errorEntries ← readErrorEntries buffer 14
    let rsBits := octet₁ &&& 7
    .ok { enFlag := hasBit octet₀ 5
          ecFlag := hasBit octet₀ 4
          pr := pr
          rs := .new rsBits
          rs_lt := RSFlag.new_lt rsBits
          nmtState := nmtState
          staticErrorBitField := staticErrorBitField
          errorEntries := errorEntries }

/-- The octets that are written, with their offsets; the last ones are the terminator. -/
def pieces (p : StatusResponsePayload) : List (Piece UInt8) :=
  [(0, [flagBit p.enFlag 5 ||| flagBit p.ecFlag 4]), (1, [(p.pr.toByte <<< 3) ||| p.rs.value]),
    (2, [p.nmtState.toByte]), (6, p.staticErrorBitField.bytes)] ++
      (entrySlots 14 p.errorEntries ++ [(14 + 20 * p.errorEntries.length, List.replicate 20 0)])

theorem inOrder (p : StatusResponsePayload) :
    InOrder 0 (34 + 20 * p.errorEntries.length) p.pieces := by
  have hheader : InOrder 0 14 [(0, [flagBit p.enFlag 5 ||| flagBit p.ecFlag 4]),
      (1, [(p.pr.toByte <<< 3) ||| p.rs.value]), (2, [p.nmtState.toByte]),
      (6, p.staticErrorBitField.bytes)] := by
    simp [InOrder, p.staticErrorBitField.length_bytes]
  refine hheader.append ((inOrder_entrySlots p.errorEntries 14).append ⟨le_rfl, ?_⟩)
  change 14 + 20 * p.errorEntries.length + 20 ≤ 34 + 20 * p.errorEntries.length
  omega

variable {p : StatusResponsePayload} {buffer : List UInt8}

/-- The buffer with the payload. -/
def written (p : StatusResponsePayload) (buffer : List UInt8) : List UInt8 :=
  spliceAll p.pieces (splice buffer 0 (List.replicate 14 0))

theorem header_fits (h : 14 ≤ buffer.length) :
    0 + (List.replicate 14 (0 : UInt8)).length ≤ buffer.length := by
  rw [List.length_replicate]
  omega

theorem length_written (h : 34 + 20 * p.errorEntries.length ≤ buffer.length) :
    (p.written buffer).length = buffer.length := by
  have hfill := length_splice (header_fits (by omega : 14 ≤ buffer.length))
  unfold written
  rw [length_spliceAll, hfill]
  intro piece hpiece
  have := (p.inOrder.bounds piece hpiece).2
  omega

/-- The windows, the entry buffer and the offsets of the source write the pieces. -/
theorem serialize_eq (h : 34 + 20 * p.errorEntries.length ≤ buffer.length) :
    p.serialize buffer = .ok (p.written buffer, 34 + 20 * p.errorEntries.length) := by
  have hfill := length_splice (header_fits (by omega : 14 ≤ buffer.length))
  have hflags : (spliceAll [(0, [flagBit p.enFlag 5 ||| flagBit p.ecFlag 4]),
      (1, [(p.pr.toByte <<< 3) ||| p.rs.value]), (2, [p.nmtState.toByte])]
        (splice buffer 0 (List.replicate 14 (0 : UInt8)))).length = buffer.length := by
    rw [length_spliceAll, hfill]
    intro piece hpiece
    have horder : InOrder 0 3 [(0, [flagBit p.enFlag 5 ||| flagBit p.ecFlag 4]),
        (1, [(p.pr.toByte <<< 3) ||| p.rs.value]), (2, [p.nmtState.toByte])] := by
      simp [InOrder]
    have := (horder.bounds piece hpiece).2
    omega
  have hfield := p.staticErrorBitField.serialize_eq (length_region (by omega :
    6 + 8 ≤ (spliceAll [(0, [flagBit p.enFlag 5 ||| flagBit p.ecFlag 4]),
      (1, [(p.pr.toByte <<< 3) ||| p.rs.value]), (2, [p.nmtState.toByte])]
        (splice buffer 0 (List.replicate 14 (0 : UInt8)))).length))
  unfold serialize
  rw [if_neg (by omega)]
  refine bind_eq_ok_iff.mpr ⟨_, hfield, ?_⟩
  obtain ⟨hbuffer, hoffset, hentry⟩ := foldl_write p.errorEntries
    (s := ⟨splice (spliceAll [(0, [flagBit p.enFlag 5 ||| flagBit p.ecFlag 4]),
      (1, [(p.pr.toByte <<< 3) ||| p.rs.value]), (2, [p.nmtState.toByte])]
        (splice buffer 0 (List.replicate 14 0))) 6 p.staticErrorBitField.bytes, 14,
        List.replicate 20 0⟩) List.length_replicate
  have hsum : 14 + 20 * p.errorEntries.length + 20 = 34 + 20 * p.errorEntries.length := by omega
  simp only [hbuffer, hoffset, hentry, hsum]
  unfold written pieces
  rw [spliceAll_append, spliceAll_append]
  rfl

/-- A piece is read back from what was written. -/
theorem region_take_written (h : 34 + 20 * p.errorEntries.length ≤ buffer.length) (offset : ℕ)
    (data : List UInt8) (hmem : (offset, data) ∈ p.pieces) :
    region ((p.written buffer).take (34 + 20 * p.errorEntries.length)) offset data.length =
      data := by
  have hfill := length_splice (header_fits (by omega : 14 ≤ buffer.length))
  have hbounds := p.inOrder.bounds
  rw [region_take (hbounds _ hmem).2]
  refine region_spliceAll ?_ p.inOrder.pairwise_apart hmem
  intro piece hpiece
  have := (hbounds piece hpiece).2
  omega

/-- The octets of an entry in the buffer. -/
theorem region_entry (h : 34 + 20 * p.errorEntries.length ≤ buffer.length) {i : ℕ}
    {entry : ErrorEntry} (hentry : p.errorEntries[i]? = some entry) :
    region ((p.written buffer).take (34 + 20 * p.errorEntries.length)) (14 + 20 * i) 20 =
      entry.serialize := by
  have hread := region_take_written h (14 + 20 * i) entry.serialize
    (List.mem_append_right _ (List.mem_append_left _ (mem_entrySlots hentry)))
  rwa [entry.length_serialize] at hread

theorem flags_octet (enFlag ecFlag : Bool) :
    hasBit (flagBit enFlag 5 ||| flagBit ecFlag 4) 5 = enFlag ∧
      hasBit (flagBit enFlag 5 ||| flagBit ecFlag 4) 4 = ecFlag := by
  cases enFlag <;> cases ecFlag <;> decide

/-- The octets that are written are decoded to the payload. -/
theorem deserialize_written (h : 34 + 20 * p.errorEntries.length ≤ buffer.length)
    (hreport : ∀ e ∈ p.errorEntries, e.Reportable) :
    deserialize ((p.written buffer).take (34 + 20 * p.errorEntries.length)) = .ok p := by
  have hread := region_take_written h
  have hslots : ∀ i entry, p.errorEntries[i]? = some entry →
      region ((p.written buffer).take (34 + 20 * p.errorEntries.length)) (14 + 20 * i) 20 =
        entry.serialize := fun _ _ hentry => region_entry h hentry
  have hend := hread (14 + 20 * p.errorEntries.length) (List.replicate 20 0)
    (List.mem_append_right _ (List.mem_append_right _ List.mem_cons_self))
  rw [List.length_replicate] at hend
  have hlength : ((p.written buffer).take (34 + 20 * p.errorEntries.length)).length =
      34 + 20 * p.errorEntries.length := by
    rw [List.length_take, length_written h]
    omega
  generalize (p.written buffer).take (34 + 20 * p.errorEntries.length) = octets
    at hread hslots hend hlength
  have hoctet₀ : octets.getD 0 0 = flagBit p.enFlag 5 ||| flagBit p.ecFlag 4 :=
    getD_of_region (hread 0 [flagBit p.enFlag 5 ||| flagBit p.ecFlag 4] (by simp [pieces])) 0
  have hoctet₁ : octets.getD 1 0 = (p.pr.toByte <<< 3) ||| p.rs.value :=
    getD_of_region (hread 1 [(p.pr.toByte <<< 3) ||| p.rs.value] (by simp [pieces])) 0
  have hstate : NmtState.tryFrom (octets.getD 2 0) = .ok p.nmtState := by
    rw [getD_of_region (hread 2 [p.nmtState.toByte] (by simp [pieces])) 0,
      NmtState.tryFrom_toByte]
  have hfield : StaticErrorBitField.deserialize (region octets 6 8) =
      .ok p.staticErrorBitField := by
    have hbytes := hread 6 p.staticErrorBitField.bytes (by simp [pieces])
    rw [p.staticErrorBitField.length_bytes] at hbytes
    rw [hbytes, StaticErrorBitField.deserialize_bytes]
  have hentries : readErrorEntries octets 14 = .ok p.errorEntries :=
    readErrorEntries_of_slots hreport hslots hend (by omega)
  obtain ⟨hpr, hrs⟩ := requestFlags_octet p.pr p.rs_lt
  rw [← hoctet₁] at hpr hrs
  obtain ⟨hen, hec⟩ := flags_octet p.enFlag p.ecFlag
  rw [← hoctet₀] at hen hec
  unfold deserialize
  rw [if_neg (by omega)]
  refine bind_eq_ok_iff.mpr ⟨p.pr, hpr, bind_eq_ok_iff.mpr ⟨p.nmtState, hstate,
    bind_eq_ok_iff.mpr ⟨p.staticErrorBitField, hfield,
      bind_eq_ok_iff.mpr ⟨p.errorEntries, hentries, ?_⟩⟩⟩⟩
  apply congrArg Except.ok
  apply StatusResponsePayload.ext
  case enFlag => exact hen
  case ecFlag => exact hec
  case rs => exact hrs
  all_goals rfl

/-! ### The payload of a node -/

/-- The payload that a controlled node fills; it has no specific errors. -/
def ofNode (r : StatusResponse) (h : r.rs.value.toNat < 8) : StatusResponsePayload where
  enFlag := r.enFlag
  ecFlag := r.ecFlag
  pr := r.pr
  rs := r.rs
  rs_lt := h
  nmtState := r.nmtState
  staticErrorBitField := ⟨r.errorRegister, ⟨List.replicate 7 0, rfl⟩⟩
  errorEntries := r.errorEntries

/-- Entries and terminator lie side by side. -/
theorem layout_entrySlots (base : List UInt8) (entries : List ErrorEntry) : ∀ offset : ℕ,
    layout base offset (offset + 20 * entries.length + 20)
      (entrySlots offset entries ++ [(offset + 20 * entries.length, List.replicate 20 0)]) =
        entries.flatMap ErrorEntry.serialize ++ List.replicate 20 0 := by
  induction entries with
  | nil =>
      intro offset
      simp [entrySlots, layout, region]
  | cons entry entries ih =>
      intro offset
      have hrest := ih (offset + 20)
      have hsum : offset + 20 + 20 * entries.length = offset + 20 * (entries.length + 1) := by
        omega
      rw [hsum] at hrest
      rw [List.flatMap_cons, List.length_cons, List.append_assoc, ← hrest]
      simp [entrySlots, layout, region, entry.length_serialize]

/-- What a controlled node sends is what is written. -/
theorem take_written_ofNode {r : StatusResponse} (hrs : r.rs.value.toNat < 8) {bufferLen : ℕ}
    {payload : List UInt8} (hpayload : r.serialize bufferLen = .ok payload)
    (h : 34 + 20 * r.errorEntries.length ≤ buffer.length) :
    ((ofNode r hrs).written buffer).take (34 + 20 * r.errorEntries.length) = payload := by
  have hfill := length_splice (header_fits (by omega : 14 ≤ buffer.length))
  have horder := (ofNode r hrs).inOrder
  have hcount : (ofNode r hrs).errorEntries = r.errorEntries := rfl
  have hlayout := region_spliceAll_eq_layout horder (by rw [hfill, hcount]; exact h)
  rw [Nat.sub_zero, region_zero, hcount] at hlayout
  have hzero : region (splice buffer 0 (List.replicate 14 0)) 3 3 = [0, 0, 0] := by
    rw [← Nat.zero_add 3, region_splice_inside (header_fits (by omega : 14 ≤ buffer.length))
      (by decide), region_replicate (by decide)]
    rfl
  have hslots := layout_entrySlots (splice buffer 0 (List.replicate 14 0)) r.errorEntries 14
  have hstop : 14 + 20 * r.errorEntries.length + 20 = 34 + 20 * r.errorEntries.length := by omega
  rw [hstop] at hslots
  unfold StatusResponse.serialize at hpayload
  split_ifs at hpayload
  rw [← Except.ok.inj hpayload, written, hlayout, List.append_assoc, ← hslots]
  generalize splice buffer 0 (List.replicate 14 (0 : UInt8)) = base at hzero
  unfold region at hzero
  simp [pieces, layout, ofNode, StaticErrorBitField.bytes, hzero, region]

/-- A managing node decodes a payload and keeps the NMT state, and the entries apart. -/
theorem deserialize_kept (octets : List UInt8) :
    Powerlink.StatusResponsePayload.deserialize octets =
        (deserialize octets).map (fun p => ⟨p.nmtState⟩) ∧
      statusEntries octets =
        ((deserialize octets).map StatusResponsePayload.errorEntries).toOption.getD [] := by
  have hentries := readErrorEntries_eq octets octets.length 14 (by omega)
  unfold statusEntries Powerlink.StatusResponsePayload.deserialize deserialize
  by_cases h : octets.length < 14
  · rw [if_pos h, if_pos h]
    exact ⟨rfl, rfl⟩
  · have hfield : ∃ field, StaticErrorBitField.deserialize (region octets 6 8) = .ok field := by
      have hwindow : (region octets 6 8).length = 8 := length_region (by omega)
      unfold StaticErrorBitField.deserialize
      rw [if_neg (by omega), dif_pos (length_region (by omega))]
      exact ⟨_, rfl⟩
    obtain ⟨field, hfield⟩ := hfield
    rw [if_neg h, if_neg h]
    cases hpr : PRFlag.tryFrom (octets.getD 1 0 >>> 3) with
    | error e => simp only [bind, Except.bind, Except.map, hpr, Except.toOption, Option.getD,
        and_self]
    | ok pr =>
        cases hstate : NmtState.tryFrom (octets.getD 2 0) with
        | error e => simp only [bind, Except.bind, Except.map, hpr, Except.toOption, Option.getD,
            and_self]
        | ok nmtState => simp only [bind, Except.bind, Except.map, hpr, hfield, hentries,
            Except.toOption, Option.getD, and_self]

end StatusResponsePayload

/-! ### Both payloads -/

/-- What is written is decoded to the same value: an IdentResponse whose host name fits and has no
zero octet, and a StatusResponse whose entries can be carried.  Each entry is written as
`ErrorEntry::serialize` has it. -/
theorem round_trips :
    (∀ (p : IdentResponsePayload) (buffer : List UInt8), 158 ≤ buffer.length →
      p.hostNameBytes.length ≤ 32 → 0 ∉ p.hostNameBytes →
        ∃ written, p.serialize buffer = .ok (written, 158) ∧
          IdentResponsePayload.deserialize (written.take 158) = .ok p) ∧
    (∀ (p : StatusResponsePayload) (buffer : List UInt8),
      34 + 20 * p.errorEntries.length ≤ buffer.length →
        ∃ written, p.serialize buffer = .ok (written, 34 + 20 * p.errorEntries.length) ∧
          (∀ i entry, p.errorEntries[i]? = some entry →
            region written (14 + 20 * i) 20 = entry.serialize ∧
              (entry.entryType.profile ≤ 0x0FFF →
                deserializeErrorEntry (region written (14 + 20 * i) 20) = .ok entry)) ∧
          ((∀ e ∈ p.errorEntries, e.Reportable) → StatusResponsePayload.deserialize
            (written.take (34 + 20 * p.errorEntries.length)) = .ok p)) := by
  constructor
  · intro p buffer h hshort hnul
    exact ⟨p.written buffer, p.serialize_eq h,
      IdentResponsePayload.deserialize_written h hshort hnul⟩
  · intro p buffer h
    refine ⟨p.written buffer, StatusResponsePayload.serialize_eq h, ?_,
      StatusResponsePayload.deserialize_written h⟩
    intro i entry hentry
    have hi : i < p.errorEntries.length := (List.getElem?_eq_some_iff.mp hentry).1
    have hslot := StatusResponsePayload.region_entry h hentry
    rw [region_take (by omega)] at hslot
    refine ⟨hslot, ?_⟩
    intro hprofile
    have hlength : 20 ≤ (region (p.written buffer) (14 + 20 * i) 20).length := by
      rw [hslot, entry.length_serialize]
    rw [deserializeErrorEntry_eq hlength, hslot, ErrorEntry.deserialize_serialize hprofile]

/-- A payload with a host name. -/
def sampleIdent : IdentResponsePayload :=
  { IdentResponsePayload.ofNode (IdentResponse.new (.new (none : Option Unit))) (by decide) with
    hostName := "cn-1" }

/-- A payload with an entry. -/
def sampleStatus : StatusResponsePayload where
  enFlag := true
  ecFlag := false
  pr := .prioNmtRequest
  rs := ⟨3⟩
  rs_lt := by decide
  nmtState := .nmtOperational
  staticErrorBitField := ⟨0xAB, ⟨[1, 2, 3, 4, 5, 6, 7], rfl⟩⟩
  errorEntries := [⟨⟨false, true, .eventOccurred, 1⟩, 0x1234, ⟨100, 500⟩, 0xAABBCCDDEEFF⟩]

theorem round_trips_samples :
    (∃ written, sampleIdent.serialize (List.replicate 158 7) = .ok (written, 158) ∧
      IdentResponsePayload.deserialize (written.take 158) = .ok sampleIdent) ∧
    (∃ written, sampleStatus.serialize (List.replicate 60 7) = .ok (written, 54) ∧
      StatusResponsePayload.deserialize (written.take 54) = .ok sampleStatus) := by
  constructor
  · exact round_trips.1 sampleIdent (List.replicate 158 7) List.length_replicate.ge
      (by decide +kernel) (by decide +kernel)
  · obtain ⟨written, hwritten, -, hdecoded⟩ :=
      round_trips.2 sampleStatus (List.replicate 60 7) (by decide)
    refine ⟨written, hwritten, hdecoded ?_⟩
    intro e he
    rw [List.mem_singleton.mp he]
    exact ⟨by decide, by decide⟩

end ServicePayloads

end Powerlink
