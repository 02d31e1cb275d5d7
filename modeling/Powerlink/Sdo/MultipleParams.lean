import Powerlink.Sdo.Segments
import Powerlink.Sdo.SequenceHandler

/-! # Reading several objects at once

The answer to `ReadMultipleParamByIndex` is the number of entries, followed for each of them by two
zero octets, the length of the value, the value and a padding to a multiple of four.  `readAnswer` is
a reader that follows the length fields.

The padding is computed before the number of entries is put in front, which does not disturb it
(`readParams_eq`), and the segments of a long answer make up the whole of it (`upload_rest`).  The
length fields are words of sixteen bits: the reader recovers the values exactly if each of them has
fewer than `2 ^ 16` octets (`multiple_params_readable_iff`). -/

namespace Powerlink

open LittleEndian Slices Handlers

variable {σ : Type}

/-! ### The format -/

/-- The entry of a value with a length field. -/
def paramEntry (length : UInt16) (value : List UInt8) : List UInt8 :=
  [0, 0] ++ u16Bytes length ++ value ++ padding value

/-- The octets of a value and its padding. -/
def paddedLength (length : ℕ) : ℕ := length + (4 - length % 4) % 4

/-- The entries at the front of some octets, and what is behind them. -/
def readParamEntries : ℕ → List UInt8 → Option (List (List UInt8) × List UInt8)
  | 0, octets => some ([], octets)
  | n + 1, _ :: _ :: l₀ :: l₁ :: octets => do
      let length := (u16OfBytes [l₀, l₁]).toNat
      let padded ← slice octets 0 (paddedLength length)
      let (values, rest) ← readParamEntries n (octets.drop (paddedLength length))
      some (padded.take length :: values, rest)
  | _ + 1, _ => none

/-- The values of an answer; nothing may be left behind them. -/
def readAnswer : List UInt8 → Option (List (List UInt8))
  | c₀ :: c₁ :: c₂ :: c₃ :: octets =>
      match readParamEntries (u32OfBytes [c₀, c₁, c₂, c₃]).toNat octets with
      | some (values, []) => some values
      | _ => none
  | _ => none

/-- The answer has the format of the values, and the reader recovers them. -/
structure Readable (values : List (List UInt8)) (answer : List UInt8) : Prop where
  layout : ∃ (count : UInt32) (lengths : List UInt16), count.toNat = values.length ∧
    lengths.map UInt16.toNat = values.map List.length ∧
      answer = u32Bytes count ++ (List.zipWith paramEntry lengths values).flatten
  recovered : readAnswer answer = some values

/-! ### What the handler writes -/

/-- The entry of a value as it is written. -/
def writtenEntry (value : List UInt8) : List UInt8 :=
  paramEntry (UInt16.ofNat value.length) value

theorem length_padding (value : List UInt8) :
    (padding value).length = (4 - value.length % 4) % 4 := List.length_replicate

theorem length_writtenEntry (value : List UInt8) :
    (writtenEntry value).length = 4 + paddedLength value.length := by
  simp only [writtenEntry, paramEntry, paddedLength, List.length_append, List.length_cons,
    List.length_nil, length_u16Bytes, length_padding]
  omega

/-- Behind whole words, the padding of the payload is that of the value. -/
theorem padding_extended {payload : List UInt8} (h : payload.length % 4 = 0) (length : UInt16)
    (value : List UInt8) :
    padding (payload ++ [0, 0] ++ u16Bytes length ++ value) = padding value := by
  unfold padding
  congr 1
  simp only [List.length_append, List.length_cons, List.length_nil, length_u16Bytes]
  omega

/-- The loop of the handler. -/
theorem readParams_eq {od : ObjectDictionary σ} {entries : List MultipleParamEntry}
    {values : List ObjectValue}
    (h : List.Forall₂ (fun e v => od.read e.index e.subIndex = some v) entries values) :
    ∀ {payload : List UInt8}, payload.length % 4 = 0 →
      readParams od entries payload =
        .ok (payload ++ (values.map fun v => writtenEntry v.serialize).flatten) := by
  induction h with
  | nil =>
      intro payload _
      simp [readParams]
  | @cons entry value entries values hread hrest ih =>
      intro payload hpayload
      have hpadding := padding_extended hpayload (UInt16.ofNat value.serialize.length)
        value.serialize
      have hnext : payload ++ [0, 0] ++ u16Bytes (UInt16.ofNat value.serialize.length) ++
          value.serialize ++ padding value.serialize = payload ++ writtenEntry value.serialize := by
        simp only [writtenEntry, paramEntry, List.append_assoc]
      have hwords : (payload ++ writtenEntry value.serialize).length % 4 = 0 := by
        rw [List.length_append, length_writtenEntry, paddedLength]
        omega
      rw [readParams, hread]
      dsimp only
      rw [hpadding, hnext, ih hwords, List.map_cons, List.flatten_cons, List.append_assoc]

/-- The answer to a request for some values. -/
def writtenAnswer (values : List (List UInt8)) : List UInt8 :=
  u32Bytes (UInt32.ofNat values.length) ++ (values.map writtenEntry).flatten

/-! ### What the reader recovers -/

theorem readParamEntries_written {values : List (List UInt8)}
    (h : ∀ v ∈ values, v.length < 2 ^ 16) (rest : List UInt8) :
    readParamEntries values.length ((values.map writtenEntry).flatten ++ rest) =
      some (values, rest) := by
  induction values with
  | nil => rfl
  | cons value values ih =>
      obtain ⟨l₀, l₁, hl⟩ : ∃ l₀ l₁, u16Bytes (UInt16.ofNat value.length) = [l₀, l₁] :=
        ⟨_, _, rfl⟩
      have hshort : value.length < 2 ^ 16 := h value List.mem_cons_self
      have hlength : (u16OfBytes [l₀, l₁]).toNat = value.length := by
        rw [← hl, u16OfBytes_u16Bytes]
        exact UInt16.toNat_ofNat_of_lt' hshort
      have hpadded : (value ++ padding value).length = paddedLength value.length := by
        rw [List.length_append, length_padding, paddedLength]
      have hoctets : ((value :: values).map writtenEntry).flatten ++ rest =
          0 :: 0 :: l₀ :: l₁ :: ((value ++ padding value) ++
            ((values.map writtenEntry).flatten ++ rest)) := by
        simp [writtenEntry, paramEntry, hl]
      have hslice : slice ((value ++ padding value) ++ ((values.map writtenEntry).flatten ++ rest))
          0 (paddedLength value.length) = some (value ++ padding value) := by
        have hle : paddedLength value.length ≤ ((value ++ padding value) ++
            ((values.map writtenEntry).flatten ++ rest)).length := by
          rw [List.length_append, hpadded]
          omega
        rw [slice_zero hle, List.take_left' hpadded]
      rw [List.length_cons, hoctets, readParamEntries]
      dsimp only
      rw [hlength, hslice, List.drop_left' hpadded,
        ih fun v hv => h v (List.mem_cons_of_mem value hv)]
      simp

/-- A length field is a word. -/
theorem readParamEntries_length : ∀ {n : ℕ} {octets rest : List UInt8}
    {values : List (List UInt8)}, readParamEntries n octets = some (values, rest) →
      values.length = n ∧ ∀ v ∈ values, v.length < 2 ^ 16
  | 0, _, _, _, h => by
      obtain ⟨rfl, -⟩ := Prod.mk.inj (Option.some.inj h)
      exact ⟨rfl, nofun⟩
  | n + 1, [], _, _, h => by cases h
  | n + 1, [_], _, _, h => by cases h
  | n + 1, [_, _], _, _, h => by cases h
  | n + 1, [_, _, _], _, _, h => by cases h
  | n + 1, _ :: _ :: l₀ :: l₁ :: octets, rest, _, h => by
      rw [readParamEntries] at h
      obtain ⟨padded, -, h⟩ := Option.bind_eq_some_iff.mp h
      obtain ⟨⟨values, rest'⟩, hvalues, h⟩ := Option.bind_eq_some_iff.mp h
      obtain ⟨rfl, -⟩ := Prod.mk.inj (Option.some.inj h)
      obtain ⟨hcount, hshort⟩ := readParamEntries_length hvalues
      refine ⟨by rw [List.length_cons, hcount], ?_⟩
      rw [List.forall_mem_cons]
      refine ⟨?_, hshort⟩
      have hword := (u16OfBytes [l₀, l₁]).toNat_lt
      have hle : (padded.take (u16OfBytes [l₀, l₁]).toNat).length ≤ (u16OfBytes [l₀, l₁]).toNat :=
        List.length_take_le _ _
      omega

theorem readAnswer_length {octets : List UInt8} {values : List (List UInt8)}
    (h : readAnswer octets = some values) :
    values.length < 2 ^ 32 ∧ ∀ v ∈ values, v.length < 2 ^ 16 := by
  unfold readAnswer at h
  split at h
  · rename_i c₀ c₁ c₂ c₃ octets
    split at h
    · rename_i values' hvalues
      obtain rfl := Option.some.inj h
      obtain ⟨hcount, hshort⟩ := readParamEntries_length hvalues
      refine ⟨?_, hshort⟩
      rw [hcount]
      exact (u32OfBytes [c₀, c₁, c₂, c₃]).toNat_lt
    · cases h
  · cases h

theorem lengths_written {values : List (List UInt8)} (h : ∀ v ∈ values, v.length < 2 ^ 16) :
    (values.map fun v => UInt16.ofNat v.length).map UInt16.toNat = values.map List.length := by
  rw [List.map_map]
  apply List.map_congr_left
  intro v hv
  exact UInt16.toNat_ofNat_of_lt' (h v hv)

/-- The reader recovers the values exactly if there are not too many and none is too long. -/
theorem readable_writtenAnswer_iff (values : List (List UInt8)) :
    Readable values (writtenAnswer values) ↔
      values.length < 2 ^ 32 ∧ ∀ v ∈ values, v.length < 2 ^ 16 := by
  constructor
  · intro h
    exact readAnswer_length h.recovered
  · rintro ⟨hcount, hshort⟩
    have hcount' : (UInt32.ofNat values.length).toNat = values.length :=
      UInt32.toNat_ofNat_of_lt' hcount
    constructor
    · refine ⟨UInt32.ofNat values.length, values.map fun v => UInt16.ofNat v.length, hcount',
        lengths_written hshort, ?_⟩
      rw [writtenAnswer, List.zipWith_map_left, List.zipWith_self]
      rfl
    · obtain ⟨c₀, c₁, c₂, c₃, hc⟩ : ∃ c₀ c₁ c₂ c₃,
          u32Bytes (UInt32.ofNat values.length) = [c₀, c₁, c₂, c₃] := ⟨_, _, _, _, rfl⟩
      have hread := readParamEntries_written hshort []
      rw [List.append_nil] at hread
      have hword : (u32OfBytes [c₀, c₁, c₂, c₃]).toNat = values.length := by
        rw [← hc, u32OfBytes_u32Bytes, hcount']
      rw [writtenAnswer, hc]
      simp only [List.cons_append, List.nil_append, readAnswer, hword, hread]

/-! ### All segments of an answer -/

/-- The calls of an upload that has something left send the rest of the data. -/
theorem upload_rest (calls : ℕ → ObjectDictionary σ × ℕ) {transactionId : UInt8}
    {data : List UInt8} (n : ℕ) :
    ∀ {s : SdoTransferState} {k : ℕ} (j : ℕ),
      SdoTransferState.Uploads s transactionId data k → maxExpeditedPayload * k < data.length →
      data.length ⌈/⌉ maxExpeditedPayload = k + 1 + n →
        ∃ commands p, UntilLast (SdoTransferState.uploadCall calls) (s, j) commands p ∧
          (commands.map SdoCommand.payload).flatten = data.drop (maxExpeditedPayload * k) := by
  induction n with
  | zero =>
      intro s k j h hk hn
      obtain ⟨hcall, -⟩ := SdoTransferState.uploads_step h hk (calls j).1 (calls j).2
      have hlast : data.length ≤ maxExpeditedPayload * (k + 1) :=
        (succ_eq_ceilDiv_iff (by decide) hk).mp hn.symm
      have hpiece : piece maxExpeditedPayload data k = data.drop (maxExpeditedPayload * k) := by
        rw [piece, List.take_of_length_le]
        rw [List.length_drop]
        rw [Nat.mul_succ] at hlast
        omega
      have hstep : SdoTransferState.uploadCall calls (s, j) =
          some (SdoTransferState.uploadCommand transactionId data k, true,
            ((s.getNextUploadSegment (calls j).1 (calls j).2).2.2, j + 1)) := by
        unfold SdoTransferState.uploadCall
        rw [hcall, decide_eq_true hn.symm]
        rfl
      refine ⟨_, _, .last hstep, ?_⟩
      simpa [SdoTransferState.uploadCommand] using hpiece
  | succ n ih =>
      intro s k j h hk hn
      obtain ⟨hcall, hnext⟩ := SdoTransferState.uploads_step h hk (calls j).1 (calls j).2
      have hmore : maxExpeditedPayload * (k + 1) < data.length :=
        (lt_ceilDiv_iff (by decide) data.length (k + 1)).mp (by omega)
      obtain ⟨commands, p, hrest, hflat⟩ := ih (j + 1) hnext hmore (by omega)
      refine ⟨SdoTransferState.uploadCommand transactionId data k :: commands, p, .more ?_ hrest,
        ?_⟩
      · unfold SdoTransferState.uploadCall
        rw [hcall, decide_eq_false (by omega)]
        rfl
      · rw [List.map_cons, List.flatten_cons, hflat, Nat.mul_succ, ← List.drop_drop]
        exact List.take_append_drop _ _

/-- What is answered: the payload of an expedited response, or the payloads of all segments of an
upload that the response begins.  Every later segment has a dictionary and a time of its own. -/
def AnsweredWith (calls : ℕ → ObjectDictionary σ × ℕ) (r : SdoCommand × SdoSequenceHandler)
    (data : List UInt8) : Prop :=
  r.1.header.isAborted = false ∧
    match r.1.header.segmentation with
    | .initiate => ∃ s commands p, r.2.state = .segmentedUpload s ∧
        UntilLast (SdoTransferState.uploadCall calls) (s, 0) commands p ∧
          data = r.1.payload ++ (commands.map SdoCommand.payload).flatten
    | _ => data = r.1.payload

/-- There is one answer. -/
theorem AnsweredWith.unique {calls : ℕ → ObjectDictionary σ × ℕ}
    {r : SdoCommand × SdoSequenceHandler} {data data' : List UInt8} (h : AnsweredWith calls r data)
    (h' : AnsweredWith calls r data') : data = data' := by
  obtain ⟨-, h⟩ := h
  obtain ⟨-, h'⟩ := h'
  split at h
  · rename_i hinitiate
    rw [hinitiate] at h'
    obtain ⟨s, commands, p, hs, hcommands, rfl⟩ := h
    obtain ⟨s', commands', p', hs', hcommands', rfl⟩ := h'
    obtain rfl := SdoServerState.segmentedUpload.inj (hs.symm.trans hs')
    rw [(hcommands.unique hcommands').1]
  · rename_i hother
    split at h'
    · rename_i hinitiate
      exact absurd hinitiate hother
    · rw [h, h']

/-- The end of a read handler answers with the data. -/
theorem answeredWith_respond (calls : ℕ → ObjectDictionary σ × ℕ) (handler : SdoSequenceHandler)
    (command : SdoCommand) (od : ObjectDictionary σ) (currentTimeUs : ℕ) (data : List UInt8)
    (index : UInt16) (subIndex : UInt8) :
    AnsweredWith calls (respond handler command (SdoSequenceHandler.responseHeaderFor command) od
      currentTimeUs data index subIndex) data := by
  by_cases hshort : data.length ≤ maxExpeditedPayload
  · unfold respond
    rw [if_pos hshort]
    exact ⟨rfl, rfl⟩
  · have hpos : maxExpeditedPayload * 0 < data.length := by omega
    have hmore : maxExpeditedPayload * 1 < data.length := by omega
    have htwo : 1 < data.length ⌈/⌉ maxExpeditedPayload :=
      (lt_ceilDiv_iff (by decide) data.length 1).mpr hmore
    have hfresh : SdoTransferState.Uploads
        (newUpload command.header.transactionId data index subIndex)
        command.header.transactionId data 0 :=
      ⟨rfl, rfl, rfl, by rw [Nat.mul_zero, Nat.zero_min]; rfl⟩
    obtain ⟨hcall, hnext⟩ := SdoTransferState.uploads_step hfresh hpos od currentTimeUs
    obtain ⟨commands, p, hrest, hflat⟩ := upload_rest calls
      (data.length ⌈/⌉ maxExpeditedPayload - 2) 0 hnext hmore (by omega)
    have hfirst : (newUpload command.header.transactionId data index subIndex).getNextUploadSegment
        od currentTimeUs = (SdoTransferState.uploadCommand command.header.transactionId data 0,
          false, ((newUpload command.header.transactionId data index
            subIndex).getNextUploadSegment od currentTimeUs).2.2) := by
      obtain ⟨-, -, hsome⟩ := Option.bind_eq_some_iff.mp hcall
      rw [decide_eq_false (by omega)] at hsome
      exact Option.some.inj hsome
    unfold respond
    rw [if_neg hshort]
    dsimp only
    rw [hfirst]
    refine ⟨rfl, ?_⟩
    have hkind : (SdoTransferState.uploadCommand command.header.transactionId data
        0).header.segmentation = .initiate := by
      show (if 0 + 1 = data.length ⌈/⌉ maxExpeditedPayload then Segmentation.complete
        else if 0 = 0 then .initiate else .segment) = .initiate
      rw [if_neg (by omega), if_pos rfl]
    dsimp only
    rw [hkind]
    refine ⟨_, commands, p, rfl, hrest, ?_⟩
    rw [hflat]
    exact (List.take_append_drop maxExpeditedPayload data).symm

/-- The answer to a request for objects that all exist can be read exactly if there are not too many
of them and no value is too long. -/
theorem multiple_params_readable_iff (calls : ℕ → ObjectDictionary σ × ℕ)
    (handler : SdoSequenceHandler) (command : SdoCommand) (od : ObjectDictionary σ)
    (currentTimeUs : ℕ) (entries : List MultipleParamEntry) (values : List ObjectValue)
    (hrequest : ReadMultipleParamRequest.fromPayload command.payload = .ok entries)
    (hvalues : List.Forall₂ (fun e v => od.read e.index e.subIndex = some v) entries values) :
    (∃ data, AnsweredWith calls (handleReadMultipleParams handler command
      (SdoSequenceHandler.responseHeaderFor command) od currentTimeUs) data ∧
        Readable (values.map ObjectValue.serialize) data) ↔
      values.length < 2 ^ 32 ∧ ∀ v ∈ values, v.serialize.length < 2 ^ 16 := by
  have hparams : readParams od entries [] =
      .ok ([] ++ (values.map fun v => writtenEntry v.serialize).flatten) :=
    readParams_eq hvalues rfl
  have hanswered : AnsweredWith calls (handleReadMultipleParams handler command
      (SdoSequenceHandler.responseHeaderFor command) od currentTimeUs)
      (writtenAnswer (values.map ObjectValue.serialize)) := by
    have hwritten : writtenAnswer (values.map ObjectValue.serialize) =
        u32Bytes (UInt32.ofNat entries.length) ++
          ([] ++ (values.map fun v => writtenEntry v.serialize).flatten) := by
      rw [writtenAnswer, List.length_map, ← hvalues.length_eq, List.map_map]
      rfl
    unfold handleReadMultipleParams
    rw [hrequest]
    dsimp only
    rw [hparams, hwritten]
    exact answeredWith_respond calls handler command od currentTimeUs _ 0 0
  have hreadable := readable_writtenAnswer_iff (values.map ObjectValue.serialize)
  rw [List.length_map, List.forall_mem_map] at hreadable
  rw [← hreadable]
  constructor
  · rintro ⟨data, hdata, hread⟩
    rwa [hdata.unique hanswered] at hread
  · intro hread
    exact ⟨_, hanswered, hread⟩

/-! ### Requests -/

/-- A request for some entries. -/
def readMultipleCommand (payload : List UInt8) : SdoCommand where
  header := { transactionId := 1, commandId := .readMultipleParamByIndex }
  dataSize := none
  payload := payload

/-- A dictionary with one variable. -/
def oneVariable (value : ObjectValue) : ObjectDictionary Empty :=
  (ObjectDictionary.new none).insert 0x2000 ⟨.variable value, "", some .readWrite, none⟩

theorem read_oneVariable (value : ObjectValue) :
    (oneVariable value).read 0x2000 0 = some value := rfl

theorem multiple_params_readable_two_octets :
    ReadMultipleParamRequest.fromPayload (readMultipleCommand [0, 0x20, 0, 0]).payload =
        .ok [⟨0x2000, 0⟩] ∧
      ((∃ data, AnsweredWith (fun _ => (oneVariable (.unsigned16 7), 0))
        (handleReadMultipleParams (.new (.udp ⟨0, 0, 0, 0⟩ 0)) (readMultipleCommand [0, 0x20, 0, 0])
          (SdoSequenceHandler.responseHeaderFor (readMultipleCommand [0, 0x20, 0, 0]))
          (oneVariable (.unsigned16 7)) 0) data ∧
            Readable [ObjectValue.serialize (.unsigned16 7)] data) ↔
        [ObjectValue.unsigned16 7].length < 2 ^ 32 ∧
          ∀ v ∈ [ObjectValue.unsigned16 7], v.serialize.length < 2 ^ 16) :=
  ⟨rfl, multiple_params_readable_iff _ _ _ _ _ _ _ rfl (.cons (read_oneVariable _) .nil)⟩

/-- A value of `2 ^ 16` octets has the length field zero. -/
theorem long_param_is_not_readable :
    ¬∀ (calls : ℕ → ObjectDictionary Empty × ℕ) (handler : SdoSequenceHandler)
      (command : SdoCommand) (od : ObjectDictionary Empty) (currentTimeUs : ℕ)
      (entries : List MultipleParamEntry) (values : List ObjectValue),
      ReadMultipleParamRequest.fromPayload command.payload = .ok entries →
      List.Forall₂ (fun e v => od.read e.index e.subIndex = some v) entries values →
        ∃ data, AnsweredWith calls (handleReadMultipleParams handler command
          (SdoSequenceHandler.responseHeaderFor command) od currentTimeUs) data ∧
            Readable (values.map ObjectValue.serialize) data := by
  intro h
  obtain ⟨octets, hlength⟩ : ∃ octets : List UInt8, octets.length = 2 ^ 16 :=
    ⟨List.replicate _ 0, List.length_replicate⟩
  obtain ⟨data, -, hread⟩ := h (fun _ => (oneVariable (.domain octets), 0))
    (.new (.udp ⟨0, 0, 0, 0⟩ 0)) (readMultipleCommand [0, 0x20, 0, 0])
    (oneVariable (.domain octets)) 0 _ _ rfl (.cons (read_oneVariable _) .nil)
  have hshort := (readAnswer_length hread.recovered).2 octets List.mem_cons_self
  omega

end Powerlink
