import Powerlink.Lib.Slices
import Powerlink.Sdo.ClientConnection

/-! # Segmentation

A server cuts an upload into commands by `get_next_upload_segment`, a client cuts a download by
`get_next_download_segment`.  Both are called until they report the last segment; the checked
versions here have no value where the code panics, on a slice out of range or a difference below
zero.

An upload of more than one segment is exact but for the size in its first command, which is a word
of 32 bits (`upload_exact`).  The first command of a download is `Expedited` up to a size of
`MAX_CLIENT_PAYLOAD + 4` although it carries no more than `MAX_CLIENT_PAYLOAD` octets, so that a
download of four sizes is announced as complete and goes on (`download_exact_iff`). -/

namespace Powerlink

open LittleEndian Slices

variable {σ : Type}

/-- The first command announces a size. -/
def Announces (commands : List SdoCommand) (size : ℕ) : Prop :=
  ∃ c rest, commands = c :: rest ∧ c.dataSize.map UInt32.toNat = some size

/-- The only command that can announce a size is the first one. -/
theorem announces_cons_iff (c : SdoCommand) (rest : List SdoCommand) (size : ℕ) :
    Announces (c :: rest) size ↔ c.dataSize.map UInt32.toNat = some size := by
  constructor
  · rintro ⟨c', rest', hcons, hsize⟩
    rw [(List.cons.inj hcons).1]
    exact hsize
  · exact fun h => ⟨c, rest, rfl, h⟩

/-! ### Uploads -/

namespace SdoTransferState

/-- `SdoTransferState::get_next_upload_segment`; `none` is a panic. -/
def getNextUploadSegmentChecked (s : SdoTransferState) (od : ObjectDictionary σ)
    (currentTimeUs : ℕ) : Option (SdoCommand × Bool × SdoTransferState) := do
  let _ ← slice s.dataBuffer s.offset (s.offset + s.currentChunkSize)
  return s.getNextUploadSegment od currentTimeUs

/-- The transfer state and the number of calls so far; every call has a dictionary and a time of
its own. -/
def uploadCall (calls : ℕ → ObjectDictionary σ × ℕ) (p : SdoTransferState × ℕ) :
    Option (SdoCommand × Bool × (SdoTransferState × ℕ)) :=
  (p.1.getNextUploadSegmentChecked (calls p.2).1 (calls p.2).2).map fun r =>
    (r.1, r.2.1, (r.2.2, p.2 + 1))

/-- The state from which an upload starts. -/
def ofUpload (s : SdoTransferState) (data : List UInt8) : SdoTransferState :=
  { s with dataBuffer := data, totalSize := data.length, offset := 0 }

/-- The transfer states of an upload. -/
def uploadStates (calls : ℕ → ObjectDictionary σ × ℕ) (s : SdoTransferState) :
    ℕ → SdoTransferState
  | 0 => s
  | k + 1 => ((uploadStates calls s k).getNextUploadSegment (calls k).1 (calls k).2).2.2

/-- The command number `k` of an upload. -/
def uploadCommand (transactionId : UInt8) (data : List UInt8) (k : ℕ) : SdoCommand where
  header :=
    { transactionId := transactionId
      isResponse := true
      isAborted := false
      segmentation := if k + 1 = data.length ⌈/⌉ maxExpeditedPayload then .complete
        else if k = 0 then .initiate else .segment
      commandId := .readByIndex
      segmentSize := UInt16.ofNat (piece maxExpeditedPayload data k).length }
  dataSize := if k = 0 then some (UInt32.ofNat data.length) else none
  payload := piece maxExpeditedPayload data k

/-- The commands of an upload. -/
def uploadCommands (transactionId : UInt8) (data : List UInt8) : List SdoCommand :=
  (List.range (data.length ⌈/⌉ maxExpeditedPayload)).map (uploadCommand transactionId data)

/-- What the calls of an upload keep. -/
structure Uploads (s : SdoTransferState) (transactionId : UInt8) (data : List UInt8) (k : ℕ) :
    Prop where
  transactionId : s.transactionId = transactionId
  dataBuffer : s.dataBuffer = data
  totalSize : s.totalSize = data.length
  offset : s.offset = min (maxExpeditedPayload * k) data.length

theorem uploads_ofUpload (s : SdoTransferState) (data : List UInt8) :
    Uploads (s.ofUpload data) s.transactionId data 0 :=
  ⟨rfl, rfl, rfl, by rw [Nat.mul_zero, Nat.zero_min]; rfl⟩

/-- One call of an upload that has something left. -/
theorem uploads_step {s : SdoTransferState} {transactionId : UInt8} {data : List UInt8} {k : ℕ}
    (h : Uploads s transactionId data k) (hk : maxExpeditedPayload * k < data.length)
    (od : ObjectDictionary σ) (currentTimeUs : ℕ) :
    s.getNextUploadSegmentChecked od currentTimeUs =
      some (uploadCommand transactionId data k,
        decide (k + 1 = data.length ⌈/⌉ maxExpeditedPayload),
        (s.getNextUploadSegment od currentTimeUs).2.2) ∧
    Uploads (s.getNextUploadSegment od currentTimeUs).2.2 transactionId data (k + 1) := by
  have hpos : 0 < maxExpeditedPayload := by decide
  have hlast := succ_eq_ceilDiv_iff hpos hk
  have hsucc : maxExpeditedPayload * (k + 1) = maxExpeditedPayload * k + maxExpeditedPayload :=
    Nat.mul_succ _ _
  have hoffset : s.offset = maxExpeditedPayload * k := by
    rw [h.offset]
    omega
  have hsize : s.currentChunkSize = min maxExpeditedPayload (data.length - s.offset) := by
    rw [currentChunkSize, h.totalSize]
  have hchunk : s.chunk = piece maxExpeditedPayload data k := by
    rw [chunk, h.dataBuffer, hsize, piece, hoffset, ← List.length_drop, ← List.take_take,
      List.take_length]
  have hisLast : s.isLastSegment = decide (k + 1 = data.length ⌈/⌉ maxExpeditedPayload) := by
    rw [isLastSegment, h.totalSize, hsize, hoffset]
    apply decide_eq_decide.mpr
    rw [hlast]
    omega
  have hzero : s.offset = 0 ↔ k = 0 := by
    rw [hoffset, Nat.mul_eq_zero]
    exact or_iff_right hpos.ne'
  have hcommand : s.uploadSegment = uploadCommand transactionId data k := by
    unfold uploadSegment uploadCommand
    rw [hchunk, hisLast, h.transactionId, h.totalSize]
    simp only [hzero, decide_eq_true_eq]
  have hslice : slice s.dataBuffer s.offset (s.offset + s.currentChunkSize) = some s.chunk := by
    rw [slice_eq_some (by omega), chunk, Nat.add_sub_cancel_left]
    rw [hsize, h.dataBuffer, hoffset]
    omega
  have hnext : s.offset + s.currentChunkSize = min (maxExpeditedPayload * (k + 1)) data.length := by
    rw [hsize, hoffset]
    omega
  constructor
  · unfold getNextUploadSegmentChecked
    rw [hslice]
    unfold getNextUploadSegment
    rw [hcommand, hisLast]
    by_cases hk' : k + 1 = data.length ⌈/⌉ maxExpeditedPayload
    · rw [decide_eq_true hk']
      rfl
    · rw [decide_eq_false hk']
      rfl
  · unfold getNextUploadSegment
    split_ifs
    · exact ⟨h.transactionId, h.dataBuffer, h.totalSize, hnext⟩
    · exact ⟨h.transactionId, h.dataBuffer, h.totalSize, hnext⟩

/-- The states of an upload, as far as it goes. -/
theorem uploads_states (calls : ℕ → ObjectDictionary σ × ℕ) (s : SdoTransferState)
    (data : List UInt8) {k : ℕ} (hk : k ≤ data.length ⌈/⌉ maxExpeditedPayload) :
    Uploads (uploadStates calls (s.ofUpload data) k) s.transactionId data k := by
  induction k with
  | zero => exact uploads_ofUpload s data
  | succ k ih =>
      have hlt := (lt_ceilDiv_iff (by decide) data.length k).mp hk
      exact (uploads_step (ih (by omega)) hlt _ _).2

/-- The calls of an upload. -/
theorem untilLast_upload (calls : ℕ → ObjectDictionary σ × ℕ) (s : SdoTransferState)
    {data : List UInt8} (hdata : 0 < data.length) :
    ∃ p, UntilLast (uploadCall calls) (s.ofUpload data, 0)
      (uploadCommands s.transactionId data) p := by
  have hpos : 0 < data.length ⌈/⌉ maxExpeditedPayload :=
    (lt_ceilDiv_iff (by decide) data.length 0).mpr (by omega)
  refine ⟨_, untilLast_of_states
    (fun k => (uploadStates calls (s.ofUpload data) k, k)) _ hpos ?_⟩
  intro k hk
  have hlt := (lt_ceilDiv_iff (by decide) data.length k).mp hk
  unfold uploadCall
  rw [(uploads_step (uploads_states calls s data hk.le) hlt _ _).1]
  rfl

/-! ### What an upload looks like -/

/-- The commands carry the data, in order and whole. -/
structure ExactUpload (data : List UInt8) (commands : List SdoCommand) : Prop where
  count : commands.length = data.length ⌈/⌉ maxExpeditedPayload
  payloads : (commands.map SdoCommand.payload).flatten = data
  sizes : ∀ c ∈ commands, c.payload.length ≤ maxExpeditedPayload ∧
    c.header.segmentSize.toNat = c.payload.length
  kinds : commands.map (fun c => c.header.segmentation) =
    .initiate :: (List.replicate (commands.length - 2) .segment ++ [.complete])
  others : ∀ c ∈ commands.tail, c.dataSize = none

theorem exactUpload_uploadCommand (transactionId : UInt8) {data : List UInt8}
    (hdata : maxExpeditedPayload < data.length) :
    ExactUpload data (uploadCommands transactionId data) := by
  have htwo : 1 < data.length ⌈/⌉ maxExpeditedPayload :=
    (lt_ceilDiv_iff (by decide) data.length 1).mpr (by omega)
  obtain ⟨n, hn⟩ : ∃ n, data.length ⌈/⌉ maxExpeditedPayload = n + 2 :=
    ⟨_, (Nat.sub_add_cancel htwo).symm⟩
  have hpieces := flatten_pieces (n := maxExpeditedPayload) (by decide) data
  unfold uploadCommands
  constructor
  · rw [List.length_map, List.length_range]
  · rw [List.map_map]
    exact hpieces
  · intro c hc
    obtain ⟨k, -, rfl⟩ := List.mem_map.mp hc
    have hle : (piece maxExpeditedPayload data k).length ≤ maxExpeditedPayload := by
      rw [length_piece]
      exact Nat.min_le_left _ _
    refine ⟨hle, ?_⟩
    exact UInt16.toNat_ofNat_of_lt' (hle.trans_lt (by decide))
  · rw [List.length_map, List.length_range, List.map_map, hn, Nat.add_sub_cancel,
      ← map_range_ends]
    rw [← hn]
    rfl
  · intro c hc
    rw [hn, List.range_succ_eq_map, List.map_cons, List.tail_cons, List.map_map] at hc
    obtain ⟨k, -, rfl⟩ := List.mem_map.mp hc
    simp [uploadCommand]

/-- The first command of an upload. -/
theorem uploadCommands_eq_cons (transactionId : UInt8) {data : List UInt8}
    (hdata : 0 < data.length) :
    ∃ rest, uploadCommands transactionId data = uploadCommand transactionId data 0 :: rest := by
  have hone : 0 < data.length ⌈/⌉ maxExpeditedPayload :=
    (lt_ceilDiv_iff (by decide) data.length 0).mpr (by omega)
  obtain ⟨n, hn⟩ := Nat.exists_eq_add_one.mpr hone
  rw [uploadCommands, hn, List.range_succ_eq_map, List.map_cons]
  exact ⟨_, rfl⟩

theorem announces_uploadCommand (transactionId : UInt8) {data : List UInt8}
    (hdata : 0 < data.length) (size : ℕ) :
    Announces (uploadCommands transactionId data) size ↔ size = data.length % 2 ^ 32 := by
  have hfirst : (uploadCommand transactionId data 0).dataSize =
      some (UInt32.ofNat data.length) := rfl
  obtain ⟨rest, hcommands⟩ := uploadCommands_eq_cons transactionId hdata
  rw [hcommands, announces_cons_iff, hfirst, Option.map_some, UInt32.toNat_ofNat', Option.some_inj]
  exact eq_comm

/-- An upload of more than one segment is exact; the size that it announces is a word. -/
theorem upload_exact (calls : ℕ → ObjectDictionary σ × ℕ) (s : SdoTransferState)
    {data : List UInt8} (hdata : maxExpeditedPayload < data.length) :
    ∃ commands p, UntilLast (uploadCall calls) (s.ofUpload data, 0) commands p ∧
      ExactUpload data commands ∧ Announces commands (data.length % 2 ^ 32) := by
  obtain ⟨p, hp⟩ := untilLast_upload calls s (Nat.zero_lt_of_lt hdata)
  exact ⟨_, p, hp, exactUpload_uploadCommand _ hdata,
    (announces_uploadCommand _ (Nat.zero_lt_of_lt hdata) _).mpr rfl⟩

/-- A transfer state for reading `0x2000`. -/
def readingState : SdoTransferState where
  transactionId := 1
  totalSize := 0
  dataBuffer := []
  offset := 0
  index := 0x2000
  subIndex := 0
  deadlineUs := none
  retransmissionsLeft := 0
  lastSentSegment := none

/-- The dictionary and the time of every call. -/
def quietCalls : ℕ → ObjectDictionary Empty × ℕ := fun _ => (.new none, 0)

theorem upload_exact_two_segments :
    maxExpeditedPayload < (List.replicate 1453 (7 : UInt8)).length ∧
    ∃ commands p, UntilLast (uploadCall quietCalls)
      (readingState.ofUpload (List.replicate 1453 7), 0) commands p ∧
        ExactUpload (List.replicate 1453 7) commands ∧
        Announces commands ((List.replicate 1453 (7 : UInt8)).length % 2 ^ 32) :=
  have h : maxExpeditedPayload < (List.replicate 1453 (7 : UInt8)).length := by
    rw [List.length_replicate]
    decide
  ⟨h, upload_exact quietCalls readingState h⟩

/-- An upload of `2 ^ 32` octets announces none. -/
theorem upload_size_wraps :
    ¬∀ (calls : ℕ → ObjectDictionary Empty × ℕ) (s : SdoTransferState) (data : List UInt8),
      maxExpeditedPayload < data.length →
        ∃ commands p, UntilLast (uploadCall calls) (s.ofUpload data, 0) commands p ∧
          ExactUpload data commands ∧ Announces commands data.length := by
  intro h
  obtain ⟨data, hlength⟩ : ∃ data : List UInt8, data.length = 2 ^ 32 :=
    ⟨List.replicate _ 0, List.length_replicate⟩
  have hlarge : maxExpeditedPayload < data.length := by
    rw [hlength]
    decide
  obtain ⟨commands, p, hp, -, hannounces⟩ := h quietCalls readingState _ hlarge
  obtain ⟨p', hp'⟩ := untilLast_upload quietCalls readingState (Nat.zero_lt_of_lt hlarge)
  obtain ⟨rfl, -⟩ := hp.unique hp'
  rw [announces_uploadCommand _ (Nat.zero_lt_of_lt hlarge), hlength] at hannounces
  exact absurd hannounces (by decide)

end SdoTransferState

/-! ### Downloads -/

namespace SdoClientConnection

/-- `SdoClientConnection::get_next_download_segment`; `none` is a panic. -/
def getNextDownloadSegmentChecked (c : SdoClientConnection) :
    Option (SdoCommand × Bool × SdoClientConnection) := do
  let headerDataLen ←
    if c.offset = 0 then do
      let _ ← checkedSub c.totalSize 4
      pure c.totalSize
    else pure (c.totalSize - c.offset)
  let _ ← slice c.dataBuffer c.offset (c.offset + min maxClientPayload headerDataLen)
  return c.getNextDownloadSegment

/-- The command number `k` of a download of the octets in the buffer. -/
def downloadCommand (transactionId : UInt8) (buffer : List UInt8) (k : ℕ) : SdoCommand where
  header :=
    { transactionId := transactionId
      segmentation := if k = 0 then
          if buffer.length ≤ maxClientPayload + 4 then .expedited else .initiate
        else if k + 1 = buffer.length ⌈/⌉ maxClientPayload then .complete else .segment
      commandId := .writeByIndex
      segmentSize := UInt16.ofNat (piece maxClientPayload buffer k).length }
  dataSize := if k = 0 then some (UInt32.ofNat (buffer.length - 4)) else none
  payload := piece maxClientPayload buffer k

/-- The commands of a download. -/
def downloadCommands (transactionId : UInt8) (buffer : List UInt8) : List SdoCommand :=
  (List.range (buffer.length ⌈/⌉ maxClientPayload)).map (downloadCommand transactionId buffer)

/-- The connection that has sent the first commands of a download. -/
def afterSegments (c : SdoClientConnection) (k : ℕ) : SdoClientConnection :=
  { c with offset := min (maxClientPayload * k) c.dataBuffer.length }

/-- The octets in the buffer are those that are to be sent. -/
structure Loaded (c : SdoClientConnection) : Prop where
  totalSize : c.totalSize = c.dataBuffer.length
  header : 4 ≤ c.dataBuffer.length

theorem afterSegments_offset {c : SdoClientConnection} {k : ℕ}
    (hk : maxClientPayload * k < c.dataBuffer.length) :
    (c.afterSegments k).offset = maxClientPayload * k := min_eq_left hk.le

/-- One call of a download that has something left. -/
theorem getNextDownloadSegment_spec {c : SdoClientConnection} (h : c.Loaded) {k : ℕ}
    (hk : maxClientPayload * k < c.dataBuffer.length) :
    (c.afterSegments k).getNextDownloadSegment =
      (downloadCommand c.transactionId c.dataBuffer k,
        decide (k + 1 = c.dataBuffer.length ⌈/⌉ maxClientPayload), c.afterSegments (k + 1)) := by
  have hpos : 0 < maxClientPayload := by decide
  have hlast := succ_eq_ceilDiv_iff hpos hk
  have hsucc : maxClientPayload * (k + 1) = maxClientPayload * k + maxClientPayload :=
    Nat.mul_succ _ _
  have hzero : maxClientPayload * k = 0 ↔ k = 0 := by
    rw [Nat.mul_eq_zero]
    exact or_iff_right hpos.ne'
  -- in both branches the chunk is what is left, up to the maximum
  have hlen : (if maxClientPayload * k = 0 then c.dataBuffer.length
      else c.dataBuffer.length - maxClientPayload * k) =
        c.dataBuffer.length - maxClientPayload * k := by
    split_ifs with h0
    · rw [h0, Nat.sub_zero]
    · rfl
  have hchunk : (c.dataBuffer.drop (maxClientPayload * k)).take
      (min maxClientPayload (c.dataBuffer.length - maxClientPayload * k)) =
        piece maxClientPayload c.dataBuffer k := by
    rw [piece, ← List.length_drop, ← List.take_take, List.take_length]
  have hremaining : c.dataBuffer.length - maxClientPayload * k ≤ maxClientPayload ↔
      k + 1 = c.dataBuffer.length ⌈/⌉ maxClientPayload := by
    rw [hlast]
    omega
  have hend : maxClientPayload * k +
      min maxClientPayload (c.dataBuffer.length - maxClientPayload * k) =
        min (maxClientPayload * (k + 1)) c.dataBuffer.length := by omega
  have hdone : c.dataBuffer.length ≤ min (maxClientPayload * (k + 1)) c.dataBuffer.length ↔
      k + 1 = c.dataBuffer.length ⌈/⌉ maxClientPayload := by
    rw [hlast]
    omega
  unfold getNextDownloadSegment
  dsimp only
  rw [afterSegments_offset hk]
  simp only [afterSegments, h.totalSize, decide_eq_true_eq, hlen, hchunk, hend, hremaining, hdone]
  simp only [hzero, downloadCommand]
  by_cases hk0 : k = 0
  · simp only [if_pos hk0]
  · simp only [if_neg hk0]

/-- No call of a download panics. -/
theorem getNextDownloadSegmentChecked_eq {c : SdoClientConnection} (h : c.Loaded) {k : ℕ}
    (hk : maxClientPayload * k < c.dataBuffer.length) :
    (c.afterSegments k).getNextDownloadSegmentChecked =
      some (c.afterSegments k).getNextDownloadSegment := by
  have hheader := h.header
  have hoffset := afterSegments_offset hk
  have htotal : (c.afterSegments k).totalSize = c.dataBuffer.length := h.totalSize
  have hbuffer : (c.afterSegments k).dataBuffer = c.dataBuffer := rfl
  unfold getNextDownloadSegmentChecked
  split_ifs with h0
  · rw [htotal, checkedSub_eq_some hheader]
    dsimp only [bind, Option.bind, pure]
    rw [slice_eq_some (by omega) (by rw [hbuffer]; omega)]
  · dsimp only [bind, Option.bind, pure]
    rw [slice_eq_some (by omega) (by rw [hbuffer, htotal, hoffset]; omega)]

/-- The calls of a download. -/
theorem untilLast_download {c : SdoClientConnection} (h : c.Loaded) (hoffset : c.offset = 0) :
    ∃ c', UntilLast getNextDownloadSegmentChecked c
      (downloadCommands c.transactionId c.dataBuffer) c' := by
  have hheader := h.header
  have hpos : 0 < c.dataBuffer.length ⌈/⌉ maxClientPayload :=
    (lt_ceilDiv_iff (by decide) c.dataBuffer.length 0).mpr (by omega)
  have hstart : c.afterSegments 0 = c := by
    unfold afterSegments
    rw [Nat.mul_zero, Nat.zero_min, ← hoffset]
  have hcalls : ∀ k < c.dataBuffer.length ⌈/⌉ maxClientPayload,
      (c.afterSegments k).getNextDownloadSegmentChecked =
        some (downloadCommand c.transactionId c.dataBuffer k,
          decide (k + 1 = c.dataBuffer.length ⌈/⌉ maxClientPayload), c.afterSegments (k + 1)) := by
    intro k hk
    have hlt := (lt_ceilDiv_iff (by decide) c.dataBuffer.length k).mp hk
    rw [getNextDownloadSegmentChecked_eq h hlt, getNextDownloadSegment_spec h hlt]
  have hrun := untilLast_of_states c.afterSegments
    (downloadCommand c.transactionId c.dataBuffer) hpos hcalls
  rw [hstart] at hrun
  exact ⟨_, hrun⟩

/-! ### What a download looks like -/

/-- The commands carry a write of the data, in order and whole. -/
structure ExactDownload (index : UInt16) (subIndex : UInt8) (data : List UInt8)
    (commands : List SdoCommand) : Prop where
  payloads : (commands.map SdoCommand.payload).flatten =
    u16Bytes index ++ [subIndex, 0] ++ data
  sizes : ∀ c ∈ commands, c.payload.length ≤ maxClientPayload
  single : commands.length = 1 → commands.map (fun c => c.header.segmentation) = [.expedited]
  several : commands.length ≠ 1 → Announces commands data.length ∧
    commands.map (fun c => c.header.segmentation) =
      .initiate :: (List.replicate (commands.length - 2) .segment ++ [.complete])

theorem length_downloadCommands (transactionId : UInt8) (buffer : List UInt8) :
    (downloadCommands transactionId buffer).length = buffer.length ⌈/⌉ maxClientPayload := by
  rw [downloadCommands, List.length_map, List.length_range]

/-- The commands carry the buffer, in order and whole. -/
theorem payloads_downloadCommand (transactionId : UInt8) (buffer : List UInt8) :
    ((downloadCommands transactionId buffer).map SdoCommand.payload).flatten = buffer := by
  rw [downloadCommands, List.map_map]
  exact flatten_pieces (n := maxClientPayload) (by decide) buffer

theorem sizes_downloadCommand {transactionId : UInt8} {buffer : List UInt8} {c : SdoCommand}
    (hc : c ∈ downloadCommands transactionId buffer) : c.payload.length ≤ maxClientPayload := by
  obtain ⟨k, -, rfl⟩ := List.mem_map.mp hc
  rw [downloadCommand, length_piece]
  exact Nat.min_le_left _ _

/-- The kinds of the commands of a download that does not fit into one. -/
theorem kinds_downloadCommand (transactionId : UInt8) {buffer : List UInt8} {n : ℕ}
    (hn : buffer.length ⌈/⌉ maxClientPayload = n + 2) :
    (downloadCommands transactionId buffer).map (fun c => c.header.segmentation) =
        (if buffer.length ≤ maxClientPayload + 4 then .expedited else .initiate) ::
          (List.replicate n .segment ++ [.complete]) := by
  rw [downloadCommands, hn, List.map_map, ← map_range_ends]
  apply List.map_congr_left
  intro k _
  simp only [Function.comp_apply, downloadCommand, hn]
  by_cases hk : k = 0
  · have hnot : ¬k + 1 = n + 2 := by omega
    rw [if_pos hk, if_neg hnot, if_pos hk]
  · rw [if_neg hk, if_neg hk]

theorem announces_downloadCommand (transactionId : UInt8) (buffer : List UInt8)
    (hbuffer : 0 < buffer.length) (size : ℕ) :
    Announces (downloadCommands transactionId buffer) size ↔ (buffer.length - 4) % 2 ^ 32 = size := by
  have hone : 0 < buffer.length ⌈/⌉ maxClientPayload :=
    (lt_ceilDiv_iff (by decide) buffer.length 0).mpr (by omega)
  obtain ⟨n, hn⟩ := Nat.exists_eq_add_one.mpr hone
  have hfirst : (downloadCommand transactionId buffer 0).dataSize =
      some (UInt32.ofNat (buffer.length - 4)) := rfl
  rw [downloadCommands, hn, List.range_succ_eq_map, List.map_cons, announces_cons_iff, hfirst,
    Option.map_some, UInt32.toNat_ofNat', Option.some_inj]

@[simp] theorem length_writePayload (index : UInt16) (subIndex : UInt8) (data : List UInt8) :
    (writePayload index subIndex data).length = data.length + 4 := by
  simp [writePayload]
  omega

/-- The commands of a write are exact if the data fits into one command, or does not fit into the
first of several ones by more than the four octets of the address and can be counted by a word. -/
theorem exactDownload_downloadCommands_iff (transactionId : UInt8) (index : UInt16)
    (subIndex : UInt8) (data : List UInt8) :
    ExactDownload index subIndex data
      (downloadCommands transactionId (writePayload index subIndex data)) ↔
        data.length ≤ 1448 ∨ 1453 ≤ data.length ∧ data.length < 2 ^ 32 := by
  have hlength := length_writePayload index subIndex data
  have hcount := length_downloadCommands transactionId (writePayload index subIndex data)
  have hpayloads := payloads_downloadCommand transactionId (writePayload index subIndex data)
  have hannounces := announces_downloadCommand transactionId (writePayload index subIndex data)
    (by omega) data.length
  rw [hlength, Nat.add_sub_cancel] at hannounces
  have hmax : maxClientPayload = 1452 := rfl
  have hone : 0 < (writePayload index subIndex data).length ⌈/⌉ maxClientPayload :=
    (lt_ceilDiv_iff (by decide) _ 0).mpr (by omega)
  have htwo := lt_ceilDiv_iff (n := maxClientPayload) (by decide)
    (writePayload index subIndex data).length 1
  rcases Nat.lt_or_ge 1 ((writePayload index subIndex data).length ⌈/⌉ maxClientPayload) with h | h
  · -- several commands
    obtain ⟨n, hn⟩ : ∃ n, (writePayload index subIndex data).length ⌈/⌉ maxClientPayload = n + 2 :=
      ⟨_, (Nat.sub_add_cancel h).symm⟩
    have hkinds := kinds_downloadCommand transactionId hn
    rw [hlength] at hkinds
    constructor
    · intro hexact
      obtain ⟨hsize, hexactKinds⟩ := hexact.several (by omega)
      rw [hkinds] at hexactKinds
      have hinitiate := (List.cons.inj hexactKinds).1
      have hlarge : ¬data.length + 4 ≤ maxClientPayload + 4 := by
        intro hsmall
        rw [if_pos hsmall] at hinitiate
        cases hinitiate
      have hword := hannounces.mp hsize
      omega
    · intro hcondition
      refine ⟨hpayloads, fun c hc => sizes_downloadCommand hc, ?_, ?_⟩
      · intro hsingle
        omega
      · intro _
        refine ⟨hannounces.mpr (Nat.mod_eq_of_lt (by omega)), ?_⟩
        rw [hkinds, hcount, hn, Nat.add_sub_cancel, if_neg (by omega)]
  · -- one command
    have hn : (writePayload index subIndex data).length ⌈/⌉ maxClientPayload = 1 := by omega
    refine ⟨fun _ => .inl (by omega), fun _ => ?_⟩
    refine ⟨hpayloads, fun c hc => sizes_downloadCommand hc, ?_, ?_⟩
    · intro _
      have honly : downloadCommands transactionId (writePayload index subIndex data) =
          [downloadCommand transactionId (writePayload index subIndex data) 0] := by
        rw [downloadCommands, hn]
        rfl
      rw [honly, List.map_singleton]
      exact congrArg (fun kind => [kind]) (if_pos (by omega))
    · intro hseveral
      exact absurd (hcount.trans hn) hseveral

/-- A write job loads the buffer. -/
theorem loaded_of_startWriteJob {c c₀ : SdoClientConnection} {index : UInt16}
    {subIndex tid : UInt8} {data : List UInt8} {currentTimeUs : ℕ} {od : ObjectDictionary σ}
    (hstart : c.startWriteJob index subIndex data tid currentTimeUs od = (.ok (), c₀)) :
    c₀.Loaded ∧ c₀.dataBuffer = writePayload index subIndex data ∧ c₀.offset = 0 := by
  unfold startWriteJob at hstart
  split_ifs at hstart
  · cases (Prod.mk.inj hstart).1
  · rw [← (Prod.mk.inj hstart).2]
    refine ⟨⟨rfl, ?_⟩, rfl, rfl⟩
    dsimp only
    rw [length_writePayload]
    omega

/-- The write that a new job starts is cut exactly, and without a panic, unless its data has
`1449` to `1452` octets or more than a word of 32 bits can count. -/
theorem download_exact_iff {c c₀ : SdoClientConnection} {index : UInt16} {subIndex tid : UInt8}
    {data : List UInt8} {currentTimeUs : ℕ} {od : ObjectDictionary σ}
    (hstart : c.startWriteJob index subIndex data tid currentTimeUs od = (.ok (), c₀)) :
    (∃ commands c', UntilLast getNextDownloadSegmentChecked c₀ commands c' ∧
      ExactDownload index subIndex data commands) ↔
        data.length ≤ 1448 ∨ 1453 ≤ data.length ∧ data.length < 2 ^ 32 := by
  obtain ⟨hloaded, hbuffer, hoffset⟩ := loaded_of_startWriteJob hstart
  obtain ⟨c', hrun⟩ := untilLast_download hloaded hoffset
  rw [hbuffer] at hrun
  rw [← exactDownload_downloadCommands_iff c₀.transactionId index subIndex data]
  constructor
  · rintro ⟨commands, c'', hcommands, hexact⟩
    rw [← (hcommands.unique hrun).1]
    exact hexact
  · exact fun hexact => ⟨_, c', hrun, hexact⟩

/-- A new connection that starts to write some octets to `0x2000`. -/
def writingOctets (data : List UInt8) : SdoClientConnection :=
  ((new ⟨1⟩).startWriteJob 0x2000 0 data 1 0 (ObjectDictionary.new none : ObjectDictionary Empty)).2

theorem startWriteJob_writingOctets (data : List UInt8) :
    (new ⟨1⟩).startWriteJob 0x2000 0 data 1 0 (ObjectDictionary.new none : ObjectDictionary Empty) =
      (.ok (), writingOctets data) := rfl

theorem download_exact_three_octets :
    (∃ commands c', UntilLast getNextDownloadSegmentChecked (writingOctets [1, 2, 3]) commands c' ∧
      ExactDownload 0x2000 0 [1, 2, 3] commands) ↔
        [(1 : UInt8), 2, 3].length ≤ 1448 ∨
          1453 ≤ [(1 : UInt8), 2, 3].length ∧ [(1 : UInt8), 2, 3].length < 2 ^ 32 :=
  download_exact_iff (startWriteJob_writingOctets [1, 2, 3])

/-- A write of `1449` octets is sent in two commands, of which the first says that it is the only
one. -/
theorem download_not_exact_1449 :
    ¬∃ commands c', UntilLast getNextDownloadSegmentChecked
      (writingOctets (List.replicate 1449 0)) commands c' ∧
        ExactDownload 0x2000 0 (List.replicate 1449 0) commands := by
  rintro ⟨commands, c', hcommands, hexact⟩
  obtain ⟨hloaded, hbuffer, hoffset⟩ :=
    loaded_of_startWriteJob (startWriteJob_writingOctets (List.replicate 1449 0))
  obtain ⟨c'', hrun⟩ := untilLast_download hloaded hoffset
  rw [hbuffer] at hrun
  rw [(hcommands.unique hrun).1, exactDownload_downloadCommands_iff, List.length_replicate]
    at hexact
  omega

end SdoClientConnection

end Powerlink
