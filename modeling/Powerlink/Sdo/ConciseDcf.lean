import Powerlink.Sdo.Reassembly

/-! # Concise DCF downloads

A concise DCF is a count followed by entries, each an index, a sub-index, a length and as many
octets of data.  `prepare_next_job_command` takes the entries one after the other and stops where
the buffer ends; `completeEntries` are the entries that it takes, the longest list of them that
lies inside the buffer (`completeEntries_longest`).

A new connection that is given a concise DCF is run against a peer that acknowledges every frame.
`Sending` is the state before a segment of an entry, `AfterEntry` the state between two entries; a
round leads from one to the next (`round_spec`), the rounds of an entry are one transfer
(`converse_entry`), and the connection closes after the last entry (`concise_dcf_complete`). -/

namespace Powerlink

open LittleEndian Slices

variable {σ : Type}

/-! ### Entries -/

/-- An entry of a concise DCF. -/
structure DcfEntry where
  index : UInt16
  subIndex : UInt8
  data : List UInt8
  fits : data.length < 2 ^ 32

namespace DcfEntry

/-- The octets of an entry. -/
def bytes (e : DcfEntry) : List UInt8 :=
  u16Bytes e.index ++ [e.subIndex] ++ u32Bytes (UInt32.ofNat e.data.length) ++ e.data

/-- The payload that writes an entry. -/
def payload (e : DcfEntry) : List UInt8 := SdoClientConnection.writePayload e.index e.subIndex e.data

theorem four_le_length_payload (e : DcfEntry) : 4 ≤ e.payload.length := by
  rw [payload, SdoClientConnection.length_writePayload]
  exact Nat.le_add_left _ _

end DcfEntry

/-- Some entries, not more than a number of them, that a buffer starts with. -/
def LiesInside (count : ℕ) (buffer : List UInt8) (entries : List DcfEntry) : Prop :=
  entries.length ≤ count ∧ (entries.map DcfEntry.bytes).flatten <+: buffer

/-- The longest list of entries that lies inside a buffer. -/
def IsLongest (count : ℕ) (buffer : List UInt8) (entries : List DcfEntry) : Prop :=
  LiesInside count buffer entries ∧
    ∀ entries', LiesInside count buffer entries' → entries' <+: entries

/-- The entries that lie completely inside a buffer, up to a number of them. -/
def completeEntries : ℕ → List UInt8 → List DcfEntry
  | count + 1, i₀ :: i₁ :: subIndex :: s₀ :: s₁ :: s₂ :: s₃ :: rest =>
      if h : (u32OfBytes [s₀, s₁, s₂, s₃]).toNat ≤ rest.length then
        ⟨u16OfBytes [i₀, i₁], subIndex, rest.take (u32OfBytes [s₀, s₁, s₂, s₃]).toNat, by
          rw [List.length_take_of_le h]
          exact UInt32.toNat_lt _⟩ ::
          completeEntries count (rest.drop (u32OfBytes [s₀, s₁, s₂, s₃]).toNat)
      else []
  | _, _ => []

/-- The octets of an entry, one by one. -/
theorem DcfEntry.exists_bytes (e : DcfEntry) : ∃ i₀ i₁ s₀ s₁ s₂ s₃,
    e.bytes = i₀ :: i₁ :: e.subIndex :: s₀ :: s₁ :: s₂ :: s₃ :: e.data ∧
      u16OfBytes [i₀, i₁] = e.index ∧ (u32OfBytes [s₀, s₁, s₂, s₃]).toNat = e.data.length := by
  obtain ⟨i₀, i₁, hi⟩ : ∃ i₀ i₁, u16Bytes e.index = [i₀, i₁] := ⟨_, _, rfl⟩
  obtain ⟨s₀, s₁, s₂, s₃, hs⟩ : ∃ s₀ s₁ s₂ s₃,
      u32Bytes (UInt32.ofNat e.data.length) = [s₀, s₁, s₂, s₃] := ⟨_, _, _, _, rfl⟩
  refine ⟨i₀, i₁, s₀, s₁, s₂, s₃, ?_, ?_, ?_⟩
  · rw [bytes, hi, hs]
    rfl
  · rw [← hi, u16OfBytes_u16Bytes]
  · rw [← hs, u32OfBytes_u32Bytes, UInt32.toNat_ofNat_of_lt' e.fits]

/-- An entry at the front of the buffer is taken. -/
theorem completeEntries_bytes (count : ℕ) (e : DcfEntry) (rest : List UInt8) :
    completeEntries (count + 1) (e.bytes ++ rest) = e :: completeEntries count rest := by
  obtain ⟨i₀, i₁, s₀, s₁, s₂, s₃, hbytes, hindex, hsize⟩ := e.exists_bytes
  rw [hbytes]
  simp only [List.cons_append, completeEntries, hindex, hsize, List.length_append,
    List.take_left, List.drop_left]
  rw [dif_pos (by omega)]

/-- The octets that an entry was taken from. -/
theorem DcfEntry.bytes_append_drop {i₀ i₁ subIndex s₀ s₁ s₂ s₃ : UInt8} {rest : List UInt8}
    (h : (u32OfBytes [s₀, s₁, s₂, s₃]).toNat ≤ rest.length) {e : DcfEntry}
    (hindex : e.index = u16OfBytes [i₀, i₁]) (hsub : e.subIndex = subIndex)
    (hdata : e.data = rest.take (u32OfBytes [s₀, s₁, s₂, s₃]).toNat) :
    e.bytes ++ rest.drop (u32OfBytes [s₀, s₁, s₂, s₃]).toNat =
      i₀ :: i₁ :: subIndex :: s₀ :: s₁ :: s₂ :: s₃ :: rest := by
  have hsize : UInt32.ofNat e.data.length = u32OfBytes [s₀, s₁, s₂, s₃] := by
    rw [hdata, List.length_take_of_le h, UInt32.ofNat_toNat]
  rw [bytes, hsize, hindex, hsub, u16Bytes_u16OfBytes rfl, u32Bytes_u32OfBytes rfl, hdata,
    List.append_assoc, List.take_append_drop]
  rfl

/-- The entries that are taken lie inside the buffer. -/
theorem completeEntries_inside (count : ℕ) (buffer : List UInt8) :
    LiesInside count buffer (completeEntries count buffer) := by
  fun_induction completeEntries count buffer with
  | case1 count i₀ i₁ subIndex s₀ s₁ s₂ s₃ rest h ih =>
      obtain ⟨hlength, tail, htail⟩ := ih
      refine ⟨Nat.succ_le_succ hlength, tail, ?_⟩
      rw [List.map_cons, List.flatten_cons, List.append_assoc, htail]
      exact DcfEntry.bytes_append_drop h rfl rfl rfl
  | case2 count i₀ i₁ subIndex s₀ s₁ s₂ s₃ rest h => exact ⟨Nat.zero_le _, List.nil_prefix⟩
  | case3 => exact ⟨Nat.zero_le _, List.nil_prefix⟩

/-- Entries that lie inside the buffer are taken. -/
theorem prefix_completeEntries {count : ℕ} {buffer : List UInt8} {entries : List DcfEntry}
    (h : LiesInside count buffer entries) : entries <+: completeEntries count buffer := by
  obtain ⟨hcount, rest, rfl⟩ := h
  induction entries generalizing count with
  | nil => exact List.nil_prefix
  | cons e entries ih =>
      obtain ⟨count, rfl⟩ := Nat.exists_eq_add_one.mpr (Nat.zero_lt_of_lt hcount)
      rw [List.map_cons, List.flatten_cons, List.append_assoc, completeEntries_bytes]
      exact (List.prefix_cons_inj e).mpr (ih (Nat.le_of_succ_le_succ hcount))

theorem completeEntries_longest (count : ℕ) (buffer : List UInt8) :
    IsLongest count buffer (completeEntries count buffer) :=
  ⟨completeEntries_inside count buffer, fun _ h => prefix_completeEntries h⟩

/-! ### Jobs -/

namespace SdoClientConnection

/-- `SdoClientConnection::prepare_next_job_command` with every slice checked; `none` is a panic. -/
def prepareNextJobCommandChecked (c : SdoClientConnection) :
    Option (Bool × SdoClientConnection) :=
  match c.currentJob with
  | none => some (false, c)
  | some job =>
      let done := { c with currentJob := none }
      if job.entriesRemaining = 0 then some (false, done)
      else if job.offset + 7 > job.data.length then some (false, done)
      else do
        let indexBytes ← slice job.data job.offset (job.offset + 2)
        let subIndex ← job.data[job.offset + 2]?
        let sizeBytes ← slice job.data (job.offset + 3) (job.offset + 7)
        let dataSize := (u32OfBytes sizeBytes).toNat
        if job.offset + 7 + dataSize > job.data.length then some (false, done)
        else do
          let paramData ← slice job.data (job.offset + 7) (job.offset + 7 + dataSize)
          let fullPayload := writePayload (u16OfBytes indexBytes) subIndex paramData
          some (true, { c with
            dataBuffer := fullPayload
            totalSize := fullPayload.length
            offset := 0
            currentJob := some
              { job with
                offset := job.offset + 7 + dataSize
                entriesRemaining := job.entriesRemaining - 1 }
            transactionId := if c.transactionId + 1 = 0 then 1 else c.transactionId + 1 })

/-- No job makes `prepare_next_job_command` read outside of its data. -/
theorem prepareNextJobCommandChecked_eq (c : SdoClientConnection) :
    c.prepareNextJobCommandChecked = some c.prepareNextJobCommand := by
  unfold prepareNextJobCommandChecked prepareNextJobCommand
  cases hjob : c.currentJob with
  | none => rfl
  | some job =>
      dsimp only
      by_cases hremaining : job.entriesRemaining = 0
      · rw [if_pos hremaining, if_pos hremaining]
      · rw [if_neg hremaining, if_neg hremaining]
        have hlength := List.length_drop (i := job.offset) (l := job.data)
        by_cases hshort : job.offset + 7 > job.data.length
        · rw [if_pos hshort]
          split
          · rename_i hdrop
            rw [hdrop] at hlength
            simp only [List.length_cons] at hlength
            omega
          · rfl
        · rw [if_neg hshort]
          obtain ⟨i₀, i₁, subIndex, s₀, s₁, s₂, s₃, rest, hdrop⟩ :=
            exists_seven (l := job.data.drop job.offset) (by omega)
          rw [hdrop] at hlength
          simp only [List.length_cons] at hlength
          have hindex : slice job.data job.offset (job.offset + 2) = some [i₀, i₁] := by
            rw [slice_eq_some (by omega) (by omega), hdrop, Nat.add_sub_cancel_left]
            rfl
          have hsub : job.data[job.offset + 2]? = some subIndex := by
            rw [← List.getElem?_drop, hdrop]
            rfl
          have hsize : slice job.data (job.offset + 3) (job.offset + 7) =
              some [s₀, s₁, s₂, s₃] := by
            rw [slice_eq_some (by omega) (by omega), ← List.drop_drop, hdrop,
              Nat.add_sub_add_left]
            rfl
          rw [hindex, hsub, hsize, hdrop]
          dsimp only [bind, Option.bind]
          by_cases hdata : rest.length < (u32OfBytes [s₀, s₁, s₂, s₃]).toNat
          · rw [if_pos hdata, if_pos (by omega)]
          · have hparam : slice job.data (job.offset + 7)
                (job.offset + 7 + (u32OfBytes [s₀, s₁, s₂, s₃]).toNat) =
                  some (rest.take (u32OfBytes [s₀, s₁, s₂, s₃]).toNat) := by
              rw [slice_eq_some (by omega) (by omega), ← List.drop_drop, hdrop,
                Nat.add_sub_cancel_left]
              rfl
            rw [if_neg hdata, if_neg (by omega), hparam]

/-- The entries of the job that are still to be sent. -/
def pendingEntries (c : SdoClientConnection) : List DcfEntry :=
  match c.currentJob with
  | none => []
  | some job => completeEntries job.entriesRemaining.toNat (job.data.drop job.offset)

theorem exists_remaining {n : UInt32} (h : n ≠ 0) : ∃ count, n.toNat = count + 1 := by
  refine Nat.exists_eq_add_one.mpr (Nat.pos_of_ne_zero fun hzero => h ?_)
  exact UInt32.toNat_inj.mp hzero

/-- A job without complete entries is done. -/
theorem prepareNextJobCommand_nil {c : SdoClientConnection} (h : c.pendingEntries = []) :
    c.prepareNextJobCommand = (false, { c with currentJob := none }) := by
  unfold pendingEntries at h
  unfold prepareNextJobCommand
  cases hjob : c.currentJob with
  | none =>
      dsimp only
      rw [← hjob]
  | some job =>
      rw [hjob] at h
      dsimp only at h ⊢
      by_cases hremaining : job.entriesRemaining = 0
      · rw [if_pos hremaining]
      · rw [if_neg hremaining]
        obtain ⟨count, hcount⟩ := exists_remaining hremaining
        rw [hcount] at h
        split
        · rename_i hdrop
          rw [hdrop, completeEntries] at h
          split_ifs at h with hfits
          rw [if_pos (Nat.lt_of_not_le hfits)]
        · rfl

/-- The next entry of a job is loaded into the buffer. -/
theorem prepareNextJobCommand_cons {c : SdoClientConnection} {e : DcfEntry}
    {entries : List DcfEntry} (h : c.pendingEntries = e :: entries) :
    ∃ transactionId job, c.prepareNextJobCommand = (true,
      { c with
        dataBuffer := e.payload
        totalSize := e.payload.length
        offset := 0
        currentJob := job
        transactionId := transactionId }) ∧
      pendingEntries { c with currentJob := job } = entries := by
  unfold pendingEntries at h
  unfold prepareNextJobCommand
  cases hjob : c.currentJob with
  | none =>
      rw [hjob] at h
      cases h
  | some job =>
      rw [hjob] at h
      dsimp only at h ⊢
      by_cases hremaining : job.entriesRemaining = 0
      · rw [hremaining] at h
        cases h
      · rw [if_neg hremaining]
        obtain ⟨count, hcount⟩ := exists_remaining hremaining
        rw [hcount] at h
        split
        · rename_i i₀ i₁ subIndex s₀ s₁ s₂ s₃ rest hdrop
          rw [hdrop, completeEntries] at h
          split_ifs at h with hfits
          obtain ⟨rfl, hentries⟩ := List.cons.inj h
          rw [if_neg (Nat.not_lt.mpr hfits)]
          refine ⟨_, _, rfl, ?_⟩
          have hpred : (job.entriesRemaining - 1).toNat = count := by
            have hone : (1 : UInt32) ≤ job.entriesRemaining := by
              rw [UInt32.le_iff_toNat_le, hcount]
              exact Nat.le_add_left _ _
            rw [UInt32.toNat_sub_of_le _ _ hone, hcount]
            rfl
          unfold pendingEntries
          dsimp only
          rw [hpred, Nat.add_assoc, ← List.drop_drop, hdrop, ← hentries, ← List.drop_drop]
          rfl
        · rename_i hshort
          rw [completeEntries] at h
          · cases h
          · intro n i₀ i₁ subIndex s₀ s₁ s₂ s₃ rest _ hdrop
            exact hshort _ _ _ _ _ _ _ _ hdrop

/-! ### Rounds -/

end SdoClientConnection

/-- What the peer chooses when it acknowledges a frame, besides its numbers. -/
structure Answer (σ : Type) extends Receipt σ where
  reply : SdoCommand
  accepts : reply.header.isAborted = false

namespace SdoClientConnection

/-- The choices of the peer for a frame: an opening frame is answered by an opening. -/
def answering (a : Answer σ) (frame : SequenceLayerHeader × SdoCommand) : Receipt σ :=
  if frame.1.sendCon = .initialization then
    { a.toReceipt with sendCon := .initialization, receiveCon := .initialization }
  else a.toReceipt

/-- The client sends what is pending, and the peer acknowledges it; `none` is a panic. -/
def round (a : Answer σ) (c : SdoClientConnection) :
    Option (List (SequenceLayerHeader × SdoCommand) × SdoClientConnection) :=
  match c.getPendingRequest a.currentTimeUs a.od with
  | (none, c') => some ([], c')
  | (some frame, c') =>
      (c'.handleResponse (c'.inOrderHeader (answering a frame)) a.reply).map fun c'' =>
        ([frame], c'')

/-- Some rounds, with the frames that the client sends in them. -/
def converse (answers : ℕ → Answer σ) : ℕ → ℕ → SdoClientConnection →
    Option (List (SequenceLayerHeader × SdoCommand) × SdoClientConnection)
  | _, 0, c => some ([], c)
  | k, n + 1, c =>
      (round (answers k) c).bind fun r =>
        (converse answers (k + 1) n r.2).map fun r' => (r.1 ++ r'.1, r'.2)

/-- Rounds are followed by rounds. -/
theorem converse_add {answers : ℕ → Answer σ} {n m k : ℕ} {c c' c'' : SdoClientConnection}
    {frames frames' : List (SequenceLayerHeader × SdoCommand)}
    (h : converse answers k n c = some (frames, c'))
    (h' : converse answers (k + n) m c' = some (frames', c'')) :
    converse answers k (n + m) c = some (frames ++ frames', c'') := by
  induction n generalizing k c frames with
  | zero =>
      obtain ⟨rfl, rfl⟩ := Prod.mk.inj (Option.some.inj h)
      rw [Nat.zero_add]
      exact h'
  | succ n ih =>
      rw [converse] at h
      obtain ⟨r, hround, hrest⟩ := Option.bind_eq_some_iff.mp h
      obtain ⟨r', hr', heq⟩ := Option.map_eq_some_iff.mp hrest
      obtain ⟨rfl, rfl⟩ := Prod.mk.inj heq
      have hadd : k + (n + 1) = k + 1 + n := by omega
      rw [hadd] at h'
      rw [Nat.succ_add, converse, hround, Option.bind_some, ih hr' h', Option.map_some,
        List.append_assoc]

theorem converse_one {answers : ℕ → Answer σ} {k : ℕ} {c c' : SdoClientConnection}
    {frames : List (SequenceLayerHeader × SdoCommand)}
    (h : round (answers k) c = some (frames, c')) :
    converse answers k 1 c = some (frames, c') := by
  rw [converse, h, Option.bind_some, converse, Option.map_some, List.append_nil]

/-- A closed connection stays as it is. -/
theorem converse_closed {answers : ℕ → Answer σ} {c : SdoClientConnection}
    (hstate : c.state = .closed) (hsent : c.lastSentCommand = none) (k n : ℕ) :
    converse answers k n c = some ([], c) := by
  have hround : ∀ a : Answer σ, round a c = some ([], c) := by
    intro a
    unfold round getPendingRequest
    rw [hsent, hstate]
    rfl
  induction n generalizing k with
  | zero => rfl
  | succ n ih => rw [converse, hround, Option.bind_some, ih]; rfl

/-! ### One segment -/

/-- The client is about to send a segment of the buffer. -/
structure Sending (c : SdoClientConnection) (buffer : List UInt8) (k : ℕ)
    (entries : List DcfEntry) : Prop where
  state : c.state = if k = 0 then .established else .downloadInProgress
  sent : c.lastSentCommand = none
  pendingCommand : c.pendingCommand = none
  dataBuffer : c.dataBuffer = buffer
  loaded : c.Loaded
  offset : c.offset = maxClientPayload * k
  entries : c.pendingEntries = entries

/-- Between two entries, with some entries left. -/
def AfterEntry (c : SdoClientConnection) : List DcfEntry → Prop
  | [] => c.state = .closed ∧ c.lastSentCommand = none
  | e :: entries => Sending c e.payload 0 entries

/-- The connection is the one whose segments up to now have been sent. -/
theorem afterSegments_of_sending {c : SdoClientConnection} {buffer : List UInt8} {k : ℕ}
    {entries : List DcfEntry} (h : Sending c buffer k entries)
    (hk : maxClientPayload * k < buffer.length) : c.afterSegments k = c := by
  have hoffset : min (maxClientPayload * k) c.dataBuffer.length = c.offset := by
    rw [h.dataBuffer, min_eq_left hk.le, h.offset]
  unfold afterSegments
  rw [hoffset]

/-- The frame of a segment, and the connection that waits for its acknowledgement. -/
theorem getPendingRequest_sending {c : SdoClientConnection} {buffer : List UInt8} {k : ℕ}
    {entries : List DcfEntry} (h : Sending c buffer k entries)
    (hk : maxClientPayload * k < buffer.length) (currentTimeUs : ℕ) (od : ObjectDictionary σ) :
    c.getPendingRequest currentTimeUs od =
      sendRequest { c.afterSegments (k + 1) with state := .downloadInProgress } c.requestHeader
        (downloadCommand c.transactionId buffer k) currentTimeUs od := by
  have hsegment := getNextDownloadSegment_spec h.loaded (by rw [h.dataBuffer]; exact hk)
  rw [afterSegments_of_sending h hk, h.dataBuffer] at hsegment
  have hstate := h.state
  unfold getPendingRequest
  rw [h.sent]
  by_cases h0 : k = 0
  · rw [if_pos h0] at hstate
    have hbuffer : c.dataBuffer ≠ [] := by
      have hheader := h.loaded.header
      intro hnil
      rw [hnil] at hheader
      exact absurd hheader (by decide)
    rw [hstate]
    dsimp only [Option.isSome]
    rw [if_neg Bool.false_ne_true, if_pos hbuffer, startDownload, hsegment]
  · rw [if_neg h0] at hstate
    rw [hstate]
    dsimp only [Option.isSome]
    rw [if_neg Bool.false_ne_true, hsegment, ← hstate]
    rfl

/-- The connection after a segment was acknowledged. -/
def segmentAcknowledged (c : SdoClientConnection) (k : ℕ) : SdoClientConnection :=
  { c.afterSegments (k + 1) with
    state := .downloadInProgress
    deadlineUs := none
    retriesLeft := 0
    lastSentCommand := none
    sendSequenceNumber := nextSequence c.sendSequenceNumber
    lastReceivedSequenceNumber := nextSequence c.lastReceivedSequenceNumber }

/-- A round sends one segment. -/
theorem round_sending {c : SdoClientConnection} {buffer : List UInt8} {k : ℕ}
    {entries : List DcfEntry} (h : Sending c buffer k entries)
    (hk : maxClientPayload * k < buffer.length) (a : Answer σ) :
    ∃ seqHeader, round a c = some ([(c.requestHeader, downloadCommand c.transactionId buffer k)],
      (c.segmentAcknowledged k).processResponse seqHeader a.reply) := by
  unfold round
  rw [getPendingRequest_sending h hk]
  dsimp only [sendRequest]
  rw [handleResponse_inOrder rfl _ a.accepts]
  exact ⟨_, rfl⟩

/-- The acknowledgement of a segment leads to the next one, or behind the entry. -/
theorem segmentAcknowledged_spec {c : SdoClientConnection} {buffer : List UInt8} {k : ℕ}
    {entries : List DcfEntry} (h : Sending c buffer k entries)
    (hk : maxClientPayload * k < buffer.length) (seqHeader : SequenceLayerHeader)
    (command : SdoCommand) :
    (k + 1 < buffer.length ⌈/⌉ maxClientPayload →
      Sending ((c.segmentAcknowledged k).processResponse seqHeader command) buffer (k + 1) entries ∧
        ((c.segmentAcknowledged k).processResponse seqHeader command).transactionId =
          c.transactionId) ∧
    (k + 1 = buffer.length ⌈/⌉ maxClientPayload →
      AfterEntry ((c.segmentAcknowledged k).processResponse seqHeader command) entries) := by
  have hpos : 0 < maxClientPayload := by decide
  have hlast := succ_eq_ceilDiv_iff hpos hk
  have hmore := lt_ceilDiv_iff hpos buffer.length (k + 1)
  have hsize : c.totalSize = buffer.length := by rw [h.loaded.totalSize, h.dataBuffer]
  have hoffset : (c.segmentAcknowledged k).offset =
      min (maxClientPayload * (k + 1)) buffer.length := by rw [← h.dataBuffer]; rfl
  have hresponse : (c.segmentAcknowledged k).processResponse seqHeader command =
      if buffer.length ≤ min (maxClientPayload * (k + 1)) buffer.length then
        { (c.segmentAcknowledged k).prepareNextJobCommand.2 with
          state := if (c.segmentAcknowledged k).prepareNextJobCommand.1 then .established
            else .closed }
      else c.segmentAcknowledged k := by
    unfold processResponse
    rw [hoffset, ← hsize]
    rcases (c.segmentAcknowledged k).prepareNextJobCommand with ⟨_ | _, c'⟩
    · rfl
    · rfl
  rw [hresponse]
  constructor
  · intro hk'
    rw [if_neg (by omega)]
    refine ⟨⟨?_, rfl, h.pendingCommand, h.dataBuffer,
      ⟨h.loaded.totalSize, h.loaded.header⟩, ?_, h.entries⟩, rfl⟩
    · rw [if_neg (Nat.succ_ne_zero k)]
      rfl
    · rw [hoffset]
      omega
  · intro hk'
    rw [if_pos (by omega)]
    have hentries : (c.segmentAcknowledged k).pendingEntries = entries := h.entries
    cases entries with
    | nil =>
        rw [prepareNextJobCommand_nil hentries]
        exact ⟨rfl, rfl⟩
    | cons e entries =>
        obtain ⟨transactionId, job, hprepare, hrest⟩ := prepareNextJobCommand_cons hentries
        rw [hprepare]
        exact ⟨rfl, rfl, h.pendingCommand, rfl, ⟨rfl, e.four_le_length_payload⟩, rfl, hrest⟩

/-! ### One entry -/

/-- The frames of a transfer that writes an entry. -/
structure IsTransfer (e : DcfEntry) (frames : List (SequenceLayerHeader × SdoCommand)) : Prop where
  payloads : (frames.map fun f => f.2.payload).flatten =
    u16Bytes e.index ++ [e.subIndex, 0] ++ e.data
  commands : ∀ f ∈ frames, f.2.header.commandId = .writeByIndex ∧ f.2.header.isResponse = false ∧
    f.2.header.isAborted = false
  sameTransaction : ∀ f ∈ frames, ∀ g ∈ frames,
    f.2.header.transactionId = g.2.header.transactionId
  announced : ∃ f rest, frames = f :: rest ∧ f.2.dataSize.isSome = true ∧
    ∀ g ∈ rest, g.2.dataSize = none

/-- The rounds from a segment on send the rest of the entry. -/
theorem converse_segments (answers : ℕ → Answer σ) {c : SdoClientConnection} {buffer : List UInt8}
    {k d : ℕ} {entries : List DcfEntry} (h : Sending c buffer k entries)
    (hd : buffer.length ⌈/⌉ maxClientPayload = k + 1 + d) (i : ℕ) :
    ∃ n frames c', converse answers i n c = some (frames, c') ∧ AfterEntry c' entries ∧
      frames.map Prod.snd =
        (List.range' k (d + 1)).map (downloadCommand c.transactionId buffer) := by
  induction d generalizing c k i with
  | zero =>
      have hk : maxClientPayload * k < buffer.length :=
        (lt_ceilDiv_iff (by decide) buffer.length k).mp (by omega)
      obtain ⟨seqHeader, hround⟩ := round_sending h hk (answers i)
      exact ⟨1, _, _, converse_one hround, (segmentAcknowledged_spec h hk _ _).2 hd.symm, rfl⟩
  | succ d ih =>
      have hk : maxClientPayload * k < buffer.length :=
        (lt_ceilDiv_iff (by decide) buffer.length k).mp (by omega)
      obtain ⟨seqHeader, hround⟩ := round_sending h hk (answers i)
      obtain ⟨hnext, htid⟩ :=
        (segmentAcknowledged_spec h hk seqHeader (answers i).reply).1 (by omega)
      obtain ⟨n, frames, c', hrest, hafter, hframes⟩ := ih hnext (by omega) (i + 1)
      refine ⟨1 + n, _, c', converse_add (converse_one hround) hrest, hafter, ?_⟩
      rw [List.map_append, hframes, htid, List.range'_succ]
      rfl

/-- The commands of a download are a transfer. -/
theorem isTransfer_of_commands {e : DcfEntry} {transactionId : UInt8}
    {frames : List (SequenceLayerHeader × SdoCommand)}
    (h : frames.map Prod.snd = downloadCommands transactionId e.payload) : IsTransfer e frames := by
  have hcommand : ∀ f ∈ frames, ∃ k, f.2 = downloadCommand transactionId e.payload k := by
    intro f hf
    have hmem : f.2 ∈ downloadCommands transactionId e.payload := by
      rw [← h]
      exact List.mem_map_of_mem hf
    obtain ⟨k, -, hk⟩ := List.mem_map.mp hmem
    exact ⟨k, hk.symm⟩
  constructor
  · have hpayloads := payloads_downloadCommand transactionId e.payload
    rw [← h, List.map_map] at hpayloads
    exact hpayloads
  · intro f hf
    obtain ⟨k, hk⟩ := hcommand f hf
    rw [hk]
    exact ⟨rfl, rfl, rfl⟩
  · intro f hf g hg
    obtain ⟨k, hk⟩ := hcommand f hf
    obtain ⟨l, hl⟩ := hcommand g hg
    rw [hk, hl]
    rfl
  · have hone : 0 < e.payload.length ⌈/⌉ maxClientPayload :=
      (lt_ceilDiv_iff (by decide) e.payload.length 0).mpr
        (Nat.lt_of_lt_of_le (by decide) e.four_le_length_payload)
    obtain ⟨n, hn⟩ := Nat.exists_eq_add_one.mpr hone
    rw [downloadCommands, hn, List.range_succ_eq_map, List.map_cons, List.map_map] at h
    obtain ⟨f, rest, rfl, hfirst, hrest⟩ := List.map_eq_cons_iff.mp h
    refine ⟨f, rest, rfl, ?_, ?_⟩
    · rw [hfirst]
      rfl
    · intro g hg
      have hmem : g.2 ∈ (List.range n).map (downloadCommand transactionId e.payload ∘ Nat.succ) := by
        rw [← hrest]
        exact List.mem_map_of_mem hg
      obtain ⟨k, -, hk⟩ := List.mem_map.mp hmem
      rw [← hk]
      rfl

/-- The rounds of an entry are one transfer. -/
theorem converse_entry (answers : ℕ → Answer σ) {c : SdoClientConnection} {e : DcfEntry}
    {entries : List DcfEntry} (h : Sending c e.payload 0 entries) (i : ℕ) :
    ∃ n frames c', converse answers i n c = some (frames, c') ∧ AfterEntry c' entries ∧
      IsTransfer e frames := by
  have hone : 0 < e.payload.length ⌈/⌉ maxClientPayload :=
    (lt_ceilDiv_iff (by decide) e.payload.length 0).mpr
      (Nat.lt_of_lt_of_le (by decide) e.four_le_length_payload)
  obtain ⟨d, hd⟩ := Nat.exists_eq_add_one.mpr hone
  have hcount : e.payload.length ⌈/⌉ maxClientPayload = 0 + 1 + d := by omega
  obtain ⟨n, frames, c', hrun, hafter, hframes⟩ := converse_segments answers h hcount i
  have hcommands : frames.map Prod.snd = downloadCommands c.transactionId e.payload := by
    rw [hframes, downloadCommands, hd, List.range_eq_range']
  exact ⟨n, frames, c', hrun, hafter, isTransfer_of_commands hcommands⟩

/-- The rounds of all entries are a transfer for each of them, and the connection closes. -/
theorem converse_entries (answers : ℕ → Answer σ) {entries : List DcfEntry}
    {c : SdoClientConnection} (h : AfterEntry c entries) (i : ℕ) :
    ∃ n transfers c', converse answers i n c = some (transfers.flatten, c') ∧
      c'.state = .closed ∧ c'.lastSentCommand = none ∧
        List.Forall₂ IsTransfer entries transfers := by
  induction entries generalizing c i with
  | nil => exact ⟨0, [], c, rfl, h.1, h.2, .nil⟩
  | cons e entries ih =>
      obtain ⟨n, frames, c', hrun, hafter, htransfer⟩ := converse_entry answers h i
      obtain ⟨m, transfers, c'', hrest, hclosed, hsent, htransfers⟩ := ih hafter (i + n)
      exact ⟨n + m, frames :: transfers, c'', converse_add hrun hrest, hclosed, hsent,
        .cons htransfer htransfers⟩

/-! ### The whole download -/

/-- The connection after its opening was acknowledged. -/
def openingAcknowledged (c : SdoClientConnection) : SdoClientConnection :=
  { c with
    state := .established
    deadlineUs := none
    retriesLeft := 0
    lastSentCommand := none
    sendSequenceNumber := nextSequence c.sendSequenceNumber
    lastReceivedSequenceNumber := nextSequence c.lastReceivedSequenceNumber }

/-- The frame that opens a connection carries no command. -/
def IsOpening (frame : SequenceLayerHeader × SdoCommand) : Prop :=
  frame.1.sendCon = .initialization ∧ frame.2.header.commandId = .nil ∧ frame.2.payload = []

/-- A round opens the connection. -/
theorem round_opening {c : SdoClientConnection} (hstate : c.state = .opening)
    (hsent : c.lastSentCommand = none) (a : Answer σ) :
    ∃ frame, round a c = some ([frame], c.openingAcknowledged) ∧ IsOpening frame := by
  unfold round getPendingRequest
  rw [hsent, hstate]
  dsimp only [Option.isSome, sendRequest]
  rw [if_neg Bool.false_ne_true]
  dsimp only
  rw [handleResponse_inOrder rfl _ a.accepts]
  unfold processResponse
  dsimp only [acknowledged]
  rw [hstate]
  exact ⟨_, rfl, rfl, rfl, rfl⟩

/-- A round without anything to send closes the connection. -/
theorem round_nothing {c : SdoClientConnection} (hstate : c.state = .established)
    (hsent : c.lastSentCommand = none) (hbuffer : c.dataBuffer = [])
    (hcommand : c.pendingCommand = none) (hentries : c.pendingEntries = []) (a : Answer σ) :
    ∃ c', round a c = some ([], c') ∧ c'.state = .closed ∧ c'.lastSentCommand = none := by
  unfold round getPendingRequest
  rw [hsent, hstate]
  dsimp only [Option.isSome]
  rw [if_neg Bool.false_ne_true, if_neg (not_not.mpr hbuffer), hcommand]
  dsimp only
  rw [prepareNextJobCommand_nil hentries]
  exact ⟨_, rfl, rfl, hsent⟩

/-- The connection that is given a concise DCF, before the first entry is loaded. -/
def withConciseDcf (targetNodeId : NodeId) (dcfData : List UInt8) (tid : UInt8) :
    SdoClientConnection :=
  { new targetNodeId with
    state := .opening
    transactionId := tid
    currentJob := some
      { data := dcfData, offset := 4, entriesRemaining := u32OfBytes (dcfData.take 4) } }

/-- The job of a new connection is loaded up to its first entry. -/
theorem startConciseDcfJob_new (targetNodeId : NodeId) {dcfData : List UInt8}
    (hlength : 4 ≤ dcfData.length) (tid : UInt8) (currentTimeUs : ℕ) (od : ObjectDictionary σ) :
    ∃ c, (new targetNodeId).startConciseDcfJob dcfData tid currentTimeUs od = (.ok (), c) ∧
      c.state = .opening ∧ c.lastSentCommand = none ∧
        match completeEntries (u32OfBytes (dcfData.take 4)).toNat (dcfData.drop 4) with
        | [] => c.dataBuffer = [] ∧ c.pendingCommand = none ∧ c.pendingEntries = []
        | e :: entries => Sending c.openingAcknowledged e.payload 0 entries := by
  have hentries : (withConciseDcf targetNodeId dcfData tid).pendingEntries =
      completeEntries (u32OfBytes (dcfData.take 4)).toNat (dcfData.drop 4) := rfl
  have hstart : (new targetNodeId).startConciseDcfJob dcfData tid currentTimeUs od =
      (.ok (), { (withConciseDcf targetNodeId dcfData tid).prepareNextJobCommand.2 with
        deadlineUs := some (currentTimeUs + sdoTimeoutUs od)
        retriesLeft := sdoRetries od }) := if_neg (Nat.not_lt.mpr hlength)
  rw [hstart]
  refine ⟨_, rfl, ?_⟩
  cases hcomplete : completeEntries (u32OfBytes (dcfData.take 4)).toNat (dcfData.drop 4) with
  | nil =>
      rw [hcomplete] at hentries
      rw [prepareNextJobCommand_nil hentries]
      exact ⟨rfl, rfl, rfl, rfl, rfl⟩
  | cons e entries =>
      rw [hcomplete] at hentries
      obtain ⟨transactionId, job, hprepare, hrest⟩ := prepareNextJobCommand_cons hentries
      rw [hprepare]
      exact ⟨rfl, rfl, rfl, rfl, rfl, rfl, ⟨rfl, e.four_le_length_payload⟩, rfl, hrest⟩

/-- A new connection that is given a concise DCF opens the connection, sends one transfer for each
entry that lies completely inside the DCF, up to the number in its header, and closes. -/
def CompletesDcf (targetNodeId : NodeId) (dcfData : List UInt8) (tid : UInt8) (currentTimeUs : ℕ)
    (od : ObjectDictionary σ) (answers : ℕ → Answer σ) : Prop :=
  ∃ entries c opening transfers c' n,
    IsLongest (u32OfBytes (dcfData.take 4)).toNat (dcfData.drop 4) entries ∧
    (new targetNodeId).startConciseDcfJob dcfData tid currentTimeUs od = (.ok (), c) ∧
    (∀ m, n ≤ m → converse answers 0 m c = some (opening :: transfers.flatten, c')) ∧
    c'.state = .closed ∧ IsOpening opening ∧ List.Forall₂ IsTransfer entries transfers

/-- The download of a concise DCF is complete, and no job reads outside of its data. -/
theorem concise_dcf_complete (targetNodeId : NodeId) {dcfData : List UInt8}
    (hlength : 4 ≤ dcfData.length) (tid : UInt8) (currentTimeUs : ℕ) (od : ObjectDictionary σ)
    (answers : ℕ → Answer σ) :
    CompletesDcf targetNodeId dcfData tid currentTimeUs od answers ∧
    ∀ c : SdoClientConnection, c.prepareNextJobCommandChecked = some c.prepareNextJobCommand := by
  refine ⟨?_, prepareNextJobCommandChecked_eq⟩
  obtain ⟨c, hstart, hstate, hsent, hjob⟩ :=
    startConciseDcfJob_new targetNodeId hlength tid currentTimeUs od
  obtain ⟨opening, hround, hopening⟩ := round_opening hstate hsent (answers 0)
  -- the rounds after the opening end in a closed connection
  obtain ⟨n, transfers, c', hrun, hclosed, hsent', htransfers⟩ : ∃ n transfers c',
      converse answers 1 n c.openingAcknowledged = some (transfers.flatten, c') ∧
        c'.state = .closed ∧ c'.lastSentCommand = none ∧ List.Forall₂ IsTransfer
          (completeEntries (u32OfBytes (dcfData.take 4)).toNat (dcfData.drop 4)) transfers := by
    cases hcomplete : completeEntries (u32OfBytes (dcfData.take 4)).toNat (dcfData.drop 4) with
    | nil =>
        rw [hcomplete] at hjob
        obtain ⟨hbuffer, hcommand, hpending⟩ := hjob
        obtain ⟨c', hnothing, hclosed, hsent'⟩ := round_nothing (c := c.openingAcknowledged) rfl rfl
          hbuffer hcommand hpending (answers 1)
        exact ⟨1, [], c', converse_one hnothing, hclosed, hsent', .nil⟩
    | cons e entries =>
        rw [hcomplete] at hjob
        have hready : AfterEntry c.openingAcknowledged (e :: entries) := hjob
        exact converse_entries answers hready 1
  refine ⟨_, c, opening, transfers, c', 1 + n, completeEntries_longest _ _, hstart, ?_, hclosed,
    hopening, htransfers⟩
  intro m hm
  obtain ⟨d, rfl⟩ := Nat.exists_eq_add_of_le hm
  have hall := converse_add (converse_add (converse_one hround) hrun)
    (converse_closed hclosed hsent' (0 + (1 + n)) d)
  rw [List.append_nil] at hall
  exact hall

/-- A peer that returns empty commands. -/
def emptyAnswers : ℕ → Answer Empty := fun k =>
  { promptReceipts k with reply := ⟨{}, none, []⟩, accepts := rfl }

/-- One entry: the octet `5` for `0x2000`. -/
theorem concise_dcf_complete_one_entry :
    CompletesDcf ⟨1⟩ [1, 0, 0, 0, 0x00, 0x20, 0, 1, 0, 0, 0, 5] 1 0 (.new none) emptyAnswers ∧
    ∀ c : SdoClientConnection, c.prepareNextJobCommandChecked = some c.prepareNextJobCommand :=
  concise_dcf_complete ⟨1⟩ (by decide) 1 0 (.new none) emptyAnswers

end SdoClientConnection

end Powerlink
