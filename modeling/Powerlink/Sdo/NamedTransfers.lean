import Powerlink.Od.Encoding
import Powerlink.Sdo.Verdict

/-! # Writes by name and by index

A write names its object in the payload, by index or by name, and carries the data behind it: in
one expedited frame, or cut into `Initiate`, `Segment` and `Complete` frames of which only the
first names the object.  `handle_write_by_name` replaces the name by the address of the object
and goes on as for a write by index, but it does so in every frame: a `Segment` or `Complete`
frame is read as a name, a zero and data as well.

`transfer_frames` says what a whole write comes to: the response and the dictionary it ends with
are `answered` by `Cuts.outcome`, which knows neither the connection nor the clock.  The octets
of the frames after the first are collected by `collectedOctets`, frame for frame, until
one of them does not read as a name or goes past the announced size. -/

namespace Powerlink

open LittleEndian Handlers

/-! ### Running a transfer -/

namespace SdoSequenceHandler

variable {σ η : Type} [ObjectDictionaryStorage σ] [SdoCommandHandler σ η]

/-- The end of a transfer after an answer of the command layer: the frames still to come are
passed to it, the `k`-th at `time k`, unless the transfer is aborted. -/
def finish (time : ℕ → ℕ) : List SdoCommand →
    (SdoCommand × SdoSequenceHandler) × ObjectDictionary σ × η → SdoCommand × ObjectDictionary σ
  | [], ((response, _), od, _) => (response, od)
  | command :: commands, ((response, h), od, ch) =>
      if response.header.isAborted then (response, od)
      else finish (fun k => time (k + 1)) commands (h.processCommandLayer command od (time 0) ch)

/-- The response a transfer ends with, and the dictionary after it. -/
def transfer (h : SdoSequenceHandler) (od : ObjectDictionary σ) (ch : η) (time : ℕ → ℕ)
    (frames : SdoCommand × List SdoCommand) : SdoCommand × ObjectDictionary σ :=
  finish (fun k => time (k + 1)) frames.2 (h.processCommandLayer frames.1 od (time 0) ch)

/-- An aborted transfer is over. -/
theorem finish_aborted (time : ℕ → ℕ) (commands : List SdoCommand)
    {out : (SdoCommand × SdoSequenceHandler) × ObjectDictionary σ × η}
    (habort : out.1.1.header.isAborted = true) : finish time commands out = (out.1.1, out.2.1) := by
  cases commands with
  | nil => rfl
  | cons command commands => rw [finish, if_pos habort]

theorem finish_cons (time : ℕ → ℕ) (command : SdoCommand) (commands : List SdoCommand)
    {out : (SdoCommand × SdoSequenceHandler) × ObjectDictionary σ × η}
    (hanswer : out.1.1.header.isAborted = false) :
    finish time (command :: commands) out =
      finish (fun k => time (k + 1)) commands
        (out.1.2.processCommandLayer command out.2.1 (time 0) out.2.2) := by
  rw [finish, if_neg (by simp [hanswer])]

end SdoSequenceHandler

/-! ### The frames of a write -/

/-- A request of a transaction. -/
def SdoCommand.request (transactionId : UInt8) (commandId : CommandId)
    (segmentation : Segmentation) (dataSize : Option UInt32) (payload : List UInt8) :
    SdoCommand where
  header :=
    { transactionId := transactionId
      segmentation := segmentation
      commandId := commandId
      segmentSize := UInt16.ofNat payload.length }
  dataSize := dataSize
  payload := payload

/-- The data of a write, in one frame or cut into the chunks of several. -/
inductive Cuts where
  | expedited (data : List UInt8)
  | segmented (dataSize : Option UInt32) (first : List UInt8) (segments : List (List UInt8))
      (last : List UInt8)

/-- The frames after the first one carry data only. -/
def continuation (transactionId : UInt8) (commandId : CommandId) (segments : List (List UInt8))
    (last : List UInt8) : List SdoCommand :=
  segments.map (SdoCommand.request transactionId commandId .segment none) ++
    [SdoCommand.request transactionId commandId .complete none last]

/-- The frames of a write; `object` are the octets that name its object. -/
def Cuts.frames (transactionId : UInt8) (commandId : CommandId) (object : List UInt8) :
    Cuts → SdoCommand × List SdoCommand
  | expedited data =>
      (SdoCommand.request transactionId commandId .expedited none (object ++ data), [])
  | segmented dataSize first segments last =>
      (SdoCommand.request transactionId commandId .initiate dataSize (object ++ first),
        continuation transactionId commandId segments last)

/-- The size that the first frame announces, zero if it announces none. -/
def announced (dataSize : Option UInt32) : ℕ := (dataSize.getD 0).toNat

/-- The octets that name an object by its address. -/
def addressOctets (index : UInt16) (subIndex : UInt8) : List UInt8 :=
  u16Bytes index ++ [subIndex, 0]

/-- The octets that name an object by its name. -/
def nameOctets (name : String) : List UInt8 := name.toByteArray.data.toList ++ [0]

/-- The payload of a write by index. -/
def WriteByIndexRequest.payload (r : WriteByIndexRequest) : List UInt8 :=
  addressOctets r.index r.subIndex ++ r.data

theorem WriteByIndexRequest.fromPayload_payload (r : WriteByIndexRequest) :
    fromPayload r.payload = .ok r := fromPayload_address r.index r.subIndex r.data

/-- The request with further data. -/
def WriteByIndexRequest.followedBy (r : WriteByIndexRequest) (octets : List UInt8) :
    WriteByIndexRequest := { r with data := r.data ++ octets }

/-! ### What a write comes to -/

/-- What a write returns, `ok` or an abort code, and the dictionary it leaves. -/
abbrev WriteOutcome (σ : Type) := Except UInt32 Unit × ObjectDictionary σ

/-- The way in which a write names its object. -/
inductive Access where
  | byIndex
  | byName
deriving DecidableEq, Repr

namespace Access

variable {σ : Type}

/-- The command of a write. -/
def commandId : Access → CommandId
  | byIndex => .writeByIndex
  | byName => .writeByName

/-- The write that a payload with a name asks for, or the abort code it is refused with. -/
def named (od : ObjectDictionary σ) (payload : List UInt8) : Except UInt32 WriteByIndexRequest :=
  match WriteByNameRequest.fromPayload payload with
  | .ok req =>
      match od.findByName req.name with
      | some (index, subIndex) => .ok ⟨index, subIndex, req.data⟩
      | none => .error 0x060A0023
  | .error e => .error (payloadAbortCode e)

/-- The payload with which the server goes on as for a write by index. -/
def rewrite (od : ObjectDictionary σ) : Access → List UInt8 → Except UInt32 (List UInt8)
  | byIndex, payload => .ok payload
  | byName, payload => (named od payload).map WriteByIndexRequest.payload

/-- The write that the payload of the first frame asks for. -/
def resolve (od : ObjectDictionary σ) : Access → List UInt8 → Except UInt32 WriteByIndexRequest
  | byIndex, payload => (WriteByIndexRequest.fromPayload payload).mapError payloadAbortCode
  | byName, payload => named od payload

/-- The rewritten first payload is read as the write it asks for. -/
theorem fromPayload_rewrite (od : ObjectDictionary σ) (access : Access) (payload : List UInt8) :
    ((access.rewrite od payload).bind fun octets =>
        (WriteByIndexRequest.fromPayload octets).mapError payloadAbortCode) =
      access.resolve od payload := by
  cases access with
  | byIndex => rfl
  | byName =>
      rw [rewrite, resolve]
      cases named od payload with
      | error e => rfl
      | ok r =>
          change (WriteByIndexRequest.fromPayload r.payload).mapError payloadAbortCode = .ok r
          rw [WriteByIndexRequest.fromPayload_payload]
          rfl

end Access

/-- The octets that the frames after the first one add to the `length` octets before them, up to
the frame that goes past the announced size `n`. -/
def collectedOctets (rewrite : List UInt8 → Except UInt32 (List UInt8)) (n : ℕ) :
    ℕ → List (List UInt8) → Except UInt32 (List UInt8)
  | _, [] => .ok []
  | length, chunk :: chunks =>
      match rewrite chunk with
      | .ok octets =>
          if n < length + octets.length then .ok octets
          else (collectedOctets rewrite n (length + octets.length) chunks).map (octets ++ ·)
      | .error abortCode => .error abortCode

section outcomes

variable {σ : Type} [ObjectDictionaryStorage σ] (od : ObjectDictionary σ)

/-- The write of the whole data to the dictionary. -/
def writeOutcome (r : WriteByIndexRequest) : WriteOutcome σ :=
  SdoTransferState.performOdWrite
    ⟨0, r.data.length, r.data, r.data.length, r.index, r.subIndex, none, 0, none⟩ od

/-- The write depends on the address and the octets only. -/
theorem performOdWrite_eq (t : SdoTransferState) :
    t.performOdWrite od = writeOutcome od ⟨t.index, t.subIndex, t.dataBuffer⟩ := rfl

/-- The write of data of which `n` octets were announced. -/
def downloadOutcome (n : ℕ) (r : WriteByIndexRequest) : WriteOutcome σ :=
  if n < r.data.length then (.error 0x06070010, od)
  else if r.data.length < n then (.error 0x06070013, od)
  else writeOutcome od r

/-- What the frames after the first one come to. -/
def continuedOutcome (access : Access) (n : ℕ) (r : WriteByIndexRequest)
    (chunks : List (List UInt8)) : WriteOutcome σ :=
  match collectedOctets (access.rewrite od) n r.data.length chunks with
  | .ok octets => downloadOutcome od n (r.followedBy octets)
  | .error abortCode => (.error abortCode, od)

section

variable {od : ObjectDictionary σ} {access : Access} {n : ℕ} {r : WriteByIndexRequest}
  {chunk octets : List UInt8} {chunks : List (List UInt8)}

theorem continuedOutcome_nil : continuedOutcome od access n r [] = downloadOutcome od n r := by
  rw [continuedOutcome, collectedOctets]
  simp only [WriteByIndexRequest.followedBy, List.append_nil]

theorem continuedOutcome_unnamed {abortCode : UInt32}
    (hrewrite : access.rewrite od chunk = .error abortCode) :
    continuedOutcome od access n r (chunk :: chunks) = (.error abortCode, od) := by
  rw [continuedOutcome, collectedOctets, hrewrite]

theorem continuedOutcome_tooLong (hrewrite : access.rewrite od chunk = .ok octets)
    (hlong : n < r.data.length + octets.length) :
    continuedOutcome od access n r (chunk :: chunks) = (.error 0x06070010, od) := by
  rw [continuedOutcome, collectedOctets, hrewrite]
  dsimp only
  rw [if_pos hlong]
  dsimp only
  rw [downloadOutcome, if_pos (by simpa [WriteByIndexRequest.followedBy] using hlong)]

theorem continuedOutcome_cons (hrewrite : access.rewrite od chunk = .ok octets)
    (hfits : ¬ n < r.data.length + octets.length) :
    continuedOutcome od access n r (chunk :: chunks) =
      continuedOutcome od access n (r.followedBy octets) chunks := by
  rw [continuedOutcome, collectedOctets, hrewrite]
  dsimp only
  rw [if_neg hfits, continuedOutcome, WriteByIndexRequest.followedBy, List.length_append]
  cases collectedOctets (access.rewrite od) n (r.data.length + octets.length) chunks with
  | error abortCode => rfl
  | ok rest =>
      dsimp only [Except.map, WriteByIndexRequest.followedBy]
      rw [List.append_assoc]

end

/-- What a write comes to. -/
def Cuts.outcome (access : Access) (object : List UInt8) : Cuts → WriteOutcome σ
  | expedited data =>
      match access.resolve od (object ++ data) with
      | .ok r => writeOutcome od r
      | .error abortCode => (.error abortCode, od)
  | segmented dataSize first segments last =>
      match access.resolve od (object ++ first) with
      | .ok r =>
          if announced dataSize = 0 then (.error 0x06070010, od)
          else continuedOutcome od access (announced dataSize) r (segments ++ [last])
      | .error abortCode => (.error abortCode, od)

end outcomes

/-- The response to the last frame of a write, and the dictionary after it. -/
def answered {σ : Type} (transactionId : UInt8) :
    WriteOutcome σ → SdoCommand × ObjectDictionary σ
  | (.ok (), od) => (.answerTo transactionId 0 [], od)
  | (.error abortCode, od) => (.abortResponse transactionId abortCode, od)

/-- The response tells the outcomes apart. -/
theorem answered_injective {σ : Type} (transactionId : UInt8) :
    Function.Injective (answered transactionId : WriteOutcome σ → SdoCommand × _) := by
  rintro ⟨result, od⟩ ⟨result', od'⟩ h
  have hflag : ∀ abortCode, (SdoCommand.abortResponse transactionId abortCode).header.isAborted =
      true := fun _ => rfl
  have hanswer : (SdoCommand.answerTo transactionId 0 []).header.isAborted = false := rfl
  cases result with
  | ok _ =>
      cases result' with
      | ok _ => rw [(Prod.mk.inj h).2]
      | error code' =>
          rw [(Prod.mk.inj h).1, hflag code'] at hanswer
          cases hanswer
  | error code =>
      cases result' with
      | ok _ =>
          rw [← (Prod.mk.inj h).1, hflag code] at hanswer
          cases hanswer
      | error code' =>
          have hcode := congrArg (u32OfBytes ∘ SdoCommand.payload) (Prod.mk.inj h).1
          simp only [Function.comp_apply, SdoCommand.abortResponse, u32OfBytes_u32Bytes] at hcode
          rw [hcode, (Prod.mk.inj h).2]

/-! ### The command layer answers with the outcome -/

section

variable {σ η : Type} [ObjectDictionaryStorage σ] [SdoCommandHandler σ η]
  {od : ObjectDictionary σ} {ch : η} {tid : UInt8} {access : Access}

/-- Outside an upload a frame is rewritten and goes on as for a write by index. -/
theorem ofCommand_request {state : SdoServerState} (hstate : ∀ t, state ≠ .segmentedUpload t)
    (access : Access) (segmentation : Segmentation) (dataSize : Option UInt32)
    (payload : List UInt8) (currentTimeUs : ℕ) :
    Verdict.ofCommand state (.request tid access.commandId segmentation dataSize payload) od
        currentTimeUs ch =
      match access.rewrite od payload with
      | .ok octets =>
          .ofWrite state (.request tid access.commandId segmentation dataSize octets) od
            currentTimeUs
      | .error abortCode => .refuse abortCode od := by
  have hservice : Verdict.ofCommand state
      (.request tid access.commandId segmentation dataSize payload) od currentTimeUs ch =
      .ofService state (.request tid access.commandId segmentation dataSize payload) od
        currentTimeUs ch := by
    cases state with
    | segmentedUpload t => exact absurd rfl (hstate t)
    | closed | opening | established | segmentedDownload t => rfl
  rw [hservice]
  cases access with
  | byIndex => rfl
  | byName =>
      change Verdict.ofNamedWrite state _ od currentTimeUs = _
      unfold Verdict.ofNamedWrite Access.rewrite Access.named
      dsimp only [SdoCommand.request]
      cases WriteByNameRequest.fromPayload payload with
      | error e => rfl
      | ok req =>
          dsimp only
          cases od.findByName req.name with
          | none => rfl
          | some address => rfl

/-- An expedited frame writes its data. -/
theorem ofCommand_request_expedited (access : Access) (payload : List UInt8)
    (currentTimeUs : ℕ) :
    Verdict.ofCommand .established (.request tid access.commandId .expedited none payload) od
        currentTimeUs ch =
      match access.resolve od payload with
      | .ok r =>
          match writeOutcome od r with
          | (.ok (), od') => .answer 0 [] od'
          | (.error abortCode, od') => .refuse abortCode od'
      | .error abortCode => .refuse abortCode od := by
  rw [ofCommand_request (by simp), ← Access.fromPayload_rewrite]
  cases access.rewrite od payload with
  | error abortCode => rfl
  | ok octets =>
      dsimp only [Except.bind, Verdict.ofWrite, SdoCommand.request]
      cases WriteByIndexRequest.fromPayload octets with
      | error e => rfl
      | ok r => rfl

/-- An `Initiate` frame begins a download. -/
theorem ofCommand_request_initiate (access : Access) (dataSize : Option UInt32)
    (payload : List UInt8) (currentTimeUs : ℕ) :
    Verdict.ofCommand .established (.request tid access.commandId .initiate dataSize payload) od
        currentTimeUs ch =
      match access.resolve od payload with
      | .ok r =>
          if announced dataSize = 0 then .refuse 0x06070010 od
          else .receive
            ⟨tid, announced dataSize, r.data, r.data.length, r.index, r.subIndex,
              some (currentTimeUs + sdoTimeoutUs od), 0, none⟩
      | .error abortCode => .refuse abortCode od := by
  rw [ofCommand_request (by simp), ← Access.fromPayload_rewrite]
  cases access.rewrite od payload with
  | error abortCode => rfl
  | ok octets =>
      dsimp only [Except.bind, Verdict.ofWrite, SdoCommand.request]
      cases WriteByIndexRequest.fromPayload octets with
      | error e => rfl
      | ok r => rfl

namespace SdoSequenceHandler

variable {h : SdoSequenceHandler} {t : SdoTransferState}

/-- A frame that does not read as a name is refused. -/
theorem processCommandLayer_unnamed (hstate : ∀ t, h.state ≠ .segmentedUpload t)
    {payload : List UInt8} {abortCode : UInt32}
    (hrewrite : access.rewrite od payload = .error abortCode) (segmentation : Segmentation)
    (dataSize : Option UInt32) (currentTimeUs : ℕ) :
    h.processCommandLayer (.request tid access.commandId segmentation dataSize payload) od
        currentTimeUs ch = (h.abort tid abortCode, od, ch) := by
  rw [processCommandLayer_eq, ofCommand_request hstate, hrewrite]
  rfl

/-- A frame that goes past the announced size is refused. -/
theorem processCommandLayer_tooLong (hstate : h.state = .segmentedDownload t)
    (htid : t.transactionId = tid) (hoffset : t.offset = t.dataBuffer.length)
    {chunk octets : List UInt8} (hrewrite : access.rewrite od chunk = .ok octets)
    (hlong : t.totalSize < t.dataBuffer.length + octets.length) {segmentation : Segmentation}
    (hseg : segmentation = .segment ∨ segmentation = .complete) (currentTimeUs : ℕ) :
    h.processCommandLayer (.request tid access.commandId segmentation none chunk) od
        currentTimeUs ch = (h.abort tid 0x06070010, od, ch) := by
  have hprocess : t.processDownloadSegment
      (.request tid access.commandId segmentation none octets) od currentTimeUs =
      (.error 0x06070010, t, od) := by
    rw [SdoTransferState.processDownloadSegment, if_pos]
    rw [hoffset]
    exact hlong
  rw [processCommandLayer_eq, ofCommand_request (by simp [hstate]), hrewrite, hstate]
  rcases hseg with rfl | rfl
  · dsimp only [Verdict.ofWrite, SdoCommand.request, Verdict.ofDownload] at hprocess ⊢
    rw [if_neg (not_not_intro htid), hprocess]
    rfl
  · dsimp only [Verdict.ofWrite, SdoCommand.request, Verdict.ofDownload] at hprocess ⊢
    rw [if_neg (not_not_intro htid), hprocess]
    rfl

/-- The download after a frame with `octets`. -/
def downloaded (t : SdoTransferState) (octets : List UInt8) (deadlineUs : ℕ) :
    SdoTransferState :=
  { t with
    dataBuffer := t.dataBuffer ++ octets
    offset := t.offset + octets.length
    deadlineUs := some deadlineUs }

/-- A `Segment` frame within the announced size is collected. -/
theorem processCommandLayer_segment (hstate : h.state = .segmentedDownload t)
    (htid : t.transactionId = tid) (hoffset : t.offset = t.dataBuffer.length)
    {chunk octets : List UInt8} (hrewrite : access.rewrite od chunk = .ok octets)
    (hfits : ¬ t.totalSize < t.dataBuffer.length + octets.length) (currentTimeUs : ℕ) :
    h.processCommandLayer (.request tid access.commandId .segment none chunk) od
        currentTimeUs ch =
      ((.answerTo tid 0 [],
        { h with
          state := .segmentedDownload
            (downloaded t octets (currentTimeUs + sdoTimeoutUs od)) }), od, ch) := by
  have hprocess : t.processDownloadSegment (.request tid access.commandId .segment none octets)
      od currentTimeUs =
      (.ok false, downloaded t octets (currentTimeUs + sdoTimeoutUs od), od) := by
    rw [SdoTransferState.processDownloadSegment, if_neg]
    · rfl
    · rw [hoffset]
      exact hfits
  rw [processCommandLayer_eq, ofCommand_request (by simp [hstate]), hrewrite, hstate]
  dsimp only [Verdict.ofWrite, SdoCommand.request, Verdict.ofDownload] at hprocess ⊢
  rw [if_neg (not_not_intro htid), hprocess]
  rfl

/-- The `Complete` frame writes the collected octets if they have the announced size. -/
theorem processCommandLayer_complete (hstate : h.state = .segmentedDownload t)
    (htid : t.transactionId = tid) (hoffset : t.offset = t.dataBuffer.length)
    {chunk octets : List UInt8} (hrewrite : access.rewrite od chunk = .ok octets)
    (hfits : ¬ t.totalSize < t.dataBuffer.length + octets.length) (currentTimeUs : ℕ) :
    let out := h.processCommandLayer (.request tid access.commandId .complete none chunk) od
        currentTimeUs ch
    (out.1.1, out.2.1) =
      answered tid
        (downloadOutcome od t.totalSize ⟨t.index, t.subIndex, t.dataBuffer ++ octets⟩) := by
  have hprocess : t.processDownloadSegment (.request tid access.commandId .complete none octets)
      od currentTimeUs =
      let t' := { t with
        dataBuffer := t.dataBuffer ++ octets
        offset := t.offset + octets.length }
      if t'.offset ≠ t'.totalSize then
        (.error (if t'.offset < t'.totalSize then 0x06070013 else 0x06070012), t', od)
      else ((t'.performOdWrite od).1.map fun _ => true, t', (t'.performOdWrite od).2) := by
    rw [SdoTransferState.processDownloadSegment, if_neg]
    · dsimp only [SdoCommand.request]
      rcases SdoTransferState.performOdWrite _ od with ⟨_ | _, od'⟩
      · rfl
      · rfl
    · rw [hoffset]
      exact hfits
  rw [processCommandLayer_eq, ofCommand_request (by simp [hstate]), hrewrite, hstate]
  dsimp only [Verdict.ofWrite, SdoCommand.request, Verdict.ofDownload] at hprocess ⊢
  rw [if_neg (not_not_intro htid), hprocess, downloadOutcome, List.length_append, if_neg hfits,
    hoffset]
  by_cases hshort : t.dataBuffer.length + octets.length < t.totalSize
  · rw [if_pos (by omega), if_pos hshort, if_pos hshort]
    rfl
  · rw [if_neg (by omega), if_neg hshort, performOdWrite_eq]
    rcases writeOutcome od ⟨t.index, t.subIndex, t.dataBuffer ++ octets⟩ with ⟨_ | _, od'⟩
    · rfl
    · rfl

/-- What the frames of a download after the first one come to. -/
theorem finish_continuation (access : Access) (last : List UInt8) (segments : List (List UInt8)) :
    ∀ (time : ℕ → ℕ) {response : SdoCommand} {h : SdoSequenceHandler} {t : SdoTransferState},
      response.header.isAborted = false → h.state = .segmentedDownload t →
      t.transactionId = tid → t.offset = t.dataBuffer.length →
      finish time (continuation tid access.commandId segments last) ((response, h), od, ch) =
        answered tid (continuedOutcome od access t.totalSize
          ⟨t.index, t.subIndex, t.dataBuffer⟩ (segments ++ [last])) := by
  induction segments with
  | nil =>
      intro time response h t hanswer hstate htid hoffset
      rw [continuation, List.map_nil, List.nil_append, finish_cons time _ _ hanswer,
        List.nil_append]
      dsimp only
      cases hrewrite : access.rewrite od last with
      | error abortCode =>
          rw [processCommandLayer_unnamed (by simp [hstate]) hrewrite,
            continuedOutcome_unnamed hrewrite]
          rfl
      | ok octets =>
          by_cases hlong : t.totalSize < t.dataBuffer.length + octets.length
          · rw [processCommandLayer_tooLong hstate htid hoffset hrewrite hlong (.inr rfl),
              continuedOutcome_tooLong hrewrite hlong]
            rfl
          · rw [continuedOutcome_cons hrewrite hlong, continuedOutcome_nil]
            exact processCommandLayer_complete hstate htid hoffset hrewrite hlong (time 0)
  | cons segment segments ih =>
      intro time response h t hanswer hstate htid hoffset
      rw [continuation, List.map_cons, List.cons_append, finish_cons time _ _ hanswer,
        List.cons_append]
      dsimp only
      cases hrewrite : access.rewrite od segment with
      | error abortCode =>
          rw [processCommandLayer_unnamed (by simp [hstate]) hrewrite,
            continuedOutcome_unnamed hrewrite]
          exact finish_aborted _ _ rfl
      | ok octets =>
          by_cases hlong : t.totalSize < t.dataBuffer.length + octets.length
          · rw [processCommandLayer_tooLong hstate htid hoffset hrewrite hlong (.inl rfl),
              continuedOutcome_tooLong hrewrite hlong]
            exact finish_aborted _ _ rfl
          · rw [continuedOutcome_cons hrewrite hlong,
              processCommandLayer_segment hstate htid hoffset hrewrite hlong]
            have hoffset' : (downloaded t octets (time 0 + sdoTimeoutUs od)).offset =
                (downloaded t octets (time 0 + sdoTimeoutUs od)).dataBuffer.length := by
              simp [downloaded, hoffset]
            exact ih _ (t := downloaded t octets (time 0 + sdoTimeoutUs od)) rfl rfl htid hoffset'

/-- A write from `Established` comes to its outcome. -/
theorem transfer_frames (hstate : h.state = .established) (time : ℕ → ℕ) (access : Access)
    (object : List UInt8) (cuts : Cuts) :
    h.transfer od ch time (cuts.frames tid access.commandId object) =
      answered tid (cuts.outcome od access object) := by
  cases cuts with
  | expedited data =>
      rw [Cuts.frames, transfer, processCommandLayer_eq, hstate, ofCommand_request_expedited,
        Cuts.outcome]
      cases access.resolve od (object ++ data) with
      | error abortCode => rfl
      | ok r =>
          dsimp only
          rcases writeOutcome od r with ⟨_ | _, od'⟩
          · rfl
          · rfl
  | segmented dataSize first segments last =>
      rw [Cuts.frames, transfer, processCommandLayer_eq, hstate, ofCommand_request_initiate,
        Cuts.outcome]
      cases access.resolve od (object ++ first) with
      | error abortCode => exact finish_aborted _ _ rfl
      | ok r =>
          dsimp only
          by_cases hzero : announced dataSize = 0
          · rw [if_pos hzero, if_pos hzero]
            exact finish_aborted _ _ rfl
          · rw [if_neg hzero, if_neg hzero]
            exact finish_continuation access last segments _
              (t := ⟨tid, announced dataSize, r.data, r.data.length, r.index, r.subIndex,
                some (time 0 + sdoTimeoutUs od), 0, none⟩) rfl rfl rfl rfl

end SdoSequenceHandler

end

end Powerlink
