import Powerlink.Sdo.NamedTransfers
import Powerlink.Sdo.Responses

/-! # Access by name and by index

Where access by name comes to the same as access by index.  A write by index collects the octets
of its frames as they are and never ends with one of the abort codes for a name (`NameAbort`), so
a write by name agrees with it exactly when all frames the server reaches read as a name of the
dictionary and data, and the octets it then collects are written with the same result:
`Cuts.Agrees`.  An expedited write by a name without zeros always agrees (`expedited_agrees`).

A read has one frame with the name, and the frames after it are the same in both services.  It
agrees exactly when the octets of the two values do, since the chunks of an upload make up its
data (`data_of_uploads`) and an upload does not look at the address of its object
(`finish_sameUpload`). -/

namespace Powerlink

open LittleEndian Handlers

/-! ### Abort codes for names -/

/-- The abort codes for a payload that does not read as a name, and for an unknown name. -/
def NameAbort (abortCode : UInt32) : Prop := abortCode = 0x05040001 ∨ abortCode = 0x060A0023

instance (abortCode : UInt32) : Decidable (NameAbort abortCode) :=
  inferInstanceAs (Decidable (_ ∨ _))

section

variable {σ : Type} {od : ObjectDictionary σ}

theorem nameAbort_of_named {payload : List UInt8} {abortCode : UInt32}
    (h : Access.named od payload = .error abortCode) : NameAbort abortCode := by
  unfold Access.named at h
  cases hparse : WriteByNameRequest.fromPayload payload with
  | error e =>
      have he : e = .sdoInvalidCommandPayload := by
        unfold WriteByNameRequest.fromPayload at hparse
        dsimp only at hparse
        split at hparse
        · exact (Except.error.inj hparse).symm
        · split at hparse
          · cases hparse
          · exact (Except.error.inj hparse).symm
      rw [hparse, he] at h
      exact .inl (Except.error.inj h).symm
  | ok req =>
      rw [hparse] at h
      dsimp only at h
      cases hname : od.findByName req.name with
      | none =>
          rw [hname] at h
          exact .inr (Except.error.inj h).symm
      | some address =>
          rw [hname] at h
          cases h

theorem nameAbort_of_collectedOctets {n : ℕ} {chunks : List (List UInt8)} {abortCode : UInt32} :
    ∀ {length : ℕ}, collectedOctets (Access.byName.rewrite od) n length chunks =
      .error abortCode → NameAbort abortCode := by
  induction chunks with
  | nil => exact fun h => nomatch h
  | cons chunk chunks ih =>
      intro length h
      rw [collectedOctets] at h
      cases hnamed : Access.named od chunk with
      | error code =>
          rw [Access.rewrite, hnamed] at h
          rw [← Except.error.inj h]
          exact nameAbort_of_named hnamed
      | ok r =>
          rw [Access.rewrite, hnamed] at h
          dsimp only [Except.map] at h
          split_ifs at h
          cases hrest : collectedOctets (Access.byName.rewrite od) n
              (length + r.payload.length) chunks with
          | error code =>
              rw [hrest] at h
              obtain rfl := Except.error.inj h
              exact ih hrest
          | ok octets =>
              rw [hrest] at h
              cases h

variable [ObjectDictionaryStorage σ]

/-- A write to the dictionary never ends with an abort code for a name. -/
theorem not_nameAbort_writeOutcome {r : WriteByIndexRequest} {abortCode : UInt32}
    {od' : ObjectDictionary σ} (h : writeOutcome od r = (.error abortCode, od')) :
    ¬ NameAbort abortCode := by
  have hwrite : ∀ e, ¬ NameAbort (SdoTransferState.writeAbortCode e) := by
    intro e
    unfold SdoTransferState.writeAbortCode
    split
    · split_ifs <;> decide
    · decide
    · decide
    · decide
  unfold writeOutcome SdoTransferState.performOdWrite at h
  dsimp only at h
  split at h
  · split at h
    · split_ifs at h
      · cases h
        decide
      · split at h
        · cases h
        · cases h
          exact hwrite _
    · cases h
      decide
    · cases h
      decide
  · split_ifs at h <;> cases h <;> decide

theorem not_nameAbort_downloadOutcome {n : ℕ} {r : WriteByIndexRequest} {abortCode : UInt32}
    {od' : ObjectDictionary σ} (h : downloadOutcome od n r = (.error abortCode, od')) :
    ¬ NameAbort abortCode := by
  unfold downloadOutcome at h
  split_ifs at h
  · cases h
    decide
  · cases h
    decide
  · exact not_nameAbort_writeOutcome h

end

/-! ### Writes -/

namespace Cuts

/-- The data of the write. -/
def data : Cuts → List UInt8
  | expedited data => data
  | segmented _ first segments last => first ++ (segments ++ [last]).flatten

variable {σ : Type} [ObjectDictionaryStorage σ] (od : ObjectDictionary σ)

/-- What the write of the data to an address comes to. -/
def indexOutcome (index : UInt16) (subIndex : UInt8) (cuts : Cuts) : WriteOutcome σ :=
  match cuts with
  | expedited data => writeOutcome od ⟨index, subIndex, data⟩
  | segmented dataSize _ _ _ =>
      if announced dataSize = 0 then (.error 0x06070010, od)
      else downloadOutcome od (announced dataSize) ⟨index, subIndex, cuts.data⟩

/-- The server reads every frame it reaches as a name of the dictionary and data, and writes
what it collects with the same result as the data at the address. -/
def Agrees (name : String) (index : UInt16) (subIndex : UInt8) (cuts : Cuts) : Prop :=
  match cuts with
  | expedited data =>
      ∃ r, Access.named od (nameOctets name ++ data) = .ok r ∧
        writeOutcome od r = writeOutcome od ⟨index, subIndex, data⟩
  | segmented dataSize first segments last =>
      ∃ r, Access.named od (nameOctets name ++ first) = .ok r ∧
        (announced dataSize = 0 ∨
          ∃ octets, collectedOctets (Access.byName.rewrite od) (announced dataSize) r.data.length
              (segments ++ [last]) = .ok octets ∧
            downloadOutcome od (announced dataSize) (r.followedBy octets) =
              downloadOutcome od (announced dataSize) ⟨index, subIndex, cuts.data⟩)

variable {od}

/-- A write by index collects its data as they are. -/
theorem continuedOutcome_byIndex {n : ℕ} (chunks : List (List UInt8)) :
    ∀ r : WriteByIndexRequest, continuedOutcome od .byIndex n r chunks =
      downloadOutcome od n (r.followedBy chunks.flatten) := by
  induction chunks with
  | nil =>
      intro r
      rw [continuedOutcome_nil]
      simp only [WriteByIndexRequest.followedBy, List.flatten_nil, List.append_nil]
  | cons chunk chunks ih =>
      intro r
      have hrewrite : Access.byIndex.rewrite od chunk = .ok chunk := rfl
      by_cases hlong : n < r.data.length + chunk.length
      · rw [continuedOutcome_tooLong hrewrite hlong, downloadOutcome, if_pos]
        simp only [WriteByIndexRequest.followedBy, List.flatten_cons, List.length_append]
        omega
      · rw [continuedOutcome_cons hrewrite hlong, ih]
        simp only [WriteByIndexRequest.followedBy, List.flatten_cons, List.append_assoc]

theorem outcome_byIndex (index : UInt16) (subIndex : UInt8) (cuts : Cuts) :
    cuts.outcome od .byIndex (addressOctets index subIndex) =
      cuts.indexOutcome od index subIndex := by
  have hresolve : ∀ data, Access.byIndex.resolve od (addressOctets index subIndex ++ data) =
      .ok ⟨index, subIndex, data⟩ := by
    intro data
    rw [Access.resolve, addressOctets, WriteByIndexRequest.fromPayload_address]
    rfl
  cases cuts with
  | expedited data =>
      rw [outcome, hresolve]
      rfl
  | segmented dataSize first segments last =>
      rw [outcome, hresolve]
      dsimp only [indexOutcome]
      rw [continuedOutcome_byIndex]
      rfl

/-- A write by index never ends with an abort code for a name. -/
theorem not_nameAbort_indexOutcome {index : UInt16} {subIndex : UInt8} {cuts : Cuts}
    {abortCode : UInt32} {od' : ObjectDictionary σ}
    (h : cuts.indexOutcome od index subIndex = (.error abortCode, od')) :
    ¬ NameAbort abortCode := by
  cases cuts with
  | expedited data => exact not_nameAbort_writeOutcome h
  | segmented dataSize first segments last =>
      dsimp only [indexOutcome] at h
      split_ifs at h
      · cases h
        decide
      · exact not_nameAbort_downloadOutcome h

/-- The outcomes of the two writes agree. -/
theorem outcome_eq_iff (name : String) (index : UInt16) (subIndex : UInt8) (cuts : Cuts) :
    cuts.outcome od .byName (nameOctets name) = cuts.indexOutcome od index subIndex ↔
      cuts.Agrees od name index subIndex := by
  -- a refused name is told from every write by index
  have hrefused : ∀ {abortCode : UInt32} {cuts : Cuts}, NameAbort abortCode →
      ((.error abortCode, od) : WriteOutcome σ) ≠ cuts.indexOutcome od index subIndex :=
    fun habort h => not_nameAbort_indexOutcome h.symm habort
  cases cuts with
  | expedited data =>
      rw [outcome, Agrees, Access.resolve]
      cases hnamed : Access.named od (nameOctets name ++ data) with
      | error abortCode =>
          simp only [reduceCtorEq, false_and, exists_false, iff_false]
          exact hrefused (nameAbort_of_named hnamed)
      | ok r => simp [indexOutcome]
  | segmented dataSize first segments last =>
      rw [outcome, Agrees, Access.resolve]
      cases hnamed : Access.named od (nameOctets name ++ first) with
      | error abortCode =>
          simp only [reduceCtorEq, false_and, exists_false, iff_false]
          exact hrefused (nameAbort_of_named hnamed)
      | ok r =>
          by_cases hzero : announced dataSize = 0
          · simp [indexOutcome, hzero]
          · simp only [hzero, if_false, Except.ok.injEq, exists_eq_left', false_or]
            rw [continuedOutcome]
            cases hcollected : collectedOctets (Access.byName.rewrite od) (announced dataSize)
                r.data.length (segments ++ [last]) with
            | error abortCode =>
                simp only [reduceCtorEq, false_and, exists_false, iff_false]
                exact hrefused (nameAbort_of_collectedOctets hcollected)
            | ok octets => simp [indexOutcome, hzero]

end Cuts

/-! ### Names without zeros -/

/-- The payload of a read by name; the zero behind the name is optional. -/
def readPayload (name : String) (terminated : Bool) : List UInt8 :=
  name.toByteArray.data.toList ++ if terminated then [0] else []

/-- The name is not empty, and none of its octets is zero. -/
def PlainName (name : String) : Prop :=
  name ≠ "" ∧ (0 : UInt8) ∉ name.toByteArray.data.toList

section

variable {name : String}

/-- Such a name ends at the zero behind it. -/
theorem WriteByNameRequest.fromPayload_plain (hplain : PlainName name) (data : List UInt8) :
    fromPayload (nameOctets name ++ data) = .ok ⟨name, data⟩ := by
  obtain ⟨hne, hzero⟩ := hplain
  have hend : (nameOctets name ++ data).findIdx? (· = 0) =
      some name.toByteArray.data.toList.length := by
    rw [nameOctets, List.append_assoc, List.findIdx?_append]
    have hnone : name.toByteArray.data.toList.findIdx? (fun octet => decide (octet = 0)) =
        none := by
      rw [List.findIdx?_eq_none_iff]
      intro octet hmem
      simpa using fun h : octet = 0 => hzero (h ▸ hmem)
    rw [hnone]
    simp [List.findIdx?_cons]
  have htake : (nameOctets name ++ data).take name.toByteArray.data.toList.length =
      name.toByteArray.data.toList := by
    rw [nameOctets, List.append_assoc, List.take_left]
  have hdrop : (nameOctets name ++ data).drop (name.toByteArray.data.toList.length + 1) =
      data := by
    rw [List.drop_append_of_le_length (by simp [nameOctets])]
    simp [nameOctets]
  rw [fromPayload, hend, Option.getD_some, if_neg (by simpa using hne), htake,
    ObjectValue.fromUtf8_toByteArray]
  dsimp only
  rw [hdrop]

theorem ReadByNameRequest.fromPayload_plain
    (hzero : (0 : UInt8) ∉ name.toByteArray.data.toList) (terminated : Bool) :
    fromPayload (readPayload name terminated) = .ok name := by
  have htake : (readPayload name terminated).takeWhile (fun octet => decide (octet ≠ 0)) =
      name.toByteArray.data.toList := by
    rw [readPayload, List.takeWhile_append_of_pos]
    · cases terminated <;> simp
    · intro octet hmem
      simpa using fun h : octet = 0 => hzero (h ▸ hmem)
  rw [fromPayload, htake, ObjectValue.fromUtf8_toByteArray]

variable {σ : Type} {od : ObjectDictionary σ} {index : UInt16} {subIndex : UInt8}

theorem Access.named_plain (hplain : PlainName name)
    (hname : od.findByName name = some (index, subIndex)) (data : List UInt8) :
    named od (nameOctets name ++ data) = .ok ⟨index, subIndex, data⟩ := by
  rw [named, WriteByNameRequest.fromPayload_plain hplain]
  dsimp only
  rw [hname]

/-- An expedited write by such a name agrees with the write by index. -/
theorem Cuts.expedited_agrees [ObjectDictionaryStorage σ] (hplain : PlainName name)
    (hname : od.findByName name = some (index, subIndex)) (data : List UInt8) :
    (Cuts.expedited data).Agrees od name index subIndex :=
  ⟨_, Access.named_plain hplain hname data, rfl⟩

end

/-! ### Reads -/

section

variable {σ : Type} (od : ObjectDictionary σ)

/-- The octets of the value at an address. -/
def valueOctets (address : UInt16 × UInt8) : Option (List UInt8) :=
  (od.read address.1 address.2).map ObjectValue.serialize

/-- The object that a payload with a name asks for. -/
def readTarget (payload : List UInt8) : Option (UInt16 × UInt8) :=
  match ReadByNameRequest.fromPayload payload with
  | .ok name => od.findByName name
  | .error _ => none

/-- The read by name finds an object whose value has the octets of the value at the address. -/
def ReadAgrees (name : String) (terminated : Bool) (index : UInt16) (subIndex : UInt8) : Prop :=
  ∃ address, readTarget od (readPayload name terminated) = some address ∧
    valueOctets od address = valueOctets od (index, subIndex)

variable {od}

/-- A read by a name without zeros agrees with the read by index. -/
theorem read_agrees {name : String} (hzero : (0 : UInt8) ∉ name.toByteArray.data.toList)
    {index : UInt16} {subIndex : UInt8} (hname : od.findByName name = some (index, subIndex))
    (terminated : Bool) : ReadAgrees od name terminated index subIndex := by
  refine ⟨(index, subIndex), ?_, rfl⟩
  rw [readTarget, ReadByNameRequest.fromPayload_plain hzero]
  exact hname

/-- An object that is found by its name has a value at sub-index `0`. -/
theorem objectData_of_findByName {name : String} {index : UInt16} {subIndex : UInt8}
    (hname : od.findByName name = some (index, subIndex)) :
    ∃ octets, valueOctets od (index, subIndex) = some octets ∧
      objectData od index subIndex = .ok ⟨octets, index, subIndex⟩ := by
  obtain ⟨⟨i, entry⟩, hfind, heq⟩ := Option.map_eq_some_iff.mp hname
  obtain ⟨rfl, rfl⟩ := Prod.mk.inj heq
  have hget : od.entries.get? i = some entry :=
    (SortedMap.mem_entries_iff _ _ _).mp (List.mem_of_find?_eq_some hfind)
  have hread : ∃ value, od.read i 0 = some value := by
    rw [ObjectDictionary.read, hget, Option.bind_some]
    rcases entry.object with value | values | values
    · exact ⟨value, by rw [Object.read, if_pos rfl]⟩
    · exact ⟨_, by rw [Object.read, if_pos rfl]⟩
    · exact ⟨_, by rw [Object.read, if_pos rfl]⟩
  obtain ⟨value, hread⟩ := hread
  exact ⟨value.serialize, by rw [valueOctets, hread]; rfl, by rw [objectData, hread]⟩

end

namespace SdoSequenceHandler

variable {σ η : Type} [ObjectDictionaryStorage σ] [SdoCommandHandler σ η]
  {h : SdoSequenceHandler} {od : ObjectDictionary σ} {ch : η} {tid : UInt8}

/-- The rest of an upload does not look at the address of its object. -/
theorem finish_sameUpload (index : UInt16) (subIndex : UInt8) (commands : List SdoCommand) :
    ∀ (time : ℕ → ℕ) (response : SdoCommand) (t : SdoTransferState),
      finish time commands ((response, { h with state := .segmentedUpload t }), od, ch) =
        finish time commands ((response,
          { h with
            state := .segmentedUpload { t with index := index, subIndex := subIndex } }),
          od, ch) := by
  induction commands with
  | nil => exact fun _ _ _ => rfl
  | cons command commands ih =>
      intro time response t
      by_cases habort : response.header.isAborted = true
      · rw [finish_aborted _ _ habort, finish_aborted _ _ habort]
      rw [finish_cons _ _ _ (by simpa using habort), finish_cons _ _ _ (by simpa using habort),
        processCommandLayer_eq, processCommandLayer_eq]
      simp only [Verdict.ofCommand, Verdict.duringUpload]
      split_ifs
      · rfl
      · -- a segment that is not the last one leaves the same difference behind
        have hlast' : { t with index := index, subIndex := subIndex }.isLastSegment =
            t.isLastSegment := rfl
        cases hlast : t.isLastSegment with
        | true =>
            rw [hlast] at hlast'
            simp only [carryOut, hlast, hlast', if_true]
            rfl
        | false =>
            rw [hlast] at hlast'
            simp only [carryOut, hlast, hlast']
            exact ih (fun k => time (k + 1)) t.uploadSegment (t.advanced od (time 0))
      · rfl
      · rfl

/-- Two reads with the same octets give the same responses to the same commands. -/
theorem finish_ofRead (time : ℕ → ℕ) (commands : List SdoCommand) (currentTimeUs : ℕ)
    (octets : List UInt8) (index index' : UInt16) (subIndex subIndex' : UInt8) :
    finish time commands (h.carryOut od currentTimeUs ch tid
        (.ofRead tid od (.ok ⟨octets, index, subIndex⟩))) =
      finish time commands (h.carryOut od currentTimeUs ch tid
        (.ofRead tid od (.ok ⟨octets, index', subIndex'⟩))) := by
  by_cases hlen : octets.length ≤ maxExpeditedPayload
  · simp only [Verdict.ofRead, if_pos hlen, carryOut]
  · have hlast : ∀ i s, (newUpload tid octets i s).isLastSegment = false := by
      intro i s
      rw [SdoTransferState.isLastSegment_eq_false_iff]
      simpa [newUpload] using hlen
    simp only [Verdict.ofRead, if_neg hlen, carryOut, hlast]
    exact finish_sameUpload index' subIndex' commands time _ _

/-! ### The responses of an upload make up its data -/

/-- The command that asks for the next segment of an upload. -/
def acknowledgement (transactionId : UInt8) : SdoCommand :=
  .request transactionId .nil .segment none []

theorem finish_acknowledgement {t : SdoTransferState} (htid : t.transactionId = tid)
    (hlast : t.isLastSegment = false) (k : ℕ) :
    finish (fun _ => 0) (List.replicate (k + 1) (acknowledgement tid))
        (h.carryOut od 0 ch tid (.segment t)) =
      finish (fun _ => 0) (List.replicate k (acknowledgement tid))
        (h.carryOut od 0 ch tid (.segment (t.advanced od 0))) := by
  have hnext : Verdict.ofCommand (.segmentedUpload (t.advanced od 0))
      (acknowledgement tid) od 0 ch = .segment (t.advanced od 0) := by
    have hcontinues : (acknowledgement tid).continues (t.advanced od 0).transactionId = true := by
      simp [SdoCommand.continues, acknowledgement, SdoCommand.request, SdoTransferState.advanced,
        htid]
    simp only [Verdict.ofCommand, Verdict.duringUpload]
    rw [if_neg (by simp [acknowledgement, SdoCommand.request]), if_pos hcontinues]
  rw [List.replicate_succ, finish_cons _ _ _ rfl]
  simp only [carryOut, hlast, processCommandLayer_eq, hnext, Bool.false_eq_true, if_false]

theorem isLastSegment_eq_of_uploadSegment {t t' : SdoTransferState}
    (heq : t.uploadSegment = t'.uploadSegment) : t.isLastSegment = t'.isLastSegment := by
  have hcomplete : ∀ s : SdoTransferState,
      s.uploadSegment.header.segmentation = .complete ↔ s.isLastSegment = true := by
    intro s
    dsimp only [SdoTransferState.uploadSegment]
    split_ifs with hlast hoffset
    · simp [hlast]
    · simp [hlast]
    · simp [hlast]
  rw [Bool.eq_iff_iff, ← hcomplete t, ← hcomplete t', heq]

theorem drop_eq_chunk {t : SdoTransferState} (hsize : t.totalSize = t.dataBuffer.length)
    (hlast : t.isLastSegment = true) : t.dataBuffer.drop t.offset = t.chunk := by
  rw [SdoTransferState.isLastSegment, decide_eq_true_eq] at hlast
  rw [SdoTransferState.chunk, List.take_of_length_le]
  rw [List.length_drop, ← hsize]
  omega

omit [ObjectDictionaryStorage σ] in
theorem drop_eq_chunk_append (t : SdoTransferState) (od : ObjectDictionary σ) :
    t.dataBuffer.drop t.offset =
      t.chunk ++ (t.advanced od 0).dataBuffer.drop (t.advanced od 0).offset := by
  rw [SdoTransferState.chunk, SdoTransferState.advanced]
  dsimp only
  rw [← List.drop_drop, List.take_append_drop]

/-- Two uploads whose segments are the same have the same octets left. -/
theorem drop_eq_of_uploads {t t' : SdoTransferState} (hsize : t.totalSize = t.dataBuffer.length)
    (hsize' : t'.totalSize = t'.dataBuffer.length) (htid : t.transactionId = tid)
    (htid' : t'.transactionId = tid)
    (hrun : ∀ k, finish (fun _ => 0) (List.replicate k (acknowledgement tid))
        (h.carryOut od 0 ch tid (.segment t)) =
      finish (fun _ => 0) (List.replicate k (acknowledgement tid))
        (h.carryOut od 0 ch tid (.segment t'))) :
    t.dataBuffer.drop t.offset = t'.dataBuffer.drop t'.offset := by
  -- every segment but the last one leaves fewer octets
  induction hleft : t.totalSize - t.offset using Nat.strong_induction_on generalizing t t' with
  | _ left ih =>
      have hsegment : t.uploadSegment = t'.uploadSegment := (Prod.mk.inj (hrun 0)).1
      have hchunk : t.chunk = t'.chunk := congrArg SdoCommand.payload hsegment
      have hlasts := isLastSegment_eq_of_uploadSegment hsegment
      cases hlast : t.isLastSegment with
      | true =>
          rw [hlast] at hlasts
          rw [drop_eq_chunk hsize hlast, drop_eq_chunk hsize' hlasts.symm, hchunk]
      | false =>
          rw [hlast] at hlasts
          rw [drop_eq_chunk_append t od, drop_eq_chunk_append t' od, hchunk]
          congr 1
          have hmore := (SdoTransferState.isLastSegment_eq_false_iff t).mp hlast
          have hadvanced : (t.advanced od 0).totalSize - (t.advanced od 0).offset < left := by
            have hchunkSize := SdoTransferState.currentChunkSize_of_not_last hlast
            simp only [SdoTransferState.advanced, hchunkSize, maxExpeditedPayload] at hmore ⊢
            omega
          refine ih _ hadvanced hsize hsize' htid htid' (fun k => ?_) rfl
          rw [← finish_acknowledgement htid hlast, ← finish_acknowledgement htid' hlasts.symm]
          exact hrun (k + 1)

/-- Two reads with the same responses have the same octets. -/
theorem payload_eq_of_reads (data data' : ReadData)
    (hrun : ∀ k, finish (fun _ => 0) (List.replicate k (acknowledgement tid))
        (h.carryOut od 0 ch tid (.ofRead tid od (.ok data))) =
      finish (fun _ => 0) (List.replicate k (acknowledgement tid))
        (h.carryOut od 0 ch tid (.ofRead tid od (.ok data')))) :
    data.payload = data'.payload := by
  have hid : ∀ (t : SdoTransferState) (segmentSize : UInt16) (payload : List UInt8),
      t.uploadSegment ≠ .answerTo tid segmentSize payload := by
    intro t segmentSize payload heq
    have hcommandId := congrArg (fun c : SdoCommand => c.header.commandId) heq
    cases hcommandId
  have hfirst := (Prod.mk.inj (hrun 0)).1
  by_cases hlen : data.payload.length ≤ maxExpeditedPayload
  · by_cases hlen' : data'.payload.length ≤ maxExpeditedPayload
    · simp only [Verdict.ofRead, if_pos hlen, if_pos hlen'] at hfirst
      exact congrArg SdoCommand.payload hfirst
    · simp only [Verdict.ofRead, if_pos hlen, if_neg hlen'] at hfirst
      exact absurd hfirst.symm (hid _ _ _)
  · by_cases hlen' : data'.payload.length ≤ maxExpeditedPayload
    · simp only [Verdict.ofRead, if_neg hlen, if_pos hlen'] at hfirst
      exact absurd hfirst (hid _ _ _)
    · simp only [Verdict.ofRead, if_neg hlen, if_neg hlen'] at hrun
      refine drop_eq_of_uploads ?_ ?_ ?_ ?_ hrun
      · rfl
      · rfl
      · rfl
      · rfl

/-! ### The two services compared -/

/-- The first frame of a read by name. -/
def nameRead (transactionId : UInt8) (name : String) (terminated : Bool) : SdoCommand :=
  .request transactionId .readByName .expedited none (readPayload name terminated)

/-- The first frame of a read by index. -/
def indexRead (transactionId : UInt8) (index : UInt16) (subIndex : UInt8) : SdoCommand :=
  .request transactionId .readByIndex .expedited none (addressOctets index subIndex)

theorem transfer_indexRead (hstate : h.state = .established) (time : ℕ → ℕ) (index : UInt16)
    (subIndex : UInt8) (commands : List SdoCommand) :
    h.transfer od ch time (indexRead tid index subIndex, commands) =
      finish (fun k => time (k + 1)) commands
        (h.carryOut od (time 0) ch tid (.ofRead tid od (objectData od index subIndex))) := by
  have hverdict : Verdict.ofCommand .established (indexRead tid index subIndex) od (time 0) ch =
      .ofRead tid od (readByIndexData od (addressOctets index subIndex)) := rfl
  rw [transfer, processCommandLayer_eq, hstate, hverdict, readByIndexData, addressOctets,
    ReadByIndexRequest.fromPayload_address]
  rfl

theorem transfer_nameRead (hstate : h.state = .established) (time : ℕ → ℕ) (name : String)
    (terminated : Bool) (commands : List SdoCommand) :
    h.transfer od ch time (nameRead tid name terminated, commands) =
      finish (fun k => time (k + 1)) commands
        (h.carryOut od (time 0) ch tid
          (.ofRead tid od (readByNameData od (readPayload name terminated)))) := by
  have hverdict : Verdict.ofCommand .established (nameRead tid name terminated) od (time 0) ch =
      .ofRead tid od (readByNameData od (readPayload name terminated)) := rfl
  rw [transfer, processCommandLayer_eq, hstate, hverdict]
  rfl

omit [ObjectDictionaryStorage σ] [SdoCommandHandler σ η] in
/-- A read by name reads the object that its payload asks for. -/
theorem readByNameData_eq (payload : List UInt8) :
    readByNameData od payload =
      match readTarget od payload with
      | some (index, subIndex) => objectData od index subIndex
      | none => .error
          (match ReadByNameRequest.fromPayload payload with
          | .ok _ => 0x060A0023
          | .error e => payloadAbortCode e) := by
  unfold readByNameData readTarget
  cases ReadByNameRequest.fromPayload payload with
  | error e => rfl
  | ok name =>
      cases od.findByName name with
      | none => rfl
      | some address => rfl

omit [ObjectDictionaryStorage σ] [SdoCommandHandler σ η] in
theorem objectData_eq (index : UInt16) (subIndex : UInt8) :
    objectData od index subIndex =
      match valueOctets od (index, subIndex) with
      | some octets => .ok ⟨octets, index, subIndex⟩
      | none => .error (readAbortCode od index) := by
  unfold objectData valueOctets
  dsimp only
  cases od.read index subIndex with
  | none => rfl
  | some value => rfl

/-- A refused read is told from one that is answered. -/
theorem refused_ne_answered (abortCode : UInt32) (data : ReadData) :
    ¬ ∀ (time : ℕ → ℕ) (commands : List SdoCommand),
      finish (fun k => time (k + 1)) commands
          (h.carryOut od (time 0) ch tid (.ofRead tid od (.error abortCode))) =
        finish (fun k => time (k + 1)) commands
          (h.carryOut od (time 0) ch tid (.ofRead tid od (.ok data))) := by
  intro hrun
  have hfirst := congrArg (fun out => out.1.header.isAborted) (hrun (fun _ => 0) [])
  have hanswered : (finish (fun _ => 0) []
      (h.carryOut od 0 ch tid (.ofRead tid od (.ok data)))).1.header.isAborted = false := by
    unfold Verdict.ofRead
    dsimp only
    split_ifs
    · rfl
    · rfl
  rw [hanswered] at hfirst
  cases hfirst

/-- The reads agree, whatever commands follow the first one, exactly if the read by name finds
the octets of the value at the address. -/
theorem reads_agree_iff (hstate : h.state = .established) {name : String} {index : UInt16}
    {subIndex : UInt8} (hname : od.findByName name = some (index, subIndex))
    (terminated : Bool) :
    (∀ (time : ℕ → ℕ) (commands : List SdoCommand),
        h.transfer od ch time (nameRead tid name terminated, commands) =
          h.transfer od ch time (indexRead tid index subIndex, commands)) ↔
      ReadAgrees od name terminated index subIndex := by
  obtain ⟨octets, hoctets, hindex⟩ := objectData_of_findByName hname
  simp only [transfer_indexRead hstate, transfer_nameRead hstate, hindex, readByNameData_eq,
    ReadAgrees, hoctets]
  cases htarget : readTarget od (readPayload name terminated) with
  | none =>
      simp only [reduceCtorEq, false_and, exists_false, iff_false]
      exact refused_ne_answered _ _
  | some address =>
      obtain ⟨index', subIndex'⟩ := address
      simp only [Option.some.injEq, exists_eq_left', objectData_eq]
      cases hvalue : valueOctets od (index', subIndex') with
      | none =>
          simp only [reduceCtorEq, iff_false]
          exact refused_ne_answered _ _
      | some octets' =>
          rw [Option.some.injEq]
          constructor
          · intro hrun
            exact payload_eq_of_reads ⟨octets', index', subIndex'⟩ ⟨octets, index, subIndex⟩
              (fun k => hrun (fun _ => 0) (List.replicate k (acknowledgement tid)))
          · rintro rfl time commands
            exact finish_ofRead _ _ _ _ _ _ _ _

/-- The writes agree exactly if the frames of the write by name are read and written as those
of the write by index. -/
theorem writes_agree_iff (hstate : h.state = .established) (name : String) (index : UInt16)
    (subIndex : UInt8) (cuts : Cuts) (time time' : ℕ → ℕ) :
    h.transfer od ch time (cuts.frames tid .writeByName (nameOctets name)) =
        h.transfer od ch time' (cuts.frames tid .writeByIndex (addressOctets index subIndex)) ↔
      cuts.Agrees od name index subIndex := by
  have hnamed : h.transfer od ch time (cuts.frames tid .writeByName (nameOctets name)) =
      answered tid (cuts.outcome od .byName (nameOctets name)) :=
    transfer_frames hstate time .byName (nameOctets name) cuts
  have hindexed : h.transfer od ch time'
      (cuts.frames tid .writeByIndex (addressOctets index subIndex)) =
      answered tid (cuts.outcome od .byIndex (addressOctets index subIndex)) :=
    transfer_frames hstate time' .byIndex (addressOctets index subIndex) cuts
  rw [hnamed, hindexed, (answered_injective tid).eq_iff, Cuts.outcome_byIndex,
    Cuts.outcome_eq_iff]

end SdoSequenceHandler

/-! ### A download by name -/

/-- A dictionary with one writable object of two octets. -/
def speedDictionary : ObjectDictionary Empty :=
  (ObjectDictionary.new none).insert 0x2000
    ⟨.variable (.unsigned16 0), "Speed", some .readWrite, none⟩

theorem findByName_speed : speedDictionary.findByName "Speed" = some (0x2000, 0) := by
  decide

/-- The value in two frames. -/
def speedCuts : Cuts := .segmented (some 2) [0xE8] [] [0x03]

end Powerlink
