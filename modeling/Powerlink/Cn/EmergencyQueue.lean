import Powerlink.Cn.Notices

/-! # The emergency queue

A StatusResponse takes as many entries from the emergency queue as the asynchronous MTU has room for.
What the managing node decodes and what stays in the queue make up the queue as it was
(`queue_handed_over_iff`): the number of entries that are taken is the number that the encoder has
room for.  A buffer without room for the terminator is sent as zeros, cut to its own length, and below
fourteen octets the decoder refuses it. -/

namespace Powerlink

variable {σ : Type}

/-- `StatusResponsePayload::deserialize` with the error entries. -/
def decodeStatusEntries (payload : List UInt8) : Except PowerlinkError (List ErrorEntry) := do
  let _ ← StatusResponsePayload.deserialize payload
  .ok (readEntries payload.length (payload.drop 14))

namespace CnContext

/-- The frame is a StatusResponse, and its entries together with those that are still queued are the
queue as it was. -/
def HandedOver (before : List ErrorEntry) (r : PowerlinkFrame × CnContext σ) : Prop :=
  ∃ f entries, r.1 = .aSnd f ∧ f.serviceId = .statusResponse ∧
    decodeStatusEntries f.payload = .ok entries ∧ entries ++ r.2.emergencyQueue = before

/-- The asynchronous MTU. -/
def asyncMtu (c : CnContext σ) : ℕ := ((c.core.od.readU16 0x1F98 8).getD 300).toNat

theorem statusLimit_eq (c : CnContext σ) : c.statusLimit = c.asyncMtu - 4 := rfl

theorem statusRoom_eq (c : CnContext σ) : c.statusRoom = (c.statusLimit - 34) / 20 := rfl

/-- The queue afterwards. -/
theorem emergencyQueue_buildStatusResponse (c : CnContext σ) (soa : SoAFrame) :
    (c.buildStatusResponse soa).2.emergencyQueue = c.emergencyQueue.drop c.statusRoom :=
  congrArg SignalView.emergencyQueue (c.signals_buildStatusResponse soa)

/-- A buffer with room for the terminator has room for the entries that were taken. -/
theorem decode_of_room {p : StatusResponse} {limit : ℕ} (hrs : p.rs.value.toNat < 8)
    (hreport : ∀ e ∈ p.errorEntries, e.Reportable)
    (hroom : p.errorEntries.length ≤ (limit - 34) / 20) (hlimit : 34 ≤ limit) :
    decodeStatusEntries (statusPayload p limit) = .ok p.errorEntries := by
  have hfits : ¬limit < 14 + p.errorEntries.length * 20 + 20 := by omega
  obtain ⟨payload, hpayload⟩ : ∃ payload, p.serialize limit = .ok payload := ⟨_, if_neg hfits⟩
  have hstatus : statusPayload p limit = payload := by
    unfold statusPayload
    rw [hpayload]
  obtain ⟨hok, hentries⟩ := deserialize_statusResponse hrs hreport hpayload
  unfold decodeStatusEntries
  rw [hstatus, hok]
  exact congrArg Except.ok hentries

/-- A buffer without room for the terminator is sent as zeros. -/
theorem statusPayload_of_no_room (p : StatusResponse) {limit : ℕ} (hlimit : limit < 34) :
    statusPayload p limit = List.replicate limit 0 := by
  have hmin : min limit 34 = limit := by omega
  have hfirst : p.serialize limit = .error .bufferTooShort := if_pos (by omega)
  have hsecond : { p with errorEntries := [] }.serialize (min limit 34) =
      .error .bufferTooShort := by
    apply if_pos
    show min limit 34 < 14 + ([] : List ErrorEntry).length * 20 + 20
    rw [List.length_nil]
    omega
  unfold statusPayload
  rw [hfirst]
  dsimp only
  rw [hsecond, hmin]

/-- Zeros are a header without entries, where they are enough for a header. -/
theorem decode_zeros (limit : ℕ) (hlimit : limit < 34) :
    decodeStatusEntries (List.replicate limit 0) =
      if limit < 14 then .error .bufferTooShort else .ok [] := by
  have hlength : (List.replicate limit (0 : UInt8)).length = limit := List.length_replicate
  unfold decodeStatusEntries StatusResponsePayload.deserialize
  rw [hlength]
  split_ifs with hshort
  · rfl
  · have hzero : ∀ i, (List.replicate limit (0 : UInt8)).getD i 0 = 0 := by
      intro i
      rw [List.getD_eq_getElem?_getD, List.getElem?_replicate]
      split_ifs <;> rfl
    obtain ⟨rounds, hrounds⟩ : ∃ rounds, limit = rounds + 1 := ⟨limit - 1, by omega⟩
    rw [hzero, hzero]
    have hread : readEntries limit ((List.replicate limit (0 : UInt8)).drop 14) = [] := by
      have hdrop : ((List.replicate limit (0 : UInt8)).drop 14).length < 20 := by
        rw [List.length_drop, hlength]
        omega
      generalize (List.replicate limit (0 : UInt8)).drop 14 = buffer at hdrop ⊢
      rw [hrounds, readEntries, if_pos hdrop]
    rw [hread]
    rfl

/-- The emergency queue loses nothing exactly where the MTU has room for the header. -/
theorem queue_handed_over_iff (c : CnContext σ) (soa : SoAFrame)
    (hreport : ∀ e ∈ c.emergencyQueue, e.Reportable) :
    HandedOver c.emergencyQueue (c.buildStatusResponse soa) ↔ 18 ≤ c.asyncMtu := by
  obtain ⟨p, hframe, hrs, hentries⟩ := c.buildStatusResponse_frame soa
  have hlimit := c.statusLimit_eq
  have hpayload : ∀ f, (c.buildStatusResponse soa).1 = .aSnd f →
      f.payload = statusPayload p c.statusLimit := by
    intro f hf
    rw [hframe] at hf
    rw [← PowerlinkFrame.aSnd.inj hf]
    rfl
  by_cases hroom : 34 ≤ c.statusLimit
  · -- the entries that were taken are decoded
    refine iff_of_true ⟨_, c.emergencyQueue.take c.statusRoom, hframe, rfl, ?_, ?_⟩ (by omega)
    · have hlength : p.errorEntries.length ≤ (c.statusLimit - 34) / 20 := by
        rw [hentries, List.length_take]
        exact min_le_left _ _
      have hdecode := decode_of_room hrs
        (fun e he => hreport e (List.mem_of_mem_take (hentries ▸ he))) hlength hroom
      rw [hentries] at hdecode
      exact hdecode
    · rw [emergencyQueue_buildStatusResponse]
      exact List.take_append_drop _ _
  · -- nothing was taken, and zeros are sent
    have hnone : c.statusRoom = 0 := by
      rw [c.statusRoom_eq]
      omega
    have hzeros := statusPayload_of_no_room p (not_le.mp hroom)
    have hdecode := decode_zeros c.statusLimit (not_le.mp hroom)
    have hqueue : (c.buildStatusResponse soa).2.emergencyQueue = c.emergencyQueue := by
      rw [emergencyQueue_buildStatusResponse, hnone]
      rfl
    constructor
    · rintro ⟨f, entries, hf, -, hok, -⟩
      rw [hpayload f hf, hzeros, hdecode] at hok
      split_ifs at hok
      omega
    · intro hmtu
      refine ⟨_, [], hframe, rfl, ?_, ?_⟩
      · rw [if_neg (by omega)] at hdecode
        rw [← hzeros] at hdecode
        exact hdecode
      · rw [hqueue]
        rfl

/-- A node with a value for the asynchronous MTU and one error to report. -/
def reportingNode (mtu : UInt16) : CnContext Empty :=
  { CnContext.initial
      ((ObjectDictionary.new none).insert 0x1F98
        ⟨.record (List.replicate 7 (.unsigned16 0) ++ [.unsigned16 mtu]), "NMT_CycleTiming_REC", none,
          none⟩)
      ⟨2, 0, 0, 0, 0, 1⟩ ⟨.nmtOperational, ⟨1⟩, 0, 0⟩ .empty with
    emergencyQueue := [errorEntry .lossOfSoc 1000000] }

/-- The invitation of the managing node to report the status. -/
def statusRequest : SoAFrame :=
  .new ⟨0, 0, 0, 0, 0, 240⟩ .nmtOperational ⟨false, false⟩ .statusRequest ⟨1⟩ ⟨0x20⟩

theorem reportable_reportingNode (mtu : UInt16) :
    ∀ e ∈ (reportingNode mtu).emergencyQueue, e.Reportable := by
  intro e he
  rw [List.mem_singleton.mp he]
  exact ⟨by decide, by decide⟩

theorem queue_handed_over_mtu_300 :
    (∀ e ∈ (reportingNode 300).emergencyQueue, e.Reportable) ∧
      (HandedOver (reportingNode 300).emergencyQueue
        ((reportingNode 300).buildStatusResponse statusRequest) ↔
          18 ≤ (reportingNode 300).asyncMtu) :=
  ⟨reportable_reportingNode 300,
    queue_handed_over_iff (reportingNode 300) statusRequest (reportable_reportingNode 300)⟩

/-- An MTU of 17 leaves thirteen octets, which the decoder refuses. -/
theorem short_status_is_refused :
    ¬∀ (c : CnContext Empty) (soa : SoAFrame), c.emergencyQueue.length ≤ 10 →
      (∀ e ∈ c.emergencyQueue, e.Reportable) →
        HandedOver c.emergencyQueue (c.buildStatusResponse soa) := by
  intro h
  obtain ⟨f, entries, hf, -, hok, -⟩ := h (reportingNode 17) statusRequest (by decide)
    (reportable_reportingNode 17)
  have hpayload : f.payload = List.replicate 13 0 := by
    rw [← PowerlinkFrame.aSnd.inj hf]
    decide
  rw [hpayload, decode_zeros 13 (by decide)] at hok
  cases hok

end CnContext

end Powerlink
