import Powerlink.Cn.ErrorClearing
import Powerlink.Cn.Telegrams

/-! # Telegram counters over a run

Each receive counter of `0x1101` should be the number of received telegrams of its class
(`Counts`).  The counters of the SoC, the isochronous and the asynchronous frames are.  An SDO frame
is counted twice: `process_ethernet_frame` counts what looks like one in the raw octets, also a
frame that cannot be deserialized, and `process_frame` counts the deserialized frame again.
`telegrams_counted_iff` says in which runs the counters are right. -/

namespace Powerlink

variable {σ : Type} [ObjectDictionaryStorage σ]

/-! ### One step -/

/-- The received SDO request of a datagram. -/
def CycleInput.sdoDatagram (input : CycleInput) : Bool :=
  match input.udpDatagram with
  | some (buffer, _, _) => (deserializeSdoUdpPayload buffer).toOption.isSome
  | none => false

namespace CnContext

/-- The class of the telegram that a step receives and deserializes. -/
def telegram (c : CnContext σ) : CnMove → Option TelegramClass
  | .receive input => input.frame.bind (telegramClass c.nodeId)
  | .datagram input => if input.sdoDatagram then some .sdo else none
  | _ => none

/-- A step receives octets that look like an SDO frame for this node. -/
def looksLikeSdo (c : CnContext σ) : CnMove → Bool
  | .receive input => input.powerlink.any c.isSdoForNode
  | _ => false

/-- No reset, SDO request or process data of a step changes the counters. -/
def keepsReceived (c : CnContext σ) : CnMove → Bool
  | .receive input =>
      match input.ethernetFrame, input.frame with
      | some buffer, some frame => (c.prepare buffer).frameKeepsReceived frame input.currentTimeUs
      | _, _ => true
  | .datagram input =>
      match input.udpDatagram with
      | none => true
      | some (buffer, ip, port) =>
          match deserializeSdoUdpPayload buffer with
          | .error _ => true
          | .ok (seqHeader, cmd) =>
              (c.count 6).sdoKeepsReceived (MnContext.udpSdoPayload seqHeader cmd buffer.length)
                (.udp ip port) input.currentTimeUs
  | _ => true

/-- A datagram is counted once. -/
theorem received_receiveUdp {c : CnContext σ} {input : CycleInput}
    (hkeeps : c.keepsReceived (.datagram input) = true) :
    (c.receiveUdp input).2.received =
      c.received.counted (if input.sdoDatagram then some .sdo else none) := by
  have htransmit : ∀ e : CnContext σ, (e.count 7).received = e.received :=
    fun e => e.received_count_other (by decide) (by decide)
  dsimp only [keepsReceived] at hkeeps
  unfold receiveUdp CycleInput.sdoDatagram
  rcases hudp : input.udpDatagram with _ | ⟨buffer, ip, port⟩
  · exact c.received.counted_none.symm
  · rw [hudp] at hkeeps
    dsimp only at hkeeps ⊢
    have hdatagram : (c.processUdpDatagram buffer ip port input.currentTimeUs).2.received =
        c.received.counted
          (if (deserializeSdoUdpPayload buffer).toOption.isSome then some .sdo else none) := by
      unfold processUdpDatagram
      cases hpayload : deserializeSdoUdpPayload buffer with
      | error e => exact c.received.counted_none.symm
      | ok payload =>
          rw [hpayload] at hkeeps
          have hserved := of_decide_eq_true hkeeps
          have hcount : (c.count 6).received = _ := c.received_count_class .sdo
          rw [hcount] at hserved
          dsimp only
          split
          · exact hserved
          · split
            · exact hserved
            · exact hserved
    rw [← hdatagram]
    split
    · rename_i hsent
      rw [hsent]
      exact htransmit _
    · rename_i hsent
      rw [hsent]

/-- What a step does to the counters. -/
theorem move_received {c d : CnContext σ} {m : CnMove} {action : NodeAction}
    (h : c.move m = some (action, d)) (hkeeps : c.keepsReceived m = true) :
    d.received =
      (c.received.counted (if c.looksLikeSdo m then some .sdo else none)).counted
        (c.telegram m) := by
  have hquiet : ∀ e : CnContext σ, e.received = c.received →
      e.received = (c.received.counted none).counted none := by
    intro e he
    rw [he, ReceiveCounters.counted_none, ReceiveCounters.counted_none]
  cases m with
  | receive input =>
      have hlook : ∀ buffer, input.powerlink = some buffer →
          c.looksLikeSdo (.receive input) = c.isSdoForNode buffer := by
        intro buffer hpowerlink
        dsimp only [looksLikeSdo]
        rw [hpowerlink]
        rfl
      have hforeign : input.powerlink = none → c.looksLikeSdo (.receive input) = false := by
        intro hpowerlink
        dsimp only [looksLikeSdo]
        rw [hpowerlink]
        rfl
      dsimp only [keepsReceived] at hkeeps
      dsimp only [telegram]
      obtain ⟨buffer, frame, hbuffer, hframe, hprocess⟩ | ⟨hframe, -, hrest⟩ :=
        receiveEthernet_cases h
      · rw [hbuffer, hframe] at hkeeps
        obtain ⟨machine, hnode, hsignals, -⟩ := c.signals_prepare buffer
        have hnode' : (c.prepare buffer).nodeId = c.nodeId :=
          (congrArg (fun v => v.machine.nodeId) hsignals).trans hnode
        have hpowerlink : input.powerlink = some buffer := by
          unfold CycleInput.frame at hframe
          unfold CycleInput.powerlink
          rw [hbuffer] at hframe ⊢
          dsimp only at hframe
          split_ifs at hframe with hethertype
          exact if_pos hethertype
        have hreceived := received_processFrame hprocess hkeeps
        rw [received_prepare, hnode'] at hreceived
        rw [hlook buffer hpowerlink, hframe]
        exact hreceived
      · rw [hframe]
        obtain ⟨hpowerlink, rfl⟩ | ⟨buffer, hpowerlink, rfl | rfl⟩ := hrest
        · rw [hforeign hpowerlink]
          exact hquiet _ rfl
        · rw [hlook buffer hpowerlink, c.received_prepare buffer]
          exact (ReceiveCounters.counted_none _).symm
        · rw [hlook buffer hpowerlink, received_handleInvalidFormat, c.received_prepare buffer]
          exact (ReceiveCounters.counted_none _).symm
  | datagram input =>
      have hreceived := received_receiveUdp hkeeps
      have hsome : c.receiveUdp input = (action, d) := Option.some.inj h
      rw [hsome] at hreceived
      rw [hreceived]
      exact congrArg (fun v => ReceiveCounters.counted v _) c.received.counted_none.symm
  | tick timeUs => exact hquiet d (received_processTick h)
  | queueSdoRequest payload | queueNmtRequest command target =>
      obtain ⟨-, rfl⟩ := Prod.mk.inj (Option.some.inj h)
      exact hquiet _ rfl
  | configurationComplete =>
      obtain ⟨-, rfl⟩ := Prod.mk.inj (Option.some.inj h)
      exact hquiet _ (c.received_processNmtEvent rfl)

end CnContext

/-! ### A run -/

namespace CnStep

/-- The step receives a telegram of the class. -/
def receives (x : CnStep σ) (k : TelegramClass) : Bool :=
  decide (x.before.telegram x.move = some k)

/-- The step receives octets that look like an SDO frame for the node. -/
def looksLikeSdo (x : CnStep σ) : Bool := x.before.looksLikeSdo x.move

/-- What a step adds to the counter of a class. -/
def increments (x : CnStep σ) (k : TelegramClass) : ℕ :=
  (if k = .sdo ∧ x.looksLikeSdo = true then 1 else 0) + if x.receives k = true then 1 else 0

/-- The counters after a step. -/
theorem received_of_made {x : CnStep σ} (h : x.Made)
    (hkeeps : x.before.keepsReceived x.move = true) (k : TelegramClass) :
    x.after.received k = (x.before.received k).map (· + UInt32.ofNat (x.increments k)) := by
  obtain ⟨action, hmove⟩ := h
  have hlook : (some k = if x.before.looksLikeSdo x.move then some .sdo else none) ↔
      k = .sdo ∧ x.looksLikeSdo = true := by
    unfold looksLikeSdo
    cases x.before.looksLikeSdo x.move with
    | false => exact iff_of_false nofun fun hboth => Bool.false_ne_true hboth.2
    | true => exact ⟨fun hk => ⟨Option.some.inj hk, rfl⟩, fun hk => congrArg some hk.1⟩
  have hreceives : some k = x.before.telegram x.move ↔ x.receives k = true := by
    unfold receives
    rw [decide_eq_true_iff, eq_comm]
  rw [CnContext.move_received hmove hkeeps, ReceiveCounters.counted_apply,
    ReceiveCounters.counted_apply, if_congr hlook rfl rfl, if_congr hreceives rfl rfl,
    Option.map_map]
  unfold increments
  congr 1
  funext v
  rw [UInt32.ofNat_add, ← UInt32.add_assoc]
  rfl

/-- The counters after a chain of steps. -/
theorem Chain.received {c : CnContext σ} (k : TelegramClass) : ∀ {steps : List (CnStep σ)}
    {d : CnContext σ}, Chain c steps d →
    (∀ x ∈ steps, x.before.keepsReceived x.move = true) →
    d.received k = (c.received k).map (· + UInt32.ofNat (steps.map (·.increments k)).sum)
  | [], d, h, _ => by
      obtain rfl : c = d := h
      have hzero : UInt32.ofNat 0 = 0 := rfl
      simp only [List.map_nil, List.sum_nil, hzero, UInt32.add_zero, Option.map_id']
  | x :: steps, d, h, hkeeps => by
      obtain ⟨hbefore, hmade, rfl⟩ := h
      rw [List.forall_mem_cons] at hkeeps
      rw [received_of_made hmade hkeeps.1 k, hbefore.received k hkeeps.2, Option.map_map,
        List.map_cons, List.sum_cons]
      congr 1
      funext v
      rw [Nat.add_comm, UInt32.ofNat_add, ← UInt32.add_assoc]
      rfl

omit [ObjectDictionaryStorage σ] in
/-- The telegrams of a class, and the octets that look like an SDO frame. -/
theorem sum_increments (steps : List (CnStep σ)) (k : TelegramClass) :
    (steps.map (·.increments k)).sum =
      (if k = .sdo then steps.countP looksLikeSdo else 0) + steps.countP (·.receives k) := by
  induction steps with
  | nil =>
      rw [List.countP_nil, ite_self]
      rfl
  | cons x steps ih =>
      rw [List.map_cons, List.sum_cons, ih, List.countP_cons, List.countP_cons]
      unfold increments
      by_cases hk : k = .sdo
      · simp only [hk, true_and, if_true]
        omega
      · simp only [hk, false_and, if_false]
        omega

end CnStep

/-- `0x1101` is a record of `UNSIGNED32` with all its sub-indices. -/
def CnContext.hasCounters (c : CnContext σ) : Bool :=
  match c.core.od.readObject 0x1101 with
  | some (.record values) =>
      decide (8 ≤ values.length) && values.all fun
        | .unsigned32 _ => true
        | _ => false
  | _ => false

omit [ObjectDictionaryStorage σ] in
/-- Such an object has every receive counter. -/
theorem CnContext.isSome_received {c : CnContext σ} (h : c.hasCounters = true)
    (k : TelegramClass) : (c.received k).isSome = true := by
  unfold hasCounters at h
  unfold received
  split at h
  · rename_i values hobject
    obtain ⟨hlength, hall⟩ := Bool.and_eq_true_iff.mp h
    have hposition : k.subIndex.toNat - 1 < values.length := by
      have hle := of_decide_eq_true hlength
      have hbound : k.subIndex.toNat - 1 < 8 := by
        cases k with
        | soc | isochronous | asynchronous | sdo => decide
      omega
    have hvalue := List.all_eq_true.mp hall _ (List.getElem_mem hposition)
    rw [hobject, Option.bind_some]
    unfold Object.counter
    dsimp only
    rw [List.getElem?_eq_getElem hposition]
    generalize values[k.subIndex.toNat - 1] = value at hvalue
    cases value with
    | unsigned32 v => rfl
    | _ => cases hvalue
  · cases h

namespace CnRun

/-- The counters exist, and no reset, SDO request or process data changes them. -/
def Untouched (r : CnRun σ) : Prop :=
  r.first.hasCounters = true ∧ ∀ x ∈ r.steps, x.before.keepsReceived x.move = true

instance (r : CnRun σ) : Decidable r.Untouched := inferInstanceAs (Decidable (_ ∧ _))

/-- The counter of a class has advanced by the number of received telegrams. -/
def CountsOf (r : CnRun σ) (k : TelegramClass) : Prop :=
  (r.first.received k).isSome = true ∧
    r.context.received k =
      (r.first.received k).map (· + UInt32.ofNat (r.steps.countP (·.receives k)))

instance (r : CnRun σ) (k : TelegramClass) : Decidable (r.CountsOf k) :=
  inferInstanceAs (Decidable (_ ∧ _))

/-- Every telegram is counted once. -/
def Counts (r : CnRun σ) : Prop := ∀ k, r.CountsOf k

instance (r : CnRun σ) : Decidable r.Counts := inferInstanceAs (Decidable (∀ k, r.CountsOf k))

/-- The counter of a class, where `extra` of its counts are not telegrams of their own. -/
theorem countsOf_iff {r : CnRun σ} {k : TelegramClass} {extra : ℕ}
    (hexists : (r.first.received k).isSome = true)
    (hreceived : r.context.received k =
      (r.first.received k).map (· + UInt32.ofNat (extra + r.steps.countP (·.receives k)))) :
    r.CountsOf k ↔ extra % 4294967296 = 0 := by
  obtain ⟨start, hstart⟩ := Option.isSome_iff_exists.mp hexists
  unfold CountsOf
  rw [hreceived, hstart, Option.map_some, Option.map_some, Option.some.injEq,
    UInt32.add_right_inj, UInt32.ofNat_add, ← UInt32.toNat_inj, UInt32.toNat_add,
    UInt32.toNat_ofNat', UInt32.toNat_ofNat']
  simp only [Option.isSome_some, true_and]
  omega

/-- In every run the counters of the other classes are right, and those of the SDO frames are
exactly if no octets looked like an SDO frame, up to the modulus. -/
theorem telegrams_counted_iff : Throughout (fun r : CnRun σ => r.Untouched →
    (∀ k, k ≠ .sdo → r.CountsOf k) ∧
      (r.Counts ↔ r.steps.countP CnStep.looksLikeSdo % 4294967296 = 0)) := by
  refine chain_throughout.mono fun r hr hun => ?_
  have hreceived : ∀ k, r.context.received k = (r.first.received k).map (· + UInt32.ofNat
      ((if k = .sdo then r.steps.countP CnStep.looksLikeSdo else 0) +
        r.steps.countP (·.receives k))) := by
    intro k
    rw [hr.1.received k hun.2, CnStep.sum_increments]
  have hiff : ∀ k, r.CountsOf k ↔
      (if k = .sdo then r.steps.countP CnStep.looksLikeSdo else 0) % 4294967296 = 0 :=
    fun k => countsOf_iff (CnContext.isSome_received hun.1 k) (hreceived k)
  have hothers : ∀ k, k ≠ .sdo → r.CountsOf k := by
    intro k hk
    rw [hiff, if_neg hk]
  refine ⟨hothers, fun hcounts => ?_, fun hlooks k => ?_⟩
  · have hsdo := (hiff .sdo).mp (hcounts .sdo)
    exact hsdo
  · by_cases hk : k = .sdo
    · subst hk
      exact (hiff .sdo).mpr hlooks
    · exact hothers k hk

/-- Node 1 with telegram counters. -/
def counterDictionary : ObjectDictionary Empty :=
  (cnDictionary 1 10000 []).insert 0x1101
    ⟨.record (List.replicate 8 (.unsigned32 0)), "DIA_NMTTelegrCount_REC", none, none⟩

/-- The first request of a connection advances the counter by two. -/
theorem sdo_frame_counted_twice :
    ¬ Throughout (fun r : CnRun Empty => r.Untouched → r.Counts) := by
  intro h
  have hcounts := h counterDictionary ⟨0, 0, 0, 0, 0, 1⟩
    [.frame (.aSnd (.new ⟨0, 0, 0, 0, 0, 240⟩ ⟨0, 0, 0, 0, 0, 1⟩ ⟨1⟩ ⟨240⟩ .sdo
      [0, 1, 0, 0, 0, 0, 0, 0, 0, 0, 0, 0])) 1]
  revert hcounts
  apply Runs.not_always_reached
  decide +kernel

end CnRun

end Powerlink
