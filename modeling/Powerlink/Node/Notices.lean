import Powerlink.Lib.Runs
import Powerlink.Cn.Moves
import Powerlink.Mn.Notices

/-! # Error notices from node to node

A controlled node and a managing node over a link that keeps the order and loses nothing.  The
steps are those of the controlled node, with any frames and at any time, the delivery of the first
frame of the link to the managing node, and the other calls of the managing node.

`Network.Pending` says that no error notice is lost: while an entry was queued that no delivered
StatusResponse has carried, either the EN and the EA flag of the managing node differ, or the EN flag
that the controlled node shows is not the one that the managing node has received.

The single EN flag carries one change at a time.  `notices_kept` proves the property for runs in
which the error status only changes while all flags agree, every StatusRequest finds an emergency
queue that fits into one response, and the ER flag is not used.  `second_error_hides_first` is a run
with a second error before the first one is acknowledged. -/

namespace Powerlink

open Notices (inFlight)

/-! ### The network -/

/-- A controlled node, a managing node and the frames between them; `queued` are the entries that
have entered the emergency queue so far, and `carried` those of the delivered StatusResponses. -/
structure Network (σ τ : Type) where
  cn : CnContext σ
  mn : MnContext τ
  link : List (List UInt8)
  queued : List ErrorEntry
  carried : List ErrorEntry

/-- The steps of the network. -/
inductive NetworkMove where
  | cn (m : CnMove)
  | deliver (udpDatagram : Option (List UInt8 × IpAddress × UInt16)) (timeUs : ℕ)
  | mn (call : MnCall)

namespace Network

variable {σ τ : Type} [ObjectDictionaryStorage σ] [ObjectDictionaryStorage τ]

/-- The network before its first step. -/
def start (cnOd : ObjectDictionary σ) (cnMac : MacAddress) (mnOd : ObjectDictionary τ)
    (mnMac : MacAddress) (cfg : Option ConfigurationInterface) : Option (Network σ τ) := do
  let cn ← (ControlledNode.new cnOd cnMac).toOption
  let mn ← (ManagingNode.new mnOd mnMac cfg).toOption
  some ⟨cn, mn, [], [], []⟩

/-- The entries that enter the emergency queue in a step; the ER flag empties it first. -/
def enqueued (c : CnContext σ) (m : CnMove) (d : CnContext σ) : List ErrorEntry :=
  d.emergencyQueue.drop (if c.resets m then 0 else c.emergencyQueue.length)

/-- One step.  A frame of this node reaches the managing node over the link only. -/
def step (s : Network σ τ) : NetworkMove → Option (Network σ τ)
  | .cn m => do
      let (action, cn) ← s.cn.move m
      some { s with
        cn := cn
        link := s.link ++ action.wire
        queued := s.queued ++ enqueued s.cn m cn }
  | .deliver udpDatagram timeUs =>
      match s.link with
      | [] => some s
      | bytes :: link => do
          let (_, mn) ← s.mn.call (.runCycle ⟨some bytes, udpDatagram, timeUs⟩)
          some { s with
            mn := mn
            link := link
            carried := s.carried ++ inFlight (notice s.cn.nodeId bytes).toList }
  | .mn call =>
      if (call.told s.cn.nodeId).isSome then none
      else do
        let (_, mn) ← s.mn.call call
        some { s with mn := mn }

end Network

namespace Network

variable {σ τ : Type}

/-- The EN and the EA flag that the managing node holds for this node, if it is configured. -/
def flags (s : Network σ τ) : Option (Bool × Bool) := s.mn.nodeInfo.flags s.cn.nodeId

/-- While an entry was queued that no delivered StatusResponse has carried, the flags differ: those
that the managing node holds, or the one that it has received from the one that this node shows. -/
def Pending (s : Network σ τ) : Prop :=
  ∀ flags ∈ s.flags, (∃ e ∈ s.queued, s.carried.count e < s.queued.count e) →
    flags.1 ≠ flags.2 ∨ s.cn.signals.shown ≠ flags.1

instance (s : Network σ τ) : Decidable s.Pending :=
  inferInstanceAs (Decidable (∀ _ ∈ _, _ → _))

/-- All flags agree and no change is pending. -/
def Settled (s : Network σ τ) : Prop :=
  s.cn.errorStatusChanged = false ∧ ∀ flags ∈ s.flags, s.cn.enFlag = flags.1 ∧ flags.1 = flags.2

variable [ObjectDictionaryStorage σ]

/-- The steps that the notices stand: the error status only changes while all flags agree, a
StatusRequest finds a queue that fits into the response, and the ER flag is not used. -/
def Orderly (s : Network σ τ) : NetworkMove → Prop
  | .cn m =>
      s.cn.resets m = false ∧ (s.cn.reports m = true → s.Settled) ∧
        (s.cn.asks m = true → s.cn.emergencyQueue.length ≤ s.cn.statusRoom)
  | _ => True

instance (s : Network σ τ) : Decidable s.Settled := inferInstanceAs (Decidable (_ ∧ ∀ _ ∈ _, _))

instance (s : Network σ τ) : (m : NetworkMove) → Decidable (s.Orderly m)
  | .cn _ => inferInstanceAs (Decidable (_ ∧ (_ → _) ∧ (_ → _)))
  | .deliver .. | .mn _ => inferInstanceAs (Decidable True)

/-! ### The handshake -/

omit [ObjectDictionaryStorage σ] in
/-- The handshake of the two nodes, where the managing node holds the given flags. -/
def notices (s : Network σ τ) (flags : Bool × Bool) : Notices.State ErrorEntry where
  shown := s.cn.signals.shown
  queue := s.cn.emergencyQueue
  link := s.link.filterMap (notice s.cn.nodeId)
  seen := flags.1
  acknowledged := flags.2
  delivered := s.carried

omit [ObjectDictionaryStorage σ] in
/-- What is proved of the network: all queued entries are accounted for, and the handshake is in one
of its phases. -/
structure Inv (s : Network σ τ) : Prop where
  sound : s.cn.signals.Sound
  listening : s.mn.Listening
  handshake : ∀ flags ∈ s.flags,
    s.queued = (s.notices flags).entries ∧ Notices.Inv (s.notices flags)

omit [ObjectDictionaryStorage σ] in
/-- What a step of the controlled node does to the handshake. -/
theorem handshake_step {v w : SignalView} {room : ℕ} {reports asks : Bool}
    {told : List (Notices.Message ErrorEntry)} (change : v.Change room reports asks w told)
    {n : Notices.State ErrorEntry} (hshown : n.shown = v.shown)
    (hqueue : n.queue = v.emergencyQueue) (hinv : Notices.Inv n)
    (hsettled : reports = true → n.Settled) (hroom : asks = true → n.queue.length ≤ room) :
    Notices.State.entries { n with
        shown := w.shown, queue := w.emergencyQueue, link := n.link ++ told } =
      n.entries ++ w.emergencyQueue.drop v.emergencyQueue.length ∧
    Notices.Inv { n with
      shown := w.shown, queue := w.emergencyQueue, link := n.link ++ told } := by
  cases change with
  | rest hw hq =>
      rw [hw, hq, ← hshown, ← hqueue, List.append_nil, List.drop_length, List.append_nil]
      exact ⟨rfl, hinv⟩
  | flag hw hq =>
      rw [hw, hq, ← hshown, ← hqueue, List.drop_length, List.append_nil]
      exact ⟨n.entries_announce, hinv.step .announce⟩
  | report hasks hw hq =>
      have hrest : (n.queue.drop room).drop n.queue.length = [] := by
        apply List.drop_eq_nil_of_le
        rw [List.length_drop]
        omega
      rw [hw, hq, ← hshown, ← hqueue, hrest, List.append_nil]
      exact ⟨n.entries_report room, hinv.step (.report room (hroom hasks))⟩
  | raise entries hreports hw hq _ =>
      rw [hw, hq, ← hshown, ← hqueue, List.append_nil, List.drop_left]
      exact ⟨n.entries_raise entries, hinv.step (.raise entries (hsettled hreports))⟩

variable [ObjectDictionaryStorage τ]

theorem inv_start {cnOd : ObjectDictionary σ} {cnMac mnMac : MacAddress}
    {mnOd : ObjectDictionary τ} {cfg : Option ConfigurationInterface} {s : Network σ τ}
    (h : start cnOd cnMac mnOd mnMac cfg = some s) : s.Inv := by
  unfold start at h
  obtain ⟨cn, hcn, h⟩ := Option.bind_eq_some_iff.mp h
  obtain ⟨mn, hmn, h⟩ := Option.bind_eq_some_iff.mp h
  obtain rfl := Option.some.inj h
  obtain ⟨od, machine, consumers, rfl⟩ := ControlledNode.new_eq (eq_ok_of_toOption hcn)
  obtain ⟨hlistening, hflags⟩ := MnContext.listening_new (eq_ok_of_toOption hmn)
  refine ⟨⟨nofun, Nat.zero_le _⟩, hlistening, ?_⟩
  intro flags hmem
  have hnone : flags = (false, false) := hflags _ flags hmem
  subst hnone
  exact ⟨rfl, .idle rfl rfl nofun rfl⟩

/-- The steps of the controlled node are steps of the handshake. -/
theorem Inv.cn {s s' : Network σ τ} {m : CnMove} (h : s.Inv) (horderly : s.Orderly (.cn m))
    (hstep : s.step (.cn m) = some s') : s'.Inv := by
  obtain ⟨hreset, hsettled, hroom⟩ := horderly
  obtain ⟨⟨action, d⟩, hmove, hstep⟩ := Option.bind_eq_some_iff.mp hstep
  obtain rfl := Option.some.inj hstep
  obtain ⟨node, change⟩ :=
    CnContext.move_moved hmove h.sound hreset (fun hreports => (hsettled hreports).1)
  have hmoved : s.cn.signals.Moved s.cn.statusRoom (s.cn.reports m) (s.cn.asks m) d.signals
    (action.notices s.cn.nodeId) := ⟨node, change⟩
  have hnode : d.nodeId = s.cn.nodeId := node
  refine ⟨hmoved.sound h.sound, h.listening, ?_⟩
  intro flags hflags
  have hflags' : flags ∈ s.flags := by
    unfold Network.flags at hflags ⊢
    rwa [← hnode]
  obtain ⟨hqueued, hinv⟩ := h.handshake flags hflags'
  have hafter : ∀ told, action.notices s.cn.nodeId = told → notices { s with
      cn := d
      link := s.link ++ action.wire
      queued := s.queued ++ enqueued s.cn m d } flags =
      { s.notices flags with
        shown := d.signals.shown
        queue := d.signals.emergencyQueue
        link := (s.notices flags).link ++ told } := by
    rintro told rfl
    unfold notices
    dsimp only
    rw [hnode, List.filterMap_append]
    rfl
  have hentered : enqueued s.cn m d =
      d.signals.emergencyQueue.drop s.cn.signals.emergencyQueue.length := by
    unfold enqueued
    rw [hreset]
    rfl
  have hsettled' : s.cn.reports m = true → (s.notices flags).Settled := by
    intro hreports
    obtain ⟨hpending, hagree⟩ := hsettled hreports
    obtain ⟨hseen, hack⟩ := hagree flags hflags'
    refine ⟨?_, hack⟩
    change (s.cn.enFlag ^^ s.cn.errorStatusChanged) = flags.1
    rw [hpending, Bool.xor_false, hseen]
  obtain ⟨hentries, hinv'⟩ := handshake_step change rfl rfl hinv hsettled' hroom
  rw [hafter _ rfl, hqueued, hentered]
  exact ⟨hentries.symm, hinv'⟩

/-- A delivered frame is heard. -/
theorem Inv.deliver {s s' : Network σ τ} (h : s.Inv)
    {udpDatagram : Option (List UInt8 × IpAddress × UInt16)} {timeUs : ℕ}
    (hstep : s.step (.deliver udpDatagram timeUs) = some s') : s'.Inv := by
  dsimp only [step] at hstep
  split at hstep
  · obtain rfl := Option.some.inj hstep
    exact h
  · rename_i bytes link hlink
    obtain ⟨⟨action, mn⟩, hcall, hstep⟩ := Option.bind_eq_some_iff.mp hstep
    obtain rfl := Option.some.inj hstep
    obtain ⟨hlistening, hheard⟩ := MnContext.flags_call hcall h.listening
    refine ⟨h.sound, hlistening, ?_⟩
    intro flags' hflags'
    have hmap := (hheard s.cn.nodeId).symm.trans hflags'
    obtain ⟨flags, hflags, rfl⟩ := Option.map_eq_some_iff.mp hmap
    obtain ⟨hqueued, hinv⟩ := h.handshake flags hflags
    have htold : MnCall.told (.runCycle ⟨some bytes, udpDatagram, timeUs⟩) s.cn.nodeId =
        notice s.cn.nodeId bytes := told_delivered bytes udpDatagram timeUs s.cn.nodeId
    rw [htold]
    cases hnotice : notice s.cn.nodeId bytes with
    | none =>
        have hsame : notices { s with
            mn := mn
            link := link
            carried := s.carried ++ inFlight (none : Option (Notices.Message ErrorEntry)).toList }
            (heard none flags) = s.notices flags := by
          have hnothing : inFlight (none : Option (Notices.Message ErrorEntry)).toList = [] := rfl
          unfold notices
          rw [hlink, List.filterMap_cons, hnotice, hnothing, List.append_nil]
          rfl
        rw [hsame]
        exact ⟨hqueued, hinv⟩
    | some message =>
        have hdelivered : notices { s with
            mn := mn
            link := link
            carried := s.carried ++ inFlight (some message).toList }
            (heard (some message) flags) = (s.notices flags).deliver := by
          unfold notices Notices.State.deliver
          dsimp only
          rw [hlink, List.filterMap_cons, hnotice]
          cases message with
          | flag shown =>
              rw [show inFlight (some (Notices.Message.flag shown)).toList =
                ([] : List ErrorEntry) from rfl, List.append_nil]
              rfl
          | report entries =>
              rw [show inFlight (some (Notices.Message.report entries)).toList = entries from
                List.append_nil entries]
              rfl
        rw [hdelivered, Notices.State.entries_deliver]
        exact ⟨hqueued, hinv.step .deliver⟩

/-- The other calls of the managing node leave the notices alone. -/
theorem Inv.mn {s s' : Network σ τ} (h : s.Inv) {call : MnCall}
    (hstep : s.step (.mn call) = some s') : s'.Inv := by
  dsimp only [step] at hstep
  split_ifs at hstep with htold
  have hnone : call.told s.cn.nodeId = none := by simpa using htold
  obtain ⟨⟨action, mn⟩, hcall, hstep⟩ := Option.bind_eq_some_iff.mp hstep
  obtain rfl := Option.some.inj hstep
  obtain ⟨hlistening, hheard⟩ := MnContext.flags_call hcall h.listening
  refine ⟨h.sound, hlistening, ?_⟩
  intro flags hflags
  have hkept := hheard s.cn.nodeId
  rw [hnone, NodeTable.map_heard_none] at hkept
  exact h.handshake flags (hkept.symm.trans hflags)

theorem Inv.step {s s' : Network σ τ} {m : NetworkMove} (h : s.Inv) (horderly : s.Orderly m)
    (hstep : s.step m = some s') : s'.Inv := by
  cases m with
  | cn m => exact h.cn horderly hstep
  | deliver udpDatagram timeUs => exact h.deliver hstep
  | mn call => exact h.mn hstep

omit [ObjectDictionaryStorage σ] [ObjectDictionaryStorage τ] in
/-- The invariant is what the managing node relies on. -/
theorem Inv.pending {s : Network σ τ} (h : s.Inv) : s.Pending := by
  rintro flags hflags ⟨e, -, hcount⟩
  obtain ⟨hqueued, hinv⟩ := h.handshake flags hflags
  apply hinv.pending
  intro hnone
  have hall : s.queued = s.carried := by
    rw [hqueued, Notices.State.entries, hnone, List.append_nil]
    rfl
  rw [hall] at hcount
  exact absurd hcount (lt_irrefl _)

/-- No error notice is lost in a run of orderly steps. -/
theorem notices_kept (cnOd : ObjectDictionary σ) (cnMac : MacAddress) (mnOd : ObjectDictionary τ)
    (mnMac : MacAddress) (cfg : Option ConfigurationInterface) (moves : List NetworkMove)
    (h : Runs.AllSteps (Runs.partialStep step) (fun s m => Runs.Reached (fun s => s.Orderly m) s)
      (start cnOd cnMac mnOd mnMac cfg) moves) :
    Runs.Always (Runs.partialStep step) (Runs.Reached Pending)
      (start cnOd cnMac mnOd mnMac cfg) moves := by
  refine Runs.Always.mono (Runs.Reached.mono (fun s hs => Inv.pending hs)) ?_
  refine Runs.always_of_allSteps ?_ ?_ h
  · intro s m hs horderly
    cases s with
    | none => trivial
    | some s =>
        change Runs.Reached Inv (s.step m)
        cases hstep : s.step m with
        | none => trivial
        | some s' => exact Inv.step hs horderly hstep
  · cases hstart : start cnOd cnMac mnOd mnMac cfg with
    | none => trivial
    | some s => exact inv_start hstart

/-! ### Runs -/

omit [ObjectDictionaryStorage σ] [ObjectDictionaryStorage τ] in
instance (P : Network σ τ → Prop) [DecidablePred P] :
    (s : Option (Network σ τ)) → Decidable (Runs.Reached P s)
  | none => inferInstanceAs (Decidable True)
  | some s => inferInstanceAs (Decidable (P s))

/-- The controlled node 1 and a managing node that has it configured. -/
def sample : Option (Network Empty Empty) :=
  start (cnDictionary 1 100000 []) ⟨0, 0, 0, 0, 0, 1⟩ (mnDictionary 0 [9]) ⟨0, 0, 0, 0, 0, 240⟩ none

/-- The controlled node receives a frame of the managing node. -/
def received (frame : PowerlinkFrame) (timeUs : ℕ) : NetworkMove :=
  .cn (.receive ⟨some (frame.ethernetHeader.bytes ++ padPayload frame.bytes), none, timeUs⟩)

/-- A call of the controlled node with a SoC. -/
def cycleStart (timeUs : ℕ) : List NetworkMove := (CnCall.soc timeUs).moves.map .cn

/-- A PReq is answered and the PRes is delivered. -/
def poll (timeUs : ℕ) : List NetworkMove :=
  [received (.pReq (.new ⟨0, 0, 0, 0, 0, 240⟩ ⟨0, 0, 0, 0, 0, 1⟩ ⟨1⟩ ⟨false, false, false⟩ ⟨0⟩ []))
    timeUs, .deliver none timeUs]

/-- A StatusRequest is answered and the StatusResponse is delivered. -/
def ask (timeUs : ℕ) : List NetworkMove :=
  [received (.soA (.new ⟨0, 0, 0, 0, 0, 240⟩ .nmtPreOperational2 ⟨false, false⟩ .statusRequest ⟨1⟩
    ⟨0⟩)) timeUs, .deliver none timeUs]

/-- The second lost SoA is an error, after which the node starts again. -/
def fail (timeUs : ℕ) : List NetworkMove :=
  cycleStart timeUs ++ cycleStart (timeUs + 1000) ++ cycleStart (timeUs + 2000)

/-- One error that is polled, asked for and delivered. -/
def oneError : List NetworkMove :=
  cycleStart 1000 ++ cycleStart 2000 ++ fail 3000 ++ poll 5100 ++ ask 5200

/-- The run of one error is orderly; its entry is queued and carried. -/
theorem one_error_is_carried :
    Runs.Always (Runs.partialStep step) (Runs.Reached Pending) sample oneError ∧
      (Runs.run (Runs.partialStep step) sample oneError).any
        (fun s => s.queued.length = 1 ∧ s.carried = s.queued) = true :=
  ⟨notices_kept _ _ _ _ _ oneError (by decide +kernel), by decide +kernel⟩

/-- After the first error is polled, a second one takes the EN flag back before anything is asked
for; the next poll leaves all flags in agreement, with both entries in the queue. -/
theorem second_error_hides_first :
    ¬ ∀ (cnOd : ObjectDictionary Empty) (cnMac : MacAddress) (mnOd : ObjectDictionary Empty)
      (mnMac : MacAddress) (cfg : Option ConfigurationInterface) (moves : List NetworkMove),
      Runs.Always (Runs.partialStep step) (Runs.Reached Pending)
        (start cnOd cnMac mnOd mnMac cfg) moves := by
  intro h
  have hrun := h (cnDictionary 1 100000 []) ⟨0, 0, 0, 0, 0, 1⟩ (mnDictionary 0 [9])
    ⟨0, 0, 0, 0, 0, 240⟩ none
    (cycleStart 1000 ++ cycleStart 2000 ++ fail 3000 ++ poll 5100 ++ cycleStart 6000 ++
      cycleStart 7000 ++ poll 7100)
  revert hrun
  apply Runs.not_always_reached
  decide +kernel

end Network

end Powerlink
