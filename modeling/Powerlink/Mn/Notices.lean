import Powerlink.Cn.Notices
import Powerlink.Mn.Api
import Powerlink.Mn.BusAccess

/-! # Error notices at a managing node

A managing node holds two flags of every node: the EN flag that it has last received in a PRes and
the EA flag that it has last acknowledged.  A StatusResponse acknowledges the EN flag, whether its
payload can be decoded or not.

`call_flags` says that nothing else touches these flags: after a call they are what the notice of the
received frame makes of them. -/

namespace Powerlink

/-- The EN and the EA flag of a node, if it is configured. -/
def NodeTable.flags (nodes : NodeTable) (nodeId : NodeId) : Option (Bool × Bool) :=
  (nodes.get? nodeId).map (fun info => (info.enFlag, info.eaFlag))

/-- What a notice makes of the flags. -/
def heard (told : Option (Notices.Message ErrorEntry)) (flags : Bool × Bool) : Bool × Bool :=
  match told with
  | none => flags
  | some (.flag shown) => (shown, flags.2)
  | some (.report _) => (flags.1, flags.1)

namespace NodeTable

theorem map_heard_none (flags : Option (Bool × Bool)) : flags.map (heard none) = flags := by
  have hid : heard none = id := rfl
  rw [hid, Option.map_id]
  rfl

theorem flags_modify (nodes : NodeTable) (nodeId : NodeId) (f : CnInfo → CnInfo)
    (told : Option (Notices.Message ErrorEntry))
    (h : ∀ info, ((f info).enFlag, (f info).eaFlag) = heard told (info.enFlag, info.eaFlag)) :
    flags (nodes.modify nodeId f) nodeId = (nodes.flags nodeId).map (heard told) := by
  unfold flags
  rw [SortedMap.get?_modify, if_pos rfl]
  cases nodes.get? nodeId with
  | none => rfl
  | some info => exact congrArg some (h info)

theorem flags_modify_ne (nodes : NodeTable) {nodeId m : NodeId} (h : m ≠ nodeId)
    (f : CnInfo → CnInfo) : flags (nodes.modify nodeId f) m = nodes.flags m := by
  unfold flags
  rw [SortedMap.get?_modify, if_neg h]

end NodeTable

namespace MnContext

variable {σ : Type}

/-- The flags of all nodes stay as they are. -/
def KeepsFlags (c d : MnContext σ) : Prop := ∀ n, d.nodeInfo.flags n = c.nodeInfo.flags n

theorem KeepsFlags.refl (c : MnContext σ) : KeepsFlags c c := fun _ => rfl

theorem KeepsFlags.trans {c d e : MnContext σ} (h : KeepsFlags c d) (h' : KeepsFlags d e) :
    KeepsFlags c e :=
  fun n => (h' n).trans (h n)

theorem keepsFlags_of_boot {c d : MnContext σ} (h : d.bootView = c.bootView) : KeepsFlags c d := by
  intro n
  have hnodes : d.nodeInfo = c.nodeInfo := congrArg BootView.nodes h
  rw [hnodes]

/-- Something else of a node is noted. -/
theorem keepsFlags_modify (c : MnContext σ) (nodeId : NodeId) {f : CnInfo → CnInfo}
    (h : ∀ info, (f info).enFlag = info.enFlag ∧ (f info).eaFlag = info.eaFlag) :
    KeepsFlags c { c with nodeInfo := c.nodeInfo.modify nodeId f } := by
  intro n
  by_cases hn : n = nodeId
  · have hflags := c.nodeInfo.flags_modify nodeId f none (fun info => Prod.ext (h info).1 (h info).2)
    rw [NodeTable.map_heard_none] at hflags
    rw [hn]
    exact hflags
  · exact c.nodeInfo.flags_modify_ne hn f

/-! ### What keeps the flags -/

theorem keepsFlags_track (c : MnContext σ) (nodeId : NodeId) (new : CnState) :
    KeepsFlags c (c.track nodeId new) := by
  unfold track
  split
  · exact KeepsFlags.refl c
  · split_ifs
    · exact KeepsFlags.refl c
    · exact (c.keepsFlags_modify nodeId (f := fun info => { info with state := new })
        (fun _ => ⟨rfl, rfl⟩)).trans (fun _ => rfl)

variable [ObjectDictionaryStorage σ]

theorem keepsFlags_processNmtEvent (c : MnContext σ) (event : NmtEvent) :
    KeepsFlags c (c.processNmtEvent event) := by
  dsimp only [processNmtEvent]
  split_ifs
  · exact fun _ => rfl
  · exact fun _ => rfl

/-- The updates of a received frame do not touch the flags. -/
theorem Touch.keepsFlags {c d : MnContext σ} (h : Touch c d) : KeepsFlags c d := by
  cases h with
  | track nodeId _ => exact c.keepsFlags_track nodeId _
  | note nodeId _ hflags => exact c.keepsFlags_modify nodeId hflags
  | nmt _ => exact c.keepsFlags_processNmtEvent _
  | ready => exact fun _ => rfl
  | validated nodeId cache => exact fun _ => rfl
  | download nodeId dcf t => exact fun _ => rfl

theorem Touches.keepsFlags {c d : MnContext σ} (h : Touches c d) : KeepsFlags c d := by
  induction h with
  | refl => exact KeepsFlags.refl c
  | tail _ hstep ih => exact ih.trans hstep.keepsFlags

theorem DllTouch.keepsFlags {c d : MnContext σ} (h : DllTouch c d) : KeepsFlags c d := by
  cases h with
  | machine m => exact fun _ => rfl
  | counters counters => exact fun _ => rfl
  | lose nodeId => exact c.keepsFlags_track nodeId .missing

theorem keepsFlags_handleDllEvent (c : MnContext σ) (event : DllMsEvent) (frame : PowerlinkFrame) :
    KeepsFlags c (c.handleDllEvent event frame) := by
  have hrun : ∀ d, DllTouches c d → KeepsFlags c d := by
    intro d h
    induction h with
    | refl => exact KeepsFlags.refl c
    | tail _ hstep ih => exact ih.trans hstep.keepsFlags
  exact hrun _ (c.touches_handleDllEvent event frame)

theorem BootTicked.keepsFlags {c d : MnContext σ} (h : BootTicked c d) : KeepsFlags c d := by
  cases h with
  | same h => exact keepsFlags_of_boot h
  | activate e he _ h =>
      exact ((keepsFlags_of_boot he).trans (e.keepsFlags_processNmtEvent _)).trans
        (keepsFlags_of_boot h)
  | timeout e event he h =>
      exact ((keepsFlags_of_boot he).trans (e.keepsFlags_handleDllEvent event _)).trans
        (keepsFlags_of_boot h)

/-! ### What a frame does to the flags -/

/-- The flags are what the notice of a frame makes of them. -/
def Hears (c d : MnContext σ) (frame : PowerlinkFrame) : Prop :=
  ∀ n, d.nodeInfo.flags n = (c.nodeInfo.flags n).map (heard (frame.notice n))

omit [ObjectDictionaryStorage σ] in
theorem KeepsFlags.then_hears {c d e : MnContext σ} {frame : PowerlinkFrame}
    (h : KeepsFlags c d) (h' : Hears d e frame) : Hears c e frame := by
  intro n
  rw [h' n, h n]

omit [ObjectDictionaryStorage σ] in
theorem Hears.then_keeps {c d e : MnContext σ} {frame : PowerlinkFrame} (h : Hears c d frame)
    (h' : KeepsFlags d e) : Hears c e frame :=
  fun n => (h' n).trans (h n)

omit [ObjectDictionaryStorage σ] in
/-- A frame that tells nothing. -/
theorem KeepsFlags.hears {c d : MnContext σ} {frame : PowerlinkFrame} (h : KeepsFlags c d)
    (hnone : ∀ n, frame.notice n = none) : Hears c d frame := by
  intro n
  rw [hnone n, NodeTable.map_heard_none, h n]

omit [ObjectDictionaryStorage σ] in
/-- A frame of a node that is not configured. -/
theorem hears_unknown {c : MnContext σ} {frame : PowerlinkFrame} {source : NodeId}
    (hsource : ∀ n, n ≠ source → frame.notice n = none)
    (hget : c.nodeInfo.get? source = none) : Hears c c frame := by
  intro n
  by_cases hn : n = source
  · unfold NodeTable.flags
    rw [hn, hget]
    rfl
  · rw [hsource n hn, NodeTable.map_heard_none]

omit [ObjectDictionaryStorage σ] in
/-- What a frame tells of its source is noted. -/
theorem hears_modify (c : MnContext σ) {frame : PowerlinkFrame} {source : NodeId}
    (hsource : ∀ n, n ≠ source → frame.notice n = none) {f : CnInfo → CnInfo}
    (h : ∀ info, ((f info).enFlag, (f info).eaFlag) =
      heard (frame.notice source) (info.enFlag, info.eaFlag)) :
    Hears c { c with nodeInfo := c.nodeInfo.modify source f } frame := by
  intro n
  by_cases hn : n = source
  · rw [hn]
    exact c.nodeInfo.flags_modify source f _ h
  · rw [hsource n hn, NodeTable.map_heard_none]
    exact c.nodeInfo.flags_modify_ne hn f

omit [ObjectDictionaryStorage σ] in
theorem notice_pRes_ne {pres : PResFrame} {n : NodeId} (h : n ≠ pres.source) :
    (PowerlinkFrame.pRes pres).notice n = none :=
  if_neg (fun heq => h heq.symm)

omit [ObjectDictionaryStorage σ] in
theorem notice_aSnd_ne {frame : ASndFrame} {n : NodeId} (h : n ≠ frame.source) :
    (PowerlinkFrame.aSnd frame).notice n = none :=
  if_neg (fun heq => h heq.1.symm)

omit [ObjectDictionaryStorage σ] in
theorem notice_aSnd_other {frame : ASndFrame} (h : frame.serviceId ≠ .statusResponse) (n : NodeId) :
    (PowerlinkFrame.aSnd frame).notice n = none :=
  if_neg (fun heq => h heq.2)

theorem hears_handlePresFrame (c : MnContext σ) (pres : PResFrame) :
    Hears c (c.handlePresFrame pres) (.pRes pres) := by
  dsimp only [handlePresFrame]
  generalize hr : c.record _ = r
  have hrecord : KeepsFlags c r := by
    rw [← hr]
    exact fun _ => rfl
  refine KeepsFlags.then_hears (hrecord.trans (keepsFlags_of_boot (r.boot_queueRequest pres))) ?_
  generalize r.queueRequest pres = q
  split
  · rename_i hget
    exact hears_unknown (fun n hn => notice_pRes_ne hn) hget
  · rename_i info hget
    have hflag : Hears q (q.checkExceptionFlag pres info) (.pRes pres) := by
      refine Hears.then_keeps (q.hears_modify (fun n hn => notice_pRes_ne hn)
        (f := fun info => { info with enFlag := pres.flags.en }) ?_) (fun _ => rfl)
      intro info
      rw [PowerlinkFrame.notice, if_pos rfl]
      rfl
    exact hflag.then_keeps (touches_checkCommunication _ pres info).keepsFlags

theorem hears_handleStatusResponse (c : MnContext σ) {frame : ASndFrame}
    (hservice : frame.serviceId = .statusResponse) :
    Hears c (c.handleStatusResponse frame) (.aSnd frame) := by
  dsimp only [handleStatusResponse]
  split
  · rename_i hget
    exact hears_unknown (fun n hn => notice_aSnd_ne hn) hget
  · have hmodify : Hears c { c with
        nodeInfo := c.nodeInfo.modify frame.source
          (fun info => { info with eaFlag := info.enFlag }) } (.aSnd frame) := by
      refine c.hears_modify (fun n hn => notice_aSnd_ne hn) ?_
      intro info
      rw [PowerlinkFrame.notice, if_pos ⟨rfl, hservice⟩]
      rfl
    split
    · exact hmodify
    · exact hmodify.then_keeps (touches_updateCnState _ _ _).keepsFlags

theorem hears_handleAsndFrame (c : MnContext σ) (frame : ASndFrame) (t : ℕ) :
    Hears c (c.handleAsndFrame frame t) (.aSnd frame) := by
  unfold handleAsndFrame
  split
  · rename_i hservice
    refine (c.touches_handleIdentResponse frame t).keepsFlags.hears (notice_aSnd_other ?_)
    rw [hservice]
    exact fun h => nomatch h
  · rename_i hservice
    exact c.hears_handleStatusResponse hservice
  · rename_i hservice
    exact (KeepsFlags.refl c).hears (notice_aSnd_other hservice)

theorem hears_processAsnd (c : MnContext σ) (frame : ASndFrame) (t : ℕ) :
    Hears c (c.processAsnd frame t) (.aSnd frame) := by
  dsimp only [processAsnd]
  split_ifs
  · exact hears_handleAsndFrame { c.count 4 with pendingTimeoutEvent := none } frame t
  · exact (c.count 4).hears_handleAsndFrame frame t

theorem hears_processPres {c d : MnContext σ} {pres : PResFrame} {t : ℕ}
    (h : c.processPres pres t = some d) : Hears c d (.pRes pres) := by
  dsimp only [processPres] at h
  have htracked : KeepsFlags c ((c.count 2).trackPres pres t) :=
    ((c.count 2).touches_trackPres pres t).keepsFlags
  refine htracked.then_hears ?_
  split_ifs at h
  · obtain ⟨r, -, h⟩ := Option.bind_eq_some_iff.mp h
    obtain ⟨⟨action, e⟩, hadvance, h⟩ := Option.bind_eq_some_iff.mp h
    obtain rfl := Option.some.inj h
    obtain ⟨-, hboot, -⟩ := advanceCyclePhase_spec hadvance
    refine Hears.then_keeps ?_ (keepsFlags_of_boot hboot)
    exact hears_handlePresFrame _ pres
  · obtain rfl := Option.some.inj h
    exact hears_handlePresFrame _ pres

theorem hears_processFrame {c d : MnContext σ} {frame : PowerlinkFrame} {t : ℕ}
    (hnmt : frame.nmtEvent = none) (h : c.processFrame frame t = some d) : Hears c d frame := by
  dsimp only [processFrame] at h
  rw [hnmt] at h
  dsimp only at h
  refine (c.keepsFlags_handleDllEvent (dllMnEvent frame) frame).then_hears ?_
  generalize c.handleDllEvent (dllMnEvent frame) frame = f at h ⊢
  split at h
  · exact hears_processPres h
  · obtain rfl := Option.some.inj h
    exact f.hears_processAsnd _ t
  · rename_i hpres hasnd
    obtain rfl := Option.some.inj h
    refine (KeepsFlags.refl f).hears ?_
    intro n
    cases frame with
    | pRes pres => exact absurd rfl (hpres pres)
    | aSnd asnd => exact absurd rfl (hasnd asnd)
    | _ => rfl

theorem hears_processPowerlinkFrame {c d : MnContext σ} {frame : PowerlinkFrame} {t : ℕ}
    {action : NodeAction} (h : c.processPowerlinkFrame frame t = some (action, d)) :
    Hears c d frame := by
  unfold processPowerlinkFrame at h
  split at h
  · obtain ⟨e, hframe, heq⟩ := Option.map_eq_some_iff.mp h
    rw [← (Prod.mk.inj heq).2]
    exact hears_processFrame rfl hframe
  · rename_i frame
    have hsdo : frame.serviceId = .sdo → ∀ n, (PowerlinkFrame.aSnd frame).notice n = none := by
      intro hservice
      apply notice_aSnd_other
      rw [hservice]
      exact fun heq => nomatch heq
    unfold processAsndFrame at h
    split_ifs at h with hclient hserver
    · obtain ⟨e, hresponse, heq⟩ := Option.map_eq_some_iff.mp h
      rw [← (Prod.mk.inj heq).2]
      exact (keepsFlags_of_boot (still_processSdoResponse hresponse).boot).hears (hsdo hclient.1)
    · obtain ⟨hstill, -⟩ := still_handleSdoServerRequest (Option.some.inj h)
      exact (keepsFlags_of_boot hstill.boot).hears (hsdo hserver.1)
    · obtain ⟨e, hframe, heq⟩ := Option.map_eq_some_iff.mp h
      rw [← (Prod.mk.inj heq).2]
      exact hears_processFrame rfl hframe
  · rename_i hpres hasnd
    rw [← (Prod.mk.inj (Option.some.inj h)).2]
    refine (KeepsFlags.refl c).hears ?_
    intro n
    cases frame with
    | pRes pres => exact absurd rfl (hpres pres)
    | aSnd asnd => exact absurd rfl (hasnd asnd)
    | _ => rfl

/-! ### One call -/

end MnContext

/-- What the frame that a call receives tells of the errors of a node. -/
def CycleInput.told (input : CycleInput) (nodeId : NodeId) : Option (Notices.Message ErrorEntry) :=
  input.frame.bind (fun frame => frame.notice nodeId)

/-- The EtherType is in network order. -/
theorem etherType_bytes {t₀ t₁ : UInt8}
    (h : (t₀.toUInt16 <<< 8) ||| t₁.toUInt16 = cDllEthertypeEpl) :
    [t₀, t₁] = [(cDllEthertypeEpl >>> 8).toUInt8, cDllEthertypeEpl.toUInt8] := by
  have hlt₀ := t₀.toNat_lt
  have hlt₁ := t₁.toNat_lt
  have hshift : (t₀.toNat <<< 8) % 2 ^ 16 = t₀.toNat <<< 8 := by
    rw [Nat.shiftLeft_eq]
    omega
  have hsum : t₀.toNat <<< 8 + t₁.toNat = 0x88AB := by
    have hnat := congrArg UInt16.toNat h
    simp only [UInt16.toNat_or, UInt16.toNat_shiftLeft, UInt8.toNat_toUInt16] at hnat
    change (t₀.toNat <<< 8) % 2 ^ 16 ||| t₁.toNat = 0x88AB at hnat
    rwa [hshift, ← Nat.shiftLeft_add_eq_or_of_lt hlt₁] at hnat
  rw [Nat.shiftLeft_eq] at hsum
  have hhigh : t₀ = 0x88 := UInt8.toNat_inj.mp (show t₀.toNat = 0x88 by omega)
  have hlow : t₁ = 0xAB := UInt8.toNat_inj.mp (show t₁.toNat = 0xAB by omega)
  rw [hhigh, hlow]
  decide

/-- A frame that can be decoded passes the EtherType check of `run_cycle`. -/
theorem isPowerlinkBuffer_of_ok {bytes : List UInt8} {frame : PowerlinkFrame}
    (h : deserializeFrame bytes = .ok frame) : MnContext.isPowerlinkBuffer bytes = true := by
  unfold deserializeFrame at h
  obtain ⟨⟨header, rest⟩, hheader, h⟩ := bind_eq_ok_iff.mp h
  dsimp only at h
  split_ifs at h with hpowerlink
  have htype : header.isPowerlink = true := by simpa using hpowerlink
  unfold deserializeEthHeader at hheader
  split at hheader
  · obtain ⟨rfl, rfl⟩ := Prod.mk.inj (Except.ok.inj hheader)
    have hoctets := etherType_bytes (of_decide_eq_true htype)
    unfold MnContext.isPowerlinkBuffer
    rw [Bool.and_eq_true_iff]
    refine ⟨decide_eq_true ?_, decide_eq_true hoctets⟩
    simp only [List.length_cons]
    omega
  · cases hheader
/-- What a delivered frame tells. -/
theorem told_delivered (bytes : List UInt8) (udpDatagram : Option (List UInt8 × IpAddress × UInt16))
    (timeUs : ℕ) (nodeId : NodeId) :
    CycleInput.told ⟨some bytes, udpDatagram, timeUs⟩ nodeId = notice nodeId bytes := by
  unfold CycleInput.told CycleInput.frame
  dsimp only
  cases hframe : deserializeFrame bytes with
  | error e =>
      rw [notice_of_error hframe]
      split_ifs
      · rfl
      · rfl
  | ok frame =>
      rw [notice_of_ok hframe, if_pos (isPowerlinkBuffer_of_ok hframe)]
      rfl

namespace MnContext

variable {σ : Type} [ObjectDictionaryStorage σ]

/-- A received frame is heard in every state but `NmtGsResetCommunication`. -/
theorem flags_receiveEthernet {c d : MnContext σ} {input : CycleInput} {action : NodeAction}
    (h : c.receiveEthernet input = some (action, d)) (hknown : c.Known) (n : NodeId) :
    d.nodeInfo.flags n = (c.nodeInfo.flags n).map (heard (input.told n)) := by
  have hstate : c.nmtState ≠ .nmtGsResetCommunication := by
    intro heq
    unfold Known at hknown
    rw [heq] at hknown
    revert hknown
    decide
  have hsilent : input.frame = none → ∀ {e : MnContext σ}, KeepsFlags c e →
      e.nodeInfo.flags n = (c.nodeInfo.flags n).map (heard (input.told n)) := by
    intro hnone e he
    unfold CycleInput.told
    rw [hnone, Option.bind_none, NodeTable.map_heard_none]
    exact he n
  unfold receiveEthernet processEthernetFrame at h
  split at h
  · rename_i hbuffer
    rw [← (Prod.mk.inj (Option.some.inj h)).2]
    refine hsilent ?_ (KeepsFlags.refl c)
    unfold CycleInput.frame
    rw [hbuffer]
  · rename_i buffer hbuffer
    have hframe : ∀ {r}, isPowerlinkBuffer buffer = true → deserializeFrame buffer = r →
        input.frame = r.toOption := by
      rintro r hpowerlink rfl
      unfold CycleInput.frame
      rw [hbuffer]
      exact if_pos hpowerlink
    split_ifs at h with hpowerlink
    · split at h
      · rename_i frame hok
        have htold : input.told n = frame.notice n := by
          unfold CycleInput.told
          rw [hframe hpowerlink hok]
          rfl
        rw [htold]
        exact hears_processPowerlinkFrame h n
      · rename_i e herror
        rw [← (Prod.mk.inj (Option.some.inj h)).2]
        exact hsilent (hframe hpowerlink herror) (KeepsFlags.refl c)
    · rw [← (Prod.mk.inj (Option.some.inj h)).2]
      refine hsilent ?_ (KeepsFlags.refl c)
      unfold CycleInput.frame
      rw [hbuffer]
      exact if_neg hpowerlink

theorem flags_runCycle {c d : MnContext σ} {input : CycleInput} {action : NodeAction}
    (h : c.runCycle input = some (action, d)) (hqueue : c.QueueOk) (hknown : c.Known) (n : NodeId) :
    d.nodeInfo.flags n = (c.nodeInfo.flags n).map (heard (input.told n)) := by
  obtain ⟨⟨a, r⟩, hethernet, h⟩ := Option.bind_eq_some_iff.mp h
  obtain ⟨-, -, hq⟩ := receiveEthernet_spec hethernet hqueue
  obtain ⟨hstill, -⟩ := still_receiveUdp (Prod.mk.eta (p := r.receiveUdp input)).symm
  have hudp := keepsFlags_of_boot hstill.boot
  rw [← flags_receiveEthernet hethernet hknown n]
  dsimp only at h
  split_ifs at h
  · rw [← (Prod.mk.inj (Option.some.inj h)).2]
  · rw [← (Prod.mk.inj (Option.some.inj h)).2]
    exact hudp n
  · obtain ⟨-, hticked, -⟩ := handleTick_spec h (hstill.queue hq)
    exact (hudp.trans hticked.keepsFlags) n

end MnContext

/-- What the frame of a call tells. -/
def MnCall.told (call : MnCall) (nodeId : NodeId) : Option (Notices.Message ErrorEntry) :=
  match call with
  | runCycle input => input.told nodeId
  | _ => none

namespace MnContext

variable {σ : Type} [ObjectDictionaryStorage σ]

/-- What is needed to hear a frame. -/
structure Listening (c : MnContext σ) : Prop where
  queue : c.QueueOk
  known : c.Known

/-- A call makes of the flags what the notice of its frame says, and goes on listening. -/
theorem flags_call {c d : MnContext σ} {call : MnCall} {action : NodeAction}
    (h : c.call call = some (action, d)) (hc : c.Listening) :
    d.Listening ∧
      ∀ n, d.nodeInfo.flags n = (c.nodeInfo.flags n).map (heard (call.told n)) := by
  have hmethod : ∀ {e : MnContext σ}, e.bootView = c.bootView →
      e.mnAsyncSendQueue = c.mnAsyncSendQueue →
      e.Listening ∧ ∀ n, e.nodeInfo.flags n = (c.nodeInfo.flags n).map (heard none) := by
    intro e hboot hframes
    have hmachine : e.nmtStateMachine = c.nmtStateMachine := congrArg BootView.machine hboot
    refine ⟨⟨?_, (stays_of_machine hmachine).known hc.known⟩, ?_⟩
    · unfold QueueOk
      rw [hframes]
      exact hc.queue
    · intro n
      rw [NodeTable.map_heard_none]
      exact keepsFlags_of_boot hboot n
  cases call with
  | runCycle input =>
      refine ⟨⟨(runCycle_spec h hc.queue).1, (stays_runCycle h).known hc.known⟩, ?_⟩
      exact flags_runCycle h hc.queue hc.known
  | setHostname target hostname =>
      obtain ⟨-, rfl⟩ := Prod.mk.inj (Option.some.inj h)
      unfold setHostname
      split_ifs
      · exact hmethod rfl rfl
      · exact hmethod rfl rfl
      · exact hmethod rfl rfl
  | queueNmtStateCommand | flushArpEntry | readObject | writeObject =>
      obtain ⟨-, rfl⟩ := Prod.mk.inj (Option.some.inj h)
      exact hmethod rfl rfl

/-- A new node listens, and it has no notice of any node. -/
theorem listening_new {od : ObjectDictionary σ} {mac : MacAddress}
    {cfg : Option ConfigurationInterface} {c : MnContext σ}
    (h : ManagingNode.new od mac cfg = .ok c) :
    c.Listening ∧ ∀ n flags, c.nodeInfo.flags n = some flags → flags = (false, false) := by
  obtain ⟨od', machine, cycleTimeUs, lists, publish, hstate, hfresh, rfl⟩ := ManagingNode.new_eq h
  refine ⟨⟨?_, ?_⟩, ?_⟩
  · exact fun frame hmem => nomatch hmem
  · exact .inl (NmtState.isApart_iff.mpr (.inl hstate))
  · intro n flags hflags
    obtain ⟨info, hget, rfl⟩ := Option.map_eq_some_iff.mp hflags
    rw [hfresh n info hget]

end MnContext

end Powerlink
