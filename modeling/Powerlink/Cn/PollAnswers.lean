import Powerlink.Cn.Node
import Powerlink.Cn.Signals
import Powerlink.Node.PdoPanics

/-! # The answer to a poll

A controlled node in `NmtPreOperational2`, `NmtReadyToOperate` or `NmtOperational` builds a PRes for
each PReq that is addressed to it.  A TPDO payload has at most 1490 octets, but the zeros that take
the place of a payload that cannot be built are as many as `0x1F98/5` says, and from 1495 octets on
the PRes does not fit into the buffer of the serializer: the node stays silent.
`poll_answered_iff` says exactly when a poll is answered; the other way to fail are the panics of
`Powerlink.Node.PdoPanics`.

The condition on the mapping is about the dictionary in which the answer is built (`polled`), since
the process data of the poll itself can write to it. -/

namespace Powerlink

open Collect

variable {σ : Type}

namespace CnContext

/-! ### The payload of the answer -/

/-- Every entry of the mapping can be packed into the PRes. -/
def TpdoPacks (od : ObjectDictionary σ) : Prop :=
  ∀ entry ∈ tpdoEntries od ((od.readU8 0x1A00 0).getD 0),
    CanPack od (min (presPayloadLimit od) 1490) entry

/-- The mapping comes to an entry that overruns the PRes. -/
def TpdoOverruns (od : ObjectDictionary σ) : Prop :=
  ComesTo (CanPack od (min (presPayloadLimit od) 1490))
    (Overruns (min (presPayloadLimit od) 1490)) (tpdoEntries od ((od.readU8 0x1A00 0).getD 0))

/-- The TPDO payload can be built. -/
def CanBuildTpdo (core : CoreNodeContext σ) : Prop :=
  ∃ payload core', buildTpdoPayload core = some (.ok payload, core')

/-- The payload is built, or the mapping is refused, or the node panics. -/
theorem buildTpdoPayload_cases (core : CoreNodeContext σ) :
    (TpdoPacks core.od ∧ ∃ payload version core',
        buildTpdoPayload core = some (.ok (payload, version), core') ∧ payload.length ≤ 1490) ∨
      (¬TpdoPacks core.od ∧ ¬TpdoOverruns core.od ∧ ∃ e core',
        buildTpdoPayload core = some (.error e, core') ∧ core'.od = core.od) ∨
      (¬TpdoPacks core.od ∧ TpdoOverruns core.od ∧ buildTpdoPayload core = none) := by
  have hcases := applyTpdoMapping_cases (tpdoEntries core.od ((core.od.readU8 0x1A00 0).getD 0))
    core (List.replicate (min (presPayloadLimit core.od) 1490) 0)
  rw [List.length_replicate] at hcases
  unfold buildTpdoPayload
  dsimp only
  rcases hcases with ⟨hpacks, -, payload, core', hmapping, hlength, -⟩ |
    ⟨hpacks, hoverruns, e, core', hmapping, hod⟩ | ⟨hpacks, hoverruns, hmapping⟩
  · rw [hmapping]
    refine .inl ⟨hpacks, payload, _, core', rfl, ?_⟩
    rw [hlength]
    exact Nat.min_le_right _ _
  · rw [hmapping]
    exact .inr (.inl ⟨hpacks, hoverruns, e, core', rfl, hod⟩)
  · rw [hmapping]
    exact .inr (.inr ⟨hpacks, hoverruns, rfl⟩)

/-! ### The PRes on the wire -/

theorem length_bytes_pRes (f : PResFrame) :
    (PowerlinkFrame.pRes f).bytes.length = 10 + f.payload.length := by
  simp only [PowerlinkFrame.bytes, PResFrame.bytes, List.length_append, List.length_cons,
    List.length_nil, LittleEndian.length_u16Bytes]

/-- A PRes that fits is sent, and it is read back. -/
theorem respond_pRes (mac : MacAddress) (nodeId : NodeId) (nmtState : NmtState) (flags : PResFlags)
    (version : PDOVersion) (payload : List UInt8) (hrs : flags.rs.value.toNat < 8)
    (hfits : payload.length ≤ 1494) :
    ∃ bytes, respond (.pRes (.new mac nodeId nmtState flags version payload)) = .sendFrame bytes ∧
      deserializeFrame bytes =
        .ok (.pRes (.new mac nodeId nmtState flags version payload)) := by
  have hlen : (PowerlinkFrame.pRes (.new mac nodeId nmtState flags version payload)).bytes.length ≤
      1504 := by
    rw [length_bytes_pRes]
    change 10 + payload.length ≤ 1504
    omega
  have hsize : (UInt16.ofNat payload.length).toNat = payload.length := by
    rw [UInt16.toNat_ofNat', Nat.mod_eq_of_lt (by omega)]
  have hexact : (PowerlinkFrame.pRes (.new mac nodeId nmtState flags version payload)).Exact :=
    ⟨rfl, hsize, rfl, hrs⟩
  refine ⟨_, ?_, deserializeFrame_padPayload hexact⟩
  rw [respond, serializeFrameAction_eq rfl hlen]

/-- A PRes that does not fit is dropped. -/
theorem respond_pRes_of_long {f : PResFrame} (h : 1494 < f.payload.length) :
    respond (.pRes f) = .noAction := by
  have hlong : 1504 < (padPayload (PowerlinkFrame.pRes f).bytes).length := by
    rw [padPayload, List.length_append, length_bytes_pRes]
    omega
  have hsent : serializeFrameAction true (.pRes f) = .error .bufferTooShort := by
    unfold serializeFrameAction PowerlinkFrame.serialize
    rw [if_neg (show ¬PowerlinkFrame.isRefused true (.pRes f) = true from Bool.false_ne_true),
      if_pos hlong]
    rfl
  rw [respond, hsent]

/-- The action is a PRes of the node in its NMT state, with RD as told. -/
def IsPRes (c : CnContext σ) (ready : Prop) (action : NodeAction) : Prop :=
  ∃ bytes pres, action = .sendFrame bytes ∧ deserializeFrame bytes = .ok (.pRes pres) ∧
    pres.source = c.nodeId ∧ pres.nmtState = c.nmtState ∧ (pres.flags.rd = true ↔ ready)

/-- The PRes is sent where the mapping can be packed, or where it is refused and the zeros fit. -/
theorem buildPresResponse_isPRes_iff (c : CnContext σ) :
    (∃ frame d, c.buildPresResponse = some (frame, d) ∧
        c.IsPRes (c.nmtState = .nmtOperational ∧ CanBuildTpdo c.core) (respond frame)) ↔
      TpdoPacks c.core.od ∨ ¬TpdoOverruns c.core.od ∧ presPayloadLimit c.core.od ≤ 1494 := by
  unfold buildPresResponse CanBuildTpdo
  rcases buildTpdoPayload_cases c.core with ⟨hpacks, payload, version, core, hbuild, hlength⟩ |
    ⟨hpacks, hoverruns, e, core, hbuild, hod⟩ | ⟨hpacks, hoverruns, hbuild⟩
  · rw [hbuild]
    refine iff_of_true ⟨_, _, rfl, ?_⟩ (.inl hpacks)
    obtain ⟨bytes, hsent, hread⟩ := respond_pRes core.macAddress c.nodeId c.nmtState
      ⟨false, c.enFlag, decide (c.nmtState = .nmtOperational) && true, c.requestFlags.2,
        .new c.requestFlags.1⟩ version payload (RSFlag.new_lt c.requestFlags.1)
      (Nat.le_trans hlength (by decide))
    refine ⟨bytes, _, hsent, hread, rfl, rfl, ?_⟩
    change (decide (c.nmtState = .nmtOperational) && true) = true ↔ _
    rw [Bool.and_true, decide_eq_true_iff]
    exact ⟨fun h => ⟨h, _, _, rfl⟩, And.left⟩
  · rw [hbuild]
    have hlimit : presPayloadLimit core.od = presPayloadLimit c.core.od := by rw [hod]
    by_cases hfits : presPayloadLimit c.core.od ≤ 1494
    · refine iff_of_true ⟨_, _, rfl, ?_⟩ (.inr ⟨hoverruns, hfits⟩)
      obtain ⟨bytes, hsent, hread⟩ := respond_pRes core.macAddress c.nodeId c.nmtState
        ⟨false, c.enFlag, decide (c.nmtState = .nmtOperational) && false, c.requestFlags.2,
          .new c.requestFlags.1⟩ ⟨0⟩ (List.replicate (presPayloadLimit core.od) 0)
        (RSFlag.new_lt c.requestFlags.1) (by rwa [List.length_replicate, hlimit])
      refine ⟨bytes, _, hsent, hread, rfl, rfl, ?_⟩
      change (decide (c.nmtState = .nmtOperational) && false) = true ↔ _
      rw [Bool.and_false]
      refine iff_of_false Bool.false_ne_true ?_
      rintro ⟨-, payload, core', h⟩
      cases h
    · refine iff_of_false ?_ ?_
      · rintro ⟨frame, d, h, bytes, pres, hsent, -⟩
        obtain ⟨rfl, -⟩ := Prod.mk.inj (Option.some.inj h)
        rw [respond_pRes_of_long] at hsent
        · cases hsent
        · change 1494 < (List.replicate (presPayloadLimit core.od) (0 : UInt8)).length
          rw [List.length_replicate, hlimit]
          omega
      · rintro (h | ⟨-, h⟩)
        · exact hpacks h
        · exact hfits h
  · rw [hbuild]
    refine iff_of_false ?_ ?_
    · rintro ⟨frame, d, h, -⟩
      cases h
    · rintro (h | ⟨h, -⟩)
      · exact hpacks h
      · exact h hoverruns

variable [ObjectDictionaryStorage σ]

/-! ### A poll -/

/-- The context when the errors of the data link layer are handled; `true` where one of them resets
the communication. -/
def pollErrors (c : CnContext σ) (preq : PReqFrame) (timeUs : ℕ) : Bool × CnContext σ :=
  let c := c.receiveFrame (.pReq preq) timeUs
  let r := c.dllStateMachine.processEvent .preq c.nmtState
  handleDllErrors { c with dllStateMachine := r.2 } r.1 timeUs

/-- The context in which the answer is built. -/
def polled (c : CnContext σ) (preq : PReqFrame) (timeUs : ℕ) : Option (CnContext σ) :=
  ((c.pollErrors preq timeUs).2.receivePdo (.pReq preq)).map
    fun c => c.toggleExceptionFlag.count 3

/-- The node answers a poll with a PRes in its NMT state; RD is set exactly if the node is
operational and the TPDO payload can be built. -/
def AnswersPoll (c : CnContext σ) (preq : PReqFrame) (timeUs : ℕ) : Prop :=
  ∃ e action d, c.polled preq timeUs = some e ∧
    c.processFrame (.pReq preq) timeUs = some (action, d) ∧
    c.IsPRes (c.nmtState = .nmtOperational ∧ CanBuildTpdo e.core) action

/-- The process data of the poll comes to an abort that a client channel accepts and that is too
short. -/
def GetsShortAbort (core : CoreNodeContext σ) (preq : PReqFrame) : Prop :=
  preq.flags.rd = true ∧ ∃ i numEntries, findRpdoChannel core.od preq.source = some i ∧
    versionOk ((core.od.readU8 (0x1400 + UInt16.ofNat i) 2).getD 0) preq.pdoVersion.version =
      true ∧
    core.od.read (0x1600 + UInt16.ofNat i) 0 = some (.unsigned8 numEntries) ∧
    ComesTo (fun entry => ¬Fails core.od preq.payload entry)
      (GivesShortAbort core.embeddedSdoClient preq.payload)
      (mappingEntries core.od (0x1600 + UInt16.ofNat i) numEntries)

theorem polled_eq_none_iff {c : CnContext σ} {preq : PReqFrame} {timeUs : ℕ}
    (hdestination : preq.destination = (c.pollErrors preq timeUs).2.nodeId) :
    c.polled preq timeUs = none ↔ GetsShortAbort (c.pollErrors preq timeUs).2.core preq := by
  have hconsume := consumePdoPayload_eq_none_iff ((c.pollErrors preq timeUs).2.core, {})
    preq.source preq.payload preq.pdoVersion preq.flags.rd
  unfold polled receivePdo consumePdo GetsShortAbort
  dsimp only
  rw [if_pos hdestination, Option.map_eq_none_iff, Option.bind_eq_bind, Option.bind_eq_none_iff,
    ← hconsume]
  constructor
  · intro h
    refine Option.eq_none_iff_forall_ne_some.mpr fun r hr => ?_
    cases h r hr
  · rintro h r hr
    rw [h] at hr
    cases hr

/-- A poll touches neither the node id nor the NMT state, unless it resets the communication. -/
theorem pollErrors_machine {c : CnContext σ} {preq : PReqFrame} {timeUs : ℕ}
    (hreset : (c.pollErrors preq timeUs).1 = false) :
    (c.pollErrors preq timeUs).2.nmtStateMachine = c.nmtStateMachine := by
  have hcycle : ∀ error ∈ ((c.receiveFrame (.pReq preq) timeUs).dllStateMachine.processEvent .preq
      (c.receiveFrame (.pReq preq) timeUs).nmtState).1, error.isCycleError = true :=
    fun error hmem => DllCsStateMachine.isCycleError_of_mem hmem
  rcases signals_handleDllErrors hcycle (Prod.mk.eta (p := c.pollErrors preq timeUs)).symm with
    ⟨-, hsignals⟩ | ⟨hstop, -⟩
  · exact congrArg SignalView.machine hsignals
  · rw [hreset] at hstop
    cases hstop

theorem polled_machine {c e : CnContext σ} {preq : PReqFrame} {timeUs : ℕ}
    (h : c.polled preq timeUs = some e) :
    e.nmtStateMachine = (c.pollErrors preq timeUs).2.nmtStateMachine := by
  obtain ⟨d, hd, rfl⟩ := Option.map_eq_some_iff.mp h
  have htoggle := congrArg SignalView.machine d.signals_toggleExceptionFlag
  have hconsume := congrArg SignalView.machine (signals_receivePdo hd)
  have hkeeps : d.signals.toggled.machine = d.signals.machine := by
    unfold SignalView.toggled
    split_ifs
    · rfl
    · rfl
  exact htoggle.trans (hkeeps.trans hconsume)

/-- The answer is built in `polled`. -/
theorem processFrame_preq {c : CnContext σ} {preq : PReqFrame} {timeUs : ℕ}
    (hdestination : preq.destination = c.nodeId) (hstate : answersPreq c.nmtState = true)
    (hreset : (c.pollErrors preq timeUs).1 = false) :
    c.processFrame (.pReq preq) timeUs = (c.polled preq timeUs).bind fun e =>
      e.buildPresResponse.map fun r => (respond r.1, r.2) := by
  have hactive : ∀ state, answersPreq state = true → NmtState.nmtNotActive ≤ state := by
    intro state
    cases state <;> decide
  have haccepted : c.processFrame (.pReq preq) timeUs =
      (c.pollErrors preq timeUs).2.respondFrame (.pReq preq) := by
    have hcut : c.pollErrors preq timeUs = (false, (c.pollErrors preq timeUs).2) :=
      Prod.ext hreset rfl
    unfold processFrame processAccepted
    unfold pollErrors at hcut ⊢
    dsimp only [dllCnEvent] at hcut ⊢
    rw [hcut]
  rw [haccepted, respondFrame, Option.bind_eq_bind, polled]
  cases hconsume : (c.pollErrors preq timeUs).2.receivePdo (.pReq preq) with
  | none => rfl
  | some d =>
      have hpolled : c.polled preq timeUs = some (d.toggleExceptionFlag.count 3) := by
        rw [polled, hconsume, Option.map_some]
      have hmachine : d.toggleExceptionFlag.nmtStateMachine = c.nmtStateMachine :=
        (polled_machine hpolled).trans (pollErrors_machine hreset)
      have hnode : d.toggleExceptionFlag.nodeId = c.nodeId :=
        congrArg CnNmtStateMachine.nodeId hmachine
      have hnmt : d.toggleExceptionFlag.nmtState = c.nmtState :=
        congrArg CnNmtStateMachine.currentState hmachine
      rw [Option.bind_some, Option.map_some, Option.bind_some, answer]
      dsimp only
      rw [hnode, hnmt, if_pos (hactive _ hstate), if_pos ⟨hdestination, hstate⟩]
      cases (d.toggleExceptionFlag.count 3).buildPresResponse with
      | none => rfl
      | some r => rfl

/-- A poll without a reset is answered exactly if no container of its process data holds a short
abort, and the TPDO payload can be built, or it is refused without a panic and as many zeros as
`0x1F98/5` says fit into a frame. -/
theorem poll_answered_iff {c : CnContext σ} {preq : PReqFrame} {timeUs : ℕ}
    (hdestination : preq.destination = c.nodeId) (hstate : answersPreq c.nmtState = true)
    (hreset : (c.pollErrors preq timeUs).1 = false) :
    c.AnswersPoll preq timeUs ↔
      ¬GetsShortAbort (c.pollErrors preq timeUs).2.core preq ∧
        ∀ e, c.polled preq timeUs = some e → TpdoPacks e.core.od ∨
          ¬TpdoOverruns e.core.od ∧ presPayloadLimit e.core.od ≤ 1494 := by
  have hmachine := pollErrors_machine hreset
  have hnode : (c.pollErrors preq timeUs).2.nodeId = c.nodeId :=
    congrArg CnNmtStateMachine.nodeId hmachine
  rw [← polled_eq_none_iff (hdestination.trans hnode.symm), AnswersPoll,
    processFrame_preq hdestination hstate hreset]
  cases hpolled : c.polled preq timeUs with
  | none =>
      refine iff_of_false ?_ fun h => h.1 rfl
      rintro ⟨e, action, d, he, -⟩
      cases he
  | some e =>
      have hsame := (polled_machine hpolled).trans hmachine
      have hnode' : e.nodeId = c.nodeId := congrArg CnNmtStateMachine.nodeId hsame
      have hnmt : e.nmtState = c.nmtState := congrArg CnNmtStateMachine.currentState hsame
      have hpres : ∀ ready action, c.IsPRes ready action ↔ e.IsPRes ready action := by
        intro ready action
        unfold IsPRes
        rw [hnode', hnmt]
      have hanswer := e.buildPresResponse_isPRes_iff
      rw [hnmt] at hanswer
      simp only [Option.some.injEq, forall_eq', reduceCtorEq, not_false_eq_true, true_and,
        ← hanswer, Option.bind_some, Option.map_eq_some_iff]
      constructor
      · rintro ⟨_, action, d, rfl, ⟨⟨frame, d'⟩, hbuild, hr⟩, his⟩
        obtain ⟨rfl, rfl⟩ := Prod.mk.inj hr
        exact ⟨frame, d', hbuild, (hpres _ _).mp his⟩
      · rintro ⟨frame, d, hbuild, his⟩
        exact ⟨e, respond frame, d, rfl, ⟨⟨frame, d⟩, hbuild, rfl⟩, (hpres _ _).mpr his⟩

/-! ### A silent node -/

/-- A node with a value for the size of its PRes payload, whose mapping puts the octet of `0x6000`
into a word. -/
def polledNode (limit : UInt16) : CnContext Empty :=
  .initial
    (((ObjectDictionary.new none).insert 0x1F98
      ⟨.record (List.replicate 4 (.unsigned16 0) ++ [.unsigned16 limit]), "NMT_CycleTiming_REC",
        none, none⟩).insert 0x1A00
      ⟨.array [.unsigned64 0x0010000000006000], "PDO_TxMappParam_00h_AU64", none, none⟩ |>.insert
        0x6000 ⟨.variable (.unsigned8 7), "Digital Input", none, none⟩)
    ⟨2, 0, 0, 0, 0, 1⟩ ⟨.nmtPreOperational2, ⟨1⟩, 0, 0⟩ .empty

/-- The poll of the managing node, without process data. -/
def emptyPoll : PReqFrame :=
  .new ⟨0, 0, 0, 0, 0, 240⟩ ⟨2, 0, 0, 0, 0, 1⟩ ⟨1⟩ ⟨false, false, false⟩ ⟨0⟩ []

theorem poll_of_36_octets :
    emptyPoll.destination = (polledNode 36).nodeId ∧
      answersPreq (polledNode 36).nmtState = true ∧
      ((polledNode 36).pollErrors emptyPoll 0).1 = false ∧
      ((polledNode 36).AnswersPoll emptyPoll 0 ↔
        ¬GetsShortAbort ((polledNode 36).pollErrors emptyPoll 0).2.core emptyPoll ∧
          ∀ e, (polledNode 36).polled emptyPoll 0 = some e → TpdoPacks e.core.od ∨
            ¬TpdoOverruns e.core.od ∧ presPayloadLimit e.core.od ≤ 1494) :=
  ⟨rfl, rfl, by decide +kernel, poll_answered_iff rfl rfl (by decide +kernel)⟩

/-- From a payload of 1495 octets on the mapping that is refused leaves the poll unanswered. -/
theorem large_zero_payload_is_silent :
    ¬∀ (c : CnContext Empty) (preq : PReqFrame) (timeUs : ℕ), preq.destination = c.nodeId →
      answersPreq c.nmtState = true → (c.pollErrors preq timeUs).1 = false →
        c.AnswersPoll preq timeUs := by
  intro h
  obtain ⟨-, action, d, -, hframe, bytes, -, hsent, -⟩ :=
    h (polledNode 1495) emptyPoll 0 rfl rfl (by decide +kernel)
  have hsilent : ((polledNode 1495).processFrame (.pReq emptyPoll) 0).map Prod.fst =
      some .noAction := by
    decide +kernel
  rw [hframe, hsent] at hsilent
  cases hsilent

end CnContext

end Powerlink
