import Powerlink.Cn.Answers
import Powerlink.Mn.Evidence
import Powerlink.Mn.Origins
import Powerlink.Node.StartNodes

/-! # What a managing node tells the controlled nodes

Every frame that a managing node sends is a frame without an answer (it reports no state and
identifies nobody), and NMT commands come from two places: the last entry of
`pending_nmt_commands` in the own slot, and the broadcast of an operational managing node.
`runCycle_emits` says so for every call.

`sendsAsMn_throughout`: in every run of calls there is a reason for each NMT state command that is
sent.  The application wants it, or the managing node is operational and starts a node, enables one
that has identified itself or resets one that was lost. -/

namespace Powerlink

namespace PowerlinkFrame

/-- The frame answers nothing: it is no PRes, and no IdentResponse or StatusResponse with data. -/
def NoAnswer : PowerlinkFrame → Prop
  | pRes _ => False
  | aSnd frame =>
      frame.payload = [] ∨ frame.serviceId ≠ .identResponse ∧ frame.serviceId ≠ .statusResponse
  | _ => True

/-- The frame is no NMT command. -/
def NoCommand : PowerlinkFrame → Prop
  | aSnd frame => frame.payload = [] ∨ frame.serviceId ≠ .nmtCommand
  | _ => True

/-- The Ethernet header of a frame. -/
def ethHeader : PowerlinkFrame → EthernetHeader
  | soc frame => frame.ethHeader
  | pReq frame => frame.ethHeader
  | pRes frame => frame.ethHeader
  | soA frame => frame.ethHeader
  | aSnd frame => frame.ethHeader

/-- Where a managing node with the cache sends a frame: to all nodes, or to the cached address of the
node that the frame names.  The frames of SDO transfers are left open. -/
inductive AddressedBy (cache : SortedMap IpAddress MacAddress) (frame : PowerlinkFrame) : Prop
  | broadcast (hdest : frame.destination = cAdrBroadcastNodeId)
      (hmac : frame.ethHeader.destinationMac ∈
        [cDllMulticastSoc, cDllMulticastSoa, cDllMulticastAsnd]) : AddressedBy cache frame
  | cached (hget : cache.get? (ipFromNodeId frame.destination) =
      some frame.ethHeader.destinationMac) : AddressedBy cache frame
  | sdo {asnd : ASndFrame} (hframe : frame = .aSnd asnd) (hservice : asnd.serviceId = .sdo) :
      AddressedBy cache frame

/-- A frame of the managing node: it names the managing node as its source, it can be read where it
fits, and it answers nothing. -/
structure FromMn (frame : PowerlinkFrame) : Prop where
  source_eq : frame.source = cAdrMnDefNodeId
  exact_of_fits : frame.bytes.length ≤ 1504 → frame.Exact
  noAnswer : frame.NoAnswer

/-- A frame of a managing node with the cache, without an NMT command. -/
structure PlainFor (cache : SortedMap IpAddress MacAddress) (frame : PowerlinkFrame) : Prop where
  fromMn : frame.FromMn
  noCommand : frame.NoCommand
  addressed : frame.AddressedBy cache

/-- A frame that needs no cached address. -/
theorem PlainFor.of_empty {frame : PowerlinkFrame} (h : frame.PlainFor .empty)
    (cache : SortedMap IpAddress MacAddress) : frame.PlainFor cache := by
  refine ⟨h.fromMn, h.noCommand, ?_⟩
  cases h.addressed with
  | broadcast hdest hmac => exact .broadcast hdest hmac
  | cached hget => cases hget
  | sdo hframe hservice => exact .sdo hframe hservice

/-- A frame that answers nothing reports nothing. -/
theorem NoAnswer.report {frame : PowerlinkFrame} (h : frame.NoAnswer) :
    frame.overWire.report = none := by
  cases frame with
  | aSnd asnd =>
      cases hreport : (overWire (.aSnd asnd)).report with
      | none => rfl
      | some r =>
          obtain ⟨nodeId, reported⟩ := r
          obtain ⟨hservice, -, payload, hpayload, -⟩ := report_aSnd hreport
          have hservice' : asnd.serviceId = .statusResponse := hservice
          obtain hnil | ⟨-, hne⟩ := h
          · change StatusResponsePayload.deserialize (receivedPayload asnd.payload) = _ at hpayload
            rw [hnil] at hpayload
            cases hpayload
          · exact absurd hservice' hne
  | pRes pres => cases h
  | _ => rfl

/-- It identifies nobody. -/
theorem NoAnswer.ident {frame : PowerlinkFrame} (h : frame.NoAnswer) {asnd : ASndFrame}
    (hframe : frame.overWire = .aSnd asnd) (hservice : asnd.serviceId = .identResponse)
    (payload : IdentResponsePayload) : IdentResponsePayload.deserialize asnd.payload ≠ .ok payload := by
  intro hpayload
  cases frame with
  | aSnd sent =>
      obtain rfl := PowerlinkFrame.aSnd.inj hframe
      have hservice' : sent.serviceId = .identResponse := hservice
      obtain hnil | ⟨hne, -⟩ := h
      · change IdentResponsePayload.deserialize (receivedPayload sent.payload) = _ at hpayload
        rw [hnil] at hpayload
        cases hpayload
      · exact hne hservice'
  | _ => cases hframe

end PowerlinkFrame

/-- The first octet is that of the payload that was sent. -/
theorem head?_of_receivedPayload {payload : List UInt8} {octet : UInt8}
    (h : (receivedPayload payload).head? = some octet) : payload.head? = some octet := by
  have htrim : trimPadding payload <+: payload :=
    ⟨payload.rtakeWhile (fun octet => decide (octet = 0)), List.rdropWhile_append_rtakeWhile⟩
  have hprefix : receivedPayload payload <+: payload := by
    unfold receivedPayload
    split_ifs
    · exact htrim
    · exact List.prefix_refl _
  obtain ⟨rest, hrest⟩ := hprefix
  rw [← hrest, List.head?_append, h]
  rfl

/-- The NMT state command that a node takes from a frame is in its first octet. -/
theorem PowerlinkFrame.payload_of_hands {asnd : ASndFrame} {nodeId : NodeId}
    {command : NmtStateCommand}
    (h : (overWire (.aSnd asnd)).Hands nodeId (CnContext.commandEvent command)) :
    asnd.destination = nodeId ∧ asnd.serviceId = .nmtCommand ∧
      asnd.payload.head? = some command.toByte := by
  generalize hevent : CnContext.commandEvent command = event at h
  cases h with
  | command _ command' hdest hservice hpayload =>
      have hsame : command' = command := by
        revert hevent
        cases command <;> cases command' <;> decide
      rw [hsame] at hpayload
      exact ⟨hdest, hservice, head?_of_receivedPayload hpayload⟩

/-- A frame without an NMT command hands over none. -/
theorem PowerlinkFrame.NoCommand.not_hands {frame : PowerlinkFrame} (h : frame.NoCommand)
    (nodeId : NodeId) (command : NmtStateCommand) :
    ¬frame.overWire.Hands nodeId (CnContext.commandEvent command) := by
  intro hhands
  cases frame with
  | aSnd asnd =>
      obtain ⟨-, hservice, hpayload⟩ := PowerlinkFrame.payload_of_hands hhands
      obtain hnil | hne := h
      · rw [hnil] at hpayload
        cases hpayload
      · exact hne hservice
  | _ =>
      generalize hevent : CnContext.commandEvent command = event at hhands
      cases hhands <;> cases command <;> cases hevent

/-- An event of the boot-up leaves the node id alone. -/
theorem MnNmtStateMachine.Moves.nodeId_eq {m m' : MnNmtStateMachine} (h : m.Moves m') :
    m'.nodeId = m.nodeId := by
  induction h with
  | refl => rfl
  | tail _ hstep ih =>
      obtain ⟨event, -, rfl⟩ := hstep
      exact ih

namespace MnContext

variable {σ : Type}

/-! ### The frames that are built -/

/-- A SoC is for all nodes. -/
theorem plain_soc (cache : SortedMap IpAddress MacAddress) (mac : MacAddress) (flags : SocFlags)
    (netTime : NetTime) (relativeTime : RelativeTime) :
    (PowerlinkFrame.soc (.new mac flags netTime relativeTime)).PlainFor cache :=
  ⟨⟨rfl, fun _ => ⟨rfl, trivial⟩, trivial⟩, trivial, .broadcast rfl List.mem_cons_self⟩

/-- A PReq goes to the cached address of the polled node. -/
theorem plain_buildPreqFrame (c : MnContext σ) (nodeId : NodeId) (isMultiplexed : Bool) :
    (c.buildPreqFrame nodeId isMultiplexed).1.PlainFor c.arpCache := by
  unfold buildPreqFrame
  split
  · exact plain_soc _ _ _ _ _
  · rename_i mac hmac
    dsimp only
    split
    · exact plain_soc _ _ _ _ _
    · rename_i payload version hpayload
      refine ⟨⟨rfl, fun _ => Constructed.exact (.pReq _ _ _ _ _ _ ?_), trivial⟩, trivial,
        .cached hmac⟩
      exact length_preqPayload hpayload

theorem arpCache_buildPreqFrame (c : MnContext σ) (nodeId : NodeId) (isMultiplexed : Bool) :
    (c.buildPreqFrame nodeId isMultiplexed).2.arpCache = c.arpCache := by
  unfold buildPreqFrame
  split
  · rfl
  · dsimp only
    split
    · rfl
    · rfl

/-- The frames of the other builders are exact and no PRes; only `build_nmt_command_frame` builds an
NMT command. -/
theorem aSnd_fromMn {asnd : ASndFrame} (service : ServiceId) (hsource : asnd.source = cAdrMnDefNodeId)
    (hheader : asnd.ethHeader.isPowerlink = true) (hservice : asnd.serviceId = service)
    (hother : asnd.payload = [] ∨ service ≠ .identResponse ∧ service ≠ .statusResponse) :
    (PowerlinkFrame.aSnd asnd).FromMn := by
  subst hservice
  exact ⟨hsource, fun _ => ⟨hheader, trivial⟩, hother⟩

theorem aSnd_noCommand {asnd : ASndFrame} (service : ServiceId) (hservice : asnd.serviceId = service)
    (hother : asnd.payload = [] ∨ service ≠ .nmtCommand) :
    (PowerlinkFrame.aSnd asnd).NoCommand := by
  subst hservice
  exact hother

/-- The frames of an SDO transfer. -/
def IsSdo (frame : PowerlinkFrame) : Prop :=
  ∃ asnd, frame = .aSnd asnd ∧ asnd.source = cAdrMnDefNodeId ∧
    asnd.ethHeader.isPowerlink = true ∧ asnd.serviceId = .sdo

theorem IsSdo.plain {frame : PowerlinkFrame} (h : IsSdo frame)
    (cache : SortedMap IpAddress MacAddress) : frame.PlainFor cache := by
  obtain ⟨asnd, rfl, hsource, hheader, hservice⟩ := h
  exact ⟨aSnd_fromMn .sdo hsource hheader hservice (.inr (by decide)),
    aSnd_noCommand .sdo hservice (.inr (by decide)), .sdo rfl hservice⟩

theorem isSdo_buildSdoAsndRequest {c : MnContext σ} {nodeId : NodeId}
    {seqHeader : SequenceLayerHeader} {cmd : SdoCommand} {frame : PowerlinkFrame}
    (h : c.buildSdoAsndRequest nodeId seqHeader cmd = .ok frame) : IsSdo frame := by
  unfold buildSdoAsndRequest at h
  split at h
  · cases h
  · obtain ⟨payload, -, h⟩ := bind_eq_ok_iff.mp h
    rw [← Except.ok.inj h]
    exact ⟨_, rfl, rfl, rfl, rfl⟩

theorem isSdo_sdoRequestFrame (c : MnContext σ) (request : ClientFrame) :
    IsSdo (c.sdoRequestFrame request) :=
  ⟨_, rfl, rfl, rfl, rfl⟩

/-- The other services have no data. -/
theorem nmtInfoPayload_cases (c : MnContext σ) (serviceId : ServiceId) :
    c.nmtInfoPayload serviceId = [] ∨ (serviceId ≠ .identResponse ∧ serviceId ≠ .statusResponse) ∧
      serviceId ≠ .nmtCommand := by
  cases serviceId with
  | identResponse | statusResponse | nmtCommand => exact .inl rfl
  | _ => exact .inr (by decide)

theorem plain_buildNmtInfoFrame (c : MnContext σ) (serviceId : ServiceId)
    (cache : SortedMap IpAddress MacAddress) : (c.buildNmtInfoFrame serviceId).PlainFor cache :=
  ⟨aSnd_fromMn serviceId rfl rfl rfl ((c.nmtInfoPayload_cases serviceId).imp_right And.left),
    aSnd_noCommand serviceId rfl ((c.nmtInfoPayload_cases serviceId).imp_right And.right),
    .broadcast rfl (List.mem_cons_of_mem _ (List.mem_cons_of_mem _ List.mem_cons_self))⟩

theorem buildNmtCommandFrame_fromMn (c : MnContext σ) (command : MnNmtCommandRequest)
    (nodeId : NodeId) (data : NmtCommandData) :
    (c.buildNmtCommandFrame command nodeId data).FromMn ∧
      (c.buildNmtCommandFrame command nodeId data).AddressedBy c.arpCache := by
  dsimp only [buildNmtCommandFrame]
  split
  · exact ⟨(plain_soc c.arpCache _ _ _ _).fromMn, (plain_soc _ _ _ _ _).addressed⟩
  · rename_i mac hmac
    refine ⟨aSnd_fromMn .nmtCommand rfl rfl rfl (.inr (by decide)), ?_⟩
    split_ifs at hmac with htarget
    · refine .broadcast htarget ?_
      rw [← Option.some.inj hmac]
      exact List.mem_cons_of_mem _ (List.mem_cons_of_mem _ List.mem_cons_self)
    · exact .cached hmac

/-- The command of a frame. -/
theorem command_of_hands {c : MnContext σ} {request : MnNmtCommandRequest} {target nodeId : NodeId}
    {data : NmtCommandData} {command : NmtStateCommand}
    (h : (c.buildNmtCommandFrame request target data).overWire.Hands nodeId
      (CnContext.commandEvent command)) : target = nodeId ∧ request = .state command := by
  dsimp only [buildNmtCommandFrame] at h
  split at h
  · have hdummy : (c.dummySoc : PowerlinkFrame).NoCommand := trivial
    exact absurd h (hdummy.not_hands _ _)
  · obtain ⟨hdest, -, hpayload⟩ := PowerlinkFrame.payload_of_hands h
    have hoctet : request.asU8 = command.toByte := by
      change (nmtCommandPayload request data).head? = some command.toByte at hpayload
      cases data with
      | none => exact Option.some.inj hpayload
      | hostName name => exact Option.some.inj hpayload
      | flushArp target => exact Option.some.inj hpayload
    refine ⟨hdest, ?_⟩
    revert hoctet
    cases request with
    | state request => cases request <;> cases command <;> decide
    | managing request => cases request <;> cases command <;> decide

/-! ### Sent frames -/

/-- What is sent is on the wire with its padding. -/
theorem received_of_send {frame : PowerlinkFrame} {bytes : List UInt8}
    (h : send frame = .sendFrame bytes) :
    bytes = frame.received ∧ frame.bytes.length ≤ 1504 := by
  unfold send at h
  split at h
  · rename_i action haction
    rw [h] at haction
    exact received_of_serializeFrameAction haction
  · cases h

/-- Why a managing node sends a frame in a call that leads from `c` to `d`. -/
inductive Emits (c : MnContext σ) [ObjectDictionaryStorage σ] (input : CycleInput)
    (d : MnContext σ) : PowerlinkFrame → Prop
  /-- The frame carries no NMT command. -/
  | plain {frame : PowerlinkFrame} (hplain : frame.PlainFor d.arpCache) : Emits c input d frame
  /-- The own slot sends the last command of the queue. -/
  | command {e : MnContext σ} {entry : NmtCommandEntry} (hslot : c.ownSlot input = some e)
      (hlast : e.pendingNmtCommands.getLast? = some entry) :
      Emits c input d (d.buildNmtCommandFrame entry.1 entry.2.1 entry.2.2)
  /-- All nodes are started. -/
  | broadcast (hop : d.nmtState = .nmtOperational) :
      Emits c input d (d.buildNmtCommandFrame (.state .startNode) cAdrBroadcastNodeId .none)

variable [ObjectDictionaryStorage σ] {c d : MnContext σ} {input : CycleInput}
  {frame : PowerlinkFrame}

theorem Emits.fromMn (h : Emits c input d frame) : frame.FromMn := by
  cases h with
  | plain hplain => exact hplain.fromMn
  | command => exact (buildNmtCommandFrame_fromMn _ _ _ _).1
  | broadcast => exact (buildNmtCommandFrame_fromMn _ _ _ _).1

theorem Emits.addressed (h : Emits c input d frame) : frame.AddressedBy d.arpCache := by
  cases h with
  | plain hplain => exact hplain.addressed
  | command => exact (buildNmtCommandFrame_fromMn _ _ _ _).2
  | broadcast => exact (buildNmtCommandFrame_fromMn _ _ _ _).2

/-- A command is the broadcast of an operational managing node, or the last one of the queue. -/
theorem Emits.command_cases {nodeId : NodeId} {command : NmtStateCommand} (h : Emits c input d frame)
    (hhands : frame.overWire.Hands nodeId (CnContext.commandEvent command)) :
    (command = .startNode ∧ d.nmtState = .nmtOperational) ∨ ∃ e entry, c.ownSlot input = some e ∧
      e.pendingNmtCommands.getLast? = some entry ∧ entry.1 = .state command ∧
      entry.2.1 = nodeId := by
  cases h with
  | plain hplain => exact absurd hhands (hplain.noCommand.not_hands _ _)
  | command hslot hlast =>
      obtain ⟨htarget, hcommand⟩ := command_of_hands hhands
      exact .inr ⟨_, _, hslot, hlast, hcommand, htarget⟩
  | broadcast hop =>
      obtain ⟨-, hcommand⟩ := command_of_hands hhands
      exact .inl ⟨(MnNmtCommandRequest.state.inj hcommand).symm, hop⟩

/-- A frame that is sent, with the reason. -/
def EmitsBytes (c : MnContext σ) (input : CycleInput) (d : MnContext σ) (bytes : List UInt8) :
    Prop :=
  ∃ frame, bytes = frame.received ∧ frame.bytes.length ≤ 1504 ∧ Emits c input d frame

theorem emitsBytes_of_send {bytes : List UInt8} (h : send frame = .sendFrame bytes)
    (hemits : Emits c input d frame) : EmitsBytes c input d bytes :=
  ⟨frame, (received_of_send h).1, (received_of_send h).2, hemits⟩

theorem emitsBytes_of_plain {bytes : List UInt8} (h : send frame = .sendFrame bytes)
    (hplain : frame.PlainFor d.arpCache) : EmitsBytes c input d bytes :=
  emitsBytes_of_send h (.plain hplain)

/-- A response of the SDO server. -/
theorem emitsBytes_of_response {data : SdoResponseData} {mac : MacAddress} {nodeId : NodeId}
    {bytes : List UInt8} (hnode : nodeId = cAdrMnDefNodeId)
    (h : asndBuildResponse false data mac nodeId = .ok (.sendFrame bytes)) :
    EmitsBytes c input d bytes := by
  unfold asndBuildResponse at h
  split at h
  · obtain ⟨payload, -, h⟩ := bind_eq_ok_iff.mp h
    obtain ⟨hbytes, hlength⟩ := received_of_serializeFrameAction h
    exact ⟨_, hbytes, hlength, .plain (IsSdo.plain ⟨_, rfl, hnode, rfl, rfl⟩ _)⟩
  · cases h

/-- `advance_cycle_phase` sends a PReq, an NMT info frame or a SoA. -/
theorem emitsBytes_advanceCyclePhase {e f : MnContext σ} {t : ℕ} {bytes : List UInt8}
    (h : e.advanceCyclePhase t = some (.sendFrame bytes, f)) : EmitsBytes c input f bytes := by
  rw [advanceCyclePhase_eq] at h
  cases hpoint : e.advancePoint with
  | poll nodeId g =>
      rw [hpoint] at h
      obtain ⟨hsend, rfl⟩ := Prod.mk.inj (Option.some.inj h)
      refine emitsBytes_of_plain hsend ?_
      change PowerlinkFrame.PlainFor (buildPreqFrame _ _ _).2.arpCache _
      rw [arpCache_buildPreqFrame]
      exact plain_buildPreqFrame _ _ _
  | publish serviceId g =>
      rw [hpoint] at h
      have hsend := (Prod.mk.inj (Option.some.inj h)).1
      exact emitsBytes_of_plain hsend (plain_buildNmtInfoFrame _ _ _)
  | schedule g =>
      rw [hpoint] at h
      obtain ⟨choice, -, heq⟩ := Option.map_eq_some_iff.mp h
      have hsend := (Prod.mk.inj heq).1
      exact emitsBytes_of_plain hsend ⟨⟨rfl, fun _ => ⟨rfl, trivial⟩, trivial⟩, trivial,
        .broadcast rfl (List.mem_cons_of_mem _ List.mem_cons_self)⟩

/-- The own slot sends a command, an SDO request or a queued frame. -/
theorem emitsBytes_sendOwnAsync {e : MnContext σ} {bytes : List UInt8}
    (hslot : c.ownSlot input = some e)
    (hqueued : ∀ frame ∈ e.mnAsyncSendQueue, frame.PlainFor .empty)
    (h : e.sendOwnAsync input.currentTimeUs = (.sendFrame bytes, d)) :
    EmitsBytes c input d bytes := by
  generalize haction : NodeAction.sendFrame bytes = action at h
  cases sendOwnAsync_way h with
  | command hlast => exact emitsBytes_of_send haction.symm (.command hslot hlast)
  | request _ _ hbuild =>
      exact emitsBytes_of_plain haction.symm ((isSdo_buildSdoAsndRequest hbuild).plain _)
  | frame _ hlast =>
      exact emitsBytes_of_plain haction.symm ((hqueued _ (List.mem_of_getLast? hlast)).of_empty _)
  | unused => cases haction

/-- The frames that are returned at once. -/
theorem emitsBytes_answer {e f : MnContext σ} {t : ℕ} {action : NodeAction} {bytes : List UInt8}
    (hnode : e.nmtStateMachine.nodeId = cAdrMnDefNodeId)
    (hguard : TickGuard e t (.answer action f)) (haction : action = .sendFrame bytes) :
    EmitsBytes c input f bytes := by
  cases hguard with
  | client h =>
      generalize hsome : some action = sent at h
      cases tickSdoClient_way h with
      | silent => cases hsome
      | send _ hbuild =>
          have hsend := haction.symm.trans (Option.some.inj hsome)
          exact emitsBytes_of_plain hsend.symm ((isSdo_buildSdoAsndRequest hbuild).plain _)
  | server hclient h =>
      have hclientNode := congrArg MnNmtStateMachine.nodeId (same_tickSdoClient hclient).machine
      generalize hsome : some action = sent at h
      cases tickSdoServer_way h with
      | idle | silent | unsent => cases hsome
      | send _ hbuild =>
          rw [← Option.some.inj hsome, haction] at hbuild
          unfold buildResponse at hbuild
          split at hbuild
          · exact emitsBytes_of_response (hclientNode.trans hnode) hbuild
          · exact absurd hbuild udpBuildResponse_sends
  | broadcast h =>
      generalize hsome : some action = sent at h
      cases initialOperationalActions_way h with
      | broadcast hdue =>
          have hsend := haction.symm.trans (Option.some.inj hsome)
          exact emitsBytes_of_send hsend.symm (.broadcast hdue.1)
      | command | nobody | reset | settled => cases hsome

/-- The node id stays the same. -/
theorem QueueStep.nodeId_eq {choices : List AsyncChoice} (h : QueueStep choices c d) :
    d.nmtStateMachine.nodeId = c.nmtStateMachine.nodeId := by
  cases h with
  | same h => exact congrArg MnNmtStateMachine.nodeId h.machine
  | fed h => exact h.machine.nodeId_eq
  | @choose choice _ _ =>
      cases choice with
      | _ => rfl
  | actions h =>
      cases initialOperationalActions_way h with
      | _ => rfl
  | activate =>
      have hmachine : (c.processNmtEvent .timeout).nmtStateMachine =
          { c.nmtStateMachine with currentState := c.nmtStateMachine.nextState .timeout } :=
        (congrArg QueueView.machine (c.processNmtEvent_queues .timeout)).trans
          (MnNmtStateMachine.processEvent_machine _ _ rfl)
      rw [hmachine]

theorem QueuePath.nodeId_eq {choices : List AsyncChoice} (h : QueuePath choices c d) :
    d.nmtStateMachine.nodeId = c.nmtStateMachine.nodeId := by
  induction h with
  | refl => rfl
  | tail _ hstep ih => exact hstep.nodeId_eq.trans ih

/-- The node id after the received frame and the datagram. -/
theorem nodeId_of_tick {r e : MnContext σ} {action : NodeAction}
    (hethernet : (c.receivePoint input).run input.currentTimeUs = some (action, r))
    (hudp : r.receiveUdp input = (.noAction, e)) :
    e.nmtStateMachine.nodeId = c.nmtStateMachine.nodeId := by
  obtain ⟨f, hcontext, hpath⟩ := ReceivePoint.path hethernet
  have hreceived := (receivePoint_fed hcontext).machine.nodeId_eq
  have hpassed := (QueuePath.nodeId_eq hpath).trans hreceived
  exact (congrArg MnNmtStateMachine.nodeId (same_receiveUdp hudp).machine).trans hpassed

/-- The node id after a call. -/
theorem nodeId_runCycle {action : NodeAction} (h : c.runCycle input = some (action, d)) :
    d.nmtStateMachine.nodeId = c.nmtStateMachine.nodeId := by
  obtain ⟨e, hfed, hway⟩ := runCycle_queues h
  cases hway with
  | path _ hpath => exact (QueuePath.nodeId_eq hpath).trans hfed.machine.nodeId_eq
  | own _ hpath hown =>
      have hsent := congrArg MnNmtStateMachine.nodeId (sendOwnAsync_frame hown).1
      exact hsent.trans ((QueuePath.nodeId_eq hpath).trans hfed.machine.nodeId_eq)

/-- Every frame that a call sends has a reason. -/
theorem runCycle_emits {bytes : List UInt8} (h : c.runCycle input = some (.sendFrame bytes, d))
    (hnode : c.nmtStateMachine.nodeId = cAdrMnDefNodeId)
    (hqueued : ∀ e, c.ownSlot input = some e →
      ∀ frame ∈ e.mnAsyncSendQueue, frame.PlainFor .empty) :
    EmitsBytes c input d bytes := by
  obtain hpath := runCycle_path h
  cases hpath with
  | frame hpoint _ =>
      obtain ⟨payload, client, t, hrequest⟩ := exists_request_of_reply hpoint
      generalize haction : NodeAction.sendFrame bytes = action at hrequest
      cases handleSdoServerRequest_way hrequest with
      | unanswered => cases haction
      | answered _ hbuild =>
          rw [← haction] at hbuild
          exact emitsBytes_of_response hnode hbuild
  | datagram _ hudp _ =>
      generalize haction : NodeAction.sendFrame bytes = action at hudp
      cases receiveUdp_way hudp with
      | dropped | unanswered | answered => cases haction
  | @tick r e hethernet hudp htick =>
      have hcontext := tickContext_eq hethernet hudp
      have hguard := e.tickGuard input.currentTimeUs
      cases hpoint : e.tickPoint input.currentTimeUs with
      | start f =>
          rw [hpoint] at htick
          have hsend := (Prod.mk.inj (Option.some.inj htick)).1
          exact emitsBytes_of_plain hsend (plain_soc _ _ _ _ _)
      | answer action f =>
          rw [hpoint] at htick hguard
          obtain ⟨haction, rfl⟩ := Prod.mk.inj (Option.some.inj htick)
          exact emitsBytes_answer ((nodeId_of_tick hethernet hudp).trans hnode) hguard haction
      | activate f =>
          rw [hpoint] at htick
          cases (Prod.mk.inj (Option.some.inj htick)).1
      | deliver event f =>
          rw [hpoint] at htick
          exact emitsBytes_advanceCyclePhase htick
      | advance f =>
          rw [hpoint] at htick
          exact emitsBytes_advanceCyclePhase htick
      | own f =>
          rw [hpoint] at htick
          have hslot : c.ownSlot input = some f := by
            rw [ownSlot, hcontext, Option.bind_some, hpoint]
          exact emitsBytes_sendOwnAsync hslot (hqueued f hslot) (Option.some.inj htick)
      | rest f =>
          rw [hpoint] at htick
          cases (Prod.mk.inj (Option.some.inj htick)).1

/-- The queued frames are frames of the managing node without a command. -/
theorem runCycle_queued {action : NodeAction} (hrun : c.runCycle input = some (action, d))
    (h : ∀ frame ∈ c.mnAsyncSendQueue, frame.PlainFor .empty) :
    (∀ frame ∈ d.mnAsyncSendQueue, frame.PlainFor .empty) ∧
      ∀ e, c.ownSlot input = some e →
        ∀ frame ∈ e.mnAsyncSendQueue, frame.PlainFor .empty :=
  queued_runCycle hrun (fun e request _ => (isSdo_sdoRequestFrame e request).plain _)
    (fun e serviceId _ => e.plain_buildNmtInfoFrame serviceId _) h

end MnContext

/-! ### Runs -/

/-- A new managing node has the node id of managing nodes. -/
theorem ManagingNode.new_nodeId {σ : Type} [ObjectDictionaryStorage σ] {od : ObjectDictionary σ}
    {mac : MacAddress} {cfg : Option ConfigurationInterface} {c : MnContext σ}
    (h : ManagingNode.new od mac cfg = .ok c) : c.nmtStateMachine.nodeId = cAdrMnDefNodeId := by
  dsimp only [ManagingNode.new] at h
  obtain ⟨-, -, h⟩ := bind_eq_ok_iff.mp h
  obtain ⟨-, -, h⟩ := bind_eq_ok_iff.mp h
  obtain ⟨machine, hmachine, h⟩ := bind_eq_ok_iff.mp h
  obtain ⟨cycleTimeUs, -, h⟩ := bind_eq_ok_iff.mp h
  obtain ⟨lists, -, h⟩ := bind_eq_ok_iff.mp h
  have hinit := congrArg MnNmtStateMachine.nodeId
    (MnNmtStateMachine.runInternalInitialisation_machine od.init.2 (fromOd_currentState hmachine))
  have hnode : machine.nodeId = cAdrMnDefNodeId := by
    unfold MnNmtStateMachine.fromOd at hmachine
    obtain ⟨_, -, hmachine⟩ := bind_eq_ok_iff.mp hmachine
    obtain ⟨_, -, hmachine⟩ := bind_eq_ok_iff.mp hmachine
    obtain ⟨_, -, hmachine⟩ := bind_eq_ok_iff.mp hmachine
    rw [← Except.ok.inj hmachine]
    rfl
  generalize machine.runInternalInitialisation od.init.2 = r at h hinit
  rw [← Except.ok.inj h]
  exact hinit.trans hnode

namespace ApiRun

variable {σ : Type} [ObjectDictionaryStorage σ]

/-- Why a node is sent an NMT state command. -/
inductive MayCommand (r : ApiRun σ) (nodeId : NodeId) : NmtStateCommand → Prop
  /-- The application wants it. -/
  | asked {command : NmtStateCommand} {data : NmtCommandData}
      (h : r.Asked (.state command, nodeId, data)) : MayCommand r nodeId command
  /-- The managing node is operational. -/
  | start (hop : r.context.nmtState = .nmtOperational) : MayCommand r nodeId .startNode
  /-- The node has identified itself. -/
  | ready (hseen : CnState.identified.Seen r.Heard nodeId) :
      MayCommand r nodeId .enableReadyToOperate
  /-- The node was lost. -/
  | reset : MayCommand r nodeId .resetNode

omit [ObjectDictionaryStorage σ] in
/-- The reasons stay. -/
theorem MayCommand.returns {r : ApiRun σ} {nodeId : NodeId} {command : NmtStateCommand}
    (h : r.MayCommand nodeId command) {call : MnCall} {action : NodeAction} {d : MnContext σ}
    (hstays : r.context.nmtState = .nmtOperational → d.nmtState = .nmtOperational) :
    (r.returns call action d).MayCommand nodeId command := by
  cases h with
  | asked h => exact .asked (h.returns call action d)
  | start hop => exact .start (hstays hop)
  | ready hseen =>
      refine .ready (hseen.imp fun frame hframe => ⟨hframe.1.returns call action d, hframe.2⟩)
  | reset => exact .reset

/-- Where a frame is sent: to all nodes, or to the address from which the node that it names has
identified itself. -/
inductive Addresses (r : ApiRun σ) (frame : PowerlinkFrame) : Prop
  | broadcast (hdest : frame.destination = cAdrBroadcastNodeId)
      (hmac : frame.ethHeader.destinationMac ∈
        [cDllMulticastSoc, cDllMulticastSoa, cDllMulticastAsnd]) : Addresses r frame
  | introduced {asnd : ASndFrame} {payload : IdentResponsePayload}
      (h : Knowledge.Introduced r.Heard asnd payload) (hdest : frame.destination = asnd.source)
      (hmac : frame.ethHeader.destinationMac = asnd.ethHeader.sourceMac) : Addresses r frame
  | sdo {asnd : ASndFrame} (hframe : frame = .aSnd asnd) (hservice : asnd.serviceId = .sdo) :
      Addresses r frame

omit [ObjectDictionaryStorage σ] in
/-- A cached address is that of an IdentResponse. -/
theorem addresses_of_backed {r : ApiRun σ} {frame : PowerlinkFrame} (hbacked : r.Backed)
    (h : frame.AddressedBy r.context.arpCache) : r.Addresses frame := by
  cases h with
  | broadcast hdest hmac => exact .broadcast hdest hmac
  | cached hget =>
      obtain ⟨asnd, payload, hintroduced, hip, hmac⟩ := hbacked.cache _ _ hget
      exact .introduced hintroduced (ipFromNodeId_injective hip) hmac
  | sdo hframe hservice => exact .sdo hframe hservice

omit [ObjectDictionaryStorage σ] in
theorem Addresses.returns {r : ApiRun σ} {frame : PowerlinkFrame} (h : r.Addresses frame)
    (call : MnCall) (action : NodeAction) (d : MnContext σ) :
    (r.returns call action d).Addresses frame := by
  cases h with
  | broadcast hdest hmac => exact .broadcast hdest hmac
  | introduced h hdest hmac =>
      exact .introduced (h.mono fun _ hheard => hheard.returns call action d) hdest hmac
  | sdo hframe hservice => exact .sdo hframe hservice

/-- Why a frame was sent, and where. -/
structure Justifies (r : ApiRun σ) (frame : PowerlinkFrame) : Prop where
  fromMn : frame.FromMn
  command : ∀ nodeId command, frame.overWire.Hands nodeId (CnContext.commandEvent command) →
    r.MayCommand nodeId command
  addresses : r.Addresses frame

/-- The frames that were sent, and those that wait. -/
structure SendsAsMn (r : ApiRun σ) : Prop where
  node : r.context.nmtStateMachine.nodeId = cAdrMnDefNodeId
  backed : r.Backed
  queued : ∀ frame ∈ r.context.mnAsyncSendQueue, frame.PlainFor .empty
  sent : ∀ x ∈ r.returned, ∀ bytes, x.action = .sendFrame bytes → ∃ frame : PowerlinkFrame,
    bytes = frame.received ∧ deserializeFrame bytes = .ok frame.overWire ∧ r.Justifies frame

omit [ObjectDictionaryStorage σ] in
/-- The frames that were sent before a call. -/
theorem SendsAsMn.sent_returns {r : ApiRun σ} (h : r.SendsAsMn) {call : MnCall}
    {action : NodeAction} {d : MnContext σ}
    (hstays : r.context.nmtState = .nmtOperational → d.nmtState = .nmtOperational) :
    ∀ x ∈ r.returned, ∀ bytes, x.action = .sendFrame bytes → ∃ frame : PowerlinkFrame,
      bytes = frame.received ∧ deserializeFrame bytes = .ok frame.overWire ∧
        (r.returns call action d).Justifies frame := by
  intro x hx bytes hsent
  obtain ⟨frame, hbytes, hread, hjustifies⟩ := h.sent x hx bytes hsent
  exact ⟨frame, hbytes, hread, hjustifies.fromMn,
    fun nodeId command hhands => (hjustifies.command nodeId command hhands).returns hstays,
    hjustifies.addresses.returns call action d⟩

omit [ObjectDictionaryStorage σ] in
/-- The last command of the own slot may be sent. -/
theorem mayCommand_of_own {r : ApiRun σ} {o : MnContext σ} {entry : NmtCommandEntry}
    {command : NmtStateCommand} (hbacked : o.knowledge.Backed r.Heard r.Asked)
    (hstays : o.nmtState = .nmtOperational → r.context.nmtState = .nmtOperational)
    (hmem : entry ∈ o.pendingNmtCommands) (hcommand : entry.1 = .state command) :
    r.MayCommand entry.2.1 command := by
  obtain ⟨request, nodeId, data⟩ := entry
  obtain rfl : request = .state command := hcommand
  cases hbacked.commands _ hmem with
  | asked h => exact .asked h
  | start heq hop =>
      obtain rfl := MnNmtCommandRequest.state.inj heq
      exact .start (hstays hop)
  | ready heq hseen =>
      obtain rfl := MnNmtCommandRequest.state.inj heq
      exact .ready hseen
  | reset heq =>
      obtain rfl := MnNmtCommandRequest.state.inj heq
      exact .reset

/-- A call of `run_cycle`. -/
theorem SendsAsMn.runCycle {r : ApiRun σ} (h : r.SendsAsMn) {input : CycleInput}
    {action : NodeAction} {d : MnContext σ} (hrun : r.context.runCycle input = some (action, d)) :
    (r.returns (.runCycle input) action d).SendsAsMn := by
  obtain ⟨hbacked, hstays, hslot⟩ := h.backed.runCycle hrun
  obtain ⟨hqueued, hslotQueued⟩ := MnContext.runCycle_queued hrun h.queued
  refine ⟨(MnContext.nodeId_runCycle hrun).trans h.node, hbacked, hqueued,
    List.forall_mem_cons.mpr ⟨?_, h.sent_returns hstays⟩⟩
  intro bytes hsent
  rw [show action = .sendFrame bytes from hsent] at hrun
  obtain ⟨frame, hbytes, hlength, hemits⟩ := MnContext.runCycle_emits hrun h.node hslotQueued
  refine ⟨frame, hbytes, ?_, hemits.fromMn, ?_, addresses_of_backed hbacked hemits.addressed⟩
  · rw [hbytes]
    exact deserializeFrame_padPayload (hemits.fromMn.exact_of_fits hlength)
  · intro nodeId command hhands
    obtain ⟨rfl, hop⟩ | ⟨o, entry, ho, hlast, hcommand, rfl⟩ := hemits.command_cases hhands
    · exact .start hop
    · obtain ⟨howned, hop⟩ := hslot o ho
      exact mayCommand_of_own howned hop (List.mem_of_getLast? hlast) hcommand

/-- A method of the application sends nothing, and keeps the queued frames and the NMT state. -/
theorem SendsAsMn.method {r : ApiRun σ} (h : r.SendsAsMn) {call : MnCall} {d : MnContext σ}
    (hcall : r.context.call call = some (.noAction, d))
    (hmachine : d.nmtStateMachine = r.context.nmtStateMachine)
    (hframes : d.mnAsyncSendQueue = r.context.mnAsyncSendQueue) :
    (r.returns call .noAction d).SendsAsMn := by
  refine ⟨(congrArg MnNmtStateMachine.nodeId hmachine).trans h.node, h.backed.call hcall, ?_,
    List.forall_mem_cons.mpr ⟨?_, h.sent_returns ?_⟩⟩
  · intro frame hmem
    change frame ∈ d.mnAsyncSendQueue at hmem
    rw [hframes] at hmem
    exact h.queued frame hmem
  · intro bytes hsent
    cases hsent
  · exact (congrArg MnNmtStateMachine.currentState hmachine).trans

/-- A managing node sends frames that answer nothing, and commands for which it has a reason. -/
theorem sendsAsMn_throughout : Throughout (fun r : ApiRun σ => r.SendsAsMn) := by
  apply throughout_of_new
  · intro od mac cfg c hc
    have hqueue : c.mnAsyncSendQueue = [] := by
      obtain ⟨od', machine, cycleTimeUs, lists, publish, -, -, rfl⟩ := ManagingNode.new_eq hc
      rfl
    refine ⟨ManagingNode.new_nodeId hc, backed_new hc, ?_, List.forall_mem_nil _⟩
    intro frame hmem
    change frame ∈ c.mnAsyncSendQueue at hmem
    rw [hqueue] at hmem
    cases hmem
  · intro r call action d hr hcall
    cases call with
    | runCycle input => exact hr.runCycle hcall
    | setHostname target hostname =>
        obtain ⟨rfl, hd⟩ := Prod.mk.inj (Option.some.inj hcall)
        refine hr.method hcall ?_ ?_
        · rw [← hd]
          unfold MnContext.setHostname
          split_ifs <;> rfl
        · rw [← hd]
          unfold MnContext.setHostname
          split_ifs <;> rfl
    | queueNmtStateCommand | flushArpEntry | readObject | writeObject =>
        obtain ⟨rfl, rfl⟩ := Prod.mk.inj (Option.some.inj hcall)
        exact hr.method hcall rfl rfl

end ApiRun

end Powerlink
