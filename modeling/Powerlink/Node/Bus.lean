import Powerlink.Lib.Networks
import Powerlink.Mn.Evidence
import Powerlink.Node.Sent

/-! # A managing node and its controlled nodes

The nodes share a bus.  Each of them is called by its own application in any order and at any
times, a POWERLINK frame that a node receives was sent before by one of the nodes, and everything
else on the wire (frames that cannot be read, UDP datagrams) is arbitrary.  Frames can be lost,
delayed, repeated and received out of order.

The two ends agree.  A controlled node is operational or stopped only after the managing node has
sent the command for it (`nodes_commanded`), and every command that it receives has a reason at the
managing node (`received_commands_sent`).  The managing node tracks a node as present only after this
node has shown the tracked state (`tracked_nodes_shown`), and it goes on with the boot-up only after
every mandatory node has (`mandatory_nodes_shown`).  No node speaks for another one
(`senders_authentic`).  `exists_starting` is a network of two nodes in which the controlled node is
started. -/

namespace Powerlink

/-- The octets that are received as a POWERLINK frame. -/
def CycleInput.telegram (input : CycleInput) : Option (List UInt8) :=
  if input.frame.isSome then input.ethernetFrame else none

/-- The telegram is what the frame is read from. -/
theorem CycleInput.telegram_of_frame {input : CycleInput} {frame : PowerlinkFrame}
    (h : input.frame = some frame) :
    ∃ bytes, input.telegram = some bytes ∧ deserializeFrame bytes = .ok frame := by
  unfold CycleInput.telegram
  rw [h]
  unfold CycleInput.frame at h
  split at h
  · cases h
  · rename_i bytes hbytes
    split_ifs at h
    refine ⟨bytes, hbytes, ?_⟩
    cases hread : deserializeFrame bytes with
    | ok frame' =>
        rw [hread] at h
        exact congrArg Except.ok (Option.some.inj h)
    | error e =>
        rw [hread] at h
        cases h

/-- The telegram of a call. -/
def CnCall.telegram : CnCall → Option (List UInt8)
  | runCycle input => input.telegram
  | _ => none

/-- The telegram of a call. -/
def MnCall.telegram : MnCall → Option (List UInt8)
  | runCycle input => input.telegram
  | _ => none

namespace Bus

variable (σ τ : Type) [ObjectDictionaryStorage σ] [ObjectDictionaryStorage τ]

/-- A managing node as a party. -/
def mnParty : Networks.Party (List UInt8) where
  State := ApiRun σ
  Event := MnCall
  start r := ∃ od mac cfg, ApiRun.start od mac cfg = some r
  step := ApiRun.step
  hears := MnCall.telegram
  heard r bytes := ∃ x ∈ r.returned, x.call.telegram = some bytes
  said r bytes := ∃ x ∈ r.returned, x.action = .sendFrame bytes
  heard_start := by
    rintro r bytes ⟨od, mac, cfg, hstart⟩ ⟨x, hx, -⟩
    obtain ⟨c, -, rfl⟩ := Option.map_eq_some_iff.mp hstart
    cases hx
  heard_step := by
    rintro r call r' bytes hstep ⟨x, hx, hbytes⟩
    obtain ⟨p, -, rfl⟩ := Option.map_eq_some_iff.mp hstep
    obtain rfl | hx := List.mem_cons.mp hx
    · exact .inr hbytes
    · exact .inl ⟨x, hx, hbytes⟩
  said_step := by
    rintro r call r' bytes hstep ⟨x, hx, hbytes⟩
    obtain ⟨p, -, rfl⟩ := Option.map_eq_some_iff.mp hstep
    exact ⟨x, List.mem_cons_of_mem _ hx, hbytes⟩

/-- A controlled node as a party. -/
def cnParty : Networks.Party (List UInt8) where
  State := CnRun τ
  Event := CnCall
  start r := ∃ od mac, CnRun.start od mac = some r
  step := CnRun.step
  hears := CnCall.telegram
  heard r bytes := ∃ x ∈ r.returned, x.call.telegram = some bytes
  said r bytes := ∃ x ∈ r.returned, x.action = .sendFrame bytes
  heard_start := by
    rintro r bytes ⟨od, mac, hstart⟩ ⟨x, hx, -⟩
    obtain ⟨c, -, rfl⟩ := Option.map_eq_some_iff.mp hstart
    cases hx
  heard_step := by
    rintro r call r' bytes hstep ⟨x, hx, hbytes⟩
    obtain ⟨p, -, rfl⟩ := Option.map_eq_some_iff.mp hstep
    obtain rfl | hx := List.mem_cons.mp hx
    · exact .inr hbytes
    · exact .inl ⟨x, hx, hbytes⟩
  said_step := by
    rintro r call r' bytes hstep ⟨x, hx, hbytes⟩
    obtain ⟨p, -, rfl⟩ := Option.map_eq_some_iff.mp hstep
    exact ⟨x, List.mem_cons_of_mem _ hx, hbytes⟩

variable (ι : Type)

/-- The managing node is `none`, and there is a controlled node for every `i`. -/
def party : Option ι → Networks.Party (List UInt8)
  | none => mnParty σ
  | some _ => cnParty τ

variable {σ τ ι}

/-- The states of all nodes. -/
abbrev Configuration (σ τ ι : Type) [ObjectDictionaryStorage σ] [ObjectDictionaryStorage τ] : Type :=
  Networks.Configuration (party σ τ ι)

/-- The managing node. -/
def mn (c : Configuration σ τ ι) : ApiRun σ := c none

/-- A controlled node. -/
def cn (c : Configuration σ τ ι) (i : ι) : CnRun τ := c (some i)

variable [DecidableEq ι] {c : Configuration σ τ ι}

/-- What holds throughout the runs of a managing node holds in the network. -/
theorem mn_of_throughout (hc : Networks.Reachable c) {P : ApiRun σ → Prop}
    (h : ApiRun.Throughout P) : P (mn c) := by
  refine hc.of_always none (P := P) ?_
  rintro s es ⟨od, mac, cfg, hstart⟩
  have halways := h od mac cfg es
  rw [hstart] at halways
  exact halways

/-- What holds throughout the runs of a controlled node holds in the network. -/
theorem cn_of_throughout (hc : Networks.Reachable c) (i : ι) {P : CnRun τ → Prop}
    (h : CnRun.Throughout P) : P (cn c i) := by
  refine hc.of_always (some i) (P := P) ?_
  rintro s es ⟨od, mac, hstart⟩
  have halways := h od mac es
  rw [hstart] at halways
  exact halways

/-- The node has sent the frame. -/
def MnSent (c : Configuration σ τ ι) (frame : PowerlinkFrame) : Prop :=
  ∃ x ∈ (mn c).returned, x.action = .sendFrame frame.received

/-- A telegram on the wire comes from the managing node, or a controlled node has sent it for a
reason. -/
theorem origin (hc : Networks.Reachable c) {bytes : List UInt8} (h : Networks.Said c bytes) :
    (∃ frame, bytes = frame.received ∧ deserializeFrame bytes = .ok frame.overWire ∧
      MnSent c frame ∧ frame.FromMn ∧ ∀ nodeId command,
        frame.overWire.Hands nodeId (CnContext.commandEvent command) →
          (mn c).MayCommand nodeId command) ∨
    ∃ i x input frame, x ∈ (cn c i).returned ∧ x.action = .sendFrame frame.received ∧
      bytes = frame.received ∧ deserializeFrame bytes = .ok frame.overWire ∧
      x.after.nodeId = (cn c i).context.nodeId ∧ x.after.Sends input frame := by
  obtain ⟨j, hj⟩ := h
  cases j with
  | none =>
      left
      obtain ⟨x, hx, hsent⟩ := hj
      have hmn : (mn c).SendsAsMn := mn_of_throughout hc ApiRun.sendsAsMn_throughout
      obtain ⟨frame, hbytes, hread, hjustifies⟩ := hmn.sent x hx bytes hsent
      exact ⟨frame, hbytes, hread, ⟨x, hx, hbytes ▸ hsent⟩, hjustifies.fromMn, hjustifies.command⟩
  | some i =>
      right
      obtain ⟨x, hx, hsent⟩ := hj
      obtain ⟨hsends, -, hnode⟩ := cn_of_throughout hc i CnRun.sendsByReason_throughout x hx
      obtain ⟨input, frame, -, hbytes, hread, hreason⟩ := hsends bytes hsent
      exact ⟨i, x, input, frame, hx, hbytes ▸ hsent, hbytes, hread, hnode, hreason⟩

end Bus

/-- No controlled node sends an NMT command. -/
theorem CnContext.Sends.noCommand {τ : Type} {c : CnContext τ} {input : CycleInput}
    {frame : PowerlinkFrame} (h : c.Sends input frame) : frame.NoCommand := by
  cases h with
  | reply _ hreply =>
      cases hreply.answers with
      | poll => trivial
      | invite soa asnd _ hservice =>
          refine MnContext.aSnd_noCommand asnd.serviceId rfl (.inr ?_)
          rintro heq
          rw [heq] at hservice
          cases hrequest : soa.reqServiceId <;> rw [hrequest] at hservice <;> cases hservice
      | sdo request response _ _ hservice =>
          exact MnContext.aSnd_noCommand .sdo hservice (.inr (by decide))
  | server asnd hservice => exact MnContext.aSnd_noCommand .sdo hservice (.inr (by decide))

namespace Bus

variable {σ τ ι : Type} [ObjectDictionaryStorage σ] [ObjectDictionaryStorage τ] [DecidableEq ι]
  {c : Configuration σ τ ι}

/-- The node was sent the command by the managing node, which has a reason for it. -/
structure Commanded (c : Configuration σ τ ι) (nodeId : NodeId) (command : NmtStateCommand) :
    Prop where
  sent : ∃ frame, MnSent c frame ∧ frame.overWire.Hands nodeId (CnContext.commandEvent command)
  allowed : (mn c).MayCommand nodeId command

/-- A command that a node receives comes from the managing node. -/
theorem commanded_of_receives (hc : Networks.Reachable c) {i : ι} {x : CnReturned τ}
    {command : NmtStateCommand} (hx : x ∈ (cn c i).returned) (h : x.Receives command) :
    Commanded c (cn c i).context.nodeId command := by
  obtain ⟨input, asnd, hcall, hframe, hdest, hservice, hpayload⟩ := h
  obtain ⟨-, hnode, -⟩ := cn_of_throughout hc i CnRun.sendsByReason_throughout x hx
  obtain ⟨bytes, htelegram, hread⟩ := CycleInput.telegram_of_frame hframe
  have hheard : (party σ τ ι (some i)).heard (c (some i)) bytes := by
    refine ⟨x, hx, ?_⟩
    rw [hcall]
    exact htelegram
  have hhands : (PowerlinkFrame.aSnd asnd).Hands (cn c i).context.nodeId
      (CnContext.commandEvent command) :=
    .command asnd command (hdest.trans hnode) hservice hpayload
  obtain ⟨frame, -, hread', hsent, -, hmay⟩ | ⟨j, y, input', frame, -, -, -, hread', -, hsends⟩ :=
    origin hc (hc.said hheard)
  · rw [← Except.ok.inj (hread'.symm.trans hread)] at hhands
    exact ⟨⟨frame, hsent, hhands⟩, hmay _ _ hhands⟩
  · rw [← Except.ok.inj (hread'.symm.trans hread)] at hhands
    exact absurd hhands (hsends.noCommand.not_hands _ command)

/-- A node that is operational or stopped was sent the command for it. -/
theorem commanded_of_entered (hc : Networks.Reachable c) {i : ι} {command : NmtStateCommand}
    {state : NmtState} (hcommand : CnNmtStateMachine.entered command = some state)
    (hstate : (cn c i).context.nmtState = state) :
    Commanded c (cn c i).context.nodeId command := by
  obtain ⟨later, x, earlier, hreturned, hreceives, -⟩ :=
    cn_of_throughout hc i CnRun.sinceCommand_throughout command state hcommand hstate
  have hx : x ∈ (cn c i).returned := by
    rw [hreturned]
    exact List.mem_append_right _ List.mem_cons_self
  exact commanded_of_receives hc hx hreceives

/-- A controlled node with the node id has sent an IdentResponse, or has shown a state for which it
is tracked like this. -/
def Shown (c : Configuration σ τ ι) (nodeId : NodeId) (state : CnState) : Prop :=
  ∃ i x, (cn c i).context.nodeId = nodeId ∧ x ∈ (cn c i).returned ∧
    ∃ frame : PowerlinkFrame, x.action = .sendFrame frame.received ∧
      ((∃ reported ∈ state.reportedAs, x.after.Shows reported) ∨
        state = .identified ∧ ∃ asnd, frame = .aSnd asnd ∧ asnd.serviceId = .identResponse)

/-- What the managing node has heard was on the wire. -/
theorem said_of_heard (hc : Networks.Reachable c) {received : PowerlinkFrame}
    (h : (mn c).Heard received) :
    ∃ bytes, Networks.Said c bytes ∧ deserializeFrame bytes = .ok received := by
  obtain ⟨x, hx, hframe⟩ := h
  obtain ⟨bytes, htelegram, hread⟩ : ∃ bytes, x.call.telegram = some bytes ∧
      deserializeFrame bytes = .ok received := by
    unfold ApiReturned.frame at hframe
    split at hframe
    · rename_i input hcall
      rw [hcall]
      exact CycleInput.telegram_of_frame hframe
    · cases hframe
  have hheard : (party σ τ ι none).heard (c none) bytes := ⟨x, hx, htelegram⟩
  exact ⟨bytes, hc.said hheard, hread⟩

theorem shown_of_seen (hc : Networks.Reachable c) {nodeId : NodeId} {state : CnState}
    (hseen : state.Seen (mn c).Heard nodeId) : Shown c nodeId state := by
  obtain ⟨received, hheard, hshown⟩ := hseen
  obtain ⟨bytes, hsaid, hread⟩ := said_of_heard hc hheard
  obtain ⟨frame, -, hread', -, hfrom, -⟩ | ⟨i, y, input, frame, hy, hsent, -, hread', hnode, hsends⟩ :=
    origin hc hsaid
  · obtain rfl := Except.ok.inj (hread'.symm.trans hread)
    cases hshown with
    | report hreport =>
        rw [hfrom.noAnswer.report] at hreport
        cases hreport
    | identify heq hservice _ hpayload => exact absurd hpayload (hfrom.noAnswer.ident heq hservice _)
  · obtain rfl := Except.ok.inj (hread'.symm.trans hread)
    cases hshown with
    | @report reported _ hreport hstate =>
        have hne : reported ≠ .nmtGsOff := by
          rintro rfl
          revert hstate
          cases state <;> decide
        obtain ⟨rfl, hshows⟩ := hsends.reportsItself nodeId reported hreport hne
        exact ⟨i, y, hnode.symm, hy, frame, hsent, .inl ⟨reported, hstate, hshows⟩⟩
    | @identify asnd payload heq hservice hsource _ =>
        cases frame with
        | aSnd sent =>
            obtain rfl := PowerlinkFrame.aSnd.inj heq
            have hid : sent.source = y.after.nodeId := hsends.source_eq
            refine ⟨i, y, ?_, hy, .aSnd sent, hsent, .inr ⟨rfl, sent, rfl, hservice⟩⟩
            exact (hid.trans hnode).symm.trans hsource
        | _ => cases heq

/-! ### Two nodes -/

/-- A managing node and one controlled node. -/
def duo (r : ApiRun σ × CnRun τ) : Configuration σ τ Unit
  | none => r.1
  | some _ => r.2

/-- The last telegram that a node has sent. -/
def lastTelegram (actions : List NodeAction) : Option (List UInt8) :=
  (actions.flatMap NodeAction.wire).head?

/-- A node makes a call without a telegram, or receives the last telegram of the other node. -/
inductive Move where
  | mn (call : MnCall)
  | cn (call : CnCall)
  | toMn (timeUs : ℕ)
  | toCn (timeUs : ℕ)

/-- One move. -/
def duoStep (r : ApiRun σ × CnRun τ) : Move → Option (ApiRun σ × CnRun τ)
  | .mn call => if call.telegram = none then (r.1.step call).map (·, r.2) else none
  | .cn call => if call.telegram = none then (r.2.step call).map (r.1, ·) else none
  | .toMn timeUs =>
      (lastTelegram (r.2.returned.map CnReturned.action)).bind fun bytes =>
        (r.1.step (.runCycle ⟨some bytes, none, timeUs⟩)).map (·, r.2)
  | .toCn timeUs =>
      (lastTelegram (r.1.returned.map ApiReturned.action)).bind fun bytes =>
        (r.2.step (.runCycle ⟨some bytes, none, timeUs⟩)).map (r.1, ·)

/-- Both nodes before their first call. -/
def duoStart (od : ObjectDictionary σ) (od' : ObjectDictionary τ) : Option (ApiRun σ × CnRun τ) :=
  (ApiRun.start od ⟨0, 0, 0, 0, 0, 240⟩ none).bind fun r =>
    (CnRun.start od' ⟨0, 0, 0, 0, 0, 1⟩).map (r, ·)

theorem mem_of_lastTelegram {actions : List NodeAction} {bytes : List UInt8}
    (h : lastTelegram actions = some bytes) : .sendFrame bytes ∈ actions := by
  obtain ⟨action, hmem, hsent⟩ := List.mem_flatMap.mp (List.mem_of_head? h)
  rwa [← NodeAction.eq_of_mem_wire hsent]

theorem telegram_runCycle {bytes : List UInt8} {timeUs : ℕ} {m : List UInt8}
    (h : CycleInput.telegram ⟨some bytes, none, timeUs⟩ = some m) : m = bytes := by
  unfold CycleInput.telegram at h
  split_ifs at h
  exact (Option.some.inj h).symm

/-- The moves are steps of the network. -/
theorem reachable_duoStep {r r' : ApiRun σ × CnRun τ} {move : Move}
    (hr : Networks.Reachable (duo r)) (h : duoStep r move = some r') :
    Networks.Reachable (duo r') := by
  have hmn : ∀ {call : MnCall} {s : ApiRun σ}, r.1.step call = some s →
      (∀ m, call.telegram = some m → Networks.Said (duo r) m) →
      Networks.Reachable (duo (s, r.2)) := by
    intro call s hstep hhears
    have hupdate : Function.update (duo r) none s = duo (s, r.2) := by
      funext i
      cases i <;> rfl
    rw [← hupdate]
    exact hr.step none call hstep hhears
  have hcn : ∀ {call : CnCall} {s : CnRun τ}, r.2.step call = some s →
      (∀ m, call.telegram = some m → Networks.Said (duo r) m) →
      Networks.Reachable (duo (r.1, s)) := by
    intro call s hstep hhears
    have hupdate : Function.update (duo r) (some ()) s = duo (r.1, s) := by
      funext i
      cases i <;> rfl
    rw [← hupdate]
    exact hr.step (some ()) call hstep hhears
  cases move with
  | mn call =>
      dsimp only [duoStep] at h
      split_ifs at h with hnone
      obtain ⟨s, hstep, rfl⟩ := Option.map_eq_some_iff.mp h
      refine hmn hstep ?_
      intro m hm
      cases hnone.symm.trans hm
  | cn call =>
      dsimp only [duoStep] at h
      split_ifs at h with hnone
      obtain ⟨s, hstep, rfl⟩ := Option.map_eq_some_iff.mp h
      refine hcn hstep ?_
      intro m hm
      cases hnone.symm.trans hm
  | toMn timeUs =>
      obtain ⟨bytes, hlast, h⟩ := Option.bind_eq_some_iff.mp h
      obtain ⟨s, hstep, rfl⟩ := Option.map_eq_some_iff.mp h
      refine hmn hstep ?_
      intro m hm
      obtain ⟨x, hx, hsent⟩ := List.mem_map.mp (mem_of_lastTelegram hlast)
      rw [telegram_runCycle hm]
      exact ⟨some (), x, hx, hsent⟩
  | toCn timeUs =>
      obtain ⟨bytes, hlast, h⟩ := Option.bind_eq_some_iff.mp h
      obtain ⟨s, hstep, rfl⟩ := Option.map_eq_some_iff.mp h
      refine hcn hstep ?_
      intro m hm
      obtain ⟨x, hx, hsent⟩ := List.mem_map.mp (mem_of_lastTelegram hlast)
      rw [telegram_runCycle hm]
      exact ⟨none, x, hx, hsent⟩

/-- Two nodes that make these moves are in a network. -/
theorem reachable_duo {od : ObjectDictionary σ} {od' : ObjectDictionary τ} {moves : List Move}
    {r : ApiRun σ × CnRun τ}
    (h : Runs.run (Runs.partialStep duoStep) (duoStart od od') moves = some r) :
    Networks.Reachable (duo r) := by
  have halways : Runs.Always (Runs.partialStep duoStep)
      (Runs.Reached fun r => Networks.Reachable (duo r)) (duoStart od od') moves := by
    refine Runs.always_reached (fun _ _ _ hr hstep => reachable_duoStep hr hstep) ?_ moves
    cases hstart : duoStart od od' with
    | none => trivial
    | some r₀ =>
        obtain ⟨s, hs, hmap⟩ := Option.bind_eq_some_iff.mp hstart
        obtain ⟨s', hs', rfl⟩ := Option.map_eq_some_iff.mp hmap
        refine .start ?_
        intro i
        cases i with
        | none => exact ⟨_, _, _, hs⟩
        | some i => exact ⟨_, _, hs'⟩
  have hlast := halways.last
  rw [h] at hlast
  exact hlast

/-- The node is identified and configured, and the managing node starts it on request. -/
def starting : List Move :=
  [.mn (.runCycle (.idle 0)), .mn (.runCycle (.idle 10)), .mn (.runCycle (.idle 1000)), .toCn 1000,
    .mn (.runCycle (.idle 1001)), .toCn 1001, .toMn 1010, .mn (.runCycle (.idle 2000)), .toCn 2000,
    .cn .configurationComplete, .mn (.queueNmtStateCommand .startNode ⟨1⟩),
    .mn (.runCycle (.idle 2001)), .mn (.runCycle (.idle 2010)), .toCn 2010]

/-- What the moves lead to: the controlled node is started, and the managing node has identified it. -/
structure Starting (c : Configuration σ τ Unit) : Prop where
  state : (cn c ()).context.nmtState = .nmtOperational
  nodeId : (cn c ()).context.nodeId = ⟨1⟩
  tracked : ∃ info, (mn c).context.nodeInfo.get? ⟨1⟩ = some info ∧ info.state = .identified
  boot : (mn c).context.nmtState = .nmtPreOperational2
  mandatory : (mn c).context.mandatoryNodes = [⟨1⟩]

/-- A controlled node is started in a network of two nodes. -/
theorem exists_starting :
    ∃ c : Configuration Empty Empty Unit, Networks.Reachable c ∧ Starting c := by
  have hrun : (Runs.run (Runs.partialStep duoStep)
      (duoStart (mnDictionary 0 [9]) (cnDictionary 1 0 [])) starting).any (fun r =>
        decide (r.2.context.nmtState = .nmtOperational ∧ r.2.context.nodeId = ⟨1⟩ ∧
          r.1.context.nmtState = .nmtPreOperational2 ∧ r.1.context.mandatoryNodes = [⟨1⟩]) &&
          (r.1.context.nodeInfo.get? ⟨1⟩).any (fun info => info.state = .identified)) = true := by
    decide +kernel
  cases hresult : Runs.run (Runs.partialStep duoStep)
      (duoStart (mnDictionary 0 [9]) (cnDictionary 1 0 [])) starting with
  | none =>
      rw [hresult] at hrun
      cases hrun
  | some r =>
      rw [hresult, Option.any_some, Bool.and_eq_true] at hrun
      obtain ⟨hstate, hid, hboot, hmandatory⟩ := of_decide_eq_true hrun.1
      refine ⟨duo r, reachable_duo hresult, hstate, hid, ?_, hboot, hmandatory⟩
      have hinfo := hrun.2
      cases hget : r.1.context.nodeInfo.get? ⟨1⟩ with
      | none =>
          rw [hget] at hinfo
          cases hinfo
      | some info =>
          rw [hget] at hinfo
          exact ⟨info, hget, of_decide_eq_true hinfo⟩

/-! ### The two ends agree -/

/-- A telegram comes from the node that it names as its source. -/
def Authentic (c : Configuration σ τ ι) (bytes : List UInt8) (frame : PowerlinkFrame) : Prop :=
  (frame.source = cAdrMnDefNodeId ∧ ∃ x ∈ (mn c).returned, x.action = .sendFrame bytes) ∨
    ∃ i, frame.source = (cn c i).context.nodeId ∧
      ∃ x ∈ (cn c i).returned, x.action = .sendFrame bytes

/-- Every POWERLINK frame that a node receives can be read, and comes from the node that it names as
its source. -/
theorem senders_authentic :
    Networks.Throughout (fun c : Configuration σ τ ι => ∀ j bytes,
      (party σ τ ι j).heard (c j) bytes →
        ∃ frame, deserializeFrame bytes = .ok frame ∧ Authentic c bytes frame) := by
  intro c hc j bytes hheard
  have hsource : ∀ frame : PowerlinkFrame, frame.overWire.source = frame.source := by
    intro frame
    cases frame <;> rfl
  obtain ⟨frame, hbytes, hread, ⟨x, hx, hsent⟩, hfrom, -⟩ |
    ⟨i, x, input, frame, hx, hsent, hbytes, hread, hnode, hsends⟩ := origin hc (hc.said hheard)
  · refine ⟨frame.overWire, hread, .inl ⟨?_, x, hx, hbytes ▸ hsent⟩⟩
    exact (hsource frame).trans hfrom.source_eq
  · refine ⟨frame.overWire, hread, .inr ⟨i, ?_, x, hx, hbytes ▸ hsent⟩⟩
    exact (hsource frame).trans (hsends.source_eq.trans hnode)

/-- A controlled node is operational only after the managing node has sent it the command to start,
and stopped only after the command to stop.  The managing node sends the first one only if it is
operational itself or if its application asks for it, and the second one only if its application
asks for it. -/
theorem nodes_commanded :
    Networks.Throughout (fun c : Configuration σ τ ι => ∀ i command state,
      CnNmtStateMachine.entered command = some state → (cn c i).context.nmtState = state →
        Commanded c (cn c i).context.nodeId command) :=
  fun _ hc _ _ _ hcommand hstate => commanded_of_entered hc hcommand hstate

/-- The controlled node of this network was started by the managing node. -/
theorem nodes_commanded_two_nodes :
    ∃ c : Configuration Empty Empty Unit, (cn c ()).context.nmtState = .nmtOperational ∧
      Commanded c ⟨1⟩ .startNode := by
  obtain ⟨c, hc, hstarting⟩ := exists_starting
  refine ⟨c, hstarting.state, ?_⟩
  rw [← hstarting.nodeId]
  exact nodes_commanded c hc () .startNode .nmtOperational rfl hstarting.state

/-- The managing node tracks a node as present only after a controlled node with this node id has
shown the tracked state, or has identified itself. -/
theorem tracked_nodes_shown :
    Networks.Throughout (fun c : Configuration σ τ ι => ∀ nodeId info,
      (mn c).context.nodeInfo.get? nodeId = some info → ¬IsAbsent info.state →
        Shown c nodeId info.state) := by
  intro c hc nodeId info hget hpresent
  have hbacked : (mn c).Backed := mn_of_throughout hc ApiRun.backed_throughout
  exact shown_of_seen hc ((hbacked.nodes nodeId info hget).resolve_left hpresent)

/-- The managing node of this network tracks the controlled node. -/
theorem tracked_nodes_shown_two_nodes :
    ∃ c : Configuration Empty Empty Unit, Shown c ⟨1⟩ .identified := by
  obtain ⟨c, hc, hstarting⟩ := exists_starting
  obtain ⟨info, hget, hstate⟩ := hstarting.tracked
  refine ⟨c, ?_⟩
  rw [← hstate]
  refine tracked_nodes_shown c hc ⟨1⟩ info hget ?_
  rw [hstate]
  decide

/-- The managing node goes on with the boot-up only after every mandatory node has shown itself: it
has identified its nodes only after each of them was identified, and is ready to operate only after
each of them was configured. -/
structure BootShown (c : Configuration σ τ ι) : Prop where
  booted : (mn c).context.nmtState ∈ Knowledge.bootStates →
    ∀ nodeId ∈ (mn c).context.mandatoryNodes, ∃ state ∈ CnState.booted, Shown c nodeId state
  polled : (mn c).context.nmtState ∈ Knowledge.readyStates →
    ∀ nodeId ∈ (mn c).context.mandatoryNodes, ∃ state ∈ CnState.polled, Shown c nodeId state

/-- The boot-up rests on what the mandatory nodes have shown. -/
theorem mandatory_nodes_shown :
    Networks.Throughout (fun c : Configuration σ τ ι => BootShown c) := by
  intro c hc
  have hbacked : (mn c).Backed := mn_of_throughout hc ApiRun.backed_throughout
  constructor
  · intro hstate nodeId hmem
    obtain ⟨state, hin, hseen⟩ := hbacked.booted hstate nodeId hmem
    exact ⟨state, hin, shown_of_seen hc hseen⟩
  · intro hstate nodeId hmem
    obtain ⟨state, hin, hseen⟩ := hbacked.polled hstate nodeId hmem
    exact ⟨state, hin, shown_of_seen hc hseen⟩

/-- The managing node of this network has seen its mandatory node. -/
theorem mandatory_nodes_shown_two_nodes :
    ∃ c : Configuration Empty Empty Unit, (mn c).context.nmtState = .nmtPreOperational2 ∧
      ∃ state ∈ CnState.booted, Shown c ⟨1⟩ state := by
  obtain ⟨c, hc, hstarting⟩ := exists_starting
  refine ⟨c, hstarting.boot, (mandatory_nodes_shown c hc).booted ?_ ⟨1⟩ ?_⟩
  · rw [hstarting.boot]
    decide
  · rw [hstarting.mandatory]
    exact List.mem_cons_self

end Bus

end Powerlink
