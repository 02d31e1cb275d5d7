import Powerlink.Mn.Node

/-! # What the SDO layer and the own slot do

A call of `run_cycle` hands received data to the SDO layer, asks it for what has timed out, takes the
one-time actions of `tick` and uses the asynchronous slot of the managing node.  For each of these
steps there is an inductive type with one constructor for every way through the function, which says
what is returned, what the new context is and what was found on the way.  Later proofs about a step
have one case for each constructor and do not unfold the function. -/

namespace Powerlink

/-- A response over UDP is sent in a datagram. -/
theorem sendUdp_of_udpBuildResponse {data : SdoResponseData} {action : NodeAction}
    (h : udpBuildResponse data = .ok action) :
    ∃ ip port payload, action = .sendUdp ip port payload := by
  unfold udpBuildResponse at h
  split at h
  · rename_i ip port _
    obtain ⟨payload, -, h⟩ := bind_eq_ok_iff.mp h
    exact ⟨ip, port, payload, (Except.ok.inj h).symm⟩
  · cases h

namespace MnContext

variable {σ : Type}

/-! ### The timeouts of the SDO layer -/

/-- The context after the timeouts of the SDO clients. -/
def clientsTicked (c : MnContext σ) (t : ℕ) : MnContext σ :=
  { c with sdoClientManager := (c.sdoClientManager.tick t c.core.od).2 }

/-- The ways of `tickSdoClient`. -/
inductive ClientTickWay (c : MnContext σ) (t : ℕ) : Option NodeAction → MnContext σ → Prop
  | silent : ClientTickWay c t none (c.clientsTicked t)
  | send {request : ClientFrame} {frame : PowerlinkFrame}
      (hrequest : (c.sdoClientManager.tick t c.core.od).1 = some request)
      (hbuild : (c.clientsTicked t).buildSdoAsndRequest request.1 request.2.1 request.2.2 =
        .ok frame) : ClientTickWay c t (some (send frame)) ((c.clientsTicked t).count 7)

theorem tickSdoClient_way {c d : MnContext σ} {t : ℕ} {action : Option NodeAction}
    (h : c.tickSdoClient t = (action, d)) : ClientTickWay c t action d := by
  dsimp only [tickSdoClient] at h
  split at h
  · obtain ⟨rfl, rfl⟩ := Prod.mk.inj h
    exact .silent
  · rename_i request hrequest
    split at h
    · rename_i frame hbuild
      obtain ⟨rfl, rfl⟩ := Prod.mk.inj h
      exact .send hrequest hbuild
    · obtain ⟨rfl, rfl⟩ := Prod.mk.inj h
      exact .silent

/-- The context after the timeouts of the SDO server. -/
def serverTicked (c : MnContext σ) (t : ℕ) : MnContext σ :=
  { c with core := { c.core with sdoServer := (c.core.sdoServer.tick t c.core.od).2 } }

/-- The ways of `tickSdoServer`. -/
inductive ServerTickWay (c : MnContext σ) (t : ℕ) : Option NodeAction → MnContext σ → Prop
  | idle : ServerTickWay c t none c
  | silent : ServerTickWay c t none (c.serverTicked t)
  | unsent : ServerTickWay c t none ((c.serverTicked t).count 7)
  | send {response : SdoResponseData} {action : NodeAction}
      (hresponse : (c.core.sdoServer.tick t c.core.od).1 = .ok (some response))
      (hbuild : ((c.serverTicked t).count 7).buildResponse response = .ok action) :
      ServerTickWay c t (some action) ((c.serverTicked t).count 7)

theorem tickSdoServer_way {c d : MnContext σ} {t : ℕ} {action : Option NodeAction}
    (h : c.tickSdoServer t = (action, d)) : ServerTickWay c t action d := by
  dsimp only [tickSdoServer] at h
  split at h
  · obtain ⟨rfl, rfl⟩ := Prod.mk.inj h
    exact .idle
  · split_ifs at h
    · obtain ⟨rfl, rfl⟩ := Prod.mk.inj h
      exact .idle
    · split at h
      · rename_i response hresponse
        split at h
        · rename_i action hbuild
          obtain ⟨rfl, rfl⟩ := Prod.mk.inj h
          exact .send hresponse hbuild
        · obtain ⟨rfl, rfl⟩ := Prod.mk.inj h
          exact .unsent
      · obtain ⟨rfl, rfl⟩ := Prod.mk.inj h
        exact .silent

/-! ### Received SDO data -/

/-- The ways of `processSdoResponse`. -/
inductive ResponseWay (c : MnContext σ) : MnContext σ → Prop
  | dropped : ResponseWay c (c.count 6)
  | handled {nodeId : NodeId} {seqHeader : SequenceLayerHeader} {cmd : SdoCommand}
      {manager : SdoClientManager}
      (h : (c.count 6).sdoClientManager.handleResponse nodeId seqHeader cmd = some manager) :
      ResponseWay c { c.count 6 with sdoClientManager := manager }

theorem processSdoResponse_way {c d : MnContext σ} {frame : ASndFrame}
    (h : c.processSdoResponse frame = some d) : ResponseWay c d := by
  dsimp only [processSdoResponse] at h
  split_ifs at h
  · obtain rfl := Option.some.inj h
    exact .dropped
  · split at h
    · obtain rfl := Option.some.inj h
      exact .dropped
    · split at h
      · obtain rfl := Option.some.inj h
        exact .dropped
      · obtain ⟨manager, hmanager, h⟩ := Option.bind_eq_some_iff.mp h
        obtain rfl := Option.some.inj h
        exact .handled hmanager

section server

variable [ObjectDictionaryStorage σ]

/-- The context after a request to the SDO server. -/
def afterRequest (c : MnContext σ) (payload : List UInt8) (client : SdoClientInfo) (t : ℕ) :
    MnContext σ :=
  let r := c.core.sdoServer.handleRequest payload client c.core.od t
  { c with core := { c.core with sdoServer := r.2.1, od := r.2.2 } }

/-- The ways of `handleSdoServerRequest`. -/
inductive RequestWay (c : MnContext σ) (payload : List UInt8) (client : SdoClientInfo) (t : ℕ) :
    NodeAction → MnContext σ → Prop
  | unanswered : RequestWay c payload client t .noAction (c.afterRequest payload client t)
  | answered {response : SdoResponseData} {action : NodeAction}
      (hresponse : (c.core.sdoServer.handleRequest payload client c.core.od t).1 = .ok response)
      (hbuild : asndBuildResponse false response c.core.macAddress c.nmtStateMachine.nodeId =
        .ok action) :
      RequestWay c payload client t action ((c.afterRequest payload client t).count 7)

theorem handleSdoServerRequest_way {c d : MnContext σ} {payload : List UInt8}
    {client : SdoClientInfo} {t : ℕ} {action : NodeAction}
    (h : c.handleSdoServerRequest payload client t = (action, d)) :
    RequestWay c payload client t action d := by
  dsimp only [handleSdoServerRequest] at h
  split at h
  · obtain ⟨rfl, rfl⟩ := Prod.mk.inj h
    exact .unanswered
  · rename_i response hresponse
    split at h
    · rename_i action hbuild
      obtain ⟨rfl, rfl⟩ := Prod.mk.inj h
      exact .answered hresponse hbuild
    · obtain ⟨rfl, rfl⟩ := Prod.mk.inj h
      exact .unanswered

/-- The ways of `processUdpDatagram`. -/
inductive DatagramWay (c : MnContext σ) (t : ℕ) : NodeAction → MnContext σ → Prop
  | dropped : DatagramWay c t .noAction c
  | unanswered (payload : List UInt8) (client : SdoClientInfo) :
      DatagramWay c t .noAction ((c.count 6).afterRequest payload client t)
  | answered (payload : List UInt8) (client : SdoClientInfo) (ip : IpAddress) (port : UInt16)
      (data : List UInt8) :
      DatagramWay c t (.sendUdp ip port data) ((c.count 6).afterRequest payload client t)

theorem processUdpDatagram_way {c d : MnContext σ} {payload : List UInt8} {ip : IpAddress}
    {port : UInt16} {t : ℕ} {action : NodeAction}
    (h : c.processUdpDatagram payload ip port t = (action, d)) :
    DatagramWay c t action d := by
  dsimp only [processUdpDatagram] at h
  split at h
  · obtain ⟨rfl, rfl⟩ := Prod.mk.inj h
    exact .dropped
  · split at h
    · obtain ⟨rfl, rfl⟩ := Prod.mk.inj h
      exact .unanswered _ _
    · split at h
      · rename_i hbuild
        obtain ⟨rfl, rfl⟩ := Prod.mk.inj h
        obtain ⟨destIp, destPort, data, rfl⟩ := sendUdp_of_udpBuildResponse hbuild
        exact .answered _ _ destIp destPort data
      · obtain ⟨rfl, rfl⟩ := Prod.mk.inj h
        exact .unanswered _ _

/-- The ways of `receiveUdp`. -/
inductive UdpWay (c : MnContext σ) (t : ℕ) : NodeAction → MnContext σ → Prop
  | dropped : UdpWay c t .noAction c
  | unanswered (payload : List UInt8) (client : SdoClientInfo) :
      UdpWay c t .noAction ((c.count 6).afterRequest payload client t)
  | answered (payload : List UInt8) (client : SdoClientInfo) (ip : IpAddress) (port : UInt16)
      (data : List UInt8) :
      UdpWay c t (.sendUdp ip port data) (((c.count 6).afterRequest payload client t).count 7)

theorem receiveUdp_way {c d : MnContext σ} {input : CycleInput} {action : NodeAction}
    (h : c.receiveUdp input = (action, d)) : UdpWay c input.currentTimeUs action d := by
  unfold receiveUdp at h
  split at h
  · obtain ⟨rfl, rfl⟩ := Prod.mk.inj h
    exact .dropped
  · rename_i buffer ip port _
    rcases hprocess : c.processUdpDatagram buffer ip port input.currentTimeUs with ⟨a, e⟩
    rw [hprocess] at h
    cases processUdpDatagram_way hprocess with
    | dropped =>
        obtain ⟨rfl, rfl⟩ := Prod.mk.inj h
        exact .dropped
    | unanswered payload client =>
        obtain ⟨rfl, rfl⟩ := Prod.mk.inj h
        exact .unanswered payload client
    | answered payload client destIp destPort data =>
        obtain ⟨rfl, rfl⟩ := Prod.mk.inj h
        exact .answered payload client destIp destPort data

end server

/-! ### The one-time actions -/

/-- The context with the one-time actions done. -/
def actionsDone (c : MnContext σ) : MnContext σ := { c with initialOperationalActionsDone := true }

/-- The ways of `initialOperationalActions`. -/
inductive ActionsWay (c : MnContext σ) : Option NodeAction → MnContext σ → Prop
  | broadcast
      (hdue : c.nmtState = .nmtOperational ∧ c.initialOperationalActionsDone = false)
      (hbit : c.nmtStateMachine.startupBit 1 = true) :
      ActionsWay c (some (send ((c.actionsDone.count 5).buildNmtCommandFrame (.state .startNode)
        cAdrBroadcastNodeId .none))) (c.actionsDone.count 5)
  | command
      (hdue : c.nmtState = .nmtOperational ∧ c.initialOperationalActionsDone = false)
      (hbit : c.nmtStateMachine.startupBit 1 = false) {nodeId : NodeId}
      (hhead : c.mandatoryNodes.head? = some nodeId) :
      ActionsWay c none { c.actionsDone with
        pendingNmtCommands := c.pendingNmtCommands ++ [(.state .startNode, nodeId, .none)] }
  | nobody
      (hdue : c.nmtState = .nmtOperational ∧ c.initialOperationalActionsDone = false)
      (hbit : c.nmtStateMachine.startupBit 1 = false) (hhead : c.mandatoryNodes.head? = none) :
      ActionsWay c none c.actionsDone
  | reset (hstate : c.nmtState < .nmtOperational) :
      ActionsWay c none { c with initialOperationalActionsDone := false }
  | settled (hnot : ¬(c.nmtState = .nmtOperational ∧ c.initialOperationalActionsDone = false)) :
      ActionsWay c none c

theorem initialOperationalActions_way {c d : MnContext σ} {action : Option NodeAction}
    (h : c.initialOperationalActions = (action, d)) : ActionsWay c action d := by
  dsimp only [initialOperationalActions] at h
  split_ifs at h with hdue hbit hstate
  · obtain ⟨rfl, rfl⟩ := Prod.mk.inj h
    exact .broadcast hdue hbit
  · have hclear : c.nmtStateMachine.startupBit 1 = false := Bool.eq_false_iff.mpr hbit
    split at h
    · rename_i nodeId hhead
      obtain ⟨rfl, rfl⟩ := Prod.mk.inj h
      exact .command hdue hclear hhead
    · rename_i hhead
      obtain ⟨rfl, rfl⟩ := Prod.mk.inj h
      exact .nobody hdue hclear hhead
  · obtain ⟨rfl, rfl⟩ := Prod.mk.inj h
    exact .reset hstate
  · obtain ⟨rfl, rfl⟩ := Prod.mk.inj h
    exact .settled hdue

/-! ### The own slot -/

/-- The context after the SDO clients were asked in the own slot. -/
def slotAsked (c : MnContext σ) (t : ℕ) : MnContext σ :=
  { c with
    currentPhase := .idle
    sdoClientManager := (c.sdoClientManager.getPendingRequest t c.core.od).2 }

/-- The context in which an NMT command is built in the own slot. -/
def slotCommand (c : MnContext σ) (nodeId : NodeId) : MnContext σ :=
  let d := count { c with
    currentPhase := .idle
    pendingNmtCommands := c.pendingNmtCommands.dropLast } 5
  d.record (.built nodeId (d.canCommand nodeId))

/-- The ways of `sendOwnAsync`. -/
inductive OwnWay (c : MnContext σ) (t : ℕ) : NodeAction → MnContext σ → Prop
  | command {command : MnNmtCommandRequest} {nodeId : NodeId} {data : NmtCommandData}
      (hlast : c.pendingNmtCommands.getLast? = some (command, nodeId, data)) :
      OwnWay c t (send ((c.slotCommand nodeId).buildNmtCommandFrame command nodeId data))
        (c.slotCommand nodeId)
  | request {request : ClientFrame} {frame : PowerlinkFrame}
      (hcommands : c.pendingNmtCommands = [])
      (hrequest : (c.sdoClientManager.getPendingRequest t c.core.od).1 = some request)
      (hbuild : (c.slotAsked t).buildSdoAsndRequest request.1 request.2.1 request.2.2 =
        .ok frame) : OwnWay c t (send frame) ((c.slotAsked t).count 7)
  | frame {frame : PowerlinkFrame} (hcommands : c.pendingNmtCommands = [])
      (hlast : c.mnAsyncSendQueue.getLast? = some frame) :
      OwnWay c t (send frame)
        (count { c.slotAsked t with mnAsyncSendQueue := c.mnAsyncSendQueue.dropLast } 5)
  | unused (hcommands : c.pendingNmtCommands = []) : OwnWay c t .noAction (c.slotAsked t)

theorem sendOwnAsync_way {c d : MnContext σ} {t : ℕ} {action : NodeAction}
    (h : c.sendOwnAsync t = (action, d)) : OwnWay c t action d := by
  dsimp only [sendOwnAsync] at h
  split at h
  · rename_i command nodeId data hlast
    obtain ⟨rfl, rfl⟩ := Prod.mk.inj h
    exact .command hlast
  · rename_i hnone
    have hcommands : c.pendingNmtCommands = [] := List.getLast?_eq_none_iff.mp hnone
    split at h
    · rename_i frame hframe
      obtain ⟨request, hrequest, hbuild⟩ := Option.bind_eq_some_iff.mp hframe
      obtain ⟨rfl, rfl⟩ := Prod.mk.inj h
      exact .request hcommands hrequest (eq_ok_of_toOption hbuild)
    · split at h
      · rename_i frame hlast
        obtain ⟨rfl, rfl⟩ := Prod.mk.inj h
        exact .frame hcommands hlast
      · obtain ⟨rfl, rfl⟩ := Prod.mk.inj h
        exact .unused hcommands

end MnContext

end Powerlink
