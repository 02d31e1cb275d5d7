import Powerlink.Mn.SdoFrames

/-! # SDO requests on the wire

The manager of the SDO clients hands a request out in two places.  The asynchronous scheduler queues
a frame for it, but serializes the request into a vector of length zero, so that the frame has no
payload.  The own slot builds a frame whose payload is four octets too short for the command.

`SdoSound` is what this needs of a context: the invariants of the two sides of the SDO layer, and no
payload in the queued SDO frames.  Each function of a call keeps `SdoSound`, and each branch of a
call returns an unread action (`call_unread`).  No request therefore ever reaches the wire
(`no_request_is_sent`). -/

namespace Powerlink

/-! ### Process data -/

section processData

variable {σ : Type}

/-- An entry of a TPDO mapping does not touch the SDO server. -/
theorem sdoServer_buildTpdoEntry (core : CoreNodeContext σ) (payloadLimit : ℕ)
    (payload : List UInt8) (entry : PdoMappingEntry) :
    (buildTpdoEntry core payloadLimit payload entry).2.sdoServer = core.sdoServer := by
  unfold buildTpdoEntry
  split
  · split_ifs
    · rfl
    · rfl
    · rfl
    · split <;> rfl
  · rfl

theorem sdoServer_buildTpdoEntries (payloadLimit : ℕ) :
    ∀ (entries : List PdoMappingEntry) (core : CoreNodeContext σ) (payload : List UInt8),
      (buildTpdoEntries payloadLimit core payload entries).2.sdoServer = core.sdoServer
  | [], _, _ => rfl
  | entry :: entries, core, payload => by
      have hentry := sdoServer_buildTpdoEntry core payloadLimit payload entry
      rw [buildTpdoEntries]
      split
      · rename_i heq
        rwa [heq] at hentry
      · rename_i core' heq
        rw [heq] at hentry
        exact (sdoServer_buildTpdoEntries payloadLimit entries core' _).trans hentry

theorem sdoServer_buildTpdoPayload (core : CoreNodeContext σ) (channelIndex : UInt8) :
    (buildTpdoPayload core channelIndex).2.sdoServer = core.sdoServer := by
  dsimp only [buildTpdoPayload]
  split
  · rename_i numEntries _
    have hentries := sdoServer_buildTpdoEntries
      (min ((core.od.readU16 0x1F8B ((core.od.readU8 (0x1800 + channelIndex.toUInt16) 1).getD
        0)).getD 36).toNat 1490)
      (mappingEntries core.od (0x1A00 + channelIndex.toUInt16) numEntries) core
      (List.replicate (min ((core.od.readU16 0x1F8B
        ((core.od.readU8 (0x1800 + channelIndex.toUInt16) 1).getD 0)).getD 36).toNat 1490) 0)
    split
    · rename_i heq
      rwa [heq] at hentries
    · rename_i heq
      rwa [heq] at hentries
  · rfl

variable [ObjectDictionaryStorage σ]

theorem sdoServer_consumePdoPayload {s s' : PdoState σ} {source : NodeId} {payload : List UInt8}
    {version : PDOVersion} {isReady : Bool}
    (h : consumePdoPayload s source payload version isReady = some s') :
    s'.1.sdoServer = s.1.sdoServer := by
  obtain ⟨_, _, _, rfl⟩ := received_consumePdoPayload h
  rfl

end processData

namespace MnContext

variable {σ : Type}

/-! ### The SDO layer of a context -/

/-- The SDO clients, the SDO server and the queued frames. -/
structure SdoView where
  client : SdoClientManager
  server : SdoServer DefaultSdoHandler
  frames : List PowerlinkFrame

/-- The SDO layer of a context. -/
def sdoView (c : MnContext σ) : SdoView where
  client := c.sdoClientManager
  server := c.core.sdoServer
  frames := c.mnAsyncSendQueue

/-- The clients hold requests, the server responses, and the queued SDO frames have no payload. -/
structure SdoSound (c : MnContext σ) : Prop where
  client : c.sdoClientManager.Ok
  server : c.core.sdoServer.Ready
  frames : ∀ frame ∈ c.mnAsyncSendQueue, frame.Bare

/-- A step that keeps the SDO layer sound. -/
def KeepsSdo (c d : MnContext σ) : Prop := c.SdoSound → d.SdoSound

theorem KeepsSdo.refl (c : MnContext σ) : KeepsSdo c c := id

theorem KeepsSdo.trans {c d e : MnContext σ} (h : KeepsSdo c d) (h' : KeepsSdo d e) :
    KeepsSdo c e := fun hc => h' (h hc)

theorem SdoSound.of_view {c d : MnContext σ} (hc : c.SdoSound) (h : d.sdoView = c.sdoView) :
    d.SdoSound := by
  have hclient : d.sdoClientManager = c.sdoClientManager := congrArg SdoView.client h
  have hserver : d.core.sdoServer = c.core.sdoServer := congrArg SdoView.server h
  have hframes : d.mnAsyncSendQueue = c.mnAsyncSendQueue := congrArg SdoView.frames h
  exact ⟨hclient ▸ hc.client, hserver ▸ hc.server, hframes ▸ hc.frames⟩

/-- Most steps do not touch the SDO layer. -/
theorem keepsSdo_of_view {c d : MnContext σ} (h : d.sdoView = c.sdoView) : KeepsSdo c d :=
  fun hc => hc.of_view h

theorem keepsSdo_manager {c : MnContext σ} {manager : SdoClientManager}
    (h : c.sdoClientManager.Ok → manager.Ok) :
    KeepsSdo c { c with sdoClientManager := manager } :=
  fun hc => ⟨h hc.client, hc.server, hc.frames⟩

theorem keepsSdo_server {c : MnContext σ} {core : CoreNodeContext σ}
    (h : c.core.sdoServer.Ready → core.sdoServer.Ready) : KeepsSdo c { c with core := core } :=
  fun hc => ⟨hc.client, h hc.server, hc.frames⟩

theorem keepsSdo_queue (c : MnContext σ) {frame : PowerlinkFrame} (h : frame.Bare) :
    KeepsSdo c { c with mnAsyncSendQueue := c.mnAsyncSendQueue ++ [frame] } := by
  intro hc
  refine ⟨hc.client, hc.server, ?_⟩
  intro f hmem
  obtain hmem | hmem := List.mem_append.mp hmem
  · exact hc.frames f hmem
  · rw [List.mem_singleton.mp hmem]
    exact h

/-! ### The tracked nodes and the NMT state -/

theorem keepsSdo_track (c : MnContext σ) (nodeId : NodeId) (new : CnState) :
    KeepsSdo c (c.track nodeId new) := by
  unfold track
  split
  · exact KeepsSdo.refl c
  · split_ifs
    · exact KeepsSdo.refl c
    · exact keepsSdo_of_view rfl

variable [ObjectDictionaryStorage σ]

theorem keepsSdo_processNmtEvent (c : MnContext σ) (event : NmtEvent) :
    KeepsSdo c (c.processNmtEvent event) := by
  dsimp only [processNmtEvent]
  split_ifs
  · exact keepsSdo_of_view rfl
  · exact keepsSdo_of_view rfl

/-- The updates of a received frame keep the SDO layer sound; a download is one of them. -/
theorem Touch.keepsSdo {c d : MnContext σ} (h : Touch c d) : KeepsSdo c d := by
  cases h with
  | track nodeId _ => exact c.keepsSdo_track nodeId _
  | note nodeId _ _ => exact keepsSdo_of_view rfl
  | nmt _ => exact c.keepsSdo_processNmtEvent _
  | ready => exact keepsSdo_of_view rfl
  | validated nodeId cache => exact keepsSdo_of_view rfl
  | download nodeId dcf t =>
      exact keepsSdo_manager
        (fun hok => SdoClientManager.Ok.startConfigurationDownload hok nodeId dcf t c.core.od)

theorem Touches.keepsSdo {c d : MnContext σ} (h : Touches c d) : KeepsSdo c d := by
  induction h with
  | refl => exact KeepsSdo.refl c
  | tail _ hstep ih => exact ih.trans hstep.keepsSdo

/-! ### Received frames -/

theorem keepsSdo_handlePresFrame (c : MnContext σ) (pres : PResFrame) :
    KeepsSdo c (c.handlePresFrame pres) := by
  dsimp only [handlePresFrame]
  generalize hd : record c _ = d
  have hrecord : KeepsSdo c d := by
    rw [← hd]
    exact keepsSdo_of_view rfl
  have hrequest : KeepsSdo c (d.queueRequest pres) := by
    refine hrecord.trans ?_
    unfold queueRequest
    split_ifs
    · exact keepsSdo_of_view rfl
    · exact KeepsSdo.refl d
  split
  · exact hrequest
  · refine hrequest.trans ?_
    generalize d.queueRequest pres = e
    rename_i info _
    have hflag : KeepsSdo e (e.checkExceptionFlag pres info) := keepsSdo_of_view rfl
    exact hflag.trans (touches_checkCommunication _ pres info).keepsSdo

theorem keepsSdo_handleAsndFrame (c : MnContext σ) (frame : ASndFrame) (t : ℕ) :
    KeepsSdo c (c.handleAsndFrame frame t) := by
  unfold handleAsndFrame
  split
  · exact (c.touches_handleIdentResponse frame t).keepsSdo
  · dsimp only [handleStatusResponse]
    split
    · exact KeepsSdo.refl c
    · split
      · exact keepsSdo_of_view rfl
      · refine KeepsSdo.trans ?_ (touches_updateCnState _ _ _).keepsSdo
        exact keepsSdo_of_view rfl
  · exact KeepsSdo.refl c

theorem keepsSdo_processAsnd (c : MnContext σ) (frame : ASndFrame) (t : ℕ) :
    KeepsSdo c (c.processAsnd frame t) := by
  dsimp only [processAsnd]
  split_ifs
  · refine KeepsSdo.trans (KeepsSdo.trans ?_ (keepsSdo_handleAsndFrame _ frame t))
      (keepsSdo_of_view rfl)
    exact keepsSdo_of_view rfl
  · refine KeepsSdo.trans ?_ (keepsSdo_handleAsndFrame _ frame t)
    exact keepsSdo_of_view rfl

omit [ObjectDictionaryStorage σ] in
theorem keepsSdo_processSdoResponse {c d : MnContext σ} {frame : ASndFrame}
    (h : c.processSdoResponse frame = some d) : KeepsSdo c d := by
  have hcount : KeepsSdo c (c.count 6) := keepsSdo_of_view rfl
  cases processSdoResponse_way h with
  | dropped => exact hcount
  | handled hmanager =>
      exact hcount.trans (keepsSdo_manager (fun hok => hok.handleResponse hmanager))

/-! ### Events of the data link layer -/

theorem DllTouch.keepsSdo {c d : MnContext σ} (h : DllTouch c d) : KeepsSdo c d := by
  cases h with
  | machine m => exact keepsSdo_of_view rfl
  | counters counters => exact keepsSdo_of_view rfl
  | lose nodeId =>
      refine KeepsSdo.trans (c.keepsSdo_track nodeId .missing) ?_
      exact keepsSdo_of_view rfl

theorem keepsSdo_handleDllEvent (c : MnContext σ) (event : DllMsEvent) (frame : PowerlinkFrame) :
    KeepsSdo c (c.handleDllEvent event frame) := by
  have hrun : ∀ d, DllTouches c d → KeepsSdo c d := by
    intro d h
    induction h with
    | refl => exact KeepsSdo.refl c
    | tail _ hstep ih => exact ih.trans hstep.keepsSdo
  exact hrun _ (c.touches_handleDllEvent event frame)

/-! ### The branches of a received frame -/

theorem keepsSdo_presPoint {c d : MnContext σ} {pres : PResFrame} {t : ℕ}
    (h : (c.presPoint pres t).context = some d) : KeepsSdo c d := by
  dsimp only [presPoint] at h
  have hdll := c.keepsSdo_handleDllEvent .pres (.pRes pres)
  have hcount : KeepsSdo (c.handleDllEvent .pres (.pRes pres))
      ((c.handleDllEvent .pres (.pRes pres)).count 2) := keepsSdo_of_view rfl
  have htracked := (hdll.trans hcount).trans (touches_trackPres _ pres t).keepsSdo
  generalize ((c.handleDllEvent .pres (.pRes pres)).count 2).trackPres pres t = e at h htracked
  split_ifs at h
  · split at h
    · cases h
    · rename_i r hconsume
      obtain rfl := Option.some.inj h
      refine (htracked.trans ?_).trans (keepsSdo_handlePresFrame _ pres)
      intro he
      refine ⟨he.client, ?_, he.frames⟩
      show r.1.sdoServer.Ready
      rw [sdoServer_consumePdoPayload hconsume]
      exact he.server
  · obtain rfl := Option.some.inj h
    exact htracked.trans (e.keepsSdo_handlePresFrame pres)

/-- An SDO request to the node is answered with a response, which is not sent. -/
theorem keepsSdo_afterRequest (c : MnContext σ) (payload : List UInt8) (client : SdoClientInfo)
    (t : ℕ) : KeepsSdo c (c.afterRequest payload client t) :=
  fun hc => ⟨hc.client, (SdoServer.handleRequest_spec hc.server payload client c.core.od t).1,
    hc.frames⟩

theorem handleSdoServerRequest_unread {c d : MnContext σ} {payload : List UInt8}
    {client : SdoClientInfo} {t : ℕ} {action : NodeAction} (hc : c.SdoSound)
    (h : c.handleSdoServerRequest payload client t = (action, d)) :
    d.SdoSound ∧ action.Unread := by
  have hafter := c.keepsSdo_afterRequest payload client t hc
  have hsendable := (SdoServer.handleRequest_spec hc.server payload client c.core.od t).2
  cases handleSdoServerRequest_way h with
  | unanswered => exact ⟨hafter, NodeAction.unread_noAction⟩
  | answered hresponse hbuild =>
      exact absurd hbuild (asndBuildResponse_of_sendable (hsendable _ hresponse))

theorem keepsSdo_asndPoint {c d : MnContext σ} {frame : ASndFrame} {t : ℕ}
    (h : (c.asndPoint frame t).context = some d) : KeepsSdo c d := by
  unfold asndPoint at h
  split_ifs at h
  · split at h
    · cases h
    · rename_i e hresponse
      obtain rfl := Option.some.inj h
      exact keepsSdo_processSdoResponse hresponse
  · obtain rfl := Option.some.inj h
    have hcount : KeepsSdo c (c.count 6) := keepsSdo_of_view rfl
    exact hcount.trans (fun hc => (handleSdoServerRequest_unread hc rfl).1)
  · obtain rfl := Option.some.inj h
    exact (c.keepsSdo_handleDllEvent .asnd (.aSnd frame)).trans (keepsSdo_processAsnd _ frame t)

theorem keepsSdo_receivePoint {c d : MnContext σ} {input : CycleInput}
    (h : (c.receivePoint input).context = some d) : KeepsSdo c d := by
  unfold receivePoint at h
  split at h
  · obtain rfl := Option.some.inj h
    exact KeepsSdo.refl c
  · split_ifs at h
    · obtain rfl := Option.some.inj h
      exact c.keepsSdo_processNmtEvent .error
    · split at h
      · rename_i frame _
        unfold framePoint at h
        split at h
        · exact keepsSdo_presPoint h
        · exact keepsSdo_asndPoint h
        · obtain rfl := Option.some.inj h
          exact KeepsSdo.refl c
      · obtain rfl := Option.some.inj h
        exact KeepsSdo.refl c
    · obtain rfl := Option.some.inj h
      exact KeepsSdo.refl c

/-- Only an SDO request is answered at once. -/
theorem unread_receivePoint {c d : MnContext σ} {input : CycleInput} {action : NodeAction}
    (hc : c.SdoSound) (h : c.receivePoint input = .reply action d) : action.Unread := by
  obtain ⟨_, _, _, hrequest⟩ := exists_request_of_reply h
  have hcount : KeepsSdo c (c.count 6) := keepsSdo_of_view rfl
  exact (handleSdoServerRequest_unread (hcount hc) hrequest).2

omit [ObjectDictionaryStorage σ] in
theorem unread_udpBuildResponse {data : SdoResponseData} {action : NodeAction}
    (h : udpBuildResponse data = .ok action) : action.Unread := by
  obtain ⟨ip, port, payload, rfl⟩ := sendUdp_of_udpBuildResponse h
  exact NodeAction.unread_sendUdp _ _ _

/-- What a step does: it keeps the SDO layer sound, and no request can be read in its action. -/
def StaysUnread (c : MnContext σ) (r : NodeAction × MnContext σ) : Prop :=
  c.SdoSound → r.2.SdoSound ∧ r.1.Unread

theorem receiveUdp_unread {c d : MnContext σ} {input : CycleInput} {action : NodeAction}
    (hc : c.SdoSound) (h : c.receiveUdp input = (action, d)) : d.SdoSound ∧ action.Unread := by
  have hcount : KeepsSdo c (c.count 6) := keepsSdo_of_view rfl
  cases receiveUdp_way h with
  | dropped => exact ⟨hc, NodeAction.unread_noAction⟩
  | unanswered payload client =>
      exact ⟨keepsSdo_afterRequest _ payload client _ (hcount hc), NodeAction.unread_noAction⟩
  | answered payload client =>
      have hafter := keepsSdo_afterRequest _ payload client input.currentTimeUs (hcount hc)
      exact ⟨hafter.of_view rfl, NodeAction.unread_sendUdp _ _ _⟩

/-! ### The asynchronous phase -/

section asynchronous

omit [ObjectDictionaryStorage σ]

theorem keepsSdo_afterSdo (c : MnContext σ) : KeepsSdo c c.afterSdo :=
  keepsSdo_manager (fun hok => (SdoClientManager.getPendingRequest_spec hok _ _).1)

/-- The frames that a choice queues have no payload. -/
theorem keepsSdo_apply (c : MnContext σ) (choice : AsyncChoice) :
    KeepsSdo c (choice.apply c).2 := by
  have hafter := c.keepsSdo_afterSdo
  cases choice with
  | exception nodeId => exact keepsSdo_of_view rfl
  | status nodeId => exact keepsSdo_of_view rfl
  | own => exact KeepsSdo.refl c
  | request frame =>
      exact hafter.trans (c.afterSdo.keepsSdo_queue (c.bare_sdoRequestFrame frame))
  | publish serviceId =>
      exact hafter.trans (c.afterSdo.keepsSdo_queue (c.bare_buildNmtInfoFrame serviceId))
  | identify nodeId => exact hafter.trans (keepsSdo_of_view rfl)
  | poll nodeId => exact hafter.trans (keepsSdo_of_view rfl)
  | grant request rest => exact hafter.trans (keepsSdo_of_view rfl)
  | nothing => exact hafter

theorem staysUnread_sendSoa (c : MnContext σ) (action : AsyncAction) (t : ℕ) :
    StaysUnread c (c.sendSoa action t) := by
  intro hc
  refine ⟨?_, unread_of_bare (bare_buildSoaFrame _ _ _ _)⟩
  have hphase : KeepsSdo c (c.enterAsyncPhase action t) := by
    unfold enterAsyncPhase
    split_ifs
    · exact keepsSdo_of_view rfl
    · exact keepsSdo_of_view rfl
    · exact keepsSdo_of_view rfl
  have hcount : KeepsSdo (c.enterAsyncPhase action t)
      ((c.enterAsyncPhase action t).countSoa action.1) := by
    unfold countSoa
    split_ifs
    · exact keepsSdo_of_view rfl
    · exact keepsSdo_of_view rfl
  exact (hcount (hphase hc)).of_view rfl

theorem keepsSdo_buildPreqFrame (c : MnContext σ) (nodeId : NodeId) (isMultiplexed : Bool) :
    KeepsSdo c (c.buildPreqFrame nodeId isMultiplexed).2 := by
  have hcore : (c.preqPayload nodeId).2.sdoServer = c.core.sdoServer := by
    unfold preqPayload
    split
    · rfl
    · exact sdoServer_buildTpdoPayload _ _
  have hserver : KeepsSdo c { c with core := (c.preqPayload nodeId).2 } :=
    keepsSdo_server (fun hready => hcore ▸ hready)
  unfold buildPreqFrame
  split
  · exact KeepsSdo.refl c
  · dsimp only
    split
    · exact hserver
    · exact hserver

theorem bare_buildPreqFrame (c : MnContext σ) (nodeId : NodeId) (isMultiplexed : Bool) :
    (c.buildPreqFrame nodeId isMultiplexed).1.Bare := by
  unfold buildPreqFrame
  split
  · exact bare_soc _
  · dsimp only
    split
    · exact bare_soc _
    · exact bare_pReq _

theorem staysUnread_pollNode (c : MnContext σ) (nodeId : NodeId) (t : ℕ) :
    StaysUnread c (c.pollNode nodeId t) := by
  intro hc
  dsimp only [pollNode]
  generalize hs : scheduleTimeout _ _ _ = s
  have hscheduled : KeepsSdo c s := by
    rw [← hs]
    exact keepsSdo_of_view rfl
  have hbuilt : KeepsSdo s (s.record (.built nodeId (s.canPoll nodeId))) := keepsSdo_of_view rfl
  generalize record s _ = d at hbuilt ⊢
  have hpreq := d.keepsSdo_buildPreqFrame nodeId (decide (0 < d.assignedCycle nodeId))
  refine ⟨?_, unread_of_bare (d.bare_buildPreqFrame nodeId _)⟩
  exact (hpreq (hbuilt (hscheduled hc))).of_view rfl

theorem keepsSdo_endPoint (c : MnContext σ) : KeepsSdo c c.endPoint.context := by
  dsimp only [endPoint]
  split
  · exact keepsSdo_of_view rfl
  · exact keepsSdo_of_view rfl

theorem keepsSdo_advancePoint (c : MnContext σ) : KeepsSdo c c.advancePoint.context := by
  unfold advancePoint
  split_ifs
  · have hnext : KeepsSdo c (c.getNextIsochronousNodeToPoll c.currentMultiplexCycle).2 :=
      keepsSdo_of_view rfl
    split
    · rename_i nodeId d heq
      rw [heq] at hnext
      exact hnext
    · rename_i d heq
      rw [heq] at hnext
      exact hnext.trans d.keepsSdo_endPoint
  · exact c.keepsSdo_endPoint

/-- The phase advances with a PReq, with a frame that has no payload, or with a SoA. -/
theorem staysUnread_advanceCyclePhase {c : MnContext σ} {t : ℕ} {r : NodeAction × MnContext σ}
    (h : c.advanceCyclePhase t = some r) : StaysUnread c r := by
  intro hc
  have hpoint := c.keepsSdo_advancePoint hc
  rw [advanceCyclePhase_eq] at h
  cases hbranch : c.advancePoint with
  | poll nodeId e =>
      rw [hbranch] at h hpoint
      obtain rfl := Option.some.inj h
      exact e.staysUnread_pollNode nodeId t hpoint
  | publish serviceId e =>
      rw [hbranch] at h hpoint
      obtain rfl := Option.some.inj h
      exact ⟨hpoint.of_view rfl, unread_of_bare (bare_buildNmtInfoFrame _ serviceId)⟩
  | schedule e =>
      rw [hbranch] at h hpoint
      obtain ⟨choice, -, rfl⟩ := Option.map_eq_some_iff.mp h
      exact staysUnread_sendSoa _ _ t (e.keepsSdo_apply choice hpoint)

/-- The scheduler is handed out requests. -/
theorem handsOut_of_advanceChoices {c : MnContext σ} (hc : c.SdoSound) {request : ClientFrame}
    (h : .request request ∈ c.advanceChoices) : SdoClientConnection.HandsOut request.2 := by
  have hpoint := c.keepsSdo_advancePoint hc
  unfold advanceChoices at h
  split at h
  · rename_i e hbranch
    rw [hbranch] at hpoint
    obtain ⟨-, -, hrequest⟩ := found_asyncChoice (Option.mem_toList.mp h)
    exact (SdoClientManager.getPendingRequest_spec hpoint.client _ _).2 request hrequest
  · cases h

/-- The own slot sends an NMT command, a request or a queued frame. -/
theorem sendOwnAsync_unread {c d : MnContext σ} {t : ℕ} {action : NodeAction} (hc : c.SdoSound)
    (h : c.sendOwnAsync t = (action, d)) : d.SdoSound ∧ action.Unread := by
  have hspec := SdoClientManager.getPendingRequest_spec hc.client t c.core.od
  have hasked : (c.slotAsked t).SdoSound := ⟨hspec.1, hc.server, hc.frames⟩
  cases sendOwnAsync_way h with
  | command => exact ⟨hc.of_view rfl, unread_of_bare (bare_buildNmtCommandFrame _ _ _ _)⟩
  | request _ hrequest hbuild =>
      exact ⟨hasked.of_view rfl,
        unread_buildSdoAsndRequest hbuild (hspec.2 _ hrequest).2.misread⟩
  | @frame frame _ hlast =>
      refine ⟨⟨hspec.1, hc.server, ?_⟩,
        unread_of_bare (hc.frames frame (List.mem_of_getLast? hlast))⟩
      exact fun f hmem => hc.frames f (List.mem_of_mem_dropLast hmem)
  | unused => exact ⟨hasked, NodeAction.unread_noAction⟩

end asynchronous

/-! ### The tick -/

section tick

omit [ObjectDictionaryStorage σ]

/-- A timeout of a client sends the kept request again, or an abort. -/
theorem tickSdoClient_unread {c d : MnContext σ} {t : ℕ} {action : Option NodeAction}
    (hc : c.SdoSound) (h : c.tickSdoClient t = (action, d)) :
    d.SdoSound ∧ ∀ a, action = some a → a.Unread := by
  have hspec := SdoClientManager.tick_spec hc.client t c.core.od
  have hticked : (c.clientsTicked t).SdoSound := ⟨hspec.1, hc.server, hc.frames⟩
  cases tickSdoClient_way h with
  | silent => exact ⟨hticked, nofun⟩
  | send hrequest hbuild =>
      refine ⟨hticked.of_view rfl, fun a ha => ?_⟩
      rw [← Option.some.inj ha]
      exact unread_buildSdoAsndRequest hbuild (hspec.2 _ hrequest)

/-- A timeout of the server is a response, which is not sent in a frame. -/
theorem tickSdoServer_unread {c d : MnContext σ} {t : ℕ} {action : Option NodeAction}
    (hc : c.SdoSound) (h : c.tickSdoServer t = (action, d)) :
    d.SdoSound ∧ ∀ a, action = some a → a.Unread := by
  have hspec := SdoServer.tick_spec hc.server t c.core.od
  have hticked : (c.serverTicked t).SdoSound := ⟨hc.client, hspec.1, hc.frames⟩
  cases tickSdoServer_way h with
  | idle => exact ⟨hc, nofun⟩
  | silent => exact ⟨hticked, nofun⟩
  | unsent => exact ⟨hticked.of_view rfl, nofun⟩
  | send hresponse hbuild =>
      refine ⟨hticked.of_view rfl, fun a ha => ?_⟩
      rw [← Option.some.inj ha]
      unfold buildResponse at hbuild
      split at hbuild
      · exact absurd hbuild (asndBuildResponse_of_sendable (hspec.2 _ hresponse))
      · exact unread_udpBuildResponse hbuild

theorem initialOperationalActions_unread {c d : MnContext σ} {action : Option NodeAction}
    (h : c.initialOperationalActions = (action, d)) :
    KeepsSdo c d ∧ ∀ a, action = some a → a.Unread := by
  cases initialOperationalActions_way h with
  | broadcast =>
      refine ⟨keepsSdo_of_view rfl, fun a ha => ?_⟩
      rw [← Option.some.inj ha]
      exact unread_of_bare (bare_buildNmtCommandFrame _ _ _ _)
  | command => exact ⟨keepsSdo_of_view rfl, nofun⟩
  | nobody => exact ⟨keepsSdo_of_view rfl, nofun⟩
  | reset => exact ⟨keepsSdo_of_view rfl, nofun⟩
  | settled => exact ⟨KeepsSdo.refl c, nofun⟩

/-- The branch of a tick is taken with a sound SDO layer, and an answer is unread. -/
def TickPoint.Sound : TickPoint σ → Prop
  | answer action c => c.SdoSound ∧ action.Unread
  | start c => c.SdoSound
  | activate c => c.SdoSound
  | deliver _ c => c.SdoSound
  | advance c => c.SdoSound
  | own c => c.SdoSound
  | rest c => c.SdoSound

theorem DeadlineWay.sound {c : MnContext σ} {p : TickPoint σ} (h : DeadlineWay c p)
    (hc : c.SdoSound) : p.Sound := by
  have hnext : ∀ next, SdoSound { c with nextTickUs := next } := fun _ => hc.of_view rfl
  cases h with
  | broadcast next h =>
      obtain ⟨hkeeps, hunread⟩ := initialOperationalActions_unread h
      exact ⟨hkeeps (hnext next), hunread _ rfl⟩
  | own next h => exact (initialOperationalActions_unread h).1 (hnext next)
  | proceed next h => exact (initialOperationalActions_unread h).1 (hnext next)
  | pause next later h =>
      have hd := (initialOperationalActions_unread h).1 (hnext next)
      exact hd.of_view rfl
  | _ => exact hnext _

theorem TickWay.sound {c : MnContext σ} {p : TickPoint σ} {t : ℕ} (h : TickWay c t p)
    (hc : c.SdoSound) : p.Sound := by
  cases h with
  | start => exact hc
  | client hclient =>
      obtain ⟨hd, hunread⟩ := tickSdoClient_unread hc hclient
      exact ⟨hd, hunread _ rfl⟩
  | server hclient hserver =>
      obtain ⟨he, hunread⟩ := tickSdoServer_unread (tickSdoClient_unread hc hclient).1 hserver
      exact ⟨he, hunread _ rfl⟩
  | deadline hclient hserver hway =>
      exact hway.sound (tickSdoServer_unread (tickSdoClient_unread hc hclient).1 hserver).1

theorem sound_tickPoint {c : MnContext σ} (hc : c.SdoSound) (t : ℕ) : (c.tickPoint t).Sound :=
  (c.tickPoint_way t).sound hc

end tick

theorem staysUnread_startCycle (c : MnContext σ) (t : ℕ) : StaysUnread c (c.startCycle t) := by
  intro hc
  dsimp only [startCycle]
  have hbegin : (c.beginCycle t).SdoSound := hc.of_view rfl
  exact ⟨((c.beginCycle t).keepsSdo_handleDllEvent .socTrig _ hbegin).of_view rfl,
    unread_of_bare (bare_soc _)⟩

theorem sound_timeoutContext {c : MnContext σ} (hc : c.SdoSound) (event : DllMsEvent) (t : ℕ) :
    (c.timeoutContext event t).SdoSound := by
  have hdelivered : SdoSound (record { c with pendingTimeoutEvent := none } (.timedOut event t)) :=
    hc.of_view rfl
  exact keepsSdo_handleDllEvent _ event timeoutFrame hdelivered

theorem TickPoint.Sound.run {p : TickPoint σ} {t : ℕ} {action : NodeAction} {d : MnContext σ}
    (hp : p.Sound) (h : p.run t = some (action, d)) : d.SdoSound ∧ action.Unread := by
  cases p with
  | start e =>
      have hstart := e.staysUnread_startCycle t hp
      rwa [Option.some.inj h] at hstart
  | answer a e =>
      obtain ⟨rfl, rfl⟩ := Prod.mk.inj (Option.some.inj h)
      exact hp
  | activate e =>
      obtain ⟨rfl, rfl⟩ := Prod.mk.inj (Option.some.inj h)
      exact ⟨e.keepsSdo_processNmtEvent .timeout hp, NodeAction.unread_noAction⟩
  | deliver event e =>
      exact staysUnread_advanceCyclePhase (c := e.timeoutContext event t) h
        (sound_timeoutContext hp event t)
  | advance e => exact staysUnread_advanceCyclePhase h hp
  | own e =>
      exact sendOwnAsync_unread hp (Option.some.inj h)
  | rest e =>
      obtain ⟨rfl, rfl⟩ := Prod.mk.inj (Option.some.inj h)
      exact ⟨hp, NodeAction.unread_noAction⟩

/-! ### The whole call -/

theorem receiveRun_unread {c d : MnContext σ} {input : CycleInput} {action : NodeAction}
    (hc : c.SdoSound) (h : (c.receivePoint input).run input.currentTimeUs = some (action, d)) :
    d.SdoSound ∧ action.Unread := by
  cases hpoint : c.receivePoint input with
  | panic =>
      rw [hpoint] at h
      cases h
  | pass e =>
      rw [hpoint] at h
      obtain ⟨rfl, rfl⟩ := Prod.mk.inj (Option.some.inj h)
      exact ⟨keepsSdo_receivePoint (by rw [hpoint]; rfl) hc, NodeAction.unread_noAction⟩
  | reply a e =>
      rw [hpoint] at h
      obtain ⟨rfl, rfl⟩ := Prod.mk.inj (Option.some.inj h)
      exact ⟨keepsSdo_receivePoint (by rw [hpoint]; rfl) hc, unread_receivePoint hc hpoint⟩
  | answered e =>
      have he : e.SdoSound := keepsSdo_receivePoint (by rw [hpoint]; rfl) hc
      rw [hpoint] at h
      obtain ⟨r, hadvance, heq⟩ := Option.map_eq_some_iff.mp h
      obtain ⟨rfl, rfl⟩ := Prod.mk.inj heq
      exact ⟨(staysUnread_advanceCyclePhase hadvance he).1, NodeAction.unread_noAction⟩

/-- A call keeps the SDO layer sound, and no request can be read in what it returns. -/
theorem runCycle_unread {c d : MnContext σ} {input : CycleInput} {action : NodeAction}
    (hc : c.SdoSound) (h : c.runCycle input = some (action, d)) : d.SdoSound ∧ action.Unread := by
  obtain hpath := runCycle_path h
  cases hpath with
  | frame hpoint haction => exact receiveRun_unread hc (by rw [hpoint]; rfl)
  | datagram hethernet hudp haction =>
      exact receiveUdp_unread (receiveRun_unread hc hethernet).1 hudp
  | tick hethernet hudp htick =>
      have hreceive := receiveUdp_unread (receiveRun_unread hc hethernet).1 hudp
      exact (sound_tickPoint hreceive.1 input.currentTimeUs).run htick

theorem sound_tickContext {c e : MnContext σ} {input : CycleInput} (hc : c.SdoSound)
    (h : c.tickContext input = some e) : e.SdoSound := by
  unfold tickContext at h
  split at h
  · rename_i d hethernet
    split at h
    · rename_i f hudp
      have hreceive := receiveUdp_unread (receiveRun_unread hc hethernet).1 hudp
      exact Option.some.inj h ▸ hreceive.1
    · cases h
  · cases h

theorem sound_ownSlot {c e : MnContext σ} {input : CycleInput} (hc : c.SdoSound)
    (h : c.ownSlot input = some e) : e.SdoSound := by
  obtain ⟨d, hcontext, -⟩ := Option.bind_eq_some_iff.mp h
  have hpoint := sound_tickPoint (sound_tickContext hc hcontext) input.currentTimeUs
  rw [tickPoint_of_ownSlot hcontext h] at hpoint
  exact hpoint

/-- The scheduler is handed out requests throughout a call. -/
theorem handsOut_of_choices {c : MnContext σ} {input : CycleInput} (hc : c.SdoSound)
    {request : ClientFrame} (h : .request request ∈ c.choices input) :
    SdoClientConnection.HandsOut request.2 := by
  obtain h | h := List.mem_append.mp h
  · cases hpoint : c.receivePoint input with
    | answered e =>
        rw [hpoint] at h
        have he : e.SdoSound := keepsSdo_receivePoint (by rw [hpoint]; rfl) hc
        exact handsOut_of_advanceChoices he h
    | _ =>
        rw [hpoint] at h
        cases h
  · split at h
    · rename_i d hcontext
      have hpoint := sound_tickPoint (sound_tickContext hc hcontext) input.currentTimeUs
      cases hbranch : d.tickPoint input.currentTimeUs with
      | deliver event e =>
          rw [hbranch] at h hpoint
          exact handsOut_of_advanceChoices (sound_timeoutContext hpoint event _) h
      | advance e =>
          rw [hbranch] at h hpoint
          exact handsOut_of_advanceChoices hpoint h
      | _ =>
          rw [hbranch] at h
          cases h
    · cases h

/-! ### The methods of the application -/

/-- A call of a method keeps the SDO layer sound, and no request can be read in what it returns. -/
theorem call_unread {c d : MnContext σ} {call : MnCall} {action : NodeAction} (hc : c.SdoSound)
    (h : c.call call = some (action, d)) : d.SdoSound ∧ action.Unread := by
  cases call with
  | runCycle input => exact runCycle_unread hc h
  | queueNmtStateCommand command target =>
      obtain ⟨rfl, rfl⟩ := Prod.mk.inj (Option.some.inj h)
      exact ⟨hc.of_view rfl, NodeAction.unread_noAction⟩
  | setHostname target hostname =>
      obtain ⟨rfl, rfl⟩ := Prod.mk.inj (Option.some.inj h)
      refine ⟨?_, NodeAction.unread_noAction⟩
      unfold setHostname
      split_ifs
      · exact hc
      · exact hc
      · exact hc.of_view rfl
  | flushArpEntry target =>
      obtain ⟨rfl, rfl⟩ := Prod.mk.inj (Option.some.inj h)
      exact ⟨hc.of_view rfl, NodeAction.unread_noAction⟩
  | readObject target index subIndex t =>
      obtain ⟨rfl, rfl⟩ := Prod.mk.inj (Option.some.inj h)
      have hclient :=
        SdoClientManager.Ok.readObjectByIndex hc.client target index subIndex t c.core.od
      exact ⟨⟨hclient, hc.server, hc.frames⟩, NodeAction.unread_noAction⟩
  | writeObject target index subIndex data t =>
      obtain ⟨rfl, rfl⟩ := Prod.mk.inj (Option.some.inj h)
      have hclient :=
        SdoClientManager.Ok.writeObjectByIndex hc.client target index subIndex data t c.core.od
      exact ⟨⟨hclient, hc.server, hc.frames⟩, NodeAction.unread_noAction⟩

omit [ObjectDictionaryStorage σ] in
theorem sound_initial (od : ObjectDictionary σ) (mac : MacAddress)
    (cfg : Option ConfigurationInterface) (machine : MnNmtStateMachine) (cycleTimeUs : ℕ)
    (lists : NodeLists) (publish : SortedMap UInt8 ServiceId) :
    (initial od mac cfg machine cycleTimeUs lists publish).SdoSound :=
  ⟨SdoClientManager.ok_new, SdoServer.ready_new, fun _ hmem => nomatch hmem⟩

end MnContext

/-! ### Runs -/

namespace ApiReturned

variable {σ : Type} [ObjectDictionaryStorage σ]

/-- The call is handed the request out, by the scheduler or in the own slot. -/
def TakesRequest (x : ApiReturned σ) (request : ClientFrame) : Prop :=
  match x.call with
  | .runCycle input => .request request ∈ x.before.choices input ∨
      ∃ e, x.before.ownSlot input = some e ∧ e.pendingNmtCommands = [] ∧
        (e.sdoClientManager.getPendingRequest input.currentTimeUs e.core.od).1 = some request
  | _ => False

/-- What a call is handed out is a request. -/
theorem TakesRequest.handsOut {x : ApiReturned σ} {request : ClientFrame}
    (h : x.TakesRequest request) (hsound : x.before.SdoSound) :
    SdoClientConnection.HandsOut request.2 := by
  unfold TakesRequest at h
  split at h
  · obtain hchoice | ⟨e, hslot, -, hrequest⟩ := h
    · exact MnContext.handsOut_of_choices hsound hchoice
    · have he := MnContext.sound_ownSlot hsound hslot
      exact (SdoClientManager.getPendingRequest_spec he.client _ _).2 request hrequest
  · cases h

end ApiReturned

namespace ApiRun

variable {σ : Type} [ObjectDictionaryStorage σ]

/-- Some continuation of the run has returned a frame that carries the request. -/
def CanSend (r : ApiRun σ) (request : ClientFrame) : Prop :=
  ∃ calls r', Runs.run (Runs.partialStep step) (some r) calls = some r' ∧
    ∃ x ∈ r'.returned, x.action.Carries request

/-- What has been returned is unread, and was returned with a sound SDO layer. -/
structure Unread (r : ApiRun σ) : Prop where
  context : r.context.SdoSound
  before : ∀ x ∈ r.returned, x.before.SdoSound
  actions : ∀ x ∈ r.returned, x.action.Unread

theorem Unread.call {r : ApiRun σ} {call : MnCall} {action : NodeAction} {d : MnContext σ}
    (h : r.Unread) (hcall : r.context.call call = some (action, d)) :
    Unread ⟨d, ⟨r.context, call, action, d⟩ :: r.returned⟩ := by
  obtain ⟨hd, haction⟩ := MnContext.call_unread h.context hcall
  exact ⟨hd, List.forall_mem_cons.mpr ⟨h.context, h.before⟩,
    List.forall_mem_cons.mpr ⟨haction, h.actions⟩⟩

theorem unread_throughout : Throughout (fun r : ApiRun σ => r.Unread) := by
  apply throughout_of_call
  · intro od mac cfg machine cycleTimeUs lists publish _
    refine ⟨MnContext.sound_initial _ _ _ _ _ _ _, ?_, ?_⟩
    · exact fun _ hx => nomatch hx
    · exact fun _ hx => nomatch hx
  · intro r call action d hr hcall
    exact hr.call hcall

/-- A request that was handed out is in no frame, however the run goes on. -/
theorem Unread.not_canSend {r : ApiRun σ} (h : r.Unread) {x : ApiReturned σ} (hx : x ∈ r.returned)
    {request : ClientFrame} (hrequest : x.TakesRequest request) : ¬ r.CanSend request := by
  rintro ⟨calls, r', hrun, y, hy, hcarries⟩
  have hkeep : ∀ (s : ApiRun σ) call s', s.Unread → s.step call = some s' → s'.Unread := by
    intro s call s' hs hstep
    obtain ⟨⟨action, d⟩, hcall, rfl⟩ := Option.map_eq_some_iff.mp hstep
    exact hs.call hcall
  have hreached : Runs.Reached Unread (some r) := h
  have hlast := (Runs.always_reached hkeep hreached calls).last
  rw [hrun] at hlast
  exact hlast.actions y hy request (hrequest.handsOut (h.before x hx)) hcarries

/-- No request that the manager of the clients hands out ever leaves the node. -/
theorem no_request_is_sent :
    Throughout (fun r : ApiRun σ =>
      ∀ x ∈ r.returned, ∀ request, x.TakesRequest request → ¬ r.CanSend request) :=
  unread_throughout.mono (fun _ hr _ hx _ hrequest => hr.not_canSend hx hrequest)

/-- The call is handed out some request by the scheduler. -/
def takesScheduled (x : ApiReturned σ) : Bool :=
  x.choices.any (fun choice => match choice with
    | .request _ => true
    | _ => false)

theorem exists_of_takesScheduled {x : ApiReturned σ} (h : takesScheduled x = true) :
    ∃ request, x.TakesRequest request := by
  obtain ⟨choice, hmem, hchoice⟩ := List.any_eq_true.mp h
  cases choice with
  | request request =>
      obtain ⟨before, call, action, after⟩ := x
      cases call with
      | runCycle input =>
          have htaken : .request request ∈ before.choices input := hmem
          exact ⟨request, Or.inl htaken⟩
      | _ => cases hmem
  | _ => cases hchoice

/-- The request to open the connection to node 1 is handed out with the first SoA, and lost. -/
theorem first_request_is_lost :
    ¬ Throughout (fun r : ApiRun Empty =>
      ∀ x ∈ r.returned, ∀ request, x.TakesRequest request → r.CanSend request) := by
  intro h
  have hsent := (h (mnDictionary 0 [1]) ⟨0, 0, 0, 0, 0, 240⟩ none
    [.readObject ⟨1⟩ 0x1006 0 0, .runCycle (.idle 0), .runCycle (.idle 10),
      .runCycle (.idle 1000), .runCycle (.idle 1001)]).last
  have hunread := (unread_throughout (mnDictionary 0 [1]) ⟨0, 0, 0, 0, 0, 240⟩ none
    [.readObject ⟨1⟩ 0x1006 0 0, .runCycle (.idle 0), .runCycle (.idle 10),
      .runCycle (.idle 1000), .runCycle (.idle 1001)]).last
  have htaken : (Runs.run (Runs.partialStep step)
      (start (mnDictionary 0 [1]) ⟨0, 0, 0, 0, 0, 240⟩ none)
      [.readObject ⟨1⟩ 0x1006 0 0, .runCycle (.idle 0), .runCycle (.idle 10),
        .runCycle (.idle 1000), .runCycle (.idle 1001)]).any
      (fun r => r.returned.any takesScheduled) = true := by decide +kernel
  generalize Runs.run _ _ _ = s at hsent hunread htaken
  obtain ⟨r, rfl, htaken⟩ := (Option.any_eq_true _ _).mp htaken
  obtain ⟨x, hx, hscheduled⟩ := List.any_eq_true.mp htaken
  obtain ⟨request, hrequest⟩ := exists_of_takesScheduled hscheduled
  exact Unread.not_canSend hunread hx hrequest (hsent x hx request hrequest)

end ApiRun

end Powerlink
