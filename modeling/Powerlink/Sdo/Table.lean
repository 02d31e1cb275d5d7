import Powerlink.Sdo.Handshake

/-! # The connection table of the server

The server prunes a connection that is closed after a request, but not when the request failed.
`table_bounded` says what this costs.

* A closed connection stays in the table exactly in the runs in which some request fails on a
  connection that it leaves closed (`LeavesClosed`).
* In the runs without such requests, a client that never completed a handshake has no entry at
  the end, provided that no upload was started on a closed connection (`UploadsUnconnected`), and
  that every client that opened a handshake sent another request (`HandshakesContinue`): an
  opening connection has no timeout. -/

namespace Powerlink

open SdoSequenceHandler

/-! ### The table after an event -/

namespace SdoServer

variable {σ η : Type} {server : SdoServer η}

/-- No connection of the table is closed. -/
def NoClosed (server : SdoServer η) : Prop :=
  ∀ clientInfo h, server.connections.get? clientInfo = some h → h.state ≠ .closed

theorem connection_of_get? {clientInfo : SdoClientInfo} {h : SdoSequenceHandler}
    (hget : server.connections.get? clientInfo = some h) : server.connection clientInfo = h := by
  rw [connection, hget, Option.getD_some]

theorem connection_of_get?_none {clientInfo : SdoClientInfo}
    (hget : server.connections.get? clientInfo = none) :
    server.connection clientInfo = .new clientInfo := by
  rw [connection, hget, Option.getD_none]

/-- A connection that is not closed has an entry. -/
theorem get?_connection {clientInfo : SdoClientInfo}
    (hs : (server.connection clientInfo).state ≠ .closed) :
    server.connections.get? clientInfo = some (server.connection clientInfo) := by
  cases hget : server.connections.get? clientInfo with
  | some h => rw [connection_of_get? hget]
  | none =>
      rw [connection_of_get?_none hget] at hs
      exact absurd rfl hs

section tick

variable {currentTimeUs : ℕ} {od : ObjectDictionary σ} {clientInfo : SdoClientInfo}
  {h h' : SdoSequenceHandler} {acc acc' : Option SdoResponseData × List SdoClientInfo}
  {e : PowerlinkError}

/-- A round of the loop of `tick` adds its client to the list if the connection is closed. -/
theorem tickConnection_prunes
    (hok : tickConnection currentTimeUs od clientInfo h acc = (.ok acc', h')) :
    acc.2 ⊆ acc'.2 ∧ (h'.state = .closed → clientInfo ∈ acc'.2) := by
  have hprune (h : SdoSequenceHandler) :
      acc.2 ⊆ (if h.isClosed then acc.2 ++ [clientInfo] else acc.2) ∧
        (h.state = .closed → clientInfo ∈ if h.isClosed then acc.2 ++ [clientInfo] else acc.2) := by
    by_cases hs : h.state = .closed <;> simp [SdoSequenceHandler.isClosed, hs]
  unfold tickConnection at hok
  dsimp only at hok
  split at hok
  · cases hok
    exact hprune h
  · split at hok
    · cases hok
    · cases hok
      exact hprune h'

/-- Nothing happens to the connections as long as none has something to send. -/
theorem tickConnection_silent
    (hok : tickConnection currentTimeUs od clientInfo h acc = (.ok acc', h'))
    (hsilent : acc'.1 = none) : acc.1 = none ∧ h' = h := by
  unfold tickConnection at hok
  dsimp only at hok
  split at hok
  · cases hok
    cases hsilent
  · rename_i hacc
    have hstep := tick_cases h od currentTimeUs
    generalize h.tick currentTimeUs od = out at hok hstep
    cases hstep with
    | quiet =>
        cases hok
        exact ⟨hacc, rfl⟩
    | resent => cases hok; cases hsilent
    | missing => cases hok
    | expired => cases hok; cases hsilent

/-- A failed round keeps the upload. -/
theorem tickConnection_error
    (herror : tickConnection currentTimeUs od clientInfo h acc = (.error e, h')) :
    acc.1 = none ∧ h'.state ≠ .closed := by
  unfold tickConnection at herror
  dsimp only at herror
  split at herror
  · cases herror
  · rename_i hacc
    have hstep := tick_cases h od currentTimeUs
    generalize h.tick currentTimeUs od = out at herror hstep
    cases hstep with
    | quiet | resent => cases herror
    | missing =>
        cases herror
        exact ⟨hacc, by simp⟩
    | expired => cases herror

/-- A tick leaves no closed connection behind. -/
theorem tick_noClosed (hserver : server.NoClosed) (currentTimeUs : ℕ) (od : ObjectDictionary σ) :
    (server.tick currentTimeUs od).2.NoClosed := by
  intro clientInfo h hget
  unfold tick at hget
  rcases hvisit : server.connections.visit (tickConnection currentTimeUs od) (none, []) with
    ⟨e | ⟨response, clientsToPrune⟩, connections⟩
  · rw [hvisit] at hget
    refine SortedMap.visit_error (P := fun h => h.state ≠ .closed) (J := fun acc => acc.1 = none)
      (f := tickConnection currentTimeUs od) (s := (none, [])) (e := e) ?_ ?_ (by rw [hvisit])
      hserver (by rw [hvisit]; exact hget)
    · intro k v acc acc' v' hok hsilent
      obtain ⟨hacc, rfl⟩ := tickConnection_silent hok hsilent
      exact ⟨hacc, id⟩
    · intro k v acc e' v' herror
      exact ⟨(tickConnection_error herror).1, fun _ => (tickConnection_error herror).2⟩
  · rw [hvisit] at hget
    simp only [SortedMap.get?_eraseAll] at hget
    split_ifs at hget with hpruned
    intro hclosed
    have hok : (server.connections.visit (tickConnection currentTimeUs od) (none, [])).1 =
        .ok (response, clientsToPrune) := by rw [hvisit]
    refine hpruned (SortedMap.visit_ok (R := fun acc k v => v.state = .closed → k ∈ acc.2) ?_ ?_
      hok (by rw [hvisit]; exact hget) hclosed)
    · intro k v acc acc' v' hok
      exact (tickConnection_prunes hok).2
    · intro k v acc acc' v' k₀ v₀ hok hR hs
      exact (tickConnection_prunes hok).1 (hR hs)

/-- A connection that is open or opening in the second state was so in the first. -/
def Inherits (s s' : SdoServerState) : Prop :=
  (s'.isOpen = true → s.isOpen = true) ∧ (s' = .opening → s = .opening)

theorem Inherits.refl (s : SdoServerState) : Inherits s s := ⟨id, id⟩

theorem Inherits.trans {s s' s'' : SdoServerState} (h₁ : Inherits s s') (h₂ : Inherits s' s'') :
    Inherits s s'' := ⟨h₁.1 ∘ h₂.1, h₁.2 ∘ h₂.2⟩

theorem Inherits.closed (s : SdoServerState) : Inherits s .closed := ⟨nofun, nofun⟩

theorem tickConnection_inherits (currentTimeUs : ℕ) (od : ObjectDictionary σ)
    (clientInfo : SdoClientInfo) (h : SdoSequenceHandler)
    (acc : Option SdoResponseData × List SdoClientInfo) :
    Inherits h.state (tickConnection currentTimeUs od clientInfo h acc).2.state := by
  unfold tickConnection
  dsimp only
  split
  · exact .refl _
  · have hstep := tick_cases h od currentTimeUs
    generalize h.tick currentTimeUs od = out at hstep ⊢
    cases hstep with
    | quiet => exact .refl _
    | resent t deadline command hs => exact ⟨fun _ => by rw [hs]; rfl, by simp⟩
    | missing t hs => exact ⟨fun _ => by rw [hs]; rfl, by simp⟩
    | expired => exact .closed _

theorem get?_tick {a : SdoClientInfo}
    (hget : (server.tick currentTimeUs od).2.connections.get? a = some h) :
    (server.connections.visit (tickConnection currentTimeUs od) (none, [])).2.get? a = some h := by
  unfold tick at hget
  split at hget
  · rename_i hvisit
    rw [hvisit]
    exact hget
  · rename_i hvisit
    simp only [SortedMap.get?_eraseAll] at hget
    split_ifs at hget
    rw [hvisit]
    exact hget

/-- A tick neither opens a connection nor starts a handshake. -/
theorem tick_inherits (server : SdoServer η) (currentTimeUs : ℕ) (od : ObjectDictionary σ)
    (a : SdoClientInfo) :
    Inherits (server.connection a).state
      ((server.tick currentTimeUs od).2.connection a).state := by
  cases hget : (server.tick currentTimeUs od).2.connections.get? a with
  | some h =>
      rw [connection_of_get? hget]
      refine SortedMap.visit_forall (P := fun a h => Inherits (server.connection a).state h.state)
        ?_ ?_ (get?_tick hget)
      · intro k h acc hk
        exact hk.trans (tickConnection_inherits currentTimeUs od k h acc)
      · intro k h hk
        rw [connection_of_get? hk]
        exact .refl _
  | none =>
      rw [connection_of_get?_none hget]
      exact .closed _

end tick

variable [ObjectDictionaryStorage σ] [SdoCommandHandler σ η]
  {payload : List UInt8} {clientInfo : SdoClientInfo} {od : ObjectDictionary σ} {currentTimeUs : ℕ}

/-- A request leaves the entries of the other clients alone. -/
theorem handleRequest_get?_ne {a : SdoClientInfo} (hne : payload.length < 4 ∨ a ≠ clientInfo) :
    (server.handleRequest payload clientInfo od currentTimeUs).2.1.connections.get? a =
      server.connections.get? a := by
  unfold handleRequest
  split_ifs with hlen
  · rfl
  · have ha := hne.resolve_left hlen
    dsimp only
    split
    · exact SortedMap.get?_insert_ne _ _ ha
    · dsimp only
      split_ifs
      · rw [SortedMap.get?_erase, if_neg ha, SortedMap.get?_insert_ne _ _ ha]
      · exact SortedMap.get?_insert_ne _ _ ha

/-- The client has an entry after its request, unless the connection is closed and the request
did not fail. -/
theorem handleRequest_get?_self_iff (hlen : ¬ payload.length < 4) {h : SdoSequenceHandler}
    {r : Handled σ η}
    (hr : (server.connection clientInfo).handleRequest payload od currentTimeUs server.handler =
      r) :
    (server.handleRequest payload clientInfo od currentTimeUs).2.1.connections.get? clientInfo =
        some h ↔ r.handler = h ∧ (h.state = .closed → FailedClosed r) := by
  unfold handleRequest
  rw [if_neg hlen, hr]
  dsimp only
  split
  · rename_i e he
    rw [SortedMap.get?_insert_self, Option.some_inj]
    refine ⟨fun heq => ⟨heq, fun hs => ⟨⟨e, he⟩, heq ▸ hs⟩⟩, And.left⟩
  · rename_i response hok
    have hnot : ¬ FailedClosed r := by
      rintro ⟨⟨e, he⟩, -⟩
      rw [hok] at he
      cases he
    by_cases hs : r.handler.state = .closed
    · have hright : ¬ (r.handler = h ∧ (h.state = .closed → FailedClosed r)) :=
        fun hc => hnot (hc.2 (hc.1 ▸ hs))
      simp only [SdoSequenceHandler.isClosed, hs, decide_true, if_true, SortedMap.get?_erase,
        reduceCtorEq, hright]
    · simp only [SdoSequenceHandler.isClosed, hs, decide_false, Bool.false_eq_true, if_false,
        SortedMap.get?_insert_self, Option.some_inj]
      exact ⟨fun heq => ⟨heq, fun hs' => absurd (heq ▸ hs') hs⟩, And.left⟩

theorem handleRequest_connection_ne {a : SdoClientInfo}
    (hne : payload.length < 4 ∨ a ≠ clientInfo) :
    (server.handleRequest payload clientInfo od currentTimeUs).2.1.connection a =
      server.connection a := by
  rw [connection, handleRequest_get?_ne hne, connection]

/-- The connection of the client after its request, if it is not closed. -/
theorem handleRequest_connection_self (hlen : ¬ payload.length < 4)
    (hs : ((server.handleRequest payload clientInfo od currentTimeUs).2.1.connection
      clientInfo).state ≠ .closed) :
    (server.handleRequest payload clientInfo od currentTimeUs).2.1.connection clientInfo =
      ((server.connection clientInfo).handleRequest payload od currentTimeUs
        server.handler).handler :=
  ((handleRequest_get?_self_iff hlen rfl).mp (get?_connection hs)).1.symm

/-- A request leaves no closed connection behind, unless it fails so. -/
theorem handleRequest_noClosed_iff (hserver : server.NoClosed) :
    (server.handleRequest payload clientInfo od currentTimeUs).2.1.NoClosed ↔
      ¬ LeavesClosed (server.connection clientInfo) payload := by
  by_cases hlen : payload.length < 4
  · refine iff_of_true (fun a h hget => ?_) ?_
    · rw [handleRequest_get?_ne (.inl hlen)] at hget
      exact hserver a h hget
    · rintro ⟨request, hdec, -⟩
      exact length_of_deserialize hdec hlen
  · obtain ⟨request, hdec⟩ := deserialize_of_length hlen
    rw [← failedClosed_iff hdec od currentTimeUs server.handler]
    constructor
    · intro hafter hfailed
      refine hafter clientInfo _ ?_ hfailed.2
      exact (handleRequest_get?_self_iff hlen rfl).mpr ⟨rfl, fun _ => hfailed⟩
    · intro hnot a h hget
      by_cases ha : a = clientInfo
      · subst ha
        exact fun hs => hnot (((handleRequest_get?_self_iff hlen rfl).mp hget).2 hs)
      · rw [handleRequest_get?_ne (.inr ha)] at hget
        exact hserver a h hget

end SdoServer

/-! ### Runs of the server -/

section runs

variable {σ η : Type}

/-- The event is a request of the client that is long enough for a header. -/
def ServerEvent.IsRequestOf (clientInfo : SdoClientInfo) : ServerEvent σ → Prop
  | .request payload clientInfo' _ _ => clientInfo' = clientInfo ∧ ¬ payload.length < 4
  | .tick _ _ => False

namespace SdoServer

variable [ObjectDictionaryStorage σ] [SdoCommandHandler σ η] {server : SdoServer η}
  {clientInfo : SdoClientInfo}

/-- The event does not fail on a connection that it leaves closed. -/
def PrunesClosed (server : SdoServer η) : ServerEvent σ → Prop
  | .request payload clientInfo _ _ => ¬ LeavesClosed (server.connection clientInfo) payload
  | .tick _ _ => True

/-- The event does not start an upload on a closed connection. -/
def NoUnconnectedUpload (server : SdoServer η) : ServerEvent σ → Prop
  | .request payload clientInfo od currentTimeUs =>
      ¬ UploadsUnconnected (server.connection clientInfo) payload od currentTimeUs server.handler
  | .tick _ _ => True

/-- The event opens a handshake of the client. -/
def Opens (server : SdoServer η) (clientInfo : SdoClientInfo) : ServerEvent σ → Prop
  | .request payload clientInfo' od currentTimeUs =>
      clientInfo' = clientInfo ∧
        OpensHandshake (server.connection clientInfo) payload od currentTimeUs server.handler
  | .tick _ _ => False

/-- The event completes a handshake of the client. -/
def Confirms (server : SdoServer η) (clientInfo : SdoClientInfo) : ServerEvent σ → Prop
  | .request payload clientInfo' _ _ =>
      clientInfo' = clientInfo ∧ PassesHandshake (server.connection clientInfo) payload
  | .tick _ _ => False

/-- In the run, every client that opens a handshake sends another request. -/
def HandshakesContinue : SdoServer η → List (ServerEvent σ) → Prop
  | _, [] => True
  | server, e :: es =>
      (∀ clientInfo, server.Opens clientInfo e → ∃ e' ∈ es, e'.IsRequestOf clientInfo) ∧
        HandshakesContinue (server.step e) es

/-- The client completes a handshake in the run. -/
def CompletesHandshake (clientInfo : SdoClientInfo) : SdoServer η → List (ServerEvent σ) → Prop
  | _, [] => False
  | server, e :: es =>
      server.Confirms clientInfo e ∨ CompletesHandshake clientInfo (server.step e) es

theorem step_noClosed_iff (server : SdoServer η) (e : ServerEvent σ) (hserver : server.NoClosed) :
    (server.step e).NoClosed ↔ server.PrunesClosed e := by
  cases e with
  | request payload clientInfo od currentTimeUs => exact handleRequest_noClosed_iff hserver
  | tick od currentTimeUs => exact iff_of_true (tick_noClosed hserver currentTimeUs od) trivial

/-- The client is connected, or its handshake is open and it sends nothing more. -/
def Accounted (server : SdoServer η) (clientInfo : SdoClientInfo)
    (events : List (ServerEvent σ)) : Prop :=
  (server.connection clientInfo).state.isOpen = true ∨
    (server.connection clientInfo).state = .opening ∧
      ∀ e ∈ events, ¬ e.IsRequestOf clientInfo

omit [ObjectDictionaryStorage σ] [SdoCommandHandler σ η] in
theorem Accounted.ne_closed {events : List (ServerEvent σ)}
    (hafter : server.Accounted clientInfo events) :
    (server.connection clientInfo).state ≠ .closed := by
  intro hs
  rcases hafter with hopen | ⟨hopening, -⟩
  · rw [hs] at hopen
    cases hopen
  · cases hs.symm.trans hopening

omit [ObjectDictionaryStorage σ] [SdoCommandHandler σ η] in
/-- An event that is no request of the client leaves it where it was. -/
theorem Accounted.of_inherits {server' : SdoServer η} {e : ServerEvent σ}
    {es : List (ServerEvent σ)} (hafter : server'.Accounted clientInfo es)
    (he : ¬ e.IsRequestOf clientInfo)
    (hinherits : Inherits (server.connection clientInfo).state
      (server'.connection clientInfo).state) : server.Accounted clientInfo (e :: es) := by
  rcases hafter with hopen | ⟨hopening, hsilent⟩
  · exact .inl (hinherits.1 hopen)
  · exact .inr ⟨hinherits.2 hopening, List.forall_mem_cons.mpr ⟨he, hsilent⟩⟩

/-- A client that is accounted for after its request was connected before, or completes its
handshake now. -/
theorem accounted_request {payload : List UInt8} {od : ObjectDictionary σ} {currentTimeUs : ℕ}
    {es : List (ServerEvent σ)} (hlen : ¬ payload.length < 4)
    (hprunes : ¬ LeavesClosed (server.connection clientInfo) payload)
    (hupload : ¬ UploadsUnconnected (server.connection clientInfo) payload od currentTimeUs
      server.handler)
    (hcontinue : OpensHandshake (server.connection clientInfo) payload od currentTimeUs
      server.handler → ∃ e' ∈ es, e'.IsRequestOf clientInfo)
    (hafter : (server.handleRequest payload clientInfo od currentTimeUs).2.1.Accounted clientInfo
      es) :
    PassesHandshake (server.connection clientInfo) payload ∨
      (server.connection clientInfo).state.isOpen = true := by
  have hconnection := handleRequest_connection_self hlen hafter.ne_closed
  rw [Accounted, hconnection] at hafter
  cases hs : (server.connection clientInfo).state with
  | closed =>
      obtain ⟨hopens, hwaits⟩ := closed_request_cases hs payload od currentTimeUs server.handler
      rcases hafter with hopen | ⟨hopening, hsilent⟩
      · exact absurd (hopens hopen) hupload
      · obtain ⟨e', he', hrequest⟩ := hcontinue (hwaits hopening)
        exact absurd hrequest (hsilent e' he')
  | opening =>
      obtain ⟨request, hdec⟩ := deserialize_of_length hlen
      exact .inl (opening_request_cases hs hdec hprunes)
  | established | segmentedDownload t | segmentedUpload t => exact .inr rfl

theorem accounted_step {e : ServerEvent σ} {es : List (ServerEvent σ)}
    (hprunes : server.PrunesClosed e) (hupload : server.NoUnconnectedUpload e)
    (hcontinue : server.Opens clientInfo e → ∃ e' ∈ es, e'.IsRequestOf clientInfo)
    (hafter : (server.step e).Accounted clientInfo es) :
    server.Confirms clientInfo e ∨ server.Accounted clientInfo (e :: es) := by
  cases e with
  | tick od currentTimeUs =>
      exact .inr (hafter.of_inherits id (tick_inherits server currentTimeUs od clientInfo))
  | request payload clientInfo' od currentTimeUs =>
      by_cases hrequest : clientInfo' = clientInfo ∧ ¬ payload.length < 4
      · obtain ⟨rfl, hlen⟩ := hrequest
        exact (accounted_request hlen hprunes hupload (fun ho => hcontinue ⟨rfl, ho⟩) hafter).imp
          (fun hpasses => ⟨rfl, hpasses⟩) .inl
      · refine .inr (hafter.of_inherits hrequest ?_)
        have hother : payload.length < 4 ∨ clientInfo ≠ clientInfo' := by
          by_contra hc
          push Not at hc
          exact hrequest ⟨hc.2.symm, by omega⟩
        rw [step, handleRequest_connection_ne hother]
        exact .refl _

/-- Every client with an entry at the end completes a handshake in the run, unless it was
accounted for at the start. -/
theorem accounted_run : ∀ (events : List (ServerEvent σ)) (server : SdoServer η)
    (clientInfo : SdoClientInfo), server.NoClosed →
    Runs.AllSteps step PrunesClosed server events →
    Runs.AllSteps step NoUnconnectedUpload server events → server.HandshakesContinue events →
    ((Runs.run step server events).connections.get? clientInfo).isSome →
    CompletesHandshake clientInfo server events ∨ server.Accounted clientInfo events
  | [], server, clientInfo, hserver, _, _, _, hentry => by
      obtain ⟨h, hget⟩ : ∃ h, server.connections.get? clientInfo = some h :=
        Option.isSome_iff_exists.mp hentry
      have hs := hserver clientInfo h hget
      right
      rw [Accounted, connection_of_get? hget]
      cases hstate : h.state with
      | closed => exact absurd hstate hs
      | opening => exact .inr ⟨rfl, by simp⟩
      | established | segmentedDownload t | segmentedUpload t => exact .inl rfl
  | e :: es, server, clientInfo, hserver, hprunes, huploads, hcontinue, hentry => by
      have hstep := (step_noClosed_iff server e hserver).mpr hprunes.1
      rcases accounted_run es (server.step e) clientInfo hstep hprunes.2 huploads.2 hcontinue.2
        hentry with hcompletes | hafter
      · exact .inl (.inr hcompletes)
      · exact (accounted_step hprunes.1 huploads.1 (hcontinue.1 clientInfo) hafter).imp .inl id

/-- The table of a new server holds a closed connection exactly if some request failed on a
connection that it left closed; without such requests and without uploads on closed connections,
the clients that are left at the end have completed a handshake, if every handshake was
continued. -/
theorem table_bounded (handler : η) (events : List (ServerEvent σ)) :
    (Runs.Always step NoClosed (withHandler handler) events ↔
        Runs.AllSteps step PrunesClosed (withHandler handler) events) ∧
      (Runs.AllSteps step PrunesClosed (withHandler handler) events →
        Runs.AllSteps step NoUnconnectedUpload (withHandler handler) events →
        HandshakesContinue (withHandler handler) events → ∀ clientInfo,
          ((Runs.run step (withHandler handler) events).connections.get? clientInfo).isSome →
          CompletesHandshake clientInfo (withHandler handler) events) := by
  have hnew : (withHandler handler).NoClosed := by
    intro clientInfo h hget
    cases hget
  refine ⟨Runs.always_iff_allSteps step_noClosed_iff hnew, ?_⟩
  intro hprunes huploads hcontinue clientInfo hentry
  refine (accounted_run events _ clientInfo hnew hprunes huploads hcontinue hentry).resolve_right ?_
  exact fun haccounted => haccounted.ne_closed rfl

end SdoServer

end runs

/-- The handshake of a client that reads a long object. -/
def readingClient : List (ServerEvent Empty) :=
  [.request (SequenceLayerHeader.bytes ⟨63, .noConnection, 0, .initialization⟩)
      udpClient uploadDictionary 0,
    .request (SequenceLayerHeader.bytes ⟨0, .connectionValid, 1, .connectionValid⟩ ++
      SdoCommand.bytes ⟨{ transactionId := 7, commandId := .readByIndex, segmentSize := 4 }, none,
        [0x00, 0x20, 0, 0]⟩) udpClient uploadDictionary 0]

/-- Its entry stays, and its handshake is complete. -/
theorem reading_client_entry :
    Runs.Always SdoServer.step SdoServer.NoClosed SdoServer.new readingClient ∧
      ((Runs.run SdoServer.step SdoServer.new readingClient).connections.get?
        udpClient).isSome ∧
      SdoServer.CompletesHandshake udpClient SdoServer.new readingClient := by
  have hprunes : Runs.AllSteps SdoServer.step SdoServer.PrunesClosed SdoServer.new
      readingClient := by
    refine ⟨?_, ?_, trivial⟩
    · rintro ⟨request, hdec, hleaves⟩
      cases hdec
      revert hleaves
      decide +kernel
    · rintro ⟨request, hdec, hleaves⟩
      cases hdec
      revert hleaves
      decide +kernel
  have huploads : Runs.AllSteps SdoServer.step SdoServer.NoUnconnectedUpload SdoServer.new
      readingClient := by
    refine ⟨?_, ?_, trivial⟩
    · rintro ⟨-, request, t, -, -, hcommand, -⟩
      exact hcommand rfl
    · rintro ⟨hclosed, -⟩
      exact absurd hclosed (by decide +kernel)
  have hcontinue : SdoServer.HandshakesContinue SdoServer.new readingClient := by
    refine ⟨?_, ?_, trivial⟩
    · rintro clientInfo ⟨rfl, -⟩
      exact ⟨_, List.mem_cons_self, rfl, by decide +kernel⟩
    · rintro clientInfo ⟨rfl, hclosed, -⟩
      exact absurd hclosed (by decide +kernel)
  have hentry : ((Runs.run SdoServer.step SdoServer.new readingClient).connections.get?
      udpClient).isSome := by decide +kernel
  obtain ⟨hiff, hclients⟩ := SdoServer.table_bounded ({} : DefaultSdoHandler) readingClient
  exact ⟨hiff.mpr hprunes, hentry, hclients hprunes huploads hcontinue _ hentry⟩

/-- A frame of an unknown client that no handshake starts with stays in the table. -/
theorem unknown_client_entry :
    ¬ Runs.Always SdoServer.step SdoServer.NoClosed SdoServer.new
      [.request (SequenceLayerHeader.bytes ⟨0, .noConnection, 0, .noConnection⟩)
        udpClient octetDictionary 0] := by
  intro halways
  refine halways.last udpClient
    (.new udpClient) ?_ rfl
  decide +kernel

end Powerlink
