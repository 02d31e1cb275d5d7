import Powerlink.Sdo.Table

/-! # Isolation of the clients of a server

A server keeps the connections of all its clients in one table and serves them with one command
handler.  `client_isolation` says that no client notices the others: as long as no request
changes the object dictionary, each client receives the answers that it would receive alone, on
a new server over the same dictionary.

The argument is a simulation: the server of the whole run and the server of one client agree on
the entry of that client (`AgreeOn`), and a request of the client keeps them in agreement,
whether it creates the entry, fails or prunes it. -/

namespace Powerlink

open SdoSequenceHandler

/-- A call of `SdoServer::handle_request`. -/
structure ServerRequest where
  clientInfo : SdoClientInfo
  payload : List UInt8
  currentTimeUs : ℕ
deriving DecidableEq, Repr

namespace SdoServer

variable {σ η : Type} [ObjectDictionaryStorage σ] [SdoCommandHandler σ η]

/-- The server and the dictionary after a request. -/
def serveStep (s : SdoServer η × ObjectDictionary σ) (r : ServerRequest) :
    SdoServer η × ObjectDictionary σ :=
  (s.1.handleRequest r.payload r.clientInfo s.2 r.currentTimeUs).2

/-- The answers to a list of requests, each with its client. -/
def serve : SdoServer η × ObjectDictionary σ → List ServerRequest →
    List (SdoClientInfo × Except PowerlinkError SdoResponseData)
  | _, [] => []
  | s, r :: rs =>
      (r.clientInfo, (s.1.handleRequest r.payload r.clientInfo s.2 r.currentTimeUs).1) ::
        serve (serveStep s r) rs

/-- The request does not change the dictionary. -/
def KeepsDictionary (s : SdoServer η × ObjectDictionary σ) (r : ServerRequest) : Prop :=
  (serveStep s r).2 = s.2

instance [DecidableEq σ] (s : SdoServer η × ObjectDictionary σ) (r : ServerRequest) :
    Decidable (KeepsDictionary s r) :=
  inferInstanceAs (Decidable ((serveStep s r).2 = s.2))

/-- The two servers have the same entry for the client and the same command handler. -/
def AgreeOn (clientInfo : SdoClientInfo) (s t : SdoServer η) : Prop :=
  s.connections.get? clientInfo = t.connections.get? clientInfo ∧ s.handler = t.handler

variable {s t : SdoServer η} {clientInfo : SdoClientInfo} {payload : List UInt8}
  {od : ObjectDictionary σ} {currentTimeUs : ℕ}

theorem AgreeOn.connection (h : AgreeOn clientInfo s t) :
    s.connection clientInfo = t.connection clientInfo := by
  rw [SdoServer.connection, SdoServer.connection, h.1]

/-- The entry of the client after its request depends on its connection only. -/
theorem handleRequest_get?_self (hlen : ¬ payload.length < 4) {r : Handled σ η}
    (hr : (s.connection clientInfo).handleRequest payload od currentTimeUs s.handler = r) :
    (s.handleRequest payload clientInfo od currentTimeUs).2.1.connections.get? clientInfo =
      if r.result.isOk ∧ r.handler.isClosed then none else some r.handler := by
  unfold handleRequest
  rw [if_neg hlen, hr]
  dsimp only
  split
  · rename_i e he
    simp [he, Except.isOk, Except.toBool]
  · rename_i response hok
    by_cases hclosed : r.handler.isClosed
    · simp [hok, hclosed, Except.isOk, Except.toBool, SortedMap.get?_erase]
    · simp [hclosed]

theorem handleRequest_handler (hlen : ¬ payload.length < 4) :
    (s.handleRequest payload clientInfo od currentTimeUs).2.1.handler =
      ((s.connection clientInfo).handleRequest payload od currentTimeUs s.handler).commandHandler := by
  unfold handleRequest
  rw [if_neg hlen]
  dsimp only
  split <;> rfl

/-- Servers that agree on a client give it the same answer, ... -/
theorem AgreeOn.result (h : AgreeOn clientInfo s t) (payload : List UInt8)
    (od : ObjectDictionary σ) (currentTimeUs : ℕ) :
    (s.handleRequest payload clientInfo od currentTimeUs).1 =
      (t.handleRequest payload clientInfo od currentTimeUs).1 := by
  rw [handleRequest_result, handleRequest_result, h.connection, h.2]

/-- ... do the same to the dictionary ... -/
theorem AgreeOn.dictionary (h : AgreeOn clientInfo s t) (payload : List UInt8)
    (od : ObjectDictionary σ) (currentTimeUs : ℕ) :
    (s.handleRequest payload clientInfo od currentTimeUs).2.2 =
      (t.handleRequest payload clientInfo od currentTimeUs).2.2 := by
  rw [handleRequest_od, handleRequest_od, h.connection, h.2]

/-- ... and agree on it afterwards. -/
theorem AgreeOn.request (h : AgreeOn clientInfo s t) (payload : List UInt8)
    (od : ObjectDictionary σ) (currentTimeUs : ℕ) :
    AgreeOn clientInfo (s.handleRequest payload clientInfo od currentTimeUs).2.1
      (t.handleRequest payload clientInfo od currentTimeUs).2.1 := by
  by_cases hlen : payload.length < 4
  · simpa [handleRequest, hlen] using h
  · constructor
    · rw [handleRequest_get?_self hlen rfl, handleRequest_get?_self hlen rfl, h.connection, h.2]
    · rw [handleRequest_handler hlen, handleRequest_handler hlen, h.connection, h.2]

end SdoServer

namespace SdoServer

variable {σ : Type} [ObjectDictionaryStorage σ]

/-- The answers that a client finds among the answers to all clients. -/
def answersTo (clientInfo : SdoClientInfo)
    (answers : List (SdoClientInfo × Except PowerlinkError SdoResponseData)) :
    List (Except PowerlinkError SdoResponseData) :=
  (answers.filter (fun a => a.1 = clientInfo)).map Prod.snd

/-- A request of another client keeps the agreement: the default command handler has no
state. -/
theorem AgreeOn.foreign {s t : SdoServer DefaultSdoHandler} {clientInfo a : SdoClientInfo}
    (h : AgreeOn a s t) (ha : a ≠ clientInfo) (payload : List UInt8) (od : ObjectDictionary σ)
    (currentTimeUs : ℕ) :
    AgreeOn a (s.handleRequest payload clientInfo od currentTimeUs).2.1 t := by
  constructor
  · rw [handleRequest_get?_ne (.inr ha)]
    exact h.1
  · rfl

/-- The simulation: a server with all requests and a server with those of one client. -/
theorem answersTo_serve (clientInfo : SdoClientInfo) (od : ObjectDictionary σ) :
    ∀ (requests : List ServerRequest) (s t : SdoServer DefaultSdoHandler),
      AgreeOn clientInfo s t → Runs.AllSteps serveStep KeepsDictionary (s, od) requests →
      answersTo clientInfo (serve (s, od) requests) =
        (serve (t, od) (requests.filter (fun r => r.clientInfo = clientInfo))).map Prod.snd
  | [], _, _, _, _ => rfl
  | r :: rs, s, t, hst, ⟨hkeep, hrest⟩ => by
      have hkeep' : (s.handleRequest r.payload r.clientInfo od r.currentTimeUs).2.2 = od := hkeep
      have hstep : serveStep (s, od) r =
          ((s.handleRequest r.payload r.clientInfo od r.currentTimeUs).2.1, od) :=
        Prod.ext rfl hkeep'
      rw [hstep] at hrest
      by_cases hr : r.clientInfo = clientInfo
      · subst hr
        have hod : (t.handleRequest r.payload r.clientInfo od r.currentTimeUs).2.2 = od := by
          rw [← AgreeOn.dictionary hst, hkeep']
        have ih := answersTo_serve r.clientInfo od rs _ _
          (AgreeOn.request hst r.payload od r.currentTimeUs) hrest
        have htstep : serveStep (t, od) r =
            ((t.handleRequest r.payload r.clientInfo od r.currentTimeUs).2.1, od) :=
          Prod.ext rfl hod
        have hanswer := AgreeOn.result hst r.payload od r.currentTimeUs
        rw [serve, List.filter_cons_of_pos (by simp), serve, hstep, htstep, List.map_cons, ← ih,
          ← hanswer]
        simp [answersTo]
      · have ih := answersTo_serve clientInfo od rs _ t
          (AgreeOn.foreign hst (Ne.symm hr) r.payload od r.currentTimeUs) hrest
        rw [serve, List.filter_cons_of_neg (by simpa using hr), ← ih, hstep]
        simp [answersTo, hr]

/-- Each client receives the answers that it would receive alone. -/
theorem client_isolation (od : ObjectDictionary σ) (requests : List ServerRequest)
    (hkeep : Runs.AllSteps serveStep KeepsDictionary (SdoServer.new, od) requests)
    (clientInfo : SdoClientInfo) :
    answersTo clientInfo (serve (SdoServer.new, od) requests) =
      (serve (SdoServer.new, od) (requests.filter (fun r => r.clientInfo = clientInfo))).map
        Prod.snd :=
  answersTo_serve clientInfo od requests _ _ ⟨rfl, rfl⟩ hkeep

/-- Two clients open their connections, and the one reads while the other confirms. -/
def twoClients : List ServerRequest :=
  [⟨udpClient, SequenceLayerHeader.bytes ⟨63, .noConnection, 0, .initialization⟩, 0⟩,
    ⟨.asnd ⟨5⟩ ⟨0, 0, 0, 0, 0, 5⟩,
      SequenceLayerHeader.bytes ⟨63, .noConnection, 9, .initialization⟩, 1⟩,
    ⟨udpClient, SequenceLayerHeader.bytes ⟨0, .connectionValid, 1, .connectionValid⟩ ++
      SdoCommand.bytes ⟨{ transactionId := 7, commandId := .readByIndex, segmentSize := 4 }, none,
        [0x00, 0x20, 0, 0]⟩, 2⟩,
    ⟨.asnd ⟨5⟩ ⟨0, 0, 0, 0, 0, 5⟩,
      SequenceLayerHeader.bytes ⟨0, .connectionValid, 10, .connectionValid⟩, 3⟩]

theorem two_clients_isolated :
    Runs.AllSteps serveStep KeepsDictionary (SdoServer.new, octetDictionary) twoClients ∧
      answersTo udpClient (serve (SdoServer.new, octetDictionary) twoClients) =
        (serve (SdoServer.new, octetDictionary)
          (twoClients.filter (fun r => r.clientInfo = udpClient))).map Prod.snd := by
  have hkeep : Runs.AllSteps serveStep KeepsDictionary (SdoServer.new, octetDictionary)
      twoClients := by decide +kernel
  exact ⟨hkeep, client_isolation octetDictionary twoClients hkeep udpClient⟩

end SdoServer

end Powerlink
