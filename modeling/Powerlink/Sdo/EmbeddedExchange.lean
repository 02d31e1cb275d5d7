import Powerlink.Sdo.EmbeddedRepeats

/-! # Exchanges on an embedded channel

A client channel of one node and a server channel of another one, joined by PDOs that are never
lost: the container of the client goes to the server, and the container that the server returns
goes back to the client.  The application of the client queues requests at any time.

Both sides count their requests modulo 64.  The client numbers its first request `0`, and a new
server takes `0` for the number of the request that it has already answered, so the first request
is never executed.  `completes_iff` states that exchanges complete exactly if none of them carries
a request. -/

namespace Powerlink

open LittleEndian

namespace EmbeddedSdoClient

/-- The state of a channel; a channel that was never used is as new. -/
def channel (client : EmbeddedSdoClient) (index : UInt16) : EmbeddedClientConnection :=
  (client.connections.get? index).getD {}

/-- `handle_response` takes the container for the response to the last request. -/
def accepts (client : EmbeddedSdoClient) (index : UInt16) (payload : List UInt8) : Bool :=
  match client.connections.get? index, PdoSdoCommand.deserialize payload with
  | some conn, .ok response =>
      decide (response.sequenceHeader.sequenceNumber = (conn.nextSequenceNumber - 1) % 64)
  | _, _ => false

/-- A container that is not accepted has no effect. -/
theorem handleResponse_of_not_accepts {client : EmbeddedSdoClient} {index : UInt16}
    {payload : List UInt8} (h : client.accepts index payload = false) :
    client.handleResponse index payload = some client := by
  unfold accepts at h
  unfold handleResponse
  cases hconn : client.connections.get? index with
  | none => rfl
  | some conn =>
      cases hd : PdoSdoCommand.deserialize payload with
      | error e => rfl
      | ok response =>
          rw [hconn, hd] at h
          dsimp only
          rw [if_pos (of_decide_eq_false h)]

/-- A response leaves the queue and the number of the next request alone. -/
theorem channel_handleResponse {client client' : EmbeddedSdoClient} {index : UInt16}
    {payload : List UInt8} (h : client.handleResponse index payload = some client') :
    (client'.channel index).requestQueue = (client.channel index).requestQueue := by
  unfold handleResponse at h
  split at h
  · rw [Option.some.inj h]
  · rename_i conn hconn
    split at h
    · rw [Option.some.inj h]
    · dsimp only at h
      split_ifs at h
      · rw [Option.some.inj h]
      · obtain rfl := Option.some.inj h
        unfold channel
        dsimp only
        rw [SortedMap.get?_insert_self, hconn]
        rfl

theorem channel_insert_self (client : EmbeddedSdoClient) (index : UInt16)
    (conn : EmbeddedClientConnection) :
    channel ⟨client.connections.insert index conn⟩ index = conn := by
  unfold channel
  dsimp only
  rw [SortedMap.get?_insert_self]
  rfl

/-- The channel after a container was filled. -/
theorem channel_getPendingRequest (client : EmbeddedSdoClient) (index : UInt16) (containerLen : ℕ) :
    (client.getPendingRequest index containerLen).2.channel index =
      match (client.channel index).requestQueue with
      | [] => client.channel index
      | _ :: queue =>
          { client.channel index with
            nextSequenceNumber := ((client.channel index).nextSequenceNumber + 1) % 64
            requestQueue := queue } := by
  have hchannel : (client.connections.get? index).getD {} = client.channel index := rfl
  unfold getPendingRequest
  dsimp only
  rw [hchannel]
  cases (client.channel index).requestQueue with
  | nil => exact client.channel_insert_self index _
  | cons request queue => exact client.channel_insert_self index _

end EmbeddedSdoClient

/-! ### Containers -/

/-- The octets of an accepted container that carry the sequence number and the command. -/
theorem deserialize_octets {buffer : List UInt8} {command : PdoSdoCommand}
    (h : PdoSdoCommand.deserialize buffer = .ok command) :
    ∃ seq cid : UInt8, buffer[0]? = some seq ∧ buffer[4]? = some cid ∧
      command.sequenceHeader.sequenceNumber = (seq >>> 2) &&& 0x3F ∧
        CommandId.tryFrom cid = .ok command.commandId := by
  unfold PdoSdoCommand.deserialize at h
  split at h
  · rename_i seq transactionId flags length cid i₀ i₁ subIndex rest
    cases hc : CommandId.tryFrom cid with
    | error e => rw [hc] at h; cases h
    | ok commandId =>
        cases hs : Segmentation.tryFrom ((flags >>> 6) &&& 3) with
        | error e => rw [hc, hs] at h; cases h
        | ok segmentation =>
            rw [hc, hs] at h
            dsimp only [bind, Except.bind] at h
            split_ifs at h
            obtain rfl := Except.ok.inj h
            exact ⟨seq, cid, rfl, rfl, rfl, hc⟩
  · cases h

/-- An idle container reads as the command `Nil` with number `0`. -/
theorem deserialize_idle {containerLen : ℕ} {command : PdoSdoCommand}
    (h : PdoSdoCommand.deserialize (List.replicate containerLen 0) = .ok command) :
    command.commandId = .nil ∧ command.sequenceHeader.sequenceNumber = 0 := by
  obtain ⟨seq, cid, hseq, hcid, hnumber, hcommand⟩ := deserialize_octets h
  obtain rfl : 0 = seq := (List.mem_replicate.mp (List.mem_of_getElem? hseq)).2.symm
  obtain rfl : 0 = cid := (List.mem_replicate.mp (List.mem_of_getElem? hcid)).2.symm
  exact ⟨(Except.ok.inj hcommand).symm, hnumber⟩

/-- The first request of a client has the number `0`. -/
theorem deserialize_firstRequest {request : SdoClientRequest} {containerLen : ℕ}
    {command : PdoSdoCommand}
    (h : PdoSdoCommand.deserialize (fillContainer
      (EmbeddedSdoClient.requestCommand request 0).serialize containerLen) = .ok command) :
    command.sequenceHeader.sequenceNumber = 0 := by
  obtain ⟨seq, cid, hseq, -, hnumber, -⟩ := deserialize_octets h
  cases containerLen with
  | zero => simp [fillContainer] at hseq
  | succ n =>
      obtain rfl : (0 : UInt8) <<< 2 ||| 2 = seq := Option.some.inj hseq
      exact hnumber

/-- A client that has sent nothing waits for no idle container. -/
theorem accepts_idle {client : EmbeddedSdoClient} {index : UInt16}
    (h : (client.channel index).nextSequenceNumber = 0) (containerLen : ℕ) :
    client.accepts index (List.replicate containerLen 0) = false := by
  unfold EmbeddedSdoClient.accepts
  split
  · rename_i conn response hconn hresponse
    have hnext : conn.nextSequenceNumber = 0 := by
      unfold EmbeddedSdoClient.channel at h
      rwa [hconn] at h
    rw [(deserialize_idle hresponse).2, hnext]
    rfl
  · rfl

/-! ### A client and a server -/

/-- A step of the pair: the application queues a request, or the two sides exchange containers. -/
inductive LinkOp where
  | queueRead (index : UInt16) (subIndex : UInt8)
  | queueWrite (index : UInt16) (subIndex : UInt8) (data : List UInt8)
  | exchange

/-- The request that an operation queues. -/
def LinkOp.request : LinkOp → Option SdoClientRequest
  | queueRead index subIndex => some ⟨.readByIndex, index, subIndex, []⟩
  | queueWrite index subIndex data => some ⟨.writeByIndex, index, subIndex, data⟩
  | exchange => none

/-- The channels of the two sides and the lengths of the containers. -/
structure LinkConfig where
  clientChannel : UInt16
  serverChannel : UInt16
  requestLen : ℕ
  responseLen : ℕ

/-- A client, a server and the dictionary of the server, with what the exchanges so far have
done: the commands that were executed, and for each exchange whether it carried a request and
whether the client accepted a response. -/
structure Link (σ : Type) where
  client : EmbeddedSdoClient
  server : EmbeddedSdoServer
  od : ObjectDictionary σ
  executed : List PdoSdoCommand := []
  exchanges : List (Bool × Bool) := []

namespace Link

variable {σ : Type} (config : LinkConfig)

/-- A new client and a new server. -/
def new (od : ObjectDictionary σ) : Link σ where
  client := .new
  server := .new
  od := od

/-- The requests that wait in the client. -/
def waiting (s : Link σ) : List SdoClientRequest :=
  (s.client.channel config.clientChannel).requestQueue

variable [ObjectDictionaryStorage σ]

/-- One exchange of containers; `none` is a panic of the client. -/
def exchange (s : Link σ) : Option (Link σ) :=
  let request := s.client.getPendingRequest config.clientChannel config.requestLen
  let handled := s.server.handleRequest config.serverChannel request.1 s.od
  let response := handled.1.getPendingResponse config.serverChannel config.responseLen
  (request.2.handleResponse config.clientChannel response.1).map fun client =>
    { client := client
      server := response.2
      od := handled.2
      executed := s.executed ++ (s.server.executes config.serverChannel request.1).toList
      exchanges := s.exchanges ++
        [(decide (s.waiting config ≠ []), request.2.accepts config.clientChannel response.1)] }

/-- The link after an operation; `none` is a panic. -/
def step (s : Link σ) : LinkOp → Option (Link σ)
  | .queueRead index subIndex =>
      let queued := s.client.queueRead config.clientChannel index subIndex
      some { s with client := queued.toOption.getD s.client }
  | .queueWrite index subIndex data =>
      let queued := s.client.queueWrite config.clientChannel index subIndex data
      some { s with client := queued.toOption.getD s.client }
  | .exchange => s.exchange config

/-- The link after a list of operations. -/
def run (s : Link σ) : List LinkOp → Option (Link σ)
  | [] => some s
  | op :: ops => (s.step config op).bind fun s' => run s' ops

/-- The request that a command stands for. -/
def asRequest (command : PdoSdoCommand) : SdoClientRequest where
  commandId := command.commandId
  index := command.index
  subIndex := command.subIndex
  data := command.data

/-- The operations run to their end, the server has executed every queued request that has left the
client once and in order, and each exchange returned a response exactly if it carried a request. -/
def Completes (od : ObjectDictionary σ) (ops : List LinkOp) : Prop :=
  ∃ s : Link σ, (new od).run config ops = some s ∧
    s.executed.map asRequest ++ s.waiting config = ops.filterMap LinkOp.request ∧
      ∀ x ∈ s.exchanges, x.2 = x.1

/-- All exchanges come before the first request. -/
def NothingSent : List LinkOp → Prop
  | [] => True
  | .exchange :: ops => NothingSent ops
  | _ :: ops => ∀ op ∈ ops, op ≠ .exchange

/-! ### One operation -/

variable {config}

/-- A request joins the queue of a client channel. -/
theorem channel_queueRequest (client : EmbeddedSdoClient) {index : UInt16}
    (hindex : 0x1280 ≤ index ∧ index ≤ 0x12FF) (request : SdoClientRequest) :
    ((client.queueRequest index request).toOption.getD client).channel index =
      { client.channel index with
        requestQueue := (client.channel index).requestQueue ++ [request] } := by
  unfold EmbeddedSdoClient.queueRequest
  rw [if_neg (not_not.mpr hindex)]
  exact client.channel_insert_self index _

/-- An operation that queues a request does nothing else. -/
theorem step_queue (hchannel : 0x1280 ≤ config.clientChannel ∧ config.clientChannel ≤ 0x12FF)
    (s : Link σ) {op : LinkOp} {request : SdoClientRequest} (hop : op.request = some request) :
    ∃ s' : Link σ, s.step config op = some s' ∧ s'.server = s.server ∧ s'.executed = s.executed ∧
      s'.exchanges = s.exchanges ∧ s'.client.channel config.clientChannel =
        { s.client.channel config.clientChannel with
          requestQueue := s.waiting config ++ [request] } := by
  cases op with
  | queueRead index subIndex =>
      obtain rfl := Option.some.inj hop
      exact ⟨_, rfl, rfl, rfl, rfl, channel_queueRequest s.client hchannel _⟩
  | queueWrite index subIndex data =>
      obtain rfl := Option.some.inj hop
      exact ⟨_, rfl, rfl, rfl, rfl, channel_queueRequest s.client hchannel _⟩
  | exchange => cases hop

/-- The container that the next exchange sends. -/
def sends (config : LinkConfig) (s : Link σ) : List UInt8 :=
  (s.client.getPendingRequest config.clientChannel config.requestLen).1

/-- What an exchange does to the queue and to the log of the server. -/
theorem exchange_spec {s s' : Link σ} (h : s.exchange config = some s') :
    s'.waiting config = (s.waiting config).tail ∧
      s'.executed = s.executed ++
        (s.server.executes config.serverChannel (s.sends config)).toList := by
  unfold exchange at h
  dsimp only at h
  obtain ⟨client, hclient, rfl⟩ := Option.map_eq_some_iff.mp h
  refine ⟨?_, rfl⟩
  have hqueue := EmbeddedSdoClient.channel_handleResponse hclient
  rw [EmbeddedSdoClient.channel_getPendingRequest] at hqueue
  refine hqueue.trans ?_
  unfold waiting
  split
  · rename_i hnil
    rw [hnil]
    rfl
  · rename_i hcons
    rw [hcons]
    rfl

omit [ObjectDictionaryStorage σ] in
/-- Without a request the container is idle. -/
theorem sends_idle {s : Link σ} (h : s.waiting config = []) :
    s.sends config = List.replicate config.requestLen 0 := by
  unfold sends EmbeddedSdoClient.getPendingRequest
  dsimp only
  unfold waiting EmbeddedSdoClient.channel at h
  rw [h]

omit [ObjectDictionaryStorage σ] in
/-- What the server executes of an idle container is the command `Nil`. -/
theorem executes_idle {s : Link σ} (h : s.waiting config = []) {command : PdoSdoCommand}
    (hc : s.server.executes config.serverChannel (s.sends config) = some command) :
    command.commandId = .nil := by
  rw [sends_idle h] at hc
  unfold EmbeddedSdoServer.executes at hc
  cases hd : PdoSdoCommand.deserialize (List.replicate config.requestLen 0) with
  | error e => rw [hd] at hc; cases hc
  | ok idle =>
      rw [hd] at hc
      dsimp only at hc
      split_ifs at hc
      rw [← Option.some.inj hc]
      exact (deserialize_idle hd).1

/-- The number of executed commands other than `Nil`. -/
def served (s : Link σ) : ℕ :=
  (s.executed.filter fun command => decide (command.commandId ≠ .nil)).length

/-- An exchange serves no more requests than it takes from the queue. -/
theorem served_exchange {s s' : Link σ} (h : s.exchange config = some s') :
    s'.served + (s'.waiting config).length ≤ s.served + (s.waiting config).length := by
  obtain ⟨hwaiting, hexecuted⟩ := exchange_spec h
  unfold served
  rw [hexecuted, List.filter_append, List.length_append, hwaiting, List.length_tail]
  cases hc : s.server.executes config.serverChannel (s.sends config) with
  | none => simp
  | some command =>
      cases hq : s.waiting config with
      | nil => simp [executes_idle hq hc]
      | cons request queue =>
          have hone := List.length_filter_le
            (fun command => decide (command.commandId ≠ CommandId.nil)) [command]
          simp only [Option.toList_some, List.length_cons, List.length_nil] at hone ⊢
          omega

/-- Neither side has counted a request yet. -/
def Fresh (config : LinkConfig) (s : Link σ) : Prop :=
  (s.client.channel config.clientChannel).nextSequenceNumber = 0 ∧
    (s.server.channel config.serverChannel).lastSequenceNumber = 0

omit [ObjectDictionaryStorage σ] in
/-- The first request is taken for a repetition. -/
theorem executes_fresh {s : Link σ} (h : Fresh config s) :
    s.server.executes config.serverChannel (s.sends config) = none := by
  refine EmbeddedSdoServer.executes_repeat s.server _ _ ?_
  intro command hcommand
  rw [h.2]
  unfold sends EmbeddedSdoClient.getPendingRequest at hcommand
  dsimp only at hcommand
  split at hcommand
  · exact (deserialize_idle hcommand).2
  · dsimp only at hcommand
    split_ifs at hcommand
    · exact (deserialize_idle hcommand).2
    · have hnext :
          ((s.client.connections.get? config.clientChannel).getD {}).nextSequenceNumber = 0 := h.1
      rw [hnext] at hcommand
      exact deserialize_firstRequest hcommand

/-- An exchange without a request changes neither count, and the client accepts nothing. -/
theorem exchange_idle {s : Link σ} (h : Fresh config s) (hq : s.waiting config = [])
    (hresponse : (s.server.channel config.serverChannel).pendingResponse = none) :
    ∃ s', s.exchange config = some s' ∧ Fresh config s' ∧ s'.waiting config = [] ∧
      (s'.server.channel config.serverChannel).pendingResponse = none ∧
        s'.executed = s.executed ∧ s'.exchanges = s.exchanges ++ [(false, false)] := by
  have hexecutes := executes_fresh h
  rw [sends_idle hq] at hexecutes
  have hsent : (s.client.getPendingRequest config.clientChannel config.requestLen).1 =
      List.replicate config.requestLen 0 := sends_idle hq
  have hclient := s.client.channel_getPendingRequest config.clientChannel config.requestLen
  have hhandled := EmbeddedSdoServer.handleRequest_ignored s.server config.serverChannel _ s.od
    hexecutes
  have hanswer : ((s.server.handleRequest config.serverChannel
      (List.replicate config.requestLen 0) s.od).1.getPendingResponse config.serverChannel
        config.responseLen).1 = List.replicate config.responseLen 0 := by
    have hpending := congrArg EmbeddedServerConnection.pendingResponse hhandled.1
    rw [hresponse] at hpending
    unfold EmbeddedSdoServer.channel at hpending
    dsimp only [EmbeddedSdoServer.getPendingResponse]
    rw [hpending]
  have hqueue : (s.client.channel config.clientChannel).requestQueue = [] := hq
  rw [hqueue] at hclient
  have hrefused : (s.client.getPendingRequest config.clientChannel config.requestLen).2.accepts
      config.clientChannel (List.replicate config.responseLen 0) = false := by
    refine accepts_idle ?_ config.responseLen
    rw [hclient]
    exact h.1
  have hserver := (s.server.handleRequest config.serverChannel
    (List.replicate config.requestLen 0) s.od).1.channel_getPendingResponse config.serverChannel
      config.serverChannel config.responseLen
  rw [if_pos rfl, hhandled.1] at hserver
  unfold exchange
  dsimp only
  rw [hsent, hanswer, hrefused, EmbeddedSdoClient.handleResponse_of_not_accepts hrefused,
    hexecutes, hq]
  refine ⟨_, rfl, ⟨?_, ?_⟩, ?_, ?_, List.append_nil _, rfl⟩
  · exact (congrArg EmbeddedClientConnection.nextSequenceNumber hclient).trans h.1
  · exact (congrArg EmbeddedServerConnection.lastSequenceNumber hserver).trans h.2
  · exact (congrArg EmbeddedClientConnection.requestQueue hclient).trans hqueue
  · exact congrArg EmbeddedServerConnection.pendingResponse hserver

/-! ### Runs -/

/-- A run serves no more requests than it takes from the queue. -/
theorem served_run (hchannel : 0x1280 ≤ config.clientChannel ∧ config.clientChannel ≤ 0x12FF)
    (ops : List LinkOp) {s s' : Link σ} (h : s.run config ops = some s') :
    s'.served + (s'.waiting config).length ≤
      s.served + (s.waiting config).length + (ops.filterMap LinkOp.request).length := by
  induction ops generalizing s with
  | nil =>
      obtain rfl := Option.some.inj h
      simp
  | cons op ops ih =>
      obtain ⟨s₁, hstep, hrun⟩ := Option.bind_eq_some_iff.mp h
      have htail := ih hrun
      cases hop : op.request with
      | some request =>
          obtain ⟨s₂, hstep', -, hexecuted, -, hqueue⟩ := step_queue hchannel s hop
          obtain rfl : s₂ = s₁ := Option.some.inj (hstep'.symm.trans hstep)
          have hwaiting : s₂.waiting config = s.waiting config ++ [request] :=
            congrArg EmbeddedClientConnection.requestQueue hqueue
          have hserved : s₂.served = s.served := by
            unfold served
            rw [hexecuted]
          rw [List.filterMap_cons_some hop]
          rw [hwaiting, hserved, List.length_append] at htail
          simp only [List.length_cons, List.length_nil] at htail ⊢
          omega
      | none =>
          rw [List.filterMap_cons_none hop]
          cases op with
          | queueRead index subIndex => cases hop
          | queueWrite index subIndex data => cases hop
          | exchange => exact htail.trans (Nat.add_le_add_right (served_exchange hstep) _)

/-- Once a request waits, the first exchange drops it. -/
theorem served_lt_of_waiting
    (hchannel : 0x1280 ≤ config.clientChannel ∧ config.clientChannel ≤ 0x12FF) (ops : List LinkOp)
    (hops : .exchange ∈ ops) {s s' : Link σ} (hfresh : Fresh config s)
    (hwaiting : s.waiting config ≠ []) (h : s.run config ops = some s') :
    s'.served + (s'.waiting config).length <
      s.served + (s.waiting config).length + (ops.filterMap LinkOp.request).length := by
  induction ops generalizing s with
  | nil => exact absurd hops List.not_mem_nil
  | cons op ops ih =>
      obtain ⟨s₁, hstep, hrun⟩ := Option.bind_eq_some_iff.mp h
      cases hop : op.request with
      | some request =>
          obtain ⟨s₂, hstep', hserver, hexecuted, -, hqueue⟩ := step_queue hchannel s hop
          obtain rfl : s₂ = s₁ := Option.some.inj (hstep'.symm.trans hstep)
          have hlonger : s₂.waiting config = s.waiting config ++ [request] :=
            congrArg EmbeddedClientConnection.requestQueue hqueue
          have hfresh₂ : Fresh config s₂ := by
            refine ⟨?_, hserver ▸ hfresh.2⟩
            rw [hqueue]
            exact hfresh.1
          have hlater : .exchange ∈ ops := by
            rcases List.mem_cons.mp hops with rfl | hmem
            · cases hop
            · exact hmem
          have hserved : s₂.served = s.served := by
            unfold served
            rw [hexecuted]
          have htail := ih hlater hfresh₂ (by rw [hlonger]; simp) hrun
          rw [List.filterMap_cons_some hop]
          rw [hlonger, hserved, List.length_append] at htail
          simp only [List.length_cons, List.length_nil] at htail ⊢
          omega
      | none =>
          rw [List.filterMap_cons_none hop]
          cases op with
          | queueRead index subIndex => cases hop
          | queueWrite index subIndex data => cases hop
          | exchange =>
              obtain ⟨hqueue, hexecuted⟩ := exchange_spec hstep
              rw [executes_fresh hfresh, Option.toList_none, List.append_nil] at hexecuted
              have hserved : s₁.served = s.served := by
                unfold served
                rw [hexecuted]
              have hshorter : (s₁.waiting config).length < (s.waiting config).length := by
                rw [hqueue, List.length_tail]
                have hpos := List.length_pos_iff.mpr hwaiting
                omega
              have htail := served_run hchannel ops hrun
              omega

omit [ObjectDictionaryStorage σ] in
theorem request_of_ne_exchange {op : LinkOp} (h : op ≠ .exchange) :
    ∃ request, op.request = some request := by
  cases op with
  | queueRead index subIndex => exact ⟨_, rfl⟩
  | queueWrite index subIndex data => exact ⟨_, rfl⟩
  | exchange => exact absurd rfl h

/-- Requests without an exchange pile up in the client. -/
theorem run_queue (hchannel : 0x1280 ≤ config.clientChannel ∧ config.clientChannel ≤ 0x12FF)
    (ops : List LinkOp) (hops : ∀ op ∈ ops, op ≠ .exchange) (s : Link σ) :
    ∃ s', s.run config ops = some s' ∧ s'.executed = s.executed ∧ s'.exchanges = s.exchanges ∧
      s'.waiting config = s.waiting config ++ ops.filterMap LinkOp.request := by
  induction ops generalizing s with
  | nil => exact ⟨s, rfl, rfl, rfl, (List.append_nil _).symm⟩
  | cons op ops ih =>
      obtain ⟨request, hop⟩ := request_of_ne_exchange (hops op List.mem_cons_self)
      obtain ⟨s₁, hstep, -, hexecuted, hexchanges, hqueue⟩ := step_queue hchannel s hop
      obtain ⟨s', hrun, hexecuted', hexchanges', hqueue'⟩ :=
        ih (fun op' hop' => hops op' (List.mem_cons_of_mem op hop')) s₁
      have hwaiting : s₁.waiting config = s.waiting config ++ [request] :=
        congrArg EmbeddedClientConnection.requestQueue hqueue
      refine ⟨s', ?_, hexecuted'.trans hexecuted, hexchanges'.trans hexchanges, ?_⟩
      · rw [run, hstep]
        exact hrun
      · rw [hqueue', hwaiting, List.filterMap_cons_some hop, List.append_assoc]
        rfl

/-- Exchanges before the first request have no effect. -/
theorem run_nothingSent
    (hchannel : 0x1280 ≤ config.clientChannel ∧ config.clientChannel ≤ 0x12FF) (ops : List LinkOp)
    (hops : NothingSent ops) {s : Link σ} (hfresh : Fresh config s)
    (hq : s.waiting config = [])
    (hresponse : (s.server.channel config.serverChannel).pendingResponse = none) :
    ∃ s', s.run config ops = some s' ∧ s'.executed = s.executed ∧
      s'.waiting config = ops.filterMap LinkOp.request ∧
        ∀ x ∈ s'.exchanges, x ∈ s.exchanges ∨ x = (false, false) := by
  induction ops generalizing s with
  | nil => exact ⟨s, rfl, rfl, hq, fun x hx => .inl hx⟩
  | cons op ops ih =>
      by_cases hop : op = .exchange
      · subst hop
        obtain ⟨s₁, hstep, hfresh₁, hq₁, hresponse₁, hexecuted₁, hexchanges₁⟩ :=
          exchange_idle hfresh hq hresponse
        obtain ⟨s', hrun, hexecuted, hqueue, hexchanges⟩ := ih hops hfresh₁ hq₁ hresponse₁
        refine ⟨s', ?_, hexecuted.trans hexecuted₁, hqueue, ?_⟩
        · rw [run, step, hstep]
          exact hrun
        · intro x hx
          rcases hexchanges x hx with hx | hx
          · rw [hexchanges₁] at hx
            rcases List.mem_append.mp hx with hx | hx
            · exact .inl hx
            · exact .inr (List.mem_singleton.mp hx)
          · exact .inr hx
      · have hrest : ∀ op' ∈ op :: ops, op' ≠ .exchange := by
          intro op' hop'
          rcases List.mem_cons.mp hop' with rfl | hmem
          · exact hop
          · cases op with
            | queueRead index subIndex => exact hops op' hmem
            | queueWrite index subIndex data => exact hops op' hmem
            | exchange => exact absurd rfl hop
        obtain ⟨s', hrun, hexecuted, hexchanges, hqueue⟩ := run_queue hchannel _ hrest s
        refine ⟨s', hrun, hexecuted, by rw [hqueue, hq, List.nil_append], ?_⟩
        intro x hx
        rw [hexchanges] at hx
        exact .inl hx

/-- An exchange after a request serves fewer requests than have left the client. -/
theorem served_lt_of_sent
    (hchannel : 0x1280 ≤ config.clientChannel ∧ config.clientChannel ≤ 0x12FF) (ops : List LinkOp)
    (hops : ¬NothingSent ops) {s s' : Link σ} (hfresh : Fresh config s)
    (hq : s.waiting config = [])
    (hresponse : (s.server.channel config.serverChannel).pendingResponse = none)
    (h : s.run config ops = some s') :
    s'.served + (s'.waiting config).length <
      s.served + (ops.filterMap LinkOp.request).length := by
  induction ops generalizing s with
  | nil => exact absurd trivial hops
  | cons op ops ih =>
      obtain ⟨s₁, hstep, hrun⟩ := Option.bind_eq_some_iff.mp h
      by_cases hop : op = .exchange
      · subst hop
        obtain ⟨s₂, hstep', hfresh₁, hq₁, hresponse₁, hexecuted₁, -⟩ :=
          exchange_idle hfresh hq hresponse
        obtain rfl : s₂ = s₁ := Option.some.inj (hstep'.symm.trans hstep)
        have htail := ih hops hfresh₁ hq₁ hresponse₁ hrun
        unfold served at htail ⊢
        rwa [hexecuted₁] at htail
      · obtain ⟨request, hrequest⟩ := request_of_ne_exchange hop
        have hlater : .exchange ∈ ops := by
          by_contra hnone
          apply hops
          have hall : ∀ op' ∈ ops, op' ≠ .exchange := by
            rintro op' hmem rfl
            exact hnone hmem
          cases op with
          | queueRead index subIndex => exact hall
          | queueWrite index subIndex data => exact hall
          | exchange => exact absurd rfl hop
        obtain ⟨s₂, hstep', hserver, hexecuted, -, hqueue⟩ := step_queue hchannel s hrequest
        obtain rfl : s₂ = s₁ := Option.some.inj (hstep'.symm.trans hstep)
        have hwaiting : s₂.waiting config = [request] := by
          have hlonger := congrArg EmbeddedClientConnection.requestQueue hqueue
          rwa [hq] at hlonger
        have hfresh₂ : Fresh config s₂ := by
          refine ⟨?_, hserver ▸ hfresh.2⟩
          rw [hqueue]
          exact hfresh.1
        have htail := served_lt_of_waiting hchannel ops hlater hfresh₂
          (by rw [hwaiting]; exact List.cons_ne_nil _ _) hrun
        have hserved : s₂.served = s.served := by
          unfold served
          rw [hexecuted]
        rw [List.filterMap_cons_some hrequest]
        rw [hwaiting, hserved] at htail
        simp only [List.length_cons, List.length_nil] at htail ⊢
        omega

/-- The exchanges of a new client and a new server complete exactly if none of them carries a
request. -/
theorem completes_iff (config : LinkConfig) (od : ObjectDictionary σ) (ops : List LinkOp)
    (hchannel : 0x1280 ≤ config.clientChannel ∧ config.clientChannel ≤ 0x12FF) :
    Completes config od ops ↔ NothingSent ops := by
  have hfresh : Fresh config (new od) := ⟨rfl, rfl⟩
  constructor
  · rintro ⟨s, hrun, hexecuted, -⟩
    by_contra hsent
    have hlt := served_lt_of_sent hchannel ops hsent hfresh rfl rfl hrun
    -- the executed commands stand for requests, so none of them is `Nil`
    have hserved : s.served = s.executed.length := by
      unfold served
      rw [List.filter_eq_self.mpr]
      intro command hcommand
      have hmem : asRequest command ∈ ops.filterMap LinkOp.request := by
        rw [← hexecuted]
        exact List.mem_append_left _ (List.mem_map_of_mem hcommand)
      obtain ⟨op, -, hop⟩ := List.mem_filterMap.mp hmem
      have hid : (asRequest command).commandId ≠ .nil := by
        cases op with
        | queueRead index subIndex =>
            rw [← Option.some.inj hop]
            exact nofun
        | queueWrite index subIndex data =>
            rw [← Option.some.inj hop]
            exact nofun
        | exchange => cases hop
      exact decide_eq_true hid
    have hlength := congrArg List.length hexecuted
    rw [List.length_append, List.length_map] at hlength
    have hnone : (new od).served = 0 := rfl
    omega
  · intro hnone
    obtain ⟨s, hrun, hexecuted, hqueue, hexchanges⟩ :=
      run_nothingSent hchannel ops hnone hfresh rfl rfl
    refine ⟨s, hrun, ?_, ?_⟩
    · rw [hexecuted, hqueue]
      rfl
    · intro x hx
      rcases hexchanges x hx with hx | rfl
      · exact absurd hx List.not_mem_nil
      · rfl

/-- A channel in each direction with containers of sixteen octets. -/
def sixteenOctets : LinkConfig := ⟨0x1280, 0x1200, 16, 16⟩

/-- Idle exchanges complete. -/
theorem idle_exchange_completes :
    Completes sixteenOctets (EmbeddedSdoServer.noObjects) [.exchange] :=
  (completes_iff sixteenOctets _ [.exchange] (by decide)).mpr trivial

/-- The first request of a new client is not executed. -/
theorem first_request_is_ignored :
    ¬∀ (config : LinkConfig) (od : ObjectDictionary Empty) (ops : List LinkOp),
      (0x1280 ≤ config.clientChannel ∧ config.clientChannel ≤ 0x12FF) →
      (∀ request ∈ ops.filterMap LinkOp.request,
        (EmbeddedSdoClient.requestCommand request 0).serialize.length ≤ config.requestLen) →
      Completes config od ops := by
  intro h
  obtain ⟨s, hrun, hexecuted, -⟩ := h sixteenOctets EmbeddedSdoServer.noObjects
    [.queueRead 0x2000 0, .exchange] (by decide) (by decide)
  obtain rfl := Option.some.inj hrun
  revert hexecuted
  decide

end Link

end Powerlink
