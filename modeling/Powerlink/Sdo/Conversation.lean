import Powerlink.Sdo.Table
import Powerlink.Sdo.ClientConnection

/-! # Conversations of a client with the server

A client connection and the server, joined by a channel that loses, duplicates and reorders
nothing.  In one exchange the client is asked for its next request, the server answers it, and
the client takes the answer; an error or an abort on either side is a fault.

The two sides do not agree on the end of the handshake.  The server waits for a frame with
`ConnectionValid`, and every frame of the client after the first one asks for an acknowledgement
(`ConnectionValidAckRequest`).  The second exchange of every read and of every write is therefore
a fault (`conversation_disagrees`). -/

namespace Powerlink

open SdoSequenceHandler

/-- A client, the server and the dictionary of the server. -/
structure Conversation (σ η : Type) where
  client : SdoClientConnection
  server : SdoServer η
  od : ObjectDictionary σ

/-- What one exchange is called with: the times of both sides and the dictionary of the client. -/
structure Round (σ : Type) where
  clientTimeUs : ℕ
  clientOd : ObjectDictionary σ
  serverTimeUs : ℕ

namespace Conversation

variable {σ σ' η : Type} [ObjectDictionaryStorage σ] [SdoCommandHandler σ η]

/-- One exchange; `none` is a fault. -/
def exchange (clientInfo : SdoClientInfo) (round : Round σ') (conv : Conversation σ η) :
    Option (Conversation σ η) :=
  match conv.client.getPendingRequest round.clientTimeUs round.clientOd with
  | (none, client) => some { conv with client := client }
  | (some (seq, cmd), client) =>
      match conv.server.handleRequest (seq.bytes ++ cmd.bytes) clientInfo conv.od
        round.serverTimeUs with
      | (.error _, _, _) => none
      | (.ok response, server, od) =>
          if response.command.header.isAborted then none
          else (client.handleResponse response.seqHeader response.command).map
            (fun client => ⟨client, server, od⟩)

/-- The conversation after a number of exchanges. -/
def run (clientInfo : SdoClientInfo) (rounds : ℕ → Round σ') (conv : Conversation σ η) :
    ℕ → Option (Conversation σ η)
  | 0 => some conv
  | n + 1 => (conv.run clientInfo rounds n).bind (exchange clientInfo (rounds n))

/-- The conversation has no fault, the client closes the connection after finitely many
exchanges, and the transfer is done whenever it is closed. -/
structure Agrees (clientInfo : SdoClientInfo) (rounds : ℕ → Round σ') (conv : Conversation σ η)
    (Done : Conversation σ η → Prop) : Prop where
  noFault : ∀ n, (conv.run clientInfo rounds n).isSome
  ends : ∃ n conv', conv.run clientInfo rounds n = some conv' ∧ conv'.client.state = .closed
  done : ∀ n conv', conv.run clientInfo rounds n = some conv' → conv'.client.state = .closed →
    Done conv'

/-! ### The first exchange -/

/-- The client has started a job and sent nothing. -/
structure Started (client : SdoClientConnection) : Prop where
  opening : client.state = .opening
  send : client.sendSequenceNumber = 0
  received : client.lastReceivedSequenceNumber = 63
  pending : client.dataBuffer ≠ [] ∨ client.pendingCommand.isSome

/-- The client waits for the end of the handshake with its job still to be sent. -/
structure Connected (client : SdoClientConnection) : Prop where
  established : client.state = .established
  send : client.sendSequenceNumber = 1
  received : client.lastReceivedSequenceNumber = 0
  sent : client.lastSentCommand = none
  pending : client.dataBuffer ≠ [] ∨ client.pendingCommand.isSome

variable {clientInfo : SdoClientInfo} {server : SdoServer η} {od : ObjectDictionary σ}
  {client : SdoClientConnection}

/-- The header of the first frame of a client. -/
def openingHeader : SequenceLayerHeader := ⟨63, .noConnection, 0, .initialization⟩

/-- The first frame of a client. -/
def openingFrame (tid : UInt8) : List UInt8 :=
  openingHeader.bytes ++ SdoCommand.bytes ⟨{ transactionId := tid }, none, []⟩

theorem deserialize_openingFrame (tid : UInt8) :
    SequenceLayerHeader.deserialize ((openingFrame tid).take 4) = .ok openingHeader := rfl

/-- A closed connection answers the first frame and waits for its confirmation. -/
theorem handleRequest_openingFrame {h : SdoSequenceHandler} (hs : h.state = .closed) (tid : UInt8)
    (od : ObjectDictionary σ) (currentTimeUs : ℕ) (ch : η) :
    h.handleRequest (openingFrame tid) od currentTimeUs ch =
      ⟨.ok (h.responseData ⟨0, .initialization, 0, .initialization⟩ (.answerTo tid 0 [])),
        h.initialized openingHeader, od, ch⟩ := by
  rw [handleRequest_command (deserialize_openingFrame tid) (by decide)
    (processSequenceLayer_initialization hs rfl)
    (by simp [openingFrame, SequenceLayerHeader.bytes, SdoCommand.bytes])]
  have hdrop : (openingFrame tid).drop 4 = SdoCommand.bytes ⟨{ transactionId := tid }, none, []⟩ :=
    rfl
  rw [hdrop, verdict_bytes (by simp)]
  rfl

/-- The server answers it, and its connection is opening. -/
theorem server_openingFrame (hserver : (server.connection clientInfo).state = .closed)
    (tid : UInt8) (od : ObjectDictionary σ) (currentTimeUs : ℕ) :
    ∃ server', server.handleRequest (openingFrame tid) clientInfo od currentTimeUs =
        (.ok ((server.connection clientInfo).responseData
          ⟨0, .initialization, 0, .initialization⟩ (.answerTo tid 0 [])), server', od) ∧
      (server'.connection clientInfo).state = .opening := by
  have hout := handleRequest_openingFrame hserver tid od currentTimeUs server.handler
  refine ⟨(server.handleRequest (openingFrame tid) clientInfo od currentTimeUs).2.1, ?_, ?_⟩
  · refine Prod.ext ?_ (Prod.ext rfl ?_)
    · rw [handleRequest_result, hout]
    · rw [handleRequest_od, hout]
  · have hget := (SdoServer.handleRequest_get?_self_iff
      (length_of_deserialize (deserialize_openingFrame tid)) hout).mpr
      ⟨rfl, fun hclosed => by cases hclosed⟩
    rw [SdoServer.connection_of_get? hget]
    rfl

/-- The client after the answer to its first frame. -/
def answered (client : SdoClientConnection) : SdoClientConnection :=
  { client with
    state := .established
    sendSequenceNumber := 1
    lastReceivedSequenceNumber := 0
    lastSentCommand := none
    deadlineUs := none
    retriesLeft := 0 }

/-- The client sends the first frame and takes the answer. -/
theorem Started.getPendingRequest (hclient : Started client) (hsent : client.lastSentCommand = none)
    (currentTimeUs : ℕ) (clientOd : ObjectDictionary σ') :
    ∃ client', client.getPendingRequest currentTimeUs clientOd =
        (some (openingHeader,
          ⟨{ transactionId := client.transactionId }, none, []⟩), client') ∧
      client'.handleResponse ⟨0, .initialization, 0, .initialization⟩
          (.answerTo client.transactionId 0 []) = some (answered client) := by
  simp only [SdoClientConnection.getPendingRequest, hsent, hclient.opening, hclient.send,
    hclient.received, SdoClientConnection.sendRequest]
  refine ⟨_, rfl, ?_⟩
  simp only [SdoClientConnection.handleResponse, SdoClientConnection.processResponse]
  rfl

/-- The first exchange connects the client and leaves the connection of the server opening. -/
theorem Started.exchange (hclient : Started client) (hsent : client.lastSentCommand = none)
    (hserver : (server.connection clientInfo).state = .closed) (od : ObjectDictionary σ)
    (round : Round σ') :
    ∃ client' server', Conversation.exchange clientInfo round ⟨client, server, od⟩ =
        some ⟨client', server', od⟩ ∧
      Connected client' ∧ (server'.connection clientInfo).state = .opening := by
  obtain ⟨client', hpending, hresponse⟩ :=
    hclient.getPendingRequest hsent round.clientTimeUs round.clientOd
  obtain ⟨server', hanswer, hopening⟩ :=
    server_openingFrame hserver client.transactionId od round.serverTimeUs
  rw [openingFrame] at hanswer
  refine ⟨answered client, server', ?_, ⟨rfl, rfl, rfl, rfl, hclient.pending⟩, hopening⟩
  simp only [Conversation.exchange, hpending, hanswer, responseData]
  rw [if_neg (by simp [SdoCommand.answerTo]), hresponse]
  rfl

/-! ### The second exchange -/

/-- A connected client asks for an acknowledgement. -/
theorem Connected.getPendingRequest (hclient : Connected client) (currentTimeUs : ℕ)
    (clientOd : ObjectDictionary σ') :
    ∃ cmd client', client.getPendingRequest currentTimeUs clientOd =
      (some (⟨0, .connectionValid, 1, .connectionValidAckRequest⟩, cmd), client') := by
  have hheader : client.requestHeader = ⟨0, .connectionValid, 1, .connectionValidAckRequest⟩ := by
    rw [SdoClientConnection.requestHeader, hclient.send, hclient.received]
  rw [← hheader]
  simp only [SdoClientConnection.getPendingRequest, hclient.sent, hclient.established]
  rw [if_neg (by simp)]
  by_cases hdata : client.dataBuffer = []
  · obtain ⟨cmd, hcmd⟩ := Option.isSome_iff_exists.mp (hclient.pending.resolve_left (· hdata))
    rw [if_neg (not_not.mpr hdata), hcmd]
    exact ⟨_, _, rfl⟩
  · rw [if_pos hdata]
    exact ⟨_, _, rfl⟩

/-- The server rejects the frame. -/
theorem Connected.exchange (hclient : Connected client)
    (hserver : (server.connection clientInfo).state = .opening) (od : ObjectDictionary σ)
    (round : Round σ') :
    Conversation.exchange clientInfo round ⟨client, server, od⟩ = none := by
  obtain ⟨cmd, client', hpending⟩ :=
    hclient.getPendingRequest round.clientTimeUs round.clientOd
  have hrejected : (server.handleRequest
      (SequenceLayerHeader.bytes ⟨0, .connectionValid, 1, .connectionValidAckRequest⟩ ++ cmd.bytes)
      clientInfo od round.serverTimeUs).1 =
        .error (.sdoSequenceError "Invalid sequence state during SDO opening.") := by
    have hdec : SequenceLayerHeader.deserialize ((SequenceLayerHeader.bytes
        ⟨0, .connectionValid, 1, .connectionValidAckRequest⟩ ++ cmd.bytes).take 4) =
          .ok ⟨0, .connectionValid, 1, .connectionValidAckRequest⟩ := rfl
    rw [handleRequest_result, handleRequest_rejected hdec (by decide)
      (processSequenceLayer_unconfirmed hserver (by simp))]
  simp only [Conversation.exchange, hpending]
  split
  · rfl
  · rename_i hok
    rw [hok] at hrejected
    cases hrejected

/-! ### Whole conversations -/

/-- A client that still waits for the answer to an old frame sends nothing. -/
theorem run_waiting {conv : Conversation σ η} (hsent : conv.client.lastSentCommand.isSome)
    (rounds : ℕ → Round σ') : ∀ n, conv.run clientInfo rounds n = some conv
  | 0 => rfl
  | n + 1 => by
      rw [run, run_waiting hsent rounds n, Option.bind_some, exchange,
        SdoClientConnection.getPendingRequest, if_pos hsent]

/-- No conversation of a started client agrees. -/
theorem Started.not_agrees (hclient : Started client)
    (hserver : (server.connection clientInfo).state = .closed) (rounds : ℕ → Round σ')
    (Done : Conversation σ η → Prop) : ¬ Agrees clientInfo rounds ⟨client, server, od⟩ Done := by
  intro hagrees
  cases hsent : client.lastSentCommand with
  | some frame =>
      obtain ⟨n, conv', hrun, hclosed⟩ := hagrees.ends
      rw [run_waiting (by simp [hsent])] at hrun
      cases hrun
      cases hclient.opening.symm.trans hclosed
  | none =>
      obtain ⟨client', server', hfirst, hconnected, hopening⟩ :=
        hclient.exchange hsent hserver od (rounds 0)
      have hsecond := hconnected.exchange hopening od (rounds 1)
      have hfault := hagrees.noFault 2
      simp only [run, Option.bind_some, hfirst, hsecond] at hfault
      cases hfault

/-- Neither a write nor a read ever succeeds between the client and the server. -/
theorem conversation_disagrees (client : SdoClientConnection)
    (hserver : (server.connection clientInfo).state = .closed) (od : ObjectDictionary σ)
    (index : UInt16) (subIndex tid : UInt8) (currentTimeUs : ℕ) (clientOd : ObjectDictionary σ')
    (rounds : ℕ → Round σ') (value : ObjectValue) :
    (∀ data client', client.startWriteJob index subIndex data tid currentTimeUs clientOd =
        (.ok (), client') →
      ¬ Agrees clientInfo rounds ⟨client', server, od⟩
        (fun conv => conv.od.read index subIndex = some value)) ∧
    (∀ client', client.startReadJob index subIndex tid currentTimeUs clientOd =
        (.ok (), client') →
      ¬ Agrees clientInfo rounds ⟨client', server, od⟩
        (fun conv => conv.client.dataBuffer = value.serialize)) := by
  constructor
  · intro data client' hstart
    unfold SdoClientConnection.startWriteJob at hstart
    split_ifs at hstart
    · cases hstart
    · cases hstart
      exact Started.not_agrees ⟨rfl, rfl, rfl, .inl (by simp [SdoClientConnection.writePayload])⟩
        hserver rounds _
  · intro client' hstart
    unfold SdoClientConnection.startReadJob at hstart
    split_ifs at hstart
    · cases hstart
    · cases hstart
      exact Started.not_agrees ⟨rfl, rfl, rfl, .inr rfl⟩ hserver rounds _

/-! ### One octet -/

/-- A new client that was given a write of one octet. -/
def octetWriter : SdoClientConnection :=
  ((SdoClientConnection.new ⟨1⟩).startWriteJob 0x2000 0 [9] 7 0 octetDictionary).2

/-- A new client that was given a read of it. -/
def octetReader : SdoClientConnection :=
  ((SdoClientConnection.new ⟨1⟩).startReadJob 0x2000 0 7 0 octetDictionary).2

/-- All exchanges happen at once. -/
def instantly : ℕ → Round Empty := fun _ => ⟨0, octetDictionary, 0⟩

theorem octet_conversations_disagree :
    ¬ Agrees udpClient instantly ⟨octetWriter, SdoServer.new, octetDictionary⟩
        (fun conv => conv.od.read 0x2000 0 = some (.unsigned8 9)) ∧
      ¬ Agrees udpClient instantly
        ⟨octetReader, SdoServer.new, octetDictionary⟩
        (fun conv => conv.client.dataBuffer = (ObjectValue.unsigned8 5).serialize) :=
  ⟨(conversation_disagrees (SdoClientConnection.new ⟨1⟩) rfl octetDictionary 0x2000 0 7 0
      octetDictionary instantly (.unsigned8 9)).1 [9] octetWriter rfl,
    (conversation_disagrees (SdoClientConnection.new ⟨1⟩) rfl octetDictionary 0x2000 0 7 0
      octetDictionary instantly (.unsigned8 5)).2 octetReader rfl⟩

/-- The octet accepts the write, which the server nevertheless rejects. -/
theorem octet_write_fails :
    octetDictionary.read 0x2000 0 = some (.unsigned8 5) ∧
      (octetDictionary.write 0x2000 0 (.unsigned8 9)).1 = .ok () ∧
      ObjectValue.deserialize [9] (.unsigned8 5) = .ok (.unsigned8 9) ∧
      ((SdoClientConnection.new ⟨1⟩).startWriteJob 0x2000 0 [9] 7 0 octetDictionary).1 = .ok () ∧
      ¬ Agrees udpClient instantly
        ⟨octetWriter, SdoServer.new, octetDictionary⟩
        (fun conv => conv.od.read 0x2000 0 = some (.unsigned8 9)) := by
  refine ⟨by decide +kernel, by decide +kernel, rfl, rfl, ?_⟩
  intro hagrees
  exact absurd (hagrees.noFault 2) (by decide +kernel)

end Conversation

end Powerlink
