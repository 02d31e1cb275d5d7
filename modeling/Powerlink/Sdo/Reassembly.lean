import Powerlink.Sdo.Segments

/-! # Reassembly of an upload

A client that reads an object and the commands of a segmented upload, received one after the other
with sequence numbers in order; between two of them the client asks for the next segment.

The server puts the start of the data into the `Initiate` command already.  The client expects
none there: it clears its buffer and waits for the first segment, so that it ends with what came
after the first command (`reassembly_drops_first`). -/

namespace Powerlink

open Slices SdoTransferState

variable {σ : Type}

/-- What the server and the client choose when a command is received: the connection states of the
sequence header, and the time and the dictionary of the next request. -/
structure Receipt (σ : Type) where
  sendCon : SendConnState
  receiveCon : ReceiveConnState
  currentTimeUs : ℕ
  od : ObjectDictionary σ

namespace SdoClientConnection

/-- The sequence header of a command that is in order: it has the next number of the server and
acknowledges the last command of the client. -/
def inOrderHeader (c : SdoClientConnection) (r : Receipt σ) : SequenceLayerHeader where
  sendSequenceNumber := nextSequence c.lastReceivedSequenceNumber
  sendCon := r.sendCon
  receiveSequenceNumber := (c.lastSentCommand.map fun f => f.1.sendSequenceNumber).getD 0
  receiveCon := r.receiveCon

/-- The commands are received in order, with a call of `get_pending_request` between them; `none`
is a panic. -/
def feed (receipts : ℕ → Receipt σ) : ℕ → SdoClientConnection → List SdoCommand →
    Option SdoClientConnection
  | _, c, [] => some c
  | k, c, [command] => c.handleResponse (c.inOrderHeader (receipts k)) command
  | k, c, command :: next :: rest =>
      (c.handleResponse (c.inOrderHeader (receipts k)) command).bind fun c' =>
        feed receipts (k + 1)
          (c'.getPendingRequest (receipts k).currentTimeUs (receipts k).od).2 (next :: rest)

/-- The connection that has taken note of a response in order. -/
def acknowledged (c : SdoClientConnection) : SdoClientConnection :=
  { c with
    lastSentCommand := none
    deadlineUs := none
    retriesLeft := 0
    lastReceivedSequenceNumber := nextSequence c.lastReceivedSequenceNumber }

/-- A response in order that is no abort is processed. -/
theorem handleResponse_inOrder {c : SdoClientConnection}
    {frame : SequenceLayerHeader × SdoCommand} (hsent : c.lastSentCommand = some frame)
    (r : Receipt σ) {command : SdoCommand} (haborted : command.header.isAborted = false) :
    c.handleResponse (c.inOrderHeader r) command =
      some (c.acknowledged.processResponse (c.inOrderHeader r) command) := by
  have hnumber : (c.inOrderHeader r).receiveSequenceNumber = frame.1.sendSequenceNumber := by
    unfold inOrderHeader
    rw [hsent]
    rfl
  have hnext : (c.inOrderHeader r).sendSequenceNumber =
      nextSequence c.lastReceivedSequenceNumber := rfl
  unfold handleResponse
  rw [hsent]
  dsimp only
  rw [if_neg (not_not.mpr hnumber), if_neg (by rw [hnext]; exact nextSequence_ne _),
    if_neg (not_not.mpr hnext), haborted]
  rfl

/-! ### Uploads -/

/-- The client that waits for a segment. -/
structure AwaitsSegment (c : SdoClientConnection) (received : List UInt8) : Prop where
  state : c.state = .uploadInProgress
  sent : c.lastSentCommand.isSome = true
  received : c.dataBuffer = received

/-- The next segment is requested. -/
theorem awaitsSegment_getPendingRequest {c : SdoClientConnection}
    (hstate : c.state = .uploadInProgress) (hsent : c.lastSentCommand = none)
    (currentTimeUs : ℕ) (od : ObjectDictionary σ) :
    AwaitsSegment (c.getPendingRequest currentTimeUs od).2 c.dataBuffer := by
  unfold getPendingRequest
  rw [hsent, hstate]
  exact ⟨hstate, rfl, rfl⟩

theorem processResponse_segment {c : SdoClientConnection} (hstate : c.state = .uploadInProgress)
    (seqHeader : SequenceLayerHeader) {command : SdoCommand}
    (hkind : command.header.segmentation = .segment) :
    c.processResponse seqHeader command =
      { c with dataBuffer := c.dataBuffer ++ command.payload } := by
  unfold processResponse
  rw [hstate]
  dsimp only
  rw [hkind]

theorem processResponse_complete {c : SdoClientConnection} (hstate : c.state = .uploadInProgress)
    (seqHeader : SequenceLayerHeader) {command : SdoCommand}
    (hkind : command.header.segmentation = .complete) :
    c.processResponse seqHeader command =
      { c with dataBuffer := c.dataBuffer ++ command.payload, state := .closed } := by
  unfold processResponse
  rw [hstate]
  dsimp only
  rw [hkind]

theorem processResponse_initiate {c : SdoClientConnection} (hstate : c.state = .uploadInit)
    (seqHeader : SequenceLayerHeader) {command : SdoCommand}
    (hkind : command.header.segmentation = .initiate) :
    (c.processResponse seqHeader command).state = .uploadInProgress ∧
      (c.processResponse seqHeader command).dataBuffer = [] ∧
      (c.processResponse seqHeader command).lastSentCommand = c.lastSentCommand := by
  unfold processResponse
  rw [hstate]
  dsimp only
  rw [hkind]
  exact ⟨rfl, rfl, rfl⟩

/-- The segments of an upload are collected, up to the last one. -/
theorem feed_segments (receipts : ℕ → Receipt σ) (k : ℕ) {c : SdoClientConnection}
    {received : List UInt8} (hc : AwaitsSegment c received) {m : ℕ} {commands : List SdoCommand}
    (hkinds : commands.map (fun command => command.header.segmentation) =
      List.replicate m .segment ++ [.complete])
    (haborted : ∀ command ∈ commands, command.header.isAborted = false) :
    ∃ c', feed receipts k c commands = some c' ∧ c'.state = .closed ∧
      c'.dataBuffer = received ++ (commands.map SdoCommand.payload).flatten := by
  obtain ⟨frame, hsent⟩ := Option.isSome_iff_exists.mp hc.sent
  induction m generalizing c received k commands frame with
  | zero =>
      obtain ⟨command, rfl, hkind⟩ := List.map_eq_singleton_iff.mp hkinds
      refine ⟨_, handleResponse_inOrder hsent (receipts k) (haborted command (by simp)), ?_⟩
      have hstate : c.acknowledged.state = .uploadInProgress := hc.state
      rw [processResponse_complete hstate _ hkind]
      refine ⟨rfl, ?_⟩
      dsimp only [acknowledged]
      rw [hc.received, List.map_singleton, List.flatten_singleton]
  | succ m ih =>
      obtain ⟨command, rest, rfl, hkind, hrest⟩ := List.map_eq_cons_iff.mp hkinds
      have hresponse := handleResponse_inOrder hsent (receipts k) (haborted command (by simp))
      have hstate : c.acknowledged.state = .uploadInProgress := hc.state
      rw [processResponse_segment hstate _ hkind] at hresponse
      obtain ⟨next, rest', rfl⟩ : ∃ next rest', rest = next :: rest' := by
        cases rest with
        | nil => simp at hrest
        | cons next rest' => exact ⟨next, rest', rfl⟩
      have hwaits := awaitsSegment_getPendingRequest
        (c := { c.acknowledged with dataBuffer := c.acknowledged.dataBuffer ++ command.payload })
        hc.state rfl (receipts k).currentTimeUs (receipts k).od
      obtain ⟨frame', hsent'⟩ := Option.isSome_iff_exists.mp hwaits.sent
      obtain ⟨c', hfeed, hstate, hbuffer⟩ := ih (k + 1) hwaits hrest
        (fun command hmem => haborted command (List.mem_cons_of_mem _ hmem)) frame' hsent'
      refine ⟨c', ?_, hstate, ?_⟩
      · rw [feed, hresponse]
        exact hfeed
      · have hack : c.acknowledged.dataBuffer = received := hc.received
        rw [hbuffer]
        dsimp only
        rw [hack, List.append_assoc]
        rfl

/-- The commands after the first one carry the rest of the data. -/
theorem payloads_tail {transactionId : UInt8} {data : List UInt8} {rest : List SdoCommand}
    (hdata : maxExpeditedPayload < data.length)
    (hcommands : uploadCommands transactionId data = uploadCommand transactionId data 0 :: rest) :
    (rest.map SdoCommand.payload).flatten = data.drop maxExpeditedPayload := by
  have hpayloads := (exactUpload_uploadCommand transactionId hdata).payloads
  have hfirst : (uploadCommand transactionId data 0).payload = data.take maxExpeditedPayload := rfl
  rw [hcommands, List.map_cons, List.flatten_cons, hfirst] at hpayloads
  nth_rewrite 2 [← List.take_append_drop maxExpeditedPayload data] at hpayloads
  exact List.append_cancel_left hpayloads

/-- A client that waits for the answer to a read ends without the data of the first command. -/
theorem feed_upload (receipts : ℕ → Receipt σ) {c : SdoClientConnection}
    (hstate : c.state = .uploadInit) (hsent : c.lastSentCommand.isSome = true)
    (transactionId : UInt8) {data : List UInt8} (hdata : maxExpeditedPayload < data.length) :
    ∃ c', feed receipts 0 c (uploadCommands transactionId data) = some c' ∧ c'.state = .closed ∧
      c'.dataBuffer = data.drop maxExpeditedPayload := by
  obtain ⟨frame, hframe⟩ := Option.isSome_iff_exists.mp hsent
  obtain ⟨rest, hcommands⟩ := uploadCommands_eq_cons transactionId (Nat.zero_lt_of_lt hdata)
  have hkinds := (exactUpload_uploadCommand transactionId hdata).kinds
  rw [hcommands, List.map_cons] at hkinds
  obtain ⟨hkind, hrest⟩ := List.cons.inj hkinds
  obtain ⟨next, rest', rfl⟩ : ∃ next rest', rest = next :: rest' := by
    cases rest with
    | nil => simp at hrest
    | cons next rest' => exact ⟨next, rest', rfl⟩
  have haborted : ∀ command ∈ uploadCommands transactionId data,
      command.header.isAborted = false := by
    intro command hmem
    obtain ⟨k, -, rfl⟩ := List.mem_map.mp hmem
    rfl
  rw [hcommands] at haborted ⊢
  have hack : c.acknowledged.state = .uploadInit := hstate
  obtain ⟨hstate', hbuffer', hsent'⟩ :=
    processResponse_initiate hack (c.inOrderHeader (receipts 0)) hkind
  have hwaits := awaitsSegment_getPendingRequest hstate' hsent' (receipts 0).currentTimeUs
    (receipts 0).od
  rw [hbuffer'] at hwaits
  obtain ⟨c', hfeed, hclosed, hreceived⟩ := feed_segments receipts 1 hwaits hrest
    fun command hmem => haborted command (List.mem_cons_of_mem _ hmem)
  refine ⟨c', ?_, hclosed, ?_⟩
  · rw [feed, handleResponse_inOrder hframe _ (haborted _ (by simp))]
    exact hfeed
  · rw [hreceived, List.nil_append, payloads_tail hdata hcommands]

/-- A client that waits for no answer ignores all of them. -/
theorem feed_ignored (receipts : ℕ → Receipt σ) {c : SdoClientConnection}
    (hstate : c.state = .uploadInit) (hsent : c.lastSentCommand = none) (k : ℕ)
    (commands : List SdoCommand) : feed receipts k c commands = some c := by
  have hresponse : ∀ (seqHeader : SequenceLayerHeader) (command : SdoCommand),
      c.handleResponse seqHeader command = some c := by
    intro seqHeader command
    unfold handleResponse
    rw [hsent]
  have hpending : ∀ (currentTimeUs : ℕ) (od : ObjectDictionary σ),
      (c.getPendingRequest currentTimeUs od).2 = c := by
    intro currentTimeUs od
    unfold getPendingRequest
    rw [hsent, hstate]
    rfl
  induction commands generalizing k with
  | nil => rfl
  | cons command rest ih =>
      cases rest with
      | nil => exact hresponse _ _
      | cons next rest =>
          rw [feed, hresponse, Option.bind_some, hpending]
          exact ih (k + 1)

/-- A client that reads an object by a segmented upload ends without what the first command
carries, so never with the data of the object. -/
theorem reassembly_drops_first (receipts : ℕ → Receipt σ) {c : SdoClientConnection}
    (hstate : c.state = .uploadInit) (transactionId : UInt8) {data : List UInt8}
    (hdata : maxExpeditedPayload < data.length) :
    (c.lastSentCommand.isSome = true → ∃ c',
      feed receipts 0 c (uploadCommands transactionId data) = some c' ∧ c'.state = .closed ∧
        c'.dataBuffer = data.drop maxExpeditedPayload) ∧
    ¬∃ c', feed receipts 0 c (uploadCommands transactionId data) = some c' ∧
      c'.state = .closed ∧ c'.dataBuffer = data := by
  refine ⟨fun hsent => feed_upload receipts hstate hsent transactionId hdata, ?_⟩
  rintro ⟨c', hfeed, hclosed, hbuffer⟩
  cases hsent : c.lastSentCommand with
  | none =>
      rw [feed_ignored receipts hstate hsent] at hfeed
      rw [← Option.some.inj hfeed, hstate] at hclosed
      cases hclosed
  | some frame =>
      obtain ⟨c'', hfeed', -, hdrop⟩ :=
        feed_upload receipts hstate (by rw [hsent]; rfl) transactionId hdata
      obtain rfl := Option.some.inj (hfeed.symm.trans hfeed')
      have hlength := congrArg List.length (hbuffer.symm.trans hdrop)
      rw [List.length_drop] at hlength
      have hpos : 0 < maxExpeditedPayload := by decide
      omega

/-- A connection that has sent its read of `0x2000`. -/
def readSent : SdoClientConnection where
  targetNodeId := ⟨1⟩
  state := .uploadInit
  transactionId := 1
  sendSequenceNumber := 2
  lastReceivedSequenceNumber := 0
  dataBuffer := []
  offset := 0
  totalSize := 0
  deadlineUs := some 15000000
  retriesLeft := 2
  lastSentCommand := some
    ({ sendSequenceNumber := 1
       sendCon := .connectionValidAckRequest
       receiveSequenceNumber := 0
       receiveCon := .connectionValid },
      ⟨{ transactionId := 1
         segmentation := .expedited
         commandId := .readByIndex
         segmentSize := 4 }, none, [0, 0x20, 0, 0]⟩)
  currentJob := none
  pendingCommand := none

/-- A server with a valid connection, and a client that asks at once. -/
def promptReceipts : ℕ → Receipt Empty := fun _ => ⟨.connectionValid, .connectionValid, 0, .new none⟩

theorem reassembly_drops_first_two_segments :
    (readSent.lastSentCommand.isSome = true → ∃ c',
      feed promptReceipts 0 readSent (uploadCommands 1 (List.replicate 1453 7)) = some c' ∧
        c'.state = .closed ∧
          c'.dataBuffer = (List.replicate 1453 (7 : UInt8)).drop maxExpeditedPayload) ∧
    ¬∃ c', feed promptReceipts 0 readSent (uploadCommands 1 (List.replicate 1453 7)) = some c' ∧
      c'.state = .closed ∧ c'.dataBuffer = List.replicate 1453 7 :=
  reassembly_drops_first promptReceipts rfl 1 (by rw [List.length_replicate]; decide)

/-- Of `1453` octets the last one is left. -/
theorem last_octet_is_left :
    (∃ c', feed promptReceipts 0 readSent (uploadCommands 1 (List.replicate 1453 7)) = some c' ∧
      c'.state = .closed ∧ c'.dataBuffer = [7]) ∧
    ¬∃ c', feed promptReceipts 0 readSent (uploadCommands 1 (List.replicate 1453 7)) = some c' ∧
      c'.state = .closed ∧ c'.dataBuffer = List.replicate 1453 7 := by
  have hlarge : maxExpeditedPayload < (List.replicate 1453 (7 : UInt8)).length := by
    rw [List.length_replicate]
    decide
  obtain ⟨c', hfeed, hclosed, hbuffer⟩ := feed_upload promptReceipts (c := readSent) rfl rfl 1 hlarge
  rw [List.drop_replicate] at hbuffer
  refine ⟨⟨c', hfeed, hclosed, hbuffer⟩, ?_⟩
  rintro ⟨c'', hfeed', -, hwhole⟩
  obtain rfl := Option.some.inj (hfeed.symm.trans hfeed')
  have hlength := congrArg List.length (hbuffer.symm.trans hwhole)
  rw [List.length_replicate, List.length_replicate] at hlength
  exact absurd hlength (by decide)

end SdoClientConnection

end Powerlink
