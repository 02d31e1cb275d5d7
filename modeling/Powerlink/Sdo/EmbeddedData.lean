import Powerlink.Sdo.ClientPanics

/-! # The data of an embedded command

A container carries the length of the data in one octet, and `PdoSdoCommand::serialize` writes the
length modulo 256.  The receiver reads as many octets as that octet says, so a command with more
data decodes to the first octets of it.  `deserialize_fillContainer` says what a container of any
length decodes to, and `embedded_data_uncut_iff` when the data of a read and of a queued write
arrive whole. -/

namespace Powerlink

open Runs LittleEndian

/-! ### What a container decodes to -/

namespace PdoSdoCommand

/-- A buffer without a header. -/
theorem deserialize_short {buffer : List UInt8} (h : buffer.length < 8) :
    deserialize buffer = .error .bufferTooShort := by
  unfold deserialize
  split
  · simp only [List.length_cons] at h
    omega
  · rfl

/-- The header of a command. -/
def header (c : PdoSdoCommand) : List UInt8 :=
  [c.sequenceOctet, c.transactionId, SdoCommand.flags c.isResponse c.isAborted c.segmentation,
    UInt8.ofNat c.data.length, c.commandId.toByte] ++ u16Bytes c.index ++ [c.subIndex]

theorem serialize_eq (c : PdoSdoCommand) : c.serialize = c.header ++ c.data := rfl

@[simp] theorem length_header (c : PdoSdoCommand) : c.header.length = 8 := rfl

theorem length_serialize (c : PdoSdoCommand) : c.serialize.length = 8 + c.data.length := by
  rw [serialize_eq, List.length_append, length_header]

/-- The header and whatever stands behind it. -/
theorem deserialize_header (c : PdoSdoCommand) (rest : List UInt8) :
    deserialize (c.header ++ rest) =
      if rest.length < c.data.length % 256 then .error .bufferTooShort
      else .ok { c.decoded with data := rest.take (c.data.length % 256) } := by
  obtain ⟨i₀, i₁, hi⟩ : ∃ i₀ i₁, u16Bytes c.index = [i₀, i₁] := ⟨_, _, rfl⟩
  have hindex : u16OfBytes [i₀, i₁] = c.index := by rw [← hi, u16OfBytes_u16Bytes]
  have hlength : (UInt8.ofNat c.data.length).toNat = c.data.length % 256 := UInt8.toNat_ofNat'
  unfold header deserialize
  rw [hi]
  simp only [List.cons_append, List.nil_append, SdoCommand.commandId_tryFrom_toByte,
    SdoCommand.segmentation_flags, SdoCommand.isResponse_flags, SdoCommand.isAborted_flags,
    hindex, hlength, bind, Except.bind]
  rfl

end PdoSdoCommand

/-- The length octet decides how much of the data is read, and a container that has less is
refused. -/
theorem deserialize_fillContainer (c : PdoSdoCommand) (containerLen : ℕ) :
    PdoSdoCommand.deserialize (fillContainer c.serialize containerLen) =
      if containerLen < 8 + c.data.length % 256 then .error .bufferTooShort
      else .ok { c.decoded with data := c.data.take (c.data.length % 256) } := by
  rcases Nat.lt_or_ge containerLen 8 with hshort | hlong
  · rw [if_pos (by omega)]
    exact PdoSdoCommand.deserialize_short (by rw [length_fillContainer]; exact hshort)
  · obtain ⟨n, rfl⟩ : ∃ n, containerLen = 8 + n := ⟨containerLen - 8, by omega⟩
    have hfill : fillContainer c.serialize (8 + n) = c.header ++ fillContainer c.data n := by
      unfold fillContainer
      have htake : c.serialize.take (8 + n) = c.header ++ c.data.take n := by
        rw [PdoSdoCommand.serialize_eq, ← c.length_header, List.take_length_add_append]
      have hpad : 8 + n - (8 + c.data.length) = n - c.data.length := by omega
      rw [htake, PdoSdoCommand.length_serialize, hpad, List.append_assoc]
    rw [hfill, PdoSdoCommand.deserialize_header, length_fillContainer]
    by_cases hn : n < c.data.length % 256
    · rw [if_pos hn, if_pos (by omega)]
    · have hle := Nat.mod_le c.data.length 256
      have htake : (fillContainer c.data n).take (c.data.length % 256) =
          c.data.take (c.data.length % 256) := by
        unfold fillContainer
        rw [List.take_append_of_le_length, List.take_take, Nat.min_eq_left (by omega)]
        rw [List.length_take]
        omega
      rw [if_neg hn, if_neg (by omega), htake]

/-- The first octets of a list that its length modulo 256 counts are the whole list if it is short.
-/
theorem take_length_mod_eq_self_iff (data : List UInt8) :
    data.take (data.length % 256) = data ↔ data.length < 256 := by
  rw [List.take_eq_self_iff]
  omega

/-! ### Reads -/

namespace EmbeddedSdoServer

variable {σ : Type} [ObjectDictionaryStorage σ]

/-- The container gives the whole value of the object that the command reads, or an abort, or an
error. -/
def ReadUncut (command : PdoSdoCommand) (od : ObjectDictionary σ) (container : List UInt8) : Prop :=
  match PdoSdoCommand.deserialize container with
  | .error _ => True
  | .ok response => response.isAborted = true ∨
      ∃ value, od.read command.index command.subIndex = some value ∧
        response.data = value.serialize

/-- The response to a read. -/
theorem processCommand_read {command : PdoSdoCommand} (h : command.commandId = .readByIndex)
    (od : ObjectDictionary σ) (seq : UInt8) :
    ∃ response : PdoSdoCommand, (processCommand command od seq).1 = response.serialize ∧
      match od.read command.index command.subIndex with
      | some value => response.isAborted = false ∧ response.data = value.serialize
      | none => response.isAborted = true := by
  unfold processCommand execute
  rw [h]
  dsimp only
  cases od.read command.index command.subIndex with
  | some value => exact ⟨_, rfl, rfl, rfl⟩
  | none => exact ⟨_, rfl, rfl⟩

/-- A response in its container is uncut if its length fits the octet, or if the container does not
even hold the octets that this counts. -/
theorem readUncut_iff {command : PdoSdoCommand} (h : command.commandId = .readByIndex)
    (od : ObjectDictionary σ) (seq : UInt8) (containerLen : ℕ) :
    ReadUncut command od (fillContainer (processCommand command od seq).1 containerLen) ↔
      ∀ value, od.read command.index command.subIndex = some value →
        value.serialize.length < 256 ∨ containerLen < 8 + value.serialize.length % 256 := by
  obtain ⟨response, hresponse, hread⟩ := processCommand_read h od seq
  rw [hresponse, ReadUncut, deserialize_fillContainer]
  cases hvalue : od.read command.index command.subIndex with
  | none =>
      rw [hvalue] at hread
      constructor
      · intro _ value hsome
        cases hsome
      · intro _
        split_ifs
        · trivial
        · exact .inl hread
  | some value =>
      rw [hvalue] at hread
      obtain ⟨haborted, hdata⟩ := hread
      rw [hdata]
      constructor
      · intro huncut value' hvalue'
        obtain rfl := Option.some.inj hvalue'
        by_cases hshort : containerLen < 8 + value.serialize.length % 256
        · exact .inr hshort
        · rw [if_neg hshort] at huncut
          rcases huncut with habort | ⟨value', hvalue', htake⟩
          · exact absurd (haborted.symm.trans habort) Bool.false_ne_true
          · obtain rfl := Option.some.inj hvalue'
            exact .inl ((take_length_mod_eq_self_iff _).mp htake)
      · intro hall
        by_cases hshort : containerLen < 8 + value.serialize.length % 256
        · rw [if_pos hshort]
          trivial
        · rw [if_neg hshort]
          have hlength := (hall value rfl).resolve_right hshort
          exact .inr ⟨value, rfl, (take_length_mod_eq_self_iff _).mpr hlength⟩

/-- Repeats of the request and calls for other channels leave the response where it is. -/
theorem channel_calls {index : UInt16} (calls : List Call)
    {s : EmbeddedSdoServer × ObjectDictionary σ}
    (hcalls : ∀ c ∈ calls, c.Repeats index (s.1.channel index).lastSequenceNumber ∧
      c.collects index = none) :
    (calls.foldl call s).1.channel index = s.1.channel index := by
  induction calls generalizing s with
  | nil => rfl
  | cons c calls ih =>
      obtain ⟨hrepeats, hcollects⟩ := hcalls c List.mem_cons_self
      have hc : ∀ containerLen, c ≠ .getPendingResponse index containerLen := by
        rintro containerLen rfl
        exact absurd ((if_pos rfl).symm.trans hcollects) nofun
      have hchannel := channel_call hrepeats hc
      rw [List.foldl_cons, ih, hchannel]
      intro c' hc'
      rw [hchannel]
      exact hcalls c' (List.mem_cons_of_mem c hc')

/-- The container that is collected for a request that the server has executed. -/
theorem collected_response {server : EmbeddedSdoServer} {index : UInt16} {payload : List UInt8}
    {command : PdoSdoCommand} (od : ObjectDictionary σ)
    (hexecutes : server.executes index payload = some command) (calls : List Call)
    (hcalls : ∀ c ∈ calls, c.Repeats index command.sequenceHeader.sequenceNumber ∧
      c.collects index = none) (containerLen : ℕ) :
    ((calls.foldl call (server.handleRequest index payload od)).1.getPendingResponse index
      containerLen).1 = fillContainer
        (processCommand command od command.sequenceHeader.sequenceNumber).1 containerLen := by
  have hchannel : (server.handleRequest index payload od).1.channel index =
      ⟨command.sequenceHeader.sequenceNumber,
        some (processCommand command od command.sequenceHeader.sequenceNumber).1⟩ := by
    rw [handleRequest_eq, hexecutes]
    exact (channel_insert server index index _).trans (if_pos rfl)
  have hlater := channel_calls calls (s := server.handleRequest index payload od)
    (by rw [hchannel]; exact hcalls)
  rw [hchannel] at hlater
  unfold channel at hlater
  dsimp only [getPendingResponse]
  rw [hlater]

end EmbeddedSdoServer

/-! ### Queued writes -/

namespace EmbeddedSdoClient

/-- The number of requests that a call takes from the queue of a channel. -/
def Call.takes (channelIndex : UInt16) : Call → ℕ
  | .getPendingRequest channelIndex' _ => if channelIndex' = channelIndex then 1 else 0
  | _ => 0

/-- The number of requests that calls take from the queue of a channel. -/
def taken (channelIndex : UInt16) (calls : List Call) : ℕ :=
  (calls.map (Call.takes channelIndex)).sum

theorem channel_insert (client : EmbeddedSdoClient) (index index' : UInt16)
    (conn : EmbeddedClientConnection) :
    channel ⟨client.connections.insert index conn⟩ index' =
      if index' = index then conn else client.channel index' := by
  unfold channel
  dsimp only
  rw [SortedMap.get?_insert]
  split_ifs
  · rfl
  · rfl

/-- A queued request is appended to the queue of its channel. -/
theorem queue_queueRequest (client : EmbeddedSdoClient) (index index' : UInt16)
    (request : SdoClientRequest) :
    ∃ later, (((client.queueRequest index request).toOption.getD client).channel
      index').requestQueue = (client.channel index').requestQueue ++ later := by
  unfold queueRequest
  by_cases hindex : 0x1280 ≤ index ∧ index ≤ 0x12FF
  · rw [if_neg (not_not.mpr hindex)]
    by_cases h : index' = index
    · subst h
      exact ⟨[request], congrArg EmbeddedClientConnection.requestQueue
        (channel_insert_self client index' _)⟩
    · refine ⟨[], ?_⟩
      rw [List.append_nil]
      exact congrArg _ ((channel_insert client index index' _).trans (if_neg h))
  · rw [if_pos hindex]
    exact ⟨[], (List.append_nil _).symm⟩

/-- A response leaves the queues of all channels alone. -/
theorem queue_handleResponse {client client' : EmbeddedSdoClient} {index : UInt16}
    {payload : List UInt8} (h : client.handleResponse index payload = some client')
    (index' : UInt16) :
    (client'.channel index').requestQueue = (client.channel index').requestQueue := by
  by_cases hindex : index' = index
  · subst hindex
    exact channel_handleResponse h
  · unfold handleResponse at h
    split at h
    · rw [Option.some.inj h]
    · split at h
      · rw [Option.some.inj h]
      · dsimp only at h
        split_ifs at h
        · rw [Option.some.inj h]
        · obtain rfl := Option.some.inj h
          rw [channel_insert, if_neg hindex]

/-- A container takes the first request of its channel. -/
theorem queue_getPendingRequest (client : EmbeddedSdoClient) (index index' : UInt16)
    (containerLen : ℕ) :
    ((client.getPendingRequest index containerLen).2.channel index').requestQueue =
      (client.channel index').requestQueue.drop (if index = index' then 1 else 0) := by
  by_cases h : index = index'
  · subst h
    rw [channel_getPendingRequest, if_pos rfl]
    cases hqueue : (client.channel index).requestQueue with
    | nil => exact hqueue
    | cons request queue => rfl
  · have hchannel : (client.getPendingRequest index containerLen).2.channel index' =
        client.channel index' := by
      unfold getPendingRequest
      dsimp only
      split
      · exact (channel_insert client index index' _).trans (if_neg (Ne.symm h))
      · exact (channel_insert client index index' _).trans (if_neg (Ne.symm h))
    rw [hchannel, if_neg h, List.drop_zero]

/-- A call takes from the front of a queue and appends behind it. -/
theorem queue_call {client client' : EmbeddedSdoClient} {c : Call} (h : client.call c = some client')
    (index : UInt16) :
    ∃ later, (client'.channel index).requestQueue =
      (client.channel index).requestQueue.drop (c.takes index) ++ later := by
  cases c with
  | queueRead channelIndex i s =>
      obtain rfl := Option.some.inj h
      exact queue_queueRequest client channelIndex index _
  | queueWrite channelIndex i s data =>
      obtain rfl := Option.some.inj h
      exact queue_queueRequest client channelIndex index _
  | handleResponse channelIndex payload =>
      rw [call, handleResponseChecked_eq] at h
      exact ⟨[], (queue_handleResponse h index).trans (List.append_nil _).symm⟩
  | getPendingRequest channelIndex containerLen =>
      obtain rfl := Option.some.inj h
      exact ⟨[], (queue_getPendingRequest client channelIndex index containerLen).trans
        (List.append_nil _).symm⟩

/-- Calls take from the front of a queue and append behind it. -/
theorem queue_run (calls : List Call) {client client' : EmbeddedSdoClient}
    (h : run (partialStep call) (some client) calls = some client') (index : UInt16) :
    ∃ later, (client'.channel index).requestQueue =
      (client.channel index).requestQueue.drop (taken index calls) ++ later := by
  induction calls generalizing client with
  | nil =>
      obtain rfl := Option.some.inj h
      exact ⟨[], (List.append_nil _).symm⟩
  | cons c calls ih =>
      obtain ⟨client₁, hcall, hrun⟩ := run_partialStep_cons h
      obtain ⟨later₁, hqueue₁⟩ := queue_call hcall index
      obtain ⟨later, hqueue⟩ := ih hrun
      refine ⟨?_, ?_⟩
      · exact later₁.drop (taken index calls -
          ((client.channel index).requestQueue.drop (c.takes index)).length) ++ later
      · have htaken : taken index (c :: calls) = c.takes index + taken index calls := rfl
        rw [hqueue, hqueue₁, htaken, List.drop_append, List.drop_drop, List.append_assoc]

/-- The write stands at the front of the queue once all requests before it have been taken. -/
theorem write_at_front {client client₁ client₂ : EmbeddedSdoClient} {channelIndex index : UInt16}
    {subIndex : UInt8} {data : List UInt8} {calls : List Call}
    (hwrite : client.queueWrite channelIndex index subIndex data = .ok client₁)
    (hrun : run (partialStep call) (some client₁) calls = some client₂)
    (htaken : taken channelIndex calls = (client.channel channelIndex).requestQueue.length) :
    ∃ later, (client₂.channel channelIndex).requestQueue =
      ⟨.writeByIndex, index, subIndex, data⟩ :: later := by
  have hvalid : 0x1280 ≤ channelIndex ∧ channelIndex ≤ 0x12FF := by
    by_contra hnot
    unfold queueWrite queueRequest at hwrite
    rw [if_pos hnot] at hwrite
    cases hwrite
  have hqueue₁ : (client₁.channel channelIndex).requestQueue =
      (client.channel channelIndex).requestQueue ++ [⟨.writeByIndex, index, subIndex, data⟩] := by
    unfold queueWrite queueRequest at hwrite
    rw [if_neg (not_not.mpr hvalid)] at hwrite
    rw [← Except.ok.inj hwrite, channel_insert_self]
    rfl
  obtain ⟨later, hqueue⟩ := queue_run calls hrun channelIndex
  refine ⟨later, ?_⟩
  rw [hqueue, hqueue₁, htaken, List.drop_left]
  rfl

/-- The container decodes to a write of the data. -/
def WriteUncut (index : UInt16) (subIndex : UInt8) (data container : List UInt8) : Prop :=
  ∃ command, PdoSdoCommand.deserialize container = .ok command ∧
    command.commandId = .writeByIndex ∧ command.index = index ∧ command.subIndex = subIndex ∧
      command.data = data

/-- The container of a write that fits into it. -/
theorem writeUncut_iff {client : EmbeddedSdoClient} {channelIndex index : UInt16} {subIndex : UInt8}
    {data : List UInt8} {later : List SdoClientRequest}
    (hqueue : (client.channel channelIndex).requestQueue =
      ⟨.writeByIndex, index, subIndex, data⟩ :: later) {containerLen : ℕ}
    (hfits : 8 + data.length ≤ containerLen) :
    WriteUncut index subIndex data (client.getPendingRequest channelIndex containerLen).1 ↔
      data.length < 256 := by
  have hcontainer : (client.getPendingRequest channelIndex containerLen).1 =
      fillContainer (requestCommand ⟨.writeByIndex, index, subIndex, data⟩
        (client.channel channelIndex).nextSequenceNumber).serialize containerLen := by
    have hchannel : (client.connections.get? channelIndex).getD {} =
        client.channel channelIndex := rfl
    unfold getPendingRequest
    dsimp only
    rw [hchannel, hqueue]
    dsimp only
    rw [if_neg]
    rw [PdoSdoCommand.length_serialize]
    exact not_lt.mpr hfits
  have hle := Nat.mod_le data.length 256
  have hdecode := deserialize_fillContainer (requestCommand ⟨.writeByIndex, index, subIndex, data⟩
    (client.channel channelIndex).nextSequenceNumber) containerLen
  rw [if_neg (by dsimp only [requestCommand]; omega)] at hdecode
  rw [hcontainer, WriteUncut, hdecode, ← take_length_mod_eq_self_iff]
  constructor
  · rintro ⟨command, hcommand, -, -, -, hdata⟩
    rw [← Except.ok.inj hcommand] at hdata
    exact hdata
  · intro hdata
    exact ⟨_, rfl, rfl, rfl, rfl, hdata⟩

end EmbeddedSdoClient

/-! ### Both directions -/

open EmbeddedSdoServer EmbeddedSdoClient in
/-- The value of a read arrives uncut, and so does the data of a write whose container is filled,
exactly if the length fits the octet; a read is also safe if its container is too short for what
that octet counts. -/
theorem embedded_data_uncut_iff {σ : Type} [ObjectDictionaryStorage σ]
    {server : EmbeddedSdoServer} {serverChannel : UInt16} {payload : List UInt8}
    {command : PdoSdoCommand} (od : ObjectDictionary σ)
    (hexecutes : server.executes serverChannel payload = some command)
    (hread : command.commandId = .readByIndex) (serverCalls : List EmbeddedSdoServer.Call)
    (hcalls : ∀ c ∈ serverCalls, c.Repeats serverChannel command.sequenceHeader.sequenceNumber ∧
      c.collects serverChannel = none) (responseLen : ℕ)
    {client client₁ client₂ : EmbeddedSdoClient} {clientChannel index : UInt16} {subIndex : UInt8}
    {data : List UInt8} (clientCalls : List EmbeddedSdoClient.Call)
    (hwrite : client.queueWrite clientChannel index subIndex data = .ok client₁)
    (hrun : run (partialStep EmbeddedSdoClient.call) (some client₁) clientCalls = some client₂)
    (htaken : taken clientChannel clientCalls =
      (client.channel clientChannel).requestQueue.length) {requestLen : ℕ}
    (hfits : 8 + data.length ≤ requestLen) :
    (ReadUncut command od ((serverCalls.foldl EmbeddedSdoServer.call
      (server.handleRequest serverChannel payload od)).1.getPendingResponse serverChannel
        responseLen).1 ↔
      ∀ value, od.read command.index command.subIndex = some value →
        value.serialize.length < 256 ∨ responseLen < 8 + value.serialize.length % 256) ∧
    (WriteUncut index subIndex data (client₂.getPendingRequest clientChannel requestLen).1 ↔
      data.length < 256) := by
  constructor
  · rw [collected_response od hexecutes serverCalls hcalls]
    exact readUncut_iff hread od _ responseLen
  · obtain ⟨later, hqueue⟩ := write_at_front hwrite hrun htaken
    exact writeUncut_iff hqueue hfits

/-- A dictionary with one variable. -/
def storing (value : ObjectValue) : ObjectDictionary Empty :=
  EmbeddedSdoServer.noObjects.insert 0x2000 ⟨.variable value, "", some .readWrite, none⟩

/-- The first read of a server channel is executed. -/
theorem executes_firstRead : EmbeddedSdoServer.new.executes 0x1200
    EmbeddedSdoServer.firstRead.serialize = some EmbeddedSdoServer.firstRead.decoded := by
  decide

/-- A word is read and written whole. -/
theorem word_is_uncut :
    EmbeddedSdoServer.ReadUncut EmbeddedSdoServer.firstRead.decoded (storing (.unsigned16 7))
        ((EmbeddedSdoServer.new.handleRequest 0x1200 EmbeddedSdoServer.firstRead.serialize
          (storing (.unsigned16 7))).1.getPendingResponse 0x1200 16).1 ∧
      ∃ client, EmbeddedSdoClient.new.queueWrite 0x1280 0x2000 0 [7, 0] = .ok client ∧
        EmbeddedSdoClient.WriteUncut 0x2000 0 [7, 0] (client.getPendingRequest 0x1280 16).1 := by
  have hqueued : EmbeddedSdoClient.new.queueWrite 0x1280 0x2000 0 [7, 0] = .ok _ := rfl
  have hfits : 8 + [(7 : UInt8), 0].length ≤ 16 := by decide
  obtain ⟨hread, hwrite⟩ := embedded_data_uncut_iff (storing (.unsigned16 7)) executes_firstRead rfl
    [] (fun _ h => absurd h List.not_mem_nil) 16 [] hqueued rfl rfl hfits
  refine ⟨hread.mpr ?_, _, rfl, hwrite.mpr (by decide)⟩
  intro value hvalue
  obtain rfl := Option.some.inj hvalue
  exact .inl (by decide)

/-- A value of 256 octets has the length octet zero. -/
theorem long_value_is_cut :
    ¬∀ (server : EmbeddedSdoServer) (channelIndex : UInt16) (payload : List UInt8)
      (command : PdoSdoCommand) (od : ObjectDictionary Empty) (containerLen : ℕ),
      server.executes channelIndex payload = some command →
      command.commandId = .readByIndex →
        EmbeddedSdoServer.ReadUncut command od
          ((server.handleRequest channelIndex payload od).1.getPendingResponse channelIndex
            containerLen).1 := by
  intro h
  obtain ⟨octets, hlength⟩ : ∃ octets : List UInt8, octets.length = 256 :=
    ⟨List.replicate _ 0, List.length_replicate⟩
  have huncut := h .new 0x1200 _ _ (storing (.domain octets)) 264 executes_firstRead rfl
  have hcontainer := EmbeddedSdoServer.collected_response (storing (.domain octets))
    executes_firstRead [] (fun _ h => absurd h List.not_mem_nil) 264
  rw [List.foldl_nil] at hcontainer
  rw [hcontainer] at huncut
  have hlt := (EmbeddedSdoServer.readUncut_iff rfl _ _ _).mp huncut (.domain octets) rfl
  rw [ObjectValue.serialize, hlength] at hlt
  omega

end Powerlink
