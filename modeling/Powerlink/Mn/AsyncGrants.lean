import Powerlink.Mn.Branches
import Powerlink.Mn.IdentifyOrder

/-! # Grants for the requests of controlled nodes

A controlled node asks for an asynchronous slot with the RS flag; the managing node queues the
request and grants it in step 9 of `determine_next_async_action`.  The steps before it come first
whenever they have something to do, and two of them have something to do for ever: the
identification, as long as one node stays unidentified, and the status poll, as long as one
async-only node is there.

`requests_served_iff` says when the queue is served: when both have nothing to do, and then in the
order of the priorities. -/

namespace Powerlink

/-! ### The SDO clients have nothing to send -/

section client

variable {σ : Type} {od : ObjectDictionary σ} {t : ℕ}

theorem SdoClientConnection.getPendingRequest_closed {c : SdoClientConnection}
    (h : c.state = .closed) : (c.getPendingRequest t od).1 = none := by
  unfold SdoClientConnection.getPendingRequest
  by_cases hlast : c.lastSentCommand.isSome
  · rw [if_pos hlast]
  · rw [if_neg hlast, h]

/-- A connection without a request stays as it is, or is closed at the end of its job. -/
theorem SdoClientConnection.getPendingRequest_none {c : SdoClientConnection}
    (h : (c.getPendingRequest t od).1 = none) :
    (c.getPendingRequest t od).2 = c ∨ (c.getPendingRequest t od).2.state = .closed := by
  unfold SdoClientConnection.getPendingRequest at h ⊢
  by_cases hlast : c.lastSentCommand.isSome
  · rw [if_pos hlast]
    exact .inl rfl
  · rw [if_neg hlast] at h ⊢
    cases hstate : c.state with
    | established =>
        simp only [hstate] at h ⊢
        by_cases hdata : c.dataBuffer ≠ []
        · rw [if_pos hdata] at h
          cases h
        · rw [if_neg hdata] at h ⊢
          cases hcmd : c.pendingCommand with
          | some cmd =>
              rw [hcmd] at h
              cases h
          | none =>
              simp only [hcmd] at h ⊢
              split at h
              · cases h
              · exact .inr rfl
    | opening =>
        rw [hstate] at h
        cases h
    | downloadInProgress =>
        rw [hstate] at h
        cases h
    | uploadInProgress =>
        rw [hstate] at h
        cases h
    | _ => exact .inl rfl

namespace SdoClientManager

variable {m : SdoClientManager}
  {act : SdoClientConnection → Option (SequenceLayerHeader × SdoCommand) × SdoClientConnection}

/-- A sweep over connections without a request. -/
theorem visitList_sweepConnection : ∀ (l : List (NodeId × SdoClientConnection))
    (closed : List NodeId), (∀ p ∈ l, (act p.2).1 = none) →
    ∃ closed', (SortedMap.visitList (sweepConnection act) l (none, closed)).1 = .ok (none, closed')
  | [], closed, _ => ⟨closed, rfl⟩
  | (id, conn) :: l, closed, h => by
      obtain ⟨hconn, hl⟩ := List.forall_mem_cons.mp h
      obtain ⟨closed', hrest⟩ := visitList_sweepConnection l
        (if (act conn).2.isClosed then closed ++ [id] else closed) hl
      refine ⟨closed', ?_⟩
      simp only [SortedMap.visitList, sweepConnection, hconn, Option.map_none]
      exact hrest

theorem sweep_none_of_forall
    (h : ∀ id conn, m.connections.get? id = some conn → (act conn).1 = none) :
    (m.sweep act).1 = none := by
  obtain ⟨closed, hvisit⟩ := @visitList_sweepConnection act m.connections.entries []
    (fun p hp => h p.1 p.2 ((m.connections.mem_entries_iff p.1 p.2).mp hp))
  have hfirst : (m.connections.visit (sweepConnection act) (none, [])).1 = .ok (none, closed) :=
    hvisit
  unfold sweep
  split
  · rename_i res prune connections heq
    rw [heq] at hfirst
    exact congrArg Prod.fst (Except.ok.inj hfirst)
  · rename_i e _ _
    exact e.elim

/-- After a sweep without a request each connection is one that has just been asked. -/
theorem get?_sweep_none (h : (m.sweep act).1 = none) {id : NodeId} {conn : SdoClientConnection}
    (hget : (m.sweep act).2.connections.get? id = some conn) :
    ∃ asked, (act asked).1 = none ∧ conn = (act asked).2 := by
  unfold sweep at h hget
  split at h
  · rename_i res prune connections heq
    simp only [heq, SortedMap.get?_eraseAll] at hget
    split_ifs at hget
    have hok : (m.connections.visit (sweepConnection act) (none, [])).1 = .ok (res, prune) := by
      rw [heq]
    have hconn : (m.connections.visit (sweepConnection act) (none, [])).2.get? id = some conn := by
      rw [heq]
      exact hget
    -- a frame that was found is kept until the end of the sweep
    refine SortedMap.visit_ok (R := fun acc _ conn => acc.1 = none →
      ∃ asked, (act asked).1 = none ∧ conn = (act asked).2) ?_ ?_ hok hconn h
    · intro k v acc acc' v' hstep hnone
      unfold sweepConnection at hstep
      obtain ⟨hacc, rfl⟩ := Prod.mk.inj hstep
      obtain rfl := Except.ok.inj hacc
      cases hold : acc.1 with
      | some frame =>
          rw [hold] at hnone
          cases hnone
      | none =>
          rw [hold] at hnone
          exact ⟨v, Option.map_eq_none_iff.mp hnone, rfl⟩
    · intro k v acc acc' v' k₀ v₀ hstep hR hnone
      apply hR
      unfold sweepConnection at hstep
      obtain ⟨hacc, -⟩ := Prod.mk.inj hstep
      obtain rfl := Except.ok.inj hacc
      cases hold : acc.1 with
      | some frame =>
          rw [hold] at hnone
          cases hnone
      | none => rfl
  · rename_i e _ _
    exact e.elim

/-- Clients that have nothing to send have nothing to send in the next call either. -/
theorem getPendingRequest_none (h : (m.getPendingRequest t od).1 = none) :
    ((m.getPendingRequest t od).2.getPendingRequest t od).1 = none := by
  apply sweep_none_of_forall
  intro id conn hget
  obtain ⟨asked, hnone, rfl⟩ := get?_sweep_none h hget
  obtain hsame | hclosed := SdoClientConnection.getPendingRequest_none hnone
  · rwa [hsame]
  · exact SdoClientConnection.getPendingRequest_closed hclosed

end SdoClientManager

end client

/-! ### The queue of requests -/

/-- The action that grants a request. -/
def AsyncRequest.grant (request : AsyncRequest) : MnContext.AsyncAction :=
  (if request.priority = 7 then .nmtRequestInvite else .unspecifiedInvite, request.nodeId, false)

/-- An action that lets a node send what it likes. -/
def isInvite (action : MnContext.AsyncAction) : Bool :=
  decide (action.1 = .unspecifiedInvite) || decide (action.1 = .nmtRequestInvite)

theorem isInvite_grant (request : AsyncRequest) : isInvite request.grant = true := by
  unfold isInvite AsyncRequest.grant
  split_ifs
  · rfl
  · rfl

/-- Some request of a queue has the greatest priority. -/
theorem exists_greatest : ∀ {queue : List AsyncRequest}, queue ≠ [] →
    ∃ r ∈ queue, ∀ q ∈ queue, q.priority ≤ r.priority
  | [], h => absurd rfl h
  | [r], _ => ⟨r, List.mem_singleton_self r, fun q hq => by
      rw [List.mem_singleton.mp hq]
      exact UInt8.le_refl _⟩
  | a :: b :: queue, _ => by
      obtain ⟨r, hr, hmax⟩ := exists_greatest (List.cons_ne_nil b queue)
      obtain hle | hle := UInt8.le_total a.priority r.priority
      · exact ⟨r, List.mem_cons_of_mem _ hr, List.forall_mem_cons.mpr ⟨hle, hmax⟩⟩
      · refine ⟨a, List.mem_cons_self, List.forall_mem_cons.mpr ⟨UInt8.le_refl _, ?_⟩⟩
        exact fun q hq => UInt8.le_trans (hmax q hq) hle

/-- `pop` takes a request of the greatest priority. -/
theorem popAsyncRequest_of_ne_nil {queue : List AsyncRequest} (h : queue ≠ []) :
    ∃ r ∈ queue, (∀ q ∈ queue, q.priority ≤ r.priority) ∧
      popAsyncRequest queue = some (r, queue.erase r) := by
  unfold popAsyncRequest
  cases hfind : queue.find? (fun r => queue.all (fun q => decide (q.priority ≤ r.priority))) with
  | none =>
      obtain ⟨r, hr, hmax⟩ := exists_greatest h
      exact absurd (List.all_eq_true.mpr (fun q hq => decide_eq_true (hmax q hq)))
        (List.find?_eq_none.mp hfind r hr)
  | some r =>
      refine ⟨r, List.mem_of_find?_eq_some hfind, ?_, rfl⟩
      have hall := List.find?_some hfind
      exact fun q hq => of_decide_eq_true (List.all_eq_true.mp hall q hq)

namespace MnContext

variable {σ : Type}

/-! ### Calls one after the other -/

/-- The node is configured and not missing. -/
def isPresent (c : MnContext σ) (nodeId : NodeId) : Bool :=
  match c.nodeInfo.get? nodeId with
  | some info => decide (info.state ≠ .missing)
  | none => false

/-- Nothing is left to send but the answers to the requests of controlled nodes. -/
structure OnlyRequests (c : MnContext σ) : Prop where
  er : c.pendingErRequests = []
  status : c.pendingStatusRequests = []
  commands : c.pendingNmtCommands = []
  frames : c.mnAsyncSendQueue = []
  publish : c.publishConfig = .empty
  sdo : (c.sdoClientManager.getPendingRequest c.currentCycleStartTimeUs c.core.od).1 = none

/-- The actions of `n` calls of `determine_next_async_action`. -/
def asyncCalls : ℕ → MnContext σ → Option (List AsyncAction × MnContext σ)
  | 0, c => some ([], c)
  | n + 1, c =>
      match c.determineNextAsyncAction with
      | none => none
      | some (action, c) => (asyncCalls n c).map (fun r => (action :: r.1, r.2))

/-- After finitely many calls every request of the queue has been granted once, in the order of the
priorities. -/
def RequestsServed (c : MnContext σ) : Prop :=
  ∃ n actions d, ∃ order : List AsyncRequest,
    asyncCalls n c = some (actions, d) ∧ d.asyncRequestQueue = [] ∧
    order.Perm c.asyncRequestQueue ∧ order.Pairwise (fun a b => b.priority ≤ a.priority) ∧
    actions.filter isInvite = order.map AsyncRequest.grant

/-- Neither the identification nor the status poll has anything to do. -/
structure PollsNobody (c : MnContext σ) : Prop where
  last : c.lastIdentPollNodeId.id < 239
  identified : ∀ nodeId ∈ cnIds, c.nodeInfo.isUnidentified nodeId = false
  absent : ∀ nodeId ∈ c.asyncOnlyNodes, c.isPresent nodeId = false

theorem findNextAsyncOnlyToPoll_eq_none_iff (c : MnContext σ) :
    c.findNextAsyncOnlyToPoll = none ↔ ∀ nodeId ∈ c.asyncOnlyNodes, c.isPresent nodeId = false := by
  obtain ⟨start, hfind⟩ : ∃ start, c.findNextAsyncOnlyToPoll =
      (c.asyncOnlyNodes.drop start ++ c.asyncOnlyNodes.take start).find? c.isPresent := ⟨_, rfl⟩
  have hmem : ∀ nodeId, nodeId ∈ c.asyncOnlyNodes.drop start ++ c.asyncOnlyNodes.take start ↔
      nodeId ∈ c.asyncOnlyNodes := by
    intro nodeId
    rw [List.mem_append, or_comm, ← List.mem_append, List.take_append_drop]
  rw [hfind, List.find?_eq_none]
  constructor
  · intro h nodeId hnode
    simpa using h nodeId ((hmem nodeId).mpr hnode)
  · intro h nodeId hnode
    rw [h nodeId ((hmem nodeId).mp hnode)]
    exact Bool.false_ne_true

/-- With nothing else to send, a call comes down to the background steps. -/
theorem OnlyRequests.determine {c : MnContext σ} (h : c.OnlyRequests) :
    c.determineNextAsyncAction = c.afterSdo.determineBackgroundAction := by
  have her : c.pendingErRequests.getLast? = none := by rw [h.er]; rfl
  have hstatus : c.pendingStatusRequests.getLast? = none := by rw [h.status]; rfl
  have hcommands : ¬ (!c.pendingNmtCommands.isEmpty) = true := by rw [h.commands]; decide
  have hframes : ¬ (!c.mnAsyncSendQueue.isEmpty) = true := by rw [h.frames]; decide
  unfold determineNextAsyncAction
  rw [her]
  dsimp only
  rw [hstatus]
  dsimp only
  rw [if_neg hcommands, if_neg hframes, h.sdo]
  rfl

theorem OnlyRequests.afterSdo {c : MnContext σ} (h : c.OnlyRequests) : c.afterSdo.OnlyRequests where
  er := h.er
  status := h.status
  commands := h.commands
  frames := h.frames
  publish := h.publish
  sdo := SdoClientManager.getPendingRequest_none h.sdo

/-- With nobody to poll a call grants a request. -/
theorem PollsNobody.determine {c : MnContext σ} (hpolls : c.PollsNobody) (h : c.OnlyRequests) :
    c.determineNextAsyncAction = some c.afterSdo.grantRequest := by
  have hident : c.afterSdo.findNextNodeToIdentify = some none :=
    c.afterSdo.findNextNodeToIdentify_eq_none_iff.mpr ⟨hpolls.last, hpolls.identified⟩
  have hasync : c.afterSdo.findNextAsyncOnlyToPoll = none :=
    c.afterSdo.findNextAsyncOnlyToPoll_eq_none_iff.mpr hpolls.absent
  have hframes : c.afterSdo.mnAsyncSendQueue.isEmpty = true := by rw [h.afterSdo.frames]; rfl
  have hpublish : c.afterSdo.publishConfig.get? c.afterSdo.currentMultiplexCycle = none := by
    rw [h.afterSdo.publish]
    rfl
  rw [h.determine, determineBackgroundAction, hident]
  dsimp only
  rw [determineIdleAction, hasync]
  dsimp only
  rw [if_pos hframes, hpublish]

/-- As long as there is somebody to poll, a call leaves the queue alone. -/
theorem blocked_step {c d : MnContext σ} {action : AsyncAction} (h : c.OnlyRequests)
    (hpolls : ¬ c.PollsNobody) (hcall : c.determineNextAsyncAction = some (action, d)) :
    d.OnlyRequests ∧ ¬ d.PollsNobody ∧ d.asyncRequestQueue = c.asyncRequestQueue := by
  have hsdo := h.afterSdo
  rw [h.determine, determineBackgroundAction] at hcall
  split at hcall
  · cases hcall
  · rename_i nodeId hident
    obtain ⟨-, rfl⟩ := Prod.mk.inj (Option.some.inj hcall)
    obtain ⟨hmem, hnode⟩ := identifyLoop_found hident
    refine ⟨⟨hsdo.er, hsdo.status, hsdo.commands, hsdo.frames, hsdo.publish, hsdo.sdo⟩, ?_, rfl⟩
    intro hpolls'
    cases (hpolls'.identified nodeId hmem).symm.trans hnode
  · rename_i hident
    obtain ⟨hlast, hidentified⟩ := c.afterSdo.findNextNodeToIdentify_eq_none_iff.mp hident
    have hpresent : c.afterSdo.findNextAsyncOnlyToPoll ≠ none := by
      intro hnone
      exact hpolls ⟨hlast, hidentified, c.afterSdo.findNextAsyncOnlyToPoll_eq_none_iff.mp hnone⟩
    obtain ⟨nodeId, hnode⟩ := Option.ne_none_iff_exists'.mp hpresent
    rw [determineIdleAction, hnode] at hcall
    obtain ⟨-, rfl⟩ := Prod.mk.inj (Option.some.inj hcall)
    refine ⟨⟨hsdo.er, hsdo.status, hsdo.commands, hsdo.frames, hsdo.publish, hsdo.sdo⟩, ?_, rfl⟩
    exact fun hpolls' => hpolls ⟨hpolls'.last, hpolls'.identified, hpolls'.absent⟩

/-- As long as there is somebody to poll, no call touches the queue. -/
theorem blocked_calls : ∀ {n : ℕ} {c d : MnContext σ} {actions : List AsyncAction},
    c.OnlyRequests → ¬ c.PollsNobody → asyncCalls n c = some (actions, d) →
    d.asyncRequestQueue = c.asyncRequestQueue
  | 0, _, _, _, _, _, hcalls => by
      obtain ⟨-, rfl⟩ := Prod.mk.inj (Option.some.inj hcalls)
      rfl
  | n + 1, c, d, actions, h, hpolls, hcalls => by
      unfold asyncCalls at hcalls
      split at hcalls
      · cases hcalls
      · rename_i action e hcall
        obtain ⟨⟨rest, f⟩, hrest, heq⟩ := Option.map_eq_some_iff.mp hcalls
        obtain ⟨-, rfl⟩ := Prod.mk.inj heq
        obtain ⟨he, hpolls', hqueue⟩ := blocked_step h hpolls hcall
        rw [← hqueue]
        exact blocked_calls he hpolls' hrest

/-- With nobody to poll the queue is served, by as many calls as it has requests. -/
theorem served_of_pollsNobody : ∀ {n : ℕ} {c : MnContext σ}, c.OnlyRequests → c.PollsNobody →
    c.asyncRequestQueue.length = n → c.RequestsServed
  | 0, c, _, _, hn => by
      have hnil := List.length_eq_zero_iff.mp hn
      exact ⟨0, [], c, [], rfl, hnil, hnil ▸ List.Perm.refl _, List.Pairwise.nil, rfl⟩
  | n + 1, c, h, hpolls, hn => by
      have hne : c.asyncRequestQueue ≠ [] := by
        intro hnil
        rw [hnil] at hn
        cases hn
      obtain ⟨r, hr, hmax, hpop⟩ := popAsyncRequest_of_ne_nil hne
      have hsdo := h.afterSdo
      let e : MnContext σ := { c.afterSdo with asyncRequestQueue := c.asyncRequestQueue.erase r }
      have hcall : c.determineNextAsyncAction = some (r.grant, e) := by
        have hpop' : popAsyncRequest c.afterSdo.asyncRequestQueue = _ := hpop
        rw [hpolls.determine h, grantRequest, hpop']
        rfl
      have hlen : e.asyncRequestQueue.length = n := by
        show (c.asyncRequestQueue.erase r).length = n
        rw [List.length_erase_of_mem hr, hn, Nat.add_sub_cancel]
      have he : e.OnlyRequests :=
        ⟨hsdo.er, hsdo.status, hsdo.commands, hsdo.frames, hsdo.publish, hsdo.sdo⟩
      obtain ⟨m, actions, d, order, hcalls, hempty, hperm, hsorted, hgrants⟩ :=
        served_of_pollsNobody he ⟨hpolls.last, hpolls.identified, hpolls.absent⟩ hlen
      refine ⟨m + 1, r.grant :: actions, d, r :: order, ?_, hempty, ?_, ?_, ?_⟩
      · simp only [asyncCalls, hcall, hcalls, Option.map_some]
      · exact (hperm.cons r).trans (List.perm_cons_erase hr).symm
      · refine List.pairwise_cons.mpr ⟨?_, hsorted⟩
        exact fun q hq => hmax q (List.mem_of_mem_erase (hperm.mem_iff.mp hq))
      · rw [List.filter_cons_of_pos (isInvite_grant r), hgrants, List.map_cons]

/-- The requests of the nodes are served exactly if there are none, or if the managing node has
nobody to identify and nobody to poll. -/
theorem requests_served_iff (c : MnContext σ) (h : c.OnlyRequests) :
    c.RequestsServed ↔ c.asyncRequestQueue = [] ∨ c.PollsNobody := by
  constructor
  · rintro ⟨n, actions, d, order, hcalls, hempty, -⟩
    by_cases hpolls : c.PollsNobody
    · exact .inr hpolls
    · left
      rw [← blocked_calls h hpolls hcalls]
      exact hempty
  · rintro (hnil | hpolls)
    · exact ⟨0, [], c, [], rfl, hnil, hnil ▸ List.Perm.refl _, List.Pairwise.nil, rfl⟩
    · exact served_of_pollsNobody h hpolls rfl

/-- A context with the given nodes and requests and nothing else to send. -/
def requesting (nodes : NodeTable) (asyncOnlyNodes : List NodeId) (queue : List AsyncRequest) :
    MnContext Empty :=
  { MnContext.initial (mnDictionary 0 []) ⟨0, 0, 0, 0, 0, 240⟩ none
      ⟨.nmtPreOperational2, ⟨240⟩, 0, 0, 0⟩ 1000
      { nodeInfo := nodes, asyncOnlyNodes := asyncOnlyNodes } .empty with
    asyncRequestQueue := queue }

theorem onlyRequests_requesting (nodes : NodeTable) (asyncOnlyNodes : List NodeId)
    (queue : List AsyncRequest) : (requesting nodes asyncOnlyNodes queue).OnlyRequests :=
  ⟨rfl, rfl, rfl, rfl, rfl, rfl⟩

/-- Node 1 does not answer the identification, and the request of node 2 waits for ever. -/
theorem requests_not_served :
    ¬ ∀ c : MnContext Empty, c.OnlyRequests → c.RequestsServed := by
  intro h
  obtain ⟨n, actions, d, order, hcalls, hempty, -⟩ := h (requesting (oneNode ⟨1⟩ .unknown) []
    [⟨⟨2⟩, 7⟩]) (onlyRequests_requesting _ _ _)
  have hpolls : ¬ (requesting (oneNode ⟨1⟩ .unknown) [] [⟨⟨2⟩, 7⟩]).PollsNobody := by
    intro hpolls
    exact absurd (hpolls.identified ⟨1⟩ (mem_cnIds.mpr (by decide))) (by decide)
  have hqueue := blocked_calls (onlyRequests_requesting _ _ _) hpolls hcalls
  rw [hempty] at hqueue
  cases hqueue

/-- Two requests of nodes that are identified. -/
theorem requests_served_two :
    (requesting (oneNode ⟨1⟩ .identified) [] [⟨⟨1⟩, 3⟩, ⟨⟨1⟩, 7⟩]).OnlyRequests ∧
      (requesting (oneNode ⟨1⟩ .identified) [] [⟨⟨1⟩, 3⟩, ⟨⟨1⟩, 7⟩]).RequestsServed := by
  refine ⟨onlyRequests_requesting _ _ _, ?_⟩
  refine (requests_served_iff _ (onlyRequests_requesting _ _ _)).mpr (.inr ⟨by decide, ?_, nofun⟩)
  show ∀ nodeId ∈ cnIds, (oneNode ⟨1⟩ .identified).isUnidentified nodeId = false
  decide +kernel

end MnContext

end Powerlink
