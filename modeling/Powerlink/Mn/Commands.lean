import Powerlink.Mn.Api
import Powerlink.Mn.Queues

/-! # The order of the NMT commands

Commands are queued at the end of `pending_nmt_commands`, by the application, by the boot-up and by
the error handler, and the own asynchronous slot takes one of them.  It takes the last one, and it
takes it also when no frame can be built for it because the MAC address of its target is not
known.

`commands_in_order` says that the commands are sent in the order in which they were queued, and that
none is lost, in every run in which the slot is only used when the waiting commands do not differ
and can be sent. -/

namespace Powerlink

namespace MnContext

variable {σ : Type}

/-- The ASnd frame of a command, if the MAC address of its target is known. -/
def commandAsnd (c : MnContext σ) (command : NmtCommandEntry) : Option PowerlinkFrame :=
  let destMac :=
    if command.2.1 = cAdrBroadcastNodeId then some cDllMulticastAsnd
    else c.getCnMacAddress command.2.1
  destMac.map (fun destMac =>
    .aSnd (.new c.core.macAddress destMac command.2.1 cAdrMnDefNodeId .nmtCommand
      (nmtCommandPayload command.1 command.2.2)))

/-- The action puts the ASnd frame of a command on the wire. -/
def sendsCommand (c : MnContext σ) (action : NodeAction) (command : NmtCommandEntry) : Bool :=
  match c.commandAsnd command with
  | none => false
  | some frame =>
      match serializeFrameAction false frame with
      | .ok (.sendFrame bytes) => decide (action = .sendFrame bytes)
      | _ => false

/-- The payload of a command fits into a frame. -/
theorem length_nmtCommandPayload (command : MnNmtCommandRequest) (data : NmtCommandData) :
    (nmtCommandPayload command data).length ≤ 34 := by
  cases data with
  | none => simp [nmtCommandPayload]
  | hostName name =>
      simp only [nmtCommandPayload, List.length_append, List.length_cons, List.length_nil,
        List.length_replicate, List.length_take]
      omega
  | flushArp nodeId => simp [nmtCommandPayload]

/-- A command whose target is known is sent. -/
theorem sendsCommand_of_canCommand {c : MnContext σ} {command : NmtCommandEntry}
    (h : c.canCommand command.2.1 = true) :
    c.sendsCommand (send (c.buildNmtCommandFrame command.1 command.2.1 command.2.2)) command =
      true := by
  obtain ⟨destMac, hmac⟩ : ∃ destMac,
      (if command.2.1 = cAdrBroadcastNodeId then some cDllMulticastAsnd
        else c.getCnMacAddress command.2.1) = some destMac := by
    unfold canCommand at h
    split_ifs with hid
    · exact ⟨_, rfl⟩
    · rw [decide_eq_false hid, Bool.false_or] at h
      exact Option.isSome_iff_exists.mp h
  unfold sendsCommand commandAsnd buildNmtCommandFrame
  dsimp only
  rw [hmac]
  dsimp only [Option.map_some]
  have hlen := length_nmtCommandPayload command.1 command.2.2
  obtain ⟨bytes, hbytes⟩ := @exists_serializeFrameAction false
    (.aSnd (.new c.core.macAddress destMac command.2.1 cAdrMnDefNodeId .nmtCommand
      (nmtCommandPayload command.1 command.2.2))) rfl (by
        simp only [PowerlinkFrame.bytes, ASndFrame.bytes, ASndFrame.new, List.length_append,
          List.length_cons, List.length_nil]
        omega)
  unfold send
  rw [hbytes]
  exact decide_eq_true rfl

/-! ### The queue of commands -/

theorem prefix_initialOperationalActions {c d : MnContext σ} {action : Option NodeAction}
    (h : c.initialOperationalActions = (action, d)) :
    c.pendingNmtCommands <+: d.pendingNmtCommands := by
  cases initialOperationalActions_way h with
  | command => exact List.prefix_append _ _
  | _ => exact List.prefix_refl _

theorem Fed.prefix_commands {c d : MnContext σ} {requests : List AsyncRequest}
    (h : Fed c d requests) : c.pendingNmtCommands <+: d.pendingNmtCommands := by
  obtain ⟨queued, hqueued, -⟩ := h.commands
  exact ⟨queued, hqueued.symm⟩

/-- Outside the own slot commands are only added. -/
theorem QueueStep.prefix_commands [ObjectDictionaryStorage σ] {choices : List AsyncChoice} {c d : MnContext σ}
    (h : QueueStep choices c d) : c.pendingNmtCommands <+: d.pendingNmtCommands := by
  cases h with
  | same h => exact h.fed.prefix_commands
  | fed h => exact h.prefix_commands
  | @choose choice h _ =>
      cases choice with
      | _ => exact List.prefix_refl _
  | actions h => exact prefix_initialOperationalActions h
  | activate =>
      have hcommands : (c.processNmtEvent .timeout).pendingNmtCommands = c.pendingNmtCommands :=
        congrArg QueueView.commands (c.processNmtEvent_queues .timeout)
      rw [hcommands]

theorem QueuePath.prefix_commands [ObjectDictionaryStorage σ] {choices : List AsyncChoice} {c d : MnContext σ}
    (h : QueuePath choices c d) : c.pendingNmtCommands <+: d.pendingNmtCommands := by
  induction h with
  | refl => exact List.prefix_refl _
  | tail _ hstep ih => exact ih.trans hstep.prefix_commands

/-- The own slot takes the last command. -/
theorem commands_sendOwnAsync {c d : MnContext σ} {t : ℕ} {action : NodeAction}
    (h : c.sendOwnAsync t = (action, d)) :
    d.pendingNmtCommands = c.pendingNmtCommands.dropLast ∧
      ∀ command, c.pendingNmtCommands.getLast? = some command →
        c.canCommand command.2.1 = true → d.sendsCommand action command = true := by
  have hnone : c.pendingNmtCommands = [] → d.pendingNmtCommands = c.pendingNmtCommands →
      d.pendingNmtCommands = c.pendingNmtCommands.dropLast ∧
        ∀ command, c.pendingNmtCommands.getLast? = some command →
          c.canCommand command.2.1 = true → d.sendsCommand action command = true := by
    intro hnil hsame
    rw [hsame, hnil]
    exact ⟨rfl, nofun⟩
  cases sendOwnAsync_way h with
  | command hlast =>
      refine ⟨rfl, ?_⟩
      intro command hcommand hcan
      obtain rfl := Option.some.inj (hlast.symm.trans hcommand)
      exact sendsCommand_of_canCommand hcan
  | request hcommands => exact hnone hcommands rfl
  | frame hcommands => exact hnone hcommands rfl
  | unused hcommands => exact hnone hcommands rfl

end MnContext

/-! ### What a call queues and sends -/

namespace ApiReturned

variable {σ : Type} [ObjectDictionaryStorage σ]

/-- The context in which the call uses the own slot. -/
def ownSlot (x : ApiReturned σ) : Option (MnContext σ) :=
  match x.call with
  | .runCycle input => x.before.ownSlot input
  | _ => none

/-- The commands that wait when the call comes to the own slot, or to its end. -/
def waiting (x : ApiReturned σ) : List NmtCommandEntry :=
  match x.ownSlot with
  | some c => c.pendingNmtCommands
  | none => x.after.pendingNmtCommands

/-- The commands that the call queues. -/
def queued (x : ApiReturned σ) : List NmtCommandEntry :=
  x.waiting.drop x.before.pendingNmtCommands.length

/-- The commands that leave the queue. -/
def taken (x : ApiReturned σ) : List NmtCommandEntry :=
  x.waiting.diff x.after.pendingNmtCommands

/-- The commands that leave the queue with their own frame. -/
def emitted (x : ApiReturned σ) : List NmtCommandEntry :=
  x.taken.filter (x.after.sendsCommand x.action)

/-- If the own slot is used, then the waiting commands do not differ, and their targets are
known. -/
def Orderly (x : ApiReturned σ) : Prop :=
  ∀ c, x.ownSlot = some c →
    (∀ a ∈ c.pendingNmtCommands, ∀ b ∈ c.pendingNmtCommands, a = b) ∧
    ∀ a ∈ c.pendingNmtCommands, c.canCommand a.2.1 = true

/-- What a call of the application does to the commands. -/
structure Queues (x : ApiReturned σ) : Prop where
  waiting : x.waiting = x.before.pendingNmtCommands ++ x.queued
  rest : x.after.pendingNmtCommands = x.waiting ∨
    ∃ c, x.ownSlot = some c ∧ x.after.pendingNmtCommands = c.pendingNmtCommands.dropLast ∧
      ∀ command, c.pendingNmtCommands.getLast? = some command →
        c.canCommand command.2.1 = true → x.after.sendsCommand x.action command = true

end ApiReturned

namespace MnContext

variable {σ : Type} [ObjectDictionaryStorage σ]

/-- The methods other than `run_cycle` queue one command at most, at the end. -/
theorem queues_of_method {c d : MnContext σ} {call : MnCall} {action : NodeAction}
    (hslot : (ApiReturned.mk c call action d).ownSlot = none)
    (h : c.pendingNmtCommands <+: d.pendingNmtCommands) :
    (ApiReturned.mk c call action d).Queues := by
  obtain ⟨queued, hqueued⟩ := h
  have hwaiting : (ApiReturned.mk c call action d).waiting = d.pendingNmtCommands := by
    unfold ApiReturned.waiting
    rw [hslot]
  refine ⟨?_, .inl hwaiting.symm⟩
  rw [ApiReturned.queued, hwaiting, ← hqueued, List.drop_left]

/-- Every call appends what it queues, and takes the last command in the own slot. -/
theorem call_queues {c d : MnContext σ} {call : MnCall} {action : NodeAction}
    (h : c.call call = some (action, d)) : (ApiReturned.mk c call action d).Queues := by
  cases call with
  | runCycle input =>
      obtain ⟨e, hfed, hway⟩ := runCycle_queues h
      cases hway with
      | path hslot hpath =>
          exact queues_of_method hslot (hfed.prefix_commands.trans (QueuePath.prefix_commands hpath))
      | @own o hslot hpath hown =>
          obtain ⟨queued, hqueued⟩ := hfed.prefix_commands.trans (QueuePath.prefix_commands hpath)
          have hwaiting : (ApiReturned.mk c (.runCycle input) action d).waiting =
              o.pendingNmtCommands := by
            unfold ApiReturned.waiting ApiReturned.ownSlot
            dsimp only
            rw [hslot]
          refine ⟨?_, .inr ⟨o, hslot, commands_sendOwnAsync hown⟩⟩
          rw [ApiReturned.queued, hwaiting, ← hqueued, List.drop_left]
  | queueNmtStateCommand command target =>
      obtain ⟨-, rfl⟩ := Prod.mk.inj (Option.some.inj h)
      exact queues_of_method rfl (List.prefix_append _ _)
  | setHostname target hostname =>
      obtain ⟨-, rfl⟩ := Prod.mk.inj (Option.some.inj h)
      refine queues_of_method rfl ?_
      unfold setHostname
      split_ifs
      · exact List.prefix_refl _
      · exact List.prefix_refl _
      · exact List.prefix_append _ _
  | flushArpEntry target =>
      obtain ⟨-, rfl⟩ := Prod.mk.inj (Option.some.inj h)
      exact queues_of_method rfl (List.prefix_append _ _)
  | readObject target index subIndex currentTimeUs =>
      obtain ⟨-, rfl⟩ := Prod.mk.inj (Option.some.inj h)
      exact queues_of_method rfl (List.prefix_refl _)
  | writeObject target index subIndex data currentTimeUs =>
      obtain ⟨-, rfl⟩ := Prod.mk.inj (Option.some.inj h)
      exact queues_of_method rfl (List.prefix_refl _)

end MnContext

/-! ### Runs -/

/-- A list of equal elements can be shortened at either end. -/
theorem cons_dropLast_of_forall_eq {α : Type} {l : List α} {a : α}
    (h : ∀ x ∈ l, ∀ y ∈ l, x = y) (hlast : l.getLast? = some a) : l = a :: l.dropLast := by
  have hmem : a ∈ l := List.mem_of_getLast? hlast
  have hall : l = List.replicate l.length a :=
    List.eq_replicate_of_mem (fun x hx => h x hx a hmem)
  have hpos : 0 < l.length := List.length_pos_of_mem hmem
  rw [hall, List.dropLast_replicate, ← List.replicate_succ, Nat.sub_add_cancel hpos]

theorem append_diff_left {α : Type} [BEq α] [LawfulBEq α] (m : List α) :
    ∀ l : List α, (l ++ m).diff l = m
  | [] => rfl
  | a :: l => by
      rw [List.cons_append, List.diff_cons, List.erase_cons_head]
      exact append_diff_left m l

/-- An orderly call sends the commands that it takes, and they are the first that waited. -/
theorem ApiReturned.Queues.orderly {σ : Type} [ObjectDictionaryStorage σ] {x : ApiReturned σ}
    (h : x.Queues) (horderly : x.Orderly) :
    x.waiting = x.emitted ++ x.after.pendingNmtCommands ∧
      ∀ command ∈ x.taken, x.after.sendsCommand x.action command = true := by
  obtain hrest | ⟨c, hslot, hrest, hsends⟩ := h.rest
  · have htaken : x.taken = [] := by
      have hdiff := append_diff_left [] x.waiting
      rw [List.append_nil] at hdiff
      rw [taken, hrest, hdiff]
    rw [emitted, htaken]
    exact ⟨hrest.symm, nofun⟩
  · have hwaiting : x.waiting = c.pendingNmtCommands := by
      unfold ApiReturned.waiting
      rw [hslot]
    obtain ⟨hequal, hcan⟩ := horderly c hslot
    cases hlast : c.pendingNmtCommands.getLast? with
    | none =>
        have hnil : c.pendingNmtCommands = [] := List.getLast?_eq_none_iff.mp hlast
        have htaken : x.taken = [] := by
          rw [taken, hwaiting, hrest, hnil]
          rfl
        rw [emitted, htaken, hwaiting, hrest, hnil]
        exact ⟨rfl, nofun⟩
    | some command =>
        have hcons := cons_dropLast_of_forall_eq hequal hlast
        have hsent := hsends command hlast (hcan command (List.mem_of_getLast? hlast))
        have hsplit : c.pendingNmtCommands = c.pendingNmtCommands.dropLast ++ [command] :=
          (List.dropLast_append_getLast? command hlast).symm
        have htaken : x.taken = [command] := by
          rw [taken, hwaiting, hrest]
          nth_rewrite 1 [hsplit]
          exact append_diff_left [command] _
        have hemitted : x.emitted = [command] := by
          rw [emitted, htaken, List.filter_singleton, hsent]
          rfl
        refine ⟨by rw [hwaiting, hemitted, hrest, List.singleton_append, ← hcons], ?_⟩
        intro a ha
        rw [htaken] at ha
        rw [List.mem_singleton.mp ha, hsent]

namespace ApiRun

variable {σ : Type} [ObjectDictionaryStorage σ]

/-- The commands that were queued, the oldest first. -/
def queued (r : ApiRun σ) : List NmtCommandEntry := r.returned.reverse.flatMap ApiReturned.queued

/-- The commands that were sent from the queue, the oldest first. -/
def emitted (r : ApiRun σ) : List NmtCommandEntry := r.returned.reverse.flatMap ApiReturned.emitted

/-- The commands are sent in the order in which they were queued, and none leaves the queue without
its frame. -/
structure CommandsInOrder (r : ApiRun σ) : Prop where
  order : r.emitted <+: r.queued
  sent : ∀ x ∈ r.returned, ∀ command ∈ x.taken, x.after.sendsCommand x.action command = true

/-- In a run whose calls use the own slot only for commands that do not differ and that can be
sent, the commands are sent in their order and none is lost. -/
theorem commands_in_order :
    Throughout (fun r : ApiRun σ =>
      (∀ x ∈ r.returned, x.Orderly) → r.CommandsInOrder) := by
  have hinv : Throughout (fun r : ApiRun σ => (∀ x ∈ r.returned, x.Orderly) →
      r.queued = r.emitted ++ r.context.pendingNmtCommands ∧
      ∀ x ∈ r.returned, ∀ command ∈ x.taken, x.after.sendsCommand x.action command = true) := by
    apply throughout_of_call
    · intro od mac cfg machine cycleTimeUs lists publish _ _
      exact ⟨rfl, fun x hx => nomatch hx⟩
    · intro r call action d hr hcall horderly
      obtain ⟨hnew, hold⟩ := List.forall_mem_cons.mp horderly
      obtain ⟨hqueued, hsent⟩ := hr hold
      have hqueues := MnContext.call_queues hcall
      obtain ⟨hwaiting, hsends⟩ := hqueues.orderly hnew
      refine ⟨?_, List.forall_mem_cons.mpr ⟨hsends, hsent⟩⟩
      rw [queued, emitted, List.reverse_cons, List.flatMap_append, List.flatMap_append,
        List.flatMap_singleton, List.flatMap_singleton, List.append_assoc, ← hwaiting,
        hqueues.waiting, ← List.append_assoc]
      exact congrArg (· ++ _) hqueued
  refine hinv.mono ?_
  intro r h horderly
  obtain ⟨hqueued, hsent⟩ := h horderly
  exact ⟨⟨_, hqueued.symm⟩, hsent⟩

/-- Of two commands the later one is sent first. -/
theorem commands_out_of_order :
    ¬ Throughout (fun r : ApiRun Empty => r.CommandsInOrder) := by
  intro h
  have horder := h.mono (fun r hr => hr.order) (mnDictionary 0 [9]) ⟨0, 0, 0, 0, 0, 240⟩ none
    [.runCycle (.idle 0), .runCycle (.idle 10), .flushArpEntry ⟨1⟩, .flushArpEntry ⟨2⟩,
      .runCycle (.idle 1000), .runCycle (.idle 1001), .runCycle (.idle 1002)]
  revert horder
  apply Runs.not_always_reached
  decide +kernel

end ApiRun

end Powerlink
