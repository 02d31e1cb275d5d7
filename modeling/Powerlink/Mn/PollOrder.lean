import Powerlink.Mn.CycleStarts

/-! # Every poll is sent

`PollsSent` observes what the calls of a run have returned: after a SoC come the PReq for the
eligible isochronous nodes, in the order of the list, and then one frame that ends the isochronous
phase, before the next SoC; and every frame that `advance_cycle_phase` builds is the action of its
call.

The action that is built after an awaited PRes is lost, a second SoA follows an ASnd that does not
arrive, and a dummy SoC stands for a PReq that cannot be built.  `every_poll_is_sent` says that
these are the only ways in which the order is broken. -/

namespace Powerlink

/-- Nothing disturbs the order of the polls. -/
def MnEvent.isUndisturbed : MnEvent → Bool
  | .answered _ => false
  | .timedOut .asndTimeout _ => false
  | .built _ complete => complete
  | _ => true

/-- The polled node has answered in time. -/
def MnEvent.isAnswered : MnEvent → Bool
  | .timedOut .presTimeout _ => false
  | _ => true

/-- The order of the polls was not disturbed. -/
def Undisturbed (log : List MnEvent) : Prop := ∀ e ∈ log, e.isUndisturbed = true

/-- The frames that `advance_cycle_phase` has built. -/
def advancedFrames : List MnEvent → List PowerlinkFrame
  | [] => []
  | .advanced frame :: log => frame :: advancedFrames log
  | _ :: log => advancedFrames log

theorem advancedFrames_filter : ∀ history : List MnEvent,
    advancedFrames (history.filter MnEvent.isCycle) = advancedFrames history
  | [] => rfl
  | event :: history => by
      have ih := advancedFrames_filter history
      cases event with
      | advanced frame => exact congrArg (frame :: ·) ih
      | _ => exact ih

/-- The frames that `advance_cycle_phase` has built within a call. -/
def Returned.built {σ : Type} (x : Returned σ) : List PowerlinkFrame :=
  (advancedFrames x.after.history).take
    ((advancedFrames x.after.history).length - (advancedFrames x.before.history).length)

/-- The observer of a run, with the newest call first.  It knows which isochronous nodes are still
to be considered in the cycle, or that the isochronous phase has ended. -/
inductive PollsSent {σ : Type} [ObjectDictionaryStorage σ] :
    List (Returned σ) → Option (List NodeId) → Prop
  | nil : PollsSent [] none
  /-- A SoC starts a cycle, after the end of the isochronous phase before. -/
  | start {x : Returned σ} {l : List (Returned σ)} (h : PollsSent l none) (hbuilt : x.built = [])
      (hsoc : x.IsSoc) (hstarts : x.StartsCycle) :
      PollsSent (x :: l) (some x.after.isochronousNodes)
  /-- The next eligible node is polled. -/
  | poll {x : Returned σ} {l : List (Returned σ)} {nodeId : NodeId} {skipped rest : List NodeId}
      {preq : PReqFrame} (h : PollsSent l (some (skipped ++ nodeId :: rest)))
      (hskipped : ∀ m ∈ skipped, ¬ x.after.Eligible m) (hnode : x.after.Eligible nodeId)
      (hbuilt : x.built = [.pReq preq]) (haction : x.action = MnContext.send (.pReq preq))
      (htype : x.action.frameType = some MessageType.pReq.toByte)
      (hdestination : x.action.frameDestination = some nodeId.id) : PollsSent (x :: l) (some rest)
  /-- No eligible node is left, and one frame ends the isochronous phase. -/
  | finish {x : Returned σ} {l : List (Returned σ)} {nodes : List NodeId} {frame : PowerlinkFrame}
      (h : PollsSent l (some nodes)) (hnone : x.after.NoneLeft nodes) (hbuilt : x.built = [frame])
      (haction : x.action = MnContext.send frame)
      (hframe : frame.messageType = .soA ∨ frame.messageType = .aSnd)
      (htype : x.action.frameType = some frame.messageType.toByte) : PollsSent (x :: l) none
  /-- Other calls return nothing or an asynchronous frame. -/
  | other {x : Returned σ} {l : List (Returned σ)} {nodes : Option (List NodeId)}
      (h : PollsSent l nodes) (hbuilt : x.built = []) (hasync : x.action.IsAsync) :
      PollsSent (x :: l) nodes

/-- What the observer expects of a cycle. -/
def CycleView.expected (v : CycleView) : Option (List NodeId) :=
  match v.phase with
  | .soCSent | .isochronousPReq => some v.remaining
  | _ => none

namespace MnContext

variable {σ : Type} {t : ℕ} {v w : CycleView} {d : MnContext σ} {action : NodeAction}

/-! ### Steps -/

/-- A call builds no frame of the isochronous phase, and the observer expects what it did. -/
structure Passes (v : CycleView) (d : MnContext σ) (action : NodeAction) : Prop where
  async : action.IsAsync
  frames : advancedFrames d.view.log = advancedFrames v.log
  expected : d.view.expected = v.expected

/-- A call advances the isochronous phase. -/
def Advances (v : CycleView) (d : MnContext σ) (action : NodeAction) : Prop :=
  ∃ w, Advanced w d action ∧ v.expected = some w.remaining ∧
    advancedFrames w.log = advancedFrames v.log

theorem Progressed.polls (h : Progressed v d action) (hlog : Undisturbed d.view.log) :
    Passes v d action ∨ Advances v d action := by
  cases h with
  | still hview hasync => exact .inl ⟨hasync, by rw [hview], by rw [hview]⟩
  | wait deadline hactive hnext hview =>
      refine .inl ⟨.inl rfl, ?_, ?_⟩
      · rw [hview]
      · rw [hview]
        rfl
  | advance hphase hadvanced =>
      refine .inr ⟨v, hadvanced, ?_, rfl⟩
      rw [CycleView.expected, hphase]
  | own hphase hasync hview =>
      refine .inl ⟨hasync, ?_, ?_⟩
      · rw [hview]
      · rw [hview, CycleView.expected, CycleView.expected, hphase]
  | command nodeId complete hphase hasync hview =>
      rw [hview] at hlog
      refine .inl ⟨hasync (hlog _ List.mem_cons_self), ?_, ?_⟩
      · rw [hview]
        rfl
      · rw [hview, CycleView.expected, CycleView.expected, hphase]

/-- In a wait for a PRes the cycle is in the isochronous phase. -/
theorem phase_of_pending (h : v.NoStall) {event : DllMsEvent}
    (hpending : v.pending = some event) (hevent : event ≠ .asndTimeout) :
    v.phase = .isochronousPReq := by
  by_contra hpoll
  by_cases hinvite : v.phase = .asynchronousSoA
  · obtain ⟨hasnd, -⟩ := h.inviting hinvite
    exact hevent (Option.some.inj (hpending.symm.trans hasnd))
  · cases hpending.symm.trans (h.resting hpoll hinvite)

theorem Ticked.polls (h : Ticked t v d action) (hstall : v.NoStall)
    (hlog : Undisturbed d.view.log) : Passes v d action ∨ Advances v d action := by
  cases h with
  | sdo hview hasync => exact .inl ⟨hasync, by rw [hview], by rw [hview]⟩
  | activate hactive hnext hle hview =>
      refine .inl ⟨.inl rfl, ?_, ?_⟩
      · rw [hview]
      · rw [hview]
        rfl
  | @timeout _ deadline event hactive hnext hle hpending hadvanced =>
      have hmem : MnEvent.timedOut event t ∈ d.view.log :=
        hadvanced.continues.log.subset List.mem_cons_self
      have hevent : event ≠ .asndTimeout := by
        rintro rfl
        cases hlog _ hmem
      refine .inr ⟨_, hadvanced, ?_, rfl⟩
      rw [CycleView.expected, phase_of_pending hstall hpending hevent]
      rfl
  | progress hexpired hprogressed =>
      cases hexpired with
      | refl => exact hprogressed.polls hlog
      | drop hactive hpending hnext hle =>
          refine (hprogressed.polls hlog).imp (fun hpasses => ?_) (fun hadvances => ?_)
          · exact ⟨hpasses.async, hpasses.frames, hpasses.expected.trans rfl⟩
          · obtain ⟨w, hadvanced, hexpected, hframes⟩ := hadvances
            exact ⟨w, hadvanced, hexpected, hframes⟩

/-- A received frame changes nothing for the observer, unless it is an awaited PRes. -/
theorem Received.polls (h : Received v d)
    (hlog : Undisturbed d.view.log) :
    advancedFrames d.view.log = advancedFrames v.log ∧ d.view.expected = v.expected := by
  cases h with
  | quiet hview => exact ⟨by rw [hview], by rw [hview]⟩
  | @answered nodeId action hphase hadvanced =>
      have hmem : MnEvent.answered nodeId ∈ d.view.log :=
        hadvanced.continues.log.subset List.mem_cons_self
      cases hlog _ hmem
  | asnd hphase hview =>
      refine ⟨?_, ?_⟩
      · rw [hview]
      · rw [hview, CycleView.expected, CycleView.expected, hphase]

end MnContext

/-! ### Calls -/

namespace PollsSent

variable {σ : Type} [ObjectDictionaryStorage σ]

omit [ObjectDictionaryStorage σ] in
theorem built_eq {c d : MnContext σ} {input : CycleInput} {action : NodeAction}
    {frames : List PowerlinkFrame}
    (h : advancedFrames d.view.log = frames ++ advancedFrames c.view.log) :
    Returned.built ⟨c, input, action, d⟩ = frames := by
  have hafter : advancedFrames d.history = frames ++ advancedFrames c.history := by
    rw [← advancedFrames_filter d.history, ← advancedFrames_filter c.history]
    exact h
  unfold Returned.built
  dsimp only
  rw [hafter, List.length_append, Nat.add_sub_cancel, List.take_left]

/-- Advancing the isochronous phase is what the observer expects. -/
theorem advance {c d : MnContext σ} {w : CycleView} {input : CycleInput} {action : NodeAction}
    {l : List (Returned σ)} (hadvanced : MnContext.Advanced w d action)
    (h : PollsSent l (some w.remaining))
    (hframes : advancedFrames w.log = advancedFrames c.view.log)
    (hlog : Undisturbed d.view.log) : PollsSent (⟨c, input, action, d⟩ :: l) d.view.expected := by
  cases hadvanced with
  | @poll nodeId skipped rest idx deadline complete frame hnmt hrem hskip hnode hrest hcomplete
      hview =>
      have hexpected : d.view.expected = some (w.isochronousNodes.drop idx) := by
        rw [hview]
        rfl
      have hbuilt : advancedFrames d.view.log = [frame] ++ advancedFrames c.view.log := by
        rw [hview, ← hframes]
        rfl
      rw [hview] at hlog
      obtain ⟨preq, rfl, hdest, hlen⟩ :=
        hcomplete (hlog _ (List.mem_cons_of_mem _ List.mem_cons_self))
      rw [hrem] at h
      rw [hexpected, hrest]
      have hsent := MnContext.send_pReq hlen
      rw [hdest] at hsent
      exact .poll h hskip hnode (built_eq hbuilt) rfl hsent.1 hsent.2
  | @invite idx deadline soa hnone hsent hview =>
      have hexpected : d.view.expected = none := by
        rw [hview]
        rfl
      have hbuilt : advancedFrames d.view.log = [.soA soa] ++ advancedFrames c.view.log := by
        rw [hview, ← hframes]
        rfl
      rw [hexpected]
      exact .finish h hnone (built_eq hbuilt) rfl (.inl rfl) hsent
  | @close idx phase frame hnone hphase hframe hsent hview =>
      have hexpected : d.view.expected = none := by
        rw [hview]
        obtain rfl | rfl := hphase
        · rfl
        · rfl
      have hbuilt : advancedFrames d.view.log = [frame] ++ advancedFrames c.view.log := by
        rw [hview, ← hframes]
        rfl
      rw [hexpected]
      exact .finish h hnone (built_eq hbuilt) rfl hframe hsent

/-- A SoC that starts a cycle is what the observer expects. -/
theorem startCycle {c s e d : MnContext σ} {input : CycleInput} {action : NodeAction}
    {l : List (Returned σ)} (hreaches : c.Reaches input s e)
    (hstarts : MnContext.Starts input.currentTimeUs e d action) (h : PollsSent l e.view.expected)
    (hframes : advancedFrames e.view.log = advancedFrames c.view.log) :
    PollsSent (⟨c, input, action, d⟩ :: l) d.view.expected := by
  obtain ⟨cycle, hview⟩ := hstarts.view
  have hidle : e.view.expected = none := by
    rw [CycleView.expected, hstarts.phase]
  have hexpected : d.view.expected = some d.isochronousNodes := by
    show _ = some d.view.isochronousNodes
    rw [hview]
    rfl
  have hbuilt : advancedFrames d.view.log = [] ++ advancedFrames c.view.log := by
    rw [hview, ← hframes]
    rfl
  have hsoc : action.frameType = some MessageType.soC.toByte := by
    obtain ⟨-, -, -, soc, haction, -⟩ := e.startCycle_spec input.currentTimeUs
    rw [hstarts.start] at haction
    rw [show action = _ from haction]
    exact MnContext.send_soc soc
  rw [hidle] at h
  rw [hexpected]
  exact .start h (built_eq hbuilt) hsoc ⟨s, e, hreaches, hstarts⟩

/-- Every call of an undisturbed run is what the observer expects. -/
theorem runCycle {r : MnRun σ} {input : CycleInput} {action : NodeAction} {d : MnContext σ}
    (hinv : r.context.CycleInv)
    (h : Undisturbed r.context.view.log → PollsSent r.returned r.context.view.expected)
    (hrun : r.context.runCycle input = some (action, d)) (hlog : Undisturbed d.view.log) :
    PollsSent (⟨r.context, input, action, d⟩ :: r.returned) d.view.expected := by
  obtain ⟨-, s, hreceived, hrest⟩ := MnContext.runCycle_spec hrun hinv.queue
  have hpast : s.view.log <:+ d.view.log → PollsSent r.returned s.view.expected ∧
      advancedFrames s.view.log = advancedFrames r.context.view.log := by
    intro hsuffix
    have hslog : Undisturbed s.view.log := fun e he => hlog e (hsuffix.subset he)
    obtain ⟨hframes, hexpected⟩ := hreceived.polls hslog
    rw [hexpected]
    exact ⟨h (fun e he => hslog e (hreceived.continues.log.subset he)), hframes⟩
  obtain ⟨hview, hasync⟩ | ⟨e, hreaches, htick⟩ := hrest
  · rw [hview] at hpast ⊢
    obtain ⟨hsent, hframes⟩ := hpast List.suffix_rfl
    refine .other hsent (built_eq ?_) hasync
    rw [hview]
    exact hframes
  · rw [← hreaches.still.view] at hpast
    obtain hstarts | hticked := htick
    · have hsuffix : e.view.log <:+ d.view.log := by
        obtain ⟨cycle, hview⟩ := hstarts.view
        rw [hview]
      obtain ⟨hsent, hframes⟩ := hpast hsuffix
      exact startCycle hreaches hstarts hsent hframes
    · obtain ⟨hsent, hframes⟩ := hpast hticked.continues.log
      have hstall := hreceived.noStall hinv.noStall
      rw [← hreaches.still.view] at hstall
      obtain hpasses | hadvances := hticked.polls hstall hlog
      · rw [hpasses.expected]
        exact .other hsent (built_eq (hpasses.frames.trans hframes)) hpasses.async
      · obtain ⟨w, hadvanced, hexpected, hw⟩ := hadvances
        rw [hexpected] at hsent
        exact advance hadvanced hsent (hw.trans hframes) hlog

/-- A frame that was built is sent by its call. -/
theorem sent {l : List (Returned σ)} {nodes : Option (List NodeId)} (h : PollsSent l nodes) :
    ∀ x ∈ l, x.built ≠ [] → x.action.frameType ≠ none := by
  induction h with
  | nil => exact fun _ hx => nomatch hx
  | start h hbuilt hsoc hstarts ih =>
      exact List.forall_mem_cons.mpr ⟨fun hne => absurd hbuilt hne, ih⟩
  | poll h hskipped hnode hbuilt haction htype hdestination ih =>
      refine List.forall_mem_cons.mpr ⟨fun _ hnone => ?_, ih⟩
      cases htype.symm.trans hnone
  | finish h hnone hbuilt haction hframe htype ih =>
      refine List.forall_mem_cons.mpr ⟨fun _ hnone => ?_, ih⟩
      cases htype.symm.trans hnone
  | other h hbuilt hasync ih =>
      exact List.forall_mem_cons.mpr ⟨fun hne => absurd hbuilt hne, ih⟩

end PollsSent

namespace MnRun

variable {σ : Type} [ObjectDictionaryStorage σ]

/-- In every run in which no awaited PRes arrives, no awaited ASnd is missing and every PReq and
every NMT command could be built, the polls and the frames that end the isochronous phase are sent
in order, and none of them is lost. -/
theorem every_poll_is_sent :
    Throughout (fun r : MnRun σ => (∀ e ∈ r.context.history, e.isUndisturbed = true) →
      ∃ nodes, PollsSent r.returned nodes) := by
  have hinv : Throughout (fun r : MnRun σ => Undisturbed r.context.view.log →
      PollsSent r.returned r.context.view.expected) := by
    apply throughout_of_cycleInv
    · intro od mac cfg machine cycleTimeUs lists publish _ _
      exact .nil
    · intro r input action d hcycle hsent hrun
      exact PollsSent.runCycle hcycle hsent hrun
  refine hinv.mono ?_
  intro r hsent hlog
  exact ⟨_, hsent (fun e he => hlog e (List.mem_of_mem_filter he))⟩

/-- The only node is polled and answers in time, and the SoA behind its PRes is lost. -/
theorem soa_after_pres_is_lost :
    ¬ Throughout (fun r : MnRun Empty => (∀ e ∈ r.context.history, e.isAnswered = true) →
      ∃ nodes, PollsSent r.returned nodes) := by
  intro h
  have hnot : ¬ Throughout (fun r : MnRun Empty =>
      (∀ e ∈ r.context.history, e.isAnswered = true) →
        ∀ x ∈ r.returned, x.built.isEmpty = false → x.action.frameType ≠ none) := by
    apply not_throughout (mnDictionary 0x100 [9]) ⟨0, 0, 0, 0, 0, 240⟩ none
      [.idle 0, .idle 10, .idle 1000, .idle 1001, .identResponse 1 1010, .idle 2000, .idle 2001,
        .statusResponse 1 .nmtPreOperational2 2010, .idle 3000, .idle 3001,
        .pres 1 .nmtPreOperational2 3003]
    decide +kernel
  refine hnot (h.mono ?_)
  intro r hr hanswered x hx hbuilt
  obtain ⟨nodes, hsent⟩ := hr hanswered
  refine hsent.sent x hx ?_
  intro hnil
  rw [hnil] at hbuilt
  cases hbuilt

end MnRun

end Powerlink
