import Powerlink.Mn.Deadlines

/-! # Every SoC starts a cycle

A managing node sends a SoC where `start_cycle` builds one, and where a PReq or an NMT command
cannot be built: the builders return a dummy SoC for it, which `serialize_frame_action` does not
reject.  `soc_starts_cycle` says that these are all: as long as every frame could be built, every
SoC starts a cycle, and two of them are at least the cycle time apart. -/

namespace Powerlink

/-- A PReq or an NMT command was built in full. -/
def MnEvent.isComplete : MnEvent → Bool
  | .built _ complete => complete
  | _ => true

/-- Every frame could be built. -/
def AllComplete (log : List MnEvent) : Prop := ∀ e ∈ log, e.isComplete = true

/-- What only the start of a cycle changes. -/
def CycleView.cycle (v : CycleView) :
    ℕ × ℕ × List NodeId × UInt8 × SortedMap NodeId UInt8 × UInt8 :=
  (v.cycleTimeUs, v.cycleStart, v.isochronousNodes, v.schedule)

/-- The cycle goes on. -/
structure CycleView.Continues (v w : CycleView) : Prop where
  cycle : w.cycle = v.cycle
  log : v.log <:+ w.log

theorem CycleView.Continues.refl (v : CycleView) : v.Continues v := ⟨rfl, List.suffix_rfl⟩

theorem CycleView.Continues.trans {u v w : CycleView} (h : u.Continues v) (h' : v.Continues w) :
    u.Continues w :=
  ⟨h'.cycle.trans h.cycle, h.log.trans h'.log⟩

theorem CycleView.Continues.complete {v w : CycleView} (h : v.Continues w)
    (hcomplete : AllComplete w.log) : AllComplete v.log :=
  fun e he => hcomplete e (h.log.subset he)

theorem CycleView.Continues.cycleTimeUs {v w : CycleView} (h : v.Continues w) :
    w.cycleTimeUs = v.cycleTimeUs :=
  congrArg Prod.fst h.cycle

theorem CycleView.Continues.cycleStart {v w : CycleView} (h : v.Continues w) :
    w.cycleStart = v.cycleStart :=
  congrArg (fun c => c.2.1) h.cycle

/-- An action that is no SoC. -/
def NodeAction.IsNoSoc (action : NodeAction) : Prop :=
  action.frameType ≠ some MessageType.soC.toByte

theorem NodeAction.IsAsync.isNoSoc {action : NodeAction} (h : action.IsAsync) :
    action.IsNoSoc := by
  intro hsoc
  obtain htype | htype := h
  · cases htype.symm.trans hsoc
  · exact absurd (Option.some.inj (htype.symm.trans hsoc)) (by decide)

namespace MnContext

variable {σ : Type} {t : ℕ} {v w : CycleView} {d : MnContext σ} {action : NodeAction}

/-! ### Steps within a cycle -/

theorem Advanced.continues (h : Advanced v d action) : v.Continues d.view := by
  cases h with
  | poll idx deadline hnmt hrem hskip hnode hrest hcomplete hview =>
      rw [hview]
      exact ⟨rfl, List.suffix_append [_, _, _] v.log⟩
  | invite idx deadline hnone hsent hview =>
      rw [hview]
      exact ⟨rfl, List.suffix_append [_, _] v.log⟩
  | close idx phase hnone hphase hframe hsent hview =>
      rw [hview]
      exact ⟨rfl, List.suffix_cons _ v.log⟩

/-- Advancing the phase sends no SoC when the PReq could be built. -/
theorem Advanced.isNoSoc (h : Advanced v d action) (hlog : AllComplete d.view.log) :
    action.IsNoSoc := by
  intro hsoc
  cases h with
  | poll idx deadline hnmt hrem hskip hnode hrest hcomplete hview =>
      rw [hview] at hlog
      obtain ⟨preq, rfl, -, hlen⟩ := hcomplete (hlog _ (List.mem_cons_of_mem _ List.mem_cons_self))
      have htype := (send_pReq hlen).1
      exact absurd (Option.some.inj (htype.symm.trans hsoc)) (by decide)
  | invite idx deadline hnone hsent hview =>
      exact absurd (Option.some.inj (hsent.symm.trans hsoc)) (by decide)
  | close idx phase hnone hphase hframe hsent hview =>
      have hbyte := Option.some.inj (hsent.symm.trans hsoc)
      obtain htype | htype := hframe
      · rw [htype] at hbyte
        exact absurd hbyte (by decide)
      · rw [htype] at hbyte
        exact absurd hbyte (by decide)

theorem Expired.continues (h : Expired t v w) : v.Continues w := by
  cases h with
  | refl => exact .refl v
  | drop hactive hpending hnext hle => exact ⟨rfl, List.suffix_rfl⟩

theorem Progressed.continues (h : Progressed v d action) : v.Continues d.view := by
  cases h with
  | still hview hasync =>
      rw [hview]
      exact .refl v
  | wait deadline hactive hnext hview =>
      rw [hview]
      exact ⟨rfl, List.suffix_rfl⟩
  | advance hphase hadvanced => exact hadvanced.continues
  | own hphase hasync hview =>
      rw [hview]
      exact ⟨rfl, List.suffix_rfl⟩
  | command nodeId complete hphase hasync hview =>
      rw [hview]
      exact ⟨rfl, List.suffix_cons _ v.log⟩

theorem Progressed.isNoSoc (h : Progressed v d action) (hlog : AllComplete d.view.log) :
    action.IsNoSoc := by
  cases h with
  | still hview hasync => exact hasync.isNoSoc
  | wait deadline hactive hnext hview => exact NodeAction.IsAsync.isNoSoc (.inl rfl)
  | advance hphase hadvanced => exact hadvanced.isNoSoc hlog
  | own hphase hasync hview => exact hasync.isNoSoc
  | command nodeId complete hphase hasync hview =>
      rw [hview] at hlog
      exact (hasync (hlog _ List.mem_cons_self)).isNoSoc

theorem Ticked.continues (h : Ticked t v d action) : v.Continues d.view := by
  cases h with
  | sdo hview hasync =>
      rw [hview]
      exact .refl v
  | activate hactive hnext hle hview =>
      rw [hview]
      exact ⟨rfl, List.suffix_rfl⟩
  | timeout hactive hnext hle hpending hadvanced =>
      have hlog := (List.suffix_cons _ v.log).trans hadvanced.continues.log
      exact ⟨hadvanced.continues.cycle, hlog⟩
  | progress hexpired hprogressed => exact hexpired.continues.trans hprogressed.continues

theorem Ticked.isNoSoc (h : Ticked t v d action) (hlog : AllComplete d.view.log) :
    action.IsNoSoc := by
  cases h with
  | sdo hview hasync => exact hasync.isNoSoc
  | activate hactive hnext hle hview => exact NodeAction.IsAsync.isNoSoc (.inl rfl)
  | timeout hactive hnext hle hpending hadvanced => exact hadvanced.isNoSoc hlog
  | progress hexpired hprogressed => exact hprogressed.isNoSoc hlog

theorem Received.continues (h : Received v d) : v.Continues d.view := by
  cases h with
  | quiet hview =>
      rw [hview]
      exact .refl v
  | answered hphase hadvanced =>
      have hlog := (List.suffix_cons _ v.log).trans hadvanced.continues.log
      exact ⟨hadvanced.continues.cycle, hlog⟩
  | asnd hphase hview =>
      rw [hview]
      exact ⟨rfl, List.suffix_rfl⟩

end MnContext

/-! ### Runs -/

namespace Returned

variable {σ : Type} [ObjectDictionaryStorage σ]

omit [ObjectDictionaryStorage σ] in
/-- The time of the call. -/
def timeUs (x : Returned σ) : ℕ := x.input.currentTimeUs

omit [ObjectDictionaryStorage σ] in
/-- The call has returned a SoC. -/
def IsSoc (x : Returned σ) : Prop := x.action.frameType = some MessageType.soC.toByte

omit [ObjectDictionaryStorage σ] in
instance (x : Returned σ) : Decidable x.IsSoc := inferInstanceAs (Decidable (_ = _))

/-- The call has come to `start_cycle` when a cycle was due, and has returned its action. -/
def StartsCycle (x : Returned σ) : Prop :=
  ∃ r e : MnContext σ, MnContext.Reaches x.before x.input r e ∧
    MnContext.Starts x.timeUs e x.after x.action

end Returned

/-- Two SoC are at least the cycle time apart; the newer call comes first. -/
def SocsApart {σ : Type} (cycleTimeUs : ℕ) (returned : List (Returned σ)) : Prop :=
  returned.Pairwise (fun later earlier =>
    later.IsSoc → earlier.IsSoc → cycleTimeUs ≤ later.timeUs - earlier.timeUs)

instance {σ : Type} (cycleTimeUs : ℕ) (returned : List (Returned σ)) :
    Decidable (SocsApart cycleTimeUs returned) :=
  inferInstanceAs (Decidable (List.Pairwise _ _))

namespace MnRun

variable {σ : Type} [ObjectDictionaryStorage σ]

/-- What is proved of the SoC of a run. -/
structure SocInv (r : MnRun σ) : Prop where
  starts : ∀ x ∈ r.returned, x.IsSoc → x.StartsCycle
  apart : SocsApart r.context.cycleTimeUs r.returned
  past : r.context.cycleTimeUs = 0 ∨
    ∀ x ∈ r.returned, x.IsSoc → x.timeUs ≤ r.context.currentCycleStartTimeUs

/-- A call that sends no SoC and starts no cycle. -/
theorem SocInv.continue {r : MnRun σ} {input : CycleInput} {action : NodeAction} {d : MnContext σ}
    (h : r.SocInv) (hcontinues : r.context.view.Continues d.view) (haction : action.IsNoSoc) :
    SocInv ⟨d, ⟨r.context, input, action, d⟩ :: r.returned⟩ := by
  have htime : d.cycleTimeUs = r.context.cycleTimeUs := hcontinues.cycleTimeUs
  have hstart : d.currentCycleStartTimeUs = r.context.currentCycleStartTimeUs :=
    hcontinues.cycleStart
  constructor
  · exact List.forall_mem_cons.mpr ⟨fun hsoc => absurd hsoc haction, h.starts⟩
  · show SocsApart d.cycleTimeUs _
    rw [htime]
    exact List.pairwise_cons.mpr ⟨fun _ _ hsoc => absurd hsoc haction, h.apart⟩
  · show d.cycleTimeUs = 0 ∨ ∀ x ∈ _, _ → _ ≤ d.currentCycleStartTimeUs
    rw [htime, hstart]
    refine h.past.imp id ?_
    exact fun hpast => List.forall_mem_cons.mpr ⟨fun hsoc => absurd hsoc haction, hpast⟩

/-- A call that starts a cycle. -/
theorem SocInv.start {r : MnRun σ} {input : CycleInput} {action : NodeAction}
    {s e d : MnContext σ} (h : r.SocInv) (hreaches : r.context.Reaches input s e)
    (hcontinues : r.context.view.Continues e.view)
    (hstarts : MnContext.Starts input.currentTimeUs e d action) :
    SocInv ⟨d, ⟨r.context, input, action, d⟩ :: r.returned⟩ := by
  obtain ⟨cycle, hview⟩ := hstarts.view
  have htime : d.cycleTimeUs = r.context.cycleTimeUs :=
    (congrArg CycleView.cycleTimeUs hview).trans hcontinues.cycleTimeUs
  have hstart : d.currentCycleStartTimeUs = input.currentTimeUs :=
    congrArg CycleView.cycleStart hview
  have helapsed := hstarts.elapsed
  rw [hcontinues.cycleTimeUs, hcontinues.cycleStart] at helapsed
  constructor
  · exact List.forall_mem_cons.mpr ⟨fun _ => ⟨s, e, hreaches, hstarts⟩, h.starts⟩
  · show SocsApart d.cycleTimeUs _
    rw [htime]
    refine List.pairwise_cons.mpr ⟨?_, h.apart⟩
    intro x hx _ hsoc
    show r.context.cycleTimeUs ≤ input.currentTimeUs - x.timeUs
    obtain hzero | hpast := h.past
    · omega
    · have hle := hpast x hx hsoc
      exact helapsed.trans (Nat.sub_le_sub_left hle _)
  · show d.cycleTimeUs = 0 ∨ ∀ x ∈ _, _ → _ ≤ d.currentCycleStartTimeUs
    rw [htime, hstart]
    obtain hzero | hpast := h.past
    · exact .inl hzero
    · by_cases hzero : r.context.cycleTimeUs = 0
      · exact .inl hzero
      · -- the cycle time has elapsed since the last start, so that time has not gone back
        refine .inr (List.forall_mem_cons.mpr ⟨fun _ => le_rfl, ?_⟩)
        intro x hx hsoc
        have hle := hpast x hx hsoc
        have hview : r.context.view.cycleStart = r.context.currentCycleStartTimeUs := rfl
        have hview' : r.context.view.cycleTimeUs = r.context.cycleTimeUs := rfl
        omega

theorem SocInv.runCycle {r : MnRun σ} {input : CycleInput} {action : NodeAction}
    {d : MnContext σ} (hinv : r.context.CycleInv)
    (h : AllComplete r.context.view.log → r.SocInv)
    (hrun : r.context.runCycle input = some (action, d)) (hcomplete : AllComplete d.view.log) :
    SocInv ⟨d, ⟨r.context, input, action, d⟩ :: r.returned⟩ := by
  obtain ⟨-, s, hreceived, hrest⟩ := MnContext.runCycle_spec hrun hinv.queue
  obtain ⟨hview, hasync⟩ | ⟨e, hreaches, hstarts | hticked⟩ := hrest
  · have hcontinues := hreceived.continues
    rw [← hview] at hcontinues
    exact (h (hcontinues.complete hcomplete)).continue hcontinues hasync.isNoSoc
  · have hcontinues := hreceived.continues
    rw [← hreaches.still.view] at hcontinues
    obtain ⟨cycle, hview⟩ := hstarts.view
    have hlog : d.view.log = e.view.log := (congrArg CycleView.log hview).trans rfl
    rw [hlog] at hcomplete
    exact (h (hcontinues.complete hcomplete)).start hreaches hcontinues hstarts
  · have hcontinues := hreceived.continues
    rw [← hreaches.still.view] at hcontinues
    have hall := hcontinues.trans hticked.continues
    exact (h (hall.complete hcomplete)).continue hall (hticked.isNoSoc hcomplete)

/-- In every run in which every PReq and every NMT command could be built, every SoC was sent by
`start_cycle`, and two SoC are at least the cycle time apart. -/
theorem soc_starts_cycle :
    Throughout (fun r : MnRun σ => (∀ e ∈ r.context.history, e.isComplete = true) →
      (∀ x ∈ r.returned, x.IsSoc → x.StartsCycle) ∧
        SocsApart r.context.cycleTimeUs r.returned) := by
  have hinv : Throughout (fun r : MnRun σ => AllComplete r.context.view.log → r.SocInv) := by
    apply throughout_of_cycleInv
    · intro od mac cfg machine cycleTimeUs lists publish _ _
      exact {
        starts := fun _ hx => nomatch hx
        apart := List.Pairwise.nil
        past := .inr (fun _ hx => nomatch hx) }
    · intro r input action d hcycle hsoc hrun
      exact SocInv.runCycle hcycle hsoc hrun
  refine hinv.mono ?_
  intro r hsoc hcomplete
  have h := hsoc (fun e he => hcomplete e (List.mem_of_mem_filter he))
  exact ⟨h.starts, h.apart⟩

/-- A node that was never identified reports `NmtPreOperational2` and is polled: its MAC address is
unknown, and a second SoC follows the one of the cycle. -/
theorem unknown_mac_sends_soc :
    ¬ Throughout (fun r : MnRun Empty => (∀ x ∈ r.returned, x.IsSoc → x.StartsCycle) ∧
      SocsApart r.context.cycleTimeUs r.returned) := by
  intro h
  have hnot : ¬ Throughout (fun r : MnRun Empty =>
      SocsApart r.context.cycleTimeUs r.returned) := by
    apply not_throughout (mnDictionary 0 [1]) ⟨0, 0, 0, 0, 0, 240⟩ none
      [.idle 0, .idle 10, .idle 1000, .idle 1001, .statusResponse 1 .nmtPreOperational2 1010,
        .idle 2000, .idle 2001]
    decide +kernel
  exact hnot (h.mono (fun r hr => hr.2))

end MnRun

end Powerlink
