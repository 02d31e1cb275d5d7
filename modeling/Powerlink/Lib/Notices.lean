import Mathlib.Tactic

/-! # A handshake over one toggling flag

A sender keeps entries in a queue and shows one flag.  The receiver holds the flag that it has last
seen and the flag that it has last acknowledged; it asks for a report while the two differ.  Flags
and reports travel in order and without loss.

New entries toggle the flag (`raise`), a report takes entries from the queue (`report`), and a
delivered report acknowledges the flag that was last seen, whatever it carries (`deliver`).  The
handshake is sound if entries are only raised while it is settled and if every report takes the
whole queue: `Inv.step` keeps the invariant in these steps, and `Inv.pending` says that while an
entry is outstanding a difference of flags is still there that makes the receiver ask. -/

namespace Notices

variable {ε : Type}

/-- A message of the sender. -/
inductive Message (ε : Type) where
  | flag (shown : Bool)
  | report (entries : List ε)

/-- The entries that a message carries. -/
def Message.entries : Message ε → List ε
  | flag _ => []
  | report entries => entries

/-- The entries on the link. -/
def inFlight (link : List (Message ε)) : List ε := link.flatMap Message.entries

/-- The sender, the link and the receiver. -/
structure State (ε : Type) where
  shown : Bool
  queue : List ε
  link : List (Message ε)
  seen : Bool
  acknowledged : Bool
  delivered : List ε

namespace State

/-- The flags agree. -/
def Settled (s : State ε) : Prop := s.shown = s.seen ∧ s.seen = s.acknowledged

/-- The entries that no delivered report has carried. -/
def outstanding (s : State ε) : List ε := inFlight s.link ++ s.queue

/-- All entries, those that were delivered first. -/
def entries (s : State ε) : List ε := s.delivered ++ s.outstanding

/-- While an entry is outstanding, a difference of flags is pending. -/
def Pending (s : State ε) : Prop :=
  s.outstanding ≠ [] → s.seen ≠ s.acknowledged ∨ s.shown ≠ s.seen

/-- New entries toggle the flag. -/
def raise (s : State ε) (entries : List ε) : State ε :=
  { s with shown := !s.shown, queue := s.queue ++ entries }

/-- The flag is sent. -/
def announce (s : State ε) : State ε := { s with link := s.link ++ [.flag s.shown] }

/-- A report takes the first entries. -/
def report (s : State ε) (room : ℕ) : State ε :=
  { s with
    link := s.link ++ [.report (s.queue.take room)]
    queue := s.queue.drop room }

/-- The first message of the link arrives. -/
def deliver (s : State ε) : State ε :=
  match s.link with
  | [] => s
  | .flag shown :: link => { s with link := link, seen := shown }
  | .report entries :: link =>
      { s with link := link, acknowledged := s.seen, delivered := s.delivered ++ entries }

end State

/-- The steps of a sound handshake. -/
inductive Step (s : State ε) : State ε → Prop
  | rest : Step s s
  | raise (entries : List ε) (h : s.Settled) : Step s (s.raise entries)
  | announce : Step s s.announce
  | report (room : ℕ) (h : s.queue.length ≤ room) : Step s (s.report room)
  | deliver : Step s s.deliver

/-! ### The entries -/

theorem inFlight_append (link : List (Message ε)) (message : Message ε) :
    inFlight (link ++ [message]) = inFlight link ++ message.entries := by
  simp [inFlight]

namespace State

variable (s : State ε)

/-- New entries come last. -/
theorem entries_raise (entries : List ε) : (s.raise entries).entries = s.entries ++ entries := by
  simp [State.entries, outstanding, raise]

theorem entries_announce : s.announce.entries = s.entries := by
  simp [State.entries, outstanding, announce, inFlight_append, Message.entries]

theorem entries_report (room : ℕ) : (s.report room).entries = s.entries := by
  simp [State.entries, outstanding, report, inFlight_append, Message.entries]

/-- A delivered entry is still there. -/
theorem entries_deliver : s.deliver.entries = s.entries := by
  unfold State.entries outstanding deliver
  split
  · rfl
  · rename_i hlink
    simp [hlink, inFlight, Message.entries]
  · rename_i hlink
    simp [hlink, inFlight, Message.entries]

end State

/-! ### The invariant -/

/-- Every flag of the link is the one that is shown. -/
def AllShown (shown : Bool) (link : List (Message ε)) : Prop :=
  ∀ b, .flag b ∈ link → b = shown

/-- The first report of the link takes all that is left. -/
def Spent (queue : List ε) : List (Message ε) → Prop
  | [] => True
  | .flag _ :: link => Spent queue link
  | .report _ :: link => inFlight link ++ queue = []

/-- The new flag is on its way, or not yet; a report behind it takes all that is left. -/
def Underway (shown : Bool) (queue : List ε) : List (Message ε) → Prop
  | [] => True
  | .flag b :: link =>
      if b = shown then AllShown shown link ∧ Spent queue link else Underway shown queue link
  | .report _ :: link => Underway shown queue link

/-- The phases of the handshake. -/
inductive Inv (s : State ε) : Prop
  | idle (hseen : s.shown = s.seen) (hack : s.seen = s.acknowledged)
      (hflags : AllShown s.shown s.link) (hnone : s.outstanding = [])
  | raised (hseen : s.shown ≠ s.seen) (hack : s.seen = s.acknowledged)
      (hlink : Underway s.shown s.queue s.link)
  | received (hseen : s.shown = s.seen) (hack : s.seen ≠ s.acknowledged)
      (hflags : AllShown s.shown s.link) (hspent : Spent s.queue s.link)

/-- The invariant is what the receiver relies on. -/
theorem Inv.pending {s : State ε} (h : Inv s) : s.Pending := by
  intro hout
  cases h with
  | idle _ _ _ hnone => exact absurd hnone hout
  | raised hseen _ _ => exact .inr hseen
  | received _ hack _ _ => exact .inl hack

theorem AllShown.append {shown : Bool} {link : List (Message ε)} {message : Message ε}
    (h : AllShown shown link) (hmessage : ∀ b, message = .flag b → b = shown) :
    AllShown shown (link ++ [message]) := by
  intro b hb
  obtain hb | hb := List.mem_append.mp hb
  · exact h b hb
  · exact hmessage b (List.mem_singleton.mp hb).symm

section

variable {shown : Bool} {queue : List ε} {link : List (Message ε)}

/-- A flag behind the link changes nothing. -/
theorem Spent.append_flag (h : Spent queue link) : Spent queue (link ++ [.flag shown]) := by
  induction link with
  | nil => trivial
  | cons message link ih =>
      cases message with
      | flag b => exact ih h
      | report entries =>
          change inFlight (link ++ [.flag shown]) ++ queue = []
          rw [inFlight_append, Message.entries, List.append_nil]
          exact h

/-- A report that takes the whole queue leaves nothing. -/
theorem Spent.append_report (h : Spent queue link) : Spent [] (link ++ [.report queue]) := by
  induction link with
  | nil => rfl
  | cons message link ih =>
      cases message with
      | flag b => exact ih h
      | report entries =>
          change inFlight (link ++ [.report queue]) ++ [] = []
          rw [inFlight_append, List.append_nil]
          exact h

theorem Underway.append_flag (h : Underway shown queue link) :
    Underway shown queue (link ++ [.flag shown]) := by
  induction link with
  | nil =>
      change if shown = shown then _ else _
      rw [if_pos rfl]
      exact ⟨fun b hb => (nomatch hb), trivial⟩
  | cons message link ih =>
      cases message with
      | flag b =>
          change if b = shown then _ else _
          change if b = shown then _ else _ at h
          split_ifs at h ⊢
          · exact ⟨h.1.append (fun b hb => (Message.flag.inj hb).symm), h.2.append_flag⟩
          · exact ih h
      | report entries => exact ih h

theorem Underway.append_report (h : Underway shown queue link) :
    Underway shown [] (link ++ [.report queue]) := by
  induction link with
  | nil => trivial
  | cons message link ih =>
      cases message with
      | flag b =>
          change if b = shown then _ else _
          change if b = shown then _ else _ at h
          split_ifs at h ⊢
          · exact ⟨h.1.append (fun b hb => nomatch hb), h.2.append_report⟩
          · exact ih h
      | report entries => exact ih h

/-- Old flags are not the new one. -/
theorem underway_of_allShown (h : AllShown (!shown) link) : Underway shown queue link := by
  induction link with
  | nil => trivial
  | cons message link ih =>
      have hrest : AllShown (!shown) link := fun b hb => h b (List.mem_cons_of_mem _ hb)
      cases message with
      | flag b =>
          have hb : b = !shown := h b List.mem_cons_self
          change if b = shown then _ else _
          rw [if_neg (by rw [hb]; exact Bool.not_ne_self shown)]
          exact ih hrest
      | report entries => exact ih hrest

end

/-! ### The steps keep the invariant -/

theorem Inv.raise {s : State ε} (h : Inv s) (hsettled : s.Settled) (entries : List ε) :
    Inv (s.raise entries) := by
  obtain ⟨hshown, hseen⟩ := hsettled
  cases h with
  | idle _ _ hflags _ =>
      refine .raised ?_ hseen (underway_of_allShown ?_)
      · change (!s.shown) ≠ s.seen
        rw [hshown]
        exact Bool.not_ne_self _
      · change AllShown (!(!s.shown)) s.link
        rw [Bool.not_not]
        exact hflags
  | raised hne _ _ => exact absurd hshown hne
  | received _ hne _ _ => exact absurd hseen hne

theorem Inv.announce {s : State ε} (h : Inv s) : Inv s.announce := by
  have hflag : ∀ b, (Message.flag s.shown : Message ε) = .flag b → b = s.shown :=
    fun b hb => (Message.flag.inj hb).symm
  cases h with
  | idle hseen hack hflags hnone =>
      refine .idle hseen hack (hflags.append hflag) ?_
      change inFlight (s.link ++ [.flag s.shown]) ++ s.queue = []
      rw [inFlight_append, Message.entries, List.append_nil]
      exact hnone
  | raised hseen hack hlink => exact .raised hseen hack hlink.append_flag
  | received hseen hack hflags hspent =>
      exact .received hseen hack (hflags.append hflag) hspent.append_flag

theorem Inv.report {s : State ε} (h : Inv s) {room : ℕ} (hroom : s.queue.length ≤ room) :
    Inv (s.report room) := by
  have heq : s.report room = { s with link := s.link ++ [.report s.queue], queue := [] } := by
    unfold State.report
    rw [List.take_of_length_le hroom, List.drop_of_length_le hroom]
  have hreport : ∀ b, (Message.report s.queue : Message ε) = .flag b → b = s.shown :=
    fun b hb => nomatch hb
  rw [heq]
  cases h with
  | idle hseen hack hflags hnone =>
      refine .idle hseen hack (hflags.append hreport) ?_
      change inFlight (s.link ++ [.report s.queue]) ++ [] = []
      rw [inFlight_append, List.append_nil]
      exact hnone
  | raised hseen hack hlink => exact .raised hseen hack hlink.append_report
  | received hseen hack hflags hspent =>
      exact .received hseen hack (hflags.append hreport) hspent.append_report

/-- A delivered flag is the new one, or one that was seen already. -/
theorem Inv.deliver_flag {s : State ε} (h : Inv s) {b : Bool} {link : List (Message ε)}
    (hlink : s.link = .flag b :: link) : Inv { s with link := link, seen := b } := by
  cases h with
  | idle hseen hack hflags hnone =>
      rw [hlink] at hflags
      have hb : b = s.shown := hflags b List.mem_cons_self
      refine .idle hb.symm ?_ (fun b hb => hflags b (List.mem_cons_of_mem _ hb)) ?_
      · change b = s.acknowledged
        rw [hb, hseen, hack]
      · rw [State.outstanding, hlink] at hnone
        exact hnone
  | raised hseen hack hunderway =>
      rw [hlink] at hunderway
      change if b = s.shown then _ else _ at hunderway
      split_ifs at hunderway with hb
      · refine .received hb.symm ?_ hunderway.1 hunderway.2
        change b ≠ s.acknowledged
        rw [hb, ← hack]
        exact hseen
      · have hsame : b = s.seen := by
          rw [Bool.eq_not.mpr hb, Bool.eq_not.mpr hseen.symm]
        refine .raised ?_ ?_ hunderway
        · exact fun heq => hb heq.symm
        · exact hsame.trans hack
  | received hseen hack hflags hspent =>
      rw [hlink] at hflags hspent
      have hb : b = s.shown := hflags b List.mem_cons_self
      refine .received hb.symm ?_ (fun b hb => hflags b (List.mem_cons_of_mem _ hb)) hspent
      change b ≠ s.acknowledged
      rw [hb, hseen]
      exact hack

/-- A delivered report is the answer to the new flag, or it comes before that flag. -/
theorem Inv.deliver_report {s : State ε} (h : Inv s) {entries : List ε} {link : List (Message ε)}
    (hlink : s.link = .report entries :: link) :
    Inv { s with
      link := link, acknowledged := s.seen, delivered := s.delivered ++ entries } := by
  have hrest : AllShown s.shown s.link → AllShown s.shown link :=
    fun hflags b hb => hflags b (hlink ▸ List.mem_cons_of_mem _ hb)
  cases h with
  | idle hseen hack hflags hnone =>
      refine .idle hseen rfl (hrest hflags) ?_
      rw [State.outstanding, hlink] at hnone
      change inFlight link ++ s.queue = []
      change (entries ++ inFlight link) ++ s.queue = [] at hnone
      rw [List.append_assoc] at hnone
      exact (List.append_eq_nil_iff.mp hnone).2
  | raised hseen hack hunderway =>
      rw [hlink] at hunderway
      exact .raised hseen rfl hunderway
  | received hseen hack hflags hspent =>
      rw [hlink] at hspent
      exact .idle hseen rfl (hrest hflags) hspent

theorem Inv.deliver {s : State ε} (h : Inv s) : Inv s.deliver := by
  unfold State.deliver
  split
  · exact h
  · rename_i hlink
    exact h.deliver_flag hlink
  · rename_i hlink
    exact h.deliver_report hlink

/-- Every step keeps the invariant. -/
theorem Inv.step {s s' : State ε} (h : Inv s) (hstep : Step s s') : Inv s' := by
  cases hstep with
  | rest => exact h
  | raise entries hsettled => exact h.raise hsettled entries
  | announce => exact h.announce
  | report room hroom => exact h.report hroom
  | deliver => exact h.deliver

end Notices
