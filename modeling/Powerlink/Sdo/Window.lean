import Powerlink.Sdo.Table

/-! # The receive window of a connection

An open connection accepts two sequence numbers: the one it received last, which marks a
duplicate, and its successor modulo 64.  `out_of_window` says that every other frame is
rejected without a trace, and that the two counters of a connection stay below 64 in every run,
of the connection alone and of a server with all its clients. -/

namespace Powerlink

/-! ### Sequence numbers -/

theorem nextSequence_toNat (n : UInt8) : (nextSequence n).toNat = (n.toNat + 1) % 64 := by
  have hn := n.toNat_lt
  simp only [nextSequence, UInt8.toNat_mod, UInt8.toNat_add, UInt8.reduceToNat]
  omega

theorem nextSequence_lt (n : UInt8) : nextSequence n < 64 := by
  rw [UInt8.lt_iff_toNat_lt, nextSequence_toNat]
  exact Nat.mod_lt _ (by decide)

/-- A decoded sequence number has six bits. -/
theorem SequenceLayerHeader.sendSequenceNumber_lt {buffer : List UInt8}
    {request : SequenceLayerHeader} (hdec : deserialize buffer = .ok request) :
    request.sendSequenceNumber < 64 := by
  have hsix (b : UInt8) : (b >>> 2) &&& 0x3F < 64 := by
    rw [UInt8.lt_iff_toNat_lt, UInt8.toNat_and]
    exact Nat.lt_of_le_of_lt Nat.and_le_right (by decide)
  match buffer with
  | [] | [_] | [_, _] | [_, _, _] => cases hdec
  | octet₀ :: octet₁ :: _ :: _ :: _ =>
      obtain ⟨receiveCon, hr⟩ := receiveCon_tryFrom_total octet₀
      obtain ⟨sendCon, hs⟩ := sendCon_tryFrom_total octet₁
      simp only [deserialize, hr, hs] at hdec
      cases hdec
      exact hsix octet₁

namespace SdoSequenceHandler

variable {h h' : SdoSequenceHandler}

/-- Both sequence numbers are below 64. -/
def InWindow (h : SdoSequenceHandler) : Prop :=
  h.sendSequenceNumber < 64 ∧ h.lastReceivedSequenceNumber < 64

theorem inWindow_new (clientInfo : SdoClientInfo) : (new clientInfo).InWindow := by
  constructor <;> simp only [new] <;> decide

theorem inWindow_reset : h.reset.InWindow := by
  constructor <;> simp only [reset] <;> decide

/-! ### Steps of a connection -/

theorem inWindow_processSequenceLayer {request : SequenceLayerHeader}
    (hrequest : request.sendSequenceNumber < 64) (hw : h.InWindow) :
    (h.processSequenceLayer request).2.InWindow := by
  have hstep := processSequenceLayer_step h request
  generalize h.processSequenceLayer request = out at hstep ⊢
  cases hstep with
  | duplicate | mismatch | noConnection | unconfirmed => exact hw
  | inOrder | confirmation => exact ⟨nextSequence_lt _, hrequest⟩
  | initialization => exact ⟨(by decide : (0 : UInt8) < 64), hrequest⟩

variable {σ η : Type} {od : ObjectDictionary σ} {currentTimeUs : ℕ} {ch : η}

theorem inWindow_handleErrorResponse {request : SequenceLayerHeader}
    (hrequest : request.sendSequenceNumber < 64) (hw : h.InWindow) :
    (h.handleErrorResponse request).2.InWindow := by
  rcases handleErrorResponse_cases h request with ⟨command, hresend⟩ | hack
  · rw [hresend]
    exact hw
  · rw [hack]
    exact inWindow_processSequenceLayer hrequest hw

theorem inWindow_handleEmptyPayload (request responseHeader : SequenceLayerHeader)
    (hw : h.InWindow) :
    (h.handleEmptyPayload request responseHeader od currentTimeUs).2.InWindow := by
  unfold handleEmptyPayload
  split_ifs
  all_goals first
    | exact hw
    | dsimp only
      split <;> exact hw

theorem inWindow_conclude (responseHeader : SequenceLayerHeader) (v : UInt8 × Verdict σ η)
    (hw : h.InWindow) : (h.conclude responseHeader od currentTimeUs ch v).handler.InWindow := by
  obtain ⟨tid, v⟩ := v
  cases v with
  | refuse => exact inWindow_reset
  | delegated response =>
      simp only [conclude, closeAfter]
      split_ifs <;> exact hw
  | clientAbort | answer | segment | receive | complete => exact hw

theorem inWindow_tick (hw : h.InWindow) : (h.tick currentTimeUs od).2.InWindow := by
  have hstep := tick_cases h od currentTimeUs
  generalize h.tick currentTimeUs od = out at hstep ⊢
  cases hstep with
  | quiet | resent | missing => exact hw
  | expired => exact inWindow_reset

variable [ObjectDictionaryStorage σ] [SdoCommandHandler σ η]

theorem inWindow_handleRequest (payload : List UInt8) (hw : h.InWindow) :
    (h.handleRequest payload od currentTimeUs ch).handler.InWindow := by
  rcases handleRequest_decode h payload od currentTimeUs ch with ⟨-, hshort⟩ | ⟨request, hdec⟩
  · rw [hshort]
    exact hw
  have hrequest := SequenceLayerHeader.sendSequenceNumber_lt hdec
  by_cases hr : request.receiveCon = .errorResponse
  · rw [handleRequest_errorResponse hdec hr]
    exact inWindow_handleErrorResponse hrequest hw
  have hseqw := inWindow_processSequenceLayer hrequest hw
  rcases hseq : h.processSequenceLayer request with ⟨e | responseHeader, h'⟩
  · rw [handleRequest_rejected hdec hr hseq]
    rw [hseq] at hseqw
    exact hseqw
  · rw [hseq] at hseqw
    by_cases hempty : payload.drop 4 = []
    · rw [handleRequest_empty hdec hr hseq hempty]
      exact inWindow_handleEmptyPayload request responseHeader hseqw
    · rw [handleRequest_command hdec hr hseq hempty]
      exact inWindow_conclude responseHeader _ hseqw

theorem inWindow_step (h : SdoSequenceHandler) (e : HandlerEvent σ η) (hw : h.InWindow) :
    (h.step e).InWindow := by
  cases e with
  | request payload od currentTimeUs ch => exact inWindow_handleRequest payload hw
  | tick od currentTimeUs => exact inWindow_tick hw

end SdoSequenceHandler

namespace SdoServer

variable {σ η : Type} {server : SdoServer η}

/-- Every connection of the table has its sequence numbers below 64. -/
def InWindow (server : SdoServer η) : Prop :=
  ∀ clientInfo h, server.connections.get? clientInfo = some h → h.InWindow

theorem InWindow.connection (hw : server.InWindow) (clientInfo : SdoClientInfo) :
    (server.connection clientInfo).InWindow := by
  cases hget : server.connections.get? clientInfo with
  | some h =>
      rw [connection_of_get? hget]
      exact hw clientInfo h hget
  | none =>
      rw [connection_of_get?_none hget]
      exact SdoSequenceHandler.inWindow_new clientInfo

theorem inWindow_tickConnection (currentTimeUs : ℕ) (od : ObjectDictionary σ)
    (clientInfo : SdoClientInfo) (h : SdoSequenceHandler)
    (acc : Option SdoResponseData × List SdoClientInfo) (hw : h.InWindow) :
    (tickConnection currentTimeUs od clientInfo h acc).2.InWindow := by
  have htick : (h.tick currentTimeUs od).2.InWindow := SdoSequenceHandler.inWindow_tick hw
  unfold tickConnection
  dsimp only
  split
  · exact hw
  · split
    · rename_i hout
      rw [hout] at htick
      exact htick
    · rename_i hout
      rw [hout] at htick
      exact htick

variable [ObjectDictionaryStorage σ] [SdoCommandHandler σ η]

theorem inWindow_step (server : SdoServer η) (e : ServerEvent σ) (hw : server.InWindow) :
    (server.step e).InWindow := by
  cases e with
  | request payload clientInfo od currentTimeUs =>
      intro a h hget
      by_cases ha : payload.length < 4 ∨ a ≠ clientInfo
      · rw [step, handleRequest_get?_ne ha] at hget
        exact hw a h hget
      · push Not at ha
        obtain ⟨hlen, rfl⟩ := ha
        obtain ⟨rfl, -⟩ := (handleRequest_get?_self_iff (by omega) rfl).mp hget
        exact SdoSequenceHandler.inWindow_handleRequest payload (hw.connection a)
  | tick od currentTimeUs =>
      intro a h hget
      refine SortedMap.visit_forall (P := fun _ h => h.InWindow) ?_ ?_ (get?_tick hget)
      · intro k h acc hk
        exact inWindow_tickConnection currentTimeUs od k h acc hk
      · exact hw

end SdoServer

/-! ### Frames outside the window -/

section window

variable {σ η : Type} [ObjectDictionaryStorage σ] [SdoCommandHandler σ η]

/-- A frame outside the window is rejected and changes nothing, and no run of a connection or of
a server takes a sequence number out of its six bits. -/
theorem out_of_window :
    (∀ (h : SdoSequenceHandler) (payload : List UInt8) (request : SequenceLayerHeader)
        (od : ObjectDictionary σ) (currentTimeUs : ℕ) (ch : η), h.state.isOpen →
        SequenceLayerHeader.deserialize (payload.take 4) = .ok request →
        request.receiveCon ≠ .errorResponse →
        request.sendSequenceNumber ≠ h.lastReceivedSequenceNumber →
        request.sendSequenceNumber.toNat ≠ (h.lastReceivedSequenceNumber.toNat + 1) % 64 →
        h.handleRequest payload od currentTimeUs ch =
          ⟨.error (.sdoSequenceError "SDO sequence number mismatch."), h, od, ch⟩) ∧
      (∀ (clientInfo : SdoClientInfo) (events : List (HandlerEvent σ η)),
        Runs.Always SdoSequenceHandler.step SdoSequenceHandler.InWindow
          (SdoSequenceHandler.new clientInfo) events) ∧
      (∀ (handler : η) (events : List (ServerEvent σ)),
        Runs.Always SdoServer.step SdoServer.InWindow (SdoServer.withHandler handler) events) := by
  refine ⟨?_, ?_, ?_⟩
  · intro h payload request od currentTimeUs ch hopen hdec hr hdup hnext
    have hnext' : request.sendSequenceNumber ≠ nextSequence h.lastReceivedSequenceNumber := by
      intro heq
      rw [heq, nextSequence_toNat] at hnext
      exact hnext rfl
    exact SdoSequenceHandler.handleRequest_rejected hdec hr
      (SdoSequenceHandler.processSequenceLayer_mismatch hopen hdup hnext')
  · intro clientInfo events
    exact Runs.always_of_step SdoSequenceHandler.inWindow_step events
      (SdoSequenceHandler.inWindow_new clientInfo)
  · intro handler events
    apply Runs.always_of_step SdoServer.inWindow_step events
    intro clientInfo h hget
    rw [SdoServer.withHandler, SortedMap.get?_empty] at hget
    cases hget

end window

/-- A connection that received 63 last accepts 0 next, not 1. -/
def wrappingHandler : SdoSequenceHandler where
  state := .established
  sendSequenceNumber := 63
  lastReceivedSequenceNumber := 63
  clientInfo := udpClient

theorem frame_beyond_wrap_rejected :
    (wrappingHandler.handleRequest (SequenceLayerHeader.bytes ⟨63, .connectionValid, 1,
        .connectionValid⟩) octetDictionary 0 ({} : DefaultSdoHandler)) =
      ⟨.error (.sdoSequenceError "SDO sequence number mismatch."), wrappingHandler,
        octetDictionary, {}⟩ := by
  apply out_of_window.1 wrappingHandler _ ⟨63, .connectionValid, 1, .connectionValid⟩
  · rfl
  · rfl
  · decide
  · decide
  · decide

end Powerlink
