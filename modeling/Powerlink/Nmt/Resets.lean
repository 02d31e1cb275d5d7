import Powerlink.Nmt.CnStateMachine
import Powerlink.Od.Typing

/-! # Resets and the dictionary

What an NMT event does to the dictionary, for both state machines.  `publish` is the write of the
current state to `0x1F8C`, and `resetOd` the part of a reset that restores power-on values; every
event comes to `resetOd` followed by some publications (`processEvent_od`).

* `published_state`: where `0x1F8C` is and stays an `UNSIGNED8`, it shows the current state after
  every event, although a reset of the communication area restores its power-on value.
* `reset_scope_iff`: a reset changes what its scope allows and restores every variable in it; it
  keeps the types exactly if the restored values have them. -/

namespace Powerlink

namespace ObjectDictionary

variable {σ : Type} {od : ObjectDictionary σ}

/-! ### The published state -/

/-- `update_od_state` for a given state. -/
def publish (od : ObjectDictionary σ) (state : NmtState) : ObjectDictionary σ :=
  (od.writeInternal 0x1F8C 0 (.unsigned8 state.toByte) false).2

/-- The types of an entry and its default. -/
def entryTypes (entry : ObjectEntry) : ObjectTypes × Option ObjectValue :=
  (entry.object.types, entry.defaultValue)

/-- The types and the default of the object at an index. -/
def entryTypesAt (od : ObjectDictionary σ) (index : UInt16) :
    Option (ObjectTypes × Option ObjectValue) :=
  (od.entries.get? index).map entryTypes

theorem publish_storage (od : ObjectDictionary σ) (state : NmtState) :
    (od.publish state).storage = od.storage := by
  unfold publish writeInternal
  split
  · rfl
  · split_ifs
    · rfl
    · split <;> rfl

theorem get?_publish (od : ObjectDictionary σ) (state : NmtState) {index : UInt16}
    (h : index ≠ 0x1F8C) : (od.publish state).entries.get? index = od.entries.get? index := by
  unfold publish writeInternal
  split
  · rfl
  · split_ifs
    · rfl
    · split
      · rfl
      · exact (SortedMap.get?_modify _ _ _ _).trans (if_neg h)

theorem entryTypesAt_publish (od : ObjectDictionary σ) (state : NmtState) (index : UInt16) :
    (od.publish state).entryTypesAt index = od.entryTypesAt index := by
  unfold publish writeInternal
  split
  · rfl
  · rename_i entry hentry
    split_ifs
    · rfl
    · split
      · rfl
      · rename_i object hobject
        unfold entryTypesAt
        dsimp only
        rw [SortedMap.get?_modify]
        split_ifs with h
        · subst h
          rw [hentry]
          refine congrArg some (Prod.ext ?_ rfl)
          exact writeObject_types hobject
        · rfl

/-- Several publications. -/
def publishAll (od : ObjectDictionary σ) (states : List NmtState) : ObjectDictionary σ :=
  states.foldl publish od

/-! ### One object in a reset -/

/-- The object is left alone, up to the published state. -/
structure KeptAt (index : UInt16) (od d : ObjectDictionary σ) : Prop where
  entry : index ≠ 0x1F8C → d.entries.get? index = od.entries.get? index
  types : d.entryTypesAt index = od.entryTypesAt index

/-- The object gets its power-on value, up to the published state. -/
structure RestoredAt (stored : Option StoredParams) (index : UInt16)
    (od d : ObjectDictionary σ) : Prop where
  entry : index ≠ 0x1F8C →
    d.entries.get? index = (od.entries.get? index).map (powerOnEntry stored index)
  types : ∀ entry, od.entries.get? index = some entry →
    (d.typesAt index = some entry.object.types ↔ PowerOnTyped stored index entry)
  missing : od.typesAt index = none → d.typesAt index = none

theorem typesAt_eq (od : ObjectDictionary σ) (index : UInt16) :
    od.typesAt index = (od.entryTypesAt index).map Prod.fst := by
  unfold typesAt readObject entryTypesAt
  rw [Option.map_map, Option.map_map]
  rfl

namespace KeptAt

variable {index : UInt16} {d e : ObjectDictionary σ}

theorem refl (index : UInt16) (od : ObjectDictionary σ) : KeptAt index od od := ⟨fun _ => rfl, rfl⟩

theorem trans (h : KeptAt index od d) (h' : KeptAt index d e) : KeptAt index od e :=
  ⟨fun hne => (h'.entry hne).trans (h.entry hne), h'.types.trans h.types⟩

theorem typesAt (h : KeptAt index od d) : d.typesAt index = od.typesAt index := by
  rw [typesAt_eq, typesAt_eq, h.types]

theorem publish (index : UInt16) (od : ObjectDictionary σ) (state : NmtState) :
    KeptAt index od (od.publish state) :=
  ⟨od.get?_publish state, od.entryTypesAt_publish state index⟩

theorem publishAll (index : UInt16) (states : List NmtState) :
    ∀ od : ObjectDictionary σ, KeptAt index od (od.publishAll states) := by
  induction states with
  | nil => exact KeptAt.refl index
  | cons state states ih => exact fun od => (KeptAt.publish index od state).trans (ih _)

/-- The entry before a step has the types and the default of the entry behind it. -/
theorem exists_entry (h : KeptAt index od d) {entry : ObjectEntry}
    (hentry : od.entries.get? index = some entry) :
    ∃ entry', d.entries.get? index = some entry' ∧ entryTypes entry' = entryTypes entry := by
  have htypes := h.types
  unfold entryTypesAt at htypes
  rw [hentry, Option.map_some] at htypes
  exact Option.map_eq_some_iff.mp htypes

end KeptAt

/-- The condition on the restored values depends on the types of the entry only. -/
theorem powerOnTyped_congr {stored : Option StoredParams} {index : UInt16}
    {entry entry' : ObjectEntry} (h : entryTypes entry' = entryTypes entry) :
    PowerOnTyped stored index entry' ↔ PowerOnTyped stored index entry := by
  obtain ⟨htypes, hdefault⟩ := Prod.mk.inj h
  have helements : ∀ {values values' : List ObjectValue},
      values'.map ObjectValue.discriminant = values.map ObjectValue.discriminant →
      (∀ i value v, values[i]? = some value →
        stored.bind (fun params => params.get? (index, UInt8.ofNat (i + 1))) = some v →
        v.discriminant = value.discriminant) →
      ∀ i value v, values'[i]? = some value →
        stored.bind (fun params => params.get? (index, UInt8.ofNat (i + 1))) = some v →
        v.discriminant = value.discriminant := by
    intro values values' hvalues htyped i value' v hvalue' hv
    have hi := congrArg (fun l => l[i]?) hvalues
    simp only [List.getElem?_map, hvalue', Option.map_some] at hi
    obtain ⟨value, hvalue, htype⟩ := Option.map_eq_some_iff.mp hi.symm
    exact (htyped i value v hvalue hv).trans htype
  unfold PowerOnTyped
  rcases hobject : entry.object with value | values | values <;>
    rcases hobject' : entry'.object with value' | values' | values' <;>
    rw [hobject, hobject'] at htypes <;>
    simp only [Object.types, ObjectTypes.variable.injEq, ObjectTypes.array.injEq,
      ObjectTypes.record.injEq, reduceCtorEq] at htypes
  · simp only [htypes, hdefault]
  · exact ⟨helements htypes.symm, helements htypes⟩
  · exact ⟨helements htypes.symm, helements htypes⟩

namespace RestoredAt

variable {stored : Option StoredParams} {index : UInt16} {d e : ObjectDictionary σ}

theorem after (hkept : KeptAt index od d) (h : RestoredAt stored index d e) :
    RestoredAt stored index od e where
  entry hne := by rw [h.entry hne, hkept.entry hne]
  types entry hentry := by
    obtain ⟨entry', hentry', htypes⟩ := hkept.exists_entry hentry
    have hobject : entry'.object.types = entry.object.types := congrArg Prod.fst htypes
    rw [← hobject, h.types entry' hentry', powerOnTyped_congr htypes]
  missing hnone := h.missing (hkept.typesAt.trans hnone)

theorem kept (h : RestoredAt stored index od d) (hkept : KeptAt index d e) :
    RestoredAt stored index od e where
  entry hne := by rw [hkept.entry hne, h.entry hne]
  types entry hentry := by rw [hkept.typesAt, h.types entry hentry]
  missing hnone := hkept.typesAt.trans (h.missing hnone)

end RestoredAt

section loads

variable [ObjectDictionaryStorage σ]

theorem keptAt_restorePowerOnValues (od : ObjectDictionary σ) (startIndex endIndex : UInt16)
    {index : UInt16} (h : index < startIndex ∨ endIndex < index ∨ index = 0x1003) :
    KeptAt index od (od.restorePowerOnValues startIndex endIndex) where
  entry _ := od.get?_restorePowerOnValues_outside h
  types := congrArg (Option.map entryTypes) (od.get?_restorePowerOnValues_outside h)

theorem restoredAt_restorePowerOnValues (od : ObjectDictionary σ)
    {startIndex endIndex index : UInt16} (hstart : startIndex ≤ index) (hend : index ≤ endIndex)
    (hhistory : index ≠ 0x1003) :
    RestoredAt od.loadStored.1 index od (od.restorePowerOnValues startIndex endIndex) := by
  have hget := od.get?_restorePowerOnValues_inside hstart hend hhistory
  refine ⟨fun _ => hget, ?_, ?_⟩
  · intro entry hentry
    rw [hentry, Option.map_some] at hget
    rw [typesAt_of_get? hget, Option.some.injEq]
    exact powerOnEntry_types_iff _ _ _
  · intro hnone
    unfold typesAt readObject at hnone ⊢
    rw [Option.map_eq_none_iff, Option.map_eq_none_iff] at hnone
    rw [hget, hnone]
    rfl

/-- What the backend returns when it is loaded for the `n`-th time, counted from zero. -/
def loaded (od : ObjectDictionary σ) : ℕ → Option StoredParams
  | 0 => od.loadStored.1
  | n + 1 => loaded { od with storage := od.loadStored.2 } n

theorem loadStored_congr {d : ObjectDictionary σ} (h : d.storage = od.storage) :
    d.loadStored = od.loadStored := by
  unfold loadStored
  rw [h]

theorem loaded_congr (n : ℕ) : ∀ {od d : ObjectDictionary σ}, d.storage = od.storage →
    d.loaded n = od.loaded n := by
  induction n with
  | zero => exact fun h => congrArg Prod.fst (loadStored_congr h)
  | succ n ih => exact fun h => ih (congrArg Prod.snd (loadStored_congr h))

theorem loadStored_of_storage_none (h : od.storage = none) : od.loadStored = (none, none) := by
  unfold loadStored
  rw [h]

/-- Without a backend nothing is loaded. -/
theorem loaded_of_storage_none (h : od.storage = none) (n : ℕ) : od.loaded n = none := by
  induction n generalizing od with
  | zero => rw [loaded, loadStored_of_storage_none h]
  | succ n ih => exact ih (congrArg Prod.snd (loadStored_of_storage_none h))

theorem loaded_restorePowerOnValues (od : ObjectDictionary σ) (startIndex endIndex : UInt16)
    (n : ℕ) : (od.restorePowerOnValues startIndex endIndex).loaded n = od.loaded (n + 1) :=
  loaded_congr n rfl

/-- The sub-state `NMT_GS_RESET_APPLICATION` in the dictionary. -/
def resetApplicationOd (od : ObjectDictionary σ) : ObjectDictionary σ :=
  ((od.publish .nmtGsResetApplication).restorePowerOnValues 0x2000 0x5FFF).restorePowerOnValues
    0x6000 0x9FFF

/-- The sub-state `NMT_GS_RESET_COMMUNICATION` in the dictionary. -/
def resetCommunicationOd (od : ObjectDictionary σ) : ObjectDictionary σ :=
  (od.publish .nmtGsResetCommunication).restorePowerOnValues 0x1000 0x1FFF

/-- A reset in the dictionary, without the publications behind the last restore. -/
def resetOd (od : ObjectDictionary σ) : NmtEvent → ObjectDictionary σ
  | .reset | .swReset => (od.publish .nmtGsInitialising).resetApplicationOd.resetCommunicationOd
  | .resetNode => od.resetApplicationOd.resetCommunicationOd
  | .resetCommunication => od.resetCommunicationOd
  | _ => od

theorem loaded_publish (od : ObjectDictionary σ) (state : NmtState) (n : ℕ) :
    (od.publish state).loaded n = od.loaded n :=
  loaded_congr n (od.publish_storage state)

theorem loaded_resetApplicationOd (od : ObjectDictionary σ) (n : ℕ) :
    od.resetApplicationOd.loaded n = od.loaded (n + 2) := by
  unfold resetApplicationOd
  rw [loaded_restorePowerOnValues, loaded_restorePowerOnValues, loaded_publish]

/-! ### The areas of a reset -/

section areas

variable (od) {index : UInt16}

theorem resetApplicationOd_kept (h : index < 0x2000 ∨ 0x9FFF < index) :
    KeptAt index od od.resetApplicationOd := by
  refine ((KeptAt.publish index od _).trans (keptAt_restorePowerOnValues _ _ _ ?_)).trans
    (keptAt_restorePowerOnValues _ _ _ ?_)
  · obtain h | h := h
    · exact .inl h
    · exact .inr (.inl (UInt16.lt_trans (by decide) h))
  · obtain h | h := h
    · exact .inl (UInt16.lt_trans h (by decide))
    · exact .inr (.inl h)

theorem resetApplicationOd_manufacturer (hstart : 0x2000 ≤ index) (hend : index ≤ 0x5FFF) :
    RestoredAt (od.loaded 0) index od od.resetApplicationOd := by
  have hhistory : index ≠ 0x1003 := by
    rintro rfl
    exact absurd hstart (by decide)
  have hrestored := (od.publish .nmtGsResetApplication).restoredAt_restorePowerOnValues hstart hend
    hhistory
  rw [loadStored_congr (od.publish_storage _)] at hrestored
  refine ((hrestored.after (KeptAt.publish index od _))).kept (keptAt_restorePowerOnValues _ _ _ ?_)
  exact .inl (UInt16.lt_of_le_of_lt hend (by decide))

theorem resetApplicationOd_device (hstart : 0x6000 ≤ index) (hend : index ≤ 0x9FFF) :
    RestoredAt (od.loaded 1) index od od.resetApplicationOd := by
  have hhistory : index ≠ 0x1003 := by
    rintro rfl
    exact absurd hstart (by decide)
  have hkept := (KeptAt.publish index od .nmtGsResetApplication).trans
    (keptAt_restorePowerOnValues _ 0x2000 0x5FFF
      (.inr (.inl (UInt16.lt_of_lt_of_le (by decide) hstart))))
  have hrestored := ((od.publish .nmtGsResetApplication).restorePowerOnValues 0x2000
    0x5FFF).restoredAt_restorePowerOnValues hstart hend hhistory
  have hloaded := loaded_restorePowerOnValues (od.publish .nmtGsResetApplication) 0x2000 0x5FFF 0
  rw [loaded_publish] at hloaded
  rw [← hloaded]
  exact hrestored.after hkept

theorem resetCommunicationOd_kept (h : index < 0x1000 ∨ 0x1FFF < index ∨ index = 0x1003) :
    KeptAt index od od.resetCommunicationOd :=
  (KeptAt.publish index od _).trans (keptAt_restorePowerOnValues _ _ _ h)

theorem resetCommunicationOd_restored (hstart : 0x1000 ≤ index) (hend : index ≤ 0x1FFF)
    (hhistory : index ≠ 0x1003) : RestoredAt (od.loaded 0) index od od.resetCommunicationOd := by
  have hrestored := (od.publish .nmtGsResetCommunication).restoredAt_restorePowerOnValues hstart hend
    hhistory
  rw [loadStored_congr (od.publish_storage _)] at hrestored
  exact hrestored.after (KeptAt.publish index od _)

end areas

end loads

end ObjectDictionary

/-! ### The scope of a reset -/

/-- The objects that a reset may restore. -/
def NmtEvent.InScope : NmtEvent → UInt16 → Prop
  | .reset, index | .swReset, index | .resetNode, index => 0x1000 ≤ index ∧ index ≤ 0x9FFF
  | .resetCommunication, index => 0x1000 ≤ index ∧ index ≤ 0x1FFF
  | _, _ => False

/-- A reset of the application loads the backend for each of its three areas; the communication
area is the last one. -/
def NmtEvent.loadsBefore : NmtEvent → UInt16 → ℕ
  | .reset, index | .swReset, index | .resetNode, index =>
      if index ≤ 0x1FFF then 2 else if index ≤ 0x5FFF then 0 else 1
  | _, _ => 0

namespace ObjectDictionary

variable {σ : Type} [ObjectDictionaryStorage σ] (od : ObjectDictionary σ) {index : UInt16}

omit [ObjectDictionaryStorage σ] in
/-- The next area begins behind the last index of an area. -/
theorem le_of_not_le {last first : UInt16} (hnext : first.toNat = last.toNat + 1)
    (h : ¬ index ≤ last) : first ≤ index := by
  rw [UInt16.le_iff_toNat_le] at h ⊢
  omega

theorem resetNode_restored (hscope : NmtEvent.resetNode.InScope index) (hhistory : index ≠ 0x1003) :
    RestoredAt (od.loaded (NmtEvent.resetNode.loadsBefore index)) index od
      od.resetApplicationOd.resetCommunicationOd := by
  obtain ⟨hstart, hend⟩ := hscope
  dsimp only [NmtEvent.loadsBefore]
  by_cases hcommunication : index ≤ 0x1FFF
  · rw [if_pos hcommunication]
    have hrestored := od.resetApplicationOd.resetCommunicationOd_restored hstart hcommunication
      hhistory
    rw [loaded_resetApplicationOd] at hrestored
    exact hrestored.after (od.resetApplicationOd_kept
      (.inl (UInt16.lt_of_le_of_lt hcommunication (by decide))))
  · rw [if_neg hcommunication]
    have hkept : KeptAt index od.resetApplicationOd od.resetApplicationOd.resetCommunicationOd :=
      resetCommunicationOd_kept _ (.inr (.inl (UInt16.not_le.mp hcommunication)))
    by_cases hmanufacturer : index ≤ 0x5FFF
    · rw [if_pos hmanufacturer]
      exact (od.resetApplicationOd_manufacturer (le_of_not_le rfl hcommunication)
        hmanufacturer).kept hkept
    · rw [if_neg hmanufacturer]
      exact (od.resetApplicationOd_device (le_of_not_le rfl hmanufacturer) hend).kept hkept

theorem resetNode_kept (h : ¬ NmtEvent.resetNode.InScope index ∨ index = 0x1003) :
    KeptAt index od od.resetApplicationOd.resetCommunicationOd := by
  have hcases : index < 0x1000 ∨ 0x9FFF < index ∨ index = 0x1003 := by
    obtain h | h := h
    · by_cases hstart : index < 0x1000
      · exact .inl hstart
      · refine .inr (.inl (UInt16.not_le.mp fun hend => h ⟨UInt16.not_lt.mp hstart, hend⟩))
    · exact .inr (.inr h)
  obtain h | h | h := hcases
  · exact (od.resetApplicationOd_kept (.inl (UInt16.lt_trans h (by decide)))).trans
      (resetCommunicationOd_kept _ (.inl h))
  · exact (od.resetApplicationOd_kept (.inr h)).trans
      (resetCommunicationOd_kept _ (.inr (.inl (UInt16.lt_trans (by decide) h))))
  · refine (od.resetApplicationOd_kept (.inl ?_)).trans (resetCommunicationOd_kept _ (.inr (.inr h)))
    rw [h]
    decide

/-- An object in the scope of a reset gets its power-on value. -/
theorem resetOd_restored {event : NmtEvent} (hscope : event.InScope index)
    (hhistory : index ≠ 0x1003) :
    RestoredAt (od.loaded (event.loadsBefore index)) index od (od.resetOd event) := by
  have hinitialising : RestoredAt (od.loaded (NmtEvent.resetNode.loadsBefore index)) index od
        (od.publish .nmtGsInitialising).resetApplicationOd.resetCommunicationOd ∨
      ¬ NmtEvent.resetNode.InScope index := by
    by_cases h : NmtEvent.resetNode.InScope index
    · have hrestored := (od.publish .nmtGsInitialising).resetNode_restored h hhistory
      rw [loaded_publish] at hrestored
      exact .inl (hrestored.after (KeptAt.publish index od _))
    · exact .inr h
  cases event with
  | reset => exact hinitialising.resolve_right (not_not.mpr hscope)
  | swReset => exact hinitialising.resolve_right (not_not.mpr hscope)
  | resetNode => exact od.resetNode_restored hscope hhistory
  | resetCommunication => exact od.resetCommunicationOd_restored hscope.1 hscope.2 hhistory
  | _ => exact hscope.elim

/-- The other objects, and the error history, are left alone. -/
theorem resetOd_kept {event : NmtEvent} (h : ¬ event.InScope index ∨ index = 0x1003) :
    KeptAt index od (od.resetOd event) := by
  have hinitialising : ¬ NmtEvent.resetNode.InScope index ∨ index = 0x1003 →
      KeptAt index od (od.publish .nmtGsInitialising).resetApplicationOd.resetCommunicationOd :=
    fun h => (KeptAt.publish index od _).trans (resetNode_kept _ h)
  cases event with
  | reset => exact hinitialising h
  | swReset => exact hinitialising h
  | resetNode => exact od.resetNode_kept h
  | resetCommunication =>
      refine od.resetCommunicationOd_kept ?_
      obtain h | h := h
      · by_cases hstart : index < 0x1000
        · exact .inl hstart
        · exact .inr (.inl (UInt16.not_le.mp fun hend => h ⟨UInt16.not_lt.mp hstart, hend⟩))
      · exact .inr (.inr h)
  | _ => exact KeptAt.refl index od

end ObjectDictionary

/-! ### The events of the state machines -/

section machines

variable {σ : Type} [ObjectDictionaryStorage σ]

/-- What an event does to the dictionary: nothing, or a reset and some publications, of which the
last one is that of the state that the machine is in. -/
def EventOd (od : ObjectDictionary σ) (event : NmtEvent) (state : NmtState)
    (d : ObjectDictionary σ) : Prop :=
  ∃ states, d = ((od.resetOd event).publishAll states).publish state

/-- The reset sequence of the trait, for a machine that stores its state. -/
theorem NmtStateMachine.reset_od {μ : Type} [NmtStateMachine μ]
    (hset : ∀ (m : μ) state, currentState (setState m state) = state) (m : μ) (event : NmtEvent)
    (hreset : MnNmtStateMachine.isReset event = true) (od : ObjectDictionary σ) :
    currentState (reset m event od).1 = .nmtNotActive ∧
      (reset m event od).2 =
        ((od.resetOd event).publish .nmtGsResetConfiguration).publish .nmtNotActive := by
  have henter : ∀ (r : μ × ObjectDictionary σ) state,
      enter r state = (setState r.1 state, r.2.publish state) := by
    intro r state
    dsimp only [enter, updateOdState]
    rw [hset]
    rfl
  cases event with
  | reset | swReset | resetNode | resetCommunication | resetConfiguration =>
      simp only [reset, resetConfiguration, resetCommunication, resetApplication, henter, hset]
      exact ⟨trivial, rfl⟩
  | _ => cases hreset

/-- `process_event`, for the state that the transition table gives. -/
def NmtStateMachine.eventStep {μ : Type} [NmtStateMachine μ] (m : μ) (event : NmtEvent)
    (next : NmtState) (od : ObjectDictionary σ) : μ × ObjectDictionary σ :=
  if MnNmtStateMachine.isReset event then
    let r := reset m event od
    if currentState m ≠ currentState r.1 then (r.1, updateOdState r.1 r.2) else r
  else if currentState m ≠ next then enter (m, od) next
  else (m, od)

theorem NmtStateMachine.eventStep_od {μ : Type} [NmtStateMachine μ]
    (hset : ∀ (m : μ) state, currentState (setState m state) = state) (m : μ) (event : NmtEvent)
    (next : NmtState) (od : ObjectDictionary σ) :
    MnNmtStateMachine.isReset event = false ∧ eventStep m event next od = (m, od) ∨
      EventOd od event (currentState (eventStep m event next od).1)
        (eventStep m event next od).2 := by
  unfold eventStep
  by_cases hreset : MnNmtStateMachine.isReset event = true
  · obtain ⟨hstate, hod⟩ := reset_od hset m _ hreset od
    right
    rw [if_pos hreset]
    generalize reset m event od = r at hstate hod ⊢
    dsimp only
    split_ifs
    · refine ⟨[.nmtGsResetConfiguration, .nmtNotActive], ?_⟩
      rw [updateOdState, hod]
      rfl
    · refine ⟨[.nmtGsResetConfiguration], ?_⟩
      rw [hod, hstate]
      rfl
  · rw [if_neg hreset]
    have hod : od.resetOd event = od := by
      cases event with
      | reset | swReset | resetNode | resetCommunication => exact absurd rfl hreset
      | _ => rfl
    split_ifs
    · refine .inr ⟨[], ?_⟩
      rw [hod]
      rfl
    · exact .inl ⟨Bool.eq_false_iff.mpr hreset, rfl⟩

theorem CnNmtStateMachine.processEvent_od (m : CnNmtStateMachine) (event : NmtEvent)
    (od : ObjectDictionary σ) :
    MnNmtStateMachine.isReset event = false ∧ m.processEvent event od = (m, od) ∨
      EventOd od event (m.processEvent event od).1.currentState (m.processEvent event od).2 :=
  NmtStateMachine.eventStep_od (fun _ _ => rfl) m event (nextState m.currentState event) od

theorem MnNmtStateMachine.processEvent_od (m : MnNmtStateMachine) (event : NmtEvent)
    (od : ObjectDictionary σ) :
    isReset event = false ∧ m.processEvent event od = (m, od) ∨
      EventOd od event (m.processEvent event od).1.currentState (m.processEvent event od).2 := by
  have hstep := NmtStateMachine.eventStep_od (fun _ _ => rfl) m event (m.nextState event) od
  unfold NmtStateMachine.eventStep at hstep
  unfold processEvent
  rw [reset_eq]
  exact hstep

end machines

/-! ### The current state -/

namespace ObjectDictionary

variable {σ : Type} [ObjectDictionaryStorage σ] {od : ObjectDictionary σ}

/-- `0x1F8C` is a variable of type `UNSIGNED8`, and so are its default and every value that the
backend returns for it. -/
structure StateObject (od : ObjectDictionary σ) : Prop where
  entry : ∃ entry v, od.entries.get? 0x1F8C = some entry ∧ entry.object = .variable (.unsigned8 v) ∧
    ∀ default, entry.defaultValue = some default → ∃ v, default = .unsigned8 v
  stored : ∀ n params value, od.loaded n = some params → params.get? (0x1F8C, 0) = some value →
    ∃ v, value = .unsigned8 v

theorem StateObject.publish (h : od.StateObject) (state : NmtState) :
    (od.publish state).StateObject ∧ (od.publish state).readU8 0x1F8C 0 = some state.toByte := by
  obtain ⟨entry, v, hentry, hobject, hdefault⟩ := h.entry
  have hwrite : writeObject 0x1F8C 0 (.unsigned8 state.toByte) entry.object =
      .ok (.variable (.unsigned8 state.toByte)) := by
    rw [hobject]
    rfl
  have hget : (od.publish state).entries.get? 0x1F8C =
      some { entry with object := .variable (.unsigned8 state.toByte) } := by
    unfold ObjectDictionary.publish writeInternal
    rw [hentry]
    simp only [Bool.false_and, Bool.false_eq_true, if_false, hwrite]
    rw [SortedMap.get?_modify, if_pos rfl, hentry]
    rfl
  refine ⟨⟨⟨_, _, hget, rfl, hdefault⟩, ?_⟩, ?_⟩
  · intro n params value hparams
    rw [loaded_publish] at hparams
    exact h.stored n params value hparams
  · unfold readU8 read
    rw [hget]
    rfl

theorem StateObject.publishAll (states : List NmtState) :
    ∀ {od : ObjectDictionary σ}, od.StateObject → (od.publishAll states).StateObject := by
  induction states with
  | nil => exact fun h => h
  | cons state states ih => exact fun h => ih (h.publish state).1

theorem StateObject.restorePowerOnValues (h : od.StateObject) (startIndex endIndex : UInt16) :
    (od.restorePowerOnValues startIndex endIndex).StateObject := by
  obtain ⟨entry, v, hentry, hobject, hdefault⟩ := h.entry
  refine ⟨?_, fun n params value hparams => ?_⟩
  · have hget := od.get?_restorePowerOnValues startIndex endIndex 0x1F8C
    rw [hentry, Option.map_some] at hget
    split_ifs at hget
    · exact ⟨entry, v, hget, hobject, hdefault⟩
    · have hvalue : ∃ v', powerOnVariable od.loadStored.1 entry.defaultValue 0x1F8C (.unsigned8 v) =
          .unsigned8 v' := by
        unfold powerOnVariable
        cases hstored : od.loadStored.1.bind (fun params => params.get? (0x1F8C, 0)) with
        | some value =>
            obtain ⟨params, hparams, hvalue⟩ := Option.bind_eq_some_iff.mp hstored
            exact h.stored 0 params value hparams hvalue
        | none =>
            cases hdef : entry.defaultValue with
            | none => exact ⟨v, rfl⟩
            | some default => exact hdefault default hdef
      obtain ⟨v', hv'⟩ := hvalue
      refine ⟨_, v', hget, ?_, ?_⟩
      · simp only [powerOnEntry, hobject, hv']
      · intro default hdef
        simp only [powerOnEntry, hobject] at hdef
        exact hdefault default hdef
  · rw [loaded_restorePowerOnValues] at hparams
    exact h.stored (n + 1) params value hparams

theorem StateObject.resetOd (h : od.StateObject) (event : NmtEvent) :
    (od.resetOd event).StateObject := by
  have happlication : ∀ {d : ObjectDictionary σ}, d.StateObject → d.resetApplicationOd.StateObject :=
    fun hd => ((hd.publish _).1.restorePowerOnValues _ _).restorePowerOnValues _ _
  have hcommunication : ∀ {d : ObjectDictionary σ}, d.StateObject →
      d.resetCommunicationOd.StateObject :=
    fun hd => (hd.publish _).1.restorePowerOnValues _ _
  cases event with
  | reset => exact hcommunication (happlication (h.publish _).1)
  | swReset => exact hcommunication (happlication (h.publish _).1)
  | resetNode => exact hcommunication (happlication h)
  | resetCommunication => exact hcommunication h
  | _ => exact h

/-- After a reset or a transition the state object shows the state. -/
theorem StateObject.eventOd {d : ObjectDictionary σ} (h : od.StateObject) {event : NmtEvent}
    {state : NmtState} (hevent : EventOd od event state d) :
    d.StateObject ∧ d.readU8 0x1F8C 0 = some state.toByte := by
  obtain ⟨states, rfl⟩ := hevent
  exact ((h.resetOd event).publishAll states).publish state

end ObjectDictionary

section published

variable {σ : Type} [ObjectDictionaryStorage σ]

/-- `0x1F8C` shows the state. -/
def Published (state : NmtState) (od : ObjectDictionary σ) : Prop :=
  od.readU8 0x1F8C 0 = some state.toByte

/-- The start-up sequence ends with a publication. -/
theorem NmtStateMachine.published_runInternalInitialisation {μ : Type} [NmtStateMachine μ]
    (hset : ∀ (m : μ) state, currentState (setState m state) = state) {m : μ}
    (hm : currentState m = .nmtGsInitialising) {od : ObjectDictionary σ} (h : od.StateObject) :
    (runInternalInitialisation m od).2.StateObject ∧
      Published (currentState (runInternalInitialisation m od).1)
        (runInternalInitialisation m od).2 := by
  unfold runInternalInitialisation
  rw [if_neg (not_not.mpr hm)]
  obtain ⟨hstate, hod⟩ := reset_od hset m .swReset rfl od
  rw [hstate, hod]
  exact ((h.resetOd .swReset).publish _).1.publish _

/-- The invariant of a machine whose events publish the state that they lead to. -/
theorem NmtStateMachine.published_run {μ : Type} [NmtStateMachine μ]
    (hset : ∀ (m : μ) state, currentState (setState m state) = state)
    {process : μ → NmtEvent → ObjectDictionary σ → μ × ObjectDictionary σ}
    (hprocess : ∀ m event od, process m event od = (m, od) ∨
      EventOd od event (currentState (process m event od).1) (process m event od).2) {m : μ}
    (hm : currentState m = .nmtGsInitialising) {od : ObjectDictionary σ} (h : od.StateObject)
    (events : List NmtEvent) :
    Runs.Always (fun r event => process r.1 event r.2) (fun r => Published (currentState r.1) r.2)
      (runInternalInitialisation m od) events := by
  have hstep : ∀ (r : μ × ObjectDictionary σ) event,
      r.2.StateObject ∧ Published (currentState r.1) r.2 →
      (process r.1 event r.2).2.StateObject ∧
        Published (currentState (process r.1 event r.2).1) (process r.1 event r.2).2 := by
    intro r event hr
    obtain heq | hevent := hprocess r.1 event r.2
    · rw [heq]
      exact hr
    · exact hr.1.eventOd hevent
  have hstart := published_runInternalInitialisation hset hm h
  exact (Runs.always_of_step hstep events hstart).mono (fun _ hr => hr.2)

theorem published_state {od : ObjectDictionary σ} (h : od.StateObject) (events : List NmtEvent) :
    (∀ m : CnNmtStateMachine, m.currentState = .nmtGsInitialising →
      Runs.Always (fun r event => r.1.processEvent event r.2)
        (fun r => Published r.1.currentState r.2)
        (NmtStateMachine.runInternalInitialisation m od) events) ∧
    ∀ m : MnNmtStateMachine, m.currentState = .nmtGsInitialising →
      Runs.Always (fun r event => r.1.processEvent event r.2)
        (fun r => Published r.1.currentState r.2) (m.runInternalInitialisation od) events := by
  constructor
  · intro m hm
    refine NmtStateMachine.published_run (fun _ _ => rfl) ?_ hm h events
    exact fun m event od => (m.processEvent_od event od).imp_left And.right
  · intro m hm
    have hstart : m.runInternalInitialisation od = NmtStateMachine.runInternalInitialisation m od := by
      unfold MnNmtStateMachine.runInternalInitialisation NmtStateMachine.runInternalInitialisation
      rw [MnNmtStateMachine.reset_eq]
      rfl
    rw [hstart]
    refine NmtStateMachine.published_run (fun _ _ => rfl) ?_ hm h events
    exact fun m event od => (m.processEvent_od event od).imp_left And.right

/-- The dictionary of a node without storage, as `init` leaves it. -/
def populatedDictionary : ObjectDictionary Empty :=
  (ObjectDictionary.new none).populateProtocolObjects

/-- The protocol object `0x1F8C` is a state object. -/
theorem published_state_populated :
    Runs.Always (fun (r : CnNmtStateMachine × ObjectDictionary Empty) event =>
        r.1.processEvent event r.2)
      (fun r => Published r.1.currentState r.2)
      (NmtStateMachine.runInternalInitialisation
        (⟨.nmtGsInitialising, ⟨1⟩, 0, 0⟩ : CnNmtStateMachine) populatedDictionary)
      [.socReceived, .socReceived, .resetCommunication] := by
  have hstate : populatedDictionary.StateObject := by
    refine ⟨⟨⟨.variable (.unsigned8 0), "NMT_CurrNMTState_U8", some .readOnly,
      some (.unsigned8 0)⟩, 0, by decide, rfl, ?_⟩, ?_⟩
    · intro default hdefault
      exact ⟨0, (Option.some.inj hdefault).symm⟩
    · intro n params value hparams
      rw [ObjectDictionary.loaded_of_storage_none rfl] at hparams
      cases hparams
  exact (published_state hstate _).1 _ rfl

end published

/-! ### What a reset may change -/

section scope

variable {σ : Type} [ObjectDictionaryStorage σ]

/-- The scope of a reset: outside of it only the published state changes, the error history stays as it is,
every object keeps its kind, its number of elements and its types, and every variable inside gets
the stored value, else the default, else stays as it is. -/
structure ResetScope (event : NmtEvent) (od d : ObjectDictionary σ) : Prop where
  outside : ∀ index, ¬ event.InScope index → index ≠ 0x1F8C →
    d.entries.get? index = od.entries.get? index
  history : d.entries.get? 0x1003 = od.entries.get? 0x1003
  types : ∀ index, d.typesAt index = od.typesAt index
  restored : ∀ index entry value, event.InScope index → index ≠ 0x1003 → index ≠ 0x1F8C →
    od.entries.get? index = some entry → entry.object = .variable value →
    d.readObject index = some (.variable
      (match (od.loaded (event.loadsBefore index)).bind (fun params => params.get? (index, 0)) with
      | some stored => stored
      | none => entry.defaultValue.getD value))

/-- The values that a reset restores have the types of the ones that they replace. -/
def ResetTyped (event : NmtEvent) (od : ObjectDictionary σ) : Prop :=
  ∀ index entry, event.InScope index → index ≠ 0x1003 → od.entries.get? index = some entry →
    ObjectDictionary.PowerOnTyped (od.loaded (event.loadsBefore index)) index entry

/-- The scope of a reset that is followed by publications. -/
theorem resetScope_publishAll_iff (event : NmtEvent) (od : ObjectDictionary σ)
    (states : List NmtState) :
    ResetScope event od ((od.resetOd event).publishAll states) ↔ ResetTyped event od := by
  have hkept : ∀ index, ¬ event.InScope index ∨ index = 0x1003 →
      od.KeptAt index ((od.resetOd event).publishAll states) :=
    fun index h => (od.resetOd_kept h).trans (.publishAll index states _)
  have hrestored : ∀ index, event.InScope index → index ≠ 0x1003 →
      od.RestoredAt (od.loaded (event.loadsBefore index)) index
        ((od.resetOd event).publishAll states) :=
    fun index h hne => (od.resetOd_restored h hne).kept (.publishAll index states _)
  generalize (od.resetOd event).publishAll states = d at hkept hrestored ⊢
  constructor
  · intro h index entry hscope hne hentry
    refine ((hrestored index hscope hne).types entry hentry).mp ?_
    rw [h.types, ObjectDictionary.typesAt_of_get? hentry]
  · intro h
    refine ⟨fun index hscope hne => (hkept index (.inl hscope)).entry hne,
      (hkept 0x1003 (.inr rfl)).entry (by decide), ?_, ?_⟩
    · intro index
      by_cases hin : event.InScope index ∧ index ≠ 0x1003
      · cases hentry : od.entries.get? index with
        | some entry =>
            rw [ObjectDictionary.typesAt_of_get? hentry]
            exact ((hrestored index hin.1 hin.2).types entry hentry).mpr
              (h index entry hin.1 hin.2 hentry)
        | none =>
            have hnone : od.typesAt index = none := by
              unfold ObjectDictionary.typesAt ObjectDictionary.readObject
              rw [hentry]
              rfl
            rw [hnone]
            exact (hrestored index hin.1 hin.2).missing hnone
      · refine (hkept index ?_).typesAt
        rwa [not_and_or, not_not] at hin
    · intro index entry value hscope hne hstate hentry hobject
      have hget := (hrestored index hscope hne).entry hstate
      rw [hentry, Option.map_some] at hget
      unfold ObjectDictionary.readObject
      rw [hget, Option.map_some]
      unfold ObjectDictionary.powerOnEntry
      dsimp only
      rw [hobject]
      rfl

theorem reset_scope_iff (event : NmtEvent) (od : ObjectDictionary σ) :
    (∀ m : CnNmtStateMachine,
      ResetScope event od (m.processEvent event od).2 ↔ ResetTyped event od) ∧
    ∀ m : MnNmtStateMachine,
      ResetScope event od (m.processEvent event od).2 ↔ ResetTyped event od := by
  have hevent : ∀ {state : NmtState} {d : ObjectDictionary σ}, EventOd od event state d →
      (ResetScope event od d ↔ ResetTyped event od) := by
    rintro state d ⟨states, rfl⟩
    have hiff := resetScope_publishAll_iff event od (states ++ [state])
    unfold ObjectDictionary.publishAll at hiff ⊢
    rwa [List.foldl_append] at hiff
  have hidle : MnNmtStateMachine.isReset event = false →
      (ResetScope event od od ↔ ResetTyped event od) := by
    intro hreset
    have hiff := resetScope_publishAll_iff event od []
    cases event with
    | reset | swReset | resetNode | resetCommunication => cases hreset
    | _ => exact hiff
  constructor
  · intro m
    obtain ⟨hreset, heq⟩ | h := m.processEvent_od event od
    · rw [heq]
      exact hidle hreset
    · exact hevent h
  · intro m
    obtain ⟨hreset, heq⟩ | h := m.processEvent_od event od
    · rw [heq]
      exact hidle hreset
    · exact hevent h

/-- ResetNode gives a variable the type of its default. -/
theorem reset_node_changes_type :
    ¬ ResetScope .resetNode ObjectDictionary.mistypedDefault
      ((⟨.nmtOperational, ⟨1⟩, 0, 0⟩ : CnNmtStateMachine).processEvent .resetNode
        ObjectDictionary.mistypedDefault).2 := by
  intro h
  have htypes := h.types 0x2000
  revert htypes
  decide

end scope

end Powerlink
