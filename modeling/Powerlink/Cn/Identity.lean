import Powerlink.Cn.IdentPayload
import Powerlink.Cn.OdCauses
import Powerlink.Od.Defaults

/-! # The identity of a controlled node

A managing node knows a controlled node by the device type and the identity object of its
IdentResponse.  `FixedIdentity` is what an application has to provide for an identity that nothing on
the network can change: the two objects are read-only without a default, the RPDO mappings are empty,
and there is no storage.  `newCnDefault` is such a dictionary.

`frozen_call` is the step: none of the dictionary calls of a node changes a fixed object. -/

namespace Powerlink

open ObjectDictionary (OdCall)

/-- The identity that a dictionary has. -/
def ObjectDictionary.identity {σ : Type} (od : ObjectDictionary σ) : CnIdentity where
  deviceType := (od.readU32 0x1000 0).getD 0
  vendorId := (od.readU32 0x1018 1).getD 0
  productCode := (od.readU32 0x1018 2).getD 0
  revisionNo := (od.readU32 0x1018 3).getD 0
  serialNo := (od.readU32 0x1018 4).getD 0

namespace ServicePayloads.IdentResponsePayload

open LittleEndian Regions

theorem length_identResponse (r : IdentResponse) : r.serialize.length = 158 := by
  have hname : (r.hostName.toByteArray.data.toList.take 32).length ≤ 32 := List.length_take_le _ _
  unfold IdentResponse.serialize
  simp only [List.length_append, List.length_cons, List.length_nil, List.length_replicate,
    length_u32Bytes, length_u16Bytes]
  omega

/-- A managing node reads the identity that a controlled node has filled in. -/
theorem identity_of_serialize (r : IdentResponse) (hrs : r.rs.value.toNat < 8) :
    ∃ payload, Powerlink.IdentResponsePayload.deserialize r.serialize = .ok payload ∧
      payload.identity = ⟨r.deviceType, r.vendorId, r.productCode, r.revisionNumber,
        r.serialNumber⟩ := by
  have hbuffer : 158 ≤ (List.replicate 158 (0 : UInt8)).length := by
    rw [List.length_replicate]
  have hlength := length_identResponse r
  have hread := region_take_written (p := ofNode r hrs) hbuffer
  rw [take_written_ofNode r hrs hbuffer] at hread
  generalize r.serialize = octets at hread hlength
  have hoctet : octets.getD 1 0 = (r.pr.toByte <<< 3) ||| r.rs.value :=
    getD_of_region (hread 1 [(r.pr.toByte <<< 3) ||| r.rs.value] (by simp [pieces, ofNode])) 0
  have hpr := (requestFlags_octet r.pr hrs).1
  rw [← hoctet] at hpr
  have hstate : NmtState.tryFrom (octets.getD 2 0) = .ok r.nmtState := by
    rw [getD_of_region (hread 2 [r.nmtState.toByte] (by simp [pieces, ofNode])) 0,
      NmtState.tryFrom_toByte]
  unfold Powerlink.IdentResponsePayload.deserialize
  rw [if_neg (by omega)]
  refine ⟨_, bind_eq_ok_iff.mpr ⟨r.pr, hpr, bind_eq_ok_iff.mpr ⟨r.nmtState, hstate, rfl⟩⟩, ?_⟩
  have hword : ∀ offset (x : UInt32), (offset, u32Bytes x) ∈ (ofNode r hrs).pieces →
      u32At octets offset = x := fun offset x hmem => u32At_eq (hread offset _ hmem)
  unfold Powerlink.IdentResponsePayload.identity
  rw [hword 22 r.deviceType (by simp [pieces, ofNode]),
    hword 26 r.vendorId (by simp [pieces, ofNode]),
    hword 30 r.productCode (by simp [pieces, ofNode]),
    hword 34 r.revisionNumber (by simp [pieces, ofNode]),
    hword 38 r.serialNumber (by simp [pieces, ofNode])]

end ServicePayloads.IdentResponsePayload

/-! ### Fixed objects -/

/-- Nothing on the network changes the object: it has no default value, and it is read-only or has no
elements. -/
structure ObjectEntry.Fixed (entry : ObjectEntry) : Prop where
  noDefault : entry.defaultValue = none
  unwritable : ObjectDictionary.isReadOnly entry.access = true ∨ entry.object = .array []

/-- A dictionary call of a node without mapped objects. -/
inductive ObjectDictionary.OdCall.Unmapped : OdCall → Prop
  | own {call : OdCall} (h : call.Own) : Unmapped call
  | checked {call : OdCall} (h : call.Checked) : Unmapped call
  | restore (startIndex endIndex : UInt16) : Unmapped (.restorePowerOnValues startIndex endIndex)
  | hostName (name : String) : Unmapped (.writeInternal 0x1F9A 0 (.visibleString name) false)

theorem ObjectDictionary.OdCall.OfEvent.unmapped {event : NmtEvent} {call : OdCall}
    (h : call.OfEvent event) : call.Unmapped := by
  cases h with
  | own h => exact .own h
  | restore => exact .restore _ _

theorem CnCall.Writes.unmapped {σ : Type} {nodeId : NodeId} {od : ObjectDictionary σ} {call : CnCall}
    {odCall : OdCall} (h : call.Writes nodeId od odCall)
    (hrpdo : ∀ source, od.rpdoEntries source = []) : odCall.Unmapped := by
  cases h with
  | own h => exact .own h
  | datagram _ h => exact .checked h
  | frame _ h =>
      cases h with
      | frame h =>
          cases h with
          | own h => exact .own h
          | event _ h => exact h.unmapped
          | hostName name => exact .hostName name
          | request _ _ _ h => exact .checked h
      | processData _ h =>
          rw [hrpdo] at h
          cases h with
          | own h => exact .own h
          | channel hentry => cases hentry
          | object hentry => cases hentry

namespace ObjectDictionary

variable {σ : Type}

/-- Without a stored value and a default, an entry keeps its values. -/
theorem powerOnEntry_fixed (index : UInt16) {entry : ObjectEntry}
    (h : entry.defaultValue = none) : powerOnEntry none index entry = entry := by
  have helements : ∀ values : List ObjectValue, values.zipIdx.map (fun p =>
      powerOnElement none none index (UInt8.ofNat (p.2 + 1)) p.1) = values :=
    fun values => List.zipIdx_map_fst 0 values
  obtain ⟨object, name, access, default⟩ := entry
  obtain rfl : default = none := h
  unfold powerOnEntry
  rcases object with value | values | values
  · rfl
  · simp only [helements]
  · simp only [helements]

/-- A write leaves an array without elements as it is. -/
theorem get?_writeInternal_empty (od : ObjectDictionary σ) {index : UInt16} {entry : ObjectEntry}
    (hentry : od.entries.get? index = some entry) (hempty : entry.object = .array [])
    (subIndex : UInt8) (value : ObjectValue) (checkAccess : Bool) :
    (od.writeInternal index subIndex value checkAccess).2.entries.get? index = some entry := by
  have hobject : ∀ object, writeObject index subIndex value (.array []) = .ok object →
      object = .array [] := by
    intro object h
    have htypes := writeObject_types h
    rcases object with v | values | values
    · cases htypes
    · rw [List.map_eq_nil_iff.mp (ObjectTypes.array.inj htypes)]
    · cases htypes
  unfold writeInternal
  rw [hentry]
  dsimp only
  split_ifs
  · exact hentry
  · split
    · exact hentry
    · rename_i object hwrite
      rw [hempty] at hwrite
      rw [SortedMap.get?_modify, if_pos rfl, hentry, hobject object hwrite, ← hempty]
      rfl

theorem storage_writeInternal (d : ObjectDictionary σ) (index : UInt16) (subIndex : UInt8)
    (value : ObjectValue) (checkAccess : Bool) :
    (d.writeInternal index subIndex value checkAccess).2.storage = d.storage := by
  unfold writeInternal
  split
  · rfl
  · split_ifs
    · rfl
    · split <;> rfl

variable [ObjectDictionaryStorage σ]

/-- A write leaves a fixed object as it is, if the access rights are checked. -/
theorem get?_checked_fixed {d : ObjectDictionary σ} {call : OdCall} {index : UInt16}
    (hcall : call.Checked) (hfixed : ∀ entry, d.entries.get? index = some entry → entry.Fixed) :
    (d.call call).entries.get? index = d.entries.get? index := by
  cases hentry : d.entries.get? index with
  | none =>
      rw [get?_checked hcall, hentry]
      intro entry h
      cases hentry.symm.trans h
  | some entry =>
      obtain hreadOnly | hempty := (hfixed entry hentry).unwritable
      · rw [get?_checked hcall, hentry]
        intro entry' h
        rw [← Option.some.inj (hentry.symm.trans h)]
        exact hreadOnly
      · cases call with
        | write i s v =>
            by_cases hi : index = i
            · subst hi
              change (d.write index s v).2.entries.get? index = _
              obtain hentries | hwrite := d.entries_write index s v
              · rw [hentries, hentry]
              · rw [hwrite]
                exact d.get?_writeInternal_empty hentry hempty s v true
            · rw [get?_call (.write i s v) rfl hi, hentry]
        | _ => cases hcall

/-- Without storage there is nothing to save. -/
theorem storage_write {d : ObjectDictionary σ} (h : d.storage = none) (index : UInt16)
    (subIndex : UInt8) (value : ObjectValue) : (d.write index subIndex value).2.storage = none := by
  unfold write
  split_ifs
  · unfold storeParameters
    rw [h]
    split_ifs
    · exact h
    · exact h
  · exact h
  · unfold restoreDefaults
    rw [h]
    split_ifs
    · exact h
    · exact h
  · exact h
  · split
    · split
      · exact h
      · exact (d.storage_writeInternal _ _ _ _).trans h
    · exact h
  · exact (d.storage_writeInternal _ _ _ _).trans h

theorem storage_unmapped {d : ObjectDictionary σ} {call : OdCall} (hcall : call.Unmapped)
    (h : d.storage = none) : (d.call call).storage = none := by
  cases hcall with
  | own hown =>
      cases hown with
      | telegrams | errors | errorHistory => exact h
      | errorRegister | nmtState | pdoErrors =>
          exact (d.storage_writeInternal _ _ _ _).trans h
  | checked hchecked =>
      cases call with
      | write i s v => exact storage_write h i s v
      | _ => cases hchecked
  | restore a b => exact congrArg Prod.snd (loadStored_of_storage_none h)
  | hostName name => exact (d.storage_writeInternal _ _ _ _).trans h

/-- No call of a node without mapped objects changes a fixed object. -/
theorem get?_unmapped {d : ObjectDictionary σ} {call : OdCall} {index : UInt16}
    (hcall : call.Unmapped) (hstorage : d.storage = none) (hown : index ∉ ownObjects)
    (hname : index ≠ 0x1F9A) (hfixed : ∀ entry, d.entries.get? index = some entry → entry.Fixed) :
    (d.call call).entries.get? index = d.entries.get? index := by
  cases hcall with
  | own h => exact get?_own h hown
  | checked h => exact get?_checked_fixed h hfixed
  | restore a b =>
      change (d.restorePowerOnValues a b).entries.get? index = _
      rw [get?_restorePowerOnValues, loadStored_of_storage_none hstorage]
      cases hentry : d.entries.get? index with
      | none => rfl
      | some entry =>
          rw [Option.map_some, powerOnEntry_fixed index (hfixed entry hentry).noDefault, ite_self]
  | hostName name =>
      exact get?_call (.writeInternal 0x1F9A 0 (.visibleString name) false) rfl hname

/-! ### Fixed identities -/

omit [ObjectDictionaryStorage σ] in
/-- What is found behind `populate_protocol_objects`. -/
theorem get?_populateProtocolObjects (od : ObjectDictionary σ) (index : UInt16) :
    od.populateProtocolObjects.entries.get? index = (od.entries.get? index).or
      ((protocolObjects.find? (fun p => decide (p.1 = index))).map Prod.snd) := by
  have hfold : ∀ (objects : List (UInt16 × ObjectEntry)) (od : ObjectDictionary σ),
      (objects.foldl (fun od p => od.insertIfMissing p.1 p.2) od).entries.get? index =
        (od.entries.get? index).or
          ((objects.find? (fun p => decide (p.1 = index))).map Prod.snd) := by
    intro objects
    induction objects with
    | nil => exact fun od => (Option.or_none ..).symm
    | cons p objects ih =>
        intro od
        rw [List.foldl_cons, ih]
        unfold insertIfMissing insert
        by_cases hindex : p.1 = index
        · subst hindex
          simp only [List.find?_cons, decide_true]
          cases hentry : od.entries.get? p.1 with
          | none => simp
          | some entry => simp [hentry]
        · rw [List.find?_cons_of_neg (by simpa using hindex)]
          split_ifs
          · rfl
          · rw [SortedMap.get?_insert_ne _ _ (Ne.symm hindex)]
  exact hfold protocolObjects od

omit [ObjectDictionaryStorage σ] in
/-- The mapping objects of the RPDO channels. -/
theorem mapping_index {i : ℕ} (hi : i < 256) :
    0x1600 ≤ (0x1600 : UInt16) + UInt16.ofNat i ∧ (0x1600 : UInt16) + UInt16.ofNat i ≤ 0x16FF := by
  have hsum : ((0x1600 : UInt16) + UInt16.ofNat i).toNat = 0x1600 + i := by
    rw [UInt16.toNat_add, UInt16.toNat_ofNat', Nat.mod_eq_of_lt (show i < 2 ^ 16 by omega)]
    exact Nat.mod_eq_of_lt (by change 0x1600 + i < 2 ^ 16; omega)
  rw [UInt16.le_iff_toNat_le, UInt16.le_iff_toNat_le, hsum]
  change 0x1600 ≤ 0x1600 + i ∧ 0x1600 + i ≤ 0x16FF
  omega

/-- The device type and the identity object are fixed, the RPDO mappings are empty, and there is no
storage. -/
structure FixedIdentity (od : ObjectDictionary σ) : Prop where
  storage : od.storage = none
  constants : ∀ index entry, index = 0x1000 ∨ index = 0x1018 →
    od.entries.get? index = some entry → entry.Fixed
  mappings : ∀ index entry, 0x1600 ≤ index → index ≤ 0x16FF →
    od.entries.get? index = some entry → entry.defaultValue = none ∧ entry.object = .array []

namespace FixedIdentity

variable {od d : ObjectDictionary σ}

omit [ObjectDictionaryStorage σ] in
/-- No object is mapped. -/
theorem rpdoEntries_eq_nil (h : od.FixedIdentity) (source : NodeId) :
    od.rpdoEntries source = [] := by
  unfold rpdoEntries
  split
  · rfl
  · rename_i i hi
    obtain ⟨hstart, hend⟩ := mapping_index (findRpdoChannel_lt hi)
    unfold read
    cases hentry : od.entries.get? (0x1600 + UInt16.ofNat i) with
    | none => rfl
    | some entry =>
        obtain ⟨-, hempty⟩ := h.mappings _ entry hstart hend hentry
        rw [Option.bind_some, hempty]
        rfl

omit [ObjectDictionaryStorage σ] in
theorem fixed (h : od.FixedIdentity) {index : UInt16}
    (hindex : (index = 0x1000 ∨ index = 0x1018) ∨ 0x1600 ≤ index ∧ index ≤ 0x16FF) :
    ∀ entry, od.entries.get? index = some entry → entry.Fixed := by
  intro entry hentry
  obtain hconstant | ⟨hstart, hend⟩ := hindex
  · exact h.constants index entry hconstant hentry
  · obtain ⟨hdefault, hempty⟩ := h.mappings index entry hstart hend hentry
    exact ⟨hdefault, .inr hempty⟩

end FixedIdentity

/-- The fixed objects of the first dictionary are in the second one. -/
structure Frozen (od d : ObjectDictionary σ) : Prop where
  fixed : d.FixedIdentity
  constants : ∀ index, index = 0x1000 ∨ index = 0x1018 →
    d.entries.get? index = od.entries.get? index

variable {od d : ObjectDictionary σ}

/-- A call without mapped objects changes no fixed object. -/
theorem frozen_call {call : OdCall} (hcall : call.Unmapped) (h : Frozen od d) :
    Frozen od (d.call call) := by
  have hsame : ∀ index, ((index = 0x1000 ∨ index = 0x1018) ∨ 0x1600 ≤ index ∧ index ≤ 0x16FF) →
      (d.call call).entries.get? index = d.entries.get? index := by
    intro index hindex
    have hrange : index ∉ ownObjects ∧ index ≠ 0x1F9A := by
      have hown : ((0x1F9A :: ownObjects).all fun i =>
          decide (i ≠ 0x1000 ∧ i ≠ 0x1018 ∧ ¬(0x1600 ≤ i ∧ i ≤ 0x16FF))) = true := by decide
      have hnot : index ∉ 0x1F9A :: ownObjects := by
        intro hmem
        obtain ⟨hdevice, hidentity, hmapping⟩ :=
          of_decide_eq_true (List.all_eq_true.mp hown index hmem)
        exact hindex.elim (fun h => h.elim hdevice hidentity) hmapping
      rw [List.mem_cons, not_or] at hnot
      exact ⟨hnot.2, hnot.1⟩
    exact get?_unmapped hcall h.fixed.storage hrange.1 hrange.2 (h.fixed.fixed hindex)
  refine ⟨⟨storage_unmapped hcall h.fixed.storage, ?_, ?_⟩, ?_⟩
  · intro index entry hindex hentry
    rw [hsame index (.inl hindex)] at hentry
    exact h.fixed.constants index entry hindex hentry
  · intro index entry hstart hend hentry
    rw [hsame index (.inr ⟨hstart, hend⟩)] at hentry
    exact h.fixed.mappings index entry hstart hend hentry
  · intro index hindex
    rw [hsame index (.inl hindex)]
    exact h.constants index hindex

omit [ObjectDictionaryStorage σ] in
/-- The protocol objects map nothing. -/
theorem frozen_populateProtocolObjects (h : od.FixedIdentity) :
    Frozen od od.populateProtocolObjects := by
  have hmissing : ∀ index, index = 0x1000 ∨ index = 0x1018 →
      protocolObjects.find? (fun p => decide (p.1 = index)) = none := by
    rintro index (rfl | rfl)
    · decide
    · decide
  have hsame : ∀ index, index = 0x1000 ∨ index = 0x1018 →
      od.populateProtocolObjects.entries.get? index = od.entries.get? index := by
    intro index hindex
    rw [get?_populateProtocolObjects, hmissing index hindex, Option.map_none, Option.or_none]
  have hmappings : ∀ p ∈ protocolObjects, 0x1600 ≤ p.1 → p.1 ≤ 0x16FF →
      p.2.defaultValue = none ∧ p.2.object = .array [] := by
    decide
  refine ⟨⟨od.populateProtocolObjects_spec.1.trans h.storage, ?_, ?_⟩, hsame⟩
  · intro index entry hindex hentry
    rw [hsame index hindex] at hentry
    exact h.constants index entry hindex hentry
  · intro index entry hstart hend hentry
    rw [get?_populateProtocolObjects] at hentry
    obtain hentry | ⟨-, hentry⟩ := Option.or_eq_some_iff.mp hentry
    · exact h.mappings index entry hstart hend hentry
    · obtain ⟨p, hp, rfl⟩ := Option.map_eq_some_iff.mp hentry
      have hindex := List.find?_some hp
      rw [decide_eq_true_iff] at hindex
      subst hindex
      exact hmappings p (List.mem_of_find?_eq_some hp) hstart hend

theorem frozen_changedBy {e : ObjectDictionary σ} (hchanged : ChangedBy OdCall.Unmapped d e)
    (h : Frozen od d) : Frozen od e :=
  hchanged.induct (Frozen od) h (fun _ _ hcall ha => frozen_call hcall ha)

omit [ObjectDictionaryStorage σ] in
theorem Frozen.identity_eq (h : Frozen od d) : d.identity = od.identity := by
  unfold identity readU32 read
  rw [h.constants 0x1000 (.inl rfl), h.constants 0x1018 (.inr rfl)]

end ObjectDictionary

/-- The initialisation is a software reset. -/
theorem ObjectDictionary.changedBy_initialisation {σ : Type} [ObjectDictionaryStorage σ]
    (machine : CnNmtStateMachine) (od : ObjectDictionary σ) :
    ChangedBy OdCall.Unmapped od (NmtStateMachine.runInternalInitialisation machine od).2 := by
  unfold NmtStateMachine.runInternalInitialisation
  split_ifs
  · exact .refl _ _ _
  · rw [(NmtStateMachine.reset_od (fun _ _ => rfl) machine .swReset rfl od).2]
    have hreset := (od.changedBy_resetOd .swReset).mono (fun _ h => h.unmapped)
    have hpublished : ∀ (e : ObjectDictionary σ) state,
        ChangedBy OdCall.Unmapped e (e.publish state) :=
      fun e state => (e.changedBy_publish state).mono (fun _ h => .own h)
    exact (hreset.trans (hpublished _ _)).trans (hpublished _ _)

/-- A new node has the fixed objects of its application. -/
theorem ControlledNode.frozen_new {σ : Type} [ObjectDictionaryStorage σ] {od : ObjectDictionary σ}
    {mac : MacAddress} {c : CnContext σ} (h : ControlledNode.new od mac = .ok c)
    (hfixed : od.FixedIdentity) : ObjectDictionary.Frozen od c.core.od := by
  have hpopulated := ObjectDictionary.frozen_populateProtocolObjects hfixed
  dsimp only [ControlledNode.new] at h
  rw [ObjectDictionary.init_of_storage_none hfixed.storage] at h
  generalize od.populateProtocolObjects = d at h hpopulated
  obtain ⟨-, -, h⟩ := bind_eq_ok_iff.mp h
  obtain ⟨-, -, h⟩ := bind_eq_ok_iff.mp h
  obtain ⟨machine, -, h⟩ := bind_eq_ok_iff.mp h
  obtain rfl := Except.ok.inj h
  exact ObjectDictionary.frozen_changedBy (ObjectDictionary.changedBy_initialisation machine d)
    hpopulated

/-! ### The default dictionary -/

section default

variable {σ : Type} (nodeId : NodeId)

namespace ObjectDictionary

/-- The identity of `new_cn_default`. -/
def defaultIdentity : CnIdentity := ⟨0x000F0191, 0x12345678, 1, 0x00010000, 0xABCDEF01⟩

theorem fixedIdentity_newCnDefault : (newCnDefault nodeId : ObjectDictionary σ).FixedIdentity := by
  refine ⟨rfl, ?_, ?_⟩
  · rintro index entry (rfl | rfl) hentry
    · rw [get?_newCnDefault] at hentry
      obtain rfl := Option.some.inj hentry
      exact ⟨rfl, .inl rfl⟩
    · rw [get?_newCnDefault] at hentry
      obtain rfl := Option.some.inj hentry
      exact ⟨rfl, .inl rfl⟩
  · intro index entry hstart hend hentry
    rw [get?_newCnDefault] at hentry
    obtain ⟨p, hp, -⟩ := Option.map_eq_some_iff.mp hentry
    have hindex := List.find?_some hp
    rw [decide_eq_true_iff] at hindex
    subst hindex
    -- the node id is in the values only
    have hsame : (cnDefaultObjects nodeId ++ diagnosticObjects).reverse.map Prod.fst =
        (cnDefaultObjects ⟨0⟩ ++ diagnosticObjects).reverse.map Prod.fst := rfl
    have hkeys : ((cnDefaultObjects ⟨0⟩ ++ diagnosticObjects).reverse.map Prod.fst).all
        (fun key => decide (¬(0x1600 ≤ key ∧ key ≤ 0x16FF))) = true := by decide
    rw [← hsame] at hkeys
    exact absurd ⟨hstart, hend⟩ (of_decide_eq_true (List.all_eq_true.mp hkeys _
      (List.mem_map_of_mem (List.mem_of_find?_eq_some hp))))

theorem identity_newCnDefault :
    (newCnDefault nodeId : ObjectDictionary σ).identity = defaultIdentity := by
  unfold identity readU32 read
  rw [get?_newCnDefault, get?_newCnDefault]
  rfl

end ObjectDictionary

end default

/-! ### Runs -/

section runs

variable {σ : Type} [ObjectDictionaryStorage σ]

/-- An IdentResponse on the wire shows the identity of the dictionary. -/
theorem CnContext.identity_call {c d : CnContext σ} {call : CnCall} {bytes : List UInt8}
    {asnd : ASndFrame} (h : c.call call = some (.sendFrame bytes, d))
    (hread : deserializeFrame bytes = .ok (.aSnd asnd))
    (hservice : asnd.serviceId = .identResponse) :
    ∃ payload, IdentResponsePayload.deserialize asnd.payload = .ok payload ∧
      payload.identity = d.core.od.identity := by
  obtain ⟨input, frame, -, rfl, hexact, hsends⟩ := call_sends h
  have hwire : deserializeFrame frame.received = .ok frame.overWire :=
    deserializeFrame_padPayload hexact
  rw [hwire] at hread
  cases frame with
  | aSnd response =>
      obtain rfl := PowerlinkFrame.aSnd.inj (Except.ok.inj hread)
      obtain ⟨soa, hbuilt⟩ := hsends.identifiesItself response rfl hservice
      obtain rfl := PowerlinkFrame.aSnd.inj hbuilt
      have hpayload : ∀ r : IdentResponse, receivedPayload r.serialize = r.serialize := by
        intro r
        unfold receivedPayload
        rw [ServicePayloads.IdentResponsePayload.length_identResponse]
        exact if_neg (by decide)
      dsimp only [ASndFrame.new]
      rw [hpayload]
      exact ServicePayloads.IdentResponsePayload.identity_of_serialize _ (RSFlag.new_lt _)
  | _ => cases hread

/-- The call shows no other identity than the given one. -/
def CnReturned.ShowsIdentity (identity : CnIdentity) (x : CnReturned σ) : Prop :=
  ∀ bytes asnd, x.action = .sendFrame bytes → deserializeFrame bytes = .ok (.aSnd asnd) →
    asnd.serviceId = .identResponse → ∃ payload,
      IdentResponsePayload.deserialize asnd.payload = .ok payload ∧ payload.identity = identity

/-- The fixed objects stay in the dictionary, and the IdentResponses show them. -/
structure CnRun.Identified (od : ObjectDictionary σ) (r : CnRun σ) : Prop where
  frozen : ObjectDictionary.Frozen od r.context.core.od
  shows : ∀ x ∈ r.returned, x.ShowsIdentity od.identity

/-- No call changes a fixed identity. -/
theorem CnRun.identified_always {od : ObjectDictionary σ} (hfixed : od.FixedIdentity)
    (mac : MacAddress) (calls : List CnCall) :
    Runs.Always (Runs.partialStep step) (Runs.Reached (Identified od)) (start od mac) calls := by
  apply Runs.always_reached
  · intro r call r' hr hcall
    obtain ⟨⟨action, d⟩, hsome, rfl⟩ := Option.map_eq_some_iff.mp hcall
    have hchanged := (CnContext.coreBy_call hsome).od.mono fun _ hwrites =>
      hwrites.unmapped hr.frozen.fixed.rpdoEntries_eq_nil
    have hfrozen := ObjectDictionary.frozen_changedBy hchanged hr.frozen
    refine ⟨hfrozen, List.forall_mem_cons.mpr ⟨?_, hr.shows⟩⟩
    intro bytes asnd haction hread hservice
    obtain rfl : action = .sendFrame bytes := haction
    obtain ⟨payload, hpayload, hidentity⟩ := CnContext.identity_call hsome hread hservice
    exact ⟨payload, hpayload, hidentity.trans hfrozen.identity_eq⟩
  · unfold start
    cases hc : ControlledNode.new od mac with
    | ok c => exact ⟨ControlledNode.frozen_new hc hfixed, List.forall_mem_nil _⟩
    | error e => trivial

/-- Where the device type and the identity object are constants without a default, the RPDO mappings
are empty and there is no storage, nothing that a controlled node receives changes its identity:
every IdentResponse of every run shows the identity that the application has configured. -/
theorem CnRun.shows_configured_identity {od : ObjectDictionary σ} (hfixed : od.FixedIdentity)
    (mac : MacAddress) (calls : List CnCall) :
    Runs.Always (Runs.partialStep step)
      (Runs.Reached (fun r => ∀ x ∈ r.returned, x.ShowsIdentity od.identity)) (start od mac)
      calls :=
  (identified_always hfixed mac calls).mono (Runs.Reached.mono fun _ hr => hr.shows)

/-- A node on the default dictionary. -/
theorem CnRun.shows_configured_identity_default :
    Runs.Always (Runs.partialStep step) (Runs.Reached (fun r => ∀ x ∈ r.returned,
        x.ShowsIdentity (ObjectDictionary.newCnDefault ⟨1⟩ : ObjectDictionary Empty).identity))
      (start (ObjectDictionary.newCnDefault ⟨1⟩ : ObjectDictionary Empty) ⟨2, 0, 0, 0, 0, 1⟩)
      [.runCycle (.idle 0), .runCycle (.idle 5000000)] :=
  shows_configured_identity (ObjectDictionary.fixedIdentity_newCnDefault ⟨1⟩) _ _

end runs

/-! ### A node on the default dictionary -/

section default

variable {σ : Type} (nodeId : NodeId) [ObjectDictionaryStorage σ]

/-- The default dictionary is complete: a node is created from it. -/
theorem exists_new_newCnDefault (hnode : NodeId.tryFrom nodeId.id = .ok nodeId) (mac : MacAddress) :
    ∃ c : CnContext σ, ControlledNode.new (ObjectDictionary.newCnDefault nodeId) mac = .ok c ∧
      c.nodeId = nodeId ∧ c.nmtState = .nmtNotActive := by
  have hentries : ∀ index entry,
      ((ObjectDictionary.cnDefaultObjects nodeId ++
        ObjectDictionary.diagnosticObjects).reverse.find? (fun p => decide (p.1 = index))).map
          Prod.snd = some entry →
      (ObjectDictionary.newCnDefault nodeId : ObjectDictionary σ).populateProtocolObjects.entries.get?
        index = some entry := by
    intro index entry hentry
    apply (ObjectDictionary.newCnDefault nodeId).populateProtocolObjects_spec.2
    rwa [ObjectDictionary.get?_newCnDefault]
  dsimp only [ControlledNode.new]
  rw [ObjectDictionary.init_of_storage_none rfl]
  generalize (ObjectDictionary.newCnDefault nodeId : ObjectDictionary σ).populateProtocolObjects = d
    at hentries
  have hdevice := hentries 0x1000 _ rfl
  have hidentity := hentries 0x1018 _ rfl
  have hflags := hentries 0x1F82 _ rfl
  have hid := hentries 0x1F93 _ rfl
  have htimeout := hentries 0x1F99 _ rfl
  have hvalid : d.validateCnMandatoryObjects = .ok () := by
    unfold ObjectDictionary.validateCnMandatoryObjects
    simp only [List.any_cons, List.any_nil, hdevice, hidentity, hflags, hid, htimeout]
    rfl
  have hmachine : CnNmtStateMachine.fromOd d =
      .ok ⟨.nmtGsInitialising, nodeId, (FeatureFlags.isochronous.bitor .sdoAsnd).bits, 5000000⟩ := by
    have hread : d.read 0x1F93 1 = some (.unsigned8 nodeId.id) := by
      unfold ObjectDictionary.read
      rw [hid]
      rfl
    unfold CnNmtStateMachine.fromOd MnNmtStateMachine.readMandatory
    rw [hread]
    dsimp only
    rw [hnode]
    unfold ObjectDictionary.read
    rw [hflags, htimeout]
    rfl
  rw [hvalid, hmachine]
  exact ⟨_, rfl, rfl, rfl⟩

/-- A node on the default dictionary starts, whatever its node id is, and shows the default identity
in every run. -/
theorem default_node_identified (hnode : NodeId.tryFrom nodeId.id = .ok nodeId) (mac : MacAddress) :
    ∃ r : CnRun σ, CnRun.start (ObjectDictionary.newCnDefault nodeId) mac = some r ∧
      r.context.nodeId = nodeId ∧ r.context.nmtState = .nmtNotActive ∧
      ∀ calls, Runs.Always (Runs.partialStep CnRun.step)
        (Runs.Reached (fun r => ∀ x ∈ r.returned,
          x.ShowsIdentity ObjectDictionary.defaultIdentity)) (some r) calls := by
  obtain ⟨c, hc, hid, hstate⟩ := exists_new_newCnDefault (σ := σ) nodeId hnode mac
  have hstart : CnRun.start (ObjectDictionary.newCnDefault nodeId) mac = some ⟨c, []⟩ := by
    unfold CnRun.start
    rw [hc]
    rfl
  refine ⟨⟨c, []⟩, hstart, hid, hstate, fun calls => ?_⟩
  have hidentified := CnRun.identified_always
    (ObjectDictionary.fixedIdentity_newCnDefault (σ := σ) nodeId) mac calls
  rw [hstart] at hidentified
  rw [← ObjectDictionary.identity_newCnDefault (σ := σ) nodeId]
  exact hidentified.mono (Runs.Reached.mono fun _ hr => hr.shows)

end default

end Powerlink
