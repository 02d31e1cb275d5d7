import Powerlink.Lib.Collect
import Powerlink.Node.PdoChecked

/-! # Mappings and payloads that crash a node

A managing node packs process data without a panic.  A controlled node reports an entry that lies
behind the end of its PRes with `(offset + length) as u16 * 8`, which overflows from 8192 octets on,
and the consumer of a payload hands the containers of client channels to `handle_response`, which
panics at an accepted abort that is too short.  `pdo_panics_iff` says exactly which mappings and
payloads lead there; the conditions are about the state before the call, since no entry changes what
decides them. -/

namespace Powerlink

open Collect

variable {σ : Type}

/-! ### Sent payloads -/

/-- The entry can be packed: it lies inside of the payload, and an object has the mapped length. -/
def CanPack (od : ObjectDictionary σ) (limit : ℕ) (entry : PdoMappingEntry) : Prop :=
  match entry.byteOffset, entry.byteLength with
  | some offset, some length =>
      offset + length ≤ limit ∧ (isServerChannel entry.index = true ∨
        isClientChannel entry.index = true ∨
          ∀ value, od.read entry.index entry.subIndex = some value →
            value.serialize.length = length)
  | _, _ => True

/-- The entry lies behind the end of the payload, and its end has no number of bits of sixteen bits.
-/
def Overruns (limit : ℕ) (entry : PdoMappingEntry) : Prop :=
  match entry.byteOffset, entry.byteLength with
  | some offset, some length => limit < offset + length ∧ 8192 ≤ offset + length
  | _, _ => False

theorem not_overruns_of_canPack {od : ObjectDictionary σ} {limit : ℕ} {entry : PdoMappingEntry}
    (h : CanPack od limit entry) : ¬Overruns limit entry := by
  unfold CanPack at h
  unfold Overruns
  split at h
  · exact fun hoverruns => absurd h.1 (Nat.not_le.mpr hoverruns.1)
  · exact id

namespace CnContext

/-- An entry is packed, refused, or overruns the payload. -/
theorem applyTpdoMappingEntry_cases (core : CoreNodeContext σ) (payload : List UInt8)
    (entry : PdoMappingEntry) :
    (CanPack core.od payload.length entry ∧ ¬Overruns payload.length entry ∧
        ∃ payload' core', applyTpdoMappingEntry core payload entry = some (.ok payload', core') ∧
          core'.od = core.od) ∨
      (¬CanPack core.od payload.length entry ∧ ¬Overruns payload.length entry ∧
        ∃ e, applyTpdoMappingEntry core payload entry = some (.error e, core)) ∨
      (Overruns payload.length entry ∧ applyTpdoMappingEntry core payload entry = none) := by
  unfold CanPack Overruns applyTpdoMappingEntry
  cases hoffset : entry.byteOffset with
  | none => exact .inl ⟨trivial, id, payload, core, rfl, rfl⟩
  | some offset =>
      cases hlength : entry.byteLength with
      | none => exact .inl ⟨trivial, id, payload, core, rfl, rfl⟩
      | some length =>
          have hoffset := byteOffset_lt hoffset
          have hlength := byteLength_lt hlength
          dsimp only
          by_cases hshort : payload.length < offset + length
          · rw [if_pos hshort]
            by_cases hlong : 8192 ≤ offset + length
            · refine .inr (.inr ⟨⟨hshort, hlong⟩, if_neg ?_⟩)
              omega
            · refine .inr (.inl ⟨fun h => ?_, fun h => hlong h.2, _, if_pos ?_⟩)
              · exact absurd h.1 (Nat.not_le.mpr hshort)
              · omega
          · have hstop := Nat.not_lt.mp hshort
            have hnot : ¬(payload.length < offset + length ∧ 8192 ≤ offset + length) :=
              fun h => hshort h.1
            rw [if_neg hshort]
            by_cases hserver : isServerChannel entry.index = true
            · rw [if_pos hserver]
              exact .inl ⟨⟨hstop, .inl hserver⟩, hnot, _, _, rfl, rfl⟩
            · rw [if_neg hserver]
              by_cases hclient : isClientChannel entry.index = true
              · rw [if_pos hclient]
                exact .inl ⟨⟨hstop, .inr (.inl hclient)⟩, hnot, _, _, rfl, rfl⟩
              · rw [if_neg hclient]
                cases hread : core.od.read entry.index entry.subIndex with
                | none =>
                    refine .inl ⟨⟨hstop, .inr (.inr ?_)⟩, hnot, _, _, rfl, rfl⟩
                    intro value hvalue
                    cases hvalue
                | some value =>
                    dsimp only
                    by_cases hvalue : value.serialize.length = length
                    · rw [if_neg (not_not.mpr hvalue)]
                      refine .inl ⟨⟨hstop, .inr (.inr ?_)⟩, hnot, _, _, rfl, rfl⟩
                      rintro value' hvalue'
                      rwa [← Option.some.inj hvalue']
                    · rw [if_pos hvalue]
                      refine .inr (.inl ⟨?_, hnot, _, rfl⟩)
                      rintro ⟨-, h | h | h⟩
                      · exact hserver h
                      · exact hclient h
                      · exact hvalue (h value rfl)

/-- A mapping is packed, stops at an entry that cannot be packed, or overruns the payload. -/
theorem applyTpdoMapping_cases (entries : List PdoMappingEntry) (core : CoreNodeContext σ)
    (payload : List UInt8) :
    ((∀ entry ∈ entries, CanPack core.od payload.length entry) ∧
        ¬ComesTo (CanPack core.od payload.length) (Overruns payload.length) entries ∧
        ∃ payload' core', applyTpdoMapping core payload entries = some (.ok payload', core') ∧
          payload'.length = payload.length ∧ core'.od = core.od) ∨
      ((¬∀ entry ∈ entries, CanPack core.od payload.length entry) ∧
        ¬ComesTo (CanPack core.od payload.length) (Overruns payload.length) entries ∧
        ∃ e core', applyTpdoMapping core payload entries = some (.error e, core') ∧
          core'.od = core.od) ∨
      ((¬∀ entry ∈ entries, CanPack core.od payload.length entry) ∧
        ComesTo (CanPack core.od payload.length) (Overruns payload.length) entries ∧
        applyTpdoMapping core payload entries = none) := by
  induction entries generalizing core payload with
  | nil => exact .inl ⟨nofun, not_comesTo_nil, payload, core, rfl, rfl, rfl⟩
  | cons entry entries ih =>
      rw [applyTpdoMapping, comesTo_cons, List.forall_mem_cons]
      rcases applyTpdoMappingEntry_cases core payload entry with
        ⟨hpack, hoverruns, payload', core', hentry, hod⟩ | ⟨hpack, hoverruns, e, hentry⟩ |
          ⟨hoverruns, hentry⟩
      · have hlength := length_applyTpdoMappingEntry hentry
        have hrest := ih core' payload'
        rw [hod, hlength] at hrest
        rw [hentry]
        dsimp only
        simpa only [hpack, hoverruns, true_and, false_or] using hrest
      · rw [hentry]
        refine .inr (.inl ⟨fun h => hpack h.1, ?_, e, core, rfl, rfl⟩)
        rintro (h | h)
        · exact hoverruns h
        · exact hpack h.1
      · rw [hentry]
        refine .inr (.inr ⟨?_, .inl hoverruns, rfl⟩)
        rintro ⟨hpack, -⟩
        exact not_overruns_of_canPack hpack hoverruns

/-- The loop panics exactly if it comes to an entry that overruns the payload. -/
theorem applyTpdoMapping_eq_none_iff (entries : List PdoMappingEntry) (core : CoreNodeContext σ)
    (payload : List UInt8) :
    applyTpdoMapping core payload entries = none ↔
      ComesTo (CanPack core.od payload.length) (Overruns payload.length) entries := by
  rcases applyTpdoMapping_cases entries core payload with
    ⟨-, hgoes, _, _, hmapping, -⟩ | ⟨-, hgoes, _, _, hmapping, -⟩ | ⟨-, hcomes, hmapping⟩
  · rw [hmapping]
    exact iff_of_false nofun hgoes
  · rw [hmapping]
    exact iff_of_false nofun hgoes
  · exact iff_of_true hmapping hcomes

end CnContext

/-! ### What no entry of a received payload changes -/

/-- The type of the value at a sub-index is that of the object. -/
theorem map_discriminant_read {object object' : Object} (h : object'.types = object.types)
    (subIndex : UInt8) :
    (object'.read subIndex).map ObjectValue.discriminant =
      (object.read subIndex).map ObjectValue.discriminant := by
  have helements : ∀ {values values' : List ObjectValue},
      values'.map ObjectValue.discriminant = values.map ObjectValue.discriminant →
        values'[subIndex.toNat - 1]?.map ObjectValue.discriminant =
          values[subIndex.toNat - 1]?.map ObjectValue.discriminant := by
    intro values values' hvalues
    rw [← List.getElem?_map, ← List.getElem?_map, hvalues]
  unfold Object.read
  rcases object with v | values | values
  · rcases object' with v' | values' | values'
    · have htype : v'.discriminant = v.discriminant := ObjectTypes.variable.inj h
      dsimp only
      split_ifs
      · exact congrArg some htype
      · rfl
    · cases h
    · cases h
  · rcases object' with v' | values' | values'
    · cases h
    · dsimp only
      split_ifs
      · rfl
      · exact helements (ObjectTypes.array.inj h)
    · cases h
  · rcases object' with v' | values' | values'
    · cases h
    · cases h
    · dsimp only
      split_ifs
      · rfl
      · exact helements (ObjectTypes.record.inj h)

/-- The dictionaries have the same objects with the same types. -/
def SameTypes (od od' : ObjectDictionary σ) : Prop :=
  ∀ index, od'.typesAt index = od.typesAt index

theorem SameTypes.map_read {od od' : ObjectDictionary σ} (h : SameTypes od od') (index : UInt16)
    (subIndex : UInt8) :
    (od'.read index subIndex).map ObjectValue.discriminant =
      (od.read index subIndex).map ObjectValue.discriminant := by
  have htypes := h index
  unfold ObjectDictionary.typesAt ObjectDictionary.readObject at htypes
  unfold ObjectDictionary.read
  cases hentry : od.entries.get? index with
  | none =>
      cases hentry' : od'.entries.get? index with
      | none => rfl
      | some entry' =>
          rw [hentry, hentry'] at htypes
          cases htypes
  | some entry =>
      cases hentry' : od'.entries.get? index with
      | none =>
          rw [hentry, hentry'] at htypes
          cases htypes
      | some entry' =>
          rw [hentry, hentry'] at htypes
          exact map_discriminant_read (Option.some.inj htypes) subIndex

/-- Whether an entry fails depends on the types of the dictionary. -/
theorem SameTypes.fails_iff {od od' : ObjectDictionary σ} (h : SameTypes od od')
    (payload : List UInt8) (entry : PdoMappingEntry) :
    Fails od' payload entry ↔ Fails od payload entry := by
  have hdecodes : ∀ data : List UInt8,
      (∃ typeTemplate error, od'.read entry.index entry.subIndex = some typeTemplate ∧
        ObjectValue.deserialize data typeTemplate = .error error) ↔
          ∃ typeTemplate error, od.read entry.index entry.subIndex = some typeTemplate ∧
            ObjectValue.deserialize data typeTemplate = .error error := by
    intro data
    have hread := h.map_read entry.index entry.subIndex
    cases hvalue : od.read entry.index entry.subIndex with
    | none =>
        rw [hvalue, Option.map_none, Option.map_eq_none_iff] at hread
        rw [hread]
    | some v =>
        rw [hvalue, Option.map_some, Option.map_eq_some_iff] at hread
        obtain ⟨v', hvalue', htype⟩ := hread
        rw [hvalue']
        simp only [Option.some.injEq, exists_and_left, exists_eq_left',
          ObjectValue.deserialize_congr htype]
  unfold Fails
  simp only [hdecodes]

/-- The number of the next request of each channel. -/
def SameNumbers (client client' : EmbeddedSdoClient) : Prop :=
  ∀ index, (client'.connections.get? index).map EmbeddedClientConnection.nextSequenceNumber =
    (client.connections.get? index).map EmbeddedClientConnection.nextSequenceNumber

theorem sameNumbers_handleResponse {client client' : EmbeddedSdoClient} {index : UInt16}
    {payload : List UInt8} (h : client.handleResponse index payload = some client') :
    SameNumbers client client' := by
  intro index'
  unfold EmbeddedSdoClient.handleResponse at h
  split at h
  · rw [Option.some.inj h]
  · rename_i conn hconn
    split at h
    · rw [Option.some.inj h]
    · dsimp only at h
      split_ifs at h
      · rw [Option.some.inj h]
      · obtain rfl := Option.some.inj h
        dsimp only
        rw [SortedMap.get?_insert]
        split_ifs with hindex
        · rw [hindex, hconn]
          rfl
        · rfl

/-- An abort is accepted by the number of the last request. -/
theorem SameNumbers.receivesShortAbort_iff {client client' : EmbeddedSdoClient}
    (h : SameNumbers client client') (index : UInt16) (payload : List UInt8) :
    client'.ReceivesShortAbort index payload ↔ client.ReceivesShortAbort index payload := by
  have hnumber := h index
  unfold EmbeddedSdoClient.ReceivesShortAbort
  cases hconn : client.connections.get? index with
  | none =>
      rw [hconn, Option.map_none, Option.map_eq_none_iff] at hnumber
      rw [hnumber]
  | some conn =>
      rw [hconn, Option.map_some, Option.map_eq_some_iff] at hnumber
      obtain ⟨conn', hconn', hnext⟩ := hnumber
      rw [hconn']
      simp only [Option.some.injEq, exists_and_left, exists_eq_left', hnext]

variable [ObjectDictionaryStorage σ]

theorem sameTypes_handleRequest (server : EmbeddedSdoServer) (index : UInt16)
    (payload : List UInt8) (od : ObjectDictionary σ) :
    SameTypes od (server.handleRequest index payload od).2 := by
  intro index'
  rw [EmbeddedSdoServer.handleRequest_eq]
  split
  · rename_i command _
    dsimp only
    have hexecute : (EmbeddedSdoServer.execute command od).2.typesAt index' =
        od.typesAt index' := by
      unfold EmbeddedSdoServer.execute
      split
      · split <;> rfl
      · split
        · rfl
        · split
          · rfl
          · rename_i value _
            have hwrite := od.typesAt_write command.index command.subIndex value index'
            split
            · rename_i heq
              rwa [heq] at hwrite
            · rename_i heq
              rwa [heq] at hwrite
      · rfl
    unfold EmbeddedSdoServer.processCommand
    dsimp only
    split
    · rename_i heq
      rwa [heq] at hexecute
    · rename_i heq
      rwa [heq] at hexecute
  · rfl

omit [ObjectDictionaryStorage σ] in
theorem sameTypes_updatePdoErrorObject (od : ObjectDictionary σ) (objectIndex : UInt16)
    (sourceNodeId : NodeId) :
    SameTypes od (updatePdoErrorObject od objectIndex sourceNodeId) := by
  intro index
  unfold updatePdoErrorObject
  split_ifs
  · rfl
  · split
    · dsimp only
      split
      · exact od.typesAt_writeInternal objectIndex 0 _ false index
      · rfl
    · rfl

/-- An entry changes neither the types nor the numbers of the requests. -/
theorem applyRpdoMappingEntry_same {s s' : PdoState σ} {entry : PdoMappingEntry}
    {payload : List UInt8} {sourceNodeId : NodeId} {goOn : Bool}
    (h : applyRpdoMappingEntry s entry payload sourceNodeId = some (goOn, s')) :
    SameTypes s.1.od s'.1.od ∧ SameNumbers s.1.embeddedSdoClient s'.1.embeddedSdoClient := by
  have hsame : SameTypes s.1.od s.1.od ∧
      SameNumbers s.1.embeddedSdoClient s.1.embeddedSdoClient :=
    ⟨fun _ => rfl, fun _ => rfl⟩
  have hstate : ∀ {r : Bool × PdoState σ}, some r = some (goOn, s') → r.2 = s' :=
    fun hr => congrArg Prod.snd (Option.some.inj hr)
  unfold applyRpdoMappingEntry at h
  split at h
  · split_ifs at h
    · rw [← hstate h]
      exact ⟨sameTypes_updatePdoErrorObject _ _ _, hsame.2⟩
    · rw [← hstate h]
      exact ⟨sameTypes_handleRequest _ _ _ _, hsame.2⟩
    · obtain ⟨client, hclient, h⟩ := Option.bind_eq_some_iff.mp h
      rw [← hstate h]
      exact ⟨hsame.1, sameNumbers_handleResponse hclient⟩
    · split at h
      · rw [← hstate h]
        exact hsame
      · dsimp only at h
        split at h
        · rw [← hstate h]
          exact hsame
        · split_ifs at h
          · rw [← hstate h]
            exact hsame
          · rw [← hstate h]
            exact ⟨s.1.od.typesAt_writeInternal entry.index entry.subIndex _ false, hsame.2⟩
  · rw [← hstate h]
    exact hsame

/-! ### Received payloads -/

omit [ObjectDictionaryStorage σ] in
/-- The entry gives its client channel an abort that the channel accepts and that is too short. -/
def GivesShortAbort (client : EmbeddedSdoClient) (payload : List UInt8) (entry : PdoMappingEntry) :
    Prop :=
  match entry.byteOffset, entry.byteLength with
  | some offset, some length =>
      offset + length ≤ payload.length ∧ isServerChannel entry.index = false ∧
        isClientChannel entry.index = true ∧
          client.ReceivesShortAbort entry.index ((payload.drop offset).take length)
  | _, _ => False

/-- An entry panics exactly at such an abort. -/
theorem applyRpdoMappingEntry_eq_none_iff (s : PdoState σ) (entry : PdoMappingEntry)
    (payload : List UInt8) (sourceNodeId : NodeId) :
    applyRpdoMappingEntry s entry payload sourceNodeId = none ↔
      GivesShortAbort s.1.embeddedSdoClient payload entry := by
  unfold applyRpdoMappingEntry GivesShortAbort
  cases entry.byteOffset with
  | none => exact iff_of_false nofun id
  | some offset =>
      cases entry.byteLength with
      | none => exact iff_of_false nofun id
      | some length =>
          dsimp only
          by_cases hshort : payload.length < offset + length
          · rw [if_pos hshort]
            exact iff_of_false nofun fun h => absurd h.1 (Nat.not_le.mpr hshort)
          · rw [if_neg hshort]
            by_cases hserver : isServerChannel entry.index = true
            · rw [if_pos hserver, hserver]
              exact iff_of_false nofun fun h => Bool.noConfusion h.2.1
            · rw [if_neg hserver]
              by_cases hclient : isClientChannel entry.index = true
              · rw [if_pos hclient, Option.bind_eq_bind, Option.bind_eq_none_iff,
                  ← EmbeddedSdoClient.handleResponseChecked_eq_none_iff,
                  EmbeddedSdoClient.handleResponseChecked_eq]
                constructor
                · intro h
                  refine ⟨Nat.not_lt.mp hshort, Bool.eq_false_of_not_eq_true hserver, hclient, ?_⟩
                  exact Option.eq_none_iff_forall_ne_some.mpr fun client hsome =>
                    absurd (h client hsome) nofun
                · rintro ⟨-, -, -, hnone⟩ client hsome
                  rw [hnone] at hsome
                  cases hsome
              · rw [if_neg hclient]
                refine iff_of_false ?_ fun h => hclient h.2.2.1
                split
                · exact nofun
                · split
                  · exact nofun
                  · split_ifs
                    · exact nofun
                    · exact nofun

omit [ObjectDictionaryStorage σ] in
theorem SameNumbers.givesShortAbort_iff {client client' : EmbeddedSdoClient}
    (h : SameNumbers client client') (payload : List UInt8) (entry : PdoMappingEntry) :
    GivesShortAbort client' payload entry ↔ GivesShortAbort client payload entry := by
  unfold GivesShortAbort
  simp only [h.receivesShortAbort_iff]

/-- The loop panics exactly if it comes to such an abort before an entry fails. -/
theorem applyRpdoMapping_eq_none_iff (payload : List UInt8) (sourceNodeId : NodeId)
    (entries : List PdoMappingEntry) (s : PdoState σ) :
    applyRpdoMapping payload sourceNodeId s entries = none ↔
      ComesTo (fun entry => ¬Fails s.1.od payload entry)
        (GivesShortAbort s.1.embeddedSdoClient payload) entries := by
  induction entries generalizing s with
  | nil => exact iff_of_false (Option.some_ne_none _) not_comesTo_nil
  | cons entry entries ih =>
      rw [comesTo_cons, ← applyRpdoMappingEntry_eq_none_iff s entry payload sourceNodeId,
        applyRpdoMapping]
      cases hentry : applyRpdoMappingEntry s entry payload sourceNodeId with
      | none => exact iff_of_true rfl (.inl rfl)
      | some r =>
          obtain ⟨goOn, s'⟩ := r
          cases goOn with
          | false =>
              have hfails := fails_of_applyRpdoMappingEntry hentry
              refine iff_of_false (Option.some_ne_none _) ?_
              rintro (h | ⟨h, -⟩)
              · cases h
              · exact h hfails
          | true =>
              obtain ⟨htypes, hnumbers⟩ := applyRpdoMappingEntry_same hentry
              have hgoes : ¬Fails s.1.od payload entry := by
                intro hfails
                obtain ⟨s'', hstops, -⟩ := applyRpdoMappingEntry_of_fails hfails sourceNodeId
                rw [hentry] at hstops
                cases hstops
              have hfails : (fun entry => ¬Fails s'.1.od payload entry) =
                  fun entry => ¬Fails s.1.od payload entry :=
                funext fun entry => propext (not_congr (htypes.fails_iff payload entry))
              have hshort : GivesShortAbort s'.1.embeddedSdoClient payload =
                  GivesShortAbort s.1.embeddedSdoClient payload :=
                funext fun entry => propext (hnumbers.givesShortAbort_iff payload entry)
              have hrest := ih s'
              rw [hfails, hshort] at hrest
              refine hrest.trans ⟨fun h => .inr ⟨hgoes, h⟩, ?_⟩
              rintro (h | ⟨-, h⟩)
              · cases h
              · exact h

/-- The consumption of a payload panics exactly if its mapping comes to an abort that the client
channel accepts and that is too short. -/
theorem consumePdoPayload_eq_none_iff (s : PdoState σ) (sourceNodeId : NodeId)
    (payload : List UInt8) (receivedVersion : PDOVersion) (isReady : Bool) :
    consumePdoPayload s sourceNodeId payload receivedVersion isReady = none ↔
      isReady = true ∧ ∃ i numEntries, findRpdoChannel s.1.od sourceNodeId = some i ∧
        versionOk ((s.1.od.readU8 (0x1400 + UInt16.ofNat i) 2).getD 0) receivedVersion.version =
          true ∧
        s.1.od.read (0x1600 + UInt16.ofNat i) 0 = some (.unsigned8 numEntries) ∧
        ComesTo (fun entry => ¬Fails s.1.od payload entry)
          (GivesShortAbort s.1.embeddedSdoClient payload)
          (mappingEntries s.1.od (0x1600 + UInt16.ofNat i) numEntries) := by
  unfold consumePdoPayload
  cases isReady with
  | false => exact iff_of_false nofun fun h => Bool.noConfusion h.1
  | true =>
      simp only [Bool.not_true, Bool.false_eq_true, if_false, true_and]
      cases hchannel : findRpdoChannel s.1.od sourceNodeId with
      | none => simp
      | some i =>
          simp only [Option.some.injEq, exists_and_left, exists_eq_left']
          cases hversion : versionOk ((s.1.od.readU8 (0x1400 + UInt16.ofNat i) 2).getD 0)
              receivedVersion.version with
          | false => simp
          | true =>
              simp only [Bool.not_true, Bool.false_eq_true, if_false, true_and]
              cases hcount : s.1.od.read (0x1600 + UInt16.ofNat i) 0 with
              | none => simp
              | some value =>
                  cases value with
                  | unsigned8 numEntries =>
                      dsimp only
                      rw [applyRpdoMapping_eq_none_iff]
                      simp
                  | _ => simp

/-! ### The three functions -/

/-- The mappings and payloads that crash a node: a controlled node panics when it packs a PRes
exactly if its mapping comes to an entry that overruns the payload, a managing node never panics,
and a consumer panics exactly if its mapping comes to a short abort. -/
theorem pdo_panics_iff (core : CoreNodeContext σ) (channelIndex : UInt8) (s : PdoState σ)
    (sourceNodeId : NodeId) (payload : List UInt8) (receivedVersion : PDOVersion)
    (isReady : Bool) :
    ((CnContext.buildTpdoPayloadChecked core).isSome = true ↔
      ¬ComesTo (CanPack core.od (min (CnContext.presPayloadLimit core.od) 1490))
        (Overruns (min (CnContext.presPayloadLimit core.od) 1490))
        (CnContext.tpdoEntries core.od ((core.od.readU8 0x1A00 0).getD 0))) ∧
    (buildTpdoPayloadChecked core channelIndex).isSome = true ∧
    ((consumePdoPayloadChecked s sourceNodeId payload receivedVersion isReady).isSome = true ↔
      ¬(isReady = true ∧ ∃ i numEntries, findRpdoChannel s.1.od sourceNodeId = some i ∧
        versionOk ((s.1.od.readU8 (0x1400 + UInt16.ofNat i) 2).getD 0) receivedVersion.version =
          true ∧
        s.1.od.read (0x1600 + UInt16.ofNat i) 0 = some (.unsigned8 numEntries) ∧
        ComesTo (fun entry => ¬Fails s.1.od payload entry)
          (GivesShortAbort s.1.embeddedSdoClient payload)
          (mappingEntries s.1.od (0x1600 + UInt16.ofNat i) numEntries))) := by
  refine ⟨?_, ?_, ?_⟩
  · have hnone := CnContext.applyTpdoMapping_eq_none_iff
      (CnContext.tpdoEntries core.od ((core.od.readU8 0x1A00 0).getD 0)) core
      (List.replicate (min (CnContext.presPayloadLimit core.od) 1490) 0)
    rw [List.length_replicate] at hnone
    rw [CnContext.buildTpdoPayloadChecked_eq, Option.isSome_iff_ne_none, ← hnone,
      CnContext.buildTpdoPayload]
    refine not_congr ?_
    rcases CnContext.applyTpdoMapping core _ _ with _ | ⟨_ | _, core'⟩
    · simp
    · simp
    · simp
  · rw [buildTpdoPayloadChecked_eq]
    rfl
  · rw [consumePdoPayloadChecked_eq, Option.isSome_iff_ne_none, ← consumePdoPayload_eq_none_iff]

/-- An entry of 8191 octets at the second octet of the payload. -/
def longEntry : CoreNodeContext Empty :=
  nodeWith ((ObjectDictionary.new none).insert 0x1A00
    ⟨.array [.unsigned64 0xFFF8000800006000], "PDO_TxMappParam_00h_AU64", none, none⟩)

/-- The end of the entry has `2 ^ 16` bits. -/
theorem long_entry_panics :
    ¬∀ core : CoreNodeContext Empty, (CnContext.buildTpdoPayloadChecked core).isSome = true := by
  intro h
  have hbuild := h longEntry
  revert hbuild
  decide +kernel

end Powerlink
