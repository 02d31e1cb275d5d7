import Powerlink.Od.Lifecycle
import Powerlink.Sdo.Server
import Powerlink.Sdo.Embedded
import Powerlink.Frame.Frames
import Powerlink.Frame.Dll

/-! # Process data

`CoreNodeContext` (`node/mod.rs`) and the two directions of process data: `consumePdoPayload`
(`node/pdo_handler.rs`) writes a received payload into the dictionary along the RPDO mapping of
its source, and `buildTpdoPayload` (`node/mn/payload.rs`) collects the payload of a PReq along
the TPDO mapping of a channel.  Both hand the containers of embedded SDO channels to the embedded
server and client.

The functions work on the core context and, for a received payload, on the error counters; `none`
is a panic of the embedded client. -/

namespace Powerlink

/-- `CoreNodeContext`; the SDO client of a controlled node is left out. -/
structure CoreNodeContext (σ : Type) where
  od : ObjectDictionary σ
  macAddress : MacAddress
  sdoServer : SdoServer DefaultSdoHandler
  embeddedSdoServer : EmbeddedSdoServer
  embeddedSdoClient : EmbeddedSdoClient

/-- `CoreNodeContext` after `increment_counter` of a telegram counter `0x1101`. -/
def CoreNodeContext.count {σ : Type} (core : CoreNodeContext σ) (subIndex : UInt8) :
    CoreNodeContext σ :=
  { core with od := core.od.incrementCounter 0x1101 subIndex }

/-- `PdoMappingEntry::byte_offset`. -/
def PdoMappingEntry.byteOffset (entry : PdoMappingEntry) : Option ℕ :=
  if entry.offsetBits.toNat % 8 = 0 then some (entry.offsetBits.toNat / 8) else none

/-- `PdoMappingEntry::byte_length`. -/
def PdoMappingEntry.byteLength (entry : PdoMappingEntry) : Option ℕ :=
  if entry.lengthBits.toNat % 8 = 0 then some (entry.lengthBits.toNat / 8) else none

/-- The channels of embedded SDO servers. -/
def isServerChannel (index : UInt16) : Bool := decide (0x1200 ≤ index ∧ index ≤ 0x127F)

/-- The channels of embedded SDO clients. -/
def isClientChannel (index : UInt16) : Bool := decide (0x1280 ≤ index ∧ index ≤ 0x12FF)

variable {σ : Type}

/-! ### Received payloads -/

/-- `update_pdo_error_object`: sets the bit of the source node in a node list object. -/
def updatePdoErrorObject (od : ObjectDictionary σ) (objectIndex : UInt16)
    (sourceNodeId : NodeId) : ObjectDictionary σ :=
  if sourceNodeId.id = 0 ∨ cAdrMnDefNodeId.id ≤ sourceNodeId.id then od
  else match od.read objectIndex 0 with
    | some (.octetString bytes) =>
        let byteIndex := (sourceNodeId.id - 1).toNat / 8
        match bytes[byteIndex]? with
        | some byte =>
            let value := bytes.set byteIndex (byte ||| (1 <<< ((sourceNodeId.id - 1) % 8)))
            (od.writeInternal objectIndex 0 (.octetString value) false).2
        | none => od
    | _ => od

/-- Whether an RPDO channel with this node id takes the payloads of a source. -/
def matchesSource (sourceNodeId : NodeId) (nodeIdVal : UInt8) : Bool :=
  (decide (sourceNodeId = cAdrMnDefNodeId) && decide (nodeIdVal = 0)) ||
    (decide (sourceNodeId.id ≠ 0) && decide (nodeIdVal = sourceNodeId.id))

/-- The first RPDO channel configured for a source. -/
def findRpdoChannel (od : ObjectDictionary σ) (sourceNodeId : NodeId) : Option ℕ :=
  (List.range 256).find? (fun i =>
    match od.readU8 (0x1400 + UInt16.ofNat i) 1 with
    | some nodeIdVal => matchesSource sourceNodeId nodeIdVal
    | none => false)

/-- The check of the mapping version. -/
def versionOk (expected received : UInt8) : Bool :=
  (decide (expected = 0) && decide (received = 0)) ||
    (decide (0 < expected) && decide (expected >>> 4 = received >>> 4) &&
      decide (expected &&& 0x0F ≤ received &&& 0x0F))

/-- The mapping entries that can be read. -/
def mappingEntries (od : ObjectDictionary σ) (mappingIndex : UInt16) (numEntries : UInt8) :
    List PdoMappingEntry :=
  (List.range numEntries.toNat).filterMap (fun i =>
    match od.read mappingIndex (UInt8.ofNat (i + 1)) with
    | some (.unsigned64 raw) => some (.fromU64 raw)
    | _ => none)

/-- The state that a received payload can change. -/
abbrev PdoState (σ : Type) := CoreNodeContext σ × MnErrorCounters

/-- An error of a received payload: it is counted and stops the mapping. -/
def pdoError (s : PdoState σ) (error : DllError) : PdoState σ := (s.1, (s.2.handleError error).2.2)

variable [ObjectDictionaryStorage σ]

/-- `apply_rpdo_mapping_entry`: whether the mapping goes on, and the new state. -/
def applyRpdoMappingEntry (s : PdoState σ) (entry : PdoMappingEntry) (payload : List UInt8)
    (sourceNodeId : NodeId) : Option (Bool × PdoState σ) :=
  match entry.byteOffset, entry.byteLength with
  | some offset, some length =>
      if payload.length < offset + length then
        let s := pdoError s (.pdoPayloadShort sourceNodeId)
        some (false, { s.1 with od := updatePdoErrorObject s.1.od 0x1C81 sourceNodeId }, s.2)
      else
        let dataSlice := (payload.drop offset).take length
        if isServerChannel entry.index then
          let r := s.1.embeddedSdoServer.handleRequest entry.index dataSlice s.1.od
          some (true, { s.1 with embeddedSdoServer := r.1, od := r.2 }, s.2)
        else if isClientChannel entry.index then do
          let client ← s.1.embeddedSdoClient.handleResponse entry.index dataSlice
          some (true, { s.1 with embeddedSdoClient := client }, s.2)
        else match s.1.od.read entry.index entry.subIndex with
          | none => some (true, s)
          | some typeTemplate =>
              match ObjectValue.deserialize dataSlice typeTemplate with
              | .error _ => some (false, pdoError s (.pdoPayloadShort sourceNodeId))
              | .ok value =>
                  if value.discriminant ≠ typeTemplate.discriminant then
                    some (false, pdoError s (.pdoMapVersion sourceNodeId))
                  else
                    let r := s.1.od.writeInternal entry.index entry.subIndex value false
                    some (true, { s.1 with od := r.2 }, s.2)
  | _, _ => some (true, s)

/-- The loop over the mapping entries. -/
def applyRpdoMapping (payload : List UInt8) (sourceNodeId : NodeId) :
    PdoState σ → List PdoMappingEntry → Option (PdoState σ)
  | s, [] => some s
  | s, entry :: entries => do
      let (goOn, s) ← applyRpdoMappingEntry s entry payload sourceNodeId
      if goOn then applyRpdoMapping payload sourceNodeId s entries else some s

/-- `consume_pdo_payload`. -/
def consumePdoPayload (s : PdoState σ) (sourceNodeId : NodeId) (payload : List UInt8)
    (receivedVersion : PDOVersion) (isReady : Bool) : Option (PdoState σ) :=
  if !isReady then some s
  else match findRpdoChannel s.1.od sourceNodeId with
    | none => some s
    | some i =>
        let expectedVersion := (s.1.od.readU8 (0x1400 + UInt16.ofNat i) 2).getD 0
        if !versionOk expectedVersion receivedVersion.version then
          let s := pdoError s (.pdoMapVersion sourceNodeId)
          some ({ s.1 with od := updatePdoErrorObject s.1.od 0x1C80 sourceNodeId }, s.2)
        else
          let mappingIndex := 0x1600 + UInt16.ofNat i
          match s.1.od.read mappingIndex 0 with
          | some (.unsigned8 numEntries) =>
              applyRpdoMapping payload sourceNodeId s (mappingEntries s.1.od mappingIndex numEntries)
          | _ => some s

/-- The states differ at most in the dictionary and in the embedded channels. -/
def Received (s s' : PdoState σ) : Prop :=
  ∃ od server client, s' = ({ s.1 with
    od := od
    embeddedSdoServer := server
    embeddedSdoClient := client }, s.2)

omit [ObjectDictionaryStorage σ] in
theorem Received.refl (s : PdoState σ) : Received s s := ⟨_, _, _, rfl⟩

omit [ObjectDictionaryStorage σ] in
theorem Received.trans {s s' s'' : PdoState σ} (h : Received s s') (h' : Received s' s'') :
    Received s s'' := by
  obtain ⟨_, _, _, rfl⟩ := h
  obtain ⟨od, server, client, rfl⟩ := h'
  exact ⟨od, server, client, rfl⟩

/-- An entry goes to a channel or to the dictionary; its errors are not counted. -/
theorem received_applyRpdoMappingEntry {s s' : PdoState σ} {entry : PdoMappingEntry}
    {payload : List UInt8} {source : NodeId} {goOn : Bool}
    (h : applyRpdoMappingEntry s entry payload source = some (goOn, s')) : Received s s' := by
  have done : ∀ {r}, some r = some (goOn, s') → Received s r.2 → Received s s' := by
    rintro ⟨_, r⟩ hr hreceived
    rwa [← (Prod.mk.inj (Option.some.inj hr)).2]
  unfold applyRpdoMappingEntry at h
  split at h
  · split_ifs at h
    · exact done h ⟨_, _, _, rfl⟩
    · exact done h ⟨_, _, _, rfl⟩
    · obtain ⟨client, -, h⟩ := Option.bind_eq_some_iff.mp h
      exact done h ⟨_, _, _, rfl⟩
    · split at h
      · exact done h (.refl s)
      · dsimp only at h
        split at h
        · exact done h ⟨_, _, _, rfl⟩
        · split_ifs at h
          · exact done h ⟨_, _, _, rfl⟩
          · exact done h ⟨_, _, _, rfl⟩
  · exact done h (.refl s)

theorem received_applyRpdoMapping {payload : List UInt8} {source : NodeId} :
    ∀ {entries : List PdoMappingEntry} {s s' : PdoState σ},
      applyRpdoMapping payload source s entries = some s' → Received s s'
  | [], s, s', h => by
      rw [← Option.some.inj h]
      exact .refl s
  | entry :: entries, s, s', h => by
      obtain ⟨⟨goOn, r⟩, hentry, h⟩ := Option.bind_eq_some_iff.mp h
      have hr := received_applyRpdoMappingEntry hentry
      dsimp only at h
      split_ifs at h
      · exact hr.trans (received_applyRpdoMapping h)
      · rw [← Option.some.inj h]
        exact hr

theorem received_consumePdoPayload {s s' : PdoState σ} {source : NodeId} {payload : List UInt8}
    {version : PDOVersion} {isReady : Bool}
    (h : consumePdoPayload s source payload version isReady = some s') : Received s s' := by
  unfold consumePdoPayload at h
  split_ifs at h
  · rw [← Option.some.inj h]
    exact .refl s
  · split at h
    · rw [← Option.some.inj h]
      exact .refl s
    · dsimp only at h
      split_ifs at h
      · rw [← Option.some.inj h]
        exact ⟨_, _, _, rfl⟩
      · split at h
        · exact received_applyRpdoMapping h
        · rw [← Option.some.inj h]
          exact .refl s

/-! ### Sent payloads -/

omit [ObjectDictionaryStorage σ] in
/-- Writes octets into a payload. -/
def overwrite (payload : List UInt8) (offset : ℕ) (data : List UInt8) : List UInt8 :=
  payload.take offset ++ data ++ payload.drop (offset + data.length)

omit [ObjectDictionaryStorage σ] in
/-- One entry of the loop of `build_tpdo_payload`. -/
def buildTpdoEntry (core : CoreNodeContext σ) (payloadLimit : ℕ) (payload : List UInt8)
    (entry : PdoMappingEntry) : Except PowerlinkError (List UInt8) × CoreNodeContext σ :=
  match entry.byteOffset, entry.byteLength with
  | some offset, some length =>
      if payloadLimit < offset + length then (.error .pdoMapOverrun, core)
      else if isServerChannel entry.index then
        let r := core.embeddedSdoServer.getPendingResponse entry.index length
        (.ok (overwrite payload offset r.1), { core with embeddedSdoServer := r.2 })
      else if isClientChannel entry.index then
        let r := core.embeddedSdoClient.getPendingRequest entry.index length
        (.ok (overwrite payload offset r.1), { core with embeddedSdoClient := r.2 })
      else match core.od.read entry.index entry.subIndex with
        | none => (.ok payload, core)
        | some value => (.ok (overwrite payload offset (value.serialize.take length)), core)
  | _, _ => (.ok payload, core)

omit [ObjectDictionaryStorage σ] in
/-- The loop over the mapping entries. -/
def buildTpdoEntries (payloadLimit : ℕ) : CoreNodeContext σ → List UInt8 → List PdoMappingEntry →
    Except PowerlinkError (List UInt8) × CoreNodeContext σ
  | core, payload, [] => (.ok payload, core)
  | core, payload, entry :: entries =>
      match buildTpdoEntry core payloadLimit payload entry with
      | (.error e, core) => (.error e, core)
      | (.ok payload, core) => buildTpdoEntries payloadLimit core payload entries

omit [ObjectDictionaryStorage σ] in
/-- `build_tpdo_payload`. -/
def buildTpdoPayload (core : CoreNodeContext σ) (channelIndex : UInt8) :
    Except PowerlinkError (List UInt8 × PDOVersion) × CoreNodeContext σ :=
  let commParamIndex : UInt16 := 0x1800 + channelIndex.toUInt16
  let mappingIndex : UInt16 := 0x1A00 + channelIndex.toUInt16
  let targetNodeId := (core.od.readU8 commParamIndex 1).getD 0
  let pdoVersion : PDOVersion := ⟨(core.od.readU8 commParamIndex 2).getD 0⟩
  let payloadLimit := min ((core.od.readU16 0x1F8B targetNodeId).getD 36).toNat 1490
  let payload := List.replicate payloadLimit 0
  match core.od.read mappingIndex 0 with
  | some (.unsigned8 numEntries) =>
      match buildTpdoEntries payloadLimit core payload
          (mappingEntries core.od mappingIndex numEntries) with
      | (.error e, core) => (.error e, core)
      | (.ok payload, core) => (.ok (payload, pdoVersion), core)
  | _ => (.ok (payload, pdoVersion), core)

/-! ### The length of a payload -/

section length

omit [ObjectDictionaryStorage σ]

theorem length_overwrite {payload data : List UInt8} {offset : ℕ}
    (h : offset + data.length ≤ payload.length) :
    (overwrite payload offset data).length = payload.length := by
  simp only [overwrite, List.length_append, List.length_take, List.length_drop]
  omega

/-- An entry is written inside of the payload. -/
theorem length_buildTpdoEntry {core core' : CoreNodeContext σ} {payload payload' : List UInt8}
    {entry : PdoMappingEntry}
    (h : buildTpdoEntry core payload.length payload entry = (.ok payload', core')) :
    payload'.length = payload.length := by
  unfold buildTpdoEntry at h
  split at h
  · rename_i offset length _ _
    split_ifs at h with hlimit
    · cases h
    · obtain ⟨h, -⟩ := Prod.mk.inj h
      obtain rfl := Except.ok.inj h
      apply length_overwrite
      rw [EmbeddedSdoServer.length_getPendingResponse]
      omega
    · obtain ⟨h, -⟩ := Prod.mk.inj h
      obtain rfl := Except.ok.inj h
      apply length_overwrite
      rw [EmbeddedSdoClient.length_getPendingRequest]
      omega
    · split at h
      · obtain ⟨h, -⟩ := Prod.mk.inj h
        rw [← Except.ok.inj h]
      · rename_i value _
        obtain ⟨h, -⟩ := Prod.mk.inj h
        obtain rfl := Except.ok.inj h
        apply length_overwrite
        have htake : (value.serialize.take length).length ≤ length := List.length_take_le _ _
        omega
  · obtain ⟨h, -⟩ := Prod.mk.inj h
    rw [← Except.ok.inj h]

theorem length_buildTpdoEntries {n : ℕ} : ∀ {entries : List PdoMappingEntry}
    {core core' : CoreNodeContext σ} {payload payload' : List UInt8}, payload.length = n →
    buildTpdoEntries n core payload entries = (.ok payload', core') → payload'.length = n
  | [], _, _, _, _, hlen, h => by
      obtain ⟨h, -⟩ := Prod.mk.inj h
      rwa [← Except.ok.inj h]
  | entry :: entries, core, _, payload, _, hlen, h => by
      rw [buildTpdoEntries] at h
      split at h
      · cases h
      · rename_i heq
        rw [← hlen] at heq
        exact length_buildTpdoEntries ((length_buildTpdoEntry heq).trans hlen) h

/-- A payload fits into a frame. -/
theorem length_buildTpdoPayload {core core' : CoreNodeContext σ} {channelIndex : UInt8}
    {payload : List UInt8} {version : PDOVersion}
    (h : buildTpdoPayload core channelIndex = (.ok (payload, version), core')) :
    payload.length ≤ 1490 := by
  dsimp only [buildTpdoPayload] at h
  split at h
  · split at h
    · cases h
    · rename_i heq
      obtain ⟨h, -⟩ := Prod.mk.inj h
      obtain ⟨rfl, -⟩ := Prod.mk.inj (Except.ok.inj h)
      rw [length_buildTpdoEntries List.length_replicate heq]
      exact min_le_right _ _
  · obtain ⟨h, -⟩ := Prod.mk.inj h
    obtain ⟨rfl, -⟩ := Prod.mk.inj (Except.ok.inj h)
    rw [List.length_replicate]
    exact min_le_right _ _

end length

end Powerlink
