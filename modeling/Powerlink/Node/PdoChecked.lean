import Powerlink.Node.Consumption
import Powerlink.Od.Panics
import Powerlink.Sdo.ClientPanics

/-! # Process data with every slice and every sum checked

The functions that pack and unpack process data, transcribed with `none` for a slice out of range, a
copy between slices of different length and an arithmetic overflow.  All of them compute what the
model of them computes (`CnContext.buildTpdoPayloadChecked_eq`, `buildTpdoPayloadChecked_eq`,
`consumePdoPayloadChecked_eq`).  A word of sixteen bits is checked at `2 ^ 16` and a size at `2 ^ 64`;
the length of a value in bits is taken to be a size. -/

namespace Powerlink

open LittleEndian Slices

variable {σ : Type}

/-! ### The layout of an entry -/

/-- The offset and the length of an entry are octets of a payload of at most 2^16 bits. -/
theorem byteOffset_lt {entry : PdoMappingEntry} {offset : ℕ}
    (h : entry.byteOffset = some offset) : offset < 8192 := by
  unfold PdoMappingEntry.byteOffset at h
  split_ifs at h
  have hword : entry.offsetBits.toNat < 2 ^ 16 := entry.offsetBits.toNat_lt
  have hoffset := Option.some.inj h
  omega

theorem byteLength_lt {entry : PdoMappingEntry} {length : ℕ}
    (h : entry.byteLength = some length) : length < 8192 := by
  unfold PdoMappingEntry.byteLength at h
  split_ifs at h
  have hword : entry.lengthBits.toNat < 2 ^ 16 := entry.lengthBits.toNat_lt
  have hlength := Option.some.inj h
  omega

/-! ### The embedded channels -/

/-- The contents of a container with the slice checked. -/
def fillContainerChecked (payload : List UInt8) (containerLen : ℕ) : Option (List UInt8) :=
  if containerLen < payload.length then slice payload 0 containerLen
  else some (payload ++ List.replicate (containerLen - payload.length) 0)

theorem fillContainerChecked_eq (payload : List UInt8) (containerLen : ℕ) :
    fillContainerChecked payload containerLen = some (fillContainer payload containerLen) := by
  unfold fillContainerChecked fillContainer
  split_ifs with h
  · have hpad : containerLen - payload.length = 0 := by omega
    rw [slice_zero h.le, hpad, List.replicate_zero, List.append_nil]
  · rw [List.take_of_length_le (Nat.not_lt.mp h)]

namespace EmbeddedSdoServer

/-- `EmbeddedSdoServer::get_pending_response` with its slice checked. -/
def getPendingResponseChecked (server : EmbeddedSdoServer) (channelIndex : UInt16)
    (containerLen : ℕ) : Option (List UInt8 × EmbeddedSdoServer) := do
  let conn := (server.connections.get? channelIndex).getD {}
  let container ← match conn.pendingResponse with
    | some payload => fillContainerChecked payload containerLen
    | none => some (List.replicate containerLen 0)
  some (container,
    ⟨server.connections.insert channelIndex { conn with pendingResponse := none }⟩)

theorem getPendingResponseChecked_eq (server : EmbeddedSdoServer) (channelIndex : UInt16)
    (containerLen : ℕ) :
    server.getPendingResponseChecked channelIndex containerLen =
      some (server.getPendingResponse channelIndex containerLen) := by
  unfold getPendingResponseChecked getPendingResponse
  dsimp only
  cases ((server.connections.get? channelIndex).getD {}).pendingResponse with
  | some payload =>
      dsimp only
      rw [fillContainerChecked_eq]
      rfl
  | none => rfl

variable [ObjectDictionaryStorage σ]

/-- The answer to a command, with the slices and the arithmetic checked. -/
def executeChecked (req : PdoSdoCommand) (od : ObjectDictionary σ) :
    Option (Except UInt32 (List UInt8) × ObjectDictionary σ) :=
  match req.commandId with
  | .readByIndex => do
      match ← od.readChecked req.index req.subIndex with
      | some value => some (.ok value.serialize, od)
      | none => some (.error (missingCode od req.index), od)
  | .writeByIndex => do
      match ← od.readChecked req.index req.subIndex with
      | none => some (.error (missingCode od req.index), od)
      | some template => do
          match ← ObjectValue.deserializeChecked req.data template with
          | .error _ => some (.error 0x06070010, od)
          | .ok value => do
              match ← od.writeChecked req.index req.subIndex value with
              | (.ok (), od') => some (.ok [], od')
              | (.error e, od') => some (.error (writeErrorCode e), od')
  | _ => some (.error 0x05040001, od)

theorem executeChecked_eq (req : PdoSdoCommand) (od : ObjectDictionary σ) :
    executeChecked req od = some (execute req od) := by
  unfold executeChecked execute
  cases req.commandId with
  | readByIndex =>
      dsimp only
      rw [od.readChecked_eq]
      cases od.read req.index req.subIndex with
      | none => rfl
      | some value => rfl
  | writeByIndex =>
      dsimp only
      rw [od.readChecked_eq]
      cases od.read req.index req.subIndex with
      | none => rfl
      | some template =>
          dsimp only [bind, Option.bind]
          rw [ObjectValue.deserializeChecked_eq]
          cases ObjectValue.deserialize req.data template with
          | error e => rfl
          | ok value =>
              dsimp only
              rw [od.writeChecked_eq]
              rcases od.write req.index req.subIndex value with ⟨_ | _, od'⟩
              · rfl
              · rfl
  | _ => rfl

/-- `EmbeddedSdoServer::handle_request` with its slices and its arithmetic checked. -/
def handleRequestChecked (server : EmbeddedSdoServer) (channelIndex : UInt16)
    (payload : List UInt8) (od : ObjectDictionary σ) :
    Option (EmbeddedSdoServer × ObjectDictionary σ) := do
  let conn := (server.connections.get? channelIndex).getD {}
  let opened : EmbeddedSdoServer := ⟨server.connections.insert channelIndex conn⟩
  match ← PdoSdoCommand.deserializeChecked payload with
  | .error _ => some (opened, od)
  | .ok command =>
      let seq := command.sequenceHeader.sequenceNumber
      if seq = conn.lastSequenceNumber then some (opened, od)
      else if seq ≠ (conn.lastSequenceNumber + 1) % 64 then some (opened, od)
      else do
        let _ ← executeChecked command od
        let r := processCommand command od seq
        some (⟨server.connections.insert channelIndex ⟨seq, some r.1⟩⟩, r.2)

/-- A server does not panic. -/
theorem handleRequestChecked_eq (server : EmbeddedSdoServer) (channelIndex : UInt16)
    (payload : List UInt8) (od : ObjectDictionary σ) :
    server.handleRequestChecked channelIndex payload od =
      some (server.handleRequest channelIndex payload od) := by
  unfold handleRequestChecked handleRequest
  dsimp only
  rw [PdoSdoCommand.deserializeChecked_eq]
  cases PdoSdoCommand.deserialize payload with
  | error e => rfl
  | ok command =>
      dsimp only [bind, Option.bind]
      split_ifs
      · rfl
      · rfl
      · rw [executeChecked_eq]

end EmbeddedSdoServer

/-! ### Received payloads -/

/-- `update_pdo_error_object` with its arithmetic checked. -/
def updatePdoErrorObjectChecked (od : ObjectDictionary σ) (objectIndex : UInt16)
    (sourceNodeId : NodeId) : Option (ObjectDictionary σ) :=
  if sourceNodeId.id = 0 ∨ cAdrMnDefNodeId.id ≤ sourceNodeId.id then some od
  else do
    let node ← checkedSub sourceNodeId.id.toNat 1
    let _ ← checkedBelow 8 (node % 8)
    match ← od.readChecked objectIndex 0 with
    | some (.octetString bytes) =>
        match bytes[node / 8]? with
        | some byte => do
            let value := bytes.set (node / 8) (byte ||| (1 <<< ((sourceNodeId.id - 1) % 8)))
            let r ← od.writeInternalChecked objectIndex 0 (.octetString value) false
            some r.2
        | none => some od
    | _ => some od

theorem updatePdoErrorObjectChecked_eq (od : ObjectDictionary σ) (objectIndex : UInt16)
    (sourceNodeId : NodeId) :
    updatePdoErrorObjectChecked od objectIndex sourceNodeId =
      some (updatePdoErrorObject od objectIndex sourceNodeId) := by
  unfold updatePdoErrorObjectChecked updatePdoErrorObject
  by_cases hnone : sourceNodeId.id = 0 ∨ cAdrMnDefNodeId.id ≤ sourceNodeId.id
  · rw [if_pos hnone, if_pos hnone]
  · rw [if_neg hnone, if_neg hnone]
    have hpos : (1 : UInt8) ≤ sourceNodeId.id := by
      have hne := (not_or.mp hnone).1
      exact UInt8.pos_iff_ne_zero.mpr hne
    have hnode : (sourceNodeId.id - 1).toNat = sourceNodeId.id.toNat - 1 :=
      UInt8.toNat_sub_of_le _ _ hpos
    have hle : 1 ≤ sourceNodeId.id.toNat := UInt8.le_iff_toNat_le.mp hpos
    rw [checkedSub_eq_some hle, ← hnode]
    dsimp only [bind, Option.bind]
    rw [checkedBelow_eq_some (Nat.mod_lt _ (by decide)), od.readChecked_eq]
    cases od.read objectIndex 0 with
    | none => rfl
    | some value =>
        cases value with
        | octetString bytes =>
            dsimp only
            cases bytes[(sourceNodeId.id - 1).toNat / 8]? with
            | none => rfl
            | some byte =>
                dsimp only
                rw [od.writeInternalChecked_eq]
        | _ => rfl

/-- The first RPDO channel configured for a source, with the arithmetic checked. -/
def findRpdoChannelChecked (od : ObjectDictionary σ) (sourceNodeId : NodeId) :
    List ℕ → Option (Option ℕ)
  | [] => some none
  | i :: is => do
      let commParamIndex ← checkedBelow (2 ^ 16) (0x1400 + i)
      let nodeIdVal ← od.readU8Checked (UInt16.ofNat commParamIndex) 1
      if (match nodeIdVal with
        | some nodeIdVal => matchesSource sourceNodeId nodeIdVal
        | none => false) then some (some i)
      else findRpdoChannelChecked od sourceNodeId is

theorem findRpdoChannelChecked_eq (od : ObjectDictionary σ) (sourceNodeId : NodeId) :
    findRpdoChannelChecked od sourceNodeId (List.range 256) =
      some (findRpdoChannel od sourceNodeId) := by
  unfold findRpdoChannel
  have hrange : ∀ i ∈ List.range 256, i < 256 := fun i hi => List.mem_range.mp hi
  generalize List.range 256 = is at hrange ⊢
  induction is with
  | nil => rfl
  | cons i is ih =>
      have hi := hrange i List.mem_cons_self
      have hindex : UInt16.ofNat (0x1400 + i) = 0x1400 + UInt16.ofNat i := UInt16.ofNat_add _ _
      rw [findRpdoChannelChecked, checkedBelow_eq_some (by omega), List.find?_cons]
      dsimp only [bind, Option.bind]
      rw [hindex, od.readU8Checked_eq]
      dsimp only
      rw [ih fun i' hi' => hrange i' (List.mem_cons_of_mem i hi')]
      cases od.readU8 (0x1400 + UInt16.ofNat i) 1 with
      | none => rfl
      | some nodeIdVal =>
          dsimp only
          by_cases hmatches : matchesSource sourceNodeId nodeIdVal = true
          · rw [if_pos hmatches, hmatches]
          · rw [if_neg hmatches, Bool.eq_false_of_not_eq_true hmatches]

/-- The mapping entries that can be read, with the arithmetic checked. -/
def mappingEntriesChecked (od : ObjectDictionary σ) (mappingIndex : UInt16) (numEntries : UInt8) :
    Option (List PdoMappingEntry) := do
  let values ← (List.range numEntries.toNat).mapM fun i =>
    od.readChecked mappingIndex (UInt8.ofNat (i + 1))
  some (values.filterMap fun value =>
    match value with
    | some (.unsigned64 raw) => some (.fromU64 raw)
    | _ => none)

theorem mapM_readChecked (od : ObjectDictionary σ) (mappingIndex : UInt16) (numEntries : UInt8) :
    ((List.range numEntries.toNat).mapM fun i =>
      od.readChecked mappingIndex (UInt8.ofNat (i + 1))) =
        some ((List.range numEntries.toNat).map fun i =>
          od.read mappingIndex (UInt8.ofNat (i + 1))) := by
  simp only [ObjectDictionary.readChecked_eq]
  exact List.mapM_pure

theorem mappingEntriesChecked_eq (od : ObjectDictionary σ) (mappingIndex : UInt16)
    (numEntries : UInt8) :
    mappingEntriesChecked od mappingIndex numEntries =
      some (mappingEntries od mappingIndex numEntries) := by
  unfold mappingEntriesChecked mappingEntries
  rw [mapM_readChecked]
  dsimp only [bind, Option.bind]
  rw [List.filterMap_map]
  rfl

variable [ObjectDictionaryStorage σ]

/-- `apply_rpdo_mapping_entry` with its slices and its arithmetic checked. -/
def applyRpdoMappingEntryChecked (s : PdoState σ) (entry : PdoMappingEntry) (payload : List UInt8)
    (sourceNodeId : NodeId) : Option (Bool × PdoState σ) :=
  match entry.byteOffset, entry.byteLength with
  | some offset, some length => do
      let stop ← checkedBelow (2 ^ 64) (offset + length)
      if payload.length < stop then do
        let s := pdoError s (.pdoPayloadShort sourceNodeId)
        let od ← updatePdoErrorObjectChecked s.1.od 0x1C81 sourceNodeId
        some (false, { s.1 with od := od }, s.2)
      else do
        let dataSlice ← slice payload offset stop
        if isServerChannel entry.index then do
          let r ← s.1.embeddedSdoServer.handleRequestChecked entry.index dataSlice s.1.od
          some (true, { s.1 with embeddedSdoServer := r.1, od := r.2 }, s.2)
        else if isClientChannel entry.index then do
          let client ← s.1.embeddedSdoClient.handleResponseChecked entry.index dataSlice
          some (true, { s.1 with embeddedSdoClient := client }, s.2)
        else do
          match ← s.1.od.readChecked entry.index entry.subIndex with
          | none => some (true, s)
          | some typeTemplate => do
              match ← ObjectValue.deserializeChecked dataSlice typeTemplate with
              | .error _ => some (false, pdoError s (.pdoPayloadShort sourceNodeId))
              | .ok value =>
                  if value.discriminant ≠ typeTemplate.discriminant then
                    some (false, pdoError s (.pdoMapVersion sourceNodeId))
                  else do
                    let r ← s.1.od.writeInternalChecked entry.index entry.subIndex value false
                    some (true, { s.1 with od := r.2 }, s.2)
  | _, _ => some (true, s)

theorem applyRpdoMappingEntryChecked_eq (s : PdoState σ) (entry : PdoMappingEntry)
    (payload : List UInt8) (sourceNodeId : NodeId) :
    applyRpdoMappingEntryChecked s entry payload sourceNodeId =
      applyRpdoMappingEntry s entry payload sourceNodeId := by
  unfold applyRpdoMappingEntryChecked applyRpdoMappingEntry
  cases hoffset : entry.byteOffset with
  | none => rfl
  | some offset =>
      cases hlength : entry.byteLength with
      | none => rfl
      | some length =>
          have hoffset := byteOffset_lt hoffset
          have hlength := byteLength_lt hlength
          dsimp only
          rw [checkedBelow_eq_some (by omega)]
          dsimp only [bind, Option.bind]
          by_cases hshort : payload.length < offset + length
          · rw [if_pos hshort, if_pos hshort, updatePdoErrorObjectChecked_eq]
          · rw [if_neg hshort, if_neg hshort,
              slice_eq_some (Nat.le_add_right _ _) (Nat.not_lt.mp hshort), Nat.add_sub_cancel_left]
            dsimp only
            rw [EmbeddedSdoServer.handleRequestChecked_eq,
              EmbeddedSdoClient.handleResponseChecked_eq, ObjectDictionary.readChecked_eq]
            split_ifs
            · rfl
            · rfl
            · cases s.1.od.read entry.index entry.subIndex with
              | none => rfl
              | some typeTemplate =>
                  dsimp only
                  rw [ObjectValue.deserializeChecked_eq]
                  cases ObjectValue.deserialize ((payload.drop offset).take length)
                    typeTemplate with
                  | error e => rfl
                  | ok value =>
                      dsimp only
                      rw [ObjectDictionary.writeInternalChecked_eq]

/-- The loop over the mapping entries, with the checks of its entries. -/
def applyRpdoMappingChecked (payload : List UInt8) (sourceNodeId : NodeId) :
    PdoState σ → List PdoMappingEntry → Option (PdoState σ)
  | s, [] => some s
  | s, entry :: entries => do
      let (goOn, s) ← applyRpdoMappingEntryChecked s entry payload sourceNodeId
      if goOn then applyRpdoMappingChecked payload sourceNodeId s entries else some s

theorem applyRpdoMappingChecked_eq (payload : List UInt8) (sourceNodeId : NodeId)
    (entries : List PdoMappingEntry) (s : PdoState σ) :
    applyRpdoMappingChecked payload sourceNodeId s entries =
      applyRpdoMapping payload sourceNodeId s entries := by
  induction entries generalizing s with
  | nil => rfl
  | cons entry entries ih =>
      rw [applyRpdoMappingChecked, applyRpdoMapping, applyRpdoMappingEntryChecked_eq]
      simp only [ih]

/-- `consume_pdo_payload` with its slices and its arithmetic checked. -/
def consumePdoPayloadChecked (s : PdoState σ) (sourceNodeId : NodeId) (payload : List UInt8)
    (receivedVersion : PDOVersion) (isReady : Bool) : Option (PdoState σ) :=
  if !isReady then some s
  else do
    match ← findRpdoChannelChecked s.1.od sourceNodeId (List.range 256) with
    | none => some s
    | some i => do
        let expectedVersion ← s.1.od.readU8Checked (0x1400 + UInt16.ofNat i) 2
        if !versionOk (expectedVersion.getD 0) receivedVersion.version then do
          let s := pdoError s (.pdoMapVersion sourceNodeId)
          let od ← updatePdoErrorObjectChecked s.1.od 0x1C80 sourceNodeId
          some ({ s.1 with od := od }, s.2)
        else do
          let mappingIndex ← checkedBelow (2 ^ 16) (0x1600 + i)
          let mappingIndex := UInt16.ofNat mappingIndex
          match ← s.1.od.readChecked mappingIndex 0 with
          | some (.unsigned8 numEntries) => do
              let entries ← mappingEntriesChecked s.1.od mappingIndex numEntries
              applyRpdoMappingChecked payload sourceNodeId s entries
          | _ => some s

omit [ObjectDictionaryStorage σ] in
theorem findRpdoChannel_lt {od : ObjectDictionary σ} {sourceNodeId : NodeId} {i : ℕ}
    (h : findRpdoChannel od sourceNodeId = some i) : i < 256 :=
  List.mem_range.mp (List.mem_of_find?_eq_some h)

/-- The checks of a consumer are those of its embedded client. -/
theorem consumePdoPayloadChecked_eq (s : PdoState σ) (sourceNodeId : NodeId)
    (payload : List UInt8) (receivedVersion : PDOVersion) (isReady : Bool) :
    consumePdoPayloadChecked s sourceNodeId payload receivedVersion isReady =
      consumePdoPayload s sourceNodeId payload receivedVersion isReady := by
  unfold consumePdoPayloadChecked consumePdoPayload
  rw [findRpdoChannelChecked_eq]
  cases isReady with
  | false => rfl
  | true =>
      simp only [Bool.not_true, Bool.false_eq_true, if_false, bind, Option.bind]
      cases hchannel : findRpdoChannel s.1.od sourceNodeId with
      | none => rfl
      | some i =>
          have hi := findRpdoChannel_lt hchannel
          have hindex : UInt16.ofNat (0x1600 + i) = 0x1600 + UInt16.ofNat i :=
            UInt16.ofNat_add _ _
          dsimp only
          rw [ObjectDictionary.readU8Checked_eq, updatePdoErrorObjectChecked_eq,
            checkedBelow_eq_some (by omega)]
          dsimp only
          rw [hindex, ObjectDictionary.readChecked_eq]
          split_ifs
          · rfl
          · cases s.1.od.read (0x1600 + UInt16.ofNat i) 0 with
            | none => rfl
            | some value =>
                cases value with
                | unsigned8 numEntries =>
                    dsimp only
                    rw [mappingEntriesChecked_eq]
                    exact applyRpdoMappingChecked_eq payload sourceNodeId _ s
                | _ => rfl

/-! ### Sent payloads -/

section sent

omit [ObjectDictionaryStorage σ]

/-- A copy over the part of a payload that starts at an offset. -/
theorem copyInto_overwrite {payload data : List UInt8} {offset length : ℕ}
    (hdata : data.length = length) (hstop : offset + length ≤ payload.length) :
    copyInto payload offset (offset + length) data = some (overwrite payload offset data) := by
  subst hdata
  exact copyInto_eq_some (Nat.le_add_right _ _) hstop (Nat.add_sub_cancel_left _ _).symm

namespace CnContext

/-- `apply_tpdo_mapping_entry` with its slices, copies and arithmetic checked. -/
def applyTpdoMappingEntryChecked (core : CoreNodeContext σ) (payload : List UInt8)
    (entry : PdoMappingEntry) :
    Option (Except PowerlinkError (List UInt8) × CoreNodeContext σ) :=
  match entry.byteOffset, entry.byteLength with
  | some offset, some length => do
      let stop ← checkedBelow (2 ^ 64) (offset + length)
      if payload.length < stop then do
        let _ ← checkedBelow 65536 (stop % 65536 * 8)
        some (.error .bufferTooShort, core)
      else do
        let _ ← slice payload offset stop
        if isServerChannel entry.index then do
          let r ← core.embeddedSdoServer.getPendingResponseChecked entry.index length
          let payload ← copyInto payload offset stop r.1
          some (.ok payload, { core with embeddedSdoServer := r.2 })
        else if isClientChannel entry.index then do
          let r := core.embeddedSdoClient.getPendingRequest entry.index length
          let payload ← copyInto payload offset stop r.1
          some (.ok payload, { core with embeddedSdoClient := r.2 })
        else do
          match ← core.od.readChecked entry.index entry.subIndex with
          | none => some (.ok payload, core)
          | some value =>
              if value.serialize.length ≠ length then do
                let _ ← checkedBelow 65536 (length % 65536 * 8)
                some (.error .typeMismatch, core)
              else do
                let payload ← copyInto payload offset stop value.serialize
                some (.ok payload, core)
  | _, _ => some (.ok payload, core)

/-- A payload has at most 1490 octets. -/
theorem applyTpdoMappingEntryChecked_eq (core : CoreNodeContext σ) {payload : List UInt8}
    (hpayload : payload.length ≤ 1490) (entry : PdoMappingEntry) :
    applyTpdoMappingEntryChecked core payload entry =
      applyTpdoMappingEntry core payload entry := by
  unfold applyTpdoMappingEntryChecked applyTpdoMappingEntry
  cases hoffset : entry.byteOffset with
  | none => rfl
  | some offset =>
      cases hlength : entry.byteLength with
      | none => rfl
      | some length =>
          have hoffset := byteOffset_lt hoffset
          have hlength := byteLength_lt hlength
          dsimp only
          rw [checkedBelow_eq_some (by omega)]
          dsimp only [bind, Option.bind]
          by_cases hshort : payload.length < offset + length
          · rw [if_pos hshort, if_pos hshort]
            by_cases hbits : (offset + length) % 65536 * 8 < 65536
            · rw [if_pos hbits, checkedBelow_eq_some hbits]
            · rw [if_neg hbits, checkedBelow, if_neg hbits]
          · have hstop := Nat.not_lt.mp hshort
            rw [if_neg hshort, if_neg hshort, slice_eq_some (Nat.le_add_right _ _) hstop]
            dsimp only
            rw [EmbeddedSdoServer.getPendingResponseChecked_eq]
            dsimp only
            rw [copyInto_overwrite (EmbeddedSdoServer.length_getPendingResponse _ _ _) hstop,
              copyInto_overwrite (EmbeddedSdoClient.length_getPendingRequest _ _ _) hstop,
              core.od.readChecked_eq]
            split_ifs
            · rfl
            · rfl
            · cases core.od.read entry.index entry.subIndex with
              | none => rfl
              | some value =>
                  dsimp only
                  by_cases hvalue : value.serialize.length = length
                  · rw [if_neg (not_not.mpr hvalue), if_neg (not_not.mpr hvalue),
                      copyInto_overwrite hvalue hstop]
                  · rw [if_pos hvalue, if_pos hvalue, checkedBelow_eq_some (by omega)]

/-- The loop over the mapping entries, with the checks of its entries and of the highest octet. -/
def applyTpdoMappingChecked : CoreNodeContext σ → List UInt8 → List PdoMappingEntry →
    Option (Except PowerlinkError (List UInt8) × CoreNodeContext σ)
  | core, payload, [] => some (.ok payload, core)
  | core, payload, entry :: entries => do
      match ← applyTpdoMappingEntryChecked core payload entry with
      | (.error e, core) => some (.error e, core)
      | (.ok payload, core) => do
          let _ ← checkedBelow (2 ^ 64) (entry.byteOffset.getD 0 + entry.byteLength.getD 0)
          applyTpdoMappingChecked core payload entries

/-- An entry leaves the length of the payload as it is. -/
theorem length_applyTpdoMappingEntry {core core' : CoreNodeContext σ} {payload payload' : List UInt8}
    {entry : PdoMappingEntry}
    (h : applyTpdoMappingEntry core payload entry = some (.ok payload', core')) :
    payload'.length = payload.length := by
  unfold applyTpdoMappingEntry at h
  split at h
  · rename_i offset length _ _
    split_ifs at h with hshort
    · cases (Prod.mk.inj (Option.some.inj h)).1
    · obtain ⟨h, -⟩ := Prod.mk.inj (Option.some.inj h)
      obtain rfl := Except.ok.inj h
      apply length_overwrite
      rw [EmbeddedSdoServer.length_getPendingResponse]
      omega
    · obtain ⟨h, -⟩ := Prod.mk.inj (Option.some.inj h)
      obtain rfl := Except.ok.inj h
      apply length_overwrite
      rw [EmbeddedSdoClient.length_getPendingRequest]
      omega
    · split at h
      · obtain ⟨h, -⟩ := Prod.mk.inj (Option.some.inj h)
        rw [← Except.ok.inj h]
      · split_ifs at h with hvalue
        · cases (Prod.mk.inj (Option.some.inj h)).1
        · obtain ⟨h, -⟩ := Prod.mk.inj (Option.some.inj h)
          obtain rfl := Except.ok.inj h
          apply length_overwrite
          omega
  · obtain ⟨h, -⟩ := Prod.mk.inj (Option.some.inj h)
    rw [← Except.ok.inj h]

theorem applyTpdoMappingChecked_eq (entries : List PdoMappingEntry) (core : CoreNodeContext σ)
    {payload : List UInt8} (hpayload : payload.length ≤ 1490) :
    applyTpdoMappingChecked core payload entries = applyTpdoMapping core payload entries := by
  induction entries generalizing core payload with
  | nil => rfl
  | cons entry entries ih =>
      have hend : entry.byteOffset.getD 0 + entry.byteLength.getD 0 < 2 ^ 64 := by
        have hoffset : entry.byteOffset.getD 0 < 8192 := by
          cases hoffset : entry.byteOffset with
          | none => decide
          | some offset => exact byteOffset_lt hoffset
        have hlength : entry.byteLength.getD 0 < 8192 := by
          cases hlength : entry.byteLength with
          | none => decide
          | some length => exact byteLength_lt hlength
        omega
      rw [applyTpdoMappingChecked, applyTpdoMapping, applyTpdoMappingEntryChecked_eq core hpayload,
        checkedBelow_eq_some hend]
      cases hentry : applyTpdoMappingEntry core payload entry with
      | none => rfl
      | some r =>
          obtain ⟨result, core'⟩ := r
          cases result with
          | error e => rfl
          | ok payload' => exact ih core' ((length_applyTpdoMappingEntry hentry).le.trans hpayload)

/-- The mapping entries of the TPDO, with the arithmetic checked. -/
def tpdoEntriesChecked (od : ObjectDictionary σ) (numEntries : UInt8) :
    Option (List PdoMappingEntry) := do
  let values ← (List.range numEntries.toNat).mapM fun i =>
    od.readChecked 0x1A00 (UInt8.ofNat (i + 1))
  some (values.map fun value =>
    match value with
    | some (.unsigned64 raw) => .fromU64 raw
    | _ => .fromU64 0)

theorem tpdoEntriesChecked_eq (od : ObjectDictionary σ) (numEntries : UInt8) :
    tpdoEntriesChecked od numEntries = some (tpdoEntries od numEntries) := by
  unfold tpdoEntriesChecked tpdoEntries
  rw [mapM_readChecked]
  dsimp only [bind, Option.bind]
  rw [List.map_map]
  rfl

/-- `CnContext::build_tpdo_payload` with its slices, copies and arithmetic checked. -/
def buildTpdoPayloadChecked (core : CoreNodeContext σ) :
    Option (Except PowerlinkError (List UInt8 × PDOVersion) × CoreNodeContext σ) := do
  let pdoVersion ← core.od.readU8Checked 0x1800 2
  let payloadLimit ← core.od.readU16Checked 0x1F98 5
  let payload := List.replicate (min (payloadLimit.getD 36).toNat 1490) 0
  let numEntries ← core.od.readU8Checked 0x1A00 0
  let entries ← tpdoEntriesChecked core.od (numEntries.getD 0)
  match ← applyTpdoMappingChecked core payload entries with
  | (.error e, core) => some (.error e, core)
  | (.ok payload, core) => some (.ok (payload, ⟨pdoVersion.getD 0⟩), core)

/-- The checks of a controlled node are that of the length in an error. -/
theorem buildTpdoPayloadChecked_eq (core : CoreNodeContext σ) :
    buildTpdoPayloadChecked core = buildTpdoPayload core := by
  have hpayload : (List.replicate (min (presPayloadLimit core.od) 1490) (0 : UInt8)).length ≤
      1490 := by
    rw [List.length_replicate]
    exact min_le_right _ _
  unfold buildTpdoPayloadChecked buildTpdoPayload
  rw [core.od.readU8Checked_eq, core.od.readU16Checked_eq, core.od.readU8Checked_eq]
  dsimp only [bind, Option.bind]
  rw [tpdoEntriesChecked_eq]
  dsimp only
  rw [← presPayloadLimit, applyTpdoMappingChecked_eq _ _ hpayload]
  rcases applyTpdoMapping core _ _ with _ | ⟨_ | _, core'⟩
  · rfl
  · rfl
  · rfl

end CnContext

/-- One entry of the loop of `build_tpdo_payload`, with its slices, copies and arithmetic checked. -/
def buildTpdoEntryChecked (core : CoreNodeContext σ) (payloadLimit : ℕ) (payload : List UInt8)
    (entry : PdoMappingEntry) :
    Option (Except PowerlinkError (List UInt8) × CoreNodeContext σ) :=
  match entry.byteOffset, entry.byteLength with
  | some offset, some length => do
      let endPos ← checkedBelow (2 ^ 64) (offset + length)
      if payloadLimit < endPos then some (.error .pdoMapOverrun, core)
      else do
        let dataSlice ← slice payload offset endPos
        if isServerChannel entry.index then do
          let r ← core.embeddedSdoServer.getPendingResponseChecked entry.index length
          let payload ← copyInto payload offset endPos r.1
          some (.ok payload, { core with embeddedSdoServer := r.2 })
        else if isClientChannel entry.index then do
          let r := core.embeddedSdoClient.getPendingRequest entry.index length
          let payload ← copyInto payload offset endPos r.1
          some (.ok payload, { core with embeddedSdoClient := r.2 })
        else do
          match ← core.od.readChecked entry.index entry.subIndex with
          | none => some (.ok payload, core)
          | some value =>
              if value.serialize.length ≠ length then do
                let copyLen := min value.serialize.length length
                let _ ← slice dataSlice 0 copyLen
                let data ← slice value.serialize 0 copyLen
                let payload ← copyInto payload offset (offset + copyLen) data
                some (.ok payload, core)
              else do
                let payload ← copyInto payload offset endPos value.serialize
                some (.ok payload, core)
  | _, _ => some (.ok payload, core)

theorem buildTpdoEntryChecked_eq (core : CoreNodeContext σ) (payload : List UInt8)
    (entry : PdoMappingEntry) :
    buildTpdoEntryChecked core payload.length payload entry =
      some (buildTpdoEntry core payload.length payload entry) := by
  unfold buildTpdoEntryChecked buildTpdoEntry
  cases hoffset : entry.byteOffset with
  | none => rfl
  | some offset =>
      cases hlength : entry.byteLength with
      | none => rfl
      | some length =>
          have hoffset := byteOffset_lt hoffset
          have hlength := byteLength_lt hlength
          dsimp only
          rw [checkedBelow_eq_some (by omega)]
          dsimp only [bind, Option.bind]
          by_cases hshort : payload.length < offset + length
          · rw [if_pos hshort, if_pos hshort]
          · have hstop := Nat.not_lt.mp hshort
            rw [if_neg hshort, if_neg hshort, slice_eq_some (Nat.le_add_right _ _) hstop]
            dsimp only
            rw [EmbeddedSdoServer.getPendingResponseChecked_eq]
            dsimp only
            rw [copyInto_overwrite (EmbeddedSdoServer.length_getPendingResponse _ _ _) hstop,
              copyInto_overwrite (EmbeddedSdoClient.length_getPendingRequest _ _ _) hstop,
              core.od.readChecked_eq]
            split_ifs
            · rfl
            · rfl
            · cases core.od.read entry.index entry.subIndex with
              | none => rfl
              | some value =>
                  dsimp only
                  by_cases hvalue : value.serialize.length = length
                  · rw [if_neg (not_not.mpr hvalue), copyInto_overwrite hvalue hstop,
                      List.take_of_length_le hvalue.le]
                  · -- only the octets that both the value and the part have are copied
                    have hpart : ((payload.drop offset).take (offset + length - offset)).length =
                        length := by
                      rw [List.length_take, List.length_drop]
                      omega
                    have htake : value.serialize.take (min value.serialize.length length) =
                        value.serialize.take length := by
                      rw [List.take_eq_take_iff]
                      omega
                    rw [if_pos hvalue, slice_zero (by rw [hpart]; exact min_le_right _ _),
                      slice_zero (min_le_left _ _)]
                    dsimp only
                    rw [copyInto_overwrite (by rw [List.length_take]; omega) (by omega), htake]

/-- The loop over the mapping entries, with the checks of its entries. -/
def buildTpdoEntriesChecked (payloadLimit : ℕ) : CoreNodeContext σ → List UInt8 →
    List PdoMappingEntry → Option (Except PowerlinkError (List UInt8) × CoreNodeContext σ)
  | core, payload, [] => some (.ok payload, core)
  | core, payload, entry :: entries => do
      match ← buildTpdoEntryChecked core payloadLimit payload entry with
      | (.error e, core) => some (.error e, core)
      | (.ok payload, core) => buildTpdoEntriesChecked payloadLimit core payload entries

theorem buildTpdoEntriesChecked_eq (entries : List PdoMappingEntry) (core : CoreNodeContext σ)
    (payload : List UInt8) :
    buildTpdoEntriesChecked payload.length core payload entries =
      some (buildTpdoEntries payload.length core payload entries) := by
  induction entries generalizing core payload with
  | nil => rfl
  | cons entry entries ih =>
      rw [buildTpdoEntriesChecked, buildTpdoEntries, buildTpdoEntryChecked_eq]
      cases hentry : buildTpdoEntry core payload.length payload entry with
      | mk result core' =>
          cases result with
          | error e => rfl
          | ok payload' =>
              have hlength := length_buildTpdoEntry hentry
              dsimp only [bind, Option.bind]
              rw [← hlength]
              exact ih core' payload'

/-- `build_tpdo_payload` with its slices, copies and arithmetic checked. -/
def buildTpdoPayloadChecked (core : CoreNodeContext σ) (channelIndex : UInt8) :
    Option (Except PowerlinkError (List UInt8 × PDOVersion) × CoreNodeContext σ) := do
  let commParamIndex ← checkedBelow (2 ^ 16) (0x1800 + channelIndex.toNat)
  let commParamIndex := UInt16.ofNat commParamIndex
  let mappingIndex ← checkedBelow (2 ^ 16) (0x1A00 + channelIndex.toNat)
  let mappingIndex := UInt16.ofNat mappingIndex
  let targetNodeId ← core.od.readU8Checked commParamIndex 1
  let pdoVersion ← core.od.readU8Checked commParamIndex 2
  let payloadLimit ← core.od.readU16Checked 0x1F8B (targetNodeId.getD 0)
  let payloadLimit := min (payloadLimit.getD 36).toNat 1490
  let payload := List.replicate payloadLimit 0
  match ← core.od.readChecked mappingIndex 0 with
  | some (.unsigned8 numEntries) => do
      let entries ← mappingEntriesChecked core.od mappingIndex numEntries
      match ← buildTpdoEntriesChecked payloadLimit core payload entries with
      | (.error e, core) => some (.error e, core)
      | (.ok payload, core) => some (.ok (payload, ⟨pdoVersion.getD 0⟩), core)
  | _ => some (.ok (payload, ⟨pdoVersion.getD 0⟩), core)

/-- A managing node does not panic when it builds the payload of a PReq. -/
theorem buildTpdoPayloadChecked_eq (core : CoreNodeContext σ) (channelIndex : UInt8) :
    buildTpdoPayloadChecked core channelIndex = some (buildTpdoPayload core channelIndex) := by
  have hchannel : channelIndex.toNat < 256 := channelIndex.toNat_lt
  have hword : UInt16.ofNat channelIndex.toNat = channelIndex.toUInt16 :=
    UInt16.ofNat_uInt8ToNat _
  have hcomm : UInt16.ofNat (0x1800 + channelIndex.toNat) = 0x1800 + channelIndex.toUInt16 := by
    rw [← hword]
    exact UInt16.ofNat_add _ _
  have hmapping : UInt16.ofNat (0x1A00 + channelIndex.toNat) = 0x1A00 + channelIndex.toUInt16 := by
    rw [← hword]
    exact UInt16.ofNat_add _ _
  unfold buildTpdoPayloadChecked buildTpdoPayload
  rw [checkedBelow_eq_some (by omega), checkedBelow_eq_some (by omega)]
  dsimp only [bind, Option.bind]
  rw [hcomm, hmapping, core.od.readU8Checked_eq, core.od.readU8Checked_eq]
  dsimp only
  rw [core.od.readU16Checked_eq]
  dsimp only
  rw [core.od.readChecked_eq]
  cases core.od.read (0x1A00 + channelIndex.toUInt16) 0 with
  | none => rfl
  | some value =>
      cases value with
      | unsigned8 numEntries =>
          dsimp only
          rw [mappingEntriesChecked_eq]
          dsimp only
          generalize hpayload : List.replicate _ (0 : UInt8) = payload
          have hlength := congrArg List.length hpayload
          rw [List.length_replicate] at hlength
          rw [hlength, buildTpdoEntriesChecked_eq]
          rcases buildTpdoEntries payload.length core payload _ with ⟨_ | _, core'⟩
          · rfl
          · rfl
      | _ => rfl

end sent

end Powerlink
