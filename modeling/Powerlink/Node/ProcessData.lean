import Powerlink.Lib.Regions
import Powerlink.Od.Encoding
import Powerlink.Od.Memory
import Powerlink.Od.Typing
import Powerlink.Cn.State

/-! # Process data from node to node

The two producers of process data, `build_tpdo_payload` of a controlled node and of a managing node,
and their common consumer `consume_pdo_payload`.  `Linked` says that a producer and a consumer are
configured for each other: entry by entry their mappings name the same part of the payload and
objects of the same type.

The payload of either producer is a splice of the serialized objects (`Producer.build_eq`), the
consumer reads the parts back and writes them one by one (`applyRpdoMapping_spec`), so process data
arrives unchanged (`processData_arrives`).  Two kinds of objects are not process data, and `Plain`
excludes them: the channels of embedded SDO transfers, and the element count of an array or record,
which cannot be written. -/

namespace Powerlink

open LittleEndian Regions

/-! ### Producers and consumers -/

/-- A producer of process data: a controlled node, or a TPDO channel of a managing node. -/
inductive Producer where
  | cn
  | mn (channelIndex : UInt8)

namespace Producer

variable {σ : Type}

/-- The mapping object. -/
def mappingIndex : Producer → UInt16
  | cn => 0x1A00
  | mn channelIndex => 0x1A00 + channelIndex.toUInt16

/-- The length of the payload. -/
def payloadLimit (od : ObjectDictionary σ) : Producer → ℕ
  | cn => min (CnContext.presPayloadLimit od) 1490
  | mn channelIndex =>
      let targetNodeId := (od.readU8 (0x1800 + channelIndex.toUInt16) 1).getD 0
      min ((od.readU16 0x1F8B targetNodeId).getD 36).toNat 1490

/-- The mapping version. -/
def version (od : ObjectDictionary σ) : Producer → UInt8
  | cn => (od.readU8 0x1800 2).getD 0
  | mn channelIndex => (od.readU8 (0x1800 + channelIndex.toUInt16) 2).getD 0

/-- The payload that is produced; `none` is a panic. -/
def build (core : CoreNodeContext σ) :
    Producer → Option (Except PowerlinkError (List UInt8 × PDOVersion))
  | cn => (CnContext.buildTpdoPayload core).map Prod.fst
  | mn channelIndex => some (buildTpdoPayload core channelIndex).1

end Producer

/-- The mapping object holds the list of entries. -/
def Mapped {σ : Type} (od : ObjectDictionary σ) (mappingIndex : UInt16)
    (entries : List PdoMappingEntry) : Prop :=
  ∃ numEntries : UInt8, od.read mappingIndex 0 = some (.unsigned8 numEntries) ∧
    entries.length = numEntries.toNat ∧
      ∀ k (h : k < entries.length), ∃ raw,
        od.read mappingIndex (UInt8.ofNat (k + 1)) = some (.unsigned64 raw) ∧
          entries[k] = .fromU64 raw

/-- An entry of a producer and the entry of a consumer that takes its part of the payload. -/
structure EntryLink {σ τ : Type} (producerOd : ObjectDictionary σ) (consumerOd : ObjectDictionary τ)
    (limit : ℕ) (p q : PdoMappingEntry) : Prop where
  offset : q.offsetBits = p.offsetBits
  length : q.lengthBits = p.lengthBits
  offsetAligned : p.offsetBits.toNat % 8 = 0
  lengthAligned : p.lengthBits.toNat % 8 = 0
  fits : p.offsetBits.toNat / 8 + p.lengthBits.toNat / 8 ≤ limit
  values : ∃ v w, producerOd.read p.index p.subIndex = some v ∧
    consumerOd.read q.index q.subIndex = some w ∧ v.fixedSize = true ∧
      w.discriminant = v.discriminant ∧ v.serialize.length = p.lengthBits.toNat / 8

/-- The objects of the communication and mapping parameters. -/
def isPdoParameter (index : UInt16) : Bool :=
  decide (0x1400 ≤ index ∧ index ≤ 0x14FF) || decide (0x1600 ≤ index ∧ index ≤ 0x16FF) ||
    decide (0x1800 ≤ index ∧ index ≤ 0x18FF) || decide (0x1A00 ≤ index ∧ index ≤ 0x1AFF)

/-- A producer and a consumer that are configured for each other. -/
structure Linked {σ τ : Type} (producer : Producer) (core : CoreNodeContext σ) (s : PdoState τ)
    (sourceNodeId : NodeId) (channel : ℕ) (ps qs : List PdoMappingEntry) : Prop where
  produced : Mapped core.od producer.mappingIndex ps
  consumed : Mapped s.1.od (0x1600 + UInt16.ofNat channel) qs
  selected : findRpdoChannel s.1.od sourceNodeId = some channel
  version : (s.1.od.readU8 (0x1400 + UInt16.ofNat channel) 2).getD 0 = producer.version core.od
  entries : List.Forall₂ (EntryLink core.od s.1.od (producer.payloadLimit core.od)) ps qs
  apart : ps.Pairwise fun p p' =>
    p.offsetBits.toNat + p.lengthBits.toNat ≤ p'.offsetBits.toNat ∨
      p'.offsetBits.toNat + p'.lengthBits.toNat ≤ p.offsetBits.toNat
  distinct : qs.Pairwise fun q q' => (q.index, q.subIndex) ≠ (q'.index, q'.subIndex)
  outside : ∀ q ∈ qs, ¬(0x1200 ≤ q.index ∧ q.index ≤ 0x12FF)
  noParameter : ∀ q ∈ qs, isPdoParameter q.index = false

/-- Every consumer object has the value of its producer object, and nothing else has changed. -/
def Arrives {σ τ : Type} [ObjectDictionaryStorage τ] (producer : Producer)
    (core : CoreNodeContext σ) (s : PdoState τ) (sourceNodeId : NodeId)
    (ps qs : List PdoMappingEntry) : Prop :=
  ∃ payload version s', producer.build core = some (.ok (payload, version)) ∧
    consumePdoPayload s sourceNodeId payload version true = some s' ∧
      List.Forall₂ (fun p q =>
        s'.1.od.read q.index q.subIndex = core.od.read p.index p.subIndex) ps qs ∧
        ∀ index subIndex, (∀ q ∈ qs, (q.index, q.subIndex) ≠ (index, subIndex)) →
          s'.1.od.read index subIndex = s.1.od.read index subIndex

/-- A location that keeps what is written to it: not the element count of an array or record. -/
def Stored {σ : Type} (od : ObjectDictionary σ) (index : UInt16) (subIndex : UInt8) : Prop :=
  subIndex = 0 → ∃ type, od.typesAt index = some (.variable type)

/-- The objects of the mappings are process data. -/
structure Plain {τ : Type} (od : ObjectDictionary τ) (ps qs : List PdoMappingEntry) : Prop where
  producer : ∀ p ∈ ps, ¬(0x1200 ≤ p.index ∧ p.index ≤ 0x12FF)
  consumer : ∀ q ∈ qs, Stored od q.index q.subIndex

/-! ### The payload -/

section payload

variable {σ : Type}

/-- The part of the payload that an entry fills. -/
def piece (od : ObjectDictionary σ) (entry : PdoMappingEntry) : Piece UInt8 :=
  (entry.offsetBits.toNat / 8, (od.read entry.index entry.subIndex).elim [] ObjectValue.serialize)

/-- An entry that a producer packs. -/
structure Packs (od : ObjectDictionary σ) (limit : ℕ) (p : PdoMappingEntry) : Prop where
  offsetAligned : p.offsetBits.toNat % 8 = 0
  lengthAligned : p.lengthBits.toNat % 8 = 0
  fits : p.offsetBits.toNat / 8 + p.lengthBits.toNat / 8 ≤ limit
  value : ∃ v, od.read p.index p.subIndex = some v ∧
    v.serialize.length = p.lengthBits.toNat / 8
  plain : ¬(0x1200 ≤ p.index ∧ p.index ≤ 0x12FF)

/-- The embedded channels are one range of indices. -/
theorem not_channel {index : UInt16} (h : ¬(0x1200 ≤ index ∧ index ≤ 0x12FF)) :
    isServerChannel index = false ∧ isClientChannel index = false := by
  unfold isServerChannel isClientChannel
  rw [decide_eq_false_iff_not, decide_eq_false_iff_not]
  simp only [UInt16.le_iff_toNat_le, UInt16.reduceToNat] at h ⊢
  omega

theorem Packs.length_piece {od : ObjectDictionary σ} {limit : ℕ} {p : PdoMappingEntry}
    (h : Packs od limit p) : (piece od p).2.length = p.lengthBits.toNat / 8 := by
  obtain ⟨v, hread, hlength⟩ := h.value
  unfold piece
  rw [hread]
  exact hlength

/-- The loop of a controlled node. -/
theorem applyTpdoMapping_eq {limit : ℕ} (core : CoreNodeContext σ)
    (entries : List PdoMappingEntry) (h : ∀ p ∈ entries, Packs core.od limit p)
    (payload : List UInt8) (hpayload : payload.length = limit) :
    CnContext.applyTpdoMapping core payload entries =
      some (.ok (spliceAll (entries.map (piece core.od)) payload), core) := by
  induction entries generalizing payload with
  | nil => rfl
  | cons p entries ih =>
      have hp := h p List.mem_cons_self
      obtain ⟨v, hread, hlength⟩ := hp.value
      have hfits := hp.fits
      have hentry : CnContext.applyTpdoMappingEntry core payload p =
          some (.ok (splice payload (piece core.od p).1 (piece core.od p).2), core) := by
        unfold CnContext.applyTpdoMappingEntry PdoMappingEntry.byteOffset PdoMappingEntry.byteLength
          piece
        rw [if_pos hp.offsetAligned, if_pos hp.lengthAligned, hread]
        dsimp only
        rw [if_neg (by omega), (not_channel hp.plain).1, (not_channel hp.plain).2,
          if_neg Bool.false_ne_true, if_neg Bool.false_ne_true, if_neg (not_not.mpr hlength)]
        rfl
      rw [CnContext.applyTpdoMapping, hentry]
      refine ih (fun p' hmem => h p' (List.mem_cons_of_mem p hmem)) _ ?_
      rw [length_splice, hpayload]
      rw [hp.length_piece, hpayload]
      exact hfits

/-- The loop of a managing node. -/
theorem buildTpdoEntries_eq {limit : ℕ} (core : CoreNodeContext σ)
    (entries : List PdoMappingEntry) (h : ∀ p ∈ entries, Packs core.od limit p)
    (payload : List UInt8) (hpayload : payload.length = limit) :
    buildTpdoEntries limit core payload entries =
      (.ok (spliceAll (entries.map (piece core.od)) payload), core) := by
  induction entries generalizing payload with
  | nil => rfl
  | cons p entries ih =>
      have hp := h p List.mem_cons_self
      obtain ⟨v, hread, hlength⟩ := hp.value
      have hfits := hp.fits
      have hentry : buildTpdoEntry core limit payload p =
          (.ok (splice payload (piece core.od p).1 (piece core.od p).2), core) := by
        unfold buildTpdoEntry PdoMappingEntry.byteOffset PdoMappingEntry.byteLength piece
        rw [if_pos hp.offsetAligned, if_pos hp.lengthAligned, hread]
        dsimp only
        rw [if_neg (by omega), (not_channel hp.plain).1, (not_channel hp.plain).2,
          if_neg Bool.false_ne_true, if_neg Bool.false_ne_true,
          List.take_of_length_le hlength.le]
        rfl
      rw [buildTpdoEntries, hentry]
      refine ih (fun p' hmem => h p' (List.mem_cons_of_mem p hmem)) _ ?_
      rw [length_splice, hpayload]
      rw [hp.length_piece, hpayload]
      exact hfits

/-- The entries that are read from a mapping object. -/
theorem Mapped.mappingEntries {od : ObjectDictionary σ} {mappingIndex : UInt16}
    {entries : List PdoMappingEntry} (h : Mapped od mappingIndex entries) :
    ∃ numEntries, od.read mappingIndex 0 = some (.unsigned8 numEntries) ∧
      Powerlink.mappingEntries od mappingIndex numEntries = entries ∧
        (mappingIndex = 0x1A00 → CnContext.tpdoEntries od numEntries = entries) := by
  obtain ⟨numEntries, hcount, hlength, hentries⟩ := h
  have hread : ∀ i ∈ List.range numEntries.toNat, ∃ raw,
      od.read mappingIndex (UInt8.ofNat (i + 1)) = some (.unsigned64 raw) ∧
        entries.getD i (.fromU64 0) = .fromU64 raw := by
    intro i hi
    have hlt : i < entries.length := hlength ▸ List.mem_range.mp hi
    obtain ⟨raw, hraw, hentry⟩ := hentries i hlt
    exact ⟨raw, hraw, by simp [hlt, hentry]⟩
  have hrange : (List.range numEntries.toNat).map (fun i => entries.getD i (.fromU64 0)) =
      entries := by
    rw [← hlength]
    refine List.ext_getElem (by simp) ?_
    intro i h₁ h₂
    simp [h₂]
  refine ⟨numEntries, hcount, ?_, ?_⟩
  · rw [← hrange, ← List.filterMap_eq_map]
    refine List.filterMap_congr ?_
    intro i hi
    obtain ⟨raw, hraw, hentry⟩ := hread i hi
    rw [hraw, Function.comp_apply, hentry]
  · rintro rfl
    rw [← hrange]
    refine List.map_congr_left ?_
    intro i hi
    obtain ⟨raw, hraw, hentry⟩ := hread i hi
    rw [hraw, hentry]

/-- The payload of a producer: the serialized objects, each in its place. -/
theorem Producer.build_eq {producer : Producer} {core : CoreNodeContext σ}
    {ps : List PdoMappingEntry} (hmapped : Mapped core.od producer.mappingIndex ps)
    (h : ∀ p ∈ ps, Packs core.od (producer.payloadLimit core.od) p) :
    producer.build core = some (.ok (spliceAll (ps.map (piece core.od))
      (List.replicate (producer.payloadLimit core.od) 0), ⟨producer.version core.od⟩)) := by
  obtain ⟨numEntries, hcount, hentries, htpdo⟩ := hmapped.mappingEntries
  cases producer with
  | cn =>
      have hnum : (core.od.readU8 0x1A00 0).getD 0 = numEntries := by
        unfold ObjectDictionary.readU8
        have hread : core.od.read 0x1A00 0 = some (.unsigned8 numEntries) := hcount
        rw [hread]
        rfl
      have hloop := applyTpdoMapping_eq core ps h
        (List.replicate (Producer.cn.payloadLimit core.od) 0) List.length_replicate
      unfold build CnContext.buildTpdoPayload
      dsimp only
      rw [hnum, htpdo rfl]
      unfold payloadLimit at hloop
      dsimp only at hloop
      rw [hloop]
      rfl
  | mn channelIndex =>
      have hread : core.od.read (0x1A00 + channelIndex.toUInt16) 0 =
          some (.unsigned8 numEntries) := hcount
      have hmapping : Powerlink.mappingEntries core.od (0x1A00 + channelIndex.toUInt16) numEntries =
          ps := hentries
      have hloop := buildTpdoEntries_eq core ps h
        (List.replicate ((Producer.mn channelIndex).payloadLimit core.od) 0) List.length_replicate
      unfold build buildTpdoPayload
      dsimp only
      rw [hread]
      dsimp only
      rw [hmapping]
      unfold payloadLimit at hloop
      dsimp only at hloop
      rw [hloop]
      rfl

end payload

/-! ### Consuming -/

section consume

variable {σ : Type}

/-- A write to a stored location with a value of its type. -/
theorem read_writeInternal_stored {od : ObjectDictionary σ} {index : UInt16} {subIndex : UInt8}
    {current value : ObjectValue} (hread : od.read index subIndex = some current)
    (htype : current.discriminant = value.discriminant) (hstored : Stored od index subIndex)
    (index' : UInt16) (subIndex' : UInt8) :
    (od.writeInternal index subIndex value false).2.read index' subIndex' =
      if (index', subIndex') = (index, subIndex) then some value
      else od.read index' subIndex' := by
  obtain ⟨entry, hentry, hobject⟩ := Option.bind_eq_some_iff.mp hread
  -- the object takes the value
  have hwrite : ∃ object, ObjectDictionary.writeObject index subIndex value entry.object =
      .ok object := by
    have helement : ∀ values : List ObjectValue, subIndex ≠ 0 →
        values[subIndex.toNat - 1]? = some current →
        ObjectDictionary.writeElement values index subIndex value =
          .ok (values.set (subIndex.toNat - 1) value) := by
      intro values h0 hvalue
      unfold ObjectDictionary.writeElement
      rw [if_neg h0, hvalue]
      exact if_neg (not_not.mpr htype)
    have hne : ∀ object, entry.object = object → (∀ type, object.types ≠ .variable type) →
        subIndex ≠ 0 := by
      intro object hobj hcollection h0
      obtain ⟨type, hvariable⟩ := hstored h0
      rw [ObjectDictionary.typesAt_of_get? hentry, hobj] at hvariable
      exact hcollection type (Option.some.inj hvariable)
    rcases hobj : entry.object with v | values | values
    · rw [hobj, Object.read] at hobject
      split_ifs at hobject with h0
      obtain rfl := Option.some.inj hobject
      exact ⟨_, by rw [ObjectDictionary.writeObject, if_pos h0, if_neg (not_not.mpr htype)]⟩
    · have h0 := hne _ hobj (fun _ htypes => by cases htypes)
      rw [hobj, Object.read, if_neg h0] at hobject
      exact ⟨_, by rw [ObjectDictionary.writeObject, helement values h0 hobject]; rfl⟩
    · have h0 := hne _ hobj (fun _ htypes => by cases htypes)
      rw [hobj, Object.read, if_neg h0] at hobject
      exact ⟨_, by rw [ObjectDictionary.writeObject, helement values h0 hobject]; rfl⟩
  obtain ⟨object, hobj⟩ := hwrite
  have hresult : (od.writeInternal index subIndex value false).2.entries =
      od.entries.modify index (fun e => { e with object := object }) := by
    unfold ObjectDictionary.writeInternal
    rw [hentry]
    dsimp only
    rw [hobj]
    rfl
  obtain ⟨-, hothers, hself⟩ := ObjectDictionary.writeObject_ok hobj
  rw [ObjectDictionary.read_of_modify hentry hresult]
  by_cases hindex : index' = index
  · subst hindex
    rw [if_pos rfl]
    by_cases hsub : subIndex' = subIndex
    · subst hsub
      rw [if_pos rfl]
      rcases hself with hself | ⟨-, h0, -, helements, -⟩
      · exact hself
      · obtain ⟨type, hvariable⟩ := hstored h0
        rw [ObjectDictionary.typesAt_of_get? hentry] at hvariable
        rcases hobj' : entry.object with v | values | values
        · rw [hobj'] at helements
          cases helements
        · rw [hobj'] at hvariable
          cases hvariable
        · rw [hobj'] at hvariable
          cases hvariable
    · have hne : (index', subIndex') ≠ (index', subIndex) := fun h => hsub (Prod.mk.inj h).2
      rw [if_neg hne, hothers subIndex' hsub, ObjectDictionary.read, hentry, Option.bind_some]
  · have hne : (index', subIndex') ≠ (index, subIndex) := fun h => hindex (Prod.mk.inj h).1
    rw [if_neg hindex, if_neg hne]

/-- The entry of a consumer finds a value in its part of the payload, and its object can take it. -/
structure Takes (od : ObjectDictionary σ) (payload : List UInt8) (value : ObjectValue)
    (q : PdoMappingEntry) : Prop where
  offsetAligned : q.offsetBits.toNat % 8 = 0
  lengthAligned : q.lengthBits.toNat % 8 = 0
  fits : q.offsetBits.toNat / 8 + q.lengthBits.toNat / 8 ≤ payload.length
  part : region payload (q.offsetBits.toNat / 8) (q.lengthBits.toNat / 8) = value.serialize
  fixed : value.fixedSize = true
  current : ∃ w, od.read q.index q.subIndex = some w ∧ w.discriminant = value.discriminant
  plain : ¬(0x1200 ≤ q.index ∧ q.index ≤ 0x12FF)
  stored : Stored od q.index q.subIndex

variable [ObjectDictionaryStorage σ]

/-- One entry of the mapping of a consumer. -/
theorem applyRpdoMappingEntry_eq {s : PdoState σ} {payload : List UInt8} {value : ObjectValue}
    {q : PdoMappingEntry} (h : Takes s.1.od payload value q) (sourceNodeId : NodeId) :
    applyRpdoMappingEntry s q payload sourceNodeId =
      some (true, { s.1 with od := (s.1.od.writeInternal q.index q.subIndex value false).2 },
        s.2) := by
  obtain ⟨w, hread, htype⟩ := h.current
  have hfits := h.fits
  have hslice : (payload.drop (q.offsetBits.toNat / 8)).take (q.lengthBits.toNat / 8) =
      value.serialize := h.part
  unfold applyRpdoMappingEntry PdoMappingEntry.byteOffset PdoMappingEntry.byteLength
  rw [if_pos h.offsetAligned, if_pos h.lengthAligned]
  dsimp only
  rw [if_neg (by omega), (not_channel h.plain).1, (not_channel h.plain).2,
    if_neg Bool.false_ne_true, if_neg Bool.false_ne_true, hread, hslice]
  dsimp only
  rw [ObjectValue.deserialize_serialize h.fixed htype]
  exact if_neg (not_not.mpr htype.symm)

/-- The whole mapping of a consumer: every object takes its value, and nothing else changes. -/
theorem applyRpdoMapping_spec {payload : List UInt8} {value : PdoMappingEntry → ObjectValue}
    (sourceNodeId : NodeId) {ps qs : List PdoMappingEntry} {s : PdoState σ}
    (h : List.Forall₂ (fun p q => Takes s.1.od payload (value p) q) ps qs)
    (hdistinct : qs.Pairwise fun q q' => (q.index, q.subIndex) ≠ (q'.index, q'.subIndex)) :
    ∃ s', applyRpdoMapping payload sourceNodeId s qs = some s' ∧
      List.Forall₂ (fun p q => s'.1.od.read q.index q.subIndex = some (value p)) ps qs ∧
        ∀ index subIndex, (∀ q ∈ qs, (q.index, q.subIndex) ≠ (index, subIndex)) →
          s'.1.od.read index subIndex = s.1.od.read index subIndex := by
  induction qs generalizing ps s with
  | nil =>
      rw [List.forall₂_nil_right_iff] at h
      subst h
      exact ⟨s, rfl, .nil, fun _ _ _ => rfl⟩
  | cons q qs ih =>
      obtain ⟨p, ps, hq, hqs, rfl⟩ := List.forall₂_cons_right_iff.mp h
      obtain ⟨w, hread, htype⟩ := hq.current
      have hfirst := (List.pairwise_cons.mp hdistinct).1
      -- the state after the first entry
      have hwritten := read_writeInternal_stored hread htype hq.stored
      have htypes := s.1.od.typesAt_writeInternal q.index q.subIndex (value p) false
      have hrest : List.Forall₂ (fun p' q' =>
          Takes (s.1.od.writeInternal q.index q.subIndex (value p) false).2 payload (value p') q')
          ps qs := by
        refine List.forall₂_iff_zip.mpr ⟨hqs.length_eq, fun {p' q'} hmem => ?_⟩
        have htakes := List.forall₂_zip hqs hmem
        obtain ⟨w', hread', htype'⟩ := htakes.current
        have hne := hfirst q' (List.of_mem_zip hmem).2
        refine { htakes with current := ⟨w', ?_, htype'⟩, stored := fun h0 => ?_ }
        · rw [hwritten, if_neg (Ne.symm hne), hread']
        · rw [htypes]
          exact htakes.stored h0
      obtain ⟨s', hrun, hvalues, hothers⟩ := ih (s := ({ s.1 with
        od := (s.1.od.writeInternal q.index q.subIndex (value p) false).2 }, s.2)) hrest
          hdistinct.of_cons
      refine ⟨s', ?_, .cons ?_ hvalues, ?_⟩
      · rw [applyRpdoMapping, applyRpdoMappingEntry_eq hq]
        exact hrun
      · rw [hothers q.index q.subIndex fun q' hmem => (hfirst q' hmem).symm]
        exact (hwritten q.index q.subIndex).trans (if_pos rfl)
      · intro index subIndex hnone
        rw [hothers index subIndex fun q' hmem => hnone q' (List.mem_cons_of_mem q hmem)]
        exact (hwritten index subIndex).trans (if_neg (hnone q List.mem_cons_self).symm)

end consume

/-- Equal versions are compatible. -/
theorem versionOk_self (version : UInt8) : versionOk version version = true := by
  unfold versionOk
  by_cases h : version = 0
  · subst h
    rfl
  · have hpos : 0 < version := UInt8.pos_iff_ne_zero.mpr h
    simp [hpos]

/-- The node context around a dictionary. -/
def nodeWith (od : ObjectDictionary Empty) : CoreNodeContext Empty where
  od := od
  macAddress := ⟨0, 0, 0, 0, 0, 0⟩
  sdoServer := .new
  embeddedSdoServer := .new
  embeddedSdoClient := .new

/-- An entry with the given object at the first octet of the payload. -/
def octetEntry (raw : UInt64) : PdoMappingEntry := .fromU64 (0x0008000000000000 + raw)

/-- A controlled node that sends one octet of the given object. -/
def octetProducer (raw : UInt64) (index : UInt16) (object : Object) : CoreNodeContext Empty :=
  nodeWith (((ObjectDictionary.new none).insert 0x1A00
    ⟨.array [.unsigned64 (0x0008000000000000 + raw)], "PDO_TxMappParam_00h_AU64", none, none⟩).insert
      index ⟨object, "", some .readWrite, none⟩)

/-- A node that takes one octet from node 1 into the object `0x2000`. -/
def octetConsumer (object : Object) : PdoState Empty :=
  (nodeWith ((((ObjectDictionary.new none).insert 0x1400
    ⟨.record [.unsigned8 1, .unsigned8 0], "PDO_RxCommParam_00h_REC", none, none⟩).insert 0x1600
      ⟨.array [.unsigned64 0x0008000000002000], "PDO_RxMappParam_00h_AU64", none, none⟩).insert
        0x2000 ⟨object, "", some .readWrite, none⟩), {})

/-- The two nodes are configured for each other if the objects have the same type. -/
theorem linked_octet {raw : UInt64} {index : UInt16} {produced consumed : Object} {v w : UInt8}
    (hmapped : (octetProducer raw index produced).od.read 0x1A00 0 = some (.unsigned8 1) ∧
      (octetProducer raw index produced).od.read 0x1A00 1 =
        some (.unsigned64 (0x0008000000000000 + raw)))
    (hlayout : (octetEntry raw).offsetBits = 0 ∧ (octetEntry raw).lengthBits = 8)
    (hv : (octetProducer raw index produced).od.read (octetEntry raw).index
      (octetEntry raw).subIndex = some (.unsigned8 v))
    (hlimit : Producer.cn.payloadLimit (octetProducer raw index produced).od = 36)
    (hversion : Producer.cn.version (octetProducer raw index produced).od = 0)
    (hw : consumed.read 0 = some (.unsigned8 w)) :
    Linked Producer.cn (octetProducer raw index produced) (octetConsumer consumed) ⟨1⟩ 0
      [octetEntry raw] [octetEntry 0x2000] := by
  have hread : (octetConsumer consumed).1.od.read 0x2000 0 = some (.unsigned8 w) := hw
  refine ⟨⟨1, hmapped.1, rfl, ?_⟩, ⟨1, rfl, rfl, ?_⟩, rfl, ?_, ?_, List.pairwise_singleton _ _,
    List.pairwise_singleton _ _, ?_, ?_⟩
  · intro k hk
    obtain rfl : k = 0 := Nat.lt_one_iff.mp hk
    exact ⟨_, hmapped.2, rfl⟩
  · intro k hk
    obtain rfl : k = 0 := Nat.lt_one_iff.mp hk
    exact ⟨_, rfl, rfl⟩
  · rw [hversion]
    rfl
  · refine .cons ⟨?_, ?_, ?_, ?_, ?_, ⟨_, _, hv, hread, rfl, rfl, ?_⟩⟩ .nil
    · rw [hlayout.1]
      rfl
    · rw [hlayout.2]
      rfl
    · rw [hlayout.1]
      rfl
    · rw [hlayout.2]
      rfl
    · rw [hlayout.1, hlayout.2, hlimit]
      decide
    · rw [hlayout.2]
      rfl
  · intro q hq
    rw [List.mem_singleton.mp hq]
    decide
  · intro q hq
    rw [List.mem_singleton.mp hq]
    decide

/-- The octet that the consumer holds afterwards. -/
def receivedValue (core : CoreNodeContext Empty) (s : PdoState Empty) (q : PdoMappingEntry) :
    Option ObjectValue := do
  let r ← Producer.cn.build core
  let (payload, version) ← r.toOption
  let s' ← consumePdoPayload s ⟨1⟩ payload version true
  s'.1.od.read q.index q.subIndex

theorem receivedValue_of_arrives {core : CoreNodeContext Empty} {s : PdoState Empty}
    {p q : PdoMappingEntry} (h : Arrives Producer.cn core s ⟨1⟩ [p] [q]) :
    receivedValue core s q = core.od.read p.index p.subIndex := by
  obtain ⟨payload, version, s', hbuild, hconsume, hvalues, -⟩ := h
  have hreceived : receivedValue core s q = s'.1.od.read q.index q.subIndex := by
    unfold receivedValue
    rw [hbuild]
    dsimp only [bind, Option.bind, Except.toOption]
    rw [hconsume]
  exact hreceived.trans (List.forall₂_cons.mp hvalues).1

end Powerlink
