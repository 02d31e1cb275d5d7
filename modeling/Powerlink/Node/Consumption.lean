import Powerlink.Node.ProcessData

/-! # Where the consumption of a payload stops

`consume_pdo_payload` applies the entries of a mapping one after the other and stops at the first
one that fails: an entry that lies beyond the payload, or whose octets are no value of the object.
The objects of the entries before it keep what they were given.  `applyRpdoMapping_cases` splits the
loop at the entry where it ends, and `consume_stops_at_first_failure` says what a call leaves
behind. -/

namespace Powerlink

variable {σ : Type} [ObjectDictionaryStorage σ]

/-! ### The loop -/

/-- The entries are applied one after the other, and none of them stops the loop. -/
inductive Applied (payload : List UInt8) (sourceNodeId : NodeId) :
    PdoState σ → List PdoMappingEntry → PdoState σ → Prop where
  | nil (s : PdoState σ) : Applied payload sourceNodeId s [] s
  | cons {s s₁ s₂ : PdoState σ} {entry : PdoMappingEntry} {entries : List PdoMappingEntry}
      (h : applyRpdoMappingEntry s entry payload sourceNodeId = some (true, s₁))
      (hrest : Applied payload sourceNodeId s₁ entries s₂) :
      Applied payload sourceNodeId s (entry :: entries) s₂

/-- The loop goes on behind the entries that are applied. -/
theorem Applied.append {payload : List UInt8} {sourceNodeId : NodeId} {s s₁ : PdoState σ}
    {before : List PdoMappingEntry} (h : Applied payload sourceNodeId s before s₁)
    (rest : List PdoMappingEntry) :
    applyRpdoMapping payload sourceNodeId s (before ++ rest) =
      applyRpdoMapping payload sourceNodeId s₁ rest := by
  induction h with
  | nil s => rfl
  | cons h hrest ih =>
      rw [List.cons_append, applyRpdoMapping, h]
      exact ih

/-- A loop over entries that are all applied ends with their state. -/
theorem Applied.applyRpdoMapping_eq {payload : List UInt8} {sourceNodeId : NodeId}
    {s s₁ : PdoState σ} {entries : List PdoMappingEntry}
    (h : Applied payload sourceNodeId s entries s₁) :
    applyRpdoMapping payload sourceNodeId s entries = some s₁ := by
  have hall := h.append []
  rwa [List.append_nil] at hall

/-- The loop applies all entries, or it stops or panics at one of them. -/
theorem applyRpdoMapping_cases (payload : List UInt8) (sourceNodeId : NodeId)
    (entries : List PdoMappingEntry) (s : PdoState σ) :
    (∃ s', Applied payload sourceNodeId s entries s') ∨
      ∃ before entry after s₁, entries = before ++ entry :: after ∧
        Applied payload sourceNodeId s before s₁ ∧
          ((∃ s', applyRpdoMappingEntry s₁ entry payload sourceNodeId = some (false, s')) ∨
            applyRpdoMappingEntry s₁ entry payload sourceNodeId = none) := by
  induction entries generalizing s with
  | nil => exact .inl ⟨s, .nil s⟩
  | cons entry entries ih =>
      cases hentry : applyRpdoMappingEntry s entry payload sourceNodeId with
      | none => exact .inr ⟨[], entry, entries, s, rfl, .nil s, .inr hentry⟩
      | some r =>
          obtain ⟨goOn, s₁⟩ := r
          cases goOn with
          | false => exact .inr ⟨[], entry, entries, s, rfl, .nil s, .inl ⟨s₁, hentry⟩⟩
          | true =>
              rcases ih s₁ with ⟨s', hall⟩ | ⟨before, last, after, s₂, rfl, happlied, hends⟩
              · exact .inl ⟨s', .cons hentry hall⟩
              · exact .inr ⟨entry :: before, last, after, s₂, rfl, .cons hentry happlied, hends⟩

/-! ### An entry that fails -/

omit [ObjectDictionaryStorage σ] in
/-- The entry lies beyond the payload, or its octets are no value of the object. -/
def Fails (od : ObjectDictionary σ) (payload : List UInt8) (entry : PdoMappingEntry) : Prop :=
  ∃ offset length, entry.byteOffset = some offset ∧ entry.byteLength = some length ∧
    (payload.length < offset + length ∨
      ¬payload.length < offset + length ∧ isServerChannel entry.index = false ∧
        isClientChannel entry.index = false ∧ ∃ typeTemplate error,
          od.read entry.index entry.subIndex = some typeTemplate ∧
            ObjectValue.deserialize ((payload.drop offset).take length) typeTemplate =
              .error error)

omit [ObjectDictionaryStorage σ] in
/-- The second state differs from the first in the error counters and in the bit of the source node
in an error object. -/
def Reported (objectIndex : UInt16) (sourceNodeId : NodeId) (s s' : PdoState σ) : Prop :=
  ∃ od counters, s' = ({ s.1 with od := od }, counters) ∧
    (od = s.1.od ∨ od = updatePdoErrorObject s.1.od objectIndex sourceNodeId)

omit [ObjectDictionaryStorage σ] in
/-- The error object is the only one that a report changes. -/
theorem read_updatePdoErrorObject (od : ObjectDictionary σ) {objectIndex index : UInt16}
    (h : index ≠ objectIndex) (sourceNodeId : NodeId) (subIndex : UInt8) :
    (updatePdoErrorObject od objectIndex sourceNodeId).read index subIndex =
      od.read index subIndex := by
  unfold updatePdoErrorObject
  split_ifs
  · rfl
  · split
    · dsimp only
      split
      · exact od.read_writeInternal h 0 subIndex _ false
      · rfl
    · rfl

omit [ObjectDictionaryStorage σ] in
theorem Reported.read {objectIndex : UInt16} {sourceNodeId : NodeId} {s s' : PdoState σ}
    (h : Reported objectIndex sourceNodeId s s') {index : UInt16} (hindex : index ≠ objectIndex)
    (subIndex : UInt8) : s'.1.od.read index subIndex = s.1.od.read index subIndex := by
  obtain ⟨od, counters, rfl, rfl | rfl⟩ := h
  · rfl
  · exact read_updatePdoErrorObject s.1.od hindex sourceNodeId subIndex

/-- An entry that fails stops the loop and is reported. -/
theorem applyRpdoMappingEntry_of_fails {s : PdoState σ} {payload : List UInt8}
    {entry : PdoMappingEntry} (h : Fails s.1.od payload entry) (sourceNodeId : NodeId) :
    ∃ s', applyRpdoMappingEntry s entry payload sourceNodeId = some (false, s') ∧
      Reported 0x1C81 sourceNodeId s s' := by
  obtain ⟨offset, length, hoffset, hlength, hfails⟩ := h
  unfold applyRpdoMappingEntry
  rw [hoffset, hlength]
  dsimp only
  rcases hfails with hshort | ⟨hlong, hserver, hclient, typeTemplate, error, hread, hvalue⟩
  · rw [if_pos hshort]
    exact ⟨_, rfl, _, _, rfl, .inr rfl⟩
  · rw [if_neg hlong, hserver, hclient, hread]
    simp only [Bool.false_eq_true, if_false]
    rw [hvalue]
    exact ⟨_, rfl, _, _, rfl, .inl rfl⟩

/-- Only an entry that fails stops the loop. -/
theorem fails_of_applyRpdoMappingEntry {s s' : PdoState σ} {payload : List UInt8}
    {entry : PdoMappingEntry} {sourceNodeId : NodeId}
    (h : applyRpdoMappingEntry s entry payload sourceNodeId = some (false, s')) :
    Fails s.1.od payload entry := by
  have hgoes : ∀ {r : PdoState σ}, some (true, r) ≠ some (false, s') := nofun
  unfold applyRpdoMappingEntry at h
  split at h
  · rename_i offset length hoffset hlength
    refine ⟨offset, length, hoffset, hlength, ?_⟩
    split_ifs at h with hshort hserver hclient
    · exact .inl hshort
    · exact absurd h hgoes
    · obtain ⟨client, -, h⟩ := Option.bind_eq_some_iff.mp h
      exact absurd h hgoes
    · refine .inr ⟨hshort, Bool.eq_false_of_not_eq_true hserver,
        Bool.eq_false_of_not_eq_true hclient, ?_⟩
      split at h
      · exact absurd h hgoes
      · rename_i typeTemplate hread
        dsimp only at h
        split at h
        · rename_i error hvalue
          exact ⟨typeTemplate, error, hread, hvalue⟩
        · rename_i value hvalue
          -- a decoded value has the type of the object
          rw [if_neg (not_not.mpr (ObjectValue.discriminant_of_deserialize hvalue))] at h
          exact absurd h hgoes
  · exact absurd h hgoes

/-! ### A received payload -/

omit [ObjectDictionaryStorage σ] in
/-- The channel of the source has another mapping version. -/
def WrongVersion (od : ObjectDictionary σ) (sourceNodeId : NodeId) (receivedVersion : PDOVersion) :
    Prop :=
  ∃ i, findRpdoChannel od sourceNodeId = some i ∧
    versionOk ((od.readU8 (0x1400 + UInt16.ofNat i) 2).getD 0) receivedVersion.version = false

/-- The payload is mapped, and `entry` is the first entry of the mapping that fails; the entries
before it lead to the state `s₁`. -/
structure StopsAt (s : PdoState σ) (sourceNodeId : NodeId) (payload : List UInt8)
    (receivedVersion : PDOVersion) (before : List PdoMappingEntry) (entry : PdoMappingEntry)
    (after : List PdoMappingEntry) (s₁ : PdoState σ) : Prop where
  mapped : ∃ i numEntries, findRpdoChannel s.1.od sourceNodeId = some i ∧
    versionOk ((s.1.od.readU8 (0x1400 + UInt16.ofNat i) 2).getD 0) receivedVersion.version = true ∧
      s.1.od.read (0x1600 + UInt16.ofNat i) 0 = some (.unsigned8 numEntries) ∧
        mappingEntries s.1.od (0x1600 + UInt16.ofNat i) numEntries = before ++ entry :: after
  applied : Applied payload sourceNodeId s before s₁
  fails : Fails s₁.1.od payload entry

/-- A call that stops at an entry leaves the state that the entries before it lead to, and a report.
Without the RD flag nothing changes, and a wrong mapping version is only reported. -/
theorem consume_stops_at_first_failure {s s' : PdoState σ} {sourceNodeId : NodeId}
    {payload : List UInt8} {receivedVersion : PDOVersion} {isReady : Bool}
    (h : consumePdoPayload s sourceNodeId payload receivedVersion isReady = some s') :
    (isReady = false → s' = s) ∧
      (isReady = true → WrongVersion s.1.od sourceNodeId receivedVersion →
        Reported 0x1C80 sourceNodeId s s' ∧
          ∀ index subIndex, index ≠ 0x1C80 →
            s'.1.od.read index subIndex = s.1.od.read index subIndex) ∧
      (isReady = true → ∀ before entry after s₁,
        StopsAt s sourceNodeId payload receivedVersion before entry after s₁ →
          Reported 0x1C81 sourceNodeId s₁ s' ∧
            ∀ index subIndex, index ≠ 0x1C81 →
              s'.1.od.read index subIndex = s₁.1.od.read index subIndex) := by
  unfold consumePdoPayload at h
  refine ⟨?_, ?_, ?_⟩
  · rintro rfl
    exact (Option.some.inj h).symm
  · rintro rfl ⟨i, hchannel, hversion⟩
    rw [hchannel] at h
    simp only [hversion, Bool.not_true, Bool.not_false, Bool.false_eq_true, if_false, if_true] at h
    have hreported : Reported 0x1C80 sourceNodeId s s' :=
      ⟨_, _, (Option.some.inj h).symm, .inr rfl⟩
    exact ⟨hreported, fun index subIndex hindex => hreported.read hindex subIndex⟩
  · rintro rfl before entry after s₁ hstops
    obtain ⟨i, numEntries, hchannel, hversion, hentries, hmapping⟩ := hstops.mapped
    rw [hchannel] at h
    simp only [hversion, hentries, hmapping, Bool.not_true, Bool.false_eq_true, if_false] at h
    obtain ⟨s₂, hentry, hreported⟩ := applyRpdoMappingEntry_of_fails hstops.fails sourceNodeId
    rw [hstops.applied.append, applyRpdoMapping, hentry] at h
    obtain rfl : s₂ = s' := Option.some.inj h
    exact ⟨hreported, fun index subIndex hindex => hreported.read hindex subIndex⟩

/-- A node that takes an octet and a word from node 1. -/
def octetAndWord : PdoState Empty :=
  (nodeWith ((((ObjectDictionary.new none).insert 0x1400
    ⟨.record [.unsigned8 1, .unsigned8 0], "PDO_RxCommParam_00h_REC", none, none⟩).insert 0x1600
      ⟨.array [.unsigned64 0x0008000000012000, .unsigned64 0x0010000800022000],
        "PDO_RxMappParam_00h_AU64", none, none⟩).insert
          0x2000 ⟨.record [.unsigned8 0, .unsigned16 0], "", some .readWrite, none⟩), {})

/-- The two entries of the mapping. -/
def octetThenWord : PdoMappingEntry × PdoMappingEntry :=
  (.fromU64 0x0008000000012000, .fromU64 0x0010000800022000)

/-- Two octets of payload end inside of the word. -/
theorem stopsAt_word : ∃ s₁, StopsAt octetAndWord ⟨1⟩ [0xAA, 0xBB] ⟨0⟩ [octetThenWord.1]
    octetThenWord.2 [] s₁ ∧ s₁.1.od.read 0x2000 1 = some (.unsigned8 0xAA) := by
  refine ⟨_, ⟨⟨0, 2, ?_, ?_, ?_, ?_⟩, .cons rfl (.nil _), 1, 2, ?_, ?_, .inl ?_⟩, ?_⟩
  all_goals decide +kernel

/-- The octet of the payload is in the dictionary afterwards. -/
theorem consume_octet : ∃ s', consumePdoPayload octetAndWord ⟨1⟩ [0xAA, 0xBB] ⟨0⟩ true = some s' ∧
    s'.1.od.read 0x2000 1 = some (.unsigned8 0xAA) := by
  have hread : ((consumePdoPayload octetAndWord ⟨1⟩ [0xAA, 0xBB] ⟨0⟩ true).bind fun s' =>
      s'.1.od.read 0x2000 1) = some (.unsigned8 0xAA) := by
    decide +kernel
  exact Option.bind_eq_some_iff.mp hread

/-- The call with two octets leaves the state behind the first entry, and a report. -/
theorem two_octets_stop_at_word : ∃ s' s₁,
    consumePdoPayload octetAndWord ⟨1⟩ [0xAA, 0xBB] ⟨0⟩ true = some s' ∧
      StopsAt octetAndWord ⟨1⟩ [0xAA, 0xBB] ⟨0⟩ [octetThenWord.1] octetThenWord.2 [] s₁ ∧
        Reported 0x1C81 ⟨1⟩ s₁ s' := by
  obtain ⟨s', hconsume, -⟩ := consume_octet
  obtain ⟨s₁, hstops, -⟩ := stopsAt_word
  obtain ⟨-, -, hreport⟩ := consume_stops_at_first_failure hconsume
  exact ⟨s', s₁, hconsume, hstops, (hreport rfl _ _ _ _ hstops).1⟩

/-- The object of the first entry is changed although the second entry fails. -/
theorem first_object_is_changed :
    ¬∀ (s s' s₁ : PdoState Empty) (sourceNodeId : NodeId) (payload : List UInt8)
      (receivedVersion : PDOVersion) (before : List PdoMappingEntry) (entry : PdoMappingEntry)
      (after : List PdoMappingEntry),
      consumePdoPayload s sourceNodeId payload receivedVersion true = some s' →
      StopsAt s sourceNodeId payload receivedVersion before entry after s₁ →
        ∀ e ∈ before ++ entry :: after, e.index ≠ 0x1C80 → e.index ≠ 0x1C81 →
          s'.1.od.read e.index e.subIndex = s.1.od.read e.index e.subIndex := by
  intro h
  obtain ⟨s', hconsume, hread⟩ := consume_octet
  obtain ⟨s₁, hstops, -⟩ := stopsAt_word
  have hunchanged := h _ _ _ _ _ _ _ _ _ hconsume hstops octetThenWord.1 List.mem_cons_self
    (by decide) (by decide)
  have hbefore : octetAndWord.1.od.read 0x2000 1 = some (.unsigned8 0) := by decide
  have hvalue := hread.symm.trans (hunchanged.trans hbefore)
  revert hvalue
  decide

end Powerlink
