import Powerlink.Od.Persistence

/-! # Default dictionaries

The model of `od/utils.rs`: the dictionaries of a controlled and of a managing node without an
application, with the feature flags of `nmt/flags.rs` that they have.  They are created without
storage. -/

namespace Powerlink

/-- `FeatureFlags`. -/
structure FeatureFlags where
  bits : UInt32
deriving DecidableEq, Repr

namespace FeatureFlags

/-- `FeatureFlags::ISOCHRONOUS`. -/
def isochronous : FeatureFlags := ⟨(1 : UInt32) <<< 0⟩

/-- `FeatureFlags::SDO_ASND`. -/
def sdoAsnd : FeatureFlags := ⟨(1 : UInt32) <<< 2⟩

/-- The operator of `BitOr`. -/
def bitor (a b : FeatureFlags) : FeatureFlags := ⟨a.bits ||| b.bits⟩

end FeatureFlags

namespace ObjectDictionary

variable {σ : Type}

/-- Several insertions. -/
def insertAll (od : ObjectDictionary σ) (objects : List (UInt16 × ObjectEntry)) :
    ObjectDictionary σ :=
  objects.foldl (fun od p => od.insert p.1 p.2) od

/-- The entry that is inserted last for an index is the one that is found. -/
theorem get?_insertAll (index : UInt16) : ∀ (objects : List (UInt16 × ObjectEntry))
    (od : ObjectDictionary σ), (od.insertAll objects).entries.get? index =
      ((objects.reverse.find? (fun p => decide (p.1 = index))).map Prod.snd).or
        (od.entries.get? index)
  | [], od => rfl
  | p :: objects, od => by
      change ((od.insert p.1 p.2).insertAll objects).entries.get? index = _
      rw [get?_insertAll index objects, List.reverse_cons, List.find?_append]
      unfold insert
      rw [SortedMap.get?_insert]
      cases objects.reverse.find? (fun p => decide (p.1 = index)) with
      | some q => rfl
      | none =>
          by_cases h : index = p.1
          · subst h
            simp
          · simp [h, Ne.symm h]

theorem insertAll_append (od : ObjectDictionary σ) (a b : List (UInt16 × ObjectEntry)) :
    (od.insertAll a).insertAll b = od.insertAll (a ++ b) :=
  List.foldl_append.symm

/-- The counters of `add_diagnostic_objects`. -/
def diagnosticObjects : List (UInt16 × ObjectEntry) :=
  [(0x1101, ⟨.record (List.replicate 8 (.unsigned32 0)), "DIA_NMTTelegrCount_REC", some .readOnly,
      none⟩),
    (0x1102, ⟨.record (List.replicate 7 (.unsigned32 0)), "DIA_ERRStatistics_REC", some .readOnly,
      none⟩)]

/-- `add_diagnostic_objects`. -/
def addDiagnosticObjects (od : ObjectDictionary σ) : ObjectDictionary σ :=
  od.insertAll diagnosticObjects

/-- The objects that `new_cn_default` inserts. -/
def cnDefaultObjects (nodeId : NodeId) : List (UInt16 × ObjectEntry) :=
  let cnFlags := FeatureFlags.isochronous.bitor .sdoAsnd
  [(0x1000, ⟨.variable (.unsigned32 0x000F0191), "NMT_DeviceType_U32", some .constant, none⟩),
    (0x1001, ⟨.variable (.unsigned8 0), "NMT_ErrorRegister_U8", some .readOnly,
      some (.unsigned8 0)⟩),
    (0x1006, ⟨.variable (.unsigned32 20000), "NMT_CycleLen_U32", some .readWrite, none⟩),
    (0x1008, ⟨.variable (.visibleString "powerlink-rs CN"), "NMT_ManufactDevName_VS",
      some .constant, none⟩),
    (0x1010, ⟨.record (List.replicate 4 (.unsigned32 0)), "NMT_StoreParam_REC", some .readWrite,
      none⟩),
    (0x1011, ⟨.record (List.replicate 4 (.unsigned32 0)), "NMT_RestoreParam_REC", some .readWrite,
      none⟩),
    (0x1018, ⟨.record [.unsigned32 0x12345678, .unsigned32 0x00000001, .unsigned32 0x00010000,
      .unsigned32 0xABCDEF01], "NMT_IdentityObject_REC", some .constant, none⟩),
    (0x1F82, ⟨.variable (.unsigned32 cnFlags.bits), "NMT_FeatureFlags_U32", some .constant, none⟩),
    (0x1F93, ⟨.record [.unsigned8 nodeId.id, .boolean 0], "NMT_EPLNodeID_REC", some .readWrite,
      none⟩),
    (0x1C14, ⟨.variable (.unsigned32 100000), "DLL_CNLossOfSocTolerance_U32", some .readWrite,
      none⟩),
    (0x1F99, ⟨.variable (.unsigned32 5000000), "NMT_CNBasicEthernetTimeout_U32", some .readWrite,
      none⟩)]

/-- `new_cn_default`. -/
def newCnDefault (nodeId : NodeId) : ObjectDictionary σ :=
  ((new none).insertAll (cnDefaultObjects nodeId)).addDiagnosticObjects

/-- The objects that `new_mn_default` inserts. -/
def mnDefaultObjects : List (UInt16 × ObjectEntry) :=
  let mnFlags := FeatureFlags.isochronous.bitor .sdoAsnd
  let zeros : Object := .array (List.replicate 254 (.unsigned32 0))
  [(0x1F82, ⟨.variable (.unsigned32 mnFlags.bits), "NMT_FeatureFlags_U32", some .constant, none⟩),
    (0x1F80, ⟨.variable (.unsigned32 0), "NMT_StartUp_U32", some .readWrite, none⟩),
    (0x1F81, ⟨zeros, "NMT_NodeAssignment_AU32", some .readWrite, none⟩),
    (0x1F89, ⟨.record (.unsigned32 1000000 :: List.replicate 8 (.unsigned32 500000)),
      "NMT_BootTime_REC", some .readWrite, none⟩),
    (0x1F84, ⟨zeros, "NMT_MNNodeList_AU32", some .readWrite, none⟩),
    (0x1F85, ⟨zeros, "NMT_MNVendorIdList_AU32", some .readWrite, none⟩),
    (0x1F86, ⟨zeros, "NMT_MNProductCodeList_AU32", some .readWrite, none⟩),
    (0x1F87, ⟨zeros, "NMT_MNRevisionNoList_AU32", some .readWrite, none⟩),
    (0x1F8D, ⟨.array (List.replicate 254 (.unsigned16 0)), "DLL_MNPResPayloadLimitList_AU16",
      some .readWrite, none⟩),
    (0x1F92, ⟨.array (List.replicate 254 (.unsigned32 100000)), "DLL_MNPResTimeOut_AU32",
      some .readWrite, none⟩)]

/-- `new_mn_default`. -/
def newMnDefault (nodeId : NodeId) : ObjectDictionary σ :=
  (newCnDefault nodeId).insertAll mnDefaultObjects

/-! ### Lookups -/

theorem get?_newCnDefault (nodeId : NodeId) (index : UInt16) :
    (newCnDefault nodeId : ObjectDictionary σ).entries.get? index =
      ((cnDefaultObjects nodeId ++ diagnosticObjects).reverse.find?
        (fun p => decide (p.1 = index))).map Prod.snd := by
  unfold newCnDefault addDiagnosticObjects
  rw [insertAll_append, get?_insertAll]
  exact Option.or_none ..

theorem get?_newMnDefault (nodeId : NodeId) (index : UInt16) :
    (newMnDefault nodeId : ObjectDictionary σ).entries.get? index =
      (((cnDefaultObjects nodeId ++ diagnosticObjects) ++ mnDefaultObjects).reverse.find?
        (fun p => decide (p.1 = index))).map Prod.snd := by
  unfold newMnDefault newCnDefault addDiagnosticObjects
  rw [insertAll_append, insertAll_append, get?_insertAll]
  exact Option.or_none ..

/-- Without storage, the initialisation adds the protocol objects only. -/
theorem init_of_storage_none [ObjectDictionaryStorage σ] {od : ObjectDictionary σ}
    (h : od.storage = none) : od.init = (.ok (), od.populateProtocolObjects) := by
  unfold init
  dsimp only
  rw [od.populateProtocolObjects_spec.1, h]

end ObjectDictionary

end Powerlink
