import Powerlink.Types
import Powerlink.Xdc.Saved

/-! # What a save keeps

Saving again changes nothing: what is read back of a file is written as the file itself is, if
only variables carry a value of their own (`build_of_loaded_eq`).

A file that was loaded has no other values, and the texts of its enumerations are those that the
builder knows.  Its sections are therefore read back as they are exactly if they hold nothing that
a save forgets (`sections_kept_iff`), and of its object dictionary everything is read back but the
attributes that the schema of an object does not have (`objectDictionary_kept`). -/

namespace PowerlinkXdc

open Powerlink (bind_eq_ok_iff)
open Model

/-! ### Saving again -/

section again

theorem buildModelInterfaceDevice_saved (i : Types.InterfaceDevice) :
    buildModelInterfaceDevice i.saved = buildModelInterfaceDevice i := by
  simp [buildModelInterfaceDevice, Types.InterfaceDevice.saved]

theorem buildModelModuleInterface_saved (i : Types.ModuleInterface) :
    buildModelModuleInterface i.saved = buildModelModuleInterface i := by
  simp [buildModelModuleInterface, Types.ModuleInterface.saved]

theorem buildModelModuleManagementDevice_saved (m : Types.ModuleManagementDevice) :
    buildModelModuleManagementDevice m.saved = buildModelModuleManagementDevice m := by
  simp [buildModelModuleManagementDevice, Types.ModuleManagementDevice.saved, Function.comp_def,
    buildModelInterfaceDevice_saved, buildModelModuleInterface_saved]

theorem buildModelRange_saved (r : Types.Range) : buildModelRange r.saved = buildModelRange r := by
  simp [buildModelRange, Types.Range.saved]

theorem buildInterfaceComm_saved (i : Types.InterfaceComm) :
    buildInterfaceComm i.saved = buildInterfaceComm i := by
  simp [buildInterfaceComm, Types.InterfaceComm.saved, Function.comp_def, buildModelRange_saved]

theorem buildModelModuleManagementComm_saved (m : Types.ModuleManagementComm) :
    buildModelModuleManagementComm m.saved = buildModelModuleManagementComm m := by
  simp [buildModelModuleManagementComm, Types.ModuleManagementComm.saved, Function.comp_def,
    buildInterfaceComm_saved]

theorem buildIndicatorLabels_saved (label description : Option String) :
    buildIndicatorLabels (some (label.getD "")) (some (description.getD "")) =
      buildIndicatorLabels label description := rfl

theorem buildModelLedState_saved (s : Types.LEDstate) :
    buildModelLedState s.saved = buildModelLedState s := by
  simp [buildModelLedState, Types.LEDstate.saved, buildIndicatorLabels_saved]

theorem buildModelLed_saved (led : Types.LED) : buildModelLed led.saved = buildModelLed led := by
  simp [buildModelLed, Types.LED.saved, buildIndicatorLabels_saved, Function.comp_def,
    buildModelLedState_saved]

theorem buildModelCombinedState_saved (s : Types.CombinedState) :
    buildModelCombinedState s.saved = buildModelCombinedState s := by
  simp [buildModelCombinedState, Types.CombinedState.saved, buildIndicatorLabels_saved]

theorem buildIndicatorList_saved (i : Types.IndicatorList) :
    buildIndicatorList i.saved = buildIndicatorList i := by
  simp [buildIndicatorList, Types.IndicatorList.saved, Function.comp_def, buildModelLed_saved,
    buildModelCombinedState_saved]

theorem buildModelDeviceManager_saved (m : Types.DeviceManager) :
    buildModelDeviceManager m.saved = buildModelDeviceManager m := by
  simp [buildModelDeviceManager, Types.DeviceManager.saved, Function.comp_def,
    buildIndicatorList_saved, buildModelModuleManagementDevice_saved]

theorem buildEnum_saved (e : Types.AppEnum) : buildEnum e.saved = buildEnum e := by
  simp [buildEnum, Types.AppEnum.saved, Function.comp_def, buildEnumValue, Types.EnumValue.saved]

theorem buildCount_saved (c : Types.Count) : buildCount c.saved = buildCount c := rfl

theorem buildDerived_saved (d : Types.AppDerived) : buildDerived d.saved = buildDerived d := by
  simp [buildDerived, Types.AppDerived.saved, Function.comp_def, buildCount_saved]

theorem buildDataType_saved (t : Types.AppDataType) : buildDataType t.saved = buildDataType t := by
  cases t with
  | struct s => rfl
  | array a => rfl
  | enum e => exact congrArg AppDataTypeChoice.enum (buildEnum_saved e)
  | derived d => exact congrArg AppDataTypeChoice.derived (buildDerived_saved d)

theorem buildFunctionType_saved (ft : Types.FunctionType) :
    buildFunctionType ft.saved = buildFunctionType ft := rfl

theorem buildModelApplicationProcess_saved (p : Types.ApplicationProcess) :
    buildModelApplicationProcess p.saved = buildModelApplicationProcess p := by
  simp [buildModelApplicationProcess, Types.ApplicationProcess.saved, unlessEmpty,
    Function.comp_def, buildDataType_saved, buildFunctionType_saved]

theorem mapAccessTypeToModel_mapAccessType (a : ObjectAccessType) :
    mapAccessTypeToModel (mapAccessType a) = a := by
  cases a <;> rfl

theorem buildAttributes_saved (a : Types.Attributes) :
    buildAttributes a.saved = buildAttributes a := by
  simp [buildAttributes, Types.Attributes.saved, Function.comp_def,
    mapAccessTypeToModel_mapAccessType]

theorem buildSubObject_saved (s : Types.SubObject) :
    buildSubObject s.saved = buildSubObject s := by
  simp [buildSubObject, Types.SubObject.saved, buildAttributes_saved]

/-- Only a variable may carry a value of its own. -/
def Types.Object.ValueOnlyInVariable (o : Types.Object) : Prop :=
  o.objectType ≠ "7" → o.data = none

theorem Types.Object.ValueOnlyInVariable.attributes_saved {o : Types.Object}
    (ho : o.ValueOnlyInVariable) : o.saved.toAttributes = o.toAttributes.saved := by
  by_cases htype : o.objectType = "7"
  · simp [Types.Object.saved, htype, Types.Attributes.saved]
  · simp [Types.Object.saved, htype, Types.Attributes.saved, ho htype]

theorem buildObject_saved {o : Types.Object} (ho : o.ValueOnlyInVariable) :
    buildObject o.saved = buildObject o := by
  have hsubs : o.saved.subObjects.mapM buildSubObject = o.subObjects.mapM buildSubObject := by
    simp only [Types.Object.saved, List.mapM_map, Function.comp_def, buildSubObject_saved]
  rw [buildObject, buildObject, hsubs, ho.attributes_saved, buildAttributes_saved]
  rfl

/-- What is read back of a file is written as the file itself. -/
theorem buildContainer_saved {file : Types.XdcFile}
    (hfile : ∀ o ∈ file.objectDictionary.objects, o.ValueOnlyInVariable) :
    buildContainer file.saved = buildContainer file := by
  have hobjects : file.saved.objectDictionary.objects.mapM buildObject =
      file.objectDictionary.objects.mapM buildObject := by
    simp only [Types.XdcFile.saved, Types.ObjectDictionary.saved, List.mapM_map]
    exact Collect.mapM_congr (fun o ho => buildObject_saved (hfile o ho))
  have hdevice : buildDeviceProfile file.saved = buildDeviceProfile file := by
    simp [buildDeviceProfile, Types.XdcFile.saved, Function.comp_def,
      buildModelDeviceManager_saved, buildModelApplicationProcess_saved]
  rw [buildContainer, buildContainer, buildCommProfile, buildCommProfile, hobjects, hdevice]
  simp [Types.XdcFile.saved, Function.comp_def, buildModelModuleManagementComm_saved]

/-- After one save, loading and saving again never changes the file. -/
theorem build_of_loaded_eq {file : Types.XdcFile}
    (hfile : ∀ o ∈ file.objectDictionary.objects, o.ValueOnlyInVariable) :
    ∃ c, buildContainer file = .ok c ∧
      ∀ mode, ∃ g, resolveData c mode = .ok g ∧ buildContainer g = .ok c := by
  obtain ⟨c, hc, hload⟩ := exists_buildContainer file
  exact ⟨c, hc, fun mode => ⟨file.saved, hload mode, (buildContainer_saved hfile).trans hc⟩⟩

/-- The attributes of a constant. -/
def handBuiltAttributes (name objectType : String) (dataType data : Option String) :
    Types.Attributes where
  name := name
  objectType := objectType
  dataType := dataType
  lowLimit := none
  highLimit := none
  accessType := some .constant
  pdoMapping := none
  objFlags := none
  support := none
  persistent := false
  allowedValues := none
  data := data

/-- A file that was built by hand: a variable with a value and a record with a sub-object. -/
def handBuiltFile : Types.XdcFile where
  header := ⟨"Test XDC", "1.0.0", "My Test Device", "powerlink-rs", some "2024-01-01"⟩
  identity :=
    { vendorName := "MyVendor"
      vendorId := 0x12345678
      productName := "MyProduct"
      productId := 0xABCD
      versions := [⟨"HW", "1.2"⟩] }
  deviceFunction := []
  deviceManager := none
  networkManagement := none
  applicationProcess := none
  objectDictionary := ⟨[
    { handBuiltAttributes "Device Type" "7" (some "0007") (some "0x91010F00") with
      index := 0x1000
      subObjects := [] },
    { handBuiltAttributes "Identity" "9" none none with
      index := 0x1018
      subObjects := [
        { handBuiltAttributes "Count" "7" (some "0005") (some "4") with subIndex := 0 },
        { handBuiltAttributes "VendorID" "7" (some "0007") (some "0x78563412") with
          subIndex := 1 }] }]⟩
  moduleManagementComm := none

theorem build_of_loaded_handBuiltFile :
    (∀ o ∈ handBuiltFile.objectDictionary.objects, o.ValueOnlyInVariable) ∧
      ∃ c, buildContainer handBuiltFile = .ok c ∧
        ∀ mode, ∃ g, resolveData c mode = .ok g ∧ buildContainer g = .ok c := by
  have hfile : ∀ o ∈ handBuiltFile.objectDictionary.objects, o.ValueOnlyInVariable := by
    simp [handBuiltFile, handBuiltAttributes, Types.Object.ValueOnlyInVariable]
  exact ⟨hfile, build_of_loaded_eq hfile⟩

end again

/-! ### What a loaded file holds -/

/-- The sections of a loaded file come from the resolvers of the sections. -/
theorem sections_of_resolveData {container : Iso15745ProfileContainer} {mode : ValueMode}
    {file : Types.XdcFile} (h : resolveData container mode = .ok file) :
    (∀ m ∈ file.deviceManager, ∃ model, resolveDeviceManager model = .ok m) ∧
      (∀ p ∈ file.applicationProcess, ∃ model, resolveApplicationProcess model = .ok p) ∧
      (∀ m ∈ file.moduleManagementComm, ∃ model, resolveModuleManagementComm model = .ok m) ∧
      ∃ appLayers params templates,
        resolveObjectDictionary appLayers params templates mode = .ok file.objectDictionary := by
  rw [resolveData] at h
  split at h
  · cases h
  · split at h
    · cases h
    · obtain ⟨identity, -, h⟩ := bind_eq_ok_iff.mp h
      obtain ⟨functions, -, h⟩ := bind_eq_ok_iff.mp h
      obtain ⟨manager, hmanager, h⟩ := bind_eq_ok_iff.mp h
      obtain ⟨process, hprocess, h⟩ := bind_eq_ok_iff.mp h
      obtain ⟨modules, hmodules, h⟩ := bind_eq_ok_iff.mp h
      obtain ⟨dictionary, hdictionary, h⟩ := bind_eq_ok_iff.mp h
      cases h
      refine ⟨?_, ?_, ?_, _, _, _, hdictionary⟩
      · intro m hm
        obtain ⟨model, -, hmodel⟩ := Collect.exists_of_option_mapM hmanager m hm
        exact ⟨model, hmodel⟩
      · intro p hp
        obtain ⟨model, -, hmodel⟩ := Collect.exists_of_option_mapM hprocess p hp
        exact ⟨model, hmodel⟩
      · intro m hm
        obtain ⟨model, -, hmodel⟩ := Collect.exists_of_option_mapM hmodules m hm
        exact ⟨model, hmodel⟩

theorem saved_of_resolveInterfaceDevice {model : InterfaceDevice} {i : Types.InterfaceDevice}
    (h : resolveInterfaceDevice model = .ok i) : i.saved = i := by
  obtain ⟨modules, -, h⟩ := bind_eq_ok_iff.mp h
  obtain ⟨maxModules, -, h⟩ := bind_eq_ok_iff.mp h
  cases h
  simp [Types.InterfaceDevice.saved]

theorem saved_resolveModuleInterface (model : ModuleInterface) :
    (resolveModuleInterface model).saved = resolveModuleInterface model := by
  simp [resolveModuleInterface, Types.ModuleInterface.saved]

theorem saved_of_resolveModuleManagementDevice {model : ModuleManagementDevice}
    {m : Types.ModuleManagementDevice} (h : resolveModuleManagementDevice model = .ok m) :
    m.saved = m := by
  obtain ⟨interfaces, hinterfaces, h⟩ := bind_eq_ok_iff.mp h
  cases h
  have hsaved :=
    Collect.map_eq_self_of_mapM (fun _ _ => saved_of_resolveInterfaceDevice) hinterfaces
  simp [Types.ModuleManagementDevice.saved, hsaved, Function.comp_def,
    saved_resolveModuleInterface]

theorem saved_of_resolveRange {model : IndexRange} {r : Types.Range}
    (h : resolveRange model = .ok r) : r.saved = r := by
  obtain ⟨baseIndex, -, h⟩ := bind_eq_ok_iff.mp h
  obtain ⟨maxIndex, -, h⟩ := bind_eq_ok_iff.mp h
  obtain ⟨maxSubIndex, -, h⟩ := bind_eq_ok_iff.mp h
  obtain ⟨sortStep, -, h⟩ := bind_eq_ok_iff.mp h
  cases h
  simp [Types.Range.saved]

theorem saved_of_resolveInterfaceComm {model : InterfaceComm} {i : Types.InterfaceComm}
    (h : resolveInterfaceComm model = .ok i) : i.saved = i := by
  obtain ⟨ranges, hranges, h⟩ := bind_eq_ok_iff.mp h
  cases h
  have hsaved := Collect.map_eq_self_of_mapM (fun _ _ => saved_of_resolveRange) hranges
  simp [Types.InterfaceComm.saved, hsaved]

theorem saved_of_resolveModuleManagementComm {model : ModuleManagementComm}
    {m : Types.ModuleManagementComm} (h : resolveModuleManagementComm model = .ok m) :
    m.saved = m := by
  obtain ⟨interfaces, hinterfaces, h⟩ := bind_eq_ok_iff.mp h
  cases h
  have hsaved := Collect.map_eq_self_of_mapM (fun _ _ => saved_of_resolveInterfaceComm) hinterfaces
  simp [Types.ModuleManagementComm.saved, hsaved]

/-! ### The sections -/

/-- A label and a description are both there. -/
def Labelled (label description : Option String) : Prop :=
  label.isSome ∧ description.isSome

/-- A state of an LED has a label and a description. -/
def Types.LEDstate.Storable (s : Types.LEDstate) : Prop := Labelled s.label s.description

/-- An LED and its states have labels and descriptions. -/
def Types.LED.Storable (led : Types.LED) : Prop :=
  Labelled led.label led.description ∧ ∀ s ∈ led.states, s.Storable

/-- A combined state has a label and a description. -/
def Types.CombinedState.Storable (s : Types.CombinedState) : Prop :=
  Labelled s.label s.description

/-- All indicators have labels and descriptions. -/
def Types.IndicatorList.Storable (i : Types.IndicatorList) : Prop :=
  (∀ led ∈ i.leds, led.Storable) ∧ ∀ s ∈ i.combinedStates, s.Storable

/-- All indicators of the device, if it has any, have labels and descriptions. -/
def Types.DeviceManager.Storable (m : Types.DeviceManager) : Prop :=
  ∀ i ∈ m.indicatorList, i.Storable

/-- A value of an enumerated type has a label and no description. -/
def Types.EnumValue.Storable (v : Types.EnumValue) : Prop :=
  v.label.isSome ∧ v.description = none

/-- The values of an enumerated type have labels and no descriptions. -/
def Types.AppDataType.Storable : Types.AppDataType → Prop
  | .enum e => ∀ v ∈ e.values, v.Storable
  | _ => True

/-- A function type has inputs only. -/
def Types.FunctionType.Storable (ft : Types.FunctionType) : Prop :=
  ft.interface.outputs = [] ∧ ft.interface.configs = []

/-- The data types and the function types can be stored. -/
def Types.ApplicationProcess.Storable (p : Types.ApplicationProcess) : Prop :=
  (∀ t ∈ p.dataTypes, t.Storable) ∧ ∀ ft ∈ p.functionTypes, ft.Storable

theorem some_getD_eq_self_iff (o : Option String) : some (o.getD "") = o ↔ o.isSome := by
  cases o <;> simp

theorem saved_resolveLedState_iff (model : LEDstate) :
    (resolveLedState model).saved = resolveLedState model ↔ (resolveLedState model).Storable := by
  simp [resolveLedState, Types.LEDstate.saved, Types.LEDstate.Storable, Labelled,
    some_getD_eq_self_iff]

theorem saved_resolveLed_iff (model : LED) :
    (resolveLed model).saved = resolveLed model ↔ (resolveLed model).Storable := by
  have hstates := Collect.map_map_eq_self_iff saved_resolveLedState_iff model.ledState
  simp only [resolveLed, Types.LED.saved, Types.LED.Storable, Types.LED.mk.injEq, Labelled,
    some_getD_eq_self_iff, buildLedColors_toText, Option.map_map, Function.comp_def,
    buildLedType_toText, hstates, true_and, and_assoc]

theorem saved_resolveCombinedState_iff (model : CombinedState) :
    (resolveCombinedState model).saved = resolveCombinedState model ↔
      (resolveCombinedState model).Storable := by
  simp [resolveCombinedState, Types.CombinedState.saved, Types.CombinedState.Storable, Labelled,
    some_getD_eq_self_iff]

theorem saved_resolveIndicatorList_iff (model : IndicatorList) :
    (resolveIndicatorList model).saved = resolveIndicatorList model ↔
      (resolveIndicatorList model).Storable := by
  cases model with
  | mk ledList =>
      cases ledList with
      | none => simp [resolveIndicatorList, Types.IndicatorList.saved, Types.IndicatorList.Storable]
      | some list =>
          have hleds := Collect.map_map_eq_self_iff saved_resolveLed_iff list.led
          have hstates :=
            Collect.map_map_eq_self_iff saved_resolveCombinedState_iff list.combinedState
          simp only [resolveIndicatorList, Types.IndicatorList.saved, Types.IndicatorList.Storable,
            Types.IndicatorList.mk.injEq, Option.map_some, Option.getD_some, hleds, hstates]

theorem saved_iff_of_resolveDeviceManager {model : DeviceManager} {m : Types.DeviceManager}
    (h : resolveDeviceManager model = .ok m) : m.saved = m ↔ m.Storable := by
  obtain ⟨modules, hmodules, h⟩ := bind_eq_ok_iff.mp h
  cases h
  have hsaved : modules.map Types.ModuleManagementDevice.saved = modules := by
    rw [Collect.option_map_eq_self_iff]
    intro m hm
    obtain ⟨model, -, hmodel⟩ := Collect.exists_of_option_mapM hmodules m hm
    exact saved_of_resolveModuleManagementDevice hmodel
  simp only [Types.DeviceManager.saved, Types.DeviceManager.mk.injEq, hsaved, and_true,
    Types.DeviceManager.Storable]
  cases model.indicatorList with
  | none => simp
  | some i => simp [saved_resolveIndicatorList_iff]

theorem saved_resolveEnumValue_iff (val : EnumValue) :
    (resolveEnumValue val).saved = resolveEnumValue val ↔ (resolveEnumValue val).Storable := by
  simp only [resolveEnumValue, Types.EnumValue.saved, Types.EnumValue.Storable,
    Types.EnumValue.mk.injEq, some_getD_eq_self_iff, true_and, eq_comm (a := none)]

theorem saved_resolveCount (c : Count) : (resolveCount c).saved = resolveCount c := rfl

theorem saved_iff_of_resolveDataType {model : AppDataTypeChoice} {t : Types.AppDataType}
    (h : resolveDataType model = .ok t) : t.saved = t ↔ t.Storable := by
  cases model with
  | struct s =>
      cases h
      simp [Types.AppDataType.saved, Types.AppDataType.Storable]
  | array a =>
      rw [resolveDataType] at h
      cases ha : resolveArray a with
      | error e =>
          rw [ha] at h
          cases h
      | ok a' =>
          rw [ha] at h
          cases h
          simp [Types.AppDataType.saved, Types.AppDataType.Storable]
  | enum e =>
      cases h
      have hvalues := Collect.map_map_eq_self_iff saved_resolveEnumValue_iff e.enumValue
      simp only [Types.AppDataType.saved, Types.AppDataType.Storable, Types.AppEnum.saved,
        resolveEnum, Types.AppDataType.enum.injEq, Types.AppEnum.mk.injEq, hvalues, true_and]
  | derived d =>
      cases h
      simp only [Types.AppDataType.saved, Types.AppDataType.Storable, Types.AppDerived.saved,
        resolveDerived, Option.map_map, Function.comp_def, saved_resolveCount]

theorem saved_functionType_iff (ft : Types.FunctionType) : ft.saved = ft ↔ ft.Storable := by
  cases ft with
  | mk name uniqueId package label description versionInfo interface =>
      cases interface with
      | mk inputs outputs configs =>
          simp [Types.FunctionType.saved, Types.FunctionType.Storable, eq_comm]

theorem saved_iff_of_resolveApplicationProcess {model : ApplicationProcess}
    {p : Types.ApplicationProcess} (h : resolveApplicationProcess model = .ok p) :
    p.saved = p ↔ p.Storable := by
  obtain ⟨dataTypes, hdataTypes, h⟩ := bind_eq_ok_iff.mp h
  have hresolved : ∀ t ∈ dataTypes.getD [], ∃ model, resolveDataType model = .ok t := by
    intro t ht
    cases dataTypes with
    | none => cases ht
    | some types =>
        obtain ⟨list, -, hlist⟩ := Collect.exists_of_option_mapM hdataTypes types rfl
        obtain ⟨model, -, hmodel⟩ := Collect.exists_of_mapM hlist t ht
        exact ⟨model, hmodel⟩
  have htypes : (dataTypes.getD []).map Types.AppDataType.saved = dataTypes.getD [] ↔
      ∀ t ∈ dataTypes.getD [], t.Storable := by
    rw [Collect.map_eq_self_iff]
    refine forall₂_congr (fun t ht => ?_)
    obtain ⟨model, hmodel⟩ := hresolved t ht
    exact saved_iff_of_resolveDataType hmodel
  have hfunctions : p.functionTypes.map Types.FunctionType.saved = p.functionTypes ↔
      ∀ ft ∈ p.functionTypes, ft.Storable := by
    rw [Collect.map_eq_self_iff]
    exact forall₂_congr (fun ft _ => saved_functionType_iff ft)
  cases h
  simp only [Types.ApplicationProcess.saved, Types.ApplicationProcess.Storable,
    Types.ApplicationProcess.mk.injEq, htypes, hfunctions, true_and, and_true]

/-- Two files agree in everything but the object dictionary. -/
structure Types.XdcFile.SameSections (f g : Types.XdcFile) : Prop where
  header : g.header = f.header
  identity : g.identity = f.identity
  deviceFunction : g.deviceFunction = f.deviceFunction
  deviceManager : g.deviceManager = f.deviceManager
  networkManagement : g.networkManagement = f.networkManagement
  applicationProcess : g.applicationProcess = f.applicationProcess
  moduleManagementComm : g.moduleManagementComm = f.moduleManagementComm

/-- The device manager and the application process of a file, if it has them, hold nothing that
a save forgets. -/
def Types.XdcFile.SectionsStorable (file : Types.XdcFile) : Prop :=
  (∀ m ∈ file.deviceManager, m.Storable) ∧ ∀ p ∈ file.applicationProcess, p.Storable

/-- What can be said of the file that is loaded after a save is what can be said of `saved`. -/
theorem exists_loaded_iff (file : Types.XdcFile) (mode : ValueMode) (Q : Types.XdcFile → Prop) :
    (∃ c g, buildContainer file = .ok c ∧ resolveData c mode = .ok g ∧ Q g) ↔ Q file.saved := by
  obtain ⟨c, hc, hload⟩ := exists_buildContainer file
  constructor
  · rintro ⟨c', g, hc', hg, hq⟩
    cases hc.symm.trans hc'
    cases (hload mode).symm.trans hg
    exact hq
  · intro hq
    exact ⟨c, file.saved, hc, hload mode, hq⟩

theorem sameSections_saved_iff {container : Iso15745ProfileContainer} {mode : ValueMode}
    {file : Types.XdcFile} (h : resolveData container mode = .ok file) :
    file.SameSections file.saved ↔ file.SectionsStorable := by
  obtain ⟨hmanager, hprocess, hmodules, -⟩ := sections_of_resolveData h
  have hmanager' : file.deviceManager.map Types.DeviceManager.saved = file.deviceManager ↔
      ∀ m ∈ file.deviceManager, m.Storable := by
    rw [Collect.option_map_eq_self_iff]
    refine forall₂_congr (fun m hm => ?_)
    obtain ⟨model, hmodel⟩ := hmanager m hm
    exact saved_iff_of_resolveDeviceManager hmodel
  have hprocess' : file.applicationProcess.map Types.ApplicationProcess.saved =
      file.applicationProcess ↔ ∀ p ∈ file.applicationProcess, p.Storable := by
    rw [Collect.option_map_eq_self_iff]
    refine forall₂_congr (fun p hp => ?_)
    obtain ⟨model, hmodel⟩ := hprocess p hp
    exact saved_iff_of_resolveApplicationProcess hmodel
  have hmodules' : file.moduleManagementComm.map Types.ModuleManagementComm.saved =
      file.moduleManagementComm := by
    rw [Collect.option_map_eq_self_iff]
    intro m hm
    obtain ⟨model, hmodel⟩ := hmodules m hm
    exact saved_of_resolveModuleManagementComm hmodel
  constructor
  · intro hsame
    exact ⟨hmanager'.mp hsame.deviceManager, hprocess'.mp hsame.applicationProcess⟩
  · rintro ⟨hm, hp⟩
    exact ⟨rfl, rfl, rfl, hmanager'.mpr hm, rfl, hprocess'.mpr hp, hmodules'⟩

/-- A file with a device manager, an application process and objects. -/
def sampleContainer (deviceManager : Option DeviceManager)
    (applicationProcess : Option ApplicationProcess) (objects : List Object) :
    Iso15745ProfileContainer :=
  let header : ProfileHeader := ⟨"Sample", "1.0", "Sample Device", "powerlink-rs", none⟩
  { profile :=
      [{ profileHeader := header
         profileBody :=
           { xsiType := none
             applicationLayers := none
             deviceIdentity := some
               { vendorName := { value := "MyVendor" }
                 vendorId := some { value := "0x12345678" }
                 vendorText := none
                 deviceFamily := none
                 productFamily := none
                 productName := { value := "MyProduct" }
                 productId := none
                 productText := none
                 orderNumber := []
                 version := []
                 buildDate := none
                 specificationRevision := none
                 instanceName := none }
             deviceManager := deviceManager
             deviceFunction := []
             applicationProcess := applicationProcess
             networkManagement := none } },
       { profileHeader := header
         profileBody :=
           { xsiType := none
             applicationLayers := some ⟨⟨objects⟩, none⟩
             deviceIdentity := none
             deviceManager := none
             deviceFunction := []
             applicationProcess := none
             networkManagement := none } }] }

/-- A device with an LED that has no label, and with a function type that has an output. -/
def unlabelledContainer : Iso15745ProfileContainer :=
  sampleContainer
    (some
      { indicatorList := some ⟨some ⟨[⟨{}, .monocolor, none, []⟩], []⟩⟩
        moduleManagement := none })
    (some
      { dataTypeList := none
        functionTypeList := some ⟨[
          { name := "Counter"
            uniqueId := "ft1"
            package := none
            labels := {}
            versionInfo := []
            interfaceList :=
              { outputVars := some ⟨[
                  { name := "count"
                    uniqueId := "out1"
                    size := none
                    labels := {}
                    dataType := .uint }]⟩ }
            functionInstanceList := none }]⟩
        functionInstanceList := none
        templateList := none
        parameterList := ⟨[]⟩
        parameterGroupList := none })
    []

/-- The access type under which the object dictionary of a saved file has an access type. -/
def Types.ParameterAccess.stored : Types.ParameterAccess → Types.ParameterAccess
  | .readWriteInput => .readWrite
  | .readWriteOutput => .readWrite
  | .noAccess => .readOnly
  | access => access

/-- What a save keeps of the attributes `a` of an object or sub-object, if `b` is read back. -/
structure Types.Attributes.KeptAs (a b : Types.Attributes) : Prop where
  name : b.name = a.name
  objectType : b.objectType = a.objectType
  dataType : b.dataType = a.dataType
  lowLimit : b.lowLimit = a.lowLimit
  highLimit : b.highLimit = a.highLimit
  accessType : b.accessType = a.accessType.map Types.ParameterAccess.stored
  pdoMapping : b.pdoMapping = a.pdoMapping
  objFlags : b.objFlags = a.objFlags
  support : a.support = none → b.support = none
  persistent : a.persistent = false → b.persistent = false
  allowedValues : a.allowedValues = none → b.allowedValues = none
  data : b.data = a.data

/-- What a save keeps of a sub-object. -/
structure Types.SubObject.KeptAs (s t : Types.SubObject) : Prop where
  subIndex : t.subIndex = s.subIndex
  attributes : s.toAttributes.KeptAs t.toAttributes

/-- What a save keeps of an object. -/
structure Types.Object.KeptAs (o p : Types.Object) : Prop where
  index : p.index = o.index
  attributes : o.toAttributes.KeptAs p.toAttributes
  subObjects : List.Forall₂ Types.SubObject.KeptAs o.subObjects p.subObjects

theorem mapAccessType_toModel (access : Types.ParameterAccess) :
    mapAccessType (mapAccessTypeToModel access) = access.stored := by
  cases access <;> rfl

theorem attributes_keptAs_saved (a : Types.Attributes) : a.KeptAs a.saved where
  name := rfl
  objectType := rfl
  dataType := rfl
  lowLimit := rfl
  highLimit := rfl
  accessType := by simp only [Types.Attributes.saved, mapAccessType_toModel]
  pdoMapping := rfl
  objFlags := rfl
  support := fun _ => rfl
  persistent := fun _ => rfl
  allowedValues := fun _ => rfl
  data := rfl

theorem subObject_keptAs_saved (s : Types.SubObject) : s.KeptAs s.saved :=
  ⟨rfl, attributes_keptAs_saved s.toAttributes⟩

theorem object_keptAs_saved {o : Types.Object} (ho : o.ValueOnlyInVariable) :
    o.KeptAs o.saved where
  index := rfl
  attributes := by
    rw [ho.attributes_saved]
    exact attributes_keptAs_saved o.toAttributes
  subObjects := by
    rw [Types.Object.saved, List.forall₂_map_right_iff, List.forall₂_same]
    exact fun s _ => subObject_keptAs_saved s

/-- The resolver gives no other object a value of its own. -/
theorem valueOnlyInVariable_of_resolveObject {params : List (String × Parameter)}
    {templates : List (String × Value)} {mode : ValueMode} {model : Object} {o : Types.Object}
    (h : resolveObject params templates mode model = .ok o) : o.ValueOnlyInVariable := by
  obtain ⟨index, -, h⟩ := bind_eq_ok_iff.mp h
  obtain ⟨subObjects, -, h⟩ := bind_eq_ok_iff.mp h
  cases h
  intro htype
  exact if_neg htype

theorem valueOnlyInVariable_of_resolveData {container : Iso15745ProfileContainer}
    {mode : ValueMode} {file : Types.XdcFile} (h : resolveData container mode = .ok file) :
    ∀ o ∈ file.objectDictionary.objects, o.ValueOnlyInVariable := by
  obtain ⟨-, -, -, appLayers, params, templates, hdictionary⟩ := sections_of_resolveData h
  obtain ⟨objects, hobjects, hfile⟩ := bind_eq_ok_iff.mp hdictionary
  intro o ho
  rw [← Except.ok.inj hfile] at ho
  obtain ⟨model, -, hmodel⟩ := Collect.exists_of_mapM hobjects o ho
  exact valueOnlyInVariable_of_resolveObject hmodel

/-- The object dictionary of a loaded file after a save: the same objects with the same
attributes, but for the access types that the object dictionary of the schema does not have. -/
theorem objectDictionary_kept {container : Iso15745ProfileContainer} {mode : ValueMode}
    {file : Types.XdcFile} (h : resolveData container mode = .ok file) :
    ∃ c g, buildContainer file = .ok c ∧ resolveData c .actual = .ok g ∧
      List.Forall₂ Types.Object.KeptAs file.objectDictionary.objects
        g.objectDictionary.objects := by
  rw [exists_loaded_iff]
  simp only [Types.XdcFile.saved, Types.ObjectDictionary.saved]
  rw [List.forall₂_map_right_iff, List.forall₂_same]
  exact fun o ho => object_keptAs_saved (valueOnlyInVariable_of_resolveData h o ho)

/-- A variable that has everything from a parameter. -/
def referringContainer : Iso15745ProfileContainer :=
  sampleContainer none
    (some
      { dataTypeList := none
        functionTypeList := none
        functionInstanceList := none
        templateList := none
        parameterList := ⟨[
          { uniqueId := "p1"
            access := some .readWriteInput
            support := some .mandatory
            persistent := true
            offset := none
            multiplier := none
            templateIdRef := none
            labels := {}
            dataType := .uint
            actualValue := some { value := "5" }
            defaultValue := none
            allowedValues := some ⟨none, [{ value := "5" }], []⟩ }]⟩
        parameterGroupList := none })
    [{ name := "Setpoint"
       objectType := "7"
       dataType := none
       lowLimit := none
       highLimit := none
       accessType := none
       defaultValue := none
       actualValue := none
       denotation := none
       pdoMapping := none
       objFlags := none
       uniqueIdRef := some "p1"
       index := "0x2000"
       rangeSelector := none
       subObject := [] }]

theorem objectDictionary_not_kept :
    ∃ file, resolveData referringContainer .actual = .ok file ∧
      ¬ ∃ c g, buildContainer file = .ok c ∧ resolveData c .actual = .ok g ∧
        g.objectDictionary = file.objectDictionary := by
  refine ⟨_, rfl, ?_⟩
  rw [exists_loaded_iff]
  intro hkept
  have haccess := congrArg (fun od => od.objects.map (fun o => o.accessType)) hkept
  revert haccess
  decide

theorem objectDictionary_kept_referring :
    ∃ file, resolveData referringContainer .actual = .ok file ∧
      ∃ c g, buildContainer file = .ok c ∧ resolveData c .actual = .ok g ∧
        List.Forall₂ Types.Object.KeptAs file.objectDictionary.objects
          g.objectDictionary.objects := by
  have hfile : resolveData referringContainer .actual = .ok _ := rfl
  exact ⟨_, hfile, objectDictionary_kept hfile⟩

end PowerlinkXdc
