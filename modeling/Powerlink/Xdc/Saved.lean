import Powerlink.Xdc.Resolver
import Powerlink.Xdc.Builder
import Powerlink.Lib.Collect

/-! # What is read back of a saved device description

`XdcFile.saved` is the file that loading returns after a save.  Most sections are read back as
they were written; the others have a `saved` of their own, which says what a save forgets: the
texts of an enumeration become one of the texts the schema knows, an indicator gets a label and a
description, the values of an enumerated type lose theirs, a function type keeps its inputs only,
and an object keeps what the schema has an attribute for.

`exists_buildContainer` is the result: every file can be saved, and in both value modes the
resolver reads `saved` back. -/

namespace PowerlinkXdc

open Model

/-! ### Numbers -/

@[simp] theorem parseU32_u32ToString (n : UInt32) : parseU32 (u32ToString n) = some n := by
  rw [parseU32, u32ToString, Numerals.parse_format (by norm_num) (by norm_num) (by norm_num)
    n.toNat_lt]
  simp

@[simp] theorem parseU8_u8ToString (n : UInt8) : parseU8 (u8ToString n) = some n := by
  rw [parseU8, u8ToString, Numerals.parse_format (by norm_num) (by norm_num) (by norm_num)
    n.toNat_lt]
  simp

theorem strip0x_append (s : String) : strip0x ("0x" ++ s) = s := by
  have hlist : ("0x" ++ s).toList = '0' :: 'x' :: s.toList := by
    rw [String.toList_append]
    rfl
  rw [strip0x, hlist]
  exact String.ofList_toList

/-- No digit is an `x`. -/
theorem strip0x_format (width n : ℕ) :
    strip0x (Numerals.format 16 width n) = Numerals.format 16 width n := by
  rw [strip0x, Numerals.format, String.toList_ofList]
  split
  · rename_i rest hlist
    have hmem : 'x' ∈ (Numerals.paddedDigits 16 width n).map Numerals.digitChar := by
      rw [hlist]
      simp
    obtain ⟨d, hd, hx⟩ := List.mem_map.mp hmem
    have key : ∀ d : Fin 16, Numerals.digitChar d ≠ 'x' := by decide
    exact absurd hx (key ⟨d, Numerals.paddedDigits_lt (by norm_num) width n d hd⟩)
  · rfl

@[simp] theorem parseHexU16_formatHexU16 (n : UInt16) : parseHexU16 (formatHexU16 n) = some n := by
  rw [parseHexU16, formatHexU16, strip0x_format, Numerals.parse_format (by norm_num)
    (by norm_num) (by norm_num) n.toNat_lt]
  simp

@[simp] theorem parseHexU8_formatHexU8 (n : UInt8) : parseHexU8 (formatHexU8 n) = some n := by
  rw [parseHexU8, formatHexU8, strip0x_format, Numerals.parse_format (by norm_num)
    (by norm_num) (by norm_num) n.toNat_lt]
  simp

/-- The hexadecimal numbers of the identity, in at least one digit. -/
theorem parseHexU32_append {width : ℕ} (hwidth : 0 < width) (n : UInt32) :
    parseHexU32 ("0x" ++ Numerals.format 16 width n.toNat) = some n := by
  rw [parseHexU32, strip0x_append, Numerals.parse_format (by norm_num) (by norm_num) hwidth
    n.toNat_lt]
  simp

theorem parseProductId_append {width : ℕ} (hwidth : 0 < width) (n : UInt32) :
    parseProductId ("0x" ++ Numerals.format 16 width n.toNat) = some n := by
  have htake : ("0x" ++ Numerals.format 16 width n.toNat).toList.take 2 = ['0', 'x'] := by
    rw [String.toList_append]
    rfl
  rw [parseProductId, if_pos htake, parseHexU32_append hwidth]

@[simp] theorem orInvalid_some {α : Type} (name : String) (a : α) :
    orInvalid name (some a) = .ok a := rfl

@[simp] theorem orParseIntError_some {α : Type} (a : α) : orParseIntError (some a) = .ok a := rfl

/-- Optional numbers are read back. -/
@[simp] theorem bind_parseU32_map (o : Option UInt32) :
    (o.map u32ToString).bind parseU32 = o := by
  cases o <;> simp

@[simp] theorem bind_parseU8_map (o : Option UInt8) : (o.map u8ToString).bind parseU8 = o := by
  cases o <;> simp

/-! ### Labels -/

@[simp] theorem extractLabel_buildGlabels (label description : Option String) :
    extractLabel (buildGlabels label description).items = label := by
  cases label <;> cases description <;> rfl

@[simp] theorem extractDescription_buildGlabels (label description : Option String) :
    extractDescription (buildGlabels label description).items = description := by
  cases label <;> cases description <;> rfl

@[simp] theorem extractLabel_buildGlabelsOpt (label description : Option String) :
    (buildGlabelsOpt label description).bind (fun l => extractLabel l.items) = label := by
  cases label <;> cases description <;> rfl

@[simp] theorem extractDescription_buildGlabelsOpt (label description : Option String) :
    (buildGlabelsOpt label description).bind (fun l => extractDescription l.items) =
      description := by
  cases label <;> cases description <;> rfl

@[simp] theorem extractLabel_attributedLabel (o : Option String) :
    (o.map attributedLabel).bind (fun t => extractLabel t.items) = o := by
  cases o <;> rfl

@[simp] theorem extractLabel_buildIndicatorLabels (label description : Option String) :
    extractLabel (buildIndicatorLabels label description).items = some (label.getD "") := rfl

@[simp] theorem extractDescription_buildIndicatorLabels (label description : Option String) :
    extractDescription (buildIndicatorLabels label description).items =
      some (description.getD "") := rfl

/-! ### Header and identity -/

theorem resolveHeader_build (header : Types.ProfileHeader) :
    resolveHeader (buildModelHeader header) = header := rfl

theorem resolveIdentity_build (identity : Types.Identity) :
    resolveIdentity (buildDeviceIdentity identity) = .ok identity := by
  simp [resolveIdentity, buildDeviceIdentity, parseHexU32_append, parseProductId_append,
    Function.comp_def]

/-! ### Device function -/

theorem resolveCharacteristic_build (c : Types.Characteristic) :
    resolveCharacteristic (buildModelCharacteristic c) = .ok c := by
  have hread : ∀ content : String, requireLabel "characteristicContent/label"
      (buildGlabels (some content) none).items = .ok content := fun _ => rfl
  simp only [resolveCharacteristic, buildModelCharacteristic, List.mapM_map, Function.comp_def,
    Collect.mapM_ok hread]
  simp [requireLabel]

theorem resolveCharacteristicsList_build (l : Types.CharacteristicList) :
    resolveCharacteristicsList (buildModelCharacteristicsList l) = .ok l := by
  have hmap := Collect.mapM_map_ok resolveCharacteristic_build l.characteristics
  simp only [resolveCharacteristicsList, buildModelCharacteristicsList, hmap]
  simp [Option.bind_map]

theorem resolveCapabilities_build (c : Types.Capabilities) :
    resolveCapabilities (buildModelCapabilities c) = .ok c := by
  have hmap := Collect.mapM_map_ok resolveCharacteristicsList_build c.characteristics
  simp only [resolveCapabilities, buildModelCapabilities, hmap]
  simp [Function.comp_def, resolveCompliantWith, buildModelCompliantWith]

theorem resolveFirmware_build (f : Types.Firmware) :
    resolveFirmware (buildModelFirmware f) = .ok f := by
  simp [resolveFirmware, buildModelFirmware]

theorem resolveDeviceFunction_build (f : Types.DeviceFunction) :
    resolveDeviceFunction (buildModelDeviceFunction f) = .ok f := by
  have hcapabilities := Collect.option_mapM_map_ok resolveCapabilities_build f.capabilities
  have hfirmware := Collect.mapM_map_ok resolveFirmware_build f.firmwareList
  simp only [resolveDeviceFunction, buildModelDeviceFunction, hcapabilities, Option.mapM_some,
    hfirmware]
  simp [Function.comp_def, resolvePicture, buildModelPicture, resolveDictionary,
    buildModelDictionary, resolveConnector, buildModelConnector]

/-! ### Modular devices -/

@[simp] theorem buildAddressingHead_toText (a : ModuleAddressingHead) :
    buildAddressingHead (ModuleAddressingHead.toText a) = a := by
  cases a <;> rfl

@[simp] theorem buildAddressingChild_toText (a : ModuleAddressingChild) :
    buildAddressingChild (ModuleAddressingChild.toText a) = a := by
  cases a <;> rfl

@[simp] theorem buildSortMode_toText (m : SortMode) : buildSortMode (SortMode.toText m) = m := by
  cases m <;> rfl

@[simp] theorem buildSortNumber_toText (a : AddressingAttribute) :
    buildSortNumber (AddressingAttribute.toText a) = a := by
  cases a <;> rfl

@[simp] theorem mapPdoMapping_toModel (p : Types.ObjectPdoMapping) :
    mapPdoMapping (mapPdoMappingToModel p) = p := by
  cases p <;> rfl

/-- What is read back of an interface of a head. -/
def Types.InterfaceDevice.saved (i : Types.InterfaceDevice) : Types.InterfaceDevice :=
  { i with
    moduleAddressing := ModuleAddressingHead.toText (buildAddressingHead i.moduleAddressing) }

/-- What is read back of the interface of a module. -/
def Types.ModuleInterface.saved (i : Types.ModuleInterface) : Types.ModuleInterface :=
  { i with
    moduleAddressing := ModuleAddressingChild.toText (buildAddressingChild i.moduleAddressing) }

/-- What is read back of the modules of a device. -/
def Types.ModuleManagementDevice.saved (m : Types.ModuleManagementDevice) :
    Types.ModuleManagementDevice where
  interfaces := m.interfaces.map Types.InterfaceDevice.saved
  moduleInterface := m.moduleInterface.map Types.ModuleInterface.saved

/-- What is read back of a range of indices. -/
def Types.Range.saved (r : Types.Range) : Types.Range :=
  { r with
    sortMode := SortMode.toText (buildSortMode r.sortMode)
    sortNumber := AddressingAttribute.toText (buildSortNumber r.sortNumber) }

/-- What is read back of an interface of the communication profile. -/
def Types.InterfaceComm.saved (i : Types.InterfaceComm) : Types.InterfaceComm :=
  { i with ranges := i.ranges.map Types.Range.saved }

/-- What is read back of the modules of the communication profile. -/
def Types.ModuleManagementComm.saved (m : Types.ModuleManagementComm) :
    Types.ModuleManagementComm where
  interfaces := m.interfaces.map Types.InterfaceComm.saved

theorem resolveConnectedModule_build (m : Types.ConnectedModule) :
    resolveConnectedModule (buildConnectedModule m) = .ok m := by
  cases m with
  | mk childIdRef position address =>
      cases address <;> simp [resolveConnectedModule, buildConnectedModule]

theorem resolveInterfaceDevice_build (i : Types.InterfaceDevice) :
    resolveInterfaceDevice (buildModelInterfaceDevice i) = .ok i.saved := by
  have hmodules := Collect.mapM_map_ok resolveConnectedModule_build i.connectedModules
  simp only [resolveInterfaceDevice, buildModelInterfaceDevice, Option.mapM_some, hmodules]
  simp [Types.InterfaceDevice.saved, Function.comp_def]

theorem resolveModuleInterface_build (i : Types.ModuleInterface) :
    resolveModuleInterface (buildModelModuleInterface i) = i.saved := rfl

theorem resolveModuleManagementDevice_build (m : Types.ModuleManagementDevice) :
    resolveModuleManagementDevice (buildModelModuleManagementDevice m) = .ok m.saved := by
  have hinterfaces := Collect.mapM_map_ok resolveInterfaceDevice_build m.interfaces
  simp only [resolveModuleManagementDevice, buildModelModuleManagementDevice, hinterfaces]
  simp [Types.ModuleManagementDevice.saved, Function.comp_def, resolveModuleInterface_build]

theorem resolveRange_build (r : Types.Range) :
    resolveRange (buildModelRange r) = .ok r.saved := by
  have hmax := Collect.option_mapM_map_ok (b := formatHexU16) (s := id)
    (r := fun index => orParseIntError (parseHexU16 index)) (by simp) r.maxIndex
  have hstep := Collect.option_mapM_map_ok (b := u32ToString) (s := id)
    (r := fun s => orInvalid "range @sortStep" (parseU32 s)) (by simp) r.sortStep
  simp only [resolveRange, buildModelRange, hmax, hstep]
  simp [Types.Range.saved, Function.comp_def]

theorem resolveInterfaceComm_build (i : Types.InterfaceComm) :
    resolveInterfaceComm (buildInterfaceComm i) = .ok i.saved := by
  have hranges := Collect.mapM_map_ok resolveRange_build i.ranges
  simp only [resolveInterfaceComm, buildInterfaceComm, hranges]
  rfl

theorem resolveModuleManagementComm_build (m : Types.ModuleManagementComm) :
    resolveModuleManagementComm (buildModelModuleManagementComm m) = .ok m.saved := by
  have hinterfaces := Collect.mapM_map_ok resolveInterfaceComm_build m.interfaces
  simp only [resolveModuleManagementComm, buildModelModuleManagementComm, hinterfaces]
  rfl

/-! ### Device manager -/

@[simp] theorem buildLedStateEnum_toText (s : LEDstateEnum) : buildLedStateEnum s.toText = s := by
  cases s <;> rfl

@[simp] theorem buildLedColor_toText (c : LEDcolor) : buildLedColor c.toText = c := by
  cases c <;> rfl

@[simp] theorem buildLedColors_toText (c : LEDcolors) : buildLedColors c.toText = c := by
  cases c <;> rfl

@[simp] theorem buildLedType_toText (t : LEDtype) : buildLedType t.toText = t := by
  cases t <;> rfl

/-- What is read back of a state of an LED. -/
def Types.LEDstate.saved (s : Types.LEDstate) : Types.LEDstate :=
  { s with
    state := (buildLedStateEnum s.state).toText
    color := (buildLedColor s.color).toText
    label := some (s.label.getD "")
    description := some (s.description.getD "") }

/-- What is read back of an LED. -/
def Types.LED.saved (led : Types.LED) : Types.LED where
  label := some (led.label.getD "")
  description := some (led.description.getD "")
  colors := (buildLedColors led.colors).toText
  ledType := led.ledType.map (fun t => (buildLedType t).toText)
  states := led.states.map Types.LEDstate.saved

/-- What is read back of a combined state. -/
def Types.CombinedState.saved (s : Types.CombinedState) : Types.CombinedState :=
  { s with
    label := some (s.label.getD "")
    description := some (s.description.getD "") }

/-- What is read back of the indicators. -/
def Types.IndicatorList.saved (i : Types.IndicatorList) : Types.IndicatorList where
  leds := i.leds.map Types.LED.saved
  combinedStates := i.combinedStates.map Types.CombinedState.saved

/-- What is read back of the device manager. -/
def Types.DeviceManager.saved (m : Types.DeviceManager) : Types.DeviceManager where
  indicatorList := m.indicatorList.map Types.IndicatorList.saved
  moduleManagement := m.moduleManagement.map Types.ModuleManagementDevice.saved

theorem resolveLedState_build (s : Types.LEDstate) :
    resolveLedState (buildModelLedState s) = s.saved := rfl

theorem resolveLed_build (led : Types.LED) : resolveLed (buildModelLed led) = led.saved := by
  simp [resolveLed, buildModelLed, Types.LED.saved, Function.comp_def, resolveLedState_build]

theorem resolveCombinedState_build (s : Types.CombinedState) :
    resolveCombinedState (buildModelCombinedState s) = s.saved := by
  simp [resolveCombinedState, buildModelCombinedState, Types.CombinedState.saved,
    Function.comp_def]

theorem resolveIndicatorList_build (i : Types.IndicatorList) :
    resolveIndicatorList (buildIndicatorList i) = i.saved := by
  simp [resolveIndicatorList, buildIndicatorList, Types.IndicatorList.saved, Function.comp_def,
    resolveLed_build, resolveCombinedState_build]

theorem resolveDeviceManager_build (m : Types.DeviceManager) :
    resolveDeviceManager (buildModelDeviceManager m) = .ok m.saved := by
  have hmodules :=
    Collect.option_mapM_map_ok resolveModuleManagementDevice_build m.moduleManagement
  simp only [resolveDeviceManager, buildModelDeviceManager, hmodules]
  simp [Types.DeviceManager.saved, Function.comp_def, resolveIndicatorList_build]

/-! ### Network management -/

@[simp] theorem resolveNmtCnDna_build (d : Types.NmtCnDna) :
    resolveNmtCnDna (buildNmtCnDna d) = d := by
  cases d <;> rfl

theorem resolveGeneralFeatures_build (g : Types.GeneralFeatures) :
    resolveGeneralFeatures (buildGeneralFeatures g) = g := by
  simp [resolveGeneralFeatures, buildGeneralFeatures, parseU32Attr]

theorem resolveMnFeatures_build (mn : Types.MnFeatures) :
    resolveMnFeatures (buildMnFeatures mn) = mn := rfl

theorem resolveCnFeatures_build (cn : Types.CnFeatures) :
    resolveCnFeatures (buildCnFeatures cn) = cn := by
  simp [resolveCnFeatures, buildCnFeatures, parseU32Attr, Function.comp_def]

theorem resolveError_build (e : Types.ErrorDefinition) :
    resolveError (buildModelError e) = e := by
  simp [resolveError, buildModelError, Function.comp_def, resolveAddInfo, buildModelAddInfo]

theorem resolveErrorBit_build (b : Types.StaticErrorBit) :
    resolveErrorBit (buildModelErrorBit b) = b := by
  simp [resolveErrorBit, buildModelErrorBit]

/-- An empty list of errors is left out, and read back as no errors. -/
theorem resolveDiagnostic_build (d : Types.Diagnostic) :
    resolveDiagnostic (buildModelDiagnostic d) = d := by
  cases d with
  | mk errors bits =>
      cases errors <;> simp [resolveDiagnostic, buildModelDiagnostic, Function.comp_def,
        resolveError_build, resolveErrorBit_build]

theorem resolveNetworkManagement_build (n : Types.NetworkManagement) :
    resolveNetworkManagement (buildModelNetworkManagement n) = n := by
  simp [resolveNetworkManagement, buildModelNetworkManagement, Function.comp_def,
    resolveGeneralFeatures_build, resolveMnFeatures_build, resolveCnFeatures_build,
    resolveDiagnostic_build]

/-! ### Application process -/

@[simp] theorem mapParamAccess_build (a : Types.ParameterAccess) :
    mapParamAccess (buildParamAccess a) = a := by
  cases a <;> rfl

@[simp] theorem mapParamSupport_build (s : Types.ParameterSupport) :
    mapParamSupport (buildParamSupport s) = s := by
  cases s <;> rfl

@[simp] theorem resolveParameterDataType_build (t : Types.ParameterDataType) :
    resolveParameterDataType (buildParamDataType t) = t := by
  cases t <;> rfl

@[simp] theorem getDataTypeName_dataTypeRef (id : String) :
    getDataTypeName (dataTypeRef id) = id := rfl

@[simp] theorem resolveValue_build (v : Types.Value) : resolveValue (buildValue v) = v := by
  simp [resolveValue, buildValue]

@[simp] theorem resolveAllowedValues_build (av : Types.AllowedValues) :
    resolveAllowedValues (buildAllowedValues av) = av := by
  simp [resolveAllowedValues, buildAllowedValues, Function.comp_def, buildValueRange]

theorem resolveParameter_build (param : Types.Parameter) :
    resolveParameter (buildParameter param) = param := by
  simp [resolveParameter, buildParameter, Function.comp_def]

theorem resolveStruct_build (s : Types.AppStruct) : resolveStruct (buildStruct s) = s := by
  simp [resolveStruct, buildStruct, Function.comp_def, resolveStructMember, buildStructMember]

theorem resolveArray_build (a : Types.AppArray) : resolveArray (buildArray a) = .ok a := by
  simp [resolveArray, buildArray]

/-- What is read back of a value of an enumerated type. -/
def Types.EnumValue.saved (v : Types.EnumValue) : Types.EnumValue :=
  { v with
    label := some v.name
    description := none }

/-- What is read back of an enumerated type. -/
def Types.AppEnum.saved (e : Types.AppEnum) : Types.AppEnum :=
  { e with values := e.values.map Types.EnumValue.saved }

/-- What is read back of a count. -/
def Types.Count.saved (c : Types.Count) : Types.Count :=
  { c with defaultValue := some (c.defaultValue.getD "") }

/-- What is read back of a derived type. -/
def Types.AppDerived.saved (d : Types.AppDerived) : Types.AppDerived :=
  { d with count := d.count.map Types.Count.saved }

/-- What is read back of a data type. -/
def Types.AppDataType.saved : Types.AppDataType → Types.AppDataType
  | .struct s => .struct s
  | .array a => .array a
  | .enum e => .enum e.saved
  | .derived d => .derived d.saved

/-- What is read back of a function type. -/
def Types.FunctionType.saved (ft : Types.FunctionType) : Types.FunctionType :=
  { ft with interface := { inputs := ft.interface.inputs, outputs := [], configs := [] } }

/-- What is read back of the application process. -/
def Types.ApplicationProcess.saved (p : Types.ApplicationProcess) : Types.ApplicationProcess :=
  { p with
    dataTypes := p.dataTypes.map Types.AppDataType.saved
    functionTypes := p.functionTypes.map Types.FunctionType.saved }

theorem resolveEnumValue_build (v : Types.EnumValue) :
    resolveEnumValue (buildEnumValue v) = v.saved := rfl

theorem resolveEnum_build (e : Types.AppEnum) : resolveEnum (buildEnum e) = e.saved := by
  simp [resolveEnum, buildEnum, Types.AppEnum.saved, Function.comp_def, resolveEnumValue_build]

theorem resolveCount_build (c : Types.Count) : resolveCount (buildCount c) = c.saved := by
  simp [resolveCount, buildCount, Types.Count.saved, Function.comp_def]

theorem resolveDerived_build (d : Types.AppDerived) :
    resolveDerived (buildDerived d) = d.saved := by
  simp [resolveDerived, buildDerived, Types.AppDerived.saved, Function.comp_def,
    resolveCount_build]

theorem resolveDataType_build (t : Types.AppDataType) :
    resolveDataType (buildDataType t) = .ok t.saved := by
  cases t with
  | struct s => simp [resolveDataType, buildDataType, Types.AppDataType.saved, resolveStruct_build]
  | array a =>
      simp [resolveDataType, buildDataType, Types.AppDataType.saved, resolveArray_build,
        Except.map]
  | enum e => simp [resolveDataType, buildDataType, Types.AppDataType.saved, resolveEnum_build]
  | derived d =>
      simp [resolveDataType, buildDataType, Types.AppDataType.saved, resolveDerived_build]

theorem resolveParameterRef_build (p : Types.ParameterRef) :
    resolveParameterRef (buildParameterRef p) = p := by
  simp [resolveParameterRef, buildParameterRef]

mutual
/-- A parameter group is read back, whatever its depth. -/
theorem resolveParameterGroup_build (g : Types.ParameterGroup) :
    resolveParameterGroup (buildParameterGroup g) = g := by
  match g with
  | ⟨uniqueId, label, description, items⟩ =>
      simp [buildParameterGroup, resolveParameterGroup, resolveParameterGroupItems_build items]
theorem resolveParameterGroupItem_build (item : Types.ParameterGroupItem) :
    resolveParameterGroupItem (buildParameterGroupItem item) = item := by
  match item with
  | .group g =>
      simp [buildParameterGroupItem, resolveParameterGroupItem, resolveParameterGroup_build g]
  | .parameter p =>
      simp [buildParameterGroupItem, resolveParameterGroupItem, resolveParameterRef_build]
theorem resolveParameterGroupItems_build (items : List Types.ParameterGroupItem) :
    resolveParameterGroupItems (buildParameterGroupItems items) = items := by
  match items with
  | [] => rfl
  | item :: items =>
      simp [buildParameterGroupItems, resolveParameterGroupItems,
        resolveParameterGroupItem_build item, resolveParameterGroupItems_build items]
end

@[simp] theorem resolveVarDeclaration_build (v : Types.VarDeclaration) :
    resolveVarDeclaration (buildVarDeclaration v) = v := by
  simp [resolveVarDeclaration, buildVarDeclaration]

theorem resolveVersionInfo_build (v : Types.VersionInfo) :
    resolveVersionInfo (buildVersionInfo v) = v := by
  simp [resolveVersionInfo, buildVersionInfo]

theorem resolveFunctionType_build (ft : Types.FunctionType) :
    resolveFunctionType (buildFunctionType ft) = ft.saved := by
  simp [resolveFunctionType, buildFunctionType, Types.FunctionType.saved, Function.comp_def,
    resolveVersionInfo_build, resolveInterfaceList, resolveVarList]

theorem resolveFunctionInstance_build (fi : Types.FunctionInstance) :
    resolveFunctionInstance (buildFunctionInstance fi) = fi := by
  simp [resolveFunctionInstance, buildFunctionInstance]

/-- A list that is left out if it is empty is read back as if it had been written. -/
theorem getD_map_unlessEmpty {α β γ : Type} (f : List α → β) {g : β → List γ}
    (hnil : g (f []) = []) (l : List α) : ((unlessEmpty f l).map g).getD [] = g (f l) := by
  cases l with
  | nil => exact hnil.symm
  | cons a l => rfl

theorem resolveDataTypes_build (l : List Types.AppDataType) :
    ∃ dataTypes, (unlessEmpty (fun l => (⟨l.map buildDataType⟩ : AppDataTypeList)) l).mapM
        (fun list => list.items.mapM resolveDataType) = .ok dataTypes ∧
      dataTypes.getD [] = l.map Types.AppDataType.saved := by
  cases l with
  | nil => exact ⟨none, rfl, rfl⟩
  | cons t l =>
      have hmap := Collect.mapM_map_ok resolveDataType_build (t :: l)
      refine ⟨some ((t :: l).map Types.AppDataType.saved), ?_, rfl⟩
      simp only [unlessEmpty, List.isEmpty_cons, Bool.false_eq_true, if_false, Option.mapM_some,
        hmap]
      rfl

theorem resolveApplicationProcess_build (p : Types.ApplicationProcess) :
    resolveApplicationProcess (buildModelApplicationProcess p) = .ok p.saved := by
  obtain ⟨dataTypes, hdataTypes, hget⟩ := resolveDataTypes_build p.dataTypes
  simp only [resolveApplicationProcess, buildModelApplicationProcess, hdataTypes]
  simp [getD_map_unlessEmpty, hget, Types.ApplicationProcess.saved, Function.comp_def,
    resolveParameter_build, resolveParameterGroup_build, resolveFunctionType_build,
    resolveFunctionInstance_build]

/-! ### Object dictionary -/

/-- What is read back of the attributes of an object or sub-object: the schema has the access
types of the object dictionary only, and the support, the persistence and the allowed values
belong to a parameter that a saved object does not refer to. -/
def Types.Attributes.saved (a : Types.Attributes) : Types.Attributes :=
  { a with
    accessType := a.accessType.map (fun access => mapAccessType (mapAccessTypeToModel access))
    support := none
    persistent := false
    allowedValues := none }

/-- What is read back of a sub-object. -/
def Types.SubObject.saved (s : Types.SubObject) : Types.SubObject :=
  { s with toAttributes := s.toAttributes.saved }

/-- What is read back of an object: only a variable keeps its value. -/
def Types.Object.saved (o : Types.Object) : Types.Object :=
  { o with
    toAttributes :=
      { o.toAttributes.saved with data := if o.objectType = "7" then o.data else none }
    subObjects := o.subObjects.map Types.SubObject.saved }

/-- What is read back of the object dictionary. -/
def Types.ObjectDictionary.saved (od : Types.ObjectDictionary) : Types.ObjectDictionary where
  objects := od.objects.map Types.Object.saved

theorem formatValueToString_toUTF8 (s : String) :
    formatValueToString s.toUTF8 = .ok s := by
  have hread : String.fromUTF8? s.toUTF8 = some s := by
    rw [String.fromUTF8?]
    exact dif_pos s.isValidUTF8
  rw [formatValueToString, hread]

/-- The attributes of an object or sub-object can be written, and are read back without looking
at a parameter. -/
theorem exists_buildAttributes (a : Types.Attributes) :
    ∃ m, buildAttributes a = .ok m ∧ m.uniqueIdRef = none ∧ m.objectType = a.objectType ∧
      m.actualValue = a.data ∧ m.defaultValue = none ∧
      ∀ (params : List (String × Parameter)) (data : Option String),
        publicAttributes m (resolveAttributes m params) data = { a.saved with data := data } := by
  have hdata : a.data.mapM (fun d => formatValueToString d.toUTF8) = .ok a.data := by
    cases a.data with
    | none => rfl
    | some d =>
        rw [Option.mapM_some, formatValueToString_toUTF8]
        rfl
  rw [buildAttributes, hdata]
  refine ⟨_, rfl, rfl, rfl, rfl, rfl, ?_⟩
  intro params data
  simp [publicAttributes, resolveAttributes, Types.Attributes.saved, Function.comp_def]

/-- Without a reference to a parameter the value is the one that was written. -/
theorem getValueStrForObject_of_written {m : Attributes} (hdefault : m.defaultValue = none)
    (href : m.uniqueIdRef = none) (mode : ValueMode) (params : List (String × Parameter))
    (templates : List (String × Value)) :
    getValueStrForObject m mode params templates = m.actualValue := by
  cases mode <;>
    simp [getValueStrForObject, ValueMode.choose, referencedValue, hdefault, href]

theorem exists_buildSubObject (s : Types.SubObject) :
    ∃ m, buildSubObject s = .ok m ∧
      ∀ params templates mode, resolveSubObject none params templates mode m = .ok s.saved := by
  obtain ⟨m, hm, href, -, hvalue, hdefault, hpublic⟩ := exists_buildAttributes s.toAttributes
  rw [buildSubObject, hm]
  refine ⟨_, rfl, ?_⟩
  intro params templates mode
  have hget := getValueStrForObject_of_written hdefault href mode params templates
  simp [resolveSubObject, getValueStrForSubobject, hget, hvalue, hpublic, referencedValue,
    Types.SubObject.saved, Types.Attributes.saved]

theorem exists_buildObject (o : Types.Object) :
    ∃ m, buildObject o = .ok m ∧
      ∀ params templates mode, resolveObject params templates mode m = .ok o.saved := by
  obtain ⟨m, hm, href, htype, hvalue, hdefault, hpublic⟩ := exists_buildAttributes o.toAttributes
  obtain ⟨subs, hsubs, hall⟩ := Collect.exists_mapM exists_buildSubObject o.subObjects
  rw [buildObject, hsubs, hm]
  refine ⟨_, rfl, ?_⟩
  intro params templates mode
  have hget := getValueStrForObject_of_written hdefault href mode params templates
  have hread := Collect.mapM_of_forall₂ (hall.imp (fun _ _ h => h params templates mode))
  simp [resolveObject, href, hread, hpublic, objectData, htype, hget, hvalue,
    Types.Object.saved]

/-! ### The whole file -/

/-- What is read back of a file. -/
def Types.XdcFile.saved (file : Types.XdcFile) : Types.XdcFile :=
  { file with
    deviceManager := file.deviceManager.map Types.DeviceManager.saved
    applicationProcess := file.applicationProcess.map Types.ApplicationProcess.saved
    objectDictionary := file.objectDictionary.saved
    moduleManagementComm := file.moduleManagementComm.map Types.ModuleManagementComm.saved }

/-- Every file can be saved, and in both value modes `saved` is read back. -/
theorem exists_buildContainer (file : Types.XdcFile) :
    ∃ c, buildContainer file = .ok c ∧ ∀ mode, resolveData c mode = .ok file.saved := by
  obtain ⟨objects, hobjects, hall⟩ :=
    Collect.exists_mapM exists_buildObject file.objectDictionary.objects
  rw [buildContainer, buildCommProfile, hobjects]
  refine ⟨_, rfl, ?_⟩
  intro mode
  have hread := fun params templates =>
    Collect.mapM_of_forall₂ (hall.imp (fun _ _ h => h params templates mode))
  have hfunctions := Collect.mapM_map_ok resolveDeviceFunction_build file.deviceFunction
  have hmanager := Collect.option_mapM_map_ok resolveDeviceManager_build file.deviceManager
  have hprocess :=
    Collect.option_mapM_map_ok resolveApplicationProcess_build file.applicationProcess
  have hmodules :=
    Collect.option_mapM_map_ok resolveModuleManagementComm_build file.moduleManagementComm
  simp [resolveData, buildDeviceProfile, resolveProfiles, resolveIdentity_build, hfunctions,
    hmanager, hprocess, hmodules, resolveObjectDictionary, hread, resolveHeader_build,
    Function.comp_def, resolveNetworkManagement_build, Types.XdcFile.saved,
    Types.ObjectDictionary.saved]

end PowerlinkXdc
