import Powerlink.Xdc.Model
import Powerlink.Lib.Numerals

/-! # Building the schema of a device description

The crate's module `builder`: from the public types back to the schema.  `buildContainer` is the
container that `save_xdc_to_string` hands to `quick-xml`. -/

namespace PowerlinkXdc

open Model

/-! ### Helpers -/

/-- `format_hex_u16`, the format `04X`. -/
def formatHexU16 (val : UInt16) : String := Numerals.format 16 4 val.toNat

/-- `format_hex_u8`, the format `02X`. -/
def formatHexU8 (val : UInt8) : String := Numerals.format 16 2 val.toNat

/-- `u32::to_string`. -/
def u32ToString (val : UInt32) : String := Numerals.format 10 1 val.toNat

/-- `u8::to_string`. -/
def u8ToString (val : UInt8) : String := Numerals.format 10 1 val.toNat

/-- `format_value_to_string`. -/
def formatValueToString (data : ByteArray) : Except XdcError String :=
  match String.fromUTF8? data with
  | some s => .ok s
  | none => .error .fmtError

/-- `map_access_type_to_model`. -/
def mapAccessTypeToModel : Types.ParameterAccess → ObjectAccessType
  | .readOnly => .readOnly
  | .writeOnly => .writeOnly
  | .readWrite => .readWrite
  | .constant => .constant
  | .readWriteInput => .readWrite
  | .readWriteOutput => .readWrite
  | .noAccess => .readOnly

/-- `map_pdo_mapping_to_model`. -/
def mapPdoMappingToModel : Types.ObjectPdoMapping → ObjectPdoMapping
  | .no => .no
  | .default => .default
  | .optional => .optional
  | .tpdo => .tpdo
  | .rpdo => .rpdo

/-- An English label. -/
def enLabel (value : String) : LabelChoice := .label { lang := "en", value := value }

/-- An English description. -/
def enDescription (value : String) : LabelChoice := .description { lang := "en", value := value }

/-- `build_glabels` of `app_process.rs` and `device_function.rs`. -/
def buildGlabels (label description : Option String) : Glabels :=
  ⟨(label.map enLabel).toList ++ (description.map enDescription).toList⟩

/-- `build_glabels` of `net_mgmt.rs`. -/
def buildGlabelsOpt (label description : Option String) : Option Glabels :=
  let items := (label.map enLabel).toList ++ (description.map enDescription).toList
  if items.isEmpty then none else some ⟨items⟩

/-! ### Header and identity -/

/-- `build_model_header`. -/
def buildModelHeader (header : Types.ProfileHeader) : ProfileHeader where
  profileIdentification := header.identification
  profileRevision := header.revision
  profileName := header.name
  profileSource := header.source
  profileDate := header.date

/-- A text with one English label. -/
def attributedLabel (t : String) : AttributedGlabels := { items := [enLabel t] }

/-- The device identity of `build_device_profile`. -/
def buildDeviceIdentity (identity : Types.Identity) : DeviceIdentity where
  vendorName := { value := identity.vendorName }
  vendorId := some { value := "0x" ++ Numerals.format 16 8 identity.vendorId.toNat }
  vendorText := identity.vendorText.map attributedLabel
  deviceFamily := identity.deviceFamily.map attributedLabel
  productFamily := identity.productFamily.map (fun t => { value := t })
  productName := { value := identity.productName }
  productId := some { value := "0x" ++ Numerals.format 16 1 identity.productId.toNat }
  productText := identity.productText.map attributedLabel
  orderNumber := identity.orderNumber.map (fun o => { value := o })
  version := identity.versions.map (fun v => ⟨v.versionType, true, v.value⟩)
  buildDate := identity.buildDate
  specificationRevision := identity.specificationRevision.map (fun r => { value := r })
  instanceName := identity.instanceName.map (fun i => { value := i })

/-! ### Device function -/

/-- `build_model_characteristic`. -/
def buildModelCharacteristic (c : Types.Characteristic) : Characteristic where
  characteristicName := ⟨(buildGlabels (some c.name) none).items⟩
  characteristicContent := c.content.map
    (fun content => { items := (buildGlabels (some content) none).items })

/-- `build_model_characteristics_list`. -/
def buildModelCharacteristicsList (l : Types.CharacteristicList) : CharacteristicsList where
  category := l.category.map (fun c => ⟨buildGlabels (some c) none⟩)
  characteristic := l.characteristics.map buildModelCharacteristic

/-- `build_model_compliant_with`. -/
def buildModelCompliantWith (s : Types.StandardCompliance) : CompliantWith where
  labels := buildGlabels none s.description
  name := s.name
  range := some s.range

/-- `build_model_capabilities`. -/
def buildModelCapabilities (c : Types.Capabilities) : Capabilities where
  characteristicsList := c.characteristics.map buildModelCharacteristicsList
  standardComplianceList := some ⟨c.standardCompliance.map buildModelCompliantWith⟩

/-- `build_model_picture`. -/
def buildModelPicture (p : Types.Picture) : Picture where
  labels := buildGlabels p.label p.description
  uri := p.uri
  pictureType := some p.pictureType
  number := p.number.map u32ToString

/-- `build_model_dictionary`. -/
def buildModelDictionary (d : Types.Dictionary) : Dictionary := ⟨⟨d.uri⟩, d.lang, d.dictId⟩

/-- `build_model_connector`. -/
def buildModelConnector (c : Types.Connector) : Connector where
  labels := buildGlabels c.label c.description
  id := c.id
  connectorType := some c.connectorType
  interfaceIdRef := c.interfaceIdRef
  posX := none
  posY := none
  positioning := none

/-- `build_model_firmware`. -/
def buildModelFirmware (f : Types.Firmware) : Firmware where
  labels := buildGlabels f.label f.description
  uri := f.uri
  deviceRevisionNumber := u32ToString f.deviceRevisionNumber
  buildDate := f.buildDate

/-- The elements of `build_model_device_function`. -/
def buildModelDeviceFunction (f : Types.DeviceFunction) : DeviceFunction where
  capabilities := f.capabilities.map buildModelCapabilities
  picturesList := some ⟨f.pictures.map buildModelPicture⟩
  dictionaryList := some ⟨f.dictionaries.map buildModelDictionary⟩
  connectorList := some ⟨f.connectors.map buildModelConnector⟩
  firmwareList := some ⟨f.firmwareList.map buildModelFirmware⟩
  classificationList := some ⟨f.classifications.map (fun c => ⟨c.value⟩)⟩

/-! ### Modular devices -/

/-- The addressing of `build_model_interface_device`. -/
def buildAddressingHead : String → ModuleAddressingHead
  | "manual" => .manual
  | "position" => .position
  | _ => .position

/-- The addressing of `build_model_module_interface`. -/
def buildAddressingChild : String → ModuleAddressingChild
  | "manual" => .manual
  | "position" => .position
  | "next" => .next
  | _ => .position

/-- The modules of `build_model_interface_device`. -/
def buildConnectedModule (m : Types.ConnectedModule) : ConnectedModule :=
  ⟨m.childIdRef, u32ToString m.position, m.address.map u32ToString⟩

/-- `build_model_interface_device`. -/
def buildModelInterfaceDevice (i : Types.InterfaceDevice) : InterfaceDevice where
  uniqueId := i.uniqueId
  interfaceType := i.interfaceType
  maxModules := u32ToString i.maxModules
  unusedSlots := false
  moduleAddressing := buildAddressingHead i.moduleAddressing
  fileList := ⟨i.fileList.map (fun uri => ⟨uri⟩)⟩
  connectedModuleList := some ⟨i.connectedModules.map buildConnectedModule⟩

/-- `build_model_module_interface`. -/
def buildModelModuleInterface (i : Types.ModuleInterface) : ModuleInterface where
  childId := i.childId
  interfaceType := i.interfaceType
  moduleAddressing := buildAddressingChild i.moduleAddressing

/-- `build_model_module_management_device`. -/
def buildModelModuleManagementDevice (m : Types.ModuleManagementDevice) :
    ModuleManagementDevice where
  interfaceList := ⟨m.interfaces.map buildModelInterfaceDevice⟩
  moduleInterface := m.moduleInterface.map buildModelModuleInterface

/-- The sort mode of `build_model_range`. -/
def buildSortMode : String → SortMode
  | "index" => .index
  | "subindex" => .subindex
  | _ => .index

/-- The sort number of `build_model_range`. -/
def buildSortNumber : String → AddressingAttribute
  | "continuous" => .continuous
  | "address" => .address
  | _ => .continuous

/-- `build_model_range`. -/
def buildModelRange (r : Types.Range) : IndexRange where
  name := r.name
  baseIndex := formatHexU16 r.baseIndex
  maxIndex := r.maxIndex.map formatHexU16
  maxSubIndex := formatHexU8 r.maxSubIndex
  sortMode := buildSortMode r.sortMode
  sortNumber := buildSortNumber r.sortNumber
  sortStep := r.sortStep.map u32ToString
  pdoMapping := r.pdoMapping.map mapPdoMappingToModel

/-- The interfaces of `build_model_module_management_comm`. -/
def buildInterfaceComm (i : Types.InterfaceComm) : InterfaceComm :=
  ⟨⟨i.ranges.map buildModelRange⟩, i.uniqueIdRef⟩

/-- `build_model_module_management_comm`. -/
def buildModelModuleManagementComm (m : Types.ModuleManagementComm) : ModuleManagementComm :=
  ⟨⟨m.interfaces.map buildInterfaceComm⟩⟩

/-! ### Device manager -/

/-- The labels of an indicator: both are written, an absent one as the empty text. -/
def buildIndicatorLabels (label description : Option String) : Glabels :=
  ⟨[enLabel (label.getD ""), enDescription (description.getD "")]⟩

/-- The state of `build_model_led_state`. -/
def buildLedStateEnum : String → LEDstateEnum
  | "on" => .on
  | "off" => .off
  | "flashing" => .flashing
  | _ => .off

/-- The color of `build_model_led_state`. -/
def buildLedColor : String → LEDcolor
  | "green" => .green
  | "amber" => .amber
  | "red" => .red
  | _ => .green

/-- The colors of `build_model_led`. -/
def buildLedColors : String → LEDcolors
  | "monocolor" => .monocolor
  | "bicolor" => .bicolor
  | _ => .monocolor

/-- The type of `build_model_led`. -/
def buildLedType : String → LEDtype
  | "IO" => .io
  | "device" => .device
  | "communication" => .communication
  | _ => .device

/-- `build_model_led_state`. -/
def buildModelLedState (s : Types.LEDstate) : LEDstate where
  labels := buildIndicatorLabels s.label s.description
  uniqueId := s.uniqueId
  state := buildLedStateEnum s.state
  ledColor := buildLedColor s.color

/-- `build_model_led`. -/
def buildModelLed (led : Types.LED) : LED where
  labels := buildIndicatorLabels led.label led.description
  ledColors := buildLedColors led.colors
  ledType := led.ledType.map buildLedType
  ledState := led.states.map buildModelLedState

/-- `build_model_combined_state`. -/
def buildModelCombinedState (s : Types.CombinedState) : CombinedState where
  labels := buildIndicatorLabels s.label s.description
  ledStateRef := s.ledStateRefs.map (fun r => ⟨r⟩)

/-- The indicators of `build_model_device_manager`. -/
def buildIndicatorList (i : Types.IndicatorList) : IndicatorList :=
  ⟨some ⟨i.leds.map buildModelLed, i.combinedStates.map buildModelCombinedState⟩⟩

/-- `build_model_device_manager`. -/
def buildModelDeviceManager (m : Types.DeviceManager) : DeviceManager where
  indicatorList := m.indicatorList.map buildIndicatorList
  moduleManagement := m.moduleManagement.map buildModelModuleManagementDevice

/-! ### Network management -/

/-- `build_model_add_info`. -/
def buildModelAddInfo (a : Types.AddInfo) : AddInfo where
  name := a.name
  bitOffset := u8ToString a.bitOffset
  len := u8ToString a.len
  labels := buildGlabelsOpt none a.description

/-- `build_model_error`. -/
def buildModelError (e : Types.ErrorDefinition) : Error where
  name := e.name
  value := e.value
  labels := none
  addInfo := e.addInfo.map buildModelAddInfo

/-- `build_model_error_bit`. -/
def buildModelErrorBit (b : Types.StaticErrorBit) : ErrorBit where
  name := b.name
  offset := u8ToString b.offset
  labels := buildGlabelsOpt b.label b.description

/-- `build_model_diagnostic`. -/
def buildModelDiagnostic (d : Types.Diagnostic) : Diagnostic where
  errorList := if d.errors.isEmpty then none else some ⟨d.errors.map buildModelError⟩
  staticErrorBitField := d.staticErrorBitField.map (fun bits => ⟨bits.map buildModelErrorBit⟩)

/-- The general features of `build_model_network_management`. -/
def buildGeneralFeatures (g : Types.GeneralFeatures) : GeneralFeatures where
  dllFeatureMn := g.dllFeatureMn
  nmtBootTimeNotActive := u32ToString g.nmtBootTimeNotActive
  nmtCycleTimeMax := u32ToString g.nmtCycleTimeMax
  nmtCycleTimeMin := u32ToString g.nmtCycleTimeMin
  nmtErrorEntries := u32ToString g.nmtErrorEntries
  nmtMaxCnNumber := g.nmtMaxCnNumber.map u8ToString
  pdoDynamicMapping := g.pdoDynamicMapping
  sdoClient := g.sdoClient
  sdoServer := g.sdoServer
  sdoSupportAsnd := g.sdoSupportAsnd
  sdoSupportUdpIp := g.sdoSupportUdpIp
  nmtIsochronous := g.nmtIsochronous
  sdoSupportPdo := g.sdoSupportPdo
  nmtExtNmtCmds := g.nmtExtNmtCmds
  cfmConfigManager := g.cfmConfigManager
  nmtNodeIdBySw := g.nmtNodeIdBySw
  sdoCmdReadAllByIndex := g.sdoCmdReadAllByIndex
  sdoCmdWriteAllByIndex := g.sdoCmdWriteAllByIndex
  sdoCmdReadMultParam := g.sdoCmdReadMultParam
  sdoCmdWriteMultParam := g.sdoCmdWriteMultParam
  nmtPublishActiveNodes := g.nmtPublishActiveNodes
  nmtPublishConfigNodes := g.nmtPublishConfigNodes

/-- The MN features of `build_model_network_management`. -/
def buildMnFeatures (mnf : Types.MnFeatures) : MnFeatures where
  dllMnFeatureMultiplex := mnf.dllMnFeatureMultiplex
  dllMnPresChaining := mnf.dllMnPresChaining
  nmtSimpleBoot := mnf.nmtSimpleBoot
  nmtServiceUdpIp := mnf.nmtServiceUdpIp
  nmtMnBasicEthernet := mnf.nmtMnBasicEthernet

/-- The node addressing of `build_model_network_management`. -/
def buildNmtCnDna : Types.NmtCnDna → CnFeaturesNmtCnDna
  | .doNotClear => .doNotClear
  | .clearOnPreOp1ToPreOp2 => .clearOnPreOp1ToPreOp2
  | .clearOnNmtResetNode => .clearOnNmtResetNode

/-- The CN features of `build_model_network_management`. -/
def buildCnFeatures (cnf : Types.CnFeatures) : CnFeatures where
  dllCnFeatureMultiplex := cnf.dllCnFeatureMultiplex
  dllCnPresChaining := cnf.dllCnPresChaining
  nmtCnPreOp2ToReady2Op := cnf.nmtCnPreOp2ToReady2Op.map u32ToString
  nmtCnSoc2Preq := u32ToString cnf.nmtCnSoc2Preq
  nmtCnDna := cnf.nmtCnDna.map buildNmtCnDna

/-- `build_model_network_management`. -/
def buildModelNetworkManagement (n : Types.NetworkManagement) : NetworkManagement where
  generalFeatures := buildGeneralFeatures n.generalFeatures
  mnFeatures := n.mnFeatures.map buildMnFeatures
  cnFeatures := n.cnFeatures.map buildCnFeatures
  diagnostic := n.diagnostic.map buildModelDiagnostic

/-! ### Application process -/

/-- `build_param_access`. -/
def buildParamAccess : Types.ParameterAccess → ParameterAccess
  | .constant => .const
  | .readOnly => .read
  | .writeOnly => .write
  | .readWrite => .readWrite
  | .readWriteInput => .readWriteInput
  | .readWriteOutput => .readWriteOutput
  | .noAccess => .noAccess

/-- `build_param_support`. -/
def buildParamSupport : Types.ParameterSupport → ParameterSupport
  | .mandatory => .mandatory
  | .optional => .optional
  | .conditional => .conditional

/-- `build_param_data_type`. -/
def buildParamDataType : Types.ParameterDataType → ParameterDataType
  | .bool => .bool
  | .bitstring => .bitstring
  | .byte => .byte
  | .char => .char
  | .word => .word
  | .dword => .dword
  | .lword => .lword
  | .sint => .sint
  | .int => .int
  | .dint => .dint
  | .lint => .lint
  | .usint => .usint
  | .uint => .uint
  | .udint => .udint
  | .ulint => .ulint
  | .real => .real
  | .lreal => .lreal
  | .string => .string
  | .wstring => .wstring
  | .dataTypeIDRef id => .dataTypeIDRef ⟨id⟩
  | .variableRef => .variableRef {}

/-- `build_value`. -/
def buildValue (val : Types.Value) : Value where
  labels := some (buildGlabels val.label none)
  value := val.value
  offset := val.offset
  multiplier := val.multiplier

/-- The ranges of `build_allowed_values`. -/
def buildValueRange (r : Types.ValueRange) : Range where
  minValue := { value := r.minValue }
  maxValue := { value := r.maxValue }
  step := r.step.map (fun s => { value := s })

/-- `build_allowed_values`. -/
def buildAllowedValues (av : Types.AllowedValues) : AllowedValues where
  templateIdRef := av.templateIdRef
  value := av.values.map buildValue
  range := av.ranges.map buildValueRange

/-- `build_parameter`. -/
def buildParameter (param : Types.Parameter) : Parameter where
  uniqueId := param.uniqueId
  access := param.access.map buildParamAccess
  support := param.support.map buildParamSupport
  persistent := param.persistent
  offset := param.offset
  multiplier := param.multiplier
  templateIdRef := param.templateIdRef
  labels := buildGlabels param.label param.description
  dataType := buildParamDataType param.dataType
  actualValue := param.actualValue.map buildValue
  defaultValue := param.defaultValue.map buildValue
  allowedValues := param.allowedValues.map buildAllowedValues

/-- A data type by its identifier. -/
def dataTypeRef (id : String) : ParameterDataType := .dataTypeIDRef ⟨id⟩

/-- The members of a struct of `build_data_type_list`. -/
def buildStructMember (m : Types.StructMember) : VarDeclaration where
  name := m.name
  uniqueId := m.uniqueId
  size := m.size.map u32ToString
  labels := buildGlabels m.label m.description
  dataType := dataTypeRef m.dataType

/-- The structs of `build_data_type_list`. -/
def buildStruct (s : Types.AppStruct) : AppStruct where
  name := s.name
  uniqueId := s.uniqueId
  labels := buildGlabels s.label s.description
  varDeclaration := s.members.map buildStructMember

/-- The arrays of `build_data_type_list`. -/
def buildArray (a : Types.AppArray) : AppArray where
  name := a.name
  uniqueId := a.uniqueId
  labels := buildGlabels a.label a.description
  subrange := [⟨u32ToString a.lowerLimit, u32ToString a.upperLimit⟩]
  dataType := dataTypeRef a.dataType

/-- The values of an enumeration of `build_data_type_list`: the name becomes the label. -/
def buildEnumValue (v : Types.EnumValue) : EnumValue where
  value := some v.value
  labels := buildGlabels (some v.name) none

/-- The enumerations of `build_data_type_list`. -/
def buildEnum (e : Types.AppEnum) : AppEnum where
  name := e.name
  uniqueId := e.uniqueId
  labels := buildGlabels e.label e.description
  size := e.sizeInBits.map u32ToString
  enumValue := e.values.map buildEnumValue
  dataType := some (dataTypeRef e.dataType)

/-- The counts of `build_data_type_list`. -/
def buildCount (c : Types.Count) : Count where
  uniqueId := c.uniqueId
  access := c.access.map buildParamAccess
  defaultValue := { value := c.defaultValue.getD "" }
  allowedValues := none

/-- The derived types of `build_data_type_list`. -/
def buildDerived (d : Types.AppDerived) : AppDerived where
  name := d.name
  uniqueId := d.uniqueId
  labels := buildGlabels d.label d.description
  dataType := dataTypeRef d.dataType
  count := d.count.map buildCount
  description := none

/-- The elements of `build_data_type_list`. -/
def buildDataType : Types.AppDataType → AppDataTypeChoice
  | .struct s => .struct (buildStruct s)
  | .array a => .array (buildArray a)
  | .enum e => .enum (buildEnum e)
  | .derived d => .derived (buildDerived d)

/-- The parameter references of `build_parameter_group`. -/
def buildParameterRef (p : Types.ParameterRef) : ParameterRef where
  uniqueIdRef := p.uniqueIdRef
  visible := p.visible
  locked := p.locked
  bitOffset := p.bitOffset.map u32ToString

mutual
/-- `build_parameter_group`. -/
def buildParameterGroup : Types.ParameterGroup → ParameterGroup
  | ⟨uniqueId, label, description, items⟩ =>
      { uniqueId := uniqueId
        labels := buildGlabels label description
        items := buildParameterGroupItems items }
/-- The items of `build_parameter_group`. -/
def buildParameterGroupItem : Types.ParameterGroupItem → ParameterGroupItem
  | .group g => .parameterGroup (buildParameterGroup g)
  | .parameter p => .parameterRef (buildParameterRef p)
/-- The loop over the items. -/
def buildParameterGroupItems : List Types.ParameterGroupItem → List ParameterGroupItem
  | [] => []
  | item :: items => buildParameterGroupItem item :: buildParameterGroupItems items
end

/-- The versions of a function type. -/
def buildVersionInfo (v : Types.VersionInfo) : VersionInfo where
  organization := v.organization
  version := v.version
  author := v.author
  date := v.date
  labels := buildGlabels v.label v.description

/-- The input variables of a function type. -/
def buildVarDeclaration (v : Types.VarDeclaration) : VarDeclaration where
  name := v.name
  uniqueId := v.uniqueId
  dataType := dataTypeRef v.dataType
  size := v.size.map u32ToString
  initialValue := v.initialValue
  labels := buildGlabels v.label v.description

/-- The function types: of the interface only the inputs are written. -/
def buildFunctionType (ft : Types.FunctionType) : FunctionType where
  name := ft.name
  uniqueId := ft.uniqueId
  package := ft.package
  labels := buildGlabels ft.label ft.description
  versionInfo := ft.versionInfo.map buildVersionInfo
  interfaceList := { inputVars := some ⟨ft.interface.inputs.map buildVarDeclaration⟩ }
  functionInstanceList := none

/-- The function instances. -/
def buildFunctionInstance (fi : Types.FunctionInstance) : FunctionInstance where
  name := fi.name
  uniqueId := fi.uniqueId
  typeIdRef := fi.typeIdRef
  labels := buildGlabels fi.label fi.description

/-- A list of the schema, left out if it is empty. -/
def unlessEmpty {α β : Type} (f : List α → β) (l : List α) : Option β :=
  if l.isEmpty then none else some (f l)

/-- `build_model_application_process`. -/
def buildModelApplicationProcess (p : Types.ApplicationProcess) : ApplicationProcess where
  dataTypeList := unlessEmpty (fun l => ⟨l.map buildDataType⟩) p.dataTypes
  templateList := unlessEmpty (fun l => ⟨l.map buildParameter⟩) p.templates
  parameterList := ⟨p.parameters.map buildParameter⟩
  parameterGroupList := unlessEmpty (fun l => ⟨l.map buildParameterGroup⟩) p.parameterGroups
  functionTypeList := unlessEmpty (fun l => ⟨l.map buildFunctionType⟩) p.functionTypes
  functionInstanceList :=
    unlessEmpty (fun l => ⟨l.map buildFunctionInstance⟩) p.functionInstances

/-! ### Object dictionary -/

/-- The attributes of an object or sub-object of `build_comm_profile`, with its value as
`actualValue` and without any reference. -/
def buildAttributes (a : Types.Attributes) : Except XdcError Attributes := do
  let actualValue ← a.data.mapM (fun d => formatValueToString d.toUTF8)
  .ok
    { name := a.name
      objectType := a.objectType
      actualValue := actualValue
      dataType := a.dataType
      lowLimit := a.lowLimit
      highLimit := a.highLimit
      accessType := a.accessType.map mapAccessTypeToModel
      defaultValue := none
      denotation := none
      pdoMapping := a.pdoMapping.map mapPdoMappingToModel
      objFlags := a.objFlags
      uniqueIdRef := none }

/-- The sub-objects of `build_comm_profile`. -/
def buildSubObject (s : Types.SubObject) : Except XdcError SubObject := do
  let attributes ← buildAttributes s.toAttributes
  .ok { attributes with subIndex := formatHexU8 s.subIndex }

/-- The objects of `build_comm_profile`. -/
def buildObject (o : Types.Object) : Except XdcError Object := do
  let subObjects ← o.subObjects.mapM buildSubObject
  let attributes ← buildAttributes o.toAttributes
  .ok
    { attributes with
      index := formatHexU16 o.index
      rangeSelector := none
      subObject := subObjects }

/-! ### The whole file -/

/-- `build_device_profile`. -/
def buildDeviceProfile (file : Types.XdcFile) : Iso15745Profile where
  profileHeader := buildModelHeader file.header
  profileBody :=
    { xsiType := some "ProfileBody_Device_Powerlink"
      applicationLayers := none
      deviceIdentity := some (buildDeviceIdentity file.identity)
      deviceFunction := file.deviceFunction.map buildModelDeviceFunction
      deviceManager := file.deviceManager.map buildModelDeviceManager
      applicationProcess := file.applicationProcess.map buildModelApplicationProcess
      networkManagement := none }

/-- `build_comm_profile`. -/
def buildCommProfile (file : Types.XdcFile) : Except XdcError Iso15745Profile := do
  let objects ← file.objectDictionary.objects.mapM buildObject
  .ok
    { profileHeader := buildModelHeader file.header
      profileBody :=
        { xsiType := some "ProfileBody_CommunicationNetwork_Powerlink"
          applicationLayers := some
            { objectList := ⟨objects⟩
              moduleManagement := file.moduleManagementComm.map buildModelModuleManagementComm }
          deviceIdentity := none
          deviceManager := none
          deviceFunction := []
          applicationProcess := none
          networkManagement := file.networkManagement.map buildModelNetworkManagement } }

/-- The container of `save_xdc_to_string`. -/
def buildContainer (file : Types.XdcFile) : Except XdcError Iso15745ProfileContainer := do
  let commProfile ← buildCommProfile file
  .ok { profile := [buildDeviceProfile file, commProfile] }

end PowerlinkXdc
