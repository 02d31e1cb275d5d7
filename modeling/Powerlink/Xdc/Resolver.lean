import Powerlink.Xdc.Model
import Powerlink.Lib.Numerals

/-! # Resolving a device description

The crate's module `resolver`, with the number parsers of `parser.rs`: from the schema to the
public types.  A resolver of the source that returns `Ok` on every input is a plain function
here; the others return the first error in the order of the source.

The maps of parameters and templates are association lists in the order of insertion, and a
lookup takes the last entry of a key. -/

namespace PowerlinkXdc

open Model

/-! ### Numbers -/

/-- `str::strip_prefix("0x")`, or the text itself. -/
def strip0x (s : String) : String :=
  match s.toList with
  | '0' :: 'x' :: rest => String.ofList rest
  | _ => s

/-- `str::parse::<u32>`. -/
def parseU32 (s : String) : Option UInt32 := (Numerals.parse 10 (2 ^ 32) s).map UInt32.ofNat

/-- `str::parse::<u8>`. -/
def parseU8 (s : String) : Option UInt8 := (Numerals.parse 10 (2 ^ 8) s).map UInt8.ofNat

/-- `parse_hex_u32`. -/
def parseHexU32 (s : String) : Option UInt32 :=
  (Numerals.parse 16 (2 ^ 32) (strip0x s)).map UInt32.ofNat

/-- `parse_hex_u16`. -/
def parseHexU16 (s : String) : Option UInt16 :=
  (Numerals.parse 16 (2 ^ 16) (strip0x s)).map UInt16.ofNat

/-- `parse_hex_u8`. -/
def parseHexU8 (s : String) : Option UInt8 :=
  (Numerals.parse 16 (2 ^ 8) (strip0x s)).map UInt8.ofNat

/-- A parsed number, or the error of an attribute. -/
def orInvalid {α : Type} (name : String) : Option α → Except XdcError α
  | some a => .ok a
  | none => .error (.invalidAttributeFormat name)

/-- `From<ParseIntError> for XdcError`. -/
def orParseIntError {α : Type} : Option α → Except XdcError α := orInvalid "index or subIndex"

/-! ### Utilities -/

/-- `extract_label`. -/
def extractLabel (items : List LabelChoice) : Option String :=
  items.findSome? (fun item => match item with
    | .label l => some l.value
    | _ => none)

/-- `extract_description`. -/
def extractDescription (items : List LabelChoice) : Option String :=
  items.findSome? (fun item => match item with
    | .description d => some d.value
    | _ => none)

/-- `map_access_type`. -/
def mapAccessType : ObjectAccessType → Types.ParameterAccess
  | .readOnly => .readOnly
  | .writeOnly => .writeOnly
  | .readWrite => .readWrite
  | .constant => .constant

/-- `map_pdo_mapping`. -/
def mapPdoMapping : ObjectPdoMapping → Types.ObjectPdoMapping
  | .no => .no
  | .default => .default
  | .optional => .optional
  | .tpdo => .tpdo
  | .rpdo => .rpdo

/-- `map_param_access`. -/
def mapParamAccess : ParameterAccess → Types.ParameterAccess
  | .const => .constant
  | .read => .readOnly
  | .write => .writeOnly
  | .readWrite => .readWrite
  | .readWriteInput => .readWriteInput
  | .readWriteOutput => .readWriteOutput
  | .noAccess => .noAccess

/-- `map_param_support`. -/
def mapParamSupport : ParameterSupport → Types.ParameterSupport
  | .mandatory => .mandatory
  | .optional => .optional
  | .conditional => .conditional

/-! ### Header and identity -/

/-- `resolve_header`. -/
def resolveHeader (model : ProfileHeader) : Types.ProfileHeader where
  identification := model.profileIdentification
  revision := model.profileRevision
  name := model.profileName
  source := model.profileSource
  date := model.profileDate

/-- The product identifier of `resolve_identity`, hexadecimal or decimal. -/
def parseProductId (s : String) : Option UInt32 :=
  if s.toList.take 2 = ['0', 'x'] then parseHexU32 s else parseU32 s

/-- `resolve_identity`. -/
def resolveIdentity (model : DeviceIdentity) : Except XdcError Types.Identity := do
  let vendorId ← model.vendorId.mapM (fun v => orParseIntError (parseHexU32 v.value))
  .ok
    { vendorName := model.vendorName.value
      vendorId := vendorId.getD 0
      vendorText := model.vendorText.bind (fun t => extractLabel t.items)
      deviceFamily := model.deviceFamily.bind (fun t => extractLabel t.items)
      productFamily := model.productFamily.map (fun t => t.value)
      productName := model.productName.value
      productId := (model.productId.bind (fun p => parseProductId p.value)).getD 0
      productText := model.productText.bind (fun t => extractLabel t.items)
      orderNumber := model.orderNumber.map (fun o => o.value)
      versions := model.version.map (fun v => ⟨v.versionType, v.value⟩)
      buildDate := model.buildDate
      specificationRevision := model.specificationRevision.map (fun r => r.value)
      instanceName := model.instanceName.map (fun i => i.value) }

/-! ### Device function -/

/-- A label that must be there. -/
def requireLabel (element : String) (items : List LabelChoice) : Except XdcError String :=
  match extractLabel items with
  | some label => .ok label
  | none => .error (.missingElement element)

/-- The characteristics of `resolve_capabilities`. -/
def resolveCharacteristic (c : Characteristic) : Except XdcError Types.Characteristic := do
  let name ← requireLabel "characteristicName/label" c.characteristicName.items
  let content ← c.characteristicContent.mapM
    (fun cc => requireLabel "characteristicContent/label" cc.items)
  .ok ⟨name, content⟩

/-- The groups of characteristics of `resolve_capabilities`. -/
def resolveCharacteristicsList (cl : CharacteristicsList) :
    Except XdcError Types.CharacteristicList := do
  let characteristics ← cl.characteristic.mapM resolveCharacteristic
  .ok ⟨cl.category.bind (fun c => extractLabel c.labels.items), characteristics⟩

/-- The standards of `resolve_capabilities`. -/
def resolveCompliantWith (cw : CompliantWith) : Types.StandardCompliance :=
  ⟨cw.name, cw.range.getD "international", extractDescription cw.labels.items⟩

/-- `resolve_capabilities`. -/
def resolveCapabilities (model : Capabilities) : Except XdcError Types.Capabilities := do
  let characteristics ← model.characteristicsList.mapM resolveCharacteristicsList
  .ok ⟨characteristics, match model.standardComplianceList with
    | none => []
    | some scl => scl.compliantWith.map resolveCompliantWith⟩

/-- The elements of `resolve_pictures_list`. -/
def resolvePicture (p : Picture) : Types.Picture where
  uri := p.uri
  pictureType := p.pictureType.getD "none"
  number := p.number.bind parseU32
  label := extractLabel p.labels.items
  description := extractDescription p.labels.items

/-- The elements of `resolve_dictionary_list`. -/
def resolveDictionary (d : Dictionary) : Types.Dictionary := ⟨d.file.uri, d.lang, d.dictId⟩

/-- The elements of `resolve_connector_list`. -/
def resolveConnector (c : Connector) : Types.Connector where
  id := c.id
  connectorType := c.connectorType.getD "POWERLINK"
  interfaceIdRef := c.interfaceIdRef
  label := extractLabel c.labels.items
  description := extractDescription c.labels.items

/-- The elements of `resolve_firmware_list`. -/
def resolveFirmware (f : Firmware) : Except XdcError Types.Firmware := do
  let number ← orInvalid "deviceRevisionNumber" (parseU32 f.deviceRevisionNumber)
  .ok
    { uri := f.uri
      deviceRevisionNumber := number
      buildDate := f.buildDate
      label := extractLabel f.labels.items
      description := extractDescription f.labels.items }

/-- The elements of `resolve_device_function`. -/
def resolveDeviceFunction (model : DeviceFunction) : Except XdcError Types.DeviceFunction := do
  let capabilities ← model.capabilities.mapM resolveCapabilities
  let firmwareList ← model.firmwareList.mapM (fun list => list.firmware.mapM resolveFirmware)
  .ok
    { capabilities := capabilities
      pictures := (model.picturesList.map (fun list => list.picture.map resolvePicture)).getD []
      dictionaries :=
        (model.dictionaryList.map (fun list => list.dictionary.map resolveDictionary)).getD []
      connectors :=
        (model.connectorList.map (fun list => list.connector.map resolveConnector)).getD []
      firmwareList := firmwareList.getD []
      classifications := (model.classificationList.map
        (fun list => list.classification.map (fun c => ⟨c.value⟩))).getD [] }

/-! ### Modular devices -/

/-- `resolve_connected_module`. -/
def resolveConnectedModule (model : ConnectedModule) : Except XdcError Types.ConnectedModule := do
  let position ← orInvalid "connectedModule @position" (parseU32 model.position)
  let address ← model.address.mapM
    (fun a => orInvalid "connectedModule @address" (parseU32 a))
  .ok ⟨model.childIdRef, position, address⟩

/-- The texts of `ModuleAddressingHead`. -/
def ModuleAddressingHead.toText : ModuleAddressingHead → String
  | .manual => "manual"
  | .position => "position"

/-- The texts of `ModuleAddressingChild`. -/
def ModuleAddressingChild.toText : ModuleAddressingChild → String
  | .manual => "manual"
  | .position => "position"
  | .next => "next"

/-- `resolve_interface_device`. -/
def resolveInterfaceDevice (model : InterfaceDevice) : Except XdcError Types.InterfaceDevice := do
  let connectedModules ← model.connectedModuleList.mapM
    (fun list => list.connectedModule.mapM resolveConnectedModule)
  let maxModules ← orInvalid "interface @maxModules" (parseU32 model.maxModules)
  .ok
    { uniqueId := model.uniqueId
      interfaceType := model.interfaceType
      maxModules := maxModules
      moduleAddressing := ModuleAddressingHead.toText model.moduleAddressing
      fileList := model.fileList.file.map (fun f => f.uri)
      connectedModules := connectedModules.getD [] }

/-- `resolve_module_interface`. -/
def resolveModuleInterface (model : ModuleInterface) : Types.ModuleInterface :=
  ⟨model.childId, model.interfaceType, ModuleAddressingChild.toText model.moduleAddressing⟩

/-- `resolve_module_management_device`. -/
def resolveModuleManagementDevice (model : ModuleManagementDevice) :
    Except XdcError Types.ModuleManagementDevice := do
  let interfaces ← model.interfaceList.interface.mapM resolveInterfaceDevice
  .ok ⟨interfaces, model.moduleInterface.map resolveModuleInterface⟩

/-- The texts of `SortMode`. -/
def SortMode.toText : SortMode → String
  | .index => "index"
  | .subindex => "subindex"

/-- The texts of `AddressingAttribute`. -/
def AddressingAttribute.toText : AddressingAttribute → String
  | .continuous => "continuous"
  | .address => "address"

/-- `resolve_range`. -/
def resolveRange (model : IndexRange) : Except XdcError Types.Range := do
  let baseIndex ← orParseIntError (parseHexU16 model.baseIndex)
  let maxIndex ← model.maxIndex.mapM (fun index => orParseIntError (parseHexU16 index))
  let maxSubIndex ← orParseIntError (parseHexU8 model.maxSubIndex)
  let sortStep ← model.sortStep.mapM (fun s => orInvalid "range @sortStep" (parseU32 s))
  .ok
    { name := model.name
      baseIndex := baseIndex
      maxIndex := maxIndex
      maxSubIndex := maxSubIndex
      sortMode := SortMode.toText model.sortMode
      sortNumber := AddressingAttribute.toText model.sortNumber
      sortStep := sortStep
      pdoMapping := model.pdoMapping.map mapPdoMapping }

/-- `resolve_interface_comm`. -/
def resolveInterfaceComm (model : InterfaceComm) : Except XdcError Types.InterfaceComm := do
  let ranges ← model.rangeList.range.mapM resolveRange
  .ok ⟨model.uniqueIdRef, ranges⟩

/-- `resolve_module_management_comm`. -/
def resolveModuleManagementComm (model : ModuleManagementComm) :
    Except XdcError Types.ModuleManagementComm := do
  let interfaces ← model.interfaceList.interface.mapM resolveInterfaceComm
  .ok ⟨interfaces⟩

/-! ### Device manager -/

/-- `resolve_led_state`. -/
def resolveLedState (model : LEDstate) : Types.LEDstate where
  uniqueId := model.uniqueId
  state := model.state.toText
  color := model.ledColor.toText
  label := extractLabel model.labels.items
  description := extractDescription model.labels.items

/-- `resolve_led`. -/
def resolveLed (model : LED) : Types.LED where
  ledType := model.ledType.map LEDtype.toText
  colors := model.ledColors.toText
  label := extractLabel model.labels.items
  description := extractDescription model.labels.items
  states := model.ledState.map resolveLedState

/-- `resolve_combined_state`. -/
def resolveCombinedState (model : CombinedState) : Types.CombinedState where
  ledStateRefs := model.ledStateRef.map (fun r => r.stateIdRef)
  label := extractLabel model.labels.items
  description := extractDescription model.labels.items

/-- `resolve_indicator_list`. -/
def resolveIndicatorList (model : IndicatorList) : Types.IndicatorList where
  leds := (model.ledList.map (fun list => list.led.map resolveLed)).getD []
  combinedStates :=
    (model.ledList.map (fun list => list.combinedState.map resolveCombinedState)).getD []

/-- `resolve_device_manager`. -/
def resolveDeviceManager (model : DeviceManager) : Except XdcError Types.DeviceManager := do
  let moduleManagement ← model.moduleManagement.mapM resolveModuleManagementDevice
  .ok ⟨model.indicatorList.map resolveIndicatorList, moduleManagement⟩

/-! ### Network management -/

/-- `parse_u32_attr`. -/
def parseU32Attr (s : Option String) : UInt32 := (s.bind parseU32).getD 0

/-- The general features of `resolve_network_management`. -/
def resolveGeneralFeatures (model : GeneralFeatures) : Types.GeneralFeatures where
  dllFeatureMn := model.dllFeatureMn
  nmtBootTimeNotActive := parseU32Attr (some model.nmtBootTimeNotActive)
  nmtCycleTimeMax := parseU32Attr (some model.nmtCycleTimeMax)
  nmtCycleTimeMin := parseU32Attr (some model.nmtCycleTimeMin)
  nmtErrorEntries := parseU32Attr (some model.nmtErrorEntries)
  nmtMaxCnNumber := model.nmtMaxCnNumber.bind parseU8
  pdoDynamicMapping := model.pdoDynamicMapping
  sdoClient := model.sdoClient
  sdoServer := model.sdoServer
  sdoSupportAsnd := model.sdoSupportAsnd
  sdoSupportUdpIp := model.sdoSupportUdpIp
  nmtIsochronous := model.nmtIsochronous
  sdoSupportPdo := model.sdoSupportPdo
  nmtExtNmtCmds := model.nmtExtNmtCmds
  cfmConfigManager := model.cfmConfigManager
  nmtNodeIdBySw := model.nmtNodeIdBySw
  sdoCmdReadAllByIndex := model.sdoCmdReadAllByIndex
  sdoCmdWriteAllByIndex := model.sdoCmdWriteAllByIndex
  sdoCmdReadMultParam := model.sdoCmdReadMultParam
  sdoCmdWriteMultParam := model.sdoCmdWriteMultParam
  nmtPublishActiveNodes := model.nmtPublishActiveNodes
  nmtPublishConfigNodes := model.nmtPublishConfigNodes

/-- The MN features of `resolve_network_management`. -/
def resolveMnFeatures (mn : MnFeatures) : Types.MnFeatures where
  dllMnFeatureMultiplex := mn.dllMnFeatureMultiplex
  dllMnPresChaining := mn.dllMnPresChaining
  nmtSimpleBoot := mn.nmtSimpleBoot
  nmtServiceUdpIp := mn.nmtServiceUdpIp
  nmtMnBasicEthernet := mn.nmtMnBasicEthernet

/-- The node addressing of `resolve_network_management`. -/
def resolveNmtCnDna : CnFeaturesNmtCnDna → Types.NmtCnDna
  | .doNotClear => .doNotClear
  | .clearOnPreOp1ToPreOp2 => .clearOnPreOp1ToPreOp2
  | .clearOnNmtResetNode => .clearOnNmtResetNode

/-- The CN features of `resolve_network_management`. -/
def resolveCnFeatures (cn : CnFeatures) : Types.CnFeatures where
  dllCnFeatureMultiplex := cn.dllCnFeatureMultiplex
  dllCnPresChaining := cn.dllCnPresChaining
  nmtCnPreOp2ToReady2Op := cn.nmtCnPreOp2ToReady2Op.bind parseU32
  nmtCnSoc2Preq := parseU32Attr (some cn.nmtCnSoc2Preq)
  nmtCnDna := cn.nmtCnDna.map resolveNmtCnDna

/-- The additional information of `resolve_diagnostic`. -/
def resolveAddInfo (ai : AddInfo) : Types.AddInfo where
  name := ai.name
  bitOffset := (parseU8 ai.bitOffset).getD 0
  len := (parseU8 ai.len).getD 0
  description := ai.labels.bind (fun l => extractDescription l.items)

/-- The errors of `resolve_diagnostic`. -/
def resolveError (e : Error) : Types.ErrorDefinition :=
  ⟨e.name, e.value, e.addInfo.map resolveAddInfo⟩

/-- The error bits of `resolve_diagnostic`. -/
def resolveErrorBit (bit : ErrorBit) : Types.StaticErrorBit where
  name := bit.name
  offset := (parseU8 bit.offset).getD 0
  label := bit.labels.bind (fun l => extractLabel l.items)
  description := bit.labels.bind (fun l => extractDescription l.items)

/-- `resolve_diagnostic`. -/
def resolveDiagnostic (model : Diagnostic) : Types.Diagnostic where
  errors := (model.errorList.map (fun list => list.error.map resolveError)).getD []
  staticErrorBitField :=
    model.staticErrorBitField.map (fun field => field.errorBit.map resolveErrorBit)

/-- `resolve_network_management`. -/
def resolveNetworkManagement (model : NetworkManagement) : Types.NetworkManagement where
  generalFeatures := resolveGeneralFeatures model.generalFeatures
  mnFeatures := model.mnFeatures.map resolveMnFeatures
  cnFeatures := model.cnFeatures.map resolveCnFeatures
  diagnostic := model.diagnostic.map resolveDiagnostic

/-! ### Application process -/

/-- `get_data_type_name`. -/
def getDataTypeName : ParameterDataType → String
  | .bool => "BOOL"
  | .bitstring => "BITSTRING"
  | .byte => "BYTE"
  | .char => "CHAR"
  | .word => "WORD"
  | .dword => "DWORD"
  | .lword => "LWORD"
  | .sint => "SINT"
  | .int => "INT"
  | .dint => "DINT"
  | .lint => "LINT"
  | .usint => "USINT"
  | .uint => "UINT"
  | .udint => "UDINT"
  | .ulint => "ULINT"
  | .real => "REAL"
  | .lreal => "LREAL"
  | .string => "STRING"
  | .wstring => "WSTRING"
  | .dataTypeIDRef r => r.uniqueIdRef
  | .variableRef _ => "variableRef"

/-- `resolve_parameter_data_type`. -/
def resolveParameterDataType : ParameterDataType → Types.ParameterDataType
  | .bool => .bool
  | .bitstring => .bitstring
  | .byte => .byte
  | .char => .char
  | .word => .word
  | .dword => .dword
  | .lword => .lword
  | .sint => .sint
  | .int => .int
  | .dint => .dint
  | .lint => .lint
  | .usint => .usint
  | .uint => .uint
  | .udint => .udint
  | .ulint => .ulint
  | .real => .real
  | .lreal => .lreal
  | .string => .string
  | .wstring => .wstring
  | .dataTypeIDRef r => .dataTypeIDRef r.uniqueIdRef
  | .variableRef _ => .variableRef

/-- `resolve_value`. -/
def resolveValue (model : Value) : Types.Value where
  value := model.value
  label := model.labels.bind (fun l => extractLabel l.items)
  offset := model.offset
  multiplier := model.multiplier

/-- `resolve_allowed_values`, of the application process and of the object dictionary. -/
def resolveAllowedValues (model : AllowedValues) : Types.AllowedValues where
  templateIdRef := model.templateIdRef
  values := model.value.map resolveValue
  ranges := model.range.map
    (fun r => ⟨r.minValue.value, r.maxValue.value, r.step.map (fun s => s.value)⟩)

/-- `resolve_parameter`. -/
def resolveParameter (model : Parameter) : Types.Parameter where
  uniqueId := model.uniqueId
  access := model.access.map mapParamAccess
  support := model.support.map mapParamSupport
  persistent := model.persistent
  offset := model.offset
  multiplier := model.multiplier
  templateIdRef := model.templateIdRef
  dataType := resolveParameterDataType model.dataType
  label := extractLabel model.labels.items
  description := extractDescription model.labels.items
  actualValue := model.actualValue.map resolveValue
  defaultValue := model.defaultValue.map resolveValue
  allowedValues := model.allowedValues.map resolveAllowedValues

/-- The members of `resolve_struct`. -/
def resolveStructMember (var : VarDeclaration) : Types.StructMember where
  name := var.name
  uniqueId := var.uniqueId
  dataType := getDataTypeName var.dataType
  size := var.size.bind parseU32
  label := extractLabel var.labels.items
  description := extractDescription var.labels.items

/-- `resolve_struct`. -/
def resolveStruct (model : AppStruct) : Types.AppStruct where
  name := model.name
  uniqueId := model.uniqueId
  label := extractLabel model.labels.items
  description := extractDescription model.labels.items
  members := model.varDeclaration.map resolveStructMember

/-- `resolve_array`. -/
def resolveArray (model : AppArray) : Except XdcError Types.AppArray :=
  match model.subrange with
  | [] => .error (.missingElement "subrange")
  | subrange :: _ => .ok
      { name := model.name
        uniqueId := model.uniqueId
        label := extractLabel model.labels.items
        description := extractDescription model.labels.items
        lowerLimit := (parseU32 subrange.lowerLimit).getD 0
        upperLimit := (parseU32 subrange.upperLimit).getD 0
        dataType := getDataTypeName model.dataType }

/-- The values of `resolve_enum`. -/
def resolveEnumValue (val : EnumValue) : Types.EnumValue where
  name := (extractLabel val.labels.items).getD ""
  value := val.value.getD ""
  label := extractLabel val.labels.items
  description := extractDescription val.labels.items

/-- `resolve_enum`. -/
def resolveEnum (model : AppEnum) : Types.AppEnum where
  name := model.name
  uniqueId := model.uniqueId
  label := extractLabel model.labels.items
  description := extractDescription model.labels.items
  dataType := (model.dataType.map getDataTypeName).getD ""
  sizeInBits := model.size.bind parseU32
  values := model.enumValue.map resolveEnumValue

/-- The count of `resolve_derived`. -/
def resolveCount (c : Count) : Types.Count :=
  ⟨c.uniqueId, c.access.map mapParamAccess, some c.defaultValue.value⟩

/-- `resolve_derived`. -/
def resolveDerived (model : AppDerived) : Types.AppDerived where
  name := model.name
  uniqueId := model.uniqueId
  label := extractLabel model.labels.items
  description := extractDescription model.labels.items
  dataType := getDataTypeName model.dataType
  count := model.count.map resolveCount

/-- The elements of `resolve_data_type_list`. -/
def resolveDataType : AppDataTypeChoice → Except XdcError Types.AppDataType
  | .struct s => .ok (.struct (resolveStruct s))
  | .array a => (resolveArray a).map .array
  | .enum e => .ok (.enum (resolveEnum e))
  | .derived d => .ok (.derived (resolveDerived d))

/-- The parameter references of `resolve_parameter_group`. -/
def resolveParameterRef (pr : ParameterRef) : Types.ParameterRef :=
  ⟨pr.uniqueIdRef, pr.visible, pr.locked, pr.bitOffset.bind parseU32⟩

mutual
/-- `resolve_parameter_group`. -/
def resolveParameterGroup : ParameterGroup → Types.ParameterGroup
  | ⟨uniqueId, _, _, _, _, _, _, labels, items⟩ =>
      ⟨uniqueId, extractLabel labels.items, extractDescription labels.items,
        resolveParameterGroupItems items⟩
/-- The items of `resolve_parameter_group`. -/
def resolveParameterGroupItem : ParameterGroupItem → Types.ParameterGroupItem
  | .parameterGroup pg => .group (resolveParameterGroup pg)
  | .parameterRef pr => .parameter (resolveParameterRef pr)
/-- The loop over the items. -/
def resolveParameterGroupItems : List ParameterGroupItem → List Types.ParameterGroupItem
  | [] => []
  | item :: items => resolveParameterGroupItem item :: resolveParameterGroupItems items
end

/-- `resolve_var_declaration`. -/
def resolveVarDeclaration (model : VarDeclaration) : Types.VarDeclaration where
  name := model.name
  uniqueId := model.uniqueId
  dataType := getDataTypeName model.dataType
  size := model.size.bind parseU32
  initialValue := model.initialValue
  label := extractLabel model.labels.items
  description := extractDescription model.labels.items

/-- The variables of one list of `resolve_interface_list`. -/
def resolveVarList (vars : Option VarList) : List Types.VarDeclaration :=
  (vars.map (fun list => list.varDeclaration.map resolveVarDeclaration)).getD []

/-- `resolve_interface_list`. -/
def resolveInterfaceList (model : InterfaceList) : Types.InterfaceList where
  inputs := resolveVarList model.inputVars
  outputs := resolveVarList model.outputVars
  configs := resolveVarList model.configVars

/-- The versions of `resolve_function_type`. -/
def resolveVersionInfo (v : VersionInfo) : Types.VersionInfo where
  organization := v.organization
  version := v.version
  author := v.author
  date := v.date
  label := extractLabel v.labels.items
  description := extractDescription v.labels.items

/-- `resolve_function_type`. -/
def resolveFunctionType (model : FunctionType) : Types.FunctionType where
  name := model.name
  uniqueId := model.uniqueId
  package := model.package
  label := extractLabel model.labels.items
  description := extractDescription model.labels.items
  versionInfo := model.versionInfo.map resolveVersionInfo
  interface := resolveInterfaceList model.interfaceList

/-- The elements of `resolve_function_instance_list`. -/
def resolveFunctionInstance (inst : FunctionInstance) : Types.FunctionInstance where
  name := inst.name
  uniqueId := inst.uniqueId
  typeIdRef := inst.typeIdRef
  label := extractLabel inst.labels.items
  description := extractDescription inst.labels.items

/-- `resolve_application_process`. -/
def resolveApplicationProcess (model : ApplicationProcess) :
    Except XdcError Types.ApplicationProcess := do
  let dataTypes ← model.dataTypeList.mapM (fun list => list.items.mapM resolveDataType)
  .ok
    { dataTypes := dataTypes.getD []
      templates := (model.templateList.map
        (fun list => list.parameterTemplate.map resolveParameter)).getD []
      parameters := model.parameterList.parameter.map resolveParameter
      parameterGroups := (model.parameterGroupList.map
        (fun list => list.parameterGroup.map resolveParameterGroup)).getD []
      functionTypes := (model.functionTypeList.map
        (fun list => list.functionType.map resolveFunctionType)).getD []
      functionInstances := (model.functionInstanceList.map
        (fun list => list.functionInstance.map resolveFunctionInstance)).getD [] }

/-! ### Object dictionary -/

/-- `ValueMode`. -/
inductive ValueMode where
  | actual
  | default
deriving DecidableEq, Repr

/-- The value a mode prefers, or the other one. -/
def ValueMode.choose {α : Type} (mode : ValueMode) (actualValue defaultValue : Option α) :
    Option α :=
  match mode with
  | .actual => actualValue.or defaultValue
  | .default => defaultValue.or actualValue

/-- A map with keys in the order of insertion. -/
def lookupLast {α : Type} (map : List (String × α)) (key : String) : Option α :=
  map.reverse.lookup key

/-- The map of parameters of `resolve_data`. -/
def paramMap (appProcess : Option ApplicationProcess) : List (String × Parameter) :=
  match appProcess with
  | none => []
  | some p => p.parameterList.parameter.map (fun param => (param.uniqueId, param))

/-- The map of template values of `resolve_data`. -/
def templateMap (appProcess : Option ApplicationProcess) (mode : ValueMode) :
    List (String × Value) :=
  match appProcess.bind (fun p => p.templateList) with
  | none => []
  | some list => list.parameterTemplate.filterMap (fun template =>
      (mode.choose template.actualValue template.defaultValue).map
        (fun value => (template.uniqueId, value)))

/-- `ResolvedAttributes` but for the value. -/
structure ResolvedAttributes where
  access : Option Types.ParameterAccess
  support : Option Types.ParameterSupport
  persistent : Bool
  allowedValues : Option Types.AllowedValues
  dataType : Option String

/-- `apply_parameter_attributes`. -/
def applyParameterAttributes (param : Parameter) (resolved : ResolvedAttributes) :
    ResolvedAttributes :=
  { resolved with
    access := (param.access.map mapParamAccess).or resolved.access
    support := (param.support.map mapParamSupport).or resolved.support
    persistent := param.persistent
    allowedValues := (param.allowedValues.map resolveAllowedValues).or resolved.allowedValues }

/-- `map_param_type_to_hex`. -/
def mapParamTypeToHex : ParameterDataType → Option String
  | .bool => some "0001"
  | .sint => some "0002"
  | .int => some "0003"
  | .dint => some "0004"
  | .usint | .byte => some "0005"
  | .uint | .word => some "0006"
  | .udint | .dword => some "0007"
  | .real => some "0008"
  | .string => some "0009"
  | .lint => some "0015"
  | .ulint | .lword => some "001B"
  | .lreal => some "0011"
  | .wstring => some "000B"
  | _ => none

/-- The attributes of an object or sub-object, the referenced parameter included. -/
def resolveAttributes (model : Attributes) (params : List (String × Parameter)) :
    ResolvedAttributes :=
  let resolved : ResolvedAttributes :=
    { access := model.accessType.map mapAccessType
      support := none
      persistent := false
      allowedValues := none
      dataType := model.dataType }
  match model.uniqueIdRef.bind (lookupLast params) with
  | none => resolved
  | some param =>
      let applied := applyParameterAttributes param resolved
      { applied with dataType := applied.dataType.or (mapParamTypeToHex param.dataType) }

/-- `resolve_value_from_param`. -/
def resolveValueFromParam (param : Parameter) (mode : ValueMode)
    (templates : List (String × Value)) : Option String :=
  ((mode.choose param.actualValue param.defaultValue).map (fun v => v.value)).or
    ((param.templateIdRef.bind (lookupLast templates)).map (fun v => v.value))

/-- The value behind a reference to a parameter. -/
def referencedValue (idRef : Option String) (mode : ValueMode)
    (params : List (String × Parameter)) (templates : List (String × Value)) : Option String :=
  (idRef.bind (lookupLast params)).bind
    (fun param => resolveValueFromParam param mode templates)

/-- `get_value_str_for_object`. -/
def getValueStrForObject (model : Attributes) (mode : ValueMode)
    (params : List (String × Parameter)) (templates : List (String × Value)) : Option String :=
  (mode.choose model.actualValue model.defaultValue).or
    (referencedValue model.uniqueIdRef mode params templates)

/-- `get_value_str_for_subobject`. -/
def getValueStrForSubobject (model : Attributes) (mode : ValueMode)
    (params : List (String × Parameter)) (templates : List (String × Value))
    (parentUniqueIdRef : Option String) (subIndex : UInt8) : Option String :=
  (getValueStrForObject model mode params templates).or
    (if subIndex = 0 then referencedValue parentUniqueIdRef mode params templates else none)

/-- The public attributes of an object or sub-object with its value. -/
def publicAttributes (model : Attributes) (resolved : ResolvedAttributes)
    (data : Option String) : Types.Attributes where
  name := model.name
  objectType := model.objectType
  dataType := resolved.dataType
  lowLimit := model.lowLimit
  highLimit := model.highLimit
  accessType := resolved.access
  pdoMapping := model.pdoMapping.map mapPdoMapping
  objFlags := model.objFlags
  support := resolved.support
  persistent := resolved.persistent
  allowedValues := resolved.allowedValues
  data := data

/-- The elements of `resolve_sub_objects`. -/
def resolveSubObject (parentUniqueIdRef : Option String) (params : List (String × Parameter))
    (templates : List (String × Value)) (mode : ValueMode) (model : SubObject) :
    Except XdcError Types.SubObject := do
  let subIndex ← orParseIntError (parseHexU8 model.subIndex)
  .ok
    { publicAttributes model.toAttributes (resolveAttributes model.toAttributes params)
        (getValueStrForSubobject model.toAttributes mode params templates parentUniqueIdRef
          subIndex) with
      subIndex := subIndex }

/-- The value of an object: only variables have one of their own. -/
def objectData (model : Attributes) (mode : ValueMode) (params : List (String × Parameter))
    (templates : List (String × Value)) : Option String :=
  if model.objectType = "7" then getValueStrForObject model mode params templates else none

/-- The elements of `resolve_object_dictionary`. -/
def resolveObject (params : List (String × Parameter)) (templates : List (String × Value))
    (mode : ValueMode) (model : Object) : Except XdcError Types.Object := do
  let index ← orParseIntError (parseHexU16 model.index)
  let subObjects ← model.subObject.mapM
    (resolveSubObject model.uniqueIdRef params templates mode)
  .ok
    { publicAttributes model.toAttributes (resolveAttributes model.toAttributes params)
        (objectData model.toAttributes mode params templates) with
      index := index
      subObjects := subObjects }

/-- `resolve_object_dictionary`. -/
def resolveObjectDictionary (appLayers : ApplicationLayers) (params : List (String × Parameter))
    (templates : List (String × Value)) (mode : ValueMode) :
    Except XdcError Types.ObjectDictionary := do
  let objects ← appLayers.objectList.object.mapM (resolveObject params templates mode)
  .ok ⟨objects⟩

/-! ### The whole file -/

/-- The passes of `resolve_data` over a device profile, if there is one, and a communication
profile with its application layers. -/
def resolveProfiles (deviceProfile : Option Iso15745Profile) (commProfile : Iso15745Profile)
    (appLayers : ApplicationLayers) (mode : ValueMode) : Except XdcError Types.XdcFile := do
  let body := deviceProfile.map (fun p => p.profileBody)
  let appProcess := body.bind (fun b => b.applicationProcess)
  let params := paramMap appProcess
  let templates := templateMap appProcess mode
  let header := resolveHeader
    ((deviceProfile.map (fun p => p.profileHeader)).getD commProfile.profileHeader)
  let identity ← (body.bind (fun b => b.deviceIdentity)).mapM resolveIdentity
  let deviceFunction ← body.mapM (fun b => b.deviceFunction.mapM resolveDeviceFunction)
  let deviceManager ← (body.bind (fun b => b.deviceManager)).mapM resolveDeviceManager
  let networkManagement :=
    commProfile.profileBody.networkManagement.map resolveNetworkManagement
  let applicationProcess ← appProcess.mapM resolveApplicationProcess
  let moduleManagementComm ← appLayers.moduleManagement.mapM resolveModuleManagementComm
  let objectDictionary ← resolveObjectDictionary appLayers params templates mode
  .ok
    { header := header
      identity := identity.getD {}
      deviceFunction := deviceFunction.getD []
      deviceManager := deviceManager
      networkManagement := networkManagement
      applicationProcess := applicationProcess
      objectDictionary := objectDictionary
      moduleManagementComm := moduleManagementComm }

/-- `resolve_data`. -/
def resolveData (container : Iso15745ProfileContainer) (mode : ValueMode) :
    Except XdcError Types.XdcFile :=
  match container.profile.find? (fun p => p.profileBody.applicationLayers.isSome) with
  | none => .error (.missingElement "Profile containing ApplicationLayers")
  | some commProfile =>
      match commProfile.profileBody.applicationLayers with
      | none => .error (.missingElement "ApplicationLayers")
      | some appLayers =>
          resolveProfiles (container.profile.find? (fun p => p.profileBody.deviceIdentity.isSome))
            commProfile appLayers mode

end PowerlinkXdc
