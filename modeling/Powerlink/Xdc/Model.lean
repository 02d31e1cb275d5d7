import Powerlink.Xdc.Types

/-! # The schema of a device description

The structures of the crate's module `model`, which `quick-xml` reads from and writes to an XDC
file.  A structure has the fields that the resolver reads or the builder writes; the attributes
of the schema that neither of them uses (most of the feature flags, the device commissioning,
the allowed-value templates, the connections) are left out, and so is the list of data types,
which the resolver indexes but never looks up. -/

namespace PowerlinkXdc.Model

/-! ### Labels -/

/-- `Label`. -/
structure Label where
  lang : String
  value : String

/-- `Description`. -/
structure Description where
  lang : String
  uri : Option String := none
  value : String

/-- `LabelRef` and `DescriptionRef`. -/
structure TextRef where
  dictId : String
  textId : String
  value : String

/-- `LabelChoice`. -/
inductive LabelChoice where
  | label (l : Label)
  | description (d : Description)
  | labelRef (r : TextRef)
  | descriptionRef (r : TextRef)

/-- `Glabels`. -/
structure Glabels where
  items : List LabelChoice := []

/-- `AttributedGlabels`. -/
structure AttributedGlabels where
  items : List LabelChoice
  readOnly : Bool := false

/-- `ReadOnlyString`. -/
structure ReadOnlyString where
  readOnly : Bool := false
  value : String

/-- `InstanceName`. -/
structure InstanceName where
  readOnly : Bool := false
  value : String

/-! ### Header and identity -/

/-- `ProfileHeader`. -/
structure ProfileHeader where
  profileIdentification : String
  profileRevision : String
  profileName : String
  profileSource : String
  profileDate : Option String

/-- `Version`. -/
structure Version where
  versionType : String
  readOnly : Bool
  value : String

/-- `DeviceIdentity`. -/
structure DeviceIdentity where
  vendorName : ReadOnlyString
  vendorId : Option ReadOnlyString
  vendorText : Option AttributedGlabels
  deviceFamily : Option AttributedGlabels
  productFamily : Option ReadOnlyString
  productName : ReadOnlyString
  productId : Option ReadOnlyString
  productText : Option AttributedGlabels
  orderNumber : List ReadOnlyString
  version : List Version
  buildDate : Option String
  specificationRevision : Option ReadOnlyString
  instanceName : Option InstanceName

/-! ### Device function -/

/-- `CharacteristicName`. -/
structure CharacteristicName where
  items : List LabelChoice

/-- `CharacteristicContent`. -/
structure CharacteristicContent where
  items : List LabelChoice
  value : Option String := none

/-- `Characteristic`. -/
structure Characteristic where
  characteristicName : CharacteristicName
  characteristicContent : List CharacteristicContent

/-- `Category`. -/
structure Category where
  labels : Glabels

/-- `CharacteristicsList`. -/
structure CharacteristicsList where
  category : Option Category
  characteristic : List Characteristic

/-- `CompliantWith`. -/
structure CompliantWith where
  labels : Glabels
  name : String
  range : Option String

/-- `StandardComplianceList`. -/
structure StandardComplianceList where
  compliantWith : List CompliantWith

/-- `Capabilities`. -/
structure Capabilities where
  characteristicsList : List CharacteristicsList
  standardComplianceList : Option StandardComplianceList

/-- `Picture`. -/
structure Picture where
  labels : Glabels
  uri : String
  pictureType : Option String
  number : Option String

/-- `PicturesList`. -/
structure PicturesList where
  picture : List Picture

/-- `DictionaryFile`. -/
structure DictionaryFile where
  uri : String

/-- `Dictionary`. -/
structure Dictionary where
  file : DictionaryFile
  lang : String
  dictId : String

/-- `DictionaryList`. -/
structure DictionaryList where
  dictionary : List Dictionary

/-- `Connector`. -/
structure Connector where
  labels : Glabels
  id : String
  connectorType : Option String
  interfaceIdRef : Option String
  posX : Option String
  posY : Option String
  positioning : Option String

/-- `ConnectorList`. -/
structure ConnectorList where
  connector : List Connector

/-- `Firmware`. -/
structure Firmware where
  labels : Glabels
  uri : String
  deviceRevisionNumber : String
  buildDate : Option String

/-- `FirmwareList`. -/
structure FirmwareList where
  firmware : List Firmware

/-- `Classification`. -/
structure Classification where
  value : String

/-- `ClassificationList`. -/
structure ClassificationList where
  classification : List Classification

/-- `DeviceFunction`. -/
structure DeviceFunction where
  capabilities : Option Capabilities
  picturesList : Option PicturesList
  dictionaryList : Option DictionaryList
  connectorList : Option ConnectorList
  firmwareList : Option FirmwareList
  classificationList : Option ClassificationList

/-! ### Modular devices -/

/-- `ObjectPdoMapping`. -/
inductive ObjectPdoMapping where
  | no
  | default
  | optional
  | tpdo
  | rpdo
deriving DecidableEq, Repr

/-- `SortMode`. -/
inductive SortMode where
  | index
  | subindex
deriving DecidableEq, Repr

/-- `AddressingAttribute`. -/
inductive AddressingAttribute where
  | continuous
  | address
deriving DecidableEq, Repr

/-- `ModuleAddressingChild`. -/
inductive ModuleAddressingChild where
  | manual
  | position
  | next
deriving DecidableEq, Repr

/-- `ModuleAddressingHead`. -/
inductive ModuleAddressingHead where
  | manual
  | position
deriving DecidableEq, Repr

/-- `File`. -/
structure File where
  uri : String

/-- `FileList`. -/
structure FileList where
  file : List File := []

/-- `ModuleInterface`. -/
structure ModuleInterface where
  labels : Glabels := {}
  fileList : FileList := {}
  childId : String
  interfaceType : String
  moduleAddressing : ModuleAddressingChild

/-- `ConnectedModule`. -/
structure ConnectedModule where
  childIdRef : String
  position : String
  address : Option String

/-- `ConnectedModuleList`. -/
structure ConnectedModuleList where
  connectedModule : List ConnectedModule

/-- `InterfaceDevice`. -/
structure InterfaceDevice where
  labels : Glabels := {}
  fileList : FileList
  connectedModuleList : Option ConnectedModuleList
  uniqueId : String
  interfaceType : String
  maxModules : String
  unusedSlots : Bool
  moduleAddressing : ModuleAddressingHead

/-- `InterfaceListDevice`. -/
structure InterfaceListDevice where
  interface : List InterfaceDevice

/-- `ModuleManagementDevice`. -/
structure ModuleManagementDevice where
  interfaceList : InterfaceListDevice
  moduleInterface : Option ModuleInterface

/-- `Range` of the module `modular`. -/
structure IndexRange where
  name : String
  baseIndex : String
  maxIndex : Option String
  maxSubIndex : String
  sortMode : SortMode
  sortNumber : AddressingAttribute
  sortStep : Option String
  pdoMapping : Option ObjectPdoMapping

/-- `RangeList`. -/
structure RangeList where
  range : List IndexRange

/-- `InterfaceComm`. -/
structure InterfaceComm where
  rangeList : RangeList
  uniqueIdRef : String

/-- `InterfaceListComm`. -/
structure InterfaceListComm where
  interface : List InterfaceComm

/-- `ModuleManagementComm`. -/
structure ModuleManagementComm where
  interfaceList : InterfaceListComm

/-! ### Device manager -/

/-- `LEDcolors`. -/
inductive LEDcolors where
  | monocolor
  | bicolor
deriving DecidableEq, Repr

/-- `LEDtype`. -/
inductive LEDtype where
  | io
  | device
  | communication
deriving DecidableEq, Repr

/-- `LEDstateEnum`. -/
inductive LEDstateEnum where
  | on
  | off
  | flashing
deriving DecidableEq, Repr

/-- `LEDcolor`. -/
inductive LEDcolor where
  | green
  | amber
  | red
deriving DecidableEq, Repr

/-- `LEDcolors::fmt`. -/
def LEDcolors.toText : LEDcolors → String
  | monocolor => "monocolor"
  | bicolor => "bicolor"

/-- `LEDtype::fmt`. -/
def LEDtype.toText : LEDtype → String
  | io => "IO"
  | device => "device"
  | communication => "communication"

/-- `LEDstateEnum::fmt`. -/
def LEDstateEnum.toText : LEDstateEnum → String
  | on => "on"
  | off => "off"
  | flashing => "flashing"

/-- `LEDcolor::fmt`. -/
def LEDcolor.toText : LEDcolor → String
  | green => "green"
  | amber => "amber"
  | red => "red"

/-- `LEDstate`. -/
structure LEDstate where
  labels : Glabels
  uniqueId : String
  state : LEDstateEnum
  ledColor : LEDcolor
  flashingPeriod : Option String := none
  impulsWidth : Option String := none
  numberOfImpulses : Option String := none

/-- `LED`. -/
structure LED where
  labels : Glabels
  ledColors : LEDcolors
  ledType : Option LEDtype
  ledState : List LEDstate

/-- `LEDstateRef`. -/
structure LEDstateRef where
  stateIdRef : String

/-- `CombinedState`. -/
structure CombinedState where
  labels : Glabels
  ledStateRef : List LEDstateRef

/-- `LEDList`. -/
structure LEDList where
  led : List LED
  combinedState : List CombinedState

/-- `IndicatorList`. -/
structure IndicatorList where
  ledList : Option LEDList

/-- `DeviceManager`. -/
structure DeviceManager where
  indicatorList : Option IndicatorList
  moduleManagement : Option ModuleManagementDevice

/-! ### Network management -/

/-- `GeneralFeatures`. -/
structure GeneralFeatures where
  dllFeatureMn : Bool
  nmtBootTimeNotActive : String
  nmtCycleTimeMax : String
  nmtCycleTimeMin : String
  nmtErrorEntries : String
  nmtMaxCnNumber : Option String
  pdoDynamicMapping : Option Bool
  sdoClient : Option Bool
  sdoServer : Option Bool
  sdoSupportAsnd : Option Bool
  sdoSupportUdpIp : Option Bool
  nmtIsochronous : Option Bool
  sdoSupportPdo : Option Bool
  nmtExtNmtCmds : Option Bool
  cfmConfigManager : Option Bool
  nmtNodeIdBySw : Option Bool
  sdoCmdReadAllByIndex : Option Bool
  sdoCmdWriteAllByIndex : Option Bool
  sdoCmdReadMultParam : Option Bool
  sdoCmdWriteMultParam : Option Bool
  nmtPublishActiveNodes : Option Bool
  nmtPublishConfigNodes : Option Bool

/-- `MnFeatures`. -/
structure MnFeatures where
  dllMnFeatureMultiplex : Option Bool
  dllMnPresChaining : Option Bool
  nmtSimpleBoot : Bool
  nmtServiceUdpIp : Option Bool
  nmtMnBasicEthernet : Option Bool

/-- `CnFeaturesNmtCnDna`. -/
inductive CnFeaturesNmtCnDna where
  | doNotClear
  | clearOnPreOp1ToPreOp2
  | clearOnNmtResetNode
deriving DecidableEq, Repr

/-- `CnFeatures`. -/
structure CnFeatures where
  dllCnFeatureMultiplex : Option Bool
  dllCnPresChaining : Option Bool
  nmtCnPreOp2ToReady2Op : Option String
  nmtCnSoc2Preq : String
  nmtCnDna : Option CnFeaturesNmtCnDna

/-- `AddInfo`. -/
structure AddInfo where
  bitOffset : String
  len : String
  name : String
  labels : Option Glabels

/-- `Error`. -/
structure Error where
  name : String
  value : String
  labels : Option Glabels
  addInfo : List AddInfo

/-- `ErrorList`. -/
structure ErrorList where
  error : List Error

/-- `ErrorBit`. -/
structure ErrorBit where
  name : String
  offset : String
  labels : Option Glabels

/-- `StaticErrorBitField`. -/
structure StaticErrorBitField where
  errorBit : List ErrorBit

/-- `Diagnostic`. -/
structure Diagnostic where
  errorList : Option ErrorList
  staticErrorBitField : Option StaticErrorBitField

/-- `NetworkManagement`. -/
structure NetworkManagement where
  generalFeatures : GeneralFeatures
  mnFeatures : Option MnFeatures
  cnFeatures : Option CnFeatures
  diagnostic : Option Diagnostic

/-! ### Application process -/

/-- `ParameterAccess`. -/
inductive ParameterAccess where
  | const
  | read
  | write
  | readWrite
  | readWriteInput
  | readWriteOutput
  | noAccess
deriving DecidableEq, Repr

/-- `ParameterSupport`. -/
inductive ParameterSupport where
  | mandatory
  | optional
  | conditional
deriving DecidableEq, Repr

/-- `InstanceIDRef` and `VariableIDRef`. -/
structure IDRef where
  uniqueIdRef : String := ""

/-- `MemberRef`. -/
structure MemberRef where
  uniqueIdRef : Option String
  index : Option Int

/-- `VariableRef`; the field defaults are those of `VariableRef::default`. -/
structure VariableRef where
  instanceIdRef : List IDRef := []
  variableIdRef : IDRef := {}
  memberRef : List MemberRef := []
  position : Option UInt8 := none

/-- `DataTypeIDRef`. -/
structure DataTypeIDRef where
  uniqueIdRef : String

/-- `ParameterDataType`. -/
inductive ParameterDataType where
  | bool
  | bitstring
  | byte
  | char
  | word
  | dword
  | lword
  | sint
  | int
  | dint
  | lint
  | usint
  | uint
  | udint
  | ulint
  | real
  | lreal
  | string
  | wstring
  | dataTypeIDRef (r : DataTypeIDRef)
  | variableRef (r : VariableRef)

/-- `Value`. -/
structure Value where
  labels : Option Glabels := none
  value : String
  offset : Option String := none
  multiplier : Option String := none

/-- `Range` of the module `app_process`. -/
structure Range where
  minValue : Value
  maxValue : Value
  step : Option Value

/-- `AllowedValues`. -/
structure AllowedValues where
  templateIdRef : Option String
  value : List Value
  range : List Range

/-- `Parameter`. -/
structure Parameter where
  uniqueId : String
  access : Option ParameterAccess
  support : Option ParameterSupport
  persistent : Bool
  offset : Option String
  multiplier : Option String
  templateIdRef : Option String
  labels : Glabels
  dataType : ParameterDataType
  actualValue : Option Value
  defaultValue : Option Value
  allowedValues : Option AllowedValues

/-- `TemplateList`. -/
structure TemplateList where
  parameterTemplate : List Parameter

/-- `ParameterList`. -/
structure ParameterList where
  parameter : List Parameter

/-- `Subrange`. -/
structure Subrange where
  lowerLimit : String
  upperLimit : String

/-- `AppArray`. -/
structure AppArray where
  name : String
  uniqueId : String
  labels : Glabels
  subrange : List Subrange
  dataType : ParameterDataType

/-- `VarDeclaration`. -/
structure VarDeclaration where
  name : String
  uniqueId : String
  size : Option String
  initialValue : Option String := none
  labels : Glabels
  dataType : ParameterDataType

/-- `AppStruct`. -/
structure AppStruct where
  name : String
  uniqueId : String
  labels : Glabels
  varDeclaration : List VarDeclaration

/-- `EnumValue`. -/
structure EnumValue where
  value : Option String
  labels : Glabels

/-- `AppEnum`. -/
structure AppEnum where
  name : String
  uniqueId : String
  size : Option String
  labels : Glabels
  enumValue : List EnumValue
  dataType : Option ParameterDataType

/-- `Count`. -/
structure Count where
  uniqueId : String
  access : Option ParameterAccess
  labels : Glabels := {}
  defaultValue : Value
  allowedValues : Option AllowedValues

/-- `AppDerived`. -/
structure AppDerived where
  name : String
  uniqueId : String
  description : Option String
  labels : Glabels
  count : Option Count
  dataType : ParameterDataType

/-- `AppDataTypeChoice`. -/
inductive AppDataTypeChoice where
  | array (a : AppArray)
  | struct (s : AppStruct)
  | enum (e : AppEnum)
  | derived (d : AppDerived)

/-- `AppDataTypeList`. -/
structure AppDataTypeList where
  items : List AppDataTypeChoice

/-- `VersionInfo`. -/
structure VersionInfo where
  organization : String
  version : String
  author : String
  date : String
  labels : Glabels

/-- `VarList`. -/
structure VarList where
  varDeclaration : List VarDeclaration

/-- `InterfaceList`; the field defaults are those of `InterfaceList::default`. -/
structure InterfaceList where
  inputVars : Option VarList := none
  outputVars : Option VarList := none
  configVars : Option VarList := none

/-- `FunctionInstance`. -/
structure FunctionInstance where
  name : String
  uniqueId : String
  typeIdRef : String
  labels : Glabels

/-- `FunctionInstanceList`. -/
structure FunctionInstanceList where
  functionInstance : List FunctionInstance

/-- `FunctionType`. -/
structure FunctionType where
  name : String
  uniqueId : String
  package : Option String
  labels : Glabels
  versionInfo : List VersionInfo
  interfaceList : InterfaceList
  functionInstanceList : Option FunctionInstanceList

/-- `FunctionTypeList`. -/
structure FunctionTypeList where
  functionType : List FunctionType

/-- `ParameterRef`. -/
structure ParameterRef where
  uniqueIdRef : String
  actualValue : Option String := none
  visible : Bool
  locked : Bool
  bitOffset : Option String

mutual
/-- `ParameterGroup`. -/
structure ParameterGroup where
  uniqueId : String
  kindOfAccess : Option String := none
  configParameter : Bool := false
  groupLevelVisible : Bool := false
  conditionalUniqueIdRef : Option String := none
  conditionalValue : Option String := none
  bitOffset : Option String := none
  labels : Glabels
  items : List ParameterGroupItem
/-- `ParameterGroupItem`. -/
inductive ParameterGroupItem where
  | parameterGroup (g : ParameterGroup)
  | parameterRef (r : ParameterRef)
end

/-- `ParameterGroupList`. -/
structure ParameterGroupList where
  parameterGroup : List ParameterGroup

/-- `ApplicationProcess`. -/
structure ApplicationProcess where
  dataTypeList : Option AppDataTypeList
  functionTypeList : Option FunctionTypeList
  functionInstanceList : Option FunctionInstanceList
  templateList : Option TemplateList
  parameterList : ParameterList
  parameterGroupList : Option ParameterGroupList

/-! ### Application layers -/

/-- `ObjectAccessType`. -/
inductive ObjectAccessType where
  | readOnly
  | writeOnly
  | readWrite
  | constant
deriving DecidableEq, Repr

/-- The attribute group `ag_Powerlink_Object` that `Object` and `SubObject` share. -/
structure Attributes where
  name : String
  objectType : String
  dataType : Option String
  lowLimit : Option String
  highLimit : Option String
  accessType : Option ObjectAccessType
  defaultValue : Option String
  actualValue : Option String
  denotation : Option String
  pdoMapping : Option ObjectPdoMapping
  objFlags : Option String
  uniqueIdRef : Option String

/-- `SubObject`. -/
structure SubObject extends Attributes where
  subIndex : String

/-- `Object`. -/
structure Object extends Attributes where
  index : String
  rangeSelector : Option String
  subObject : List SubObject

/-- `ObjectList`. -/
structure ObjectList where
  object : List Object

/-- `ApplicationLayers`. -/
structure ApplicationLayers where
  objectList : ObjectList
  moduleManagement : Option ModuleManagementComm

/-! ### The container -/

/-- `ProfileBody`. -/
structure ProfileBody where
  xsiType : Option String
  applicationLayers : Option ApplicationLayers
  deviceIdentity : Option DeviceIdentity
  deviceManager : Option DeviceManager
  deviceFunction : List DeviceFunction
  applicationProcess : Option ApplicationProcess
  networkManagement : Option NetworkManagement

/-- `Iso15745Profile`. -/
structure Iso15745Profile where
  profileHeader : ProfileHeader
  profileBody : ProfileBody

/-- `Iso15745ProfileContainer`; the field defaults are those of its `default`. -/
structure Iso15745ProfileContainer where
  xmlns : String := "http://www.ethernet-powerlink.org"
  xmlnsXsi : String := "http://www.w3.org/2001/XMLSchema-instance"
  xsiSchemaLocation : String := "http://www.ethernet-powerlink.org Powerlink_Main.xsd"
  profile : List Iso15745Profile

end PowerlinkXdc.Model
