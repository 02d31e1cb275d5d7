import Mathlib.Tactic

/-! # A device description

The public types of the crate `powerlink-rs-xdc` (`types.rs`): what a consumer of an XDC or XDD
file sees after the references of the schema are resolved.  Values are kept as text, as the
source keeps them. -/

namespace PowerlinkXdc

/-- `hex::FromHexError`. -/
inductive FromHexError where
  | invalidHexCharacter (c : Char) (index : ℕ)
  | oddLength
  | invalidStringLength
deriving DecidableEq, Repr

/-- The errors of `error.rs` that resolving, building and converting return. -/
inductive XdcError where
  | hexParsing (e : FromHexError)
  | fmtError
  | missingElement (element : String)
  | invalidAttributeFormat (name : String)
  | validationError (message : String)
deriving DecidableEq, Repr

namespace Types

/-! ### Header and identity -/

/-- `ProfileHeader`. -/
structure ProfileHeader where
  identification : String
  revision : String
  name : String
  source : String
  date : Option String

/-- `Version`. -/
structure Version where
  versionType : String
  value : String

/-- `Identity`; the field defaults are those of `Identity::default`. -/
structure Identity where
  vendorName : String := ""
  vendorId : UInt32 := 0
  vendorText : Option String := none
  deviceFamily : Option String := none
  productFamily : Option String := none
  productName : String := ""
  productId : UInt32 := 0
  productText : Option String := none
  orderNumber : List String := []
  versions : List Version := []
  buildDate : Option String := none
  specificationRevision : Option String := none
  instanceName : Option String := none

/-! ### Device function -/

/-- `Characteristic`. -/
structure Characteristic where
  name : String
  content : List String

/-- `CharacteristicList`. -/
structure CharacteristicList where
  category : Option String
  characteristics : List Characteristic

/-- `StandardCompliance`. -/
structure StandardCompliance where
  name : String
  range : String
  description : Option String

/-- `Capabilities`. -/
structure Capabilities where
  characteristics : List CharacteristicList
  standardCompliance : List StandardCompliance

/-- `Picture`. -/
structure Picture where
  uri : String
  pictureType : String
  number : Option UInt32
  label : Option String
  description : Option String

/-- `Dictionary`. -/
structure Dictionary where
  uri : String
  lang : String
  dictId : String

/-- `Connector`. -/
structure Connector where
  id : String
  connectorType : String
  interfaceIdRef : Option String
  label : Option String
  description : Option String

/-- `Firmware`. -/
structure Firmware where
  uri : String
  deviceRevisionNumber : UInt32
  buildDate : Option String
  label : Option String
  description : Option String

/-- `Classification`. -/
structure Classification where
  value : String

/-- `DeviceFunction`. -/
structure DeviceFunction where
  capabilities : Option Capabilities
  pictures : List Picture
  dictionaries : List Dictionary
  connectors : List Connector
  firmwareList : List Firmware
  classifications : List Classification

/-! ### Modular devices -/

/-- `ObjectPdoMapping`. -/
inductive ObjectPdoMapping where
  | no
  | default
  | optional
  | tpdo
  | rpdo
deriving DecidableEq, Repr

/-- `ConnectedModule`. -/
structure ConnectedModule where
  childIdRef : String
  position : UInt32
  address : Option UInt32

/-- `InterfaceDevice`. -/
structure InterfaceDevice where
  uniqueId : String
  interfaceType : String
  maxModules : UInt32
  moduleAddressing : String
  fileList : List String
  connectedModules : List ConnectedModule

/-- `ModuleInterface`. -/
structure ModuleInterface where
  childId : String
  interfaceType : String
  moduleAddressing : String

/-- `ModuleManagementDevice`. -/
structure ModuleManagementDevice where
  interfaces : List InterfaceDevice
  moduleInterface : Option ModuleInterface

/-- `Range`. -/
structure Range where
  name : String
  baseIndex : UInt16
  maxIndex : Option UInt16
  maxSubIndex : UInt8
  sortMode : String
  sortNumber : String
  sortStep : Option UInt32
  pdoMapping : Option ObjectPdoMapping

/-- `InterfaceComm`. -/
structure InterfaceComm where
  uniqueIdRef : String
  ranges : List Range

/-- `ModuleManagementComm`. -/
structure ModuleManagementComm where
  interfaces : List InterfaceComm

/-! ### Device manager -/

/-- `LEDstate`. -/
structure LEDstate where
  uniqueId : String
  state : String
  color : String
  label : Option String
  description : Option String

/-- `LED`. -/
structure LED where
  label : Option String
  description : Option String
  colors : String
  ledType : Option String
  states : List LEDstate

/-- `CombinedState`. -/
structure CombinedState where
  label : Option String
  description : Option String
  ledStateRefs : List String

/-- `IndicatorList`. -/
structure IndicatorList where
  leds : List LED
  combinedStates : List CombinedState

/-- `DeviceManager`. -/
structure DeviceManager where
  indicatorList : Option IndicatorList
  moduleManagement : Option ModuleManagementDevice

/-! ### Network management -/

/-- `GeneralFeatures`. -/
structure GeneralFeatures where
  dllFeatureMn : Bool
  nmtBootTimeNotActive : UInt32
  nmtCycleTimeMax : UInt32
  nmtCycleTimeMin : UInt32
  nmtErrorEntries : UInt32
  nmtMaxCnNumber : Option UInt8
  pdoDynamicMapping : Option Bool
  sdoClient : Option Bool
  sdoServer : Option Bool
  sdoSupportAsnd : Option Bool
  sdoSupportUdpIp : Option Bool
  nmtIsochronous : Option Bool
  sdoSupportPdo : Option Bool
  nmtExtNmtCmds : Option Bool
  cfmConfigManager : Option Bool
  nmtNodeIdBySw : Option Bool
  sdoCmdReadAllByIndex : Option Bool
  sdoCmdWriteAllByIndex : Option Bool
  sdoCmdReadMultParam : Option Bool
  sdoCmdWriteMultParam : Option Bool
  nmtPublishActiveNodes : Option Bool
  nmtPublishConfigNodes : Option Bool

/-- `MnFeatures`. -/
structure MnFeatures where
  dllMnFeatureMultiplex : Option Bool
  dllMnPresChaining : Option Bool
  nmtSimpleBoot : Bool
  nmtServiceUdpIp : Option Bool
  nmtMnBasicEthernet : Option Bool

/-- `NmtCnDna`. -/
inductive NmtCnDna where
  | doNotClear
  | clearOnPreOp1ToPreOp2
  | clearOnNmtResetNode
deriving DecidableEq, Repr

/-- `CnFeatures`. -/
structure CnFeatures where
  dllCnFeatureMultiplex : Option Bool
  dllCnPresChaining : Option Bool
  nmtCnPreOp2ToReady2Op : Option UInt32
  nmtCnSoc2Preq : UInt32
  nmtCnDna : Option NmtCnDna

/-- `AddInfo`. -/
structure AddInfo where
  name : String
  bitOffset : UInt8
  len : UInt8
  description : Option String

/-- `ErrorDefinition`. -/
structure ErrorDefinition where
  name : String
  value : String
  addInfo : List AddInfo

/-- `StaticErrorBit`. -/
structure StaticErrorBit where
  name : String
  offset : UInt8
  label : Option String
  description : Option String

/-- `Diagnostic`. -/
structure Diagnostic where
  errors : List ErrorDefinition
  staticErrorBitField : Option (List StaticErrorBit)

/-- `NetworkManagement`. -/
structure NetworkManagement where
  generalFeatures : GeneralFeatures
  mnFeatures : Option MnFeatures
  cnFeatures : Option CnFeatures
  diagnostic : Option Diagnostic

/-! ### Application process -/

/-- `ParameterAccess`. -/
inductive ParameterAccess where
  | constant
  | readOnly
  | writeOnly
  | readWrite
  | readWriteInput
  | readWriteOutput
  | noAccess
deriving DecidableEq, Repr

/-- `ParameterSupport`. -/
inductive ParameterSupport where
  | mandatory
  | optional
  | conditional
deriving DecidableEq, Repr

/-- `Value`. -/
structure Value where
  value : String
  label : Option String
  offset : Option String
  multiplier : Option String

/-- `ValueRange`. -/
structure ValueRange where
  minValue : String
  maxValue : String
  step : Option String

/-- `AllowedValues`. -/
structure AllowedValues where
  templateIdRef : Option String
  values : List Value
  ranges : List ValueRange

/-- `StructMember`. -/
structure StructMember where
  name : String
  uniqueId : String
  dataType : String
  size : Option UInt32
  label : Option String
  description : Option String

/-- `AppStruct`. -/
structure AppStruct where
  name : String
  uniqueId : String
  label : Option String
  description : Option String
  members : List StructMember

/-- `AppArray`. -/
structure AppArray where
  name : String
  uniqueId : String
  label : Option String
  description : Option String
  lowerLimit : UInt32
  upperLimit : UInt32
  dataType : String

/-- `EnumValue`. -/
structure EnumValue where
  name : String
  value : String
  label : Option String
  description : Option String

/-- `AppEnum`. -/
structure AppEnum where
  name : String
  uniqueId : String
  label : Option String
  description : Option String
  dataType : String
  sizeInBits : Option UInt32
  values : List EnumValue

/-- `Count`. -/
structure Count where
  uniqueId : String
  access : Option ParameterAccess
  defaultValue : Option String

/-- `AppDerived`. -/
structure AppDerived where
  name : String
  uniqueId : String
  label : Option String
  description : Option String
  dataType : String
  count : Option Count

/-- `AppDataType`. -/
inductive AppDataType where
  | struct (s : AppStruct)
  | array (a : AppArray)
  | enum (e : AppEnum)
  | derived (d : AppDerived)

/-- `ParameterRef`. -/
structure ParameterRef where
  uniqueIdRef : String
  visible : Bool
  locked : Bool
  bitOffset : Option UInt32

mutual
/-- `ParameterGroup`. -/
structure ParameterGroup where
  uniqueId : String
  label : Option String
  description : Option String
  items : List ParameterGroupItem
/-- `ParameterGroupItem`. -/
inductive ParameterGroupItem where
  | group (g : ParameterGroup)
  | parameter (p : ParameterRef)
end

/-- `ParameterDataType`. -/
inductive ParameterDataType where
  | bool
  | bitstring
  | byte
  | char
  | word
  | dword
  | lword
  | sint
  | int
  | dint
  | lint
  | usint
  | uint
  | udint
  | ulint
  | real
  | lreal
  | string
  | wstring
  | dataTypeIDRef (id : String)
  | variableRef

/-- `Parameter`. -/
structure Parameter where
  uniqueId : String
  access : Option ParameterAccess
  support : Option ParameterSupport
  persistent : Bool
  offset : Option String
  multiplier : Option String
  templateIdRef : Option String
  dataType : ParameterDataType
  label : Option String
  description : Option String
  actualValue : Option Value
  defaultValue : Option Value
  allowedValues : Option AllowedValues

/-- `VersionInfo`. -/
structure VersionInfo where
  organization : String
  version : String
  author : String
  date : String
  label : Option String
  description : Option String

/-- `VarDeclaration`. -/
structure VarDeclaration where
  name : String
  uniqueId : String
  dataType : String
  size : Option UInt32
  initialValue : Option String
  label : Option String
  description : Option String

/-- `InterfaceList`. -/
structure InterfaceList where
  inputs : List VarDeclaration
  outputs : List VarDeclaration
  configs : List VarDeclaration

/-- `FunctionType`. -/
structure FunctionType where
  name : String
  uniqueId : String
  package : Option String
  label : Option String
  description : Option String
  versionInfo : List VersionInfo
  interface : InterfaceList

/-- `FunctionInstance`. -/
structure FunctionInstance where
  name : String
  uniqueId : String
  typeIdRef : String
  label : Option String
  description : Option String

/-- `ApplicationProcess`. -/
structure ApplicationProcess where
  dataTypes : List AppDataType
  templates : List Parameter
  parameters : List Parameter
  parameterGroups : List ParameterGroup
  functionTypes : List FunctionType
  functionInstances : List FunctionInstance

/-! ### Object dictionary -/

/-- What `Object` and `SubObject` have in common. -/
structure Attributes where
  name : String
  objectType : String
  dataType : Option String
  lowLimit : Option String
  highLimit : Option String
  accessType : Option ParameterAccess
  pdoMapping : Option ObjectPdoMapping
  objFlags : Option String
  support : Option ParameterSupport
  persistent : Bool
  allowedValues : Option AllowedValues
  data : Option String

/-- `SubObject`. -/
structure SubObject extends Attributes where
  subIndex : UInt8

/-- `Object`. -/
structure Object extends Attributes where
  index : UInt16
  subObjects : List SubObject

/-- `ObjectDictionary`. -/
structure ObjectDictionary where
  objects : List Object

/-- `XdcFile`. -/
structure XdcFile where
  header : ProfileHeader
  identity : Identity
  deviceFunction : List DeviceFunction
  deviceManager : Option DeviceManager
  networkManagement : Option NetworkManagement
  applicationProcess : Option ApplicationProcess
  objectDictionary : ObjectDictionary
  moduleManagementComm : Option ModuleManagementComm

end Types

end PowerlinkXdc
