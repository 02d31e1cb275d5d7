import Powerlink.Types

/-! # NMT states, events and commands

The enumerations of `nmt/states.rs` and `nmt/events.rs`.  A state is compared through its code:
the source derives the order of `NmtState` from the discriminants, which are the octets of the
states on the wire. -/

namespace Powerlink

/-- `NmtState`. -/
inductive NmtState where
  | nmtGsOff
  | nmtGsInitialising
  | nmtGsResetApplication
  | nmtGsResetCommunication
  | nmtGsResetConfiguration
  | nmtNotActive
  | nmtPreOperational1
  | nmtPreOperational2
  | nmtReadyToOperate
  | nmtOperational
  | nmtCsStopped
  | nmtBasicEthernet
deriving DecidableEq, Repr

namespace NmtState

/-- `NmtState as u8`. -/
def toByte : NmtState → UInt8
  | nmtGsOff => 0x00
  | nmtGsInitialising => 0x19
  | nmtGsResetApplication => 0x29
  | nmtGsResetCommunication => 0x39
  | nmtGsResetConfiguration => 0x79
  | nmtNotActive => 0x1C
  | nmtPreOperational1 => 0x1D
  | nmtPreOperational2 => 0x5D
  | nmtReadyToOperate => 0x6D
  | nmtOperational => 0xFD
  | nmtCsStopped => 0x4D
  | nmtBasicEthernet => 0x1E

/-- `NmtState::try_from`. -/
def tryFrom (value : UInt8) : Except PowerlinkError NmtState :=
  if value = 0x00 then .ok nmtGsOff
  else if value = 0x19 then .ok nmtGsInitialising
  else if value = 0x29 then .ok nmtGsResetApplication
  else if value = 0x39 then .ok nmtGsResetCommunication
  else if value = 0x79 then .ok nmtGsResetConfiguration
  else if value = 0x1C then .ok nmtNotActive
  else if value = 0x1D then .ok nmtPreOperational1
  else if value = 0x5D then .ok nmtPreOperational2
  else if value = 0x6D then .ok nmtReadyToOperate
  else if value = 0xFD then .ok nmtOperational
  else if value = 0x4D then .ok nmtCsStopped
  else if value = 0x1E then .ok nmtBasicEthernet
  else .error (.invalidNmtState value)

/-- The derived order of `NmtState`. -/
instance : LE NmtState := ⟨fun a b => a.toByte ≤ b.toByte⟩

instance : LT NmtState := ⟨fun a b => a.toByte < b.toByte⟩

instance (a b : NmtState) : Decidable (a ≤ b) :=
  inferInstanceAs (Decidable (a.toByte ≤ b.toByte))

instance (a b : NmtState) : Decidable (a < b) :=
  inferInstanceAs (Decidable (a.toByte < b.toByte))

end NmtState

/-- `NmtEvent`. -/
inductive NmtEvent where
  | startNode
  | stopNode
  | enterPreOperational2
  | enableReadyToOperate
  | reset
  | swReset
  | resetNode
  | resetCommunication
  | resetConfiguration
  | enterEplMode
  | timeout
  | error
  | socSoAReceived
  | socReceived
  | powerlinkFrameReceived
  | cnConfigurationComplete
  | allCnsIdentified
  | configurationCompleteCnsReady
  | allMandatoryCnsOperational
deriving DecidableEq, Repr

/-- `NmtStateCommand`. -/
inductive NmtStateCommand where
  | startNode
  | stopNode
  | enterPreOperational2
  | enableReadyToOperate
  | resetNode
  | resetCommunication
  | resetConfiguration
  | swReset
deriving DecidableEq, Repr

/-- `NmtStateCommand as u8`. -/
def NmtStateCommand.toByte : NmtStateCommand → UInt8
  | startNode => 0x21
  | stopNode => 0x22
  | enterPreOperational2 => 0x23
  | enableReadyToOperate => 0x24
  | resetNode => 0x28
  | resetCommunication => 0x29
  | resetConfiguration => 0x2A
  | swReset => 0x2B

/-- `NmtStateCommand::try_from`. -/
def NmtStateCommand.tryFrom (value : UInt8) : Except PowerlinkError NmtStateCommand :=
  if value = 0x21 then .ok startNode
  else if value = 0x22 then .ok stopNode
  else if value = 0x23 then .ok enterPreOperational2
  else if value = 0x24 then .ok enableReadyToOperate
  else if value = 0x28 then .ok resetNode
  else if value = 0x29 then .ok resetCommunication
  else if value = 0x2A then .ok resetConfiguration
  else if value = 0x2B then .ok swReset
  else .error .invalidEnumValue

/-- `NmtManagingCommand`. -/
inductive NmtManagingCommand where
  | nmtNetHostNameSet
  | nmtFlushArpEntry
deriving DecidableEq, Repr

/-- `NmtManagingCommand as u8`. -/
def NmtManagingCommand.toByte : NmtManagingCommand → UInt8
  | nmtNetHostNameSet => 0x62
  | nmtFlushArpEntry => 0x63

/-- `NmtManagingCommand::try_from`. -/
def NmtManagingCommand.tryFrom (value : UInt8) : Except PowerlinkError NmtManagingCommand :=
  if value = 0x62 then .ok nmtNetHostNameSet
  else if value = 0x63 then .ok nmtFlushArpEntry
  else .error .invalidEnumValue

/-- `NmtServiceRequest`. -/
inductive NmtServiceRequest where
  | identRequest
  | statusRequest
deriving DecidableEq, Repr

/-- `CnNmtRequest`. -/
inductive CnNmtRequest where
  | command (command : NmtStateCommand)
  | service (service : NmtServiceRequest)
deriving DecidableEq, Repr

/-- `CnNmtRequest::as_u8`. -/
def CnNmtRequest.asU8 : CnNmtRequest → UInt8
  | command cmd => cmd.toByte
  | service .identRequest => 0x01
  | service .statusRequest => 0x02

/-- `MnNmtCommandRequest`. -/
inductive MnNmtCommandRequest where
  | state (command : NmtStateCommand)
  | managing (command : NmtManagingCommand)
deriving DecidableEq, Repr

/-- `MnNmtCommandRequest::as_u8`. -/
def MnNmtCommandRequest.asU8 : MnNmtCommandRequest → UInt8
  | state command => command.toByte
  | managing command => command.toByte

end Powerlink
