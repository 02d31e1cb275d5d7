import Powerlink.Mn.State

/-! # Identification and boot-up checks

The model of `node/mn/validation.rs`: the checks on an IdentResponse (`CHECK_IDENTIFICATION`,
`CHECK_SOFTWARE` and `CHECK_CONFIGURATION`, of which the last may start a configuration download)
and the three conditions on the mandatory nodes that the boot-up waits for. -/

namespace Powerlink

/-- The identity that an IdentResponse shows. -/
def IdentResponsePayload.identity (p : IdentResponsePayload) : CnIdentity :=
  ⟨p.deviceType, p.vendorId, p.productCode, p.revisionNumber, p.serialNumber⟩

namespace MnContext

variable {σ : Type} (c : MnContext σ)

/-- An expected value of a node from a list of the dictionary, `0` if there is none. -/
def expected (index : UInt16) (nodeId : NodeId) : UInt32 :=
  (c.core.od.readU32 index nodeId.id).getD 0

/-- A bit of `NMT_StartUp_U32` as read from the dictionary. -/
def startupOdBit (bit : UInt32) : Bool :=
  decide ((c.core.od.readU32 0x1F80 0).getD 0 &&& (1 <<< bit) ≠ 0)

/-- An identity value differs from the expected one, where one is expected. -/
def mismatch (index : UInt16) (nodeId : NodeId) (received : UInt32) : Bool :=
  decide (c.expected index nodeId ≠ 0) && decide (received ≠ c.expected index nodeId)

/-- `CHECK_IDENTIFICATION`. -/
def checkIdentification (nodeId : NodeId) (payload : IdentResponsePayload) : Bool :=
  !c.mismatch 0x1F84 nodeId payload.deviceType && !c.mismatch 0x1F85 nodeId payload.vendorId &&
    !c.mismatch 0x1F86 nodeId payload.productCode &&
    !c.mismatch 0x1F87 nodeId payload.revisionNumber

/-- Whether `CHECK_SOFTWARE` asks for an update. -/
def swUpdateRequired (nodeId : NodeId) (payload : IdentResponsePayload) : Bool :=
  match c.configurationInterface with
  | some cfgIf => cfgIf.isSoftwareUpdateRequired nodeId.id payload.appSwDate payload.appSwTime
  | none =>
      decide (c.expected 0x1F53 nodeId ≠ 0) &&
        (decide (payload.appSwDate ≠ c.expected 0x1F53 nodeId) ||
          decide (payload.appSwTime ≠ c.expected 0x1F54 nodeId))

/-- Whether `CHECK_CONFIGURATION` finds another configuration than the expected one. -/
def configMismatch (nodeId : NodeId) (payload : IdentResponsePayload) : Bool :=
  decide (c.expected 0x1F26 nodeId ≠ 0) &&
    (decide (payload.verifyConfDate ≠ c.expected 0x1F26 nodeId) ||
      decide (payload.verifyConfTime ≠ c.expected 0x1F27 nodeId))

/-- The remediation of a configuration mismatch: the download of the configuration that the
application provides. -/
def startDownload (nodeId : NodeId) (currentTimeUs : ℕ) : MnContext σ :=
  match c.configurationInterface with
  | none => c
  | some cfgIf =>
      match cfgIf.getConfiguration nodeId.id with
      | .error _ => c
      | .ok conciseDcf =>
          match c.sdoClientManager.startConfigurationDownload nodeId conciseDcf currentTimeUs
              c.core.od with
          | (.error _, manager) => { c with sdoClientManager := manager }
          | (.ok (), manager) =>
              { c with
                sdoClientManager := manager
                nodeInfo := c.nodeInfo.modify nodeId
                  (fun info => { info with sdoState := .inProgress }) }

/-- `validate_boot_step1_checks`. -/
def validateBootStep1Checks (nodeId : NodeId) (payload : IdentResponsePayload)
    (currentTimeUs : ℕ) : Bool × MnContext σ :=
  if !c.checkIdentification nodeId payload then (false, c)
  else if c.startupOdBit 10 && c.swUpdateRequired nodeId payload then (false, c)
  else if c.startupOdBit 11 && c.configMismatch nodeId payload then
    (false, c.startDownload nodeId currentTimeUs)
  else (true, c)

/-! ### What the checks depend on -/

theorem validateBootStep1Checks_fst (nodeId : NodeId) (payload : IdentResponsePayload) (t : ℕ) :
    (c.validateBootStep1Checks nodeId payload t).1 =
      (c.checkIdentification nodeId payload &&
        !(c.startupOdBit 10 && c.swUpdateRequired nodeId payload) &&
        !(c.startupOdBit 11 && c.configMismatch nodeId payload)) := by
  unfold validateBootStep1Checks
  cases c.checkIdentification nodeId payload with
  | false => rfl
  | true =>
      cases c.startupOdBit 10 && c.swUpdateRequired nodeId payload with
      | true => rfl
      | false =>
          cases c.startupOdBit 11 && c.configMismatch nodeId payload with
          | true => rfl
          | false => rfl

theorem expected_count (subIndex : UInt8) {index : UInt16} (h : index ≠ 0x1101)
    (nodeId : NodeId) : (c.count subIndex).expected index nodeId = c.expected index nodeId := by
  show ((c.core.od.incrementCounter 0x1101 subIndex).readU32 index nodeId.id).getD 0 = _
  unfold ObjectDictionary.readU32
  rw [ObjectDictionary.read_incrementCounter _ h]
  rfl

theorem startupOdBit_count (subIndex : UInt8) (bit : UInt32) :
    (c.count subIndex).startupOdBit bit = c.startupOdBit bit := by
  have h := c.expected_count subIndex (show (0x1F80 : UInt16) ≠ 0x1101 by decide) ⟨0⟩
  unfold expected at h
  unfold startupOdBit
  rw [h]

/-- A telegram counter does not matter for the checks. -/
theorem validateBootStep1Checks_count (subIndex : UInt8) (nodeId : NodeId)
    (payload : IdentResponsePayload) (t : ℕ) :
    ((c.count subIndex).validateBootStep1Checks nodeId payload t).1 =
      (c.validateBootStep1Checks nodeId payload t).1 := by
  rw [validateBootStep1Checks_fst, validateBootStep1Checks_fst, startupOdBit_count,
    startupOdBit_count]
  unfold checkIdentification swUpdateRequired configMismatch mismatch
  simp (disch := decide) only [expected_count]
  rfl

end MnContext

/-! ### The conditions of the boot-up -/

/-- `check_all_mandatory_identified`. -/
def checkAllMandatoryIdentified (mandatoryNodes : List NodeId) (nodeInfo : NodeTable) : Bool :=
  mandatoryNodes.all (fun nodeId =>
    decide (.identified ≤ nodeInfo.state nodeId) && decide (nodeInfo.state nodeId ≤ .operational))

/-- `check_all_mandatory_preop`. -/
def checkAllMandatoryPreop (mandatoryNodes : List NodeId) (nodeInfo : NodeTable) : Bool :=
  mandatoryNodes.all (fun nodeId =>
    decide (.preOperational ≤ nodeInfo.state nodeId) &&
      decide (nodeInfo.state nodeId ≤ .operational))

/-- `check_all_mandatory_comm_verified`. -/
def checkAllMandatoryCommVerified (mandatoryNodes : List NodeId) (nodeInfo : NodeTable) : Bool :=
  mandatoryNodes.all (fun nodeId =>
    match nodeInfo.get? nodeId with
    | some info => info.communicationOk
    | none => false)

end Powerlink
