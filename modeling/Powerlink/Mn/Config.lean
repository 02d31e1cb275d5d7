import Powerlink.Mn.State
import Powerlink.Od.Defaults

/-! # Creation of a managing node

The model of `node/mn/config.rs`, which reads the node lists from the dictionary, and of
`ManagingNode::new`.  The sub-index of an array element is computed in `u8` (`i as u8 + 1`) and
wraps here, as in a build without overflow checks. -/

namespace Powerlink

variable {σ : Type}

/-- The lists that `parse_mn_node_lists` returns. -/
structure NodeLists where
  nodeInfo : NodeTable := .empty
  mandatoryNodes : List NodeId := []
  isochronousNodes : List NodeId := []
  asyncOnlyNodes : List NodeId := []
  multiplexAssign : SortedMap NodeId UInt8 := .empty

/-- Bit `bit` of a node assignment. -/
def assignmentBit (assignment bit : UInt32) : Bool := decide (assignment &&& (1 <<< bit) ≠ 0)

/-- The effect of one assignment on the node lists. -/
def NodeLists.add (lists : NodeLists) (od : ObjectDictionary σ) (subIndex : UInt8)
    (entry : ObjectValue) : NodeLists :=
  match entry with
  | .unsigned32 assignment =>
      if !assignmentBit assignment 0 then lists
      else match NodeId.tryFrom subIndex with
        | .error _ => lists
        | .ok nodeId =>
            let lists := { lists with
              nodeInfo := lists.nodeInfo.insert nodeId {}
              mandatoryNodes := if assignmentBit assignment 3
                then lists.mandatoryNodes ++ [nodeId] else lists.mandatoryNodes }
            if !assignmentBit assignment 8 then
              { lists with
                isochronousNodes := lists.isochronousNodes ++ [nodeId]
                multiplexAssign :=
                  lists.multiplexAssign.insert nodeId ((od.readU8 0x1F9B nodeId.id).getD 0) }
            else { lists with asyncOnlyNodes := lists.asyncOnlyNodes ++ [nodeId] }
  | _ => lists

/-- `parse_mn_node_lists`. -/
def parseMnNodeLists (od : ObjectDictionary σ) : Except PowerlinkError NodeLists :=
  match od.readObject 0x1F81 with
  | some (.array entries) =>
      .ok (entries.zipIdx.foldl
        (fun lists p => lists.add od (UInt8.ofNat p.2 + 1) p.1) {})
  | _ => .error (.validationError "Missing 0x1F81 NMT_NodeAssignment_AU32")

/-- `parse_publish_config`. -/
def parsePublishConfig (od : ObjectDictionary σ) : SortedMap UInt8 ServiceId :=
  match od.readObject 0x1F9E with
  | some (.array entries) =>
      entries.foldl (fun config entry =>
        match entry with
        | .unsigned32 value =>
            let serviceIdByte := (value &&& 0xFF).toUInt8
            let cycleNum := ((value >>> 8) &&& 0xFF).toUInt8
            if 0 < cycleNum ∧ 0 < serviceIdByte then
              match ServiceId.tryFrom serviceIdByte with
              | .ok serviceId => config.insert cycleNum serviceId
              | .error _ => config
            else config
        | _ => config) .empty
  | _ => .empty

/-- The context of a new node. -/
def MnContext.initial (od : ObjectDictionary σ) (macAddress : MacAddress)
    (configurationInterface : Option ConfigurationInterface)
    (nmtStateMachine : MnNmtStateMachine) (cycleTimeUs : ℕ) (lists : NodeLists)
    (publishConfig : SortedMap UInt8 ServiceId) : MnContext σ where
  core :=
    { od := od
      macAddress := macAddress
      sdoServer := .new
      embeddedSdoServer := .new
      embeddedSdoClient := .new }
  configurationInterface := configurationInterface
  nmtStateMachine := nmtStateMachine
  dllStateMachine := .new
  dllErrorManager := {}
  cycleTimeUs := cycleTimeUs
  multiplexCycleLen := 8
  multiplexAssign := lists.multiplexAssign
  publishConfig := publishConfig
  currentMultiplexCycle := 0
  nodeInfo := lists.nodeInfo
  mandatoryNodes := lists.mandatoryNodes
  isochronousNodes := lists.isochronousNodes
  asyncOnlyNodes := lists.asyncOnlyNodes
  arpCache := .empty
  nextIsochNodeIdx := 0
  currentPhase := .idle
  currentPolledCn := none
  asyncRequestQueue := []
  pendingErRequests := []
  pendingStatusRequests := []
  pendingNmtCommands := []
  mnAsyncSendQueue := []
  sdoClientManager := .new
  lastIdentPollNodeId := ⟨0⟩
  lastStatusPollNodeId := ⟨0⟩
  nextTickUs := none
  pendingTimeoutEvent := none
  currentCycleStartTimeUs := 0
  initialOperationalActionsDone := false
  history := []

/-- `NMT_CycleLen_U32`, which is mandatory. -/
def readCycleTime (od : ObjectDictionary σ) : Except PowerlinkError ℕ :=
  match od.readU32 0x1006 0 with
  | some v => .ok v.toNat
  | none => .error (.validationError "Failed to read 0x1006 NMT_CycleLen_U32")

/-- `ManagingNode::new`; the node starts up in `NmtNotActive`. -/
def ManagingNode.new [ObjectDictionaryStorage σ] (od : ObjectDictionary σ)
    (macAddress : MacAddress) (configurationInterface : Option ConfigurationInterface) :
    Except PowerlinkError (MnContext σ) := do
  let (result, od) := od.init
  let _ ← result
  od.validateMandatoryObjects
  let nmtStateMachine ← MnNmtStateMachine.fromOd od
  let cycleTimeUs ← readCycleTime od
  let lists ← parseMnNodeLists od
  let r := nmtStateMachine.runInternalInitialisation od
  .ok (.initial r.2 macAddress configurationInterface r.1 cycleTimeUs lists
    (parsePublishConfig od))

/-! ### The new node -/

/-- Every listed node starts with the values of `CnInfo::default`. -/
def NodeLists.Fresh (lists : NodeLists) : Prop :=
  ∀ nodeId info, lists.nodeInfo.get? nodeId = some info → info = {}

theorem NodeLists.Fresh.add {lists : NodeLists} (h : lists.Fresh) (od : ObjectDictionary σ)
    (subIndex : UInt8) (entry : ObjectValue) : (lists.add od subIndex entry).Fresh := by
  have hinsert : ∀ (added nodeId : NodeId) (info : CnInfo),
      (lists.nodeInfo.insert added {}).get? nodeId = some info → info = {} := by
    intro added nodeId info hget
    rw [SortedMap.get?_insert] at hget
    split_ifs at hget
    · exact (Option.some.inj hget).symm
    · exact h nodeId info hget
  unfold NodeLists.add
  split
  · split
    · exact h
    · split
      · exact h
      · dsimp only
        split
        · exact hinsert _
        · exact hinsert _
  · exact h

theorem fresh_parseMnNodeLists {od : ObjectDictionary σ} {lists : NodeLists}
    (h : parseMnNodeLists od = .ok lists) : lists.Fresh := by
  have hfold : ∀ (entries : List (ObjectValue × ℕ)) (start : NodeLists), start.Fresh →
      (entries.foldl (fun lists p => lists.add od (UInt8.ofNat p.2 + 1) p.1) start).Fresh := by
    intro entries
    induction entries with
    | nil => exact fun start hstart => hstart
    | cons p entries ih => exact fun start hstart => ih _ (hstart.add od _ _)
  unfold parseMnNodeLists at h
  split at h
  · obtain rfl := Except.ok.inj h
    exact hfold _ _ (fun nodeId info hget => nomatch hget)
  · cases h

theorem fromOd_currentState {od : ObjectDictionary σ} {machine : MnNmtStateMachine}
    (h : MnNmtStateMachine.fromOd od = .ok machine) :
    machine.currentState = .nmtGsInitialising := by
  unfold MnNmtStateMachine.fromOd at h
  obtain ⟨_, -, h⟩ := bind_eq_ok_iff.mp h
  obtain ⟨_, -, h⟩ := bind_eq_ok_iff.mp h
  obtain ⟨_, -, h⟩ := bind_eq_ok_iff.mp h
  rw [← Except.ok.inj h]

/-- A new node is inactive and knows nothing of its nodes. -/
theorem ManagingNode.new_eq [ObjectDictionaryStorage σ] {od : ObjectDictionary σ}
    {mac : MacAddress} {cfg : Option ConfigurationInterface} {c : MnContext σ}
    (h : ManagingNode.new od mac cfg = .ok c) :
    ∃ od' machine cycleTimeUs lists publish, machine.currentState = .nmtNotActive ∧
      lists.Fresh ∧ c = .initial od' mac cfg machine cycleTimeUs lists publish := by
  dsimp only [ManagingNode.new] at h
  obtain ⟨-, -, h⟩ := bind_eq_ok_iff.mp h
  obtain ⟨-, -, h⟩ := bind_eq_ok_iff.mp h
  obtain ⟨machine, hmachine, h⟩ := bind_eq_ok_iff.mp h
  obtain ⟨cycleTimeUs, -, h⟩ := bind_eq_ok_iff.mp h
  obtain ⟨lists, hlists, h⟩ := bind_eq_ok_iff.mp h
  obtain rfl := Except.ok.inj h
  refine ⟨_, _, _, _, _, ?_, fresh_parseMnNodeLists hlists, rfl⟩
  rw [MnNmtStateMachine.runInternalInitialisation_machine _ (fromOd_currentState hmachine)]

/-- Assignments without the existence bit list nothing. -/
theorem NodeLists.foldl_add_zeros (lists : NodeLists) (od : ObjectDictionary σ) (n start : ℕ) :
    ((List.replicate n (.unsigned32 0 : ObjectValue)).zipIdx start).foldl
      (fun lists p => lists.add od (UInt8.ofNat p.2 + 1) p.1) lists = lists := by
  induction n generalizing start with
  | zero => rfl
  | succ n ih => exact ih (start + 1)

/-- A managing node is created from the default dictionary, and it has no controlled node. -/
theorem ManagingNode.exists_new_newMnDefault [ObjectDictionaryStorage σ] (nodeId : NodeId)
    (mac : MacAddress) (cfg : Option ConfigurationInterface) :
    ∃ od machine publish,
      ManagingNode.new (ObjectDictionary.newMnDefault nodeId : ObjectDictionary σ) mac cfg =
        .ok (.initial od mac cfg machine 20000 {} publish) := by
  have hentries : ∀ index entry,
      ((ObjectDictionary.cnDefaultObjects nodeId ++ ObjectDictionary.diagnosticObjects ++
        ObjectDictionary.mnDefaultObjects).reverse.find? (fun p => decide (p.1 = index))).map
          Prod.snd = some entry →
      (ObjectDictionary.newMnDefault nodeId : ObjectDictionary σ).populateProtocolObjects.entries.get?
        index = some entry := by
    intro index entry hentry
    apply (ObjectDictionary.newMnDefault nodeId).populateProtocolObjects_spec.2
    rwa [ObjectDictionary.get?_newMnDefault]
  dsimp only [ManagingNode.new]
  rw [ObjectDictionary.init_of_storage_none rfl]
  generalize (ObjectDictionary.newMnDefault nodeId : ObjectDictionary σ).populateProtocolObjects = d
    at hentries
  have hdevice := hentries 0x1000 _ rfl
  have hidentity := hentries 0x1018 _ rfl
  have hflags := hentries 0x1F82 _ rfl
  have hcycle := hentries 0x1006 _ rfl
  have hassignments := hentries 0x1F81 _ rfl
  have hboot := hentries 0x1F89 _ rfl
  have hstartUp := hentries 0x1F80 _ rfl
  have hvalid : d.validateMandatoryObjects = .ok () := by
    unfold ObjectDictionary.validateMandatoryObjects
    simp only [List.any_cons, List.any_nil, hdevice, hidentity, hflags, hcycle, hassignments, hboot]
    rfl
  have hmachine : MnNmtStateMachine.fromOd d = .ok ⟨.nmtGsInitialising, ⟨240⟩,
      (FeatureFlags.isochronous.bitor .sdoAsnd).bits, 1000000, 0⟩ := by
    unfold MnNmtStateMachine.fromOd MnNmtStateMachine.readMandatory ObjectDictionary.read
    rw [hflags, hboot, hstartUp]
    rfl
  have hlength : readCycleTime d = .ok 20000 := by
    unfold readCycleTime ObjectDictionary.readU32 ObjectDictionary.read
    rw [hcycle]
    rfl
  have hlists : parseMnNodeLists d = .ok {} := by
    unfold parseMnNodeLists ObjectDictionary.readObject
    rw [hassignments]
    exact congrArg Except.ok (NodeLists.foldl_add_zeros {} d 254 0)
  rw [hvalid, hmachine, hlength, hlists]
  exact ⟨_, _, _, rfl⟩

/-- A dictionary without storage for a managing node with a cycle of 1 ms, the given start-up
flags and the assignments of the nodes from 1 on. -/
def mnDictionary (startup : UInt32) (assignments : List UInt32) : ObjectDictionary Empty where
  entries := SortedMap.empty
    |>.insert 0x1000 ⟨.variable (.unsigned32 0), "NMT_DeviceType_U32", none, none⟩
    |>.insert 0x1006 ⟨.variable (.unsigned32 1000), "NMT_CycleLen_U32", none, none⟩
    |>.insert 0x1018 ⟨.record [.unsigned32 0], "NMT_IdentityObject_REC", none, none⟩
    |>.insert 0x1F80 ⟨.variable (.unsigned32 startup), "NMT_StartUp_U32", none, none⟩
    |>.insert 0x1F81
      ⟨.array (assignments.map .unsigned32), "NMT_NodeAssignment_AU32", none, none⟩
    |>.insert 0x1F82 ⟨.variable (.unsigned32 0), "NMT_FeatureFlags_U32", none, none⟩
    |>.insert 0x1F89 ⟨.record [.unsigned32 10], "NMT_BootTime_REC", none, none⟩
  storage := none

/-- The managing node of that dictionary, before its first cycle. -/
def startedNode (startup : UInt32) (assignments : List UInt32) : Option (MnContext Empty) :=
  (ManagingNode.new (mnDictionary startup assignments) ⟨0, 0, 0, 0, 0, 240⟩ none).toOption

end Powerlink
