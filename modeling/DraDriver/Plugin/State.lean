/-
**The device state: what is allocatable, and how a claim is prepared and released.**

`prepare`, `unprepare` and `newDeviceState` are the driver's functions as programs over the disk:
each operation on the checkpoint or the CDI root is one call, in the order of the source. Config
handlers are arbitrary; two `range` loops over one map may visit it in different orders.
-/

import DraDriver.Plugin.Cdi
import DraDriver.Tenstorrent.Apply

namespace DraDriver.Plugin

open DraDriver.Base DraDriver.Profiles DraDriver.Tenstorrent

/-! ### The state -/

/-- A map of device name to its descriptor. -/
abbrev AllocatableDevices := GoMap String Device

/-- Later devices of a name replace earlier ones. -/
def allocatableFrom (driverResources : DriverResources) (nodeName : String) : AllocatableDevices :=
  (poolOf driverResources nodeName).slices.foldl (fun allocatable slice =>
    slice.devices.foldl (fun allocatable device => allocatable.insert device.name device) allocatable) ∅

/-- `resourceapi.DeviceAllocationConfiguration` sources. -/
inductive ConfigSource
  | fromClass
  | fromClaim
  | invalid (text : String)
  deriving DecidableEq, Repr

/-- `resourceapi.OpaqueDeviceConfiguration`. -/
structure OpaqueConfiguration where
  driver : String
  parameters : String
  deriving DecidableEq, Repr

/-- `resourceapi.DeviceAllocationConfiguration`. -/
structure DeviceAllocationConfiguration where
  source : ConfigSource
  requests : List String
  opaqueConfig : Option OpaqueConfiguration
  deriving DecidableEq, Repr

/-- The devices part of a claim's allocation. -/
structure Allocation where
  config : List DeviceAllocationConfiguration
  results : List DeviceRequestAllocationResult
  deriving DecidableEq, Repr

/-- `resourceapi.ResourceClaim`, with the fields the driver reads. -/
structure ResourceClaim where
  uid : ClaimUID
  allocation : Option Allocation
  deriving DecidableEq

/-- A parsed opaque configuration; `none` is the nil object. -/
structure OpaqueDeviceConfig (Config : Type) where
  requests : List String
  config : Option Config

/-- `DeviceState`, with the checkpoint manager's files on the disk. -/
structure DeviceState (Config : Type) where
  driverName : String
  nodeName : String
  cdi : CDIHandler
  driverResources : DriverResources
  allocatable : AllocatableDevices
  configDecoder : String → Except String Config
  configHandler : ConfigHandler Config

variable {Config : Type}

/-- `%v` of a list of names. -/
def nameList (names : List String) : String := "[" ++ " ".intercalate names ++ "]"

/-- What both refusals say the driver knows. -/
def enumerated (allocatable : AllocatableDevices) : String :=
  "(the driver enumerated " ++ decimal allocatable.keys.length ++ " device(s) at startup: " ++
    nameList (sortedKeys id allocatable) ++ ")"

/-! ### Opaque configs -/

/-- The two precedence classes; any other source is an error. -/
def splitConfigs (possibleConfigs : List DeviceAllocationConfiguration) :
    Except String (List DeviceAllocationConfiguration × List DeviceAllocationConfiguration) :=
  possibleConfigs.foldlM (fun (classConfigs, claimConfigs) config =>
    match config.source with
    | .fromClass => .ok (classConfigs ++ [config], claimConfigs)
    | .fromClaim => .ok (classConfigs, claimConfigs ++ [config])
    | .invalid text => .error ("invalid config source: " ++ text)) ([], [])

/-- One turn of the decoding loop: a config of another driver is passed over. -/
def decodeStep (decoder : String → Except String Config) (driverName : String)
    (resultConfigs : List (OpaqueDeviceConfig Config)) (config : DeviceAllocationConfiguration) :
    Except String (List (OpaqueDeviceConfig Config)) :=
  match config.opaqueConfig with
  | none => .error "only opaque parameters are supported by this driver"
  | some opaqueConfig =>
    if opaqueConfig.driver ≠ driverName then .ok resultConfigs
    else match decoder opaqueConfig.parameters with
      | .error e => .error ("error decoding config parameters: " ++ e)
      | .ok decoded =>
        .ok (resultConfigs ++ [{ requests := config.requests, config := some decoded }])

/-- `GetOpaqueDeviceConfigs`: the driver's configs in order of increasing precedence. -/
def getOpaqueDeviceConfigs (decoder : String → Except String Config) (driverName : String)
    (possibleConfigs : List DeviceAllocationConfiguration) :
    Except String (List (OpaqueDeviceConfig Config)) := do
  let (classConfigs, claimConfigs) ← splitConfigs possibleConfigs
  (classConfigs ++ claimConfigs).foldlM (decodeStep decoder driverName) []

/-! ### Preparing devices -/

/-- The claim was granted admin access to any of its devices. -/
def checkAdminAccess (allocation : Allocation) : Bool :=
  allocation.results.any fun result => result.adminAccess = some true

/-- The results of each config, by the config's place: every decoded config is an object of its
own, and place 0 is the nil config. -/
abbrev ConfigResultsMap := GoMap ℕ (List DeviceRequestAllocationResult)

/-- The last config that applies to a request. -/
def configFor (configs : List (OpaqueDeviceConfig Config)) (request : String) : Option ℕ :=
  ((configs.zipIdx.filter fun (config, _) =>
    config.requests.length = 0 ∨ request ∈ config.requests).map Prod.snd).getLast?

/-- One result of the lookup loop. -/
def DeviceState.sortResult (s : DeviceState Config) (configs : List (OpaqueDeviceConfig Config))
    (table : ConfigResultsMap) (result : DeviceRequestAllocationResult) :
    Except String ConfigResultsMap :=
  if result.driver ≠ s.driverName then .ok table
  else if result.device ∉ s.allocatable then
    .error ("requested device is not allocatable: " ++ result.device ++ " " ++ enumerated s.allocatable)
  else match configFor configs result.request with
    | none => .ok table
    | some place => .ok (table.insert place ((table.lookup place).getD [] ++ [result]))

/-- A call of `ApplyConfig`: the config and the results it is handed. -/
abbrev ApplyCall (Config : Type) := Option Config × List DeviceRequestAllocationResult

/-- Code that may call `ApplyConfig`: it returns or fails, and the calls it made stay on record
either way. -/
abbrev Calling (Config : Type) := ExceptT String (StateM (List (ApplyCall Config)))

/-- `ApplyConfig`. `prepareDevices` reaches the config handler through this alone, so that no call
goes unrecorded. -/
def DeviceState.applyConfig (s : DeviceState Config) (call : ApplyCall Config) :
    Calling Config PerDeviceCDIContainerEdits :=
  fun calls => (s.configHandler.applyConfig call.1 call.2, calls ++ [call])

/-- `for k, v := range containerEdits { perDeviceCDIContainerEdits[k] = v }`. -/
def copyEdits (edits containerEdits : PerDeviceCDIContainerEdits) : PerDeviceCDIContainerEdits :=
  containerEdits.entries.foldl (fun edits entry => edits.insert entry.1 entry.2) edits

/-- The config and the results of an entry of `configResultsMap`. -/
def callOf (configs : List (OpaqueDeviceConfig Config))
    (entry : ℕ × List DeviceRequestAllocationResult) : ApplyCall Config :=
  (configs[entry.1]?.bind OpaqueDeviceConfig.config, entry.2)

/-- One turn of the loop over `configResultsMap`: apply the config to its results and merge the edits
it produced. -/
def DeviceState.mergeEdits (s : DeviceState Config) (configs : List (OpaqueDeviceConfig Config))
    (edits : PerDeviceCDIContainerEdits) (entry : ℕ × List DeviceRequestAllocationResult) :
    Calling Config PerDeviceCDIContainerEdits := do
  let containerEdits ← (s.applyConfig (callOf configs entry)).adapt fun e => "error applying config: " ++ e
  return copyEdits edits containerEdits

/-- The device a result is prepared as, with the edits its name has. -/
def DeviceState.preparedDevice (s : DeviceState Config) (claimUID : ClaimUID)
    (edits : PerDeviceCDIContainerEdits) (hasAdminAccess : Bool)
    (result : DeviceRequestAllocationResult) : PreparedDevice :=
  { device :=
      { requestNames := [result.request]
        poolName := result.pool
        deviceName := result.device
        cdiDeviceIds := s.cdi.getClaimDevices claimUID [result.device] }
    containerEdits := edits.lookup result.device
    adminAccess := hasAdminAccess }

/-- A nil slice until the first device is appended. -/
def appended (devices : List PreparedDevice) : PreparedDevices :=
  if devices.length = 0 then none else some devices

/-- The body of `prepareDevices`, with the calls of `ApplyConfig` it makes. -/
def DeviceState.prepareCalling (rt rt' : Runtime) (s : DeviceState Config) (claim : ResourceClaim) :
    Calling Config PreparedDevices := do
  match claim.allocation with
  | none => throw "claim not yet allocated"
  | some allocation =>
    let hasAdminAccess := checkAdminAccess allocation
    match getOpaqueDeviceConfigs s.configDecoder s.driverName allocation.config with
    | .error e => throw ("error getting opaque device configs: " ++ e)
    | .ok configs =>
      let configs := { requests := [], config := none } :: configs
      let table ← MonadExcept.ofExcept (allocation.results.foldlM (s.sortResult configs) ∅)
      let edits ← (rt.range table).foldlM (s.mergeEdits configs) ∅
      return appended ((rt'.range table).flatMap fun entry =>
        entry.2.map (s.preparedDevice claim.uid edits hasAdminAccess))

/-- What `prepareDevices` returns. -/
def DeviceState.prepareDevices (rt rt' : Runtime) (s : DeviceState Config) (claim : ResourceClaim) :
    Except String PreparedDevices :=
  (s.prepareCalling rt rt' claim []).1

/-- **The calls of `ApplyConfig` that `prepareDevices` makes**, in order. -/
def DeviceState.applyCalls (rt rt' : Runtime) (s : DeviceState Config) (claim : ResourceClaim) :
    List (ApplyCall Config) :=
  (s.prepareCalling rt rt' claim []).2

/-! ### Resources -/

/-- `SetResources`; `deepEqual` is `apiequality.Semantic.DeepEqual`. -/
def DeviceState.setResources (deepEqual : DriverResources → DriverResources → Bool)
    (s : DeviceState Config) (driverResources : DriverResources) : Bool × DeviceState Config :=
  if deepEqual s.driverResources driverResources then (false, s)
  else (true, { s with
    driverResources := driverResources
    allocatable := allocatableFrom driverResources s.nodeName })

/-! ### Prepare and Unprepare -/

/-- Every device of a checkpoint entry is still allocatable. -/
def DeviceState.validatePreparedDevices (s : DeviceState Config) (claimUID : ClaimUID)
    (devices : PreparedDevices) : Except String Unit :=
  match (rangeDevices devices).find? fun device => device.device.deviceName ∉ s.allocatable with
  | some device => .error ("device " ++ device.device.deviceName ++ " prepared for claim " ++
      claimUID.text ++ " is no longer allocatable " ++ enumerated s.allocatable)
  | none => .ok ()

/-- The checkpointed branch of `Prepare`: rewrite the spec, return the checkpointed devices. -/
def DeviceState.reprepare (s : DeviceState Config) (claimUID : ClaimUID) (devices : PreparedDevices) :
    DiskProg (Except String (List KubeletDevice)) := do
  match s.validatePreparedDevices claimUID devices with
  | .error e => return .error e
  | .ok () =>
    match ← s.cdi.createClaimSpecFile claimUID devices with
    | .error e => return .error ("unable to recreate CDI spec file for claim: " ++ e)
    | .ok () => return .ok (getDevices devices)

/-- The fresh branch of `Prepare`: write the spec, then the checkpoint. -/
def DeviceState.prepareFresh (s : DeviceState Config) (claimUID : ClaimUID)
    (preparedClaims : PreparedClaims) (devices : PreparedDevices) :
    DiskProg (Except String (List KubeletDevice)) := do
  match ← s.cdi.createClaimSpecFile claimUID devices with
  | .error e => return .error ("unable to create CDI spec file for claim: " ++ e)
  | .ok () =>
    match ← createCheckpoint (preparedClaims.insert claimUID devices) with
    | .error e => return .error ("unable to sync to checkpoint: " ++ e)
    | .ok () => return .ok (getDevices devices)

/-- **`Prepare`**: a checkpointed claim gets its spec rewritten and its devices back, any other is prepared
afresh. -/
def DeviceState.prepare (rt rt' : Runtime) (s : DeviceState Config) (claim : ResourceClaim) :
    DiskProg (Except String (List KubeletDevice)) := do
  match ← getCheckpoint with
  | .error e => return .error ("unable to sync from checkpoint: " ++ e)
  | .ok preparedClaims =>
    match (preparedClaims.lookup claim.uid).join with
    | some devices => s.reprepare claim.uid (some devices)
    | none =>
      match s.prepareDevices rt rt' claim with
      | .error e => return .error ("prepare failed: " ++ e)
      | .ok devices => s.prepareFresh claim.uid preparedClaims devices

/-- `Unprepare` once it has a checkpoint; `unprepareDevices` has nothing to do. -/
def DeviceState.unprepareFrom (s : DeviceState Config) (claimUID : ClaimUID)
    (preparedClaims : PreparedClaims) : DiskProg (Except String Unit) := do
  if (preparedClaims.lookup claimUID).join.isNone then return .ok ()
  else
    match ← s.cdi.deleteClaimSpecFile claimUID with
    | .error e => return .error ("unable to delete CDI spec file for claim: " ++ e)
    | .ok () =>
      match ← createCheckpoint (preparedClaims.erase claimUID) with
      | .error e => return .error ("unable to sync to checkpoint: " ++ e)
      | .ok () => return .ok ()

/-- A checkpoint that cannot be read is replaced by a fresh one. -/
def DeviceState.unprepareRead (s : DeviceState Config) (claimUID : ClaimUID) :
    Except String PreparedClaims → DiskProg (Except String Unit)
  | .ok preparedClaims => s.unprepareFrom claimUID preparedClaims
  | .error _ => do
    match ← createCheckpoint ∅ with
    | .error e => return .error ("unable to create new checkpoint: " ++ e)
    | .ok () => s.unprepareFrom claimUID ∅

/-- **`Unprepare`**. -/
def DeviceState.unprepare (s : DeviceState Config) (claimUID : ClaimUID) :
    DiskProg (Except String Unit) := do
  s.unprepareRead claimUID (← getCheckpoint)

/-! ### Startup -/

/-- One claim of the regeneration loop: a claim with a device that is gone keeps its entry and gets
no spec file. The accumulator is `validClaimUIDs`. -/
def DeviceState.regenerate (s : DeviceState Config) (preparedClaims : PreparedClaims)
    (validClaimUIDs : List ClaimUID) (claimUID : ClaimUID) :
    DiskProg (Except String (List ClaimUID)) := do
  let devices := (preparedClaims.lookup claimUID).join
  match s.validatePreparedDevices claimUID devices with
  | .error _ => return .ok validClaimUIDs
  | .ok () =>
    match ← s.cdi.createClaimSpecFile claimUID devices with
    | .error e =>
      return .error ("unable to create CDI spec file for claim " ++ claimUID.text ++ ": " ++ e)
    | .ok () => return .ok (validClaimUIDs ++ [claimUID])

/-- **`reconcileCDISpecs`**: the specs of the checkpointed claims are rewritten, in the order of their UIDs,
and all others pruned. -/
def DeviceState.reconcileCDISpecs (s : DeviceState Config) : DiskProg (Except String Unit) := do
  match ← getCheckpoint with
  | .error e => return .error ("unable to sync from checkpoint: " ++ e)
  | .ok preparedClaims =>
    match ← Prog.foldEach (s.regenerate preparedClaims) (sortedKeys ClaimUID.text preparedClaims) [] with
    | .error e => return .error e
    | .ok validClaimUIDs =>
      match ← s.cdi.pruneClaimSpecFiles validClaimUIDs with
      | (_, some e) => return .error e
      | (_, none) => return .ok ()

/-- What `NewDeviceState` is given: the flags and the profile. -/
structure DriverConfig (Config : Type) where
  driverName : String
  nodeName : String
  cdi : CDIHandler
  configDecoder : String → Except String Config
  configHandler : ConfigHandler Config

/-- The state before any disk operation. -/
def initialState (config : DriverConfig Config) (driverResources : DriverResources) :
    DeviceState Config :=
  { driverName := config.driverName
    nodeName := config.nodeName
    cdi := config.cdi
    driverResources := driverResources
    allocatable := allocatableFrom driverResources config.nodeName
    configDecoder := config.configDecoder
    configHandler := config.configHandler }

/-- The last part of `NewDeviceState`. -/
def startReconciled (state : DeviceState Config) : DiskProg (Except String (DeviceState Config)) := do
  match ← state.reconcileCDISpecs with
  | .error e => return .error ("unable to reconcile CDI spec files with the checkpoint: " ++ e)
  | .ok () => return .ok state

/-- **`NewDeviceState`**, from the common spec on. -/
def newDeviceState (config : DriverConfig Config) (driverResources : DriverResources) :
    DiskProg (Except String (DeviceState Config)) := do
  match ← config.cdi.createCommonSpecFile with
  | .error e => return .error ("unable to create CDI spec file for common edits: " ++ e)
  | .ok () =>
    let state := initialState config driverResources
    match ← listCheckpoints with
    | .error e => return .error ("unable to list checkpoints: " ++ e)
    | .ok checkpoints =>
      if driverPluginCheckpointFile ∈ checkpoints then startReconciled state
      else
        match ← createCheckpoint ∅ with
        | .error e => return .error ("unable to sync to checkpoint: " ++ e)
        | .ok () => startReconciled state

/-! ### A small driver to run -/

/-- A device with a name and nothing else. -/
def sampleDevice (name : String) : Device :=
  { name := name, consumesCounters := [], attributes := [], memory := none }

/-- One slice of plain devices. -/
def sampleResources (names : List String) : DriverResources :=
  (∅ : DriverResources).insert "node"
    { slices := [{ devices := names.map sampleDevice, sharedCounters := [] }] }

/-- A driver whose config handler gives each device the node of its name. -/
def sampleConfig : DriverConfig Unit where
  driverName := "tenstorrent.com"
  nodeName := "node"
  cdi := sampleHandler
  configDecoder := fun _ => .ok ()
  configHandler := { applyConfig := fun _ results => .ok (results.foldl (fun edits result =>
    edits.insert result.device { deviceNodes := [
      { path := "/dev/" ++ result.device, type := "c", permissions := "rw" }] }) ∅) }

/-- A result for a device of the sample driver. -/
def sampleResult (device : String) : DeviceRequestAllocationResult :=
  { request := "r", driver := "tenstorrent.com", pool := "node", device := device,
    adminAccess := none }

/-- A claim that was allocated these devices. -/
def sampleClaim (uid : ClaimUID) (devices : List String) : ResourceClaim :=
  { uid := uid, allocation := some { config := [], results := devices.map sampleResult } }

/-- A prepared device as the sample driver records it. -/
def samplePrepared (uid : ClaimUID) (device : String) : PreparedDevice :=
  { device := { requestNames := ["r"], poolName := "node", deviceName := device,
                cdiDeviceIds := sampleHandler.getClaimDevices uid [device] }
    containerEdits := some { deviceNodes := [
      { path := "/dev/" ++ device, type := "c", permissions := "rw" }] }
    adminAccess := false }

/-- A claim. -/
def uidA : ClaimUID := ⟨"a1", by decide⟩

/-- Another claim. -/
def uidB : ClaimUID := ⟨"b2", by decide⟩

end DraDriver.Plugin
