/-
**Runs of the driver.**

A system is a disk and at most one running driver. An event is one call with what it returned, a
call without a result being one the driver died in; a restart builds a new driver whatever was
running. Disk operations inside a call fail as `mayFail` lets them.
-/

import DraDriver.Base.Transition
import DraDriver.Plugin.Reconcile

namespace DraDriver.Plugin

open DraDriver.Base DraDriver.Profiles DraDriver.Tenstorrent

variable {Config : Type}

/-- A running driver of a configuration, with the device table of its resources. -/
structure Instance (config : DriverConfig Config) where
  state : DeviceState Config
  driverName : state.driverName = config.driverName
  nodeName : state.nodeName = config.nodeName
  cdi : state.cdi = config.cdi
  decoder : state.configDecoder = config.configDecoder
  table : state.allocatable = allocatableFrom state.driverResources config.nodeName

namespace Instance

variable {config : DriverConfig Config}

/-- A driver that has just started. -/
def started (config : DriverConfig Config) (driverResources : DriverResources) : Instance config where
  state := initialState config driverResources
  driverName := rfl
  nodeName := rfl
  cdi := rfl
  decoder := rfl
  table := rfl

/-- The driver with its profile in another state. -/
def withHandler (driver : Instance config) (handler : ConfigHandler Config) : Instance config where
  state := { driver.state with configHandler := handler }
  driverName := driver.driverName
  nodeName := driver.nodeName
  cdi := driver.cdi
  decoder := driver.decoder
  table := driver.table

/-- The driver after `SetResources`. -/
def setResources (deepEqual : DriverResources → DriverResources → Bool) (driver : Instance config)
    (driverResources : DriverResources) : Instance config where
  state := (driver.state.setResources deepEqual driverResources).2
  driverName := by
    unfold DeviceState.setResources
    split <;> exact driver.driverName
  nodeName := by
    unfold DeviceState.setResources
    split <;> exact driver.nodeName
  cdi := by
    unfold DeviceState.setResources
    split <;> exact driver.cdi
  decoder := by
    unfold DeviceState.setResources
    split <;> exact driver.decoder
  table := by
    unfold DeviceState.setResources
    split
    · exact driver.table
    · exact congrArg (allocatableFrom driverResources) driver.nodeName

end Instance

/-- The disk, and the driver that runs on it. -/
structure System (config : DriverConfig Config) where
  disk : Disk
  running : Option (Instance config)

/-- One call, with what it returned. -/
inductive Event
  | prepare (claim : ResourceClaim) (result : Option (Except String (List KubeletDevice)))
  | unprepare (uid : ClaimUID) (readFailed : Bool) (result : Option (Except String Unit))
  | setResources (driverResources : DriverResources)
  | restart (driverResources : DriverResources) (success : Bool)

/-- A driver that died in a call is not running any more. -/
def stillRunning {α : Type} {config : DriverConfig Config} (driver : Instance config) :
    Option α → Option (Instance config)
  | none => none
  | some _ => some driver

/-- The driver a startup leaves. -/
def afterStartup {α : Type} (config : DriverConfig Config) (driverResources : DriverResources)
    (result : Option (Except String α)) : Option (Instance config) :=
  if succeeded result then some (.started config driverResources) else none

/-- **One event of a run.** The profile's state at a `Prepare` is arbitrary. -/
inductive Step (config : DriverConfig Config) (mayFail : DiskOp → Bool)
    (deepEqual : DriverResources → DriverResources → Bool) :
    System config → Event → System config → Prop
  | prepare (rt rt' : Runtime) (handler : ConfigHandler Config) (driver : Instance config)
      (claim : ResourceClaim) (outcomes : List Outcome) {disk disk' : Disk}
      {result : Option (Except String (List KubeletDevice))} :
      Prog.exec (Disk.act mayFail) ((driver.withHandler handler).state.prepare rt rt' claim)
        outcomes disk = (disk', result) →
      Step config mayFail deepEqual ⟨disk, some driver⟩ (.prepare claim result)
        ⟨disk', stillRunning driver result⟩
  | unprepare (driver : Instance config) (uid : ClaimUID) (outcomes : List Outcome)
      {disk disk' : Disk} {result : Option (Except String Unit)} :
      Prog.exec (Disk.act mayFail) (driver.state.unprepare uid) outcomes disk = (disk', result) →
      Step config mayFail deepEqual ⟨disk, some driver⟩
        (.unprepare uid (readFails mayFail disk outcomes) result) ⟨disk', stillRunning driver result⟩
  | setResources (driver : Instance config) (driverResources : DriverResources) {disk : Disk} :
      Step config mayFail deepEqual ⟨disk, some driver⟩ (.setResources driverResources)
        ⟨disk, some (driver.setResources deepEqual driverResources)⟩
  | restart (running : Option (Instance config)) (driverResources : DriverResources)
      (outcomes : List Outcome) {disk disk' : Disk}
      {result : Option (Except String (DeviceState Config))} :
      Prog.exec (Disk.act mayFail) (newDeviceState config driverResources) outcomes disk =
        (disk', result) →
      Step config mayFail deepEqual ⟨disk, running⟩ (.restart driverResources (succeeded result))
        ⟨disk', afterStartup config driverResources result⟩

/-! ### How an event changes the disk -/

/-- What an event does to the disk, by cases. -/
inductive Changes (config : DriverConfig Config) (disk : Disk) : Event → Disk → Prop
  | prepare (rt rt') (s : DeviceState Config) (claim result disk') : s.cdi = config.cdi →
      PrepareEnds rt rt' s claim disk disk' result → Changes config disk (.prepare claim result) disk'
  | unprepare (s : DeviceState Config) (uid failed result disk') : s.cdi = config.cdi →
      UnprepareEnds s uid disk failed disk' result →
      Changes config disk (.unprepare uid failed result) disk'
  | setResources (driverResources) : Changes config disk (.setResources driverResources) disk
  | restart (driverResources success disk') :
      Starting (initialState config driverResources) disk disk' →
      (success = true → disk'.checkpoint = some (disk.checkpoint.getD ∅) ∧
        Settled (initialState config driverResources) (disk.checkpoint.getD ∅) disk'.root) →
      Changes config disk (.restart driverResources success) disk'

variable {config : DriverConfig Config} {mayFail : DiskOp → Bool}
  {deepEqual : DriverResources → DriverResources → Bool}

/-- **Every event changes the disk in one of these ways.** -/
theorem Step.changes {sys sys' : System config} {event : Event}
    (step : Step config mayFail deepEqual sys event sys') : Changes config sys.disk event sys'.disk := by
  cases step with
  | @prepare rt rt' handler driver claim outcomes disk disk' result ran =>
    have ends := exec_prepare mayFail rt rt' (driver.withHandler handler).state claim outcomes disk
    rw [ran] at ends
    exact .prepare rt rt' _ claim _ _ (driver.withHandler handler).cdi ends
  | @unprepare driver uid outcomes disk disk' result ran =>
    have ends := exec_unprepare mayFail driver.state uid outcomes disk
    rw [ran] at ends
    exact .unprepare _ uid _ _ _ driver.cdi ends
  | setResources driver driverResources => exact .setResources driverResources
  | @restart running driverResources outcomes disk disk' result ran =>
    obtain ⟨starting, returned⟩ := exec_newDeviceState mayFail config driverResources outcomes disk
    rw [ran] at starting returned
    refine .restart driverResources _ _ starting fun ok => ?_
    obtain ⟨state, same⟩ := succeeded_iff.mp ok
    exact (returned state same).2

/-- Where reads do not fail, an `Unprepare` of a disk with a checkpoint has read it. -/
theorem Step.read_ok {sys sys' : System config} {uid : ClaimUID} {failed : Bool}
    {result : Option (Except String Unit)} (never : mayFail .readCheckpoint = false)
    (present : sys.disk.checkpoint.isSome = true)
    (step : Step config mayFail deepEqual sys (.unprepare uid failed result) sys') : failed = false := by
  cases step with
  | unprepare driver uid outcomes ran => exact readFails_eq_false never present outcomes

/-! ### Events by evaluation -/

/-- A `Prepare` from what its run evaluates to. -/
theorem Step.of_prepare (rt rt' : Runtime) (handler : ConfigHandler Config) (driver : Instance config)
    (claim : ResourceClaim) (outcomes : List Outcome) (disk : Disk)
    {result : Option (Except String (List KubeletDevice))}
    (returned : (Prog.exec (Disk.act mayFail) ((driver.withHandler handler).state.prepare rt rt' claim)
      outcomes disk).2 = result) :
    Step config mayFail deepEqual ⟨disk, some driver⟩ (.prepare claim result)
      ⟨(Prog.exec (Disk.act mayFail) ((driver.withHandler handler).state.prepare rt rt' claim)
        outcomes disk).1, stillRunning driver result⟩ :=
  .prepare rt rt' handler driver claim outcomes (Prod.ext rfl returned)

/-- An `Unprepare` from what its run evaluates to. -/
theorem Step.of_unprepare (driver : Instance config) (uid : ClaimUID) (outcomes : List Outcome)
    (disk : Disk) {result : Option (Except String Unit)} {failed : Bool}
    (unread : readFails mayFail disk outcomes = failed)
    (returned : (Prog.exec (Disk.act mayFail) (driver.state.unprepare uid) outcomes disk).2 = result) :
    Step config mayFail deepEqual ⟨disk, some driver⟩ (.unprepare uid failed result)
      ⟨(Prog.exec (Disk.act mayFail) (driver.state.unprepare uid) outcomes disk).1,
        stillRunning driver result⟩ :=
  unread ▸ .unprepare driver uid outcomes (Prod.ext rfl returned)

/-- A restart from what its run evaluates to. -/
theorem Step.of_restart (running : Option (Instance config)) (driverResources : DriverResources)
    (outcomes : List Outcome) (disk : Disk) {success : Bool}
    (returned : succeeded (Prog.exec (Disk.act mayFail) (newDeviceState config driverResources)
      outcomes disk).2 = success) :
    Step config mayFail deepEqual ⟨disk, running⟩ (.restart driverResources success)
      ⟨(Prog.exec (Disk.act mayFail) (newDeviceState config driverResources) outcomes disk).1,
        if success then some (.started config driverResources) else none⟩ := by
  subst returned
  exact .restart running driverResources outcomes rfl

/-- A sample driver that has just started with nothing prepared. -/
def freshSystem (names : List String) : System sampleConfig :=
  ⟨{ checkpoint := some ∅, root := ∅ }, some (.started sampleConfig (sampleResources names))⟩

/-- Equality of resources, as the sample driver decides it. -/
def sampleEqual (a b : DriverResources) : Bool := decide (a = b)

end DraDriver.Plugin
