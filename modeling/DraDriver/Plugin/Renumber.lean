/-
**Device nodes across topologies.**

The checkpoint keeps the nodes a claim was prepared with, and a claim that is prepared again, or
whose spec a startup regenerates, gets these nodes back after a check of its device names alone.
Here the driver runs together with the profile whose topology it serves. The profile installs the
table of a topology on its own, whatever the driver is doing; the resources then wait to be handed
over, and again for the lock that a call holds.

* `renumbered_stale` — a topology that swaps the nodes of two chips: the claim of the one is prepared
  again with the node of the other.
* `withdrawn_stale` — a topology that gives the node of a lost chip to another: until the driver has
  taken it over, the claim of the lost chip is still prepared again.
* `KeepsNodes` — a topology that, for each recorded claim whose devices it all publishes, assigns
  these devices the nodes on record.
* `Node.Knows` — the profile's table has the devices of every claim whose spec the call in progress
  writes from the checkpoint. `Synced` gives it where no topology is on its way.
* **`reprepared_current`** — in every run whose topologies keep nodes, and in which the table knows
  what is rewritten while a topology is on its way, each spec written from the checkpoint is the one a
  fresh `prepareDevices` would give, with the nodes of the current topology.
-/

import DraDriver.Plugin.Prepared
import DraDriver.Plugin.Runs
import DraDriver.Tenstorrent.Exclusion

namespace DraDriver.Plugin

open DraDriver.Base DraDriver.FabricManager DraDriver.Profiles DraDriver.Tenstorrent

variable {Config : Type}

/-! ### The driver and its profile -/

/-- A call that holds the driver's lock. -/
inductive Ongoing
  /-- `Prepare`, with the profile as its `ApplyConfig` finds it. -/
  | prepare (claim : ResourceClaim) (asked : Profile)
  /-- `NewDeviceState`, with the first resources. -/
  | build (resources : DriverResources)

/-- The resources of a startup. -/
def Ongoing.first : Ongoing → Option DriverResources
  | .prepare _ _ => none
  | .build resources => some resources

/-- The system with the profile of the driver that runs in it. `offered` are resources the profile
waits to hand over, `received` those the driver has and has not made its own. -/
structure Node (config : DriverConfig Config) where
  profile : Profile
  offered : Option DriverResources
  received : Option DriverResources
  call : Option Ongoing
  sys : System config

/-- One step of the profile, of the driver or of a call. -/
inductive NodeEvent
  /-- `applyTopology` installs the table of a usable topology. -/
  | topology (rt : Runtime) (topo : HostPhysicalTopology)
  /-- The profile hands resources to the driver. -/
  | handOver
  /-- `republishDevices` calls `SetResources`. -/
  | setResources
  /-- A `Prepare` takes the lock and asks the profile. -/
  | ask (claim : ResourceClaim)
  /-- It ends. -/
  | prepare (claim : ResourceClaim) (result : Option (Except String (List KubeletDevice)))
  | unprepare (uid : ClaimUID) (readFailed : Bool) (result : Option (Except String Unit))
  /-- `NewDriver` calls `NewDeviceState`. -/
  | build
  /-- `NewDeviceState` ends. -/
  | built (success : Bool)
  /-- The process dies. -/
  | die

/-- What a profile makes of the first topology after a restart. -/
def firstTopology (config : DriverConfig Config) (opts : Options) (rt : Runtime)
    (topo : HostPhysicalTopology) : DriverResources × Profile :=
  applyTopology rt (newProfile config.nodeName opts) topo

/-- A new process on the disk of the last one. -/
def Node.reborn (config : DriverConfig Config) (opts : Options) (disk : Disk) : Node config :=
  ⟨newProfile config.nodeName opts, none, none, none, ⟨disk, none⟩⟩

/-- The node after a call: a process that has no driver left exits. -/
def Node.returns {config : DriverConfig Config} (opts : Options) (node : Node config)
    (sys : System config) : Node config :=
  match sys.running with
  | none => .reborn config opts sys.disk
  | some _ => { node with call := none, sys := sys }

section Steps

variable (config : DriverConfig Config) (opts : Options) (allocationOf : ClaimUID → Option Allocation)
  (mayFail : DiskOp → Bool) (deepEqual : DriverResources → DriverResources → Bool)

/-- **One event of a node.** A claim always comes with the same allocation. The driver takes resources
when it has none to make its own and its startup is over. -/
inductive NodeStep : Node config → NodeEvent → Node config → Prop
  | topology (node : Node config) (rt : Runtime) (topo : HostPhysicalTopology)
      (idle : node.offered = none) :
      NodeStep node (.topology rt topo) { node with
        profile := (applyTopology rt node.profile topo).2
        offered := some (applyTopology rt node.profile topo).1 }
  | handOver (node : Node config) {resources : DriverResources} (offered : node.offered = some resources)
      (free : node.received = none) (ready : node.call.bind Ongoing.first = none) :
      NodeStep node .handOver { node with offered := none, received := some resources }
  | setResources (node : Node config) {resources : DriverResources} {sys : System config}
      (received : node.received = some resources) (free : node.call = none)
      (step : Step config mayFail deepEqual node.sys (.setResources resources) sys) :
      NodeStep node .setResources { node with received := none, sys := sys }
  | ask (node : Node config) {driver : Instance config} (claim : ResourceClaim) (free : node.call = none)
      (running : node.sys.running = some driver) (allocated : claim.allocation = allocationOf claim.uid) :
      NodeStep node (.ask claim) { node with call := some (.prepare claim node.profile) }
  | prepare (node : Node config) (rt rt' : Runtime) {driver : Instance config} {claim : ResourceClaim}
      {asked : Profile} (outcomes : List Outcome) {disk : Disk}
      {result : Option (Except String (List KubeletDevice))}
      (asking : node.call = some (.prepare claim asked)) (running : node.sys.running = some driver)
      (ran : Prog.exec (Disk.act mayFail) ((driver.state.withProfile asked).prepare rt rt' claim)
        outcomes node.sys.disk = (disk, result)) :
      NodeStep node (.prepare claim result) (node.returns opts ⟨disk, stillRunning driver result⟩)
  | unprepare (node : Node config) {sys : System config} {uid : ClaimUID} {readFailed : Bool}
      {result : Option (Except String Unit)} (free : node.call = none)
      (step : Step config mayFail deepEqual node.sys (.unprepare uid readFailed result) sys) :
      NodeStep node (.unprepare uid readFailed result) (node.returns opts sys)
  | build (node : Node config) {resources : DriverResources} (received : node.received = some resources)
      (free : node.call = none) (fresh : node.sys.running = none) :
      NodeStep node .build { node with received := none, call := some (.build resources) }
  | built (node : Node config) {resources : DriverResources} {sys : System config} {success : Bool}
      (building : node.call = some (.build resources))
      (step : Step config mayFail deepEqual node.sys (.restart resources success) sys) :
      NodeStep node (.built success) (node.returns opts sys)
  | die (node : Node config) : NodeStep node .die (.reborn config opts node.sys.disk)

end Steps

/-! ### What is on record, and what is rewritten -/

section Records

variable {config : DriverConfig Config}

/-- The checkpoint's claims; a missing checkpoint has none. -/
def Node.claims (node : Node config) : PreparedClaims := node.sys.disk.checkpoint.getD ∅

/-- **A claim with its devices on record**: in the checkpoint, or from what the profile has told a
`Prepare` that will put it there. -/
inductive Node.Records (node : Node config) : ClaimUID → PreparedDevices → Prop
  | stored {uid : ClaimUID} {devices : PreparedDevices} (entry : node.claims.lookup uid = some devices) :
      Records node uid devices
  | coming {claim : ResourceClaim} {asked : Profile} {driver : Instance config} {rt rt' : Runtime}
      {devices : PreparedDevices} (asking : node.call = some (.prepare claim asked))
      (running : node.sys.running = some driver) (absent : (node.claims.lookup claim.uid).join = none)
      (prepared : (driver.state.withProfile asked).prepareDevices rt rt' claim = .ok devices) :
      Records node claim.uid devices

/-- The profile's table has every device. -/
def KnowsAll (p : Profile) (devices : PreparedDevices) : Prop :=
  ∀ device ∈ rangeDevices devices, device.device.deviceName ∈ p.unitByDevice

instance (p : Profile) (devices : PreparedDevices) : Decidable (KnowsAll p devices) :=
  inferInstanceAs (Decidable (∀ device ∈ rangeDevices devices, _))

/-- **The profile assigns recorded devices their recorded nodes**, if it knows them all. -/
def KeepsEntry (p : Profile) (devices : PreparedDevices) : Prop :=
  KnowsAll p devices → ∀ device ∈ rangeDevices devices,
    (p.unitByDevice.lookup device.device.deviceName).map unitEdits = device.containerEdits

instance (p : Profile) (devices : PreparedDevices) : Decidable (KeepsEntry p devices) :=
  inferInstanceAs (Decidable (KnowsAll p devices → _))

/-- **The topology an event brings keeps the nodes on record.** -/
def KeepsNodes (node : Node config) : NodeEvent → Prop
  | .topology rt topo => ∀ uid devices, node.Records uid devices →
      KeepsEntry (applyTopology rt node.profile topo).2 devices
  | _ => True

/-- A spec that is written from the checkpoint: the state that checks the devices, and the claim. -/
structure Rewrite (Config : Type) where
  state : DeviceState Config
  uid : ClaimUID

/-- **What the call in progress writes from the checkpoint**: the spec of the claim a `Prepare` finds
there and finds valid, and those a startup regenerates. -/
def Node.rewrites (node : Node config) : List (Rewrite Config) :=
  match node.call, node.sys.running with
  | some (.prepare claim _), some driver =>
    if (node.claims.lookup claim.uid).join.isSome && driver.state.valid node.claims claim.uid then
      [⟨driver.state, claim.uid⟩]
    else []
  | some (.build resources), _ =>
    ((initialState config resources).validClaims node.claims).map fun uid =>
      ⟨initialState config resources, uid⟩
  | _, _ => []

/-- The profile knows the devices of every claim whose spec is rewritten. -/
def Node.Knows (node : Node config) : Prop :=
  ∀ rewrite ∈ node.rewrites, KnowsAll node.profile (node.claims.lookup rewrite.uid).join

instance (node : Node config) : Decidable node.Knows :=
  inferInstanceAs (Decidable (∀ rewrite ∈ node.rewrites, _))

/-- The driver has not made the last topology its own yet. -/
def Node.InTransit (node : Node config) : Prop := node.offered.isSome ∨ node.received.isSome

instance (node : Node config) : Decidable node.InTransit :=
  inferInstanceAs (Decidable (_ ∨ _))

end Records

section Steps

variable (config : DriverConfig Config) (opts : Options) (allocationOf : ClaimUID → Option Allocation)
  (mayFail : DiskOp → Bool) (deepEqual : DriverResources → DriverResources → Bool)

/-- **An event of a steady run**: its topology keeps nodes, and while a topology is on its way to the
driver, the profile knows what is rewritten. -/
structure SteadyStep (node : Node config) (event : NodeEvent) (node' : Node config) : Prop where
  step : NodeStep config opts allocationOf mayFail deepEqual node event node'
  keeps : KeepsNodes node event
  knows : node'.InTransit → node'.Knows

/-- **The spec of a claim is current**: whatever the map order, `prepareDevices` with the profile as
it is would give this spec, and its nodes are those the profile assigns to the claim's devices. -/
structure CurrentSpec (s : DeviceState Config) (p : Profile) (claim : ResourceClaim) (spec : CdiSpec) :
    Prop where
  fresh : ∀ rt rt', ∃ devices, (s.withProfile p).prepareDevices rt rt' claim = .ok devices ∧
    s.cdi.claimSpec claim.uid devices = .ok spec
  nodes : spec.devices.map (fun device => (device.name, some device.containerEdits.deviceNodes)) =
    assignedNodes p s.driverName claim

/-- **Every spec the call in progress writes from the checkpoint is current**, at every moment. -/
def RewritesCurrent (node : Node config) : Prop :=
  ∀ rewrite ∈ node.rewrites, ∀ spec,
    config.cdi.claimSpec rewrite.uid (node.claims.lookup rewrite.uid).join = .ok spec →
    CurrentSpec rewrite.state node.profile ⟨rewrite.uid, allocationOf rewrite.uid⟩ spec

/-- **A call that succeeds leaves current specs**: a `Prepare` of a checkpointed claim in the claim's
file, a startup in the file of every valid claim. -/
def LeavesCurrent (node : Node config) : NodeEvent → Node config → Prop
  | .prepare claim (some (.ok _)), node' => ∀ driver devices, node.sys.running = some driver →
      node.claims.lookup claim.uid = some (some devices) →
      ∃ spec, node'.sys.disk.root.lookup (config.cdi.claimFile claim.uid) = some (.spec spec) ∧
        CurrentSpec driver.state node'.profile claim spec
  | .built true, node' => ∀ resources, node.call = some (.build resources) →
      ∀ uid ∈ (initialState config resources).validClaims node.claims,
      ∃ spec, node'.sys.disk.root.lookup (config.cdi.claimFile uid) = some (.spec spec) ∧
        CurrentSpec (initialState config resources) node'.profile ⟨uid, allocationOf uid⟩ spec
  | _, _ => True

end Steps

/-! ### Invariant -/

/-- The state a driver of this configuration can be in. -/
structure OfConfig (config : DriverConfig Config) (s : DeviceState Config) : Prop where
  driverName : s.driverName = config.driverName
  cdi : s.cdi = config.cdi
  decoder : s.configDecoder = config.configDecoder

theorem Instance.ofConfig {config : DriverConfig Config} (driver : Instance config) :
    OfConfig config driver.state :=
  ⟨driver.driverName, driver.cdi, driver.decoder⟩

/-- The entry is what `prepareDevices` returned for the claim at some time. -/
def Prepared (config : DriverConfig Config) (claim : ResourceClaim) (devices : PreparedDevices) : Prop :=
  ∃ rt rt' s p, OfConfig config s ∧ Profile.Anchored p ∧
    (s.withProfile p).prepareDevices rt rt' claim = .ok devices

section Run

variable {config : DriverConfig Config} {opts : Options}
  {allocationOf : ClaimUID → Option Allocation} {mayFail : DiskOp → Bool}
  {deepEqual : DriverResources → DriverResources → Bool} {node node' : Node config}

/-- The resources of the last topology, wherever they are. -/
def Node.latest (node : Node config) : Option DriverResources :=
  node.offered <|> node.received <|> node.call.bind Ongoing.first <|>
    node.sys.running.map fun driver => driver.state.driverResources

/-- **The last resources report what the profile's table has.** -/
structure Synced (node : Node config) : Prop where
  nodeName : node.profile.nodeName = config.nodeName
  names : ∀ resources, node.latest = some resources → ∀ name,
    name ∈ reportedNames resources config.nodeName ↔ name ∈ node.profile.unitByDevice

/-- What holds between events: every record was prepared for its claim, the profile keeps the nodes on
record, and it knows what is rewritten. -/
structure NodeInv (config : DriverConfig Config) (allocationOf : ClaimUID → Option Allocation)
    (node : Node config) : Prop where
  synced : Synced node
  anchored : node.profile.Anchored
  asking : ∀ claim asked, node.call = some (.prepare claim asked) →
    claim.allocation = allocationOf claim.uid
  origin : ∀ uid devices, node.Records uid devices → Prepared config ⟨uid, allocationOf uid⟩ devices
  keeps : ∀ uid devices, node.Records uid devices → KeepsEntry node.profile devices
  knows : node.Knows

/-! ### Entries of the checkpoint -/

/-- An event other than a `Prepare` adds no entry. -/
theorem Changes.entry_old {disk disk' : Disk} {event : Event} (changes : Changes config disk event disk')
    (other : ∀ claim result, event ≠ .prepare claim result) {uid : ClaimUID} {devices : PreparedDevices}
    (entry : (disk'.checkpoint.getD ∅).lookup uid = some devices) :
    (disk.checkpoint.getD ∅).lookup uid = some devices := by
  cases changes with
  | prepare rt rt' s claim result => exact absurd rfl (other claim result)
  | setResources => exact entry
  | unprepare s target failed result _ ours ends =>
    cases ends with
    | untouched => exact entry
    | replaced => cases entry
    | nothing => exact entry
    | halfway => exact entry
    | unprepared claims _ _ stored =>
      rw [putCheckpoint_checkpoint, Option.getD_some, lookup_erase_eq] at entry
      rw [stored, Option.getD_some]
      split at entry
      · cases entry
      · exact entry
  | restart driverResources success _ starting =>
    rcases starting.checkpoint with same | ⟨_, created⟩
    · rw [← same]
      exact entry
    · rw [created] at entry
      cases entry

/-- A `Prepare` adds at most what `prepareDevices` returned for its claim, which had no entry. -/
theorem PrepareEnds.entry {rt rt' : Runtime} {s : DeviceState Config} {claim : ResourceClaim}
    {disk disk' : Disk} {result : Option (Except String (List KubeletDevice))}
    (ends : PrepareEnds rt rt' s claim disk disk' result) {uid : ClaimUID} {devices : PreparedDevices}
    (entry : (disk'.checkpoint.getD ∅).lookup uid = some devices) :
    (disk.checkpoint.getD ∅).lookup uid = some devices ∨
      uid = claim.uid ∧ ((disk.checkpoint.getD ∅).lookup uid).join = none ∧
        s.prepareDevices rt rt' claim = .ok devices := by
  cases ends with
  | untouched => exact Or.inl entry
  | rewritten => exact Or.inl entry
  | halfway => exact Or.inl entry
  | prepared claims fresh _ _ stored absent made =>
    rw [putCheckpoint_checkpoint, Option.getD_some, lookup_insert_eq] at entry
    rw [stored, Option.getD_some]
    split at entry
    · rename_i here
      subst here
      exact Or.inr ⟨rfl, absent, by rw [made, Option.some.inj entry]⟩
    · exact Or.inl entry

/-! ### Who runs after a call -/

theorem eq_of_stillRunning {α : Type} {driver driver' : Instance config} {result : Option α}
    (running : stillRunning driver result = some driver') : driver' = driver := by
  cases result with
  | none => cases running
  | some _ => exact (Option.some.inj running).symm

theorem Step.running_setResources {sys sys' : System config} {resources : DriverResources}
    (step : Step config mayFail deepEqual sys (.setResources resources) sys') :
    ∃ driver, sys.running = some driver ∧
      sys' = ⟨sys.disk, some (driver.setResources deepEqual resources)⟩ := by
  cases step with
  | setResources driver => exact ⟨driver, rfl, rfl⟩

theorem Step.running_unprepare {sys sys' : System config} {uid : ClaimUID} {readFailed : Bool}
    {result : Option (Except String Unit)}
    (step : Step config mayFail deepEqual sys (.unprepare uid readFailed result) sys') :
    ∃ driver, sys.running = some driver ∧ ∀ driver', sys'.running = some driver' → driver' = driver := by
  cases step with
  | unprepare driver uid outcomes ran => exact ⟨driver, rfl, fun _ => eq_of_stillRunning⟩

theorem Step.running_restart {sys sys' : System config} {resources : DriverResources} {success : Bool}
    (step : Step config mayFail deepEqual sys (.restart resources success) sys') :
    sys'.running = if success then some (.started config resources) else none := by
  cases step with
  | restart running driverResources outcomes ran => rfl

/-- A startup that succeeds has settled the root. -/
theorem Step.settled {sys sys' : System config} {resources : DriverResources}
    (step : Step config mayFail deepEqual sys (.restart resources true) sys') :
    Settled (initialState config resources) (sys.disk.checkpoint.getD ∅) sys'.disk.root := by
  have changes := step.changes
  generalize sys'.disk = after at changes
  cases changes with
  | restart _ _ _ _ settled => exact (settled rfl).2

theorem returns_of_running {sys : System config} {driver : Instance config}
    (running : sys.running = some driver) :
    node.returns opts sys = { node with call := none, sys := sys } := by
  rw [Node.returns, running]

theorem returns_of_stopped {sys : System config} (stopped : sys.running = none) :
    node.returns opts sys = .reborn config opts sys.disk := by
  rw [Node.returns, stopped]

@[simp]
theorem returns_call {sys : System config} : (node.returns opts sys).call = none := by
  unfold Node.returns
  split <;> rfl

@[simp]
theorem returns_disk {sys : System config} : (node.returns opts sys).sys.disk = sys.disk := by
  unfold Node.returns
  split <;> rfl

/-! ### What is rewritten -/

/-- A member of `Node.rewrites`, by the call in progress. -/
inductive Rewriting (node : Node config) : Rewrite Config → Prop
  | prepare {claim : ResourceClaim} {asked : Profile} {driver : Instance config}
      (asking : node.call = some (.prepare claim asked)) (running : node.sys.running = some driver)
      (present : (node.claims.lookup claim.uid).join.isSome = true)
      (valid : driver.state.valid node.claims claim.uid = true) :
      Rewriting node ⟨driver.state, claim.uid⟩
  | build {resources : DriverResources} {uid : ClaimUID} (building : node.call = some (.build resources))
      (valid : uid ∈ (initialState config resources).validClaims node.claims) :
      Rewriting node ⟨initialState config resources, uid⟩

theorem mem_rewrites_iff {rewrite : Rewrite Config} :
    rewrite ∈ node.rewrites ↔ Rewriting node rewrite := by
  constructor
  · intro member
    unfold Node.rewrites at member
    split at member
    · rename_i claim asked driver asking running
      split at member
      · rename_i both
        rw [Bool.and_eq_true] at both
        cases List.mem_singleton.mp member
        exact .prepare asking running both.1 both.2
      · cases member
    · rename_i resources _ building
      obtain ⟨uid, valid, rfl⟩ := List.mem_map.mp member
      exact .build building valid
    · cases member
  · rintro (⟨asking, running, present, valid⟩ | ⟨building, valid⟩)
    · simp [Node.rewrites, asking, running, present, valid]
    · simp [Node.rewrites, building, valid]

theorem Rewriting.ofConfig {rewrite : Rewrite Config} (rewriting : Rewriting node rewrite) :
    OfConfig config rewrite.state := by
  cases rewriting with
  | prepare => exact Instance.ofConfig _
  | build => exact ⟨rfl, rfl, rfl⟩

/-- The claim is checkpointed, with devices that the driver has. -/
theorem Rewriting.stored {rewrite : Rewrite Config} (rewriting : Rewriting node rewrite) :
    ∃ devices, node.claims.lookup rewrite.uid = some devices ∧
      ∀ device ∈ rangeDevices devices, device.device.deviceName ∈ rewrite.state.allocatable := by
  have found : rewrite.uid ∈ node.claims ∧ rewrite.state.valid node.claims rewrite.uid = true := by
    cases rewriting with
    | @prepare claim _ _ _ _ present valid =>
      refine ⟨AList.lookup_isSome.mp ?_, valid⟩
      cases entry : node.claims.lookup claim.uid with
      | none => simp [entry] at present
      | some => rfl
    | build _ valid => exact mem_validClaims.mp valid
  obtain ⟨devices, entry⟩ := Option.isSome_iff_exists.mp (AList.lookup_isSome.mpr found.1)
  refine ⟨devices, entry, ?_⟩
  have valid := (validate_eq_ok_iff _ _ _).mp ((valid_iff _ _ _).mp found.2)
  rwa [entry, Option.join_some] at valid

theorem Instance.mem_allocatable (driver : Instance config) (name : String) :
    name ∈ driver.state.allocatable ↔
      name ∈ reportedNames driver.state.driverResources config.nodeName := by
  rw [driver.table]
  exact mem_allocatableFrom _ _ _

/-- Where nothing is on its way, the driver's devices are those of the last resources. -/
theorem Rewriting.latest {rewrite : Rewrite Config} (rewriting : Rewriting node rewrite)
    (settled : ¬ node.InTransit) : ∃ resources, node.latest = some resources ∧
      ∀ name, name ∈ rewrite.state.allocatable ↔ name ∈ reportedNames resources config.nodeName := by
  obtain ⟨offered, received⟩ : node.offered = none ∧ node.received = none := by
    simpa [Node.InTransit] using settled
  cases rewriting with
  | @prepare claim asked driver asking running =>
    refine ⟨driver.state.driverResources, ?_, driver.mem_allocatable⟩
    simp [Node.latest, offered, received, asking, running, Ongoing.first]
  | @build resources uid building =>
    refine ⟨resources, ?_, mem_allocatableFrom resources config.nodeName⟩
    simp [Node.latest, offered, received, building, Ongoing.first]

/-- **With no topology on its way the profile knows what is rewritten.** -/
theorem Synced.knows (synced : Synced node) (inTransit : node.InTransit → node.Knows) : node.Knows := by
  by_cases settled : node.InTransit
  · exact inTransit settled
  intro rewrite member device listed
  have rewriting := mem_rewrites_iff.mp member
  obtain ⟨devices, entry, valid⟩ := rewriting.stored
  obtain ⟨resources, latest, same⟩ := rewriting.latest settled
  rw [entry, Option.join_some] at listed
  exact (synced.names resources latest _).mp ((same _).mp (valid device listed))

/-! ### Every event -/

theorem Synced.reborn (disk : Disk) : Synced (Node.reborn config opts disk) :=
  ⟨rfl, fun _ latest => by cases latest⟩

/-- A call that ends with the driver running leaves the last resources where the profile has them. -/
theorem Synced.returns (synced : Synced node) {sys : System config}
    (same : ∀ driver, sys.running = some driver →
      ({ node with call := none, sys := sys } : Node config).latest = node.latest) :
    Synced (node.returns opts sys) := by
  cases running : sys.running with
  | none =>
    rw [returns_of_stopped running]
    exact .reborn sys.disk
  | some driver =>
    rw [returns_of_running running]
    exact ⟨synced.nodeName, fun resources latest =>
      synced.names resources ((same driver running).symm.trans latest)⟩

/-- **One event keeps the profile and the last resources alike.** -/
theorem Synced.step (honest : ∀ a b, deepEqual a b = true →
      reportedNames a config.nodeName = reportedNames b config.nodeName)
    (synced : Synced node) {event : NodeEvent}
    (step : NodeStep config opts allocationOf mayFail deepEqual node event node') : Synced node' := by
  cases step with
  | topology rt topo idle =>
    refine ⟨synced.nodeName, fun resources latest name => ?_⟩
    cases Option.some.inj latest
    rw [← synced.nodeName]
    exact (mem_unitByDevice_applyTopology rt node.profile topo name).symm
  | @handOver resources offered free ready =>
    refine ⟨synced.nodeName, fun last latest => synced.names last ?_⟩
    simpa [Node.latest, offered] using latest
  | @setResources resources sys received free step =>
    obtain ⟨driver, running, rfl⟩ := step.running_setResources
    refine ⟨synced.nodeName, fun last latest name => ?_⟩
    cases offered : node.offered with
    | some newer =>
      refine synced.names last ?_ name
      simpa [Node.latest, offered] using latest
    | none =>
      have before := synced.names resources (by simp [Node.latest, offered, received]) name
      have now : (driver.setResources deepEqual resources).state.driverResources = last := by
        simpa [Node.latest, offered, free] using latest
      rw [← before, ← now]
      unfold Instance.setResources DeviceState.setResources
      split
      · rename_i same
        rw [honest _ _ same]
      · exact Iff.rfl
  | @ask driver claim free running allocated =>
    refine ⟨synced.nodeName, fun last latest => synced.names last ?_⟩
    simpa [Node.latest, free, Ongoing.first] using latest
  | @prepare rt rt' driver claim asked outcomes disk result asking running ran =>
    refine synced.returns fun driver' still => ?_
    cases eq_of_stillRunning still
    have still : stillRunning driver result = some driver := still
    simp [Node.latest, asking, running, still, Ongoing.first]
  | unprepare free step =>
    obtain ⟨driver, running, same⟩ := step.running_unprepare
    refine synced.returns fun driver' still => ?_
    cases same driver' still
    simp [Node.latest, free, still, running]
  | @build resources received free fresh =>
    refine ⟨synced.nodeName, fun last latest => synced.names last ?_⟩
    simpa [Node.latest, received, free, Ongoing.first] using latest
  | @built resources sys success building step =>
    refine synced.returns fun driver still => ?_
    have started := step.running_restart
    rw [still] at started
    cases success with
    | false => cases started
    | true =>
      cases Option.some.inj started
      simp [Node.latest, building, still, Ongoing.first, Instance.started, initialState]
  | die => exact .reborn node.sys.disk

/-- A profile that knows nothing keeps every record. -/
theorem keepsEntry_newProfile (nodeName : String) (devices : PreparedDevices) :
    KeepsEntry (newProfile nodeName opts) devices := by
  intro known device member
  have wrong := known device member
  cases wrong

/-- With no call in progress, what is on record is in the checkpoint. -/
theorem Node.Records.entry {uid : ClaimUID} {devices : PreparedDevices} (record : node.Records uid devices)
    (idle : node.call = none) : node.claims.lookup uid = some devices := by
  cases record with
  | stored entry => exact entry
  | coming asking => cases idle.symm.trans asking

/-- What is on record depends on the call and the system alone. -/
theorem Node.Records.congr {uid : ClaimUID} {devices : PreparedDevices} (record : node'.Records uid devices)
    (call : node'.call = node.call) (sys : node'.sys = node.sys) : node.Records uid devices := by
  have claims : node'.claims = node.claims := by rw [Node.claims, sys, Node.claims]
  cases record with
  | stored entry => exact .stored (claims ▸ entry)
  | coming asking running absent prepared =>
    exact .coming (call ▸ asking) (sys ▸ running) (claims ▸ absent) prepared

/-- A `Prepare` puts on record what the profile, as it is now, gives its claim. -/
theorem Node.Records.asking {driver : Instance config} {claim : ResourceClaim} {uid : ClaimUID}
    {devices : PreparedDevices} (running : node.sys.running = some driver)
    (record : Node.Records { node with call := some (.prepare claim node.profile) } uid devices) :
    node.Records uid devices ∨ uid = claim.uid ∧ ∃ rt rt',
      (driver.state.withProfile node.profile).prepareDevices rt rt' claim = .ok devices := by
  cases record with
  | stored entry => exact Or.inl (.stored entry)
  | @coming _ _ _ rt rt' _ asking running' _ prepared =>
    cases asking
    cases running.symm.trans running'
    exact Or.inr ⟨rfl, rt, rt', prepared⟩

/-- An event that puts nothing on record, with a profile that keeps what is. -/
theorem NodeInv.next (inv : NodeInv config allocationOf node) (synced : Synced node')
    (anchored : node'.profile.Anchored)
    (asking : ∀ claim asked, node'.call = some (.prepare claim asked) →
      node.call = some (.prepare claim asked))
    (records : ∀ uid devices, node'.Records uid devices → node.Records uid devices)
    (keeps : ∀ uid devices, node.Records uid devices → KeepsEntry node'.profile devices)
    (knows : node'.InTransit → node'.Knows) : NodeInv config allocationOf node' where
  synced := synced
  anchored := anchored
  asking claim asked now := inv.asking claim asked (asking claim asked now)
  origin uid devices record := inv.origin uid devices (records uid devices record)
  keeps uid devices record := keeps uid devices (records uid devices record)
  knows := synced.knows knows

/-- A new process on a disk whose entries are on record. -/
theorem NodeInv.reborn (inv : NodeInv config allocationOf node) {disk : Disk}
    (entries : ∀ uid devices, (disk.checkpoint.getD ∅).lookup uid = some devices →
      node.Records uid devices) : NodeInv config allocationOf (.reborn config opts disk) :=
  inv.next (.reborn disk) (fun _ _ found => by cases found) (fun _ _ wrong => by cases wrong)
    (fun uid devices record => entries uid devices (record.entry rfl))
    (fun _ devices _ => keepsEntry_newProfile config.nodeName devices)
    (fun _ _ member => by cases member)

/-- A call that ends with a checkpoint whose entries were on record. -/
theorem NodeInv.returns (inv : NodeInv config allocationOf node) {sys : System config}
    (synced : Synced (node.returns opts sys))
    (entries : ∀ uid devices, (sys.disk.checkpoint.getD ∅).lookup uid = some devices →
      node.Records uid devices) : NodeInv config allocationOf (node.returns opts sys) := by
  cases running : sys.running with
  | none =>
    rw [returns_of_stopped running]
    exact inv.reborn entries
  | some driver =>
    rw [returns_of_running running] at synced ⊢
    exact inv.next synced inv.anchored (fun _ _ wrong => by cases wrong)
      (fun uid devices record => entries uid devices (record.entry rfl)) inv.keeps
      (fun _ _ member => by cases member)

/-- **One event keeps the invariant.** -/
theorem step_inv (honest : ∀ a b, deepEqual a b = true →
      reportedNames a config.nodeName = reportedNames b config.nodeName)
    {event : NodeEvent} (inv : NodeInv config allocationOf node)
    (steady : SteadyStep config opts allocationOf mayFail deepEqual node event node') :
    NodeInv config allocationOf node' := by
  obtain ⟨step, keeps, knows⟩ := steady
  have synced := inv.synced.step honest step
  cases step with
  | topology rt topo idle =>
    exact inv.next synced (anchored_applyTopology rt node.profile topo) (fun _ _ => id)
      (fun _ _ record => record.congr rfl rfl) keeps knows
  | handOver offered free ready =>
    exact inv.next synced inv.anchored (fun _ _ => id) (fun _ _ record => record.congr rfl rfl) inv.keeps
      knows
  | setResources received free step =>
    obtain ⟨driver, running, rfl⟩ := step.running_setResources
    exact inv.next synced inv.anchored (fun _ _ => id)
      (fun uid devices record => .stored (record.entry free)) inv.keeps knows
  | @ask driver claim free running allocated =>
    -- the only event that puts something on record
    refine ⟨synced, inv.anchored, ?_, fun uid devices record => ?_, fun uid devices record => ?_,
      synced.knows knows⟩
    · intro claim' asked asking
      cases asking
      exact allocated
    · rcases record.asking running with old | ⟨rfl, rt, rt', prepared⟩
      · exact inv.origin uid devices old
      · rw [← allocated]
        exact ⟨rt, rt', driver.state, node.profile, driver.ofConfig, inv.anchored, prepared⟩
    · rcases record.asking running with old | ⟨rfl, rt, rt', prepared⟩
      · exact inv.keeps uid devices old
      · exact fun _ => prepareDevices_edits inv.anchored prepared
  | @prepare rt rt' driver claim asked outcomes disk result asking running ran =>
    have ends := exec_prepare mayFail rt rt' (driver.state.withProfile asked) claim outcomes node.sys.disk
    rw [ran] at ends
    refine inv.returns synced fun uid devices entry => ?_
    rcases ends.entry entry with old | ⟨rfl, absent, prepared⟩
    · exact .stored old
    · exact .coming asking running absent prepared
  | unprepare free step =>
    refine inv.returns synced fun uid devices entry => .stored ?_
    exact step.changes.entry_old (fun _ _ wrong => by cases wrong) entry
  | build received free fresh =>
    refine inv.next synced inv.anchored (fun _ _ wrong => by cases wrong) (fun uid devices record => ?_)
      inv.keeps knows
    cases record with
    | stored entry => exact .stored entry
    | coming asking => cases asking
  | built building step =>
    refine inv.returns synced fun uid devices entry => .stored ?_
    exact step.changes.entry_old (fun _ _ wrong => by cases wrong) entry
  | die => exact inv.reborn fun uid devices entry => .stored entry

/-! ### Specs written from the checkpoint -/

/-- **What is rewritten is current.** -/
theorem NodeInv.rewritesCurrent (inv : NodeInv config allocationOf node) :
    RewritesCurrent config allocationOf node := by
  intro rewrite member spec derived
  have rewriting := mem_rewrites_iff.mp member
  obtain ⟨devices, entry, valid⟩ := rewriting.stored
  have ours := rewriting.ofConfig
  have known := inv.knows rewrite member
  obtain ⟨rt, rt', s₀, p₀, ours₀, anchored₀, prepared⟩ := inv.origin rewrite.uid devices (.stored entry)
  rw [entry, Option.join_some] at known derived
  have fresh := prepareDevices_transfer anchored₀ inv.anchored
    (ours.driverName.trans ours₀.driverName.symm) (ours.decoder.trans ours₀.decoder.symm)
    (ours.cdi.trans ours₀.cdi.symm) prepared valid known
    (inv.keeps rewrite.uid devices (.stored entry) known)
  rw [← ours.cdi] at derived
  exact ⟨fun again again' => ⟨devices, fresh again again', derived⟩,
    claimSpec_nodes inv.anchored (fresh rt rt') derived⟩

/-- A `Prepare` that succeeds on a checkpointed claim has written what it rewrites. -/
theorem PrepareEnds.rewrote {rt rt' : Runtime} {s : DeviceState Config} {claim : ResourceClaim}
    {disk disk' : Disk} {returned : List KubeletDevice} {devices : List PreparedDevice}
    (ends : PrepareEnds rt rt' s claim disk disk' (some (.ok returned)))
    (entry : (disk.checkpoint.getD ∅).lookup claim.uid = some (some devices)) :
    s.validatePreparedDevices claim.uid (some devices) = .ok () ∧
      ∃ spec, s.cdi.claimSpec claim.uid (some devices) = .ok spec ∧
        disk'.root.lookup (s.cdi.claimFile claim.uid) = some (.spec spec) := by
  have stored : ∀ claims, disk.checkpoint = some claims →
      claims.lookup claim.uid = some (some devices) := by
    intro claims same
    rw [same, Option.getD_some] at entry
    exact entry
  cases ends with
  | untouched _ wrong => exact absurd rfl (wrong returned)
  | halfway _ _ _ _ _ _ _ _ wrong => exact absurd rfl (wrong returned)
  | prepared claims _ _ _ same absent =>
    rw [stored claims same] at absent
    cases absent
  | rewritten claims recorded spec _ same found valid derived =>
    cases (stored claims same).symm.trans found
    refine ⟨valid, spec, derived, ?_⟩
    rw [putSpec_lookup, if_pos rfl]

end Run

/-- No driver has run yet: there is no checkpoint, and any files in the root. -/
def blankNode (config : DriverConfig Config) (opts : Options) (root : GoMap String RootEntry) :
    Node config :=
  .reborn config opts { checkpoint := none, root := root }

theorem blankNode_inv (config : DriverConfig Config) (opts : Options)
    (allocationOf : ClaimUID → Option Allocation) (root : GoMap String RootEntry) :
    NodeInv config allocationOf (blankNode config opts root) where
  synced := .reborn _
  anchored _ _ found := by cases found
  asking _ _ wrong := by cases wrong
  origin uid devices record := by cases record.entry rfl
  keeps _ devices _ := keepsEntry_newProfile config.nodeName devices
  knows _ member := by cases member

/-- **In every steady run, every spec written from the checkpoint is current**, at every moment of the
call that writes it, and a call that succeeds leaves it in its file. Equal resources are assumed to
report the same devices. -/
theorem reprepared_current (config : DriverConfig Config) (opts : Options)
    (allocationOf : ClaimUID → Option Allocation) (mayFail : DiskOp → Bool)
    (deepEqual : DriverResources → DriverResources → Bool)
    (honest : ∀ a b, deepEqual a b = true →
      reportedNames a config.nodeName = reportedNames b config.nodeName)
    {root : GoMap String RootEntry} {events : List NodeEvent} {node : Node config}
    (run : Run (SteadyStep config opts allocationOf mayFail deepEqual) (blankNode config opts root)
      events node) :
    RewritesCurrent config allocationOf node ∧
      ∀ event node', NodeStep config opts allocationOf mayFail deepEqual node event node' →
        LeavesCurrent config allocationOf node event node' := by
  have inv : NodeInv config allocationOf node :=
    run.invariant (fun _ _ _ inv step => step_inv honest inv step)
      (blankNode_inv config opts allocationOf root)
  refine ⟨inv.rewritesCurrent, fun event node' step => ?_⟩
  cases step with
  | @prepare rt rt' driver claim asked outcomes disk result asking running ran =>
    match result with
    | none => trivial
    | some (.error _) => trivial
    | some (.ok returned) =>
      intro driver' devices running' entry
      cases running.symm.trans running'
      have ends := exec_prepare mayFail rt rt' (driver.state.withProfile asked) claim outcomes
        node.sys.disk
      rw [ran] at ends
      obtain ⟨valid, spec, derived, file⟩ := ends.rewrote entry
      have found : (node.claims.lookup claim.uid).join = some devices := by rw [entry, Option.join_some]
      have member : ⟨driver.state, claim.uid⟩ ∈ node.rewrites := by
        refine mem_rewrites_iff.mpr (.prepare asking running (by rw [found]; rfl) ?_)
        rw [valid_iff, found]
        exact valid
      have current := inv.rewritesCurrent _ member spec (by rw [found, ← driver.cdi]; exact derived)
      rw [← inv.asking claim asked asking] at current
      refine ⟨spec, ?_, ?_⟩
      · rw [returns_disk, ← driver.cdi]
        exact file
      · rw [returns_of_running rfl]
        exact current
  | @built resources sys success building step =>
    match success with
    | false => trivial
    | true =>
      intro resources' building' uid valid
      cases building.symm.trans building'
      obtain ⟨spec, derived, file⟩ := step.settled.claim uid valid
      have member : ⟨initialState config resources, uid⟩ ∈ node.rewrites :=
        mem_rewrites_iff.mpr (.build building valid)
      refine ⟨spec, ?_, ?_⟩
      · rw [returns_disk]
        exact file
      · rw [returns_of_running step.running_restart]
        exact inv.rewritesCurrent _ member spec derived
  | _ => trivial

/-! ### A renumbered host -/

/-- A `Prepare` that ends, from what its run evaluates to. -/
theorem NodeStep.of_prepare {config : DriverConfig Config} {opts : Options}
    {allocationOf : ClaimUID → Option Allocation} {mayFail : DiskOp → Bool}
    {deepEqual : DriverResources → DriverResources → Bool} (rt rt' : Runtime) (node : Node config)
    {driver : Instance config} {claim : ResourceClaim} {asked : Profile} (outcomes : List Outcome)
    {result : Option (Except String (List KubeletDevice))}
    (asking : node.call = some (.prepare claim asked)) (running : node.sys.running = some driver)
    (returned : (Prog.exec (Disk.act mayFail) ((driver.state.withProfile asked).prepare rt rt' claim)
      outcomes node.sys.disk).2 = result) :
    NodeStep config opts allocationOf mayFail deepEqual node (.prepare claim result)
      (node.returns opts ⟨(Prog.exec (Disk.act mayFail)
        ((driver.state.withProfile asked).prepare rt rt' claim) outcomes node.sys.disk).1,
          stillRunning driver result⟩) :=
  .prepare node rt rt' outcomes asking running (Prod.ext rfl returned)

/-- With no call in progress it is the checkpoint's entries that a topology has to keep. -/
theorem keepsNodes_idle {config : DriverConfig Config} {node : Node config} {rt : Runtime}
    {topo : HostPhysicalTopology} (idle : node.call = none)
    (entries : ∀ entry ∈ node.claims.entries,
      KeepsEntry (applyTopology rt node.profile topo).2 entry.2) :
    KeepsNodes node (.topology rt topo) :=
  fun uid devices record => entries ⟨uid, devices⟩ (AList.mem_lookup_iff.mp (record.entry idle))

/-- With no call in progress nothing is rewritten. -/
theorem knows_idle {config : DriverConfig Config} {node : Node config} (idle : node.call = none) :
    node.Knows := by
  intro rewrite member
  cases mem_rewrites_iff.mp member with
  | prepare asking => cases idle.symm.trans asking
  | build building => cases idle.symm.trans building

theorem not_inTransit {config : DriverConfig Config} {node : Node config} (offered : node.offered = none)
    (received : node.received = none) : ¬ node.InTransit := by
  simp [Node.InTransit, offered, received]

/-- Every claim was allocated chip 0. -/
def chip0Of (_ : ClaimUID) : Option Allocation := (sampleClaim uidA ["tt-0"]).allocation

/-- The kubelet's device of chip 0. -/
def chip0Device : KubeletDevice := (samplePrepared uidA "tt-0").device

/-- The driver starts on the host and prepares chip 0 for a claim. -/
def chip0Events : List NodeEvent :=
  [.topology Runtime.plain twoTrayHost, .handOver, .build, .built true,
    .ask (sampleClaim uidA ["tt-0"]),
    .prepare (sampleClaim uidA ["tt-0"]) (some (.ok [chip0Device]))]

/-- The node after that. -/
def chip0Node : { node : Node sampleConfig //
    Run (SteadyStep sampleConfig ⟨false, false⟩ chip0Of noneFails sampleEqual)
      (blankNode sampleConfig ⟨false, false⟩ ∅) chip0Events node } := by
  refine ⟨_, .snoc (.snoc (.snoc (.snoc (.snoc (.snoc (.nil _)
    ⟨.topology _ Runtime.plain twoTrayHost rfl, keepsNodes_idle rfl ?_, fun _ => knows_idle rfl⟩)
    ⟨.handOver _ rfl rfl rfl, trivial, fun _ => knows_idle rfl⟩)
    ⟨.build _ rfl rfl rfl, trivial, fun transit => absurd transit (not_inTransit rfl rfl)⟩)
    ⟨.built _ rfl (Step.of_restart _ _ (List.replicate 6 .done) _ ?_), trivial,
      fun _ => knows_idle rfl⟩)
    ⟨.ask _ (sampleClaim uidA ["tt-0"]) rfl rfl rfl, trivial,
      fun transit => absurd transit (not_inTransit rfl rfl)⟩)
    ⟨NodeStep.of_prepare Runtime.plain Runtime.plain _ (List.replicate 4 .done) rfl rfl ?_, trivial,
      fun _ => knows_idle rfl⟩⟩
  all_goals decide +kernel

/-- The paths a spec file injects. -/
def injectedPaths (disk : Disk) (file : String) : List String :=
  match disk.root.lookup file with
  | some (.spec spec) => spec.devices.flatMap fun device =>
      device.containerEdits.deviceNodes.map DeviceNode.path
  | _ => []

/-- The paths of the nodes a device is assigned. -/
def assignedPaths (p : Profile) (device : String) : List String :=
  ((p.unitByDevice.lookup device).map unitEdits).elim [] fun edits =>
    edits.deviceNodes.map DeviceNode.path

/-- The host with the device nodes of its two MMIO chips swapped. -/
def swappedHost : HostPhysicalTopology :=
  { twoTrayHost with
    asics := twoTrayHost.asics.map fun asic => { asic with deviceNodeId := 1 - asic.deviceNodeId } }

/-- **A claim can get the nodes of another device**: chip 0 is prepared as `/dev/tenstorrent/0`, the
agent reports the nodes of the chips swapped, and the claim, prepared again, is still given
`/dev/tenstorrent/0`, which is now that of chip 2. -/
theorem renumbered_stale :
    ∃ node node' : Node sampleConfig,
      Run (NodeStep sampleConfig ⟨false, false⟩ chip0Of noneFails sampleEqual)
        (blankNode sampleConfig ⟨false, false⟩ ∅)
        (chip0Events ++ [.topology Runtime.plain swappedHost, .handOver, .setResources,
          .ask (sampleClaim uidA ["tt-0"])]) node ∧
      NodeStep sampleConfig ⟨false, false⟩ chip0Of noneFails sampleEqual node
        (.prepare (sampleClaim uidA ["tt-0"]) (some (.ok [chip0Device]))) node' ∧
      injectedPaths node'.sys.disk (sampleHandler.claimFile uidA) = ["/dev/tenstorrent/0"] ∧
      assignedPaths node'.profile "tt-0" = ["/dev/tenstorrent/1"] ∧
      assignedPaths node'.profile "tt-2" = ["/dev/tenstorrent/0"] := by
  refine ⟨_, _, (chip0Node.2.mono fun _ _ _ steady => steady.step).append
    (.snoc (.snoc (.snoc (.snoc (.nil _)
      (.topology _ Runtime.plain swappedHost rfl))
      (.handOver _ rfl rfl rfl))
      (.setResources _ rfl rfl (.setResources _ _)))
      (.ask _ (sampleClaim uidA ["tt-0"]) rfl rfl rfl)),
    NodeStep.of_prepare Runtime.plain Runtime.plain _ (List.replicate 3 .done) rfl rfl ?_, ?_, ?_, ?_⟩
  all_goals decide +kernel

/-- The host without chip 0, whose node chip 2 has now. -/
def lostHost : HostPhysicalTopology :=
  { swappedHost with asics := swappedHost.asics.filter fun asic => asic.chipId ≠ 0 }

/-- **So can a claim whose device is gone, until the driver has taken the topology over**: every
topology keeps nodes, but the claim, prepared again before `SetResources`, gets the node of chip 2. -/
theorem withdrawn_stale :
    ∃ node asking node' : Node sampleConfig,
      Run (SteadyStep sampleConfig ⟨false, false⟩ chip0Of noneFails sampleEqual)
        (blankNode sampleConfig ⟨false, false⟩ ∅) (chip0Events ++ [.topology Runtime.plain lostHost]) node ∧
      NodeStep sampleConfig ⟨false, false⟩ chip0Of noneFails sampleEqual node
        (.ask (sampleClaim uidA ["tt-0"])) asking ∧
      NodeStep sampleConfig ⟨false, false⟩ chip0Of noneFails sampleEqual asking
        (.prepare (sampleClaim uidA ["tt-0"]) (some (.ok [chip0Device]))) node' ∧
      injectedPaths node'.sys.disk (sampleHandler.claimFile uidA) = ["/dev/tenstorrent/0"] ∧
      assignedPaths node'.profile "tt-0" = [] ∧
      assignedPaths node'.profile "tt-2" = ["/dev/tenstorrent/0"] := by
  refine ⟨_, _, _, .snoc chip0Node.2
      ⟨.topology _ Runtime.plain lostHost rfl, keepsNodes_idle rfl ?_, fun _ => knows_idle rfl⟩,
    .ask _ (sampleClaim uidA ["tt-0"]) rfl rfl rfl,
    NodeStep.of_prepare Runtime.plain Runtime.plain _ (List.replicate 3 .done) rfl rfl ?_, ?_, ?_, ?_⟩
  all_goals decide +kernel

/-- The host with another node for the chip no claim holds. -/
def movedHost : HostPhysicalTopology :=
  { twoTrayHost with
    asics := twoTrayHost.asics.map fun asic =>
      if asic.chipId = 2 then { asic with deviceNodeId := 7 } else asic }

/-- Another chip moves. While the driver has yet to take the topology over, the claim is prepared again;
the process dies, and a new one regenerates the claim's spec. -/
def movedEvents : List NodeEvent :=
  chip0Events ++ [.topology Runtime.plain movedHost, .ask (sampleClaim uidA ["tt-0"])]

theorem movedHost_run : ∃ asking building : Node sampleConfig,
    Run (SteadyStep sampleConfig ⟨false, false⟩ chip0Of noneFails sampleEqual)
      (blankNode sampleConfig ⟨false, false⟩ ∅) movedEvents asking ∧
    Run (SteadyStep sampleConfig ⟨false, false⟩ chip0Of noneFails sampleEqual) asking
      [.die, .topology Runtime.plain movedHost, .handOver, .build] building ∧
    asking.rewrites.map Rewrite.uid = [uidA] ∧ building.rewrites.map Rewrite.uid = [uidA] ∧
    (∃ node', NodeStep sampleConfig ⟨false, false⟩ chip0Of noneFails sampleEqual asking
      (.prepare (sampleClaim uidA ["tt-0"]) (some (.ok [chip0Device]))) node') ∧
    ∃ node', NodeStep sampleConfig ⟨false, false⟩ chip0Of noneFails sampleEqual building
      (.built true) node' := by
  refine ⟨_, _, .snoc (.snoc chip0Node.2
    ⟨.topology _ Runtime.plain movedHost rfl, keepsNodes_idle rfl ?_, fun _ => knows_idle rfl⟩)
    ⟨.ask _ (sampleClaim uidA ["tt-0"]) rfl rfl rfl, trivial, ?_⟩,
    .snoc (.snoc (.snoc (.snoc (.nil _)
      ⟨.die _, trivial, fun _ => knows_idle rfl⟩)
      ⟨.topology _ Runtime.plain movedHost rfl, keepsNodes_idle rfl ?_, fun _ => knows_idle rfl⟩)
      ⟨.handOver _ rfl rfl rfl, trivial, fun _ => knows_idle rfl⟩)
      ⟨.build _ rfl rfl rfl, trivial, fun transit => absurd transit (not_inTransit rfl rfl)⟩, ?_, ?_,
    ⟨_, NodeStep.of_prepare Runtime.plain Runtime.plain _ (List.replicate 3 .done) rfl rfl ?_⟩,
    ⟨_, .built _ rfl (Step.of_restart _ _ (List.replicate 9 .done) _ ?_)⟩⟩
  all_goals decide +kernel

/-- Both times the claim gets its own chip's node. -/
theorem movedHost_current :
    ∃ asking building prepared built : Node sampleConfig,
      Run (SteadyStep sampleConfig ⟨false, false⟩ chip0Of noneFails sampleEqual)
        (blankNode sampleConfig ⟨false, false⟩ ∅) movedEvents asking ∧
      Run (SteadyStep sampleConfig ⟨false, false⟩ chip0Of noneFails sampleEqual)
        (blankNode sampleConfig ⟨false, false⟩ ∅)
        (movedEvents ++ [.die, .topology Runtime.plain movedHost, .handOver, .build]) building ∧
      asking.rewrites.map Rewrite.uid = [uidA] ∧ building.rewrites.map Rewrite.uid = [uidA] ∧
      RewritesCurrent sampleConfig chip0Of asking ∧ RewritesCurrent sampleConfig chip0Of building ∧
      LeavesCurrent sampleConfig chip0Of asking
        (.prepare (sampleClaim uidA ["tt-0"]) (some (.ok [chip0Device]))) prepared ∧
      LeavesCurrent sampleConfig chip0Of building (.built true) built := by
  have honest : ∀ a b, sampleEqual a b = true →
      reportedNames a sampleConfig.nodeName = reportedNames b sampleConfig.nodeName :=
    fun a b same => by rw [of_decide_eq_true same]
  obtain ⟨asking, building, run, rest, rewritten, regenerated, ⟨prepared, ends⟩, built, starts⟩ :=
    movedHost_run
  have atAsking := reprepared_current sampleConfig ⟨false, false⟩ chip0Of noneFails sampleEqual honest run
  have atBuilding := reprepared_current sampleConfig ⟨false, false⟩ chip0Of noneFails sampleEqual honest
    (run.append rest)
  exact ⟨asking, building, prepared, built, run, run.append rest, rewritten, regenerated, atAsking.1,
    atBuilding.1, atAsking.2 _ _ ends, atBuilding.2 _ _ starts⟩

end DraDriver.Plugin
