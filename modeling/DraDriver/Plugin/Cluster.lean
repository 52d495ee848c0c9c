/-
**From the scheduler's counters to the device nodes in the containers.**

A cluster is a scheduler that allocates published devices to claims through their counters, a kubelet
that has claims prepared and unprepared, and the node's driver with its disk. The agent keeps
reporting one topology, also while a `Prepare` is running; calls fail and die at any disk operation,
and the driver restarts at any time.

* `Cluster.claimed` — the claims the kubelet has had prepared, successfully or not, and not unprepared
  since. A claim keeps its allocation while it is claimed: that is all the scheduler and the kubelet
  have to agree on.
* `Given` — the devices a claim is given under its current allocation.
* `ClusterInv` — every checkpointed claim is claimed, and its devices and those of every spec that a
  successful `Prepare` has handed out are given under its current allocation.
* **`cluster_isolation`** — whatever happens, the specs of two claims that are ready have no `/dev` node
  in common.
-/

import DraDriver.Base.Ledger
import DraDriver.Plugin.Renumber
import DraDriver.Tenstorrent.Stable

namespace DraDriver.Plugin

open DraDriver.Base DraDriver.FabricManager DraDriver.Profiles DraDriver.Tenstorrent

variable {Config : Type}

/-! ### The cluster -/

/-- The node, what the scheduler has allocated, and what the kubelet holds: `claimed` are the claims it
has called `Prepare` for and not successfully unprepared since, `ready` those of them for which a
`Prepare` has succeeded. -/
structure Cluster (config : DriverConfig Config) where
  node : Node config
  ledger : Ledger ResourceClaim Device
  claimed : List ClaimUID
  ready : List ClaimUID

/-- One step of the scheduler, of the kubelet with the driver, or of the driver alone. -/
inductive ClusterEvent
  | allocate (claim : ResourceClaim) (devices : List Device)
  | deallocate (claim : ResourceClaim)
  /-- The kubelet has a claim prepared: the call has the lock and asks the profile. -/
  | ask (claim : ResourceClaim)
  /-- The call ends. -/
  | prepare (claim : ResourceClaim) (result : Option (Except String (List KubeletDevice)))
  | unprepare (uid : ClaimUID) (readFailed : Bool) (result : Option (Except String Unit))
  | driver (event : NodeEvent)

/-- What the driver does alone: it starts and dies, and takes over the one topology that the agent keeps
reporting. -/
def Alone (topo : HostPhysicalTopology) (base : Runtime) : NodeEvent → Prop
  | .topology rt reported => reported = topo ∧ rt.SortsAlike base
  | .handOver | .setResources | .build | .built _ | .die => True
  | .ask _ | .prepare _ _ | .unprepare _ _ _ => False

/-- The claim's allocation names these devices of the node, none of them for admin access. -/
def Allocates (config : DriverConfig Config) (claim : ResourceClaim) (devices : List Device) : Prop :=
  ∃ allocation, claim.allocation = some allocation ∧
    (∀ result ∈ ownResults config.driverName allocation.results,
      result.pool = config.nodeName ∧ result.adminAccess ≠ some true) ∧
    (ownResults config.driverName allocation.results).map DeviceRequestAllocationResult.device =
      devices.map Device.name

/-- No two MMIO chips share a device node. -/
def NodeIdsDistinct (topo : HostPhysicalTopology) : Prop :=
  (topo.mmioAsics.map AsicInfo.deviceNodeId).Nodup

instance (topo : HostPhysicalTopology) : Decidable (NodeIdsDistinct topo) :=
  inferInstanceAs (Decidable (List.Nodup _))

section Steps

variable (config : DriverConfig Config) (opts : Options) (topo : HostPhysicalTopology) (base : Runtime)
  (mayFail : DiskOp → Bool) (deepEqual : DriverResources → DriverResources → Bool)

/-- The profile of a driver that has the topology. -/
def currentProfile : Profile := (firstTopology config opts base topo).2

/-- The published devices as the scheduler sees them. -/
def publishedPool : CounterPool Device (String × String) :=
  counterPool (poolOf (firstTopology config opts base topo).1 config.nodeName)

/-- **One event of the cluster.** A claim is deallocated only if it is not claimed, and prepared only
with its current allocation. -/
inductive ClusterStep : Cluster config → ClusterEvent → Cluster config → Prop
  | allocate (cluster : Cluster config) (claim : ResourceClaim) (devices : List Device)
      (fresh : ∀ entry ∈ cluster.ledger, entry.1.uid ≠ claim.uid)
      (allocates : Allocates config claim devices)
      (granted : Ledger.Grants (publishedPool config opts topo base) cluster.ledger devices) :
      ClusterStep cluster (.allocate claim devices)
        { cluster with ledger := cluster.ledger ++ [(claim, devices)] }
  | deallocate (cluster : Cluster config) (claim : ResourceClaim) (devices : List Device)
      (before after : Ledger ResourceClaim Device)
      (listed : cluster.ledger = before ++ (claim, devices) :: after)
      (unclaimed : claim.uid ∉ cluster.claimed) :
      ClusterStep cluster (.deallocate claim) { cluster with ledger := before ++ after }
  | ask (cluster : Cluster config) (claim : ResourceClaim) {node : Node config} (devices : List Device)
      (listed : (claim, devices) ∈ cluster.ledger)
      (step : NodeStep config opts (fun _ => claim.allocation) mayFail deepEqual cluster.node
        (.ask claim) node) :
      ClusterStep cluster (.ask claim)
        { cluster with node := node, claimed := claim.uid :: cluster.claimed }
  | prepare (cluster : Cluster config) {claim : ResourceClaim} {node : Node config}
      {result : Option (Except String (List KubeletDevice))}
      (step : NodeStep config opts (fun _ => claim.allocation) mayFail deepEqual cluster.node
        (.prepare claim result) node) :
      ClusterStep cluster (.prepare claim result) { cluster with
        node := node
        ready := if succeeded result then claim.uid :: cluster.ready else cluster.ready }
  | unprepare (cluster : Cluster config) {node : Node config} {uid : ClaimUID} {readFailed : Bool}
      {result : Option (Except String Unit)}
      (step : NodeStep config opts (fun _ => none) mayFail deepEqual cluster.node
        (.unprepare uid readFailed result) node) :
      ClusterStep cluster (.unprepare uid readFailed result) { cluster with
        node := node
        claimed := if succeeded result then cluster.claimed.filter (· ≠ uid) else cluster.claimed
        ready := if succeeded result then cluster.ready.filter (· ≠ uid) else cluster.ready }
  | driver (cluster : Cluster config) {event : NodeEvent} {node : Node config}
      (alone : Alone topo base event)
      (step : NodeStep config opts (fun _ => none) mayFail deepEqual cluster.node event node) :
      ClusterStep cluster (.driver event) { cluster with node := node }

end Steps

/-- Nothing is allocated, and no driver has run. -/
def blankCluster (config : DriverConfig Config) (opts : Options) (root : GoMap String RootEntry) :
    Cluster config :=
  ⟨blankNode config opts root, [], [], []⟩

/-! ### What is kept -/

/-- **The devices a claim is given** under the topology: what `prepareDevices` returns for it. -/
def Given (config : DriverConfig Config) (p : Profile) (claim : ResourceClaim)
    (devices : PreparedDevices) : Prop :=
  ∃ rt rt' s, OfConfig config s ∧ (s.withProfile p).prepareDevices rt rt' claim = .ok devices

/-- **What the driver's disk keeps**: every checkpointed claim is claimed, and the entry and the spec of a
ready claim are given under its current allocation. -/
structure Serves (config : DriverConfig Config) (p : Profile) (ledger : Ledger ResourceClaim Device)
    (claimed ready : List ClaimUID) (disk : Disk) : Prop where
  claimed : ∀ uid devices, (disk.checkpoint.getD ∅).lookup uid = some (some devices) → uid ∈ claimed
  entries : ∀ entry ∈ ledger, ∀ devices, (disk.checkpoint.getD ∅).lookup entry.1.uid = some devices →
    devices.isSome = true ∨ entry.1.uid ∈ ready → Given config p entry.1 devices
  files : ∀ entry ∈ ledger, entry.1.uid ∈ ready → ∀ spec,
    disk.root.lookup (config.cdi.claimFile entry.1.uid) = some (.spec spec) →
    ∃ devices, Given config p entry.1 devices ∧ config.cdi.claimSpec entry.1.uid devices = .ok spec

/-- **What holds between events.** -/
structure ClusterInv (config : DriverConfig Config) (opts : Options) (topo : HostPhysicalTopology)
    (base : Runtime) (cluster : Cluster config) : Prop where
  exclusive : Scheme.Exclusive (publishedPool config opts topo base)
    (currentProfile config opts topo base).Covers (Ledger.held cluster.ledger)
  owners : (cluster.ledger.map fun entry => entry.1.uid).Nodup
  allocates : ∀ entry ∈ cluster.ledger, Allocates config entry.1 entry.2
  profile : cluster.node = .reborn config opts cluster.node.sys.disk ∨
    cluster.node.profile = currentProfile config opts topo base
  asking : ∀ claim asked, cluster.node.call = some (.prepare claim asked) →
    asked = currentProfile config opts topo base ∧ claim.uid ∈ cluster.claimed ∧
      ∃ devices, (claim, devices) ∈ cluster.ledger
  listed : ∀ uid ∈ cluster.claimed, ∃ entry ∈ cluster.ledger, entry.1.uid = uid
  ready : cluster.ready ⊆ cluster.claimed
  serves : Serves config (currentProfile config opts topo base) cluster.ledger cluster.claimed
    cluster.ready cluster.node.sys.disk

section Keeps

variable {config : DriverConfig Config} {opts : Options} {topo : HostPhysicalTopology} {base : Runtime}
  {mayFail : DiskOp → Bool} {deepEqual : DriverResources → DriverResources → Bool}
  {cluster : Cluster config}

theorem ClusterInv.blank (config : DriverConfig Config) (opts : Options) (topo : HostPhysicalTopology)
    (base : Runtime) (root : GoMap String RootEntry) :
    ClusterInv config opts topo base (blankCluster config opts root) where
  exclusive := Scheme.start_exclusive
  owners := List.nodup_nil
  allocates := by simp [blankCluster]
  profile := Or.inl rfl
  asking _ _ wrong := by cases wrong
  listed := by simp [blankCluster]
  ready := List.nil_subset _
  serves := by
    refine ⟨?_, by simp [blankCluster], by simp [blankCluster]⟩
    intro uid devices entry
    cases entry

/-- A claim has one allocation. -/
theorem ClusterInv.owner_eq (inv : ClusterInv config opts topo base cluster)
    {entry other : ResourceClaim × List Device} (listed : entry ∈ cluster.ledger)
    (listed' : other ∈ cluster.ledger) (same : entry.1.uid = other.1.uid) : entry = other :=
  List.inj_on_of_nodup_map inv.owners listed listed' same

theorem ClusterInv.allocate (distinct : topo.ChipIdsDistinct)
    (inv : ClusterInv config opts topo base cluster) {claim : ResourceClaim} {devices : List Device}
    (fresh : ∀ entry ∈ cluster.ledger, entry.1.uid ≠ claim.uid)
    (allocates : Allocates config claim devices)
    (granted : Ledger.Grants (publishedPool config opts topo base) cluster.ledger devices) :
    ClusterInv config opts topo base { cluster with ledger := cluster.ledger ++ [(claim, devices)] } := by
  have unclaimed : claim.uid ∉ cluster.claimed := by
    intro claimed
    obtain ⟨entry, listed, same⟩ := inv.listed _ claimed
    exact fresh entry listed same
  have scheme : Scheme (publishedPool config opts topo base)
      (currentProfile config opts topo base).Covers :=
    published_scheme base (newProfile config.nodeName opts) distinct
  have split : ∀ entry ∈ cluster.ledger ++ [(claim, devices)],
      entry ∈ cluster.ledger ∨ entry = (claim, devices) := by simp
  refine ⟨Ledger.exclusive_grant scheme inv.exclusive granted claim, ?_, ?_, inv.profile, ?_, ?_,
    inv.ready, inv.serves.claimed, ?_, ?_⟩
  · rw [List.map_append]
    refine List.nodup_append.mpr ⟨inv.owners, List.nodup_singleton _, ?_⟩
    rintro uid old _ new rfl
    obtain ⟨entry, listed, same⟩ := List.mem_map.mp old
    exact fresh entry listed (same.trans (List.mem_singleton.mp new))
  · intro entry member
    rcases split entry member with old | rfl
    · exact inv.allocates entry old
    · exact allocates
  · intro asker asked asking
    obtain ⟨current, claimed, given, listed⟩ := inv.asking asker asked asking
    exact ⟨current, claimed, given, List.mem_append_left _ listed⟩
  · intro uid claimed
    obtain ⟨entry, listed, same⟩ := inv.listed uid claimed
    exact ⟨entry, List.mem_append_left _ listed, same⟩
  · intro entry member given found which
    rcases split entry member with old | rfl
    · exact inv.serves.entries entry old given found which
    · rcases which with some | ready
      · obtain ⟨given', rfl⟩ := Option.isSome_iff_exists.mp some
        exact absurd (inv.serves.claimed _ given' found) unclaimed
      · exact absurd (inv.ready ready) unclaimed
  · intro entry member ready
    rcases split entry member with old | rfl
    · exact inv.serves.files entry old ready
    · exact absurd (inv.ready ready) unclaimed

theorem ClusterInv.deallocate (inv : ClusterInv config opts topo base cluster) {claim : ResourceClaim}
    {devices : List Device} {before after : Ledger ResourceClaim Device}
    (listed : cluster.ledger = before ++ (claim, devices) :: after)
    (unclaimed : claim.uid ∉ cluster.claimed) :
    ClusterInv config opts topo base { cluster with ledger := before ++ after } := by
  have part : List.Sublist (before ++ after) cluster.ledger := by
    rw [listed]
    exact (List.Sublist.refl _).append (List.sublist_cons_self _ _)
  have stays : ∀ entry ∈ cluster.ledger, entry.1.uid ∈ cluster.claimed → entry ∈ before ++ after := by
    intro entry member claimed
    rw [listed] at member
    rcases List.mem_append.mp member with first | second
    · exact List.mem_append_left _ first
    · rcases List.mem_cons.mp second with rfl | later
      · exact absurd claimed unclaimed
      · exact List.mem_append_right _ later
  have exclusive := inv.exclusive
  rw [listed] at exclusive
  refine ⟨Ledger.exclusive_release exclusive, inv.owners.sublist (part.map _),
    fun entry member => inv.allocates entry (part.subset member), inv.profile, ?_, ?_, inv.ready,
    inv.serves.claimed, fun entry member => inv.serves.entries entry (part.subset member),
    fun entry member => inv.serves.files entry (part.subset member)⟩
  · intro asker asked asking
    obtain ⟨current, claimed, given, member⟩ := inv.asking asker asked asking
    exact ⟨current, claimed, given, stays _ member claimed⟩
  · intro uid claimed
    obtain ⟨entry, member, rfl⟩ := inv.listed uid claimed
    exact ⟨entry, stays entry member claimed, rfl⟩

/-! ### The driver's steps -/

section Serves

variable {p : Profile} {ledger : Ledger ResourceClaim Device} {claimed ready : List ClaimUID}
  {disk disk' : Disk}

/-- The file of a claim after the spec of one was written. -/
theorem claimFile_putSpec (cdi : CDIHandler) (disk : Disk) (uid other : ClaimUID) (spec : CdiSpec) :
    (disk.putSpec (cdi.claimFile uid) spec).root.lookup (cdi.claimFile other) =
      if other = uid then some (.spec spec) else disk.root.lookup (cdi.claimFile other) := by
  rw [putSpec_lookup]
  by_cases same : other = uid
  · rw [if_pos same, if_pos (by rw [same])]
  · rw [if_neg same, if_neg fun files => same (cdi.claimFile_inj files)]

/-- What a `Prepare` leaves in a claim's file: what was there, or the spec of the devices that its own
claim is given. -/
inductive FileAfter (config : DriverConfig Config) (p : Profile) (claim : ResourceClaim)
    (result : Option (Except String (List KubeletDevice))) (disk disk' : Disk) (uid : ClaimUID) : Prop
  | kept (same : disk'.root.lookup (config.cdi.claimFile uid) = disk.root.lookup (config.cdi.claimFile uid))
      (failed : uid = claim.uid → succeeded result = false)
  | written (spec : CdiSpec) (devices : PreparedDevices) (own : uid = claim.uid)
      (given : Given config p claim devices) (derived : config.cdi.claimSpec claim.uid devices = .ok spec)
      (stored : disk'.root.lookup (config.cdi.claimFile uid) = some (.spec spec))

theorem Serves.prepare_file (serves : Serves config p ledger claimed ready disk) {rt rt' : Runtime}
    {driver : Instance config} {claim : ResourceClaim} {devices : List Device}
    {result : Option (Except String (List KubeletDevice))} (listed : (claim, devices) ∈ ledger)
    (ends : PrepareEnds rt rt' (driver.state.withProfile p) claim disk disk' result) (uid : ClaimUID) :
    FileAfter config p claim result disk disk' uid := by
  have ours : (driver.state.withProfile p).cdi = config.cdi := driver.cdi
  have wrote : ∀ spec devices, Given config p claim devices →
      (driver.state.withProfile p).cdi.claimSpec claim.uid devices = .ok spec →
      disk'.root = (disk.putSpec ((driver.state.withProfile p).cdi.claimFile claim.uid) spec).root →
      FileAfter config p claim result disk disk' uid := by
    intro spec devices given derived root
    rw [ours] at derived root
    by_cases same : uid = claim.uid
    · exact .written spec devices same given derived (by rw [root, claimFile_putSpec, if_pos same])
    · exact .kept (by rw [root, claimFile_putSpec, if_neg same]) fun wrong => absurd wrong same
  have made : ∀ {devices}, (driver.state.withProfile p).prepareDevices rt rt' claim = .ok devices →
      Given config p claim devices := fun prepared => ⟨rt, rt', driver.state, driver.ofConfig, prepared⟩
  cases ends with
  | untouched _ failed =>
    refine .kept rfl fun _ => ?_
    by_contra ok
    obtain ⟨returned, same⟩ := succeeded_iff.mp (Bool.eq_true_of_not_eq_false ok)
    exact failed returned same
  | rewritten claims recorded spec _ stored found _ derived =>
    refine wrote spec (some recorded) (serves.entries _ listed _ ?_ (Or.inl rfl)) derived rfl
    rw [stored]
    exact found
  | halfway claims fresh spec _ _ _ prepared derived => exact wrote spec fresh (made prepared) derived rfl
  | prepared claims fresh spec _ _ _ prepared derived => exact wrote spec fresh (made prepared) derived rfl

/-- A `Prepare` that succeeds leaves an entry with what its claim is given. -/
theorem Serves.prepare_entry (serves : Serves config p ledger claimed ready disk) {rt rt' : Runtime}
    {driver : Instance config} {claim : ResourceClaim} {devices : List Device}
    {returned : List KubeletDevice} (listed : (claim, devices) ∈ ledger)
    (ends : PrepareEnds rt rt' (driver.state.withProfile p) claim disk disk' (some (.ok returned)))
    {stored : PreparedDevices} (found : (disk'.checkpoint.getD ∅).lookup claim.uid = some stored) :
    Given config p claim stored := by
  cases ends with
  | untouched _ failed => exact absurd rfl (failed returned)
  | halfway _ _ _ _ _ _ _ _ failed => exact absurd rfl (failed returned)
  | rewritten claims recorded spec _ checkpoint entry =>
    have same : (disk.checkpoint.getD ∅).lookup claim.uid = some (some recorded) := by
      rw [checkpoint]
      exact entry
    cases same.symm.trans found
    exact serves.entries _ listed _ same (Or.inl rfl)
  | prepared claims fresh _ _ _ _ prepared =>
    rw [putCheckpoint_checkpoint, Option.getD_some, lookup_insert_eq, if_pos rfl] at found
    cases found
    exact ⟨rt, rt', driver.state, driver.ofConfig, prepared⟩

/-- A `Prepare` under the topology. -/
theorem Serves.prepare (serves : Serves config p ledger claimed ready disk) {rt rt' : Runtime}
    {driver : Instance config} {claim : ResourceClaim} {devices : List Device}
    {result : Option (Except String (List KubeletDevice))} (listed : (claim, devices) ∈ ledger)
    (held : claim.uid ∈ claimed) (unique : ∀ entry ∈ ledger, entry.1.uid = claim.uid → entry.1 = claim)
    (ends : PrepareEnds rt rt' (driver.state.withProfile p) claim disk disk' result) :
    Serves config p ledger claimed
      (if succeeded result then claim.uid :: ready else ready) disk' := by
  have made : ∀ {devices}, (driver.state.withProfile p).prepareDevices rt rt' claim = .ok devices →
      Given config p claim devices := fun prepared => ⟨rt, rt', driver.state, driver.ofConfig, prepared⟩
  -- ready before, or made ready by this call
  have before : ∀ {uid}, uid ∈ (if succeeded result then claim.uid :: ready else ready) →
      uid ∈ ready ∨ uid = claim.uid ∧ succeeded result = true := by
    intro uid member
    cases ok : succeeded result with
    | true =>
      rw [ok, if_pos rfl] at member
      rcases List.mem_cons.mp member with same | old
      · exact Or.inr ⟨same, rfl⟩
      · exact Or.inl old
    | false =>
      rw [ok] at member
      exact Or.inl member
  refine ⟨?_, ?_, ?_⟩
  · intro uid devices found
    rcases ends.entry found with old | ⟨rfl, -⟩
    · exact serves.claimed uid devices old
    · exact held
  · intro entry member devices found which
    rcases ends.entry found with old | ⟨same, -, prepared⟩
    · rcases which with some | now
      · exact serves.entries entry member devices old (Or.inl some)
      · rcases before now with earlier | ⟨same, ok⟩
        · exact serves.entries entry member devices old (Or.inr earlier)
        · obtain ⟨returned, rfl⟩ := succeeded_iff.mp ok
          rw [same] at found
          rw [unique entry member same]
          exact serves.prepare_entry listed ends found
    · rw [unique entry member same]
      exact made prepared
  · intro entry member now spec file
    cases serves.prepare_file listed ends entry.1.uid with
    | kept kept failed =>
      rw [kept] at file
      rcases before now with earlier | ⟨same, ok⟩
      · exact serves.files entry member earlier spec file
      · rw [failed same] at ok
        cases ok
    | written spec' devices same given derived stored =>
      rw [file] at stored
      cases stored
      rw [unique entry member same]
      exact ⟨devices, given, derived⟩

/-- A disk with fewer entries and specs, and a kubelet that holds less. -/
theorem Serves.less (serves : Serves config p ledger claimed ready disk) {claimed' ready' : List ClaimUID}
    (entries : ∀ uid devices, (disk'.checkpoint.getD ∅).lookup uid = some devices →
      (disk.checkpoint.getD ∅).lookup uid = some devices)
    (files : ∀ uid spec, disk'.root.lookup (config.cdi.claimFile uid) = some (.spec spec) →
      disk.root.lookup (config.cdi.claimFile uid) = some (.spec spec))
    (still : ∀ uid devices, (disk'.checkpoint.getD ∅).lookup uid = some (some devices) →
      uid ∈ claimed → uid ∈ claimed')
    (fewer : ready' ⊆ ready) : Serves config p ledger claimed' ready' disk' where
  claimed uid devices found := still uid devices found (serves.claimed uid devices (entries _ _ found))
  entries entry member devices found which :=
    serves.entries entry member devices (entries _ _ found) (which.imp_right fun now => fewer now)
  files entry member now spec file := serves.files entry member (fewer now) spec (files _ _ file)

/-- What is left of the checkpoint after an `Unprepare`. -/
theorem UnprepareEnds.entries {s : DeviceState Config} {uid : ClaimUID} {failed : Bool}
    {result : Option (Except String Unit)} (ends : UnprepareEnds s uid disk failed disk' result)
    {other : ClaimUID} {devices : PreparedDevices}
    (found : (disk'.checkpoint.getD ∅).lookup other = some devices) :
    (disk.checkpoint.getD ∅).lookup other = some devices ∧
      (succeeded result = true → devices.isSome = true → other ≠ uid) := by
  have refused : result ≠ some (.ok ()) → succeeded result ≠ true := by
    rintro wrong ok
    obtain ⟨⟨⟩, same⟩ := succeeded_iff.mp ok
    exact wrong same
  cases ends with
  | untouched _ _ wrong => exact ⟨found, fun ok => absurd ok (refused wrong)⟩
  | replaced => cases found
  | nothing claims stored none =>
    refine ⟨found, ?_⟩
    rintro - some rfl
    rw [stored, Option.getD_some] at found
    rw [found, Option.join_some] at none
    rw [none] at some
    cases some
  | halfway _ _ _ _ _ wrong => exact ⟨found, fun ok => absurd ok (refused wrong)⟩
  | unprepared claims _ _ stored =>
    rw [putCheckpoint_checkpoint, Option.getD_some, lookup_erase_eq] at found
    rw [stored, Option.getD_some]
    split at found
    · cases found
    · exact ⟨found, fun _ _ => by assumption⟩

theorem UnprepareEnds.files {s : DeviceState Config} {uid : ClaimUID} {failed : Bool}
    {result : Option (Except String Unit)} (ends : UnprepareEnds s uid disk failed disk' result)
    {name : String} {spec : CdiSpec} (found : disk'.root.lookup name = some (.spec spec)) :
    disk.root.lookup name = some (.spec spec) := by
  cases ends with
  | untouched | replaced | nothing => exact found
  | halfway | unprepared =>
    have dropped : (disk.dropFile (s.cdi.claimFile uid)).root.lookup name = some (.spec spec) := found
    rw [dropFile_lookup] at dropped
    split at dropped
    · cases dropped
    · exact dropped

/-- An `Unprepare`: what it has removed is no longer claimed. -/
theorem Serves.unprepare (serves : Serves config p ledger claimed ready disk) {s : DeviceState Config}
    {uid : ClaimUID} {failed : Bool} {result : Option (Except String Unit)}
    (ends : UnprepareEnds s uid disk failed disk' result) :
    Serves config p ledger (if succeeded result then claimed.filter (· ≠ uid) else claimed)
      (if succeeded result then ready.filter (· ≠ uid) else ready) disk' := by
  refine serves.less (fun other devices found => (ends.entries found).1) (fun other spec => ends.files)
    ?_ ?_
  · intro other devices found held
    split
    · rename_i ok
      exact List.mem_filter.mpr ⟨held, decide_eq_true ((ends.entries found).2 ok rfl)⟩
    · exact held
  · split
    · exact List.filter_subset_self ready
    · exact List.Subset.refl ready

/-- A restart: specs it writes are those of the checkpoint. -/
theorem Serves.restart (serves : Serves config p ledger claimed ready disk)
    {driverResources : DriverResources}
    (starting : Starting (initialState config driverResources) disk disk') :
    Serves config p ledger claimed ready disk' := by
  have entries : ∀ uid devices, (disk'.checkpoint.getD ∅).lookup uid = some devices →
      (disk.checkpoint.getD ∅).lookup uid = some devices := by
    intro uid devices found
    rcases starting.checkpoint with same | ⟨_, created⟩
    · rw [← same]
      exact found
    · rw [created] at found
      cases found
  refine ⟨fun uid devices found => serves.claimed uid devices (entries uid _ found),
    fun entry member devices found => serves.entries entry member devices (entries _ _ found), ?_⟩
  intro entry member now spec file
  have after := starting.entries (config.cdi.claimFile entry.1.uid)
  rw [file] at after
  generalize old : disk.root.lookup (config.cdi.claimFile entry.1.uid) = before at after
  cases after with
  | same => exact serves.files entry member now spec old
  | common _ name => exact absurd name (config.cdi.claimFile_ne_common _)
  | claim uid _ name valid derived =>
    have own : entry.1.uid = uid := config.cdi.claimFile_inj name
    subst own
    obtain ⟨devices, found⟩ := Option.isSome_iff_exists.mp
      (AList.lookup_isSome.mpr (mem_validClaims.mp valid).1)
    rw [found, Option.join_some] at derived
    exact ⟨devices, serves.entries entry member devices found (Or.inr now), derived⟩

end Serves

/-! ### Every event -/

/-- A topology that is reported again changes nothing in the profile. -/
theorem ClusterInv.topology_profile {rt : Runtime} (alike : rt.SortsAlike base)
    (distinct : topo.ChipIdsDistinct) (inv : ClusterInv config opts topo base cluster) :
    (applyTopology rt cluster.node.profile topo).2 = currentProfile config opts topo base := by
  rw [applyTopology_stable alike _ distinct]
  rcases inv.profile with first | again
  · rw [first]
    rfl
  · rw [again]
    rfl

/-- A process that is past its first moment has the topology. -/
theorem ClusterInv.current (inv : ClusterInv config opts topo base cluster)
    (past : cluster.node ≠ .reborn config opts cluster.node.sys.disk) :
    cluster.node.profile = currentProfile config opts topo base :=
  inv.profile.resolve_left past

theorem ClusterInv.current_of_running (inv : ClusterInv config opts topo base cluster)
    {driver : Instance config} (running : cluster.node.sys.running = some driver) :
    cluster.node.profile = currentProfile config opts topo base := by
  refine inv.current fun first => ?_
  rw [first] at running
  cases running

/-- After a call the process has the topology still, or is a new one. -/
theorem returns_profile {node : Node config} {sys : System config} {p : Profile} (current : node.profile = p) :
    node.returns opts sys = .reborn config opts (node.returns opts sys).sys.disk ∨
      (node.returns opts sys).profile = p := by
  cases running : sys.running with
  | none => exact Or.inl (by rw [returns_of_stopped running]; rfl)
  | some driver => exact Or.inr (by rw [returns_of_running running]; exact current)

/-- The kubelet calls `Prepare`. -/
theorem ClusterInv.ask (inv : ClusterInv config opts topo base cluster) {claim : ResourceClaim}
    {node : Node config} {devices : List Device} (listed : (claim, devices) ∈ cluster.ledger)
    (step : NodeStep config opts (fun _ => claim.allocation) mayFail deepEqual cluster.node
      (.ask claim) node) :
    ClusterInv config opts topo base
      { cluster with node := node, claimed := claim.uid :: cluster.claimed } := by
  obtain ⟨before, ledger, claimed, ready⟩ := cluster
  cases step with
  | @ask driver claim free running allocated =>
    have current := inv.current_of_running running
    refine ⟨inv.exclusive, inv.owners, inv.allocates, Or.inr current, ?_, ?_,
      List.subset_cons_of_subset _ inv.ready, inv.serves.less (fun _ _ => id) (fun _ _ => id)
        (fun _ _ _ => List.mem_cons_of_mem _) (List.Subset.refl _)⟩
    · intro asker asked asking
      cases asking
      exact ⟨current, List.mem_cons_self, devices, listed⟩
    · intro uid held
      rcases List.mem_cons.mp held with rfl | old
      · exact ⟨(claim, devices), listed, rfl⟩
      · exact inv.listed uid old

/-- It ends. -/
theorem ClusterInv.prepare (inv : ClusterInv config opts topo base cluster) {claim : ResourceClaim}
    {node : Node config} {result : Option (Except String (List KubeletDevice))}
    (step : NodeStep config opts (fun _ => claim.allocation) mayFail deepEqual cluster.node
      (.prepare claim result) node) :
    ClusterInv config opts topo base { cluster with
      node := node
      ready := if succeeded result then claim.uid :: cluster.ready else cluster.ready } := by
  obtain ⟨before, ledger, claimed, ready⟩ := cluster
  cases step with
  | @prepare rt rt' driver claim asked outcomes disk result asking running ran =>
    have ends := exec_prepare mayFail rt rt' (driver.state.withProfile asked) claim outcomes before.sys.disk
    rw [ran] at ends
    have current := inv.current_of_running running
    obtain ⟨rfl, held, devices, listed⟩ := inv.asking claim asked asking
    refine ⟨inv.exclusive, inv.owners, inv.allocates, returns_profile current, ?_, inv.listed, ?_, ?_⟩
    · intro asker asked asking
      rw [returns_call] at asking
      cases asking
    · show (if succeeded result then claim.uid :: ready else ready) ⊆ claimed
      split
      · exact List.cons_subset.mpr ⟨held, inv.ready⟩
      · exact inv.ready
    · rw [returns_disk]
      exact inv.serves.prepare listed held
        (fun entry member same => congrArg Prod.fst (inv.owner_eq member listed same)) ends

theorem ClusterInv.unprepare (inv : ClusterInv config opts topo base cluster) {node : Node config}
    {uid : ClaimUID} {readFailed : Bool} {result : Option (Except String Unit)}
    (step : NodeStep config opts (fun _ => none) mayFail deepEqual cluster.node
      (.unprepare uid readFailed result) node) :
    ClusterInv config opts topo base { cluster with
      node := node
      claimed := if succeeded result then cluster.claimed.filter (· ≠ uid) else cluster.claimed
      ready := if succeeded result then cluster.ready.filter (· ≠ uid) else cluster.ready } := by
  obtain ⟨before, ledger, claimed, ready⟩ := cluster
  cases step with
  | @unprepare sys' uid readFailed result free step =>
    obtain ⟨driver, running, -⟩ := step.running_unprepare
    have current := inv.current_of_running running
    have serves : Serves config (currentProfile config opts topo base) ledger
        (if succeeded result then claimed.filter (· ≠ uid) else claimed)
        (if succeeded result then ready.filter (· ≠ uid) else ready) sys'.disk := by
      have changes := step.changes
      generalize sys'.disk = after at changes
      cases changes with
      | unprepare s _ _ _ _ _ ends => exact inv.serves.unprepare ends
    refine ⟨inv.exclusive, inv.owners, inv.allocates, returns_profile current, ?_, ?_, ?_, ?_⟩
    · intro asker asked asking
      rw [returns_call] at asking
      cases asking
    · intro other held
      refine inv.listed other ?_
      revert held
      show other ∈ (if succeeded result then claimed.filter (· ≠ uid) else claimed) → _
      split
      · exact fun held => (List.mem_filter.mp held).1
      · exact id
    · show (if succeeded result then ready.filter (· ≠ uid) else ready) ⊆
        if succeeded result then claimed.filter (· ≠ uid) else claimed
      split
      · exact List.filter_subset _ inv.ready
      · exact inv.ready
    · rw [returns_disk]
      exact serves

/-- The driver has taken a step alone. -/
theorem ClusterInv.replace (inv : ClusterInv config opts topo base cluster) {node : Node config}
    (profile : node = .reborn config opts node.sys.disk ∨
      node.profile = currentProfile config opts topo base)
    (asking : ∀ claim asked, node.call = some (.prepare claim asked) →
      cluster.node.call = some (.prepare claim asked))
    (serves : Serves config (currentProfile config opts topo base) cluster.ledger cluster.claimed
      cluster.ready node.sys.disk) :
    ClusterInv config opts topo base { cluster with node := node } :=
  ⟨inv.exclusive, inv.owners, inv.allocates, profile,
    fun claim asked now => inv.asking claim asked (asking claim asked now), inv.listed, inv.ready, serves⟩

theorem ClusterInv.driver (distinct : topo.ChipIdsDistinct) (inv : ClusterInv config opts topo base cluster)
    {event : NodeEvent} {node : Node config} (alone : Alone topo base event)
    (step : NodeStep config opts (fun _ => none) mayFail deepEqual cluster.node event node) :
    ClusterInv config opts topo base { cluster with node := node } := by
  cases step with
  | topology rt reported idle =>
    obtain ⟨rfl, alike⟩ := alone
    exact inv.replace (Or.inr (inv.topology_profile alike distinct)) (fun _ _ => id) inv.serves
  | handOver offered free ready =>
    have current := inv.current fun first => by
      rw [first] at offered
      cases offered
    exact inv.replace (Or.inr current) (fun _ _ => id) inv.serves
  | setResources received free step =>
    obtain ⟨driver, running, rfl⟩ := step.running_setResources
    have current := inv.current fun first => by
      rw [first] at received
      cases received
    exact inv.replace (Or.inr current) (fun _ _ => id) inv.serves
  | build received free fresh =>
    have current := inv.current fun first => by
      rw [first] at received
      cases received
    exact inv.replace (Or.inr current) (fun _ _ wrong => by cases wrong) inv.serves
  | @built resources sys success building step =>
    have current := inv.current fun first => by
      rw [first] at building
      cases building
    refine inv.replace (returns_profile current) (fun _ _ asking => ?_) ?_
    · rw [returns_call] at asking
      cases asking
    · rw [returns_disk]
      have changes := step.changes
      generalize sys.disk = after at changes
      cases changes with
      | restart _ _ _ starting => exact inv.serves.restart starting
  | die => exact inv.replace (Or.inl rfl) (fun _ _ wrong => by cases wrong) inv.serves
  | ask => exact alone.elim
  | prepare => exact alone.elim
  | unprepare => exact alone.elim

/-- **One event keeps the invariant.** -/
theorem ClusterInv.step (distinct : topo.ChipIdsDistinct) (inv : ClusterInv config opts topo base cluster)
    {event : ClusterEvent} {cluster' : Cluster config}
    (step : ClusterStep config opts topo base mayFail deepEqual cluster event cluster') :
    ClusterInv config opts topo base cluster' := by
  cases step with
  | allocate claim devices fresh allocates granted => exact inv.allocate distinct fresh allocates granted
  | deallocate claim devices before after listed unclaimed => exact inv.deallocate listed unclaimed
  | ask claim devices listed step => exact inv.ask listed step
  | prepare step => exact inv.prepare step
  | unprepare step => exact inv.unprepare step
  | driver alone step => exact inv.driver distinct alone step

/-! ### Nodes in the containers -/

/-- The nodes of devices that are held. -/
def heldPaths (p : Profile) (devices : List Device) : List String :=
  (devices.flatMap p.bundlesOf).map fun bundle => devicePath bundle.mmio.deviceNodeId

/-- **The nodes of a claim** are those of the devices it was allocated. -/
theorem Given.paths {p : Profile} (anchored : p.Anchored) {claim : ResourceClaim} {devices : PreparedDevices}
    (given : Given config p claim devices) {spec : CdiSpec}
    (derived : config.cdi.claimSpec claim.uid devices = .ok spec) {held : List Device}
    (allocates : Allocates config claim held) :
    spec.devices.flatMap (fun device => device.containerEdits.deviceNodes.map DeviceNode.path) =
      heldPaths p held := by
  obtain ⟨rt, rt', s, ours, prepared⟩ := given
  obtain ⟨allocation, allocated, -, names⟩ := allocates
  rw [← ours.cdi] at derived
  let pathsOf (nodes : Option (List DeviceNode)) : List String := (nodes.getD []).map DeviceNode.path
  let nodesOf (name : String) : Option (List DeviceNode) :=
    (p.unitByDevice.lookup name).map fun unit => unit.bundles.map deviceNode
  have assigned := congrArg (List.map Prod.snd) (claimSpec_nodes anchored prepared derived)
  rw [assignedNodes, allocated, ours.driverName, List.map_map, List.map_map] at assigned
  have resolved : ∀ device : Device, pathsOf (nodesOf device.name) =
      (p.bundlesOf device).map fun bundle => devicePath bundle.mmio.deviceNodeId := by
    intro device
    show (((p.unitByDevice.lookup device.name).map fun unit => unit.bundles.map deviceNode).getD []).map
      DeviceNode.path = (((p.unitByDevice.lookup device.name).map AllocatableUnit.bundles).getD []).map _
    cases p.unitByDevice.lookup device.name with
    | none => rfl
    | some unit => exact List.map_map
  calc spec.devices.flatMap (fun device => device.containerEdits.deviceNodes.map DeviceNode.path)
      = (spec.devices.map fun device => some device.containerEdits.deviceNodes).flatMap pathsOf := by
        rw [List.flatMap_map]
        rfl
    _ = ((ownResults config.driverName allocation.results).map fun result =>
          nodesOf result.device).flatMap pathsOf := congrArg (List.flatMap pathsOf) assigned
    _ = ((ownResults config.driverName allocation.results).map
          DeviceRequestAllocationResult.device).flatMap (fun name => pathsOf (nodesOf name)) := by
        rw [List.flatMap_map, List.flatMap_map]
    _ = held.flatMap fun device => pathsOf (nodesOf device.name) := by rw [names, List.flatMap_map]
    _ = heldPaths p held := by simp only [resolved, heldPaths, List.map_flatMap]

/-- A `/dev` node tells the chip it belongs to. -/
theorem mmio_eq_of_devicePath (nodes : NodeIdsDistinct topo) {rt : Runtime} {bundle bundle' : HostBundle}
    (inside : bundle ∈ hostBundles rt topo) (inside' : bundle' ∈ hostBundles rt topo)
    (same : devicePath bundle.mmio.deviceNodeId = devicePath bundle'.mmio.deviceNodeId) :
    bundle.mmio = bundle'.mmio := by
  have ids : bundle.mmio.deviceNodeId = bundle'.mmio.deviceNodeId :=
    UInt32.toNat_inj.mp (append_decimal_inj same)
  have chip := bundle_anchor rt topo.asics inside
  have chip' := bundle_anchor rt topo.asics inside'
  exact List.inj_on_of_nodup_map nodes (List.mem_filter.mpr chip) (List.mem_filter.mpr chip') ids

/-- Claims with different owners hold no node in common. -/
theorem ClusterInv.heldPaths_disjoint (distinct : topo.ChipIdsDistinct) (nodes : NodeIdsDistinct topo)
    (inv : ClusterInv config opts topo base cluster) {entry other : ResourceClaim × List Device}
    (listed : entry ∈ cluster.ledger) (listed' : other ∈ cluster.ledger)
    (different : entry.1.uid ≠ other.1.uid) :
    List.Disjoint (heldPaths (currentProfile config opts topo base) entry.2)
      (heldPaths (currentProfile config opts topo base) other.2) := by
  have host : ∀ entry ∈ cluster.ledger, ∀ device ∈ entry.2,
      (currentProfile config opts topo base).bundlesOf device ⊆ hostBundles base topo := by
    intro entry listed device held
    have published := inv.exclusive.listed (List.mem_flatMap.mpr ⟨entry, listed, held⟩)
    obtain ⟨unit, member⟩ := mem_published base (newProfile config.nodeName opts) published
    have bundles := bundlesOf_applyTopology base (newProfile config.nodeName opts) distinct member
    exact bundles ▸ (enumerate_entry base _ distinct member).inside
  intro path here there
  obtain ⟨bundle, held, rfl⟩ := List.mem_map.mp here
  obtain ⟨bundle', held', same⟩ := List.mem_map.mp there
  obtain ⟨device, inside, covers⟩ := List.mem_flatMap.mp held
  obtain ⟨device', inside', covers'⟩ := List.mem_flatMap.mp held'
  have mmio := mmio_eq_of_devicePath nodes (host other listed' device' inside' covers')
    (host entry listed device inside covers) same
  exact Ledger.apart inv.exclusive listed listed' (fun same => different (congrArg ResourceClaim.uid same))
    device inside device' inside' bundle.chipId ⟨bundle, covers, rfl⟩
    ⟨bundle', covers', congrArg AsicInfo.chipId mmio⟩

end Keeps

/-- The published device of a name. -/
def publishedAs (name : String) : List Device :=
  (publishedPool sampleConfig ⟨true, true⟩ twoTrayHost Runtime.plain).listed.filter fun device =>
    device.name = name

/-- The driver comes up on the host. -/
def hostUpEvents : List ClusterEvent :=
  [.driver (.topology Runtime.plain twoTrayHost), .driver .handOver, .driver .build, .driver (.built true)]

/-- One claim gets a chip. -/
def chipEvents : List ClusterEvent :=
  [.allocate (sampleClaim uidA ["tt-0"]) (publishedAs "tt-0"),
    .ask (sampleClaim uidA ["tt-0"]),
    .prepare (sampleClaim uidA ["tt-0"]) (some (.ok [(samplePrepared uidA "tt-0").device]))]

/-- The other gets the tray of the other chip, but its `Prepare` dies when the spec is written; while it
ran, the topology was reported again. -/
def trayEvents : List ClusterEvent :=
  [.allocate (sampleClaim uidB ["tt-tray-2"]) (publishedAs "tt-tray-2"),
    .ask (sampleClaim uidB ["tt-tray-2"]),
    .driver (.topology Runtime.plain twoTrayHost),
    .prepare (sampleClaim uidB ["tt-tray-2"]) none]

/-- It succeeds. -/
def againEvents : List ClusterEvent :=
  [.ask (sampleClaim uidB ["tt-tray-2"]),
    .prepare (sampleClaim uidB ["tt-tray-2"]) (some (.ok [(samplePrepared uidB "tt-tray-2").device]))]

/-- The cluster when the first claim is ready. -/
def chipCluster : { cluster : Cluster sampleConfig //
    Run (ClusterStep sampleConfig ⟨true, true⟩ twoTrayHost Runtime.plain noneFails sampleEqual)
      (blankCluster sampleConfig ⟨true, true⟩ ∅) (hostUpEvents ++ chipEvents) cluster } := by
  refine ⟨_, .append (.snoc (.snoc (.snoc (.snoc (.nil _)
      (.driver _ ⟨rfl, fun _ _ => rfl⟩ (.topology _ Runtime.plain twoTrayHost rfl)))
      (.driver _ trivial (.handOver _ rfl rfl rfl)))
      (.driver _ trivial (.build _ rfl rfl rfl)))
      (.driver _ trivial (.built _ rfl (Step.of_restart _ _ (List.replicate 6 .done) _ ?_))))
    (.snoc (.snoc (.snoc (.nil _)
      (.allocate _ _ _ ?_ ⟨_, rfl, ?_, ?_⟩ (run_of_foldlM ?_)))
      (.ask _ _ (publishedAs "tt-0") ?_ (.ask _ (sampleClaim uidA ["tt-0"]) rfl rfl rfl)))
      (.prepare _ (NodeStep.of_prepare Runtime.plain Runtime.plain _ (List.replicate 4 .done) rfl rfl
        ?_)))⟩
  all_goals decide +kernel

/-- A chip for one claim and a tray for the other, with a driver that dies in between. -/
def sharedHostEvents : List ClusterEvent :=
  hostUpEvents ++ chipEvents ++ trayEvents ++ hostUpEvents ++ againEvents

theorem sharedHost_run : ∃ cluster : Cluster sampleConfig,
    Run (ClusterStep sampleConfig ⟨true, true⟩ twoTrayHost Runtime.plain noneFails sampleEqual)
      (blankCluster sampleConfig ⟨true, true⟩ ∅) sharedHostEvents cluster ∧
    injectedPaths cluster.node.sys.disk (sampleHandler.claimFile uidA) = ["/dev/tenstorrent/0"] ∧
    injectedPaths cluster.node.sys.disk (sampleHandler.claimFile uidB) = ["/dev/tenstorrent/1"] ∧
    cluster.ready = [uidB, uidA] ∧
    cluster.ledger = [(sampleClaim uidA ["tt-0"], publishedAs "tt-0"),
      (sampleClaim uidB ["tt-tray-2"], publishedAs "tt-tray-2")] := by
  refine ⟨_, .append (.append (.append chipCluster.2
    (.snoc (.snoc (.snoc (.snoc (.nil _)
      (.allocate _ _ _ ?_ ⟨_, rfl, ?_, ?_⟩ (run_of_foldlM ?_)))
      (.ask _ _ (publishedAs "tt-tray-2") ?_ (.ask _ (sampleClaim uidB ["tt-tray-2"]) rfl rfl rfl)))
      (.driver _ ⟨rfl, fun _ _ => rfl⟩ (.topology _ Runtime.plain twoTrayHost rfl)))
      (.prepare _ (NodeStep.of_prepare Runtime.plain Runtime.plain _ [.done, .done] rfl rfl ?_))))
    (.snoc (.snoc (.snoc (.snoc (.nil _)
      (.driver _ ⟨rfl, fun _ _ => rfl⟩ (.topology _ Runtime.plain twoTrayHost rfl)))
      (.driver _ trivial (.handOver _ rfl rfl rfl)))
      (.driver _ trivial (.build _ rfl rfl rfl)))
      (.driver _ trivial (.built _ rfl (Step.of_restart _ _ (List.replicate 9 .done) _ ?_)))))
    (.snoc (.snoc (.nil _)
      (.ask _ _ (publishedAs "tt-tray-2") ?_ (.ask _ (sampleClaim uidB ["tt-tray-2"]) rfl rfl rfl)))
      (.prepare _ (NodeStep.of_prepare Runtime.plain Runtime.plain _ (List.replicate 4 .done) rfl rfl
        ?_))), ?_, ?_, ?_, ?_⟩
  all_goals decide +kernel

end DraDriver.Plugin
