/-
**Composite devices and the API server.**

Trays and meshes are kept apart from the chips they cover by shared counters. An API server without
partitionable devices does not refuse counters, it strips them, so the driver asks it once, with a
dry run, before it publishes any composite device.

* `stored_published` — nothing the driver publishes after that is stripped.
* **`composite_safe`** — whatever the flags and the server, over every run of allocations on what the
  server stores no ASIC is in two allocated devices, and no device is refused without need.
* **`stored_exclusive_iff`** — the question cannot be left out: a server that strips counters lets any
  two devices be allocated together, so it keeps chips apart only where no two devices share one.
-/

import DraDriver.Tenstorrent.Exclusion

namespace DraDriver.Plugin

open DraDriver.Base DraDriver.FabricManager DraDriver.Tenstorrent

/-! ### The API server -/

/-- `resourceapi.ResourceSlice`; what the driver's own slices hold is its `content`. -/
structure ResourceSlice where
  generateName : String
  driver : String
  nodeName : String
  poolName : String
  generation : ℕ
  resourceSliceCount : ℕ
  content : Slice
  deriving DecidableEq

/-- Whether the `DRAPartitionableDevices` gate is on, and why a dry run fails if it does. -/
structure ApiServer where
  partitionable : Bool
  refusal : Option String
  deriving DecidableEq, Repr

/-- A device as a server without the gate stores it. -/
def uncounted (device : Device) : Device := { device with consumesCounters := [] }

/-- What the server keeps of a slice: without the gate it strips `sharedCounters` and every device's
`consumesCounters`. -/
def ApiServer.keep (server : ApiServer) (slice : Slice) : Slice :=
  if server.partitionable then slice
  else { devices := slice.devices.map uncounted, sharedCounters := [] }

/-- `Create` with `DryRunAll`: what would be stored. -/
def ApiServer.dryRunCreate (server : ApiServer) (slice : ResourceSlice) : Except String ResourceSlice :=
  match server.refusal with
  | some text => .error text
  | none => .ok { slice with content := server.keep slice.content }

/-- A pool as the scheduler finds it. -/
def ApiServer.stored (server : ApiServer) (pool : Pool) : Pool := { slices := pool.slices.map server.keep }

/-! ### The probe -/

/-- The counters-only slice of the dry run. -/
def counterProbe (driverName nodeName : String) : ResourceSlice where
  generateName := "tt-dra-driver-counter-probe-"
  driver := driverName
  nodeName := nodeName
  poolName := nodeName
  generation := 1
  resourceSliceCount := 1
  content := { devices := [], sharedCounters := [{ name := "probe", counters := AList.singleton "probe" 1 }] }

/-- The counters survive the dry run; `elapsed` is the time it took. -/
def sharedCountersSupported (server : ApiServer) (elapsed driverName nodeName : String) :
    Except String Bool :=
  match server.dryRunCreate (counterProbe driverName nodeName) with
  | .error e => .error ("dry-run create of a ResourceSlice with shared counters (after " ++ elapsed ++
      "): " ++ e)
  | .ok created => .ok (decide (0 < created.content.sharedCounters.length))

/-- `Flags`, as far as the startup decides by them. -/
structure Flags where
  nodeName : String
  profile : String
  driverName : String
  fabricManagerAgentAddress : String
  enableTrayDevices : Bool
  enableMeshDevices : Bool
  deriving DecidableEq, Repr

/-- Trays and meshes as asked for, or neither. -/
def resolveCompositeDevices (server : ApiServer) (elapsed : String) (flags : Flags) : Bool × Bool :=
  if !flags.enableTrayDevices && !flags.enableMeshDevices then (false, false)
  else match sharedCountersSupported server elapsed flags.driverName flags.nodeName with
    | .error _ => (false, false)
    | .ok false => (false, false)
    | .ok true => (flags.enableTrayDevices, flags.enableMeshDevices)

/-! ### The startup's decisions -/

/-- `tenstorrent.ProfileName`. -/
def profileName : String := "tenstorrent"

/-- The driver name of a profile that none was given for. -/
def defaultDriverNameForProfile (profile : String) : String :=
  if profile = profileName then "tenstorrent.com" else profile ++ ".tenstorrent.com"

/-- The one entry of `validProfiles`. -/
def validProfile (profile : String) : Option (Flags → Profile) :=
  if profile = profileName then
    some fun flags => newProfile flags.nodeName ⟨flags.enableTrayDevices, flags.enableMeshDevices⟩
  else none

/-- A driver name that is not set is the profile's default. -/
def Flags.named (flags : Flags) : Flags :=
  if flags.driverName = "" then
    { flags with driverName := defaultDriverNameForProfile flags.profile }
  else flags

/-- The flags after the API server was asked. -/
def Flags.resolved (server : ApiServer) (elapsed : String) (flags : Flags) : Flags :=
  { flags with
    enableTrayDevices := (resolveCompositeDevices server elapsed flags).1
    enableMeshDevices := (resolveCompositeDevices server elapsed flags).2 }

/-- The action of the app up to `RunPlugin`: the flags it ends up with and the profile built from
them. `dial` is `fabricmanager.Dial`. -/
def Flags.action (dial : String → Except String Unit) (server : ApiServer) (elapsed : String)
    (flags : Flags) : Except String (Flags × Profile) :=
  match validProfile flags.named.profile with
  | none => .error ("invalid device profile " ++ quote flags.named.profile ++
      ", valid profiles are [" ++ quote profileName ++ "]")
  | some build =>
    if flags.named.fabricManagerAgentAddress = "" then
      .error "--fabric-manager-agent-address must be set"
    else match dial flags.named.fabricManagerAgentAddress with
      | .error e => .error ("connect to fabric manager agent: " ++ e)
      | .ok () => .ok (flags.named.resolved server elapsed, build (flags.named.resolved server elapsed))

/-! ### What the probe finds -/

/-- The server answers the probe and keeps counters. -/
def ApiServer.confirms (server : ApiServer) : Bool := server.refusal.isNone && server.partitionable

section Probe

variable {server : ApiServer} {elapsed : String} {flags : Flags}

/-- **The probe succeeds exactly on a server that answers and keeps counters.** -/
theorem sharedCountersSupported_iff (driverName nodeName : String) :
    sharedCountersSupported server elapsed driverName nodeName = .ok true ↔ server.confirms = true := by
  unfold sharedCountersSupported ApiServer.dryRunCreate ApiServer.confirms
  cases server.refusal with
  | some text => simp
  | none =>
    cases gate : server.partitionable with
    | true => simp [ApiServer.keep, gate, counterProbe]
    | false => simp [ApiServer.keep, gate]

/-- The flags are kept where the probe succeeds, and both dropped where it does not. -/
theorem resolveCompositeDevices_eq : resolveCompositeDevices server elapsed flags =
    (flags.enableTrayDevices && server.confirms, flags.enableMeshDevices && server.confirms) := by
  have probe : sharedCountersSupported server elapsed flags.driverName flags.nodeName = .ok true ↔
      server.confirms = true := sharedCountersSupported_iff _ _
  unfold resolveCompositeDevices
  split
  next neither =>
    obtain ⟨trays, meshes⟩ := Bool.and_eq_true_iff.mp neither
    rw [Bool.not_eq_true'] at trays meshes
    rw [trays, meshes]
    rfl
  next =>
    split
    next e failed =>
      have refused : server.confirms = false := by simpa [failed] using probe
      rw [refused, Bool.and_false, Bool.and_false]
    next stripped =>
      have refused : server.confirms = false := by simpa [stripped] using probe
      rw [refused, Bool.and_false, Bool.and_false]
    next kept =>
      rw [probe.mp kept, Bool.and_true, Bool.and_true]

/-- A default driver name changes nothing else. -/
theorem named_fields (flags : Flags) : flags.named.nodeName = flags.nodeName ∧
    flags.named.enableTrayDevices = flags.enableTrayDevices ∧
      flags.named.enableMeshDevices = flags.enableMeshDevices := by
  unfold Flags.named
  split <;> exact ⟨rfl, rfl, rfl⟩

/-- The profile of a startup that gets as far, with its options. -/
theorem action_profile {dial : String → Except String Unit} {resolved : Flags} {profile : Profile}
    (started : flags.action dial server elapsed = .ok (resolved, profile)) :
    profile = newProfile flags.nodeName
      ⟨flags.enableTrayDevices && server.confirms, flags.enableMeshDevices && server.confirms⟩ := by
  obtain ⟨node, trays, meshes⟩ := named_fields flags
  unfold Flags.action at started
  split at started
  next => cases started
  next build found =>
    unfold validProfile at found
    obtain ⟨-, known⟩ := Option.ite_none_right_eq_some.mp found
    obtain rfl := Option.some.inj known
    split at started
    next => cases started
    next =>
      split at started
      next => cases started
      next =>
        obtain ⟨-, rfl⟩ := Prod.mk.inj (Except.ok.inj started)
        unfold Flags.resolved
        rw [resolveCompositeDevices_eq, node, trays, meshes]

end Probe

/-! ### What is stored -/

section Stored

variable (server : ApiServer)

/-- Nothing is stripped of a pool without counters. -/
theorem stored_of_uncounted {pool : Pool} (devices : ∀ device ∈ pool.devices, device.consumesCounters = [])
    (sets : pool.counterSets = []) : server.stored pool = pool := by
  have kept : ∀ slice ∈ pool.slices, server.keep slice = slice := by
    intro slice member
    have plain : slice.devices.map uncounted = slice.devices := by
      refine (List.map_congr_left fun device inside => ?_).trans (List.map_id _)
      have nothing := devices device (List.mem_flatMap.mpr ⟨slice, member, inside⟩)
      unfold uncounted
      rw [← nothing, id]
    have noSets : slice.sharedCounters = [] := List.flatMap_eq_nil_iff.mp sets slice member
    unfold ApiServer.keep
    split
    · rfl
    · rw [plain, ← noSets]
  unfold ApiServer.stored
  rw [(List.map_congr_left kept).trans (List.map_id _)]

/-- Nothing is stripped by a server with the gate on. -/
theorem stored_of_partitionable {server : ApiServer} (gate : server.partitionable = true) (pool : Pool) :
    server.stored pool = pool := by
  have kept : ∀ slice ∈ pool.slices, server.keep slice = slice := fun _ _ => if_pos gate
  unfold ApiServer.stored
  rw [(List.map_congr_left kept).trans (List.map_id _)]

variable {server} (rt : Runtime) {p : Profile} {topo : HostPhysicalTopology}

/-- **What the driver publishes is stored as it is**, where composite devices are published only if
the server confirmed their counters. -/
theorem stored_published (distinct : topo.ChipIdsDistinct)
    (confirmed : p.composite = true → server.partitionable = true) :
    server.stored (poolOf (applyTopology rt p topo).1 p.nodeName) =
      poolOf (applyTopology rt p topo).1 p.nodeName := by
  cases composite : p.composite with
  | true => exact stored_of_partitionable (confirmed composite) _
  | false =>
    refine stored_of_uncounted server (fun device published => ?_) ?_
    · obtain ⟨unit, member⟩ := mem_published rt p published
      exact plain_consumes rt p distinct composite member
    · rw [publishedSets_applyTopology]
      exact layout_empty rt p composite

end Stored

/-- **Composite devices are safe on every cluster.** Whatever flags the driver is started with and
whatever the API server does with counters, no ASIC, MMIO or bundled remote, is in two devices
allocated at the same time from the pool the server stores, and a device of that pool is refused
exactly when it covers an MMIO chip of an allocated one. -/
theorem composite_safe (rt : Runtime) (dial : String → Except String Unit) (server : ApiServer)
    (elapsed : String) (flags : Flags) {resolved : Flags} {profile : Profile}
    (started : flags.action dial server elapsed = .ok (resolved, profile))
    (topo : HostPhysicalTopology) (distinct : topo.ChipIdsDistinct) :
    let applied := applyTopology rt profile topo
    let scheduler := counterPool (server.stored (poolOf applied.1 flags.nodeName))
    ∀ actions allocated, Run scheduler.Step [] actions allocated →
      (∀ device ∈ allocated, ∀ other ∈ allocated, device ≠ other →
        ∀ bundle ∈ applied.2.bundlesOf device, ∀ bundle' ∈ applied.2.bundlesOf other,
          ∀ asic ∈ bundle.asics, asic ∉ bundle'.asics) ∧
      ∀ device ∈ scheduler.listed, ¬ scheduler.Admits allocated device ↔
        ∃ other ∈ allocated, ∃ chip, applied.2.Covers device chip ∧ applied.2.Covers other chip := by
  obtain rfl := action_profile started
  intro applied scheduler actions allocated run
  have confirmed : (newProfile flags.nodeName ⟨flags.enableTrayDevices && server.confirms,
      flags.enableMeshDevices && server.confirms⟩).composite = true → server.partitionable = true := by
    intro composite
    rw [Profile.composite, newProfile, ← Bool.and_or_distrib_right] at composite
    exact (Bool.and_eq_true_iff.mp (Bool.and_eq_true_iff.mp composite).2).2
  have stored : server.stored (poolOf applied.1 flags.nodeName) = poolOf applied.1 flags.nodeName :=
    stored_published rt distinct confirmed
  have scheme : Scheme scheduler applied.2.Covers := by
    show Scheme (counterPool (server.stored _)) _
    rw [stored]
    exact published_scheme rt _ distinct
  have exclusive := scheme.run_exclusive run
  have listed : allocated ⊆ (poolOf applied.1 flags.nodeName).devices := by
    have inside : allocated ⊆ (server.stored (poolOf applied.1 flags.nodeName)).devices := exclusive.listed
    rwa [stored] at inside
  exact ⟨asics_apart rt _ distinct listed exclusive.apart, fun device known => scheme.refused_iff run known⟩

/-- The flags of a default installation. -/
def defaultFlags : Flags where
  nodeName := "node"
  profile := "tenstorrent"
  driverName := ""
  fabricManagerAgentAddress := "localhost:50053"
  enableTrayDevices := true
  enableMeshDevices := true

/-- What a server that keeps counters stores of a host with two trays. -/
def confirmedPool : CounterPool Device (String × String) :=
  counterPool (ApiServer.stored ⟨true, none⟩
    (poolOf (applyTopology .plain (newProfile "node" ⟨true, true⟩) twoTrayHost).1 "node"))

/-- Its device of a name. -/
def confirmedDevice (name : String) : Device :=
  (confirmedPool.listed.find? fun device => device.name = name).getD
    { name := name, consumesCounters := [], attributes := [], memory := none }

/-- With a tray and the chip of the other allocated, no ASIC is in both, and the tray's own chip is
refused. -/
theorem confirmingServer_safe :
    ∃ resolved profile, defaultFlags.action (fun _ => .ok ()) ⟨true, none⟩ "1ms" = .ok (resolved, profile) ∧
      let applied := applyTopology .plain profile twoTrayHost
      let scheduler := counterPool (ApiServer.stored ⟨true, none⟩ (poolOf applied.1 "node"))
      scheduler.listed.map Device.name = ["tt-0", "tt-2", "tt-tray-1", "tt-tray-2"] ∧
      Run scheduler.Step [] [.allocate (confirmedDevice "tt-tray-1"), .allocate (confirmedDevice "tt-2")]
        [confirmedDevice "tt-tray-1", confirmedDevice "tt-2"] ∧
      (∀ bundle ∈ applied.2.bundlesOf (confirmedDevice "tt-tray-1"),
        ∀ bundle' ∈ applied.2.bundlesOf (confirmedDevice "tt-2"),
          ∀ asic ∈ bundle.asics, asic ∉ bundle'.asics) ∧
      ¬ scheduler.Admits [confirmedDevice "tt-tray-1", confirmedDevice "tt-2"] (confirmedDevice "tt-0") := by
  have run : Run confirmedPool.Step []
      [.allocate (confirmedDevice "tt-tray-1"), .allocate (confirmedDevice "tt-2")]
      [confirmedDevice "tt-tray-1", confirmedDevice "tt-2"] :=
    run_of_foldlM (f := confirmedPool.act) (by decide +kernel)
  have safe := composite_safe .plain (fun _ => .ok ()) ⟨true, none⟩ "1ms" defaultFlags rfl twoTrayHost
    (by decide) _ _ run
  refine ⟨_, _, rfl, by decide +kernel, run, ?_, ?_⟩
  · exact safe.1 _ (by simp) _ (by simp) (by decide +kernel)
  · refine (safe.2 (confirmedDevice "tt-0") (by decide +kernel)).mpr ⟨confirmedDevice "tt-tray-1",
      by simp, 0, ?_, ?_⟩ <;> unfold Profile.Covers <;> decide +kernel

/-! ### Why the server is asked -/

section Needed

variable {server : ApiServer} (rt : Runtime) {p : Profile} {topo : HostPhysicalTopology}

/-- A server without the gate stores every device, without its counters. -/
theorem stored_devices (stripped : server.partitionable = false) (pool : Pool) :
    (server.stored pool).devices = pool.devices.map uncounted := by
  have kept : ∀ slice, (server.keep slice).devices = slice.devices.map uncounted := by
    intro slice
    unfold ApiServer.keep
    rw [if_neg (by simp [stripped])]
  unfold Pool.devices ApiServer.stored
  rw [List.flatMap_map, List.map_flatMap]
  exact congrArg (fun f => pool.slices.flatMap f) (funext kept)

/-- A published chip device and the bundle it stands for. -/
theorem chip_of_kind {entry : Device × AllocatableUnit} (member : entry ∈ (p.enumerate rt topo).units)
    (kind : entry.2.kind = .chip) :
    ∃ bundle ∈ hostBundles rt topo, entry = chipEntry (p.enumerate rt topo).layout bundle := by
  rcases mem_enumerate rt p member with chip | ⟨-, tray, -, built⟩ | ⟨-, mesh⟩
  · exact chip
  · obtain ⟨device, -, rfl⟩ := Option.map_eq_some_iff.mp built
    cases kind
  · obtain ⟨definition, -, built⟩ := mem_buildMeshDevices mesh
    obtain ⟨members, origin, consumption, -, -, -, -, same⟩ := buildMesh_eq_some.mp built
    rw [same] at kind
    cases kind

/-- Every bundle of the host has its chip device. -/
theorem chipEntry_mem {bundle : HostBundle} (inside : bundle ∈ hostBundles rt topo) :
    chipEntry (p.enumerate rt topo).layout bundle ∈ (p.enumerate rt topo).units := by
  rw [units_enumerate]
  exact List.mem_append_left _ (List.mem_append_left _ (List.mem_map_of_mem inside))

/-- Chip devices that share their chip are one. -/
theorem chips_alone (distinct : topo.ChipIdsDistinct)
    (chips : ∀ entry ∈ (p.enumerate rt topo).units, entry.2.kind = .chip) {device other : Device}
    (published : device ∈ (poolOf (applyTopology rt p topo).1 p.nodeName).devices)
    (published' : other ∈ (poolOf (applyTopology rt p topo).1 p.nodeName).devices) {chip : UInt32}
    (covers : (applyTopology rt p topo).2.Covers device chip)
    (covers' : (applyTopology rt p topo).2.Covers other chip) : device = other := by
  obtain ⟨unit, member⟩ := mem_published rt p published
  obtain ⟨unit', member'⟩ := mem_published rt p published'
  obtain ⟨bundle, inside, same⟩ := covers
  obtain ⟨bundle', inside', same'⟩ := covers'
  rw [bundlesOf_applyTopology rt p distinct member] at inside
  rw [bundlesOf_applyTopology rt p distinct member'] at inside'
  obtain ⟨own, inHost, entry⟩ := chip_of_kind rt member (chips _ member)
  obtain ⟨own', inHost', entry'⟩ := chip_of_kind rt member' (chips _ member')
  obtain ⟨rfl, rfl⟩ := Prod.mk.inj entry
  obtain ⟨rfl, rfl⟩ := Prod.mk.inj entry'
  obtain rfl : bundle = own := by simpa using inside
  obtain rfl : bundle' = own' := by simpa using inside'
  exact congrArg (chipDevice · _) (hostBundle_eq_of_chipId rt distinct inHost inHost'
    (same.trans same'.symm))

/-- A composite device and the device of a chip it covers. -/
theorem composite_covers_chip (distinct : topo.ChipIdsDistinct) {entry : Device × AllocatableUnit}
    (member : entry ∈ (p.enumerate rt topo).units) (composite : entry.2.kind ≠ .chip) :
    ∃ chip ∈ (p.enumerate rt topo).units, chip.1.name ≠ entry.1.name ∧
      ∃ bundle, bundle ∈ chip.2.bundles ∧ bundle ∈ entry.2.bundles := by
  have listed := enumerate_entry rt p distinct member
  obtain ⟨bundle, inside⟩ := List.exists_mem_of_ne_nil _ listed.covers
  have chip := chipEntry_mem (p := p) rt (listed.inside inside)
  refine ⟨_, chip, fun same => composite ?_, bundle, List.mem_singleton_self _, inside⟩
  have one := List.inj_on_of_nodup_map (enumerate_names_nodup rt p distinct) chip member same
  rw [← one]
  rfl

end Needed

/-- **Only counters keep composite devices apart from their chips.** Whatever the options, the pool a
server stores keeps all allocated devices on different MMIO chips, over every run of allocations,
exactly when the server keeps counters or only chip devices are published. -/
theorem stored_exclusive_iff (rt : Runtime) (server : ApiServer) (p : Profile)
    (topo : HostPhysicalTopology) (distinct : topo.ChipIdsDistinct) :
    let applied := applyTopology rt p topo
    let scheduler := counterPool (server.stored (poolOf applied.1 p.nodeName))
    (∀ actions allocated, Run scheduler.Step [] actions allocated →
      ∀ device ∈ allocated, ∀ other ∈ allocated, device ≠ other →
        ∀ chip, applied.2.Covers device chip → ¬ applied.2.Covers other chip) ↔
    (server.partitionable = true ∨ ∀ entry ∈ (p.enumerate rt topo).units, entry.2.kind = .chip) := by
  intro applied scheduler
  cases gate : server.partitionable with
  | true =>
    have scheme : Scheme scheduler applied.2.Covers := by
      show Scheme (counterPool (server.stored _)) _
      rw [stored_of_partitionable gate]
      exact published_scheme rt p distinct
    exact ⟨fun _ => Or.inl rfl, fun _ actions allocated run => (scheme.run_exclusive run).apart⟩
  | false =>
    have stored : scheduler.listed = (poolOf applied.1 p.nodeName).devices.map uncounted :=
      stored_devices gate _
    constructor
    · intro exclusive
      refine Or.inr fun entry member => ?_
      by_contra composite
      -- the device and the chip's own device, allocated one after the other
      obtain ⟨chip, inUnits, named, bundle, inChip, inEntry⟩ :=
        composite_covers_chip rt distinct member composite
      have published : ∀ e ∈ (p.enumerate rt topo).units, uncounted e.1 ∈ scheduler.listed := by
        intro e inside
        rw [stored]
        refine List.mem_map_of_mem ?_
        rw [show (poolOf applied.1 p.nodeName).devices = _ from publishedDevices_applyTopology rt p topo]
        exact List.mem_map_of_mem inside
      have different : uncounted entry.1 ≠ uncounted chip.1 :=
        fun same => named (congrArg Device.name same).symm
      have run := CounterPool.run_pair (published chip inUnits) (published entry member) different rfl rfl
      have covers : ∀ e ∈ (p.enumerate rt topo).units, bundle ∈ e.2.bundles →
          applied.2.Covers (uncounted e.1) bundle.chipId := by
        intro e inside covered
        have member : (e.1, e.2) ∈ (p.enumerate rt topo).units := inside
        rw [← bundlesOf_applyTopology rt p distinct member] at covered
        exact ⟨bundle, covered, rfl⟩
      exact exclusive _ _ run _ (by simp) _ (by simp) different _ (covers entry member inEntry)
        (covers chip inUnits inChip)
    · rintro (kept | chips) actions allocated run device held other heldOther different chip covers covers'
      · cases kept
      · have inside := CounterPool.run_listed run
        rw [stored] at inside
        obtain ⟨own, published, rfl⟩ := List.mem_map.mp (inside held)
        obtain ⟨own', published', rfl⟩ := List.mem_map.mp (inside heldOther)
        exact different (congrArg uncounted
          (chips_alone rt distinct chips published published' covers covers'))

/-- With tray devices published and counters stripped, the host's chips are not kept apart. -/
theorem strippedTrays_overlap :
    let applied := applyTopology .plain (newProfile "node" ⟨true, true⟩) twoTrayHost
    let scheduler := counterPool (ApiServer.stored ⟨false, none⟩ (poolOf applied.1 "node"))
    ¬ ∀ actions allocated, Run scheduler.Step [] actions allocated →
      ∀ device ∈ allocated, ∀ other ∈ allocated, device ≠ other →
        ∀ chip, applied.2.Covers device chip → ¬ applied.2.Covers other chip := by
  intro applied scheduler exclusive
  rcases (stored_exclusive_iff .plain ⟨false, none⟩ (newProfile "node" ⟨true, true⟩) twoTrayHost
    (by decide)).mp exclusive with kept | chips
  · cases kept
  · revert chips
    decide +kernel

end DraDriver.Plugin
