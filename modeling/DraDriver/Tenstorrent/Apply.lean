/-
**From a topology to the published pool.**

`applyTopology` lists every chip device, then the tray devices, then the mesh devices, records what
each resolves to and packs devices and counter sets into slices.

* `Profile.enumerate` — the devices with the units they resolve to, and the counter layout.
* `publishedDevices_applyTopology`, `publishedSets_applyTopology` — the slices hold exactly those.
* **`Entry`** — what every published device is: bundles of the host, pairwise distinct and at least
  one, and a consumption of exactly their counters.
* **`enumerate_entry`**, **`enumerate_names_nodup`** — every enumerated device is one, and no two
  share a name.
-/

import DraDriver.Tenstorrent.Mesh

namespace DraDriver.Tenstorrent

open DraDriver.Base DraDriver.FabricManager

/-! ### Slices -/

/-- `resourceslice.Slice`. -/
structure Slice where
  devices : List Device
  sharedCounters : List CounterSet
  deriving DecidableEq

/-- `resourceslice.Pool`. -/
structure Pool where
  slices : List Slice
  deriving DecidableEq

/-- `resourceslice.DriverResources`: the pools by name. -/
abbrev DriverResources := GoMap String Pool

/-- `ResourceSliceMaxDevices`. -/
def maxDevices : ℕ := 128

/-- `ResourceSliceMaxDevicesWithAdvancedFeatures`. -/
def maxDevicesWithAdvancedFeatures : ℕ := 64

/-- `ResourceSliceMaxCounterSets`. -/
def maxCounterSets : ℕ := 8

/-- Devices that consume counters are subject to the lower cap. -/
def maxDevicesPerSlice (counterSets : List CounterSet) : ℕ :=
  if 0 < counterSets.length then maxDevicesWithAdvancedFeatures else maxDevices

/-- The slices of a pool: the devices in chunks, at least one, then the counter sets in chunks. -/
def buildSlices (devices : List Device) (counterSets : List CounterSet) : List Slice :=
  let out := (chunk (maxDevicesPerSlice counterSets) devices).map fun part =>
    ({ devices := part, sharedCounters := [] } : Slice)
  let out := if out.length = 0 then [{ devices := devices, sharedCounters := [] }] else out
  out ++ (chunk maxCounterSets counterSets).map fun part =>
    ({ devices := [], sharedCounters := part } : Slice)

/-- The devices of a pool, slice after slice. -/
def Pool.devices (pool : Pool) : List Device := pool.slices.flatMap Slice.devices

/-- The counter sets of a pool, slice after slice. -/
def Pool.counterSets (pool : Pool) : List CounterSet := pool.slices.flatMap Slice.sharedCounters

theorem flatMap_devices_chunks (parts : List (List Device)) :
    (parts.map fun part => ({ devices := part, sharedCounters := [] } : Slice)).flatMap Slice.devices =
      parts.flatten := by
  rw [List.flatMap_map]
  exact List.flatMap_id

theorem flatMap_counters_chunks (parts : List (List CounterSet)) :
    (parts.map fun part => ({ devices := [], sharedCounters := part } : Slice)).flatMap
      Slice.sharedCounters = parts.flatten := by
  rw [List.flatMap_map]
  exact List.flatMap_id

theorem maxDevicesPerSlice_pos (sets : List CounterSet) : 0 < maxDevicesPerSlice sets := by
  unfold maxDevicesPerSlice
  split <;> decide

/-- **The slices hold the devices in order, none lost or repeated.** -/
theorem buildSlices_devices (devices : List Device) (sets : List CounterSet) :
    (buildSlices devices sets).flatMap Slice.devices = devices := by
  unfold buildSlices
  simp only [List.flatMap_append]
  have noDevices : ((chunk maxCounterSets sets).map fun part =>
      ({ devices := [], sharedCounters := part } : Slice)).flatMap Slice.devices = [] := by
    rw [List.flatMap_map]
    exact List.flatMap_eq_nil_iff.mpr fun _ _ => rfl
  rw [noDevices, List.append_nil]
  have whole := chunk_flatten (maxDevicesPerSlice_pos sets) devices
  split
  · exact List.flatMap_singleton _ _
  · rw [flatMap_devices_chunks, whole]

/-- **The slices hold the counter sets in order, none lost or repeated.** -/
theorem buildSlices_counterSets (devices : List Device) (sets : List CounterSet) :
    (buildSlices devices sets).flatMap Slice.sharedCounters = sets := by
  unfold buildSlices
  simp only [List.flatMap_append]
  rw [flatMap_counters_chunks, chunk_flatten (by decide : 0 < maxCounterSets)]
  have noCounters : ∀ parts : List (List Device), (parts.map fun part =>
      ({ devices := part, sharedCounters := [] } : Slice)).flatMap Slice.sharedCounters = [] := by
    intro parts
    rw [List.flatMap_map]
    exact List.flatMap_eq_nil_iff.mpr fun _ _ => rfl
  split
  · exact List.nil_append sets
  · rw [noCounters]
    exact List.nil_append sets

/-! ### The profile -/

/-- `tenstorrent.Profile`, with the options it was built from. -/
structure Profile where
  nodeName : String
  trayDevices : Bool
  meshDevices : Bool
  unitByDevice : GoMap String AllocatableUnit

/-- `tenstorrent.Options`. -/
structure Options where
  trayDevices : Bool
  meshDevices : Bool
  deriving DecidableEq, Repr

/-- `NewProfile`: no topology has been applied yet. -/
def newProfile (nodeName : String) (opts : Options) : Profile :=
  { nodeName := nodeName
    trayDevices := opts.trayDevices
    meshDevices := opts.meshDevices
    unitByDevice := ∅ }

/-- The devices `applyTopology` lists, each with the unit it resolves to, and the counters. -/
structure Enumeration where
  units : List (Device × AllocatableUnit)
  layout : CounterLayout

/-- The chip device of a bundle. -/
def chipEntry (layout : CounterLayout) (bundle : HostBundle) : Device × AllocatableUnit :=
  (chipDevice bundle layout, { kind := .chip, trayID := bundle.mmio.trayId, bundles := [bundle] })

/-- The tray device of a tray, unless its counters need too many sets. -/
def trayEntry (layout : CounterLayout) (tray : TrayGroup) : Option (Device × AllocatableUnit) :=
  (trayDevice tray layout).map fun device =>
    (device, { kind := .tray, trayID := tray.trayID, bundles := tray.bundles })

/-- Chips, then trays, then meshes. -/
def Profile.enumerate (rt : Runtime) (p : Profile) (topo : HostPhysicalTopology) : Enumeration :=
  let bundles := bundleHostASICs rt topo.asics
  let trays := groupBundlesByTray rt bundles
  let layout := if p.trayDevices || p.meshDevices then buildChipCounterSets trays
    else CounterLayout.empty
  { units := bundles.map (chipEntry layout) ++
      (if p.trayDevices then trays.filterMap (trayEntry layout) else []) ++
      (if p.meshDevices then buildMeshDevices topo bundles layout else [])
    layout := layout }

/-- The device table a list of units leaves: a later device replaces an earlier one of its name. -/
def recordUnits (units : List (Device × AllocatableUnit)) : GoMap String AllocatableUnit :=
  units.foldl (fun table entry => table.insert entry.1.name entry.2) ∅

/-- **`applyTopology`**: the resources of a topology, and the profile with its device table. -/
def applyTopology (rt : Runtime) (p : Profile) (topo : HostPhysicalTopology) :
    DriverResources × Profile :=
  let found := p.enumerate rt topo
  ((∅ : DriverResources).insert p.nodeName
      { slices := buildSlices (found.units.map Prod.fst) found.layout.sets },
    { p with unitByDevice := recordUnits found.units })

/-- The table as the source fills it: the chips and the trays one by one, then the units of the meshes,
which come as a map, in the order the run time visits it. -/
def Profile.unitTable (rt : Runtime) (p : Profile) (topo : HostPhysicalTopology) :
    GoMap String AllocatableUnit :=
  let bundles := bundleHostASICs rt topo.asics
  let layout := (p.enumerate rt topo).layout
  let listed := recordUnits (bundles.map (chipEntry layout) ++
    (if p.trayDevices then (groupBundlesByTray rt bundles).filterMap (trayEntry layout) else []))
  let meshes := recordUnits (if p.meshDevices then buildMeshDevices topo bundles layout else [])
  (rt.range meshes).foldl (fun table entry => table.insert entry.1 entry.2) listed

/-- The pool of a node; a node without one has no slices. -/
def poolOf (resources : DriverResources) (nodeName : String) : Pool :=
  (resources.lookup nodeName).getD { slices := [] }

theorem poolOf_applyTopology (rt : Runtime) (p : Profile) (topo : HostPhysicalTopology) :
    poolOf (applyTopology rt p topo).1 p.nodeName =
      { slices := buildSlices ((p.enumerate rt topo).units.map Prod.fst)
          (p.enumerate rt topo).layout.sets } := by
  unfold poolOf applyTopology
  simp only [AList.lookup_insert, Option.getD_some]

/-- **The pool publishes exactly the enumerated devices, in order.** -/
theorem publishedDevices_applyTopology (rt : Runtime) (p : Profile) (topo : HostPhysicalTopology) :
    (poolOf (applyTopology rt p topo).1 p.nodeName).devices =
      (p.enumerate rt topo).units.map Prod.fst := by
  rw [poolOf_applyTopology]
  exact buildSlices_devices _ _

/-- **The pool publishes exactly the counter sets of the layout, in order.** -/
theorem publishedSets_applyTopology (rt : Runtime) (p : Profile) (topo : HostPhysicalTopology) :
    (poolOf (applyTopology rt p topo).1 p.nodeName).counterSets =
      (p.enumerate rt topo).layout.sets := by
  rw [poolOf_applyTopology]
  exact buildSlices_counterSets _ _

/-! ### The device table -/

section Table

/-- A recorded unit is the unit of some listed device of that name. -/
theorem recordUnits_sound {units : List (Device × AllocatableUnit)} {name : String}
    {unit : AllocatableUnit} (found : (recordUnits units).lookup name = some unit) :
    ∃ entry ∈ units, entry.1.name = name ∧ entry.2 = unit :=
  lookup_fill_sound found

/-- **The device table resolves exactly the listed names.** -/
theorem mem_recordUnits (units : List (Device × AllocatableUnit)) (name : String) :
    name ∈ recordUnits units ↔ name ∈ units.map fun entry => entry.1.name := by
  unfold recordUnits
  rw [mem_fill]
  simp

/-- With distinct names every listed device resolves to its own unit. -/
theorem lookup_recordUnits {units : List (Device × AllocatableUnit)}
    (distinct : (units.map fun entry => entry.1.name).Nodup) {device : Device}
    {unit : AllocatableUnit} (member : (device, unit) ∈ units) :
    (recordUnits units).lookup device.name = some unit :=
  (lookup_fill distinct).mpr ⟨(device, unit), member, rfl, rfl⟩

theorem lookup_recordUnits_append (units later : List (Device × AllocatableUnit)) (name : String) :
    (recordUnits (units ++ later)).lookup name =
      ((recordUnits later).lookup name).or ((recordUnits units).lookup name) := by
  unfold recordUnits
  rw [List.foldl_append, lookup_fill_from]

/-- **The order in which the meshes are visited does not show.** -/
theorem lookup_unitTable (rt : Runtime) (p : Profile) (topo : HostPhysicalTopology) (name : String) :
    (p.unitTable rt topo).lookup name = (applyTopology rt p topo).2.unitByDevice.lookup name := by
  unfold Profile.unitTable
  rw [lookup_copy]
  exact (lookup_recordUnits_append _ _ name).symm

end Table

/-! ### What a published device is -/

/-- A single chip's own consumption can always be declared. -/
theorem chipCounterConsumption_single {layout : CounterLayout} {chips : List UInt32}
    (counts : layout.Counts chips) {bundle : HostBundle} (member : bundle.chipId ∈ chips) :
    ∃ consumption, chipCounterConsumption layout [bundle] = some consumption := by
  obtain ⟨set, _, held, _⟩ := counts.home _ member
  have stepped : [bundle].foldlM (Consuming.step layout) Consuming.start =
      some (Consuming.start.take set.name bundle.chipId) := by
    rw [List.foldlM_cons, Consuming.step, show bundle.mmio.chipId = bundle.chipId from rfl, held]
    rfl
  unfold chipCounterConsumption
  split
  · exact ⟨_, rfl⟩
  · rw [stepped]
    exact ⟨_, rfl⟩

/-- **A published device**: bundles of the host, pairwise distinct and at least one, with a
consumption of exactly their counters. -/
structure Entry (bundles : List HostBundle) (layout : CounterLayout)
    (entry : Device × AllocatableUnit) : Prop where
  inside : entry.2.bundles ⊆ bundles
  nodup : entry.2.bundles.Nodup
  covers : entry.2.bundles ≠ []
  declared : chipCounterConsumption layout entry.2.bundles = some entry.1.consumesCounters

section Enumerate

variable (rt : Runtime) (p : Profile) (topo : HostPhysicalTopology)

/-- The bundles an enumeration starts from. -/
def hostBundles : List HostBundle := bundleHostASICs rt topo.asics

/-- The trays an enumeration starts from. -/
def hostTrays : List TrayGroup := groupBundlesByTray rt (hostBundles rt topo)

/-- Composite devices are asked for, so that counters are published. -/
def Profile.composite : Bool := p.trayDevices || p.meshDevices

theorem mem_chipsOf_hostTrays {chip : UInt32} :
    chip ∈ Packing.chipsOf (hostTrays rt topo) ↔ ∃ bundle ∈ hostBundles rt topo, bundle.chipId = chip := by
  have grouped := groupBundlesByTray_perm rt (hostBundles rt topo)
  unfold Packing.chipsOf
  rw [← List.map_flatMap, List.mem_map]
  constructor
  · rintro ⟨bundle, member, same⟩
    exact ⟨bundle, grouped.mem_iff.mp member, same⟩
  · rintro ⟨bundle, member, same⟩
    exact ⟨bundle, grouped.mem_iff.mpr member, same⟩

theorem layout_enumerate : (p.enumerate rt topo).layout =
    if p.composite then buildChipCounterSets (hostTrays rt topo) else CounterLayout.empty := rfl

theorem units_enumerate : (p.enumerate rt topo).units =
    (hostBundles rt topo).map (chipEntry (p.enumerate rt topo).layout) ++
      (if p.trayDevices then (hostTrays rt topo).filterMap (trayEntry (p.enumerate rt topo).layout)
        else []) ++
      (if p.meshDevices then buildMeshDevices topo (hostBundles rt topo) (p.enumerate rt topo).layout
        else []) := rfl

variable {topo}

theorem hostBundles_chipIds_nodup (distinct : topo.ChipIdsDistinct) :
    ((hostBundles rt topo).map HostBundle.chipId).Nodup :=
  bundle_chipIds_nodup rt distinct

theorem hostBundles_nodup (distinct : topo.ChipIdsDistinct) : (hostBundles rt topo).Nodup :=
  (hostBundles_chipIds_nodup rt distinct).of_map

theorem hostBundle_eq_of_chipId (distinct : topo.ChipIdsDistinct) {first second : HostBundle}
    (inFirst : first ∈ hostBundles rt topo) (inSecond : second ∈ hostBundles rt topo)
    (same : first.chipId = second.chipId) : first = second :=
  List.inj_on_of_nodup_map (hostBundles_chipIds_nodup rt distinct) inFirst inSecond same

theorem hostTrays_chips_nodup (distinct : topo.MmioChipIdsDistinct) :
    (Packing.chipsOf (hostTrays rt topo)).Nodup := by
  unfold Packing.chipsOf
  rw [← List.map_flatMap]
  have grouped := (groupBundlesByTray_perm rt (hostBundles rt topo)).map HostBundle.chipId
  have anchors := (bundleHostASICs_anchors_perm rt topo.asics).map AsicInfo.chipId
  rw [List.map_map] at anchors
  exact grouped.nodup_iff.mpr (anchors.nodup_iff.mpr distinct)

/-- **The layout counts exactly the host's chip devices** whenever composites are asked for. -/
theorem layout_counts (distinct : topo.ChipIdsDistinct) (composite : p.composite = true) :
    (p.enumerate rt topo).layout.Counts (Packing.chipsOf (hostTrays rt topo)) := by
  rw [layout_enumerate, if_pos composite]
  exact buildChipCounterSets_counts _ (hostTrays_chips_nodup rt distinct.mmio)

theorem layout_empty (plain : p.composite = false) : (p.enumerate rt topo).layout.sets = [] := by
  rw [layout_enumerate, if_neg (by rw [plain]; decide)]
  rfl

/-- A chip device's own consumption can always be declared. -/
theorem chip_declared (distinct : topo.MmioChipIdsDistinct) {bundle : HostBundle}
    (member : bundle ∈ hostBundles rt topo) :
    ∃ consumption, chipCounterConsumption (p.enumerate rt topo).layout [bundle] = some consumption := by
  cases composite : p.composite with
  | true =>
    rw [layout_enumerate, if_pos composite]
    exact chipCounterConsumption_single
      (buildChipCounterSets_counts _ (hostTrays_chips_nodup rt distinct))
      ((mem_chipsOf_hostTrays rt topo).mpr ⟨bundle, member, rfl⟩)
  | false => exact ⟨[], chipCounterConsumption_plain (layout_empty rt p composite) _⟩

theorem chipEntry_entry (distinct : topo.ChipIdsDistinct) {bundle : HostBundle}
    (member : bundle ∈ hostBundles rt topo) :
    Entry (hostBundles rt topo) (p.enumerate rt topo).layout
      (chipEntry (p.enumerate rt topo).layout bundle) := by
  obtain ⟨consumption, declared⟩ := chip_declared rt p distinct.mmio member
  refine ⟨by simpa [chipEntry] using member, List.nodup_singleton _, List.cons_ne_nil _ _, ?_⟩
  show chipCounterConsumption _ [bundle] = some ((chipCounterConsumption _ [bundle]).getD [])
  rw [declared]
  rfl

theorem trayDevice_spec {tray : TrayGroup} {layout : CounterLayout} {device : Device}
    (built : trayDevice tray layout = some device) :
    device.name = deviceNameForTray tray.trayID ∧
      chipCounterConsumption layout tray.bundles = some device.consumesCounters := by
  unfold trayDevice at built
  obtain ⟨representative, _, built⟩ := Option.bind_eq_some_iff.mp built
  obtain ⟨consumption, declared, built⟩ := Option.bind_eq_some_iff.mp built
  cases built
  exact ⟨rfl, declared⟩

theorem trayEntry_spec {tray : TrayGroup} {layout : CounterLayout}
    {entry : Device × AllocatableUnit} (built : trayEntry layout tray = some entry) :
    entry.1.name = deviceNameForTray tray.trayID ∧ entry.2.bundles = tray.bundles ∧
      chipCounterConsumption layout tray.bundles = some entry.1.consumesCounters := by
  obtain ⟨device, made, rfl⟩ := Option.map_eq_some_iff.mp built
  have spec := trayDevice_spec made
  exact ⟨spec.1, rfl, spec.2⟩

theorem trayEntry_inside {layout : CounterLayout} {tray : TrayGroup}
    (member : tray ∈ hostTrays rt topo) {entry : Device × AllocatableUnit}
    (built : trayEntry layout tray = some entry) : entry.2.bundles ⊆ hostBundles rt topo := by
  rw [(trayEntry_spec built).2.1, (trayGroup_bundles rt _ member).1]
  exact List.filter_subset_self _

theorem trayEntry_entry (distinct : topo.ChipIdsDistinct) {layout : CounterLayout} {tray : TrayGroup}
    (member : tray ∈ hostTrays rt topo) {entry : Device × AllocatableUnit}
    (built : trayEntry layout tray = some entry) : Entry (hostBundles rt topo) layout entry := by
  obtain ⟨_, covered, declared⟩ := trayEntry_spec built
  obtain ⟨grouped, some⟩ := trayGroup_bundles rt _ member
  refine ⟨trayEntry_inside rt member built, ?_, ?_, ?_⟩
  · rw [covered, grouped]
    exact (hostBundles_nodup rt distinct).filter _
  · rw [covered]
    exact some
  · rw [covered]
    exact declared

theorem meshEntry_inside {layout : CounterLayout} {entry : Device × AllocatableUnit}
    (member : entry ∈ buildMeshDevices topo (hostBundles rt topo) layout) :
    entry.2.bundles ⊆ hostBundles rt topo := by
  obtain ⟨definition, _, built⟩ := mem_buildMeshDevices member
  obtain ⟨members, origin, consumption, resolved, _, _, _, unitEq⟩ := buildMesh_spec built
  rw [unitEq]
  exact resolveMesh_subset resolved

theorem meshEntry_entry {layout : CounterLayout} {entry : Device × AllocatableUnit}
    (member : entry ∈ buildMeshDevices topo (hostBundles rt topo) layout) :
    Entry (hostBundles rt topo) layout entry := by
  obtain ⟨definition, known, built⟩ := mem_buildMeshDevices member
  obtain ⟨members, origin, consumption, resolved, first, declared, deviceEq, unitEq⟩ :=
    buildMesh_spec built
  have covered : entry.2.bundles = members := by rw [unitEq]
  refine ⟨meshEntry_inside rt member, ?_, ?_, ?_⟩
  · rw [covered]
    exact resolveMesh_nodup (meshSlots_nodup _ (meshDefinitionsFor_subset topo known)) resolved
  · rw [covered]
    intro none
    rw [none] at first
    cases first
  · rw [covered, declared, deviceEq]
    rfl

theorem mem_enumerate {entry : Device × AllocatableUnit}
    (member : entry ∈ (p.enumerate rt topo).units) :
    (∃ bundle ∈ hostBundles rt topo, entry = chipEntry (p.enumerate rt topo).layout bundle) ∨
      (p.trayDevices = true ∧ ∃ tray ∈ hostTrays rt topo,
        trayEntry (p.enumerate rt topo).layout tray = some entry) ∨
      (p.meshDevices = true ∧
        entry ∈ buildMeshDevices topo (hostBundles rt topo) (p.enumerate rt topo).layout) := by
  rcases List.mem_append.mp member with member | mesh
  · rcases List.mem_append.mp member with chip | tray
    · obtain ⟨bundle, inside, same⟩ := List.mem_map.mp chip
      exact Or.inl ⟨bundle, inside, same.symm⟩
    · split at tray
      · rename_i on
        exact Or.inr (Or.inl ⟨on, List.mem_filterMap.mp tray⟩)
      · cases tray
  · split at mesh
    · rename_i on
      exact Or.inr (Or.inr ⟨on, mesh⟩)
    · cases mesh

/-- An enumerated device covers bundles of the host, whatever the topology. -/
theorem enumerate_inside {entry : Device × AllocatableUnit}
    (member : entry ∈ (p.enumerate rt topo).units) : entry.2.bundles ⊆ hostBundles rt topo := by
  rcases mem_enumerate rt p member with ⟨bundle, inside, rfl⟩ | ⟨_, tray, inside, built⟩ | ⟨_, mesh⟩
  · exact List.cons_subset.mpr ⟨inside, List.nil_subset _⟩
  · exact trayEntry_inside rt inside built
  · exact meshEntry_inside rt mesh

/-- **Every enumerated device is one.** -/
theorem enumerate_entry (distinct : topo.ChipIdsDistinct) {entry : Device × AllocatableUnit}
    (member : entry ∈ (p.enumerate rt topo).units) :
    Entry (hostBundles rt topo) (p.enumerate rt topo).layout entry := by
  rcases mem_enumerate rt p member with ⟨bundle, inside, rfl⟩ | ⟨_, tray, inside, built⟩ | ⟨_, mesh⟩
  · exact chipEntry_entry rt p distinct inside
  · exact trayEntry_entry rt distinct inside built
  · exact meshEntry_entry rt mesh

/-! ### Names -/

theorem chipNames_nodup (distinct : topo.ChipIdsDistinct) (layout : CounterLayout) :
    (((hostBundles rt topo).map (chipEntry layout)).map fun entry => entry.1.name).Nodup := by
  have names : ((hostBundles rt topo).map (chipEntry layout)).map (fun entry => entry.1.name) =
      ((hostBundles rt topo).map HostBundle.chipId).map deviceNameForChip := by
    rw [List.map_map, List.map_map]
    rfl
  rw [names]
  exact (hostBundles_chipIds_nodup rt distinct).map fun _ _ => deviceNameForChip_inj

theorem trayNames_nodup (layout : CounterLayout) :
    (((hostTrays rt topo).filterMap (trayEntry layout)).map fun entry => entry.1.name).Nodup := by
  refine List.pairwise_map.mpr (List.pairwise_filterMap.mpr ?_)
  have apart := List.pairwise_map.mp (trayIDs_nodup rt (hostBundles rt topo))
  refine apart.imp ?_
  intro a b ne entryA builtA entryB builtB same
  rw [(trayEntry_spec builtA).1, (trayEntry_spec builtB).1] at same
  exact ne (deviceNameForTray_inj same)

/-- The name a mesh device is published under. -/
theorem meshEntry_name {layout : CounterLayout} {entry : Device × AllocatableUnit}
    (member : entry ∈ buildMeshDevices topo (hostBundles rt topo) layout) :
    ∃ chip, entry.1.name = deviceNameForMesh "4x2h" chip := by
  obtain ⟨definition, known, built⟩ := mem_buildMeshDevices member
  obtain ⟨members, origin, consumption, _, _, _, deviceEq, _⟩ := buildMesh_spec built
  refine ⟨origin.chipId, ?_⟩
  rw [deviceEq, ← meshSlugs_same definition (meshDefinitionsFor_subset topo known)]
  rfl

/-- Chips, trays and meshes are named apart. -/
theorem enumerate_name {entry : Device × AllocatableUnit}
    (member : entry ∈ (p.enumerate rt topo).units) :
    (∃ chip, entry.1.name = deviceNameForChip chip) ∨ (∃ tray, entry.1.name = deviceNameForTray tray) ∨
      ∃ chip, entry.1.name = deviceNameForMesh "4x2h" chip := by
  rcases mem_enumerate rt p member with ⟨bundle, _, rfl⟩ | ⟨_, tray, _, built⟩ | ⟨_, mesh⟩
  · exact Or.inl ⟨bundle.chipId, rfl⟩
  · exact Or.inr (Or.inl ⟨tray.trayID, (trayEntry_spec built).1⟩)
  · exact Or.inr (Or.inr (meshEntry_name rt mesh))

/-- **No two published devices share a name.** -/
theorem enumerate_names_nodup (distinct : topo.ChipIdsDistinct) :
    ((p.enumerate rt topo).units.map fun entry => entry.1.name).Nodup := by
  have trays : ((if p.trayDevices then (hostTrays rt topo).filterMap
      (trayEntry (p.enumerate rt topo).layout) else []).map fun entry => entry.1.name).Nodup := by
    split
    · exact trayNames_nodup rt _
    · exact List.nodup_nil
  have meshes : ((if p.meshDevices then buildMeshDevices topo (hostBundles rt topo)
      (p.enumerate rt topo).layout else []).map fun entry => entry.1.name).Nodup := by
    split
    · exact meshNames_nodup topo _ _ (hostBundles_chipIds_nodup rt distinct)
    · exact List.nodup_nil
  rw [units_enumerate, List.map_append, List.map_append]
  refine List.nodup_append.mpr ⟨List.nodup_append.mpr ⟨chipNames_nodup rt distinct _, trays, ?_⟩,
    meshes, ?_⟩
  · intro a inChips b inTrays
    obtain ⟨entryA, chip, rfl⟩ := List.mem_map.mp inChips
    obtain ⟨bundle, _, rfl⟩ := List.mem_map.mp chip
    obtain ⟨entryB, tray, rfl⟩ := List.mem_map.mp inTrays
    split at tray
    · obtain ⟨group, _, built⟩ := List.mem_filterMap.mp tray
      rw [(trayEntry_spec built).1]
      exact chipName_ne_trayName _ _
    · cases tray
  · intro a inFirst b inMeshes
    obtain ⟨entryB, mesh, rfl⟩ := List.mem_map.mp inMeshes
    split at mesh
    · obtain ⟨chip, named⟩ := meshEntry_name rt mesh
      rw [named]
      rcases List.mem_append.mp inFirst with inChips | inTrays
      · obtain ⟨entryA, listed, rfl⟩ := List.mem_map.mp inChips
        obtain ⟨bundle, _, rfl⟩ := List.mem_map.mp listed
        exact chipName_ne_meshName _ _ _
      · obtain ⟨entryA, tray, rfl⟩ := List.mem_map.mp inTrays
        split at tray
        · obtain ⟨group, _, built⟩ := List.mem_filterMap.mp tray
          rw [(trayEntry_spec built).1]
          exact trayName_ne_meshName _ _ _
        · cases tray
    · cases mesh

/-- The unit `applyTopology` records for a published device. -/
theorem unitByDevice_applyTopology (distinct : topo.ChipIdsDistinct) {device : Device}
    {unit : AllocatableUnit} (member : (device, unit) ∈ (p.enumerate rt topo).units) :
    (applyTopology rt p topo).2.unitByDevice.lookup device.name = some unit :=
  lookup_recordUnits (enumerate_names_nodup rt p distinct) member

end Enumerate

/-! ### A small host -/

/-- A tray of one MMIO chip with a bundled remote, and a second tray. -/
def twoTrayHost : HostPhysicalTopology where
  asics := [
    { uniqueId := 10, boardType := 0, trayId := 1, asicLocation := 1, chipArch := "",
      memoryBytes := 0, pciAddress := "", chipId := 0, isMmioCapable := true, deviceNodeId := 0 },
    { uniqueId := 11, boardType := 0, trayId := 1, asicLocation := 2, chipArch := "",
      memoryBytes := 0, pciAddress := "", chipId := 1, isMmioCapable := false, deviceNodeId := 0 },
    { uniqueId := 12, boardType := 0, trayId := 2, asicLocation := 1, chipArch := "",
      memoryBytes := 0, pciAddress := "", chipId := 2, isMmioCapable := true, deviceNodeId := 1 }]
  localConnections := []
  quirks := none
  discoveryError := ""

end DraDriver.Tenstorrent
