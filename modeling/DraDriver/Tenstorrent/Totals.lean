/-
**Composite totals agree with their parts.**

Three builders compute a device's totals from its bundles: a chip device from its one bundle, a tray
or mesh device from all of its own. The scheduler adds up what the chip devices publish. The two meet
because a composite device consumes the counters of exactly its bundles' chip devices
(`partsOf_perm`), and because the bundles share no ASIC and hold no more DRAM than the host
(`dramOf_le`).

* `Pool.partsOf` — the chip devices whose counters a device consumes.
* `length_consumedCounters` — a device consumes one counter for each of its bundles.
* `memoryCapacity_exact` — the memory of a device is its DRAM, as long as that fits an `int64`.
* **`composite_totals`** — for every published tray and mesh device.
-/

import DraDriver.Tenstorrent.Edits
import DraDriver.Tenstorrent.Exclusion

namespace DraDriver.Tenstorrent

open DraDriver.Base DraDriver.FabricManager DraDriver.Profiles

/-! ### What a device says of itself -/

/-- An attribute of a device. -/
def Device.attribute (device : Device) (name : String) : Option DeviceAttribute :=
  device.attributes.lookup name

/-- The device is published as this kind of unit. -/
def Device.isUnit (device : Device) (kind : UnitKind) : Bool :=
  decide (device.attribute "unit" = some (.string kind.text))

/-- A number among the attributes; zero if there is none. -/
def Device.number (device : Device) (name : String) : ℤ :=
  match device.attribute name with
  | some (.int value) => value
  | _ => 0

/-- The memory capacity; an absent one is zero. -/
def Device.capacity (device : Device) : ℤ := device.memory.getD 0

/-- **The chip devices whose counters a device consumes.** -/
def Pool.partsOf (pool : Pool) (device : Device) : List Device :=
  pool.devices.filter fun part => part.isUnit .chip &&
    (consumedCounters part.consumesCounters).any fun counter =>
      decide (counter ∈ consumedCounters device.consumesCounters)

theorem chipDevice_isUnit (bundle : HostBundle) (layout : CounterLayout) (other : UnitKind) :
    (chipDevice bundle layout).isUnit other = decide (UnitKind.chip = other) := by
  have unit : (chipDevice bundle layout).attribute "unit" = some (.string UnitKind.chip.text) := by
    simp [Device.attribute, chipDevice, List.lookup_cons]
  rw [Device.isUnit, unit]
  cases other <;> decide

theorem chipDevice_chipCount (bundle : HostBundle) (layout : CounterLayout) :
    (chipDevice bundle layout).attribute "chipCount" = some (.int (bundle.asics.length)) := by
  simp [Device.attribute, chipDevice, List.lookup_cons, HostBundle.asics, add_comm]

/-! ### Sums over bundles -/

/-- The DRAM of some ASICs, without wrapping. -/
def dramOf (asics : List AsicInfo) : ℕ := (asics.map fun asic => asic.memoryBytes.toNat).sum

theorem chipCount_eq_sum (bundles : List HostBundle) :
    chipCount bundles = (bundles.map fun bundle => bundle.asics.length).sum := by
  have from_ : ∀ (bundles : List HostBundle) (count : ℕ),
      bundles.foldl (fun count bundle => count + (1 + bundle.remotes.length)) count =
        count + (bundles.map fun bundle => bundle.asics.length).sum := by
    intro bundles
    induction bundles with
    | nil => simp
    | cons bundle bundles ih =>
      intro count
      rw [List.foldl_cons, ih, List.map_cons, List.sum_cons, HostBundle.asics, List.length_cons]
      omega
  rw [chipCount, from_, Nat.zero_add]

theorem dramOf_flatMap (bundles : List HostBundle) :
    dramOf (bundles.flatMap HostBundle.asics) = (bundles.map fun bundle => dramOf bundle.asics).sum := by
  induction bundles with
  | nil => rfl
  | cons bundle bundles ih =>
    rw [List.flatMap_cons, List.map_cons, List.sum_cons, ← ih]
    unfold dramOf
    rw [List.map_append, List.sum_append]

/-- The accumulator of `bundlesMemoryBytes` does not wrap while the whole fits. -/
theorem bundlesMemoryBytes_toNat {bundles : List HostBundle}
    (fits : dramOf (bundles.flatMap HostBundle.asics) < 2 ^ 64) :
    (bundlesMemoryBytes bundles).toNat = dramOf (bundles.flatMap HostBundle.asics) := by
  have adds : ∀ (asics : List AsicInfo) (total : UInt64), total.toNat + dramOf asics < 2 ^ 64 →
      (asics.foldl (fun total asic => total + asic.memoryBytes) total).toNat =
        total.toNat + dramOf asics := by
    intro asics
    induction asics with
    | nil =>
      intro total _
      rfl
    | cons asic asics ih =>
      intro total fits
      have split : dramOf (asic :: asics) = asic.memoryBytes.toNat + dramOf asics := rfl
      have small : (total + asic.memoryBytes).toNat = total.toNat + asic.memoryBytes.toNat := by
        rw [UInt64.toNat_add]
        omega
      rw [List.foldl_cons, ih _ (by omega), small, split]
      omega
  -- the two nested loops are one over all the ASICs
  have nested : ∀ (bundles : List HostBundle) (total : UInt64),
      bundles.foldl (fun total bundle => bundle.remotes.foldl
        (fun total remote => total + remote.memoryBytes) (total + bundle.mmio.memoryBytes)) total =
      (bundles.flatMap HostBundle.asics).foldl (fun total asic => total + asic.memoryBytes) total := by
    intro bundles
    induction bundles with
    | nil => exact fun _ => rfl
    | cons bundle bundles ih =>
      intro total
      rw [List.foldl_cons, ih, List.flatMap_cons, List.foldl_append]
      rfl
  rw [bundlesMemoryBytes, nested, adds _ 0 (by simpa using fits)]
  simp

/-- **The memory of a device is its DRAM**, as long as that fits an `int64`. -/
theorem memoryCapacity_exact {bundles : List HostBundle}
    (fits : dramOf (bundles.flatMap HostBundle.asics) < 2 ^ 63) :
    (memoryCapacity bundles).getD 0 = dramOf (bundles.flatMap HostBundle.asics) := by
  have bytes : (bundlesMemoryBytes bundles).toNat = dramOf (bundles.flatMap HostBundle.asics) :=
    bundlesMemoryBytes_toNat (by omega)
  unfold memoryCapacity
  split
  · show (bundlesMemoryBytes bundles).toBitVec.toInt = _
    rw [BitVec.toInt_eq_toNat_of_lt, ← bytes]
    · rfl
    · show 2 * (bundlesMemoryBytes bundles).toNat < _
      omega
  · next none =>
    have zero : (bundlesMemoryBytes bundles).toNat = 0 := by
      by_contra some
      exact none (UInt64.lt_iff_toNat_lt.mpr (Nat.pos_of_ne_zero some))
    rw [Option.getD_none, ← bytes, zero]
    rfl

/-! ### Composite devices -/

/-- **What the builders of composite devices publish**, in terms of the bundles. -/
structure Composite (kind : UnitKind) (entry : Device × AllocatableUnit) : Prop where
  unit : entry.1.attribute "unit" = some (.string kind.text)
  chips : entry.1.attribute "chipCount" = some (.int (chipCount entry.2.bundles))
  devices : entry.1.attribute "chipDeviceCount" = some (.int entry.2.bundles.length)
  memory : entry.1.memory = memoryCapacity entry.2.bundles

theorem trayEntry_composite {layout : CounterLayout} {tray : TrayGroup}
    {entry : Device × AllocatableUnit} (built : trayEntry layout tray = some entry) :
    Composite .tray entry ∧ entry.1.attribute "trayID" = some (.int tray.trayID.toNat) := by
  obtain ⟨device, made, rfl⟩ := Option.map_eq_some_iff.mp built
  unfold trayDevice at made
  obtain ⟨representative, _, made⟩ := Option.bind_eq_some_iff.mp made
  obtain ⟨consumption, _, made⟩ := Option.bind_eq_some_iff.mp made
  cases made
  refine ⟨⟨?_, ?_, ?_, rfl⟩, ?_⟩ <;> simp [Device.attribute, List.lookup_cons]

theorem meshEntry_composite {rt : Runtime} {topo : HostPhysicalTopology} {layout : CounterLayout}
    {entry : Device × AllocatableUnit}
    (member : entry ∈ buildMeshDevices topo (hostBundles rt topo) layout) : Composite .mesh entry := by
  obtain ⟨definition, _, built⟩ := mem_buildMeshDevices member
  obtain ⟨members, origin, consumption, _, _, _, deviceEq, unitEq⟩ := buildMesh_spec built
  have covered : entry.2.bundles = members := by rw [unitEq]
  refine ⟨?_, ?_, ?_, ?_⟩
  · rw [deviceEq]
    simp [Device.attribute, meshDevice, List.lookup_cons]
  · rw [deviceEq, covered]
    simp [Device.attribute, meshDevice, List.lookup_cons]
  · rw [deviceEq, covered]
    simp [Device.attribute, meshDevice, List.lookup_cons]
  · rw [deviceEq, covered]
    rfl

theorem Composite.isUnit_eq {kind : UnitKind} {entry : Device × AllocatableUnit}
    (composite : Composite kind entry) (other : UnitKind) :
    entry.1.isUnit other = decide (kind = other) := by
  unfold Device.isUnit
  rw [composite.unit]
  cases kind <;> cases other <;> decide

section Published

variable (rt : Runtime) (p : Profile) {topo : HostPhysicalTopology}

/-- A published tray or mesh device comes from a composite option and one of the two builders. -/
theorem composite_entry {entry : Device × AllocatableUnit} (member : entry ∈ (p.enumerate rt topo).units)
    (kind : entry.1.isUnit .tray = true ∨ entry.1.isUnit .mesh = true) :
    p.composite = true ∧ ∃ kind, Composite kind entry := by
  rcases mem_enumerate rt p member with ⟨bundle, _, rfl⟩ | ⟨on, tray, _, built⟩ | ⟨on, mesh⟩
  · rcases kind with tray | mesh
    · cases (chipDevice_isUnit bundle (p.enumerate rt topo).layout .tray).symm.trans tray
    · cases (chipDevice_isUnit bundle (p.enumerate rt topo).layout .mesh).symm.trans mesh
  · exact ⟨by rw [Profile.composite, on]; rfl, .tray, (trayEntry_composite built).1⟩
  · exact ⟨by rw [Profile.composite, on, Bool.or_true], .mesh, meshEntry_composite mesh⟩

/-- The counter of a bundle's chip. -/
def counterOf (layout : CounterLayout) (bundle : HostBundle) : String × String :=
  ((layout.setByChip.lookup bundle.chipId).getD "", counterNameForChip bundle.chipId)

/-- No counter is named twice in a consumption. -/
theorem consumedCounters_nodup {layout : CounterLayout} {bundles : List HostBundle}
    {consumption : List DeviceCounterConsumption} (counted : layout.sets ≠ [])
    (declared : chipCounterConsumption layout bundles = some consumption) :
    (consumedCounters consumption).Nodup := by
  obtain ⟨state, holds, -, rfl⟩ := chipCounterConsumption_holds counted declared
  unfold consumedCounters
  rw [List.flatMap_map, List.nodup_flatMap]
  refine ⟨fun set _ => ?_, holds.nodup.imp fun {set other} apart => ?_⟩
  · exact (AList.keys_nodup _).map fun name name' same => (Prod.mk.inj same).2
  · intro counter inSet inOther
    obtain ⟨_, _, rfl⟩ := List.mem_map.mp inSet
    obtain ⟨_, _, same⟩ := List.mem_map.mp inOther
    exact apart (Prod.mk.inj same).1.symm

/-- **A device consumes one counter for each of its bundles.** -/
theorem length_consumedCounters (distinct : topo.ChipIdsDistinct) (composite : p.composite = true)
    {entry : Device × AllocatableUnit} (member : entry ∈ (p.enumerate rt topo).units) :
    (consumedCounters entry.1.consumesCounters).length = entry.2.bundles.length := by
  have listed := enumerate_entry rt p distinct member
  have counted := composite_counted rt p distinct composite member
  have counts := layout_counts rt p distinct composite
  have apart : (entry.2.bundles.map (counterOf (p.enumerate rt topo).layout)).Nodup := by
    refine listed.nodup.map_on fun a inA b inB same => ?_
    exact hostBundle_eq_of_chipId rt distinct (listed.inside inA) (listed.inside inB)
      (counterNameForChip_inj (Prod.mk.inj same).2)
  have same : (consumedCounters entry.1.consumesCounters).Perm
      (entry.2.bundles.map (counterOf (p.enumerate rt topo).layout)) := by
    refine (List.perm_ext_iff_of_nodup (consumedCounters_nodup counted listed.declared) apart).mpr ?_
    rintro ⟨set, name⟩
    rw [mem_consumedCounters counted listed.declared, takes_iff, List.mem_map]
    refine exists_congr fun bundle => and_congr_right fun inside => ?_
    obtain ⟨home, _, held, _⟩ := counts.home bundle.chipId
      ((mem_chipsOf_hostTrays rt topo).mpr ⟨bundle, listed.inside inside, rfl⟩)
    unfold counterOf
    rw [held]
    simp
  rw [same.length_eq, List.length_map]

/-- **The parts of a composite device** are the chip devices of its bundles. -/
theorem partsOf_perm (distinct : topo.ChipIdsDistinct) (composite : p.composite = true)
    {device : Device} {unit : AllocatableUnit} (member : (device, unit) ∈ (p.enumerate rt topo).units) :
    ((poolOf (applyTopology rt p topo).1 p.nodeName).partsOf device).Perm
      (unit.bundles.map fun bundle => chipDevice bundle (p.enumerate rt topo).layout) := by
  have listed := enumerate_entry rt p distinct member
  have published : (poolOf (applyTopology rt p topo).1 p.nodeName).devices.Nodup := by
    rw [publishedDevices_applyTopology]
    refine List.Nodup.of_map Device.name ?_
    rw [List.map_map]
    exact enumerate_names_nodup rt p distinct
  have apart : (unit.bundles.map fun bundle => chipDevice bundle (p.enumerate rt topo).layout).Nodup := by
    refine listed.nodup.map_on fun a inA b inB same => ?_
    exact hostBundle_eq_of_chipId rt distinct (listed.inside inA) (listed.inside inB)
      (deviceNameForChip_inj (congrArg Device.name same))
  refine (List.perm_ext_iff_of_nodup (published.filter _) apart).mpr fun part => ?_
  rw [List.mem_filter, publishedDevices_applyTopology, List.mem_map, List.mem_map]
  simp only [Bool.and_eq_true, List.any_eq_true, decide_eq_true_eq]
  constructor
  · rintro ⟨⟨entry, inUnits, rfl⟩, isChip, shared⟩
    have share := (composite_share rt p distinct composite inUnits member).mpr shared
    rcases mem_enumerate rt p inUnits with ⟨bundle, inside, rfl⟩ | ⟨_, tray, _, built⟩ | ⟨_, mesh⟩
    · obtain ⟨_, ⟨own, isOwn, rfl⟩, other, covered, same⟩ := share
      have isBundle : own = bundle := by simpa [chipEntry] using isOwn
      subst isBundle
      exact ⟨own, hostBundle_eq_of_chipId rt distinct (listed.inside covered) inside same ▸ covered, rfl⟩
    · rw [(trayEntry_composite built).1.isUnit_eq] at isChip
      cases isChip
    · rw [(meshEntry_composite mesh).isUnit_eq] at isChip
      cases isChip
  · rintro ⟨bundle, covered, rfl⟩
    have inUnits : chipEntry (p.enumerate rt topo).layout bundle ∈ (p.enumerate rt topo).units := by
      rw [units_enumerate]
      exact List.mem_append_left _ (List.mem_append_left _ (List.mem_map_of_mem (listed.inside covered)))
    refine ⟨⟨_, inUnits, rfl⟩, chipDevice_isUnit _ _ .chip, ?_⟩
    exact (composite_share rt p distinct composite inUnits member).mp
      ⟨bundle.chipId, ⟨bundle, List.mem_singleton_self _, rfl⟩, bundle, covered, rfl⟩

/-- Bundles of the host hold no more DRAM than the host. -/
theorem dramOf_le {bundles : List HostBundle} (nodup : bundles.Nodup)
    (inside : bundles ⊆ hostBundles rt topo) :
    dramOf (bundles.flatMap HostBundle.asics) ≤ dramOf topo.asics := by
  obtain ⟨ordered, same, within⟩ := List.subperm_of_subset nodup inside
  calc dramOf (bundles.flatMap HostBundle.asics)
      = (ordered.map fun bundle => dramOf bundle.asics).sum := by
        rw [dramOf_flatMap, (same.map _).sum_eq]
    _ ≤ ((hostBundles rt topo).map fun bundle => dramOf bundle.asics).sum :=
        (within.map _).sum_le_sum fun _ _ => Nat.zero_le _
    _ = dramOf (topo.asics.filter (Reachable topo.asics)) := by
        rw [← dramOf_flatMap]
        exact ((bundleHostASICs_asics_perm rt topo.asics).map _).sum_eq
    _ ≤ dramOf topo.asics := (List.filter_sublist.map _).sum_le_sum fun _ _ => Nat.zero_le _

/-- The bundles of a tray hold all of its ASICs. -/
theorem chipCount_tray {tray : TrayGroup} (member : tray ∈ hostTrays rt topo) :
    chipCount tray.bundles = (topo.asics.filter fun asic => asic.trayId = tray.trayID).length := by
  obtain ⟨grouped, some⟩ := trayGroup_bundles rt _ member
  obtain ⟨bundle, first⟩ := List.exists_mem_of_ne_nil _ some
  rw [grouped] at first
  obtain ⟨listed, onTray⟩ := List.mem_filter.mp first
  obtain ⟨anchored, capable⟩ := bundle_anchor rt topo.asics listed
  have anyMmio : (topo.asics.filter fun asic => asic.trayId = tray.trayID).any
      (fun asic => asic.isMmioCapable) = true :=
    List.any_eq_true.mpr ⟨bundle.mmio, List.mem_filter.mpr ⟨anchored, onTray⟩, capable⟩
  have held := bundleTray_asics_perm rt (topo.asics.filter fun asic => asic.trayId = tray.trayID)
  rw [if_pos anyMmio] at held
  have whole := ((bundles_onTray rt topo.asics tray.trayID).flatMap_right HostBundle.asics).trans held
  rw [chipCount_eq_sum, ← List.length_flatMap, grouped]
  exact whole.length_eq

/-- **The totals of a device agree with its parts** in a pool. -/
structure TotalsAgree (pool : Pool) (device : Device) : Prop where
  /-- `chipDeviceCount` is the number of counters consumed. -/
  counters : device.attribute "chipDeviceCount" =
    some (.int (consumedCounters device.consumesCounters).length)
  /-- `chipCount` is the sum of the parts' `chipCount`. -/
  chips : device.attribute "chipCount" =
    some (.int ((pool.partsOf device).map fun part => part.number "chipCount").sum)
  /-- Every part has a `chipCount` of its own. -/
  counted : ∀ part ∈ pool.partsOf device, ∃ count : ℕ, part.attribute "chipCount" = some (.int count)
  /-- The memory is the sum of the parts' memory. -/
  memory : device.capacity = ((pool.partsOf device).map Device.capacity).sum
  /-- No part's memory is negative. -/
  nonneg : ∀ part ∈ pool.partsOf device, 0 ≤ part.capacity

/-- A composite device's totals agree with its parts. -/
theorem totals_agree (distinct : topo.ChipIdsDistinct) (small : dramOf topo.asics < 2 ^ 63)
    (composite : p.composite = true) {device : Device} {unit : AllocatableUnit}
    (member : (device, unit) ∈ (p.enumerate rt topo).units) {kind : UnitKind}
    (built : Composite kind (device, unit)) :
    TotalsAgree (poolOf (applyTopology rt p topo).1 p.nodeName) device ∧
      device.capacity = dramOf (unit.bundles.flatMap HostBundle.asics) := by
  have listed := enumerate_entry rt p distinct member
  have parts := partsOf_perm rt p distinct composite member
  have fits : dramOf (unit.bundles.flatMap HostBundle.asics) < 2 ^ 63 :=
    lt_of_le_of_lt (dramOf_le rt listed.nodup listed.inside) small
  have whole : device.capacity = dramOf (unit.bundles.flatMap HostBundle.asics) := by
    rw [Device.capacity, built.memory]
    exact memoryCapacity_exact fits
  -- one chip device at a time
  have numbers : ∀ bundle : HostBundle,
      (chipDevice bundle (p.enumerate rt topo).layout).number "chipCount" = bundle.asics.length := by
    intro bundle
    rw [Device.number, chipDevice_chipCount]
  have capacities : ∀ bundle ∈ unit.bundles,
      (chipDevice bundle (p.enumerate rt topo).layout).capacity = dramOf bundle.asics := by
    intro bundle covered
    have one : dramOf ([bundle].flatMap HostBundle.asics) = dramOf bundle.asics := by
      rw [List.flatMap_singleton]
    have part := dramOf_le rt (List.nodup_singleton bundle)
      (List.cons_subset.mpr ⟨listed.inside covered, List.nil_subset _⟩)
    rw [← one]
    exact memoryCapacity_exact (lt_of_le_of_lt part small)
  have isPart : ∀ part ∈ (poolOf (applyTopology rt p topo).1 p.nodeName).partsOf device,
      ∃ bundle ∈ unit.bundles, chipDevice bundle (p.enumerate rt topo).layout = part :=
    fun part inParts => List.mem_map.mp (parts.mem_iff.mp inParts)
  refine ⟨⟨?_, ?_, ?_, ?_, ?_⟩, whole⟩
  · rw [built.devices, length_consumedCounters rt p distinct composite member]
  · rw [built.chips, (parts.map _).sum_eq, List.map_map, chipCount_eq_sum]
    have casts : unit.bundles.map ((fun part => part.number "chipCount") ∘ fun bundle =>
        chipDevice bundle (p.enumerate rt topo).layout) =
          (unit.bundles.map fun bundle => bundle.asics.length).map (Nat.cast : ℕ → ℤ) := by
      rw [List.map_map]
      exact List.map_congr_left fun bundle _ => numbers bundle
    rw [casts, ← Nat.cast_list_sum]
  · intro part inParts
    obtain ⟨bundle, _, rfl⟩ := isPart part inParts
    exact ⟨_, chipDevice_chipCount bundle _⟩
  · rw [whole, (parts.map _).sum_eq, List.map_map, dramOf_flatMap]
    have casts : unit.bundles.map (Device.capacity ∘ fun bundle =>
        chipDevice bundle (p.enumerate rt topo).layout) =
          (unit.bundles.map fun bundle => dramOf bundle.asics).map (Nat.cast : ℕ → ℤ) := by
      rw [List.map_map]
      exact List.map_congr_left fun bundle covered => capacities bundle covered
    rw [casts, ← Nat.cast_list_sum]
  · intro part inParts
    obtain ⟨bundle, covered, rfl⟩ := isPart part inParts
    rw [capacities bundle covered]
    exact Int.natCast_nonneg _

end Published

/-- **Composite totals agree with their parts.** For every topology with distinct chip ids and less
than 2^63 bytes of DRAM, every published tray or mesh device: its totals are the sums over the chip
devices whose counters it consumes; `ApplyConfig` gives it as many nodes as it counts chip devices;
its memory is the DRAM of its ASICs, without a wrap; and a tray counts every ASIC on it. -/
theorem composite_totals (Config : Type) (rt : Runtime) (nodeName : String) (opts : Options)
    (topo : HostPhysicalTopology) (distinct : topo.ChipIdsDistinct) (small : dramOf topo.asics < 2 ^ 63) :
    let applied := applyTopology rt (newProfile nodeName opts) topo
    let pool := poolOf applied.1 nodeName
    ∀ device ∈ pool.devices, device.isUnit .tray = true ∨ device.isUnit .mesh = true →
      TotalsAgree pool device ∧
      device.capacity = dramOf ((applied.2.bundlesOf device).flatMap HostBundle.asics) ∧
      (∀ results : List DeviceRequestAllocationResult,
        (∀ result ∈ results, result.device ∈ pool.devices.map Device.name) →
        device.name ∈ results.map (·.device) →
        ∃ edits own, applied.2.applyConfig (none : Option Config) results = .ok edits ∧
          edits.lookup device.name = some own ∧
          device.attribute "chipDeviceCount" = some (.int own.deviceNodes.length)) ∧
      (device.isUnit .tray = true → ∃ tray : UInt32,
        device.attribute "trayID" = some (.int tray.toNat) ∧
        device.attribute "chipCount" =
          some (.int (topo.asics.filter fun asic => asic.trayId = tray).length)) := by
  intro applied pool device published kind
  obtain ⟨unit, member⟩ := mem_published rt (newProfile nodeName opts) published
  obtain ⟨composite, _, built⟩ := composite_entry rt _ member kind
  obtain ⟨agree, exact⟩ := totals_agree rt _ distinct small composite member built
  refine ⟨agree, ?_, fun results known asked => ?_, fun isTray => ?_⟩
  · rw [bundlesOf_applyTopology rt _ distinct member]
    exact exact
  · obtain ⟨edits, ran, lookups⟩ := applyConfig_known Config (anchored_applyTopology rt _ topo) results
      fun result inside => (mem_unitByDevice_applyTopology rt _ topo _).mpr (known result inside)
    refine ⟨edits, unitEdits unit, ran, ?_, ?_⟩
    · rw [lookups device.name, if_pos asked, unitByDevice_applyTopology rt _ distinct member]
      rfl
    · rw [unitEdits, List.length_map]
      exact built.devices
  · rcases mem_enumerate rt _ member with ⟨bundle, _, same⟩ | ⟨_, tray, inside, made⟩ | ⟨_, mesh⟩
    · have isChip := congrArg (fun entry : Device × AllocatableUnit => entry.1.isUnit .tray) same
      cases isTray.symm.trans (isChip.trans (chipDevice_isUnit bundle _ .tray))
    · obtain ⟨whole, named⟩ := trayEntry_composite made
      refine ⟨tray.trayID, named, whole.chips.trans ?_⟩
      rw [(trayEntry_spec made).2.1, chipCount_tray rt inside]
    · rw [(meshEntry_composite mesh).isUnit_eq .tray] at isTray
      cases isTray

/-- The host of two trays with 12 GiB a chip. -/
def dramHost : HostPhysicalTopology :=
  { twoTrayHost with asics := twoTrayHost.asics.map fun asic => { asic with memoryBytes := 12884901888 } }

/-- The first tray counts its remote chip, and has the memory of both. -/
theorem dramHost_totals :
    let applied := applyTopology Runtime.plain (newProfile "node" ⟨true, false⟩) dramHost
    let pool := poolOf applied.1 "node"
    ∃ device ∈ pool.devices, device.name = "tt-tray-1" ∧ TotalsAgree pool device ∧
      device.attribute "chipCount" = some (.int 2) ∧ device.attribute "chipDeviceCount" = some (.int 1) ∧
      device.capacity = 25769803776 := by
  intro applied pool
  obtain ⟨device, listed, facts⟩ : ∃ device ∈ pool.devices, device.isUnit .tray = true ∧
      device.name = "tt-tray-1" ∧ device.attribute "chipCount" = some (.int 2) ∧
      device.attribute "chipDeviceCount" = some (.int 1) ∧ device.capacity = 25769803776 := by
    decide +kernel
  obtain ⟨isTray, named, chips, devices, memory⟩ := facts
  have totals := composite_totals Unit Runtime.plain "node" ⟨true, false⟩ dramHost (by decide)
    (by decide) device listed (Or.inl isTray)
  exact ⟨device, listed, named, totals.1, chips, devices, memory⟩

end DraDriver.Tenstorrent
