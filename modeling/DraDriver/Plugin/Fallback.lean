/-
**Chips with and without composite devices.**

The driver publishes trays and meshes only where the flags ask for them and the API server keeps
counters; otherwise it falls back to chips alone. Nobody who asks for chips can tell: whatever the
options, next to the pool of a driver that publishes chips only,

* `chips_uncounted` — the chip devices are the same, in the same order, but for their counters;
* `chips_scheduled` — every run of allocations and releases of chips goes as it does there;
* `chips_prepared` — a claim for chips is prepared there and here alike, with the same devices;
* **`fallback_conservative`** — the three together.
-/

import DraDriver.Plugin.Composite
import DraDriver.Plugin.Prepared
import DraDriver.Plugin.Reconcile
import DraDriver.Tenstorrent.Together

namespace DraDriver.Plugin

open DraDriver.Base DraDriver.FabricManager DraDriver.Profiles DraDriver.Tenstorrent

variable {Config : Type}

/-- The published devices that are chips. -/
def chipDevices (applied : DriverResources × Profile) (nodeName : String) : List Device :=
  (poolOf applied.1 nodeName).devices.filter fun device => applied.2.kindOf device = some .chip

section Chips

variable (rt : Runtime) (p : Profile) {topo : HostPhysicalTopology}

/-- A chip device without its counters does not depend on the layout. -/
theorem uncounted_chipDevice (bundle : HostBundle) (layout : CounterLayout) :
    uncounted (chipDevice bundle layout) = chipDevice bundle CounterLayout.empty := by
  have none : chipCounterConsumption CounterLayout.empty [bundle] = some [] :=
    chipCounterConsumption_plain rfl _
  unfold uncounted chipDevice
  rw [none]
  rfl

/-- The chip devices, each with the bundle it stands for. -/
theorem chipDevices_eq (distinct : topo.ChipIdsDistinct) :
    chipDevices (applyTopology rt p topo) p.nodeName =
      (hostBundles rt topo).map fun bundle => chipDevice bundle (p.enumerate rt topo).layout := by
  have kinds : ∀ entry ∈ (p.enumerate rt topo).units,
      decide ((applyTopology rt p topo).2.kindOf entry.1 = some .chip) = decide (entry.2.kind = .chip) := by
    intro entry member
    unfold Profile.kindOf
    rw [unitByDevice_applyTopology rt p distinct member]
    simp
  unfold chipDevices
  rw [publishedDevices_applyTopology, List.filter_map]
  have chips : (p.enumerate rt topo).units.filter (fun entry => entry.2.kind = .chip) =
      (hostBundles rt topo).map (chipEntry (p.enumerate rt topo).layout) := by
    have trays : ∀ entry ∈ (if p.trayDevices then (hostTrays rt topo).filterMap
        (trayEntry (p.enumerate rt topo).layout) else []), ¬ decide (entry.2.kind = .chip) = true := by
      intro entry member
      split at member
      · obtain ⟨tray, -, built⟩ := List.mem_filterMap.mp member
        rw [kind_tray built]
        decide
      · cases member
    have meshes : ∀ entry ∈ (if p.meshDevices then buildMeshDevices topo (hostBundles rt topo)
        (p.enumerate rt topo).layout else []), ¬ decide (entry.2.kind = .chip) = true := by
      intro entry member
      split at member
      · rw [kind_mesh member]
        decide
      · cases member
    rw [units_enumerate, List.filter_append, List.filter_append, List.filter_eq_nil_iff.mpr trays,
      List.filter_eq_nil_iff.mpr meshes, List.append_nil, List.append_nil]
    refine List.filter_eq_self.mpr fun entry member => ?_
    obtain ⟨bundle, -, rfl⟩ := List.mem_map.mp member
    rfl
  calc ((p.enumerate rt topo).units.filter _).map Prod.fst
      = ((p.enumerate rt topo).units.filter fun entry => entry.2.kind = .chip).map Prod.fst :=
        congrArg _ (List.filter_congr kinds)
    _ = _ := by rw [chips, List.map_map]; rfl

/-- **The chip devices are those of a driver without composite devices**, but for their counters. -/
theorem chips_uncounted (distinct : topo.ChipIdsDistinct) {plain : Profile}
    (off : plain.composite = false) (node : plain.nodeName = p.nodeName) :
    (chipDevices (applyTopology rt p topo) p.nodeName).map uncounted =
      (poolOf (applyTopology rt plain topo).1 p.nodeName).devices := by
  have units : (plain.enumerate rt topo).units =
      (hostBundles rt topo).map (chipEntry CounterLayout.empty) := by
    obtain ⟨noTrays, noMeshes⟩ := Bool.or_eq_false_iff.mp off
    rw [units_enumerate, layout_enumerate, off, noTrays, noMeshes]
    simp
  rw [chipDevices_eq rt p distinct, ← node, publishedDevices_applyTopology, units, List.map_map,
    List.map_map]
  exact List.map_congr_left fun bundle _ => uncounted_chipDevice bundle _

/-! ### Allocating chips -/

/-- A chip device that is not held is let in beside any other chip devices. -/
theorem chip_admitted (distinct : topo.ChipIdsDistinct) {held : List Device} {device : Device}
    (chips : held ⊆ chipDevices (applyTopology rt p topo) p.nodeName)
    (chip : device ∈ chipDevices (applyTopology rt p topo) p.nodeName) (fresh : device ∉ held) :
    (counterPool (poolOf (applyTopology rt p topo).1 p.nodeName)).Admits held device := by
  obtain ⟨published, kind⟩ := List.mem_filter.mp chip
  have listed : held ⊆ (poolOf (applyTopology rt p topo).1 p.nodeName).devices :=
    fun other old => (List.mem_filter.mp (chips old)).1
  refine ((published_scheme rt p distinct).admits_iff listed published).mpr fun other old => ?_
  obtain ⟨published', kind'⟩ := List.mem_filter.mp (chips old)
  refine apart_of_kind rt p distinct published published' ?_ fun same => fresh (same ▸ old)
  exact (of_decide_eq_true kind).trans (of_decide_eq_true kind').symm

/-- Chip devices differ without their counters too: they have different names. -/
theorem uncounted_injOn (distinct : topo.ChipIdsDistinct) :
    Set.InjOn uncounted {device | device ∈ chipDevices (applyTopology rt p topo) p.nodeName} := by
  have names : ((poolOf (applyTopology rt p topo).1 p.nodeName).devices.map Device.name).Nodup := by
    rw [publishedDevices_applyTopology, List.map_map]
    exact enumerate_names_nodup rt p distinct
  intro device chip other chip' same
  have name : device.name = other.name := congrArg (fun stripped => stripped.name) same
  exact List.inj_on_of_nodup_map names (List.mem_filter.mp chip).1 (List.mem_filter.mp chip').1 name

/-- **Chips are scheduled as without composite devices**: the same actions are taken, and refused. -/
theorem chips_scheduled (distinct : topo.ChipIdsDistinct) {plain : Profile}
    (off : plain.composite = false) (node : plain.nodeName = p.nodeName)
    {actions : List (CounterPool.Action Device)}
    (chips : ∀ action ∈ actions, action.device ∈ chipDevices (applyTopology rt p topo) p.nodeName) :
    (actions.map (CounterPool.Action.map uncounted)).foldlM
        (counterPool (poolOf (applyTopology rt plain topo).1 p.nodeName)).act [] =
      (actions.foldlM (counterPool (poolOf (applyTopology rt p topo).1 p.nodeName)).act []).map
        (List.map uncounted) := by
  -- both pools treat the chips as one without counters does
  let chipPool : CounterPool Device (String × String) :=
    .free (chipDevices (applyTopology rt p topo) p.nodeName)
  have own : (actions.map (CounterPool.Action.map id)).foldlM
      (counterPool (poolOf (applyTopology rt p topo).1 p.nodeName)).act ([].map id) =
      (actions.foldlM chipPool.act []).map (List.map id) := by
    refine CounterPool.foldlM_act_map Function.injective_id.injOn ?_ ?_ chips (List.nil_subset _)
    · exact fun device chip => (List.mem_filter.mp chip).1
    · intro held inside device chip fresh
      rw [List.map_id]
      exact chip_admitted rt p distinct inside chip fresh
  have stripped : (actions.map (CounterPool.Action.map uncounted)).foldlM
      (counterPool (poolOf (applyTopology rt plain topo).1 p.nodeName)).act ([].map uncounted) =
      (actions.foldlM chipPool.act []).map (List.map uncounted) := by
    have inj := uncounted_injOn rt p distinct
    refine CounterPool.foldlM_act_map inj ?_ ?_ chips (List.nil_subset _)
    · intro device chip
      show uncounted device ∈ (poolOf (applyTopology rt plain topo).1 p.nodeName).devices
      rw [← chips_uncounted rt p distinct off node]
      exact List.mem_map_of_mem chip
    · intro held inside device chip fresh
      refine ⟨fun image => ?_, fun counter used => by cases used⟩
      obtain ⟨other, old, same⟩ := List.mem_map.mp image
      exact fresh (inj (inside old) chip same ▸ old)
  have same : actions.map (CounterPool.Action.map id) = actions :=
    (List.map_congr_left fun action _ => by cases action <;> rfl).trans (List.map_id _)
  rw [same, List.map_id_fun, Option.map_id] at own
  exact stripped.trans (congrArg _ own.symm)

/-! ### Preparing chips -/

variable (topo) in
/-- A claim that was allocated chips of the host only, as far as this driver is concerned. -/
def ForChips (driverName : String) (claim : ResourceClaim) : Prop :=
  ∀ allocation, claim.allocation = some allocation →
    ∀ result ∈ ownResults driverName allocation.results,
      ∃ bundle ∈ hostBundles rt topo, result.device = deviceNameForChip bundle.chipId

variable {rt}

/-- All profiles of the host record one unit for the name of a chip. -/
theorem chip_unit (distinct : topo.ChipIdsDistinct) (p : Profile) {bundle : HostBundle}
    (held : bundle ∈ hostBundles rt topo) :
    (applyTopology rt p topo).2.unitByDevice.lookup (deviceNameForChip bundle.chipId) =
      some { kind := .chip, trayID := bundle.mmio.trayId, bundles := [bundle] } :=
  unitByDevice_applyTopology rt p distinct (chipEntry_mem rt held)

/-- A claim for chips is prepared with devices that are chips. -/
theorem chips_named {s : DeviceState Config} {p : Profile} (anchored : p.Anchored)
    {claim : ResourceClaim} (chips : ForChips rt topo s.driverName claim) {again again' : Runtime}
    {devices : PreparedDevices} (prepared : (s.withProfile p).prepareDevices again again' claim = .ok devices) :
    ∀ device ∈ rangeDevices devices, ∃ bundle ∈ hostBundles rt topo,
      device.device.deviceName = deviceNameForChip bundle.chipId := by
  obtain ⟨allocation, _, allocated, _, _, rfl⟩ :=
    (prepareDevices_ok_iff again again' s anchored claim devices).mp prepared
  intro device member
  rw [rangeDevices_appended] at member
  obtain ⟨result, inside, rfl⟩ := List.mem_map.mp member
  exact chips allocation allocated result inside

/-- A claim for chips that is prepared under some options is prepared under any. -/
theorem chips_transfer (distinct : topo.ChipIdsDistinct) {config : DriverConfig Config}
    {p p' : Profile} (node' : p'.nodeName = config.nodeName)
    {claim : ResourceClaim} (chips : ForChips rt topo config.driverName claim)
    {again again' : Runtime} {devices : PreparedDevices}
    (prepared : ((initialState config (applyTopology rt p topo).1).withProfile
      (applyTopology rt p topo).2).prepareDevices again again' claim = .ok devices)
    (other other' : Runtime) : ((initialState config (applyTopology rt p' topo).1).withProfile
      (applyTopology rt p' topo).2).prepareDevices other other' claim = .ok devices := by
  have anchored := anchored_applyTopology rt p topo
  have named := chips_named anchored chips prepared
  have known : ∀ device ∈ rangeDevices devices,
      device.device.deviceName ∈ (applyTopology rt p' topo).2.unitByDevice := by
    intro device member
    obtain ⟨bundle, held, name⟩ := named device member
    exact AList.lookup_isSome.mp (Option.isSome_of_eq_some (name ▸ chip_unit distinct p' held))
  have sameDriver : (initialState config (applyTopology rt p' topo).1).driverName =
      (initialState config (applyTopology rt p topo).1).driverName := rfl
  refine prepareDevices_transfer anchored (anchored_applyTopology rt p' topo) sameDriver rfl rfl
    prepared ?_ known ?_ other other'
  · intro device member
    have reported := (mem_unitByDevice_applyTopology rt p' topo _).mp (known device member)
    rw [node'] at reported
    exact (mem_allocatableFrom _ _ _).mpr reported
  · intro device member
    obtain ⟨bundle, held, name⟩ := named device member
    have edits := prepareDevices_edits anchored prepared device member
    rw [name, chip_unit distinct _ held] at edits ⊢
    exact edits

end Chips

/-- **Composite devices change nothing for chips.** Whatever the options, the chip devices of a node are,
but for their counters, the devices it publishes with composite devices off; the scheduler takes and
refuses the same allocations and releases of chips, after any others of chips; and a claim for chips is
prepared in both cases or in neither, with the same devices. -/
theorem fallback_conservative (rt : Runtime) (config : DriverConfig Config) (opts : Options)
    (topo : HostPhysicalTopology) (distinct : topo.ChipIdsDistinct) :
    let applied := applyTopology rt (newProfile config.nodeName opts) topo
    let plain := applyTopology rt (newProfile config.nodeName ⟨false, false⟩) topo
    let chips := chipDevices applied config.nodeName
    chips.map uncounted = (poolOf plain.1 config.nodeName).devices ∧
    (∀ actions : List (CounterPool.Action Device), (∀ action ∈ actions, action.device ∈ chips) →
      (actions.map (CounterPool.Action.map uncounted)).foldlM
          (counterPool (poolOf plain.1 config.nodeName)).act [] =
        (actions.foldlM (counterPool (poolOf applied.1 config.nodeName)).act []).map
          (List.map uncounted)) ∧
    ∀ claim, ForChips rt topo config.driverName claim → ∀ again again' other other' devices,
      ((initialState config applied.1).withProfile applied.2).prepareDevices again again' claim =
          .ok devices ↔
        ((initialState config plain.1).withProfile plain.2).prepareDevices other other' claim =
          .ok devices := by
  intro applied plain chips
  have off : (newProfile config.nodeName ⟨false, false⟩).composite = false := rfl
  refine ⟨?_, ?_, ?_⟩
  · exact chips_uncounted rt (newProfile config.nodeName opts) distinct off rfl
  · intro actions inside
    exact chips_scheduled rt (newProfile config.nodeName opts) distinct off rfl inside
  · intro claim forChips again again' other other' devices
    constructor
    · intro prepared
      exact chips_transfer distinct rfl forChips prepared other other'
    · intro prepared
      exact chips_transfer distinct rfl forChips prepared again again'

/-- A claim for both chips of a host that publishes its trays too. -/
theorem twoTrayHost_fallback :
    let applied := applyTopology Runtime.plain (newProfile "node" ⟨true, true⟩) twoTrayHost
    let plain := applyTopology Runtime.plain (newProfile "node" ⟨false, false⟩) twoTrayHost
    let claim := sampleClaim uidA ["tt-2", "tt-0"]
    (poolOf applied.1 "node").devices.map Device.name = ["tt-0", "tt-2", "tt-tray-1", "tt-tray-2"] ∧
    (poolOf plain.1 "node").devices.map Device.name = ["tt-0", "tt-2"] ∧
    ForChips Runtime.plain twoTrayHost "tenstorrent.com" claim ∧ ∀ devices,
      (((initialState sampleConfig applied.1).withProfile applied.2).prepareDevices Runtime.plain
          Runtime.plain claim = .ok devices ↔
        ((initialState sampleConfig plain.1).withProfile plain.2).prepareDevices Runtime.reversed
          Runtime.reversed claim = .ok devices) := by
  intro applied plain claim
  have forChips : ForChips Runtime.plain twoTrayHost "tenstorrent.com" claim := by
    intro allocation allocated
    cases allocated
    decide +kernel
  refine ⟨by decide +kernel, by decide +kernel, forChips, fun devices => ?_⟩
  exact (fallback_conservative Runtime.plain sampleConfig ⟨true, true⟩ twoTrayHost (by decide)).2.2
    claim forChips _ _ _ _ devices

end DraDriver.Plugin
