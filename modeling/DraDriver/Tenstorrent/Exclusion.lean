/-
**No chip is handed out twice.**

The cluster's scheduler sees only the published pool: it lets a device in when it is not allocated
itself and every counter it consumes has room. `counterPool` is that view of a pool, an instance of
the counter scheduler of `Base.Exclusion`.

* **`published_scheme`** — the counters of a published pool say exactly which MMIO chips two
  devices share. With composite devices every chip has a counter; without, no device consumes one
  and no two devices share a chip.
* **`allocation_exclusion`** — over every run of allocations and releases no ASIC belongs to two
  allocated devices, and a device is refused exactly when it shares an MMIO chip with one.
-/

import DraDriver.Base.Exclusion
import DraDriver.Tenstorrent.Apply

namespace DraDriver.Tenstorrent

open DraDriver.Base DraDriver.FabricManager

/-- The value a pool publishes for a counter; a counter it does not define has no room. -/
def Pool.counterValue (pool : Pool) (counter : String × String) : ℤ :=
  ((pool.counterSets.find? fun set => set.name = counter.1).bind fun set =>
    set.counters.lookup counter.2).getD 0

/-- A pool as the scheduler sees it. -/
def counterPool (pool : Pool) : CounterPool Device (String × String) where
  listed := pool.devices
  uses device := consumedCounters device.consumesCounters
  amount device counter := consumed device.consumesCounters counter.1 counter.2
  capacity := pool.counterValue

/-- The bundles a device resolves to. -/
def Profile.bundlesOf (p : Profile) (device : Device) : List HostBundle :=
  ((p.unitByDevice.lookup device.name).map AllocatableUnit.bundles).getD []

/-- The device covers an MMIO chip. -/
def Profile.Covers (p : Profile) (device : Device) (chip : UInt32) : Prop :=
  ∃ bundle ∈ p.bundlesOf device, bundle.chipId = chip

section Published

variable (rt : Runtime) (p : Profile) {topo : HostPhysicalTopology}

/-- A published device with the unit it was enumerated with. -/
theorem mem_published {device : Device}
    (published : device ∈ (poolOf (applyTopology rt p topo).1 p.nodeName).devices) :
    ∃ unit, (device, unit) ∈ (p.enumerate rt topo).units := by
  rw [publishedDevices_applyTopology] at published
  obtain ⟨entry, member, rfl⟩ := List.mem_map.mp published
  exact ⟨entry.2, member⟩

theorem bundlesOf_applyTopology (distinct : topo.ChipIdsDistinct) {device : Device}
    {unit : AllocatableUnit} (member : (device, unit) ∈ (p.enumerate rt topo).units) :
    (applyTopology rt p topo).2.bundlesOf device = unit.bundles := by
  unfold Profile.bundlesOf
  rw [unitByDevice_applyTopology rt p distinct member]
  rfl

/-- Without composite devices a published device is a chip device that consumes nothing. -/
theorem plain_entry (plain : p.composite = false) {entry : Device × AllocatableUnit}
    (member : entry ∈ (p.enumerate rt topo).units) :
    ∃ bundle ∈ hostBundles rt topo, entry = chipEntry (p.enumerate rt topo).layout bundle := by
  obtain ⟨noTrays, noMeshes⟩ := Bool.or_eq_false_iff.mp plain
  rcases mem_enumerate rt p member with chip | ⟨trays, _⟩ | ⟨meshes, _⟩
  · exact chip
  · rw [noTrays] at trays
    cases trays
  · rw [noMeshes] at meshes
    cases meshes

theorem plain_consumes (distinct : topo.ChipIdsDistinct) (plain : p.composite = false)
    {entry : Device × AllocatableUnit} (member : entry ∈ (p.enumerate rt topo).units) :
    entry.1.consumesCounters = [] := by
  have declared := (enumerate_entry rt p distinct member).declared
  unfold chipCounterConsumption at declared
  rw [if_pos (List.length_eq_zero_iff.mpr (layout_empty rt p plain))] at declared
  exact (Option.some.inj declared).symm

/-- With composite devices, a layout some device is counted in is not empty. -/
theorem composite_counted (distinct : topo.ChipIdsDistinct) (composite : p.composite = true)
    {entry : Device × AllocatableUnit} (member : entry ∈ (p.enumerate rt topo).units) :
    (p.enumerate rt topo).layout.sets ≠ [] := by
  have listed := enumerate_entry rt p distinct member
  obtain ⟨bundle, inside⟩ := List.exists_mem_of_ne_nil _ listed.covers
  exact (layout_counts rt p distinct composite).sets_ne_nil
    ((mem_chipsOf_hostTrays rt topo).mpr ⟨bundle, listed.inside inside, rfl⟩)

/-- A counter that some device takes is published with value one. -/
theorem counterValue_of_takes (distinct : topo.ChipIdsDistinct) (composite : p.composite = true)
    {bundles : List HostBundle} {counter : String × String}
    (inside : bundles ⊆ hostBundles rt topo)
    (taken : takes (p.enumerate rt topo).layout bundles counter.1 counter.2 = true) :
    (poolOf (applyTopology rt p topo).1 p.nodeName).counterValue counter = 1 := by
  have counts := layout_counts rt p distinct composite
  obtain ⟨bundle, member, placed, named⟩ := takes_iff.mp taken
  obtain ⟨set, inSets, home, value⟩ := counts.home bundle.chipId
    ((mem_chipsOf_hostTrays rt topo).mpr ⟨bundle, inside member, rfl⟩)
  have sameSet : set.name = counter.1 := Option.some.inj (home.symm.trans placed)
  unfold Pool.counterValue
  rw [publishedSets_applyTopology]
  cases found : (p.enumerate rt topo).layout.sets.find? fun set => set.name = counter.1 with
  | none =>
    have missing := List.find?_eq_none.mp found set inSets
    simp [sameSet] at missing
  | some other =>
    have otherName : other.name = counter.1 := by simpa using List.find?_some found
    have same : other = set := counts.set_eq_of_name (List.mem_of_find?_eq_some found) inSets
      (otherName.trans sameSet.symm)
    rw [Option.bind_some, same, ← named, value]
    rfl

/-- Without composite devices no counter is used. -/
theorem plain_uses (distinct : topo.ChipIdsDistinct) (plain : p.composite = false) {device : Device}
    {unit : AllocatableUnit} (member : (device, unit) ∈ (p.enumerate rt topo).units) :
    consumedCounters device.consumesCounters = ∅ := by
  rw [plain_consumes rt p distinct plain member]
  rfl

/-- With composite devices, two devices share a counter where they share a chip. -/
theorem composite_share (distinct : topo.ChipIdsDistinct) (composite : p.composite = true)
    {device other : Device} {unit unit' : AllocatableUnit}
    (member : (device, unit) ∈ (p.enumerate rt topo).units)
    (member' : (other, unit') ∈ (p.enumerate rt topo).units) :
    (∃ chip, (∃ bundle ∈ unit.bundles, bundle.chipId = chip) ∧
        ∃ bundle ∈ unit'.bundles, bundle.chipId = chip) ↔
      ∃ counter, counter ∈ consumedCounters device.consumesCounters ∧
        counter ∈ consumedCounters other.consumesCounters := by
  have listed := enumerate_entry rt p distinct member
  have listed' := enumerate_entry rt p distinct member'
  have counted := composite_counted rt p distinct composite member
  have uses := mem_consumedCounters counted listed.declared
  have uses' := mem_consumedCounters counted listed'.declared
  constructor
  · rintro ⟨chip, ⟨bundle, inside, rfl⟩, bundle', inside', same⟩
    obtain ⟨set, _, home, _⟩ := (layout_counts rt p distinct composite).home bundle.chipId
      ((mem_chipsOf_hostTrays rt topo).mpr ⟨bundle, listed.inside inside, rfl⟩)
    refine ⟨(set.name, counterNameForChip bundle.chipId),
      (uses _ _).mpr (takes_iff.mpr ⟨bundle, inside, home, rfl⟩),
      (uses' _ _).mpr (takes_iff.mpr ⟨bundle', inside', ?_, ?_⟩)⟩
    · rw [same, home]
    · rw [same]
  · rintro ⟨counter, used, used'⟩
    obtain ⟨bundle, inside, _, named⟩ := takes_iff.mp ((uses counter.1 counter.2).mp used)
    obtain ⟨bundle', inside', _, named'⟩ := takes_iff.mp ((uses' counter.1 counter.2).mp used')
    exact ⟨bundle.chipId, ⟨bundle, inside, rfl⟩, bundle', inside',
      counterNameForChip_inj (named'.trans named.symm)⟩

/-- Without composite devices, devices that share a chip are one: each has the one bundle of its
chip. -/
theorem plain_alone (distinct : topo.ChipIdsDistinct) (plain : p.composite = false)
    {device other : Device} {unit unit' : AllocatableUnit}
    (member : (device, unit) ∈ (p.enumerate rt topo).units)
    (member' : (other, unit') ∈ (p.enumerate rt topo).units) {bundle bundle' : HostBundle}
    (covers : bundle ∈ unit.bundles) (covers' : bundle' ∈ unit'.bundles)
    (same : bundle.chipId = bundle'.chipId) : device = other := by
  obtain ⟨own, inside, entry⟩ := plain_entry rt p plain member
  obtain ⟨own', inside', entry'⟩ := plain_entry rt p plain member'
  obtain ⟨rfl, rfl⟩ := Prod.mk.inj entry
  obtain ⟨rfl, rfl⟩ := Prod.mk.inj entry'
  have isOwn : bundle = own := by simpa using covers
  have isOwn' : bundle' = own' := by simpa using covers'
  subst isOwn isOwn'
  exact congrArg (chipDevice · _) (hostBundle_eq_of_chipId rt distinct inside inside' same)

/-- **The published counters tell exactly which devices share an MMIO chip.** -/
theorem published_scheme (distinct : topo.ChipIdsDistinct) :
    Scheme (counterPool (poolOf (applyTopology rt p topo).1 p.nodeName))
      (applyTopology rt p topo).2.Covers where
  unit := by
    intro device published counter
    obtain ⟨unit, member⟩ := mem_published rt p published
    have listed := enumerate_entry rt p distinct member
    cases composite : p.composite with
    | true =>
      have counted := composite_counted rt p distinct composite member
      have uses := mem_consumedCounters counted listed.declared counter.1 counter.2
      have amount := consumed_chipCounterConsumption counted listed.declared counter.1 counter.2
      exact ⟨fun used => amount.trans (if_pos (uses.mp used)),
        fun unused => amount.trans (if_neg fun taken => unused (uses.mpr taken))⟩
    | false =>
      have nothing : device.consumesCounters = [] := plain_consumes rt p distinct composite member
      simp [counterPool, consumedCounters, consumed, nothing]
  capacity := by
    intro device published counter used
    obtain ⟨unit, member⟩ := mem_published rt p published
    have listed := enumerate_entry rt p distinct member
    cases composite : p.composite with
    | true =>
      have counted := composite_counted rt p distinct composite member
      exact counterValue_of_takes rt p distinct composite listed.inside
        ((mem_consumedCounters counted listed.declared counter.1 counter.2).mp used)
    | false => exact absurd used (by simp [counterPool, plain_uses rt p distinct composite member])
  share := by
    intro device published other publishedOther different
    obtain ⟨unit, member⟩ := mem_published rt p published
    obtain ⟨unit', member'⟩ := mem_published rt p publishedOther
    unfold Profile.Covers
    rw [bundlesOf_applyTopology rt p distinct member, bundlesOf_applyTopology rt p distinct member']
    cases composite : p.composite with
    | true => exact composite_share rt p distinct composite member member'
    | false =>
      constructor
      · rintro ⟨chip, ⟨bundle, covers, rfl⟩, bundle', covers', same⟩
        exact absurd (plain_alone rt p distinct composite member member' covers covers' same.symm)
          different
      · rintro ⟨counter, used, _⟩
        exact absurd used (by simp [counterPool, plain_uses rt p distinct composite member])
  covers := by
    intro device published
    obtain ⟨unit, member⟩ := mem_published rt p published
    obtain ⟨bundle, inside⟩ :=
      List.exists_mem_of_ne_nil _ (enumerate_entry rt p distinct member).covers
    rw [← bundlesOf_applyTopology rt p distinct member] at inside
    exact ⟨bundle.chipId, bundle, inside, rfl⟩

/-- Published devices that share no MMIO chip share no ASIC. -/
theorem asics_apart (distinct : topo.ChipIdsDistinct) {allocated : List Device}
    (listed : allocated ⊆ (poolOf (applyTopology rt p topo).1 p.nodeName).devices)
    (apart : ∀ device ∈ allocated, ∀ other ∈ allocated, device ≠ other →
      Scheme.Apart (applyTopology rt p topo).2.Covers device other) :
    ∀ device ∈ allocated, ∀ other ∈ allocated, device ≠ other →
      ∀ bundle ∈ (applyTopology rt p topo).2.bundlesOf device,
        ∀ bundle' ∈ (applyTopology rt p topo).2.bundlesOf other,
          ∀ asic ∈ bundle.asics, asic ∉ bundle'.asics := by
  have host : ∀ device ∈ allocated, (applyTopology rt p topo).2.bundlesOf device ⊆ hostBundles rt topo := by
    intro device held
    obtain ⟨unit, member⟩ := mem_published rt p (listed held)
    rw [bundlesOf_applyTopology rt p distinct member]
    exact (enumerate_entry rt p distinct member).inside
  intro device held other heldOther different bundle inside bundle' inside' asic ofBundle ofBundle'
  have same : bundle = bundle' := bundle_eq_of_shared_asic rt distinct (host device held inside)
    (host other heldOther inside') ofBundle ofBundle'
  exact apart device held other heldOther different bundle.chipId ⟨bundle, inside, rfl⟩
    ⟨bundle', inside', congrArg HostBundle.chipId same.symm⟩

end Published

/-- **Silicon exclusion over whole runs.** Whatever is allocated and released, no ASIC, MMIO or
bundled remote, is in the bundles of two allocated devices, and a published device is refused
exactly when some MMIO chip it covers is covered by an allocated one. -/
theorem allocation_exclusion (rt : Runtime) (nodeName : String) (opts : Options)
    (topo : HostPhysicalTopology) (distinct : topo.ChipIdsDistinct) :
    let applied := applyTopology rt (newProfile nodeName opts) topo
    let scheduler := counterPool (poolOf applied.1 nodeName)
    ∀ actions allocated, Run scheduler.Step [] actions allocated →
      (∀ device ∈ allocated, ∀ other ∈ allocated, device ≠ other →
        ∀ bundle ∈ applied.2.bundlesOf device, ∀ bundle' ∈ applied.2.bundlesOf other,
          ∀ asic ∈ bundle.asics, asic ∉ bundle'.asics) ∧
      ∀ device ∈ scheduler.listed, ¬ scheduler.Admits allocated device ↔
        ∃ other ∈ allocated, ∃ bundle ∈ applied.2.bundlesOf device,
          ∃ bundle' ∈ applied.2.bundlesOf other, bundle.mmio.chipId = bundle'.mmio.chipId := by
  intro applied scheduler actions allocated run
  have scheme : Scheme scheduler applied.2.Covers :=
    published_scheme rt (newProfile nodeName opts) distinct
  have exclusive := scheme.run_exclusive run
  constructor
  · intro device held other heldOther different bundle inside bundle' inside' asic ofBundle ofBundle'
    obtain ⟨unit, member⟩ := mem_published rt (newProfile nodeName opts) (exclusive.listed held)
    obtain ⟨unit', member'⟩ :=
      mem_published rt (newProfile nodeName opts) (exclusive.listed heldOther)
    have host : bundle ∈ hostBundles rt topo := (enumerate_entry rt _ distinct member).inside
      (bundlesOf_applyTopology rt _ distinct member ▸ inside)
    have host' : bundle' ∈ hostBundles rt topo := (enumerate_entry rt _ distinct member').inside
      (bundlesOf_applyTopology rt _ distinct member' ▸ inside')
    have same : bundle = bundle' :=
      bundle_eq_of_shared_asic rt distinct host host' ofBundle ofBundle'
    exact exclusive.apart device held other heldOther different bundle.chipId ⟨bundle, inside, rfl⟩
      ⟨bundle', inside', congrArg HostBundle.chipId same.symm⟩
  · intro device published
    rw [scheme.refused_iff run published]
    constructor
    · rintro ⟨other, held, chip, ⟨bundle, inside, same⟩, bundle', inside', same'⟩
      exact ⟨other, held, bundle, inside, bundle', inside', same.trans same'.symm⟩
    · rintro ⟨other, held, bundle, inside, bundle', inside', same⟩
      exact ⟨other, held, bundle.chipId, ⟨bundle, inside, rfl⟩, bundle', inside', same.symm⟩

/-- Chip 0 of the host, once allocated, refuses exactly itself and its tray. -/
theorem twoTrayHost_exclusion :
    let applied := applyTopology Runtime.plain (newProfile "node" ⟨true, true⟩) twoTrayHost
    let scheduler := counterPool (poolOf applied.1 "node")
    twoTrayHost.ChipIdsDistinct ∧ ∃ chip0, scheduler.listed.head? = some chip0 ∧
      scheduler.listed.map (fun device => decide (scheduler.Admits [chip0] device)) =
        [false, true, false, true] ∧
      ∀ device ∈ scheduler.listed, ¬ scheduler.Admits [chip0] device ↔
        ∃ other ∈ [chip0], ∃ bundle ∈ applied.2.bundlesOf device,
          ∃ bundle' ∈ applied.2.bundlesOf other, bundle.mmio.chipId = bundle'.mmio.chipId := by
  intro applied scheduler
  refine ⟨by decide, scheduler.listed.head (by decide +kernel), by decide +kernel,
    by decide +kernel, ?_⟩
  refine (allocation_exclusion Runtime.plain "node" ⟨true, true⟩ twoTrayHost (by decide)
    [.allocate (scheduler.listed.head (by decide +kernel))] _ (.snoc (.nil []) ?_)).2
  change scheduler.act _ _ = some _
  decide +kernel

end DraDriver.Tenstorrent
