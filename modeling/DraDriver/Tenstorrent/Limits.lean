/-
**The published pool is within the limits of the resource API.**

A slice that breaks a limit is rejected whole, with every device on the node, so the limits are kept
by construction: counters packed into bounded sets, composites dropped whose exclusion needs more
than two of them, slices cut into chunks, id lists elided.

* `declared_within` — a declared consumption names each set once, at most two, and what it takes of
  a set is there.
* **`pool_within_limits`** — the whole pool, and that nothing was lost on the way into slices.
-/

import DraDriver.Tenstorrent.TraySets

namespace DraDriver.Tenstorrent

open DraDriver.Base DraDriver.FabricManager

/-! ### The limits -/

/-- A text value is at most 64 bytes long. -/
def DeviceAttribute.Fits : DeviceAttribute → Prop
  | .string value => value.utf8ByteSize ≤ 64
  | .int _ => True

/-- What the API allows of one slice. -/
structure Slice.WithinLimits (slice : Slice) : Prop where
  unmixed : slice.devices = [] ∨ slice.sharedCounters = []
  devices : slice.devices.length ≤ 128
  advanced : (∃ device ∈ slice.devices, device.consumesCounters ≠ []) → slice.devices.length ≤ 64
  counterSets : slice.sharedCounters.length ≤ 8

/-- What the API allows of one device in a pool that defines these counter sets. -/
structure Device.WithinLimits (sets : List CounterSet) (device : Device) : Prop where
  parts : device.consumesCounters.length ≤ 2
  once : (device.consumesCounters.map DeviceCounterConsumption.counterSet).Nodup
  small : ∀ part ∈ device.consumesCounters, part.counters.keys.length ≤ 32
  defined : ∀ part ∈ device.consumesCounters, ∀ name amount,
    part.counters.lookup name = some amount → ∃ set ∈ sets, set.name = part.counterSet ∧
      (∃ value, set.counters.lookup name = some value ∧ amount ≤ value) ∧
      ∀ other ∈ sets, other.name = part.counterSet → other = set
  texts : ∀ entry ∈ device.attributes, entry.2.Fits

/-- What the API allows of a pool. -/
structure Pool.WithinLimits (pool : Pool) : Prop where
  published : pool.slices ≠ []
  slices : ∀ slice ∈ pool.slices, slice.WithinLimits
  names : (pool.counterSets.map CounterSet.name).Nodup
  sets : ∀ set ∈ pool.counterSets, 1 ≤ set.counters.keys.length ∧ set.counters.keys.length ≤ 32
  devices : ∀ device ∈ pool.devices, device.WithinLimits pool.counterSets

/-! ### Texts -/

theorem decimal_uint32_bytes (n : UInt32) : (decimal n.toNat).utf8ByteSize ≤ 10 :=
  decimal_bytes (by decide) (lt_trans n.toNat_lt (by decide))

theorem decimal_uint64_bytes (n : UInt64) : (decimal n.toNat).utf8ByteSize ≤ 20 :=
  decimal_bytes (by decide) (lt_trans n.toNat_lt (by decide))

theorem boardNameFor_bytes (boardType : UInt32) : (boardNameFor boardType).utf8ByteSize ≤ 64 := by
  unfold boardNameFor
  split <;> decide

/-- The texts an ASIC reports that are published as they are. -/
def AsicTextsFit (asic : AsicInfo) : Prop :=
  asic.chipArch.utf8ByteSize ≤ 64 ∧ asic.pciAddress.utf8ByteSize ≤ 64

theorem chipDevice_texts {bundle : HostBundle} (fits : AsicTextsFit bundle.mmio)
    (layout : CounterLayout) : ∀ entry ∈ (chipDevice bundle layout).attributes,
      entry.2.Fits := by
  unfold chipDevice
  refine List.forall_mem_append.mpr ⟨List.forall_mem_append.mpr ⟨?_, ?_⟩, ?_⟩
  · simp only [List.forall_mem_cons, DeviceAttribute.Fits]
    have unique := decimal_uint64_bytes bundle.mmio.uniqueId
    exact ⟨by decide, by decide, trivial, trivial, trivial, trivial, boardNameFor_bytes _, fits.1,
      by omega, trivial, fun _ none => by cases none⟩
  · split
    · exact List.forall_mem_singleton.mpr fits.2
    · exact fun _ none => by cases none
  · split
    · refine List.forall_mem_cons.mpr ⟨joinAttrList_bytes fun id member => ?_,
        List.forall_mem_singleton.mpr (joinAttrList_bytes fun id member => ?_)⟩
      · obtain ⟨remote, _, rfl⟩ := List.mem_map.mp member
        exact (decimal_uint32_bytes _).trans (by decide)
      · obtain ⟨remote, _, rfl⟩ := List.mem_map.mp member
        exact (decimal_uint64_bytes _).trans (by decide)
    · exact fun _ none => by cases none

theorem trayDevice_texts {tray : TrayGroup} (fits : ∀ bundle ∈ tray.bundles, AsicTextsFit bundle.mmio)
    {layout : CounterLayout} {device : Device} (built : trayDevice tray layout = some device) :
    ∀ entry ∈ device.attributes, entry.2.Fits := by
  unfold trayDevice at built
  obtain ⟨representative, first, built⟩ := Option.bind_eq_some_iff.mp built
  obtain ⟨consumption, _, built⟩ := Option.bind_eq_some_iff.mp built
  cases built
  simp only [List.forall_mem_cons, DeviceAttribute.Fits]
  have unique := decimal_uint64_bytes representative.mmio.uniqueId
  exact ⟨by decide, by decide, trivial, trivial, boardNameFor_bytes _,
    (fits _ (List.mem_of_mem_head? first)).1, by omega, trivial, trivial, fun _ none => by cases none⟩

theorem meshDevice_texts {definition : MeshDefinition} (known : definition ∈ bhGalaxyRevCMeshes)
    {origin : HostBundle} (fits : AsicTextsFit origin.mmio) (members : List HostBundle)
    (consumption : List DeviceCounterConsumption) :
    ∀ entry ∈ (meshDevice definition origin members consumption).attributes,
      entry.2.Fits := by
  have fixed : ∀ definition ∈ bhGalaxyRevCMeshes,
      definition.name.utf8ByteSize ≤ 64 ∧ definition.shape.utf8ByteSize ≤ 64 := by decide +kernel
  obtain ⟨name, shape⟩ := fixed definition known
  have chips : (chipIDList members).utf8ByteSize ≤ 64 := by
    refine joinAttrList_bytes fun id member => ?_
    obtain ⟨bundle, _, rfl⟩ := List.mem_map.mp member
    exact (decimal_uint32_bytes _).trans (by decide)
  have trays : (trayIDList members).utf8ByteSize ≤ 64 := by
    refine joinAttrList_bytes fun id member => ?_
    obtain ⟨trayID, _, rfl⟩ := List.mem_map.mp member
    exact (decimal_uint32_bytes _).trans (by decide)
  have unique := decimal_uint64_bytes origin.mmio.uniqueId
  simp only [meshDevice, List.forall_mem_cons, DeviceAttribute.Fits]
  exact ⟨by decide, by decide, name, shape, trivial, trivial, chips, trays, by omega, trivial,
    boardNameFor_bytes _, fits.1, trivial, trivial, fun _ none => by cases none⟩

/-! ### Consumptions -/

/-- **A declared consumption is within the limits of the sets it takes from.** -/
theorem declared_within {layout : CounterLayout} {chips : List UInt32}
    (counted : layout.sets = [] ∨ layout.Counts chips) {bundles : List HostBundle}
    (inside : ∀ bundle ∈ bundles, bundle.chipId ∈ chips) {device : Device}
    (declared : chipCounterConsumption layout bundles = some device.consumesCounters)
    (texts : ∀ entry ∈ device.attributes, entry.2.Fits) :
    device.WithinLimits layout.sets := by
  by_cases plain : layout.sets = []
  · have none : device.consumesCounters = [] := by
      rw [chipCounterConsumption_plain plain] at declared
      exact (Option.some.inj declared).symm
    refine ⟨?_, ?_, ?_, ?_, texts⟩ <;> rw [none] <;> simp
  · have counts := counted.resolve_left plain
    obtain ⟨state, holds, few, parts⟩ := chipCounterConsumption_holds plain declared
    have order : device.consumesCounters.map DeviceCounterConsumption.counterSet = state.order := by
      rw [parts, List.map_map]
      exact List.map_id _
    -- what is taken of a set is a counter of that set, worth one
    have taken : ∀ part ∈ device.consumesCounters, ∃ set ∈ layout.sets, set.name = part.counterSet ∧
        ∀ name amount, part.counters.lookup name = some amount →
          set.counters.lookup name = some 1 ∧ amount = 1 := by
      intro part member
      rw [parts] at member
      obtain ⟨name, ordered, rfl⟩ := List.mem_map.mp member
      obtain ⟨bundle, within, held⟩ := holds.used name ordered
      obtain ⟨set, inSets, home, _⟩ := counts.home _ (inside bundle within)
      have sameSet : set.name = name := Option.some.inj (home.symm.trans held)
      refine ⟨set, inSets, sameSet, fun counter amount found => ?_⟩
      have value := holds.taken name counter
      have stored : ((state.bySet.lookup name).getD ∅).lookup counter = some amount := found
      rw [stored] at value
      split at value
      · rename_i takes
        obtain ⟨other, within', held', named⟩ := takes_iff.mp takes
        obtain ⟨set', inSets', home', one⟩ := counts.home _ (inside other within')
        have same : set' = set := counts.set_eq_of_name inSets' inSets
          ((Option.some.inj (home'.symm.trans held')).trans sameSet.symm)
        rw [same, named] at one
        exact ⟨one, Option.some.inj value⟩
      · cases value
    refine ⟨?_, ?_, ?_, ?_, texts⟩
    · rw [← List.length_map DeviceCounterConsumption.counterSet, order]
      exact few
    · rw [order]
      exact holds.nodup
    · intro part member
      obtain ⟨set, inSets, _, within⟩ := taken part member
      have subset : part.counters.keys ⊆ set.counters.keys := by
        intro name keyed
        obtain ⟨amount, found⟩ := Option.isSome_iff_exists.mp
          (AList.lookup_isSome.mpr (AList.mem_keys.mpr keyed))
        exact AList.mem_keys.mp (AList.lookup_isSome.mp
          (Option.isSome_iff_exists.mpr ⟨1, (within name amount found).1⟩))
      exact (List.subperm_of_subset part.counters.keys_nodup subset).length_le.trans
        (counts.small set inSets)
    · intro part member name amount found
      obtain ⟨set, inSets, sameName, within⟩ := taken part member
      obtain ⟨value, one⟩ := within name amount found
      exact ⟨set, inSets, sameName, ⟨1, value, one.le⟩, fun other inOthers same =>
        counts.set_eq_of_name inOthers inSets (same.trans sameName.symm)⟩

/-- The sets of a layout are named apart. -/
theorem CounterLayout.Counts.names_nodup {layout : CounterLayout} {chips : List UInt32}
    (counts : layout.Counts chips) : (layout.sets.map CounterSet.name).Nodup := by
  refine List.pairwise_iff_getElem.mpr fun i j inFirst inSecond below same => ?_
  rw [List.length_map] at inFirst inSecond
  rw [List.getElem_map, List.getElem_map, counts.named i _ (List.getElem?_eq_getElem inFirst),
    counts.named j _ (List.getElem?_eq_getElem inSecond)] at same
  exact below.ne (counterSetName_inj same)

/-! ### Slices -/

/-- **Every slice is within the limits**, whether it holds devices or counter sets: a device that
consumes a counter comes with counter sets, hence with the lower cap. -/
theorem buildSlices_within {devices : List Device} {sets : List CounterSet}
    (plain : sets = [] → ∀ device ∈ devices, device.consumesCounters = []) :
    ∀ slice ∈ buildSlices devices sets, slice.WithinLimits := by
  have whole := chunk_flatten (maxDevicesPerSlice_pos sets) devices
  have ofDevices : ∀ part ∈ chunk (maxDevicesPerSlice sets) devices,
      ({ devices := part, sharedCounters := [] } : Slice).WithinLimits := by
    intro part member
    have short := length_chunk_le member
    refine ⟨Or.inr rfl, short.trans ?_, ?_, Nat.zero_le _⟩
    · unfold maxDevicesPerSlice
      split <;> decide
    · rintro ⟨device, inside, consumes⟩
      have listed : device ∈ devices := by
        rw [← whole]
        exact List.mem_flatten_of_mem member inside
      have counted : sets ≠ [] := fun none => consumes (plain none device listed)
      have capped : maxDevicesPerSlice sets = 64 := if_pos (List.length_pos_iff.mpr counted)
      exact short.trans capped.le
  intro slice member
  unfold buildSlices at member
  rcases List.mem_append.mp member with inDevices | inSets
  · split at inDevices
    · rename_i empty
      rw [List.length_map] at empty
      have none := chunk_eq_nil (maxDevicesPerSlice_pos sets) (List.length_eq_zero_iff.mp empty)
      rw [List.mem_singleton.mp inDevices, none]
      exact ⟨Or.inl rfl, Nat.zero_le _, fun _ => Nat.zero_le _, Nat.zero_le _⟩
    · obtain ⟨part, inside, rfl⟩ := List.mem_map.mp inDevices
      exact ofDevices part inside
  · obtain ⟨part, inside, rfl⟩ := List.mem_map.mp inSets
    exact ⟨Or.inl rfl, Nat.zero_le _, fun _ => Nat.zero_le _, length_chunk_le inside⟩

theorem buildSlices_ne_nil (devices : List Device) (sets : List CounterSet) :
    buildSlices devices sets ≠ [] := by
  unfold buildSlices
  refine fun none => absurd (List.append_eq_nil_iff.mp none).1 ?_
  split
  · exact List.cons_ne_nil _ _
  · rename_i some
    exact fun none => some (List.length_eq_zero_iff.mpr none)

/-! ### The pool -/

section Pool

variable (rt : Runtime) (p : Profile) {topo : HostPhysicalTopology}

/-- A layout counts the host's chips, or there are no counters at all. -/
theorem layout_counted (distinct : topo.ChipIdsDistinct) :
    (p.enumerate rt topo).layout.sets = [] ∨
      (p.enumerate rt topo).layout.Counts (Packing.chipsOf (hostTrays rt topo)) := by
  cases composite : p.composite with
  | true => exact Or.inr (layout_counts rt p distinct composite)
  | false => exact Or.inl (layout_empty rt p composite)

theorem enumerate_texts (fits : ∀ asic ∈ topo.asics, AsicTextsFit asic)
    {entry : Device × AllocatableUnit} (member : entry ∈ (p.enumerate rt topo).units) :
    ∀ attr ∈ entry.1.attributes, attr.2.Fits := by
  have anchors : ∀ bundle ∈ hostBundles rt topo, AsicTextsFit bundle.mmio := fun bundle inside =>
    fits _ (bundle_anchor rt topo.asics inside).1
  rcases mem_enumerate rt p member with ⟨bundle, inside, rfl⟩ | ⟨_, tray, inside, built⟩ | ⟨_, mesh⟩
  · exact chipDevice_texts (anchors bundle inside) _
  · have covered := trayEntry_inside rt inside built
    rw [(trayEntry_spec built).2.1] at covered
    obtain ⟨device, made, rfl⟩ := Option.map_eq_some_iff.mp built
    exact trayDevice_texts (fun bundle grouped => anchors bundle (covered grouped)) made
  · have covered := meshEntry_inside rt mesh
    obtain ⟨definition, known, built⟩ := mem_buildMeshDevices mesh
    obtain ⟨members, origin, consumption, _, first, _, deviceEq, unitEq⟩ := buildMesh_spec built
    rw [unitEq] at covered
    rw [deviceEq]
    exact meshDevice_texts (meshDefinitionsFor_subset topo known)
      (anchors origin (covered (List.mem_of_mem_head? first))) members consumption

/-- **The published pool is within the limits of the resource API**, and its slices hold the
enumerated devices and the counter sets in order, none lost or repeated. -/
theorem pool_within_limits (distinct : topo.ChipIdsDistinct)
    (fits : ∀ asic ∈ topo.asics, AsicTextsFit asic) :
    (poolOf (applyTopology rt p topo).1 p.nodeName).WithinLimits ∧
      (poolOf (applyTopology rt p topo).1 p.nodeName).devices =
        (p.enumerate rt topo).units.map Prod.fst ∧
      (poolOf (applyTopology rt p topo).1 p.nodeName).counterSets =
        (p.enumerate rt topo).layout.sets := by
  have listed := publishedDevices_applyTopology rt p topo
  have shared := publishedSets_applyTopology rt p topo
  have counted := layout_counted rt p distinct
  have each : ∀ device ∈ (p.enumerate rt topo).units.map Prod.fst,
      device.WithinLimits (p.enumerate rt topo).layout.sets := by
    intro device member
    obtain ⟨entry, inside, rfl⟩ := List.mem_map.mp member
    have published := enumerate_entry rt p distinct inside
    exact declared_within counted
      (fun bundle covers => (mem_chipsOf_hostTrays rt topo).mpr ⟨bundle, published.inside covers, rfl⟩)
      published.declared (enumerate_texts rt p fits inside)
  refine ⟨⟨?_, ?_, ?_, ?_, ?_⟩, listed, shared⟩
  · rw [poolOf_applyTopology]
    exact buildSlices_ne_nil _ _
  · rw [poolOf_applyTopology]
    refine buildSlices_within fun none device member => ?_
    obtain ⟨entry, inside, rfl⟩ := List.mem_map.mp member
    have declared := (enumerate_entry rt p distinct inside).declared
    rw [chipCounterConsumption_plain none] at declared
    exact (Option.some.inj declared).symm
  · rw [shared]
    rcases counted with none | counts
    · rw [none]
      exact List.nodup_nil
    · exact counts.names_nodup
  · rw [shared]
    intro set member
    rcases counted with none | counts
    · rw [none] at member
      cases member
    · exact ⟨counts.filled set member, counts.small set member⟩
  · rw [listed, shared]
    exact each

end Pool

/-- The pool of a host with two trays. -/
def twoTrayPool : Pool :=
  poolOf (applyTopology Runtime.plain (newProfile "node" ⟨true, true⟩) twoTrayHost).1 "node"

/-- Its two chips and two trays share one counter set, and what each takes of it is within the limits. -/
theorem twoTrayHost_within_limits :
    twoTrayPool.WithinLimits ∧
      twoTrayPool.devices.map (fun device => (device.name, device.consumesCounters.map
        fun part => (part.counterSet, part.counters.keys))) =
          [("tt-0", [("tt-chips-0", ["chip-0"])]), ("tt-2", [("tt-chips-0", ["chip-2"])]),
            ("tt-tray-1", [("tt-chips-0", ["chip-0"])]), ("tt-tray-2", [("tt-chips-0", ["chip-2"])])] ∧
      twoTrayPool.counterSets.map (fun set => (set.name, set.counters.keys)) =
        [("tt-chips-0", ["chip-2", "chip-0"])] := by
  have distinct : twoTrayHost.ChipIdsDistinct := by
    unfold HostPhysicalTopology.ChipIdsDistinct
    decide
  obtain ⟨limits, -, -⟩ := pool_within_limits Runtime.plain (newProfile "node" ⟨true, true⟩) distinct
    (by unfold AsicTextsFit; decide)
  exact ⟨limits, by decide +kernel, by decide +kernel⟩

end DraDriver.Tenstorrent
