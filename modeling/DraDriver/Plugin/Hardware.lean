/-
**Published devices and CDI edits describe the same hardware.**

A published device, the unit its name resolves to and the counters it consumes are built apart and
joined by the name only. After `applyTopology`:

* `envKeys_nodup` — the environment keys of the published devices are told apart;
* `consumes_iff_covers` — a counted device consumes exactly the counters of the chips it covers;
* **`published_hardware`** — names, keys, edits and counters together.
-/

import DraDriver.Plugin.Cdi
import DraDriver.Tenstorrent.Edits
import DraDriver.Tenstorrent.Exclusion

namespace DraDriver.Plugin

open DraDriver.Base DraDriver.FabricManager DraDriver.Profiles DraDriver.Tenstorrent

/-! ### Environment keys -/

theorem deviceEnvKey_chip (c : UInt32) : deviceEnvKey (deviceNameForChip c) = "TT_" ++ decimal c.toNat :=
  deviceEnvKey_append_decimal "tt-" c.toNat

theorem deviceEnvKey_tray (t : UInt32) :
    deviceEnvKey (deviceNameForTray t) = "TT_TRAY_" ++ decimal t.toNat :=
  deviceEnvKey_append_decimal "tt-tray-" t.toNat

theorem deviceEnvKey_mesh (c : UInt32) :
    deviceEnvKey (deviceNameForMesh "4x2h" c) = "TT_MESH_4X2H_" ++ decimal c.toNat :=
  deviceEnvKey_append_decimal ("tt-mesh-" ++ "4x2h" ++ "-") c.toNat

/-- What follows `TT_` in a composite device's key is not a number. -/
theorem chipKey_ne (n m : ℕ) (rest : String) (nonDigit : ∀ c ∈ rest.toList.head?, c.isDigit = false)
    (some : rest.toList ≠ []) : "TT_" ++ decimal n ≠ "TT_" ++ (rest ++ decimal m) := by
  obtain ⟨c, chars, split⟩ := List.exists_cons_of_ne_nil some
  refine append_decimal_ne "TT_" _ n ?_ ?_
  · rw [String.toList_append, split]
    rwa [split] at nonDigit
  · simp [split]

theorem trayKey_ne_meshKey (n m : ℕ) : "TT_TRAY_" ++ decimal n ≠ "TT_MESH_4X2H_" ++ decimal m := by
  intro same
  have chars := congrArg String.toList same
  simp at chars

/-- The names the profile publishes keep their order of kinds and numbers in their keys. -/
theorem deviceEnvKey_inj {a b : String}
    (ofA : (∃ chip, a = deviceNameForChip chip) ∨ (∃ tray, a = deviceNameForTray tray) ∨
      ∃ chip, a = deviceNameForMesh "4x2h" chip)
    (ofB : (∃ chip, b = deviceNameForChip chip) ∨ (∃ tray, b = deviceNameForTray tray) ∨
      ∃ chip, b = deviceNameForMesh "4x2h" chip)
    (same : deviceEnvKey a = deviceEnvKey b) : a = b := by
  have chipTray : ∀ c t, deviceEnvKey (deviceNameForChip c) ≠ deviceEnvKey (deviceNameForTray t) := by
    intro c t
    rw [deviceEnvKey_chip, deviceEnvKey_tray]
    exact chipKey_ne _ _ "TRAY_" (by simp) (by simp)
  have chipMesh : ∀ c c', deviceEnvKey (deviceNameForChip c) ≠
      deviceEnvKey (deviceNameForMesh "4x2h" c') := by
    intro c c'
    rw [deviceEnvKey_chip, deviceEnvKey_mesh]
    exact chipKey_ne _ _ "MESH_4X2H_" (by simp) (by simp)
  have trayMesh : ∀ t c, deviceEnvKey (deviceNameForTray t) ≠
      deviceEnvKey (deviceNameForMesh "4x2h" c) := by
    intro t c
    rw [deviceEnvKey_tray, deviceEnvKey_mesh]
    exact trayKey_ne_meshKey _ _
  rcases ofA with ⟨c, rfl⟩ | ⟨t, rfl⟩ | ⟨c, rfl⟩ <;> rcases ofB with ⟨c', rfl⟩ | ⟨t', rfl⟩ | ⟨c', rfl⟩
  · rw [deviceEnvKey_chip, deviceEnvKey_chip] at same
    rw [UInt32.toNat_inj.mp (append_decimal_inj same)]
  · exact absurd same (chipTray c t')
  · exact absurd same (chipMesh c c')
  · exact absurd same.symm (chipTray c' t)
  · rw [deviceEnvKey_tray, deviceEnvKey_tray] at same
    rw [UInt32.toNat_inj.mp (append_decimal_inj same)]
  · exact absurd same (trayMesh t c')
  · exact absurd same.symm (chipMesh c' c)
  · exact absurd same.symm (trayMesh t' c)
  · rw [deviceEnvKey_mesh, deviceEnvKey_mesh] at same
    rw [UInt32.toNat_inj.mp (append_decimal_inj same)]

theorem claimEnvKey_inj (cdi : CDIHandler) {a b : String}
    (same : cdi.claimEnvKey a = cdi.claimEnvKey b) : deviceEnvKey a = deviceEnvKey b :=
  (String.append_right_inj _).mp ((String.append_left_inj _).mp same)

section Published

variable (rt : Runtime) (p : Profile) {topo : HostPhysicalTopology}

theorem names_nodup (distinct : topo.ChipIdsDistinct) :
    ((poolOf (applyTopology rt p topo).1 p.nodeName).devices.map Device.name).Nodup := by
  rw [publishedDevices_applyTopology, List.map_map]
  exact enumerate_names_nodup rt p distinct

/-- **The environment keys of the published devices are told apart.** -/
theorem envKeys_nodup (distinct : topo.ChipIdsDistinct) (cdi : CDIHandler) :
    ((poolOf (applyTopology rt p topo).1 p.nodeName).devices.map fun device =>
      cdi.claimEnvKey device.name).Nodup := by
  have named : ∀ name ∈ (poolOf (applyTopology rt p topo).1 p.nodeName).devices.map Device.name,
      (∃ chip, name = deviceNameForChip chip) ∨ (∃ tray, name = deviceNameForTray tray) ∨
        ∃ chip, name = deviceNameForMesh "4x2h" chip := by
    intro name member
    rw [publishedDevices_applyTopology, List.map_map] at member
    obtain ⟨entry, listed, rfl⟩ := List.mem_map.mp member
    exact enumerate_name rt p listed
  have keys : ((poolOf (applyTopology rt p topo).1 p.nodeName).devices.map fun device =>
      cdi.claimEnvKey device.name) =
        ((poolOf (applyTopology rt p topo).1 p.nodeName).devices.map Device.name).map
          cdi.claimEnvKey := by
    rw [List.map_map]
    rfl
  rw [keys]
  exact (names_nodup rt p distinct).map_on fun a inA b inB same =>
    deviceEnvKey_inj (named a inA) (named b inB) (claimEnvKey_inj cdi same)

/-! ### Counters -/

/-- A pool that publishes counters comes from composite options. -/
theorem composite_of_counterSets
    (counted : (poolOf (applyTopology rt p topo).1 p.nodeName).counterSets ≠ []) :
    p.composite = true := by
  rw [publishedSets_applyTopology] at counted
  by_contra plain
  exact counted (layout_empty rt p (by simpa using plain))

/-- **Where counters are published, a device consumes one unit of exactly the counters of the chips
it covers.** -/
theorem consumes_iff_covers (distinct : topo.ChipIdsDistinct)
    (counted : (poolOf (applyTopology rt p topo).1 p.nodeName).counterSets ≠ []) {device : Device}
    (published : device ∈ (poolOf (applyTopology rt p topo).1 p.nodeName).devices) :
    (∀ chip, (applyTopology rt p topo).2.Covers device chip ↔
      ∃ set ∈ (poolOf (applyTopology rt p topo).1 p.nodeName).counterSets,
        counterNameForChip chip ∈ set.counters ∧
          (set.name, counterNameForChip chip) ∈ consumedCounters device.consumesCounters) ∧
      ∀ counter ∈ consumedCounters device.consumesCounters,
        consumed device.consumesCounters counter.1 counter.2 = 1 ∧
          ∃ chip, (applyTopology rt p topo).2.Covers device chip ∧
            counter.2 = counterNameForChip chip := by
  have composite := composite_of_counterSets rt p counted
  rw [publishedSets_applyTopology] at counted ⊢
  obtain ⟨unit, member⟩ := mem_published rt p published
  have listed := enumerate_entry rt p distinct member
  have uses := mem_consumedCounters counted listed.declared
  have counts := layout_counts rt p distinct composite
  unfold Profile.Covers
  rw [bundlesOf_applyTopology rt p distinct member]
  constructor
  · intro chip
    constructor
    · rintro ⟨bundle, inside, rfl⟩
      obtain ⟨set, inSets, home, value⟩ := counts.home bundle.chipId
        ((mem_chipsOf_hostTrays rt topo).mpr ⟨bundle, listed.inside inside, rfl⟩)
      exact ⟨set, inSets, AList.lookup_isSome.mp (Option.isSome_iff_exists.mpr ⟨1, value⟩),
        (uses _ _).mpr (takes_iff.mpr ⟨bundle, inside, home, rfl⟩)⟩
    · rintro ⟨set, _, _, used⟩
      obtain ⟨bundle, inside, _, named⟩ := takes_iff.mp ((uses _ _).mp used)
      exact ⟨bundle, inside, counterNameForChip_inj named⟩
  · rintro ⟨set, name⟩ used
    have taken := (uses set name).mp used
    obtain ⟨bundle, inside, _, named⟩ := takes_iff.mp taken
    refine ⟨?_, bundle.chipId, ⟨bundle, inside, rfl⟩, named.symm⟩
    exact (consumed_chipCounterConsumption counted listed.declared set name).trans (if_pos taken)

/-! ### Edits -/

/-- The edits of a published device are the nodes of its bundles, in their order. -/
theorem edits_published (distinct : topo.ChipIdsDistinct) {device : Device}
    (published : device ∈ (poolOf (applyTopology rt p topo).1 p.nodeName).devices) :
    ((applyTopology rt p topo).2.unitByDevice.lookup device.name).map unitEdits =
      some { deviceNodes := ((applyTopology rt p topo).2.bundlesOf device).map deviceNode } := by
  obtain ⟨unit, member⟩ := mem_published rt p published
  rw [bundlesOf_applyTopology rt p distinct member, unitByDevice_applyTopology rt p distinct member]
  rfl

end Published

/-- **Published devices and CDI edits describe the same hardware.** -/
theorem published_hardware (Config : Type) (rt : Runtime) (nodeName : String) (opts : Options)
    (topo : HostPhysicalTopology) (cdi : CDIHandler) (distinct : topo.ChipIdsDistinct) :
    let applied := applyTopology rt (newProfile nodeName opts) topo
    let pool := poolOf applied.1 nodeName
    (pool.devices.map Device.name).Nodup ∧
    (pool.devices.map fun device => cdi.claimEnvKey device.name).Nodup ∧
    (∀ results : List DeviceRequestAllocationResult,
      ((∀ result ∈ results, result.device ∈ pool.devices.map Device.name) →
        ∃ edits, applied.2.applyConfig (none : Option Config) results = .ok edits ∧
          ∀ device ∈ pool.devices, edits.lookup device.name =
            if device.name ∈ results.map (·.device) then
              some { deviceNodes := (applied.2.bundlesOf device).map fun bundle =>
                { path := "/dev/tenstorrent/" ++ decimal bundle.mmio.deviceNodeId.toNat
                  type := "c", permissions := "rw" } }
            else none) ∧
      ((∃ result ∈ results, result.device ∉ pool.devices.map Device.name) →
        ∃ e, applied.2.applyConfig (none : Option Config) results = .error e)) ∧
    (pool.counterSets ≠ [] → ∀ device ∈ pool.devices,
      (∀ chip, applied.2.Covers device chip ↔ ∃ set ∈ pool.counterSets,
        counterNameForChip chip ∈ set.counters ∧
          (set.name, counterNameForChip chip) ∈ consumedCounters device.consumesCounters) ∧
      ∀ counter ∈ consumedCounters device.consumesCounters,
        consumed device.consumesCounters counter.1 counter.2 = 1 ∧
          ∃ chip, applied.2.Covers device chip ∧ counter.2 = counterNameForChip chip) := by
  intro applied pool
  have known := mem_unitByDevice_applyTopology rt (newProfile nodeName opts) topo
  have anchored := anchored_applyTopology rt (newProfile nodeName opts) topo
  refine ⟨names_nodup rt _ distinct, envKeys_nodup rt _ distinct cdi, fun results => ⟨?_, ?_⟩, ?_⟩
  · intro listed
    obtain ⟨edits, ran, lookups⟩ := applyConfig_known Config anchored results
      fun result member => (known _).mpr (listed result member)
    refine ⟨edits, ran, fun device published => ?_⟩
    rw [lookups device.name, edits_published rt _ distinct published]
    rfl
  · rintro ⟨result, member, foreign⟩
    obtain ⟨device, -, -, failed⟩ := applyConfig_unknown Config anchored results
      ⟨result, member, fun inside => foreign ((known _).mp inside)⟩
    exact ⟨_, failed⟩
  · exact fun counted device published => consumes_iff_covers rt _ distinct counted published

/-- On a host of two trays the nodes of a tray device are those of its one MMIO chip. -/
theorem twoTrayHost_hardware :
    let applied := applyTopology Runtime.plain (newProfile "node" ⟨true, true⟩) twoTrayHost
    let pool := poolOf applied.1 "node"
    twoTrayHost.ChipIdsDistinct ∧ pool.devices.map Device.name = ["tt-0", "tt-2", "tt-tray-1", "tt-tray-2"] ∧
    pool.counterSets ≠ [] ∧
    (pool.devices.map fun device => sampleHandler.claimEnvKey device.name).Nodup ∧
    ∃ e, applied.2.applyConfig (none : Option Unit)
      [{ request := "r", driver := "tenstorrent.com", pool := "node", device := "tt-1",
         adminAccess := none }] = .error e := by
  intro applied pool
  have all := published_hardware Unit Runtime.plain "node" ⟨true, true⟩ twoTrayHost
    sampleHandler (by decide)
  exact ⟨by decide, by decide +kernel, by decide +kernel, all.2.1,
    (all.2.2.1 _).2 ⟨_, List.mem_singleton_self _, by decide +kernel⟩⟩

end DraDriver.Plugin
