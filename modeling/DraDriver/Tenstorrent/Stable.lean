/-
**Enumeration does not depend on map order.**

Every list `applyTopology` builds from a Go map is sorted before it is used, by a key that distinct
chip ids make unique.

* `bundleHostASICs_stable`, `groupBundlesByTray_stable` — the two sorted lists.
* **`applyTopology_stable`** — two calls on one topology give the same resources and device table.
-/

import DraDriver.Tenstorrent.Apply

namespace DraDriver.Tenstorrent

open DraDriver.Base DraDriver.FabricManager

variable {rt rt' : Runtime}

theorem bundleTray_stable (alike : rt.SortsAlike rt') (group : List AsicInfo) :
    bundleTray rt group = bundleTray rt' group := by
  unfold bundleTray
  rw [alike]

/-- Bundles are sorted by chip id, and no two have the same one. -/
theorem bundleHostASICs_stable (alike : rt.SortsAlike rt') {asics : List AsicInfo}
    (distinct : (asics.map AsicInfo.chipId).Nodup) :
    bundleHostASICs rt asics = bundleHostASICs rt' asics := by
  have visited : ((rt.range (groupBy AsicInfo.trayId asics)).flatMap fun entry =>
      bundleTray rt entry.2).Perm
        ((rt'.range (groupBy AsicInfo.trayId asics)).flatMap fun entry => bundleTray rt' entry.2) := by
    have each : (fun entry : UInt32 × List AsicInfo => bundleTray rt entry.2) =
        fun entry => bundleTray rt' entry.2 := by
      funext entry
      exact bundleTray_stable alike entry.2
    rw [each]
    exact (Runtime.range_perm rt rt' _).flatMap_right _
  refine Runtime.sortSlice_unique rt rt' visited ?_
  have sorted := (rt.sortSlice_perm (fun bundle : HostBundle => bundle.mmio.chipId.toNat)
    ((rt.range (groupBy AsicInfo.trayId asics)).flatMap fun entry => bundleTray rt entry.2)).map
      fun bundle => bundle.mmio.chipId.toNat
  refine sorted.nodup_iff.mp ?_
  have ids := (bundle_chipIds_nodup rt distinct).map (f := UInt32.toNat) fun _ _ => UInt32.toNat_inj.mp
  rw [List.map_map] at ids
  exact ids

/-- Trays are sorted by tray id, the key of the map they come from. -/
theorem groupBundlesByTray_stable (rt rt' : Runtime) (bundles : List HostBundle) :
    groupBundlesByTray rt bundles = groupBundlesByTray rt' bundles := by
  refine Runtime.sortSlice_unique rt rt' ((Runtime.range_perm rt rt' _).map _) ?_
  have sorted := (rt.sortSlice_perm (fun tray : TrayGroup => tray.trayID.toNat)
    ((rt.range (groupBy (fun bundle : HostBundle => bundle.mmio.trayId) bundles)).map fun entry =>
      ({ trayID := entry.1, bundles := entry.2 } : TrayGroup))).map fun tray => tray.trayID.toNat
  refine sorted.nodup_iff.mp ?_
  have ids := (trayIDs_nodup rt bundles).map (f := UInt32.toNat) fun _ _ => UInt32.toNat_inj.mp
  rw [List.map_map] at ids
  exact ids

/-- All that is published and recorded follows from the bundles. -/
theorem applyTopology_eq (p : Profile) {topo : HostPhysicalTopology}
    (same : hostBundles rt topo = hostBundles rt' topo) :
    applyTopology rt p topo = applyTopology rt' p topo := by
  have found : p.enumerate rt topo = p.enumerate rt' topo := by
    unfold hostBundles at same
    unfold Profile.enumerate
    simp only [same, groupBundlesByTray_stable rt rt']
  unfold applyTopology
  rw [found]

/-- **Two calls on one topology give the same resources and device table.** -/
theorem applyTopology_stable (alike : rt.SortsAlike rt') (p : Profile) {topo : HostPhysicalTopology}
    (distinct : topo.ChipIdsDistinct) : applyTopology rt p topo = applyTopology rt' p topo :=
  applyTopology_eq p (bundleHostASICs_stable alike distinct)

end DraDriver.Tenstorrent
