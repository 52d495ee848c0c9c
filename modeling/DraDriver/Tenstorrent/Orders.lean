/-
**Enumeration is stable.**

Three maps are visited and three slices sorted on the way from a topology to its pool, and the agent
may list ASICs and connections as it likes. With chip ids and MMIO locations of their own none of it
shows, except where the remotes of a bundle are listed.

* `Reordered` — ASICs in another order, connections in another order, repeated or turned round.
* `hostBundles_stable` — the bundles are the same under any two run times.
* `Device.SameBut` — equal up to the contents of the two attributes that list remotes.
* `enumerate_reordered`, `buildSlices_sameBut` — the devices and slices of a reordered topology.
* **`enumeration_stable`** — the pool and the device table.
-/

import DraDriver.Tenstorrent.Shift
import DraDriver.Tenstorrent.Stable

namespace DraDriver.Tenstorrent

open DraDriver.Base DraDriver.FabricManager

/-! ### One topology, two run times -/

theorem hostBundles_stable (rt rt' : Runtime) {topo : HostPhysicalTopology}
    (distinct : topo.MmioChipIdsDistinct) (slots : topo.MmioSlotsDistinct) :
    hostBundles rt topo = hostBundles rt' topo := by
  have trays : ∀ tray, bundleTray rt (topo.asics.filter fun asic => asic.trayId = tray) =
      bundleTray rt' (topo.asics.filter fun asic => asic.trayId = tray) := by
    intro tray
    unfold bundleTray
    rw [Runtime.sortSlice_unique rt rt' (List.Perm.refl _) (tray_locations_nodup slots tray)]
  have nodup : ∀ rt, (hostBundles rt topo).Nodup := fun rt =>
    (hostBundles_anchors_nodup rt distinct).of_map
  have perm : (hostBundles rt topo).Perm (hostBundles rt' topo) := by
    refine (List.perm_ext_iff_of_nodup (nodup rt) (nodup rt')).mpr fun bundle => ?_
    rw [mem_hostBundles_onTray rt, mem_hostBundles_onTray rt', trays]
  refine Runtime.eq_of_sorted_perm (fun bundle => bundle.mmio.chipId.toNat) perm ?_
    (bundleHostASICs_sorted rt topo.asics) (bundleHostASICs_sorted rt' topo.asics)
  have ids := ((hostBundles_anchors_perm rt topo).map AsicInfo.chipId).nodup_iff.mpr distinct
  have keys := ids.map (f := UInt32.toNat) fun _ _ => UInt32.toNat_inj.mp
  rwa [List.map_map, List.map_map] at keys

/-! ### Reordered topologies -/

/-- The connection seen from its other end. -/
def turned (conn : LocalEthConnection) : LocalEthConnection :=
  { srcAsicId := conn.dstAsicId, dstAsicId := conn.srcAsicId }

/-- The same connections, listed in another order, more than once or from the other end. -/
inductive Rewired : List LocalEthConnection → List LocalEthConnection → Prop
  | perm {conns conns' : List LocalEthConnection} : conns'.Perm conns → Rewired conns conns'
  | duplicate {conns : List LocalEthConnection} {conn : LocalEthConnection} :
      conn ∈ conns → Rewired conns (conn :: conns)
  | swap (conn : LocalEthConnection) (conns : List LocalEthConnection) :
      Rewired (conn :: conns) (turned conn :: conns)
  | trans {conns conns' conns'' : List LocalEthConnection} :
      Rewired conns conns' → Rewired conns' conns'' → Rewired conns conns''

/-- The same host, its ASICs and connections listed otherwise. -/
structure Reordered (topo topo' : HostPhysicalTopology) : Prop where
  asics : topo'.asics.Perm topo.asics
  connections : Rewired topo.localConnections topo'.localConnections
  quirks : topo'.quirks = topo.quirks

/-- Rewired connections join the same chips. -/
theorem Rewired.joins {conns conns' : List LocalEthConnection} (rewired : Rewired conns conns')
    (a b : UInt64) :
    (∃ conn ∈ conns', conn.srcAsicId = a ∧ conn.dstAsicId = b ∨
        conn.srcAsicId = b ∧ conn.dstAsicId = a) ↔
      ∃ conn ∈ conns, conn.srcAsicId = a ∧ conn.dstAsicId = b ∨
        conn.srcAsicId = b ∧ conn.dstAsicId = a := by
  induction rewired with
  | perm perm => exact exists_congr fun conn => and_congr_left' perm.mem_iff
  | duplicate listed =>
    refine exists_congr fun conn => and_congr_left' ?_
    rw [List.mem_cons, or_iff_right_of_imp fun same => same ▸ listed]
  | swap conn conns =>
    rw [List.exists_mem_cons_iff, List.exists_mem_cons_iff]
    refine or_congr ?_ Iff.rfl
    show conn.dstAsicId = a ∧ conn.srcAsicId = b ∨ conn.dstAsicId = b ∧ conn.srcAsicId = a ↔ _
    tauto
  | trans _ _ first second => exact second.trans first

theorem shift_zero_map (asics : List AsicInfo) : asics.map (AsicInfo.shift 0) = asics := by
  have still : AsicInfo.shift 0 = id := funext AsicInfo.shift_zero
  rw [still, List.map_id]

namespace Reordered

variable {topo topo' : HostPhysicalTopology} (reordered : Reordered topo topo')

include reordered

theorem shifted : Shifted 0 topo topo' where
  asics := by
    rw [shift_zero_map]
    exact reordered.asics
  small asic _ := asic.asicLocation.toNat_lt
  links a b := reordered.connections.joins a b
  quirk := by
    unfold revC
    rw [reordered.quirks]

end Reordered

/-! ### Devices -/

/-- The attributes that list the remotes of a bundle. -/
def remoteLists : List String := ["remoteChipIDs", "remoteUniqueIDs"]

/-- **The same device, but for what it lists as its remotes.** -/
structure Device.SameBut (device device' : Device) : Prop where
  name : device'.name = device.name
  consumesCounters : device'.consumesCounters = device.consumesCounters
  attributes : List.Forall₂ (fun entry entry' => entry'.1 = entry.1 ∧
    (entry.1 ∉ remoteLists → entry'.2 = entry.2)) device.attributes device'.attributes
  memory : device'.memory = device.memory

theorem Device.SameBut.refl (device : Device) : device.SameBut device :=
  ⟨rfl, rfl, List.forall₂_same.mpr fun _ _ => ⟨rfl, fun _ => rfl⟩, rfl⟩

theorem chipDevice_sameBut {bundle bundle' : HostBundle} (same : Corresponds 0 bundle bundle')
    (layout : CounterLayout) : (chipDevice bundle layout).SameBut (chipDevice bundle' layout) := by
  have mmio : bundle'.mmio = bundle.mmio := same.mmio.trans (AsicInfo.shift_zero _)
  have count : bundle'.remotes.length = bundle.remotes.length := by
    rw [same.remotes.length_eq, List.length_map]
  have alone : List.Forall₂ (Corresponds 0) [bundle] [bundle'] := .cons same .nil
  constructor
  · show deviceNameForChip bundle'.mmio.chipId = deviceNameForChip bundle.mmio.chipId
    rw [mmio]
  · exact congrArg (fun found => found.getD [])
      (chipCounterConsumption_congr layout (chipIds_eq alone)).symm
  · simp only [chipDevice, mmio, count]
    refine List.rel_append (List.forall₂_same.mpr fun _ _ => ⟨rfl, fun _ => rfl⟩) ?_
    split
    · have listed : "remoteChipIDs" ∈ remoteLists ∧ "remoteUniqueIDs" ∈ remoteLists := by decide
      exact .cons ⟨rfl, fun other => absurd listed.1 other⟩
        (.cons ⟨rfl, fun other => absurd listed.2 other⟩ .nil)
    · exact .nil
  · exact memoryCapacity_eq alone

theorem trayDevice_eq {d : ℕ} {tray tray' : TrayGroup} (trayID : tray'.trayID = tray.trayID)
    (corresponds : List.Forall₂ (Corresponds d) tray.bundles tray'.bundles) (layout : CounterLayout) :
    trayDevice tray' layout = trayDevice tray layout := by
  obtain ⟨id, bundles⟩ := tray
  obtain ⟨id', bundles'⟩ := tray'
  obtain rfl : id' = id := trayID
  cases corresponds with
  | nil => rfl
  | @cons first first' rest rest' here others =>
    have all : List.Forall₂ (Corresponds d) (first :: rest) (first' :: rest') := .cons here others
    have consumes := chipCounterConsumption_congr layout (chipIds_eq all)
    show (chipCounterConsumption layout (first' :: rest')).bind _ =
      (chipCounterConsumption layout (first :: rest)).bind _
    rw [← consumes]
    refine Option.bind_congr fun consumption _ => ?_
    simp only [chipCount_eq all, memoryCapacity_eq all, ← all.length_eq, here.mmio]
    rfl

/-- A device and its unit, but for the order of remotes. -/
def SameEntry (entry entry' : Device × AllocatableUnit) : Prop :=
  entry.1.SameBut entry'.1 ∧ SameUnit 0 entry.2 entry'.2

theorem trayEntry_same {tray tray' : TrayGroup} (trayID : tray'.trayID = tray.trayID)
    (corresponds : List.Forall₂ (Corresponds 0) tray.bundles tray'.bundles) (layout : CounterLayout) :
    Option.Rel SameEntry (trayEntry layout tray) (trayEntry layout tray') := by
  unfold trayEntry
  rw [trayDevice_eq trayID corresponds]
  cases trayDevice tray layout with
  | none => exact .none
  | some device => exact .some ⟨.refl device, rfl, trayID, corresponds⟩

/-- **A reordered topology has the same counters and the same devices in the same order.** -/
theorem enumerate_reordered (rt rt' : Runtime) (p : Profile) {topo topo' : HostPhysicalTopology}
    (reordered : Reordered topo topo') (distinct : topo.MmioChipIdsDistinct)
    (slots : topo.MmioSlotsDistinct) :
    (p.enumerate rt' topo').layout = (p.enumerate rt topo).layout ∧
      List.Forall₂ SameEntry (p.enumerate rt topo).units (p.enumerate rt' topo').units := by
  have layout : (p.enumerate rt' topo').layout = (p.enumerate rt topo).layout := by
    rw [layout_enumerate, layout_enumerate, layout_shifted reordered.shifted rt rt' distinct slots]
  have bundles := hostBundles_correspond reordered.shifted rt rt' distinct slots
  have chips : List.Forall₂ SameEntry
      ((hostBundles rt topo).map (chipEntry (p.enumerate rt topo).layout))
      ((hostBundles rt' topo').map (chipEntry (p.enumerate rt topo).layout)) := by
    rw [List.forall₂_map_left_iff, List.forall₂_map_right_iff]
    exact bundles.imp fun bundle bundle' same =>
      ⟨chipDevice_sameBut same _, rfl, same.trayId, .cons same .nil⟩
  have trays : List.Forall₂ SameEntry
      (if p.trayDevices then (hostTrays rt topo).filterMap (trayEntry (p.enumerate rt topo).layout)
        else [])
      (if p.trayDevices then (hostTrays rt' topo').filterMap (trayEntry (p.enumerate rt topo).layout)
        else []) := by
    split
    · exact List.rel_filterMap (fun tray tray' same => trayEntry_same same.1 same.2 _)
        (hostTrays_correspond reordered.shifted rt rt' distinct slots)
    · exact .nil
  have meshes : List.Forall₂ SameEntry
      (if p.meshDevices then buildMeshDevices topo (hostBundles rt topo) (p.enumerate rt topo).layout
        else [])
      (if p.meshDevices then buildMeshDevices topo' (hostBundles rt' topo')
        (p.enumerate rt topo).layout else []) := by
    split
    · exact (meshes_correspond reordered.shifted rt rt' distinct slots _).imp
        fun entry entry' same => ⟨same.1 ▸ .refl entry.1, same.2⟩
    · exact .nil
  refine ⟨layout, ?_⟩
  rw [units_enumerate, units_enumerate, layout]
  exact List.rel_append (List.rel_append chips trays) meshes

/-! ### Slices -/

/-- The same slice, but for what its devices list as their remotes. -/
structure Slice.SameBut (slice slice' : Slice) : Prop where
  devices : List.Forall₂ Device.SameBut slice.devices slice'.devices
  sharedCounters : slice'.sharedCounters = slice.sharedCounters

theorem buildSlices_sameBut {devices devices' : List Device}
    (same : List.Forall₂ Device.SameBut devices devices') (sets : List CounterSet) :
    List.Forall₂ Slice.SameBut (buildSlices devices sets) (buildSlices devices' sets) := by
  have parts : List.Forall₂ Slice.SameBut
      ((chunk (maxDevicesPerSlice sets) devices).map fun part => ⟨part, []⟩)
      ((chunk (maxDevicesPerSlice sets) devices').map fun part => ⟨part, []⟩) := by
    rw [List.forall₂_map_left_iff, List.forall₂_map_right_iff]
    exact (chunk_rel _ same).imp fun part part' opposite => ⟨opposite, rfl⟩
  unfold buildSlices
  refine List.rel_append ?_ (List.forall₂_same.mpr fun slice _ =>
    ⟨List.forall₂_same.mpr fun device _ => .refl device, rfl⟩)
  simp only [← parts.length_eq]
  split
  · exact .cons ⟨same, rfl⟩ .nil
  · exact parts

/-! ### The whole enumeration -/

/-- **Enumeration is stable.** Under any two run times one topology gives the same resources and the
same device table, in whatever order the units of the meshes are visited. A topology that lists its
ASICs and connections otherwise gives the same slices and units, but for the order of remotes. -/
theorem enumeration_stable (rt rt' : Runtime) (p : Profile) (topo : HostPhysicalTopology)
    (distinct : topo.ChipIdsDistinct) (slots : topo.MmioSlotsDistinct) :
    (applyTopology rt p topo = applyTopology rt' p topo ∧
      ∀ name, (p.unitTable rt topo).lookup name =
        (applyTopology rt' p topo).2.unitByDevice.lookup name) ∧
      ∀ topo', Reordered topo topo' →
        List.Forall₂ Slice.SameBut (poolOf (applyTopology rt p topo).1 p.nodeName).slices
            (poolOf (applyTopology rt' p topo').1 p.nodeName).slices ∧
          ∀ name, Option.Rel (SameUnit 0) ((p.unitTable rt topo).lookup name)
            ((p.unitTable rt' topo').lookup name) := by
  have whole : applyTopology rt p topo = applyTopology rt' p topo :=
    applyTopology_eq p (hostBundles_stable rt rt' distinct.mmio slots)
  refine ⟨⟨whole, fun name => by rw [lookup_unitTable, whole]⟩, fun topo' reordered => ?_⟩
  obtain ⟨layout, units⟩ := enumerate_reordered rt rt' p reordered distinct.mmio slots
  constructor
  · rw [poolOf_applyTopology, poolOf_applyTopology, layout]
    refine buildSlices_sameBut ?_ _
    rw [List.forall₂_map_left_iff, List.forall₂_map_right_iff]
    exact units.imp fun entry entry' same => same.1
  · intro name
    rw [lookup_unitTable, lookup_unitTable]
    exact lookup_fill_rel (units.imp fun entry entry' same => ⟨same.1.name, same.2⟩) name

/-- The Galaxy listed backwards, its first link given a second time from the other end. -/
def relistedGalaxy : HostPhysicalTopology :=
  { galaxyHost with
    asics := galaxyHost.asics.reverse
    localConnections := ⟨1, 0⟩ :: gridLinks }

theorem relistedGalaxy_reordered : Reordered galaxyHost relistedGalaxy where
  asics := List.reverse_perm _
  connections := .trans (.duplicate (by decide : ⟨0, 1⟩ ∈ gridLinks)) (.swap ⟨0, 1⟩ gridLinks)
  quirks := rfl

/-- Its eleven devices come out the same. -/
theorem relistedGalaxy_stable :
    (poolOf (applyTopology Runtime.plain (newProfile "node" ⟨true, true⟩) galaxyHost).1
      "node").devices.length = 11 ∧
    List.Forall₂ Slice.SameBut
      (poolOf (applyTopology Runtime.plain (newProfile "node" ⟨true, true⟩) galaxyHost).1
        "node").slices
      (poolOf (applyTopology Runtime.reversed (newProfile "node" ⟨true, true⟩) relistedGalaxy).1
        "node").slices :=
  ⟨by decide +kernel, ((enumeration_stable Runtime.plain Runtime.reversed
    (newProfile "node" ⟨true, true⟩) galaxyHost (by decide) (by decide)).2 relistedGalaxy
      relistedGalaxy_reordered).1⟩

end DraDriver.Tenstorrent
