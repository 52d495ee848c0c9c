/-
**Topologies that tell the same host.**

An agent may list its ASICs and connections in any order and count locations from any base. `Shifted
d topo topo'` relates two such reports, and `Corresponds` the bundles they lead to: the same chips in
the same places, the remotes of a bundle in any order.

* `hostBundles_correspond`, `hostTrays_correspond` — bundles and trays in the same order.
* `layout_shifted` — the same counters.
* `resolveMesh_shifted` — groupings resolve to the same chips.
* **`meshes_correspond`** — the same mesh devices.
* **`location_base`** — so the base of the locations does not matter, nor does a sum wrap.
-/

import DraDriver.Tenstorrent.MeshLoss

namespace DraDriver.Tenstorrent

open DraDriver.Base DraDriver.FabricManager

/-- Two reports of one host, the locations of the second `d` further on. -/
structure Shifted (d : ℕ) (topo topo' : HostPhysicalTopology) : Prop where
  asics : topo'.asics.Perm (topo.asics.map (AsicInfo.shift d))
  small : ∀ asic ∈ topo.asics, asic.asicLocation.toNat + d < 2 ^ 32
  links : ∀ a b, Joined topo' a b ↔ Joined topo a b
  quirk : revC topo' = revC topo

/-- The bundle of the same chips. -/
structure Corresponds (d : ℕ) (bundle bundle' : HostBundle) : Prop where
  mmio : bundle'.mmio = bundle.mmio.shift d
  remotes : bundle'.remotes.Perm (bundle.remotes.map (AsicInfo.shift d))

namespace Corresponds

variable {d : ℕ} {bundle bundle' : HostBundle} (same : Corresponds d bundle bundle')

include same

theorem chipId : bundle'.chipId = bundle.chipId := by
  unfold HostBundle.chipId
  rw [same.mmio]
  rfl

theorem trayId : bundle'.mmio.trayId = bundle.mmio.trayId := by
  rw [same.mmio]
  rfl

end Corresponds

/-! ### Bundles -/

section OneTray

variable {d : ℕ} {group group' : List AsicInfo} (perm : group'.Perm (group.map (AsicInfo.shift d)))

include perm

theorem filter_shift_perm (kept : AsicInfo → Bool) (keeps : ∀ asic, kept (asic.shift d) = kept asic) :
    (group'.filter kept).Perm ((group.filter kept).map (AsicInfo.shift d)) := by
  have filtered := perm.filter kept
  rw [List.filter_map] at filtered
  have same : kept ∘ AsicInfo.shift d = kept := funext keeps
  rwa [same] at filtered

/-- The MMIO chips of a tray sort the same. -/
theorem sortByLocation_shift (rt rt' : Runtime)
    (small : ∀ asic ∈ group, asic.asicLocation.toNat + d < 2 ^ 32)
    (distinct : ((splitByMmio group).1.map fun asic => asic.asicLocation.toNat).Nodup) :
    rt'.sortSlice (fun asic => asic.asicLocation.toNat) (splitByMmio group').1 =
      (rt.sortSlice (fun asic => asic.asicLocation.toNat) (splitByMmio group).1).map
        (AsicInfo.shift d) := by
  have sorted := rt.sortSlice_perm (fun asic => asic.asicLocation.toNat) (splitByMmio group).1
  have sorted' := rt'.sortSlice_perm (fun asic => asic.asicLocation.toNat) (splitByMmio group').1
  have location : ∀ asic ∈ rt.sortSlice (fun asic => asic.asicLocation.toNat) (splitByMmio group).1,
      (asic.shift d).asicLocation.toNat = asic.asicLocation.toNat + d := fun asic member =>
    AsicInfo.shift_location (small asic (List.mem_of_mem_filter (sorted.mem_iff.mp member)))
  have moved : (rt'.sortSlice (fun asic => asic.asicLocation.toNat) (splitByMmio group').1).Perm
      ((rt.sortSlice (fun asic => asic.asicLocation.toNat) (splitByMmio group).1).map
        (AsicInfo.shift d)) :=
    sorted'.trans ((filter_shift_perm perm _ fun _ => rfl).trans (sorted.map _).symm)
  refine Runtime.eq_of_sorted_perm _ moved ((moved.map _).nodup_iff.mpr ?_)
    (rt'.sortSlice_sorted _ _) (List.pairwise_map.mpr ?_)
  · have keys := (sorted.map fun asic => asic.asicLocation.toNat).nodup_iff.mpr distinct
    have further := keys.map (f := fun n => n + d) fun _ _ => Nat.add_right_cancel
    rw [List.map_map] at further ⊢
    exact (List.map_congr_left location) ▸ further
  · refine (rt.sortSlice_sorted (fun asic : AsicInfo => asic.asicLocation.toNat) _).imp_of_mem ?_
    intro a b inA inB below
    rw [location a inA, location b inB]
    exact Nat.add_le_add_right below d

theorem bundleTray_correspond (rt rt' : Runtime)
    (small : ∀ asic ∈ group, asic.asicLocation.toNat + d < 2 ^ 32)
    (distinct : ((splitByMmio group).1.map fun asic => asic.asicLocation.toNat).Nodup) :
    List.Forall₂ (Corresponds d) (bundleTray rt group) (bundleTray rt' group') := by
  unfold bundleTray
  rw [sortByLocation_shift perm rt rt' small distinct]
  cases rt.sortSlice (fun asic => asic.asicLocation.toNat) (splitByMmio group).1 with
  | nil => exact .nil
  | cons first extras =>
    rw [List.map_cons]
    refine .cons ⟨rfl, filter_shift_perm perm _ fun _ => rfl⟩ ?_
    rw [List.map_map, List.forall₂_map_left_iff, List.forall₂_map_right_iff]
    exact List.forall₂_same.mpr fun extra _ => ⟨rfl, List.Perm.refl _⟩

end OneTray

section Host

variable {d : ℕ} {topo topo' : HostPhysicalTopology} (shifted : Shifted d topo topo')

theorem Shifted.mmioAsics (shifted : Shifted d topo topo') :
    topo'.mmioAsics.Perm (topo.mmioAsics.map (AsicInfo.shift d)) :=
  filter_shift_perm shifted.asics _ fun _ => rfl

theorem Shifted.chipIds (shifted : Shifted d topo topo') (distinct : topo.MmioChipIdsDistinct) :
    topo'.MmioChipIdsDistinct := by
  refine (shifted.mmioAsics.map AsicInfo.chipId).nodup_iff.mpr ?_
  rw [List.map_map]
  exact distinct

theorem Shifted.location (shifted : Shifted d topo topo') {asic : AsicInfo}
    (member : asic ∈ topo.mmioAsics) :
    (asic.shift d).asicLocation.toNat = asic.asicLocation.toNat + d :=
  AsicInfo.shift_location (shifted.small asic (List.mem_of_mem_filter member))

theorem Shifted.slots (shifted : Shifted d topo topo') (slots : topo.MmioSlotsDistinct) :
    topo'.MmioSlotsDistinct := by
  refine (shifted.mmioAsics.map fun asic => (asic.trayId, asic.asicLocation)).nodup_iff.mpr ?_
  rw [List.map_map]
  refine List.Nodup.map_on ?_ slots.of_map
  intro a inA b inB same
  obtain ⟨tray, location⟩ := Prod.mk.inj same
  have located := congrArg UInt32.toNat location
  rw [shifted.location inA, shifted.location inB] at located
  exact List.inj_on_of_nodup_map slots inA inB
    (Prod.ext tray (UInt32.toNat_inj.mp (Nat.add_right_cancel located)))

/-- The MMIO chips of one tray have locations of their own. -/
theorem tray_locations_nodup (slots : topo.MmioSlotsDistinct) (tray : UInt32) :
    ((splitByMmio (topo.asics.filter fun asic => asic.trayId = tray)).1.map
      fun asic => asic.asicLocation.toNat).Nodup := by
  have commuted : (splitByMmio (topo.asics.filter fun asic => asic.trayId = tray)).1 =
      topo.mmioAsics.filter fun asic => asic.trayId = tray := List.filter_comm ..
  rw [commuted]
  refine List.Nodup.map_on ?_ (slots.of_map.filter _)
  intro a inA b inB same
  obtain ⟨inA, trayA⟩ := List.mem_filter.mp inA
  obtain ⟨inB, trayB⟩ := List.mem_filter.mp inB
  have trays : a.trayId = b.trayId := (of_decide_eq_true trayA).trans (of_decide_eq_true trayB).symm
  exact List.inj_on_of_nodup_map slots inA inB (Prod.ext trays (UInt32.toNat_inj.mp same))

/-- A bundle comes from the ASICs of its tray. -/
theorem mem_hostBundles_onTray (rt : Runtime) {bundle : HostBundle} :
    bundle ∈ hostBundles rt topo ↔
      bundle ∈ bundleTray rt (topo.asics.filter fun asic => asic.trayId = bundle.mmio.trayId) := by
  rw [← (bundles_onTray rt topo.asics bundle.mmio.trayId).mem_iff, List.mem_filter]
  simp [hostBundles]

theorem hostBundles_anchors_nodup (rt : Runtime) (distinct : topo.MmioChipIdsDistinct) :
    ((hostBundles rt topo).map HostBundle.mmio).Nodup :=
  (hostBundles_anchors_perm rt topo).nodup_iff.mpr distinct.of_map

variable (rt rt' : Runtime) (distinct : topo.MmioChipIdsDistinct)

include shifted distinct

theorem hostBundles_anchors_shifted :
    (hostBundles rt' topo').map HostBundle.mmio =
      ((hostBundles rt topo).map HostBundle.mmio).map (AsicInfo.shift d) := by
  have anchors := (hostBundles_anchors_perm rt topo).map (AsicInfo.shift d)
  have moved := (hostBundles_anchors_perm rt' topo').trans (shifted.mmioAsics.trans anchors.symm)
  refine Runtime.eq_of_sorted_perm (fun asic => asic.chipId.toNat) moved ?_ ?_ ?_
  · have ids := ((hostBundles_anchors_perm rt' topo').map AsicInfo.chipId).nodup_iff.mpr
      (shifted.chipIds distinct)
    have keys := ids.map (f := UInt32.toNat) fun _ _ => UInt32.toNat_inj.mp
    rwa [List.map_map] at keys
  · exact List.pairwise_map.mpr (bundleHostASICs_sorted rt' topo'.asics)
  · exact List.pairwise_map.mpr (List.pairwise_map.mpr (bundleHostASICs_sorted rt topo.asics))

variable (slots : topo.MmioSlotsDistinct)

include slots

/-- Bundles with the same anchor have the same remotes. -/
theorem corresponds_of_anchor {bundle bundle' : HostBundle} (member : bundle ∈ hostBundles rt topo)
    (member' : bundle' ∈ hostBundles rt' topo') (same : bundle'.mmio = bundle.mmio.shift d) :
    Corresponds d bundle bundle' := by
  have onTray := (mem_hostBundles_onTray rt).mp member
  have trays := bundleTray_correspond (filter_shift_perm shifted.asics
      (fun asic => asic.trayId = bundle.mmio.trayId) fun _ => rfl) rt rt'
    (fun asic inside => shifted.small asic (List.mem_of_mem_filter inside))
    (tray_locations_nodup slots _)
  obtain ⟨other, onTray', corresponds⟩ := forall₂_exists_left trays.flip onTray
  have inside' : other ∈ hostBundles rt' topo' := by
    refine (mem_hostBundles_onTray rt').mpr ?_
    rw [corresponds.mmio]
    exact onTray'
  have anchors := hostBundles_anchors_nodup rt' (shifted.chipIds distinct)
  rwa [List.inj_on_of_nodup_map anchors member' inside' (same.trans corresponds.mmio.symm)]

/-- **The bundles of the two reports correspond, in order.** -/
theorem hostBundles_correspond :
    List.Forall₂ (Corresponds d) (hostBundles rt topo) (hostBundles rt' topo') := by
  have anchors := hostBundles_anchors_shifted shifted rt rt' distinct
  rw [List.map_map] at anchors
  exact forall₂_of_map_eq anchors.symm fun bundle member bundle' member' same =>
    corresponds_of_anchor shifted rt rt' distinct slots member member' same.symm

omit distinct slots in
theorem mmioOn_shifted (tray : UInt32) : (mmioOn topo' tray).length = (mmioOn topo tray).length := by
  have onTray := filter_shift_perm shifted.mmioAsics (fun asic => asic.trayId = tray) fun _ => rfl
  exact onTray.length_eq.trans (List.length_map _)

omit distinct slots in
theorem trayIDs_shifted :
    (hostTrays rt topo).map TrayGroup.trayID = (hostTrays rt' topo').map TrayGroup.trayID := by
  have listed : ∀ (rt : Runtime) (topo : HostPhysicalTopology) (tray : UInt32),
      tray ∈ (hostTrays rt topo).map TrayGroup.trayID ↔ 1 ≤ (mmioOn topo tray).length := by
    intro rt topo tray
    rw [List.mem_map, exists_hostTray_iff]
  have perm : ((hostTrays rt topo).map TrayGroup.trayID).Perm
      ((hostTrays rt' topo').map TrayGroup.trayID) := by
    refine (List.perm_ext_iff_of_nodup (trayIDs_nodup rt _) (trayIDs_nodup rt' _)).mpr fun tray => ?_
    exact (listed rt topo tray).trans
      (Iff.trans (by rw [mmioOn_shifted shifted]) (listed rt' topo' tray).symm)
  refine Runtime.eq_of_sorted_perm UInt32.toNat perm
    ((trayIDs_nodup rt _).map fun _ _ => UInt32.toNat_inj.mp) ?_ ?_
  · exact List.pairwise_map.mpr (groupBundlesByTray_sorted rt _)
  · exact List.pairwise_map.mpr (groupBundlesByTray_sorted rt' _)

/-- **So do the trays.** -/
theorem hostTrays_correspond :
    List.Forall₂ (fun tray tray' : TrayGroup => tray'.trayID = tray.trayID ∧
      List.Forall₂ (Corresponds d) tray.bundles tray'.bundles) (hostTrays rt topo)
        (hostTrays rt' topo') := by
  refine forall₂_of_map_eq (trayIDs_shifted shifted rt rt') fun tray member tray' member' same => ?_
  refine ⟨same.symm, ?_⟩
  rw [(trayGroup_bundles rt _ member).1, (trayGroup_bundles rt' _ member').1, ← same]
  refine List.rel_filter (fun bundle bundle' corresponds => ?_)
    (hostBundles_correspond shifted rt rt' distinct slots)
  show decide (bundle.mmio.trayId = tray.trayID) = true ↔ decide (bundle'.mmio.trayId = tray.trayID) = true
  rw [corresponds.trayId]

end Host

/-! ### Counters -/

section Counters

variable {d : ℕ} {bundles bundles' : List HostBundle}

theorem chipIds_eq (corresponds : List.Forall₂ (Corresponds d) bundles bundles') :
    bundles.map HostBundle.chipId = bundles'.map HostBundle.chipId := by
  rw [← List.forall₂_eq_eq_eq, List.forall₂_map_left_iff, List.forall₂_map_right_iff]
  exact corresponds.imp fun bundle bundle' same => same.chipId.symm

theorem map_mmio_eq (corresponds : List.Forall₂ (Corresponds d) bundles bundles') {κ : Type}
    (g : AsicInfo → κ) (keeps : ∀ asic, g (asic.shift d) = g asic) :
    bundles'.map (fun bundle => g bundle.mmio) = bundles.map fun bundle => g bundle.mmio := by
  rw [← List.forall₂_eq_eq_eq, List.forall₂_map_left_iff, List.forall₂_map_right_iff]
  refine corresponds.flip.imp fun bundle' bundle same => ?_
  rw [same.mmio, keeps]

theorem chipCount_eq (corresponds : List.Forall₂ (Corresponds d) bundles bundles') :
    chipCount bundles' = chipCount bundles := by
  unfold chipCount
  refine List.rel_foldl (R := flip (Corresponds d)) (P := fun a b => a = b)
    (fun a b same bundle' bundle both => ?_) rfl corresponds.flip
  rw [same, both.remotes.length_eq, List.length_map]

theorem memoryCapacity_eq (corresponds : List.Forall₂ (Corresponds d) bundles bundles') :
    memoryCapacity bundles' = memoryCapacity bundles := by
  have bytes : bundlesMemoryBytes bundles' = bundlesMemoryBytes bundles := by
    unfold bundlesMemoryBytes
    refine List.rel_foldl (R := flip (Corresponds d)) (P := fun a b => a = b)
      (fun a b same bundle' bundle both => ?_) rfl corresponds.flip
    -- a sum does not depend on the order of the remotes
    have order := both.remotes.foldl_eq' (f := fun total remote => total + remote.memoryBytes)
      (fun x _ y _ z => by rw [UInt64.add_assoc, UInt64.add_comm x.memoryBytes, UInt64.add_assoc])
      (a + bundle'.mmio.memoryBytes)
    rw [order, List.foldl_map, both.mmio, same]
    rfl
  unfold memoryCapacity
  rw [bytes]

/-- **The counters are the same.** -/
theorem layout_shifted {topo topo' : HostPhysicalTopology} (shifted : Shifted d topo topo')
    (rt rt' : Runtime) (distinct : topo.MmioChipIdsDistinct) (slots : topo.MmioSlotsDistinct) :
    buildChipCounterSets (hostTrays rt topo) = buildChipCounterSets (hostTrays rt' topo') := by
  refine buildChipCounterSets_congr ?_
  rw [← List.forall₂_eq_eq_eq, List.forall₂_map_left_iff, List.forall₂_map_right_iff]
  exact (hostTrays_correspond shifted rt rt' distinct slots).imp fun tray tray' same =>
    chipIds_eq same.2

end Counters

/-! ### Meshes -/

section Meshes

variable {d : ℕ} {topo topo' : HostPhysicalTopology} (shifted : Shifted d topo topo')

include shifted

theorem Shifted.mem_mmioAsics {chip : AsicInfo} :
    chip ∈ topo'.mmioAsics ↔ ∃ original ∈ topo.mmioAsics, original.shift d = chip := by
  rw [shifted.mmioAsics.mem_iff, List.mem_map]

theorem Shifted.lowest {base : ℕ} (lowest : Lowest topo.mmioAsics base) :
    Lowest topo'.mmioAsics (base + d) := by
  constructor
  · obtain ⟨chip, member, located⟩ := lowest.attained
    refine ⟨chip.shift d, shifted.mem_mmioAsics.mpr ⟨chip, member, rfl⟩, ?_⟩
    rw [shifted.location member, located]
  · intro chip member
    obtain ⟨original, inside, rfl⟩ := shifted.mem_mmioAsics.mp member
    rw [shifted.location inside]
    exact Nat.add_le_add_right (lowest.least original inside) d

/-- A chip serves a slot from the shifted base where it did from the base. -/
theorem Shifted.serves {chips : List AsicInfo} (inside : chips ⊆ topo.mmioAsics) {base : ℕ}
    {slots : List MeshSlot} :
    List.Forall₂ (Serves (base + d)) slots (chips.map (AsicInfo.shift d)) ↔
      List.Forall₂ (Serves base) slots chips := by
  have each : ∀ slot chip, chip ∈ topo.mmioAsics →
      (Serves (base + d) slot (chip.shift d) ↔ Serves base slot chip) := by
    intro slot chip member
    unfold Serves
    rw [shifted.location member]
    exact and_congr Iff.rfl (by omega)
  rw [List.forall₂_map_right_iff]
  constructor
  · intro served
    exact (forall₂_and_right.mpr ⟨inside, served⟩).imp fun slot chip both =>
      (each slot chip both.1).mp both.2
  · intro served
    exact (forall₂_and_right.mpr ⟨inside, served⟩).imp fun slot chip both =>
      (each slot chip both.1).mpr both.2

/-- **The shifted chips are wired from the shifted base exactly as the chips were.** -/
theorem Shifted.wired_iff {definition : MeshDefinition} {base : ℕ} {chips : List AsicInfo}
    (inside : chips ⊆ topo.mmioAsics) :
    Wired topo' definition topo'.mmioAsics (base + d) (chips.map (AsicInfo.shift d)) ↔
      Wired topo definition topo.mmioAsics base chips := by
  constructor
  · intro wired
    refine ⟨inside, (shifted.serves inside).mp wired.served, ?_, fun i j a b near first second => ?_⟩
    · exact fun chip member => wired.board (chip.shift d) (List.mem_map_of_mem member)
    · refine (shifted.links _ _).mp (wired.linked i j (a.shift d) (b.shift d) near ?_ ?_)
      · rw [List.getElem?_map, first, Option.map_some]
      · rw [List.getElem?_map, second, Option.map_some]
  · intro wired
    refine ⟨?_, (shifted.serves inside).mpr wired.served, List.forall_mem_map.mpr wired.board, ?_⟩
    · exact List.forall_mem_map.mpr fun chip member =>
        shifted.mem_mmioAsics.mpr ⟨chip, inside member, rfl⟩
    · intro i j a b near first second
      rw [List.getElem?_map] at first second
      obtain ⟨a, here, rfl⟩ := Option.map_eq_some_iff.mp first
      obtain ⟨b, there, rfl⟩ := Option.map_eq_some_iff.mp second
      exact (shifted.links _ _).mpr (wired.linked i j a b near here there)

variable (rt rt' : Runtime) (distinct : topo.MmioChipIdsDistinct) (slots : topo.MmioSlotsDistinct)
  {definition : MeshDefinition} (grid : definition.IsGrid)

include distinct slots grid

theorem resolveMesh_shifted_some {members : List HostBundle}
    (resolved : resolveMesh definition (newMeshIndex (hostBundles rt topo)) (newLinkSet topo) =
      some members) :
    ∃ members', resolveMesh definition (newMeshIndex (hostBundles rt' topo')) (newLinkSet topo') =
      some members' ∧ List.Forall₂ (Corresponds d) members members' := by
  obtain ⟨covered, base, lowest, wired⟩ := (resolveMesh_host_iff rt slots grid).mp resolved
  have wired' := (shifted.wired_iff wired.inside).mpr wired
  obtain ⟨members', covered', anchors⟩ := exists_anchored rt' wired'.inside
  refine ⟨members', (resolveMesh_host_iff rt' (shifted.slots slots) grid).mpr
    ⟨covered', base + d, shifted.lowest lowest, anchors ▸ wired'⟩, ?_⟩
  rw [List.map_map] at anchors
  exact forall₂_of_map_eq anchors.symm fun bundle member bundle' member' same =>
    corresponds_of_anchor shifted rt rt' distinct slots (covered member) (covered' member') same.symm

omit distinct in
theorem resolveMesh_shifted_back {members' : List HostBundle}
    (resolved : resolveMesh definition (newMeshIndex (hostBundles rt' topo')) (newLinkSet topo') =
      some members') :
    ∃ members, resolveMesh definition (newMeshIndex (hostBundles rt topo)) (newLinkSet topo) =
      some members := by
  obtain ⟨_, base', lowest', wired'⟩ := (resolveMesh_host_iff rt' (shifted.slots slots) grid).mp resolved
  obtain ⟨chips, inside, same⟩ : ∃ chips, chips ⊆ topo.mmioAsics ∧
      chips.map (AsicInfo.shift d) = members'.map HostBundle.mmio :=
    exists_map_eq fun chip member => shifted.mmioAsics.mem_iff.mp (wired'.inside member)
  obtain ⟨chip, member, _⟩ := lowest'.attained
  obtain ⟨original, listed, _⟩ := shifted.mem_mmioAsics.mp member
  obtain ⟨base, lowest⟩ := exists_lowest listed
  rw [← same, lowest'.unique (shifted.lowest lowest)] at wired'
  obtain ⟨members, covered, anchors⟩ := exists_anchored rt inside
  exact ⟨members, (resolveMesh_host_iff rt slots grid).mpr
    ⟨covered, base, lowest, anchors ▸ (shifted.wired_iff inside).mp wired'⟩⟩

/-- **A grouping resolves to the same chips in the same order, or to none.** -/
theorem resolveMesh_shifted :
    Option.Rel (List.Forall₂ (Corresponds d))
      (resolveMesh definition (newMeshIndex (hostBundles rt topo)) (newLinkSet topo))
      (resolveMesh definition (newMeshIndex (hostBundles rt' topo')) (newLinkSet topo')) := by
  cases found : resolveMesh definition (newMeshIndex (hostBundles rt topo)) (newLinkSet topo) with
  | some members =>
    obtain ⟨members', found', same⟩ :=
      resolveMesh_shifted_some shifted rt rt' distinct slots grid found
    rw [found']
    exact .some same
  | none =>
    cases found' : resolveMesh definition (newMeshIndex (hostBundles rt' topo')) (newLinkSet topo') with
    | none => exact .none
    | some members' =>
      obtain ⟨members, resolved⟩ := resolveMesh_shifted_back shifted rt rt' slots grid found'
      rw [found] at resolved
      cases resolved

end Meshes

/-- The unit of the same chips. -/
structure SameUnit (d : ℕ) (unit unit' : AllocatableUnit) : Prop where
  kind : unit'.kind = unit.kind
  trayID : unit'.trayID = unit.trayID
  bundles : List.Forall₂ (Corresponds d) unit.bundles unit'.bundles

section Devices

variable {d : ℕ}

theorem meshDevice_eq {definition : MeshDefinition} {origin origin' : HostBundle}
    (same : Corresponds d origin origin') {members members' : List HostBundle}
    (corresponds : List.Forall₂ (Corresponds d) members members')
    (consumption : List DeviceCounterConsumption) :
    meshDevice definition origin' members' consumption =
      meshDevice definition origin members consumption := by
  have chips : chipIDList members' = chipIDList members := by
    unfold chipIDList
    rw [map_mmio_eq corresponds (fun asic => decimal asic.chipId.toNat) fun _ => rfl]
  have trays : trayIDList members' = trayIDList members := by
    have seen : members'.foldl (fun seen bundle => if bundle.mmio.trayId ∈ seen then seen
          else seen ++ [bundle.mmio.trayId]) ([] : List UInt32) =
        members.foldl (fun seen bundle => if bundle.mmio.trayId ∈ seen then seen
          else seen ++ [bundle.mmio.trayId]) [] :=
      List.rel_foldl (R := flip (Corresponds d)) (P := fun a b => a = b)
        (fun a b same bundle' bundle both => by simp only [same, Corresponds.trayId both]) rfl
        corresponds.flip
    unfold trayIDList
    rw [seen]
  unfold meshDevice
  rw [chips, trays, chipCount_eq corresponds, memoryCapacity_eq corresponds,
    corresponds.length_eq, same.mmio]
  rfl

/-- One turn of the mesh loop. -/
theorem buildMesh_correspond {index index' : MeshIndex} {links links' : LinkSet}
    {definition : MeshDefinition} (layout : CounterLayout)
    (resolved : Option.Rel (List.Forall₂ (Corresponds d)) (resolveMesh definition index links)
      (resolveMesh definition index' links')) :
    Option.Rel (fun entry entry' : Device × AllocatableUnit => entry'.1 = entry.1 ∧
        SameUnit d entry.2 entry'.2)
      (buildMesh index links layout definition) (buildMesh index' links' layout definition) := by
  unfold buildMesh
  generalize resolveMesh definition index links = found at resolved ⊢
  generalize resolveMesh definition index' links' = found' at resolved ⊢
  cases resolved with
  | none => exact .none
  | @some members members' same =>
    have consumes := chipCounterConsumption_congr layout (chipIds_eq same)
    cases same with
    | nil => exact .none
    | @cons origin origin' rest rest' first others =>
      show Option.Rel _ ((chipCounterConsumption layout (origin :: rest)).bind _)
        ((chipCounterConsumption layout (origin' :: rest')).bind _)
      rw [← consumes]
      cases chipCounterConsumption layout (origin :: rest) with
      | none => exact .none
      | some consumption =>
        exact .some ⟨meshDevice_eq first (.cons first others) consumption, rfl, first.trayId,
          .cons first others⟩

/-- **The two reports publish the same mesh devices, over the same chips.** -/
theorem meshes_correspond {topo topo' : HostPhysicalTopology} (shifted : Shifted d topo topo')
    (rt rt' : Runtime) (distinct : topo.MmioChipIdsDistinct) (slots : topo.MmioSlotsDistinct)
    (layout : CounterLayout) :
    List.Forall₂ (fun entry entry' => entry'.1 = entry.1 ∧ SameUnit d entry.2 entry'.2)
      (buildMeshDevices topo (hostBundles rt topo) layout)
      (buildMeshDevices topo' (hostBundles rt' topo') layout) := by
  have links : (newLinkSet topo').keys.length = 0 ↔ (newLinkSet topo).keys.length = 0 := by
    rw [links_none_iff, links_none_iff]
    exact forall_congr' fun a => forall_congr' fun b => not_congr (shifted.links a b)
  have definitions : meshDefinitionsFor topo' = meshDefinitionsFor topo := by
    have byQuirk : ∀ topo, meshDefinitionsFor topo = if revC topo then bhGalaxyRevCMeshes else [] :=
      fun _ => rfl
    rw [byQuirk, byQuirk, shifted.quirk]
  unfold buildMeshDevices
  by_cases none : (newLinkSet topo).keys.length = 0
  · rw [if_pos none, if_pos (links.mpr none)]
    exact .nil
  · rw [if_neg none, if_neg (mt links.mp none), definitions]
    refine List.rel_filterMap (R := fun a b => a = b ∧ a.IsGrid) ?_ (List.forall₂_same.mpr ?_)
    · rintro definition _ ⟨rfl, grid⟩
      exact buildMesh_correspond layout (resolveMesh_shifted shifted rt rt' distinct slots grid)
    · exact fun definition known =>
        ⟨rfl, bhGalaxyRevCMeshes_isGrid (meshDefinitionsFor_subset topo known)⟩

end Devices

/-! ### The base of the locations -/

theorem shifted_shift {topo : HostPhysicalTopology} {d : ℕ}
    (small : ∀ asic ∈ topo.asics, asic.asicLocation.toNat + d ≤ 2 ^ 32 - 1) :
    Shifted d topo (topo.shift d) where
  asics := List.Perm.refl _
  small asic member := by
    have := small asic member
    omega
  links _ _ := Iff.rfl
  quirk := rfl

/-- **The base of the locations does not matter.** A host whose locations are all `d` further on gets
the same mesh devices, resolved to the same chips in the same order. And a slot resolves in `uint32`
arithmetic exactly where it does in exact arithmetic: the slots of the descriptors count from one. -/
theorem location_base (rt rt' : Runtime) (topo : HostPhysicalTopology) (d : ℕ)
    (distinct : topo.ChipIdsDistinct) (slots : topo.MmioSlotsDistinct)
    (small : ∀ asic ∈ topo.asics, asic.asicLocation.toNat + d ≤ 2 ^ 32 - 1) :
    List.Forall₂ (fun entry entry' => entry'.1 = entry.1 ∧ SameUnit d entry.2 entry'.2)
        (buildMeshDevices topo (hostBundles rt topo) (buildChipCounterSets (hostTrays rt topo)))
        (buildMeshDevices (topo.shift d) (hostBundles rt' (topo.shift d))
          (buildChipCounterSets (hostTrays rt' (topo.shift d)))) ∧
      (∀ slot : MeshSlot, 1 ≤ slot.asicLocation.toNat → ∀ bundle,
        (newMeshIndex (hostBundles rt topo)).lookup slot = some bundle ↔
          bundle ∈ hostBundles rt topo ∧ bundle.mmio.trayId = slot.trayID ∧
            bundle.mmio.asicLocation.toNat = slot.asicLocation.toNat - 1 +
              (newMeshIndex (hostBundles rt topo)).locationBase.toNat) ∧
      ∀ definition ∈ meshDefinitionsFor topo, ∀ slot ∈ definition.slots,
        1 ≤ slot.asicLocation.toNat := by
  have shifted := shifted_shift small
  refine ⟨?_, fun slot based bundle => lookup_iff (hostBundles_slots_nodup rt slots) based, ?_⟩
  · rw [← layout_shifted shifted rt rt' distinct.mmio slots]
    exact meshes_correspond shifted rt rt' distinct.mmio slots _
  · exact fun definition known =>
      (bhGalaxyRevCMeshes_isGrid (meshDefinitionsFor_subset topo known)).based

/-- The one mesh of the Galaxy, its locations counted up to the last `uint32`. -/
theorem galaxyHost_base :
    (buildMeshDevices galaxyHost (hostBundles Runtime.plain galaxyHost)
      (buildChipCounterSets (hostTrays Runtime.plain galaxyHost))).length = 1 ∧
    (buildMeshDevices (galaxyHost.shift 4294967289)
      (hostBundles Runtime.reversed (galaxyHost.shift 4294967289))
      (buildChipCounterSets (hostTrays Runtime.reversed (galaxyHost.shift 4294967289)))).map Prod.fst =
    (buildMeshDevices galaxyHost (hostBundles Runtime.plain galaxyHost)
      (buildChipCounterSets (hostTrays Runtime.plain galaxyHost))).map Prod.fst := by
  refine ⟨by decide +kernel, ?_⟩
  have same := (location_base Runtime.plain Runtime.reversed galaxyHost 4294967289 (by decide)
    (by decide) (by decide)).1
  rw [← List.forall₂_eq_eq_eq, List.forall₂_map_left_iff, List.forall₂_map_right_iff]
  exact same.flip.imp fun _ _ both => both.1

end DraDriver.Tenstorrent
