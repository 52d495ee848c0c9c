/-
**Which meshes a host loses with a chip.**

The groupings count locations from one and the agent may not, so the index counts from the lowest
location it sees. That makes the base a fact about the whole host: losing the only chip at the
lowest location moves every slot of every grouping.

* `publishesMesh_iff` — the published meshes, in terms of the host's chips alone.
* `Wired.lowest` — where the chips of a grouping begin.
* **`chip_loss`** — losing a chip withdraws the meshes that cover it and changes nothing else
  exactly when `Harmless`: the base stays, or the groupings it moves to are those it came from, or
  there is no mesh before or after.
-/

import DraDriver.Tenstorrent.MeshGrid

namespace DraDriver.Tenstorrent

open DraDriver.Base DraDriver.FabricManager

/-! ### Meshes of a host -/

/-- A mesh device of this name, over the chips of these ids in mesh order, is published. -/
def PublishesMesh (rt : Runtime) (topo : HostPhysicalTopology) (name : String) (chips : List UInt32) :
    Prop :=
  ∃ entry ∈ buildMeshDevices topo (hostBundles rt topo) (buildChipCounterSets (hostTrays rt topo)),
    entry.1.name = name ∧ entry.2.bundles.map HostBundle.chipId = chips

/-- Some grouping is wired on the host by these chips. -/
def HostMesh (topo : HostPhysicalTopology) (chips : List AsicInfo) : Prop :=
  ∃ definition ∈ bhGalaxyRevCMeshes, ∃ base, Lowest topo.mmioAsics base ∧
    Wired topo definition topo.mmioAsics base chips

theorem Lowest.congr {anchors anchors' : List AsicInfo} (same : ∀ chip, chip ∈ anchors ↔ chip ∈ anchors')
    {base : ℕ} (lowest : Lowest anchors base) : Lowest anchors' base := by
  obtain ⟨chip, member, located⟩ := lowest.attained
  exact ⟨⟨chip, (same chip).mp member, located⟩, fun other inside =>
    lowest.least other ((same other).mpr inside)⟩

theorem Wired.congr {topo : HostPhysicalTopology} {definition : MeshDefinition}
    {anchors anchors' chips : List AsicInfo} (same : ∀ chip, chip ∈ anchors ↔ chip ∈ anchors')
    {base : ℕ} (wired : Wired topo definition anchors base chips) :
    Wired topo definition anchors' base chips :=
  { wired with inside := fun chip member => (same chip).mp (wired.inside member) }

section Host

variable (rt : Runtime) {topo : HostPhysicalTopology}

theorem hostBundles_anchors_perm (topo : HostPhysicalTopology) :
    ((hostBundles rt topo).map HostBundle.mmio).Perm topo.mmioAsics :=
  bundleHostASICs_anchors_perm rt topo.asics

theorem hostBundles_slots_nodup (slots : topo.MmioSlotsDistinct) :
    ((hostBundles rt topo).map HostBundle.slot).Nodup := by
  have pairs := ((hostBundles_anchors_perm rt topo).map
    fun asic : AsicInfo => (asic.trayId, asic.asicLocation)).nodup_iff.mpr slots
  rw [List.map_map] at pairs
  refine List.Nodup.of_map (fun slot : MeshSlot => (slot.trayID, slot.asicLocation)) ?_
  rw [List.map_map]
  exact pairs

/-- A grouping resolves to the bundles of the chips that are wired so. -/
theorem resolveMesh_host_iff (slots : topo.MmioSlotsDistinct) {definition : MeshDefinition}
    (grid : definition.IsGrid) {members : List HostBundle} :
    resolveMesh definition (newMeshIndex (hostBundles rt topo)) (newLinkSet topo) = some members ↔
      members ⊆ hostBundles rt topo ∧ ∃ base, Lowest topo.mmioAsics base ∧
        Wired topo definition topo.mmioAsics base (members.map HostBundle.mmio) := by
  have anchors := fun chip => (hostBundles_anchors_perm rt topo).mem_iff (a := chip)
  rw [resolveMesh_iff grid (hostBundles_slots_nodup rt slots)]
  refine and_congr_right fun _ => exists_congr fun base => ?_
  exact ⟨fun ⟨lowest, wired⟩ => ⟨lowest.congr anchors, wired.congr anchors⟩,
    fun ⟨lowest, wired⟩ => ⟨lowest.congr fun chip => (anchors chip).symm,
      wired.congr fun chip => (anchors chip).symm⟩⟩

/-- Every list of MMIO chips anchors a list of bundles. -/
theorem exists_anchored {chips : List AsicInfo} (inside : chips ⊆ topo.mmioAsics) :
    ∃ members, members ⊆ hostBundles rt topo ∧ members.map HostBundle.mmio = chips :=
  exists_map_eq fun _ member => (hostBundles_anchors_perm rt topo).mem_iff.mpr (inside member)

/-- A mesh device is named for the first of its chips. -/
theorem meshEntry_named {layout : CounterLayout} {device : Device} {unit : AllocatableUnit}
    (member : (device, unit) ∈ buildMeshDevices topo (hostBundles rt topo) layout) :
    device.name = deviceNameForMesh "4x2h" ((unit.bundles.map HostBundle.chipId).headD 0) := by
  obtain ⟨definition, known, built⟩ := mem_buildMeshDevices member
  obtain ⟨members, origin, consumption, _, first, _, deviceEq, unitEq⟩ := buildMesh_spec built
  have head : (unit.bundles.map HostBundle.chipId).headD 0 = origin.chipId := by
    rw [unitEq, List.headD_eq_head?_getD, List.head?_map, first]
    rfl
  rw [head, deviceEq, ← meshSlugs_same definition (meshDefinitionsFor_subset topo known)]
  rfl

/-- **The published meshes are the wired groupings**, named for their first chip. -/
theorem publishesMesh_iff (distinct : topo.MmioChipIdsDistinct) (slots : topo.MmioSlotsDistinct)
    (few : ∀ tray, (mmioOn topo tray).length ≤ 32) (quirk : revC topo = true) {name : String}
    {ids : List UInt32} :
    PublishesMesh rt topo name ids ↔ ∃ chips, HostMesh topo chips ∧
      name = deviceNameForMesh "4x2h" (ids.headD 0) ∧ chips.map AsicInfo.chipId = ids := by
  constructor
  · rintro ⟨⟨device, unit⟩, member, rfl, rfl⟩
    have published : MeshPublished rt topo unit.bundles := ⟨_, member, rfl⟩
    obtain ⟨_, definition, known, resolved, _⟩ := (meshPublished_iff rt distinct _).mp published
    obtain ⟨_, base, lowest, wired⟩ :=
      (resolveMesh_host_iff rt slots (bhGalaxyRevCMeshes_isGrid known)).mp resolved
    refine ⟨_, ⟨definition, known, base, lowest, wired⟩, meshEntry_named rt member, ?_⟩
    rw [List.map_map]
    rfl
  · rintro ⟨chips, ⟨definition, known, base, lowest, wired⟩, rfl, rfl⟩
    obtain ⟨members, covered, rfl⟩ := exists_anchored rt wired.inside
    have resolved := (resolveMesh_host_iff rt slots (bhGalaxyRevCMeshes_isGrid known)).mpr
      ⟨covered, base, lowest, wired⟩
    obtain ⟨⟨device, unit⟩, member, rfl⟩ := (meshPublished_iff rt distinct members).mpr
      ⟨quirk, definition, known, resolved, mesh_fewSets rt distinct few known resolved⟩
    rw [List.map_map]
    exact ⟨_, member, meshEntry_named rt member, rfl⟩

end Host

/-! ### Where a grouping begins -/

/-- How far the first location of a grouping is from the base. -/
def MeshDefinition.offset (definition : MeshDefinition) : ℕ :=
  (definition.slots.map fun slot => slot.asicLocation.toNat - 1).min?.getD 0

/-- A grouping begins at the base, on both of its trays, or two locations further. -/
theorem offset_cases : ∀ definition ∈ bhGalaxyRevCMeshes, definition.offset = 2 ∨
    definition.offset = 0 ∧ ∃ slot ∈ definition.slots, ∃ slot' ∈ definition.slots,
      slot.trayID ≠ slot'.trayID ∧ slot.asicLocation = 1 ∧ slot'.asicLocation = 1 := by decide

theorem Wired.lowest {topo : HostPhysicalTopology} {definition : MeshDefinition}
    (known : definition ∈ bhGalaxyRevCMeshes) {anchors chips : List AsicInfo} {base : ℕ}
    (wired : Wired topo definition anchors base chips) : Lowest chips (definition.offset + base) := by
  have begins : ∀ definition ∈ bhGalaxyRevCMeshes,
      (∃ slot ∈ definition.slots, slot.asicLocation.toNat - 1 = definition.offset) ∧
        ∀ slot ∈ definition.slots, definition.offset ≤ slot.asicLocation.toNat - 1 := by decide
  obtain ⟨⟨slot, member, first⟩, least⟩ := begins definition known
  constructor
  · obtain ⟨chip, inside, served⟩ := forall₂_exists_left wired.served.flip member
    exact ⟨chip, inside, by rw [served.2, first]⟩
  · intro chip inside
    obtain ⟨slot, member, served⟩ := forall₂_exists_left wired.served inside
    have above := least slot member
    rw [served.2]
    omega

/-- The same grid two locations further on the same trays. -/
def Raised (definition definition' : MeshDefinition) : Prop :=
  definition'.cols = definition.cols ∧
    List.Forall₂ (fun slot slot' : MeshSlot => slot'.trayID = slot.trayID ∧
      1 ≤ slot.asicLocation.toNat ∧ slot'.asicLocation.toNat = slot.asicLocation.toNat + 2)
        definition.slots definition'.slots

instance (definition definition' : MeshDefinition) : Decidable (Raised definition definition') :=
  inferInstanceAs (Decidable (_ ∧ _))

/-- The groupings come in pairs, one the other raised. -/
theorem raised_pairs :
    (∀ definition ∈ bhGalaxyRevCMeshes, definition.offset = 0 →
      ∃ definition' ∈ bhGalaxyRevCMeshes, Raised definition definition') ∧
    ∀ definition' ∈ bhGalaxyRevCMeshes, definition'.offset = 2 →
      ∃ definition ∈ bhGalaxyRevCMeshes, Raised definition definition' := by decide

/-- A grouping at a raised base is the raised grouping at the base. -/
theorem Raised.wired_iff {definition definition' : MeshDefinition}
    (raised : Raised definition definition') {topo : HostPhysicalTopology}
    {anchors chips : List AsicInfo} {base : ℕ} :
    Wired topo definition anchors (base + 2) chips ↔ Wired topo definition' anchors base chips := by
  have served : List.Forall₂ (Serves (base + 2)) definition.slots chips ↔
      List.Forall₂ (Serves base) definition'.slots chips := by
    refine forall₂_congr_left (fun slot slot' chip related => ?_) raised.2
    obtain ⟨tray, based, location⟩ := related
    unfold Serves
    rw [tray, location]
    exact and_congr_right fun _ => by omega
  constructor
  · intro wired
    refine ⟨wired.inside, served.mp wired.served, wired.board, ?_⟩
    rw [raised.1]
    exact wired.linked
  · intro wired
    refine ⟨wired.inside, served.mpr wired.served, wired.board, ?_⟩
    rw [← raised.1]
    exact wired.linked

/-! ### Losing a chip -/

section Loss

variable {topo : HostPhysicalTopology} {lost : AsicInfo}

theorem mem_mmioAsics_without (distinct : topo.ChipIdsDistinct) {chip : AsicInfo} :
    chip ∈ (topo.without lost).mmioAsics ↔ chip ∈ topo.mmioAsics ∧ chip ≠ lost := by
  unfold HostPhysicalTopology.mmioAsics HostPhysicalTopology.without
  rw [List.mem_filter, List.mem_filter, distinct.of_map.mem_erase_iff]
  tauto

theorem mmioAsics_without_sublist : (topo.without lost).mmioAsics.Sublist topo.mmioAsics :=
  List.erase_sublist.filter _

/-- The chips wired as a grouping without the lost one are those wired so before, less the
meshes that cover it. -/
theorem wired_without (distinct : topo.ChipIdsDistinct) {definition : MeshDefinition} {base : ℕ}
    {chips : List AsicInfo} :
    Wired (topo.without lost) definition (topo.without lost).mmioAsics base chips ↔
      Wired topo definition topo.mmioAsics base chips ∧ lost ∉ chips := by
  constructor
  · intro wired
    refine ⟨⟨fun chip member => ?_, wired.served, wired.board, wired.linked⟩, fun covered => ?_⟩
    · exact ((mem_mmioAsics_without distinct).mp (wired.inside member)).1
    · exact ((mem_mmioAsics_without distinct).mp (wired.inside covered)).2 rfl
  · rintro ⟨wired, spared⟩
    refine ⟨fun chip member => ?_, wired.served, wired.board, wired.linked⟩
    exact (mem_mmioAsics_without distinct).mpr
      ⟨wired.inside member, fun same => spared (same ▸ member)⟩

theorem hostMesh_iff {base : ℕ} (lowest : Lowest topo.mmioAsics base) {chips : List AsicInfo} :
    HostMesh topo chips ↔ ∃ definition ∈ bhGalaxyRevCMeshes,
      Wired topo definition topo.mmioAsics base chips := by
  refine exists_congr fun definition => and_congr_right fun _ => ⟨?_, fun wired => ⟨base, lowest, wired⟩⟩
  rintro ⟨base', lowest', wired⟩
  rwa [lowest.unique lowest']

/-! ### When the base moves -/

section Moved

variable {base base' : ℕ} (distinct : topo.ChipIdsDistinct) (lowest : Lowest topo.mmioAsics base)
  (lowest' : Lowest (topo.without lost).mmioAsics base')

include distinct lowest lowest'

theorem base_le_without : base ≤ base' := by
  obtain ⟨chip, member, located⟩ := lowest'.attained
  rw [← located]
  exact lowest.least chip ((mem_mmioAsics_without distinct).mp member).1

omit lowest in
/-- The base moves only with the one chip that was there. -/
theorem lost_of_moved (moved : base < base') {chip : AsicInfo} (member : chip ∈ topo.mmioAsics)
    (located : chip.asicLocation.toNat = base) : chip = lost := by
  by_contra other
  have above := lowest'.least chip ((mem_mmioAsics_without distinct).mpr ⟨member, other⟩)
  omega

omit lowest in
/-- Then the groupings that begin at the base were not wired: they have two chips there. -/
theorem offset_of_moved (moved : base < base') {definition : MeshDefinition}
    (known : definition ∈ bhGalaxyRevCMeshes) {chips : List AsicInfo}
    (wired : Wired topo definition topo.mmioAsics base chips) : definition.offset = 2 := by
  rcases offset_cases definition known with two | ⟨_, slot, inSlots, slot', inSlots', apart, one, one'⟩
  · exact two
  · obtain ⟨chip, inside, onTray, located⟩ := forall₂_exists_left wired.served.flip inSlots
    obtain ⟨chip', inside', onTray', located'⟩ := forall₂_exists_left wired.served.flip inSlots'
    have first := lost_of_moved distinct lowest' moved (wired.inside inside)
      (by rw [located, one]; exact Nat.zero_add base)
    have second := lost_of_moved distinct lowest' moved (wired.inside inside')
      (by rw [located', one']; exact Nat.zero_add base)
    exact absurd (onTray.symm.trans ((congrArg AsicInfo.trayId (first.trans second.symm)).trans onTray'))
      apart

/-- And the groupings that were wired do not cover the lost chip. -/
theorem spared_of_moved (moved : base < base') {definition : MeshDefinition}
    (known : definition ∈ bhGalaxyRevCMeshes) {chips : List AsicInfo}
    (wired : Wired topo definition topo.mmioAsics base chips) : lost ∉ chips := by
  intro covered
  obtain ⟨chip, member, located⟩ := lowest.attained
  have above := (wired.lowest known).least lost covered
  rw [offset_of_moved distinct lowest' moved known wired,
    ← lost_of_moved distinct lowest' moved member located] at above
  omega

omit lowest in
/-- Meshes of the host before and after begin at the same location only if the base moved by two. -/
theorem moved_by_two (moved : base < base') {definition definition' : MeshDefinition}
    (known : definition ∈ bhGalaxyRevCMeshes) (known' : definition' ∈ bhGalaxyRevCMeshes)
    {chips : List AsicInfo} (wired : Wired topo definition topo.mmioAsics base chips)
    (wired' : Wired (topo.without lost) definition' (topo.without lost).mmioAsics base' chips) :
    base' = base + 2 ∧ definition'.offset = 0 := by
  have begins := (wired.lowest known).unique (wired'.lowest known')
  rw [offset_of_moved distinct lowest' moved known wired] at begins
  rcases offset_cases definition' known' with two | ⟨zero, _⟩ <;> omega

end Moved

/-! ### What a loss leaves -/

/-- After the loss every published mesh was published before, and every mesh that did not cover
the lost chip still is: same name, same chips, same order. -/
def OnlyWithdraws (rt rt' : Runtime) (topo : HostPhysicalTopology) (lost : AsicInfo) : Prop :=
  (∀ name chips, PublishesMesh rt' (topo.without lost) name chips → PublishesMesh rt topo name chips) ∧
    ∀ name chips, PublishesMesh rt topo name chips → lost.chipId ∉ chips →
      PublishesMesh rt' (topo.without lost) name chips

/-- **When losing a chip does no harm beyond the meshes that cover it.** The base stays; or it moves
by two and no grouping is wired that begins two locations further; or there is no mesh at all. -/
def Harmless (topo : HostPhysicalTopology) (lost : AsicInfo) : Prop :=
  ∀ base base', Lowest topo.mmioAsics base → Lowest (topo.without lost).mmioAsics base' →
    base' = base ∨
    base' = base + 2 ∧ (∀ definition ∈ bhGalaxyRevCMeshes, definition.offset = 2 → ∀ chips,
      ¬ Wired (topo.without lost) definition (topo.without lost).mmioAsics base' chips) ∨
    base' ≠ base + 2 ∧ (∀ chips, ¬ HostMesh topo chips) ∧ ∀ chips, ¬ HostMesh (topo.without lost) chips

theorem exists_lowest {anchors : List AsicInfo} {chip : AsicInfo} (member : chip ∈ anchors) :
    ∃ base, Lowest anchors base := by
  obtain ⟨first, inside, least⟩ := anchors.toFinset.exists_min_image
    (fun chip => chip.asicLocation.toNat) ⟨chip, List.mem_toFinset.mpr member⟩
  exact ⟨_, ⟨first, List.mem_toFinset.mp inside, rfl⟩, fun other inOthers =>
    least other (List.mem_toFinset.mpr inOthers)⟩

/-- A mesh that does not cover the lost chip sees both bases. -/
theorem bases_of_spared (distinct : topo.ChipIdsDistinct) {definition : MeshDefinition}
    (known : definition ∈ bhGalaxyRevCMeshes) {base : ℕ} {chips : List AsicInfo}
    (wired : Wired topo definition topo.mmioAsics base chips) (spared : lost ∉ chips) :
    (∃ base, Lowest topo.mmioAsics base) ∧ ∃ base', Lowest (topo.without lost).mmioAsics base' := by
  obtain ⟨chip, member, _⟩ := (wired.lowest known).attained
  have inside := wired.inside member
  exact ⟨exists_lowest inside, exists_lowest ((mem_mmioAsics_without distinct).mpr
    ⟨inside, fun same => spared (same ▸ member)⟩)⟩

/-- **What is harmless, in terms of the chips.** -/
theorem harmless_iff (distinct : topo.ChipIdsDistinct) :
    Harmless topo lost ↔ (∀ chips, HostMesh (topo.without lost) chips → HostMesh topo chips) ∧
      ∀ chips, HostMesh topo chips → lost ∉ chips → HostMesh (topo.without lost) chips := by
  constructor
  · intro harmless
    -- with both bases at hand, the meshes that spare the lost chip are the same
    have same : ∀ base base', Lowest topo.mmioAsics base →
        Lowest (topo.without lost).mmioAsics base' → ∀ chips,
          HostMesh (topo.without lost) chips ↔ HostMesh topo chips ∧ lost ∉ chips := by
      intro base base' lowest lowest' chips
      rcases harmless base base' lowest lowest' with rfl | ⟨rfl, inner⟩ | ⟨_, before, after⟩
      · rw [hostMesh_iff lowest, hostMesh_iff lowest', ← exists_and_right]
        refine exists_congr fun definition => ?_
        rw [wired_without distinct, and_assoc]
      · have moved : base < base + 2 := by omega
        rw [hostMesh_iff lowest, hostMesh_iff lowest']
        constructor
        · rintro ⟨definition, known, wired⟩
          have outer : definition.offset = 0 := (offset_cases definition known).elim
            (fun two => absurd wired (inner definition known two chips)) And.left
          obtain ⟨definition', known', raised⟩ := raised_pairs.1 definition known outer
          obtain ⟨wired, spared⟩ := (wired_without distinct).mp wired
          exact ⟨⟨definition', known', raised.wired_iff.mp wired⟩, spared⟩
        · rintro ⟨⟨definition, known, wired⟩, spared⟩
          obtain ⟨definition', known', raised⟩ := raised_pairs.2 definition known
            (offset_of_moved distinct lowest' moved known wired)
          exact ⟨definition', known',
            (wired_without distinct).mpr ⟨raised.wired_iff.mpr wired, spared⟩⟩
      · exact iff_of_false (after chips) fun both => before chips both.1
    constructor
    · rintro chips ⟨definition, known, base', lowest', wired⟩
      obtain ⟨wired', spared⟩ := (wired_without distinct).mp wired
      obtain ⟨⟨base, lowest⟩, _⟩ := bases_of_spared distinct known wired' spared
      exact ((same base base' lowest lowest' chips).mp ⟨definition, known, base', lowest', wired⟩).1
    · rintro chips ⟨definition, known, base, lowest, wired⟩ spared
      obtain ⟨_, base', lowest'⟩ := bases_of_spared distinct known wired spared
      exact (same base base' lowest lowest' chips).mpr
        ⟨⟨definition, known, base, lowest, wired⟩, spared⟩
  · rintro ⟨sound, complete⟩ base base' lowest lowest'
    by_cases kept : base' = base
    · exact Or.inl kept
    have moved : base < base' :=
      lt_of_le_of_ne (base_le_without distinct lowest lowest') (Ne.symm kept)
    -- no chips can be a mesh both before and after, but for a move by two
    have apart : ∀ chips, HostMesh topo chips → HostMesh (topo.without lost) chips →
        base' = base + 2 := by
      intro chips before after
      obtain ⟨definition, known, wired⟩ := (hostMesh_iff lowest).mp before
      obtain ⟨definition', known', wired'⟩ := (hostMesh_iff lowest').mp after
      exact (moved_by_two distinct lowest' moved known known' wired wired').1
    by_cases two : base' = base + 2
    · refine Or.inr (Or.inl ⟨two, fun definition' known' inner chips wired' => ?_⟩)
      obtain ⟨definition, known, wired⟩ := (hostMesh_iff lowest).mp
        (sound chips ((hostMesh_iff lowest').mpr ⟨definition', known', wired'⟩))
      have outer := (moved_by_two distinct lowest' moved known known' wired wired').2
      omega
    · refine Or.inr (Or.inr ⟨two, fun chips before => ?_, fun chips after => ?_⟩)
      · obtain ⟨definition, known, wired⟩ := (hostMesh_iff lowest).mp before
        have spared := spared_of_moved distinct lowest lowest' moved known wired
        exact two (apart chips before (complete chips before spared))
      · exact two (apart chips (sound chips after) after)

theorem HostMesh.inside {chips : List AsicInfo} (mesh : HostMesh topo chips) : chips ⊆ topo.asics := by
  obtain ⟨_, _, _, _, wired⟩ := mesh
  exact List.Subset.trans wired.inside (List.filter_subset_self _)

/-- **Losing a chip withdraws the meshes that cover it and nothing else, exactly when it is
harmless** to the inferred base. -/
theorem chip_loss (rt rt' : Runtime) (quirk : revC topo = true) (distinct : topo.ChipIdsDistinct)
    (slots : topo.MmioSlotsDistinct) (few : ∀ tray, (mmioOn topo tray).length ≤ 32)
    (present : lost ∈ topo.asics) : OnlyWithdraws rt rt' topo lost ↔ Harmless topo lost := by
  have before : ∀ {name ids}, PublishesMesh rt topo name ids ↔ _ :=
    publishesMesh_iff rt distinct.mmio slots few quirk
  have after : ∀ {name ids}, PublishesMesh rt' (topo.without lost) name ids ↔ _ :=
    publishesMesh_iff rt' (distinct.mmio.sublist (mmioAsics_without_sublist.map _))
      (slots.sublist (mmioAsics_without_sublist.map _))
      (fun tray => (mmioAsics_without_sublist.filter _).length_le.trans (few tray)) quirk
  -- chips of the host are told apart by their ids
  have fewer : (topo.without lost).asics ⊆ topo.asics := List.erase_subset
  have ids : ∀ {chips chips' : List AsicInfo}, chips ⊆ topo.asics → chips' ⊆ topo.asics →
      chips.map AsicInfo.chipId = chips'.map AsicInfo.chipId → chips = chips' :=
    eq_of_map_eq distinct
  have covers : ∀ {chips : List AsicInfo}, chips ⊆ topo.asics →
      (lost.chipId ∈ chips.map AsicInfo.chipId ↔ lost ∈ chips) := by
    refine fun inside => ⟨fun member => ?_, List.mem_map_of_mem⟩
    obtain ⟨chip, listed, same⟩ := List.mem_map.mp member
    rwa [← List.inj_on_of_nodup_map distinct (inside listed) present same]
  rw [harmless_iff distinct]
  constructor
  · rintro ⟨sound, complete⟩
    refine ⟨fun chips mesh => ?_, fun chips mesh spared => ?_⟩
    · obtain ⟨chips', mesh', _, same⟩ := before.mp (sound _ _ (after.mpr ⟨chips, mesh, rfl, rfl⟩))
      rwa [ids (List.Subset.trans mesh.inside fewer) mesh'.inside same.symm]
    · obtain ⟨chips', mesh', _, same⟩ := after.mp (complete _ _ (before.mpr ⟨chips, mesh, rfl, rfl⟩)
        fun covered => spared ((covers mesh.inside).mp covered))
      rwa [ids mesh.inside (List.Subset.trans mesh'.inside fewer) same.symm]
  · rintro ⟨sound, complete⟩
    refine ⟨fun name chipIds published => ?_, fun name chipIds published spared => ?_⟩
    · obtain ⟨chips, mesh, named, same⟩ := after.mp published
      exact before.mpr ⟨chips, sound chips mesh, named, same⟩
    · obtain ⟨chips, mesh, named, rfl⟩ := before.mp published
      exact after.mpr ⟨chips, complete chips mesh (fun covered => spared
        ((covers mesh.inside).mpr covered)), named, rfl⟩

end Loss

/-! ### Two hosts -/

/-- The first chip of the grouping is lost, and the other tray still has one at its location. -/
theorem galaxyHost_loss :
    OnlyWithdraws Runtime.plain Runtime.reversed galaxyHost (galaxyChip 2 1 0) := by
  refine (chip_loss Runtime.plain Runtime.reversed rfl (by decide) (by decide) ?_ (by decide)).mpr ?_
  · intro tray
    exact ((List.filter_sublist.trans List.filter_sublist).length_le).trans (by decide)
  · intro base base' lowest lowest'
    have here : Lowest galaxyHost.mmioAsics 1 := ⟨by decide, by decide⟩
    have there : Lowest (galaxyHost.without (galaxyChip 2 1 0)).mmioAsics 1 := ⟨by decide, by decide⟩
    exact Or.inl ((lowest'.unique there).trans (here.unique lowest))

/-- A rev C host with the chips of the second grouping, in mesh order, and of the lower locations
only one chip at each. -/
def worndownHost : HostPhysicalTopology where
  asics := [galaxyChip 2 3 0, galaxyChip 2 4 1, galaxyChip 2 7 2, galaxyChip 2 8 3,
    galaxyChip 1 7 4, galaxyChip 1 8 5, galaxyChip 1 3 6, galaxyChip 1 4 7, galaxyChip 3 1 8,
    galaxyChip 3 2 9]
  localConnections := gridLinks
  quirks := some { isBhGlxRevC := true }
  discoveryError := ""

/-- The last chip at location 1 is on a tray the mesh does not touch, and the mesh goes with it. -/
theorem worndownHost_loss :
    revC worndownHost = true ∧ worndownHost.ChipIdsDistinct ∧
      (worndownHost.asics.map fun asic => (asic.trayId, asic.asicLocation)).Nodup ∧
      (∀ tray, (mmioOn worndownHost tray).length ≤ 32) ∧ galaxyChip 3 1 8 ∈ worndownHost.asics ∧
      ¬ OnlyWithdraws Runtime.plain Runtime.plain worndownHost (galaxyChip 3 1 8) := by
  refine ⟨rfl, by decide, by decide, fun tray => ?_, by decide, fun kept => ?_⟩
  · exact ((List.filter_sublist.trans List.filter_sublist).length_le).trans (by decide)
  · have before : PublishesMesh Runtime.plain worndownHost "tt-mesh-4x2h-0" [0, 1, 2, 3, 4, 5, 6, 7] := by
      unfold PublishesMesh
      decide +kernel
    have after : (buildMeshDevices (worndownHost.without (galaxyChip 3 1 8))
        (hostBundles Runtime.plain (worndownHost.without (galaxyChip 3 1 8)))
        (buildChipCounterSets (hostTrays Runtime.plain
          (worndownHost.without (galaxyChip 3 1 8))))).length = 0 := by decide +kernel
    obtain ⟨entry, member, _⟩ := kept.2 _ _ before (by decide)
    rw [List.length_eq_zero_iff.mp after] at member
    cases member

end DraDriver.Tenstorrent
