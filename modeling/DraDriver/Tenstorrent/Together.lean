/-
**What can be allocated together.**

The counters leave the scheduler no choice: a list of published devices can be allocated, one after
another and in any order, exactly when no two of them cover the same MMIO chip. Devices of one kind
never do, so a node serves as many requests for chips, for trays or for meshes as it publishes devices.

* `meshSlots_apart` — the groupings of a rev C host have no slot in common.
* `apart_of_kind` — two devices of one kind share no MMIO chip.
* **`allocated_together`** — both statements, for every topology and all options.
-/

import DraDriver.Tenstorrent.Exclusion

namespace DraDriver.Tenstorrent

open DraDriver.Base DraDriver.FabricManager

/-- The kind of unit a device resolves to. -/
def Profile.kindOf (p : Profile) (device : Device) : Option UnitKind :=
  (p.unitByDevice.lookup device.name).map AllocatableUnit.kind

/-- No chip is in two groupings. -/
theorem meshSlots_apart :
    bhGalaxyRevCMeshes.Pairwise fun a b => ∀ slot ∈ a.slots, slot ∉ b.slots := by
  decide

/-- Two groupings that share a slot are one. -/
theorem definition_eq_of_slot {a b : MeshDefinition} (known : a ∈ bhGalaxyRevCMeshes)
    (known' : b ∈ bhGalaxyRevCMeshes) {slot : MeshSlot} (inside : slot ∈ a.slots)
    (inside' : slot ∈ b.slots) : a = b := by
  by_contra different
  have symm : Std.Symm fun a b : MeshDefinition => ∀ slot ∈ a.slots, slot ∉ b.slots :=
    ⟨fun _ _ apart slot here there => apart slot there here⟩
  exact meshSlots_apart.forall known known' different slot inside inside'

section Kinds

variable (rt : Runtime) (p : Profile) {topo : HostPhysicalTopology}

/-- Two meshes that share a chip are one. -/
theorem mesh_eq_of_shared {layout : CounterLayout} {entry other : Device × AllocatableUnit}
    (mesh : entry ∈ buildMeshDevices topo (hostBundles rt topo) layout)
    (mesh' : other ∈ buildMeshDevices topo (hostBundles rt topo) layout) {bundle : HostBundle}
    (inside : bundle ∈ entry.2.bundles) (inside' : bundle ∈ other.2.bundles) : entry = other := by
  obtain ⟨definition, known, built⟩ := mem_buildMeshDevices mesh
  obtain ⟨definition', known', built'⟩ := mem_buildMeshDevices mesh'
  -- the slot of a member tells the grouping
  have slots : ∀ {definition : MeshDefinition} {entry : Device × AllocatableUnit},
      buildMesh (newMeshIndex (hostBundles rt topo)) (newLinkSet topo) layout definition = some entry →
      bundle ∈ entry.2.bundles → ∃ slot ∈ definition.slots,
        (newMeshIndex (hostBundles rt topo)).wireSlot slot = bundle.slot := by
    intro definition entry built inside
    obtain ⟨members, _, _, resolved, _, _, _, covered⟩ := buildMesh_spec built
    rw [covered] at inside
    have served := List.mem_map_of_mem (f := HostBundle.slot) inside
    rw [resolveMesh_slots resolved] at served
    exact List.mem_map.mp served
  obtain ⟨slot, here, wired⟩ := slots built inside
  obtain ⟨slot', there, wired'⟩ := slots built' inside'
  have same : slot = slot' := MeshIndex.wireSlot_inj _ (wired.trans wired'.symm)
  have one := definition_eq_of_slot (meshDefinitionsFor_subset topo known)
    (meshDefinitionsFor_subset topo known') here (same ▸ there)
  rw [one] at built
  exact Option.some.inj (built.symm.trans built')

/-- Two trays that share a chip are one. -/
theorem tray_eq_of_shared {layout : CounterLayout} {tray tray' : TrayGroup}
    (held : tray ∈ hostTrays rt topo) (held' : tray' ∈ hostTrays rt topo)
    {entry other : Device × AllocatableUnit} (built : trayEntry layout tray = some entry)
    (built' : trayEntry layout tray' = some other) {bundle : HostBundle}
    (inside : bundle ∈ entry.2.bundles) (inside' : bundle ∈ other.2.bundles) : entry = other := by
  rw [(trayEntry_spec built).2.1, (trayGroup_bundles rt _ held).1] at inside
  rw [(trayEntry_spec built').2.1, (trayGroup_bundles rt _ held').1] at inside'
  have same : tray.trayID = tray'.trayID :=
    (of_decide_eq_true (List.mem_filter.mp inside).2).symm.trans
      (of_decide_eq_true (List.mem_filter.mp inside').2)
  have one := List.inj_on_of_nodup_map (trayIDs_nodup rt (hostBundles rt topo)) held held' same
  rw [one] at built
  exact Option.some.inj (built.symm.trans built')

theorem kind_tray {layout : CounterLayout} {tray : TrayGroup} {entry : Device × AllocatableUnit}
    (built : trayEntry layout tray = some entry) : entry.2.kind = .tray := by
  obtain ⟨device, _, rfl⟩ := Option.map_eq_some_iff.mp built
  rfl

theorem kind_mesh {layout : CounterLayout} {bundles : List HostBundle}
    {entry : Device × AllocatableUnit} (mesh : entry ∈ buildMeshDevices topo bundles layout) :
    entry.2.kind = .mesh := by
  obtain ⟨definition, _, built⟩ := mem_buildMeshDevices mesh
  obtain ⟨_, _, _, _, _, _, _, covered⟩ := buildMesh_spec built
  rw [covered]

/-- **Two devices of one kind that share an MMIO chip are one.** -/
theorem entry_eq_of_kind {entry other : Device × AllocatableUnit}
    (member : entry ∈ (p.enumerate rt topo).units) (member' : other ∈ (p.enumerate rt topo).units)
    (kind : entry.2.kind = other.2.kind) {bundle : HostBundle} (inside : bundle ∈ entry.2.bundles)
    (inside' : bundle ∈ other.2.bundles) : entry = other := by
  rcases mem_enumerate rt p member with ⟨own, _, rfl⟩ | ⟨_, tray, held, built⟩ | ⟨_, mesh⟩
  · rcases mem_enumerate rt p member' with ⟨own', _, rfl⟩ | ⟨_, tray, _, built⟩ | ⟨_, mesh⟩
    · cases List.mem_singleton.mp inside
      cases List.mem_singleton.mp inside'
      rfl
    · rw [kind_tray built] at kind
      cases kind
    · rw [kind_mesh mesh] at kind
      cases kind
  · rw [kind_tray built] at kind
    rcases mem_enumerate rt p member' with ⟨own', _, rfl⟩ | ⟨_, tray', held', built'⟩ | ⟨_, mesh⟩
    · cases kind
    · exact tray_eq_of_shared rt held held' built built' inside inside'
    · rw [kind_mesh mesh] at kind
      cases kind
  · rw [kind_mesh mesh] at kind
    rcases mem_enumerate rt p member' with ⟨own', _, rfl⟩ | ⟨_, tray', held', built'⟩ | ⟨_, mesh'⟩
    · cases kind
    · rw [kind_tray built'] at kind
      cases kind
    · exact mesh_eq_of_shared rt mesh mesh' inside inside'

/-- Two devices of one kind are apart. -/
theorem apart_of_kind (distinct : topo.ChipIdsDistinct) {device other : Device}
    (published : device ∈ (poolOf (applyTopology rt p topo).1 p.nodeName).devices)
    (published' : other ∈ (poolOf (applyTopology rt p topo).1 p.nodeName).devices)
    (kind : (applyTopology rt p topo).2.kindOf device = (applyTopology rt p topo).2.kindOf other)
    (different : device ≠ other) : Scheme.Apart (applyTopology rt p topo).2.Covers device other := by
  obtain ⟨unit, member⟩ := mem_published rt p published
  obtain ⟨unit', member'⟩ := mem_published rt p published'
  unfold Profile.kindOf at kind
  rw [unitByDevice_applyTopology rt p distinct member, unitByDevice_applyTopology rt p distinct member'] at kind
  rintro chip ⟨bundle, inside, rfl⟩ ⟨bundle', inside', same⟩
  rw [bundlesOf_applyTopology rt p distinct member] at inside
  rw [bundlesOf_applyTopology rt p distinct member'] at inside'
  have one : bundle' = bundle := hostBundle_eq_of_chipId rt distinct
    (enumerate_inside rt p member' inside') (enumerate_inside rt p member inside) same
  exact different (congrArg Prod.fst (entry_eq_of_kind rt p member member'
    (Option.some.inj kind) inside (one ▸ inside')))

end Kinds

/-- **Published devices can be allocated together exactly when no two cover the same MMIO chip**, in
whatever order; all devices of one kind can. -/
theorem allocated_together (rt : Runtime) (nodeName : String) (opts : Options)
    (topo : HostPhysicalTopology) (distinct : topo.ChipIdsDistinct) :
    let applied := applyTopology rt (newProfile nodeName opts) topo
    let scheduler := counterPool (poolOf applied.1 nodeName)
    ∀ devices, devices ⊆ scheduler.listed →
      (Run scheduler.Step [] (devices.map .allocate) devices ↔
        devices.Pairwise fun device other => ∀ bundle ∈ applied.2.bundlesOf device,
          ∀ bundle' ∈ applied.2.bundlesOf other, bundle.mmio.chipId ≠ bundle'.mmio.chipId) ∧
      ∀ kind, devices.Nodup → (∀ device ∈ devices, applied.2.kindOf device = some kind) →
        Run scheduler.Step [] (devices.map .allocate) devices := by
  intro applied scheduler devices listed
  have scheme : Scheme scheduler applied.2.Covers :=
    published_scheme rt (newProfile nodeName opts) distinct
  rw [scheme.run_allocate_iff listed]
  constructor
  · refine List.Pairwise.iff fun device other => ?_
    constructor
    · intro apart bundle inside bundle' inside' same
      exact apart bundle.chipId ⟨bundle, inside, rfl⟩ ⟨bundle', inside', same.symm⟩
    · rintro apart chip ⟨bundle, inside, rfl⟩ ⟨bundle', inside', same⟩
      exact apart bundle inside bundle' inside' same.symm
  · intro kind nodup kinds
    refine nodup.imp_of_mem fun {device other} inside inside' different => ?_
    exact apart_of_kind rt (newProfile nodeName opts) distinct (listed inside) (listed inside')
      ((kinds device inside).trans (kinds other inside').symm) different

/-- Both trays of the host at once. -/
theorem twoTrayHost_together :
    let applied := applyTopology Runtime.plain (newProfile "node" ⟨true, true⟩) twoTrayHost
    let scheduler := counterPool (poolOf applied.1 "node")
    let trays := scheduler.listed.filter fun device => applied.2.kindOf device = some .tray
    twoTrayHost.ChipIdsDistinct ∧ trays.map Device.name = ["tt-tray-1", "tt-tray-2"] ∧
      Run scheduler.Step [] (trays.map .allocate) trays := by
  intro applied scheduler trays
  refine ⟨by decide, by decide +kernel, ?_⟩
  refine (allocated_together Runtime.plain "node" ⟨true, true⟩ twoTrayHost (by decide) trays
    (List.filter_subset_self _)).2 .tray ?_ fun device inside => of_decide_eq_true (List.mem_filter.mp inside).2
  exact List.Nodup.filter _ (by decide +kernel)

end DraDriver.Tenstorrent
