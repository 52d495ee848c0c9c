/-
**Mesh devices.**

`mesh.go` transcribes the `4x2_Mesh_horizontal` groupings of a Blackhole Galaxy rev C and publishes
each one whose slots resolve to separately allocatable chips of the right board that are linked as
the grid says.

* `MeshIndex.lookup_spec` — a slot resolves to a bundle anchored at its tray and shifted location.
* `resolveMesh_spec` — the members of a resolved mesh, one a slot, in slot order.
* **`resolveMesh_nodup`** — distinct slots resolve to distinct bundles.
* **`meshNames_nodup`** — the published meshes of one host are named for different origin chips.
-/

import DraDriver.Tenstorrent.Devices

namespace DraDriver.Tenstorrent

open DraDriver.Base DraDriver.FabricManager

/-! ### Groupings -/

/-- One position of a mesh: a tray and a 1-based location on it. -/
structure MeshSlot where
  trayID : UInt32
  asicLocation : UInt32
  deriving DecidableEq, Repr

/-- One grouping: a named grid with its slots in row-major order. -/
structure MeshDefinition where
  name : String
  slug : String
  rows : ℕ
  cols : ℕ
  slots : List MeshSlot
  deriving DecidableEq, Repr

/-- The shape of a grid, rows first. -/
def MeshDefinition.shape (definition : MeshDefinition) : String :=
  decimal definition.rows ++ "x" ++ decimal definition.cols

/-- The HALFTRAY_2 quadrant stacked on the HALFTRAY_1 quadrant. -/
def stackQuadrants (topTray : UInt32) (top : List UInt32) (bottomTray : UInt32)
    (bottom : List UInt32) : MeshDefinition :=
  { name := "4x2_Mesh_horizontal"
    slug := "4x2h"
    rows := 4
    cols := 2
    slots := (top.map fun loc => { trayID := topTray, asicLocation := loc }) ++
      bottom.map fun loc => { trayID := bottomTray, asicLocation := loc } }

/-- The groupings of a Blackhole Galaxy, revision C. -/
def bhGalaxyRevCMeshes : List MeshDefinition :=
  [stackQuadrants 2 [1, 2, 5, 6] 1 [5, 6, 1, 2],
    stackQuadrants 2 [3, 4, 7, 8] 1 [7, 8, 3, 4],
    stackQuadrants 4 [4, 3, 8, 7] 3 [8, 7, 4, 3],
    stackQuadrants 4 [2, 1, 6, 5] 3 [6, 5, 2, 1]]

/-- The groupings a host is checked for. -/
def meshDefinitionsFor (topo : HostPhysicalTopology) : List MeshDefinition :=
  if (topo.quirks.map HostTopologyQuirks.isBhGlxRevC).getD false then bhGalaxyRevCMeshes else []

/-! ### Slots and links -/

/-- The bundles by slot, and the lowest location the agent reports. -/
structure MeshIndex where
  bySlot : GoMap MeshSlot HostBundle
  locationBase : UInt32

/-- The slot a bundle serves: its anchor's tray and location as the agent reports them. -/
def HostBundle.slot (bundle : HostBundle) : MeshSlot :=
  { trayID := bundle.mmio.trayId, asicLocation := bundle.mmio.asicLocation }

/-- The index of a host's bundles. -/
def newMeshIndex (bundles : List HostBundle) : MeshIndex :=
  match bundles with
  | [] => { bySlot := ∅, locationBase := 0 }
  | first :: _ =>
    { bySlot := bundles.foldl (fun bySlot bundle => bySlot.insert bundle.slot bundle) ∅
      locationBase := bundles.foldl (fun base bundle =>
        if bundle.mmio.asicLocation < base then bundle.mmio.asicLocation else base)
          first.mmio.asicLocation }

/-- The reported location of a descriptor slot, in `uint32` arithmetic. -/
def MeshIndex.wireSlot (index : MeshIndex) (slot : MeshSlot) : MeshSlot :=
  { trayID := slot.trayID, asicLocation := slot.asicLocation - 1 + index.locationBase }

/-- The bundle at a slot of a grouping. -/
def MeshIndex.lookup (index : MeshIndex) (slot : MeshSlot) : Option HostBundle :=
  index.bySlot.lookup (index.wireSlot slot)

/-- The pairs of ASICs that some local connection joins, each held once. -/
abbrev LinkSet := GoMap (UInt64 × UInt64) Unit

/-- A link without its direction. -/
def linkKey (a b : UInt64) : UInt64 × UInt64 := if b < a then (b, a) else (a, b)

/-- The links of a host. -/
def newLinkSet (topo : HostPhysicalTopology) : LinkSet :=
  topo.localConnections.foldl (fun links conn => links.insert (linkKey conn.srcAsicId conn.dstAsicId) ())
    ∅

/-- Two ASICs are linked. -/
def LinkSet.linked (links : LinkSet) (a b : UInt64) : Bool := (links.lookup (linkKey a b)).isSome

/-! ### Resolving a mesh -/

/-- The outcome of the adjacency check; an index past the members is where the source would
panic. -/
inductive NeighbourCheck
  | linked
  | gap (i j : ℕ)
  | outOfRange (i j : ℕ)
  deriving DecidableEq, Repr

/-- The right-hand neighbour of position `i` and the one below it. -/
def neighboursOf (definition : MeshDefinition) (i : ℕ) : List ℕ :=
  (if i % definition.cols + 1 < definition.cols then [i + 1] else []) ++
    if i / definition.cols + 1 < definition.rows then [i + definition.cols] else []

/-- Whether the members at two positions are linked. -/
def checkPair (members : List HostBundle) (links : LinkSet) (i j : ℕ) : NeighbourCheck :=
  match members[i]?, members[j]? with
  | some a, some b =>
    if links.linked a.mmio.uniqueId b.mmio.uniqueId then .linked else .gap i j
  | _, _ => .outOfRange i j

/-- The first adjacent pair that is not linked, in the order the source visits them. -/
def unlinkedNeighbours (definition : MeshDefinition) (members : List HostBundle) (links : LinkSet) :
    NeighbourCheck :=
  let pairs := (List.range members.length).flatMap fun i =>
    (neighboursOf definition i).map fun j => (i, j)
  (pairs.map fun pair => checkPair members links pair.1 pair.2).foldr
    (fun check rest => if check = .linked then rest else check) .linked

/-- The members of a grouping: every slot served by a Galaxy board, and all neighbours linked. -/
def resolveMesh (definition : MeshDefinition) (index : MeshIndex) (links : LinkSet) :
    Option (List HostBundle) := do
  let members ← definition.slots.mapM index.lookup
  if members.any fun bundle => boardNameFor bundle.mmio.boardType ≠ "galaxy-blackhole" then none
  else if unlinkedNeighbours definition members links = .linked then some members
  else none

/-- The host-local chip ids, in mesh order. -/
def chipIDList (bundles : List HostBundle) : String :=
  joinAttrList (bundles.map fun bundle => decimal bundle.mmio.chipId.toNat)

/-- The distinct trays, in order of first appearance. -/
def trayIDList (bundles : List HostBundle) : String :=
  let trays := bundles.foldl (fun seen bundle =>
    if bundle.mmio.trayId ∈ seen then seen else seen ++ [bundle.mmio.trayId]) []
  joinAttrList (trays.map fun trayID => decimal trayID.toNat)

/-- The device of a resolved mesh, named for its origin chip. -/
def meshDevice (definition : MeshDefinition) (origin : HostBundle) (members : List HostBundle)
    (consumption : List DeviceCounterConsumption) : Device :=
  { name := deviceNameForMesh definition.slug origin.mmio.chipId
    consumesCounters := consumption
    attributes :=
      [("vendor", .string vendor),
        ("unit", .string UnitKind.mesh.text),
        ("meshName", .string definition.name),
        ("meshShape", .string definition.shape),
        ("meshRows", .int definition.rows),
        ("meshCols", .int definition.cols),
        ("chipIDs", .string (chipIDList members)),
        ("trayIDs", .string (trayIDList members)),
        ("uniqueID", .string (decimal origin.mmio.uniqueId.toNat)),
        ("boardType", .int origin.mmio.boardType.toNat),
        ("boardName", .string (boardNameFor origin.mmio.boardType)),
        ("chipArch", .string origin.mmio.chipArch),
        ("chipCount", .int (chipCount members)),
        ("chipDeviceCount", .int members.length)]
    memory := memoryCapacity members }

/-- One turn of the mesh loop: the device of a grouping with the unit it resolves to. The source
reads the origin as `members[0]`, which every grouping has. -/
def buildMesh (index : MeshIndex) (links : LinkSet) (layout : CounterLayout)
    (definition : MeshDefinition) : Option (Device × AllocatableUnit) := do
  let members ← resolveMesh definition index links
  let origin ← members.head?
  let consumption ← chipCounterConsumption layout members
  return (meshDevice definition origin members consumption,
    { kind := .mesh, trayID := origin.mmio.trayId, bundles := members })

/-- The mesh devices of a host; without a link there is none. -/
def buildMeshDevices (topo : HostPhysicalTopology) (bundles : List HostBundle)
    (layout : CounterLayout) : List (Device × AllocatableUnit) :=
  let links := newLinkSet topo
  if links.keys.length = 0 then []
  else (meshDefinitionsFor topo).filterMap (buildMesh (newMeshIndex bundles) links layout)

/-! ### What a slot resolves to -/

/-- **A slot resolves to a bundle anchored at its tray and shifted location.** -/
theorem MeshIndex.lookup_spec {bundles : List HostBundle} {slot : MeshSlot} {bundle : HostBundle}
    (found : (newMeshIndex bundles).lookup slot = some bundle) :
    bundle ∈ bundles ∧ bundle.slot = (newMeshIndex bundles).wireSlot slot := by
  unfold MeshIndex.lookup at found
  cases bundles with
  | nil => cases found
  | cons first rest =>
    have listed : ∃ anchored ∈ first :: rest, anchored.slot = _ ∧ id anchored = bundle :=
      lookup_fill_sound found
    obtain ⟨anchored, member, same, rfl⟩ := listed
    exact ⟨member, same⟩

theorem MeshIndex.wireSlot_inj (index : MeshIndex) {slot slot' : MeshSlot}
    (same : index.wireSlot slot = index.wireSlot slot') : slot = slot' := by
  obtain ⟨tray, loc⟩ := slot
  obtain ⟨tray', loc'⟩ := slot'
  simp only [MeshIndex.wireSlot, MeshSlot.mk.injEq, UInt32.add_left_inj, UInt32.sub_left_inj] at same
  rw [same.1, same.2]

/-- The members of a resolved mesh, one a slot and in slot order. -/
theorem resolveMesh_spec {definition : MeshDefinition} {bundles : List HostBundle} {links : LinkSet}
    {members : List HostBundle}
    (resolved : resolveMesh definition (newMeshIndex bundles) links = some members) :
    List.Forall₂ (fun slot bundle => bundle ∈ bundles ∧
      bundle.slot = (newMeshIndex bundles).wireSlot slot) definition.slots members := by
  unfold resolveMesh at resolved
  obtain ⟨found, lookups, rest⟩ := Option.bind_eq_some_iff.mp resolved
  have same : found = members := by
    split at rest
    · cases rest
    · split at rest
      · exact Option.some.inj rest
      · cases rest
  subst same
  exact (mapM_eq_some_iff.mp lookups).imp fun slot bundle here => MeshIndex.lookup_spec here

theorem resolveMesh_subset {definition : MeshDefinition} {bundles : List HostBundle}
    {links : LinkSet} {members : List HostBundle}
    (resolved : resolveMesh definition (newMeshIndex bundles) links = some members) :
    members ⊆ bundles := by
  have spec := resolveMesh_spec resolved
  intro bundle member
  clear resolved
  generalize definition.slots = slots at spec
  induction spec with
  | nil => cases member
  | cons here _ ih =>
    rcases List.mem_cons.mp member with rfl | member
    · exact here.1
    · exact ih member

/-- The slots the members serve are the wire slots of the grouping. -/
theorem resolveMesh_slots {definition : MeshDefinition} {bundles : List HostBundle}
    {links : LinkSet} {members : List HostBundle}
    (resolved : resolveMesh definition (newMeshIndex bundles) links = some members) :
    members.map HostBundle.slot = definition.slots.map (newMeshIndex bundles).wireSlot := by
  have spec := resolveMesh_spec resolved
  clear resolved
  generalize definition.slots = slots at spec
  induction spec with
  | nil => rfl
  | cons here _ ih => rw [List.map_cons, List.map_cons, ih, here.2]

/-- **Distinct slots resolve to distinct bundles.** -/
theorem resolveMesh_nodup {definition : MeshDefinition} {bundles : List HostBundle}
    {links : LinkSet} {members : List HostBundle} (distinct : definition.slots.Nodup)
    (resolved : resolveMesh definition (newMeshIndex bundles) links = some members) :
    members.Nodup := by
  have slots : (members.map HostBundle.slot).Nodup := by
    rw [resolveMesh_slots resolved]
    exact distinct.map fun _ _ same => (newMeshIndex bundles).wireSlot_inj same
  exact slots.of_map

/-- The origin of a resolved mesh serves the grouping's first slot. -/
theorem resolveMesh_origin {definition : MeshDefinition} {bundles : List HostBundle}
    {links : LinkSet} {members : List HostBundle} {origin : HostBundle}
    (resolved : resolveMesh definition (newMeshIndex bundles) links = some members)
    (first : members.head? = some origin) :
    definition.slots.head?.map (newMeshIndex bundles).wireSlot = some origin.slot := by
  have slots := congrArg List.head? (resolveMesh_slots resolved)
  rw [List.head?_map, List.head?_map, first] at slots
  exact slots.symm

/-! ### The published meshes -/

theorem mem_buildMeshDevices_iff {topo : HostPhysicalTopology} {bundles : List HostBundle}
    {layout : CounterLayout} {entry : Device × AllocatableUnit} :
    entry ∈ buildMeshDevices topo bundles layout ↔
      (newLinkSet topo).keys.length ≠ 0 ∧ ∃ definition ∈ meshDefinitionsFor topo,
        buildMesh (newMeshIndex bundles) (newLinkSet topo) layout definition = some entry := by
  unfold buildMeshDevices
  by_cases none : (newLinkSet topo).keys.length = 0
  · simp only [none, if_true, List.not_mem_nil, ne_eq, not_true_eq_false, false_and]
  · simp only [none, if_false, List.mem_filterMap, ne_eq, not_false_eq_true, true_and]

theorem mem_buildMeshDevices {topo : HostPhysicalTopology} {bundles : List HostBundle}
    {layout : CounterLayout} {device : Device} {unit : AllocatableUnit}
    (member : (device, unit) ∈ buildMeshDevices topo bundles layout) :
    ∃ definition ∈ meshDefinitionsFor topo,
      buildMesh (newMeshIndex bundles) (newLinkSet topo) layout definition = some (device, unit) :=
  (mem_buildMeshDevices_iff.mp member).2

/-- What one published mesh is made of. -/
theorem buildMesh_eq_some {index : MeshIndex} {links : LinkSet} {layout : CounterLayout}
    {definition : MeshDefinition} {device : Device} {unit : AllocatableUnit} :
    buildMesh index links layout definition = some (device, unit) ↔
    ∃ members origin consumption, resolveMesh definition index links = some members ∧
      members.head? = some origin ∧ chipCounterConsumption layout members = some consumption ∧
      device = meshDevice definition origin members consumption ∧
      unit = { kind := .mesh, trayID := origin.mmio.trayId, bundles := members } := by
  unfold buildMesh
  constructor
  · intro built
    obtain ⟨members, resolved, built⟩ := Option.bind_eq_some_iff.mp built
    obtain ⟨origin, first, built⟩ := Option.bind_eq_some_iff.mp built
    obtain ⟨consumption, declared, built⟩ := Option.bind_eq_some_iff.mp built
    cases built
    exact ⟨members, origin, consumption, resolved, first, declared, rfl, rfl⟩
  · rintro ⟨members, origin, consumption, resolved, first, declared, rfl, rfl⟩
    rw [resolved]
    refine Option.bind_eq_some_iff.mpr ⟨members, rfl, ?_⟩
    rw [first, declared]
    rfl

theorem buildMesh_spec {index : MeshIndex} {links : LinkSet} {layout : CounterLayout}
    {definition : MeshDefinition} {device : Device} {unit : AllocatableUnit}
    (built : buildMesh index links layout definition = some (device, unit)) :
    ∃ members origin consumption, resolveMesh definition index links = some members ∧
      members.head? = some origin ∧ chipCounterConsumption layout members = some consumption ∧
      device = meshDevice definition origin members consumption ∧
      unit = { kind := .mesh, trayID := origin.mmio.trayId, bundles := members } :=
  buildMesh_eq_some.mp built

theorem meshDefinitionsFor_subset (topo : HostPhysicalTopology) :
    meshDefinitionsFor topo ⊆ bhGalaxyRevCMeshes := by
  unfold meshDefinitionsFor
  split
  · exact List.Subset.refl _
  · exact List.nil_subset _

theorem meshSlots_nodup : ∀ definition ∈ bhGalaxyRevCMeshes, definition.slots.Nodup := by
  decide

theorem meshSlugs_same : ∀ definition ∈ bhGalaxyRevCMeshes, definition.slug = "4x2h" := by
  decide

/-- The groupings of one host start in different slots. -/
theorem meshFirstSlots_apart :
    bhGalaxyRevCMeshes.Pairwise fun a b => a.slots.head? ≠ b.slots.head? := by
  decide

/-- **Two published meshes of one host are named for different origin chips.** -/
theorem meshNames_nodup (topo : HostPhysicalTopology) (bundles : List HostBundle)
    (layout : CounterLayout) (distinct : (bundles.map HostBundle.chipId).Nodup) :
    ((buildMeshDevices topo bundles layout).map fun entry => entry.1.name).Nodup := by
  unfold buildMeshDevices
  simp only
  split
  · exact List.nodup_nil
  · have apart : (meshDefinitionsFor topo).Pairwise fun a b => a.slots.head? ≠ b.slots.head? := by
      unfold meshDefinitionsFor
      split
      · exact meshFirstSlots_apart
      · exact List.Pairwise.nil
    refine List.pairwise_map.mpr (List.pairwise_filterMap.mpr ?_)
    refine (List.Pairwise.and_mem.mp apart).imp ?_
    rintro a b ⟨inA, inB, ne⟩ ⟨deviceA, unitA⟩ builtA ⟨deviceB, unitB⟩ builtB same
    obtain ⟨membersA, originA, consumptionA, resolvedA, firstA, -, rfl, -⟩ := buildMesh_spec builtA
    obtain ⟨membersB, originB, consumptionB, resolvedB, firstB, -, rfl, -⟩ := buildMesh_spec builtB
    simp only [meshDevice, meshSlugs_same a (meshDefinitionsFor_subset topo inA),
      meshSlugs_same b (meshDefinitionsFor_subset topo inB)] at same
    have sameChip : originA.chipId = originB.chipId := deviceNameForMesh_inj same
    have inBundles : originA ∈ bundles ∧ originB ∈ bundles :=
      ⟨resolveMesh_subset resolvedA (List.mem_of_mem_head? firstA),
        resolveMesh_subset resolvedB (List.mem_of_mem_head? firstB)⟩
    have sameOrigin : originA = originB :=
      List.inj_on_of_nodup_map distinct inBundles.1 inBundles.2 sameChip
    have slotA := resolveMesh_origin resolvedA firstA
    have slotB := resolveMesh_origin resolvedB firstB
    rw [sameOrigin, ← slotB] at slotA
    exact ne (Option.map_injective (fun _ _ same => (newMeshIndex bundles).wireSlot_inj same) slotA)

end DraDriver.Tenstorrent
