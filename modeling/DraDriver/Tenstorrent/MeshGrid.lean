/-
**When a grouping resolves.**

`Wired topo definition anchors base chips` is what a mesh is for, in exact arithmetic and without
maps or loops: one MMIO chip of `anchors` a slot, at the slot's tray and location counted from
`base`, all of one board, and any two at grid distance one joined by a local connection.

* `lookup_iff` — a slot resolves to the bundle anchored there, `uint32` wrap-around or not.
* `unlinked_iff` — the loop over right and lower neighbours checks every pair at distance one.
* **`resolveMesh_iff`** — a grouping resolves to exactly the bundles whose anchors are wired so.
* **`mesh_resolution`** — that, and which meshes `buildMeshDevices` publishes.
-/

import DraDriver.Base.Grid
import DraDriver.Tenstorrent.TraySets

namespace DraDriver.Tenstorrent

open DraDriver.Base DraDriver.FabricManager

/-! ### The abstract mesh -/

/-- A grouping that is a grid of distinct slots, with locations counted from one. -/
structure MeshDefinition.IsGrid (definition : MeshDefinition) : Prop where
  rows : 1 ≤ definition.rows
  cols : 1 ≤ definition.cols
  size : definition.slots.length = definition.rows * definition.cols
  distinct : definition.slots.Nodup
  based : ∀ slot ∈ definition.slots, 1 ≤ slot.asicLocation.toNat

/-- The lowest location of some chips. -/
structure Lowest (anchors : List AsicInfo) (base : ℕ) : Prop where
  attained : ∃ chip ∈ anchors, chip.asicLocation.toNat = base
  least : ∀ chip ∈ anchors, base ≤ chip.asicLocation.toNat

/-- A chip sits where the slot says, its location counted from `base`. -/
def Serves (base : ℕ) (slot : MeshSlot) (chip : AsicInfo) : Prop :=
  chip.trayId = slot.trayID ∧ chip.asicLocation.toNat = slot.asicLocation.toNat - 1 + base

/-- Some local connection joins the two chips, in either direction. -/
def Joined (topo : HostPhysicalTopology) (a b : UInt64) : Prop :=
  ∃ conn ∈ topo.localConnections,
    conn.srcAsicId = a ∧ conn.dstAsicId = b ∨ conn.srcAsicId = b ∧ conn.dstAsicId = a

/-- **Chips wired as a grouping says**, in slot order. -/
structure Wired (topo : HostPhysicalTopology) (definition : MeshDefinition) (anchors : List AsicInfo)
    (base : ℕ) (chips : List AsicInfo) : Prop where
  inside : chips ⊆ anchors
  served : List.Forall₂ (Serves base) definition.slots chips
  board : ∀ chip ∈ chips, boardNameFor chip.boardType = "galaxy-blackhole"
  linked : ∀ i j a b, gridDistance definition.cols i j = 1 → chips[i]? = some a →
    chips[j]? = some b → Joined topo a.uniqueId b.uniqueId

theorem Lowest.unique {anchors : List AsicInfo} {base base' : ℕ} (lowest : Lowest anchors base)
    (lowest' : Lowest anchors base') : base = base' := by
  obtain ⟨chip, member, same⟩ := lowest.attained
  obtain ⟨chip', member', same'⟩ := lowest'.attained
  exact le_antisymm (same' ▸ lowest.least chip' member') (same ▸ lowest'.least chip member)

theorem Joined.symm {topo : HostPhysicalTopology} {a b : UInt64} (joined : Joined topo a b) :
    Joined topo b a := by
  obtain ⟨conn, member, ends⟩ := joined
  exact ⟨conn, member, ends.symm⟩

/-! ### Links -/

theorem linkKey_eq_iff {a b c d : UInt64} :
    linkKey a b = linkKey c d ↔ a = c ∧ b = d ∨ a = d ∧ b = c := by
  unfold linkKey
  have antisymm : ∀ {x y : UInt64}, ¬ y < x → ¬ x < y → x = y := fun first second =>
    UInt64.le_antisymm (UInt64.not_lt.mp first) (UInt64.not_lt.mp second)
  constructor
  · intro same
    split at same <;> split at same <;> obtain ⟨rfl, rfl⟩ := Prod.mk.inj same
    · exact Or.inl ⟨rfl, rfl⟩
    · exact Or.inr ⟨rfl, rfl⟩
    · exact Or.inr ⟨rfl, rfl⟩
    · exact Or.inl ⟨rfl, rfl⟩
  · rintro (⟨rfl, rfl⟩ | ⟨rfl, rfl⟩)
    · rfl
    · split <;> split
      · rename_i first second
        exact absurd (UInt64.lt_trans first second) (UInt64.lt_irrefl _)
      · rfl
      · rfl
      · rename_i first second
        cases antisymm first second
        rfl

/-- The link set holds the joined pairs. -/
theorem linked_iff (topo : HostPhysicalTopology) (a b : UInt64) :
    (newLinkSet topo).linked a b = true ↔ Joined topo a b := by
  have filled : linkKey a b ∈ newLinkSet topo ↔ linkKey a b ∈ (∅ : LinkSet) ∨
      linkKey a b ∈ topo.localConnections.map fun conn => linkKey conn.srcAsicId conn.dstAsicId :=
    mem_fill
  rw [LinkSet.linked, AList.lookup_isSome, filled, or_iff_right (AList.notMem_empty _), List.mem_map]
  exact exists_congr fun conn => and_congr_right fun _ => linkKey_eq_iff

/-- There is something to check exactly when some connection is reported. -/
theorem links_none_iff (topo : HostPhysicalTopology) :
    (newLinkSet topo).keys.length = 0 ↔ ∀ a b, ¬ Joined topo a b := by
  constructor
  · intro none a b joined
    have inside := AList.lookup_isSome.mp ((linked_iff topo a b).mpr joined)
    rw [AList.mem_keys, List.length_eq_zero_iff.mp none] at inside
    cases inside
  · intro none
    cases conns : topo.localConnections with
    | nil =>
      unfold newLinkSet
      rw [conns]
      rfl
    | cons conn rest =>
      exact absurd ⟨conn, by rw [conns]; exact List.mem_cons_self, Or.inl ⟨rfl, rfl⟩⟩
        (none conn.srcAsicId conn.dstAsicId)

/-! ### Slots -/

/-- The loop for the base finds the lowest of the locations and its start value. -/
theorem foldl_lowest : ∀ (bundles : List HostBundle) (base : UInt32), ∃ lowest,
    bundles.foldl (fun base bundle =>
      if bundle.mmio.asicLocation < base then bundle.mmio.asicLocation else base) base = lowest ∧
    (lowest = base ∨ ∃ bundle ∈ bundles, bundle.mmio.asicLocation = lowest) ∧
    lowest.toNat ≤ base.toNat ∧ ∀ bundle ∈ bundles, lowest.toNat ≤ bundle.mmio.asicLocation.toNat
  | [], base => ⟨base, rfl, Or.inl rfl, le_rfl, fun _ member => by cases member⟩
  | bundle :: bundles, base => by
    rw [List.foldl_cons]
    by_cases lower : bundle.mmio.asicLocation < base
    · rw [if_pos lower]
      obtain ⟨lowest, folded, attained, below, least⟩ := foldl_lowest bundles bundle.mmio.asicLocation
      have lower' := UInt32.lt_iff_toNat_lt.mp lower
      refine ⟨lowest, folded, Or.inr ?_, by omega, ?_⟩
      · rcases attained with same | ⟨other, member, same⟩
        · exact ⟨bundle, List.mem_cons_self, same.symm⟩
        · exact ⟨other, List.mem_cons_of_mem _ member, same⟩
      · exact List.forall_mem_cons.mpr ⟨below, least⟩
    · rw [if_neg lower]
      obtain ⟨lowest, folded, attained, below, least⟩ := foldl_lowest bundles base
      have above := UInt32.le_iff_toNat_le.mp (UInt32.not_lt.mp lower)
      refine ⟨lowest, folded, attained.imp_right ?_, below,
        List.forall_mem_cons.mpr ⟨by omega, least⟩⟩
      rintro ⟨other, member, same⟩
      exact ⟨other, List.mem_cons_of_mem _ member, same⟩

/-- **The base of an index is the lowest anchor location.** -/
theorem locationBase_lowest {bundles : List HostBundle} (some : bundles ≠ []) :
    Lowest (bundles.map HostBundle.mmio) (newMeshIndex bundles).locationBase.toNat := by
  cases bundles with
  | nil => exact absurd rfl some
  | cons first rest =>
    obtain ⟨lowest, folded, attained, -, least⟩ :=
      foldl_lowest (first :: rest) first.mmio.asicLocation
    have base : (newMeshIndex (first :: rest)).locationBase = lowest := folded
    rw [base]
    refine ⟨?_, ?_⟩
    · rcases attained with same | ⟨bundle, member, same⟩
      · exact ⟨first.mmio, List.mem_map_of_mem List.mem_cons_self, congrArg UInt32.toNat same.symm⟩
      · exact ⟨bundle.mmio, List.mem_map_of_mem member, congrArg UInt32.toNat same⟩
    · intro chip member
      obtain ⟨bundle, inside, rfl⟩ := List.mem_map.mp member
      exact least bundle inside

/-- Above the base the `uint32` sum is the exact one: a sum that wraps lands below the base. -/
theorem wire_location {slot base location : UInt32} (based : 1 ≤ slot.toNat)
    (above : base.toNat ≤ location.toNat) :
    location = slot - 1 + base ↔ location.toNat = slot.toNat - 1 + base.toNat := by
  have bounds := slot.toNat_lt
  have bounds' := location.toNat_lt
  have one : (1 : UInt32).toNat = 1 := rfl
  rw [← UInt32.toNat_inj, UInt32.toNat_add, UInt32.toNat_sub, one]
  omega

/-- A bundle at the wire slot sits where the slot says. -/
theorem slot_eq_iff {bundles : List HostBundle} {bundle : HostBundle} (member : bundle ∈ bundles)
    {slot : MeshSlot} (based : 1 ≤ slot.asicLocation.toNat) :
    bundle.slot = (newMeshIndex bundles).wireSlot slot ↔
      Serves (newMeshIndex bundles).locationBase.toNat slot bundle.mmio := by
  have lowest := locationBase_lowest (List.ne_nil_of_mem member)
  unfold HostBundle.slot MeshIndex.wireSlot Serves
  rw [MeshSlot.mk.injEq, wire_location based (lowest.least _ (List.mem_map_of_mem member))]

/-- **A slot resolves to the bundle anchored where it says.** -/
theorem lookup_iff {bundles : List HostBundle} (distinct : (bundles.map HostBundle.slot).Nodup)
    {slot : MeshSlot} (based : 1 ≤ slot.asicLocation.toNat) {bundle : HostBundle} :
    (newMeshIndex bundles).lookup slot = some bundle ↔
      bundle ∈ bundles ∧ Serves (newMeshIndex bundles).locationBase.toNat slot bundle.mmio := by
  constructor
  · intro found
    obtain ⟨member, same⟩ := MeshIndex.lookup_spec found
    exact ⟨member, (slot_eq_iff member based).mp same⟩
  · rintro ⟨member, serves⟩
    have same := (slot_eq_iff member based).mpr serves
    unfold MeshIndex.lookup
    rw [← same]
    cases bundles with
    | nil => cases member
    | cons first rest => exact (lookup_fill distinct).mpr ⟨bundle, member, rfl, rfl⟩

/-! ### Neighbours -/

/-- The check reports the first pair that fails it. -/
theorem firstFailure (checks : List NeighbourCheck) :
    checks.foldr (fun check rest => if check = .linked then rest else check) .linked = .linked ∧
        (∀ check ∈ checks, check = .linked) ∨
      checks.foldr (fun check rest => if check = .linked then rest else check) .linked ∈ checks ∧
        checks.foldr (fun check rest => if check = .linked then rest else check) .linked ≠ .linked := by
  induction checks with
  | nil => exact Or.inl ⟨rfl, fun _ member => by cases member⟩
  | cons check checks ih =>
    rw [List.foldr_cons]
    by_cases linked : check = .linked
    · rw [if_pos linked]
      rcases ih with ⟨all, each⟩ | ⟨member, fails⟩
      · exact Or.inl ⟨all, List.forall_mem_cons.mpr ⟨linked, each⟩⟩
      · exact Or.inr ⟨List.mem_cons_of_mem _ member, fails⟩
    · rw [if_neg linked]
      exact Or.inr ⟨List.mem_cons_self, linked⟩

theorem mem_neighboursOf {definition : MeshDefinition} {i j : ℕ} :
    j ∈ neighboursOf definition i ↔
      i % definition.cols + 1 < definition.cols ∧ j = i + 1 ∨
        i / definition.cols + 1 < definition.rows ∧ j = i + definition.cols := by
  unfold neighboursOf
  rw [List.mem_append]
  refine or_congr ?_ ?_
  · by_cases room : i % definition.cols + 1 < definition.cols <;> simp [room]
  · by_cases room : i / definition.cols + 1 < definition.rows <;> simp [room]

section Grid

variable {definition : MeshDefinition} (grid : definition.IsGrid)

include grid

/-- The visited neighbours are the positions that follow, as far as the grid goes. -/
theorem mem_neighboursOf_iff {i j : ℕ} (inside : j < definition.rows * definition.cols) :
    j ∈ neighboursOf definition i ↔ Follows definition.cols i j := by
  rw [mem_neighboursOf]
  refine or_congr_right (and_iff_right_of_imp ?_)
  rintro rfl
  have row := (Nat.div_lt_iff_lt_mul grid.cols).mpr inside
  rwa [(below_position grid.cols).1] at row

theorem neighboursOf_lt {i j : ℕ} (inside : i < definition.rows * definition.cols)
    (next : j ∈ neighboursOf definition i) : j < definition.rows * definition.cols := by
  rcases mem_neighboursOf.mp next with ⟨room, rfl⟩ | ⟨room, rfl⟩
  · exact right_lt inside room
  · exact below_lt grid.cols room

variable {members : List HostBundle} (size : members.length = definition.rows * definition.cols)

include size

/-- The pairs the check visits. -/
theorem visited_iff {check : NeighbourCheck} {links : LinkSet} :
    check ∈ (((List.range members.length).flatMap fun i => (neighboursOf definition i).map
        fun j => (i, j)).map fun pair => checkPair members links pair.1 pair.2) ↔
      ∃ i j, i < definition.rows * definition.cols ∧ j < definition.rows * definition.cols ∧
        Follows definition.cols i j ∧ checkPair members links i j = check := by
  simp only [List.mem_map, List.mem_flatMap, List.mem_range, size]
  constructor
  · rintro ⟨pair, ⟨i, inside, j, next, rfl⟩, rfl⟩
    have below := neighboursOf_lt grid inside next
    exact ⟨i, j, inside, below, (mem_neighboursOf_iff grid below).mp next, rfl⟩
  · rintro ⟨i, j, inside, below, follows, rfl⟩
    exact ⟨(i, j), ⟨i, inside, j, (mem_neighboursOf_iff grid below).mpr follows, rfl⟩, rfl⟩

/-- The check passes, having visited every pair that follows, or reports one that fails. -/
theorem unlinkedNeighbours_cases (links : LinkSet) :
    unlinkedNeighbours definition members links = .linked ∧
        (∀ i j, i < definition.rows * definition.cols → j < definition.rows * definition.cols →
          Follows definition.cols i j → checkPair members links i j = .linked) ∨
      ∃ i j, i < definition.rows * definition.cols ∧ j < definition.rows * definition.cols ∧
        Follows definition.cols i j ∧
        checkPair members links i j = unlinkedNeighbours definition members links ∧
        unlinkedNeighbours definition members links ≠ .linked := by
  unfold unlinkedNeighbours
  rcases firstFailure (((List.range members.length).flatMap fun i => (neighboursOf definition i).map
    fun j => (i, j)).map fun pair => checkPair members links pair.1 pair.2) with
    ⟨linked, all⟩ | ⟨visited, fails⟩
  · refine Or.inl ⟨linked, fun i j inside below follows => all _ ?_⟩
    exact (visited_iff grid size).mpr ⟨i, j, inside, below, follows, rfl⟩
  · obtain ⟨i, j, inside, below, follows, same⟩ := (visited_iff grid size).mp visited
    exact Or.inr ⟨i, j, inside, below, follows, same, fails⟩

omit grid in
/-- A visited pair is there to be read. -/
theorem checkPair_inside {i j : ℕ} (inside : i < definition.rows * definition.cols)
    (below : j < definition.rows * definition.cols) (links : LinkSet) :
    ∃ a b, members[i]? = some a ∧ members[j]? = some b ∧ checkPair members links i j =
      if links.linked a.mmio.uniqueId b.mmio.uniqueId then .linked else .gap i j := by
  have first := List.getElem?_eq_getElem (size ▸ inside : i < members.length)
  have second := List.getElem?_eq_getElem (size ▸ below : j < members.length)
  refine ⟨_, _, first, second, ?_⟩
  unfold checkPair
  rw [first, second]

/-- **The adjacency check never reads past the members.** -/
theorem unlinkedNeighbours_inRange (links : LinkSet) (i j : ℕ) :
    unlinkedNeighbours definition members links ≠ .outOfRange i j := by
  intro outside
  rcases unlinkedNeighbours_cases grid size links with ⟨linked, -⟩ | ⟨i', j', inside, below, -, same, -⟩
  · cases linked.symm.trans outside
  · obtain ⟨a, b, -, -, checked⟩ := checkPair_inside size inside below links
    have result := (checked.symm.trans same).trans outside
    split at result <;> cases result

/-- **The check passes when all positions at distance one are joined**, though it only looks right
and down. -/
theorem unlinked_iff (topo : HostPhysicalTopology) :
    unlinkedNeighbours definition members (newLinkSet topo) = .linked ↔
      ∀ i j a b, gridDistance definition.cols i j = 1 → members[i]? = some a →
        members[j]? = some b → Joined topo a.mmio.uniqueId b.mmio.uniqueId := by
  have bounds : ∀ {i : ℕ} {a : HostBundle}, members[i]? = some a →
      i < definition.rows * definition.cols := fun found =>
    size ▸ (List.getElem?_eq_some_iff.mp found).1
  rcases unlinkedNeighbours_cases grid size (newLinkSet topo) with
    ⟨linked, all⟩ | ⟨i, j, inside, below, follows, same, fails⟩
  · refine iff_of_true linked ?_
    have each : ∀ i j a b, Follows definition.cols i j → members[i]? = some a →
        members[j]? = some b → Joined topo a.mmio.uniqueId b.mmio.uniqueId := by
      intro i j a b follows first second
      have checked := all i j (bounds first) (bounds second) follows
      unfold checkPair at checked
      rw [first, second] at checked
      by_contra apart
      rw [← linked_iff] at apart
      simp only [apart] at checked
      cases checked
    intro i j a b near first second
    rcases (gridDistance_eq_one_iff grid.cols).mp near with follows | follows
    · exact each i j a b follows first second
    · exact (each j i b a follows second first).symm
  · refine iff_of_false fails fun joined => fails ?_
    obtain ⟨a, b, first, second, checked⟩ :=
      checkPair_inside size inside below (newLinkSet topo)
    have near := gridDistance_of_follows grid.cols follows
    rw [if_pos ((linked_iff topo _ _).mpr (joined i j a b near first second))] at checked
    exact same.symm.trans checked

end Grid

/-! ### Resolving -/

theorem resolveMesh_eq_some {definition : MeshDefinition} {index : MeshIndex} {links : LinkSet}
    {members : List HostBundle} :
    resolveMesh definition index links = some members ↔
      definition.slots.mapM index.lookup = some members ∧
        (∀ bundle ∈ members, boardNameFor bundle.mmio.boardType = "galaxy-blackhole") ∧
        unlinkedNeighbours definition members links = .linked := by
  unfold resolveMesh
  refine Option.bind_eq_some_iff.trans ?_
  have rest : ∀ found : List HostBundle,
      (if (found.any fun bundle => boardNameFor bundle.mmio.boardType ≠ "galaxy-blackhole") = true then
        none else if unlinkedNeighbours definition found links = .linked then some found else none) =
        some members ↔ found = members ∧
          (∀ bundle ∈ found, boardNameFor bundle.mmio.boardType = "galaxy-blackhole") ∧
          unlinkedNeighbours definition found links = .linked := by
    intro found
    rw [Option.ite_none_left_eq_some, Option.ite_none_right_eq_some]
    simp only [List.any_eq_true, not_exists, not_and, Option.some.injEq, decide_eq_true_eq, ne_eq,
      not_not]
    tauto
  constructor
  · rintro ⟨found, looked, last⟩
    obtain ⟨rfl, spec⟩ := (rest found).mp last
    exact ⟨looked, spec⟩
  · rintro ⟨looked, spec⟩
    exact ⟨members, looked, (rest members).mpr ⟨rfl, spec⟩⟩

/-- Looking every slot up gives the bundles anchored there. -/
theorem lookups_iff {definition : MeshDefinition} (grid : definition.IsGrid)
    {bundles : List HostBundle} (distinct : (bundles.map HostBundle.slot).Nodup)
    {members : List HostBundle} :
    definition.slots.mapM (newMeshIndex bundles).lookup = some members ↔
      members ⊆ bundles ∧ List.Forall₂ (Serves (newMeshIndex bundles).locationBase.toNat)
        definition.slots (members.map HostBundle.mmio) := by
  have based := fun R : MeshSlot → HostBundle → Prop =>
    List.forall₂_and_left (R := R) (p := fun slot => 1 ≤ slot.asicLocation.toNat)
      definition.slots members
  rw [mapM_eq_some_iff, List.forall₂_map_right_iff]
  refine Iff.trans ?_ forall₂_and_right
  constructor
  · intro found
    refine List.Forall₂.imp ?_ ((based _).mpr ⟨grid.based, found⟩)
    exact fun slot bundle both => (lookup_iff distinct both.1).mp both.2
  · intro anchored
    refine List.Forall₂.imp ?_ ((based _).mpr ⟨grid.based, anchored⟩)
    exact fun slot bundle both => (lookup_iff distinct both.1).mpr both.2

/-- **A grouping resolves to exactly the bundles whose anchors are wired as it says**, the base
being the lowest anchor location. -/
theorem resolveMesh_iff {definition : MeshDefinition} (grid : definition.IsGrid)
    {bundles : List HostBundle} (distinct : (bundles.map HostBundle.slot).Nodup)
    (topo : HostPhysicalTopology) {members : List HostBundle} :
    resolveMesh definition (newMeshIndex bundles) (newLinkSet topo) = some members ↔
      members ⊆ bundles ∧ ∃ base, Lowest (bundles.map HostBundle.mmio) base ∧
        Wired topo definition (bundles.map HostBundle.mmio) base (members.map HostBundle.mmio) := by
  rw [resolveMesh_eq_some, lookups_iff grid distinct]
  have sized : ∀ {base : ℕ}, List.Forall₂ (Serves base) definition.slots
      (members.map HostBundle.mmio) → members.length = definition.rows * definition.cols := by
    intro base served
    rw [← grid.size, served.length_eq, List.length_map]
  have pairs : (∀ i j a b, gridDistance definition.cols i j = 1 → members[i]? = some a →
        members[j]? = some b → Joined topo a.mmio.uniqueId b.mmio.uniqueId) ↔
      ∀ i j a b, gridDistance definition.cols i j = 1 →
        (members.map HostBundle.mmio)[i]? = some a → (members.map HostBundle.mmio)[j]? = some b →
          Joined topo a.uniqueId b.uniqueId := by
    simp only [List.getElem?_map, Option.map_eq_some_iff]
    constructor
    · rintro joined i j _ _ near ⟨a, first, rfl⟩ ⟨b, second, rfl⟩
      exact joined i j a b near first second
    · intro joined i j a b near first second
      exact joined i j _ _ near ⟨a, first, rfl⟩ ⟨b, second, rfl⟩
  constructor
  · rintro ⟨⟨subset, served⟩, board, linked⟩
    have one : 0 < members.length := by
      rw [sized served]
      exact Nat.mul_pos grid.rows grid.cols
    have lowest := locationBase_lowest (List.ne_nil_of_mem (subset (List.getElem_mem one)))
    refine ⟨subset, _, lowest, List.map_subset _ subset, served, List.forall_mem_map.mpr board, ?_⟩
    exact pairs.mp ((unlinked_iff grid (sized served) topo).mp linked)
  · rintro ⟨subset, base, lowest, wired⟩
    have some : bundles ≠ [] := by
      rintro rfl
      obtain ⟨_, member, _⟩ := lowest.attained
      cases member
    have same := lowest.unique (locationBase_lowest some)
    subst same
    refine ⟨⟨subset, wired.served⟩, List.forall_mem_map.mp wired.board, ?_⟩
    exact (unlinked_iff grid (sized wired.served) topo).mpr (pairs.mpr wired.linked)

/-! ### Publishing -/

/-- The host has the quirk that the groupings are for. -/
def revC (topo : HostPhysicalTopology) : Bool :=
  (topo.quirks.map HostTopologyQuirks.isBhGlxRevC).getD false

theorem mem_meshDefinitionsFor {topo : HostPhysicalTopology} {definition : MeshDefinition} :
    definition ∈ meshDefinitionsFor topo ↔ revC topo = true ∧ definition ∈ bhGalaxyRevCMeshes := by
  have definitions : meshDefinitionsFor topo = if revC topo then bhGalaxyRevCMeshes else [] := rfl
  rw [definitions]
  by_cases quirk : revC topo = true
  · rw [if_pos quirk, and_iff_right quirk]
  · rw [if_neg quirk]
    exact iff_of_false List.not_mem_nil fun both => quirk both.1

/-- **The transcribed groupings are grids.** -/
theorem bhGalaxyRevCMeshes_isGrid {definition : MeshDefinition}
    (member : definition ∈ bhGalaxyRevCMeshes) : definition.IsGrid := by
  have all : ∀ definition ∈ bhGalaxyRevCMeshes, 1 ≤ definition.rows ∧ 1 ≤ definition.cols ∧
      definition.slots.length = definition.rows * definition.cols ∧
      ∀ slot ∈ definition.slots, 1 ≤ slot.asicLocation.toNat := by decide
  obtain ⟨rows, cols, size, based⟩ := all definition member
  exact ⟨rows, cols, size, meshSlots_nodup definition member, based⟩

/-- A grouping lies on two trays. -/
theorem bhGalaxyRevCMeshes_trays : ∀ definition ∈ bhGalaxyRevCMeshes, ∃ top bottom : UInt32,
    ∀ slot ∈ definition.slots, slot.trayID = top ∨ slot.trayID = bottom := by
  intro definition member
  have all : ∀ definition ∈ bhGalaxyRevCMeshes,
      (∀ slot ∈ definition.slots, slot.trayID = 2 ∨ slot.trayID = 1) ∨
        ∀ slot ∈ definition.slots, slot.trayID = 4 ∨ slot.trayID = 3 := by decide
  rcases all definition member with two | four
  · exact ⟨2, 1, two⟩
  · exact ⟨4, 3, four⟩

/-- A grouping that resolves has links to check. -/
theorem links_of_resolved {topo : HostPhysicalTopology} {bundles members : List HostBundle}
    {definition : MeshDefinition} (known : definition ∈ bhGalaxyRevCMeshes)
    (resolved : resolveMesh definition (newMeshIndex bundles) (newLinkSet topo) = some members) :
    (newLinkSet topo).keys.length ≠ 0 := by
  have grid := bhGalaxyRevCMeshes_isGrid known
  have wide : ∀ definition ∈ bhGalaxyRevCMeshes, definition.cols = 2 ∧
      definition.rows * definition.cols = 8 := by decide
  obtain ⟨cols, eight⟩ := wide definition known
  have size : members.length = definition.rows * definition.cols := by
    rw [← grid.size, ← (resolveMesh_spec resolved).length_eq]
  have linked := (unlinked_iff grid size topo).mp (resolveMesh_eq_some.mp resolved).2.2
  have joined := linked 0 1 _ _ (by rw [cols]; decide)
    (List.getElem?_eq_getElem (by omega)) (List.getElem?_eq_getElem (by omega))
  exact fun none => (links_none_iff topo).mp none _ _ joined

section Published

variable (rt : Runtime) {topo : HostPhysicalTopology}

/-- A mesh of these bundles is among the mesh devices of the host. -/
def MeshPublished (rt : Runtime) (topo : HostPhysicalTopology) (members : List HostBundle) : Prop :=
  ∃ entry ∈ buildMeshDevices topo (hostBundles rt topo) (buildChipCounterSets (hostTrays rt topo)),
    entry.2.bundles = members

/-- **A mesh is published when its grouping resolves and its chips lie in at most two sets.** -/
theorem meshPublished_iff (distinct : topo.MmioChipIdsDistinct) (members : List HostBundle) :
    MeshPublished rt topo members ↔ revC topo = true ∧ ∃ definition ∈ bhGalaxyRevCMeshes,
      resolveMesh definition (newMeshIndex (hostBundles rt topo)) (newLinkSet topo) = some members ∧
        (setsOf (buildChipCounterSets (hostTrays rt topo)) members).length ≤ 2 := by
  have counts := buildChipCounterSets_counts _ (hostTrays_chips_nodup rt distinct)
  have chip : ∀ bundle ∈ hostBundles rt topo, bundle.chipId ∈ Packing.chipsOf (hostTrays rt topo) :=
    fun bundle member => (mem_chipsOf_hostTrays rt topo).mpr ⟨bundle, member, rfl⟩
  have declared : ∀ {members : List HostBundle}, members ⊆ hostBundles rt topo → members ≠ [] →
      ((∃ consumption, chipCounterConsumption (buildChipCounterSets (hostTrays rt topo)) members =
        some consumption) ↔
        (setsOf (buildChipCounterSets (hostTrays rt topo)) members).length ≤ 2) := by
    intro members inside some
    obtain ⟨bundle, member⟩ := List.exists_mem_of_ne_nil _ some
    rw [← Option.isSome_iff_exists, chipCounterConsumption_isSome_iff,
      or_iff_right (counts.sets_ne_nil (chip bundle (inside member)))]
    · rfl
    · intro bundle member
      obtain ⟨set, _, held, _⟩ := counts.home _ (chip bundle (inside member))
      exact Option.isSome_iff_exists.mpr ⟨_, held⟩
  constructor
  · rintro ⟨⟨device, unit⟩, member, rfl⟩
    obtain ⟨definition, known, built⟩ := mem_buildMeshDevices member
    obtain ⟨quirk, known⟩ := mem_meshDefinitionsFor.mp known
    obtain ⟨members, origin, consumption, resolved, first, declares, -, rfl⟩ := buildMesh_spec built
    have some : members ≠ [] := by
      rintro rfl
      cases first
    exact ⟨quirk, definition, known, resolved,
      (declared (resolveMesh_subset resolved) some).mp ⟨consumption, declares⟩⟩
  · rintro ⟨quirk, definition, known, resolved, few⟩
    have grid := bhGalaxyRevCMeshes_isGrid known
    have one : 0 < members.length := by
      rw [← (resolveMesh_spec resolved).length_eq, grid.size]
      exact Nat.mul_pos grid.rows grid.cols
    have some : members ≠ [] := List.length_pos_iff.mp one
    obtain ⟨consumption, declares⟩ := (declared (resolveMesh_subset resolved) some).mpr few
    refine ⟨_, mem_buildMeshDevices_iff.mpr ⟨links_of_resolved known resolved, definition,
      mem_meshDefinitionsFor.mpr ⟨quirk, known⟩, buildMesh_eq_some.mpr ⟨members, members.head some,
        consumption, resolved, List.head?_eq_some_head some, declares, rfl, rfl⟩⟩, rfl⟩

/-- A tray of at most 32 MMIO chips has its counters in one set. -/
theorem tray_oneSet (distinct : topo.MmioChipIdsDistinct) (tray : UInt32)
    (few : (mmioOn topo tray).length ≤ 32) :
    ∃ set, ∀ bundle ∈ hostBundles rt topo, bundle.mmio.trayId = tray →
      (buildChipCounterSets (hostTrays rt topo)).setByChip.lookup bundle.chipId = some set := by
  by_cases group : ∃ group ∈ hostTrays rt topo, group.trayID = tray
  · obtain ⟨group, inside, rfl⟩ := group
    obtain ⟨first, indices⟩ := tray_sets _ (fun _ => hostTrays_nonempty rt)
      (hostTrays_chips_nodup rt distinct) inside
    have one : Packing.setsFor group.bundles.length = 1 := by
      have some := List.length_pos_iff.mpr (hostTrays_nonempty rt inside)
      rw [← length_hostTray rt inside] at few
      unfold Packing.setsFor maxCountersPerCounterSet
      omega
    refine ⟨counterSetName first, fun bundle member onTray => ?_⟩
    have grouped : bundle ∈ group.bundles := by
      rw [(trayGroup_bundles rt _ inside).1]
      exact List.mem_filter.mpr ⟨member, by simpa using onTray⟩
    obtain ⟨i, held⟩ := (buildChipCounterSets_counts _ (hostTrays_chips_nodup rt distinct)).index
      ((mem_chipsOf_hostTrays rt topo).mpr ⟨bundle, member, rfl⟩)
    have range := (indices i).mp ⟨bundle, grouped, held⟩
    rw [held, show i = first by omega]
  · refine ⟨"", fun bundle member onTray => absurd ?_ group⟩
    rw [exists_hostTray_iff, ← length_onTray rt topo tray]
    exact List.length_pos_of_mem (List.mem_filter.mpr ⟨member, by simpa using onTray⟩)

/-- With at most 32 MMIO chips a tray, a mesh lies in at most two sets. -/
theorem mesh_fewSets (distinct : topo.MmioChipIdsDistinct)
    (few : ∀ tray, (mmioOn topo tray).length ≤ 32) {definition : MeshDefinition}
    (known : definition ∈ bhGalaxyRevCMeshes) {members : List HostBundle}
    (resolved : resolveMesh definition (newMeshIndex (hostBundles rt topo)) (newLinkSet topo) =
      some members) :
    (setsOf (buildChipCounterSets (hostTrays rt topo)) members).length ≤ 2 := by
  obtain ⟨top, bottom, trays⟩ := bhGalaxyRevCMeshes_trays definition known
  obtain ⟨topSet, ofTop⟩ := tray_oneSet rt distinct top (few top)
  obtain ⟨bottomSet, ofBottom⟩ := tray_oneSet rt distinct bottom (few bottom)
  have onTrays : ∀ bundle ∈ members, bundle.mmio.trayId = top ∨ bundle.mmio.trayId = bottom := by
    intro bundle member
    have slot := List.mem_map_of_mem (f := HostBundle.slot) member
    rw [resolveMesh_slots resolved] at slot
    obtain ⟨wanted, inside, same⟩ := List.mem_map.mp slot
    have tray : wanted.trayID = bundle.mmio.trayId := congrArg MeshSlot.trayID same
    rw [← tray]
    exact trays wanted inside
  have both : setsOf (buildChipCounterSets (hostTrays rt topo)) members ⊆ [topSet, bottomSet] := by
    intro set member
    obtain ⟨bundle, inside, held⟩ := mem_setsOf.mp member
    have hosted := resolveMesh_subset resolved inside
    rcases onTrays bundle inside with onTop | onBottom
    · rw [ofTop bundle hosted onTop] at held
      simp [Option.some.inj held]
    · rw [ofBottom bundle hosted onBottom] at held
      simp [Option.some.inj held]
  exact (List.subperm_of_subset (setsOf_nodup _ _) both).length_le

end Published

/-- **Mesh resolution is sound and complete for any grid**: it never reads out of range, and
resolves to exactly the bundles whose anchors are wired as the grouping says, which are distinct
and in slot order. So a mesh is published exactly on a rev C host whose chips resolve one of the
groupings within two counter sets, and the last holds when no tray has more than 32 MMIO chips. -/
theorem mesh_resolution :
    (∀ (definition : MeshDefinition) (bundles : List HostBundle) (topo : HostPhysicalTopology),
      definition.IsGrid → (bundles.map HostBundle.slot).Nodup →
      (∀ members, definition.slots.mapM (newMeshIndex bundles).lookup = some members →
        ∀ i j, unlinkedNeighbours definition members (newLinkSet topo) ≠ .outOfRange i j) ∧
      (∀ members, resolveMesh definition (newMeshIndex bundles) (newLinkSet topo) = some members ↔
        members ⊆ bundles ∧ ∃ base, Lowest (bundles.map HostBundle.mmio) base ∧
          Wired topo definition (bundles.map HostBundle.mmio) base (members.map HostBundle.mmio)) ∧
      ∀ members, resolveMesh definition (newMeshIndex bundles) (newLinkSet topo) = some members →
        members.Nodup) ∧
    ∀ (rt : Runtime) (topo : HostPhysicalTopology), topo.MmioChipIdsDistinct →
      (∀ members, MeshPublished rt topo members ↔
        revC topo = true ∧ ∃ definition ∈ bhGalaxyRevCMeshes,
          resolveMesh definition (newMeshIndex (hostBundles rt topo)) (newLinkSet topo) =
            some members ∧
          (setsOf (buildChipCounterSets (hostTrays rt topo)) members).length ≤ 2) ∧
      ((∀ tray, (mmioOn topo tray).length ≤ 32) → ∀ definition ∈ bhGalaxyRevCMeshes, ∀ members,
        resolveMesh definition (newMeshIndex (hostBundles rt topo)) (newLinkSet topo) =
          some members →
        (setsOf (buildChipCounterSets (hostTrays rt topo)) members).length ≤ 2) := by
  refine ⟨fun definition bundles topo grid distinct => ⟨fun members looked => ?_, fun members => ?_,
    fun members resolved => ?_⟩, fun rt topo distinct => ⟨fun members => ?_,
    fun few definition known members resolved => ?_⟩⟩
  · have size := (mapM_eq_some_iff.mp looked).length_eq.symm.trans grid.size
    exact unlinkedNeighbours_inRange grid size (newLinkSet topo)
  · exact resolveMesh_iff grid distinct topo
  · exact resolveMesh_nodup grid.distinct resolved
  · exact meshPublished_iff rt distinct members
  · exact mesh_fewSets rt distinct few known resolved

/-! ### A host with one mesh -/

/-- An MMIO chip of a Blackhole Galaxy. -/
def galaxyChip (tray location chip : UInt32) : AsicInfo :=
  { uniqueId := chip.toUInt64, boardType := 10, trayId := tray, asicLocation := location,
    chipArch := "blackhole", memoryBytes := 0, pciAddress := "", chipId := chip,
    isMmioCapable := true, deviceNodeId := chip }

/-- The links of a 4x2 grid of the chips 0 to 7. -/
def gridLinks : List LocalEthConnection :=
  [⟨0, 1⟩, ⟨2, 3⟩, ⟨4, 5⟩, ⟨6, 7⟩, ⟨0, 2⟩, ⟨1, 3⟩, ⟨2, 4⟩, ⟨3, 5⟩, ⟨4, 6⟩, ⟨5, 7⟩]

/-- A rev C host with the chips of the first grouping, in mesh order, and nothing else. -/
def galaxyHost : HostPhysicalTopology where
  asics := [galaxyChip 2 1 0, galaxyChip 2 2 1, galaxyChip 2 5 2, galaxyChip 2 6 3,
    galaxyChip 1 5 4, galaxyChip 1 6 5, galaxyChip 1 1 6, galaxyChip 1 2 7]
  localConnections := gridLinks
  quirks := some { isBhGlxRevC := true }
  discoveryError := ""

/-- Its one mesh resolves and is published. -/
theorem galaxyHost_mesh :
    (∃ base, Lowest ((hostBundles Runtime.plain galaxyHost).map HostBundle.mmio) base ∧
      Wired galaxyHost (stackQuadrants 2 [1, 2, 5, 6] 1 [5, 6, 1, 2])
        ((hostBundles Runtime.plain galaxyHost).map HostBundle.mmio) base
        ((hostBundles Runtime.plain galaxyHost).map HostBundle.mmio)) ∧
      MeshPublished Runtime.plain galaxyHost (hostBundles Runtime.plain galaxyHost) := by
  have resolved : resolveMesh (stackQuadrants 2 [1, 2, 5, 6] 1 [5, 6, 1, 2])
      (newMeshIndex (hostBundles Runtime.plain galaxyHost)) (newLinkSet galaxyHost) =
        some (hostBundles Runtime.plain galaxyHost) := by decide +kernel
  have known : stackQuadrants 2 [1, 2, 5, 6] 1 [5, 6, 1, 2] ∈ bhGalaxyRevCMeshes := by decide
  obtain ⟨sound, complete⟩ := mesh_resolution
  refine ⟨?_, ((complete Runtime.plain galaxyHost ?_).1 _).mpr ⟨rfl, _, known, resolved, ?_⟩⟩
  · exact (((sound _ (hostBundles Runtime.plain galaxyHost) galaxyHost
      (bhGalaxyRevCMeshes_isGrid known) (by decide +kernel)).2.1 _).mp resolved).2
  · unfold HostPhysicalTopology.MmioChipIdsDistinct
    decide
  · decide +kernel

end DraDriver.Tenstorrent
