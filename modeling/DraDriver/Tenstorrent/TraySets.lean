/-
**Where a tray's counters lie, and which trays are published.**

The packing loop fills sets of `maxCountersPerCounterSet` one chip after the other, so a packing has
a position: how many places it has filled or skipped. A chip goes to the set its position falls in
(`addBundle_place`), and a tray starts at a position from which it needs no set more than it must
(`addTray_start`).

* **`tray_sets`** — a tray of `n` chips has its counters in exactly `⌈n / 32⌉` consecutive sets.
* `chipCounterConsumption_isSome_iff` — a consumption can be declared when its chips are in at most
  two sets.
* **`counter_packing`** — the finished layout, and the trays `applyTopology` publishes: those with
  at least one and at most 64 MMIO chips.
-/

import DraDriver.Tenstorrent.Apply

namespace DraDriver.Tenstorrent

open DraDriver.Base DraDriver.FabricManager

namespace Packing

/-! ### Positions -/

/-- The places filled or skipped so far. -/
def position (p : Packing) : ℕ :=
  maxCountersPerCounterSet * p.layout.sets.length + p.counters.keys.length

/-- The number of sets that hold `n` counters. -/
def setsFor (n : ℕ) : ℕ := (n + (maxCountersPerCounterSet - 1)) / maxCountersPerCounterSet

/-- A chip that was not placed has no counter in the open set. -/
theorem Packed.fresh_name {p : Packing} {placed : List UInt32} (packed : p.Packed placed)
    {chip : UInt32} (fresh : chip ∉ placed) : counterNameForChip chip ∉ p.counters.keys := by
  intro inside
  obtain ⟨value, found⟩ := Option.isSome_iff_exists.mp
    (AList.lookup_isSome.mpr (AList.mem_keys.mpr inside))
  rw [← countersAt_open] at found
  obtain ⟨other, old, same, _⟩ := packed.only _ _ _ found
  exact fresh (counterNameForChip_inj same ▸ old)

theorem Packed.open_small {p : Packing} {placed : List UInt32} (packed : p.Packed placed) :
    p.counters.keys.length ≤ maxCountersPerCounterSet := by
  have small := packed.small p.layout.sets.length
  rwa [countersAt_open] at small

theorem position_place {p : Packing} {chip : UInt32}
    (fresh : counterNameForChip chip ∉ p.counters.keys) :
    (p.place chip).position = p.position + 1 := by
  show _ * _ + (p.counters.insert (counterNameForChip chip) (newCounter 1)).keys.length = _
  rw [AList.keys_insert, List.erase_of_not_mem fresh, List.length_cons]
  rfl

/-- Closing a full set does not move the packing. -/
theorem position_flush_full {p : Packing} (full : p.counters.keys.length = maxCountersPerCounterSet) :
    p.flush.position = p.position := by
  unfold position flush
  rw [if_neg (by rw [full]; decide)]
  simp only [List.length_append, List.length_singleton, full]
  show _ + 0 = _
  ring

/-- Closing a set moves the packing to a whole number of sets. -/
theorem position_flush (p : Packing) : p.flush.position % maxCountersPerCounterSet = 0 := by
  unfold position
  rw [flush_counters, List.length_nil, Nat.add_zero]
  exact Nat.mul_mod_right _ _

/-- **A chip goes to the set its position falls in**, and takes one place. -/
theorem addBundle_place {p : Packing} {placed : List UInt32} (packed : p.Packed placed)
    {bundle : HostBundle} (fresh : bundle.chipId ∉ placed) :
    (p.addBundle bundle).position = p.position + 1 ∧
      (p.addBundle bundle).layout.setByChip = p.layout.setByChip.insert bundle.chipId
        (counterSetName (p.position / maxCountersPerCounterSet)) := by
  have small := packed.open_small
  have closed : ∀ q : Packing, q.counters.keys.length < maxCountersPerCounterSet →
      q.position / maxCountersPerCounterSet = q.layout.sets.length := by
    intro q room
    rw [position, Nat.mul_add_div (by decide), Nat.div_eq_of_lt room, Nat.add_zero]
  unfold Packing.addBundle
  by_cases full : p.counters.keys.length = maxCountersPerCounterSet
  · simp only [full, if_true]
    have room : p.flush.counters.keys.length < maxCountersPerCounterSet := by
      rw [flush_counters]
      decide
    rw [← position_flush_full full, closed _ room, ← setByChip_flush p]
    exact ⟨position_place (packed.flush.fresh_name fresh), rfl⟩
  · simp only [full, if_false]
    rw [closed p (by omega)]
    exact ⟨position_place (packed.fresh_name fresh), rfl⟩

/-- A chip's set does not change when others are placed. -/
theorem setByChip_addBundle (p : Packing) {bundle : HostBundle} {chip : UInt32}
    (other : chip ≠ bundle.chipId) :
    (p.addBundle bundle).layout.setByChip.lookup chip = p.layout.setByChip.lookup chip := by
  unfold Packing.addBundle
  refine (AList.lookup_insert_ne other).trans ?_
  split
  · rw [setByChip_flush]
  · rfl

theorem setByChip_addBundles {chip : UInt32} : ∀ (bundles : List HostBundle) (p : Packing),
    chip ∉ bundles.map HostBundle.chipId →
      (bundles.foldl Packing.addBundle p).layout.setByChip.lookup chip =
        p.layout.setByChip.lookup chip
  | [], _, _ => rfl
  | bundle :: bundles, p, other => by
    rw [List.map_cons, List.mem_cons, not_or] at other
    rw [List.foldl_cons, setByChip_addBundles bundles _ other.2, setByChip_addBundle p other.1]

theorem setByChip_addTray {chip : UInt32} (p : Packing) {tray : TrayGroup}
    (other : chip ∉ tray.bundles.map HostBundle.chipId) :
    (p.addTray tray).layout.setByChip.lookup chip = p.layout.setByChip.lookup chip := by
  unfold Packing.addTray
  rw [setByChip_addBundles _ _ other]
  split
  · rw [setByChip_flush]
  · rfl

theorem setByChip_addTrays {chip : UInt32} : ∀ (trays : List TrayGroup) (p : Packing),
    chip ∉ chipsOf trays → (trays.foldl Packing.addTray p).layout.setByChip.lookup chip =
      p.layout.setByChip.lookup chip
  | [], _, _ => rfl
  | tray :: trays, p, other => by
    have split : chipsOf (tray :: trays) = tray.bundles.map HostBundle.chipId ++ chipsOf trays :=
      List.flatMap_cons
    rw [split, List.mem_append, not_or] at other
    rw [List.foldl_cons, setByChip_addTrays trays _ other.2, setByChip_addTray p other.1]

/-! ### One tray -/

/-- Chips placed one after the other take one position after the other. -/
theorem addBundles_sets : ∀ (bundles : List HostBundle) {p : Packing} {placed : List UInt32},
    p.Packed placed → (placed ++ bundles.map HostBundle.chipId).Nodup →
      ∀ j bundle, bundles[j]? = some bundle →
        (bundles.foldl Packing.addBundle p).layout.setByChip.lookup bundle.chipId =
          some (counterSetName ((p.position + j) / maxCountersPerCounterSet))
  | [], _, _, _, _, _, _, found => by cases found
  | first :: bundles, p, placed, packed, distinct, j, bundle, found => by
    rw [List.map_cons, List.append_cons] at distinct
    have fresh : first.chipId ∉ placed := by
      have head := distinct.sublist (List.sublist_append_left _ _)
      exact fun old => (List.nodup_append.mp head).2.2 _ old _ (by simp) rfl
    obtain ⟨moved, placedAt⟩ := addBundle_place packed fresh
    cases j with
    | zero =>
      cases found
      have once : first.chipId ∉ bundles.map HostBundle.chipId := fun later =>
        (List.nodup_append.mp distinct).2.2 _ (by simp) _ later rfl
      rw [List.foldl_cons, setByChip_addBundles bundles _ once, placedAt, AList.lookup_insert]
      rfl
    | succ j =>
      have rest := addBundles_sets bundles (packed.addBundle fresh) distinct j bundle found
      rw [moved, Nat.add_right_comm, Nat.add_assoc] at rest
      exact rest

/-- The packing a tray's chips are added to. -/
def startTray (p : Packing) (tray : TrayGroup) : Packing :=
  if 0 < p.counters.keys.length ∧
    maxCountersPerCounterSet < p.counters.keys.length + tray.bundles.length then p.flush else p

/-- **A tray starts a set of its own, or fits into what is left of one.** -/
theorem startTray_fits {p : Packing} {placed : List UInt32} (packed : p.Packed placed)
    (tray : TrayGroup) (some : tray.bundles ≠ []) :
    (p.startTray tray).Packed placed ∧
      ((p.startTray tray).position % maxCountersPerCounterSet = 0 ∨
        (p.startTray tray).position % maxCountersPerCounterSet + tray.bundles.length ≤
          maxCountersPerCounterSet) := by
  unfold startTray
  split
  · exact ⟨packed.flush, Or.inl (position_flush p)⟩
  · rename_i fits
    refine ⟨packed, ?_⟩
    have one : 0 < tray.bundles.length := List.length_pos_iff.mpr some
    by_cases empty : p.counters.keys.length = 0
    · left
      rw [position, empty, Nat.add_zero]
      exact Nat.mul_mod_right _ _
    · right
      have small : p.counters.keys.length + tray.bundles.length ≤ maxCountersPerCounterSet := by omega
      rw [position, Nat.mul_add_mod, Nat.mod_eq_of_lt (by omega)]
      exact small

/-- The sets that positions from `start` on fall in, `n` of them. -/
theorem sets_of_positions {start n : ℕ} (some : 0 < n)
    (fits : start % maxCountersPerCounterSet = 0 ∨
      start % maxCountersPerCounterSet + n ≤ maxCountersPerCounterSet) (i : ℕ) :
    (∃ j < n, (start + j) / maxCountersPerCounterSet = i) ↔
      start / maxCountersPerCounterSet ≤ i ∧
        i < start / maxCountersPerCounterSet + setsFor n := by
  unfold setsFor maxCountersPerCounterSet at *
  constructor
  · rintro ⟨j, below, rfl⟩
    omega
  · rintro ⟨above, below⟩
    rcases fits with whole | fits
    · exact ⟨32 * (i - start / 32), by omega, by omega⟩
    · exact ⟨0, some, by omega⟩

end Packing

/-- **A tray's counters are in exactly `setsFor n` consecutive sets**, `n` being its chips. -/
theorem tray_sets (trays : List TrayGroup) (nonempty : ∀ tray ∈ trays, tray.bundles ≠ [])
    (distinct : (Packing.chipsOf trays).Nodup) {tray : TrayGroup} (member : tray ∈ trays) :
    ∃ first, ∀ i, (∃ bundle ∈ tray.bundles,
        (buildChipCounterSets trays).setByChip.lookup bundle.chipId = some (counterSetName i)) ↔
      first ≤ i ∧ i < first + Packing.setsFor tray.bundles.length := by
  obtain ⟨before, after, rfl⟩ := List.append_of_mem member
  have chips : Packing.chipsOf (before ++ tray :: after) = Packing.chipsOf before ++
      (tray.bundles.map HostBundle.chipId ++ Packing.chipsOf after) := by
    simp [Packing.chipsOf]
  rw [chips] at distinct
  obtain ⟨packed, fits⟩ := Packing.startTray_fits
    (Packing.Packed.addTrays before Packing.start_packed
      (by simpa using distinct.sublist (List.sublist_append_left _ _)))
    tray (nonempty tray member)
  have own : (([] ++ Packing.chipsOf before) ++ tray.bundles.map HostBundle.chipId).Nodup := by
    rw [← List.append_assoc] at distinct
    simpa using distinct.sublist (List.sublist_append_left _ _)
  -- the chips of later trays are others, so the tray's own stay where they were placed
  have placed : ∀ j bundle, tray.bundles[j]? = some bundle →
      (buildChipCounterSets (before ++ tray :: after)).setByChip.lookup bundle.chipId =
        some (counterSetName ((((before.foldl Packing.addTray Packing.start).startTray tray).position +
          j) / maxCountersPerCounterSet)) := by
    intro j bundle found
    have later : bundle.chipId ∉ Packing.chipsOf after := fun later =>
      (List.nodup_append.mp (List.nodup_append.mp distinct).2.1).2.2 _
        (List.mem_map_of_mem (List.mem_of_getElem? found)) _ later rfl
    unfold buildChipCounterSets
    rw [if_neg (by simp), Packing.setByChip_flush, List.foldl_append, List.foldl_cons,
      Packing.setByChip_addTrays after _ later]
    exact Packing.addBundles_sets tray.bundles packed own j bundle found
  refine ⟨_, fun i => Iff.trans ?_ (Packing.sets_of_positions
    (List.length_pos_iff.mpr (nonempty tray member)) fits i)⟩
  constructor
  · rintro ⟨bundle, inside, held⟩
    obtain ⟨j, found⟩ := List.mem_iff_getElem?.mp inside
    rw [placed j bundle found] at held
    exact ⟨j, (List.getElem?_eq_some_iff.mp found).1, counterSetName_inj (Option.some.inj held)⟩
  · rintro ⟨j, below, same⟩
    have found := List.getElem?_eq_getElem below
    refine ⟨_, List.mem_of_getElem? found, ?_⟩
    rw [placed j _ found, same]

/-! ### Declaring a consumption -/

/-- The counter sets that hold the counters of some chips. -/
def setsOf (layout : CounterLayout) (bundles : List HostBundle) : List String :=
  (bundles.filterMap fun bundle => layout.setByChip.lookup bundle.chipId).dedup

theorem mem_setsOf {layout : CounterLayout} {bundles : List HostBundle} {set : String} :
    set ∈ setsOf layout bundles ↔
      ∃ bundle ∈ bundles, layout.setByChip.lookup bundle.chipId = some set := by
  unfold setsOf
  rw [List.mem_dedup, List.mem_filterMap]

theorem setsOf_nodup (layout : CounterLayout) (bundles : List HostBundle) :
    (setsOf layout bundles).Nodup := List.nodup_dedup _

/-- The loop orders exactly the sets it has taken from. -/
theorem Consuming.Holds.order_perm {layout : CounterLayout} {state : Consuming}
    {seen : List HostBundle} (holds : state.Holds layout seen) :
    state.order.Perm (setsOf layout seen) := by
  refine (List.perm_ext_iff_of_nodup holds.nodup (setsOf_nodup layout seen)).mpr fun set => ?_
  refine Iff.trans ⟨holds.used set, ?_⟩ mem_setsOf.symm
  rintro ⟨bundle, inside, held⟩
  have taken := holds.taken set (counterNameForChip bundle.chipId)
  rw [if_pos (takes_iff.mpr ⟨bundle, inside, held, rfl⟩)] at taken
  refine (holds.keys set).mpr (AList.lookup_isSome.mp ?_)
  cases stored : state.bySet.lookup set with
  | none => simp [stored] at taken
  | some counters => rfl

/-- **A consumption of counted chips can be declared when they lie in few enough sets.** -/
theorem chipCounterConsumption_isSome_iff {layout : CounterLayout} {bundles : List HostBundle}
    (counted : ∀ bundle ∈ bundles, (layout.setByChip.lookup bundle.chipId).isSome = true) :
    (chipCounterConsumption layout bundles).isSome = true ↔
      layout.sets = [] ∨
        (setsOf layout bundles).length ≤ maxDeviceCounterConsumptionsPerDevice := by
  obtain ⟨state, ran⟩ := Consuming.run_isSome bundles Consuming.start counted
  have holds := Consuming.Holds.run bundles (Consuming.start_holds layout) ran
  rw [List.nil_append] at holds
  have length := holds.order_perm.length_eq
  unfold chipCounterConsumption
  by_cases plain : layout.sets = []
  · simp [plain]
  · rw [if_neg (fun zero => plain (List.length_eq_zero_iff.mp zero)), ran, ← length]
    show (if _ then none else some _ : Option (List DeviceCounterConsumption)).isSome = true ↔ _
    split
    · rename_i many
      simp only [Option.isSome_none, Bool.false_eq_true, plain, false_or, false_iff]
      exact Nat.not_le_of_gt many
    · rename_i few
      simp only [Option.isSome_some, plain, false_or, true_iff]
      exact Nat.le_of_not_gt few

/-- The sets of a tray, counted. -/
theorem length_setsOf_tray {trays : List TrayGroup} (nonempty : ∀ tray ∈ trays, tray.bundles ≠ [])
    (distinct : (Packing.chipsOf trays).Nodup) {tray : TrayGroup} (member : tray ∈ trays) :
    (setsOf (buildChipCounterSets trays) tray.bundles).length =
      Packing.setsFor tray.bundles.length := by
  obtain ⟨first, indices⟩ := tray_sets trays nonempty distinct member
  have counts := buildChipCounterSets_counts trays distinct
  have listed : (setsOf (buildChipCounterSets trays) tray.bundles).Perm
      ((List.range' first (Packing.setsFor tray.bundles.length)).map counterSetName) := by
    refine (List.perm_ext_iff_of_nodup (setsOf_nodup _ _)
      ((List.nodup_range' ..).map fun _ _ => counterSetName_inj)).mpr fun set => ?_
    rw [mem_setsOf, List.mem_map]
    constructor
    · rintro ⟨bundle, inside, held⟩
      have chip : bundle.chipId ∈ Packing.chipsOf trays :=
        List.mem_flatMap.mpr ⟨tray, member, List.mem_map_of_mem inside⟩
      obtain ⟨i, home⟩ := counts.index chip
      cases Option.some.inj (held.symm.trans home)
      exact ⟨i, List.mem_range'_1.mpr ((indices i).mp ⟨bundle, inside, held⟩), rfl⟩
    · rintro ⟨i, inside, rfl⟩
      exact (indices i).mpr (List.mem_range'_1.mp inside)
  rw [listed.length_eq, List.length_map, List.length_range']

/-- A tray's consumption can be declared when it has at most two sets' worth of chips. -/
theorem tray_declared_iff {trays : List TrayGroup} (nonempty : ∀ tray ∈ trays, tray.bundles ≠ [])
    (distinct : (Packing.chipsOf trays).Nodup) {tray : TrayGroup} (member : tray ∈ trays) :
    (chipCounterConsumption (buildChipCounterSets trays) tray.bundles).isSome = true ↔
      tray.bundles.length ≤ 64 := by
  have counts := buildChipCounterSets_counts trays distinct
  have chip : ∀ bundle ∈ tray.bundles, bundle.chipId ∈ Packing.chipsOf trays := fun bundle inside =>
    List.mem_flatMap.mpr ⟨tray, member, List.mem_map_of_mem inside⟩
  have counted : ∀ bundle ∈ tray.bundles,
      ((buildChipCounterSets trays).setByChip.lookup bundle.chipId).isSome = true := by
    intro bundle inside
    obtain ⟨set, _, held, _⟩ := counts.home _ (chip bundle inside)
    exact Option.isSome_iff_exists.mpr ⟨_, held⟩
  obtain ⟨bundle, inside⟩ := List.exists_mem_of_ne_nil _ (nonempty tray member)
  rw [chipCounterConsumption_isSome_iff counted, length_setsOf_tray nonempty distinct member,
    or_iff_right (counts.sets_ne_nil (chip bundle inside))]
  unfold Packing.setsFor maxCountersPerCounterSet maxDeviceCounterConsumptionsPerDevice
  omega

/-! ### The finished layout and the published trays -/

/-- **What counter packing is for**: one counter of value one a chip, in the one set `setByChip`
names; nothing else; sets of 1 to 32 counters, named in order; a tray in as few consecutive sets as
can hold it. -/
structure CounterLayout.Packs (layout : CounterLayout) (trays : List TrayGroup) : Prop where
  once : ∀ chip ∈ Packing.chipsOf trays, ∃ set ∈ layout.sets,
    layout.setByChip.lookup chip = some set.name ∧
      set.counters.lookup (counterNameForChip chip) = some 1 ∧
      ∀ other ∈ layout.sets, counterNameForChip chip ∈ other.counters → other = set
  only : ∀ set ∈ layout.sets, ∀ name ∈ set.counters,
    ∃ chip ∈ Packing.chipsOf trays, name = counterNameForChip chip
  known : ∀ chip ∈ layout.setByChip, chip ∈ Packing.chipsOf trays
  named : layout.sets.map CounterSet.name = (List.range layout.sets.length).map counterSetName
  sized : ∀ set ∈ layout.sets, 1 ≤ set.counters.keys.length ∧ set.counters.keys.length ≤ 32
  consecutive : ∀ tray ∈ trays, ∃ first, ∀ i, (∃ bundle ∈ tray.bundles,
      layout.setByChip.lookup bundle.chipId = some (counterSetName i)) ↔
    first ≤ i ∧ i < first + Packing.setsFor tray.bundles.length

theorem buildChipCounterSets_packs {trays : List TrayGroup}
    (nonempty : ∀ tray ∈ trays, tray.bundles ≠ []) (distinct : (Packing.chipsOf trays).Nodup) :
    (buildChipCounterSets trays).Packs trays := by
  have counts := buildChipCounterSets_counts trays distinct
  have entry : ∀ set ∈ (buildChipCounterSets trays).sets, ∀ name ∈ set.counters,
      ∃ chip ∈ Packing.chipsOf trays, name = counterNameForChip chip ∧
        (buildChipCounterSets trays).setByChip.lookup chip = some set.name := by
    intro set inSets name inside
    obtain ⟨value, found⟩ := Option.isSome_iff_exists.mp (AList.lookup_isSome.mpr inside)
    obtain ⟨chip, member, same, _, held⟩ := counts.only set inSets name value found
    exact ⟨chip, member, same, held⟩
  refine ⟨?_, ?_, ?_, ?_, ?_, fun tray member => tray_sets trays nonempty distinct member⟩
  · intro chip member
    obtain ⟨set, inSets, held, counter⟩ := counts.home chip member
    refine ⟨set, inSets, held, counter, fun other inOthers inside => ?_⟩
    obtain ⟨chip', _, same, held'⟩ := entry other inOthers _ inside
    rw [← counterNameForChip_inj same, held] at held'
    exact counts.set_eq_of_name inOthers inSets (Option.some.inj held').symm
  · intro set inSets name inside
    obtain ⟨chip, member, same, _⟩ := entry set inSets name inside
    exact ⟨chip, member, same⟩
  · intro chip inside
    by_contra away
    rw [← AList.lookup_isSome, counts.absent chip away] at inside
    cases inside
  · refine List.ext_getElem? fun i => ?_
    rw [List.getElem?_map, List.getElem?_map]
    cases found : (buildChipCounterSets trays).sets[i]? with
    | none => rw [List.getElem?_eq_none (by simpa using found)]; rfl
    | some set =>
      rw [List.getElem?_range (List.getElem?_eq_some_iff.mp found).1]
      exact congrArg some (counts.named i set found)
  · exact fun set inSets => ⟨counts.filled set inSets, counts.small set inSets⟩

/-! ### The published trays -/

/-- The MMIO chips of a tray. -/
def mmioOn (topo : HostPhysicalTopology) (tray : UInt32) : List AsicInfo :=
  (topo.asics.filter fun asic => asic.isMmioCapable).filter fun asic => asic.trayId = tray

section Published

variable (rt : Runtime) (p : Profile) {topo : HostPhysicalTopology}

theorem hostTrays_nonempty {tray : TrayGroup} (member : tray ∈ hostTrays rt topo) :
    tray.bundles ≠ [] :=
  (trayGroup_bundles rt _ member).2

/-- A tray has one bundle an MMIO chip. -/
theorem length_onTray (topo : HostPhysicalTopology) (tray : UInt32) :
    ((hostBundles rt topo).filter fun bundle => bundle.mmio.trayId = tray).length =
      (mmioOn topo tray).length := by
  have anchors := (bundleHostASICs_anchors_perm rt topo.asics).filter fun asic => asic.trayId = tray
  rw [List.filter_map] at anchors
  have lengths := anchors.length_eq
  rw [List.length_map] at lengths
  exact lengths

theorem length_hostTray {tray : TrayGroup} (member : tray ∈ hostTrays rt topo) :
    tray.bundles.length = (mmioOn topo tray.trayID).length := by
  rw [(trayGroup_bundles rt _ member).1]
  exact length_onTray rt topo tray.trayID

/-- The trays of the host are those with an MMIO chip. -/
theorem exists_hostTray_iff (trayID : UInt32) :
    (∃ tray ∈ hostTrays rt topo, tray.trayID = trayID) ↔ 1 ≤ (mmioOn topo trayID).length := by
  rw [← length_onTray rt topo trayID]
  constructor
  · rintro ⟨tray, member, rfl⟩
    rw [← (trayGroup_bundles rt _ member).1]
    exact List.length_pos_iff.mpr (hostTrays_nonempty rt member)
  · intro some
    refine ⟨⟨trayID, (hostBundles rt topo).filter fun bundle => bundle.mmio.trayId = trayID⟩,
      (mem_groupBundlesByTray rt _).mpr ?_, rfl⟩
    rw [lookup_groupBy, if_neg (List.length_pos_iff.mp some)]

/-- **A tray device is published for exactly the trays with one to 64 MMIO chips.** -/
theorem trayDevice_published_iff (distinct : topo.MmioChipIdsDistinct) (on : p.trayDevices = true)
    (trayID : UInt32) :
    (∃ device ∈ (poolOf (applyTopology rt p topo).1 p.nodeName).devices,
        device.name = deviceNameForTray trayID) ↔
      1 ≤ (mmioOn topo trayID).length ∧ (mmioOn topo trayID).length ≤ 64 := by
  have layout : (p.enumerate rt topo).layout = buildChipCounterSets (hostTrays rt topo) := by
    rw [layout_enumerate, if_pos (by rw [Profile.composite, on]; rfl)]
  have declared : ∀ tray ∈ hostTrays rt topo,
      (chipCounterConsumption (p.enumerate rt topo).layout tray.bundles).isSome = true ↔
        (mmioOn topo tray.trayID).length ≤ 64 := by
    intro tray member
    rw [layout, ← length_hostTray rt member]
    exact tray_declared_iff (fun _ => hostTrays_nonempty rt) (hostTrays_chips_nodup rt distinct) member
  rw [publishedDevices_applyTopology, ← exists_hostTray_iff rt trayID]
  constructor
  · rintro ⟨device, member, named⟩
    obtain ⟨entry, listed, rfl⟩ := List.mem_map.mp member
    rcases mem_enumerate rt p listed with ⟨bundle, _, rfl⟩ | ⟨_, tray, inside, built⟩ | ⟨_, mesh⟩
    · exact absurd named (chipName_ne_trayName _ _)
    · obtain ⟨name, _, consumption⟩ := trayEntry_spec built
      have same : tray.trayID = trayID := deviceNameForTray_inj (name.symm.trans named)
      refine ⟨⟨tray, inside, same⟩, ?_⟩
      rw [← same, ← declared tray inside, consumption]
      rfl
    · obtain ⟨chip, name⟩ := meshEntry_name rt mesh
      exact absurd (named.symm.trans name) (trayName_ne_meshName _ _ _)
  · rintro ⟨⟨tray, inside, rfl⟩, few⟩
    obtain ⟨consumption, consumes⟩ := Option.isSome_iff_exists.mp ((declared tray inside).mpr few)
    obtain ⟨device, built⟩ : ∃ device, trayDevice tray (p.enumerate rt topo).layout = some device := by
      unfold trayDevice
      cases heads : tray.bundles with
      | nil => exact absurd heads (hostTrays_nonempty rt inside)
      | cons head rest =>
        rw [heads] at consumes
        rw [consumes]
        exact ⟨_, rfl⟩
    have listed : trayEntry (p.enumerate rt topo).layout tray =
        some (device, { kind := .tray, trayID := tray.trayID, bundles := tray.bundles }) := by
      rw [trayEntry, built]
      rfl
    have inUnits : (device, { kind := .tray, trayID := tray.trayID, bundles := tray.bundles }) ∈
        (p.enumerate rt topo).units := by
      refine List.mem_append_left _ (List.mem_append_right _ ?_)
      rw [if_pos on]
      exact List.mem_filterMap.mpr ⟨tray, inside, listed⟩
    exact ⟨device, List.mem_map_of_mem (f := Prod.fst) inUnits, (trayDevice_spec built).1⟩

end Published

/-- **Counter packing.** Non-empty trays with distinct chip ids are packed as `Packs` says; so, with
tray devices on, a tray device is published for exactly the trays with 1 to 64 MMIO chips, and a
chip device's own consumption never fails. -/
theorem counter_packing (rt : Runtime) (p : Profile) :
    (∀ trays : List TrayGroup, (∀ tray ∈ trays, tray.bundles ≠ []) → (Packing.chipsOf trays).Nodup →
      (buildChipCounterSets trays).Packs trays) ∧
    ∀ topo : HostPhysicalTopology, topo.MmioChipIdsDistinct →
      (p.trayDevices = true → ∀ trayID,
        (∃ device ∈ (poolOf (applyTopology rt p topo).1 p.nodeName).devices,
          device.name = deviceNameForTray trayID) ↔
        1 ≤ (mmioOn topo trayID).length ∧ (mmioOn topo trayID).length ≤ 64) ∧
      ∀ bundle ∈ hostBundles rt topo, ∃ consumption,
        chipCounterConsumption (p.enumerate rt topo).layout [bundle] = some consumption :=
  ⟨fun _ nonempty distinct => buildChipCounterSets_packs nonempty distinct,
    fun _ distinct => ⟨fun on => trayDevice_published_iff rt p distinct on,
      fun _ member => chip_declared rt p distinct member⟩⟩

/-- A host of two trays with one MMIO chip each: both are packed and published. -/
theorem twoTrayHost_packing :
    (buildChipCounterSets (hostTrays Runtime.plain twoTrayHost)).Packs
        (hostTrays Runtime.plain twoTrayHost) ∧
      ∃ device ∈ (poolOf (applyTopology Runtime.plain (newProfile "node" ⟨true, true⟩) twoTrayHost).1
        "node").devices, device.name = "tt-tray-1" :=
  ⟨(counter_packing Runtime.plain (newProfile "node" ⟨true, true⟩)).1 _ (by decide +kernel)
      (by decide +kernel),
    (((counter_packing Runtime.plain (newProfile "node" ⟨true, true⟩)).2 twoTrayHost
      (by unfold HostPhysicalTopology.MmioChipIdsDistinct; decide)).1 rfl 1).mpr (by decide)⟩

end DraDriver.Tenstorrent
