/-
**Shared counters: how they are packed into sets, and what a device consumes of them.**

`buildChipCounterSets` gives every chip device one counter of value one and packs the counters into
sets of at most `maxPerSet`, a whole tray at a time; `chipCounterConsumption` declares one unit of
every chip a device covers, set by set.

* `Packing.Packed p placed` — the packing loop's invariant over the chips placed so far: each has
  its counter in the set `setByChip` names, and the sets hold nothing else.
* **`buildChipCounterSets_counts`** — the finished layout, for trays with distinct chip ids.
* **`consumed_chipCounterConsumption`** — a declared consumption takes one unit of exactly the
  counters of the covered chips.
-/

import DraDriver.Base.Text
import DraDriver.Tenstorrent.Bundles

namespace DraDriver.Tenstorrent

open DraDriver.Base DraDriver.FabricManager

/-! ### The API limits of the resource group -/

/-- `ResourceSliceMaxCountersPerCounterSet`. -/
def maxCountersPerCounterSet : ℕ := 32

/-- `ResourceSliceMaxDeviceCounterConsumptionsPerDevice`. -/
def maxDeviceCounterConsumptionsPerDevice : ℕ := 2

/-! ### Counters, sets and consumptions -/

/-- `resourceapi.CounterSet`. -/
structure CounterSet where
  name : String
  counters : GoMap String ℤ
  deriving DecidableEq

/-- `resourceapi.DeviceCounterConsumption`. -/
structure DeviceCounterConsumption where
  counterSet : String
  counters : GoMap String ℤ
  deriving DecidableEq

/-- The published counters and the set that holds each chip's counter. -/
structure CounterLayout where
  sets : List CounterSet
  setByChip : GoMap UInt32 String

/-- The layout of a profile that publishes no counters at all. -/
def CounterLayout.empty : CounterLayout := { sets := [], setByChip := ∅ }

/-- `resource.NewQuantity` of a counter. -/
def newCounter (value : ℤ) : ℤ := value

/-- The name of the i-th counter set. -/
def counterSetName (i : ℕ) : String := "tt-chips-" ++ decimal i

/-- The name of a chip's counter. -/
def counterNameForChip (chipID : UInt32) : String := "chip-" ++ decimal chipID.toNat

theorem counterSetName_inj {i j : ℕ} (same : counterSetName i = counterSetName j) : i = j :=
  append_decimal_inj same

theorem counterNameForChip_inj {c c' : UInt32}
    (same : counterNameForChip c = counterNameForChip c') : c = c' :=
  UInt32.toNat_inj.mp (append_decimal_inj same)

/-! ### Packing the counters into sets -/

/-- The state of the packing loop: the layout so far and the counters of the open set. -/
structure Packing where
  layout : CounterLayout
  counters : GoMap String ℤ

namespace Packing

/-- No set yet. -/
def start : Packing := { layout := CounterLayout.empty, counters := ∅ }

/-- Close the open set, unless it is empty. -/
def flush (p : Packing) : Packing :=
  if p.counters.keys.length = 0 then p
  else
    { layout :=
        { sets := p.layout.sets ++
            [{ name := counterSetName p.layout.sets.length, counters := p.counters }]
          setByChip := p.layout.setByChip }
      counters := ∅ }

/-- Put one chip's counter in the open set. -/
def place (p : Packing) (chipID : UInt32) : Packing :=
  { layout :=
      { sets := p.layout.sets
        setByChip := p.layout.setByChip.insert chipID (counterSetName p.layout.sets.length) }
    counters := p.counters.insert (counterNameForChip chipID) (newCounter 1) }

/-- One bundle of the inner loop: a full set is closed first. -/
def addBundle (p : Packing) (bundle : HostBundle) : Packing :=
  let p := if p.counters.keys.length = maxCountersPerCounterSet then p.flush else p
  p.place bundle.mmio.chipId

/-- One tray of the outer loop: a set the tray does not fit in is closed first. -/
def addTray (p : Packing) (tray : TrayGroup) : Packing :=
  let p := if 0 < p.counters.keys.length ∧
      maxCountersPerCounterSet < p.counters.keys.length + tray.bundles.length then p.flush else p
  tray.bundles.foldl addBundle p

end Packing

/-- `buildChipCounterSets`: one counter a bundle, packed tray by tray. -/
def buildChipCounterSets (trays : List TrayGroup) : CounterLayout :=
  if trays.length = 0 then CounterLayout.empty
  else (trays.foldl Packing.addTray Packing.start).flush.layout

/-- The layout is a function of the chip ids of the trays. -/
theorem buildChipCounterSets_congr {trays trays' : List TrayGroup}
    (same : (trays.map fun tray => tray.bundles.map HostBundle.chipId) =
      trays'.map fun tray => tray.bundles.map HostBundle.chipId) :
    buildChipCounterSets trays = buildChipCounterSets trays' := by
  -- both loops over the ids alone
  let addChip (p : Packing) (chipID : UInt32) : Packing :=
    (if p.counters.keys.length = maxCountersPerCounterSet then p.flush else p).place chipID
  let addChips (p : Packing) (chips : List UInt32) : Packing :=
    chips.foldl addChip (if 0 < p.counters.keys.length ∧
      maxCountersPerCounterSet < p.counters.keys.length + chips.length then p.flush else p)
  have byIds : ∀ trays : List TrayGroup, buildChipCounterSets trays =
      if (trays.map fun tray => tray.bundles.map HostBundle.chipId).length = 0 then
        CounterLayout.empty
      else ((trays.map fun tray => tray.bundles.map HostBundle.chipId).foldl addChips
        Packing.start).flush.layout := by
    intro trays
    have turn : Packing.addTray = fun p tray => addChips p (tray.bundles.map HostBundle.chipId) := by
      funext p tray
      simp only [addChips, List.foldl_map, List.length_map]
      rfl
    unfold buildChipCounterSets
    rw [List.length_map, List.foldl_map, turn]
  rw [byIds, byIds, same]

/-! ### The packing invariant -/

namespace Packing

/-- The counters of set `i`, the open set being the one after the last closed one. -/
def countersAt (p : Packing) (i : ℕ) : GoMap String ℤ :=
  match p.layout.sets[i]? with
  | some set => set.counters
  | none => if i = p.layout.sets.length then p.counters else ∅

/-- **What the packing loop keeps**, `placed` being the chips it has seen. -/
structure Packed (p : Packing) (placed : List UInt32) : Prop where
  named : ∀ i set, p.layout.sets[i]? = some set → set.name = counterSetName i
  home : ∀ chip ∈ placed, ∃ i, p.layout.setByChip.lookup chip = some (counterSetName i) ∧
    (p.countersAt i).lookup (counterNameForChip chip) = some 1
  only : ∀ i name value, (p.countersAt i).lookup name = some value →
    ∃ chip ∈ placed, name = counterNameForChip chip ∧ value = 1 ∧
      p.layout.setByChip.lookup chip = some (counterSetName i)
  absent : ∀ chip, chip ∉ placed → p.layout.setByChip.lookup chip = none
  small : ∀ i, (p.countersAt i).keys.length ≤ maxCountersPerCounterSet
  filled : ∀ i, i < p.layout.sets.length → 0 < (p.countersAt i).keys.length

theorem start_packed : start.Packed [] where
  named i set found := by cases found
  home chip member := by cases member
  only i name value found := by
    have empty : start.countersAt i = ∅ := by
      unfold countersAt start CounterLayout.empty
      simp
    rw [empty, AList.lookup_empty] at found
    cases found
  absent chip _ := AList.lookup_empty chip
  small i := by
    have empty : start.countersAt i = ∅ := by
      unfold countersAt start CounterLayout.empty
      simp
    rw [empty]
    exact Nat.zero_le _
  filled i inside := absurd inside (Nat.not_lt_zero i)

/-- Closing the open set moves no counter to another index. -/
theorem countersAt_flush (p : Packing) (i : ℕ) : p.flush.countersAt i = p.countersAt i := by
  unfold flush
  split
  · rfl
  · unfold countersAt
    simp only [List.length_append, List.length_singleton]
    rcases Nat.lt_trichotomy i p.layout.sets.length with below | same | above
    · rw [List.getElem?_append_left below, List.getElem?_eq_getElem below]
    · subst same
      simp
    · rw [List.getElem?_eq_none (by simp; omega), List.getElem?_eq_none (by omega)]
      have ne : i ≠ p.layout.sets.length := by omega
      by_cases next : i = p.layout.sets.length + 1 <;> simp [next, ne]

theorem setByChip_flush (p : Packing) : p.flush.layout.setByChip = p.layout.setByChip := by
  unfold flush
  split <;> rfl

theorem Packed.flush {p : Packing} {placed : List UInt32} (packed : p.Packed placed) :
    p.flush.Packed placed where
  named i set found := by
    unfold Packing.flush at found
    split at found
    · exact packed.named i set found
    · rcases Nat.lt_trichotomy i p.layout.sets.length with below | same | above
      · rw [List.getElem?_append_left below] at found
        exact packed.named i set found
      · subst same
        simp only [List.getElem?_concat_length, Option.some.injEq] at found
        rw [← found]
      · rw [List.getElem?_eq_none (by simp; omega)] at found
        cases found
  home chip member := by
    simp only [countersAt_flush, setByChip_flush]
    exact packed.home chip member
  only i name value found := by
    rw [countersAt_flush] at found
    rw [setByChip_flush]
    exact packed.only i name value found
  absent chip fresh := by
    rw [setByChip_flush]
    exact packed.absent chip fresh
  small i := by
    rw [countersAt_flush]
    exact packed.small i
  filled i inside := by
    rw [countersAt_flush]
    unfold Packing.flush at inside
    split at inside
    · exact packed.filled i inside
    · rename_i some
      rcases Nat.lt_or_ge i p.layout.sets.length with below | above
      · exact packed.filled i below
      · have same : i = p.layout.sets.length := by
          simp only [List.length_append, List.length_singleton] at inside
          omega
        subst same
        unfold countersAt
        rw [List.getElem?_eq_none le_rfl]
        simp only [if_true]
        omega

theorem countersAt_open (p : Packing) : p.countersAt p.layout.sets.length = p.counters := by
  unfold countersAt
  rw [List.getElem?_eq_none le_rfl]
  exact if_pos rfl

theorem countersAt_place (p : Packing) (chip : UInt32) (i : ℕ) :
    (p.place chip).countersAt i =
      if i = p.layout.sets.length then
        p.counters.insert (counterNameForChip chip) 1
      else p.countersAt i := by
  by_cases same : i = p.layout.sets.length
  · subst same
    rw [if_pos rfl]
    exact countersAt_open (p.place chip)
  · rw [if_neg same]
    unfold countersAt place
    simp only [same, if_false]

/-- A fresh chip in a set with room keeps the invariant. -/
theorem Packed.place {p : Packing} {placed : List UInt32} (packed : p.Packed placed)
    {chip : UInt32} (fresh : chip ∉ placed)
    (room : p.counters.keys.length < maxCountersPerCounterSet) :
    (p.place chip).Packed (placed ++ [chip]) where
  named i set found := packed.named i set found
  home other member := by
    rcases List.mem_append.mp member with old | new
    · obtain ⟨i, held, stored⟩ := packed.home other old
      have ne : other ≠ chip := fun same => fresh (same ▸ old)
      refine ⟨i, ?_, ?_⟩
      · show (p.layout.setByChip.insert chip _).lookup other = _
        rw [AList.lookup_insert_ne ne, held]
      · rw [countersAt_place]
        by_cases same : i = p.layout.sets.length
        · subst same
          rw [countersAt_open] at stored
          rw [if_pos rfl, AList.lookup_insert_ne fun equal => ne (counterNameForChip_inj equal)]
          exact stored
        · rw [if_neg same]
          exact stored
    · have same : other = chip := by simpa using new
      subst same
      refine ⟨p.layout.sets.length, AList.lookup_insert _, ?_⟩
      rw [countersAt_place, if_pos rfl, AList.lookup_insert]
  only i name value found := by
    rw [countersAt_place] at found
    have keep : ∀ other ∈ placed, (p.place chip).layout.setByChip.lookup other =
        p.layout.setByChip.lookup other := fun other old =>
      AList.lookup_insert_ne fun same => fresh (same ▸ old)
    by_cases same : i = p.layout.sets.length
    · subst same
      rw [if_pos rfl, lookup_insert_eq] at found
      by_cases own : name = counterNameForChip chip
      · rw [if_pos own] at found
        cases found
        exact ⟨chip, by simp, own, rfl, AList.lookup_insert _⟩
      · rw [if_neg own, ← countersAt_open] at found
        obtain ⟨other, old, nameEq, valueEq, held⟩ := packed.only _ name value found
        exact ⟨other, List.mem_append_left _ old, nameEq, valueEq, by rw [keep other old, held]⟩
    · rw [if_neg same] at found
      obtain ⟨other, old, nameEq, valueEq, held⟩ := packed.only i name value found
      exact ⟨other, List.mem_append_left _ old, nameEq, valueEq, by rw [keep other old, held]⟩
  absent other away := by
    rw [List.mem_append, not_or] at away
    have ne : other ≠ chip := by simpa using away.2
    show (p.layout.setByChip.insert chip _).lookup other = none
    rw [AList.lookup_insert_ne ne]
    exact packed.absent other away.1
  small i := by
    rw [countersAt_place]
    split
    · have bound := List.length_erase_le (a := counterNameForChip chip) (l := p.counters.keys)
      rw [AList.keys_insert, List.length_cons]
      omega
    · exact packed.small i
  filled i inside := by
    have below : i < p.layout.sets.length := inside
    rw [countersAt_place, if_neg (by omega)]
    exact packed.filled i below

theorem Packed.addBundle {p : Packing} {placed : List UInt32} (packed : p.Packed placed)
    {bundle : HostBundle} (fresh : bundle.chipId ∉ placed) :
    (p.addBundle bundle).Packed (placed ++ [bundle.chipId]) := by
  unfold Packing.addBundle
  have openSmall := packed.small p.layout.sets.length
  rw [countersAt_open] at openSmall
  by_cases full : p.counters.keys.length = maxCountersPerCounterSet
  · simp only [full, if_true]
    refine packed.flush.place fresh ?_
    have closed : p.flush.counters = ∅ := by
      unfold Packing.flush
      rw [if_neg (by rw [full]; decide)]
    rw [closed]
    decide
  · simp only [full, if_false]
    exact packed.place fresh (by omega)

theorem Packed.addBundles : ∀ (bundles : List HostBundle) {p : Packing} {placed : List UInt32},
    p.Packed placed → (placed ++ bundles.map HostBundle.chipId).Nodup →
      (bundles.foldl Packing.addBundle p).Packed (placed ++ bundles.map HostBundle.chipId)
  | [], p, placed, packed, _ => by simpa using packed
  | bundle :: bundles, p, placed, packed, distinct => by
    rw [List.map_cons, List.append_cons] at distinct ⊢
    have fresh : bundle.chipId ∉ placed := by
      have first := distinct.sublist (List.sublist_append_left _ _)
      exact fun old => (List.nodup_append.mp first).2.2 _ old _ (by simp) rfl
    exact Packed.addBundles bundles (packed.addBundle fresh) distinct

theorem Packed.addTray {p : Packing} {placed : List UInt32} (packed : p.Packed placed)
    (tray : TrayGroup) (distinct : (placed ++ tray.bundles.map HostBundle.chipId).Nodup) :
    (p.addTray tray).Packed (placed ++ tray.bundles.map HostBundle.chipId) := by
  unfold Packing.addTray
  split
  · exact Packed.addBundles tray.bundles packed.flush distinct
  · exact Packed.addBundles tray.bundles packed distinct

/-- The chips of a list of trays, in packing order. -/
def chipsOf (trays : List TrayGroup) : List UInt32 :=
  trays.flatMap fun tray => tray.bundles.map HostBundle.chipId

theorem Packed.addTrays : ∀ (trays : List TrayGroup) {p : Packing} {placed : List UInt32},
    p.Packed placed → (placed ++ chipsOf trays).Nodup →
      (trays.foldl Packing.addTray p).Packed (placed ++ chipsOf trays)
  | [], p, placed, packed, _ => by simpa [chipsOf] using packed
  | tray :: trays, p, placed, packed, distinct => by
    have split : chipsOf (tray :: trays) = tray.bundles.map HostBundle.chipId ++ chipsOf trays :=
      List.flatMap_cons
    rw [split, ← List.append_assoc] at distinct ⊢
    exact Packed.addTrays trays
      (packed.addTray tray (distinct.sublist (List.sublist_append_left _ _))) distinct

theorem flush_counters (p : Packing) : p.flush.counters.keys = [] := by
  unfold flush
  split
  · rename_i none
    exact List.length_eq_zero_iff.mp none
  · rfl

end Packing

/-! ### The finished layout -/

/-- **A layout that counts exactly the chips of a list**: one counter of value one a chip, in the
set `setByChip` names, and nothing else. -/
structure CounterLayout.Counts (layout : CounterLayout) (chips : List UInt32) : Prop where
  named : ∀ i set, layout.sets[i]? = some set → set.name = counterSetName i
  home : ∀ chip ∈ chips, ∃ set ∈ layout.sets, layout.setByChip.lookup chip = some set.name ∧
    set.counters.lookup (counterNameForChip chip) = some 1
  only : ∀ set ∈ layout.sets, ∀ name value, set.counters.lookup name = some value →
    ∃ chip ∈ chips, name = counterNameForChip chip ∧ value = 1 ∧
      layout.setByChip.lookup chip = some set.name
  absent : ∀ chip, chip ∉ chips → layout.setByChip.lookup chip = none
  small : ∀ set ∈ layout.sets, set.counters.keys.length ≤ maxCountersPerCounterSet
  filled : ∀ set ∈ layout.sets, 0 < set.counters.keys.length

/-- A packing with no open counter is a finished layout. -/
theorem Packing.Packed.counts {p : Packing} {placed : List UInt32} (packed : p.Packed placed)
    (closed : p.counters.keys = []) : p.layout.Counts placed := by
  have openEmpty : ∀ name, p.counters.lookup name = none := fun name =>
    AList.lookup_eq_none.mpr fun inside => by rw [AList.mem_keys, closed] at inside; cases inside
  have atSet : ∀ i set, p.layout.sets[i]? = some set → p.countersAt i = set.counters := by
    intro i set found
    unfold Packing.countersAt
    rw [found]
  refine ⟨packed.named, ?_, ?_, packed.absent, ?_, ?_⟩
  · intro chip member
    obtain ⟨i, held, stored⟩ := packed.home chip member
    cases found : p.layout.sets[i]? with
    | none =>
      -- a counter outside the closed sets would be in the open one, which is empty
      unfold Packing.countersAt at stored
      rw [found] at stored
      simp only at stored
      split at stored
      · rw [openEmpty] at stored
        cases stored
      · rw [AList.lookup_empty] at stored
        cases stored
    | some set =>
      rw [atSet i set found] at stored
      refine ⟨set, List.mem_of_getElem? found, ?_, stored⟩
      rw [held, packed.named i set found]
  · intro set member name value stored
    obtain ⟨i, found⟩ := List.mem_iff_getElem?.mp member
    rw [← atSet i set found] at stored
    obtain ⟨chip, inside, nameEq, valueEq, held⟩ := packed.only i name value stored
    exact ⟨chip, inside, nameEq, valueEq, by rw [held, packed.named i set found]⟩
  · intro set member
    obtain ⟨i, found⟩ := List.mem_iff_getElem?.mp member
    rw [← atSet i set found]
    exact packed.small i
  · intro set member
    obtain ⟨i, found⟩ := List.mem_iff_getElem?.mp member
    rw [← atSet i set found]
    exact packed.filled i (List.getElem?_eq_some_iff.mp found).1

/-- **The layout of trays with distinct chip ids counts exactly their chips.** -/
theorem buildChipCounterSets_counts (trays : List TrayGroup)
    (distinct : (Packing.chipsOf trays).Nodup) :
    (buildChipCounterSets trays).Counts (Packing.chipsOf trays) := by
  have packed := (Packing.Packed.addTrays trays Packing.start_packed (by simpa using distinct)).flush
  rw [List.nil_append] at packed
  have counts := packed.counts (Packing.flush_counters _)
  unfold buildChipCounterSets
  split
  · rename_i none
    have empty : trays = [] := List.length_eq_zero_iff.mp none
    subst empty
    exact counts
  · exact counts

namespace CounterLayout.Counts

variable {layout : CounterLayout} {chips : List UInt32} (counts : layout.Counts chips)

include counts

theorem set_eq_of_name {first second : CounterSet} (inFirst : first ∈ layout.sets)
    (inSecond : second ∈ layout.sets) (same : first.name = second.name) : first = second := by
  obtain ⟨i, foundFirst⟩ := List.mem_iff_getElem?.mp inFirst
  obtain ⟨j, foundSecond⟩ := List.mem_iff_getElem?.mp inSecond
  rw [counts.named i first foundFirst, counts.named j second foundSecond] at same
  rw [counterSetName_inj same, foundSecond] at foundFirst
  exact (Option.some.inj foundFirst).symm

/-- A counted chip's set has an index. -/
theorem index {chip : UInt32} (member : chip ∈ chips) :
    ∃ i, layout.setByChip.lookup chip = some (counterSetName i) := by
  obtain ⟨set, inSets, held, _⟩ := counts.home chip member
  obtain ⟨i, found⟩ := List.mem_iff_getElem?.mp inSets
  exact ⟨i, by rw [held, counts.named i set found]⟩

theorem sets_ne_nil {chip : UInt32} (member : chip ∈ chips) : layout.sets ≠ [] := by
  obtain ⟨set, inside, _⟩ := counts.home chip member
  exact List.ne_nil_of_mem inside

end CounterLayout.Counts

/-! ### Consumption -/

/-- The loop state of `chipCounterConsumption`: the sets in order of first use, and the counters
taken from each. -/
structure Consuming where
  order : List String
  bySet : GoMap String (GoMap String ℤ)

namespace Consuming

/-- Nothing taken yet. -/
def start : Consuming := { order := [], bySet := ∅ }

/-- Take one unit of a chip's counter out of the set that holds it. -/
def take (state : Consuming) (set : String) (chipID : UInt32) : Consuming :=
  let state := if set ∈ state.bySet then state
    else { order := state.order ++ [set], bySet := state.bySet.insert set ∅ }
  { order := state.order
    bySet := state.bySet.insert set
      (((state.bySet.lookup set).getD ∅).insert (counterNameForChip chipID) (newCounter 1)) }

/-- One bundle of the loop; a chip without a counter ends it. -/
def step (layout : CounterLayout) (state : Consuming) (bundle : HostBundle) : Option Consuming :=
  (layout.setByChip.lookup bundle.mmio.chipId).map fun set => state.take set bundle.mmio.chipId

/-- What the device declares of one set. -/
def part (state : Consuming) (set : String) : DeviceCounterConsumption :=
  { counterSet := set, counters := (state.bySet.lookup set).getD ∅ }

end Consuming

/-- `none` is the source's `false`: the consumption cannot be declared. -/
def chipCounterConsumption (layout : CounterLayout) (bundles : List HostBundle) :
    Option (List DeviceCounterConsumption) :=
  if layout.sets.length = 0 then some []
  else do
    let state ← bundles.foldlM (Consuming.step layout) Consuming.start
    if maxDeviceCounterConsumptionsPerDevice < state.order.length then none
    else some (state.order.map state.part)

/-- What a list of consumptions takes of one counter of one set. -/
def consumed (consumption : List DeviceCounterConsumption) (set name : String) : ℤ :=
  ((consumption.filter fun part => part.counterSet = set).map fun part =>
    (part.counters.lookup name).getD 0).sum

/-- Some bundle's chip has its counter under this name in this set. -/
def takes (layout : CounterLayout) (bundles : List HostBundle) (set name : String) : Bool :=
  bundles.any fun bundle => decide (layout.setByChip.lookup bundle.chipId = some set) &&
    decide (counterNameForChip bundle.chipId = name)

theorem takes_iff {layout : CounterLayout} {bundles : List HostBundle} {set name : String} :
    takes layout bundles set name = true ↔
      ∃ bundle ∈ bundles, layout.setByChip.lookup bundle.chipId = some set ∧
        counterNameForChip bundle.chipId = name := by
  unfold takes
  simp only [List.any_eq_true, Bool.and_eq_true, decide_eq_true_eq]

theorem takes_append (layout : CounterLayout) (bundles : List HostBundle) (bundle : HostBundle)
    (set name : String) :
    takes layout (bundles ++ [bundle]) set name =
      (takes layout bundles set name || (decide (layout.setByChip.lookup bundle.chipId = some set) &&
        decide (counterNameForChip bundle.chipId = name))) := by
  unfold takes
  simp only [List.any_append, List.any_cons, List.any_nil, Bool.or_false]

namespace Consuming

/-- **What the consumption loop keeps** over the bundles it has seen. -/
structure Holds (layout : CounterLayout) (state : Consuming) (seen : List HostBundle) : Prop where
  nodup : state.order.Nodup
  keys : ∀ set, set ∈ state.order ↔ set ∈ state.bySet
  taken : ∀ set name, ((state.bySet.lookup set).getD ∅).lookup name =
    if takes layout seen set name then some 1 else none
  used : ∀ set ∈ state.order, ∃ bundle ∈ seen, layout.setByChip.lookup bundle.chipId = some set

theorem start_holds (layout : CounterLayout) : start.Holds layout [] where
  nodup := List.nodup_nil
  keys set := by simp [start]
  taken set name := by simp [start, takes]
  used set member := by cases member

theorem order_take (state : Consuming) (set : String) (chipID : UInt32) :
    (state.take set chipID).order = if set ∈ state.bySet then state.order else state.order ++ [set] := by
  unfold take
  by_cases old : set ∈ state.bySet <;> simp only [old, if_true, if_false]

theorem lookup_take (state : Consuming) (set other : String) (chipID : UInt32) :
    (state.take set chipID).bySet.lookup other =
      if other = set then
        some (((state.bySet.lookup set).getD ∅).insert (counterNameForChip chipID) 1)
      else state.bySet.lookup other := by
  unfold take
  by_cases old : set ∈ state.bySet
  · simp only [old, if_true]
    exact lookup_insert_eq _ _ _ _
  · have none : state.bySet.lookup set = none := AList.lookup_eq_none.mpr old
    simp only [old, if_false]
    rw [lookup_insert_eq, AList.lookup_insert, none]
    by_cases same : other = set
    · rw [if_pos same, if_pos same]
      rfl
    · rw [if_neg same, if_neg same, AList.lookup_insert_ne same]

theorem mem_take (state : Consuming) (set other : String) (chipID : UInt32) :
    other ∈ (state.take set chipID).bySet ↔ other = set ∨ other ∈ state.bySet := by
  rw [← AList.lookup_isSome, lookup_take, ← AList.lookup_isSome]
  by_cases same : other = set <;> simp [same]

theorem Holds.take {layout : CounterLayout} {state : Consuming} {seen : List HostBundle}
    (holds : state.Holds layout seen) {bundle : HostBundle} {set : String}
    (found : layout.setByChip.lookup bundle.chipId = some set) :
    (state.take set bundle.chipId).Holds layout (seen ++ [bundle]) where
  nodup := by
    rw [order_take]
    split
    · exact holds.nodup
    · rename_i fresh
      have notOrdered : set ∉ state.order := fun member => fresh ((holds.keys set).mp member)
      exact List.nodup_append.mpr ⟨holds.nodup, List.nodup_singleton set, fun a old b new same =>
        notOrdered (by rw [List.mem_singleton] at new; exact new ▸ same ▸ old)⟩
  keys other := by
    rw [order_take, mem_take]
    by_cases old : set ∈ state.bySet
    · rw [if_pos old, holds.keys other]
      exact ⟨Or.inr, fun either => either.elim (fun same => same ▸ old) id⟩
    · rw [if_neg old, List.mem_append, List.mem_singleton, holds.keys other, or_comm]
  taken other name := by
    rw [lookup_take, takes_append, found]
    by_cases same : other = set
    · subst same
      rw [if_pos rfl, Option.getD_some, lookup_insert_eq, holds.taken other name]
      by_cases own : name = counterNameForChip bundle.chipId
      · subst own
        simp
      · simp [own, Ne.symm own]
    · rw [if_neg same, holds.taken other name]
      simp [Ne.symm same]
  used other member := by
    rw [order_take] at member
    have split : other ∈ state.order ∨ other = set := by
      by_cases old : set ∈ state.bySet
      · rw [if_pos old] at member
        exact Or.inl member
      · rw [if_neg old, List.mem_append, List.mem_singleton] at member
        exact member
    rcases split with old | same
    · obtain ⟨earlier, inside, heldIn⟩ := holds.used other old
      exact ⟨earlier, List.mem_append_left _ inside, heldIn⟩
    · exact ⟨bundle, by simp, by rw [found, same]⟩

/-- The whole loop, over any bundles whose chips all have counters. -/
theorem Holds.run {layout : CounterLayout} : ∀ (bundles : List HostBundle) {state final : Consuming}
    {seen : List HostBundle}, state.Holds layout seen →
      bundles.foldlM (step layout) state = some final → final.Holds layout (seen ++ bundles)
  | [], state, final, seen, holds, ran => by
    cases ran
    simpa using holds
  | bundle :: bundles, state, final, seen, holds, ran => by
    rw [List.foldlM_cons] at ran
    cases found : layout.setByChip.lookup bundle.chipId with
    | none =>
      have stopped : step layout state bundle = none := by
        unfold step
        rw [show bundle.mmio.chipId = bundle.chipId from rfl, found]
        rfl
      rw [stopped] at ran
      cases ran
    | some set =>
      have stepped : step layout state bundle = some (state.take set bundle.chipId) := by
        unfold step
        rw [show bundle.mmio.chipId = bundle.chipId from rfl, found]
        rfl
      rw [stepped] at ran
      rw [List.append_cons]
      exact Holds.run bundles (holds.take found) ran

/-- The loop ends normally when every chip has a counter. -/
theorem run_isSome {layout : CounterLayout} : ∀ (bundles : List HostBundle) (state : Consuming),
    (∀ bundle ∈ bundles, (layout.setByChip.lookup bundle.chipId).isSome) →
      ∃ final, bundles.foldlM (step layout) state = some final
  | [], state, _ => ⟨state, rfl⟩
  | bundle :: bundles, state, counted => by
    obtain ⟨set, found⟩ := Option.isSome_iff_exists.mp (counted bundle List.mem_cons_self)
    have stepped : step layout state bundle = some (state.take set bundle.chipId) := by
      unfold step
      rw [show bundle.mmio.chipId = bundle.chipId from rfl, found]
      rfl
    rw [List.foldlM_cons, stepped]
    exact run_isSome bundles _ fun other member => counted other (List.mem_cons_of_mem _ member)

end Consuming

/-- A consumption is a function of the chip ids. -/
theorem chipCounterConsumption_congr (layout : CounterLayout) {bundles bundles' : List HostBundle}
    (same : bundles.map HostBundle.chipId = bundles'.map HostBundle.chipId) :
    chipCounterConsumption layout bundles = chipCounterConsumption layout bundles' := by
  have byIds : ∀ bundles : List HostBundle,
      bundles.foldlM (Consuming.step layout) Consuming.start =
        (bundles.map HostBundle.chipId).foldlM (fun state chip =>
          (layout.setByChip.lookup chip).map fun set => state.take set chip) Consuming.start := by
    intro bundles
    rw [List.foldlM_map]
    rfl
  unfold chipCounterConsumption
  rw [byIds, byIds, same]

/-- Without counter sets there is nothing to consume. -/
theorem chipCounterConsumption_plain {layout : CounterLayout} (plain : layout.sets = [])
    (bundles : List HostBundle) : chipCounterConsumption layout bundles = some [] := by
  unfold chipCounterConsumption
  exact if_pos (by rw [plain]; rfl)

/-- A declared consumption is a finished loop state, one part a set. -/
theorem chipCounterConsumption_holds {layout : CounterLayout} {bundles : List HostBundle}
    {consumption : List DeviceCounterConsumption} (counted : layout.sets ≠ [])
    (declared : chipCounterConsumption layout bundles = some consumption) :
    ∃ state : Consuming, state.Holds layout bundles ∧
      state.order.length ≤ maxDeviceCounterConsumptionsPerDevice ∧
      consumption = state.order.map state.part := by
  unfold chipCounterConsumption at declared
  rw [if_neg (fun none => counted (List.length_eq_zero_iff.mp none))] at declared
  obtain ⟨state, ran, rest⟩ := Option.bind_eq_some_iff.mp declared
  have holds := Consuming.Holds.run bundles (Consuming.start_holds layout) ran
  rw [List.nil_append] at holds
  split at rest
  · cases rest
  · rename_i few
    exact ⟨state, holds, Nat.le_of_not_gt few, (Option.some.inj rest).symm⟩

/-- **A declared consumption takes one unit of exactly the covered chips' counters.** -/
theorem consumed_chipCounterConsumption {layout : CounterLayout} {bundles : List HostBundle}
    {consumption : List DeviceCounterConsumption} (counted : layout.sets ≠ [])
    (declared : chipCounterConsumption layout bundles = some consumption) (set name : String) :
    consumed consumption set name = if takes layout bundles set name then 1 else 0 := by
  obtain ⟨state, holds, -, rfl⟩ := chipCounterConsumption_holds counted declared
  unfold consumed
  rw [List.filter_map, List.map_map]
  have byName : state.order.filter ((fun part : DeviceCounterConsumption =>
      decide (part.counterSet = set)) ∘ state.part) = if set ∈ state.order then [set] else [] := by
    refine (List.filter_eq set).trans ?_
    rw [List.Nodup.count holds.nodup]
    split <;> rfl
  rw [byName]
  by_cases inside : set ∈ state.order
  · rw [if_pos inside]
    simp only [List.map_cons, List.map_nil, List.sum_cons, List.sum_nil, add_zero,
      Function.comp_apply, Consuming.part, holds.taken set name]
    by_cases taken : takes layout bundles set name = true <;> simp [taken]
  · have untaken := holds.taken set name
    have absent : state.bySet.lookup set = none :=
      AList.lookup_eq_none.mpr fun member => inside ((holds.keys set).mpr member)
    rw [absent, Option.getD_none, AList.lookup_empty] at untaken
    rw [if_neg inside]
    by_cases taken : takes layout bundles set name = true
    · rw [if_pos taken] at untaken
      cases untaken
    · rw [if_neg taken]
      rfl

/-- The counters a list of consumptions names, each with its set. -/
def consumedCounters (consumption : List DeviceCounterConsumption) : List (String × String) :=
  consumption.flatMap fun part => part.counters.keys.map fun name => (part.counterSet, name)

/-- **A declared consumption names exactly the covered chips' counters.** -/
theorem mem_consumedCounters {layout : CounterLayout} {bundles : List HostBundle}
    {consumption : List DeviceCounterConsumption} (counted : layout.sets ≠ [])
    (declared : chipCounterConsumption layout bundles = some consumption) (set name : String) :
    (set, name) ∈ consumedCounters consumption ↔ takes layout bundles set name = true := by
  obtain ⟨state, holds, -, rfl⟩ := chipCounterConsumption_holds counted declared
  have taken := holds.taken set name
  unfold consumedCounters
  simp only [List.mem_flatMap, List.mem_map, Prod.mk.injEq]
  constructor
  · rintro ⟨part, ⟨other, _, rfl⟩, key, keyed, sameSet, rfl⟩
    have same : other = set := sameSet
    subst same
    obtain ⟨value, found⟩ := Option.isSome_iff_exists.mp
      (AList.lookup_isSome.mpr (AList.mem_keys.mp keyed))
    by_contra untaken
    rw [if_neg untaken] at taken
    exact absurd (found.symm.trans taken) (Option.some_ne_none value)
  · intro takesIt
    rw [if_pos takesIt] at taken
    have inside : set ∈ state.order := by
      refine (holds.keys set).mpr (AList.lookup_isSome.mp ?_)
      cases stored : state.bySet.lookup set with
      | none => simp [stored] at taken
      | some counters => rfl
    exact ⟨state.part set, ⟨set, inside, rfl⟩, name,
      AList.mem_keys.mpr (AList.lookup_isSome.mp (Option.isSome_iff_exists.mpr ⟨1, taken⟩)), rfl, rfl⟩

end DraDriver.Tenstorrent
