/-
**The bundles the profile makes of a host's ASICs.**

`bundleHostASICs` makes one bundle an MMIO chip, with the tray's remotes in the bundle of the lowest
location, in chip-id order; `groupBundlesByTray` groups them by tray, in tray-id order.

* **`bundleHostASICs_asics_perm`** — the bundles hold every reachable ASIC exactly once.
* **`bundleHostASICs_anchors_perm`** — every MMIO chip anchors exactly one of them.
* `bundle_eq_of_shared_asic` — with distinct chip ids two bundles share no ASIC.
* **`groupBundlesByTray_perm`**, `trayIDs_nodup` — the groups hold every bundle once, a tray once.
* `bundles_onTray` — the bundles of a tray are those its own ASICs make.
* **`bundling_partition`** — all of it together, for any ASICs.
-/

import DraDriver.Base.GoRuntime
import DraDriver.FabricManager.Topology

namespace DraDriver.Tenstorrent

open DraDriver.Base DraDriver.FabricManager

/-! ### Bundles and trays -/

/-- One MMIO-capable ASIC with the remotes that are reachable only through it. -/
structure HostBundle where
  mmio : AsicInfo
  remotes : List AsicInfo
  deriving DecidableEq, Repr

/-- Every ASIC a bundle hands over. -/
def HostBundle.asics (bundle : HostBundle) : List AsicInfo := bundle.mmio :: bundle.remotes

/-- The chip id that names a bundle. -/
def HostBundle.chipId (bundle : HostBundle) : UInt32 := bundle.mmio.chipId

/-- Every bundle of one physical tray. -/
structure TrayGroup where
  trayID : UInt32
  bundles : List HostBundle
  deriving DecidableEq, Repr

/-- The MMIO chips of a tray and its other ASICs. -/
def splitByMmio (asics : List AsicInfo) : List AsicInfo × List AsicInfo :=
  (asics.filter fun asic => asic.isMmioCapable, asics.filter fun asic => !asic.isMmioCapable)

/-- The bundles of one tray's ASICs: nothing without an MMIO chip, else the first by location with
the remotes, then every other MMIO chip on its own. -/
def bundleTray (rt : Runtime) (group : List AsicInfo) : List HostBundle :=
  match rt.sortSlice (fun asic => asic.asicLocation.toNat) (splitByMmio group).1 with
  | [] => []
  | first :: extras =>
    { mmio := first, remotes := (splitByMmio group).2 } ::
      extras.map fun extra => { mmio := extra, remotes := [] }

/-- The bundles of a host, by the chip ids of their anchors. -/
def bundleHostASICs (rt : Runtime) (asics : List AsicInfo) : List HostBundle :=
  let byTray := groupBy AsicInfo.trayId asics
  let bundles := (rt.range byTray).flatMap fun entry => bundleTray rt entry.2
  rt.sortSlice (fun bundle => bundle.mmio.chipId.toNat) bundles

/-- The trays of a host, by their ids. -/
def groupBundlesByTray (rt : Runtime) (bundles : List HostBundle) : List TrayGroup :=
  let byTray := groupBy (fun bundle : HostBundle => bundle.mmio.trayId) bundles
  let trays := (rt.range byTray).map fun entry => ({ trayID := entry.1, bundles := entry.2 } : TrayGroup)
  rt.sortSlice (fun tray => tray.trayID.toNat) trays

/-! ### The bundles of one tray -/

section OneTray

variable (rt : Runtime) (group : List AsicInfo)

/-- The tray's ASICs when one of them is an MMIO chip, else none: what the bundles hold. -/
theorem bundleTray_asics_perm :
    ((bundleTray rt group).flatMap HostBundle.asics).Perm
      (if group.any (fun asic => asic.isMmioCapable) then group else []) := by
  have sorted := rt.sortSlice_perm (fun asic => asic.asicLocation.toNat) (splitByMmio group).1
  unfold bundleTray
  cases order : rt.sortSlice (fun asic => asic.asicLocation.toNat) (splitByMmio group).1 with
  | nil =>
    rw [order] at sorted
    have noMmio : (splitByMmio group).1 = [] := sorted.symm.eq_nil
    have noAny : group.any (fun asic => asic.isMmioCapable) = false := by
      rw [List.any_eq_false]
      exact fun asic member capable => (List.filter_eq_nil_iff.mp noMmio) asic member capable
    rw [noAny]
    exact List.Perm.refl _
  | cons first extras =>
    rw [order] at sorted
    have someMmio : group.any (fun asic => asic.isMmioCapable) = true := by
      have member : first ∈ (splitByMmio group).1 := sorted.mem_iff.mp List.mem_cons_self
      exact List.any_eq_true.mpr ⟨first, List.mem_of_mem_filter member, (List.mem_filter.mp member).2⟩
    have singles : (extras.map fun extra => ({ mmio := extra, remotes := [] } : HostBundle)).flatMap
        HostBundle.asics = extras := by
      rw [List.flatMap_map]
      exact List.flatMap_singleton' extras
    rw [if_pos someMmio, List.flatMap_cons, singles]
    have moved : (HostBundle.asics ⟨first, (splitByMmio group).2⟩ ++ extras).Perm
        ((first :: extras) ++ (splitByMmio group).2) :=
      List.Perm.cons first List.perm_append_comm
    refine moved.trans ((sorted.append_right _).trans ?_)
    exact List.filter_append_perm _ group

theorem bundleTray_anchors_perm :
    ((bundleTray rt group).map HostBundle.mmio).Perm
      (group.filter fun asic => asic.isMmioCapable) := by
  have sorted := rt.sortSlice_perm (fun asic => asic.asicLocation.toNat) (splitByMmio group).1
  unfold bundleTray
  cases order : rt.sortSlice (fun asic => asic.asicLocation.toNat) (splitByMmio group).1 with
  | nil =>
    rw [order] at sorted
    exact sorted
  | cons first extras =>
    rw [order] at sorted
    rw [List.map_cons, List.map_map]
    have anchors : extras.map (HostBundle.mmio ∘ fun extra => ({ mmio := extra, remotes := [] } :
        HostBundle)) = extras := List.map_id extras
    rw [anchors]
    exact sorted

/-- A bundle is anchored on an ASIC of the tray. -/
theorem bundleTray_anchor {bundle : HostBundle} (member : bundle ∈ bundleTray rt group) :
    bundle.mmio ∈ group :=
  List.mem_of_mem_filter ((bundleTray_anchors_perm rt group).mem_iff.mp
    (List.mem_map_of_mem (f := HostBundle.mmio) member))

theorem bundleTray_nil : bundleTray rt [] = [] := by
  have anchors := (bundleTray_anchors_perm rt []).eq_nil
  exact List.map_eq_nil_iff.mp anchors

/-- **The first bundle of a tray has all the remotes** and is anchored at the lowest location. -/
theorem bundleTray_adopter {asic : AsicInfo} (inside : asic ∈ group)
    (capable : asic.isMmioCapable = true) :
    ∃ adopter extras, bundleTray rt group = adopter :: extras ∧
      adopter.remotes = group.filter (fun asic => !asic.isMmioCapable) ∧
      (∀ extra ∈ extras, extra.remotes = []) ∧
      ∀ other ∈ group, other.isMmioCapable = true →
        adopter.mmio.asicLocation ≤ other.asicLocation := by
  have sorted := rt.sortSlice_perm (fun asic => asic.asicLocation.toNat) (splitByMmio group).1
  have ordered := rt.sortSlice_sorted (fun asic => asic.asicLocation.toNat) (splitByMmio group).1
  unfold bundleTray
  cases order : rt.sortSlice (fun asic => asic.asicLocation.toNat) (splitByMmio group).1 with
  | nil =>
    rw [order] at sorted
    have member : asic ∈ (splitByMmio group).1 := List.mem_filter.mpr ⟨inside, capable⟩
    rw [sorted.symm.eq_nil] at member
    cases member
  | cons first extras =>
    rw [order] at sorted ordered
    refine ⟨_, _, rfl, rfl, ?_, ?_⟩
    · intro extra member
      obtain ⟨mmio, _, rfl⟩ := List.mem_map.mp member
      rfl
    · intro other member capable
      have listed := sorted.mem_iff.mpr (List.mem_filter.mpr ⟨member, capable⟩)
      rcases List.mem_cons.mp listed with same | later
      · exact same ▸ UInt32.le_refl _
      · exact UInt32.le_iff_toNat_le.mpr ((List.pairwise_cons.mp ordered).1 other later)

/-- Every remote of a bundle is a non-MMIO ASIC of the tray. -/
theorem bundleTray_remotes {bundle : HostBundle} (member : bundle ∈ bundleTray rt group) :
    ∀ remote ∈ bundle.remotes, remote ∈ group ∧ remote.isMmioCapable = false := by
  unfold bundleTray at member
  cases order : rt.sortSlice (fun asic => asic.asicLocation.toNat) (splitByMmio group).1 with
  | nil =>
    rw [order] at member
    cases member
  | cons first extras =>
    rw [order] at member
    rcases List.mem_cons.mp member with rfl | member
    · intro remote inside
      have split := List.mem_filter.mp inside
      exact ⟨split.1, by simpa using split.2⟩
    · obtain ⟨extra, _, rfl⟩ := List.mem_map.mp member
      intro remote inside
      cases inside

end OneTray

/-! ### The bundles of the host -/

section Host

variable (rt : Runtime) (asics : List AsicInfo)

/-- Some MMIO chip shares the ASIC's tray, so that it can be opened from a container. -/
def Reachable (asic : AsicInfo) : Bool :=
  asics.any fun other => other.isMmioCapable && decide (other.trayId = asic.trayId)

theorem mem_bundleHostASICs {bundle : HostBundle} :
    bundle ∈ bundleHostASICs rt asics ↔
      ∃ tray group, (groupBy AsicInfo.trayId asics).lookup tray = some group ∧
        bundle ∈ bundleTray rt group := by
  unfold bundleHostASICs
  rw [Runtime.mem_sortSlice, List.mem_flatMap]
  constructor
  · rintro ⟨⟨tray, group⟩, visited, member⟩
    exact ⟨tray, group, (mem_range_iff rt _ tray group).mp visited, member⟩
  · rintro ⟨tray, group, found, member⟩
    exact ⟨(tray, group), (mem_range_iff rt _ tray group).mpr found, member⟩

/-- **The bundles of one tray are those its own ASICs make.** -/
theorem bundles_onTray (tray : UInt32) :
    ((bundleHostASICs rt asics).filter fun bundle => bundle.mmio.trayId = tray).Perm
      (bundleTray rt (asics.filter fun asic => asic.trayId = tray)) := by
  have sorted := (rt.sortSlice_perm (fun bundle : HostBundle => bundle.mmio.chipId.toNat)
    ((rt.range (groupBy AsicInfo.trayId asics)).flatMap fun entry => bundleTray rt entry.2)).filter
      fun bundle => bundle.mmio.trayId = tray
  refine sorted.trans ?_
  rw [List.filter_flatMap]
  -- a group keeps all of its bundles or none of them
  have ofGroup : ∀ entry ∈ rt.range (groupBy AsicInfo.trayId asics), ∀ bundle ∈ bundleTray rt entry.2,
      bundle.mmio.trayId = entry.1 := by
    rintro ⟨other, group⟩ visited bundle member
    obtain ⟨same, _⟩ := mem_groupBy ((mem_range_iff rt _ other group).mp visited)
    have inside := bundleTray_anchor rt group member
    rw [same] at inside
    simpa using (List.mem_filter.mp inside).2
  have otherGroup : ∀ entry ∈ rt.range (groupBy AsicInfo.trayId asics), entry.1 ≠ tray →
      (bundleTray rt entry.2).filter (fun bundle => bundle.mmio.trayId = tray) = [] := by
    intro entry visited other
    refine List.filter_eq_nil_iff.mpr fun bundle member => ?_
    rw [ofGroup entry visited bundle member]
    simpa using other
  cases found : (groupBy AsicInfo.trayId asics).lookup tray with
  | none =>
    have noAsics : asics.filter (fun asic => asic.trayId = tray) = [] := by
      rw [lookup_groupBy] at found
      by_contra some
      rw [if_neg some] at found
      cases found
    have visited : ∀ entry ∈ rt.range (groupBy AsicInfo.trayId asics), entry.1 ≠ tray := by
      rintro ⟨other, group⟩ visited rfl
      rw [mem_range_iff, found] at visited
      cases visited
    rw [noAsics, bundleTray_nil, List.flatMap_eq_nil_iff.mpr fun entry visit =>
      otherGroup entry visit (visited entry visit)]
  | some group =>
    obtain ⟨same, _⟩ := mem_groupBy found
    obtain ⟨rest, split, others⟩ := range_split rt found
    refine (split.flatMap_right _).trans ?_
    have whole : (bundleTray rt group).filter (fun bundle => bundle.mmio.trayId = tray) =
        bundleTray rt group :=
      List.filter_eq_self.mpr fun bundle member => by
        simpa using ofGroup (tray, group) ((mem_range_iff rt _ _ _).mpr found) bundle member
    rw [List.flatMap_cons, whole, List.flatMap_eq_nil_iff.mpr fun entry visit =>
      otherGroup entry (split.mem_iff.mpr (List.mem_cons_of_mem _ visit)) (others entry visit),
      List.append_nil, same]

/-- **The bundles hold the reachable ASICs, each exactly once.** -/
theorem bundleHostASICs_asics_perm :
    ((bundleHostASICs rt asics).flatMap HostBundle.asics).Perm
      (asics.filter (Reachable asics)) := by
  have sorted := (rt.sortSlice_perm (fun bundle : HostBundle => bundle.mmio.chipId.toNat)
    ((rt.range (groupBy AsicInfo.trayId asics)).flatMap fun entry => bundleTray rt entry.2)).flatMap_right
      HostBundle.asics
  refine sorted.trans ?_
  rw [List.flatMap_assoc]
  -- inside one group the tray is fixed, so keeping the whole group is filtering it by reachability
  have perGroup : ∀ entry ∈ rt.range (groupBy AsicInfo.trayId asics),
      ((bundleTray rt entry.2).flatMap HostBundle.asics).Perm
        (entry.2.filter (Reachable asics)) := by
    rintro ⟨tray, group⟩ visited
    obtain ⟨same, _⟩ := mem_groupBy ((mem_range_iff rt _ tray group).mp visited)
    refine (bundleTray_asics_perm rt group).trans ?_
    have constant : ∀ asic ∈ group, Reachable asics asic =
        group.any (fun other => other.isMmioCapable) := by
      intro asic member
      rw [same] at member
      have onTray : asic.trayId = tray := by simpa using (List.mem_filter.mp member).2
      rw [Reachable, same, List.any_filter, onTray]
      congr 1
      funext other
      exact Bool.and_comm _ _
    by_cases some : group.any (fun other => other.isMmioCapable) = true
    · have keep : group.filter (Reachable asics) = group :=
        List.filter_eq_self.mpr fun asic member => by rw [constant asic member, some]
      rw [if_pos some]
      show group.Perm (group.filter (Reachable asics))
      rw [keep]
    · have drop : group.filter (Reachable asics) = [] :=
        List.filter_eq_nil_iff.mpr fun asic member => by rw [constant asic member]; exact some
      rw [if_neg some]
      show [].Perm (group.filter (Reachable asics))
      rw [drop]
  refine (List.Perm.flatMap_left _ perGroup).trans ?_
  have whole := (range_groupBy_perm rt AsicInfo.trayId asics).filter (Reachable asics)
  rwa [List.filter_flatMap] at whole

/-- **Every MMIO chip anchors exactly one bundle.** -/
theorem bundleHostASICs_anchors_perm :
    ((bundleHostASICs rt asics).map HostBundle.mmio).Perm
      (asics.filter fun asic => asic.isMmioCapable) := by
  have sorted := (rt.sortSlice_perm (fun bundle : HostBundle => bundle.mmio.chipId.toNat)
    ((rt.range (groupBy AsicInfo.trayId asics)).flatMap fun entry => bundleTray rt entry.2)).map
      HostBundle.mmio
  refine sorted.trans ?_
  rw [List.map_flatMap]
  refine (List.Perm.flatMap_left _ fun entry _ => bundleTray_anchors_perm rt entry.2).trans ?_
  have whole := (range_groupBy_perm rt AsicInfo.trayId asics).filter fun asic => asic.isMmioCapable
  rwa [List.filter_flatMap] at whole

/-- A bundle is anchored on an MMIO chip of the host. -/
theorem bundle_anchor {bundle : HostBundle} (member : bundle ∈ bundleHostASICs rt asics) :
    bundle.mmio ∈ asics ∧ bundle.mmio.isMmioCapable = true := by
  have anchored := (bundleHostASICs_anchors_perm rt asics).mem_iff.mp
    (List.mem_map_of_mem (f := HostBundle.mmio) member)
  exact List.mem_filter.mp anchored

/-- Bundles come in ascending chip-id order. -/
theorem bundleHostASICs_sorted :
    (bundleHostASICs rt asics).Pairwise fun a b => a.mmio.chipId.toNat ≤ b.mmio.chipId.toNat :=
  rt.sortSlice_sorted _ _

variable {asics}

/-- Distinct chip ids make distinct bundle names. -/
theorem bundle_chipIds_nodup (distinct : (asics.map AsicInfo.chipId).Nodup) :
    ((bundleHostASICs rt asics).map HostBundle.chipId).Nodup := by
  have anchors := (bundleHostASICs_anchors_perm rt asics).map AsicInfo.chipId
  rw [List.map_map] at anchors
  refine anchors.nodup_iff.mpr ?_
  exact distinct.sublist (List.filter_sublist.map _)

/-- Distinct chip ids put an ASIC in at most one bundle. -/
theorem bundle_eq_of_shared_asic (distinct : (asics.map AsicInfo.chipId).Nodup)
    {first second : HostBundle} (inFirst : first ∈ bundleHostASICs rt asics)
    (inSecond : second ∈ bundleHostASICs rt asics) {asic : AsicInfo}
    (ofFirst : asic ∈ first.asics) (ofSecond : asic ∈ second.asics) : first = second := by
  have once : ((bundleHostASICs rt asics).flatMap HostBundle.asics).Nodup :=
    (bundleHostASICs_asics_perm rt asics).nodup_iff.mpr (distinct.of_map.filter _)
  have apart := (List.nodup_flatMap.mp once).2
  have symmetric : Std.Symm (Function.onFun List.Disjoint HostBundle.asics) :=
    ⟨fun _ _ disjoint => List.Disjoint.symm disjoint⟩
  by_contra different
  exact apart.forall inFirst inSecond different ofFirst ofSecond

end Host

/-! ### The trays of the host -/

section Trays

variable (rt : Runtime) (bundles : List HostBundle)

theorem mem_groupBundlesByTray {tray : TrayGroup} :
    tray ∈ groupBundlesByTray rt bundles ↔
      (groupBy (fun bundle : HostBundle => bundle.mmio.trayId) bundles).lookup tray.trayID =
        some tray.bundles := by
  unfold groupBundlesByTray
  rw [Runtime.mem_sortSlice, List.mem_map]
  constructor
  · rintro ⟨⟨trayID, group⟩, visited, rfl⟩
    exact (mem_range_iff rt _ trayID group).mp visited
  · intro found
    exact ⟨(tray.trayID, tray.bundles), (mem_range_iff rt _ _ _).mpr found, rfl⟩

/-- A tray's group is the bundles of that tray, in the order they came, and never empty. -/
theorem trayGroup_bundles {tray : TrayGroup} (member : tray ∈ groupBundlesByTray rt bundles) :
    tray.bundles = bundles.filter (fun bundle => bundle.mmio.trayId = tray.trayID) ∧
      tray.bundles ≠ [] :=
  mem_groupBy ((mem_groupBundlesByTray rt bundles).mp member)

/-- **The groups hold every bundle exactly once.** -/
theorem groupBundlesByTray_perm :
    ((groupBundlesByTray rt bundles).flatMap TrayGroup.bundles).Perm bundles := by
  have sorted := (rt.sortSlice_perm (fun tray : TrayGroup => tray.trayID.toNat)
    ((rt.range (groupBy (fun bundle : HostBundle => bundle.mmio.trayId) bundles)).map fun entry =>
      ({ trayID := entry.1, bundles := entry.2 } : TrayGroup))).flatMap_right TrayGroup.bundles
  refine sorted.trans ?_
  rw [List.flatMap_map]
  exact range_groupBy_perm rt _ bundles

theorem groupBundlesByTray_sorted :
    (groupBundlesByTray rt bundles).Pairwise fun a b => a.trayID.toNat ≤ b.trayID.toNat :=
  rt.sortSlice_sorted _ _

/-- **No two groups are of one tray.** -/
theorem trayIDs_nodup : ((groupBundlesByTray rt bundles).map TrayGroup.trayID).Nodup := by
  have sorted := (rt.sortSlice_perm (fun tray : TrayGroup => tray.trayID.toNat)
    ((rt.range (groupBy (fun bundle : HostBundle => bundle.mmio.trayId) bundles)).map fun entry =>
      ({ trayID := entry.1, bundles := entry.2 } : TrayGroup))).map TrayGroup.trayID
  refine sorted.nodup_iff.mpr ?_
  rw [List.map_map]
  exact rt.range_keys_nodup _

/-- Groups come in strictly ascending tray-id order. -/
theorem trayIDs_increasing :
    (groupBundlesByTray rt bundles).Pairwise fun a b => a.trayID < b.trayID := by
  have apart := List.pairwise_map.mp (trayIDs_nodup rt bundles)
  refine ((groupBundlesByTray_sorted rt bundles).and apart).imp ?_
  rintro a b ⟨below, ne⟩
  exact UInt32.lt_iff_toNat_lt.mpr
    (lt_of_le_of_ne below fun same => ne (UInt32.toNat_inj.mp same))

end Trays

/-! ### The partition -/

/-- The bundle of a tray that adopts its remotes: it has them all, the tray's other bundles have
none, and its anchor has the lowest location of the tray's MMIO chips. -/
structure Adopter (asics : List AsicInfo) (bundles : List HostBundle) (tray : UInt32)
    (adopter : HostBundle) : Prop where
  onTray : adopter.mmio.trayId = tray
  all : adopter.remotes = asics.filter fun asic => asic.trayId = tray ∧ asic.isMmioCapable = false
  lowest : ∀ asic ∈ asics, asic.trayId = tray → asic.isMmioCapable = true →
    adopter.mmio.asicLocation ≤ asic.asicLocation
  alone : ∃ extras, (bundles.filter fun bundle => bundle.mmio.trayId = tray).Perm (adopter :: extras) ∧
    ∀ extra ∈ extras, extra.remotes = []

theorem exists_adopter (rt : Runtime) {asics : List AsicInfo} {asic : AsicInfo} (inside : asic ∈ asics)
    (capable : asic.isMmioCapable = true) :
    ∃ adopter, Adopter asics (bundleHostASICs rt asics) asic.trayId adopter := by
  obtain ⟨adopter, extras, bundled, remotes, none, lowest⟩ := bundleTray_adopter rt
    (asics.filter fun other => other.trayId = asic.trayId)
    (List.mem_filter.mpr ⟨inside, by simp⟩) capable
  have anchored := bundleTray_anchor rt _ (bundled ▸ List.mem_cons_self)
  refine ⟨adopter, by simpa using (List.mem_filter.mp anchored).2, ?_, ?_, extras, ?_, none⟩
  · rw [remotes, List.filter_filter]
    congr 1
    funext other
    cases other.isMmioCapable <;> simp
  · intro other member onTray isMmio
    exact lowest other (List.mem_filter.mpr ⟨member, by simpa using onTray⟩) isMmio
  · rw [← bundled]
    exact bundles_onTray rt asics asic.trayId

/-- **Bundling is an exact partition.** For any ASICs, the bundles hold, with multiplicity, exactly
those on trays with an MMIO chip; every MMIO chip anchors one bundle; remotes are non-MMIO chips of
their anchor's tray, all of a tray's in the bundle at its lowest MMIO location; bundles come by chip
id; and the groups are the bundles of each tray, by tray id, in that same order. -/
theorem bundling_partition (rt rt' : Runtime) (asics : List AsicInfo) :
    ((bundleHostASICs rt asics).flatMap HostBundle.asics).Perm (asics.filter (Reachable asics)) ∧
    ((bundleHostASICs rt asics).map HostBundle.mmio).Perm
      (asics.filter fun asic => asic.isMmioCapable) ∧
    (∀ bundle ∈ bundleHostASICs rt asics, bundle.mmio.isMmioCapable = true ∧
      ∀ remote ∈ bundle.remotes, remote.isMmioCapable = false ∧
        remote.trayId = bundle.mmio.trayId) ∧
    (∀ asic ∈ asics, asic.isMmioCapable = true →
      ∃ adopter, Adopter asics (bundleHostASICs rt asics) asic.trayId adopter) ∧
    (bundleHostASICs rt asics).Pairwise (fun a b => a.mmio.chipId ≤ b.mmio.chipId) ∧
    ((groupBundlesByTray rt' (bundleHostASICs rt asics)).flatMap TrayGroup.bundles).Perm
      (bundleHostASICs rt asics) ∧
    (groupBundlesByTray rt' (bundleHostASICs rt asics)).Pairwise (fun a b => a.trayID < b.trayID) ∧
    ∀ tray ∈ groupBundlesByTray rt' (bundleHostASICs rt asics), tray.bundles ≠ [] ∧
      tray.bundles = (bundleHostASICs rt asics).filter fun bundle => bundle.mmio.trayId = tray.trayID := by
  refine ⟨bundleHostASICs_asics_perm rt asics, bundleHostASICs_anchors_perm rt asics, ?_,
    fun asic inside capable => exists_adopter rt inside capable, ?_, groupBundlesByTray_perm rt' _,
    trayIDs_increasing rt' _, fun tray member => ?_⟩
  · intro bundle member
    refine ⟨(bundle_anchor rt asics member).2, fun remote inside => ?_⟩
    obtain ⟨tray, group, found, member⟩ := (mem_bundleHostASICs rt asics).mp member
    obtain ⟨same, _⟩ := mem_groupBy found
    obtain ⟨inGroup, notMmio⟩ := bundleTray_remotes rt group member remote inside
    have anchored := bundleTray_anchor rt group member
    rw [same] at inGroup anchored
    have onTray : remote.trayId = tray := by simpa using (List.mem_filter.mp inGroup).2
    have anchorOnTray : bundle.mmio.trayId = tray := by simpa using (List.mem_filter.mp anchored).2
    exact ⟨notMmio, onTray.trans anchorOnTray.symm⟩
  · exact (bundleHostASICs_sorted rt asics).imp fun below => UInt32.le_iff_toNat_le.mpr below
  · obtain ⟨grouped, some⟩ := trayGroup_bundles rt' _ member
    exact ⟨some, grouped⟩

end DraDriver.Tenstorrent
