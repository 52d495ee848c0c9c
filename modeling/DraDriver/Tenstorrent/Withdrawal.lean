/-
**Allocations across topologies.**

An allocation stays when the topology changes: the scheduler knows of it only through the device that
the next topology publishes under the allocated name, and a pod that is prepared later gets the chips
which that device has then. The host's chips come and go and links go down, but a chip stays on its tray.

* `Belongs` — the chips that can come under a name: its own chip, chips of its tray, or those of a mesh.
* `listed_of_belongs` — a topology that has a chip of an allocated chip or tray device has the device too,
  and the chip in it.
* **`exclusion_across_topologies`** — without mesh devices no MMIO chip ever comes under two allocations,
  unless a chip comes back to its tray while it is still allocated: `returned_shared` is such a run.
* **`exclusion_kept_iff`** — with mesh devices exactly as long as no topology has a chip of an allocated
  mesh outside the mesh: `cutLink_unguarded` is a host where one link is enough.
-/

import DraDriver.Base.Offer
import DraDriver.Tenstorrent.Exclusion
import DraDriver.Tenstorrent.MeshGrid

namespace DraDriver.Tenstorrent

open DraDriver.Base DraDriver.FabricManager

/-! ### What a topology offers -/

/-- The pool a topology is published as, and the MMIO chips of each device. -/
def hostOffer (rt : Runtime) (nodeName : String) (opts : Options) (topo : HostPhysicalTopology) :
    Offer Device (String × String) String UInt32 :=
  let applied := applyTopology rt (newProfile nodeName opts) topo
  { pool := counterPool (poolOf applied.1 nodeName)
    name := Device.name
    parts := fun device => (applied.2.bundlesOf device).map HostBundle.chipId }

/-- A topology of a host whose chips stay on their trays, of at most 64 chips each. -/
structure OnTrays (trayOf : UInt32 → UInt32) (topo : HostPhysicalTopology) : Prop where
  distinct : topo.ChipIdsDistinct
  stays : ∀ asic ∈ topo.mmioAsics, asic.trayId = trayOf asic.chipId
  small : ∀ tray, (mmioOn topo tray).length ≤ 64

section Offered

variable {rt : Runtime} {nodeName : String} {opts : Options} {topo : HostPhysicalTopology}

/-- A published device, with the unit it was enumerated with. -/
theorem mem_listed {device : Device} (listed : device ∈ (hostOffer rt nodeName opts topo).pool.listed) :
    ∃ unit, (device, unit) ∈ ((newProfile nodeName opts).enumerate rt topo).units :=
  mem_published rt (newProfile nodeName opts) listed

theorem listed_of_mem {device : Device} {unit : AllocatableUnit}
    (member : (device, unit) ∈ ((newProfile nodeName opts).enumerate rt topo).units) :
    device ∈ (hostOffer rt nodeName opts topo).pool.listed := by
  have published : (hostOffer rt nodeName opts topo).pool.listed =
      ((newProfile nodeName opts).enumerate rt topo).units.map Prod.fst :=
    publishedDevices_applyTopology rt (newProfile nodeName opts) topo
  rw [published]
  exact List.mem_map_of_mem (f := Prod.fst) member

theorem parts_of_mem (distinct : topo.ChipIdsDistinct) {device : Device} {unit : AllocatableUnit}
    (member : (device, unit) ∈ ((newProfile nodeName opts).enumerate rt topo).units) :
    (hostOffer rt nodeName opts topo).parts device = unit.bundles.map HostBundle.chipId :=
  congrArg (List.map HostBundle.chipId) (bundlesOf_applyTopology rt (newProfile nodeName opts) distinct member)

variable (nodeName opts) in
/-- Every MMIO chip has its own device. -/
theorem chip_listed (distinct : topo.ChipIdsDistinct) {bundle : HostBundle}
    (inside : bundle ∈ hostBundles rt topo) :
    ∃ device ∈ (hostOffer rt nodeName opts topo).pool.listed,
      device.name = deviceNameForChip bundle.chipId ∧
        (hostOffer rt nodeName opts topo).parts device = [bundle.chipId] := by
  have member : chipEntry ((newProfile nodeName opts).enumerate rt topo).layout bundle ∈
      ((newProfile nodeName opts).enumerate rt topo).units :=
    List.mem_append_left _ (List.mem_append_left _ (List.mem_map_of_mem inside))
  exact ⟨_, listed_of_mem member, rfl, parts_of_mem distinct member⟩

/-- The chips on offer are the host's MMIO chips. -/
theorem has_iff (distinct : topo.ChipIdsDistinct) {chip : UInt32} :
    (hostOffer rt nodeName opts topo).Has chip ↔ ∃ bundle ∈ hostBundles rt topo, bundle.chipId = chip := by
  constructor
  · rintro ⟨device, listed, inside⟩
    obtain ⟨unit, member⟩ := mem_listed listed
    rw [parts_of_mem distinct member] at inside
    obtain ⟨bundle, covers, same⟩ := List.mem_map.mp inside
    exact ⟨bundle, enumerate_inside rt _ member covers, same⟩
  · rintro ⟨bundle, inside, rfl⟩
    obtain ⟨device, listed, -, only⟩ := chip_listed nodeName opts distinct inside
    exact ⟨device, listed, only ▸ List.mem_singleton_self _⟩

theorem hostOffer_sound (distinct : topo.ChipIdsDistinct) : (hostOffer rt nodeName opts topo).Sound where
  named device listed device' listed' same := by
    obtain ⟨unit, member⟩ := mem_listed listed
    obtain ⟨unit', member'⟩ := mem_listed listed'
    have names := enumerate_names_nodup rt (newProfile nodeName opts) distinct
    exact congrArg Prod.fst (List.inj_on_of_nodup_map names member member' same)
  scheme := by
    have covers : (fun device chip => chip ∈ (hostOffer rt nodeName opts topo).parts device) =
        (applyTopology rt (newProfile nodeName opts) topo).2.Covers := by
      funext device chip
      exact propext List.mem_map
    rw [covers]
    exact published_scheme rt (newProfile nodeName opts) distinct
  alone chip has := by
    obtain ⟨bundle, inside, rfl⟩ := (has_iff distinct).mp has
    obtain ⟨device, listed, -, only⟩ := chip_listed nodeName opts distinct inside
    exact ⟨device, listed, only⟩

end Offered

/-! ### What comes under a name -/

/-- **The chips that can come under a device name.** -/
inductive Belongs (opts : Options) (trayOf : UInt32 → UInt32) : String → UInt32 → Prop
  | chip (chip : UInt32) : Belongs opts trayOf (deviceNameForChip chip) chip
  | tray (chip : UInt32) (on : opts.trayDevices = true) :
      Belongs opts trayOf (deviceNameForTray (trayOf chip)) chip
  | mesh (origin chip : UInt32) (on : opts.meshDevices = true) :
      Belongs opts trayOf (deviceNameForMesh "4x2h" origin) chip

section Names

variable {rt : Runtime} {nodeName : String} {opts : Options} {topo : HostPhysicalTopology}
  {trayOf : UInt32 → UInt32}

/-- Under a chip's name comes that chip alone. -/
theorem Belongs.chip_eq {name : String} {chip own : UInt32} (belongs : Belongs opts trayOf name chip)
    (named : name = deviceNameForChip own) : chip = own := by
  cases belongs with
  | chip => exact deviceNameForChip_inj named
  | tray => exact absurd named.symm (chipName_ne_trayName _ _)
  | mesh => exact absurd named.symm (chipName_ne_meshName _ _ _)

theorem OnTrays.bundle (fixed : OnTrays trayOf topo) {bundle : HostBundle}
    (inside : bundle ∈ hostBundles rt topo) : bundle.mmio.trayId = trayOf bundle.chipId :=
  fixed.stays bundle.mmio (List.mem_filter.mpr (bundle_anchor rt topo.asics inside))

/-- Every device on offer has chips that belong to its name. -/
theorem belongs_of_listed (fixed : OnTrays trayOf topo) {device : Device}
    (listed : device ∈ (hostOffer rt nodeName opts topo).pool.listed) {chip : UInt32}
    (inside : chip ∈ (hostOffer rt nodeName opts topo).parts device) :
    Belongs opts trayOf device.name chip := by
  obtain ⟨unit, member⟩ := mem_listed listed
  rw [parts_of_mem fixed.distinct member] at inside
  rcases mem_enumerate rt _ member with ⟨bundle, _, same⟩ | ⟨on, tray, held, built⟩ | ⟨on, mesh⟩
  · obtain ⟨rfl, rfl⟩ := Prod.mk.inj same
    cases List.mem_singleton.mp inside
    exact .chip bundle.chipId
  · obtain ⟨named, covered, -⟩ := trayEntry_spec built
    obtain ⟨bundle, grouped, rfl⟩ := List.mem_map.mp inside
    have grouped : bundle ∈ tray.bundles := covered ▸ grouped
    rw [(trayGroup_bundles rt _ held).1] at grouped
    obtain ⟨here, onTray⟩ := List.mem_filter.mp grouped
    have stays : tray.trayID = trayOf bundle.chipId :=
      (of_decide_eq_true onTray).symm.trans (fixed.bundle here)
    have named : device.name = deviceNameForTray tray.trayID := named
    rw [named, stays]
    exact .tray bundle.chipId on
  · obtain ⟨origin, named⟩ := meshEntry_name rt mesh
    have named : device.name = deviceNameForMesh "4x2h" origin := named
    rw [named]
    exact .mesh origin chip on

variable (nodeName) in
/-- A tray device covers all chips of its tray. -/
theorem tray_listed (fixed : OnTrays trayOf topo) (on : opts.trayDevices = true) {bundle : HostBundle}
    (inside : bundle ∈ hostBundles rt topo) :
    ∃ device ∈ (hostOffer rt nodeName opts topo).pool.listed,
      device.name = deviceNameForTray bundle.mmio.trayId ∧
        bundle.chipId ∈ (hostOffer rt nodeName opts topo).parts device := by
  have anchored := bundle_anchor rt topo.asics inside
  have some : bundle.mmio ∈ mmioOn topo bundle.mmio.trayId :=
    List.mem_filter.mpr ⟨List.mem_filter.mpr anchored, by simp⟩
  obtain ⟨device, listed, named⟩ := (trayDevice_published_iff rt (newProfile nodeName opts)
    fixed.distinct.mmio on bundle.mmio.trayId).mpr ⟨List.length_pos_of_mem some, fixed.small _⟩
  obtain ⟨unit, member⟩ := mem_published rt (newProfile nodeName opts) listed
  refine ⟨device, listed, named, ?_⟩
  rw [parts_of_mem fixed.distinct member]
  rcases mem_enumerate rt _ member with ⟨other, _, same⟩ | ⟨_, tray, held, built⟩ | ⟨_, mesh⟩
  · obtain ⟨rfl, rfl⟩ := Prod.mk.inj same
    exact absurd named (chipName_ne_trayName _ _)
  · obtain ⟨named', covered, -⟩ := trayEntry_spec built
    have own : tray.trayID = bundle.mmio.trayId := deviceNameForTray_inj (named'.symm.trans named)
    have covered : unit.bundles = tray.bundles := covered
    rw [covered, (trayGroup_bundles rt _ held).1]
    exact List.mem_map_of_mem (List.mem_filter.mpr ⟨inside, decide_eq_true own.symm⟩)
  · obtain ⟨origin, named'⟩ := meshEntry_name rt mesh
    exact absurd (named.symm.trans named') (trayName_ne_meshName _ _ _)

/-- **A chip is offered under every name it belongs to**, but for meshes. -/
theorem listed_of_belongs (fixed : OnTrays trayOf topo) {name : String} {chip : UInt32}
    (belongs : Belongs opts trayOf name chip) (noMesh : ∀ origin, name ≠ deviceNameForMesh "4x2h" origin)
    (has : (hostOffer rt nodeName opts topo).Has chip) :
    ∃ device ∈ (hostOffer rt nodeName opts topo).pool.listed, device.name = name ∧
      chip ∈ (hostOffer rt nodeName opts topo).parts device := by
  obtain ⟨bundle, inside, rfl⟩ := (has_iff fixed.distinct).mp has
  cases belongs with
  | chip =>
    obtain ⟨device, listed, named, only⟩ := chip_listed nodeName opts fixed.distinct inside
    exact ⟨device, listed, named, only ▸ List.mem_singleton_self _⟩
  | tray _ on =>
    obtain ⟨device, listed, named, covers⟩ := tray_listed nodeName fixed on inside
    rw [fixed.bundle inside] at named
    exact ⟨device, listed, named, covers⟩
  | mesh origin => exact absurd rfl (noMesh origin)

/-- Without mesh devices no chip belongs to a mesh. -/
theorem Belongs.noMesh {name : String} {chip : UInt32} (belongs : Belongs opts trayOf name chip)
    (off : opts.meshDevices = false) (origin : UInt32) : name ≠ deviceNameForMesh "4x2h" origin := by
  cases belongs with
  | chip => exact chipName_ne_meshName _ _ _
  | tray => exact trayName_ne_meshName _ _ _
  | mesh _ _ on =>
    rw [off] at on
    cases on

end Names

/-! ### Runs -/

/-- What happens to a host and its pool. -/
inductive HostEvent
  | topology (rt : Runtime) (topo : HostPhysicalTopology)
  | serve (action : Offer.Action Device String)

/-- What is offered, and the allocations with the chips that have come under each. -/
structure HostPool where
  offer : Offer Device (String × String) String UInt32
  grants : List (Grant String UInt32)

/-- **One event of a host**: another topology, or a step of the scheduler on the last one. -/
inductive HostStep (nodeName : String) (opts : Options) (trayOf : UInt32 → UInt32) :
    HostPool → HostEvent → HostPool → Prop
  | topology (host : HostPool) (rt : Runtime) (topo : HostPhysicalTopology)
      (fixed : OnTrays trayOf topo) :
      HostStep nodeName opts trayOf host (.topology rt topo)
        { offer := hostOffer rt nodeName opts topo
          grants := host.grants.map (hostOffer rt nodeName opts topo).expose }
  | serve (host : HostPool) {action : Offer.Action Device String} {grants : List (Grant String UInt32)}
      (step : host.offer.Serve host.grants action grants) :
      HostStep nodeName opts trayOf host (.serve action) { host with grants := grants }

/-- No allocated chip comes back with the event. -/
def HostPool.Quiet (nodeName : String) (opts : Options) (host : HostPool) : HostEvent → Prop
  | .topology rt topo => ∀ grant ∈ host.grants, ∀ chip ∈ grant.parts,
      (hostOffer rt nodeName opts topo).Has chip → host.offer.Has chip
  | .serve _ => True

instance (nodeName : String) (opts : Options) (host : HostPool) :
    ∀ event, Decidable (host.Quiet nodeName opts event)
  -- by the chips of the grant, not by all chip ids there are
  | .topology rt topo =>
    have chips (grant : Grant String UInt32) : Decidable (∀ chip ∈ grant.parts,
        (hostOffer rt nodeName opts topo).Has chip → host.offer.Has chip) :=
      List.decidableBAll _ grant.parts
    @List.decidableBAll _ _ chips host.grants
  | .serve _ => .isTrue trivial

/-- An event that is quiet if there are tray devices. -/
def QuietStep (nodeName : String) (opts : Options) (trayOf : UInt32 → UInt32) (host : HostPool)
    (event : HostEvent) (host' : HostPool) : Prop :=
  HostStep nodeName opts trayOf host event host' ∧
    (opts.trayDevices = true → host.Quiet nodeName opts event)

/-- What holds whatever happens. -/
structure HostPool.Shaped (nodeName : String) (opts : Options) (trayOf : UInt32 → UInt32)
    (host : HostPool) : Prop where
  offered : ∃ rt topo, OnTrays trayOf topo ∧ host.offer = hostOffer rt nodeName opts topo
  tracks : host.offer.Tracks host.grants
  filled : ∀ grant ∈ host.grants, grant.parts ≠ []
  belongs : ∀ grant ∈ host.grants, ∀ chip ∈ grant.parts, Belongs opts trayOf grant.name chip

section Run

variable {nodeName : String} {opts : Options} {trayOf : UInt32 → UInt32} {host host' : HostPool}
  {event : HostEvent}

theorem HostPool.Shaped.sound (shaped : host.Shaped nodeName opts trayOf) : host.offer.Sound := by
  obtain ⟨rt, topo, fixed, same⟩ := shaped.offered
  exact same ▸ hostOffer_sound fixed.distinct

/-- An allocation keeps the chips it has had. -/
theorem HostStep.filled (sound : host.offer.Sound) (filled : ∀ grant ∈ host.grants, grant.parts ≠ [])
    (step : HostStep nodeName opts trayOf host event host') :
    ∀ grant ∈ host'.grants, grant.parts ≠ [] := by
  intro grant member
  cases step with
  | topology rt topo fixed =>
    obtain ⟨old, inside, rfl⟩ := List.mem_map.mp member
    exact List.append_ne_nil_of_left_ne_nil (filled old inside) _
  | serve step =>
    cases step with
    | allocate device listed admits =>
      rcases List.mem_append.mp member with old | new
      · exact filled grant old
      · cases List.mem_singleton.mp new
        obtain ⟨chip, inside⟩ := sound.scheme.covers device listed
        exact List.ne_nil_of_mem inside
    | release name => exact filled grant (List.mem_of_mem_filter member)

/-- An allocation has no chips but those of its name. -/
theorem HostStep.belongs {all : Options}
    (wide : ∀ {name chip}, Belongs opts trayOf name chip → Belongs all trayOf name chip)
    (shown : ∀ device ∈ host.offer.pool.listed, ∀ chip ∈ host.offer.parts device,
      Belongs all trayOf (host.offer.name device) chip)
    (belongs : ∀ grant ∈ host.grants, ∀ chip ∈ grant.parts, Belongs all trayOf grant.name chip)
    (step : HostStep nodeName opts trayOf host event host') :
    ∀ grant ∈ host'.grants, ∀ chip ∈ grant.parts, Belongs all trayOf grant.name chip := by
  intro grant member chip inside
  cases step with
  | topology rt topo fixed =>
    obtain ⟨old, known, rfl⟩ := List.mem_map.mp member
    rcases Offer.mem_expose.mp inside with before | ⟨device, listed, named, now⟩
    · exact belongs old known chip before
    · have belongs := wide (belongs_of_listed fixed listed now)
      exact named ▸ belongs
  | serve step =>
    cases step with
    | allocate device listed admits =>
      rcases List.mem_append.mp member with old | new
      · exact belongs grant old chip inside
      · cases List.mem_singleton.mp new
        exact shown device listed chip inside
    | release name => exact belongs grant (List.mem_of_mem_filter member) chip inside

theorem HostPool.Shaped.step (shaped : host.Shaped nodeName opts trayOf)
    (step : HostStep nodeName opts trayOf host event host') : host'.Shaped nodeName opts trayOf := by
  have shown : ∀ device ∈ host.offer.pool.listed, ∀ chip ∈ host.offer.parts device,
      Belongs opts trayOf (host.offer.name device) chip := by
    obtain ⟨rt, topo, fixed, same⟩ := shaped.offered
    rw [same]
    exact fun device listed chip inside => belongs_of_listed fixed listed inside
  have filled := step.filled shaped.sound shaped.filled
  have belongs := step.belongs id shown shaped.belongs
  cases step with
  | topology rt topo fixed => exact ⟨⟨rt, topo, fixed, rfl⟩, shaped.tracks.expose, filled, belongs⟩
  | serve step => exact ⟨shaped.offered, shaped.tracks.step shaped.sound step, filled, belongs⟩

/-- **Only meshes can be unguarded.** -/
theorem HostPool.Shaped.guards (shaped : host.Shaped nodeName opts trayOf) {grant : Grant String UInt32}
    (member : grant ∈ host.grants) (noMesh : ∀ origin, grant.name ≠ deviceNameForMesh "4x2h" origin) :
    host.offer.Guards grant := by
  obtain ⟨rt, topo, fixed, same⟩ := shaped.offered
  rw [same]
  exact fun chip inside has => listed_of_belongs fixed (shaped.belongs grant member chip inside) noMesh has

/-- **What a topology adds to an allocation** are chips of its tray that the host did not have before. -/
theorem HostPool.Shaped.added (shaped : host.Shaped nodeName opts trayOf) (off : opts.meshDevices = false)
    {rt : Runtime} {topo : HostPhysicalTopology} (fixed : OnTrays trayOf topo)
    {grant : Grant String UInt32} (member : grant ∈ host.grants) {chip : UInt32}
    (exposed : chip ∈ ((hostOffer rt nodeName opts topo).expose grant).parts) (new : chip ∉ grant.parts) :
    opts.trayDevices = true ∧ grant.name = deviceNameForTray (trayOf chip) ∧
      (hostOffer rt nodeName opts topo).Has chip ∧ ¬ host.offer.Has chip := by
  obtain ⟨device, listed, named, inside⟩ := (Offer.mem_expose.mp exposed).resolve_left new
  have belongs : Belongs opts trayOf grant.name chip := by
    have belongs := belongs_of_listed fixed listed inside
    exact named ▸ belongs
  have absent : ¬ host.offer.Has chip := by
    obtain ⟨before, old, stood, same⟩ := shaped.offered
    intro has
    rw [same] at has
    obtain ⟨device', listed', named', inside'⟩ := listed_of_belongs stood belongs (belongs.noMesh off) has
    rw [← same] at listed' inside'
    exact new (shaped.tracks.shown grant member device' listed' (same ▸ named') inside')
  have has : (hostOffer rt nodeName opts topo).Has chip := ⟨device, listed, inside⟩
  generalize called : grant.name = name at belongs
  cases belongs with
  | chip =>
    -- an allocated chip has been there from the start
    obtain ⟨own, first⟩ := List.exists_mem_of_ne_nil _ (shaped.filled grant member)
    have same : own = chip := (shaped.belongs grant member own first).chip_eq called
    exact absurd (same ▸ first) new
  | tray _ on => exact ⟨on, rfl, has, absent⟩
  | mesh _ _ on =>
    rw [off] at on
    cases on

/-- A quiet topology keeps allocations apart. -/
theorem HostPool.Shaped.apart_expose (shaped : host.Shaped nodeName opts trayOf)
    (off : opts.meshDevices = false) (apart : Grant.Apart host.grants) {rt : Runtime}
    {topo : HostPhysicalTopology} (fixed : OnTrays trayOf topo)
    (quiet : opts.trayDevices = true → host.Quiet nodeName opts (.topology rt topo)) :
    Grant.Apart (host.grants.map (hostOffer rt nodeName opts topo).expose) := by
  have names : host.grants.Pairwise fun grant other => grant.name ≠ other.name :=
    List.pairwise_map.mp shaped.tracks.once
  refine List.pairwise_map.mpr ((apart.and names).imp_of_mem ?_)
  rintro grant other member member' ⟨disjoint, different⟩ chip here there
  by_cases old : chip ∈ grant.parts
  · by_cases old' : chip ∈ other.parts
    · exact disjoint old old'
    · obtain ⟨on, -, has, absent⟩ := shaped.added off fixed member' there old'
      exact absent (quiet on grant member chip old has)
  · obtain ⟨on, named, has, absent⟩ := shaped.added off fixed member here old
    by_cases old' : chip ∈ other.parts
    · exact absent (quiet on other member' chip old' has)
    · -- both would be the chip's tray
      obtain ⟨-, named', -⟩ := shaped.added off fixed member' there old'
      exact different (named.trans named'.symm)

theorem QuietStep.apart (off : opts.meshDevices = false)
    (kept : host.Shaped nodeName opts trayOf ∧ Grant.Apart host.grants)
    (step : QuietStep nodeName opts trayOf host event host') :
    host'.Shaped nodeName opts trayOf ∧ Grant.Apart host'.grants := by
  obtain ⟨shaped, apart⟩ := kept
  obtain ⟨step, quiet⟩ := step
  refine ⟨shaped.step step, ?_⟩
  cases step with
  | topology rt topo fixed => exact shaped.apart_expose off apart fixed quiet
  | serve step =>
    have guarded : ∀ grant ∈ host.grants, host.offer.Guards grant := by
      intro grant member
      obtain ⟨chip, inside⟩ := List.exists_mem_of_ne_nil _ (shaped.filled grant member)
      exact shaped.guards member ((shaped.belongs grant member chip inside).noMesh off)
    exact (Offer.Serves.step shaped.sound ⟨apart, guarded⟩ step).apart

end Run

/-- Nothing is allocated yet. -/
def HostPool.start (nodeName : String) (opts : Options) (rt : Runtime) (topo : HostPhysicalTopology) :
    HostPool :=
  ⟨hostOffer rt nodeName opts topo, []⟩

theorem HostPool.start_shaped {nodeName : String} {opts : Options} {trayOf : UInt32 → UInt32} {rt : Runtime}
    {topo : HostPhysicalTopology} (fixed : OnTrays trayOf topo) :
    (HostPool.start nodeName opts rt topo).Shaped nodeName opts trayOf where
  offered := ⟨rt, topo, fixed, rfl⟩
  tracks := ⟨List.nodup_nil, by simp [HostPool.start]⟩
  filled := by simp [HostPool.start]
  belongs := by simp [HostPool.start]

/-- **Without mesh devices no MMIO chip comes under two allocations**, whatever topologies come and go
between allocations and releases; with tray devices, as long as no chip comes back to the host while it
is still allocated. -/
theorem exclusion_across_topologies (nodeName : String) (opts : Options) (trayOf : UInt32 → UInt32)
    (off : opts.meshDevices = false) {rt : Runtime} {topo : HostPhysicalTopology}
    (fixed : OnTrays trayOf topo) {events : List HostEvent} {host : HostPool}
    (run : Run (QuietStep nodeName opts trayOf) (.start nodeName opts rt topo) events host) :
    Grant.Apart host.grants :=
  (run.invariant (fun _ _ _ kept step => step.apart off kept)
    ⟨HostPool.start_shaped fixed, List.Pairwise.nil⟩).2

/-! ### A tray that goes and comes back -/

/-- The tray of each chip of the small host. -/
def twoTrays (chip : UInt32) : UInt32 := if chip = 2 then 2 else 1

theorem OnTrays.of_small {trayOf : UInt32 → UInt32} {topo : HostPhysicalTopology}
    (distinct : topo.ChipIdsDistinct) (stays : ∀ asic ∈ topo.mmioAsics, asic.trayId = trayOf asic.chipId)
    (few : topo.asics.length ≤ 64) : OnTrays trayOf topo :=
  ⟨distinct, stays, fun _ => (List.filter_sublist.trans List.filter_sublist).length_le.trans few⟩

/-- A device is on offer that the scheduler takes and that gives this allocation. -/
def Takes (offer : Offer Device (String × String) String UInt32) (grants : List (Grant String UInt32))
    (grant : Grant String UInt32) : Prop :=
  ∃ device ∈ offer.pool.listed, offer.pool.Admits (offer.held grants) device ∧
    (⟨offer.name device, offer.parts device⟩ : Grant String UInt32) = grant

instance (offer : Offer Device (String × String) String UInt32) (grants : List (Grant String UInt32))
    (grant : Grant String UInt32) : Decidable (Takes offer grants grant) :=
  inferInstanceAs (Decidable (∃ device ∈ offer.pool.listed, _ ∧ _))

theorem Takes.step (nodeName : String) (opts : Options) (trayOf : UInt32 → UInt32)
    {offer : Offer Device (String × String) String UInt32} {grants : List (Grant String UInt32)}
    {grant : Grant String UInt32} (takes : Takes offer grants grant) :
    ∃ action, HostStep nodeName opts trayOf ⟨offer, grants⟩ (.serve action) ⟨offer, grants ++ [grant]⟩ := by
  obtain ⟨device, listed, admits, rfl⟩ := takes
  exact ⟨_, .serve _ (.allocate grants device listed admits)⟩

/-- A topology from what it makes of the allocations. -/
theorem OnTrays.step (nodeName : String) (opts : Options) {trayOf : UInt32 → UInt32}
    {topo : HostPhysicalTopology} (fixed : OnTrays trayOf topo) (rt : Runtime) (host : HostPool)
    (exposed : List (Grant String UInt32))
    (same : host.grants.map (hostOffer rt nodeName opts topo).expose = exposed) :
    HostStep nodeName opts trayOf host (.topology rt topo) ⟨hostOffer rt nodeName opts topo, exposed⟩ :=
  same ▸ .topology host rt topo fixed

/-- The host while its second tray is away. -/
def oneTrayHost : HostPhysicalTopology :=
  { twoTrayHost with asics := twoTrayHost.asics.filter fun asic => asic.trayId = 1 }

/-- A tray is allocated, the other tray goes and comes back, and its chip is allocated. -/
theorem twoTrayHost_across :
    ∃ (events : List HostEvent) (host : HostPool),
      Run (QuietStep "node" ⟨true, false⟩ twoTrays) (.start "node" ⟨true, false⟩ Runtime.plain twoTrayHost)
        events host ∧
      host.grants.map Grant.name = ["tt-tray-1", "tt-2"] ∧ Grant.Apart host.grants := by
  have fixed : OnTrays twoTrays twoTrayHost := .of_small (by decide) (by decide) (by decide)
  have away : OnTrays twoTrays oneTrayHost := .of_small (by decide) (by decide) (by decide)
  have tray : Takes (hostOffer Runtime.plain "node" ⟨true, false⟩ twoTrayHost) [] ⟨"tt-tray-1", [0]⟩ := by
    decide +kernel
  have chip : Takes (hostOffer Runtime.plain "node" ⟨true, false⟩ twoTrayHost) [⟨"tt-tray-1", [0]⟩]
      ⟨"tt-2", [2]⟩ := by decide +kernel
  obtain ⟨first, took⟩ := tray.step "node" ⟨true, false⟩ twoTrays
  obtain ⟨second, took'⟩ := chip.step "node" ⟨true, false⟩ twoTrays
  have gone := away.step "node" ⟨true, false⟩ Runtime.plain
    ⟨hostOffer Runtime.plain "node" ⟨true, false⟩ twoTrayHost, [⟨"tt-tray-1", [0]⟩]⟩
    [⟨"tt-tray-1", [0]⟩] (by decide +kernel)
  have back := fixed.step "node" ⟨true, false⟩ Runtime.plain
    ⟨hostOffer Runtime.plain "node" ⟨true, false⟩ oneTrayHost, [⟨"tt-tray-1", [0]⟩]⟩
    [⟨"tt-tray-1", [0]⟩] (by decide +kernel)
  have run : Run (QuietStep "node" ⟨true, false⟩ twoTrays)
      (.start "node" ⟨true, false⟩ Runtime.plain twoTrayHost) _ _ :=
    .snoc (.snoc (.snoc (.snoc (.nil _) ⟨took, fun _ => trivial⟩) ⟨gone, fun _ => by decide +kernel⟩)
      ⟨back, fun _ => by decide +kernel⟩) ⟨took', fun _ => trivial⟩
  exact ⟨_, _, run, rfl, exclusion_across_topologies "node" ⟨true, false⟩ twoTrays rfl fixed run⟩

/-- A tray of two MMIO chips. -/
def pairHost : HostPhysicalTopology :=
  { twoTrayHost with asics := [galaxyChip 1 1 0, galaxyChip 1 2 5] }

/-- The tray while its second chip is away. -/
def halfPairHost : HostPhysicalTopology := { pairHost with asics := [galaxyChip 1 1 0] }

/-- **A chip that comes back can be shared**: it is allocated, goes away, its tray is allocated without it,
and when it is back it comes under the tray too. -/
theorem returned_shared :
    ∃ (events : List HostEvent) (host : HostPool),
      Run (HostStep "node" ⟨true, false⟩ fun _ => 1) (.start "node" ⟨true, false⟩ Runtime.plain pairHost)
        events host ∧
      host.grants = [⟨"tt-5", [5]⟩, ⟨"tt-tray-1", [0, 5]⟩] := by
  have whole : OnTrays (fun _ => 1) pairHost := .of_small (by decide) (by decide) (by decide)
  have half : OnTrays (fun _ => 1) halfPairHost := .of_small (by decide) (by decide) (by decide)
  have chip : Takes (hostOffer Runtime.plain "node" ⟨true, false⟩ pairHost) [] ⟨"tt-5", [5]⟩ := by
    decide +kernel
  have tray : Takes (hostOffer Runtime.plain "node" ⟨true, false⟩ halfPairHost) [⟨"tt-5", [5]⟩]
      ⟨"tt-tray-1", [0]⟩ := by decide +kernel
  obtain ⟨first, took⟩ := chip.step "node" ⟨true, false⟩ fun _ => 1
  obtain ⟨second, took'⟩ := tray.step "node" ⟨true, false⟩ fun _ => 1
  have gone := half.step "node" ⟨true, false⟩ Runtime.plain
    ⟨hostOffer Runtime.plain "node" ⟨true, false⟩ pairHost, [⟨"tt-5", [5]⟩]⟩
    [⟨"tt-5", [5]⟩] (by decide +kernel)
  have back := whole.step "node" ⟨true, false⟩ Runtime.plain
    ⟨hostOffer Runtime.plain "node" ⟨true, false⟩ halfPairHost, [⟨"tt-5", [5]⟩, ⟨"tt-tray-1", [0]⟩]⟩
    [⟨"tt-5", [5]⟩, ⟨"tt-tray-1", [0, 5]⟩] (by decide +kernel)
  exact ⟨_, _, (((Run.nil _).snoc took).snoc gone).snoc took' |>.snoc back, rfl⟩

/-- **Mesh devices keep their chips only as long as they are published**: after any run that has left the
allocations apart, no step of the scheduler on the last topology will bring one chip under two of them
exactly when that topology has, of each allocated mesh, no chip outside the mesh. -/
theorem exclusion_kept_iff (nodeName : String) (opts : Options) (trayOf : UInt32 → UInt32) {rt : Runtime}
    {topo : HostPhysicalTopology} (fixed : OnTrays trayOf topo) {events : List HostEvent} {host : HostPool}
    (run : Run (HostStep nodeName opts trayOf) (.start nodeName opts rt topo) events host)
    (apart : Grant.Apart host.grants) :
    (∀ actions grants, Run host.offer.Serve host.grants actions grants → Grant.Apart grants) ↔
      ∀ grant ∈ host.grants, (∃ origin, grant.name = deviceNameForMesh "4x2h" origin) →
        host.offer.Guards grant := by
  have shaped : host.Shaped nodeName opts trayOf :=
    run.invariant (fun _ _ _ shaped step => shaped.step step) (HostPool.start_shaped fixed)
  rw [Offer.exclusive_iff shaped.sound apart]
  constructor
  · exact fun guarded grant member _ => guarded grant member
  · intro meshes grant member
    by_cases mesh : ∃ origin, grant.name = deviceNameForMesh "4x2h" origin
    · exact meshes grant member mesh
    · exact shaped.guards member fun origin same => mesh ⟨origin, same⟩

/-! ### One link goes down -/

/-- The tray of each chip of the galaxy host. -/
def galaxyTrays (chip : UInt32) : UInt32 := if chip < 4 then 2 else 1

/-- The galaxy host without the link of its first two chips. -/
def cutLinkHost : HostPhysicalTopology :=
  { galaxyHost with localConnections := galaxyHost.localConnections.tail }

/-- **One link is enough**: the mesh is allocated, the link between its first two chips goes down, the mesh
is withdrawn with all its chips still there, and the scheduler may allocate them again. -/
theorem cutLink_unguarded :
    ∃ (events : List HostEvent) (host : HostPool),
      Run (HostStep "node" ⟨true, true⟩ galaxyTrays) (.start "node" ⟨true, true⟩ Runtime.plain galaxyHost)
        events host ∧
      host.offer = hostOffer Runtime.plain "node" ⟨true, true⟩ cutLinkHost ∧
      host.grants = [⟨"tt-mesh-4x2h-0", [0, 1, 2, 3, 4, 5, 6, 7]⟩] ∧
      ¬ ∀ actions grants, Run host.offer.Serve host.grants actions grants → Grant.Apart grants := by
  have fixed : OnTrays galaxyTrays galaxyHost := .of_small (by decide) (by decide) (by decide)
  have cut : OnTrays galaxyTrays cutLinkHost := .of_small (by decide) (by decide) (by decide)
  have mesh : Takes (hostOffer Runtime.plain "node" ⟨true, true⟩ galaxyHost) []
      ⟨"tt-mesh-4x2h-0", [0, 1, 2, 3, 4, 5, 6, 7]⟩ := by decide +kernel
  have lost : ¬ (hostOffer Runtime.plain "node" ⟨true, true⟩ cutLinkHost).Guards
      ⟨"tt-mesh-4x2h-0", [0, 1, 2, 3, 4, 5, 6, 7]⟩ := by decide +kernel
  obtain ⟨action, took⟩ := mesh.step "node" ⟨true, true⟩ galaxyTrays
  have down := cut.step "node" ⟨true, true⟩ Runtime.plain
    ⟨hostOffer Runtime.plain "node" ⟨true, true⟩ galaxyHost,
      [⟨"tt-mesh-4x2h-0", [0, 1, 2, 3, 4, 5, 6, 7]⟩]⟩
    [⟨"tt-mesh-4x2h-0", [0, 1, 2, 3, 4, 5, 6, 7]⟩] (by decide +kernel)
  have run := ((Run.nil _).snoc took).snoc down
  refine ⟨_, _, run, rfl, rfl, fun apart => lost ?_⟩
  exact (exclusion_kept_iff "node" ⟨true, true⟩ galaxyTrays fixed run (List.pairwise_singleton _ _)).mp apart
    _ (List.mem_singleton_self _) ⟨0, by decide⟩

end DraDriver.Tenstorrent
