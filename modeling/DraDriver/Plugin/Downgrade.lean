/-
**Allocations across restarts.**

The driver asks the API server about counters at every start, and a start that gets no clear answer
publishes chips only. Allocations of trays and meshes outlive the driver that published them, and the
scheduler knows of them only through devices that are published now.

* `Reached` — what holds of the allocations whatever options the driver was restarted with.
* `guards_iff` — an allocated tray or mesh keeps the scheduler off its chips as long as its kind is
  published, and a chip always.
* **`restart_exclusion_iff`** — a start keeps every chip under one allocation exactly when the server
  confirms counters, with the flags on, for every kind of composite device that is allocated on chips
  the host still has. `timedOutProbe_shared`: a probe that times out is enough to share a chip.
-/

import DraDriver.Plugin.Composite
import DraDriver.Tenstorrent.Withdrawal

namespace DraDriver.Plugin

open DraDriver.Base DraDriver.FabricManager DraDriver.Tenstorrent

/-- An event of a host whose driver may be restarted, each time with other options. -/
def RestartStep (nodeName : String) (trayOf : UInt32 → UInt32) (host : HostPool) (event : HostEvent)
    (host' : HostPool) : Prop :=
  ∃ opts, HostStep nodeName opts trayOf host event host'

/-- What holds whatever options the driver has had. -/
structure Reached (nodeName : String) (trayOf : UInt32 → UInt32) (host : HostPool) : Prop where
  offered : ∃ opts rt topo, OnTrays trayOf topo ∧ host.offer = hostOffer rt nodeName opts topo
  belongs : ∀ grant ∈ host.grants, ∀ chip ∈ grant.parts, Belongs ⟨true, true⟩ trayOf grant.name chip

section Reached

variable {nodeName : String} {trayOf : UInt32 → UInt32} {opts : Options} {name : String} {chip : UInt32}

theorem belongs_wide (belongs : Belongs opts trayOf name chip) :
    Belongs ⟨true, true⟩ trayOf name chip := by
  cases belongs with
  | chip => exact .chip chip
  | tray => exact .tray chip rfl
  | mesh origin => exact .mesh origin chip rfl

/-- Chips come under the name of a tray only where trays are published. -/
theorem tray_on {tray : UInt32} (belongs : Belongs opts trayOf name chip)
    (named : name = deviceNameForTray tray) : opts.trayDevices = true := by
  cases belongs with
  | chip => exact absurd named (chipName_ne_trayName _ _)
  | tray _ on => exact on
  | mesh => exact absurd named.symm (trayName_ne_meshName _ _ _)

/-- Chips come under the name of a mesh only where meshes are published. -/
theorem mesh_on {origin : UInt32} (belongs : Belongs opts trayOf name chip)
    (named : name = deviceNameForMesh "4x2h" origin) : opts.meshDevices = true := by
  cases belongs with
  | chip => exact absurd named (chipName_ne_meshName _ _ _)
  | tray => exact absurd named (trayName_ne_meshName _ _ _)
  | mesh _ _ on => exact on

/-- A chip that comes under a name with some options does so with all that publish the kind. -/
theorem belongs_narrow (belongs : Belongs ⟨true, true⟩ trayOf name chip)
    (trays : ∀ tray, name = deviceNameForTray tray → opts.trayDevices = true)
    (noMesh : ∀ origin, name ≠ deviceNameForMesh "4x2h" origin) : Belongs opts trayOf name chip := by
  cases belongs with
  | chip => exact .chip chip
  | tray => exact .tray chip (trays _ rfl)
  | mesh origin => exact absurd rfl (noMesh origin)

theorem start_reached {rt : Runtime} {topo : HostPhysicalTopology} (fixed : OnTrays trayOf topo) :
    Reached nodeName trayOf (.start nodeName opts rt topo) where
  offered := ⟨opts, rt, topo, fixed, rfl⟩
  belongs := by simp [HostPool.start]

theorem Reached.step {host host' : HostPool} {event : HostEvent}
    (reached : Reached nodeName trayOf host) (step : RestartStep nodeName trayOf host event host') :
    Reached nodeName trayOf host' := by
  obtain ⟨opts, step⟩ := step
  obtain ⟨before, rt, topo, fixed, same⟩ := reached.offered
  have shown : ∀ device ∈ host.offer.pool.listed, ∀ chip ∈ host.offer.parts device,
      Belongs ⟨true, true⟩ trayOf (host.offer.name device) chip := by
    rw [same]
    exact fun device listed chip inside => belongs_wide (belongs_of_listed fixed listed inside)
  have belongs := step.belongs belongs_wide shown reached.belongs
  cases step with
  | topology rt topo fixed => exact ⟨⟨opts, rt, topo, fixed, rfl⟩, belongs⟩
  | serve => exact ⟨reached.offered, belongs⟩

end Reached

section Guards

variable {rt : Runtime} {nodeName : String} {opts : Options} {trayOf : UInt32 → UInt32}
  {topo : HostPhysicalTopology} {grant : Grant String UInt32}

/-- The host has no chip of the allocation any more. -/
def Gone (rt : Runtime) (nodeName : String) (opts : Options) (topo : HostPhysicalTopology)
    (grant : Grant String UInt32) : Prop :=
  ∀ chip ∈ grant.parts, ¬ (hostOffer rt nodeName opts topo).Has chip

theorem guards_of_gone (gone : Gone rt nodeName opts topo grant) :
    (hostOffer rt nodeName opts topo).Guards grant :=
  fun chip inside has => absurd has (gone chip inside)

/-- A kind of device that is not published guards nothing. -/
theorem gone_of_guards (fixed : OnTrays trayOf topo) (off : ∀ chip, ¬ Belongs opts trayOf grant.name chip)
    (guarded : (hostOffer rt nodeName opts topo).Guards grant) : Gone rt nodeName opts topo grant := by
  intro chip inside has
  obtain ⟨device, listed, named, covers⟩ := guarded chip inside has
  have belongs := belongs_of_listed fixed listed covers
  exact off chip (named ▸ belongs)

/-- **What still guards an allocation**: a chip its name, a tray its kind, a mesh the mesh itself. -/
theorem guards_iff (fixed : OnTrays trayOf topo)
    (belongs : ∀ chip ∈ grant.parts, Belongs ⟨true, true⟩ trayOf grant.name chip) :
    (hostOffer rt nodeName opts topo).Guards grant ↔
      (∀ tray, grant.name = deviceNameForTray tray →
        opts.trayDevices = true ∨ Gone rt nodeName opts topo grant) ∧
      ∀ origin, grant.name = deviceNameForMesh "4x2h" origin →
        (opts.meshDevices = true ∧ (hostOffer rt nodeName opts topo).Guards grant) ∨
          Gone rt nodeName opts topo grant := by
  constructor
  · intro guarded
    refine ⟨fun tray named => ?_, fun origin named => ?_⟩
    · cases on : opts.trayDevices with
      | true => exact Or.inl rfl
      | false =>
        refine Or.inr (gone_of_guards fixed (fun chip belongs => ?_) guarded)
        exact Bool.false_ne_true (on.symm.trans (tray_on belongs named))
    · cases on : opts.meshDevices with
      | true => exact Or.inl ⟨rfl, guarded⟩
      | false =>
        refine Or.inr (gone_of_guards fixed (fun chip belongs => ?_) guarded)
        exact Bool.false_ne_true (on.symm.trans (mesh_on belongs named))
  · rintro ⟨trays, meshes⟩
    by_cases gone : Gone rt nodeName opts topo grant
    · exact guards_of_gone gone
    · by_cases mesh : ∃ origin, grant.name = deviceNameForMesh "4x2h" origin
      · obtain ⟨origin, named⟩ := mesh
        exact ((meshes origin named).resolve_right gone).2
      · have noMesh : ∀ origin, grant.name ≠ deviceNameForMesh "4x2h" origin :=
          fun origin named => mesh ⟨origin, named⟩
        intro chip inside has
        have narrow := belongs_narrow (belongs chip inside)
          (fun tray named => (trays tray named).resolve_right gone) noMesh
        exact listed_of_belongs fixed narrow noMesh has

end Guards

/-- **A restart keeps the allocations of composite devices only if their kind is published again.** After
any run of topologies, allocations and releases under drivers with whatever options, a driver is started
and publishes a topology that leaves the allocations apart. No step of the scheduler will then bring one
MMIO chip under two allocations exactly when, of each allocated tray and mesh, the host has no chip any
more or the server confirmed the counters and the flag is on (and, for a mesh, the topology has all its
chips in it). -/
theorem restart_exclusion_iff (dial : String → Except String Unit) (server : ApiServer)
    (elapsed : String) (flags : Flags) {resolved : Flags} {profile : Profile}
    (started : flags.action dial server elapsed = .ok (resolved, profile)) (trayOf : UInt32 → UInt32)
    {opts : Options} {rt : Runtime} {topo : HostPhysicalTopology} (fixed : OnTrays trayOf topo)
    {events : List HostEvent} {host : HostPool}
    (run : Run (RestartStep flags.nodeName trayOf) (.start flags.nodeName opts rt topo) events host)
    (rt' : Runtime) {topo' : HostPhysicalTopology} (fixed' : OnTrays trayOf topo') :
    let now : Options := ⟨profile.trayDevices, profile.meshDevices⟩
    let offer := hostOffer rt' flags.nodeName now topo'
    Grant.Apart (host.grants.map offer.expose) →
      ((∀ actions grants, Run offer.Serve (host.grants.map offer.expose) actions grants →
          Grant.Apart grants) ↔
        ∀ grant ∈ host.grants,
          (∀ tray, grant.name = deviceNameForTray tray →
            (flags.enableTrayDevices && server.confirms) = true ∨
              Gone rt' flags.nodeName now topo' grant) ∧
          ∀ origin, grant.name = deviceNameForMesh "4x2h" origin →
            ((flags.enableMeshDevices && server.confirms) = true ∧ offer.Guards grant) ∨
              Gone rt' flags.nodeName now topo' grant) := by
  obtain rfl := action_profile started
  intro now offer apart
  have reached : Reached flags.nodeName trayOf host :=
    run.invariant (fun _ _ _ reached step => reached.step step) (start_reached fixed)
  rw [Offer.exclusive_iff (hostOffer_sound fixed'.distinct) apart, List.forall_mem_map]
  refine forall₂_congr fun grant member => ?_
  rw [Offer.guards_expose]
  exact guards_iff fixed' (reached.belongs grant member)

/-- **A probe that times out shares a chip**: a tray is allocated, the driver is restarted while the API
server, which keeps counters, does not answer, and the tray's chip may be allocated again. -/
theorem timedOutProbe_shared :
    ∃ (resolved : Flags) (profile : Profile) (events : List HostEvent) (host : HostPool),
      defaultFlags.action (fun _ => .ok ()) ⟨true, some "context deadline exceeded"⟩ "1ms" =
        .ok (resolved, profile) ∧
      Run (RestartStep "node" twoTrays) (.start "node" ⟨true, true⟩ Runtime.plain twoTrayHost)
        events host ∧
      host.grants = [⟨"tt-tray-1", [0]⟩] ∧
      let offer := hostOffer Runtime.plain "node" ⟨profile.trayDevices, profile.meshDevices⟩ twoTrayHost
      ¬ ∀ actions grants, Run offer.Serve (host.grants.map offer.expose) actions grants →
        Grant.Apart grants := by
  have fixed : OnTrays twoTrays twoTrayHost := .of_small (by decide) (by decide) (by decide)
  have tray : Takes (hostOffer Runtime.plain "node" ⟨true, true⟩ twoTrayHost) [] ⟨"tt-tray-1", [0]⟩ := by
    decide +kernel
  obtain ⟨action, took⟩ := tray.step "node" ⟨true, true⟩ twoTrays
  have run : Run (RestartStep "node" twoTrays) (.start "node" ⟨true, true⟩ Runtime.plain twoTrayHost)
      _ _ := (Run.nil _).snoc ⟨_, took⟩
  refine ⟨_, _, _, _, rfl, run, rfl, fun kept => ?_⟩
  have safe := (restart_exclusion_iff (fun _ => .ok ()) ⟨true, some "context deadline exceeded"⟩ "1ms"
    defaultFlags rfl twoTrays fixed run Runtime.plain fixed (List.pairwise_singleton _ _)).mp kept
    _ (List.mem_singleton_self _)
  rcases safe.1 1 (by decide) with confirmed | gone
  · cases confirmed
  · refine gone 0 (List.mem_singleton_self _) ?_
    decide +kernel

end DraDriver.Plugin
