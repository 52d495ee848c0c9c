/-
**From a device name to its container edits.**

`applyConfig` resolves each allocated device in the table `applyTopology` left and lists one
`/dev/tenstorrent/<N>` node per MMIO chip it covers.

* **`applyConfig_known`**, **`applyConfig_unknown`** — over a table whose bundles are all anchored, a
  list of known devices succeeds, each with the nodes of its bundles in their order, and a list with
  any other name is refused.
* `anchored_applyTopology`, `mem_unitByDevice_applyTopology` — `applyTopology` leaves such a table,
  and it knows exactly the published names.
-/

import DraDriver.Profiles.Edits
import DraDriver.Tenstorrent.Apply

namespace DraDriver.Tenstorrent

open DraDriver.Base DraDriver.FabricManager DraDriver.Profiles

/-- The errors of `ApplyConfig`. -/
inductive ApplyConfigError
  | unsupported
  | notInTopology (device : String)
  | nonMmio (kind : UnitKind) (device : String) (trayID chipID : UInt32)
  deriving DecidableEq, Repr

/-- The text of an error. -/
def ApplyConfigError.message : ApplyConfigError → String
  | .unsupported => "tenstorrent profile: opaque configuration is not supported yet"
  | .notInTopology device => "tenstorrent profile: device " ++ quote device ++
      " is not in the latest topology reported by the fabric manager agent"
  | .nonMmio kind device trayID chipID => "tenstorrent profile: " ++ kind.text ++ " device " ++
      quote device ++ " (tray " ++ decimal trayID.toNat ++ ") resolves to non-MMIO ASIC chip " ++
      decimal chipID.toNat ++ ", which should never appear in the ResourceSlice"

/-- `devicePathFmt`. -/
def devicePath (deviceNodeId : UInt32) : String := "/dev/tenstorrent/" ++ decimal deviceNodeId.toNat

/-- The device node of a bundle's anchor. -/
def deviceNode (bundle : HostBundle) : DeviceNode :=
  { path := devicePath bundle.mmio.deviceNodeId, type := "c", permissions := "rw" }

/-- The nodes of a unit's bundles, refusing a bundle that is not anchored on an MMIO chip. -/
def unitNodes (unit : AllocatableUnit) (device : String) : Except ApplyConfigError (List DeviceNode) :=
  unit.bundles.mapM fun bundle =>
    if bundle.mmio.isMmioCapable then .ok (deviceNode bundle)
    else .error (.nonMmio unit.kind device unit.trayID bundle.mmio.chipId)

/-- One result of the loop. -/
def Profile.applyResult (p : Profile) (edits : PerDeviceCDIContainerEdits)
    (result : DeviceRequestAllocationResult) : Except ApplyConfigError PerDeviceCDIContainerEdits := do
  match p.unitByDevice.lookup result.device with
  | none => .error (.notInTopology result.device)
  | some unit =>
    let deviceNodes ← unitNodes unit result.device
    return edits.insert result.device { deviceNodes := deviceNodes }

/-- The profile defines no configuration type, so that a config is either nil or refused. -/
def Profile.applyConfig {Config : Type} (p : Profile) (config : Option Config)
    (results : List DeviceRequestAllocationResult) :
    Except ApplyConfigError PerDeviceCDIContainerEdits :=
  if config.isSome then .error .unsupported
  else results.foldlM p.applyResult ∅

/-- The profile as the kubelet plugin's config handler. -/
def Profile.configHandler (Config : Type) (p : Profile) : ConfigHandler Config where
  applyConfig config results := (p.applyConfig config results).mapError ApplyConfigError.message

/-! ### What it returns -/

/-- The edits of a unit whose bundles are all anchored. -/
def unitEdits (unit : AllocatableUnit) : ContainerEdits :=
  { deviceNodes := unit.bundles.map deviceNode }

/-- Every bundle of the table is anchored on an MMIO chip. -/
def Profile.Anchored (p : Profile) : Prop :=
  ∀ device unit, p.unitByDevice.lookup device = some unit →
    ∀ bundle ∈ unit.bundles, bundle.mmio.isMmioCapable = true

theorem unitNodes_anchored {unit : AllocatableUnit} (device : String)
    (anchored : ∀ bundle ∈ unit.bundles, bundle.mmio.isMmioCapable = true) :
    unitNodes unit device = .ok (unit.bundles.map deviceNode) := by
  unfold unitNodes
  generalize unit.bundles = bundles at anchored
  induction bundles with
  | nil => rfl
  | cons bundle bundles ih =>
    rw [List.mapM_cons, if_pos (anchored bundle List.mem_cons_self),
      ih fun other member => anchored other (List.mem_cons_of_mem _ member)]
    rfl

theorem applyResult_anchored {p : Profile} (anchored : p.Anchored)
    (edits : PerDeviceCDIContainerEdits) (result : DeviceRequestAllocationResult) :
    p.applyResult edits result = match p.unitByDevice.lookup result.device with
      | none => .error (.notInTopology result.device)
      | some unit => .ok (edits.insert result.device (unitEdits unit)) := by
  unfold Profile.applyResult
  cases found : p.unitByDevice.lookup result.device with
  | none => rfl
  | some unit =>
    simp only
    rw [unitNodes_anchored result.device (anchored _ _ found)]
    rfl

/-- The loop over results that are all in the table. -/
theorem applyResults_ok {p : Profile} (anchored : p.Anchored) :
    ∀ (results : List DeviceRequestAllocationResult) (edits : PerDeviceCDIContainerEdits),
      (∀ result ∈ results, result.device ∈ p.unitByDevice) →
      ∃ final, results.foldlM p.applyResult edits = .ok final ∧
        ∀ device, final.lookup device = if device ∈ results.map (·.device)
          then (p.unitByDevice.lookup device).map unitEdits else edits.lookup device
  | [], edits, _ => ⟨edits, rfl, fun _ => by simp⟩
  | result :: results, edits, known => by
    obtain ⟨unit, found⟩ := Option.isSome_iff_exists.mp
      (AList.lookup_isSome.mpr (known result List.mem_cons_self))
    obtain ⟨final, ran, lookups⟩ := applyResults_ok anchored results
      (edits.insert result.device (unitEdits unit))
      fun other member => known other (List.mem_cons_of_mem _ member)
    refine ⟨final, ?_, fun device => ?_⟩
    · rw [List.foldlM_cons, applyResult_anchored anchored, found]
      exact ran
    · rw [lookups device, List.map_cons, lookup_insert_eq]
      by_cases later : device ∈ results.map (·.device)
      · rw [if_pos later, if_pos (List.mem_cons_of_mem _ later)]
      · rw [if_neg later]
        by_cases here : device = result.device
        · rw [if_pos here, if_pos (here ▸ List.mem_cons_self), here, found]
          rfl
        · rw [if_neg here, if_neg (by simpa [here] using later)]

/-- The loop over results one of which is not in the table. -/
theorem applyResults_error {p : Profile} (anchored : p.Anchored) :
    ∀ (results : List DeviceRequestAllocationResult) (edits : PerDeviceCDIContainerEdits),
      (∃ result ∈ results, result.device ∉ p.unitByDevice) →
      ∃ device, device ∉ p.unitByDevice ∧ device ∈ results.map (·.device) ∧
        results.foldlM p.applyResult edits = .error (.notInTopology device)
  | [], _, ⟨_, member, _⟩ => by cases member
  | result :: results, edits, ⟨other, member, unknown⟩ => by
    rw [List.foldlM_cons, applyResult_anchored anchored]
    cases found : p.unitByDevice.lookup result.device with
    | none => exact ⟨result.device, AList.lookup_eq_none.mp found, List.mem_cons_self, rfl⟩
    | some unit =>
      have later : other ∈ results := by
        refine (List.mem_cons.mp member).resolve_left fun same => unknown ?_
        exact same ▸ AList.lookup_isSome.mp (Option.isSome_iff_exists.mpr ⟨unit, found⟩)
      obtain ⟨device, missing, listed, failed⟩ := applyResults_error anchored results
        (edits.insert result.device (unitEdits unit)) ⟨other, later, unknown⟩
      exact ⟨device, missing, List.mem_cons_of_mem _ listed, failed⟩

/-- **A nil config on known devices succeeds** with the edits of exactly those devices. -/
theorem applyConfig_known (Config : Type) {p : Profile} (anchored : p.Anchored)
    (results : List DeviceRequestAllocationResult)
    (known : ∀ result ∈ results, result.device ∈ p.unitByDevice) :
    ∃ edits, p.applyConfig (none : Option Config) results = .ok edits ∧
      ∀ device, edits.lookup device = if device ∈ results.map (·.device)
        then (p.unitByDevice.lookup device).map unitEdits else none := by
  obtain ⟨edits, ran, lookups⟩ := applyResults_ok anchored results ∅ known
  exact ⟨edits, ran, lookups⟩

/-- **A nil config on an unknown device is refused**, naming one. -/
theorem applyConfig_unknown (Config : Type) {p : Profile} (anchored : p.Anchored)
    (results : List DeviceRequestAllocationResult)
    (unknown : ∃ result ∈ results, result.device ∉ p.unitByDevice) :
    ∃ device, device ∉ p.unitByDevice ∧ device ∈ results.map (·.device) ∧
      p.applyConfig (none : Option Config) results = .error (.notInTopology device) :=
  applyResults_error anchored results ∅ unknown

/-- The device a refusal names is one of the results, and the table does not know it. -/
theorem applyConfig_refused {Config : Type} {p : Profile} (anchored : p.Anchored)
    {results : List DeviceRequestAllocationResult} {device : String}
    (refused : p.applyConfig (none : Option Config) results = .error (.notInTopology device)) :
    device ∈ results.map (·.device) ∧ device ∉ p.unitByDevice := by
  by_cases known : ∀ result ∈ results, result.device ∈ p.unitByDevice
  · obtain ⟨edits, applied, _⟩ := applyConfig_known Config anchored results known
    rw [applied] at refused
    cases refused
  · push Not at known
    obtain ⟨other, unknown, listed, failed⟩ := applyConfig_unknown Config anchored results known
    rw [failed] at refused
    cases refused
    exact ⟨listed, unknown⟩

/-! ### After a topology -/

section Published

variable (rt : Runtime) (p : Profile) (topo : HostPhysicalTopology)

theorem anchored_applyTopology : (applyTopology rt p topo).2.Anchored := by
  intro device unit found bundle member
  obtain ⟨entry, listed, _, rfl⟩ := recordUnits_sound found
  exact (bundle_anchor rt topo.asics (enumerate_inside rt p listed member)).2

/-- **The table resolves exactly the published names.** -/
theorem mem_unitByDevice_applyTopology (name : String) :
    name ∈ (applyTopology rt p topo).2.unitByDevice ↔
      name ∈ (poolOf (applyTopology rt p topo).1 p.nodeName).devices.map Device.name := by
  rw [publishedDevices_applyTopology, List.map_map]
  exact mem_recordUnits _ name

end Published

end DraDriver.Tenstorrent
