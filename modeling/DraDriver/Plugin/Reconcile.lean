/-
**Startup reconciliation reaches exactly the checkpointed state, from any disk.**

Whatever a crash, an older driver or a wiped root left behind, a `NewDeviceState` that succeeds
leaves of the driver's files the common spec and one spec a checkpointed claim whose devices are
all reported, and a second startup with the same devices changes nothing.

* `mem_allocatableFrom` — the allocatable names are the reported ones.
* `startup_idle` — a startup of a settled root leaves every file as it is, wherever it stops.
* **`startup_reconciles`** — both together.
-/

import DraDriver.Plugin.Startup

namespace DraDriver.Plugin

open DraDriver.Base DraDriver.Profiles DraDriver.Tenstorrent

variable {Config : Type}

/-- The names a profile reports for a node. -/
def reportedNames (driverResources : DriverResources) (nodeName : String) : List String :=
  (poolOf driverResources nodeName).devices.map Device.name

/-- **The allocatable names are the reported ones.** -/
theorem mem_allocatableFrom (driverResources : DriverResources) (nodeName name : String) :
    name ∈ allocatableFrom driverResources nodeName ↔ name ∈ reportedNames driverResources nodeName := by
  have slices : ∀ (slices : List Slice) (table : AllocatableDevices),
      name ∈ slices.foldl (fun allocatable slice => slice.devices.foldl
        (fun allocatable device => allocatable.insert device.name device) allocatable) table ↔
        name ∈ table ∨ name ∈ (slices.flatMap Slice.devices).map Device.name := by
    intro slices
    induction slices with
    | nil => simp
    | cons slice slices ih =>
      intro table
      rw [List.foldl_cons, ih, mem_fill, List.flatMap_cons, List.map_append, List.mem_append,
        or_assoc]
  have all := slices (poolOf driverResources nodeName).slices ∅
  simpa [allocatableFrom, reportedNames, Pool.devices] using all

/-- Every device recorded for the claim is reported. -/
def AllReported (driverResources : DriverResources) (nodeName : String) (claims : PreparedClaims)
    (uid : ClaimUID) : Prop :=
  ∀ device ∈ rangeDevices (claims.lookup uid).join,
    device.device.deviceName ∈ reportedNames driverResources nodeName

theorem mem_validClaims_initial {config : DriverConfig Config} {driverResources : DriverResources}
    {claims : PreparedClaims} {uid : ClaimUID} :
    uid ∈ (initialState config driverResources).validClaims claims ↔
      uid ∈ claims ∧ AllReported driverResources config.nodeName claims uid := by
  rw [mem_validClaims, valid_iff, validate_eq_ok_iff]
  refine and_congr Iff.rfl (forall₂_congr fun device _ => ?_)
  exact mem_allocatableFrom driverResources config.nodeName _

/-- A startup does not touch a file that is not the driver's. -/
theorem StartEntry.foreign {s : DeviceState Config} {claims : PreparedClaims} {name : String}
    {old now : Option RootEntry} (entry : StartEntry s claims name old now)
    (other : s.cdi.managed name = false) : now = old := by
  cases entry with
  | same => rfl
  | common spec here _ =>
    rw [here, s.cdi.managed_commonFile] at other
    cases other
  | claim uid spec here _ _ =>
    rw [here, s.cdi.managed_claimFile uid] at other
    cases other
  | pruned own _ _ =>
    rw [own] at other
    cases other

/-- A file of a settled root is as a startup would make it. -/
theorem StartEntry.idle {s : DeviceState Config} {claims : PreparedClaims}
    {root : GoMap String RootEntry} (settled : Settled s claims root) {name : String}
    {now : Option RootEntry} (entry : StartEntry s claims name (root.lookup name) now) :
    now = root.lookup name := by
  cases entry with
  | same => rfl
  | common spec here derived =>
    obtain ⟨stored, derived', found⟩ := settled.common
    rw [here, found, Except.ok.inj (derived.symm.trans derived')]
  | claim uid spec here valid derived =>
    obtain ⟨stored, derived', found⟩ := settled.claim uid valid
    rw [here, found, Except.ok.inj (derived.symm.trans derived')]
  | pruned own stray file =>
    cases found : root.lookup name with
    | none => rfl
    | some content =>
      have directory := settled.only name own stray content found
      cases content with
      | dir empty => exact absurd found (file empty)
      | spec _ => cases directory
      | other _ => cases directory

/-- **A startup of a settled root changes nothing**, wherever it stops. -/
theorem startup_idle (mayFail : DiskOp → Bool) (config : DriverConfig Config)
    (driverResources : DriverResources) (outcomes : List Outcome) {disk : Disk} {claims : PreparedClaims}
    (stored : disk.checkpoint = some claims)
    (settled : Settled (initialState config driverResources) claims disk.root) :
    let again := Prog.exec (Disk.act mayFail) (newDeviceState config driverResources) outcomes disk
    again.1.checkpoint = disk.checkpoint ∧
      ∀ name, again.1.root.lookup name = disk.root.lookup name := by
  intro again
  have starting := (exec_newDeviceState mayFail config driverResources outcomes disk).1
  constructor
  · rcases starting.checkpoint with same | ⟨absent, _⟩
    · exact same
    · rw [stored] at absent
      cases absent
  · intro name
    have entry := starting.entries name
    rw [stored, Option.getD_some] at entry
    exact entry.idle settled

/-- The call returned without an error. -/
def succeeded {α : Type} : Option (Except String α) → Bool
  | some (.ok _) => true
  | _ => false

theorem succeeded_iff {α : Type} {result : Option (Except String α)} :
    succeeded result = true ↔ ∃ a, result = some (.ok a) := by
  constructor
  · intro ok
    match result, ok with
    | some (.ok a), _ => exact ⟨a, rfl⟩
  · rintro ⟨a, rfl⟩
    rfl

/-- **Startup reconciliation reaches exactly the checkpointed state, from any disk.** The driver's
files are then the common spec and one `.yaml` spec, derived from the checkpointed devices, for each
claim whose devices are all reported; the checkpoint and every other file are as they were; and
starting again with the same devices changes nothing. -/
theorem startup_reconciles (mayFail : DiskOp → Bool) (config : DriverConfig Config)
    (driverResources : DriverResources) (disk : Disk) (outcomes : List Outcome)
    (ok : succeeded (Prog.exec (Disk.act mayFail) (newDeviceState config driverResources)
      outcomes disk).2 = true) :
    let after := (Prog.exec (Disk.act mayFail) (newDeviceState config driverResources) outcomes disk).1
    let claims := disk.checkpoint.getD ∅
    let cdi := config.cdi
    (∀ name, (cdi.managed name = true ∧
        ∃ entry, after.root.lookup name = some entry ∧ entry.isDir = false) ↔
      name = cdi.specLead ++ "common" ++ ".yaml" ∨
        ∃ uid ∈ claims, AllReported driverResources config.nodeName claims uid ∧
          name = cdi.specLead ++ uid.text ++ ".yaml") ∧
    (∃ spec, cdi.commonSpec = .ok spec ∧ after.root.lookup cdi.commonFile = some (.spec spec)) ∧
    (∀ uid ∈ claims, AllReported driverResources config.nodeName claims uid →
      ∃ spec, cdi.claimSpec uid (claims.lookup uid).join = .ok spec ∧
        after.root.lookup (cdi.claimFile uid) = some (.spec spec)) ∧
    after.checkpoint = some claims ∧
    (∀ name, cdi.managed name = false → after.root.lookup name = disk.root.lookup name) ∧
    ∀ outcomes', let again :=
        (Prog.exec (Disk.act mayFail) (newDeviceState config driverResources) outcomes' after).1
      again.checkpoint = after.checkpoint ∧
        ∀ name, again.root.lookup name = after.root.lookup name := by
  intro after claims cdi
  obtain ⟨starting, returned⟩ := exec_newDeviceState mayFail config driverResources outcomes disk
  obtain ⟨state, result⟩ := succeeded_iff.mp ok
  obtain ⟨-, stored, settled⟩ := returned state result
  refine ⟨fun name => ⟨?_, ?_⟩, settled.common, fun uid inside reported => ?_, stored, fun name foreign => ?_,
    fun outcomes' => startup_idle mayFail config driverResources outcomes' stored settled⟩
  · rintro ⟨own, entry, found, file⟩
    by_cases kept : name ∈ cdi.keepFiles ((initialState config driverResources).validClaims claims)
    · rcases List.mem_cons.mp kept with common | claim
      · exact Or.inl (common.trans cdi.commonFile_eq)
      · obtain ⟨uid, valid, same⟩ := List.mem_map.mp claim
        obtain ⟨inside, reported⟩ := mem_validClaims_initial.mp valid
        exact Or.inr ⟨uid, inside, reported, same.symm.trans (cdi.claimFile_eq uid)⟩
    · rw [settled.only name own kept entry found] at file
      cases file
  · rintro (common | ⟨uid, inside, reported, same⟩)
    · have isCommon : name = cdi.commonFile := common.trans cdi.commonFile_eq.symm
      obtain ⟨spec, _, found⟩ := settled.common
      exact isCommon ▸ ⟨cdi.managed_commonFile, _, found, rfl⟩
    · have isClaim : name = cdi.claimFile uid := same.trans (cdi.claimFile_eq uid).symm
      obtain ⟨spec, _, found⟩ := settled.claim uid (mem_validClaims_initial.mpr ⟨inside, reported⟩)
      exact isClaim ▸ ⟨cdi.managed_claimFile uid, _, found, rfl⟩
  · exact settled.claim uid (mem_validClaims_initial.mpr ⟨inside, reported⟩)
  · exact (starting.entries name).foreign foreign

/-- Leftovers of every kind: a claim without its spec, one whose device is gone but whose spec is
there, an orphan, a `.json` twin and a file of another vendor. -/
def leftovers : Disk where
  checkpoint := some (((∅ : PreparedClaims).insert uidA (some [samplePrepared uidA "tt-0"])).insert uidB
    (some [samplePrepared uidB "tt-9"]))
  root := ((((∅ : GoMap String RootEntry).insert (sampleHandler.claimFile uidB) (.other "stale")).insert
    (sampleHandler.specLead ++ "c3" ++ ".yaml") (.other "orphan")).insert
      (sampleHandler.specLead ++ "a1" ++ ".json") (.other "twin")).insert "other-vendor.yaml" (.other "x")

/-- From those leftovers the startup ends with the common spec and the one claim that is whole. -/
theorem leftovers_reconciled :
    let after := (Prog.exec (Disk.act anyMayFail) (newDeviceState sampleConfig (sampleResources ["tt-0"]))
      (List.replicate 20 .done) leftovers).1
    after.root.keys.insertionSort (· ≤ ·) =
        [sampleHandler.claimFile uidA, sampleHandler.commonFile, "other-vendor.yaml"] ∧
      after.checkpoint = leftovers.checkpoint := by
  -- one evaluation of the startup for both facts
  have ran : succeeded (Prog.exec (Disk.act anyMayFail)
        (newDeviceState sampleConfig (sampleResources ["tt-0"])) (List.replicate 20 .done) leftovers).2 =
          true ∧
      (Prog.exec (Disk.act anyMayFail) (newDeviceState sampleConfig (sampleResources ["tt-0"]))
        (List.replicate 20 .done) leftovers).1.root.keys.insertionSort (· ≤ ·) =
          [sampleHandler.claimFile uidA, sampleHandler.commonFile, "other-vendor.yaml"] := by
    decide +kernel
  have all := startup_reconciles anyMayFail sampleConfig (sampleResources ["tt-0"]) leftovers
    (List.replicate 20 .done) ran.1
  exact ⟨ran.2, all.2.2.2.1⟩

end DraDriver.Plugin
