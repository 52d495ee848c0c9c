/-
**A prepared claim is durable.**

Once `Prepare` of a claim has returned devices, no call but its own `Unprepare` takes them away:
not the calls for other claims, not new resources, not a crash at any disk operation, not a failed
write or deletion, not a restart.

* `Recorded` — what is kept: the checkpoint maps the claim to its devices, and its spec file holds
  their spec unless a restart may have removed it.
* `step_recorded` — one event keeps it, and a further `Prepare` returns the same devices or an error.
* **`prepared_durable`** — over every run without an `Unprepare` of the claim it is the devices that
  were recorded then.
-/

import DraDriver.Plugin.Runs

namespace DraDriver.Plugin

open DraDriver.Base DraDriver.Profiles DraDriver.Tenstorrent

variable {Config : Type}

/-! ### What is kept -/

/-- The claim's spec file holds the spec derived from its devices. -/
def SpecInPlace (config : DriverConfig Config) (uid : ClaimUID) (devices : List PreparedDevice)
    (disk : Disk) : Prop :=
  ∃ spec, config.cdi.claimSpec uid (some devices) = .ok spec ∧
    disk.root.lookup (config.cdi.claimFile uid) = some (.spec spec)

/-- The checkpoint maps the claim to these devices. -/
def Checkpointed (uid : ClaimUID) (devices : List PreparedDevice) (disk : Disk) : Prop :=
  ∃ claims, disk.checkpoint = some claims ∧ claims.lookup uid = some (some devices)

/-- Every device the kubelet was told of is reported. -/
def allReported (config : DriverConfig Config) (driverResources : DriverResources)
    (devices : List KubeletDevice) : Bool :=
  devices.all fun device => decide (device.deviceName ∈ reportedNames driverResources config.nodeName)

/-- Whether the claim's spec file may be missing after an event: from a restart that did not report
one of its devices until a successful restart that reports them all or a successful `Prepare`. -/
def mayLack (config : DriverConfig Config) (uid : ClaimUID) (devices : List KubeletDevice)
    (lacking : Bool) : Event → Bool
  | .restart driverResources success =>
    if allReported config driverResources devices then lacking && !success else true
  | .prepare claim (some (.ok _)) => if claim.uid = uid then false else lacking
  | _ => lacking

/-- **What every event keeps** of a prepared claim. -/
structure Recorded (config : DriverConfig Config) (uid : ClaimUID) (devices : List PreparedDevice)
    (lacking : Bool) (disk : Disk) : Prop where
  checkpoint : Checkpointed uid devices disk
  spec : lacking = false → SpecInPlace config uid devices disk

section Keeps

variable {config : DriverConfig Config} {uid : ClaimUID} {devices : List PreparedDevice}
  {lacking : Bool} {disk : Disk}

theorem SpecInPlace.putSpec_other (place : SpecInPlace config uid devices disk) {other : ClaimUID}
    (different : other ≠ uid) (spec : CdiSpec) :
    SpecInPlace config uid devices (disk.putSpec (config.cdi.claimFile other) spec) := by
  obtain ⟨own, derived, found⟩ := place
  refine ⟨own, derived, ?_⟩
  rw [putSpec_lookup, if_neg fun same => different (config.cdi.claimFile_inj same).symm, found]

theorem SpecInPlace.dropFile_other (place : SpecInPlace config uid devices disk) {other : ClaimUID}
    (different : other ≠ uid) :
    SpecInPlace config uid devices (disk.dropFile (config.cdi.claimFile other)) := by
  obtain ⟨own, derived, found⟩ := place
  refine ⟨own, derived, ?_⟩
  rw [dropFile_lookup, if_neg fun same => different (config.cdi.claimFile_inj same).symm, found]

theorem Checkpointed.insert_other {claims : PreparedClaims} (stored : disk.checkpoint = some claims)
    (recorded : Checkpointed uid devices disk) {other : ClaimUID} (different : other ≠ uid)
    (entry : PreparedDevices) (root : Disk) :
    Checkpointed uid devices (root.putCheckpoint (claims.insert other entry)) := by
  obtain ⟨found, same, entryOf⟩ := recorded
  refine ⟨_, rfl, ?_⟩
  rw [lookup_insert_eq, if_neg different.symm, Option.some.inj (stored.symm.trans same), entryOf]

theorem Checkpointed.erase_other {claims : PreparedClaims} (stored : disk.checkpoint = some claims)
    (recorded : Checkpointed uid devices disk) {other : ClaimUID} (different : other ≠ uid)
    (root : Disk) : Checkpointed uid devices (root.putCheckpoint (claims.erase other)) := by
  obtain ⟨found, same, entryOf⟩ := recorded
  refine ⟨_, rfl, ?_⟩
  rw [lookup_erase_eq, if_neg different.symm, Option.some.inj (stored.symm.trans same), entryOf]

/-- A `Prepare` of another claim. -/
theorem prepare_other {rt rt' : Runtime} {s : DeviceState Config} {claim : ResourceClaim}
    {result : Option (Except String (List KubeletDevice))} {disk' : Disk} (ours : s.cdi = config.cdi)
    (different : claim.uid ≠ uid) (recorded : Recorded config uid devices lacking disk)
    (ends : PrepareEnds rt rt' s claim disk disk' result) :
    Recorded config uid devices lacking disk' := by
  have files : s.cdi.claimFile = config.cdi.claimFile := congrArg CDIHandler.claimFile ours
  cases ends with
  | untouched => exact recorded
  | rewritten claims found spec _ stored =>
    rw [files]
    exact ⟨recorded.checkpoint, fun present => (recorded.spec present).putSpec_other different spec⟩
  | halfway claims found spec _ stored =>
    rw [files]
    exact ⟨recorded.checkpoint, fun present => (recorded.spec present).putSpec_other different spec⟩
  | prepared claims found spec _ stored =>
    rw [files]
    exact ⟨recorded.checkpoint.insert_other stored different found _,
      fun present => (recorded.spec present).putSpec_other different spec⟩

/-- A further `Prepare` of the claim rewrites its spec or changes nothing. -/
theorem prepare_again {rt rt' : Runtime} {s : DeviceState Config} {claim : ResourceClaim}
    {result : Option (Except String (List KubeletDevice))} {disk' : Disk} (ours : s.cdi = config.cdi)
    (recorded : Recorded config claim.uid devices lacking disk)
    (ends : PrepareEnds rt rt' s claim disk disk' result) :
    Checkpointed claim.uid devices disk' ∧
      (lacking = false → SpecInPlace config claim.uid devices disk') ∧
      ∀ returned, result = some (.ok returned) →
        returned = getDevices (some devices) ∧ SpecInPlace config claim.uid devices disk' := by
  obtain ⟨claims, stored, entry⟩ := recorded.checkpoint
  have join : (claims.lookup claim.uid).join = some devices := by rw [entry]; rfl
  cases ends with
  | untouched result failed =>
    exact ⟨recorded.checkpoint, recorded.spec, fun returned same => absurd same (failed returned)⟩
  | rewritten found others spec result stored' entry' _ derived returns =>
    have sameClaims := Option.some.inj (stored.symm.trans stored')
    have sameDevices : devices = others := by
      rw [sameClaims, entry'] at entry
      exact (Option.some.inj (Option.some.inj entry)).symm
    subst sameDevices
    have place : SpecInPlace config claim.uid devices
        (disk.putSpec (s.cdi.claimFile claim.uid) spec) :=
      ⟨spec, ours ▸ derived, by rw [putSpec_lookup, ours, if_pos rfl]⟩
    refine ⟨recorded.checkpoint, fun _ => place, fun returned same => ⟨?_, place⟩⟩
    rcases returns with none | ok
    · rw [none] at same
      cases same
    · exact Except.ok.inj (Option.some.inj (same.symm.trans ok))
  | halfway found _ _ _ stored' fresh =>
    rw [← Option.some.inj (stored.symm.trans stored'), join] at fresh
    cases fresh
  | prepared found _ _ _ stored' fresh =>
    rw [← Option.some.inj (stored.symm.trans stored'), join] at fresh
    cases fresh

/-- An `Unprepare` of another claim that has read the checkpoint. -/
theorem unprepare_other {s : DeviceState Config} {other : ClaimUID}
    {result : Option (Except String Unit)} {disk' : Disk} (ours : s.cdi = config.cdi)
    (different : other ≠ uid) (recorded : Recorded config uid devices lacking disk)
    (ends : UnprepareEnds s other disk false disk' result) :
    Recorded config uid devices lacking disk' := by
  cases ends with
  | untouched => exact recorded
  | nothing => exact recorded
  | halfway claims found _ stored =>
    rw [ours]
    exact ⟨recorded.checkpoint, fun present => (recorded.spec present).dropFile_other different⟩
  | unprepared claims found _ stored =>
    rw [ours]
    exact ⟨recorded.checkpoint.erase_other stored different _,
      fun present => (recorded.spec present).dropFile_other different⟩

/-- The devices the kubelet was told of are the recorded ones. -/
theorem allReported_iff {driverResources : DriverResources} {claims : PreparedClaims}
    (entry : claims.lookup uid = some (some devices)) :
    allReported config driverResources (getDevices (some devices)) = true ↔
      AllReported driverResources config.nodeName claims uid := by
  have join : (claims.lookup uid).join = some devices := by rw [entry]; rfl
  simp [allReported, AllReported, getDevices, rangeDevices, join]

/-- A restart. -/
theorem restart_keeps {driverResources : DriverResources} {success : Bool} {disk' : Disk}
    (recorded : Recorded config uid devices lacking disk)
    (starting : Starting (initialState config driverResources) disk disk')
    (settled : success = true → disk'.checkpoint = some (disk.checkpoint.getD ∅) ∧
      Settled (initialState config driverResources) (disk.checkpoint.getD ∅) disk'.root) :
    Recorded config uid devices
      (mayLack config uid (getDevices (some devices)) lacking (.restart driverResources success))
      disk' := by
  obtain ⟨claims, stored, entry⟩ := recorded.checkpoint
  have join : (claims.lookup uid).join = some devices := by rw [entry]; rfl
  have contents : disk.checkpoint.getD ∅ = claims := by rw [stored]; rfl
  have inside : uid ∈ claims :=
    AList.lookup_isSome.mp (Option.isSome_iff_exists.mpr ⟨_, entry⟩)
  refine ⟨⟨claims, ?_, entry⟩, fun present => ?_⟩
  · rcases starting.checkpoint with same | ⟨absent, _⟩
    · rw [same, stored]
    · rw [stored] at absent
      cases absent
  · unfold mayLack at present
    cases reported : allReported config driverResources (getDevices (some devices)) with
    | false => simp [reported] at present
    | true =>
      have valid : uid ∈ (initialState config driverResources).validClaims claims :=
        mem_validClaims_initial.mpr ⟨inside, (allReported_iff entry).mp reported⟩
      cases ok : success with
      | true =>
        obtain ⟨spec, derived, found⟩ := (contents ▸ (settled ok).2).claim uid valid
        exact ⟨spec, join ▸ derived, found⟩
      | false =>
        have before : lacking = false := by simpa [reported, ok] using present
        obtain ⟨spec, derived, found⟩ := recorded.spec before
        have file := starting.entries (config.cdi.claimFile uid)
        rw [contents] at file
        unfold SpecInPlace
        generalize now : disk'.root.lookup (config.cdi.claimFile uid) = current at file
        cases file with
        | same => exact ⟨spec, derived, found⟩
        | common _ here _ => exact absurd here (config.cdi.claimFile_ne_common uid)
        | claim other newSpec here _ newDerived =>
          have same : other = uid := config.cdi.claimFile_inj here.symm
          subst same
          exact ⟨newSpec, join ▸ newDerived, rfl⟩
        | pruned _ stray _ => exact absurd (claimFile_mem_keepFiles.mpr valid) stray

end Keeps

/-! ### Over whole runs -/

section Runs

variable {config : DriverConfig Config} {deepEqual : DriverResources → DriverResources → Bool}
  {uid : ClaimUID} {devices : List PreparedDevice}

/-- **One event keeps a prepared claim**, and a further `Prepare` of it returns the same devices. -/
theorem step_recorded {lacking : Bool} {sys sys' : System config} {event : Event}
    (other : ∀ failed result, event ≠ .unprepare uid failed result)
    (recorded : Recorded config uid devices lacking sys.disk)
    (step : Step config readsSucceed deepEqual sys event sys') :
    Recorded config uid devices (mayLack config uid (getDevices (some devices)) lacking event)
      sys'.disk ∧
      ∀ claim returned, event = .prepare claim (some (.ok returned)) → claim.uid = uid →
        returned = getDevices (some devices) := by
  have present : sys.disk.checkpoint.isSome = true := by
    obtain ⟨claims, stored, _⟩ := recorded.checkpoint
    rw [stored]
    rfl
  have changes := step.changes
  generalize sys'.disk = disk' at changes
  cases changes with
  | prepare rt rt' s claim result _ ours ends =>
    by_cases own : claim.uid = uid
    · subst own
      obtain ⟨checkpointed, spec, returns⟩ := prepare_again ours recorded ends
      refine ⟨⟨checkpointed, ?_⟩, ?_⟩
      · match result with
        | none => exact spec
        | some (.error e) => exact spec
        | some (.ok returned) => exact fun _ => (returns returned rfl).2
      · rintro _ returned same -
        cases same
        exact (returns returned rfl).1
    · refine ⟨?_, ?_⟩
      · have same : mayLack config uid (getDevices (some devices)) lacking (.prepare claim result) =
            lacking := by
          match result with
          | none => rfl
          | some (.error e) => rfl
          | some (.ok returned) => exact if_neg own
        rw [same]
        exact prepare_other ours own recorded ends
      · rintro _ returned same here
        cases same
        exact absurd here own
  | unprepare s target failed result _ ours ends =>
    have different : target ≠ uid := fun same => other failed result (same ▸ rfl)
    have read : failed = false := step.read_ok rfl present
    subst read
    exact ⟨unprepare_other ours different recorded ends, fun _ _ same => by cases same⟩
  | setResources driverResources => exact ⟨recorded, fun _ _ same => by cases same⟩
  | restart driverResources success _ starting settled =>
    exact ⟨restart_keeps recorded starting settled, fun _ _ same => by cases same⟩

/-- A run without an `Unprepare` of the claim. -/
theorem run_recorded {lacking : Bool} {sys sys' : System config} {events : List Event}
    (recorded : Recorded config uid devices lacking sys.disk)
    (run : Run (Step config readsSucceed deepEqual) sys events sys')
    (others : ∀ event ∈ events, ∀ failed result, event ≠ .unprepare uid failed result) :
    Recorded config uid devices
      (events.foldl (mayLack config uid (getDevices (some devices))) lacking) sys'.disk ∧
      ∀ claim returned, .prepare claim (some (.ok returned)) ∈ events → claim.uid = uid →
        returned = getDevices (some devices) := by
  induction run with
  | nil => exact ⟨recorded, fun _ _ none => by cases none⟩
  | @snoc events mid event last before step ih =>
    obtain ⟨kept, returns⟩ := ih fun e member => others e (List.mem_append_left _ member)
    obtain ⟨next, returned⟩ := step_recorded (others event (by simp)) kept step
    rw [List.foldl_append]
    refine ⟨next, fun claim devices member own => ?_⟩
    rcases List.mem_append.mp member with old | new
    · exact returns claim devices old own
    · exact returned claim devices (List.mem_singleton.mp new).symm own

/-- A `Prepare` that returned devices has recorded them. -/
theorem recorded_of_prepare {sys sys' : System config} {claim : ResourceClaim}
    {returned : List KubeletDevice} (some : returned ≠ [])
    (step : Step config readsSucceed deepEqual sys (.prepare claim (.some (.ok returned))) sys') :
    ∃ devices, getDevices (.some devices) = returned ∧
      Recorded config claim.uid devices false sys'.disk := by
  have changes := step.changes
  generalize sys'.disk = disk' at changes
  cases changes with
  | prepare rt rt' s _ _ _ ours ends =>
    cases ends with
    | untouched _ failed => exact absurd rfl (failed returned)
    | rewritten claims devices spec _ stored entry _ derived returns =>
      have same : getDevices (.some devices) = returned := by simpa [eq_comm] using returns
      refine ⟨devices, same, ⟨claims, stored, entry⟩, fun _ => ⟨spec, ours ▸ derived, ?_⟩⟩
      rw [putSpec_lookup, ours, if_pos rfl]
    | halfway _ _ _ _ _ _ _ _ failed => exact absurd rfl (failed returned)
    | prepared claims devices spec _ stored fresh _ derived returns =>
      have same : getDevices devices = returned := by simpa [eq_comm] using returns
      cases devices with
      | none => exact absurd same.symm some
      | some devices =>
        refine ⟨devices, same, ⟨_, rfl, AList.lookup_insert _⟩, fun _ => ⟨spec, ours ▸ derived, ?_⟩⟩
        rw [putCheckpoint_root, putSpec_lookup, ours, if_pos rfl]

end Runs

/-- A claim is checkpointed with one list of devices. -/
theorem Checkpointed.unique {uid : ClaimUID} {devices devices' : List PreparedDevice} {disk : Disk}
    (recorded : Checkpointed uid devices disk) (recorded' : Checkpointed uid devices' disk) :
    devices = devices' := by
  obtain ⟨claims, stored, entry⟩ := recorded
  obtain ⟨claims', stored', entry'⟩ := recorded'
  cases Option.some.inj (stored.symm.trans stored')
  exact Option.some.inj (Option.some.inj (entry.symm.trans entry'))

/-- **A prepared claim is durable.** When `Prepare` has returned a non-empty device list, the
checkpoint maps the claim to those devices and its spec file holds their spec. From then on, in every
run without an `Unprepare` of the claim in which checkpoint reads succeed, it is the same devices, with
the same edits and the same flag: the checkpoint maps the claim to them, every further `Prepare` of it
returns them or an error, and its spec file holds their spec, except from a restart that did not report
one of them until a successful restart that reports them all or a successful `Prepare`. -/
theorem prepared_durable (config : DriverConfig Config)
    (deepEqual : DriverResources → DriverResources → Bool) {sys sys₁ : System config}
    {claim : ResourceClaim} {returned : List KubeletDevice} (nonempty : returned ≠ [])
    (prepared : Step config readsSucceed deepEqual sys (.prepare claim (some (.ok returned))) sys₁) :
    ∃ devices, getDevices (some devices) = returned ∧ Checkpointed claim.uid devices sys₁.disk ∧
      SpecInPlace config claim.uid devices sys₁.disk ∧
      ∀ (events : List Event) (sys₂ : System config),
        Run (Step config readsSucceed deepEqual) sys₁ events sys₂ →
        (∀ event ∈ events, ∀ failed result, event ≠ .unprepare claim.uid failed result) →
        Checkpointed claim.uid devices sys₂.disk ∧
        (∀ again result, .prepare again result ∈ events → again.uid = claim.uid →
          result = none ∨ result = some (.ok returned) ∨ ∃ e, result = some (.error e)) ∧
        (events.foldl (mayLack config claim.uid returned) false = false →
          SpecInPlace config claim.uid devices sys₂.disk) := by
  obtain ⟨devices, same, recorded⟩ := recorded_of_prepare nonempty prepared
  subst same
  refine ⟨devices, rfl, recorded.checkpoint, recorded.spec rfl, fun events sys₂ run others => ?_⟩
  obtain ⟨kept, returns⟩ := run_recorded recorded run others
  refine ⟨kept.checkpoint, fun again result member own => ?_, kept.spec⟩
  match result with
  | none => exact Or.inl rfl
  | some (.error e) => exact Or.inr (Or.inr ⟨e, rfl⟩)
  | some (.ok more) => exact Or.inr (Or.inl (by rw [returns again more member own]))

/-- The disk after the sample driver has prepared a claim. -/
def preparedDisk : Disk :=
  (Prog.exec (Disk.act readsSucceed) ((initialState sampleConfig (sampleResources ["tt-0"])).prepare
    Runtime.plain Runtime.plain (sampleClaim uidA ["tt-0"])) (List.replicate 4 .done)
    { checkpoint := some ∅, root := ∅ }).1

/-- Prepared, then restarted without its device and again with it: the checkpoint has kept the device
with its edits, and the spec with them is back. -/
theorem restarted_durable :
    ∃ sys₁ sys₂, Step sampleConfig readsSucceed sampleEqual (freshSystem ["tt-0"])
        (.prepare (sampleClaim uidA ["tt-0"]) (some (.ok [(samplePrepared uidA "tt-0").device]))) sys₁ ∧
      Checkpointed uidA [samplePrepared uidA "tt-0"] sys₁.disk ∧
      SpecInPlace sampleConfig uidA [samplePrepared uidA "tt-0"] sys₁.disk ∧
      Run (Step sampleConfig readsSucceed sampleEqual) sys₁
        [.restart (sampleResources []) true, .restart (sampleResources ["tt-0"]) true] sys₂ ∧
      Checkpointed uidA [samplePrepared uidA "tt-0"] sys₂.disk ∧
      SpecInPlace sampleConfig uidA [samplePrepared uidA "tt-0"] sys₂.disk := by
  have prepared : Step sampleConfig readsSucceed sampleEqual (freshSystem ["tt-0"])
      (.prepare (sampleClaim uidA ["tt-0"]) (some (.ok [(samplePrepared uidA "tt-0").device])))
      ⟨preparedDisk, some (.started sampleConfig (sampleResources ["tt-0"]))⟩ :=
    Step.of_prepare Runtime.plain Runtime.plain sampleConfig.configHandler _ _ (List.replicate 4 .done) _
      (by decide +kernel)
  have run : Run (Step sampleConfig readsSucceed sampleEqual)
      ⟨preparedDisk, some (.started sampleConfig (sampleResources ["tt-0"]))⟩
      [.restart (sampleResources []) true, .restart (sampleResources ["tt-0"]) true] _ :=
    .snoc (.snoc (.nil _) (Step.of_restart _ _ (List.replicate 6 .done) _ (by decide +kernel)))
      (Step.of_restart _ _ (List.replicate 6 .done) _ (by decide +kernel))
  have recorded : Checkpointed uidA [samplePrepared uidA "tt-0"] preparedDisk :=
    ⟨(∅ : PreparedClaims).insert uidA (some [samplePrepared uidA "tt-0"]), by decide +kernel, rfl⟩
  obtain ⟨devices, -, checkpointed, spec, later⟩ :=
    prepared_durable sampleConfig sampleEqual (by decide) prepared
  cases recorded.unique checkpointed
  obtain ⟨kept, -, place⟩ := later _ _ run (by simp)
  exact ⟨_, _, prepared, checkpointed, spec, run, kept, place (by decide +kernel)⟩

end DraDriver.Plugin
