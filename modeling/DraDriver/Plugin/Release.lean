/-
**What a successful `Unprepare` leaves behind.**

`Unprepare` decides from the checkpoint alone whether there is anything to clean. A claim whose spec
was written and whose checkpoint entry was not, whose entry is nil, or whose checkpoint could not be
read is not cleaned, and `Unprepare` returns nil all the same.

* `Clean` — nothing of the claim in the checkpoint or the CDI root; `run_clean`: it stays so until
  the claim is prepared again.
* `unprepare_leaves_spec` — a run in which a successful `Unprepare` leaves the claim's spec file.
* **`unprepare_clean_iff`** — exactly when a successful `Unprepare` leaves nothing behind.
-/

import DraDriver.Plugin.Runs

namespace DraDriver.Plugin

open DraDriver.Base DraDriver.Profiles DraDriver.Tenstorrent

variable {Config : Type}

/-- The checkpoint has no entry for the claim. -/
def NoEntry (uid : ClaimUID) (disk : Disk) : Prop := uid ∉ disk.checkpoint.getD ∅

/-- The CDI root has no spec file for the claim. -/
def NoSpec (config : DriverConfig Config) (uid : ClaimUID) (disk : Disk) : Prop :=
  disk.root.lookup (config.cdi.claimFile uid) = none

/-- **Nothing of the claim is left.** -/
structure Clean (config : DriverConfig Config) (uid : ClaimUID) (disk : Disk) : Prop where
  entry : NoEntry uid disk
  spec : NoSpec config uid disk

/-- What an `Unprepare` that returns nil has to find to leave nothing behind: devices of the claim
in a checkpoint it can read, or nothing to clean. -/
def Releasable (config : DriverConfig Config) (uid : ClaimUID) (readFailed : Bool) (disk : Disk) : Prop :=
  if readFailed then NoSpec config uid disk
  else (∃ devices, (disk.checkpoint.getD ∅).lookup uid = some (some devices)) ∨
    NoEntry uid disk ∧ NoSpec config uid disk

/-! ### Clean stays clean -/

section Clean

variable {config : DriverConfig Config} {mayFail : DiskOp → Bool}
  {deepEqual : DriverResources → DriverResources → Bool} {uid : ClaimUID} {disk disk' : Disk}

theorem prepare_clean {rt rt' : Runtime} {s : DeviceState Config} {claim : ResourceClaim}
    {result : Option (Except String (List KubeletDevice))} (ours : s.cdi = config.cdi)
    (different : claim.uid ≠ uid) (clean : Clean config uid disk)
    (ends : PrepareEnds rt rt' s claim disk disk' result) : Clean config uid disk' := by
  have otherFile : config.cdi.claimFile uid ≠ s.cdi.claimFile claim.uid := by
    rw [ours]
    exact fun same => different (config.cdi.claimFile_inj same).symm
  have kept : ∀ spec, NoSpec config uid (disk.putSpec (s.cdi.claimFile claim.uid) spec) := fun spec => by
    unfold NoSpec
    rw [putSpec_lookup, if_neg otherFile]
    exact clean.spec
  cases ends with
  | untouched => exact clean
  | rewritten claims devices spec => exact ⟨clean.entry, kept spec⟩
  | halfway claims devices spec => exact ⟨clean.entry, kept spec⟩
  | prepared claims devices spec _ stored =>
    refine ⟨?_, kept spec⟩
    have absent := clean.entry
    unfold NoEntry at absent ⊢
    rw [stored, Option.getD_some] at absent
    rw [putCheckpoint_checkpoint, Option.getD_some, AList.mem_insert]
    rintro (same | old)
    · exact different same.symm
    · exact absent old

theorem unprepare_clean {s : DeviceState Config} {target : ClaimUID} {failed : Bool}
    {result : Option (Except String Unit)} (clean : Clean config uid disk)
    (ends : UnprepareEnds s target disk failed disk' result) : Clean config uid disk' := by
  have dropped : NoSpec config uid (disk.dropFile (s.cdi.claimFile target)) := by
    unfold NoSpec
    rw [dropFile_lookup]
    split
    · rfl
    · exact clean.spec
  cases ends with
  | untouched => exact clean
  | replaced => exact ⟨AList.notMem_empty uid, clean.spec⟩
  | nothing => exact clean
  | halfway => exact ⟨clean.entry, dropped⟩
  | unprepared claims devices _ stored =>
    refine ⟨?_, dropped⟩
    have absent := clean.entry
    unfold NoEntry at absent ⊢
    rw [stored, Option.getD_some] at absent
    rw [putCheckpoint_checkpoint, Option.getD_some, AList.mem_erase]
    exact fun member => absent member.2

theorem restart_clean {driverResources : DriverResources} (clean : Clean config uid disk)
    (starting : Starting (initialState config driverResources) disk disk') :
    Clean config uid disk' := by
  constructor
  · unfold NoEntry
    rcases starting.checkpoint with same | ⟨_, created⟩
    · rw [same]
      exact clean.entry
    · rw [created]
      exact AList.notMem_empty uid
  · have file := starting.entries (config.cdi.claimFile uid)
    unfold NoSpec
    generalize disk'.root.lookup (config.cdi.claimFile uid) = current at file
    cases file with
    | same => exact clean.spec
    | common _ here _ => exact absurd here (config.cdi.claimFile_ne_common uid)
    | claim other _ here valid _ =>
      have same : uid = other := config.cdi.claimFile_inj here
      exact absurd (same ▸ (mem_validClaims.mp valid).1) clean.entry
    | pruned => rfl

/-- One event other than a `Prepare` of the claim. -/
theorem step_clean {sys sys' : System config} {event : Event}
    (other : ∀ claim result, event = .prepare claim result → claim.uid ≠ uid)
    (clean : Clean config uid sys.disk) (step : Step config mayFail deepEqual sys event sys') :
    Clean config uid sys'.disk := by
  have changes := step.changes
  generalize sys'.disk = after at changes
  cases changes with
  | prepare rt rt' s claim result _ ours ends =>
    exact prepare_clean ours (other claim result rfl) clean ends
  | unprepare s target failed result _ ours ends => exact unprepare_clean clean ends
  | setResources => exact clean
  | restart driverResources success _ starting => exact restart_clean clean starting

/-- **Clean stays clean** until the claim is prepared again. -/
theorem run_clean {sys sys' : System config} {events : List Event} (clean : Clean config uid sys.disk)
    (run : Run (Step config mayFail deepEqual) sys events sys')
    (others : ∀ claim result, .prepare claim result ∈ events → claim.uid ≠ uid) :
    Clean config uid sys'.disk := by
  induction run with
  | nil => exact clean
  | snoc _ step ih =>
    have before := ih fun claim result member => others claim result (List.mem_append_left _ member)
    exact step_clean (fun claim result same => others claim result (by simp [same])) before step

end Clean

/-! ### When a successful `Unprepare` is clean -/

/-- The disk a successful `Unprepare` leaves is clean exactly when it was releasable. -/
theorem ends_clean_iff {config : DriverConfig Config} {s : DeviceState Config} {uid : ClaimUID}
    {failed : Bool} {disk disk' : Disk} (ours : s.cdi = config.cdi)
    (ends : UnprepareEnds s uid disk failed disk' (some (.ok ()))) :
    Clean config uid disk' ↔ Releasable config uid failed disk := by
  cases ends with
  | untouched _ _ wrong => exact absurd rfl wrong
  | halfway _ _ _ _ _ wrong => exact absurd rfl wrong
  | replaced =>
    constructor
    · exact fun clean => clean.spec
    · exact fun free => ⟨AList.notMem_empty uid, free⟩
  | nothing claims stored entry =>
    constructor
    · exact fun clean => Or.inr ⟨clean.entry, clean.spec⟩
    · rintro (⟨devices, recorded⟩ | ⟨noEntry, noSpec⟩)
      · rw [stored, Option.getD_some] at recorded
        rw [recorded] at entry
        cases entry
      · exact ⟨noEntry, noSpec⟩
  | unprepared claims devices _ stored entry =>
    refine ⟨fun _ => Or.inl ⟨devices, by rw [stored]; exact entry⟩, fun _ => ⟨?_, ?_⟩⟩
    · unfold NoEntry
      rw [putCheckpoint_checkpoint, Option.getD_some, AList.mem_erase]
      exact fun member => member.1 rfl
    · unfold NoSpec
      rw [putCheckpoint_root, dropFile_lookup, ours, if_pos rfl]

/-- **A successful `Unprepare` leaves nothing behind, until the claim is prepared again, exactly
when** it found devices of the claim in a checkpoint it could read, or nothing to clean. -/
theorem unprepare_clean_iff (config : DriverConfig Config) (mayFail : DiskOp → Bool)
    (deepEqual : DriverResources → DriverResources → Bool) {sys sys₁ : System config}
    {uid : ClaimUID} {readFailed : Bool}
    (step : Step config mayFail deepEqual sys (.unprepare uid readFailed (some (.ok ()))) sys₁) :
    (∀ events sys₂, Run (Step config mayFail deepEqual) sys₁ events sys₂ →
      (∀ claim result, .prepare claim result ∈ events → claim.uid ≠ uid) →
        NoEntry uid sys₂.disk ∧ NoSpec config uid sys₂.disk) ↔
      Releasable config uid readFailed sys.disk := by
  have changes := step.changes
  have now : Clean config uid sys₁.disk ↔ Releasable config uid readFailed sys.disk := by
    generalize sys₁.disk = disk' at changes
    cases changes with
    | unprepare s _ _ _ _ ours ends => exact ends_clean_iff ours ends
  constructor
  · intro always
    obtain ⟨entry, spec⟩ := always [] sys₁ (.nil sys₁) fun _ _ none => by cases none
    exact now.mp ⟨entry, spec⟩
  · intro releasable events sys₂ run others
    have clean := run_clean (now.mpr releasable) run others
    exact ⟨clean.entry, clean.spec⟩

/-- No files and no driver. -/
def emptySystem (config : DriverConfig Config) : System config :=
  ⟨{ checkpoint := none, root := ∅ }, none⟩

/-- **A successful `Unprepare` can leave a spec file behind**: the driver starts, a `Prepare` writes
the spec and fails to write the checkpoint, and `Unprepare` finds no entry and returns nil. -/
theorem unprepare_leaves_spec :
    ∃ sys, Run (Step sampleConfig anyMayFail sampleEqual) (emptySystem sampleConfig)
        [.restart (sampleResources ["tt-0"]) true,
          .prepare (sampleClaim uidA ["tt-0"])
            (some (.error "unable to sync to checkpoint: no space left on device")),
          .unprepare uidA false (some (.ok ()))] sys ∧
      ¬ NoSpec sampleConfig uidA sys.disk := by
  refine ⟨_, .snoc (.snoc (.snoc (.nil _) (Step.of_restart _ _ (List.replicate 6 .done) _ ?_))
    (Step.of_prepare Runtime.plain Runtime.plain sampleConfig.configHandler
      (.started sampleConfig (sampleResources ["tt-0"])) _
      [.done, .done, .failed "no space left on device", .done] _ ?_))
    (Step.of_unprepare (.started sampleConfig (sampleResources ["tt-0"])) _ [.done, .done] _ ?_ ?_), ?_⟩
  · decide +kernel
  · decide +kernel
  · decide +kernel
  · decide +kernel
  · unfold NoSpec
    decide +kernel

/-- A claim that was prepared whole. -/
def wholeDisk : Disk where
  checkpoint := some ((∅ : PreparedClaims).insert uidA (some [samplePrepared uidA "tt-0"]))
  root := (∅ : GoMap String RootEntry).insert (sampleHandler.claimFile uidA) (.other "its spec")

/-- A claim that was prepared whole is released whole. -/
theorem wholeDisk_released :
    ∃ sys, Step sampleConfig anyMayFail sampleEqual
        ⟨wholeDisk, some (.started sampleConfig (sampleResources ["tt-0"]))⟩
        (.unprepare uidA false (some (.ok ()))) sys ∧
      NoEntry uidA sys.disk ∧ NoSpec sampleConfig uidA sys.disk := by
  have step : Step sampleConfig anyMayFail sampleEqual
      ⟨wholeDisk, some (.started sampleConfig (sampleResources ["tt-0"]))⟩
      (.unprepare uidA false (some (.ok ()))) _ :=
    Step.of_unprepare _ _ (List.replicate 4 .done) _ (by decide +kernel) (by decide +kernel)
  have releasable : Releasable sampleConfig uidA false wholeDisk :=
    Or.inl ⟨[samplePrepared uidA "tt-0"], AList.lookup_insert _⟩
  exact ⟨_, step, (unprepare_clean_iff sampleConfig anyMayFail sampleEqual step).mpr releasable [] _
    (.nil _) fun _ _ none => by cases none⟩

end DraDriver.Plugin
