/-
**How a driver call can end.**

For each program of `Plugin.State` one proposition lists every state it can leave the disk in, with
what it returned (`none`: the driver died in the call), and one theorem says that a run under any
outcomes ends so.

* `perform_writeSpec`, `perform_removeSpec` — what stands in the way of writing and removing a spec.
* **`exec_prepare`**, **`exec_unprepare`** — at most a spec and then the checkpoint change.
-/

import DraDriver.Plugin.State

namespace DraDriver.Plugin

open DraDriver.Base DraDriver.Profiles DraDriver.Tenstorrent

variable {Config : Type}

/-! ### Changed disks -/

/-- The disk with a spec file written. -/
def Disk.putSpec (disk : Disk) (file : String) (spec : CdiSpec) : Disk :=
  { disk with root := disk.root.insert file (.spec spec) }

/-- The disk with a file removed. -/
def Disk.dropFile (disk : Disk) (file : String) : Disk := { disk with root := disk.root.erase file }

/-- The disk with the checkpoint written. -/
def Disk.putCheckpoint (disk : Disk) (claims : PreparedClaims) : Disk :=
  { disk with checkpoint := some claims }

@[simp] theorem putSpec_checkpoint (disk : Disk) (file : String) (spec : CdiSpec) :
    (disk.putSpec file spec).checkpoint = disk.checkpoint := rfl

@[simp] theorem putCheckpoint_checkpoint (disk : Disk) (claims : PreparedClaims) :
    (disk.putCheckpoint claims).checkpoint = some claims := rfl

@[simp] theorem putCheckpoint_root (disk : Disk) (claims : PreparedClaims) :
    (disk.putCheckpoint claims).root = disk.root := rfl

theorem putSpec_lookup (disk : Disk) (file : String) (spec : CdiSpec) (name : String) :
    (disk.putSpec file spec).root.lookup name =
      if name = file then some (.spec spec) else disk.root.lookup name :=
  lookup_insert_eq _ _ _ _

theorem dropFile_lookup (disk : Disk) (file name : String) :
    (disk.dropFile file).root.lookup name = if name = file then none else disk.root.lookup name :=
  lookup_erase_eq _ _ _

/-- A directory cannot be replaced by a spec. -/
def blocksWrite : RootEntry → Bool := RootEntry.isDir

/-- A directory with files in it cannot be removed. -/
def blocksRemove : RootEntry → Bool
  | .dir empty => !empty
  | _ => false

theorem perform_writeSpec (disk : Disk) (file : String) (spec : CdiSpec) :
    disk.perform (.writeSpec file spec) =
      if (disk.root.lookup file).any blocksWrite then
        (Except.error ("rename " ++ file ++ ": file exists"), disk)
      else (Except.ok (), disk.putSpec file spec) := by
  simp only [Disk.perform]
  cases disk.root.lookup file with
  | none => rfl
  | some entry => cases entry <;> rfl

theorem perform_removeSpec (disk : Disk) (file : String) :
    disk.perform (.removeSpec file) =
      if (disk.root.lookup file).any blocksRemove then
        (Except.error ("remove " ++ file ++ ": directory not empty"), disk)
      else (Except.ok (), disk.dropFile file) := by
  simp only [Disk.perform]
  cases disk.root.lookup file with
  | none => rfl
  | some entry =>
    cases entry with
    | spec content => rfl
    | other content => rfl
    | dir empty => cases empty <;> rfl

/-! ### Rules for the disk's operations -/

section Rules

variable {mayFail : DiskOp → Bool} {always : Disk → Prop} {disk : Disk}

theorem ensures_getCheckpoint {post : Disk → Except String PreparedClaims → Prop} (here : always disk)
    (failed : (mayFail .readCheckpoint = true ∨ disk.checkpoint = none) → ∀ e, post disk (.error e))
    (read : ∀ claims, disk.checkpoint = some claims → post disk (.ok claims)) :
    Prog.Ensures (Disk.act mayFail) always getCheckpoint post disk := by
  refine ⟨here, fun q => ?_⟩
  rcases act_readCheckpoint mayFail disk q with ⟨may, e, answer⟩ | ⟨claims, stored, answer⟩
  · rw [answer]
    exact ⟨here, failed may e⟩
  · rw [answer]
    exact ⟨here, read claims stored⟩

theorem ensures_listCheckpoints {post : Disk → Except String (List String) → Prop}
    (here : always disk) (failed : ∀ e, post disk (.error e))
    (listed : post disk (.ok (if disk.checkpoint.isSome then [driverPluginCheckpointFile] else []))) :
    Prog.Ensures (Disk.act mayFail) always listCheckpoints post disk := by
  refine ⟨here, fun q => ?_⟩
  rcases act_listCheckpoints mayFail disk q with ⟨e, answer⟩ | answer
  · rw [answer]
    exact ⟨here, failed e⟩
  · rw [answer]
    exact ⟨here, listed⟩

theorem ensures_createCheckpoint {post : Disk → Except String Unit → Prop} {claims : PreparedClaims}
    (here : always disk) (failed : ∀ e, post disk (.error e))
    (after : always (disk.putCheckpoint claims)) (written : post (disk.putCheckpoint claims) (.ok ())) :
    Prog.Ensures (Disk.act mayFail) always (createCheckpoint claims) post disk := by
  refine ⟨here, fun q => ?_⟩
  rcases act_writeCheckpoint mayFail disk q claims with ⟨e, answer⟩ | answer
  · rw [answer]
    exact ⟨here, failed e⟩
  · rw [answer]
    exact ⟨after, written⟩

theorem ensures_readRoot {post : Disk → Except String (List (String × Bool)) → Prop}
    (here : always disk) (failed : ∀ e, post disk (.error e))
    (listed : post disk (.ok (readDir disk.root))) :
    Prog.Ensures (Disk.act mayFail) always readRoot post disk := by
  refine ⟨here, fun q => ?_⟩
  rcases act_readDir mayFail disk q with ⟨e, answer⟩ | answer
  · rw [answer]
    exact ⟨here, failed e⟩
  · rw [answer]
    exact ⟨here, listed⟩

theorem ensures_writeSpec {post : Disk → Except String Unit → Prop} {cache : Cache} {spec : CdiSpec}
    {name : String} (here : always disk) (failed : ∀ e, post disk (.error e))
    (written : cache.validate spec = .ok () → always (disk.putSpec (specFile name) spec) ∧
      post (disk.putSpec (specFile name) spec) (.ok ())) :
    Prog.Ensures (Disk.act mayFail) always (cache.writeSpec spec name) post disk := by
  unfold Cache.writeSpec
  cases valid : cache.validate spec with
  | error e => exact ⟨here, failed e⟩
  | ok _ =>
    refine ⟨here, fun q => ?_⟩
    rcases act_writeSpec mayFail disk q (specFile name) spec with ⟨e, answer⟩ | answer
    · rw [answer]
      exact ⟨here, failed e⟩
    · rw [answer]
      exact written valid

theorem ensures_createClaimSpecFile {post : Disk → Except String Unit → Prop} {cdi : CDIHandler}
    {claimUID : ClaimUID} {devices : PreparedDevices} (here : always disk)
    (failed : ∀ e, post disk (.error e))
    (written : ∀ spec, cdi.claimSpec claimUID devices = .ok spec → cdi.cache.validate spec = .ok () →
      always (disk.putSpec (cdi.claimFile claimUID) spec) ∧
        post (disk.putSpec (cdi.claimFile claimUID) spec) (.ok ())) :
    Prog.Ensures (Disk.act mayFail) always (cdi.createClaimSpecFile claimUID devices) post disk := by
  unfold CDIHandler.createClaimSpecFile
  cases derived : cdi.claimSpec claimUID devices with
  | error e => exact ⟨here, failed e⟩
  | ok spec => exact ensures_writeSpec here failed (written spec derived)

theorem ensures_createCommonSpecFile {post : Disk → Except String Unit → Prop} {cdi : CDIHandler}
    (here : always disk) (failed : ∀ e, post disk (.error e))
    (written : ∀ spec, cdi.commonSpec = .ok spec → cdi.cache.validate spec = .ok () →
      always (disk.putSpec cdi.commonFile spec) ∧ post (disk.putSpec cdi.commonFile spec) (.ok ())) :
    Prog.Ensures (Disk.act mayFail) always cdi.createCommonSpecFile post disk := by
  unfold CDIHandler.createCommonSpecFile
  cases derived : cdi.commonSpec with
  | error e => exact ⟨here, failed e⟩
  | ok spec => exact ensures_writeSpec here failed (written spec derived)

theorem ensures_removeSpec {post : Disk → Except String Unit → Prop} {name : String}
    (here : always disk) (failed : ∀ e, post disk (.error e))
    (after : always (disk.dropFile (specFile name)))
    (removed : post (disk.dropFile (specFile name)) (.ok ())) :
    Prog.Ensures (Disk.act mayFail) always (removeSpec name) post disk := by
  refine ⟨here, fun q => ?_⟩
  rcases act_removeSpec mayFail disk q (specFile name) with ⟨e, answer⟩ | answer
  · rw [answer]
    exact ⟨here, failed e⟩
  · rw [answer]
    exact ⟨after, removed⟩

end Rules

/-! ### What the programs may call -/

section Calls

variable {P : DiskOp → Prop} {A : (o : DiskOp) → o.Answer → Prop}

theorem only_writeSpec (cache : Cache) {spec : CdiSpec} {name : String}
    (writes : P (.writeSpec (specFile name) spec)) : (cache.writeSpec spec name).Only P A := by
  unfold Cache.writeSpec
  cases cache.validate spec with
  | error e => trivial
  | ok _ => exact ⟨writes, fun _ _ => trivial⟩

/-- Creating a claim's spec file writes that file alone. -/
theorem only_createClaimSpecFile (cdi : CDIHandler) (uid : ClaimUID) (devices : PreparedDevices)
    (writes : ∀ spec, P (.writeSpec (cdi.claimFile uid) spec)) :
    (cdi.createClaimSpecFile uid devices).Only P A := by
  unfold CDIHandler.createClaimSpecFile
  cases cdi.claimSpec uid devices with
  | error e => trivial
  | ok spec => exact only_writeSpec cdi.cache (writes spec)

end Calls

/-! ### Prepare -/

/-- The ends of `Prepare`. -/
inductive PrepareEnds (rt rt' : Runtime) (s : DeviceState Config) (claim : ResourceClaim)
    (disk : Disk) : Disk → Option (Except String (List KubeletDevice)) → Prop
  /-- Nothing was written. -/
  | untouched (result) : (∀ devices, result ≠ some (.ok devices)) →
      PrepareEnds rt rt' s claim disk disk result
  /-- The spec of a checkpointed claim was rewritten. -/
  | rewritten (claims devices spec result) : disk.checkpoint = some claims →
      claims.lookup claim.uid = some (some devices) →
      s.validatePreparedDevices claim.uid (some devices) = .ok () →
      s.cdi.claimSpec claim.uid (some devices) = .ok spec →
      (result = none ∨ result = some (.ok (getDevices (some devices)))) →
      PrepareEnds rt rt' s claim disk (disk.putSpec (s.cdi.claimFile claim.uid) spec) result
  /-- The spec of a fresh claim was written, the checkpoint not. -/
  | halfway (claims devices spec result) : disk.checkpoint = some claims →
      (claims.lookup claim.uid).join = none →
      s.prepareDevices rt rt' claim = .ok devices →
      s.cdi.claimSpec claim.uid devices = .ok spec →
      (∀ devices, result ≠ some (.ok devices)) →
      PrepareEnds rt rt' s claim disk (disk.putSpec (s.cdi.claimFile claim.uid) spec) result
  /-- Both were written. -/
  | prepared (claims devices spec result) : disk.checkpoint = some claims →
      (claims.lookup claim.uid).join = none →
      s.prepareDevices rt rt' claim = .ok devices →
      s.cdi.claimSpec claim.uid devices = .ok spec →
      (result = none ∨ result = some (.ok (getDevices devices))) →
      PrepareEnds rt rt' s claim disk ((disk.putSpec (s.cdi.claimFile claim.uid) spec).putCheckpoint
        (claims.insert claim.uid devices)) result

/-- **Every run of `Prepare` ends in one of these ways.** -/
theorem exec_prepare (mayFail : DiskOp → Bool) (rt rt' : Runtime) (s : DeviceState Config)
    (claim : ResourceClaim) (outcomes : List Outcome) (disk : Disk) :
    PrepareEnds rt rt' s claim disk
      (Prog.exec (Disk.act mayFail) (s.prepare rt rt' claim) outcomes disk).1
      (Prog.exec (Disk.act mayFail) (s.prepare rt rt' claim) outcomes disk).2 := by
  refine Prog.exec_ends outcomes ?_
  have crashed : PrepareEnds rt rt' s claim disk disk none := .untouched _ (by simp)
  have failed : ∀ e, PrepareEnds rt rt' s claim disk disk (some (.error e)) := fun e =>
    .untouched _ (by simp)
  unfold DeviceState.prepare
  refine Prog.ensures_bind.mpr (ensures_getCheckpoint crashed (fun _ e => ⟨crashed, failed _⟩) ?_)
  intro claims stored
  simp only
  cases entry : (claims.lookup claim.uid).join with
  | some devices =>
    have recorded : claims.lookup claim.uid = some (some devices) := Option.join_eq_some_iff.mp entry
    simp only
    unfold DeviceState.reprepare
    cases valid : s.validatePreparedDevices claim.uid (some devices) with
    | error e => exact ⟨crashed, failed e⟩
    | ok _ =>
      refine Prog.ensures_bind.mpr (ensures_createClaimSpecFile crashed
        (fun e => ⟨crashed, failed _⟩) fun spec derived _ => ?_)
      have ends : ∀ result, result = none ∨ result = some (.ok (getDevices (some devices))) →
          PrepareEnds rt rt' s claim disk (disk.putSpec (s.cdi.claimFile claim.uid) spec) result :=
        fun result => .rewritten claims devices spec result stored recorded valid derived
      exact ⟨ends _ (Or.inl rfl), ends _ (Or.inl rfl), ends _ (Or.inr rfl)⟩
  | none =>
    simp only
    cases ready : s.prepareDevices rt rt' claim with
    | error e => exact ⟨crashed, failed _⟩
    | ok devices =>
      simp only
      unfold DeviceState.prepareFresh
      refine Prog.ensures_bind.mpr (ensures_createClaimSpecFile crashed
        (fun e => ⟨crashed, failed _⟩) fun spec derived _ => ?_)
      have halfway := PrepareEnds.halfway claims devices spec none stored entry ready derived (by simp)
      have ends := fun result => PrepareEnds.prepared claims devices spec result stored entry ready derived
      refine ⟨halfway, Prog.ensures_bind.mpr (ensures_createCheckpoint halfway (fun e => ⟨halfway, ?_⟩)
        (ends _ (Or.inl rfl)) ⟨ends _ (Or.inl rfl), ends _ (Or.inr rfl)⟩)⟩
      exact .halfway claims devices spec _ stored entry ready derived (by simp)

/-! ### Unprepare -/

/-- The first operation of a call, its checkpoint read, answers with an error. -/
def readFails (mayFail : DiskOp → Bool) (disk : Disk) : List Outcome → Bool
  | [] => false
  | q :: _ => match ((disk.act mayFail .readCheckpoint q).1 : Except String PreparedClaims) with
    | .error _ => true
    | .ok _ => false

/-- The ends of `Unprepare`, given whether its checkpoint read failed. -/
inductive UnprepareEnds (s : DeviceState Config) (uid : ClaimUID) (disk : Disk) :
    Bool → Disk → Option (Except String Unit) → Prop
  /-- It did not change anything. -/
  | untouched (failed result) : result ≠ some (.ok ()) → UnprepareEnds s uid disk failed disk result
  /-- The checkpoint was not readable and has been replaced. -/
  | replaced (result) : (result = none ∨ result = some (.ok ())) →
      UnprepareEnds s uid disk true (disk.putCheckpoint ∅) result
  /-- The checkpoint has no devices for the claim. -/
  | nothing (claims) : disk.checkpoint = some claims → (claims.lookup uid).join = none →
      UnprepareEnds s uid disk false disk (some (.ok ()))
  /-- The spec was removed, the checkpoint not written. -/
  | halfway (claims devices result) : disk.checkpoint = some claims →
      claims.lookup uid = some (some devices) → result ≠ some (.ok ()) →
      UnprepareEnds s uid disk false (disk.dropFile (s.cdi.claimFile uid)) result
  /-- Both are gone. -/
  | unprepared (claims devices result) : disk.checkpoint = some claims →
      claims.lookup uid = some (some devices) → (result = none ∨ result = some (.ok ())) →
      UnprepareEnds s uid disk false ((disk.dropFile (s.cdi.claimFile uid)).putCheckpoint
        (claims.erase uid)) result

section Unprepare

variable {mayFail : DiskOp → Bool} {s : DeviceState Config} {uid : ClaimUID} {disk : Disk}

theorem ensures_unprepareFrom {claims : PreparedClaims} (stored : disk.checkpoint = some claims) :
    Prog.Ensures (Disk.act mayFail) (fun after => UnprepareEnds s uid disk false after none)
      (s.unprepareFrom uid claims)
      (fun after result => UnprepareEnds s uid disk false after (some result)) disk := by
  have crashed : UnprepareEnds s uid disk false disk none := .untouched _ _ (by simp)
  have failed : ∀ e, UnprepareEnds s uid disk false disk (some (.error e)) := fun e =>
    .untouched _ _ (by simp)
  unfold DeviceState.unprepareFrom
  cases entry : (claims.lookup uid).join with
  | none => exact ⟨crashed, .nothing claims stored entry⟩
  | some devices =>
    have recorded : claims.lookup uid = some (some devices) := Option.join_eq_some_iff.mp entry
    have halfway : ∀ result, result ≠ some (.ok ()) →
        UnprepareEnds s uid disk false (disk.dropFile (s.cdi.claimFile uid)) result :=
      fun result => .halfway claims devices result stored recorded
    have ends : ∀ result, result = none ∨ result = some (.ok ()) → UnprepareEnds s uid disk false
        ((disk.dropFile (s.cdi.claimFile uid)).putCheckpoint (claims.erase uid)) result :=
      fun result => .unprepared claims devices result stored recorded
    have midway := halfway none (by simp)
    refine Prog.ensures_bind.mpr (ensures_removeSpec crashed (fun e => ⟨crashed, failed _⟩) midway ?_)
    exact Prog.ensures_bind.mpr (ensures_createCheckpoint midway
      (fun e => ⟨midway, halfway _ (by simp)⟩) (ends _ (Or.inl rfl))
      ⟨ends _ (Or.inl rfl), ends _ (Or.inr rfl)⟩)

/-- A checkpoint that was just created has no entry. -/
theorem ensures_unprepareFresh (e : String) :
    Prog.Ensures (Disk.act mayFail) (fun after => UnprepareEnds s uid disk true after none)
      (s.unprepareRead uid (.error e))
      (fun after result => UnprepareEnds s uid disk true after (some result)) disk := by
  have crashed : UnprepareEnds s uid disk true disk none := .untouched _ _ (by simp)
  have ends : ∀ result, result = none ∨ result = some (.ok ()) →
      UnprepareEnds s uid disk true (disk.putCheckpoint ∅) result := fun result => .replaced result
  refine Prog.ensures_bind.mpr (ensures_createCheckpoint crashed
    (fun e => ⟨crashed, .untouched _ _ (by simp)⟩) (ends _ (Or.inl rfl)) ?_)
  exact ⟨ends _ (Or.inl rfl), ends _ (Or.inr rfl)⟩

end Unprepare

/-- **Every run of `Unprepare` ends in one of these ways.** -/
theorem exec_unprepare (mayFail : DiskOp → Bool) (s : DeviceState Config) (uid : ClaimUID)
    (outcomes : List Outcome) (disk : Disk) :
    UnprepareEnds s uid disk (readFails mayFail disk outcomes)
      (Prog.exec (Disk.act mayFail) (s.unprepare uid) outcomes disk).1
      (Prog.exec (Disk.act mayFail) (s.unprepare uid) outcomes disk).2 := by
  cases outcomes with
  | nil =>
    have crashed : Prog.exec (Disk.act mayFail) (s.unprepare uid) [] disk = (disk, none) := rfl
    rw [crashed]
    exact .untouched _ _ (by simp)
  | cons q outcomes =>
    have started : Prog.exec (Disk.act mayFail) (s.unprepare uid) (q :: outcomes) disk =
        Prog.exec (Disk.act mayFail) (s.unprepareRead uid (disk.act mayFail .readCheckpoint q).1)
          outcomes (disk.act mayFail .readCheckpoint q).2 := rfl
    rw [started]
    rcases act_readCheckpoint mayFail disk q with ⟨_, e, answer⟩ | ⟨claims, stored, answer⟩
    · have unread : readFails mayFail disk (q :: outcomes) = true := by
        simp only [readFails, answer]
      rw [unread, answer]
      exact Prog.exec_ends outcomes (ensures_unprepareFresh e)
    · have read : readFails mayFail disk (q :: outcomes) = false := by
        simp only [readFails, answer]
      rw [read, answer]
      exact Prog.exec_ends outcomes (ensures_unprepareFrom stored)

/-- Reads that may not fail do not, on a disk with a checkpoint. -/
theorem readFails_eq_false {mayFail : DiskOp → Bool} {disk : Disk} (never : mayFail .readCheckpoint = false)
    (present : disk.checkpoint.isSome = true) (outcomes : List Outcome) :
    readFails mayFail disk outcomes = false := by
  cases outcomes with
  | nil => rfl
  | cons q outcomes =>
    rcases act_readCheckpoint mayFail disk q with ⟨may | absent, _⟩ | ⟨claims, _, answer⟩
    · rw [never] at may
      cases may
    · rw [absent] at present
      cases present
    · simp only [readFails, answer]

end DraDriver.Plugin
