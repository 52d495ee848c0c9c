/-
**Failed attempts are harmless, and retries converge.**

`Prepare` writes the spec and then the checkpoint, `Unprepare` removes the spec and then writes the
checkpoint. An attempt that fails leaves the checkpoint as it was and differs from the disk it found
at most in the claim's own file (`prepare_failed`, `unprepare_failed`). Two disks that differ there
alone, and let it be written alike, answer the next attempt alike (`exec_related`), and an attempt
that succeeds puts the file into one state whatever was left in it.

* `SameBut` — the disks differ at most in one file.
* **`retries_converge`** — after any failed attempts a successful one leaves what it would have left
  alone on the first disk.
-/

import DraDriver.Base.Transition
import DraDriver.Plugin.Ends

namespace DraDriver.Plugin

open DraDriver.Base DraDriver.Profiles DraDriver.Tenstorrent

variable {Config : Type}

/-! ### Disks that differ in one file -/

/-- The disks differ at most in `file`, and there neither or both hold an entry that `blocks`. -/
structure SameBut (blocks : RootEntry → Bool) (file : String) (disk disk' : Disk) : Prop where
  checkpoint : disk.checkpoint = disk'.checkpoint
  others : disk.root.erase file = disk'.root.erase file
  blocked : (disk.root.lookup file).any blocks = (disk'.root.lookup file).any blocks

namespace SameBut

variable {blocks : RootEntry → Bool} {file : String} {disk disk' disk'' : Disk}

theorem refl : SameBut blocks file disk disk := ⟨rfl, rfl, rfl⟩

theorem trans (first : SameBut blocks file disk disk') (second : SameBut blocks file disk' disk'') :
    SameBut blocks file disk disk'' :=
  ⟨first.checkpoint.trans second.checkpoint, first.others.trans second.others,
    first.blocked.trans second.blocked⟩

theorem lookup (same : SameBut blocks file disk disk') {name : String} (other : name ≠ file) :
    disk.root.lookup name = disk'.root.lookup name := by
  rw [← AList.lookup_erase_ne other, same.others, AList.lookup_erase_ne other]

/-- Writing the file makes the disks equal. -/
theorem putSpec (same : SameBut blocks file disk disk') (spec : CdiSpec) :
    disk.putSpec file spec = disk'.putSpec file spec := by
  have roots : disk.root.insert file (.spec spec) = disk'.root.insert file (.spec spec) := by
    apply AList.ext
    show _ :: (disk.root.erase file).entries = _ :: (disk'.root.erase file).entries
    rw [same.others]
  unfold Disk.putSpec
  rw [roots, same.checkpoint]

/-- Removing the file makes the disks equal. -/
theorem dropFile (same : SameBut blocks file disk disk') :
    disk.dropFile file = disk'.dropFile file := by
  unfold Disk.dropFile
  rw [same.others, same.checkpoint]

theorem putCheckpoint (same : SameBut blocks file disk disk') (claims : PreparedClaims) :
    SameBut blocks file (disk.putCheckpoint claims) (disk'.putCheckpoint claims) :=
  ⟨rfl, same.others, same.blocked⟩

/-- A disk and what writing the file makes of it. -/
theorem of_putSpec (spec : CdiSpec) (free : (disk.root.lookup file).any blocks = false)
    (fits : blocks (.spec spec) = false) : SameBut blocks file disk (disk.putSpec file spec) := by
  refine ⟨rfl, ?_, ?_⟩
  · apply AList.ext
    have replaced : List.kerase file
        (⟨file, RootEntry.spec spec⟩ :: List.kerase file disk.root.entries :
          List (Sigma fun _ : String => RootEntry)) = List.kerase file disk.root.entries :=
      List.kerase_cons_eq rfl
    exact replaced.symm
  · rw [free, putSpec_lookup, if_pos rfl, Option.any_some, fits]

/-- A disk and what removing the file makes of it. -/
theorem of_dropFile (free : (disk.root.lookup file).any blocks = false) :
    SameBut blocks file disk (disk.dropFile file) := by
  refine ⟨rfl, ?_, ?_⟩
  · show disk.root.erase file = (disk.root.erase file).erase file
    apply AList.ext
    exact (List.kerase_of_notMem_keys (List.notMem_keys_kerase file disk.root.nodupKeys)).symm
  · rw [free, dropFile_lookup, if_pos rfl]
    rfl

end SameBut

/-! ### The operations of an attempt -/

/-- The operations of a `Prepare` whose claim has this file. -/
def PrepareOp (file : String) : DiskOp → Prop
  | .readCheckpoint => True
  | .writeCheckpoint _ => True
  | .writeSpec name _ => name = file
  | _ => False

/-- The operations of an `Unprepare` whose claim has this file. -/
def UnprepareOp (file : String) : DiskOp → Prop
  | .readCheckpoint => True
  | .writeCheckpoint _ => True
  | .removeSpec name => name = file
  | _ => False

/-- What two disks of a kind answer alike when done, they answer alike under every outcome. -/
theorem act_related {R : Disk → Disk → Prop} {o : DiskOp} {disk disk' : Disk} (mayFail : DiskOp → Bool)
    (q : Outcome) (related : R disk disk')
    (done : (disk.perform o).1 = (disk'.perform o).1 ∧ R (disk.perform o).2 (disk'.perform o).2) :
    (disk.act mayFail o q).1 = (disk'.act mayFail o q).1 ∧
      R (disk.act mayFail o q).2 (disk'.act mayFail o q).2 := by
  cases q with
  | done => exact done
  | failed text =>
    dsimp only [Disk.act]
    by_cases fails : mayFail o = true
    · rw [if_pos fails, if_pos fails]
      exact ⟨rfl, related⟩
    · rw [if_neg fails, if_neg fails]
      exact done

theorem read_related {blocks : RootEntry → Bool} {file : String} {disk disk' : Disk}
    (same : SameBut blocks file disk disk') :
    (disk.perform .readCheckpoint).1 = (disk'.perform .readCheckpoint).1 ∧
      SameBut blocks file (disk.perform .readCheckpoint).2 (disk'.perform .readCheckpoint).2 := by
  simp only [Disk.perform]
  rw [← same.checkpoint]
  cases disk.checkpoint with
  | none => exact ⟨rfl, same⟩
  | some claims => exact ⟨rfl, same⟩

/-- **The operations of a `Prepare`** do not tell the disks apart. -/
theorem prepareOp_related (mayFail : DiskOp → Bool) {file : String} {o : DiskOp}
    (among : PrepareOp file o) (disk disk' : Disk) (q : Outcome)
    (same : SameBut blocksWrite file disk disk') :
    (disk.act mayFail o q).1 = (disk'.act mayFail o q).1 ∧
      SameBut blocksWrite file (disk.act mayFail o q).2 (disk'.act mayFail o q).2 := by
  refine act_related mayFail q same ?_
  cases o with
  | readCheckpoint => exact read_related same
  | writeCheckpoint claims => exact ⟨rfl, same.putCheckpoint claims⟩
  | writeSpec name spec =>
    cases among
    rw [perform_writeSpec, perform_writeSpec, ← same.blocked]
    split
    · exact ⟨rfl, same⟩
    · rw [same.putSpec spec]
      exact ⟨rfl, .refl⟩
  | listCheckpoints => cases among
  | removeSpec name => cases among
  | readDir => cases among

/-- **The operations of an `Unprepare`** do not tell the disks apart. -/
theorem unprepareOp_related (mayFail : DiskOp → Bool) {file : String} {o : DiskOp}
    (among : UnprepareOp file o) (disk disk' : Disk) (q : Outcome)
    (same : SameBut blocksRemove file disk disk') :
    (disk.act mayFail o q).1 = (disk'.act mayFail o q).1 ∧
      SameBut blocksRemove file (disk.act mayFail o q).2 (disk'.act mayFail o q).2 := by
  refine act_related mayFail q same ?_
  cases o with
  | readCheckpoint => exact read_related same
  | writeCheckpoint claims => exact ⟨rfl, same.putCheckpoint claims⟩
  | removeSpec name =>
    cases among
    rw [perform_removeSpec, perform_removeSpec, ← same.blocked]
    split
    · exact ⟨rfl, same⟩
    · rw [same.dropFile]
      exact ⟨rfl, .refl⟩
  | listCheckpoints => cases among
  | writeSpec name spec => cases among
  | readDir => cases among

theorem only_prepare (rt rt' : Runtime) (s : DeviceState Config) (claim : ResourceClaim) :
    (s.prepare rt rt' claim).Only (PrepareOp (s.cdi.claimFile claim.uid)) fun _ _ => True := by
  have creates : ∀ devices, (s.cdi.createClaimSpecFile claim.uid devices).Only
      (PrepareOp (s.cdi.claimFile claim.uid)) fun _ _ => True := by
    intro devices
    exact only_createClaimSpecFile s.cdi claim.uid devices fun _ => rfl
  have writes : ∀ claims, (createCheckpoint claims).Only
      (PrepareOp (s.cdi.claimFile claim.uid)) fun _ _ => True := fun _ => ⟨trivial, fun _ _ => trivial⟩
  have reads : getCheckpoint.Only (PrepareOp (s.cdi.claimFile claim.uid)) fun _ _ => True :=
    ⟨trivial, fun _ _ => trivial⟩
  refine Prog.only_bind reads fun r => ?_
  cases r with
  | error e => trivial
  | ok claims =>
    dsimp only
    cases (claims.lookup claim.uid).join with
    | some devices =>
      dsimp only [DeviceState.reprepare]
      cases s.validatePreparedDevices claim.uid (some devices) with
      | error e => trivial
      | ok _ =>
        refine Prog.only_bind (creates _) fun r => ?_
        cases r <;> trivial
    | none =>
      dsimp only
      cases s.prepareDevices rt rt' claim with
      | error e => trivial
      | ok devices =>
        refine Prog.only_bind (creates _) fun r => ?_
        cases r with
        | error e => trivial
        | ok _ =>
          refine Prog.only_bind (writes _) fun r => ?_
          cases r <;> trivial

theorem only_unprepare (s : DeviceState Config) (uid : ClaimUID) :
    (s.unprepare uid).Only (UnprepareOp (s.cdi.claimFile uid)) fun _ _ => True := by
  have writes : ∀ claims, (createCheckpoint claims).Only (UnprepareOp (s.cdi.claimFile uid))
      fun _ _ => True := fun _ => ⟨trivial, fun _ _ => trivial⟩
  have reads : getCheckpoint.Only (UnprepareOp (s.cdi.claimFile uid)) fun _ _ => True :=
    ⟨trivial, fun _ _ => trivial⟩
  have removes : (s.cdi.deleteClaimSpecFile uid).Only (UnprepareOp (s.cdi.claimFile uid))
      fun _ _ => True := ⟨rfl, fun _ _ => trivial⟩
  have unprepares : ∀ claims, (s.unprepareFrom uid claims).Only (UnprepareOp (s.cdi.claimFile uid))
      fun _ _ => True := by
    intro claims
    unfold DeviceState.unprepareFrom
    split
    · trivial
    · refine Prog.only_bind removes fun r => ?_
      cases r with
      | error e => trivial
      | ok _ =>
        refine Prog.only_bind (writes _) fun r => ?_
        cases r <;> trivial
  refine Prog.only_bind reads fun r => ?_
  cases r with
  | ok claims => exact unprepares claims
  | error e =>
    refine Prog.only_bind (writes ∅) fun r => ?_
    cases r with
    | error e => trivial
    | ok _ => exact unprepares ∅

/-- No operation of a `Prepare` replaces a directory or makes one. -/
theorem prepareOp_blocked (mayFail : DiskOp → Bool) {file : String} {o : DiskOp}
    (among : PrepareOp file o) (disk : Disk) (q : Outcome) :
    ((disk.act mayFail o q).2.root.lookup file).any blocksWrite =
      (disk.root.lookup file).any blocksWrite := by
  rcases act_cases mayFail disk q o with ⟨_, text, answer⟩ | done
  · rw [answer]
  · rw [done]
    cases o with
    | readCheckpoint =>
      simp only [Disk.perform]
      cases disk.checkpoint <;> rfl
    | writeCheckpoint claims => rfl
    | writeSpec name spec =>
      cases among
      rw [perform_writeSpec]
      split
      · rfl
      · next free =>
        rw [putSpec_lookup, if_pos rfl, eq_false_of_ne_true free]
        rfl
    | listCheckpoints => cases among
    | removeSpec name => cases among
    | readDir => cases among

/-- No operation of an `Unprepare` removes a directory with files in it. -/
theorem unprepareOp_blocked (mayFail : DiskOp → Bool) {file : String} {o : DiskOp}
    (among : UnprepareOp file o) (disk : Disk) (q : Outcome) :
    ((disk.act mayFail o q).2.root.lookup file).any blocksRemove =
      (disk.root.lookup file).any blocksRemove := by
  rcases act_cases mayFail disk q o with ⟨_, text, answer⟩ | done
  · rw [answer]
  · rw [done]
    cases o with
    | readCheckpoint =>
      simp only [Disk.perform]
      cases disk.checkpoint <;> rfl
    | writeCheckpoint claims => rfl
    | removeSpec name =>
      cases among
      rw [perform_removeSpec]
      split
      · rfl
      · next free =>
        rw [dropFile_lookup, if_pos rfl, eq_false_of_ne_true free]
        rfl
    | listCheckpoints => cases among
    | writeSpec name spec => cases among
    | readDir => cases among

/-! ### One attempt -/

section Attempts

variable {mayFail : DiskOp → Bool} {rt rt' : Runtime} {s : DeviceState Config} {claim : ResourceClaim}
  {uid : ClaimUID} {disk disk' after after' : Disk} {outcomes : List Outcome}

/-- **A failed `Prepare`** changes the claim's file at most. -/
theorem prepare_failed {e : String}
    (failed : Prog.exec (Disk.act mayFail) (s.prepare rt rt' claim) outcomes disk =
      (after, some (.error e))) :
    SameBut blocksWrite (s.cdi.claimFile claim.uid) disk after := by
  have ends := exec_prepare mayFail rt rt' s claim outcomes disk
  have blocked := Prog.exec_keeps
    (fun disk : Disk => (disk.root.lookup (s.cdi.claimFile claim.uid)).any blocksWrite)
    (fun _ among disk q => prepareOp_blocked mayFail among disk q) (only_prepare rt rt' s claim)
    outcomes disk
  rw [failed] at ends blocked
  generalize answer : some (Except.error e) = result at ends
  cases ends with
  | untouched => exact .refl
  | rewritten claims devices spec _ _ _ _ _ returns =>
    subst answer
    simp at returns
  | halfway claims devices spec =>
    refine .of_putSpec spec (blocked.symm.trans ?_) rfl
    show ((disk.putSpec _ spec).root.lookup _).any blocksWrite = false
    rw [putSpec_lookup, if_pos rfl]
    rfl
  | prepared claims devices spec _ _ _ _ _ returns =>
    subst answer
    simp at returns

/-- A `Prepare` that succeeds leaves the same disk, whatever was in the claim's file. -/
theorem PrepareEnds.settles {returned returned' : List KubeletDevice} {blocks : RootEntry → Bool}
    (same : SameBut blocks (s.cdi.claimFile claim.uid) disk disk')
    (ends : PrepareEnds rt rt' s claim disk after (some (.ok returned)))
    (ends' : PrepareEnds rt rt' s claim disk' after' (some (.ok returned'))) : after = after' := by
  have claims_eq : ∀ {claims claims'}, disk.checkpoint = some claims → disk'.checkpoint = some claims' →
      claims = claims' := fun stored stored' =>
    Option.some.inj (stored.symm.trans (same.checkpoint.trans stored'))
  cases ends with
  | untouched _ failed => exact absurd rfl (failed returned)
  | halfway _ _ _ _ _ _ _ _ failed => exact absurd rfl (failed returned)
  | rewritten claims devices spec _ stored recorded _ derived _ =>
    cases ends' with
    | untouched _ failed => exact absurd rfl (failed returned')
    | halfway _ _ _ _ _ _ _ _ failed => exact absurd rfl (failed returned')
    | rewritten claims' devices' spec' _ stored' recorded' _ derived' _ =>
      cases claims_eq stored stored'
      cases Option.some.inj (recorded.symm.trans recorded')
      cases Except.ok.inj (derived.symm.trans derived')
      exact same.putSpec spec
    | prepared claims' _ _ _ stored' fresh =>
      cases claims_eq stored stored'
      rw [recorded] at fresh
      cases fresh
  | prepared claims devices spec _ stored fresh ready derived _ =>
    cases ends' with
    | untouched _ failed => exact absurd rfl (failed returned')
    | halfway _ _ _ _ _ _ _ _ failed => exact absurd rfl (failed returned')
    | rewritten claims' _ _ _ stored' recorded' =>
      cases claims_eq stored stored'
      rw [recorded'] at fresh
      cases fresh
    | prepared claims' devices' spec' _ stored' _ ready' derived' _ =>
      cases claims_eq stored stored'
      cases Except.ok.inj (ready.symm.trans ready')
      cases Except.ok.inj (derived.symm.trans derived')
      rw [same.putSpec spec]

/-- **A successful `Prepare`** ends alike from disks that differ in the claim's file. -/
theorem prepare_settles {returned : List KubeletDevice}
    (same : SameBut blocksWrite (s.cdi.claimFile claim.uid) disk disk')
    (done : Prog.exec (Disk.act mayFail) (s.prepare rt rt' claim) outcomes disk' =
      (after, some (.ok returned))) :
    Prog.exec (Disk.act mayFail) (s.prepare rt rt' claim) outcomes disk = (after, some (.ok returned)) := by
  have answers := (Prog.exec_related (fun _ among disk disk' q => prepareOp_related mayFail among disk disk' q)
    (only_prepare rt rt' s claim) outcomes same).1
  have ends := exec_prepare mayFail rt rt' s claim outcomes disk
  have ends' := exec_prepare mayFail rt rt' s claim outcomes disk'
  rw [answers] at ends
  rw [done] at ends ends' answers
  exact Prod.ext (PrepareEnds.settles same ends ends') answers

/-- The checkpoint has devices for the claim. -/
def Disk.Records (disk : Disk) (uid : ClaimUID) : Prop :=
  ∃ claims devices, disk.checkpoint = some claims ∧ claims.lookup uid = some (some devices)

/-- **A failed `Unprepare`** of a readable checkpoint changes the claim's file at most, and nothing
if there is nothing to release. -/
theorem unprepare_failed {e : String} (read : readFails mayFail disk outcomes = false)
    (failed : Prog.exec (Disk.act mayFail) (s.unprepare uid) outcomes disk = (after, some (.error e))) :
    SameBut blocksRemove (s.cdi.claimFile uid) disk after ∧ (disk = after ∨ disk.Records uid) := by
  have ends := exec_unprepare mayFail s uid outcomes disk
  have blocked := Prog.exec_keeps
    (fun disk : Disk => (disk.root.lookup (s.cdi.claimFile uid)).any blocksRemove)
    (fun _ among disk q => unprepareOp_blocked mayFail among disk q) (only_unprepare s uid)
    outcomes disk
  rw [read] at ends
  rw [failed] at ends blocked
  generalize answer : some (Except.error e) = result at ends
  cases ends with
  | untouched => exact ⟨.refl, Or.inl rfl⟩
  | nothing => cases answer
  | halfway claims devices _ stored recorded =>
    refine ⟨.of_dropFile (blocked.symm.trans ?_), Or.inr ⟨claims, devices, stored, recorded⟩⟩
    show ((disk.dropFile _).root.lookup _).any blocksRemove = false
    rw [dropFile_lookup, if_pos rfl]
    rfl
  | unprepared claims devices _ _ _ returns =>
    subst answer
    simp at returns

/-- An `Unprepare` that succeeds leaves the same disk, whatever was in the claim's file. -/
theorem UnprepareEnds.settles {blocks : RootEntry → Bool}
    (same : SameBut blocks (s.cdi.claimFile uid) disk disk') (recorded : disk.Records uid)
    (ends : UnprepareEnds s uid disk false after (some (.ok ())))
    (ends' : UnprepareEnds s uid disk' false after' (some (.ok ()))) : after = after' := by
  obtain ⟨claims, devices, stored, entry⟩ := recorded
  -- with an entry, a success has written both
  have whole : ∀ {disk after : Disk}, disk.checkpoint = some claims →
      UnprepareEnds s uid disk false after (some (.ok ())) →
      after = (disk.dropFile (s.cdi.claimFile uid)).putCheckpoint (claims.erase uid) := by
    intro disk after stored ends
    cases ends with
    | untouched _ _ failed => exact absurd rfl failed
    | nothing claims' stored' fresh =>
      cases Option.some.inj (stored.symm.trans stored')
      rw [entry] at fresh
      cases fresh
    | halfway _ _ _ _ _ failed => exact absurd rfl failed
    | unprepared claims' _ _ stored' =>
      cases Option.some.inj (stored.symm.trans stored')
      rfl
  rw [whole stored ends, whole (same.checkpoint.symm.trans stored) ends', same.dropFile]

/-- **A successful `Unprepare`** ends alike from disks that differ in the claim's file. -/
theorem unprepare_settles (read : readFails mayFail disk outcomes = false)
    (read' : readFails mayFail disk' outcomes = false)
    (same : SameBut blocksRemove (s.cdi.claimFile uid) disk disk') (either : disk = disk' ∨ disk.Records uid)
    (done : Prog.exec (Disk.act mayFail) (s.unprepare uid) outcomes disk' = (after, some (.ok ()))) :
    Prog.exec (Disk.act mayFail) (s.unprepare uid) outcomes disk = (after, some (.ok ())) := by
  rcases either with rfl | recorded
  · exact done
  · have answers := (Prog.exec_related
      (fun _ among disk disk' q => unprepareOp_related mayFail among disk disk' q)
      (only_unprepare s uid) outcomes same).1
    have ends := exec_unprepare mayFail s uid outcomes disk
    have ends' := exec_unprepare mayFail s uid outcomes disk'
    rw [answers, read] at ends
    rw [read'] at ends'
    rw [done] at ends ends' answers
    exact Prod.ext (UnprepareEnds.settles same recorded ends ends') answers

end Attempts

/-! ### Histories of attempts -/

/-- One attempt at a call: the driver as it is then, the orders its map loops take and what becomes
of its disk operations. Attempts share the CDI handler, which lives as long as the driver. -/
structure Attempt (Config : Type) (cdi : CDIHandler) where
  state : DeviceState Config
  handler : state.cdi = cdi
  rt : Runtime
  rt' : Runtime
  outcomes : List Outcome

section Histories

variable {cdi : CDIHandler} {α : Type}

/-- The attempt at a `Prepare`. -/
def Attempt.prepare (claim : ResourceClaim) (attempt : Attempt Config cdi) :
    DiskProg (Except String (List KubeletDevice)) :=
  attempt.state.prepare attempt.rt attempt.rt' claim

/-- The attempt at an `Unprepare`. -/
def Attempt.unprepare (uid : ClaimUID) (attempt : Attempt Config cdi) : DiskProg (Except String Unit) :=
  attempt.state.unprepare uid

/-- The attempt on a disk, under its outcomes. -/
def Attempt.exec (mayFail : DiskOp → Bool) (call : Attempt Config cdi → DiskProg α) (disk : Disk)
    (attempt : Attempt Config cdi) : Disk × Option α :=
  Prog.exec (Disk.act mayFail) (call attempt) attempt.outcomes disk

/-- The attempt returns an error. -/
def Fails (mayFail : DiskOp → Bool) (call : Attempt Config cdi → DiskProg (Except String α))
    (disk : Disk) (attempt : Attempt Config cdi) (disk' : Disk) : Prop :=
  ∃ e, attempt.exec mayFail call disk = (disk', some (.error e))

/-- **Failed attempts at a call for a claim are harmless**, and an attempt that succeeds after any
number of them leaves the disk it would have left at once. -/
structure HarmlessRetries (mayFail : DiskOp → Bool)
    (call : Attempt Config cdi → DiskProg (Except String α)) (uid : ClaimUID) (disk : Disk) : Prop where
  checkpoint : ∀ attempt disk', Fails mayFail call disk attempt disk' → disk'.checkpoint = disk.checkpoint
  otherClaims : ∀ attempt disk', Fails mayFail call disk attempt disk' → ∀ other, other ≠ uid →
    disk'.root.lookup (cdi.claimFile other) = disk.root.lookup (cdi.claimFile other)
  otherFiles : ∀ attempt disk', Fails mayFail call disk attempt disk' → ∀ name, name ≠ cdi.claimFile uid →
    disk'.root.lookup name = disk.root.lookup name
  converges : ∀ attempts disk', Run (Fails mayFail call) disk attempts disk' →
    ∀ (last : Attempt Config cdi) disk'' answer,
    last.exec mayFail call disk' = (disk'', some (.ok answer)) →
    last.exec mayFail call disk = (disk'', some (.ok answer))

/-- What to show of one attempt: how a failed one leaves the disk, and that a successful one ends
alike from disks so related. -/
theorem HarmlessRetries.of_related {mayFail : DiskOp → Bool}
    {call : Attempt Config cdi → DiskProg (Except String α)} {uid : ClaimUID} {disk : Disk}
    {blocks : RootEntry → Bool} {R : Disk → Disk → Prop} (refl : R disk disk)
    (trans : ∀ {a b c}, R a b → R b c → R a c)
    (same : ∀ {a b}, R a b → SameBut blocks (cdi.claimFile uid) a b)
    (present : disk.checkpoint.isSome = true)
    (failed : ∀ {a attempt b}, a.checkpoint.isSome = true → Fails mayFail call a attempt b → R a b)
    (settles : ∀ {a b : Disk} {attempt after answer}, a.checkpoint.isSome = true → R a b →
      Attempt.exec mayFail call b attempt = (after, some (.ok answer)) →
      Attempt.exec mayFail call a attempt = (after, some (.ok answer))) :
    HarmlessRetries mayFail call uid disk where
  checkpoint _ _ fails := (same (failed present fails)).checkpoint.symm
  otherClaims _ _ fails other apart :=
    ((same (failed present fails)).lookup fun file => apart (cdi.claimFile_inj file)).symm
  otherFiles _ _ fails _ apart := ((same (failed present fails)).lookup apart).symm
  converges attempts disk' run last disk'' answer done := by
    refine settles present
      (run.invariant (fun a attempt b left fails => trans left (failed ?_ fails)) refl) done
    rw [← (same left).checkpoint]
    exact present

end Histories

/-- **Failed attempts are harmless and retries converge.** For every disk with a checkpoint that can
be read and every claim: if `Prepare` or `Unprepare` returns an error, at whichever operation, the
checkpoint and every other claim's spec file are unchanged, and after any number of failed attempts
one that succeeds leaves the checkpoint and the files as it would have left them on the first disk. -/
theorem retries_converge (cdi : CDIHandler) (mayFail : DiskOp → Bool)
    (readable : mayFail .readCheckpoint = false) {disk : Disk} (present : disk.checkpoint.isSome = true) :
    (∀ claim : ResourceClaim, HarmlessRetries mayFail
      (Attempt.prepare claim : Attempt Config cdi → _) claim.uid disk) ∧
    ∀ uid : ClaimUID, HarmlessRetries mayFail
      (Attempt.unprepare uid : Attempt Config cdi → _) uid disk := by
  refine ⟨fun claim => ?_, fun uid => ?_⟩
  · refine .of_related (R := SameBut blocksWrite (cdi.claimFile claim.uid)) .refl .trans id present ?_ ?_
    · rintro disk ⟨state, rfl, rt, rt', outcomes⟩ after _ ⟨e, failed⟩
      exact prepare_failed failed
    · rintro disk disk' ⟨state, rfl, rt, rt', outcomes⟩ after answer _ same done
      exact prepare_settles same done
  · have reads : ∀ {disk : Disk}, disk.checkpoint.isSome = true → ∀ outcomes,
        readFails mayFail disk outcomes = false := fun present => readFails_eq_false readable present
    refine .of_related
      (R := fun a b => SameBut blocksRemove (cdi.claimFile uid) a b ∧ (a = b ∨ a.Records uid))
      ⟨.refl, Or.inl rfl⟩ ?_ And.left present ?_ ?_
    · rintro a b c ⟨first, either⟩ ⟨second, later⟩
      refine ⟨first.trans second, ?_⟩
      rcases either with rfl | recorded
      · exact later
      · exact Or.inr recorded
    · rintro disk ⟨state, rfl, rt, rt', outcomes⟩ after present ⟨e, failed⟩
      exact unprepare_failed (reads present outcomes) failed
    · rintro disk disk' ⟨state, rfl, rt, rt', outcomes⟩ after answer present ⟨same, either⟩ done
      exact unprepare_settles (reads present outcomes) (reads (same.checkpoint ▸ present) outcomes) same
        either done

/-- An attempt of the sample driver. -/
def sampleAttempt (outcomes : List Outcome) : Attempt Unit sampleHandler where
  state := initialState sampleConfig (sampleResources ["tt-0"])
  handler := rfl
  rt := Runtime.plain
  rt' := Runtime.plain
  outcomes := outcomes

/-- A disk on which nothing is prepared yet. -/
def freshDisk : Disk := { checkpoint := some ∅, root := ∅ }

/-- The attempt to prepare the sample claim. -/
def attemptPrepare : Attempt Unit sampleHandler → DiskProg (Except String (List KubeletDevice)) :=
  Attempt.prepare (sampleClaim uidA ["tt-0"])

/-- The disk after an attempt whose checkpoint write failed. -/
def halfwayDisk : Disk :=
  ((sampleAttempt [.done, .done, .failed "no space", .done]).exec readsSucceed attemptPrepare freshDisk).1

/-- A spec left by a failed attempt does not show after the next. -/
theorem prepared_after_failure :
    halfwayDisk ≠ freshDisk ∧ ∃ disk answer,
      (sampleAttempt (List.replicate 4 .done)).exec readsSucceed attemptPrepare halfwayDisk =
        (disk, some (.ok answer)) ∧
      (sampleAttempt (List.replicate 4 .done)).exec readsSucceed attemptPrepare freshDisk =
        (disk, some (.ok answer)) := by
  have failed : Fails readsSucceed attemptPrepare freshDisk
      (sampleAttempt [.done, .done, .failed "no space", .done]) halfwayDisk :=
    ⟨"unable to sync to checkpoint: no space", Prod.ext rfl (by decide +kernel)⟩
  have done : (sampleAttempt (List.replicate 4 .done)).exec readsSucceed attemptPrepare halfwayDisk =
      (_, some (.ok [(samplePrepared uidA "tt-0").device])) := Prod.ext rfl (by decide +kernel)
  exact ⟨by decide +kernel, _, _, done, ((retries_converge sampleHandler readsSucceed rfl rfl).1
    (sampleClaim uidA ["tt-0"])).converges _ _ (.snoc (.nil freshDisk) failed) _ _ _ done⟩

end DraDriver.Plugin
