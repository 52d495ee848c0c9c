/-
**A rolling update: two driver instances on one disk.**

The old instance serves `Prepare` and `Unprepare` calls while the new one runs its startup, on the
same checkpoint file and CDI root. Each instance runs the same programs as alone, one disk operation
a move, and the moves interleave in any way; every operation succeeds as far as the files let it.

* `rolling_loses_spec` — the old instance writes a claim's spec and its checkpoint entry after the
  new one has read the checkpoint and before it prunes: the claim is prepared and its spec is gone.
* `Careful` — the new instance removes a claim's file only while the checkpoint on disk has no entry
  for the claim and the old instance is not about to write one.
* **`rolling_keeps_specs`** — in every interleaving whose removals are careful, every prepared claim
  has its spec file.
-/

import DraDriver.Plugin.Runs

namespace DraDriver.Plugin

open DraDriver.Base DraDriver.Profiles DraDriver.Tenstorrent

variable {Config : Type}

/-! ### The two instances -/

/-- What the old instance is doing: its lock lets one call run at a time. -/
inductive OldCall
  | idle
  | preparing (uid : ClaimUID) (rest : DiskProg (Except String (List KubeletDevice)))
  | unpreparing (uid : ClaimUID) (rest : DiskProg (Except String Unit))

/-- The disk operation the old instance performs next. -/
def OldCall.next : OldCall → Option DiskOp
  | .idle => none
  | .preparing _ rest => rest.next
  | .unpreparing _ rest => rest.next

/-- Both instances on one disk. `prepared` are the claims whose `Prepare` returned success and that
have not been unprepared since. -/
structure Rolling (Config : Type) where
  disk : Disk
  oldState : DeviceState Config
  old : OldCall
  new : DiskProg (Except String (DeviceState Config))
  prepared : List ClaimUID

/-- A move of one instance. -/
inductive Move (Config : Type)
  | prepare (rt rt' : Runtime) (handler : ConfigHandler Config) (claim : ResourceClaim)
  | unprepare (uid : ClaimUID)
  | oldOp
  | newOp

/-- An operation that succeeds. -/
def actDone (disk : Disk) (o : DiskOp) (_ : Unit) : o.Answer × Disk := disk.perform o

/-- One move of one instance; `none` where it cannot be made. -/
def Rolling.move (sys : Rolling Config) : Move Config → Option (Rolling Config)
  | .prepare rt rt' handler claim =>
    match sys.old with
    | .idle => some { sys with
        old := .preparing claim.uid (({ sys.oldState with configHandler := handler }).prepare rt rt' claim) }
    | _ => none
  | .unprepare uid =>
    match sys.old with
    | .idle => some { sys with
        old := .unpreparing uid (sys.oldState.unprepare uid)
        prepared := sys.prepared.filter fun other => other ≠ uid }
    | _ => none
  | .oldOp =>
    match sys.old with
    | .idle => none
    | .preparing uid (.ret result) => some { sys with
        old := .idle
        prepared := if succeeded (some result) then uid :: sys.prepared else sys.prepared }
    | .preparing uid (.call o k) => some { sys with
        disk := (sys.disk.perform o).2
        old := .preparing uid (k (sys.disk.perform o).1) }
    | .unpreparing _ (.ret _) => some { sys with old := .idle }
    | .unpreparing uid (.call o k) => some { sys with
        disk := (sys.disk.perform o).2
        old := .unpreparing uid (k (sys.disk.perform o).1) }
  | .newOp =>
    match sys.new with
    | .ret _ => none
    | .call o k => some { sys with
        disk := (sys.disk.perform o).2
        new := k (sys.disk.perform o).1 }

/-- The update begins: the old instance has its checkpoint, the new one has not started. -/
def Rolling.begin (config : DriverConfig Config) (oldResources newResources : DriverResources)
    (claims : PreparedClaims) (root : GoMap String RootEntry) : Rolling Config where
  disk := { checkpoint := some claims, root := root }
  oldState := initialState config oldResources
  old := .idle
  new := newDeviceState config newResources
  prepared := []

/-- Both instances have finished. -/
def Rolling.finished (sys : Rolling Config) : Bool :=
  sys.old.next.isNone && sys.new.next.isNone && match sys.old with
    | .idle => true
    | _ => false

/-- The claim has its spec file. -/
def SpecThere (cdi : CDIHandler) (uid : ClaimUID) (disk : Disk) : Prop :=
  ∃ spec, disk.root.lookup (cdi.claimFile uid) = some (.spec spec)

/-- **A careful removal**: if the new instance is about to remove a claim's file, the checkpoint on
disk has no entry for the claim and the old instance is not about to write one. -/
def Careful (config : DriverConfig Config) (sys : Rolling Config) : Prop :=
  ∀ uid, sys.new.next = some (.removeSpec (config.cdi.claimFile uid)) →
    uid ∉ sys.disk.checkpoint.getD ∅ ∧
      ∀ claims, sys.old.next = some (.writeCheckpoint claims) → uid ∉ claims

/-- A move that is careful if it is the new instance's. -/
def CarefulMove (config : DriverConfig Config) (sys : Rolling Config) (move : Move Config)
    (sys' : Rolling Config) : Prop :=
  sys.move move = some sys' ∧ (move = .newOp → Careful config sys)

/-! ### What the instances do to each other -/

/-- What the new instance may do between two operations of the old one, given the operation the old
one is about to perform. -/
def NewMoves (cdi : CDIHandler) (next : Option DiskOp) (disk disk' : Disk) : Prop :=
  disk'.checkpoint = disk.checkpoint ∧ ∀ uid, (uid ∈ disk.checkpoint.getD ∅ ∨
    ∃ claims, next = some (.writeCheckpoint claims) ∧ uid ∈ claims) →
      SpecThere cdi uid disk → SpecThere cdi uid disk'

/-- Every prepared claim has its entry and its spec file. -/
structure Safe (cdi : CDIHandler) (prepared : List ClaimUID) (disk : Disk) : Prop where
  present : disk.checkpoint.isSome = true
  entry : ∀ uid ∈ prepared, uid ∈ disk.checkpoint.getD ∅
  spec : ∀ uid ∈ prepared, SpecThere cdi uid disk

section Interference

variable {cdi : CDIHandler} {prepared : List ClaimUID}

theorem newMoves_refl (o : Option DiskOp) (disk : Disk) : NewMoves cdi o disk disk :=
  ⟨rfl, fun _ _ there => there⟩

theorem newMoves_trans (o : Option DiskOp) (disk disk' disk'' : Disk)
    (first : NewMoves cdi o disk disk') (second : NewMoves cdi o disk' disk'') :
    NewMoves cdi o disk disk'' := by
  refine ⟨second.1.trans first.1, fun uid due there => ?_⟩
  exact second.2 uid (first.1 ▸ due) (first.2 uid due there)

theorem safe_stable (o : Option DiskOp) (disk disk' : Disk) (safe : Safe cdi prepared disk)
    (moved : NewMoves cdi o disk disk') : Safe cdi prepared disk' where
  present := moved.1 ▸ safe.present
  entry uid member := moved.1 ▸ safe.entry uid member
  spec uid member := moved.2 uid (Or.inl (safe.entry uid member)) (safe.spec uid member)

theorem specThere_putSpec {uid other : ClaimUID} {disk : Disk} (spec : CdiSpec)
    (there : uid = other ∨ SpecThere cdi uid disk) :
    SpecThere cdi uid (disk.putSpec (cdi.claimFile other) spec) := by
  unfold SpecThere
  rw [putSpec_lookup]
  split
  · exact ⟨spec, rfl⟩
  · rename_i different
    rcases there with same | old
    · exact absurd (congrArg cdi.claimFile same) different
    · exact old

theorem Safe.putSpec {disk : Disk} (safe : Safe cdi prepared disk) (other : ClaimUID) (spec : CdiSpec) :
    Safe cdi prepared (disk.putSpec (cdi.claimFile other) spec) :=
  ⟨safe.present, safe.entry, fun uid member => specThere_putSpec spec (Or.inr (safe.spec uid member))⟩

/-- The old instance's programs, among the moves of the new one. -/
abbrev Stands {α : Type} (cdi : CDIHandler) (prepared : List ClaimUID) (p : DiskProg α)
    (post : Disk → α → Prop) (disk : Disk) : Prop :=
  Prog.Resists actDone (NewMoves cdi) (Safe cdi prepared) p post disk

theorem stands_ret {α : Type} {a : α} {post : Disk → α → Prop} {disk : Disk}
    (safe : Safe cdi prepared disk) (returns : ∀ disk', NewMoves cdi none disk disk' → post disk' a) :
    Stands cdi prepared (.ret a) post disk :=
  Prog.resists_ret safe_stable safe returns

section Rules

variable {α β : Type} {post : Disk → β → Prop} {disk : Disk}

/-- A checkpoint read: the old instance alone writes the checkpoint. -/
theorem stands_getCheckpoint {f : Except String PreparedClaims → DiskProg β}
    (safe : Safe cdi prepared disk)
    (read : ∀ disk' claims, disk'.checkpoint = some claims → Safe cdi prepared disk' →
      Stands cdi prepared (f (.ok claims)) post disk') :
    Stands cdi prepared (getCheckpoint >>= f) post disk := by
  refine Prog.resists_call safe_stable safe fun disk' _ safe' _ => ?_
  obtain ⟨claims, stored⟩ := Option.isSome_iff_exists.mp safe'.present
  have answer : actDone disk' .readCheckpoint () = (.ok claims, disk') := by
    simp only [actDone, Disk.perform, stored]
  rw [answer]
  exact read disk' claims stored safe'

/-- A checkpoint write: until it is done, the new instance leaves the files of its claims alone. -/
theorem stands_createCheckpoint {claims : PreparedClaims} {f : Except String Unit → DiskProg β}
    (safe : Safe cdi prepared disk)
    (written : ∀ disk', NewMoves cdi (some (.writeCheckpoint claims)) disk disk' →
      Safe cdi prepared disk' → Stands cdi prepared (f (.ok ())) post (disk'.putCheckpoint claims)) :
    Stands cdi prepared (createCheckpoint claims >>= f) post disk :=
  Prog.resists_call safe_stable safe fun disk' moved safe' _ => written disk' moved safe'

/-- A claim's spec write. -/
theorem stands_createClaimSpecFile {uid : ClaimUID} {devices : PreparedDevices}
    {f : Except String Unit → DiskProg β} (safe : Safe cdi prepared disk)
    (failed : ∀ disk' e, Safe cdi prepared disk' → Stands cdi prepared (f (.error e)) post disk')
    (written : ∀ (disk' : Disk) (spec : CdiSpec), disk'.checkpoint = disk.checkpoint →
      Safe cdi prepared (disk'.putSpec (cdi.claimFile uid) spec) →
        Stands cdi prepared (f (.ok ())) post (disk'.putSpec (cdi.claimFile uid) spec)) :
    Stands cdi prepared (cdi.createClaimSpecFile uid devices >>= f) post disk := by
  unfold CDIHandler.createClaimSpecFile
  cases cdi.claimSpec uid devices with
  | error e => exact failed disk e safe
  | ok spec =>
    simp only
    unfold Cache.writeSpec
    cases cdi.cache.validate spec with
    | error e => exact failed disk e safe
    | ok _ =>
      refine Prog.resists_call safe_stable safe fun disk' moved safe' _ => ?_
      simp only [actDone, Disk.perform]
      split
      · exact failed disk' _ safe'
      · exact written disk' spec moved.1 (safe'.putSpec uid spec)

/-- The removal of the file of a claim that is not prepared. -/
theorem stands_deleteClaimSpecFile {uid : ClaimUID} {f : Except String Unit → DiskProg β}
    (safe : Safe cdi prepared disk) (released : uid ∉ prepared)
    (failed : ∀ disk' e, Safe cdi prepared disk' → Stands cdi prepared (f (.error e)) post disk')
    (removed : ∀ disk', disk'.checkpoint = disk.checkpoint → Safe cdi prepared disk' →
      Stands cdi prepared (f (.ok ())) post disk') :
    Stands cdi prepared (cdi.deleteClaimSpecFile uid >>= f) post disk := by
  refine Prog.resists_call safe_stable safe fun disk' moved safe' _ => ?_
  simp only [actDone, Disk.perform]
  split
  · exact failed disk' _ safe'
  · refine removed _ moved.1 ⟨safe'.present, safe'.entry, fun other member => ?_⟩
    have different : cdi.claimFile other ≠ cdi.claimFile uid := fun same =>
      released (cdi.claimFile_inj same ▸ member)
    obtain ⟨spec, found⟩ := safe'.spec other member
    exact ⟨spec, (dropFile_lookup disk' _ _).trans ((if_neg different).trans found)⟩

end Rules

/-! ### The old instance -/

/-- After a `Prepare` that returned success the claim has its entry and its spec file. -/
def PreparePost (cdi : CDIHandler) (uid : ClaimUID) (disk : Disk)
    (result : Except String (List KubeletDevice)) : Prop :=
  succeeded (some result) = true → uid ∈ disk.checkpoint.getD ∅ ∧ SpecThere cdi uid disk

theorem stands_error {uid : ClaimUID} {disk : Disk} (safe : Safe cdi prepared disk) (e : String) :
    Stands cdi prepared (.ret (.error e)) (PreparePost cdi uid) disk :=
  stands_ret safe fun _ _ wrong => by cases wrong

/-- A success with entry and spec in place stays one. -/
theorem stands_prepared {uid : ClaimUID} {disk : Disk} (safe : Safe cdi prepared disk)
    (entry : uid ∈ disk.checkpoint.getD ∅) (there : SpecThere cdi uid disk)
    (devices : List KubeletDevice) :
    Stands cdi prepared (.ret (.ok devices)) (PreparePost cdi uid) disk :=
  stands_ret safe fun _ moved _ => ⟨moved.1 ▸ entry, moved.2 uid (Or.inl entry) there⟩

theorem stands_prepare (rt rt' : Runtime) {s : DeviceState Config} {claim : ResourceClaim} {disk : Disk}
    (safe : Safe s.cdi prepared disk) :
    Stands s.cdi prepared (s.prepare rt rt' claim) (PreparePost s.cdi claim.uid) disk := by
  unfold DeviceState.prepare
  refine stands_getCheckpoint safe fun disk claims stored safe => ?_
  simp only
  cases entry : (claims.lookup claim.uid).join with
  | some devices =>
    have recorded : claim.uid ∈ disk.checkpoint.getD ∅ := by
      rw [stored]
      exact AList.lookup_isSome.mp
        (Option.isSome_iff_exists.mpr ⟨_, Option.join_eq_some_iff.mp entry⟩)
    simp only
    unfold DeviceState.reprepare
    cases s.validatePreparedDevices claim.uid (some devices) with
    | error e => exact stands_error safe e
    | ok _ =>
      refine stands_createClaimSpecFile safe (fun disk' e safe' => stands_error safe' _)
        fun disk' spec same safe' => ?_
      exact stands_prepared safe' (by rw [putSpec_checkpoint, same]; exact recorded)
        (specThere_putSpec spec (Or.inl rfl)) _
  | none =>
    simp only
    cases s.prepareDevices rt rt' claim with
    | error e => exact stands_error safe _
    | ok devices =>
      simp only
      unfold DeviceState.prepareFresh
      refine stands_createClaimSpecFile safe (fun disk' e safe' => stands_error safe' _)
        fun disk' spec same safe' => ?_
      refine stands_createCheckpoint safe' fun disk'' moved safe'' => ?_
      have own : claim.uid ∈ claims.insert claim.uid devices :=
        (AList.mem_insert claims).mpr (Or.inl rfl)
      have there : SpecThere s.cdi claim.uid disk'' :=
        moved.2 claim.uid (Or.inr ⟨_, rfl, own⟩) (specThere_putSpec spec (Or.inl rfl))
      have before : disk''.checkpoint = some claims := by
        rw [moved.1, putSpec_checkpoint, same, stored]
      have final : Safe s.cdi prepared (disk''.putCheckpoint (claims.insert claim.uid devices)) := by
        refine ⟨rfl, fun uid member => ?_, safe''.spec⟩
        have old := safe''.entry uid member
        rw [before] at old
        exact (AList.mem_insert claims).mpr (Or.inr old)
      exact stands_prepared final own there _

theorem stands_unprepare {s : DeviceState Config} {uid : ClaimUID} {disk : Disk}
    (released : uid ∉ prepared) (safe : Safe s.cdi prepared disk) :
    Stands s.cdi prepared (s.unprepare uid) (fun _ _ => True) disk := by
  show Stands s.cdi prepared (getCheckpoint >>= s.unprepareRead uid) (fun _ _ => True) disk
  refine stands_getCheckpoint safe fun disk claims stored safe => ?_
  show Stands s.cdi prepared (s.unprepareFrom uid claims) (fun _ _ => True) disk
  unfold DeviceState.unprepareFrom
  split
  · exact stands_ret safe fun _ _ => trivial
  · refine stands_deleteClaimSpecFile safe released
      (fun disk' e safe' => stands_ret safe' fun _ _ => trivial) fun disk' same safe' => ?_
    refine stands_createCheckpoint safe' fun disk'' moved safe'' => ?_
    refine stands_ret ⟨rfl, fun other member => ?_, safe''.spec⟩ fun _ _ => trivial
    have old := safe''.entry other member
    rw [moved.1, same, stored] at old
    exact AList.mem_erase.mpr ⟨fun here => released (here ▸ member), old⟩

end Interference

/-! ### The new instance -/

/-- The new instance writes no checkpoint. -/
def NoCheckpointWrite (o : DiskOp) : Prop := ∀ claims, o ≠ .writeCheckpoint claims

/-- It finds the checkpoint the old instance created. -/
def ListsCheckpoint : (o : DiskOp) → o.Answer → Prop
  | .listCheckpoints, answer => answer = Except.ok [driverPluginCheckpointFile]
  | _, _ => True

theorem only_regenerate (s : DeviceState Config) (claims : PreparedClaims) (valid : List ClaimUID)
    (uid : ClaimUID) : (s.regenerate claims valid uid).Only NoCheckpointWrite ListsCheckpoint := by
  unfold DeviceState.regenerate
  simp only
  cases s.validatePreparedDevices uid (claims.lookup uid).join with
  | error e => trivial
  | ok _ =>
    refine Prog.only_bind (only_createClaimSpecFile s.cdi uid _ fun _ => nofun) fun r => ?_
    cases r <;> trivial

theorem only_reconcile (s : DeviceState Config) :
    s.reconcileCDISpecs.Only NoCheckpointWrite ListsCheckpoint := by
  have reads : getCheckpoint.Only NoCheckpointWrite ListsCheckpoint := ⟨nofun, fun _ _ => trivial⟩
  refine Prog.only_bind reads fun r => ?_
  cases r with
  | error e => trivial
  | ok claims =>
    refine Prog.only_bind (Prog.only_foldEach (only_regenerate s claims) _ _) fun r => ?_
    cases r with
    | error e => trivial
    | ok valid =>
      refine Prog.only_bind (only_prune s.cdi valid nofun fun _ _ _ => nofun) fun pruned => ?_
      obtain ⟨removed, error⟩ := pruned
      cases error <;> trivial

/-- **The new instance never writes the checkpoint.** -/
theorem only_newDeviceState (config : DriverConfig Config) (driverResources : DriverResources) :
    (newDeviceState config driverResources).Only NoCheckpointWrite ListsCheckpoint := by
  have common : config.cdi.createCommonSpecFile.Only NoCheckpointWrite ListsCheckpoint := by
    unfold CDIHandler.createCommonSpecFile
    cases config.cdi.commonSpec with
    | error e => trivial
    | ok spec => exact only_writeSpec config.cdi.cache nofun
  refine Prog.only_bind common fun r => ?_
  cases r with
  | error e => trivial
  | ok _ =>
    refine ⟨nofun, fun answer lists => ?_⟩
    have found : answer = Except.ok [driverPluginCheckpointFile] := lists
    subst found
    show (startReconciled (initialState config driverResources)).Only NoCheckpointWrite ListsCheckpoint
    refine Prog.only_bind (only_reconcile (initialState config driverResources)) fun r => ?_
    cases r <;> trivial

/-- **A careful move of the new instance** is one the old instance withstands. -/
theorem newMoves_perform {cdi : CDIHandler} {next : Option DiskOp} {disk : Disk} {o : DiskOp}
    (noWrite : NoCheckpointWrite o)
    (careful : ∀ uid, o = .removeSpec (cdi.claimFile uid) → uid ∉ disk.checkpoint.getD ∅ ∧
      ∀ claims, next = some (.writeCheckpoint claims) → uid ∉ claims) :
    NewMoves cdi next disk (disk.perform o).2 := by
  cases o with
  | listCheckpoints => exact newMoves_refl next disk
  | readCheckpoint =>
    have same : (disk.perform .readCheckpoint).2 = disk := by
      simp only [Disk.perform]
      split <;> rfl
    rw [same]
    exact newMoves_refl next disk
  | writeCheckpoint claims => exact absurd rfl (noWrite claims)
  | readDir => exact newMoves_refl next disk
  | writeSpec file spec =>
    simp only [Disk.perform]
    split
    · exact newMoves_refl next disk
    · refine ⟨rfl, fun uid _ there => ?_⟩
      unfold SpecThere
      rw [lookup_insert_eq]
      split
      · exact ⟨spec, rfl⟩
      · exact there
  | removeSpec file =>
    simp only [Disk.perform]
    split
    · exact newMoves_refl next disk
    · refine ⟨rfl, fun uid due there => ?_⟩
      have different : cdi.claimFile uid ≠ file := by
        rintro rfl
        obtain ⟨noEntry, noWriteDue⟩ := careful uid rfl
        rcases due with entry | ⟨claims, writes, inside⟩
        · exact noEntry entry
        · exact noWriteDue claims writes inside
      unfold SpecThere
      rw [lookup_erase_eq, if_neg different]
      exact there

/-! ### Every interleaving -/

/-- What the call of the old instance stands for. -/
def OldStands (cdi : CDIHandler) (prepared : List ClaimUID) (disk : Disk) : OldCall → Prop
  | .idle => True
  | .preparing uid rest => Stands cdi prepared rest (PreparePost cdi uid) disk
  | .unpreparing _ rest => Stands cdi prepared rest (fun _ _ => True) disk

/-- **What every careful interleaving keeps.** -/
structure RollingInv (config : DriverConfig Config) (sys : Rolling Config) : Prop where
  ours : sys.oldState.cdi = config.cdi
  safe : Safe config.cdi sys.prepared sys.disk
  new : sys.new.Only NoCheckpointWrite ListsCheckpoint
  old : OldStands config.cdi sys.prepared sys.disk sys.old

section Invariant

variable {config : DriverConfig Config} {sys sys' : Rolling Config}

theorem begin_inv (oldResources newResources : DriverResources) (claims : PreparedClaims)
    (root : GoMap String RootEntry) :
    RollingInv config (.begin config oldResources newResources claims root) where
  ours := rfl
  safe := ⟨rfl, nofun, nofun⟩
  new := only_newDeviceState config newResources
  old := trivial

/-- A move of the new instance. -/
theorem newOp_inv (inv : RollingInv config sys) (careful : Careful config sys)
    (moved : sys.move .newOp = some sys') : RollingInv config sys' := by
  obtain ⟨disk, oldState, old, new, prepared⟩ := sys
  cases new with
  | ret r => cases moved
  | call o k =>
    cases Option.some.inj moved
    have moves : NewMoves config.cdi old.next disk (disk.perform o).2 :=
      newMoves_perform inv.new.1 fun uid removes => careful uid (congrArg some removes)
    refine ⟨inv.ours, safe_stable _ _ _ inv.safe moves, inv.new.2 _ ?_, ?_⟩
    · cases o with
      | listCheckpoints =>
        have present : disk.checkpoint.isSome = true := inv.safe.present
        exact congrArg Except.ok (if_pos present)
      | _ => trivial
    · cases old with
      | idle => trivial
      | preparing uid rest => exact Prog.Resists.env_keeps newMoves_trans inv.old moves
      | unpreparing uid rest => exact Prog.Resists.env_keeps newMoves_trans inv.old moves

/-- A call of the old instance begins. -/
theorem call_inv (inv : RollingInv config sys) {move : Move Config}
    (call : (∃ rt rt' handler claim, move = .prepare rt rt' handler claim) ∨
      ∃ uid, move = .unprepare uid) (moved : sys.move move = some sys') : RollingInv config sys' := by
  obtain ⟨disk, oldState, old, new, prepared⟩ := sys
  have ours : oldState.cdi = config.cdi := inv.ours
  have safe : Safe config.cdi prepared disk := inv.safe
  rcases call with ⟨rt, rt', handler, claim, rfl⟩ | ⟨uid, rfl⟩
  · cases old with
    | idle =>
      cases Option.some.inj moved
      refine ⟨ours, safe, inv.new, ?_⟩
      rw [← ours] at safe ⊢
      exact stands_prepare (s := { oldState with configHandler := handler }) rt rt' safe
    | preparing _ _ => cases moved
    | unpreparing _ _ => cases moved
  · cases old with
    | idle =>
      cases Option.some.inj moved
      have released : uid ∉ prepared.filter fun other => other ≠ uid := by simp
      have fewer : Safe config.cdi (prepared.filter fun other => other ≠ uid) disk :=
        ⟨safe.present, fun other member => safe.entry other (List.mem_of_mem_filter member),
          fun other member => safe.spec other (List.mem_of_mem_filter member)⟩
      refine ⟨ours, fewer, inv.new, ?_⟩
      rw [← ours] at fewer ⊢
      exact stands_unprepare released fewer
    | preparing _ _ => cases moved
    | unpreparing _ _ => cases moved

/-- A disk operation or the return of the old instance's call. -/
theorem oldOp_inv (inv : RollingInv config sys) (moved : sys.move .oldOp = some sys') :
    RollingInv config sys' := by
  obtain ⟨disk, oldState, old, new, prepared⟩ := sys
  cases old with
  | idle => cases moved
  | preparing uid rest =>
    have stands : Stands config.cdi prepared rest (PreparePost config.cdi uid) disk := inv.old
    cases rest with
    | call o k =>
      cases Option.some.inj moved
      have next := stands.step newMoves_refl ()
      exact ⟨inv.ours, next.here newMoves_refl, inv.new, next⟩
    | ret result =>
      cases Option.some.inj moved
      refine ⟨inv.ours, ?_, inv.new, trivial⟩
      have safe : Safe config.cdi prepared disk := inv.safe
      have returned := (stands disk (newMoves_refl _ disk)).2
      show Safe config.cdi (if succeeded (some result) then uid :: prepared else prepared) disk
      split
      · rename_i ok
        obtain ⟨entry, there⟩ := returned ok
        exact ⟨safe.present, List.forall_mem_cons.mpr ⟨entry, safe.entry⟩,
          List.forall_mem_cons.mpr ⟨there, safe.spec⟩⟩
      · exact safe
  | unpreparing uid rest =>
    have stands : Stands config.cdi prepared rest (fun _ _ => True) disk := inv.old
    cases rest with
    | call o k =>
      cases Option.some.inj moved
      have next := stands.step newMoves_refl ()
      exact ⟨inv.ours, next.here newMoves_refl, inv.new, next⟩
    | ret result =>
      cases Option.some.inj moved
      exact ⟨inv.ours, inv.safe, inv.new, trivial⟩

theorem move_inv {move : Move Config} (inv : RollingInv config sys)
    (careful : CarefulMove config sys move sys') : RollingInv config sys' := by
  obtain ⟨moved, removal⟩ := careful
  cases move with
  | prepare rt rt' handler claim => exact call_inv inv (Or.inl ⟨rt, rt', handler, claim, rfl⟩) moved
  | unprepare uid => exact call_inv inv (Or.inr ⟨uid, rfl⟩) moved
  | oldOp => exact oldOp_inv inv moved
  | newOp => exact newOp_inv inv (removal rfl) moved

end Invariant

/-- **In every careful interleaving every prepared claim keeps its spec file**: whatever the two
instances do, in every state reached each claim whose `Prepare` returned success and that was not
unprepared since has its spec file in the CDI root. -/
theorem rolling_keeps_specs (config : DriverConfig Config) (oldResources newResources : DriverResources)
    (claims : PreparedClaims) (root : GoMap String RootEntry) {moves : List (Move Config)}
    {sys : Rolling Config}
    (run : Run (CarefulMove config) (.begin config oldResources newResources claims root) moves sys) :
    ∀ uid ∈ sys.prepared, SpecThere config.cdi uid sys.disk := by
  have inv : RollingInv config sys := run.invariant (fun _ _ _ inv careful => move_inv inv careful)
    (begin_inv oldResources newResources claims root)
  exact inv.safe.spec

/-! ### Two updates of the sample driver -/

/-- The start of an update with one device and nothing prepared. -/
def sampleUpdate : Rolling Unit :=
  .begin sampleConfig (sampleResources ["tt-0"]) (sampleResources ["tt-0"]) ∅ ∅

/-- The old instance prepares a claim: checkpoint read, spec write, checkpoint write, return. -/
def prepareMoves : List (Move Unit) :=
  .prepare Runtime.plain Runtime.plain sampleConfig.configHandler (sampleClaim uidA ["tt-0"]) ::
    List.replicate 4 .oldOp

/-- **A rolling update can lose a prepared claim's spec.** The new instance has read the checkpoint
(after the common spec and the checkpoint listing) when the old one prepares a claim, and then lists
the root and removes the claim's file. Every device is allocatable in both instances and every
operation succeeds. -/
theorem rolling_loses_spec :
    ∃ sys, Run (fun sys move sys' => Rolling.move sys move = some sys') sampleUpdate
        (List.replicate 3 .newOp ++ prepareMoves ++ List.replicate 2 .newOp) sys ∧
      sys.finished = true ∧ uidA ∈ sys.prepared ∧ ¬ SpecThere sampleConfig.cdi uidA sys.disk := by
  have ran : ((List.replicate 3 Move.newOp ++ prepareMoves ++ List.replicate 2 Move.newOp).foldlM
      Rolling.move sampleUpdate).map (fun sys : Rolling Unit => (sys.finished, sys.prepared,
        sys.disk.root.lookup (sampleHandler.claimFile uidA))) = some (true, [uidA], none) := by
    decide +kernel
  obtain ⟨sys, moved, facts⟩ := Option.map_eq_some_iff.mp ran
  obtain ⟨finished, rest⟩ := Prod.mk.inj facts
  obtain ⟨prepared, gone⟩ := Prod.mk.inj rest
  refine ⟨sys, run_of_foldlM moved, finished, by rw [prepared]; exact List.mem_singleton_self uidA, ?_⟩
  rintro ⟨spec, found⟩
  exact absurd (gone.symm.trans found) (by simp)

/-- No claim of the checkpoint has this file. -/
def spares (config : DriverConfig Config) (file : String) (claims : PreparedClaims) : Bool :=
  claims.keys.all fun uid => config.cdi.claimFile uid ≠ file

theorem spares_iff {config : DriverConfig Config} {file : String} {claims : PreparedClaims} :
    spares config file claims = true ↔ ∀ uid, file = config.cdi.claimFile uid → uid ∉ claims := by
  unfold spares
  simp only [List.all_eq_true, decide_eq_true_eq]
  exact ⟨fun apart uid here listed => apart uid (AList.mem_keys.mp listed) here.symm,
    fun apart uid listed here => apart uid here.symm (AList.mem_keys.mpr listed)⟩

/-- Whether the next operation of the new instance is careful. -/
def Rolling.careful (config : DriverConfig Config) (sys : Rolling Config) : Bool :=
  match sys.new.next with
  | some (.removeSpec file) =>
    spares config file (sys.disk.checkpoint.getD ∅) && match sys.old.next with
      | some (.writeCheckpoint claims) => spares config file claims
      | _ => true
  | _ => true

/-- A move, if it is careful. -/
def Rolling.moveCarefully (config : DriverConfig Config) (sys : Rolling Config) :
    Move Config → Option (Rolling Config)
  | .newOp => if sys.careful config then sys.move .newOp else none
  | move => sys.move move

theorem careful_of_moveCarefully {config : DriverConfig Config} {sys sys' : Rolling Config}
    {move : Move Config} (moved : sys.moveCarefully config move = some sys') :
    CarefulMove config sys move sys' := by
  cases move with
  | prepare | unprepare | oldOp => exact ⟨moved, fun newOp => by cases newOp⟩
  | newOp =>
    obtain ⟨careful, moved⟩ := Option.ite_none_right_eq_some.mp moved
    refine ⟨moved, fun _ uid removes => ?_⟩
    unfold Rolling.careful at careful
    rw [removes] at careful
    obtain ⟨unrecorded, unwritten⟩ := Bool.and_eq_true_iff.mp careful
    refine ⟨spares_iff.mp unrecorded uid rfl, fun claims writes => ?_⟩
    rw [writes] at unwritten
    exact spares_iff.mp unwritten uid rfl

/-- A root that holds the spec file of a claim nobody has prepared. -/
def orphanRoot : GoMap String RootEntry :=
  (∅ : GoMap String RootEntry).insert (sampleHandler.claimFile uidB)
    (.spec { version := "", kind := sampleHandler.kind, devices := [] })

/-- The two instances take turns: the new one reads the checkpoint when the old one has just written
it, rewrites the claim's spec and removes the orphan. -/
def alternating : List (Move Unit) :=
  [.newOp, .prepare Runtime.plain Runtime.plain sampleConfig.configHandler (sampleClaim uidA ["tt-0"]),
    .oldOp, .newOp, .oldOp, .oldOp, .newOp, .oldOp, .newOp, .newOp, .newOp]

/-- An update that finds the claim prepared keeps its spec, and the orphan is gone. -/
theorem sampleUpdate_keeps :
    ∃ sys, Run (CarefulMove sampleConfig) (.begin sampleConfig (sampleResources ["tt-0"])
        (sampleResources ["tt-0"]) ∅ orphanRoot) alternating sys ∧
      sys.finished = true ∧ uidA ∈ sys.prepared ∧ SpecThere sampleConfig.cdi uidA sys.disk ∧
      ¬ SpecThere sampleConfig.cdi uidB sys.disk := by
  have ran : (alternating.foldlM (Rolling.moveCarefully sampleConfig) (.begin sampleConfig
      (sampleResources ["tt-0"]) (sampleResources ["tt-0"]) ∅ orphanRoot)).map (fun sys : Rolling Unit =>
        (sys.finished, sys.prepared, sys.disk.root.lookup (sampleHandler.claimFile uidB))) =
      some (true, [uidA], none) := by
    decide +kernel
  obtain ⟨sys, moved, facts⟩ := Option.map_eq_some_iff.mp ran
  obtain ⟨finished, rest⟩ := Prod.mk.inj facts
  obtain ⟨prepared, gone⟩ := Prod.mk.inj rest
  have run : Run (CarefulMove sampleConfig) _ alternating sys :=
    (run_of_foldlM moved).mono fun _ _ _ step => careful_of_moveCarefully step
  have inside : uidA ∈ sys.prepared := by
    rw [prepared]
    exact List.mem_singleton_self uidA
  refine ⟨sys, run, finished, inside, rolling_keeps_specs sampleConfig (sampleResources ["tt-0"])
    (sampleResources ["tt-0"]) ∅ orphanRoot run uidA inside, ?_⟩
  rintro ⟨spec, found⟩
  exact absurd (gone.symm.trans found) (by simp)

end DraDriver.Plugin
