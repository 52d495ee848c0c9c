/-
**Claims are independent of each other.**

The kubelet hands claims over in batches, and the driver takes them one after another. Where every
disk operation is done, a call reads and writes only its claim's checkpoint entry and spec file:
`prepareEffect` and `unprepareEffect` say what it returns and writes from those two alone
(**`run_prepare`**, **`run_unprepare`**), which makes the calls `Local` (`calls_local`).

**`claims_independent`**: from every state a run reaches with a driver running, each claim of a
batch gets the result it would have got alone, and neither the order of a batch nor the order of
calls on distinct claims shows in the results, the checkpoint or the spec files.
-/

import DraDriver.Base.Footprint
import DraDriver.Plugin.Runs

namespace DraDriver.Plugin

open DraDriver.Base DraDriver.Profiles DraDriver.Tenstorrent

variable {Config : Type}

/-! ### The driver's batches -/

/-- `kubeletplugin.Device`. -/
structure PluginDevice where
  requests : List String
  poolName : String
  deviceName : String
  cdiDeviceIDs : List String
  deriving DecidableEq, Repr

/-- `kubeletplugin.PrepareResult`. -/
structure PrepareResult where
  devices : List PluginDevice
  err : Option String
  deriving DecidableEq, Repr

/-- A prepared device as the helper is told of it. -/
def pluginDevice (preparedPB : KubeletDevice) : PluginDevice :=
  { requests := preparedPB.requestNames
    poolName := preparedPB.poolName
    deviceName := preparedPB.deviceName
    cdiDeviceIDs := preparedPB.cdiDeviceIds }

/-- What the driver reports of a `Prepare`. -/
def prepareResult (claimUID : ClaimUID) : Except String (List KubeletDevice) → PrepareResult
  | .error e => { devices := [],
                  err := some ("error preparing devices for claim " ++ claimUID.text ++ ": " ++ e) }
  | .ok preparedPBs => { devices := preparedPBs.map pluginDevice, err := none }

/-- What the driver reports of an `Unprepare`; `none` is the nil error. -/
def unprepareResult (claimUID : ClaimUID) : Except String Unit → Option String
  | .error e => some ("error unpreparing devices for claim " ++ claimUID.text ++ ": " ++ e)
  | .ok () => none

/-- The loop of a batch: each result is recorded under its claim's UID. -/
def recordEach {α β : Type} (uidOf : α → ClaimUID) (body : α → DiskProg β) (claims : List α)
    (result : GoMap ClaimUID β) : DiskProg (GoMap ClaimUID β) :=
  claims.foldlM (fun result claim => do return result.insert (uidOf claim) (← body claim)) result

/-- The orders the two `range` loops of a claim's `Prepare` take. -/
abbrev Orders := ResourceClaim → Runtime × Runtime

/-- `driver.prepareResourceClaim`. -/
def DeviceState.prepareResourceClaim (order : Orders) (s : DeviceState Config) (claim : ResourceClaim) :
    DiskProg PrepareResult := do
  return prepareResult claim.uid (← s.prepare (order claim).1 (order claim).2 claim)

/-- `driver.PrepareResourceClaims`. -/
def DeviceState.prepareResourceClaims (order : Orders) (s : DeviceState Config)
    (claims : List ResourceClaim) : DiskProg (GoMap ClaimUID PrepareResult) :=
  recordEach ResourceClaim.uid (s.prepareResourceClaim order) claims ∅

/-- `driver.unprepareResourceClaim`. -/
def DeviceState.unprepareResourceClaim (s : DeviceState Config) (claimUID : ClaimUID) :
    DiskProg (Option String) := do
  return unprepareResult claimUID (← s.unprepare claimUID)

/-- `driver.UnprepareResourceClaims`. -/
def DeviceState.unprepareResourceClaims (s : DeviceState Config) (claims : List ClaimUID) :
    DiskProg (GoMap ClaimUID (Option String)) :=
  recordEach id s.unprepareResourceClaim claims ∅

/-! ### Runs in which every operation is done -/

/-- Run a program with every disk operation done. -/
def Disk.run {α : Type} (p : DiskProg α) (disk : Disk) : α × Disk := Prog.run Disk.perform p disk

theorem run_bind {α β : Type} (p : DiskProg α) (f : α → DiskProg β) (disk : Disk) :
    Disk.run (p >>= f) disk = Disk.run (f (Disk.run p disk).1) (Disk.run p disk).2 :=
  Prog.run_bind _ p disk

/-- **Such a run is the run of the system whose outcomes are all done.** -/
theorem exec_done {α : Type} (mayFail : DiskOp → Bool) (p : DiskProg α) (disk : Disk) :
    ∃ n, ∀ m, n ≤ m → Prog.exec (Disk.act mayFail) p (List.replicate m .done) disk =
      ((Disk.run p disk).2, some (Disk.run p disk).1) :=
  Prog.exec_run (fun _ _ => rfl) p disk

/-- A batch is its calls one after the other. -/
theorem run_recordEach {α β : Type} (uidOf : α → ClaimUID) (body : α → DiskProg β) :
    ∀ (claims : List α) (result : GoMap ClaimUID β) (disk : Disk),
      Disk.run (recordEach uidOf body claims result) disk =
        (((claims.map uidOf).zip (runAll (fun claim => Disk.run (body claim)) claims disk).1).foldl
          (fun result entry => result.insert entry.1 entry.2) result,
        (runAll (fun claim => Disk.run (body claim)) claims disk).2)
  | [], _, _ => rfl
  | claim :: rest, result, disk => by
    unfold recordEach
    rw [List.foldlM_cons, run_bind, run_bind]
    exact run_recordEach uidOf body rest _ _

/-! ### What a call finds and leaves -/

/-- Where a disk is read: a checkpoint entry or a file of the CDI root. -/
inductive Place
  | entry (uid : ClaimUID)
  | file (name : String)

/-- The checkpoint entry of a claim. -/
def Disk.entry (disk : Disk) (uid : ClaimUID) : Option PreparedDevices :=
  disk.checkpoint.bind fun claims => claims.lookup uid

/-- What a disk holds at a place. -/
def Disk.at : Place → Disk → Option PreparedDevices ⊕ Option RootEntry
  | .entry uid, disk => .inl (disk.entry uid)
  | .file name, disk => .inr (disk.root.lookup name)

/-- The disks hold the same checkpoint map and the same files. -/
def Disk.Same (disk disk' : Disk) : Prop :=
  disk.checkpoint.isSome = disk'.checkpoint.isSome ∧ ∀ place, disk.at place = disk'.at place

/-- What a call writes. -/
inductive Effect
  | nothing
  | rewrite (spec : CdiSpec)
  | record (devices : PreparedDevices) (spec : CdiSpec)
  | release

/-- The disk after an effect of a call for the claim. -/
def Effect.apply (cdi : CDIHandler) (uid : ClaimUID) (disk : Disk) : Effect → Disk
  | .nothing => disk
  | .rewrite spec => disk.putSpec (cdi.claimFile uid) spec
  | .record devices spec => (disk.putSpec (cdi.claimFile uid) spec).putCheckpoint
      ((disk.checkpoint.getD ∅).insert uid devices)
  | .release => (disk.dropFile (cdi.claimFile uid)).putCheckpoint
      ((disk.checkpoint.getD ∅).erase uid)

/-- What an effect leaves in the claim's entry and in its file. -/
def Effect.entry (old : Option PreparedDevices) : Effect → Option PreparedDevices
  | .nothing => old
  | .rewrite _ => old
  | .record devices _ => some devices
  | .release => none

/-- What an effect leaves in the claim's file. -/
def Effect.file (old : Option RootEntry) : Effect → Option RootEntry
  | .nothing => old
  | .rewrite spec => some (.spec spec)
  | .record _ spec => some (.spec spec)
  | .release => none

section Effects

variable (cdi : CDIHandler) (uid : ClaimUID) {disk : Disk} (effect : Effect)

theorem Effect.apply_present (present : disk.checkpoint.isSome = true) :
    (effect.apply cdi uid disk).checkpoint.isSome = true := by
  cases effect with
  | nothing => exact present
  | rewrite spec => exact present
  | record devices spec => rfl
  | release => rfl

theorem Effect.apply_entry (present : disk.checkpoint.isSome = true) (other : ClaimUID) :
    (effect.apply cdi uid disk).entry other =
      if other = uid then effect.entry (disk.entry uid) else disk.entry other := by
  obtain ⟨claims, stored⟩ := Option.isSome_iff_exists.mp present
  have read : ∀ u, disk.entry u = claims.lookup u := fun u => by simp [Disk.entry, stored]
  have kept : disk.entry other = if other = uid then disk.entry uid else disk.entry other := by
    split
    · next same => rw [same]
    · rfl
  cases effect with
  | nothing => exact kept
  | rewrite spec => exact kept
  | record devices spec =>
    show ((disk.checkpoint.getD ∅).insert uid devices).lookup other = _
    rw [read, read, stored]
    exact lookup_insert_eq claims uid other devices
  | release =>
    show ((disk.checkpoint.getD ∅).erase uid).lookup other = _
    rw [read, read, stored]
    exact lookup_erase_eq claims uid other

theorem Effect.apply_file (name : String) :
    (effect.apply cdi uid disk).root.lookup name =
      if name = cdi.claimFile uid then effect.file (disk.root.lookup (cdi.claimFile uid))
      else disk.root.lookup name := by
  cases effect with
  | nothing =>
    show disk.root.lookup name = if _ then disk.root.lookup _ else _
    split
    · next same => rw [same]
    · rfl
  | rewrite spec => exact putSpec_lookup _ _ _ _
  | record devices spec => exact putSpec_lookup _ _ _ _
  | release => exact dropFile_lookup _ _ _

end Effects

/-! ### The calls as effects -/

/-- The spec a claim's file is written with, or why it is not. -/
def CDIHandler.specToWrite (cdi : CDIHandler) (claimUID : ClaimUID) (devices : PreparedDevices)
    (old : Option RootEntry) : Except String CdiSpec :=
  match cdi.claimSpec claimUID devices with
  | .error e => .error e
  | .ok spec =>
    match cdi.cache.validate spec with
    | .error e => .error e
    | .ok () =>
      match old with
      | some (.dir _) => .error ("rename " ++ cdi.claimFile claimUID ++ ": file exists")
      | _ => .ok spec

/-- What a `Prepare` returns and writes, from the claim's entry and its file alone. -/
def DeviceState.prepareEffect (rt rt' : Runtime) (s : DeviceState Config) (claim : ResourceClaim)
    (entry : Option PreparedDevices) (old : Option RootEntry) :
    Except String (List KubeletDevice) × Effect :=
  match entry.join with
  | some devices =>
    match s.validatePreparedDevices claim.uid (some devices) with
    | .error e => (.error e, .nothing)
    | .ok () =>
      match s.cdi.specToWrite claim.uid (some devices) old with
      | .error e => (.error ("unable to recreate CDI spec file for claim: " ++ e), .nothing)
      | .ok spec => (.ok (getDevices (some devices)), .rewrite spec)
  | none =>
    match s.prepareDevices rt rt' claim with
    | .error e => (.error ("prepare failed: " ++ e), .nothing)
    | .ok devices =>
      match s.cdi.specToWrite claim.uid devices old with
      | .error e => (.error ("unable to create CDI spec file for claim: " ++ e), .nothing)
      | .ok spec => (.ok (getDevices devices), .record devices spec)

/-- What an `Unprepare` returns and writes, from the claim's entry and its file alone. -/
def DeviceState.unprepareEffect (s : DeviceState Config) (claimUID : ClaimUID)
    (entry : Option PreparedDevices) (old : Option RootEntry) : Except String Unit × Effect :=
  if entry.join.isNone then (.ok (), .nothing)
  else
    match old with
    | some (.dir false) => (.error ("unable to delete CDI spec file for claim: remove " ++
        s.cdi.claimFile claimUID ++ ": directory not empty"), .nothing)
    | _ => (.ok (), .release)

theorem run_getCheckpoint {disk : Disk} {claims : PreparedClaims}
    (stored : disk.checkpoint = some claims) : Disk.run getCheckpoint disk = (.ok claims, disk) := by
  show disk.perform .readCheckpoint = _
  simp only [Disk.perform, stored]
  rfl

theorem run_writeSpec (file : String) (spec : CdiSpec) (disk : Disk) :
    Disk.run (Prog.perform (DiskOp.writeSpec file spec)) disk =
      match disk.root.lookup file with
      | some (.dir _) => (.error ("rename " ++ file ++ ": file exists"), disk)
      | _ => (.ok (), disk.putSpec file spec) := rfl

theorem run_createClaimSpecFile (cdi : CDIHandler) (claimUID : ClaimUID) (devices : PreparedDevices)
    (disk : Disk) : Disk.run (cdi.createClaimSpecFile claimUID devices) disk =
      match cdi.specToWrite claimUID devices (disk.root.lookup (cdi.claimFile claimUID)) with
      | .error e => (.error e, disk)
      | .ok spec => (.ok (), disk.putSpec (cdi.claimFile claimUID) spec) := by
  unfold CDIHandler.createClaimSpecFile CDIHandler.specToWrite
  cases cdi.claimSpec claimUID devices with
  | error e => rfl
  | ok spec =>
    unfold Cache.writeSpec
    dsimp only
    cases cdi.cache.validate spec with
    | error e => rfl
    | ok _ =>
      refine (run_writeSpec (cdi.claimFile claimUID) spec disk).trans ?_
      dsimp only
      cases disk.root.lookup (cdi.claimFile claimUID) with
      | none => rfl
      | some content =>
        cases content with
        | spec content => rfl
        | other content => rfl
        | dir empty => rfl

/-- The answer of a removal, by what was there. -/
theorem run_deleteClaimSpecFile (cdi : CDIHandler) (claimUID : ClaimUID) (disk : Disk) :
    Disk.run (cdi.deleteClaimSpecFile claimUID) disk =
      match disk.root.lookup (cdi.claimFile claimUID) with
      | some (.dir false) =>
        (.error ("remove " ++ cdi.claimFile claimUID ++ ": directory not empty"), disk)
      | _ => (.ok (), disk.dropFile (cdi.claimFile claimUID)) := rfl

/-- **A `Prepare` whose disk operations are done is its effect.** -/
theorem run_prepare (rt rt' : Runtime) (s : DeviceState Config) (claim : ResourceClaim) {disk : Disk}
    (present : disk.checkpoint.isSome = true) :
    Disk.run (s.prepare rt rt' claim) disk =
      ((s.prepareEffect rt rt' claim (disk.entry claim.uid)
          (disk.root.lookup (s.cdi.claimFile claim.uid))).1,
        (s.prepareEffect rt rt' claim (disk.entry claim.uid)
          (disk.root.lookup (s.cdi.claimFile claim.uid))).2.apply s.cdi claim.uid disk) := by
  obtain ⟨claims, stored⟩ := Option.isSome_iff_exists.mp present
  have entry : disk.entry claim.uid = claims.lookup claim.uid := by simp [Disk.entry, stored]
  unfold DeviceState.prepare DeviceState.prepareEffect
  rw [run_bind, run_getCheckpoint stored, entry]
  simp only
  cases (claims.lookup claim.uid).join with
  | some devices =>
    simp only
    unfold DeviceState.reprepare
    cases s.validatePreparedDevices claim.uid (some devices) with
    | error e => rfl
    | ok _ =>
      simp only
      rw [run_bind, run_createClaimSpecFile]
      cases s.cdi.specToWrite claim.uid (some devices) _ with
      | error e => rfl
      | ok spec => rfl
  | none =>
    simp only
    cases s.prepareDevices rt rt' claim with
    | error e => rfl
    | ok devices =>
      simp only
      unfold DeviceState.prepareFresh
      rw [run_bind, run_createClaimSpecFile]
      cases s.cdi.specToWrite claim.uid devices _ with
      | error e => rfl
      | ok spec =>
        simp only [Effect.apply, stored]
        rfl

/-- **An `Unprepare` whose disk operations are done is its effect.** -/
theorem run_unprepare (s : DeviceState Config) (claimUID : ClaimUID) {disk : Disk}
    (present : disk.checkpoint.isSome = true) :
    Disk.run (s.unprepare claimUID) disk =
      ((s.unprepareEffect claimUID (disk.entry claimUID)
          (disk.root.lookup (s.cdi.claimFile claimUID))).1,
        (s.unprepareEffect claimUID (disk.entry claimUID)
          (disk.root.lookup (s.cdi.claimFile claimUID))).2.apply s.cdi claimUID disk) := by
  obtain ⟨claims, stored⟩ := Option.isSome_iff_exists.mp present
  have entry : disk.entry claimUID = claims.lookup claimUID := by simp [Disk.entry, stored]
  unfold DeviceState.unprepare DeviceState.unprepareEffect
  rw [run_bind, run_getCheckpoint stored, entry]
  show Disk.run (s.unprepareFrom claimUID claims) disk = _
  unfold DeviceState.unprepareFrom
  split
  · rfl
  · rw [run_bind, run_deleteClaimSpecFile]
    have released : Effect.release.apply s.cdi claimUID disk =
        (disk.dropFile (s.cdi.claimFile claimUID)).putCheckpoint (claims.erase claimUID) := by
      simp only [Effect.apply, stored]
      rfl
    cases disk.root.lookup (s.cdi.claimFile claimUID) with
    | none => exact Prod.ext rfl released.symm
    | some content =>
      cases content with
      | spec content => exact Prod.ext rfl released.symm
      | other content => exact Prod.ext rfl released.symm
      | dir empty =>
        cases empty with
        | true => exact Prod.ext rfl released.symm
        | false => rfl

/-! ### Calls are local -/

/-- The places of a claim: its entry and its file. -/
def ownPlaces (cdi : CDIHandler) (uid : ClaimUID) : Place → Prop
  | .entry other => other = uid
  | .file name => name = cdi.claimFile uid

/-- Distinct claims share no place. -/
theorem ownPlaces_apart {α : Type} (cdi : CDIHandler) (uidOf : α → ClaimUID) {a b : α}
    (distinct : uidOf a ≠ uidOf b) : Apart (fun a => ownPlaces cdi (uidOf a)) a b := by
  intro place own other
  cases place with
  | entry uid => exact distinct ((show uid = uidOf a from own).symm.trans other)
  | file name =>
    exact distinct (cdi.claimFile_inj
      ((show name = cdi.claimFile (uidOf a) from own).symm.trans other))

theorem ownPlaces_pairwise {α : Type} (cdi : CDIHandler) (uidOf : α → ClaimUID) {calls : List α}
    (distinct : (calls.map uidOf).Nodup) :
    calls.Pairwise (Apart fun a => ownPlaces cdi (uidOf a)) :=
  (List.pairwise_map.mp distinct).imp fun distinct => ownPlaces_apart cdi uidOf distinct

/-- Calls that do what they do by an effect of their own claim's entry and file. -/
structure ByEffect {α β : Type} (cdi : CDIHandler) (uidOf : α → ClaimUID) (body : α → DiskProg β)
    (effect : α → Option PreparedDevices → Option RootEntry → β × Effect) : Prop where
  runs : ∀ (a : α) (disk : Disk), disk.checkpoint.isSome = true → Disk.run (body a) disk =
    ((effect a (disk.entry (uidOf a)) (disk.root.lookup (cdi.claimFile (uidOf a)))).1,
      (effect a (disk.entry (uidOf a)) (disk.root.lookup (cdi.claimFile (uidOf a)))).2.apply cdi
        (uidOf a) disk)

/-- **Where the checkpoint is there, such calls read and write their own claim's places alone.** -/
theorem ByEffect.isLocal {α β : Type} {cdi : CDIHandler} {uidOf : α → ClaimUID}
    {body : α → DiskProg β} {effect : α → Option PreparedDevices → Option RootEntry → β × Effect}
    (byEffect : ByEffect cdi uidOf body effect) :
    Local (fun disk : Disk => disk.checkpoint.isSome = true) Disk.at
      (fun a => ownPlaces cdi (uidOf a)) (fun a => Disk.run (body a)) := by
  have found : ∀ {a : α} {disk disk' : Disk}, Alike Disk.at (ownPlaces cdi (uidOf a)) disk disk' →
      disk.entry (uidOf a) = disk'.entry (uidOf a) ∧
        disk.root.lookup (cdi.claimFile (uidOf a)) = disk'.root.lookup (cdi.claimFile (uidOf a)) :=
    fun alike => ⟨Sum.inl.inj (alike (.entry _) rfl), Sum.inr.inj (alike (.file _) rfl)⟩
  refine ⟨fun a disk present => ?_, fun a disk disk' present present' alike => ?_,
    fun a disk disk' present present' alike => ?_, fun a disk place present other => ?_⟩
  · rw [byEffect.runs a disk present]
    exact Effect.apply_present _ _ _ present
  · obtain ⟨entry, file⟩ := found alike
    rw [byEffect.runs a disk present, byEffect.runs a disk' present', entry, file]
  · obtain ⟨entry, file⟩ := found alike
    rw [byEffect.runs a disk present, byEffect.runs a disk' present', entry, file]
    intro place own
    cases place with
    | entry uid =>
      cases (show uid = uidOf a from own)
      simp only [Disk.at, Effect.apply_entry _ _ _ present, Effect.apply_entry _ _ _ present', if_true,
        entry]
    | file name =>
      cases (show name = cdi.claimFile (uidOf a) from own)
      simp only [Disk.at, Effect.apply_file, if_true, file]
  · rw [byEffect.runs a disk present]
    cases place with
    | entry uid =>
      have distinct : uid ≠ uidOf a := other
      simp only [Disk.at, Effect.apply_entry _ _ _ present, if_neg distinct]
    | file name =>
      have distinct : name ≠ cdi.claimFile (uidOf a) := other
      simp only [Disk.at, Effect.apply_file, if_neg distinct]

/-- What is made of the results does not matter. -/
theorem ByEffect.report {α β γ : Type} {cdi : CDIHandler} {uidOf : α → ClaimUID}
    {body : α → DiskProg β} {effect : α → Option PreparedDevices → Option RootEntry → β × Effect}
    (byEffect : ByEffect cdi uidOf body effect) (report : α → β → γ) :
    ByEffect cdi uidOf (fun a => do return report a (← body a))
      fun a entry old => (report a (effect a entry old).1, (effect a entry old).2) := by
  refine ⟨fun a disk present => ?_⟩
  rw [run_bind, byEffect.runs a disk present]
  rfl

/-! ### Batches -/

section Batches

variable {α β : Type} {cdi : CDIHandler} {uidOf : α → ClaimUID} {body : α → DiskProg β}
  {effect : α → Option PreparedDevices → Option RootEntry → β × Effect} {disk : Disk}

/-- The results of a batch: each call's own, as if it had been alone. -/
theorem recordEach_results (byEffect : ByEffect cdi uidOf body effect) {batch : List α}
    (distinct : (batch.map uidOf).Nodup) (present : disk.checkpoint.isSome = true) :
    (Disk.run (recordEach uidOf body batch ∅) disk).1 =
      batch.foldl (fun result a => result.insert (uidOf a) (Disk.run (body a) disk).1) ∅ := by
  rw [run_recordEach, byEffect.isLocal.answers (ownPlaces_pairwise cdi uidOf distinct) present,
    List.zip_map', List.foldl_map]

/-- **In a batch every claim gets the result it would have got alone, in whatever order.** -/
theorem recordEach_independent (byEffect : ByEffect cdi uidOf body effect) {batch batch' : List α}
    (distinct : (batch.map uidOf).Nodup) (perm : batch.Perm batch')
    (present : disk.checkpoint.isSome = true) :
    (∀ a ∈ batch, (Disk.run (recordEach uidOf body batch ∅) disk).1.lookup (uidOf a) =
      some (Disk.run (body a) disk).1) ∧
    (∀ uid, (Disk.run (recordEach uidOf body batch ∅) disk).1.lookup uid =
      (Disk.run (recordEach uidOf body batch' ∅) disk).1.lookup uid) ∧
    (Disk.run (recordEach uidOf body batch ∅) disk).2.Same
      (Disk.run (recordEach uidOf body batch' ∅) disk).2 := by
  have distinct' : (batch'.map uidOf).Nodup := (perm.map uidOf).nodup_iff.mp distinct
  rw [recordEach_results byEffect distinct present, recordEach_results byEffect distinct' present]
  refine ⟨fun a member => (lookup_fill distinct).mpr ⟨a, member, rfl, rfl⟩,
    lookup_fill_perm distinct perm, ?_, fun place => ?_⟩
  · rw [run_recordEach, run_recordEach, byEffect.isLocal.keepsAll batch present,
      byEffect.isLocal.keepsAll batch' present]
  · rw [run_recordEach, run_recordEach]
    exact byEffect.isLocal.perm (ownPlaces_pairwise cdi uidOf distinct) perm present place

/-- **Two calls on distinct claims commute.** -/
theorem ByEffect.commute (byEffect : ByEffect cdi uidOf body effect) {a b : α}
    (distinct : uidOf a ≠ uidOf b) (present : disk.checkpoint.isSome = true) :
    (Disk.run (body a) (Disk.run (body b) disk).2).1 = (Disk.run (body a) disk).1 ∧
    (Disk.run (body b) (Disk.run (body a) disk).2).1 = (Disk.run (body b) disk).1 ∧
    (Disk.run (body b) (Disk.run (body a) disk).2).2.Same
      (Disk.run (body a) (Disk.run (body b) disk).2).2 := by
  have isLocal := byEffect.isLocal
  have apart : [a, b].Pairwise (Apart fun a => ownPlaces cdi (uidOf a)) :=
    List.pairwise_pair.mpr (ownPlaces_apart cdi uidOf distinct)
  have apart' : [b, a].Pairwise (Apart fun a => ownPlaces cdi (uidOf a)) :=
    List.pairwise_pair.mpr (ownPlaces_apart cdi uidOf distinct.symm)
  have first := isLocal.answers apart present
  have second := isLocal.answers apart' present
  simp only [runAll, List.map_cons, List.map_nil, List.cons.injEq, and_true, true_and] at first second
  refine ⟨second, first, ?_, fun place => ?_⟩
  · exact (isLocal.keepsAll [a, b] present).trans (isLocal.keepsAll [b, a] present).symm
  · exact isLocal.perm apart (List.Perm.swap b a []) present place

end Batches

/-! ### The driver's calls -/

/-- A call on one claim. -/
inductive Call
  | prepare (claim : ResourceClaim)
  | unprepare (uid : ClaimUID)

/-- The claim a call is for. -/
def Call.uid : Call → ClaimUID
  | .prepare claim => claim.uid
  | .unprepare uid => uid

/-- What a call returned. -/
abbrev CallResult := Except String (List KubeletDevice) ⊕ Except String Unit

section Calls

variable (order : Orders) (s : DeviceState Config)

/-- The program of a call. -/
def DeviceState.call : Call → DiskProg CallResult
  | .prepare claim => do return .inl (← s.prepare (order claim).1 (order claim).2 claim)
  | .unprepare uid => do return .inr (← s.unprepare uid)

theorem prepares_byEffect : ByEffect s.cdi ResourceClaim.uid
    (fun claim => s.prepare (order claim).1 (order claim).2 claim)
    (fun claim => s.prepareEffect (order claim).1 (order claim).2 claim) :=
  ⟨fun claim _ present => run_prepare _ _ s claim present⟩

theorem unprepares_byEffect : ByEffect s.cdi id s.unprepare s.unprepareEffect :=
  ⟨fun uid _ present => run_unprepare s uid present⟩

theorem calls_byEffect : ByEffect s.cdi Call.uid (s.call order) fun call entry old =>
    match call with
    | .prepare claim =>
      (.inl (s.prepareEffect (order claim).1 (order claim).2 claim entry old).1,
        (s.prepareEffect (order claim).1 (order claim).2 claim entry old).2)
    | .unprepare uid => (.inr (s.unprepareEffect uid entry old).1, (s.unprepareEffect uid entry old).2) := by
  refine ⟨fun call disk present => ?_⟩
  cases call with
  | prepare claim => exact ((prepares_byEffect order s).report fun _ => Sum.inl).runs claim disk present
  | unprepare uid => exact ((unprepares_byEffect s).report fun _ => Sum.inr).runs uid disk present

/-- A batch of `Unprepare` calls, likewise. -/
theorem unprepareResourceClaims_independent {batch batch' : List ClaimUID} (distinct : batch.Nodup)
    (perm : batch.Perm batch') {disk : Disk} (present : disk.checkpoint.isSome = true) :
    (∀ uid ∈ batch, (Disk.run (s.unprepareResourceClaims batch) disk).1.lookup uid =
      some (unprepareResult uid (Disk.run (s.unprepare uid) disk).1)) ∧
    (∀ uid, (Disk.run (s.unprepareResourceClaims batch) disk).1.lookup uid =
      (Disk.run (s.unprepareResourceClaims batch') disk).1.lookup uid) ∧
    (Disk.run (s.unprepareResourceClaims batch) disk).2.Same
      (Disk.run (s.unprepareResourceClaims batch') disk).2 := by
  obtain ⟨alone, results, disks⟩ := recordEach_independent
    ((unprepares_byEffect s).report unprepareResult) (by rwa [List.map_id]) perm present
  refine ⟨fun uid member => (alone uid member).trans ?_, results, disks⟩
  rw [run_bind]
  rfl

end Calls

variable {config : DriverConfig Config} {mayFail : DiskOp → Bool}
  {deepEqual : DriverResources → DriverResources → Bool}

/-- A call leaves a checkpoint where there was one. -/
theorem PrepareEnds.present {rt rt' : Runtime} {s : DeviceState Config} {claim : ResourceClaim}
    {disk disk' : Disk} {result : Option (Except String (List KubeletDevice))}
    (ends : PrepareEnds rt rt' s claim disk disk' result) (before : disk.checkpoint.isSome = true) :
    disk'.checkpoint.isSome = true := by
  cases ends with
  | untouched => exact before
  | rewritten => exact before
  | halfway => exact before
  | prepared => rfl

theorem UnprepareEnds.present {s : DeviceState Config} {uid : ClaimUID} {disk disk' : Disk}
    {failed : Bool} {result : Option (Except String Unit)}
    (ends : UnprepareEnds s uid disk failed disk' result) (before : disk.checkpoint.isSome = true) :
    disk'.checkpoint.isSome = true := by
  cases ends with
  | untouched => exact before
  | replaced => rfl
  | nothing => exact before
  | halfway => exact before
  | unprepared => rfl

/-- Where a driver is running there is a checkpoint. -/
def System.Present (sys : System config) : Prop :=
  sys.running.isSome = true → sys.disk.checkpoint.isSome = true

theorem Step.present {sys sys' : System config} {event : Event}
    (step : Step config mayFail deepEqual sys event sys') (before : sys.Present) : sys'.Present := by
  have changes := step.changes
  cases step with
  | prepare rt rt' handler driver claim outcomes ran =>
    intro _
    cases changes with
    | prepare _ _ _ _ _ _ _ ends => exact ends.present (before rfl)
  | unprepare driver uid outcomes ran =>
    intro _
    cases changes with
    | unprepare _ _ _ _ _ _ ends => exact ends.present (before rfl)
  | setResources driver driverResources => exact fun _ => before rfl
  | @restart running driverResources outcomes disk disk' result ran =>
    intro started
    cases changes with
    | restart _ _ _ _ settled =>
      have ok : succeeded result = true := by
        by_contra failed
        rw [afterStartup, if_neg failed] at started
        cases started
      exact Option.isSome_iff_exists.mpr ⟨_, (settled ok).1⟩

/-- **Claims are independent.** In every state a run reaches with a driver running, where every disk
operation is done: each claim of a batch gets the result its `Prepare` would have returned alone,
any order of the batch gives the same results, checkpoint and files, and calls on distinct claims
commute. -/
theorem claims_independent (config : DriverConfig Config) (mayFail : DiskOp → Bool)
    (deepEqual : DriverResources → DriverResources → Bool) {disk : Disk} {events : List Event}
    {sys : System config} {driver : Instance config}
    (run : Run (Step config mayFail deepEqual) ⟨disk, none⟩ events sys)
    (running : sys.running = some driver) (handler : ConfigHandler Config) (order : Orders) :
    (∀ batch batch' : List ResourceClaim, (batch.map ResourceClaim.uid).Nodup → batch.Perm batch' →
      let s := (driver.withHandler handler).state
      let ran := Disk.run (s.prepareResourceClaims order batch) sys.disk
      let ran' := Disk.run (s.prepareResourceClaims order batch') sys.disk
      (∀ claim ∈ batch, ran.1.lookup claim.uid = some (prepareResult claim.uid
        (Disk.run (s.prepare (order claim).1 (order claim).2 claim) sys.disk).1)) ∧
      (∀ uid, ran.1.lookup uid = ran'.1.lookup uid) ∧ ran.2.Same ran'.2) ∧
    ∀ a b : Call, a.uid ≠ b.uid →
      let call := (driver.withHandler handler).state.call order
      (Disk.run (call a) (Disk.run (call b) sys.disk).2).1 = (Disk.run (call a) sys.disk).1 ∧
      (Disk.run (call b) (Disk.run (call a) sys.disk).2).1 = (Disk.run (call b) sys.disk).1 ∧
      (Disk.run (call b) (Disk.run (call a) sys.disk).2).2.Same
        (Disk.run (call a) (Disk.run (call b) sys.disk).2).2 := by
  have reached : sys.Present :=
    run.invariant (fun _ _ _ before step => step.present before) fun started => by cases started
  have present : sys.disk.checkpoint.isSome = true := reached (by rw [running]; rfl)
  refine ⟨fun batch batch' distinct perm => ?_, fun a b distinct => ?_⟩
  · have reported := (prepares_byEffect order (driver.withHandler handler).state).report
      fun claim => prepareResult claim.uid
    obtain ⟨alone, results, disks⟩ := recordEach_independent reported distinct perm present
    refine ⟨fun claim member => (alone claim member).trans ?_, results, disks⟩
    rw [run_bind]
    rfl
  · exact (calls_byEffect order _).commute distinct present

/-- The disk after a first start with two chips. -/
def firstStart : Disk :=
  (Prog.exec (Disk.act noneFails) (newDeviceState sampleConfig (sampleResources ["tt-0", "tt-1"]))
    (List.replicate 9 .done) { checkpoint := none, root := ∅ }).1

/-- A batch of two after a first start: one claim fails, the other gets its device all the same. -/
theorem batch_of_two :
    ∃ (sys : System sampleConfig) (driver : Instance sampleConfig) (order : Orders),
      Run (Step sampleConfig noneFails sampleEqual) ⟨{ checkpoint := none, root := ∅ }, none⟩
        [.restart (sampleResources ["tt-0", "tt-1"]) true] sys ∧ sys.running = some driver ∧
      (Disk.run ((driver.withHandler sampleConfig.configHandler).state.prepareResourceClaims order
        [sampleClaim uidB ["tt-7"], sampleClaim uidA ["tt-0"]]) sys.disk).1.lookup uidA =
        some { devices := [pluginDevice (samplePrepared uidA "tt-0").device], err := none } := by
  have started : Step sampleConfig noneFails sampleEqual ⟨{ checkpoint := none, root := ∅ }, none⟩
      (.restart (sampleResources ["tt-0", "tt-1"]) true)
      ⟨firstStart, some (.started sampleConfig (sampleResources ["tt-0", "tt-1"]))⟩ :=
    Step.of_restart none _ (List.replicate 9 .done) _ (by decide +kernel)
  have run : Run (Step sampleConfig noneFails sampleEqual) ⟨{ checkpoint := none, root := ∅ }, none⟩
      [.restart (sampleResources ["tt-0", "tt-1"]) true]
      ⟨firstStart, some (.started sampleConfig (sampleResources ["tt-0", "tt-1"]))⟩ :=
    .snoc (.nil _) started
  obtain ⟨alone, -, -⟩ := (claims_independent sampleConfig noneFails sampleEqual run rfl
    sampleConfig.configHandler fun _ => (Runtime.plain, Runtime.plain)).1
    [sampleClaim uidB ["tt-7"], sampleClaim uidA ["tt-0"]] _ (by decide) (List.Perm.refl _)
  refine ⟨_, _, _, run, rfl, (alone (sampleClaim uidA ["tt-0"]) (by simp)).trans ?_⟩
  decide +kernel

end DraDriver.Plugin
