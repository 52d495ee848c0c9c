/-
**What of a claim reaches a prepared device.**

A claim may hold results and configs of several drivers. `prepareDevices` walks both lists and has
to leave out what is not its own.

* `prepareDevices_own_part` — it is a function of the driver's own results and configs, but for the
  admin flag, which every device gets from the whole claim.
* `prepare_alike` — so `Prepare` answers two claims that agree on those alike, whatever else they
  hold and whatever fails.
* **`prepare_isolation`** — that, and exactly when each device's admin flag is that of its own
  result.
-/

import DraDriver.Plugin.Ends
import DraDriver.Plugin.Prepared

namespace DraDriver.Plugin

open DraDriver.Base DraDriver.Profiles DraDriver.Tenstorrent

variable {Config : Type}

/-! ### A driver's own part of an allocation -/

/-- The configs of an allocation that are addressed to this driver. -/
def ownConfigs (driverName : String) (configs : List DeviceAllocationConfiguration) :
    List DeviceAllocationConfiguration :=
  configs.filter fun config => config.opaqueConfig.map OpaqueConfiguration.driver = some driverName

/-- An opaque config of a source the API knows. -/
structure DeviceAllocationConfiguration.WellFormed (config : DeviceAllocationConfiguration) : Prop where
  holds : config.opaqueConfig.isSome = true
  source : config.source = .fromClass ∨ config.source = .fromClaim

/-- The allocation as a driver should see it. -/
def Allocation.own (driverName : String) (allocation : Allocation) : Allocation :=
  { config := ownConfigs driverName allocation.config
    results := ownResults driverName allocation.results }

/-- The devices with the flag of the whole claim. -/
def flagged (hasAdminAccess : Bool) (devices : PreparedDevices) : PreparedDevices :=
  devices.map fun devices => devices.map fun device => { device with adminAccess := hasAdminAccess }

/-! ### Configs -/

theorem foldl_split {α : Type} (left : α → Bool) : ∀ (l : List α) (split : List α × List α),
    l.foldl (fun split a => if left a then (split.1 ++ [a], split.2) else (split.1, split.2 ++ [a]))
      split = (split.1 ++ l.filter left, split.2 ++ l.filter fun a => !left a)
  | [], split => by simp
  | a :: l, split => by
    rw [List.foldl_cons, foldl_split left l]
    cases side : left a <;> simp [side]

/-- Class configs first, then claim configs, each in their order. -/
theorem splitConfigs_eq {configs : List DeviceAllocationConfiguration}
    (sources : ∀ config ∈ configs, config.source = .fromClass ∨ config.source = .fromClaim) :
    splitConfigs configs = .ok (configs.filter fun config => config.source = .fromClass,
      configs.filter fun config => !decide (config.source = .fromClass)) := by
  unfold splitConfigs
  refine (foldlM_eq_foldl _ fun config member split => ?_).trans
    (congrArg Except.ok (foldl_split (fun config => decide (config.source = .fromClass)) configs ([], [])))
  rcases sources config member with source | source <;> simp [source]

theorem splitConfigs_wellFormed {configs : List DeviceAllocationConfiguration}
    (wellFormed : ∀ config ∈ configs, config.WellFormed) :
    splitConfigs configs = .ok (configs.filter fun config => config.source = .fromClass,
      configs.filter fun config => !decide (config.source = .fromClass)) :=
  splitConfigs_eq fun config member => (wellFormed config member).source

/-- A split that succeeds has seen no other source. -/
theorem splitConfigs_sources {configs : List DeviceAllocationConfiguration}
    {split : List DeviceAllocationConfiguration × List DeviceAllocationConfiguration}
    (ran : splitConfigs configs = .ok split) :
    ∀ config ∈ configs, config.source = .fromClass ∨ config.source = .fromClaim := by
  intro config member
  obtain ⟨before, after, turn⟩ := foldlM_ok_turn ran config member
  cases source : config.source with
  | fromClass => exact Or.inl rfl
  | fromClaim => exact Or.inr rfl
  | invalid text =>
    simp only [source] at turn
    cases turn

/-- **The decoded configs come from the driver's own alone.** -/
theorem getOpaqueDeviceConfigs_own (decoder : String → Except String Config) (driverName : String)
    {configs : List DeviceAllocationConfiguration}
    (wellFormed : ∀ config ∈ configs, config.WellFormed) :
    getOpaqueDeviceConfigs decoder driverName configs =
      getOpaqueDeviceConfigs decoder driverName (ownConfigs driverName configs) := by
  have wellFormed' : ∀ config ∈ ownConfigs driverName configs, config.WellFormed :=
    fun config member => wellFormed config (List.mem_of_mem_filter member)
  unfold getOpaqueDeviceConfigs
  rw [splitConfigs_wellFormed wellFormed, splitConfigs_wellFormed wellFormed']
  refine (foldlM_filter
    (fun config => config.opaqueConfig.map OpaqueConfiguration.driver = some driverName) []
    fun config member foreign decoded => ?_).trans ?_
  · have listed : config ∈ configs := by
      rcases List.mem_append.mp member with left | right
      · exact List.mem_of_mem_filter left
      · exact List.mem_of_mem_filter right
    obtain ⟨content, held⟩ := Option.isSome_iff_exists.mp (wellFormed config listed).holds
    rw [held, Option.map_some, decide_eq_false_iff_not, Option.some.injEq] at foreign
    unfold decodeStep
    simp only [held]
    exact if_pos foreign
  · have commuted := fun left : DeviceAllocationConfiguration → Bool => List.filter_comm
      (fun config => config.opaqueConfig.map OpaqueConfiguration.driver = some driverName) left configs
    rw [List.filter_append, commuted, commuted]
    rfl

/-! ### Devices -/

theorem appended_flagged (hasAdminAccess : Bool) (devices : List PreparedDevice) :
    flagged hasAdminAccess (appended devices) =
      appended (devices.map fun device => { device with adminAccess := hasAdminAccess }) := by
  unfold appended flagged
  rw [List.length_map]
  split <;> rfl

/-- **What is prepared is a function of the driver's own results and configs, but for the flag.** -/
theorem prepareDevices_own_part (rt rt' : Runtime) (s : DeviceState Config) (uid : ClaimUID)
    {allocation : Allocation} (wellFormed : ∀ config ∈ allocation.config, config.WellFormed) :
    s.prepareDevices rt rt' ⟨uid, some allocation⟩ =
      (s.prepareDevices rt rt' ⟨uid, some (allocation.own s.driverName)⟩).map
        (flagged (checkAdminAccess allocation)) := by
  have sorted : ∀ configs : List (OpaqueDeviceConfig Config),
      allocation.results.foldlM (s.sortResult configs) ∅ =
        (ownResults s.driverName allocation.results).foldlM (s.sortResult configs) ∅ := by
    intro configs
    refine foldlM_filter _ _ fun result _ foreign table => ?_
    exact if_pos (of_decide_eq_false foreign)
  rw [prepareDevices_eq, prepareDevices_eq]
  unfold Allocation.own
  simp only [getOpaqueDeviceConfigs_own s.configDecoder s.driverName wellFormed, sorted]
  cases getOpaqueDeviceConfigs s.configDecoder s.driverName
      (ownConfigs s.driverName allocation.config) with
  | error e => rfl
  | ok configs =>
    simp only
    cases (ownResults s.driverName allocation.results).foldlM (s.sortResult (withNilConfig configs)) ∅ with
    | error e => rfl
    | ok table =>
      show (List.foldlM _ _ (rt.range table) >>= _) = Except.map _ (List.foldlM _ _ (rt.range table) >>= _)
      cases (rt.range table).foldlM (s.mergeAnswer (withNilConfig configs)) ∅ with
      | error e => rfl
      | ok edits =>
        refine congrArg Except.ok (Eq.trans ?_ (appended_flagged _ _).symm)
        rw [List.map_flatMap]
        simp only [List.map_map]
        rfl

/-! ### The spec of a claim -/

/-- An environment entry without the value of the admin variable. -/
def maskAdmin (entry : String) : String :=
  if entry = "DRA_ADMIN_ACCESS=true" then "DRA_ADMIN_ACCESS=false" else entry

/-- A spec without the values of the admin variable. -/
def CdiSpec.masked (spec : CdiSpec) : CdiSpec :=
  { spec with devices := spec.devices.map fun device =>
      { device with containerEdits :=
          { device.containerEdits with env := device.containerEdits.env.map maskAdmin } } }

/-- The checks of the CDI library do not look at the value of the admin variable. -/
def Cache.IgnoresAdmin (cache : Cache) : Prop :=
  ∀ spec spec' : CdiSpec, spec.masked = spec'.masked →
    cache.minimumRequiredVersion spec = cache.minimumRequiredVersion spec' ∧
      cache.validate spec = cache.validate spec'

@[simp] theorem getDevices_flagged (hasAdminAccess : Bool) (devices : PreparedDevices) :
    getDevices (flagged hasAdminAccess devices) = getDevices devices := by
  cases devices with
  | none => rfl
  | some devices => exact List.map_map

/-- The spec of a claim with a given version. -/
def CDIHandler.specAt (cdi : CDIHandler) (uid : ClaimUID) (devices : PreparedDevices)
    (version : String) : CdiSpec :=
  { version := version
    kind := cdi.kind
    devices := (rangeDevices devices).map (cdi.claimDevice uid) }

/-- A spec whose version is refused is not written. -/
theorem CDIHandler.createClaimSpecFile_refused (cdi : CDIHandler) {uid : ClaimUID}
    {devices : PreparedDevices} {e : String}
    (required : cdi.cache.minimumRequiredVersion (cdi.specAt uid devices "") = .error e) :
    cdi.createClaimSpecFile uid devices =
      .ret (.error ("failed to get minimum required CDI spec version: " ++ e)) := by
  have derived : cdi.claimSpec uid devices =
      .error ("failed to get minimum required CDI spec version: " ++ e) := by
    show cdi.versioned (cdi.specAt uid devices "") = _
    unfold CDIHandler.versioned
    rw [required]
  unfold CDIHandler.createClaimSpecFile
  rw [derived]

theorem CDIHandler.createClaimSpecFile_versioned (cdi : CDIHandler) {uid : ClaimUID}
    {devices : PreparedDevices} {version : String}
    (required : cdi.cache.minimumRequiredVersion (cdi.specAt uid devices "") = .ok version) :
    cdi.createClaimSpecFile uid devices =
      cdi.cache.writeSpec (cdi.specAt uid devices version) (cdi.claimSpecName uid.text) := by
  have derived : cdi.claimSpec uid devices = .ok (cdi.specAt uid devices version) := by
    show cdi.versioned (cdi.specAt uid devices "") = _
    unfold CDIHandler.versioned
    rw [required]
    rfl
  unfold CDIHandler.createClaimSpecFile
  rw [derived]

/-- The flag shows in a spec only as the value of the variable. -/
theorem masked_specAt (cdi : CDIHandler) (uid : ClaimUID) (flag flag' : Bool)
    (devices : PreparedDevices) (version : String) :
    (cdi.specAt uid (flagged flag devices) version).masked =
      (cdi.specAt uid (flagged flag' devices) version).masked := by
  have variable_ : ∀ flag : Bool, maskAdmin ("DRA_ADMIN_ACCESS=" ++ toString flag) =
      "DRA_ADMIN_ACCESS=false" := by decide
  cases devices with
  | none => rfl
  | some devices =>
    unfold CdiSpec.masked CDIHandler.specAt
    simp only [CdiSpec.mk.injEq, true_and, flagged, rangeDevices, Option.map_some, Option.getD_some,
      List.map_map]
    refine List.map_congr_left fun device _ => ?_
    cases edits : device.containerEdits with
    | none => simp [CDIHandler.claimDevice, ContainerEdits.append, variable_, edits]
    | some more => simp [CDIHandler.claimDevice, ContainerEdits.append, variable_, edits]

/-- The spec file of a claim is written or refused alike, whatever the flag. -/
theorem createClaimSpecFile_flagged {cdi : CDIHandler} (ignores : cdi.cache.IgnoresAdmin)
    (uid : ClaimUID) (flag flag' : Bool) (devices : PreparedDevices) :
    (∃ e, cdi.createClaimSpecFile uid (flagged flag devices) = .ret (.error e) ∧
        cdi.createClaimSpecFile uid (flagged flag' devices) = .ret (.error e)) ∨
      ∃ spec spec', cdi.createClaimSpecFile uid (flagged flag devices) =
          Prog.perform (DiskOp.writeSpec (cdi.claimFile uid) spec) ∧
        cdi.createClaimSpecFile uid (flagged flag' devices) =
          Prog.perform (DiskOp.writeSpec (cdi.claimFile uid) spec') := by
  have versions := (ignores _ _ (masked_specAt cdi uid flag flag' devices "")).1
  cases required : cdi.cache.minimumRequiredVersion (cdi.specAt uid (flagged flag devices) "") with
  | error e =>
    have refused := versions.symm.trans required
    exact Or.inl ⟨_, cdi.createClaimSpecFile_refused required, cdi.createClaimSpecFile_refused refused⟩
  | ok version =>
    have alike := versions.symm.trans required
    have valid := (ignores _ _ (masked_specAt cdi uid flag flag' devices version)).2
    rw [cdi.createClaimSpecFile_versioned required, cdi.createClaimSpecFile_versioned alike]
    unfold Cache.writeSpec
    rw [← valid]
    cases cdi.cache.validate (cdi.specAt uid (flagged flag devices) version) with
    | error e => exact Or.inl ⟨_, rfl, rfl⟩
    | ok _ => exact Or.inr ⟨_, _, rfl, rfl⟩

/-! ### Runs -/

/-- Writing a spec succeeds or fails alike, whatever is in it. -/
theorem act_writeSpec_answer (disk : Disk) (q : Outcome) (file : String) (spec spec' : CdiSpec) :
    ((disk.act anyMayFail (.writeSpec file spec) q).1 : Except String Unit) =
      (disk.act anyMayFail (.writeSpec file spec') q).1 := by
  cases q with
  | failed text => rfl
  | done =>
    show (disk.perform (.writeSpec file spec)).1 = (disk.perform (.writeSpec file spec')).1
    rw [perform_writeSpec, perform_writeSpec]
    split <;> rfl

/-- What a run that returns at once returns. -/
theorem exec_ret {α : Type} {a a' : α} (same : a = a') (outcomes : List Outcome)
    (disk disk' : Disk) :
    (Prog.exec (Disk.act anyMayFail) (.ret a : DiskProg α) outcomes disk).2 =
      (Prog.exec (Disk.act anyMayFail) (.ret a') outcomes disk').2 := by
  subst same
  cases outcomes <;> rfl

/-- The fresh branch once the library has answered. -/
def afterSpec (uid : ClaimUID) (claims : PreparedClaims) (devices : PreparedDevices) :
    Except String Unit → DiskProg (Except String (List KubeletDevice))
  | .error e => return .error ("unable to create CDI spec file for claim: " ++ e)
  | .ok () => do
    match ← createCheckpoint (claims.insert uid devices) with
    | .error e => return .error ("unable to sync to checkpoint: " ++ e)
    | .ok () => return .ok (getDevices devices)

theorem prepareFresh_eq (s : DeviceState Config) (uid : ClaimUID) (claims : PreparedClaims)
    (devices : PreparedDevices) : s.prepareFresh uid claims devices =
      s.cdi.createClaimSpecFile uid devices >>= afterSpec uid claims devices := by
  unfold DeviceState.prepareFresh
  refine congrArg (s.cdi.createClaimSpecFile uid devices >>= ·) (funext fun answer => ?_)
  cases answer <;> rfl

/-- The fresh branch answers alike, whatever the flag. -/
theorem prepareFresh_flagged {s : DeviceState Config} (ignores : s.cdi.cache.IgnoresAdmin)
    (uid : ClaimUID) (claims : PreparedClaims) (flag flag' : Bool) (devices : PreparedDevices)
    (outcomes : List Outcome) (disk : Disk) :
    (Prog.exec (Disk.act anyMayFail) (s.prepareFresh uid claims (flagged flag devices)) outcomes disk).2 =
      (Prog.exec (Disk.act anyMayFail) (s.prepareFresh uid claims (flagged flag' devices)) outcomes
        disk).2 := by
  -- once the spec is written only the checkpoint is left, and it answers by the outcome alone
  have rest : ∀ (answer : Except String Unit) (outcomes : List Outcome) (flag flag' : Bool)
      (disk disk' : Disk),
      (Prog.exec (Disk.act anyMayFail) (afterSpec uid claims (flagged flag devices) answer) outcomes
        disk).2 =
      (Prog.exec (Disk.act anyMayFail) (afterSpec uid claims (flagged flag' devices) answer) outcomes
        disk').2 := by
    intro answer outcomes flag flag' disk disk'
    cases answer with
    | error e => exact exec_ret rfl outcomes disk disk'
    | ok _ =>
      cases outcomes with
      | nil => rfl
      | cons q outcomes =>
        have returned : getDevices (flagged flag devices) = getDevices (flagged flag' devices) := by simp
        cases q with
        | failed text => exact exec_ret rfl outcomes disk disk'
        | done => exact exec_ret (congrArg Except.ok returned) outcomes _ _
  rw [prepareFresh_eq, prepareFresh_eq]
  rcases createClaimSpecFile_flagged ignores uid flag flag' devices with
    ⟨e, first, second⟩ | ⟨spec, spec', first, second⟩
  · rw [first, second]
    exact rest (.error e) outcomes flag flag' disk disk
  · rw [first, second]
    cases outcomes with
    | nil => rfl
    | cons q outcomes =>
      have answers := act_writeSpec_answer disk q (s.cdi.claimFile uid) spec spec'
      refine (rest _ outcomes flag flag' _
        (disk.act anyMayFail (.writeSpec (s.cdi.claimFile uid) spec') q).2).trans ?_
      exact congrArg (fun answer => (Prog.exec (Disk.act anyMayFail)
        (afterSpec uid claims (flagged flag' devices) answer) outcomes _).2) answers

/-! ### Two claims -/

/-- Two allocations that agree on what is this driver's. -/
structure Alike (driverName : String) (allocation allocation' : Allocation) : Prop where
  results : ownResults driverName allocation.results = ownResults driverName allocation'.results
  configs : ownConfigs driverName allocation.config = ownConfigs driverName allocation'.config
  wellFormed : ∀ config ∈ allocation.config, config.WellFormed
  wellFormed' : ∀ config ∈ allocation'.config, config.WellFormed

/-- `Prepare` once the checkpoint is read, given what there is to prepare. -/
def DeviceState.afterRead (s : DeviceState Config) (uid : ClaimUID)
    (ready : Except String PreparedDevices) :
    Except String PreparedClaims → DiskProg (Except String (List KubeletDevice))
  | .error e => return .error ("unable to sync from checkpoint: " ++ e)
  | .ok preparedClaims =>
    match (preparedClaims.lookup uid).join with
    | some devices => s.reprepare uid (some devices)
    | none =>
      match ready with
      | .error e => return .error ("prepare failed: " ++ e)
      | .ok devices => s.prepareFresh uid preparedClaims devices

theorem prepare_eq (rt rt' : Runtime) (s : DeviceState Config) (claim : ResourceClaim) :
    s.prepare rt rt' claim =
      getCheckpoint >>= s.afterRead claim.uid (s.prepareDevices rt rt' claim) := by
  unfold DeviceState.prepare
  refine congrArg (getCheckpoint >>= ·) (funext fun answer => ?_)
  cases answer <;> rfl

/-- Runs that answer alike after the read answer alike. -/
theorem exec_prepare_congr {rt rt' later later' : Runtime} {s : DeviceState Config}
    {claim claim' : ResourceClaim} {P : Option (Except String (List KubeletDevice)) →
      Option (Except String (List KubeletDevice)) → Prop} (crashed : P none none)
    (rest : ∀ answer outcomes disk,
      P (Prog.exec (Disk.act anyMayFail) (s.afterRead claim.uid (s.prepareDevices rt rt' claim) answer)
          outcomes disk).2
        (Prog.exec (Disk.act anyMayFail)
          (s.afterRead claim'.uid (s.prepareDevices later later' claim') answer) outcomes disk).2)
    (outcomes : List Outcome) (disk : Disk) :
    P (Prog.exec (Disk.act anyMayFail) (s.prepare rt rt' claim) outcomes disk).2
      (Prog.exec (Disk.act anyMayFail) (s.prepare later later' claim') outcomes disk).2 := by
  rw [prepare_eq, prepare_eq]
  cases outcomes with
  | nil => exact crashed
  | cons q outcomes => exact rest _ outcomes _

/-- **`Prepare` answers two such claims alike**, under the same outcomes and map orders. -/
theorem prepare_alike {s : DeviceState Config} (ignores : s.cdi.cache.IgnoresAdmin)
    {allocation allocation' : Allocation} (alike : Alike s.driverName allocation allocation')
    (rt rt' : Runtime) (uid : ClaimUID) (outcomes : List Outcome) (disk : Disk) :
    (Prog.exec (Disk.act anyMayFail) (s.prepare rt rt' ⟨uid, some allocation⟩) outcomes disk).2 =
      (Prog.exec (Disk.act anyMayFail) (s.prepare rt rt' ⟨uid, some allocation'⟩) outcomes disk).2 := by
  have sameOwn : allocation.own s.driverName = allocation'.own s.driverName := by
    unfold Allocation.own
    rw [alike.results, alike.configs]
  refine exec_prepare_congr (P := fun first second => first = second) rfl
    (fun answer outcomes disk => ?_) outcomes disk
  rw [prepareDevices_own_part rt rt' s uid alike.wellFormed,
    prepareDevices_own_part rt rt' s uid alike.wellFormed', sameOwn]
  cases answer with
  | error e => rfl
  | ok claims =>
    unfold DeviceState.afterRead
    simp only
    cases (claims.lookup uid).join with
    | some devices => rfl
    | none =>
      cases s.prepareDevices rt rt' ⟨uid, some (allocation'.own s.driverName)⟩ with
      | error e => rfl
      | ok devices => exact prepareFresh_flagged ignores uid claims _ _ devices outcomes disk

/-- Both calls return the same, or both fail. -/
def SameOrFail (first second : Option (Except String (List KubeletDevice))) : Prop :=
  first = second ∨ ∃ e e', first = some (.error e) ∧ second = some (.error e')

/-- With the profile the order of the maps does not matter either. -/
theorem prepare_runtimes {s : DeviceState Config} {p : Profile} (anchored : p.Anchored)
    (rt rt' later later' : Runtime) (claim : ResourceClaim) (outcomes : List Outcome) (disk : Disk) :
    SameOrFail
      (Prog.exec (Disk.act anyMayFail) ((s.withProfile p).prepare rt rt' claim) outcomes disk).2
      (Prog.exec (Disk.act anyMayFail) ((s.withProfile p).prepare later later' claim) outcomes
        disk).2 := by
  have same : ∀ devices, (s.withProfile p).prepareDevices rt rt' claim = .ok devices ↔
      (s.withProfile p).prepareDevices later later' claim = .ok devices := fun devices => by
    rw [prepareDevices_ok_iff rt rt' s anchored, prepareDevices_ok_iff later later' s anchored]
  refine exec_prepare_congr (P := SameOrFail) (Or.inl rfl) (fun answer outcomes disk => ?_) outcomes disk
  cases first : (s.withProfile p).prepareDevices rt rt' claim with
  | ok devices =>
    rw [(same devices).mp first]
    exact Or.inl rfl
  | error e =>
    cases second : (s.withProfile p).prepareDevices later later' claim with
    | ok devices => exact absurd (first.symm.trans ((same devices).mpr second)) (by simp)
    | error e' =>
      cases answer with
      | error e => exact Or.inl rfl
      | ok claims =>
        unfold DeviceState.afterRead
        simp only
        cases (claims.lookup claim.uid).join with
        | some devices => exact Or.inl rfl
        | none =>
          cases outcomes with
          | nil => exact Or.inl rfl
          | cons q outcomes => exact Or.inr ⟨_, _, rfl, rfl⟩

/-! ### The admin flag -/

/-- **Every device carries the flag of its own result**: the devices are the driver's results, each
with its request, pool and device, flagged exactly where the result has admin access. -/
def OwnFlags (driverName : String) (allocation : Allocation) (devices : PreparedDevices) : Prop :=
  ∃ ordered : List DeviceRequestAllocationResult,
    ordered.Perm (ownResults driverName allocation.results) ∧
    List.Forall₂ (fun (result : DeviceRequestAllocationResult) (device : PreparedDevice) =>
      device.device.requestNames = [result.request] ∧ device.device.poolName = result.pool ∧
        device.device.deviceName = result.device ∧
        (device.adminAccess = true ↔ result.adminAccess = some true)) ordered (rangeDevices devices)

/-- The flag is the claim's, so it is every result's own when none has admin access, or all of the
driver's. -/
theorem ownFlags_iff {rt rt' : Runtime} {s : DeviceState Config} {claim : ResourceClaim}
    {allocation : Allocation} (allocated : claim.allocation = some allocation)
    {devices : PreparedDevices} (prepared : s.prepareDevices rt rt' claim = .ok devices) :
    OwnFlags s.driverName allocation devices ↔
      (∀ result ∈ allocation.results, result.adminAccess ≠ some true) ∨
        ∀ result ∈ ownResults s.driverName allocation.results, result.adminAccess = some true := by
  obtain ⟨allocation', ordered, edits, allocated', visited, _, listed⟩ := prepareDevices_ordered prepared
  cases Option.some.inj (allocated.symm.trans allocated')
  have granted : checkAdminAccess allocation = true ↔
      ∃ result ∈ allocation.results, result.adminAccess = some true := by
    simp [checkAdminAccess]
  unfold OwnFlags
  rw [listed]
  constructor
  · rintro ⟨others, perm, flags⟩
    by_cases any : checkAdminAccess allocation = true
    · refine Or.inr fun result own => ?_
      obtain ⟨device, member, _, _, _, same⟩ :=
        forall₂_exists_left flags.flip (perm.mem_iff.mpr own)
      obtain ⟨_, _, rfl⟩ := List.mem_map.mp member
      exact same.mp any
    · exact Or.inl fun result member admin => any (granted.mpr ⟨result, member, admin⟩)
  · intro uniform
    refine ⟨ordered, visited, List.forall₂_map_right_iff.mpr (List.forall₂_same.mpr ?_)⟩
    intro result member
    refine ⟨rfl, rfl, rfl, granted.trans ?_⟩
    have own := visited.mem_iff.mp member
    have here : result ∈ allocation.results := List.mem_of_mem_filter own
    rcases uniform with none | all
    · exact iff_of_false (fun ⟨other, inside, admin⟩ => none other inside admin) (none result here)
    · exact iff_of_true ⟨result, here, all result own⟩ (all result own)

/-- **The environment of a prepared device**: the claim, the device's flag, and what its own edits
add. -/
def CDIHandler.deviceEnv (cdi : CDIHandler) (uid : ClaimUID) (device : PreparedDevice) : List String :=
  [cdi.claimEnvKey device.device.deviceName ++ "=" ++ uid.text,
    "DRA_ADMIN_ACCESS=" ++ toString device.adminAccess] ++
    (device.containerEdits.map ContainerEdits.env).getD []

/-- The spec of a claim gives each device its environment and nothing else of the claim. -/
theorem claimSpec_env {cdi : CDIHandler} {uid : ClaimUID} {devices : PreparedDevices}
    {spec : CdiSpec} (derived : cdi.claimSpec uid devices = .ok spec) :
    List.Forall₂ (fun (device : PreparedDevice) (entry : CdiDevice) =>
      entry.containerEdits.env = cdi.deviceEnv uid device) (rangeDevices devices) spec.devices := by
  rw [(claimSpec_eq derived).2]
  refine List.forall₂_map_right_iff.mpr (List.forall₂_same.mpr fun device _ => ?_)
  unfold CDIHandler.claimDevice CDIHandler.deviceEnv
  cases device.containerEdits <;> simp [ContainerEdits.append]

/-- **What of a claim reaches a prepared device.** Each device's admin flag, which is the one its CDI
entry carries, is that of its own result exactly when no result of the claim has admin access, or
every one of this driver's has. Apart from the flag only this driver's results and configs count: over a
CDI library that does not look at the variable, `Prepare` answers two claims that agree on them the
same, under any disk faults; with the profile it does so, or fails both, in any map orders. -/
theorem prepare_isolation (s : DeviceState Config) :
    (∀ (rt rt' : Runtime) (claim : ResourceClaim) (allocation : Allocation)
      (devices : PreparedDevices), claim.allocation = some allocation →
      s.prepareDevices rt rt' claim = .ok devices →
      (OwnFlags s.driverName allocation devices ↔
        (∀ result ∈ allocation.results, result.adminAccess ≠ some true) ∨
          ∀ result ∈ ownResults s.driverName allocation.results, result.adminAccess = some true) ∧
      ∀ spec, s.cdi.claimSpec claim.uid devices = .ok spec →
        List.Forall₂ (fun (device : PreparedDevice) (entry : CdiDevice) =>
          entry.containerEdits.env = s.cdi.deviceEnv claim.uid device)
            (rangeDevices devices) spec.devices) ∧
    (s.cdi.cache.IgnoresAdmin → ∀ (uid : ClaimUID) (allocation allocation' : Allocation),
      Alike s.driverName allocation allocation' → ∀ (outcomes : List Outcome) (disk : Disk),
      (∀ rt rt' : Runtime,
        (Prog.exec (Disk.act anyMayFail) (s.prepare rt rt' ⟨uid, some allocation⟩) outcomes disk).2 =
          (Prog.exec (Disk.act anyMayFail) (s.prepare rt rt' ⟨uid, some allocation'⟩) outcomes
            disk).2) ∧
      ∀ p : Profile, p.Anchored → ∀ rt rt' later later' : Runtime, SameOrFail
        (Prog.exec (Disk.act anyMayFail) ((s.withProfile p).prepare rt rt' ⟨uid, some allocation⟩)
          outcomes disk).2
        (Prog.exec (Disk.act anyMayFail) ((s.withProfile p).prepare later later'
          ⟨uid, some allocation'⟩) outcomes disk).2) := by
  refine ⟨fun rt rt' claim allocation devices allocated prepared =>
    ⟨ownFlags_iff allocated prepared, fun spec => claimSpec_env⟩,
    fun ignores uid allocation allocation' alike outcomes disk => ⟨fun rt rt' =>
      prepare_alike ignores alike rt rt' uid outcomes disk, fun p anchored rt rt' later later' => ?_⟩⟩
  have same := prepare_alike (s := s.withProfile p) ignores alike rt rt' uid outcomes disk
  rw [same]
  exact prepare_runtimes anchored rt rt' later later' _ outcomes disk

/-! ### A claim on two drivers -/

/-- The driver of a small host, with the profile. -/
def hostDriver : DeviceState Unit :=
  (initialState sampleConfig
    (applyTopology Runtime.plain (newProfile "node" ⟨false, false⟩) twoTrayHost).1).withProfile
    (applyTopology Runtime.plain (newProfile "node" ⟨false, false⟩) twoTrayHost).2

/-- A device of another driver, with admin access. -/
def foreignResult : DeviceRequestAllocationResult :=
  { request := "monitor", driver := "gpu.example.com", pool := "node", device := "gpu-0",
    adminAccess := some true }

/-- The chip as it is prepared with admin access. -/
def adminChip : PreparedDevice where
  device := { requestNames := ["r"], poolName := "node", deviceName := "tt-0",
              cdiDeviceIds := sampleHandler.getClaimDevices uidA ["tt-0"] }
  containerEdits := some { deviceNodes := [
    { path := "/dev/tenstorrent/0", type := "c", permissions := "rw" }] }
  adminAccess := true

/-- Of the claim's two devices only the other driver's has admin access. -/
theorem foreign_admin_leaks :
    hostDriver.prepareDevices Runtime.plain Runtime.plain
        ⟨uidA, some { config := [], results := [sampleResult "tt-0", foreignResult] }⟩ =
          .ok (some [adminChip]) ∧
      (sampleResult "tt-0").adminAccess = none ∧ adminChip.adminAccess = true ∧
      ¬ OwnFlags hostDriver.driverName
        { config := [], results := [sampleResult "tt-0", foreignResult] } (some [adminChip]) := by
  refine ⟨by decide +kernel, rfl, rfl, ?_⟩
  rintro ⟨ordered, perm, flags⟩
  obtain ⟨result, member, _, _, _, same⟩ := forall₂_exists_left flags List.mem_cons_self
  have own : ownResults hostDriver.driverName [sampleResult "tt-0", foreignResult] =
      [sampleResult "tt-0"] := by decide
  rw [perm.mem_iff, own, List.mem_singleton] at member
  rw [member] at same
  exact absurd (same.mp rfl) (by decide)

/-- With admin access to its own device the flag is right, and the other driver's result does not
change what `Prepare` returns. -/
theorem own_admin_isolated :
    (∃ devices, hostDriver.prepareDevices Runtime.plain Runtime.plain
        ⟨uidA, some { config := [], results :=
          [{ sampleResult "tt-0" with adminAccess := some true }, foreignResult] }⟩ = .ok devices ∧
      OwnFlags hostDriver.driverName { config := [], results :=
        [{ sampleResult "tt-0" with adminAccess := some true }, foreignResult] } devices) ∧
    (Prog.exec (Disk.act anyMayFail) (hostDriver.prepare Runtime.plain Runtime.plain
        ⟨uidA, some { config := [], results := [sampleResult "tt-0", foreignResult] }⟩)
        [.done, .done, .done, .done] { checkpoint := some ∅, root := ∅ }).2 =
      (Prog.exec (Disk.act anyMayFail) (hostDriver.prepare Runtime.plain Runtime.plain
        ⟨uidA, some { config := [], results := [sampleResult "tt-0"] }⟩)
        [.done, .done, .done, .done] { checkpoint := some ∅, root := ∅ }).2 := by
  obtain ⟨flags, runs⟩ := prepare_isolation hostDriver
  refine ⟨?_, (runs (fun _ _ _ => ⟨rfl, rfl⟩) uidA _ _
    ⟨by decide, rfl, by simp, by simp⟩ _ _).1 Runtime.plain Runtime.plain⟩
  have prepared : hostDriver.prepareDevices Runtime.plain Runtime.plain
      ⟨uidA, some { config := [], results :=
        [{ sampleResult "tt-0" with adminAccess := some true }, foreignResult] }⟩ =
      .ok (some [adminChip]) := by decide +kernel
  exact ⟨_, prepared, ((flags _ _ _ _ _ rfl prepared).1).mpr (Or.inr (by decide))⟩

end DraDriver.Plugin
