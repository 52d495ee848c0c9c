/-
**Which claims can be prepared.**

A claim the driver's own results of which all name published devices goes through every check of
`Prepare` but the CDI library's: the spec has one device per result, and the library refuses a spec
with two devices of one name.

* `CdiDevice.Valid`, `Cache.FollowsRules` — the rules the library documents.
* `claimDevice_valid` — what the driver writes for a published device keeps the rules for a device.
* **`preparable_iff`** — `Prepare` answers with one device per result exactly if the results name
  different devices.
-/

import DraDriver.Plugin.Batch
import DraDriver.Plugin.Precedence
import DraDriver.Plugin.Resolve

namespace DraDriver.Plugin

open DraDriver.Base DraDriver.FabricManager DraDriver.Profiles DraDriver.Tenstorrent

variable {Config : Type}

/-! ### The rules of the CDI library -/

/-- The rules for one device of a spec. -/
structure CdiDevice.Valid (device : CdiDevice) : Prop where
  name : validDeviceName device.name = true
  edited : device.containerEdits ≠ {}
  env : ∀ entry ∈ device.containerEdits.env, entry.toList.head? ≠ some '=' ∧ '=' ∈ entry.toList
  deviceNodes : ∀ node ∈ device.containerEdits.deviceNodes, node.path ≠ "" ∧
    node.type ∈ ["", "b", "c", "u", "p"] ∧ ∀ c ∈ node.permissions.toList, c ∈ ['r', 'w', 'm']
  mounts : ∀ mount ∈ device.containerEdits.mounts, mount.hostPath ≠ "" ∧ mount.containerPath ≠ ""

/-- **What is assumed of the library**: every spec has a minimum version, a spec that follows the
rules in that version is accepted, and one with two devices of one name is not. -/
structure Cache.FollowsRules (cache : Cache) : Prop where
  versions : ∀ spec, ∃ version, cache.minimumRequiredVersion spec = .ok version
  unique : ∀ spec, cache.validate spec = .ok () → (spec.devices.map CdiDevice.name).Nodup
  accepts : ∀ (spec : CdiSpec) (vendor className : String), validVendorName vendor = true →
    validClassName className = true → spec.kind = vendor ++ "/" ++ className →
    cache.minimumRequiredVersion { spec with version := "" } = .ok spec.version →
    spec.devices ≠ [] → (∀ device ∈ spec.devices, device.Valid) →
    (spec.devices.map CdiDevice.name).Nodup → cache.validate spec = .ok ()

/-! ### What the driver writes follows them -/

/-- The characters of a published name. -/
def isNameChar (c : Char) : Bool := c.isAlphanum || c == '-'

/-- A published name is plain text that ends in a number. -/
theorem published_text (rt : Runtime) (p : Profile) (topo : HostPhysicalTopology) {name : String}
    (published : name ∈ (applyTopology rt p topo).2.unitByDevice) :
    ProfileName name ∧ ∃ text n, name = text ++ decimal n ∧ text.toList.all isNameChar = true := by
  obtain ⟨entry, listed, rfl⟩ := List.mem_map.mp ((mem_recordUnits _ name).mp published)
  rcases enumerate_name rt p listed with ⟨chip, named⟩ | ⟨tray, named⟩ | ⟨chip, named⟩
  · exact ⟨Or.inl ⟨chip, named⟩, "tt-", chip.toNat, named, by decide⟩
  · exact ⟨Or.inr (Or.inl ⟨tray, named⟩), "tt-tray-", tray.toNat, named, by decide⟩
  · exact ⟨Or.inr (Or.inr ⟨_, chip, named⟩), "tt-mesh-" ++ "4x2h" ++ "-", chip.toNat, named, by decide⟩

/-- The UID starts with a digit or a letter, as every UUID does. -/
def ClaimUID.Issued (uid : ClaimUID) : Prop := uid.text.toList.head?.any Char.isAlphanum = true

instance (uid : ClaimUID) : Decidable uid.Issued := inferInstanceAs (Decidable (_ = true))

theorem isNameChar_of_isUIDChar {c : Char} (inside : isUIDChar c = true) : isNameChar c = true := by
  have upper : c.isUpper = decide (c.val ≥ 65 ∧ c.val ≤ 90) := rfl
  have lower : c.isLower = (decide (c.val ≥ 97) && decide (c.val ≤ 122)) := rfl
  have alphanum : c.isAlphanum = ((c.isUpper || c.isLower) || c.isDigit) := rfl
  rw [isNameChar, alphanum, upper, lower]
  simp only [isUIDChar, Bool.or_eq_true, Bool.and_eq_true, decide_eq_true_eq, beq_iff_eq] at inside ⊢
  rcases inside with ((digit | low) | high) | dash
  · exact Or.inl (Or.inr digit)
  · exact Or.inl (Or.inl (Or.inr ⟨low.1, UInt32.le_trans low.2 (by decide)⟩))
  · exact Or.inl (Or.inl (Or.inl ⟨high.1, UInt32.le_trans high.2 (by decide)⟩))
  · exact Or.inr dash

theorem validDeviceName_entry {uid : ClaimUID} (issued : uid.Issued) {text : String} (n : ℕ)
    (plain : text.toList.all isNameChar = true) :
    validDeviceName (entryName uid (text ++ decimal n)) = true := by
  obtain ⟨c, chars, starts⟩ : ∃ c chars, uid.text.toList = c :: chars := by
    refine List.exists_cons_of_ne_nil fun empty => ?_
    unfold ClaimUID.Issued at issued
    rw [empty] at issued
    cases issued
  have digits : (decimal n).toList ≠ [] := by
    rw [decimal, Nat.toList_repr]
    exact Nat.toDigits_ne_nil
  have whole : (entryName uid (text ++ decimal n)).toList =
      uid.text.toList ++ ('-' :: text.toList) ++ (decimal n).toList := by
    simp [entryName]
  unfold validDeviceName validName
  rw [whole]
  refine Bool.and_eq_true_iff.mpr ⟨Bool.and_eq_true_iff.mpr ⟨?_, ?_⟩, List.all_eq_true.mpr ?_⟩
  · unfold ClaimUID.Issued at issued
    rw [starts] at issued ⊢
    exact issued
  · rw [List.getLast?_append_of_ne_nil _ digits, List.getLast?_eq_some_getLast digits, Option.any_some,
      Char.isAlphanum, decimal_digits (List.getLast_mem digits), Bool.or_true]
  · have allowed : ∀ c, isNameChar c = true →
        (c.isAlphanum || ['_', '-', '.', ':'].contains c) = true := by
      intro c inside
      rcases Bool.or_eq_true_iff.mp inside with alphanum | dash
      · rw [alphanum, Bool.true_or]
      · rw [beq_iff_eq.mp dash]
        decide
    intro c member
    apply allowed
    rcases List.mem_append.mp member with front | digit
    · rcases List.mem_append.mp front with ofUID | ofText
      · exact isNameChar_of_isUIDChar (List.all_eq_true.mp uid.chars c ofUID)
      · rcases List.mem_cons.mp ofText with rfl | ofText
        · decide
        · exact List.all_eq_true.mp plain c ofText
    · rw [isNameChar, Char.isAlphanum, decimal_digits digit, Bool.or_true, Bool.true_or]

/-- The key of a claim's variable starts with the class name. -/
theorem claimEnvKey_head (cdi : CDIHandler) (classNamed : validClassName cdi.className = true)
    (device value : String) :
    (cdi.claimEnvKey device ++ "=" ++ value).toList.head? ≠ some '=' := by
  have first : cdi.className.toList.head?.any Char.isAlpha = true :=
    (Bool.and_eq_true_iff.mp (Bool.and_eq_true_iff.mp classNamed).1).1
  cases chars : cdi.className.toList with
  | nil =>
    rw [chars] at first
    cases first
  | cons c rest =>
    rw [chars] at first
    have upper : cdi.className.toUpper.toList = c.toUpper :: rest.map Char.toUpper := by
      rw [String.toUpper, String.toList_map, chars, List.map_cons]
    simp only [CDIHandler.claimEnvKey, String.toList_append, upper, List.cons_append,
      List.head?_cons, ne_eq, Option.some.injEq]
    intro equals
    rw [toUpper_eq_equals equals, List.head?_cons, Option.any_some] at first
    revert first
    decide

/-- **What the driver writes for a published device is valid.** -/
theorem claimDevice_valid {s : DeviceState Config} {uid : ClaimUID} (issued : uid.Issued)
    (classNamed : validClassName s.cdi.className = true) (rt : Runtime) (p : Profile)
    (topo : HostPhysicalTopology) (hasAdminAccess : Bool) {result : DeviceRequestAllocationResult}
    (published : result.device ∈ (applyTopology rt p topo).2.unitByDevice) :
    (s.cdi.claimDevice uid (s.expectedDevice (applyTopology rt p topo).2 uid hasAdminAccess
      result)).Valid := by
  obtain ⟨-, text, n, named, plain⟩ := published_text rt p topo published
  obtain ⟨unit, found⟩ := Option.isSome_iff_exists.mp (AList.lookup_isSome.mpr published)
  have edits : (s.cdi.claimDevice uid (s.expectedDevice (applyTopology rt p topo).2 uid hasAdminAccess
      result)).containerEdits =
        { env := [s.cdi.claimEnvKey result.device ++ "=" ++ uid.text,
            "DRA_ADMIN_ACCESS=" ++ toString hasAdminAccess],
          deviceNodes := unit.bundles.map deviceNode } := by
    rw [CDIHandler.claimDevice, DeviceState.expectedDevice, found]
    rfl
  refine ⟨?_, ?_, ?_, ?_, ?_⟩
  · show validDeviceName (entryName uid result.device) = true
    rw [named]
    exact validDeviceName_entry issued n plain
  · rw [edits]
    intro none
    cases congrArg ContainerEdits.env none
  · rw [edits]
    intro entry member
    rcases List.mem_cons.mp member with rfl | member
    · exact ⟨claimEnvKey_head s.cdi classNamed _ _, by simp⟩
    · rw [List.mem_singleton.mp member, String.toList_append]
      refine ⟨?_, List.mem_append_left _ (by decide)⟩
      intro starts
      cases starts
  · rw [edits]
    intro node member
    obtain ⟨bundle, _, rfl⟩ := List.mem_map.mp member
    refine ⟨fun empty => ?_, by simp [deviceNode], by simp [deviceNode]⟩
    have chars : ("/dev/tenstorrent/" ++ decimal bundle.mmio.deviceNodeId.toNat).toList = [] :=
      congrArg String.toList empty
    rw [String.toList_append] at chars
    cases chars
  · rw [edits]
    intro mount member
    cases member

/-! ### The answer of the library -/

/-- The spec of a claim is derived in the version the library asks for. -/
theorem claimSpec_derived {cdi : CDIHandler} (rules : cdi.cache.FollowsRules) (uid : ClaimUID)
    (devices : PreparedDevices) : ∃ spec, cdi.claimSpec uid devices = .ok spec ∧
      cdi.cache.minimumRequiredVersion { spec with version := "" } = .ok spec.version := by
  obtain ⟨version, required⟩ := rules.versions
    { version := "", kind := cdi.kind, devices := (rangeDevices devices).map (cdi.claimDevice uid) }
  let held := (rangeDevices devices).map (cdi.claimDevice uid)
  refine ⟨{ version := version, kind := cdi.kind, devices := held }, ?_, required⟩
  unfold CDIHandler.claimSpec CDIHandler.versioned
  rw [required]

/-- **The spec of a claim is written** exactly if its devices have different names. -/
theorem specToWrite_ok_iff {cdi : CDIHandler} (rules : cdi.cache.FollowsRules)
    (vendorNamed : validVendorName cdi.vendor = true) (classNamed : validClassName cdi.className = true)
    (uid : ClaimUID) (devices : PreparedDevices) {old : Option RootEntry}
    (free : ∀ empty, old ≠ some (.dir empty)) (some : rangeDevices devices ≠ [])
    (valid : ∀ device ∈ rangeDevices devices, (cdi.claimDevice uid device).Valid) :
    (∃ spec, cdi.specToWrite uid devices old = .ok spec) ↔
      ((rangeDevices devices).map fun device => entryName uid device.device.deviceName).Nodup := by
  obtain ⟨spec, derived, version⟩ := claimSpec_derived rules uid devices
  obtain ⟨kind, held⟩ := claimSpec_eq derived
  have names : spec.devices.map CdiDevice.name =
      (rangeDevices devices).map fun device => entryName uid device.device.deviceName := by
    rw [held, List.map_map]
    rfl
  have written : cdi.cache.validate spec = .ok () → cdi.specToWrite uid devices old = .ok spec := by
    intro accepted
    unfold CDIHandler.specToWrite
    rw [derived]
    dsimp only
    rw [accepted]
    cases old with
    | none => rfl
    | some content =>
      cases content with
      | dir empty => exact absurd rfl (free empty)
      | spec content => rfl
      | other content => rfl
  rw [← names]
  constructor
  · rintro ⟨_, writes⟩
    unfold CDIHandler.specToWrite at writes
    simp only [derived] at writes
    split at writes
    · cases writes
    · next accepted => exact rules.unique spec accepted
  · intro different
    refine ⟨spec, written (rules.accepts spec cdi.vendor cdi.className vendorNamed classNamed kind version
      ?_ ?_ different)⟩
    · rw [held]
      simpa using some
    · rw [held]
      intro device member
      obtain ⟨prepared, inside, rfl⟩ := List.mem_map.mp member
      exact valid prepared inside

/-! ### Preparing -/

/-- Without a config of the driver's own the configs decode to none. -/
theorem getOpaqueDeviceConfigs_plain (decoder : String → Except String Config) {driverName : String}
    {possible : List DeviceAllocationConfiguration} (plain : ownConfigs driverName possible = []) :
    getOpaqueDeviceConfigs decoder driverName possible = .ok [] ↔
      ∀ config ∈ possible, config.WellFormed := by
  have none : ownConfigs driverName (ranked possible) = [] :=
    List.filter_eq_nil_iff.mpr fun config member =>
      List.filter_eq_nil_iff.mp plain config (mem_ranked.mp member)
  rw [getOpaqueDeviceConfigs_ok_iff, none]
  exact and_iff_left .nil

/-- What the kubelet is to be told of a result. -/
def answered (result : DeviceRequestAllocationResult) : List String × String × String :=
  ([result.request], result.pool, result.device)

/-- What the kubelet is told of a device. -/
def told (device : KubeletDevice) : List String × String × String :=
  (device.requestNames, device.poolName, device.deviceName)

/-- The answer for a claim that is not in the checkpoint. -/
theorem prepareEffect_fresh {rt rt' : Runtime} {s : DeviceState Config} {claim : ResourceClaim}
    {entry : Option PreparedDevices} (fresh : entry.join = none) {old : Option RootEntry}
    {devices : List KubeletDevice} :
    (s.prepareEffect rt rt' claim entry old).1 = .ok devices ↔
      ∃ prepared, s.prepareDevices rt rt' claim = .ok prepared ∧
        (∃ spec, s.cdi.specToWrite claim.uid prepared old = .ok spec) ∧ getDevices prepared = devices := by
  unfold DeviceState.prepareEffect
  rw [fresh]
  cases s.prepareDevices rt rt' claim with
  | error e => simp
  | ok prepared =>
    simp only [Except.ok.injEq, exists_eq_left']
    cases s.cdi.specToWrite claim.uid prepared old with
    | error e => simp
    | ok spec => simp

/-- **A claim can be prepared exactly if its results name different devices.** For every driver over a
library that follows the rules, every topology, every claim that is allocated published devices and
not in the checkpoint yet, carries no config for this driver and has a UID as they are issued:
`Prepare` answers with one device per result, in their order and with the result's request, pool and
name, exactly if no two results name one device and the other drivers' configs are as the API server
lets them be. -/
theorem preparable_iff (rt rt' rt₀ : Runtime) (s : DeviceState Config)
    (rules : s.cdi.cache.FollowsRules) (vendorNamed : validVendorName s.cdi.vendor = true)
    (classNamed : validClassName s.cdi.className = true) (p : Profile) (topo : HostPhysicalTopology)
    (claim : ResourceClaim) (issued : claim.uid.Issued) {allocation : Allocation}
    (allocated : claim.allocation = some allocation)
    (addressed : ownResults s.driverName allocation.results ≠ [])
    (published : ∀ result ∈ ownResults s.driverName allocation.results,
      result.device ∈ s.allocatable ∧ result.device ∈ (applyTopology rt₀ p topo).2.unitByDevice)
    (plain : ownConfigs s.driverName allocation.config = []) {disk : Disk} {claims : PreparedClaims}
    (readable : disk.checkpoint = some claims) (fresh : (claims.lookup claim.uid).join = none)
    (free : ∀ empty, disk.root.lookup (s.cdi.claimFile claim.uid) ≠ some (.dir empty)) :
    (∃ devices, (Disk.run ((s.withProfile (applyTopology rt₀ p topo).2).prepare rt rt' claim) disk).1 =
        .ok devices ∧
      devices.map told = (ownResults s.driverName allocation.results).map answered) ↔
      ((ownResults s.driverName allocation.results).map fun result => result.device).Nodup ∧
        ∀ config ∈ allocation.config, config.WellFormed := by
  have anchored := anchored_applyTopology rt₀ p topo
  generalize own : ownResults s.driverName allocation.results = results at addressed published
  let expected := results.map (s.expectedDevice (applyTopology rt₀ p topo).2 claim.uid
    (checkAdminAccess allocation))
  -- the devices, once the configs decode
  have devices_iff : ∀ prepared, (s.withProfile (applyTopology rt₀ p topo).2).prepareDevices rt rt' claim =
      .ok prepared ↔ (∀ config ∈ allocation.config, config.WellFormed) ∧ prepared = appended expected := by
    intro prepared
    rw [prepareDevices_ok_iff rt rt' s anchored claim prepared]
    constructor
    · rintro ⟨allocation', configs, same, decoded, _, rfl⟩
      cases Option.some.inj (allocated.symm.trans same)
      exact ⟨(getOpaqueDeviceConfigs_ok_iff.mp decoded).1, by rw [own]⟩
    · rintro ⟨wellFormed, rfl⟩
      refine ⟨allocation, [], allocated, (getOpaqueDeviceConfigs_plain _ plain).mpr wellFormed, ?_,
        by rw [own]⟩
      rw [own]
      exact fun result member => ⟨rfl, published result member⟩
  -- the library's answer to them
  have valid : ∀ device ∈ rangeDevices (appended expected), (s.cdi.claimDevice claim.uid device).Valid := by
    intro device member
    rw [rangeDevices_appended] at member
    obtain ⟨result, inside, rfl⟩ := List.mem_map.mp member
    exact claimDevice_valid issued classNamed rt₀ p topo _ (published result inside).2
  have written_iff := specToWrite_ok_iff rules vendorNamed classNamed claim.uid (appended expected) free
    (by simpa [expected] using addressed) valid
  have names : ((rangeDevices (appended expected)).map fun device =>
      entryName claim.uid device.device.deviceName).Nodup ↔
        (results.map fun result => result.device).Nodup := by
    rw [rangeDevices_appended, List.map_map]
    show (results.map fun result => entryName claim.uid result.device).Nodup ↔ _
    unfold List.Nodup
    rw [List.pairwise_map, List.pairwise_map]
    refine List.Pairwise.iff_of_mem fun {a b} inA inB => not_congr ⟨fun same => ?_, fun same => by rw [same]⟩
    exact (entryName_inj (published_text rt₀ p topo (published a inA).2).1
      (published_text rt₀ p topo (published b inB).2).1 same).2
  have absent : (disk.entry claim.uid).join = none := by simpa [Disk.entry, readable] using fresh
  rw [run_prepare _ _ _ _ (by rw [readable]; rfl)]
  constructor
  · rintro ⟨devices, ran, _⟩
    obtain ⟨prepared, done, written, _⟩ := (prepareEffect_fresh absent).mp ran
    obtain ⟨wellFormed, rfl⟩ := (devices_iff prepared).mp done
    exact ⟨names.mp (written_iff.mp written), wellFormed⟩
  · rintro ⟨different, wellFormed⟩
    refine ⟨getDevices (appended expected), (prepareEffect_fresh absent).mpr ⟨_, (devices_iff _).mpr
      ⟨wellFormed, rfl⟩, written_iff.mpr (names.mpr different), rfl⟩, ?_⟩
    rw [getDevices, rangeDevices_appended, List.map_map, List.map_map]
    rfl

/-! ### A host with two trays -/

/-- The profile after the host's topology. -/
def twoTrayPublished : DriverResources × Profile :=
  applyTopology Runtime.plain (newProfile "node" ⟨false, false⟩) twoTrayHost

/-- The driver after its first start on that host. -/
def twoTrayState : DeviceState Unit := initialState strictConfig twoTrayPublished.1

/-- The disk after that start. -/
def twoTrayDisk : Disk :=
  (Disk.run (newDeviceState strictConfig twoTrayPublished.1) { checkpoint := none, root := ∅ }).2

/-- A claim with a normal request and an admin-access request, as they were allocated. -/
def watchedClaim (device watched : String) : ResourceClaim :=
  { uid := uidA
    allocation := some { config := [], results := [
      sampleResult device,
      { sampleResult watched with request := "monitor", adminAccess := some true }] } }

theorem strictConfig_rules : strictConfig.cdi.cache.FollowsRules where
  versions _ := ⟨_, rfl⟩
  unique := strictConfig_unique
  accepts _ _ _ _ _ _ _ _ _ different := if_pos different

/-- Two different devices are prepared. -/
theorem watched_other :
    ∃ devices, (Disk.run ((twoTrayState.withProfile twoTrayPublished.2).prepare Runtime.plain
        Runtime.plain (watchedClaim "tt-0" "tt-2")) twoTrayDisk).1 = .ok devices ∧
      devices.map told = [(["r"], "node", "tt-0"), (["monitor"], "node", "tt-2")] := by
  have noFile : twoTrayDisk.root.lookup (twoTrayState.cdi.claimFile uidA) = none := by decide +kernel
  have claims : twoTrayDisk.checkpoint = some ∅ := by decide +kernel
  refine (preparable_iff Runtime.plain Runtime.plain Runtime.plain twoTrayState strictConfig_rules
    (by decide) (by decide) (newProfile "node" ⟨false, false⟩) twoTrayHost
    (watchedClaim "tt-0" "tt-2") (by decide) rfl (by decide) (by decide +kernel) rfl claims
    (by decide) fun empty directory => ?_).mpr ⟨by decide, nofun⟩
  cases noFile.symm.trans directory

/-- **A device watched by an admin-access request of the same claim cannot be prepared**: every
assumption on the claim holds, and the library refuses the spec. -/
theorem watched_same :
    (∀ result ∈ ownResults twoTrayState.driverName
        (((watchedClaim "tt-0" "tt-0").allocation.map Allocation.results).getD []),
      result.device ∈ twoTrayState.allocatable ∧ result.device ∈ twoTrayPublished.2.unitByDevice) ∧
    twoTrayDisk.checkpoint = some ∅ ∧
    (Disk.run ((twoTrayState.withProfile twoTrayPublished.2).prepare Runtime.plain Runtime.plain
        (watchedClaim "tt-0" "tt-0")) twoTrayDisk).1 =
      .error "unable to create CDI spec file for claim: invalid spec, multiple device" := by
  refine ⟨by decide +kernel, by decide +kernel, by decide +kernel⟩

end DraDriver.Plugin
