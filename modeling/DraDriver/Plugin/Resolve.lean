/-
**Every CDI id handed to the kubelet resolves.**

The kubelet passes on the ids `Prepare` returned, and the container runtime looks each of them up in
all spec files at once. An id joins the claim's UID and the device's name with a dash; both UIDs and
the names of the profile are texts in which the place of that dash can be read back.

* **`entryName_inj`** — an entry's name determines its claim and its device.
* `Known` — what every event keeps: the checkpoint's entries carry ids of their own claim, and while
  a driver runs every spec file of the driver is the common one or derives from such an entry.
* `resolve_known` — a name of a claim's spec is found there and nowhere else.
* **`prepared_resolves`** — after every successful `Prepare`, by either branch.
-/

import DraDriver.Plugin.Prepared
import DraDriver.Plugin.Runs

namespace DraDriver.Plugin

open DraDriver.Base DraDriver.Profiles DraDriver.Tenstorrent

variable {Config : Type}

/-! ### Names -/

/-- A device name as the profile formats them. -/
def ProfileName (name : String) : Prop :=
  (∃ chip, name = deviceNameForChip chip) ∨ (∃ tray, name = deviceNameForTray tray) ∨
    ∃ slug chip, name = deviceNameForMesh slug chip

theorem ProfileName.lead {name : String} (named : ProfileName name) :
    ∃ rest, name.toList = 't' :: rest := by
  rcases named with ⟨chip, rfl⟩ | ⟨tray, rfl⟩ | ⟨slug, chip, rfl⟩
  · exact ⟨_, by rw [deviceNameForChip, String.toList_append]; rfl⟩
  · exact ⟨_, by rw [deviceNameForTray, String.toList_append]; rfl⟩
  · exact ⟨(deviceNameForMesh slug chip).toList.tail, by simp [deviceNameForMesh]⟩

/-- The name of a claim's device in its spec. -/
def entryName (uid : ClaimUID) (device : String) : String := uid.text ++ "-" ++ device

/-- **An entry's name determines its claim and its device**: no UID has a `t`, and every device name
starts with one. -/
theorem entryName_inj {u v : ClaimUID} {d e : String} (namedD : ProfileName d) (namedE : ProfileName e)
    (same : entryName u d = entryName v e) : u = v ∧ d = e := by
  have inside : ∀ uid : ClaimUID, (uid.text ++ "-").toList.all isUIDChar = true := by
    intro uid
    rw [String.toList_append, List.all_append, uid.chars]
    rfl
  have stops : ∀ {name}, ProfileName name → ∃ c rest, name.toList = c :: rest ∧ isUIDChar c = false := by
    intro name named
    obtain ⟨rest, split⟩ := named.lead
    exact ⟨'t', rest, split, by decide⟩
  obtain ⟨texts, names⟩ := append_inj_at (inside u) (inside v) (stops namedD) (stops namedE) same
  exact ⟨ClaimUID.ext ((String.append_left_inj "-").mp texts), names⟩

theorem entryName_ne_common {uid : ClaimUID} {device : String} (named : ProfileName device) :
    entryName uid device ≠ cdiCommonDeviceName := by
  intro same
  obtain ⟨rest, split⟩ := named.lead
  have inside : 't' ∈ (entryName uid device).toList := by
    rw [entryName, String.toList_append, split]
    simp
  rw [same] at inside
  revert inside
  decide

/-! ### Resolving an id -/

/-- The id under which the runtime finds a device of a spec. -/
def CdiSpec.idOf (spec : CdiSpec) (device : CdiDevice) : String := spec.kind ++ "=" ++ device.name

/-- The devices of one file with an id; only a spec file of the driver has any. -/
def CDIHandler.resolveIn (cdi : CDIHandler) (id file : String) : RootEntry → List (String × CdiDevice)
  | .spec spec => if cdi.managed file then
      (spec.devices.filter fun device => spec.idOf device = id).map fun device => (file, device)
    else []
  | _ => []

theorem CDIHandler.resolveIn_spec (cdi : CDIHandler) (id file : String) (spec : CdiSpec) :
    cdi.resolveIn id file (.spec spec) = if cdi.managed file then
      (spec.devices.filter fun device => spec.idOf device = id).map fun device => (file, device)
    else [] := rfl

/-- **Every device entry an id names** among all spec files of the driver, with its file. -/
def CDIHandler.resolve (cdi : CDIHandler) (root : GoMap String RootEntry) (id : String) :
    List (String × CdiDevice) :=
  root.entries.flatMap fun entry => cdi.resolveIn id entry.1 entry.2

/-- The id of the entry every claim shares. -/
def CDIHandler.commonId (cdi : CDIHandler) : String :=
  qualifiedName cdi.vendor cdi.className cdiCommonDeviceName

/-- The id of a claim's device. -/
def CDIHandler.deviceId (cdi : CDIHandler) (uid : ClaimUID) (device : String) : String :=
  qualifiedName cdi.vendor cdi.className (entryName uid device)

theorem CDIHandler.getClaimDevices_single (cdi : CDIHandler) (uid : ClaimUID) (device : String) :
    cdi.getClaimDevices uid [device] = [cdi.commonId, cdi.deviceId uid device] := rfl

/-- An id that only one file can hold is found in that file alone. -/
theorem CDIHandler.resolve_only {cdi : CDIHandler} {root : GoMap String RootEntry} {id file : String}
    {content : RootEntry} {found : String × CdiDevice} (stored : root.lookup file = some content)
    (here : cdi.resolveIn id file content = [found])
    (elsewhere : ∀ other entry, root.lookup other = some entry → other ≠ file →
      cdi.resolveIn id other entry = []) : cdi.resolve root id = [found] := by
  have moved := (entries_perm_of_lookup stored).flatMap_right fun entry =>
    cdi.resolveIn id entry.1 entry.2
  have none : (root.entries.kerase file).flatMap (fun entry => cdi.resolveIn id entry.1 entry.2) = [] := by
    refine List.flatMap_eq_nil_iff.mpr fun entry member => ?_
    have inside : entry ∈ root.entries := (List.kerase_sublist file root.entries).subset member
    have different : entry.1 ≠ file := by
      intro same
      have keyed := List.mem_keys_of_mem member
      rw [same] at keyed
      exact List.notMem_keys_kerase file root.nodupKeys keyed
    exact elsewhere entry.1 entry.2 (AList.mem_lookup_iff.mpr inside) different
  rw [List.flatMap_cons, none, List.append_nil, here] at moved
  exact List.perm_singleton.mp moved

/-! ### What the driver's files hold -/

/-- A claim's devices carry names of the profile and the ids of the claim. -/
def OwnIds (cdi : CDIHandler) (uid : ClaimUID) (devices : PreparedDevices) : Prop :=
  ∀ device ∈ rangeDevices devices, ProfileName device.device.deviceName ∧
    device.device.cdiDeviceIds = cdi.getClaimDevices uid [device.device.deviceName]

/-- A spec the driver wrote: the common one, or that of a claim. -/
def Derived (cdi : CDIHandler) (file : String) (spec : CdiSpec) : Prop :=
  (file = cdi.commonFile ∧ cdi.commonSpec = .ok spec) ∨
    ∃ uid devices, file = cdi.claimFile uid ∧ cdi.claimSpec uid devices = .ok spec ∧
      OwnIds cdi uid devices

theorem commonSpec_eq {cdi : CDIHandler} {spec : CdiSpec} (derived : cdi.commonSpec = .ok spec) :
    spec.kind = cdi.kind ∧ ∀ device ∈ spec.devices, device.name = cdiCommonDeviceName := by
  unfold CDIHandler.commonSpec CDIHandler.versioned at derived
  split at derived
  · cases derived
  · cases derived
    exact ⟨rfl, fun device member => by rw [List.mem_singleton.mp member]⟩

/-- In a spec of the driver's kind an id is a name. -/
theorem idOf_eq_iff {cdi : CDIHandler} {spec : CdiSpec} (kind : spec.kind = cdi.kind)
    (device : CdiDevice) (name : String) :
    spec.idOf device = qualifiedName cdi.vendor cdi.className name ↔ device.name = name := by
  unfold CdiSpec.idOf qualifiedName
  rw [kind, CDIHandler.kind]
  exact String.append_right_inj _

/-- Another file of the driver has no entry of the claim's devices. -/
theorem resolveIn_other {cdi : CDIHandler} {uid : ClaimUID} {name : String} (named : ProfileName name)
    {file : String} {entry : RootEntry} (different : file ≠ cdi.claimFile uid)
    (known : ∀ spec, entry = .spec spec → cdi.managed file = true → Derived cdi file spec) :
    cdi.resolveIn (cdi.deviceId uid name) file entry = [] := by
  cases entry with
  | other content => rfl
  | dir empty => rfl
  | spec spec =>
    rw [CDIHandler.resolveIn_spec]
    split
    · rename_i own
      refine List.map_eq_nil_iff.mpr (List.filter_eq_nil_iff.mpr fun device member same => ?_)
      have names := of_decide_eq_true same
      rcases known spec rfl own with ⟨_, common⟩ | ⟨other, devices, here, derived, ids⟩
      · obtain ⟨kind, only⟩ := commonSpec_eq common
        rw [CDIHandler.deviceId, idOf_eq_iff kind, only device member] at names
        exact entryName_ne_common named names.symm
      · obtain ⟨kind, listed⟩ := claimSpec_eq derived
        rw [CDIHandler.deviceId, idOf_eq_iff kind] at names
        rw [listed] at member
        obtain ⟨prepared, inside, rfl⟩ := List.mem_map.mp member
        obtain ⟨rfl, _⟩ := entryName_inj (ids prepared inside).1 named names
        exact different here
    · rfl

/-- In the claim's own file a name is held once, if its spec has no name twice. -/
theorem resolveIn_own {cdi : CDIHandler} {uid : ClaimUID} {devices : PreparedDevices} {spec : CdiSpec}
    (derived : cdi.claimSpec uid devices = .ok spec) (unique : (spec.devices.map CdiDevice.name).Nodup)
    {device : PreparedDevice} (member : device ∈ rangeDevices devices) :
    cdi.resolveIn (cdi.deviceId uid device.device.deviceName) (cdi.claimFile uid) (.spec spec) =
      [(cdi.claimFile uid, cdi.claimDevice uid device)] := by
  obtain ⟨kind, listed⟩ := claimSpec_eq derived
  have inside : cdi.claimDevice uid device ∈ spec.devices := by
    rw [listed]
    exact List.mem_map_of_mem member
  have once : spec.devices.filter (fun entry =>
      spec.idOf entry = cdi.deviceId uid device.device.deviceName) = [cdi.claimDevice uid device] := by
    have same : ∀ entry ∈ spec.devices,
        decide (spec.idOf entry = cdi.deviceId uid device.device.deviceName) =
          decide (entry = cdi.claimDevice uid device) := by
      intro entry listed
      rw [CDIHandler.deviceId]
      refine decide_eq_decide.mpr ((idOf_eq_iff kind entry _).trans ⟨fun names => ?_, fun here => ?_⟩)
      · exact List.inj_on_of_nodup_map unique listed inside names
      · rw [here]
        rfl
    rw [List.filter_congr same, List.filter_eq, unique.of_map.count, if_pos inside]
    rfl
  rw [CDIHandler.resolveIn_spec, if_pos (cdi.managed_claimFile uid), once]
  rfl

/-- **A name of a claim's spec is found there and nowhere else.** -/
theorem resolve_known {cdi : CDIHandler} {root : GoMap String RootEntry} {uid : ClaimUID}
    {devices : PreparedDevices} {spec : CdiSpec} (derived : cdi.claimSpec uid devices = .ok spec)
    (unique : (spec.devices.map CdiDevice.name).Nodup)
    (stored : root.lookup (cdi.claimFile uid) = some (.spec spec))
    (files : ∀ file spec, cdi.managed file = true → root.lookup file = some (.spec spec) →
      Derived cdi file spec) {device : PreparedDevice} (member : device ∈ rangeDevices devices)
    (named : ProfileName device.device.deviceName) :
    cdi.resolve root (cdi.deviceId uid device.device.deviceName) =
      [(cdi.claimFile uid, cdi.claimDevice uid device)] := by
  refine CDIHandler.resolve_only stored (resolveIn_own derived unique member) ?_
  intro other entry found different
  refine resolveIn_other named different fun spec same own => files other spec own ?_
  rw [found, same]

/-! ### What every event keeps -/

/-- The resources of an event name their devices as the profile does. -/
def Event.Named (config : DriverConfig Config) : Event → Prop
  | .setResources driverResources =>
    ∀ name ∈ reportedNames driverResources config.nodeName, ProfileName name
  | .restart driverResources _ =>
    ∀ name ∈ reportedNames driverResources config.nodeName, ProfileName name
  | _ => True

/-- One event with such resources. -/
def NamedStep (config : DriverConfig Config) (mayFail : DiskOp → Bool)
    (deepEqual : DriverResources → DriverResources → Bool) (sys : System config) (event : Event)
    (sys' : System config) : Prop :=
  event.Named config ∧ Step config mayFail deepEqual sys event sys'

/-- Every entry of the checkpoint carries ids of its own claim. -/
def EntriesOwn (cdi : CDIHandler) (disk : Disk) : Prop :=
  ∀ claims uid devices, disk.checkpoint = some claims → claims.lookup uid = some devices →
    OwnIds cdi uid devices

/-- Every spec file of the driver is one it wrote. -/
def FilesDerived (cdi : CDIHandler) (disk : Disk) : Prop :=
  ∀ file spec, cdi.managed file = true → disk.root.lookup file = some (.spec spec) →
    Derived cdi file spec

/-- **What every event keeps.** -/
structure Known (config : DriverConfig Config) (sys : System config) : Prop where
  entries : EntriesOwn config.cdi sys.disk
  files : sys.running.isSome = true → FilesDerived config.cdi sys.disk
  names : ∀ driver, sys.running = some driver → ∀ name ∈ driver.state.allocatable, ProfileName name

section Keeps

variable {cdi : CDIHandler} {disk : Disk} {uid : ClaimUID} {devices : PreparedDevices}
  {claims : PreparedClaims} {spec : CdiSpec}

theorem EntriesOwn.insert (entries : EntriesOwn cdi disk) (stored : disk.checkpoint = some claims)
    (own : OwnIds cdi uid devices) (root : Disk) :
    EntriesOwn cdi (root.putCheckpoint (claims.insert uid devices)) := by
  intro after other recorded same found
  cases same
  rw [lookup_insert_eq] at found
  split at found
  · rename_i here
    cases found
    exact here ▸ own
  · exact entries claims other recorded stored found

theorem EntriesOwn.erase (entries : EntriesOwn cdi disk) (stored : disk.checkpoint = some claims)
    (root : Disk) : EntriesOwn cdi (root.putCheckpoint (claims.erase uid)) := by
  intro after other recorded same found
  cases same
  rw [lookup_erase_eq] at found
  split at found
  · cases found
  · exact entries claims other recorded stored found

theorem EntriesOwn.empty (cdi : CDIHandler) (root : Disk) : EntriesOwn cdi (root.putCheckpoint ∅) := by
  intro after other recorded same found
  cases same
  cases found

/-- The devices a checkpoint records for a claim, also where it records none. -/
theorem EntriesOwn.join (entries : EntriesOwn cdi disk) (stored : disk.checkpoint = some claims)
    (uid : ClaimUID) : OwnIds cdi uid (claims.lookup uid).join := by
  cases found : claims.lookup uid with
  | none => exact fun _ member => by cases member
  | some recorded => exact entries claims uid recorded stored found

theorem FilesDerived.putSpec (files : FilesDerived cdi disk)
    (derived : cdi.claimSpec uid devices = .ok spec) (own : OwnIds cdi uid devices) :
    FilesDerived cdi (disk.putSpec (cdi.claimFile uid) spec) := by
  intro file content managed found
  rw [putSpec_lookup] at found
  split at found
  · rename_i here
    cases found
    exact Or.inr ⟨uid, devices, here, derived, own⟩
  · exact files file content managed found

theorem FilesDerived.dropFile (files : FilesDerived cdi disk) (gone : String) :
    FilesDerived cdi (disk.dropFile gone) := by
  intro file content managed found
  rw [dropFile_lookup] at found
  split at found
  · cases found
  · exact files file content managed found

/-- A settled root holds what a startup wrote. -/
theorem FilesDerived.of_settled {s : DeviceState Config} (entries : EntriesOwn s.cdi disk)
    (stored : disk.checkpoint = some claims) (settled : Settled s claims disk.root) :
    FilesDerived s.cdi disk := by
  intro file content managed found
  by_cases kept : file ∈ s.cdi.keepFiles (s.validClaims claims)
  · rcases List.mem_cons.mp kept with common | claim
    · obtain ⟨spec, derived, here⟩ := settled.common
      rw [common, here] at found
      cases found
      exact Or.inl ⟨common, derived⟩
    · obtain ⟨uid, valid, rfl⟩ := List.mem_map.mp claim
      obtain ⟨spec, derived, here⟩ := settled.claim uid valid
      rw [here] at found
      cases found
      exact Or.inr ⟨uid, _, rfl, derived, entries.join stored uid⟩
  · cases settled.only file managed kept _ found

/-- Prepared devices are allocatable and carry the claim's own ids, whatever the config handler. -/
theorem prepareDevices_own {rt rt' : Runtime} {s : DeviceState Config} {claim : ResourceClaim}
    {devices : PreparedDevices} (prepared : s.prepareDevices rt rt' claim = .ok devices) :
    ∀ device ∈ rangeDevices devices, device.device.deviceName ∈ s.allocatable ∧
      device.device.cdiDeviceIds = s.cdi.getClaimDevices claim.uid [device.device.deviceName] := by
  obtain ⟨_, ordered, edits, _, _, allocatable, listed⟩ := prepareDevices_ordered prepared
  intro device member
  rw [listed] at member
  obtain ⟨result, inside, rfl⟩ := List.mem_map.mp member
  exact ⟨allocatable result inside, rfl⟩

end Keeps

section Runs

variable {config : DriverConfig Config} {mayFail : DiskOp → Bool}
  {deepEqual : DriverResources → DriverResources → Bool} {sys sys' : System config}

/-- The devices a running driver prepares are named and identified as its own. -/
theorem Known.prepared (known : Known config sys) {driver : Instance config}
    (running : sys.running = some driver) (handler : ConfigHandler Config) {rt rt' : Runtime}
    {claim : ResourceClaim} {devices : PreparedDevices}
    (prepared : (driver.withHandler handler).state.prepareDevices rt rt' claim = .ok devices) :
    OwnIds config.cdi claim.uid devices := by
  intro device member
  obtain ⟨allocatable, ids⟩ := prepareDevices_own prepared device member
  rw [(driver.withHandler handler).cdi] at ids
  exact ⟨known.names driver running _ allocatable, ids⟩

/-- **A `Prepare` keeps the driver's files.** -/
theorem Known.prepare (known : Known config sys) {driver : Instance config}
    (running : sys.running = some driver) {handler : ConfigHandler Config} {rt rt' : Runtime}
    {claim : ResourceClaim} {disk' : Disk} {result : Option (Except String (List KubeletDevice))}
    (ends : PrepareEnds rt rt' (driver.withHandler handler).state claim sys.disk disk' result) :
    EntriesOwn config.cdi disk' ∧ FilesDerived config.cdi disk' := by
  have files := known.files (by rw [running]; rfl)
  have ours : (driver.withHandler handler).state.cdi = config.cdi := (driver.withHandler handler).cdi
  cases ends with
  | untouched => exact ⟨known.entries, files⟩
  | rewritten claims devices spec _ stored recorded _ derived =>
    rw [ours] at derived ⊢
    exact ⟨known.entries, files.putSpec derived (known.entries claims _ _ stored recorded)⟩
  | halfway claims devices spec _ stored _ prepared derived =>
    rw [ours] at derived ⊢
    exact ⟨known.entries, files.putSpec derived (known.prepared running handler prepared)⟩
  | prepared claims devices spec _ stored _ prepared derived =>
    have own := known.prepared running handler prepared
    rw [ours] at derived ⊢
    exact ⟨known.entries.insert stored own _, files.putSpec derived own⟩

theorem Known.unprepare (known : Known config sys) {driver : Instance config}
    (running : sys.running = some driver) {uid : ClaimUID} {failed : Bool} {disk' : Disk}
    {result : Option (Except String Unit)}
    (ends : UnprepareEnds driver.state uid sys.disk failed disk' result) :
    EntriesOwn config.cdi disk' ∧ FilesDerived config.cdi disk' := by
  have files := known.files (by rw [running]; rfl)
  cases ends with
  | untouched => exact ⟨known.entries, files⟩
  | replaced => exact ⟨.empty _ _, files⟩
  | nothing => exact ⟨known.entries, files⟩
  | halfway => exact ⟨known.entries, files.dropFile _⟩
  | unprepared claims devices _ stored => exact ⟨known.entries.erase stored _, files.dropFile _⟩

theorem EntriesOwn.starting {s : DeviceState Config} {disk disk' : Disk} {cdi : CDIHandler}
    (entries : EntriesOwn cdi disk) (starting : Starting s disk disk') : EntriesOwn cdi disk' := by
  intro claims uid devices stored found
  rcases starting.checkpoint with same | ⟨_, created⟩
  · exact entries claims uid devices (same.symm.trans stored) found
  · rw [created] at stored
    cases stored
    cases found

/-- A table built from named resources is named. -/
theorem table_named {driverResources : DriverResources} {nodeName : String}
    (named : ∀ name ∈ reportedNames driverResources nodeName, ProfileName name) :
    ∀ name ∈ allocatableFrom driverResources nodeName, ProfileName name :=
  fun name member => named name ((mem_allocatableFrom driverResources nodeName name).mp member)

/-- **One event keeps what is known.** -/
theorem Known.step (known : Known config sys) {event : Event}
    (step : NamedStep config mayFail deepEqual sys event sys') : Known config sys' := by
  obtain ⟨named, step⟩ := step
  cases step with
  | @prepare rt rt' handler driver claim outcomes disk disk' result ran =>
    have ends := exec_prepare mayFail rt rt' (driver.withHandler handler).state claim outcomes disk
    rw [ran] at ends
    obtain ⟨entries, files⟩ := known.prepare rfl ends
    refine ⟨entries, fun _ => files, fun driver' running => ?_⟩
    cases result with
    | none => cases running
    | some _ =>
      cases running
      exact known.names driver rfl
  | @unprepare driver uid outcomes disk disk' result ran =>
    have ends := exec_unprepare mayFail driver.state uid outcomes disk
    rw [ran] at ends
    obtain ⟨entries, files⟩ := known.unprepare rfl ends
    refine ⟨entries, fun _ => files, fun driver' running => ?_⟩
    cases result with
    | none => cases running
    | some _ =>
      cases running
      exact known.names driver rfl
  | setResources driver driverResources =>
    refine ⟨known.entries, fun _ => known.files rfl, fun driver' running => ?_⟩
    cases running
    show ∀ name ∈ (driver.state.setResources deepEqual driverResources).2.allocatable, ProfileName name
    unfold DeviceState.setResources
    split
    · exact known.names driver rfl
    · exact driver.nodeName ▸ table_named named
  | @restart running driverResources outcomes disk disk' result ran =>
    obtain ⟨starting, returned⟩ := exec_newDeviceState mayFail config driverResources outcomes disk
    rw [ran] at starting returned
    have entries := known.entries.starting starting
    unfold afterStartup
    by_cases ok : succeeded result = true
    · obtain ⟨state, same⟩ := succeeded_iff.mp ok
      obtain ⟨_, stored, settled⟩ := returned state same
      have files : FilesDerived config.cdi disk' :=
        FilesDerived.of_settled (s := initialState config driverResources) entries stored settled
      rw [if_pos ok]
      refine ⟨entries, fun _ => files, fun driver' now => ?_⟩
      cases now
      exact table_named named
    · rw [if_neg ok]
      exact ⟨entries, nofun, nofun⟩

/-- A successful `Prepare` leaves a spec in the claim's file that the library accepts. -/
theorem prepare_accepted {rt rt' : Runtime} {s : DeviceState Config} {claim : ResourceClaim}
    {outcomes : List Outcome} {disk disk' : Disk} {returned : List KubeletDevice}
    (ran : Prog.exec (Disk.act mayFail) (s.prepare rt rt' claim) outcomes disk =
      (disk', some (.ok returned))) :
    ∃ spec, s.cdi.cache.validate spec = .ok () ∧
      disk'.root.lookup (s.cdi.claimFile claim.uid) = some (.spec spec) := by
  have ensures : Prog.Ensures (Disk.act mayFail) (fun _ => True) (s.prepare rt rt' claim)
      (fun after result => ∀ returned, result = .ok returned → ∃ spec,
        s.cdi.cache.validate spec = .ok () ∧
          after.root.lookup (s.cdi.claimFile claim.uid) = some (.spec spec)) disk := by
    unfold DeviceState.prepare
    refine Prog.ensures_bind.mpr (ensures_getCheckpoint trivial (fun _ e => ⟨trivial, nofun⟩) ?_)
    intro claims stored
    simp only
    split
    · unfold DeviceState.reprepare
      split
      · exact ⟨trivial, nofun⟩
      · refine Prog.ensures_bind.mpr (ensures_createClaimSpecFile trivial (fun e => ⟨trivial, nofun⟩)
          fun spec derived valid => ⟨trivial, trivial, fun _ _ => ⟨spec, valid, ?_⟩⟩)
        rw [putSpec_lookup, if_pos rfl]
    · split
      · exact ⟨trivial, nofun⟩
      · unfold DeviceState.prepareFresh
        refine Prog.ensures_bind.mpr (ensures_createClaimSpecFile trivial (fun e => ⟨trivial, nofun⟩)
          fun spec derived valid => ⟨trivial, Prog.ensures_bind.mpr ?_⟩)
        refine ensures_createCheckpoint trivial (fun e => ⟨trivial, nofun⟩) trivial
          ⟨trivial, fun _ _ => ⟨spec, valid, ?_⟩⟩
        rw [putCheckpoint_root, putSpec_lookup, if_pos rfl]
  have ended := (Prog.exec_ensures outcomes ensures).2
  rw [ran] at ended
  exact ended _ rfl returned rfl

/-- What a successful `Prepare` leaves, by either branch. -/
theorem PrepareEnds.returned {rt rt' : Runtime} {s : DeviceState Config} {claim : ResourceClaim}
    {disk disk' : Disk} {returned : List KubeletDevice}
    (ends : PrepareEnds rt rt' s claim disk disk' (some (.ok returned))) :
    ∃ claims devices spec, disk'.checkpoint = some claims ∧ claims.lookup claim.uid = some devices ∧
      getDevices devices = returned ∧
      (∀ device ∈ rangeDevices devices, device.device.deviceName ∈ s.allocatable) ∧
      s.cdi.claimSpec claim.uid devices = .ok spec ∧
      disk'.root.lookup (s.cdi.claimFile claim.uid) = some (.spec spec) := by
  cases ends with
  | untouched _ failed => exact absurd rfl (failed returned)
  | halfway _ _ _ _ _ _ _ _ failed => exact absurd rfl (failed returned)
  | rewritten claims devices spec _ stored recorded valid derived returns =>
    have same : getDevices (some devices) = returned := by simpa [eq_comm] using returns
    refine ⟨claims, some devices, spec, stored, recorded, same,
      (validate_eq_ok_iff s claim.uid (some devices)).mp valid, derived, ?_⟩
    rw [putSpec_lookup, if_pos rfl]
  | prepared claims devices spec _ stored _ prepared derived returns =>
    have same : getDevices devices = returned := by simpa [eq_comm] using returns
    refine ⟨_, devices, spec, rfl, AList.lookup_insert _, same,
      fun device member => (prepareDevices_own prepared device member).1, derived, ?_⟩
    rw [putCheckpoint_root, putSpec_lookup, if_pos rfl]

end Runs

/-- **Every CDI id handed to the kubelet resolves.** In every run from a disk without a checkpoint,
whatever fails and wherever the driver dies, when `Prepare` of a claim returns devices, by either
branch: they are allocatable, the checkpoint maps the claim to them, and every id of theirs but the
common one names exactly one device entry among the driver's spec files, the one in the claim's own
spec with the device's container edits. The CDI library is assumed to refuse a spec with two devices
of one name. -/
theorem prepared_resolves (config : DriverConfig Config) (mayFail : DiskOp → Bool)
    (deepEqual : DriverResources → DriverResources → Bool)
    (unique : ∀ spec, config.cdi.cache.validate spec = .ok () →
      (spec.devices.map CdiDevice.name).Nodup)
    {disk : Disk} (blank : disk.checkpoint = none) {events : List Event} {sys sys' : System config}
    (run : Run (NamedStep config mayFail deepEqual) ⟨disk, none⟩ events sys) {claim : ResourceClaim}
    {returned : List KubeletDevice}
    (prepared : NamedStep config mayFail deepEqual sys (.prepare claim (some (.ok returned))) sys') :
    ∃ driver claims devices, sys'.running = some driver ∧
      (∀ device ∈ returned, device.deviceName ∈ driver.state.allocatable) ∧
      sys'.disk.checkpoint = some claims ∧ claims.lookup claim.uid = some devices ∧
      getDevices devices = returned ∧
      ∀ device ∈ rangeDevices devices, ∀ id ∈ device.device.cdiDeviceIds, id ≠ config.cdi.commonId →
        config.cdi.resolve sys'.disk.root id =
          [(config.cdi.claimFile claim.uid, config.cdi.claimDevice claim.uid device)] := by
  have start : Known config ⟨disk, none⟩ := by
    refine ⟨fun claims _ _ stored => ?_, nofun, nofun⟩
    rw [blank] at stored
    cases stored
  have before : Known config sys := run.invariant (fun _ _ _ known step => known.step step) start
  have after := before.step prepared
  obtain ⟨-, prepared⟩ := prepared
  cases prepared with
  | @prepare rt rt' handler driver _ outcomes before' after' _ ran =>
    have ours : (driver.withHandler handler).state.cdi = config.cdi := (driver.withHandler handler).cdi
    have ends := exec_prepare mayFail rt rt' (driver.withHandler handler).state claim outcomes before'
    rw [ran] at ends
    obtain ⟨claims, devices, spec, stored, recorded, same, allocatable, derived, found⟩ := ends.returned
    obtain ⟨accepted, valid, found'⟩ := prepare_accepted ran
    rw [ours] at derived found found' valid
    cases found.symm.trans found'
    refine ⟨driver, claims, devices, rfl, ?_, stored, recorded, same, ?_⟩
    · intro device member
      rw [← same] at member
      obtain ⟨whole, inside, rfl⟩ := List.mem_map.mp member
      exact allocatable whole inside
    · intro device member id inside other
      obtain ⟨named, ids⟩ := after.entries claims claim.uid devices stored recorded device member
      rw [ids, config.cdi.getClaimDevices_single] at inside
      rcases List.mem_cons.mp inside with common | own
      · exact absurd common other
      · rw [List.mem_singleton.mp own]
        exact resolve_known derived (unique _ valid) found (after.files rfl) member named

/-- The sample driver over a library that refuses a spec with two devices of one name. -/
def strictConfig : DriverConfig Unit :=
  { sampleConfig with cdi := { sampleHandler with cache := {
    minimumRequiredVersion := fun _ => .ok "0.3.0"
    validate := fun spec => if (spec.devices.map CdiDevice.name).Nodup then .ok ()
      else .error "invalid spec, multiple device" } } }

theorem strictConfig_unique (spec : CdiSpec)
    (accepted : strictConfig.cdi.cache.validate spec = .ok ()) :
    (spec.devices.map CdiDevice.name).Nodup := by
  by_contra twice
  have refused : strictConfig.cdi.cache.validate spec = .error "invalid spec, multiple device" :=
    if_neg twice
  rw [refused] at accepted
  cases accepted

/-- The names of two chips. -/
theorem twoChips_named :
    ∀ name ∈ reportedNames (sampleResources ["tt-0", "tt-1"]) "node", ProfileName name := by
  have listed : reportedNames (sampleResources ["tt-0", "tt-1"]) "node" =
      [deviceNameForChip 0, deviceNameForChip 1] := by decide
  intro name member
  rw [listed] at member
  rcases List.mem_cons.mp member with first | second
  · exact Or.inl ⟨0, first⟩
  · exact Or.inl ⟨1, List.mem_singleton.mp second⟩

/-- The driver of two chips. -/
def twoChips : Instance strictConfig := .started strictConfig (sampleResources ["tt-0", "tt-1"])

/-- The disk after a first start. -/
def startedDisk : Disk :=
  (Prog.exec (Disk.act noneFails) (newDeviceState strictConfig (sampleResources ["tt-0", "tt-1"]))
    (List.replicate 9 .done) { checkpoint := none, root := ∅ }).1

/-- The disk after the `Prepare` of one claim. -/
def oneClaimDisk : Disk :=
  (Prog.exec (Disk.act noneFails) ((twoChips.withHandler strictConfig.configHandler).state.prepare
    Runtime.plain Runtime.plain (sampleClaim uidB ["tt-1"])) (List.replicate 4 .done) startedDisk).1

/-- Two claims prepared after a first start: the ids of the second are found once. -/
theorem claims_resolve :
    ∃ sys sys', Run (NamedStep strictConfig noneFails sampleEqual)
        ⟨{ checkpoint := none, root := ∅ }, none⟩
        [.restart (sampleResources ["tt-0", "tt-1"]) true,
          .prepare (sampleClaim uidB ["tt-1"]) (some (.ok [(samplePrepared uidB "tt-1").device]))] sys ∧
      NamedStep strictConfig noneFails sampleEqual sys (.prepare (sampleClaim uidA ["tt-0"])
        (some (.ok [(samplePrepared uidA "tt-0").device]))) sys' ∧
      ∃ device, strictConfig.cdi.resolve sys'.disk.root "k8s.tenstorrent.com/tenstorrent=a1-tt-0" =
        [(strictConfig.cdi.claimFile uidA, strictConfig.cdi.claimDevice uidA device)] := by
  have run : Run (NamedStep strictConfig noneFails sampleEqual)
      ⟨{ checkpoint := none, root := ∅ }, none⟩
      [.restart (sampleResources ["tt-0", "tt-1"]) true,
        .prepare (sampleClaim uidB ["tt-1"]) (some (.ok [(samplePrepared uidB "tt-1").device]))]
      ⟨oneClaimDisk, some twoChips⟩ := by
    have started : Step strictConfig noneFails sampleEqual ⟨{ checkpoint := none, root := ∅ }, none⟩
        (.restart (sampleResources ["tt-0", "tt-1"]) true) ⟨startedDisk, some twoChips⟩ :=
      Step.of_restart none _ (List.replicate 9 .done) _ (by decide +kernel)
    have first : Step strictConfig noneFails sampleEqual ⟨startedDisk, some twoChips⟩
        (.prepare (sampleClaim uidB ["tt-1"]) (some (.ok [(samplePrepared uidB "tt-1").device])))
        ⟨oneClaimDisk, some twoChips⟩ :=
      Step.of_prepare Runtime.plain Runtime.plain strictConfig.configHandler twoChips _
        (List.replicate 4 .done) startedDisk (by decide +kernel)
    exact .snoc (.snoc (.nil _) ⟨twoChips_named, started⟩) ⟨trivial, first⟩
  have prepared : NamedStep strictConfig noneFails sampleEqual
      ⟨oneClaimDisk, some twoChips⟩
      (.prepare (sampleClaim uidA ["tt-0"]) (some (.ok [(samplePrepared uidA "tt-0").device]))) _ :=
    ⟨trivial, Step.of_prepare Runtime.plain Runtime.plain strictConfig.configHandler twoChips _
      (List.replicate 4 .done) oneClaimDisk (by decide +kernel)⟩
  obtain ⟨driver, claims, devices, -, -, -, -, same, resolves⟩ :=
    prepared_resolves strictConfig noneFails sampleEqual strictConfig_unique rfl run prepared
  have handed : (samplePrepared uidA "tt-0").device ∈ getDevices devices := by
    rw [same]
    exact List.mem_singleton_self _
  obtain ⟨device, member, here⟩ := List.mem_map.mp handed
  have ids : "k8s.tenstorrent.com/tenstorrent=a1-tt-0" ∈ device.device.cdiDeviceIds := by
    rw [here]
    decide
  exact ⟨_, _, run, prepared, device, resolves device member _ ids (by decide)⟩

end DraDriver.Plugin
