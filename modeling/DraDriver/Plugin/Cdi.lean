/-
**The CDI specs the driver publishes.**

`createClaimSpecFile` writes a claim's spec, `pruneClaimSpecFiles` removes every spec file of the
driver that no claim accounts for. The CDI library is not part of the driver: its version and
validity checks are parameters (`Cache`), its names and file paths are as documented.

* `claimFile_ne_common`, `claimFile_inj` — every claim has a file of its own, apart from the common
  one.
* **`pruneEntry_eq`** — the prune removes the driver's own `.yaml` and `.json` files, all but the
  `.yaml` files of the claims it keeps and the common one.
* `deviceEnvKey_append_decimal` — the environment key of a device keeps the number in its name.
-/

import DraDriver.Base.Text
import DraDriver.Plugin.Disk

namespace DraDriver.Plugin

open DraDriver.Base DraDriver.Profiles

/-! ### The CDI library -/

/-- The checks of the CDI library on a spec. -/
structure Cache where
  minimumRequiredVersion : CdiSpec → Except String String
  validate : CdiSpec → Except String Unit

/-- A name as the CDI library takes them: it starts with a character of one kind, ends in a letter
or a digit, and has letters, digits and a few others inside. -/
def validName (first : Char → Bool) (others : List Char) (name : String) : Bool :=
  name.toList.head?.any first && name.toList.getLast?.any Char.isAlphanum &&
    name.toList.all fun c => c.isAlphanum || others.contains c

/-- `cdiparser.ValidateVendorName`. -/
def validVendorName : String → Bool := validName Char.isAlpha ['_', '-', '.']

/-- `cdiparser.ValidateClassName`, which takes dots as well. -/
def validClassName : String → Bool := validName Char.isAlpha ['_', '-', '.']

/-- `cdiparser.ValidateDeviceName`. -/
def validDeviceName : String → Bool := validName Char.isAlphanum ['_', '-', '.', ':']

/-- `cdiapi.GenerateSpecName`. -/
def generateSpecName (vendor className : String) : String := vendor ++ "-" ++ className

/-- An id as it stands in a transient name: its slashes are not kept. -/
def cleanId (id : String) : String := String.ofList (id.toList.map fun c => if c = '/' then '_' else c)

/-- `cdiapi.GenerateTransientSpecName`. -/
def generateTransientSpecName (vendor className id : String) : String :=
  generateSpecName vendor className ++ "_" ++ cleanId id

theorem cleanId_eq {id : String} (free : '/' ∉ id.toList) : cleanId id = id := by
  have kept : id.toList.map (fun c => if c = '/' then '_' else c) = id.toList := by
    refine (List.map_congr_left fun c member => ?_).trans (List.map_id _)
    exact if_neg fun slash : c = '/' => free (slash ▸ member)
  rw [cleanId, kept, String.ofList_toList]

/-- `cdiparser.QualifiedName`. -/
def qualifiedName (vendor className name : String) : String :=
  vendor ++ "/" ++ className ++ "=" ++ name

/-- The file of a spec name: `.yaml` unless the name already has a spec extension. -/
def specFile (name : String) : String :=
  if fileExt name ≠ ".json" ∧ fileExt name ≠ ".yaml" then name ++ ".yaml" else name

/-- `cdiapi.Cache.WriteSpec`: a spec that is not valid is not written. -/
def Cache.writeSpec (cache : Cache) (spec : CdiSpec) (name : String) :
    DiskProg (Except String Unit) :=
  match cache.validate spec with
  | .error e => .ret (.error e)
  | .ok () => Prog.perform (DiskOp.writeSpec (specFile name) spec)

/-- A spec that is already gone is not an error. -/
def removeSpec (name : String) : DiskProg (Except String Unit) :=
  Prog.perform (DiskOp.removeSpec (specFile name))

/-! ### The handler -/

/-- `CDIHandler`; the driver, the class and the node give the names of its specs. -/
structure CDIHandler where
  cache : Cache
  root : String
  driverName : String
  className : String
  nodeName : String
  commonEdits : Option ContainerEdits

/-- The device that every claim gets beside its own. -/
def cdiCommonDeviceName : String := "common"

/-- The extensions a spec file can have. -/
def cdiSpecExtensions : List String := [".yaml", ".json"]

/-- `nonWord.ReplaceAllString(_, "_")`; the flag says that the current run has its underscore. -/
def replaceNonWord : Bool → List Char → List Char
  | _, [] => []
  | inRun, c :: chars =>
    if c.isAlphanum then c :: replaceNonWord false chars
    else if inRun then replaceNonWord true chars
    else '_' :: replaceNonWord true chars

/-- A device name as part of an environment variable. -/
def deviceEnvKey (deviceName : String) : String :=
  String.ofList ((replaceNonWord false deviceName.toList).map Char.toUpper)

theorem replaceNonWord_append {word : List Char} (alphanum : ∀ c ∈ word, c.isAlphanum = true) :
    ∀ (inRun : Bool) (chars : List Char),
      replaceNonWord inRun (chars ++ word) = replaceNonWord inRun chars ++ word
  | inRun, [] => by
    show replaceNonWord inRun word = word
    induction word generalizing inRun with
    | nil => rfl
    | cons c word ih =>
      have rest := ih (fun d member => alphanum d (List.mem_cons_of_mem _ member)) false
      simp only [replaceNonWord, alphanum c List.mem_cons_self, if_true, rest]
  | inRun, c :: chars => by
    simp only [List.cons_append, replaceNonWord, replaceNonWord_append alphanum _ chars]
    split
    · rfl
    · split <;> rfl

theorem toUpper_digit {c : Char} (digit : c.isDigit = true) : c.toUpper = c := by
  unfold Char.isDigit at digit
  unfold Char.toUpper
  simp only [Bool.and_eq_true, decide_eq_true_eq] at digit
  rw [dif_neg]
  rintro ⟨low, _⟩
  exact absurd (UInt32.le_trans low digit.2) (by decide)

theorem toUpper_eq_equals {c : Char} (upper : c.toUpper = '=') : c = '=' := by
  unfold Char.toUpper at upper
  split at upper
  · rename_i low
    have value := congrArg Char.val upper
    dsimp only at value
    have bound := UInt32.le_iff_toNat_le.mp low.1
    have above := UInt32.le_iff_toNat_le.mp low.2
    have sum := congrArg UInt32.toNat value
    rw [UInt32.toNat_add, UInt32.toNat_sub] at sum
    change 97 ≤ _ at bound
    change _ ≤ 122 at above
    change (_ + (4294967296 - 97 + 65) % 4294967296) % 4294967296 = 61 at sum
    omega
  · exact upper

/-- **The key of a device keeps the number its name ends in.** -/
theorem deviceEnvKey_append_decimal (text : String) (n : ℕ) :
    deviceEnvKey (text ++ decimal n) = deviceEnvKey text ++ decimal n := by
  have alphanum : ∀ c ∈ (decimal n).toList, c.isAlphanum = true := fun c member => by
    simp [Char.isAlphanum, decimal_digits member]
  have digits : (decimal n).toList.map Char.toUpper = (decimal n).toList :=
    (List.map_congr_left fun c member => toUpper_digit (decimal_digits member)).trans (List.map_id _)
  apply String.toList_inj.mp
  unfold deviceEnvKey
  rw [String.toList_append, replaceNonWord_append alphanum, List.map_append, digits]
  simp

namespace CDIHandler

variable (cdi : CDIHandler)

/-- The CDI vendor of the driver. -/
def vendor : String := "k8s." ++ cdi.driverName

/-- The CDI kind of every spec of the driver. -/
def kind : String := cdi.vendor ++ "/" ++ cdi.className

/-- The name of a claim's spec, or of the common one. -/
def claimSpecName (id : String) : String := generateTransientSpecName cdi.vendor cdi.className id

/-- The environment variable that tells a container its claim, without its value. -/
def claimEnvKey (deviceName : String) : String :=
  cdi.className.toUpper ++ "_DEVICE_" ++ deviceEnvKey deviceName ++ "_RESOURCE_CLAIM"

/-- The version is set last, on the spec that is otherwise complete. -/
def versioned (spec : CdiSpec) : Except String CdiSpec :=
  match cdi.cache.minimumRequiredVersion spec with
  | .error e => .error ("failed to get minimum required CDI spec version: " ++ e)
  | .ok version => .ok { spec with version := version }

/-- The content of the common spec file. -/
def commonSpec : Except String CdiSpec :=
  cdi.versioned
    { version := ""
      kind := cdi.kind
      devices := [
        { name := cdiCommonDeviceName
          containerEdits := ContainerEdits.append
            { env := ["KUBERNETES_NODE_NAME=" ++ cdi.nodeName,
                "DRA_RESOURCE_DRIVER_NAME=" ++ cdi.driverName] } cdi.commonEdits }] }

/-- `CreateCommonSpecFile`. -/
def createCommonSpecFile : DiskProg (Except String Unit) :=
  match cdi.commonSpec with
  | .error e => .ret (.error e)
  | .ok spec => cdi.cache.writeSpec spec (cdi.claimSpecName cdiCommonDeviceName)

/-- A prepared device in the spec of its claim: its own edits, with the claim and its flag in the
environment. -/
def claimDevice (claimUID : ClaimUID) (device : PreparedDevice) : CdiDevice :=
  { name := claimUID.text ++ "-" ++ device.device.deviceName
    containerEdits := ContainerEdits.append
      { env := [cdi.claimEnvKey device.device.deviceName ++ "=" ++ claimUID.text,
          "DRA_ADMIN_ACCESS=" ++ toString device.adminAccess] } device.containerEdits }

/-- **The content of a claim's spec file**: a function of the claim and its devices alone. -/
def claimSpec (claimUID : ClaimUID) (devices : PreparedDevices) : Except String CdiSpec :=
  cdi.versioned
    { version := ""
      kind := cdi.kind
      devices := (rangeDevices devices).map (cdi.claimDevice claimUID) }

/-- `CreateClaimSpecFile`. -/
def createClaimSpecFile (claimUID : ClaimUID) (devices : PreparedDevices) :
    DiskProg (Except String Unit) :=
  match cdi.claimSpec claimUID devices with
  | .error e => .ret (.error e)
  | .ok spec => cdi.cache.writeSpec spec (cdi.claimSpecName claimUID.text)

/-- `DeleteClaimSpecFile`. -/
def deleteClaimSpecFile (claimUID : ClaimUID) : DiskProg (Except String Unit) :=
  removeSpec (cdi.claimSpecName claimUID.text)

/-- The lead of every spec name of the driver. -/
def specLead : String := generateSpecName cdi.vendor cdi.className ++ "_"

/-- The spec names the prune leaves alone. -/
def keepNames (claimUIDs : List ClaimUID) : List String :=
  cdi.claimSpecName cdiCommonDeviceName :: claimUIDs.map fun uid => cdi.claimSpecName uid.text

/-- What the prune makes of an attempt to remove a file. -/
def pruneResult (removed : List String) (name : String) :
    Except String Unit → Except (List String × String) (List String)
  | .error e => .error (removed, "unable to remove the orphaned CDI spec " ++ quote name ++ ": " ++ e)
  | .ok () => .ok (removed ++ [name])

/-- One directory entry of the prune loop. -/
def pruneEntry (keep : List String) (removed : List String) (entry : String × Bool) :
    DiskProg (Except (List String × String) (List String)) :=
  let (name, isDir) := entry
  let ext := fileExt name
  let specName := trimSuffix name ext
  if isDir then return .ok removed
  else if ext ∉ cdiSpecExtensions then return .ok removed
  else if !hasPrefix specName cdi.specLead then return .ok removed
  else if ext = ".yaml" ∧ specName ∈ keep then return .ok removed
  else do return pruneResult removed name (← removeSpec name)

/-- The removed files, and the error that ended the loop early. -/
def pruneClaimSpecFiles (claimUIDs : List ClaimUID) : DiskProg (List String × Option String) := do
  match ← readRoot with
  | .error e => return ([], some ("unable to read the CDI root " ++ quote cdi.root ++ ": " ++ e))
  | .ok entries =>
    match ← Prog.foldEach (cdi.pruneEntry (cdi.keepNames claimUIDs)) entries [] with
    | .error (removed, e) => return (removed, some e)
    | .ok removed => return (removed, none)

/-- The CDI ids the kubelet is given for a claim's devices, the common one first. -/
def getClaimDevices (claimUID : ClaimUID) (devices : List String) : List String :=
  qualifiedName cdi.vendor cdi.className cdiCommonDeviceName ::
    devices.map fun device => qualifiedName cdi.vendor cdi.className (claimUID.text ++ "-" ++ device)

/-! ### Files -/

/-- The file of a claim's spec. -/
def claimFile (claimUID : ClaimUID) : String := specFile (cdi.claimSpecName claimUID.text)

/-- The file of the common spec. -/
def commonFile : String := specFile (cdi.claimSpecName cdiCommonDeviceName)

/-- The files the prune leaves alone. -/
def keepFiles (claimUIDs : List ClaimUID) : List String :=
  cdi.commonFile :: claimUIDs.map cdi.claimFile

/-- A name of one of the driver's spec files. -/
def managed (name : String) : Bool :=
  decide (fileExt name ∈ cdiSpecExtensions) && hasPrefix (trimSuffix name (fileExt name)) cdi.specLead

theorem uid_inExt (claimUID : ClaimUID) : claimUID.text.toList.all inExt = true := by
  refine List.all_eq_true.mpr fun c member => ?_
  have isChar := List.all_eq_true.mp claimUID.chars c member
  have notDot : c ≠ '.' := by
    rintro rfl
    revert isChar
    decide
  have notSlash : c ≠ '/' := by
    rintro rfl
    revert isChar
    decide
  simp [inExt, notDot, notSlash]

theorem uid_ne_common (claimUID : ClaimUID) : claimUID.text ≠ cdiCommonDeviceName := by
  intro same
  have isChar := List.all_eq_true.mp claimUID.chars 'o' (by rw [same]; decide)
  revert isChar
  decide

/-- An id without a dot or a slash is the end of its spec name as it is. -/
theorem claimSpecName_eq (id : String) (inside : id.toList.all inExt = true) :
    cdi.claimSpecName id = cdi.specLead ++ id := by
  have free : '/' ∉ id.toList := by
    intro slash
    have within := List.all_eq_true.mp inside '/' slash
    revert within
    decide
  show cdi.specLead ++ cleanId id = _
  rw [cleanId_eq free]

/-- The underscore before the id keeps it from being read as an extension. -/
theorem specFile_claimSpecName (id : String) (inside : id.toList.all inExt = true) :
    specFile (cdi.claimSpecName id) = cdi.specLead ++ id ++ ".yaml" := by
  rw [claimSpecName_eq cdi id inside]
  have split : cdi.specLead ++ id = generateSpecName cdi.vendor cdi.className ++ ("_" ++ id) :=
    String.append_assoc
  have within : ("_" ++ id).toList.all inExt = true := by
    rw [String.toList_append, List.all_append, inside]
    rfl
  have underscore : ∀ ext : String, '_' ∉ ext.toList → ext ≠ "" → fileExt (cdi.specLead ++ id) ≠ ext := by
    intro ext free nonempty same
    rw [split] at same
    rcases fileExt_ends (generateSpecName cdi.vendor cdi.className) ("_" ++ id) within with none | ends
    · exact nonempty (same.symm.trans none)
    · rw [same] at ends
      exact free (ends.subset (by simp))
  unfold specFile
  rw [if_pos ⟨underscore ".json" (by decide) (by decide), underscore ".yaml" (by decide) (by decide)⟩]

theorem claimFile_eq (claimUID : ClaimUID) :
    cdi.claimFile claimUID = cdi.specLead ++ claimUID.text ++ ".yaml" :=
  specFile_claimSpecName cdi claimUID.text (uid_inExt claimUID)

theorem commonFile_eq : cdi.commonFile = cdi.specLead ++ cdiCommonDeviceName ++ ".yaml" :=
  specFile_claimSpecName cdi cdiCommonDeviceName (by decide)

/-- **Every claim has a file of its own.** -/
theorem claimFile_inj {u v : ClaimUID} (same : cdi.claimFile u = cdi.claimFile v) : u = v := by
  rw [claimFile_eq, claimFile_eq] at same
  exact ClaimUID.ext ((String.append_right_inj _).mp ((String.append_left_inj _).mp same))

theorem claimFile_ne_common (claimUID : ClaimUID) : cdi.claimFile claimUID ≠ cdi.commonFile := by
  intro same
  rw [claimFile_eq, commonFile_eq] at same
  exact uid_ne_common claimUID
    ((String.append_right_inj _).mp ((String.append_left_inj _).mp same))

theorem managed_yaml (id : String) : cdi.managed (cdi.specLead ++ id ++ ".yaml") = true := by
  have ext : fileExt (cdi.specLead ++ id ++ ".yaml") = ".yaml" :=
    fileExt_append (cdi.specLead ++ id) "yaml" (by decide)
  unfold managed
  rw [ext, trimSuffix_append]
  exact Bool.and_eq_true_iff.mpr ⟨by decide, hasPrefix_iff.mpr ⟨id, rfl⟩⟩

theorem managed_claimFile (claimUID : ClaimUID) : cdi.managed (cdi.claimFile claimUID) = true := by
  rw [claimFile_eq]
  exact managed_yaml cdi claimUID.text

theorem managed_commonFile : cdi.managed cdi.commonFile = true := by
  rw [commonFile_eq]
  exact managed_yaml cdi cdiCommonDeviceName

/-! ### The prune -/

/-- The `.yaml` files of a kept name are the kept files. -/
theorem kept_iff (name : String) (claimUIDs : List ClaimUID) :
    (fileExt name = ".yaml" ∧ trimSuffix name (fileExt name) ∈ cdi.keepNames claimUIDs) ↔
      name ∈ cdi.keepFiles claimUIDs := by
  have whole := trimSuffix_fileExt name
  have keep : cdi.keepFiles claimUIDs = (cdi.keepNames claimUIDs).map (· ++ ".yaml") := by
    unfold keepFiles keepNames
    rw [List.map_cons, List.map_map]
    refine congrArg₂ List.cons ?_ (List.map_congr_left fun uid _ => ?_)
    · rw [commonFile_eq, claimSpecName_eq cdi _ (by decide)]
    · rw [claimFile_eq, Function.comp_apply, claimSpecName_eq cdi _ (uid_inExt uid)]
  rw [keep, List.mem_map]
  constructor
  · rintro ⟨yaml, kept⟩
    rw [yaml] at kept whole
    exact ⟨_, kept, whole⟩
  · rintro ⟨stem, kept, same⟩
    have yaml : fileExt name = ".yaml" := by
      rw [← same]
      exact fileExt_append stem "yaml" (by decide)
    refine ⟨yaml, ?_⟩
    rwa [yaml, ← same, trimSuffix_append]

/-- A driver's file is removed under its own name. -/
theorem specFile_managed {name : String} (own : cdi.managed name = true) : specFile name = name := by
  have ext : fileExt name ∈ cdiSpecExtensions :=
    of_decide_eq_true (Bool.and_eq_true_iff.mp own).1
  unfold specFile
  rw [if_neg]
  rintro ⟨notJson, notYaml⟩
  simp only [cdiSpecExtensions, List.mem_cons, List.not_mem_nil, or_false] at ext
  exact ext.elim notYaml notJson

/-- A file of the driver that no kept claim accounts for. -/
def orphan (claimUIDs : List ClaimUID) (entry : String × Bool) : Bool :=
  !entry.2 && cdi.managed entry.1 && decide (entry.1 ∉ cdi.keepFiles claimUIDs)

/-- **The prune removes the orphans and nothing else.** -/
theorem pruneEntry_eq (claimUIDs : List ClaimUID) (removed : List String) (entry : String × Bool) :
    cdi.pruneEntry (cdi.keepNames claimUIDs) removed entry =
      if cdi.orphan claimUIDs entry then
        .call (.removeSpec entry.1) fun answer => .ret (pruneResult removed entry.1 answer)
      else .ret (.ok removed) := by
  obtain ⟨name, isDir⟩ := entry
  unfold pruneEntry orphan
  simp only
  by_cases directory : isDir = true
  · rw [if_pos directory, if_neg (by simp [directory])]
    rfl
  · rw [if_neg directory]
    by_cases ext : fileExt name ∈ cdiSpecExtensions
    · rw [if_neg (not_not.mpr ext)]
      by_cases lead : hasPrefix (trimSuffix name (fileExt name)) cdi.specLead = true
      · rw [if_neg (by simp [lead])]
        have own : cdi.managed name = true :=
          Bool.and_eq_true_iff.mpr ⟨decide_eq_true ext, lead⟩
        by_cases kept : name ∈ cdi.keepFiles claimUIDs
        · rw [if_pos ((kept_iff cdi name claimUIDs).mpr kept), if_neg (by simp [kept])]
          rfl
        · rw [if_neg fun both => kept ((kept_iff cdi name claimUIDs).mp both),
            if_pos (by simp [directory, own, kept]), removeSpec, specFile_managed cdi own]
          rfl
      · rw [if_pos (by simp [lead]), if_neg (by simp [managed, lead])]
        rfl
    · rw [if_pos ext, if_neg (by simp [managed, ext])]
      rfl

end CDIHandler

/-- What a claim's spec holds, whatever version it was given. -/
theorem claimSpec_eq {cdi : CDIHandler} {uid : ClaimUID} {devices : PreparedDevices} {spec : CdiSpec}
    (derived : cdi.claimSpec uid devices = .ok spec) :
    spec.kind = cdi.kind ∧ spec.devices = (rangeDevices devices).map (cdi.claimDevice uid) := by
  unfold CDIHandler.claimSpec CDIHandler.versioned at derived
  split at derived
  · cases derived
  · cases derived
    exact ⟨rfl, rfl⟩

/-- The handler of the default driver name, over a library that accepts every spec. -/
def sampleHandler : CDIHandler where
  cache := { minimumRequiredVersion := fun _ => .ok "0.3.0", validate := fun _ => .ok () }
  root := "/var/run/cdi"
  driverName := "tenstorrent.com"
  className := "tenstorrent"
  nodeName := "node"
  commonEdits := none

end DraDriver.Plugin
