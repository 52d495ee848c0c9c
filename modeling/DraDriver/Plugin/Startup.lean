/-
**Startup: what `NewDeviceState` makes of a disk.**

* `Starting` — every point of a startup: the checkpoint is as it was (created if absent), and each
  file of the root is as it was, is the common spec or a valid claim's, or is gone because it is the
  driver's and no valid claim accounts for it.
* `Settled` — what a finished reconciliation has reached: the common spec, every valid claim's spec,
  and no other file of the driver.
* **`exec_newDeviceState`** — every run stays `Starting`, and one that succeeds ends `Settled`.
-/

import DraDriver.Plugin.Ends

namespace DraDriver.Plugin

open DraDriver.Base DraDriver.Profiles DraDriver.Tenstorrent

variable {Config : Type}

/-! ### Valid claims -/

/-- Every device the checkpoint records for the claim is allocatable. -/
def DeviceState.valid (s : DeviceState Config) (claims : PreparedClaims) (uid : ClaimUID) : Bool :=
  (rangeDevices (claims.lookup uid).join).all fun device => decide (device.device.deviceName ∈ s.allocatable)

/-- The checkpointed claims whose spec files a startup regenerates. -/
def DeviceState.validClaims (s : DeviceState Config) (claims : PreparedClaims) : List ClaimUID :=
  (sortedKeys ClaimUID.text claims).filter (s.valid claims)

theorem validate_eq_ok_iff (s : DeviceState Config) (uid : ClaimUID) (devices : PreparedDevices) :
    s.validatePreparedDevices uid devices = .ok () ↔
      ∀ device ∈ rangeDevices devices, device.device.deviceName ∈ s.allocatable := by
  unfold DeviceState.validatePreparedDevices
  cases found : (rangeDevices devices).find? fun device => device.device.deviceName ∉ s.allocatable with
  | none =>
    have all := List.find?_eq_none.mp found
    simpa using all
  | some device =>
    have missing := List.find?_some found
    constructor
    · intro wrong
      cases wrong
    · intro all
      have known := all device (List.mem_of_find?_eq_some found)
      simp [known] at missing

theorem valid_iff (s : DeviceState Config) (claims : PreparedClaims) (uid : ClaimUID) :
    s.valid claims uid = true ↔
      s.validatePreparedDevices uid (claims.lookup uid).join = .ok () := by
  rw [validate_eq_ok_iff]
  simp [DeviceState.valid]

theorem mem_validClaims {s : DeviceState Config} {claims : PreparedClaims} {uid : ClaimUID} :
    uid ∈ s.validClaims claims ↔ uid ∈ claims ∧ s.valid claims uid = true := by
  unfold DeviceState.validClaims
  rw [List.mem_filter, mem_sortedKeys]

theorem claimFile_mem_keepFiles {cdi : CDIHandler} {uids : List ClaimUID} {uid : ClaimUID} :
    cdi.claimFile uid ∈ cdi.keepFiles uids ↔ uid ∈ uids := by
  unfold CDIHandler.keepFiles
  rw [List.mem_cons, List.mem_map]
  constructor
  · rintro (common | ⟨other, inside, same⟩)
    · exact absurd common (cdi.claimFile_ne_common uid)
    · exact cdi.claimFile_inj same ▸ inside
  · exact fun inside => Or.inr ⟨uid, inside, rfl⟩

/-! ### Every point of a startup -/

/-- What a startup can have made of one file. -/
inductive StartEntry (s : DeviceState Config) (claims : PreparedClaims) (name : String)
    (old : Option RootEntry) : Option RootEntry → Prop
  | same : StartEntry s claims name old old
  | common (spec) : name = s.cdi.commonFile → s.cdi.commonSpec = .ok spec →
      StartEntry s claims name old (some (.spec spec))
  | claim (uid spec) : name = s.cdi.claimFile uid → uid ∈ s.validClaims claims →
      s.cdi.claimSpec uid (claims.lookup uid).join = .ok spec →
      StartEntry s claims name old (some (.spec spec))
  | pruned : s.cdi.managed name = true → name ∉ s.cdi.keepFiles (s.validClaims claims) →
      (∀ empty, old ≠ some (.dir empty)) → StartEntry s claims name old none

/-- **A point of a startup** that began with `disk`. -/
structure Starting (s : DeviceState Config) (disk after : Disk) : Prop where
  checkpoint : after.checkpoint = disk.checkpoint ∨
    disk.checkpoint = none ∧ after.checkpoint = some ∅
  entries : ∀ name, StartEntry s (disk.checkpoint.getD ∅) name (disk.root.lookup name)
    (after.root.lookup name)

namespace Starting

variable {s : DeviceState Config} {disk after : Disk}

theorem refl (s : DeviceState Config) (disk : Disk) : Starting s disk disk where
  checkpoint := Or.inl rfl
  entries _ := .same

theorem putCheckpoint (starting : Starting s disk after) (absent : disk.checkpoint = none) :
    Starting s disk (after.putCheckpoint ∅) where
  checkpoint := Or.inr ⟨absent, rfl⟩
  entries := starting.entries

theorem putCommon (starting : Starting s disk after) {spec : CdiSpec}
    (derived : s.cdi.commonSpec = .ok spec) : Starting s disk (after.putSpec s.cdi.commonFile spec) where
  checkpoint := starting.checkpoint
  entries name := by
    rw [putSpec_lookup]
    split
    · rename_i here
      exact .common spec here derived
    · exact starting.entries name

theorem putClaim (starting : Starting s disk after) {uid : ClaimUID} {spec : CdiSpec}
    (valid : uid ∈ s.validClaims (disk.checkpoint.getD ∅))
    (derived : s.cdi.claimSpec uid ((disk.checkpoint.getD ∅).lookup uid).join = .ok spec) :
    Starting s disk (after.putSpec (s.cdi.claimFile uid) spec) where
  checkpoint := starting.checkpoint
  entries name := by
    rw [putSpec_lookup]
    split
    · rename_i here
      exact .claim uid spec here valid derived
    · exact starting.entries name

/-- A kept file is the common one or a valid claim's, so an orphan was there before, or was
removed already. -/
theorem old_of_orphan (starting : Starting s disk after) {name : String}
    (stray : name ∉ s.cdi.keepFiles (s.validClaims (disk.checkpoint.getD ∅))) :
    after.root.lookup name = disk.root.lookup name ∨
      after.root.lookup name = none ∧ ∀ empty, disk.root.lookup name ≠ some (.dir empty) := by
  have entry := starting.entries name
  generalize now : after.root.lookup name = current at entry
  cases entry with
  | same => exact Or.inl rfl
  | common spec here _ => exact absurd (here ▸ List.mem_cons_self) stray
  | claim uid spec here valid _ => exact absurd (here ▸ claimFile_mem_keepFiles.mpr valid) stray
  | pruned _ _ file => exact Or.inr ⟨rfl, file⟩

theorem dropOrphan (starting : Starting s disk after) {name : String}
    (own : s.cdi.managed name = true)
    (stray : name ∉ s.cdi.keepFiles (s.validClaims (disk.checkpoint.getD ∅)))
    (file : ∀ empty, after.root.lookup name ≠ some (.dir empty)) :
    Starting s disk (after.dropFile name) where
  checkpoint := starting.checkpoint
  entries other := by
    rw [dropFile_lookup]
    split
    · rename_i here
      subst here
      refine .pruned own stray fun empty => ?_
      rcases starting.old_of_orphan stray with same | ⟨_, old⟩
      · exact same ▸ file empty
      · exact old empty
    · exact starting.entries other

end Starting

/-! ### What a startup has reached -/

/-- The common spec and the specs of these claims are in place. -/
structure InPlace (s : DeviceState Config) (claims : PreparedClaims) (uids : List ClaimUID)
    (root : GoMap String RootEntry) : Prop where
  common : ∃ spec, s.cdi.commonSpec = .ok spec ∧ root.lookup s.cdi.commonFile = some (.spec spec)
  claim : ∀ uid ∈ uids, ∃ spec, s.cdi.claimSpec uid (claims.lookup uid).join = .ok spec ∧
    root.lookup (s.cdi.claimFile uid) = some (.spec spec)

/-- **A reconciled root**: the common spec, the valid claims' specs and no other file of the
driver. -/
structure Settled (s : DeviceState Config) (claims : PreparedClaims)
    (root : GoMap String RootEntry) : Prop extends InPlace s claims (s.validClaims claims) root where
  only : ∀ name, s.cdi.managed name = true → name ∉ s.cdi.keepFiles (s.validClaims claims) →
    ∀ entry, root.lookup name = some entry → entry.isDir = true

theorem InPlace.putClaim {s : DeviceState Config} {claims : PreparedClaims} {uids : List ClaimUID}
    {disk : Disk} (place : InPlace s claims uids disk.root) {uid : ClaimUID} {spec : CdiSpec}
    (derived : s.cdi.claimSpec uid (claims.lookup uid).join = .ok spec) :
    InPlace s claims (uids ++ [uid]) (disk.putSpec (s.cdi.claimFile uid) spec).root where
  common := by
    obtain ⟨common, derivedCommon, stored⟩ := place.common
    refine ⟨common, derivedCommon, ?_⟩
    rw [putSpec_lookup, if_neg (s.cdi.claimFile_ne_common uid).symm, stored]
  claim other inside := by
    by_cases here : other = uid
    · subst here
      exact ⟨spec, derived, by rw [putSpec_lookup, if_pos rfl]⟩
    · have before : other ∈ uids := by simpa [here] using inside
      obtain ⟨old, derivedOld, stored⟩ := place.claim other before
      refine ⟨old, derivedOld, ?_⟩
      rw [putSpec_lookup, if_neg fun same => here (s.cdi.claimFile_inj same), stored]

theorem InPlace.dropOrphan {s : DeviceState Config} {claims : PreparedClaims} {uids : List ClaimUID}
    {disk : Disk} (place : InPlace s claims uids disk.root) {name : String}
    (stray : name ∉ s.cdi.keepFiles uids) : InPlace s claims uids (disk.dropFile name).root where
  common := by
    obtain ⟨common, derived, stored⟩ := place.common
    have other : s.cdi.commonFile ≠ name := fun same => stray (same ▸ List.mem_cons_self)
    refine ⟨common, derived, ?_⟩
    rw [dropFile_lookup, if_neg other, stored]
  claim uid inside := by
    obtain ⟨spec, derived, stored⟩ := place.claim uid inside
    have other : s.cdi.claimFile uid ≠ name := fun same =>
      stray (same ▸ claimFile_mem_keepFiles.mpr inside)
    refine ⟨spec, derived, ?_⟩
    rw [dropFile_lookup, if_neg other, stored]

/-! ### The two loops -/

section Loops

variable {mayFail : DiskOp → Bool} {s : DeviceState Config} {disk : Disk} {claims : PreparedClaims}

/-- What the regeneration loop keeps over the claims it has seen. -/
structure Regenerating (s : DeviceState Config) (disk : Disk) (claims : PreparedClaims)
    (done valid : List ClaimUID) (after : Disk) : Prop where
  starting : Starting s disk after
  stored : after.checkpoint = some claims
  collected : valid = done.filter (s.valid claims)
  place : InPlace s claims valid after.root

theorem ensures_regenerate (same : disk.checkpoint.getD ∅ = claims) {done valid : List ClaimUID}
    {uid : ClaimUID} (inside : uid ∈ claims) {after : Disk}
    (loop : Regenerating s disk claims done valid after) :
    Prog.Ensures (Disk.act mayFail) (Starting s disk) (s.regenerate claims valid uid)
      (Prog.onResult (fun after valid => Regenerating s disk claims (done ++ [uid]) valid after)
        fun _ _ => True) after := by
  unfold DeviceState.regenerate
  have filtered := List.filter_append (p := s.valid claims) done [uid]
  by_cases ok : s.valid claims uid = true
  · have kept : [uid].filter (s.valid claims) = [uid] := by simp [ok]
    simp only
    rw [(valid_iff s claims uid).mp ok]
    refine Prog.ensures_bind.mpr (ensures_createClaimSpecFile loop.starting
      (fun e => ⟨loop.starting, trivial⟩) fun spec derived _ => ?_)
    have starting := loop.starting.putClaim (same ▸ mem_validClaims.mpr ⟨inside, ok⟩)
      (same ▸ derived)
    exact ⟨starting, starting, starting, loop.stored, by rw [filtered, kept, loop.collected],
      loop.place.putClaim derived⟩
  · have dropped : [uid].filter (s.valid claims) = [] := by simp [ok]
    simp only
    cases invalid : s.validatePreparedDevices uid (claims.lookup uid).join with
    | ok _ => exact absurd ((valid_iff s claims uid).mpr invalid) ok
    | error e =>
      exact ⟨loop.starting, loop.starting, loop.stored,
        by rw [filtered, dropped, List.append_nil, loop.collected], loop.place⟩

/-- What the prune loop keeps over the directory entries it has seen; `listed` is the root it
lists. -/
structure Pruning (s : DeviceState Config) (disk : Disk) (claims : PreparedClaims)
    (listed : GoMap String RootEntry) (done : List (String × Bool)) (after : Disk) : Prop where
  starting : Starting s disk after
  stored : after.checkpoint = some claims
  place : InPlace s claims (s.validClaims claims) after.root
  shrinks : ∀ name entry, after.root.lookup name = some entry → listed.lookup name = some entry
  gone : ∀ entry ∈ done, s.cdi.orphan (s.validClaims claims) entry = true →
    after.root.lookup entry.1 = none

theorem orphan_iff {cdi : CDIHandler} {uids : List ClaimUID} {entry : String × Bool} :
    cdi.orphan uids entry = true ↔
      entry.2 = false ∧ cdi.managed entry.1 = true ∧ entry.1 ∉ cdi.keepFiles uids := by
  unfold CDIHandler.orphan
  simp only [Bool.and_eq_true, Bool.not_eq_true', decide_eq_true_eq, and_assoc]

/-- **A prune lists the root and removes orphans**, and does nothing else. -/
theorem only_prune {P : DiskOp → Prop} {A : (o : DiskOp) → o.Answer → Prop} (cdi : CDIHandler)
    (uids : List ClaimUID) (lists : P .readDir)
    (removes : ∀ name, cdi.managed name = true → name ∉ cdi.keepFiles uids → P (.removeSpec name)) :
    (cdi.pruneClaimSpecFiles uids).Only P A := by
  have listing : readRoot.Only P A := ⟨lists, fun _ _ => trivial⟩
  have body : ∀ removed entry, (cdi.pruneEntry (cdi.keepNames uids) removed entry).Only P A := by
    intro removed entry
    rw [CDIHandler.pruneEntry_eq]
    split
    · next orphan =>
      obtain ⟨-, own, stray⟩ := orphan_iff.mp orphan
      exact ⟨removes entry.1 own stray, fun _ _ => trivial⟩
    · trivial
  refine Prog.only_bind listing fun r => ?_
  cases r with
  | error e => trivial
  | ok entries =>
    refine Prog.only_bind (Prog.only_foldEach body entries []) fun r => ?_
    cases r <;> trivial

theorem Pruning.dropOrphan (same : disk.checkpoint.getD ∅ = claims)
    {listed : GoMap String RootEntry} {done : List (String × Bool)} {entry : String × Bool}
    (inside : entry ∈ readDir listed) {after : Disk} (loop : Pruning s disk claims listed done after)
    (orphan : s.cdi.orphan (s.validClaims claims) entry = true) :
    Pruning s disk claims listed (done ++ [entry]) (after.dropFile entry.1) := by
  obtain ⟨file, own, stray⟩ := orphan_iff.mp orphan
  refine ⟨loop.starting.dropOrphan own (same ▸ stray) ?_, loop.stored, loop.place.dropOrphan stray,
    ?_, ?_⟩
  · intro empty isDir
    obtain ⟨content, found, kind⟩ := mem_readDir.mp inside
    have directory := Option.some.inj (found.symm.trans (loop.shrinks _ _ isDir))
    rw [directory, file] at kind
    cases kind
  · intro name content found
    rw [dropFile_lookup] at found
    split at found
    · cases found
    · exact loop.shrinks name content found
  · intro other seen orphaned
    rw [dropFile_lookup]
    split
    · rfl
    · rename_i different
      rcases List.mem_append.mp seen with before | now
      · exact loop.gone other before orphaned
      · rw [List.mem_singleton.mp now] at different
        exact absurd rfl different

theorem Pruning.skip {listed : GoMap String RootEntry} {done : List (String × Bool)}
    {entry : String × Bool} {after : Disk} (loop : Pruning s disk claims listed done after)
    (kept : ¬ s.cdi.orphan (s.validClaims claims) entry = true) :
    Pruning s disk claims listed (done ++ [entry]) after :=
  { loop with
    gone := fun other seen orphaned => by
      rcases List.mem_append.mp seen with before | now
      · exact loop.gone other before orphaned
      · exact absurd (List.mem_singleton.mp now ▸ orphaned) kept }

theorem ensures_pruneEntry (same : disk.checkpoint.getD ∅ = claims)
    {listed : GoMap String RootEntry} {done : List (String × Bool)} {entry : String × Bool}
    (inside : entry ∈ readDir listed) {removed : List String} {after : Disk}
    (loop : Pruning s disk claims listed done after) :
    Prog.Ensures (Disk.act mayFail) (Starting s disk)
      (s.cdi.pruneEntry (s.cdi.keepNames (s.validClaims claims)) removed entry)
      (Prog.onResult (fun after _ => Pruning s disk claims listed (done ++ [entry]) after)
        fun _ _ => True) after := by
  rw [CDIHandler.pruneEntry_eq]
  by_cases orphan : s.cdi.orphan (s.validClaims claims) entry = true
  · rw [if_pos orphan]
    refine ⟨loop.starting, fun q => ?_⟩
    rcases act_removeSpec mayFail after q entry.1 with ⟨e, answer⟩ | answer
    · rw [answer]
      exact ⟨loop.starting, trivial⟩
    · rw [answer]
      have next := loop.dropOrphan same inside orphan
      exact ⟨next.starting, next⟩
  · rw [if_neg orphan]
    exact ⟨loop.starting, loop.skip orphan⟩

theorem Pruning.settled {listed : GoMap String RootEntry} {after : Disk}
    (loop : Pruning s disk claims listed (readDir listed) after) : Settled s claims after.root :=
  { loop.place with
    only := fun name own stray entry found => by
      -- A file that is still there was listed, and listed as a file it would have been removed.
      by_contra file
      have isFile : entry.isDir = false := by simpa using file
      have listedHere : (name, entry.isDir) ∈ readDir listed :=
        mem_readDir.mpr ⟨entry, loop.shrinks name entry found, rfl⟩
      have removed := loop.gone _ listedHere (orphan_iff.mpr ⟨isFile, own, stray⟩)
      rw [found] at removed
      cases removed }

/-- The prune, after a finished regeneration. -/
theorem ensures_prune (same : disk.checkpoint.getD ∅ = claims) {after : Disk}
    (starting : Starting s disk after) (stored : after.checkpoint = some claims)
    (place : InPlace s claims (s.validClaims claims) after.root) :
    Prog.Ensures (Disk.act mayFail) (Starting s disk)
      (s.cdi.pruneClaimSpecFiles (s.validClaims claims))
      (fun after result => result.2 = none →
        after.checkpoint = some claims ∧ Settled s claims after.root) after := by
  unfold CDIHandler.pruneClaimSpecFiles
  refine Prog.ensures_bind.mpr (ensures_readRoot starting (fun e => ⟨starting, fun none => by cases none⟩) ?_)
  have loop : Pruning s disk claims after.root [] after :=
    ⟨starting, stored, place, fun _ _ found => found, fun _ none => by cases none⟩
  refine Prog.ensures_bind.mpr (Prog.Ensures.mono (fun _ point => point) ?_
    (Prog.ensures_foldEach (fun done _ now => Pruning s disk claims after.root done now)
      (fun _ _ => True) (fun _ _ _ loop => loop.starting) (readDir after.root) []
      (fun entry inside done removed now loop => ensures_pruneEntry same inside loop) [] after loop))
  intro last result point ended
  cases result with
  | error e => exact ⟨point, fun none => by cases none⟩
  | ok removed => exact ⟨point, fun _ => ⟨ended.stored, ended.settled⟩⟩

theorem ensures_reconcile (same : disk.checkpoint.getD ∅ = claims) {after : Disk}
    (starting : Starting s disk after) (stored : after.checkpoint = some claims)
    (common : InPlace s claims [] after.root) :
    Prog.Ensures (Disk.act mayFail) (Starting s disk) s.reconcileCDISpecs
      (fun after result => result = .ok () →
        after.checkpoint = some claims ∧ Settled s claims after.root) after := by
  unfold DeviceState.reconcileCDISpecs
  refine Prog.ensures_bind.mpr (ensures_getCheckpoint starting
    (fun _ e => ⟨starting, fun wrong => by cases wrong⟩) fun read found => ?_)
  have isRead : read = claims := Option.some.inj (found.symm.trans stored)
  subst isRead
  have loop : Regenerating s disk read [] [] after := ⟨starting, stored, rfl, common⟩
  refine Prog.ensures_bind.mpr (Prog.Ensures.mono (fun _ point => point) ?_
    (Prog.ensures_foldEach (Regenerating s disk read) (fun _ _ => True)
      (fun _ _ _ loop => loop.starting) (sortedKeys ClaimUID.text read) []
      (fun uid inside done valid now loop => ensures_regenerate same (mem_sortedKeys.mp inside) loop)
      [] after loop))
  intro now result point ended
  cases result with
  | error e => exact ⟨point, fun wrong => by cases wrong⟩
  | ok valid =>
    have collected : valid = s.validClaims read := ended.collected
    subst collected
    refine Prog.ensures_bind.mpr (Prog.Ensures.mono (fun _ point => point) ?_
      (ensures_prune same ended.starting ended.stored ended.place))
    rintro last ⟨removed, error⟩ point settled
    cases error with
    | some e => exact ⟨point, fun wrong => by cases wrong⟩
    | none => exact ⟨point, fun _ => settled rfl⟩

end Loops

/-- **Every run of `NewDeviceState`** stays a startup of its disk, and one that succeeds has settled
the root with the checkpoint's claims. -/
theorem exec_newDeviceState (mayFail : DiskOp → Bool) (config : DriverConfig Config)
    (driverResources : DriverResources) (outcomes : List Outcome) (disk : Disk) :
    let ran := Prog.exec (Disk.act mayFail) (newDeviceState config driverResources) outcomes disk
    let s := initialState config driverResources
    let claims := disk.checkpoint.getD ∅
    Starting s disk ran.1 ∧ ∀ state, ran.2 = some (.ok state) →
      state = s ∧ ran.1.checkpoint = some claims ∧ Settled s claims ran.1.root := by
  intro ran s claims
  have reconciled : ∀ after, Starting s disk after → after.checkpoint = some claims →
      InPlace s claims [] after.root → Prog.Ensures (Disk.act mayFail) (Starting s disk)
        (startReconciled s) (fun after result => ∀ state, result = .ok state →
          state = s ∧ after.checkpoint = some claims ∧ Settled s claims after.root) after := by
    intro after starting stored common
    unfold startReconciled
    refine Prog.ensures_bind.mpr (Prog.Ensures.mono (fun _ point => point) ?_
      (ensures_reconcile rfl starting stored common))
    intro last result point settled
    cases result with
    | error e => exact ⟨point, fun _ wrong => by cases wrong⟩
    | ok _ => exact ⟨point, fun state same => ⟨(Except.ok.inj same).symm, settled rfl⟩⟩
  have whole : Prog.Ensures (Disk.act mayFail) (Starting s disk) (newDeviceState config driverResources)
      (fun after result => ∀ state, result = .ok state →
        state = s ∧ after.checkpoint = some claims ∧ Settled s claims after.root) disk := by
    have started := Starting.refl s disk
    unfold newDeviceState
    refine Prog.ensures_bind.mpr (ensures_createCommonSpecFile started
      (fun e => ⟨started, fun _ wrong => by cases wrong⟩) fun spec derived _ => ?_)
    have starting : Starting s disk (disk.putSpec config.cdi.commonFile spec) := started.putCommon derived
    have common : InPlace s claims [] (disk.putSpec config.cdi.commonFile spec).root :=
      ⟨⟨spec, derived, (putSpec_lookup _ _ _ _).trans (if_pos rfl)⟩, fun _ none => by cases none⟩
    refine ⟨starting, Prog.ensures_bind.mpr (ensures_listCheckpoints starting
      (fun e => ⟨starting, fun _ wrong => by cases wrong⟩) ?_)⟩
    rw [putSpec_checkpoint]
    cases stored : disk.checkpoint with
    | some found =>
      rw [Option.isSome_some, if_pos rfl]
      exact reconciled _ starting (by simp [claims, stored]) common
    | none =>
      rw [Option.isSome_none, if_neg (by decide)]
      have created := starting.putCheckpoint stored
      refine Prog.ensures_bind.mpr (ensures_createCheckpoint starting
        (fun e => ⟨starting, fun _ wrong => by cases wrong⟩) created ?_)
      exact reconciled _ created (by simp [claims, stored]) common
  obtain ⟨point, returned⟩ := Prog.exec_ensures outcomes whole
  exact ⟨point, fun state same => returned _ same state rfl⟩

end DraDriver.Plugin
