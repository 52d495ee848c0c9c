/-
**What the prune removes.**

`PruneClaimSpecFiles` takes for the driver's own every spec file whose name starts with
`<vendor>-<class>_`. Vendors and classes may hold dashes and underscores themselves, so that names of
other pairs can start so too.

* `GeneratedFile` — the names the CDI library generates for a vendor and a class.
* `exec_prune_keeps` — a file that is not an orphan stays, whatever fails; `run_prune` — where nothing
  fails every orphan is removed.
* `managed_generated_iff` — a name of another pair is taken for the driver's own exactly if the leads
  of the two pairs clash.
* **`prunesOwn_iff`** — the prune is confined to the driver's own specs exactly if they do not.
-/

import DraDriver.Plugin.Batch

namespace DraDriver.Plugin

open DraDriver.Base DraDriver.Profiles DraDriver.Tenstorrent

/-! ### Generated names -/

/-- The transient spec files of a vendor and a class, under any id. -/
inductive TransientFile (vendor className : String) : String → Prop
  | named (id ext : String) : ext ∈ cdiSpecExtensions →
      TransientFile vendor className (generateTransientSpecName vendor className id ++ ext)

/-- The spec files of a vendor and a class. -/
inductive GeneratedFile (vendor className : String) : String → Prop
  | fixed {ext : String} : ext ∈ cdiSpecExtensions →
      GeneratedFile vendor className (generateSpecName vendor className ++ ext)
  | transient {name : String} : TransientFile vendor className name → GeneratedFile vendor className name

/-- The lead of a pair's transient names. -/
def transientLead (vendor className : String) : String := generateSpecName vendor className ++ "_"

/-- One lead starts the other, the first one without a slash after it. -/
def Clash (lead other : String) : Prop :=
  hasPrefix other lead = true ∨ ∃ rest, lead = other ++ rest ∧ '/' ∉ rest.toList

theorem slash_notMem_cleanId (id : String) : '/' ∉ (cleanId id).toList := by
  rw [cleanId, String.toList_ofList]
  intro slash
  obtain ⟨c, _, same⟩ := List.mem_map.mp slash
  split at same
  · cases same
  · next other => exact other same

/-- A lead starts some transient name of a pair exactly if the leads clash. -/
theorem clash_iff {lead other : String} :
    (∃ id, hasPrefix (other ++ cleanId id) lead = true) ↔ Clash lead other := by
  constructor
  · rintro ⟨id, starts⟩
    obtain ⟨tail, whole⟩ := hasPrefix_iff.mp starts
    have starts' : lead.toList <+: (other ++ cleanId id).toList := ⟨tail.toList, by simp [whole]⟩
    have other' : other.toList <+: (other ++ cleanId id).toList := ⟨(cleanId id).toList, by simp⟩
    rcases List.prefix_or_prefix_of_prefix starts' other' with short | ⟨rest, split⟩
    · exact Or.inl (List.isPrefixOf_iff_prefix.mpr short)
    · have same : lead = other ++ String.ofList rest := String.toList_inj.mp (by simp [split])
      refine Or.inr ⟨String.ofList rest, same, fun slash => ?_⟩
      rw [same, String.append_assoc] at whole
      have tail' := (String.append_right_inj other).mp whole
      apply slash_notMem_cleanId id
      rw [tail', String.toList_append]
      exact List.mem_append_left _ slash
  · rintro (starts | ⟨rest, rfl, free⟩)
    · obtain ⟨tail, rfl⟩ := hasPrefix_iff.mp starts
      exact ⟨"", hasPrefix_iff.mpr ⟨tail ++ cleanId "", String.append_assoc⟩⟩
    · refine ⟨rest, hasPrefix_iff.mpr ⟨"", ?_⟩⟩
      rw [cleanId_eq free, String.append_empty]

/-- A name with an extension is the driver's own exactly if its lead starts the rest. -/
theorem managed_ext (cdi : CDIHandler) (stem : String) {ext : String} (known : ext ∈ cdiSpecExtensions) :
    cdi.managed (stem ++ ext) = hasPrefix stem cdi.specLead ∧ fileExt (stem ++ ext) = ext := by
  have read : fileExt (stem ++ ext) = ext := by
    rcases List.mem_cons.mp known with rfl | json
    · exact fileExt_append stem "yaml" (by decide)
    · rw [List.mem_singleton.mp json]
      exact fileExt_append stem "json" (by decide)
  refine ⟨?_, read⟩
  unfold CDIHandler.managed
  rw [read, trimSuffix_append, decide_eq_true known, Bool.true_and]

/-- **A generated name is taken for the driver's own** exactly if the leads clash. -/
theorem managed_generated_iff (cdi : CDIHandler) (vendor className : String) :
    (∃ name, GeneratedFile vendor className name ∧ cdi.managed name = true) ↔
      Clash cdi.specLead (transientLead vendor className) := by
  rw [← clash_iff]
  constructor
  · rintro ⟨name, generated, own⟩
    cases generated with
    | fixed known =>
      rw [(managed_ext cdi _ known).1] at own
      obtain ⟨tail, whole⟩ := hasPrefix_iff.mp own
      refine ⟨"", hasPrefix_iff.mpr ⟨tail ++ "_" ++ cleanId "", ?_⟩⟩
      rw [transientLead, whole, String.append_assoc, String.append_assoc, String.append_assoc]
    | transient generated =>
      cases generated with
      | named id ext known =>
        rw [(managed_ext cdi _ known).1] at own
        exact ⟨id, own⟩
  · rintro ⟨id, starts⟩
    exact ⟨_, .transient (.named id ".json" (by decide)), (managed_ext cdi _ (by decide)).1.trans starts⟩

/-! ### The prune -/

section Prune

variable (cdi : CDIHandler) (uids : List ClaimUID)

/-- The operations of a prune. -/
def PruneOp : DiskOp → Prop
  | .readDir => True
  | .removeSpec name => cdi.managed name = true ∧ name ∉ cdi.keepFiles uids
  | _ => False

/-- **A file that is not an orphan stays**, whatever fails and wherever the prune is cut short. -/
theorem exec_prune_keeps (mayFail : DiskOp → Bool) (outcomes : List Outcome) (disk : Disk) {name : String}
    (stays : cdi.managed name = true → name ∈ cdi.keepFiles uids) :
    (Prog.exec (Disk.act mayFail) (cdi.pruneClaimSpecFiles uids) outcomes disk).1.root.lookup name =
      disk.root.lookup name := by
  have only : (cdi.pruneClaimSpecFiles uids).Only (PruneOp cdi uids) fun _ _ => True :=
    only_prune cdi uids trivial fun _ own stray => ⟨own, stray⟩
  refine Prog.exec_keeps (fun disk : Disk => disk.root.lookup name) (fun o among disk q => ?_) only
    outcomes disk
  cases o with
  | readDir =>
    rcases act_readDir mayFail disk q with ⟨e, answer⟩ | answer
    · rw [answer]
    · rw [answer]
  | removeSpec file =>
    rcases act_removeSpec mayFail disk q file with ⟨e, answer⟩ | answer
    · rw [answer]
    · have other : name ≠ file := fun same => among.2 (same ▸ stays (same ▸ among.1))
      rw [answer]
      exact AList.lookup_erase_ne other
  | listCheckpoints => cases among
  | readCheckpoint => cases among
  | writeCheckpoint claims => cases among
  | writeSpec file spec => cases among

/-- The files are only removed. -/
def Shrinks (disk disk' : Disk) : Prop :=
  ∀ name, disk'.root.lookup name = disk.root.lookup name ∨ disk'.root.lookup name = none

theorem performed_removeSpec {disk : Disk} {name : String}
    (file : ∀ empty, disk.root.lookup name ≠ some (.dir empty)) :
    disk.perform (.removeSpec name) = (Except.ok (), disk.dropFile name) := by
  have free : (disk.root.lookup name).any blocksRemove = false := by
    cases found : disk.root.lookup name with
    | none => rfl
    | some entry =>
      cases entry with
      | spec content => rfl
      | other content => rfl
      | dir empty => exact absurd found (file empty)
  rw [perform_removeSpec, free]
  rfl

/-- The loop where nothing fails: every orphan it sees is removed. -/
theorem run_pruneEntries : ∀ (entries : List (String × Bool)) (removed : List String) (disk : Disk),
    (∀ entry ∈ entries, entry.2 = false → ∀ empty, disk.root.lookup entry.1 ≠ some (.dir empty)) →
    ∃ all after, Disk.run (Prog.foldEach (cdi.pruneEntry (cdi.keepNames uids)) entries removed) disk =
        (.ok all, after) ∧
      Shrinks disk after ∧
      ∀ entry ∈ entries, cdi.orphan uids entry = true → after.root.lookup entry.1 = none
  | [], removed, disk, _ =>
    ⟨removed, disk, rfl, fun _ => Or.inl rfl, fun _ member => absurd member List.not_mem_nil⟩
  | entry :: entries, removed, disk, files => by
    have rest : ∀ entry ∈ entries, entry.2 = false →
        ∀ empty, disk.root.lookup entry.1 ≠ some (.dir empty) :=
      fun other member => files other (List.mem_cons_of_mem _ member)
    unfold Prog.foldEach
    rw [CDIHandler.pruneEntry_eq, run_bind]
    by_cases orphan : cdi.orphan uids entry = true
    · rw [if_pos orphan]
      have file : ∀ empty, disk.root.lookup entry.1 ≠ some (.dir empty) :=
        files entry List.mem_cons_self (orphan_iff.mp orphan).1
      have dropped : Disk.run (.call (.removeSpec entry.1) fun answer =>
          .ret (CDIHandler.pruneResult removed entry.1 answer)) disk =
            (.ok (removed ++ [entry.1]), disk.dropFile entry.1) := by
        have performed := performed_removeSpec file
        show (CDIHandler.pruneResult removed entry.1 (disk.perform (.removeSpec entry.1)).1,
          (disk.perform (.removeSpec entry.1)).2) = _
        rw [performed]
        rfl
      have later : ∀ other ∈ entries, other.2 = false →
          ∀ empty, (disk.dropFile entry.1).root.lookup other.1 ≠ some (.dir empty) := by
        intro other member isFile empty
        rw [dropFile_lookup]
        split
        · intro directory
          cases directory
        · exact rest other member isFile empty
      obtain ⟨all, after, ran, shrinks, gone⟩ := run_pruneEntries entries (removed ++ [entry.1]) _ later
      have absent : after.root.lookup entry.1 = none := by
        rcases shrinks entry.1 with same | none
        · rw [same, dropFile_lookup, if_pos rfl]
        · exact none
      rw [dropped]
      refine ⟨all, after, ran, fun name => ?_, ?_⟩
      · rcases shrinks name with same | none
        · rw [same, dropFile_lookup]
          split
          · exact Or.inr rfl
          · exact Or.inl rfl
        · exact Or.inr none
      · intro other member orphaned
        rcases List.mem_cons.mp member with rfl | later
        · exact absent
        · exact gone other later orphaned
    · rw [if_neg orphan]
      obtain ⟨all, after, ran, shrinks, gone⟩ := run_pruneEntries entries removed disk rest
      refine ⟨all, after, ran, shrinks, fun other member orphaned => ?_⟩
      rcases List.mem_cons.mp member with rfl | later
      · exact absurd orphaned orphan
      · exact gone other later orphaned

/-- **Where nothing fails every orphan is removed**, and the prune reports no error. -/
theorem run_prune (disk : Disk) :
    (Disk.run (cdi.pruneClaimSpecFiles uids) disk).1.2 = none ∧
      ∀ name content, disk.root.lookup name = some content → content.isDir = false →
        cdi.managed name = true → name ∉ cdi.keepFiles uids →
        (Disk.run (cdi.pruneClaimSpecFiles uids) disk).2.root.lookup name = none := by
  have files : ∀ entry ∈ readDir disk.root, entry.2 = false →
      ∀ empty, disk.root.lookup entry.1 ≠ some (.dir empty) := by
    intro entry member isFile empty directory
    obtain ⟨content, found, kind⟩ := mem_readDir.mp (show (entry.1, entry.2) ∈ _ from member)
    cases Option.some.inj (directory.symm.trans found)
    rw [isFile] at kind
    cases kind
  obtain ⟨all, after, ran, _, gone⟩ := run_pruneEntries cdi uids (readDir disk.root) [] disk files
  have whole : Disk.run (cdi.pruneClaimSpecFiles uids) disk = ((all, none), after) := by
    unfold CDIHandler.pruneClaimSpecFiles
    rw [run_bind]
    show Disk.run (Prog.foldEach _ (readDir disk.root) [] >>= _) disk = _
    rw [run_bind, ran]
    rfl
  rw [whole]
  refine ⟨rfl, fun name content found isFile own stray => ?_⟩
  exact gone (name, false) (mem_readDir.mpr ⟨content, found, isFile⟩) (orphan_iff.mpr ⟨rfl, own, stray⟩)

end Prune

/-! ### Own and foreign specs -/

/-- **The prune is confined to the driver's own specs**, as far as another pair's files show it. -/
structure PrunesOwn (cdi : CDIHandler) (vendor className : String) : Prop where
  /-- A file of the other pair stays. -/
  foreign : ∀ mayFail uids outcomes disk name, GeneratedFile vendor className name →
    (Prog.exec (Disk.act mayFail) (cdi.pruneClaimSpecFiles uids) outcomes disk).1.root.lookup name =
      disk.root.lookup name
  /-- The common spec and the listed claims' specs stay. -/
  kept : ∀ mayFail uids outcomes disk name, name ∈ cdi.keepFiles uids →
    (Prog.exec (Disk.act mayFail) (cdi.pruneClaimSpecFiles uids) outcomes disk).1.root.lookup name =
      disk.root.lookup name
  /-- Every other transient spec of the driver goes. -/
  removes : ∀ uids disk name content, TransientFile cdi.vendor cdi.className name →
    name ∉ cdi.keepFiles uids → disk.root.lookup name = some content → content.isDir = false →
    (Disk.run (cdi.pruneClaimSpecFiles uids) disk).1.2 = none ∧
      (Disk.run (cdi.pruneClaimSpecFiles uids) disk).2.root.lookup name = none

/-- **The prune touches only the driver's specs** exactly if the lead of the other pair neither starts
the driver's lead nor is started by it. -/
theorem prunesOwn_iff (cdi : CDIHandler) (vendor className : String) :
    PrunesOwn cdi vendor className ↔ ¬ Clash cdi.specLead (transientLead vendor className) := by
  constructor
  · rintro ⟨foreign, -, -⟩ clash
    obtain ⟨id, starts⟩ := clash_iff.mpr clash
    let name := transientLead vendor className ++ cleanId id ++ ".json"
    obtain ⟨disk, found⟩ : ∃ disk : Disk, disk.root.lookup name = some (.other "") :=
      ⟨{ checkpoint := none, root := (∅ : GoMap String RootEntry).insert name (.other "") },
        AList.lookup_insert _⟩
    obtain ⟨own, ext⟩ := managed_ext cdi (transientLead vendor className ++ cleanId id)
      (show ".json" ∈ cdiSpecExtensions by decide)
    -- the prune keeps `.yaml` files only
    have stray : name ∉ cdi.keepFiles [] := by
      intro listed
      have yaml := ((cdi.kept_iff name []).mpr listed).1
      rw [ext] at yaml
      revert yaml
      decide
    have gone := (run_prune cdi [] disk).2 name _ found rfl (own.trans starts) stray
    obtain ⟨n, enough⟩ := exec_done noneFails (cdi.pruneClaimSpecFiles []) disk
    have stays := foreign noneFails [] (List.replicate n .done) disk name
      (.transient (.named id ".json" (by decide)))
    rw [enough n le_rfl, gone, found] at stays
    cases stays
  · intro apart
    refine ⟨fun mayFail uids outcomes disk name generated => ?_,
      fun mayFail uids outcomes disk name listed => ?_,
      fun uids disk name content transient stray found isFile => ?_⟩
    · refine exec_prune_keeps cdi uids mayFail outcomes disk fun own => absurd ?_ apart
      exact (managed_generated_iff cdi vendor className).mp ⟨name, generated, own⟩
    · exact exec_prune_keeps cdi uids mayFail outcomes disk fun _ => listed
    · have own : cdi.managed name = true := by
        cases transient with
        | named id ext known =>
          rw [(managed_ext cdi _ known).1]
          exact hasPrefix_iff.mpr ⟨cleanId id, rfl⟩
      exact ⟨(run_prune cdi uids disk).1, (run_prune cdi uids disk).2 name content found isFile own stray⟩

/-- The static spec of another class of the same vendor. -/
def otherClassDisk : Disk where
  checkpoint := some ∅
  root := (∅ : GoMap String RootEntry).insert "k8s.tenstorrent.com-tenstorrent_x.yaml"
    (.spec { version := "0.6.0", kind := "k8s.tenstorrent.com/tenstorrent_x", devices := [] })

/-- **With the default names the prune removes another class's spec.** -/
theorem otherClass_pruned :
    validVendorName "k8s.tenstorrent.com" = true ∧ validClassName "tenstorrent_x" = true ∧
      sampleHandler.className ≠ "tenstorrent_x" ∧
      GeneratedFile "k8s.tenstorrent.com" "tenstorrent_x" "k8s.tenstorrent.com-tenstorrent_x.yaml" ∧
      (otherClassDisk.root.lookup "k8s.tenstorrent.com-tenstorrent_x.yaml").isSome = true ∧
      (Disk.run (sampleHandler.pruneClaimSpecFiles []) otherClassDisk).2.root.lookup
        "k8s.tenstorrent.com-tenstorrent_x.yaml" = none := by
  have found : otherClassDisk.root.lookup "k8s.tenstorrent.com-tenstorrent_x.yaml" = some (.spec _) :=
    AList.lookup_insert _
  refine ⟨by decide, by decide, by decide, .fixed (show ".yaml" ∈ cdiSpecExtensions by decide),
    by rw [found]; rfl, ?_⟩
  exact (run_prune sampleHandler [] otherClassDisk).2 _ _ found rfl (by decide +kernel) (by decide +kernel)

end DraDriver.Plugin
