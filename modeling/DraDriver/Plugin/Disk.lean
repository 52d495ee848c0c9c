/-
**What the driver keeps on disk**: the checkpoint of prepared claims and the CDI root.

Every access is one `DiskOp`. `Disk.act` performs it under an outcome: a failed operation answers
with the error and leaves the files as they were. Which operations may fail is a parameter.
-/

import DraDriver.Base.Effect
import DraDriver.Profiles.Edits

namespace DraDriver.Plugin

open DraDriver.Base DraDriver.Profiles

/-! ### Claims -/

/-- The characters of a UUID. -/
def isUIDChar (c : Char) : Bool :=
  c.isDigit || (decide ('a' ≤ c) && decide (c ≤ 'f')) || (decide ('A' ≤ c) && decide (c ≤ 'F')) ||
    decide (c = '-')

/-- A claim's UID: hexadecimal digits and hyphens, as the API server issues them. -/
structure ClaimUID where
  text : String
  chars : text.toList.all isUIDChar = true
  deriving DecidableEq

@[ext] theorem ClaimUID.ext {u v : ClaimUID} (same : u.text = v.text) : u = v := by
  cases u
  cases v
  congr

/-- The devices prepared for each claim, as the checkpoint records them. -/
abbrev PreparedClaims := GoMap ClaimUID PreparedDevices

/-! ### Files -/

/-- `cdispec.Device`. -/
structure CdiDevice where
  name : String
  containerEdits : ContainerEdits
  deriving DecidableEq, Repr

/-- `cdispec.Spec`. -/
structure CdiSpec where
  version : String
  kind : String
  devices : List CdiDevice
  deriving DecidableEq, Repr

/-- An entry of the CDI root. -/
inductive RootEntry
  | spec (content : CdiSpec)
  | other (content : String)
  | dir (empty : Bool)
  deriving DecidableEq, Repr

/-- `os.DirEntry.IsDir`. -/
def RootEntry.isDir : RootEntry → Bool
  | .dir _ => true
  | _ => false

/-- The checkpoint file, if there is one, and the entries of the CDI root. -/
structure Disk where
  checkpoint : Option PreparedClaims
  root : GoMap String RootEntry
  deriving DecidableEq

/-- `DriverPluginCheckpointFile`. -/
def driverPluginCheckpointFile : String := "checkpoint.json"

/-- One access to the checkpoint or to the CDI root. -/
inductive DiskOp
  | listCheckpoints
  | readCheckpoint
  | writeCheckpoint (claims : PreparedClaims)
  | writeSpec (file : String) (spec : CdiSpec)
  | removeSpec (file : String)
  | readDir
  deriving DecidableEq

/-- What an operation answers; an error is its text. -/
def DiskOp.Answer : DiskOp → Type
  | .listCheckpoints => Except String (List String)
  | .readCheckpoint => Except String PreparedClaims
  | .writeCheckpoint _ => Except String Unit
  | .writeSpec _ _ => Except String Unit
  | .removeSpec _ => Except String Unit
  | .readDir => Except String (List (String × Bool))

/-- What becomes of an operation. -/
inductive Outcome
  | done
  | failed (text : String)
  deriving DecidableEq, Repr

/-- `os.ReadDir`: the entries by name, each with whether it is a directory. -/
def readDir (root : GoMap String RootEntry) : List (String × Bool) :=
  (root.entries.map fun entry => (entry.1, entry.2.isDir)).insertionSort fun a b => a.1 ≤ b.1

theorem mem_readDir {root : GoMap String RootEntry} {name : String} {isDir : Bool} :
    (name, isDir) ∈ readDir root ↔ ∃ entry, root.lookup name = some entry ∧ entry.isDir = isDir := by
  unfold readDir
  rw [(List.perm_insertionSort _ _).mem_iff, List.mem_map]
  constructor
  · rintro ⟨⟨key, entry⟩, member, same⟩
    obtain ⟨rfl, rfl⟩ := Prod.mk.inj same
    exact ⟨entry, AList.mem_lookup_iff.mpr member, rfl⟩
  · rintro ⟨entry, found, rfl⟩
    exact ⟨⟨name, entry⟩, AList.mem_lookup_iff.mp found, rfl⟩

/-- An operation that succeeds, as far as the files let it. -/
def Disk.perform (disk : Disk) : (o : DiskOp) → o.Answer × Disk
  | .listCheckpoints =>
    (.ok (if disk.checkpoint.isSome then [driverPluginCheckpointFile] else []), disk)
  | .readCheckpoint =>
    match disk.checkpoint with
    | some claims => (.ok claims, disk)
    | none => (.error "checkpoint is not found", disk)
  | .writeCheckpoint claims => (.ok (), { disk with checkpoint := some claims })
  | .writeSpec file spec =>
    match disk.root.lookup file with
    | some (.dir _) => (.error ("rename " ++ file ++ ": file exists"), disk)
    | _ => (.ok (), { disk with root := disk.root.insert file (.spec spec) })
  | .removeSpec file =>
    match disk.root.lookup file with
    | some (.dir false) => (.error ("remove " ++ file ++ ": directory not empty"), disk)
    | _ => (.ok (), { disk with root := disk.root.erase file })
  | .readDir => (.ok (readDir disk.root), disk)

/-- The answer of a failed operation. -/
def DiskOp.fail (text : String) : (o : DiskOp) → o.Answer
  | .listCheckpoints => Except.error text
  | .readCheckpoint => Except.error text
  | .writeCheckpoint _ => Except.error text
  | .writeSpec _ _ => Except.error text
  | .removeSpec _ => Except.error text
  | .readDir => Except.error text

/-- An operation under an outcome; one that may not fail is done whatever the outcome. -/
def Disk.act (mayFail : DiskOp → Bool) (disk : Disk) (o : DiskOp) : Outcome → o.Answer × Disk
  | .done => disk.perform o
  | .failed text => if mayFail o then (o.fail text, disk) else disk.perform o

/-- A program over the disk. -/
abbrev DiskProg (α : Type) := Prog DiskOp DiskOp.Answer α

/-- `checkpointManager.ListCheckpoints`. -/
def listCheckpoints : DiskProg (Except String (List String)) := Prog.perform DiskOp.listCheckpoints

/-- `checkpointManager.GetCheckpoint` of the driver's checkpoint. -/
def getCheckpoint : DiskProg (Except String PreparedClaims) := Prog.perform DiskOp.readCheckpoint

/-- `checkpointManager.CreateCheckpoint` of the driver's checkpoint. -/
def createCheckpoint (claims : PreparedClaims) : DiskProg (Except String Unit) :=
  Prog.perform (DiskOp.writeCheckpoint claims)

/-- `os.ReadDir` of the CDI root. -/
def readRoot : DiskProg (Except String (List (String × Bool))) := Prog.perform DiskOp.readDir

/-- Every operation may fail. -/
def anyMayFail : DiskOp → Bool := fun _ => true

/-- No operation fails. -/
def noneFails : DiskOp → Bool := fun _ => false

/-- Every operation but the checkpoint read may fail. -/
def readsSucceed : DiskOp → Bool
  | .readCheckpoint => false
  | _ => true

/-! ### What each operation does -/

section Acts

variable (mayFail : DiskOp → Bool) (disk : Disk) (q : Outcome)

/-- An operation fails with the files as they were, or is done. -/
theorem act_cases (o : DiskOp) :
    (mayFail o = true ∧ ∃ text, disk.act mayFail o q = (o.fail text, disk)) ∨
      disk.act mayFail o q = disk.perform o := by
  cases q with
  | done => exact Or.inr rfl
  | failed text =>
    cases fails : mayFail o with
    | true => exact Or.inl ⟨rfl, text, if_pos fails⟩
    | false => exact Or.inr (if_neg (by simp [fails]))

theorem act_readCheckpoint :
    ((mayFail .readCheckpoint = true ∨ disk.checkpoint = none) ∧
      ∃ e, disk.act mayFail .readCheckpoint q = (.error e, disk)) ∨
      ∃ claims, disk.checkpoint = some claims ∧
        disk.act mayFail .readCheckpoint q = (.ok claims, disk) := by
  rcases act_cases mayFail disk q .readCheckpoint with
    ⟨fails, text, answer⟩ | done
  · exact Or.inl ⟨Or.inl fails, text, answer⟩
  · rw [done]
    simp only [Disk.perform]
    cases stored : disk.checkpoint with
    | none => exact Or.inl ⟨Or.inr rfl, _, rfl⟩
    | some claims => exact Or.inr ⟨claims, rfl, rfl⟩

theorem act_listCheckpoints :
    (∃ e, disk.act mayFail .listCheckpoints q = (.error e, disk)) ∨
      disk.act mayFail .listCheckpoints q =
        (.ok (if disk.checkpoint.isSome then [driverPluginCheckpointFile] else []), disk) := by
  rcases act_cases mayFail disk q .listCheckpoints with
    ⟨_, text, answer⟩ | done
  · exact Or.inl ⟨text, answer⟩
  · exact Or.inr done

theorem act_writeCheckpoint (claims : PreparedClaims) :
    (∃ e, disk.act mayFail (.writeCheckpoint claims) q = (.error e, disk)) ∨
      disk.act mayFail (.writeCheckpoint claims) q =
        (.ok (), { disk with checkpoint := some claims }) := by
  rcases act_cases mayFail disk q (.writeCheckpoint claims) with
    ⟨_, text, answer⟩ | done
  · exact Or.inl ⟨text, answer⟩
  · exact Or.inr done

theorem act_writeSpec (file : String) (spec : CdiSpec) :
    (∃ e, disk.act mayFail (.writeSpec file spec) q = (.error e, disk)) ∨
      disk.act mayFail (.writeSpec file spec) q =
        (.ok (), { disk with root := disk.root.insert file (.spec spec) }) := by
  rcases act_cases mayFail disk q (.writeSpec file spec) with
    ⟨_, text, answer⟩ | done
  · exact Or.inl ⟨text, answer⟩
  · rw [done]
    simp only [Disk.perform]
    split
    · exact Or.inl ⟨_, rfl⟩
    · exact Or.inr rfl

theorem act_removeSpec (file : String) :
    (∃ e, disk.act mayFail (.removeSpec file) q = (.error e, disk)) ∨
      disk.act mayFail (.removeSpec file) q =
        (.ok (), { disk with root := disk.root.erase file }) := by
  rcases act_cases mayFail disk q (.removeSpec file) with
    ⟨_, text, answer⟩ | done
  · exact Or.inl ⟨text, answer⟩
  · rw [done]
    simp only [Disk.perform]
    split
    · exact Or.inl ⟨_, rfl⟩
    · exact Or.inr rfl

theorem act_readDir :
    (∃ e, disk.act mayFail .readDir q = (.error e, disk)) ∨
      disk.act mayFail .readDir q = (.ok (readDir disk.root), disk) := by
  rcases act_cases mayFail disk q .readDir with ⟨_, text, answer⟩ | done
  · exact Or.inl ⟨text, answer⟩
  · exact Or.inr done

end Acts

end DraDriver.Plugin
