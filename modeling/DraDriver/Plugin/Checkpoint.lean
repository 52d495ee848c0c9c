/-
**The checkpoint on disk**, byte for byte.

The types here keep what Go keeps apart and the rest of the model does not: a nil slice from an
empty one, a nil pointer in a list, and edits that are nil from edits that edit nothing. Each struct
is the `Record` of its JSON fields, in the order and under the names its tags give.

* `members_claimsBack` — the claims that come back are written as the claims were.
* `decode_checkpoint` — reading a written checkpoint into a new one: `newCheckpoint` made the map
  that is filled, so there is one even when no claim was written.
* **`unmarshal_marshalCheckpoint`**, **`verifyChecksum_claimsBack`**, **`marshalCheckpoint_claimsBack`**
  — what the three methods make of a checkpoint and of what comes back of it.
-/

import DraDriver.Base.GoJson
import DraDriver.Plugin.Disk

namespace DraDriver.Plugin

open DraDriver.Base DraDriver.Profiles

/-! ### What is stored -/

/-- A Go slice; `none` is nil. -/
abbrev GoSlice (α : Type) := Option (List α)

/-- `cdispec.Mount`, with the fields the driver sets. -/
structure StoredMount where
  hostPath : String
  containerPath : String
  options : GoSlice String
  deriving DecidableEq, Repr

/-- `cdispec.ContainerEdits`, with the fields the driver sets. -/
structure SpecEdits where
  env : GoSlice String
  deviceNodes : GoSlice (Option DeviceNode)
  mounts : GoSlice (Option StoredMount)
  deriving DecidableEq, Repr

/-- `cdiapi.ContainerEdits`: the struct that embeds a pointer to the edits of a spec. -/
abbrev StoredEdits := Option SpecEdits

/-- `drapbv1.Device`. -/
structure StoredKubeletDevice where
  requestNames : GoSlice String
  poolName : String
  deviceName : String
  cdiDeviceIds : GoSlice String
  deriving DecidableEq, Repr

/-- `profiles.PreparedDevice`. -/
structure StoredDevice where
  device : StoredKubeletDevice
  containerEdits : Option StoredEdits
  adminAccess : Bool
  deriving DecidableEq, Repr

/-- `profiles.PreparedDevices`. -/
abbrev StoredDevices := GoSlice (Option StoredDevice)

/-- `PreparedClaims`; `none` is the nil map. -/
abbrev StoredClaims := Option (GoMap String StoredDevices)

/-- `CheckpointV1`. -/
structure CheckpointV1 where
  preparedClaims : StoredClaims

/-- `Checkpoint`: the sum of the rest, and the prepared claims. -/
structure Checkpoint where
  checksum : UInt64
  v1 : Option CheckpointV1

/-! ### How it is written -/

/-- The JSON fields of `cdispec.DeviceNode`. -/
def deviceNodeRecord : Record DeviceNode where
  zero := ⟨"", "", ""⟩
  fields :=
    [⟨String, .string, "path", false, DeviceNode.path, fun node a => { node with path := a }⟩,
      ⟨String, .string, "type", true, DeviceNode.type, fun node a => { node with type := a }⟩,
      ⟨String, .string, "permissions", true, DeviceNode.permissions,
        fun node a => { node with permissions := a }⟩]
  names_nodup := by decide
  apart := by simp [Field.Apart]
  get_set := by simp
  get_zero := by simp [Codec.string]

/-- The JSON fields of `cdispec.Mount`. -/
def mountRecord : Record StoredMount where
  zero := ⟨"", "", none⟩
  fields :=
    [⟨String, .string, "hostPath", false, StoredMount.hostPath,
        fun mount a => { mount with hostPath := a }⟩,
      ⟨String, .string, "containerPath", false, StoredMount.containerPath,
        fun mount a => { mount with containerPath := a }⟩,
      ⟨GoSlice String, .slice .string, "options", true, StoredMount.options,
        fun mount a => { mount with options := a }⟩]
  names_nodup := by decide
  apart := by simp [Field.Apart]
  get_set := by simp
  get_zero := by simp [Codec.string, Codec.slice]

/-- The JSON fields of `cdispec.ContainerEdits`. -/
def specEditsRecord : Record SpecEdits where
  zero := ⟨none, none, none⟩
  fields :=
    [⟨GoSlice String, .slice .string, "env", true, SpecEdits.env,
        fun edits a => { edits with env := a }⟩,
      ⟨GoSlice (Option DeviceNode),
        .slice (.ptr deviceNodeRecord.codec deviceNodeRecord.codec_present), "deviceNodes", true,
        SpecEdits.deviceNodes, fun edits a => { edits with deviceNodes := a }⟩,
      ⟨GoSlice (Option StoredMount), .slice (.ptr mountRecord.codec mountRecord.codec_present),
        "mounts", true, SpecEdits.mounts, fun edits a => { edits with mounts := a }⟩]
  names_nodup := by decide
  apart := by simp [Field.Apart]
  get_set := by simp
  get_zero := by simp [Codec.slice]

/-- The fields of the embedded `drapbv1.Device` come first, as if they were the struct's own. -/
def storedDeviceRecord : Record StoredDevice where
  zero := ⟨⟨none, "", "", none⟩, none, false⟩
  fields :=
    [⟨GoSlice String, .slice .string, "request_names", true, fun d => d.device.requestNames,
        fun d a => { d with device := { d.device with requestNames := a } }⟩,
      ⟨String, .string, "pool_name", true, fun d => d.device.poolName,
        fun d a => { d with device := { d.device with poolName := a } }⟩,
      ⟨String, .string, "device_name", true, fun d => d.device.deviceName,
        fun d a => { d with device := { d.device with deviceName := a } }⟩,
      ⟨GoSlice String, .slice .string, "cdi_device_ids", true, fun d => d.device.cdiDeviceIds,
        fun d a => { d with device := { d.device with cdiDeviceIds := a } }⟩,
      ⟨Option StoredEdits, .ptr specEditsRecord.embedded specEditsRecord.embedded_present,
        "ContainerEdits", false, StoredDevice.containerEdits,
        fun d a => { d with containerEdits := a }⟩,
      ⟨Bool, .bool, "AdminAccess", false, StoredDevice.adminAccess,
        fun d a => { d with adminAccess := a }⟩]
  names_nodup := by decide
  apart := by simp [Field.Apart]
  get_set := by simp
  get_zero := by simp [Codec.string, Codec.slice, Codec.ptr, Codec.bool]

/-- The codec of a claim's devices. -/
def storedDevicesCodec : Codec StoredDevices :=
  .slice (.ptr storedDeviceRecord.codec storedDeviceRecord.codec_present)

/-- The JSON fields of `CheckpointV1`. -/
def checkpointV1Record : Record CheckpointV1 where
  zero := ⟨none⟩
  fields := [⟨StoredClaims, storedDevicesCodec.map, "preparedClaims", true,
    CheckpointV1.preparedClaims, fun v1 a => { v1 with preparedClaims := a }⟩]
  names_nodup := by decide
  apart := by simp
  get_set := by simp
  get_zero := by simp [Codec.map]

/-- The JSON fields of `Checkpoint`. -/
def checkpointRecord : Record Checkpoint where
  zero := ⟨0, none⟩
  fields :=
    [⟨UInt64, .uint64, "checksum", false, Checkpoint.checksum,
        fun cp a => { cp with checksum := a }⟩,
      ⟨Option CheckpointV1, .ptr checkpointV1Record.codec checkpointV1Record.codec_present, "v1", true,
        Checkpoint.v1, fun cp a => { cp with v1 := a }⟩]
  names_nodup := by decide
  apart := by simp [Field.Apart]
  get_set := by simp
  get_zero := by simp [Codec.uint64, Codec.ptr]

/-! ### `checkpoint.go` -/

/-- `newCheckpoint`: no claims, and no sum yet. -/
def newCheckpoint : Checkpoint where
  checksum := 0
  v1 := some ⟨some ∅⟩

section Methods

-- `checksum.New`, as a function of the bytes
variable (sum : String → UInt64)

/-- `MarshalCheckpoint`: what the receiver is left as, and the bytes. -/
def marshalCheckpoint (cp : Checkpoint) : Checkpoint × String :=
  let zeroed := { cp with checksum := 0 }
  let out := checkpointRecord.codec.marshal zeroed
  let summed := { zeroed with checksum := sum out }
  (summed, checkpointRecord.codec.marshal summed)

/-- `UnmarshalCheckpoint`; `none` is an error. -/
def unmarshalCheckpoint (cp : Checkpoint) (data : String) : Option Checkpoint :=
  checkpointRecord.codec.unmarshal cp data

/-- `VerifyChecksum`: its verdict, and what the receiver is left as. -/
def verifyChecksum (cp : Checkpoint) : Except String Unit × Checkpoint :=
  let ck := cp.checksum
  let zeroed := { cp with checksum := 0 }
  let out := checkpointRecord.codec.marshal zeroed
  (if ck = sum out then .ok () else .error "checkpoint is corrupted", { zeroed with checksum := ck })

end Methods

/-! ### What comes back -/

/-- The claims a checkpoint comes back with: nil and empty both as an empty map. -/
def claimsBack (claims : StoredClaims) : GoMap String StoredDevices :=
  storedDevicesCodec.restoredMap (claims.getD ∅)

theorem isEmpty_claimsBack (claims : StoredClaims) :
    storedDevicesCodec.map.isEmpty (some (claimsBack claims)) = storedDevicesCodec.map.isEmpty claims := by
  cases claims with
  | none => rfl
  | some m => exact storedDevicesCodec.map.isEmpty_restored (some m)

/-- The member that holds the claims; no claims are left out. -/
theorem members_v1 (claims : StoredClaims) : Record.members checkpointV1Record.fields ⟨claims⟩ =
    if storedDevicesCodec.map.isEmpty claims then []
    else [("preparedClaims", storedDevicesCodec.map.encode claims)] := by
  by_cases empty : storedDevicesCodec.map.isEmpty claims = true
  · rw [if_pos empty]
    exact List.filterMap_cons_none (if_pos empty)
  · rw [if_neg empty]
    exact List.filterMap_cons_some (if_neg empty)

/-- **The claims that come back are written as the claims were.** -/
theorem members_claimsBack (claims : StoredClaims) :
    Record.members checkpointV1Record.fields ⟨some (claimsBack claims)⟩ =
      Record.members checkpointV1Record.fields ⟨claims⟩ := by
  rw [members_v1, members_v1, isEmpty_claimsBack]
  cases claims with
  | none => rfl
  | some m =>
    have same : storedDevicesCodec.map.encode (some (claimsBack (some m))) =
        storedDevicesCodec.map.encode (some m) :=
      storedDevicesCodec.map.encode_restored (some m)
    rw [same]

/-- Reading the claims into the map that `newCheckpoint` made. -/
theorem decode_v1 (claims : StoredClaims) :
    (Record.members checkpointV1Record.fields ⟨claims⟩).foldlM checkpointV1Record.decodeMember
      ⟨some ∅⟩ = some ⟨some (claimsBack claims)⟩ := by
  rw [members_v1]
  by_cases empty : storedDevicesCodec.map.isEmpty claims = true
  -- no member is written, and the map that `newCheckpoint` made stays
  · have nothing : Codec.entriesInOrder (claims.getD ∅) = [] := List.isEmpty_iff.mp empty
    have back : claimsBack claims = ∅ := by
      unfold claimsBack Codec.restoredMap
      rw [nothing]
      rfl
    rw [if_pos empty, back]
    rfl
  · rw [if_neg empty]
    cases claims with
    | none => exact absurd rfl empty
    | some m =>
      have read : storedDevicesCodec.map.decode (some ∅) (storedDevicesCodec.map.encode (some m)) =
          some (some (claimsBack (some m))) :=
        storedDevicesCodec.map.decode_encode (some m)
      have member : checkpointV1Record.decodeMember ⟨some ∅⟩
          ("preparedClaims", storedDevicesCodec.map.encode (some m)) =
            some ⟨some (claimsBack (some m))⟩ :=
        congrArg (Option.map CheckpointV1.mk) read
      rw [List.foldlM_cons, member]
      rfl

/-- The two members of a checkpoint with claims. -/
theorem encode_checkpoint (checksum : UInt64) (claims : StoredClaims) :
    checkpointRecord.codec.encode ⟨checksum, some ⟨claims⟩⟩ =
      .obj [("checksum", .num checksum.toNat),
        ("v1", .obj (Record.members checkpointV1Record.fields ⟨claims⟩))] := rfl

/-- **Reading a written checkpoint into a new one.** -/
theorem decode_checkpoint (checksum : UInt64) (claims : StoredClaims) :
    checkpointRecord.codec.decode newCheckpoint
      (checkpointRecord.codec.encode ⟨checksum, some ⟨claims⟩⟩) =
        some ⟨checksum, some ⟨some (claimsBack claims)⟩⟩ := by
  have number : checkpointRecord.decodeMember newCheckpoint ("checksum", .num checksum.toNat) =
      some ⟨checksum, some ⟨some ∅⟩⟩ :=
    congrArg (Option.map fun a => Checkpoint.mk a (some ⟨some ∅⟩)) (Codec.uint64.decode_encode checksum)
  have v1 : checkpointRecord.decodeMember ⟨checksum, some ⟨some ∅⟩⟩
      ("v1", .obj (Record.members checkpointV1Record.fields ⟨claims⟩)) =
        some ⟨checksum, some ⟨some (claimsBack claims)⟩⟩ :=
    congrArg (Option.map (Checkpoint.mk checksum)) (congrArg (Option.map some) (decode_v1 claims))
  rw [encode_checkpoint]
  show [_, _].foldlM checkpointRecord.decodeMember newCheckpoint = _
  rw [List.foldlM_cons, number]
  show checkpointRecord.decodeMember _ _ >>= _ = _
  rw [v1]
  rfl

theorem marshal_claimsBack (checksum : UInt64) (claims : StoredClaims) :
    checkpointRecord.codec.marshal ⟨checksum, some ⟨some (claimsBack claims)⟩⟩ =
      checkpointRecord.codec.marshal ⟨checksum, some ⟨claims⟩⟩ := by
  unfold Codec.marshal
  rw [encode_checkpoint, encode_checkpoint, members_claimsBack]

/-- **The bytes of a checkpoint read into a new one.** -/
theorem unmarshal_marshalCheckpoint (sum : String → UInt64) (checksum : UInt64) (claims : StoredClaims) :
    unmarshalCheckpoint newCheckpoint (marshalCheckpoint sum ⟨checksum, some ⟨claims⟩⟩).2 =
      some ⟨(marshalCheckpoint sum ⟨checksum, some ⟨claims⟩⟩).1.checksum,
        some ⟨some (claimsBack claims)⟩⟩ := by
  unfold unmarshalCheckpoint marshalCheckpoint
  exact (Codec.unmarshal_text _ _ _).trans (decode_checkpoint _ _)

/-- The checksum of what comes back holds, and stays in place. -/
theorem verifyChecksum_claimsBack (sum : String → UInt64) (checksum : UInt64) (claims : StoredClaims) :
    verifyChecksum sum ⟨(marshalCheckpoint sum ⟨checksum, some ⟨claims⟩⟩).1.checksum,
        some ⟨some (claimsBack claims)⟩⟩ =
      (.ok (), ⟨(marshalCheckpoint sum ⟨checksum, some ⟨claims⟩⟩).1.checksum,
        some ⟨some (claimsBack claims)⟩⟩) := by
  have same := marshal_claimsBack 0 claims
  unfold verifyChecksum
  refine Prod.ext (if_pos ?_) rfl
  exact congrArg sum same.symm

/-- What comes back is written as the same bytes. -/
theorem marshalCheckpoint_claimsBack (sum : String → UInt64) (checksum checksum' : UInt64)
    (claims : StoredClaims) :
    (marshalCheckpoint sum ⟨checksum', some ⟨some (claimsBack claims)⟩⟩).2 =
      (marshalCheckpoint sum ⟨checksum, some ⟨claims⟩⟩).2 := by
  show checkpointRecord.codec.marshal ⟨sum (checkpointRecord.codec.marshal _), _⟩ = _
  rw [marshal_claimsBack, marshal_claimsBack]
  rfl

end DraDriver.Plugin
