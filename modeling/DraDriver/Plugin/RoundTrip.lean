/-
**The checkpoint round trip.**

What is written of the prepared claims is read back, up to what JSON does not tell apart: a nil inner
slice and an empty one, and a CDI edits pointer that is nil and one to edits that edit nothing.

* `settledEdits_restored`, `settled_restored` — what comes back of the edits and of a device.
* **`checkpoint_roundTrip`** — the round trip through `MarshalCheckpoint`, `UnmarshalCheckpoint` and
  `VerifyChecksum`, for every checksum function. `blank_edits_lost`: up to nil and empty slices alone
  it fails.
* **`holds_read`** — so the disk of the model, which answers a read with the claims last written, is
  what the bytes do; `stores_storeClaims`: every state of it is one the bytes can have.
-/

import DraDriver.Plugin.Checkpoint
import Mathlib.Data.List.ReduceOption

namespace DraDriver.Plugin

open DraDriver.Base DraDriver.Profiles

/-! ### Nil and empty -/

/-- A slice with nil read as empty, each element as `norm` shows it. -/
def GoSlice.filled {α : Type} (norm : α → α) (s : GoSlice α) : GoSlice α := some ((s.getD []).map norm)

/-- A mount with its options filled. -/
def StoredMount.filled (mount : StoredMount) : StoredMount :=
  { mount with options := GoSlice.filled id mount.options }

/-- Edits with their slices filled. -/
def SpecEdits.filled (edits : SpecEdits) : SpecEdits where
  env := GoSlice.filled id edits.env
  deviceNodes := GoSlice.filled id edits.deviceNodes
  mounts := GoSlice.filled (Option.map StoredMount.filled) edits.mounts

/-- Edits that edit nothing. -/
def SpecEdits.blank (edits : SpecEdits) : Bool :=
  (edits.env.getD []).isEmpty && (edits.deviceNodes.getD []).isEmpty && (edits.mounts.getD []).isEmpty

/-- A device with its inner slices filled, its edits as `edits` shows them. -/
def StoredDevice.shown (edits : StoredEdits → StoredEdits) (d : StoredDevice) : StoredDevice where
  device :=
    { requestNames := GoSlice.filled id d.device.requestNames
      poolName := d.device.poolName
      deviceName := d.device.deviceName
      cdiDeviceIds := GoSlice.filled id d.device.cdiDeviceIds }
  containerEdits := d.containerEdits.map edits
  adminAccess := d.adminAccess

/-- A device up to nil and empty inner slices. -/
def StoredDevice.filled : StoredDevice → StoredDevice := .shown (Option.map SpecEdits.filled)

/-- The edits up to nil and empty inner slices, and up to a pointer to edits that edit nothing. -/
def settledEdits : StoredEdits → StoredEdits
  | none => none
  | some edits => if edits.blank then none else some edits.filled

/-- A device up to nil and empty inner slices, and up to a pointer to edits that edit nothing. -/
def StoredDevice.settled : StoredDevice → StoredDevice := .shown settledEdits

/-- What comes back of an `omitempty` slice is the slice, up to nil and empty. -/
theorem filled_back {α : Type} {c : Codec α} {norm : α → α}
    (keeps : ∀ v, norm (c.restored v) = norm v) {s back : GoSlice α}
    (came : back = if c.slice.isEmpty s then c.slice.zero else c.slice.restored s) :
    GoSlice.filled norm back = GoSlice.filled norm s := by
  rw [came]
  by_cases empty : c.slice.isEmpty s = true
  · have nothing : s.getD [] = [] := List.isEmpty_iff.mp empty
    rw [if_pos empty]
    unfold GoSlice.filled
    rw [nothing]
    rfl
  · rw [if_neg empty]
    cases s with
    | none => exact absurd rfl empty
    | some vs =>
      show some ((vs.map c.restored).map norm) = some (vs.map norm)
      rw [List.map_map]
      exact congrArg some (List.map_congr_left fun v _ => keeps v)

/-- An `omitempty` text comes back as it was. -/
theorem string_back {s back : String} (came : back = if Codec.string.isEmpty s then Codec.string.zero
    else Codec.string.restored s) : back = s := by
  rw [came]
  by_cases empty : Codec.string.isEmpty s = true
  · rw [if_pos empty]
    exact (String.isEmpty_iff.mp empty).symm
  · rw [if_neg empty]
    rfl

theorem deviceNode_restored (node : DeviceNode) : deviceNodeRecord.restored node = node := by
  have path : (deviceNodeRecord.restored node).path = node.path :=
    deviceNodeRecord.get_restored_at node ⟨0, by decide⟩
  have type : (deviceNodeRecord.restored node).type = node.type :=
    string_back (deviceNodeRecord.get_restored_at node ⟨1, by decide⟩)
  have permissions : (deviceNodeRecord.restored node).permissions = node.permissions :=
    string_back (deviceNodeRecord.get_restored_at node ⟨2, by decide⟩)
  generalize deviceNodeRecord.restored node = back at path type permissions ⊢
  cases back
  cases node
  cases path
  cases type
  cases permissions
  rfl

theorem mount_filled_restored (mount : StoredMount) :
    (mountRecord.restored mount).filled = mount.filled := by
  have hostPath : (mountRecord.restored mount).hostPath = mount.hostPath :=
    mountRecord.get_restored_at mount ⟨0, by decide⟩
  have containerPath : (mountRecord.restored mount).containerPath = mount.containerPath :=
    mountRecord.get_restored_at mount ⟨1, by decide⟩
  have options : GoSlice.filled id (mountRecord.restored mount).options =
      GoSlice.filled id mount.options :=
    filled_back (fun _ => rfl) (mountRecord.get_restored_at mount ⟨2, by decide⟩)
  unfold StoredMount.filled
  rw [hostPath, containerPath, options]

theorem specEdits_filled_restored (edits : SpecEdits) :
    (specEditsRecord.restored edits).filled = edits.filled := by
  have env : GoSlice.filled id (specEditsRecord.restored edits).env = GoSlice.filled id edits.env :=
    filled_back (fun _ => rfl) (specEditsRecord.get_restored_at edits ⟨0, by decide⟩)
  have node : ∀ node : Option DeviceNode, node.map deviceNodeRecord.restored = node := by
    intro node
    cases node with
    | none => rfl
    | some node => exact congrArg some (deviceNode_restored node)
  have nodes : GoSlice.filled id (specEditsRecord.restored edits).deviceNodes =
      GoSlice.filled id edits.deviceNodes :=
    filled_back node (specEditsRecord.get_restored_at edits ⟨1, by decide⟩)
  have mount : ∀ mount : Option StoredMount, (mount.map mountRecord.restored).map StoredMount.filled =
      mount.map StoredMount.filled := by
    intro mount
    cases mount with
    | none => rfl
    | some mount => exact congrArg some (mount_filled_restored mount)
  have mounts : GoSlice.filled (Option.map StoredMount.filled) (specEditsRecord.restored edits).mounts =
      GoSlice.filled (Option.map StoredMount.filled) edits.mounts :=
    filled_back mount (specEditsRecord.get_restored_at edits ⟨2, by decide⟩)
  unfold SpecEdits.filled
  rw [env, nodes, mounts]

/-- Nothing is written of edits exactly when they edit nothing. -/
theorem members_specEdits (edits : SpecEdits) :
    Record.members specEditsRecord.fields edits = [] ↔ edits.blank = true := by
  rw [Record.members_eq_nil]
  unfold SpecEdits.blank
  rw [Bool.and_eq_true_iff, Bool.and_eq_true_iff]
  constructor
  · intro all
    exact ⟨⟨all _ (specEditsRecord.fields.get_mem ⟨0, by decide⟩),
      all _ (specEditsRecord.fields.get_mem ⟨1, by decide⟩)⟩,
      all _ (specEditsRecord.fields.get_mem ⟨2, by decide⟩)⟩
  · rintro ⟨⟨env, nodes⟩, mounts⟩
    refine List.forall_mem_cons.mpr ⟨env, List.forall_mem_cons.mpr ⟨nodes, ?_⟩⟩
    exact List.forall_mem_singleton.mpr mounts

/-- **The edits come back, up to nil and empty and up to a pointer to edits that edit nothing.** -/
theorem settledEdits_restored (edits : StoredEdits) :
    settledEdits (specEditsRecord.restoredPtr edits) = settledEdits edits := by
  cases edits with
  | none => rfl
  | some edits =>
    have same : (specEditsRecord.restored edits).blank = edits.blank := by
      rw [Bool.eq_iff_iff, ← members_specEdits, ← members_specEdits, specEditsRecord.members_restored]
    rw [Record.restoredPtr_some]
    by_cases blank : edits.blank = true
    -- written as an empty object, which allocates no edits
    · rw [if_pos ((members_specEdits edits).mpr blank)]
      exact (if_pos blank).symm
    · rw [if_neg fun nothing => blank ((members_specEdits edits).mp nothing)]
      show (if (specEditsRecord.restored edits).blank then none else _) = if edits.blank then none else _
      rw [same, specEdits_filled_restored]

theorem settled_restored (d : StoredDevice) : (storedDeviceRecord.restored d).settled = d.settled := by
  have requestNames : GoSlice.filled id (storedDeviceRecord.restored d).device.requestNames =
      GoSlice.filled id d.device.requestNames :=
    filled_back (fun _ => rfl) (storedDeviceRecord.get_restored_at d ⟨0, by decide⟩)
  have poolName : (storedDeviceRecord.restored d).device.poolName = d.device.poolName :=
    string_back (storedDeviceRecord.get_restored_at d ⟨1, by decide⟩)
  have deviceName : (storedDeviceRecord.restored d).device.deviceName = d.device.deviceName :=
    string_back (storedDeviceRecord.get_restored_at d ⟨2, by decide⟩)
  have cdiDeviceIds : GoSlice.filled id (storedDeviceRecord.restored d).device.cdiDeviceIds =
      GoSlice.filled id d.device.cdiDeviceIds :=
    filled_back (fun _ => rfl) (storedDeviceRecord.get_restored_at d ⟨3, by decide⟩)
  have edits : (storedDeviceRecord.restored d).containerEdits =
      d.containerEdits.map specEditsRecord.restoredPtr :=
    storedDeviceRecord.get_restored_at d ⟨4, by decide⟩
  have admin : (storedDeviceRecord.restored d).adminAccess = d.adminAccess :=
    storedDeviceRecord.get_restored_at d ⟨5, by decide⟩
  have settled : (d.containerEdits.map specEditsRecord.restoredPtr).map settledEdits =
      d.containerEdits.map settledEdits := by
    rw [Option.map_map]
    exact congrArg (fun f => d.containerEdits.map f) (funext settledEdits_restored)
  unfold StoredDevice.settled StoredDevice.shown
  rw [requestNames, poolName, deviceName, cdiDeviceIds, edits, admin, settled]

/-- The devices of a claim as `seen` shows each; a nil list stays apart from an empty one. -/
def devicesSeen (seen : StoredDevice → StoredDevice) (devices : StoredDevices) : StoredDevices :=
  devices.map (List.map (Option.map seen))

theorem devicesSeen_restored (devices : StoredDevices) :
    devicesSeen .settled (storedDevicesCodec.restored devices) = devicesSeen .settled devices := by
  cases devices with
  | none => rfl
  | some list =>
    show some ((list.map (Option.map storedDeviceRecord.restored)).map (Option.map StoredDevice.settled)) =
      some (list.map (Option.map StoredDevice.settled))
    rw [List.map_map]
    refine congrArg some (List.map_congr_left fun d _ => ?_)
    cases d with
    | none => rfl
    | some d => exact congrArg some (settled_restored d)

/-! ### The round trip -/

/-- What the round trip of a checkpoint with the given claims comes to, the devices compared as
`seen` shows them. -/
structure RoundTrip (sum : String → UInt64) (seen : StoredDevice → StoredDevice) (cp : Checkpoint)
    (claims : StoredClaims) (restored : Checkpoint) (kept : GoMap String StoredDevices) : Prop where
  /-- Reading the bytes into a new checkpoint succeeds. -/
  read : unmarshalCheckpoint newCheckpoint (marshalCheckpoint sum cp).2 = some restored
  /-- The checksum holds, and stays in place. -/
  verified : verifyChecksum sum restored = (.ok (), restored)
  stored : restored.checksum = (marshalCheckpoint sum cp).1.checksum
  /-- There is a map to write to. -/
  present : restored.v1 = some ⟨some kept⟩
  same : ∀ uid, (kept.lookup uid).map (devicesSeen seen) =
    ((claims.getD ∅).lookup uid).map (devicesSeen seen)
  /-- Writing what was read gives the same bytes. -/
  written : (marshalCheckpoint sum restored).2 = (marshalCheckpoint sum cp).2

/-- A checkpoint with the given claims makes the round trip, whatever checksum it carries. -/
def RoundTrips (sum : String → UInt64) (seen : StoredDevice → StoredDevice) (claims : StoredClaims) :
    Prop :=
  ∀ checksum, ∃ restored kept, RoundTrip sum seen ⟨checksum, some ⟨claims⟩⟩ claims restored kept

/-- **The checkpoint round trip.** Whatever the claims, the bytes of a checkpoint are read into a new
one whose checksum holds, whose claims are the ones written, and which is written as the same bytes;
the claims agree up to nil and empty inner slices, and up to a pointer to edits that edit nothing,
which comes back nil. -/
theorem checkpoint_roundTrip (sum : String → UInt64) (claims : StoredClaims) :
    RoundTrips sum StoredDevice.settled claims := by
  intro checksum
  refine ⟨_, claimsBack claims, unmarshal_marshalCheckpoint sum checksum claims,
    verifyChecksum_claimsBack sum checksum claims, rfl, rfl, ?_,
    marshalCheckpoint_claimsBack sum checksum _ claims⟩
  intro uid
  unfold claimsBack
  rw [Codec.lookup_restoredMap, Option.map_map]
  exact congrArg (fun f => ((claims.getD ∅).lookup uid).map f) (funext devicesSeen_restored)

/-- A prepared device whose edits are there and edit nothing. -/
def blankDevice : StoredDevice :=
  ⟨⟨some ["req-0"], "node-a", "tt-24", none⟩, some (some ⟨none, none, none⟩), false⟩

/-- A checkpoint with that device. -/
def blankClaims : StoredClaims := some (AList.singleton "claim-uid" (some [some blankDevice]))

/-- Up to nil and empty slices alone the claims need not come back: the pointer to the edits is lost. -/
theorem blank_edits_lost : ¬ RoundTrips (fun _ => 0) StoredDevice.filled blankClaims := by
  intro trips
  obtain ⟨restored, kept, trip⟩ := trips 0
  have read := trip.read
  rw [unmarshal_marshalCheckpoint] at read
  obtain rfl := Option.some.inj read
  obtain rfl : claimsBack blankClaims = kept := by
    have present := trip.present
    cases present
    rfl
  have same := trip.same "claim-uid"
  revert same
  decide +kernel

/-! ### What the disk model records of it -/

/-- The mount the rest of the model works with. -/
def StoredMount.view (mount : StoredMount) : Mount where
  hostPath := mount.hostPath
  containerPath := mount.containerPath
  options := mount.options.getD []

/-- Stored edits as the driver reads them. -/
def SpecEdits.view (edits : SpecEdits) : ContainerEdits where
  env := edits.env.getD []
  deviceNodes := (edits.deviceNodes.getD []).reduceOption
  mounts := (edits.mounts.getD []).reduceOption.map StoredMount.view

/-- Edits that are there but hold a nil pointer edit nothing. -/
def viewEdits (edits : StoredEdits) : ContainerEdits := (edits.map SpecEdits.view).getD {}

/-- A stored device as the driver reads it. -/
def StoredDevice.view (d : StoredDevice) : PreparedDevice where
  device :=
    { requestNames := d.device.requestNames.getD []
      poolName := d.device.poolName
      deviceName := d.device.deviceName
      cdiDeviceIds := d.device.cdiDeviceIds.getD [] }
  containerEdits := d.containerEdits.map viewEdits
  adminAccess := d.adminAccess

/-- Stored devices as the driver reads them; nil entries are passed over. -/
def viewDevices (devices : StoredDevices) : PreparedDevices :=
  devices.map fun list => list.reduceOption.map StoredDevice.view

theorem getD_filled {α : Type} (s : GoSlice α) : (GoSlice.filled id s).getD [] = s.getD [] :=
  List.map_id _

theorem view_filled (edits : SpecEdits) : edits.filled.view = edits.view := by
  have mounts : ((GoSlice.filled (Option.map StoredMount.filled) edits.mounts).getD []).reduceOption.map
      StoredMount.view = (edits.mounts.getD []).reduceOption.map StoredMount.view := by
    show (((edits.mounts.getD []).map (Option.map StoredMount.filled)).reduceOption).map _ = _
    rw [List.reduceOption_map, List.map_map]
    refine List.map_congr_left fun mount _ => ?_
    show StoredMount.view mount.filled = mount.view
    unfold StoredMount.filled StoredMount.view
    rw [getD_filled]
  unfold SpecEdits.filled SpecEdits.view
  rw [mounts, getD_filled, getD_filled]

/-- What a device shows is settled: a pointer to edits that edit nothing shows no edit. -/
theorem view_settledEdits (edits : StoredEdits) : viewEdits (settledEdits edits) = viewEdits edits := by
  cases edits with
  | none => rfl
  | some edits =>
    by_cases blank : edits.blank = true
    · have lost : settledEdits (some edits) = none := if_pos blank
      obtain ⟨both, mounts⟩ := Bool.and_eq_true_iff.mp blank
      obtain ⟨env, nodes⟩ := Bool.and_eq_true_iff.mp both
      have shown : edits.view = {} := by
        unfold SpecEdits.view
        rw [List.isEmpty_iff.mp env, List.isEmpty_iff.mp nodes, List.isEmpty_iff.mp mounts]
        rfl
      rw [lost]
      exact shown.symm
    · have kept : settledEdits (some edits) = some edits.filled := if_neg blank
      rw [kept]
      exact view_filled edits

theorem view_settled (d : StoredDevice) : d.settled.view = d.view := by
  unfold StoredDevice.settled StoredDevice.shown StoredDevice.view
  rw [getD_filled, getD_filled, Option.map_map]
  have edits : viewEdits ∘ settledEdits = viewEdits := funext view_settledEdits
  rw [edits]

theorem viewDevices_seen (devices : StoredDevices) :
    viewDevices (devicesSeen .settled devices) = viewDevices devices := by
  cases devices with
  | none => rfl
  | some list =>
    show some ((list.map (Option.map StoredDevice.settled)).reduceOption.map StoredDevice.view) =
      some (list.reduceOption.map StoredDevice.view)
    rw [List.reduceOption_map, List.map_map]
    exact congrArg some (List.map_congr_left fun d _ => view_settled d)

/-- The stored map holds the claims of the disk model. -/
def Stores (stored : GoMap String StoredDevices) (claims : PreparedClaims) : Prop :=
  ∀ uid : ClaimUID, (stored.lookup uid.text).map viewDevices = claims.lookup uid

/-- What the driver hands to the checkpoint, of the claims of the model. -/
def storeEdits (edits : ContainerEdits) : StoredEdits :=
  some
    { env := some edits.env
      deviceNodes := some (edits.deviceNodes.map some)
      mounts := some (edits.mounts.map fun mount =>
        some ⟨mount.hostPath, mount.containerPath, some mount.options⟩) }

/-- A device as the checkpoint stores it. -/
def storeDevice (d : PreparedDevice) : StoredDevice where
  device :=
    { requestNames := some d.device.requestNames
      poolName := d.device.poolName
      deviceName := d.device.deviceName
      cdiDeviceIds := some d.device.cdiDeviceIds }
  containerEdits := d.containerEdits.map storeEdits
  adminAccess := d.adminAccess

/-- Devices as the checkpoint stores them. -/
def storeDevices (devices : PreparedDevices) : StoredDevices :=
  devices.map fun list => list.map fun d => some (storeDevice d)

/-- Claims as the checkpoint stores them. -/
def storeClaims (claims : PreparedClaims) : GoMap String StoredDevices :=
  claims.entries.foldl (fun m entry => m.insert entry.1.text (storeDevices entry.2)) ∅

theorem reduceOption_some {α β : Type} (f : α → β) (list : List α) :
    (list.map fun a => some (f a)).reduceOption = list.map f := by
  induction list with
  | nil => rfl
  | cons a list ih => rw [List.map_cons, List.reduceOption_cons_of_some, ih, List.map_cons]

theorem view_storeEdits (edits : ContainerEdits) : viewEdits (storeEdits edits) = edits := by
  have nodes : (edits.deviceNodes.map some).reduceOption = edits.deviceNodes :=
    (reduceOption_some id edits.deviceNodes).trans (List.map_id _)
  have mounts : ((edits.mounts.map fun mount => some (StoredMount.mk mount.hostPath
      mount.containerPath (some mount.options))).reduceOption).map StoredMount.view = edits.mounts := by
    rw [reduceOption_some, List.map_map]
    exact List.map_id _
  show ContainerEdits.mk _ _ _ = _
  exact congrArg₂ (ContainerEdits.mk edits.env) nodes mounts

theorem view_storeDevices (devices : PreparedDevices) : viewDevices (storeDevices devices) = devices := by
  have device : ∀ d, (storeDevice d).view = d := by
    intro d
    have both : viewEdits ∘ storeEdits = id := funext view_storeEdits
    have edits : (d.containerEdits.map storeEdits).map viewEdits = d.containerEdits := by
      rw [Option.map_map, both, Option.map_id, id]
    exact congrArg (fun e => PreparedDevice.mk d.device e d.adminAccess) edits
  cases devices with
  | none => rfl
  | some list =>
    show some (((list.map fun d => some (storeDevice d)).reduceOption).map StoredDevice.view) = some list
    have both : StoredDevice.view ∘ storeDevice = id := funext device
    rw [reduceOption_some, List.map_map, both, List.map_id]

/-- Every state of the disk model is the view of a map the driver can store. -/
theorem stores_storeClaims (claims : PreparedClaims) : Stores (storeClaims claims) claims := by
  intro uid
  have distinct : (claims.entries.map fun entry => entry.1.text).Nodup := by
    have texts := claims.keys_nodup.map fun _ _ same => ClaimUID.ext same
    rw [AList.keys, List.keys, List.map_map] at texts
    exact texts
  have back : viewDevices ∘ storeDevices = id := funext view_storeDevices
  have stored : (storeClaims claims).lookup uid.text = (claims.lookup uid).map storeDevices := by
    refine Option.ext fun devices => (lookup_fill distinct).trans ?_
    rw [Option.map_eq_some_iff]
    constructor
    · rintro ⟨⟨uid', found⟩, member, sameKey, rfl⟩
      obtain rfl := ClaimUID.ext sameKey
      exact ⟨found, AList.mem_lookup_iff.mpr member, rfl⟩
    · rintro ⟨found, member, rfl⟩
      exact ⟨⟨uid, found⟩, AList.mem_lookup_iff.mp member, rfl, rfl⟩
  rw [stored, Option.map_map, back, Option.map_id, id]

/-- What comes back shows what was stored. -/
theorem viewDevices_restored (devices : StoredDevices) :
    viewDevices (storedDevicesCodec.restored devices) = viewDevices devices := by
  rw [← viewDevices_seen, devicesSeen_restored, viewDevices_seen]

theorem Stores.claimsBack {stored : GoMap String StoredDevices} {claims : PreparedClaims}
    (stores : Stores stored claims) : Stores (claimsBack (some stored)) claims := by
  intro uid
  have back : viewDevices ∘ storedDevicesCodec.restored = viewDevices := funext viewDevices_restored
  rw [← stores uid]
  show ((storedDevicesCodec.restoredMap stored).lookup uid.text).map viewDevices = _
  rw [Codec.lookup_restoredMap, Option.map_map, back]

section Simulation

variable {sum : String → UInt64} {file : Option String} {disk : Disk}

/-- The checkpoint file holds what the disk model does: the bytes of a checkpoint with its claims. -/
def Holds (sum : String → UInt64) (file : Option String) : Option PreparedClaims → Prop
  | none => file = none
  | some claims => ∃ checksum stored, Stores stored claims ∧
      file = some (marshalCheckpoint sum ⟨checksum, some ⟨some stored⟩⟩).2

/-- Writing a checkpoint's bytes is the write of the model. -/
theorem holds_write {stored : GoMap String StoredDevices} {claims : PreparedClaims}
    (stores : Stores stored claims) (checksum : UInt64) :
    Holds sum (some (marshalCheckpoint sum ⟨checksum, some ⟨some stored⟩⟩).2)
      (disk.perform (.writeCheckpoint claims)).2.checkpoint :=
  ⟨checksum, stored, stores, rfl⟩

/-- **Reading the bytes is the read of the model**: they are accepted, their checksum holds, and the
claims in them are the ones the model answers with. -/
theorem holds_read {bytes : String} (holds : Holds sum (some bytes) disk.checkpoint) :
    ∃ restored kept claims, unmarshalCheckpoint newCheckpoint bytes = some restored ∧
      verifyChecksum sum restored = (.ok (), restored) ∧ restored.v1 = some ⟨some kept⟩ ∧
        Stores kept claims ∧ (disk.perform .readCheckpoint).1 = .ok claims := by
  cases there : disk.checkpoint with
  | none =>
    rw [there] at holds
    cases holds
  | some claims =>
    rw [there] at holds
    obtain ⟨checksum, stored, stores, written⟩ := holds
    obtain rfl := Option.some.inj written
    have answer : (disk.perform .readCheckpoint).1 = .ok claims := by
      unfold Disk.perform
      rw [there]
    exact ⟨_, _, claims, unmarshal_marshalCheckpoint sum checksum (some stored),
      verifyChecksum_claimsBack sum checksum (some stored), rfl, stores.claimsBack, answer⟩

end Simulation

end DraDriver.Plugin
