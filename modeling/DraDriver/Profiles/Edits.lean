/-
**What a profile and the kubelet plugin exchange**: container edits, allocation results and
prepared devices.
-/

import DraDriver.Base.GoRuntime

namespace DraDriver.Profiles

open DraDriver.Base

/-! ### CDI container edits -/

/-- `cdispec.DeviceNode`, with the fields the driver sets. -/
structure DeviceNode where
  path : String
  type : String
  permissions : String
  deriving DecidableEq, Repr

/-- `cdispec.Mount`, with the fields the driver sets. -/
structure Mount where
  hostPath : String
  containerPath : String
  options : List String
  deriving DecidableEq, Repr

/-- `cdiapi.ContainerEdits`. -/
structure ContainerEdits where
  env : List String := []
  deviceNodes : List DeviceNode := []
  mounts : List Mount := []
  deriving DecidableEq, Repr

/-- `ContainerEdits.Append`; appending nil changes nothing. -/
def ContainerEdits.append (edits : ContainerEdits) : Option ContainerEdits → ContainerEdits
  | none => edits
  | some more =>
    { env := edits.env ++ more.env
      deviceNodes := edits.deviceNodes ++ more.deviceNodes
      mounts := edits.mounts ++ more.mounts }

/-- The edits of each device, by its name. -/
abbrev PerDeviceCDIContainerEdits := GoMap String ContainerEdits

/-! ### Allocation results and prepared devices -/

/-- `resourceapi.DeviceRequestAllocationResult`. -/
structure DeviceRequestAllocationResult where
  request : String
  driver : String
  pool : String
  device : String
  adminAccess : Option Bool
  deriving DecidableEq, Repr

/-- `drapbv1.Device`: what the kubelet is told about a prepared device. -/
structure KubeletDevice where
  requestNames : List String
  poolName : String
  deviceName : String
  cdiDeviceIds : List String
  deriving DecidableEq, Repr

/-- `profiles.PreparedDevice`. -/
structure PreparedDevice where
  device : KubeletDevice
  containerEdits : Option ContainerEdits
  adminAccess : Bool
  deriving DecidableEq, Repr

/-- The devices of a claim; `none` is Go's nil slice, which the checkpoint keeps apart from an
empty one. -/
abbrev PreparedDevices := Option (List PreparedDevice)

/-- `for _, device := range devices`: a nil slice has none. -/
def rangeDevices (devices : PreparedDevices) : List PreparedDevice := devices.getD []

/-- `PreparedDevices.GetDevices`: what the kubelet is told. -/
def getDevices (devices : PreparedDevices) : List KubeletDevice :=
  (rangeDevices devices).map PreparedDevice.device

/-! ### Config handlers -/

/-- `profiles.ConfigHandler`, for the one method `prepareDevices` calls; an error is its text. -/
structure ConfigHandler (Config : Type) where
  applyConfig : Option Config → List DeviceRequestAllocationResult →
    Except String PerDeviceCDIContainerEdits

end DraDriver.Profiles
