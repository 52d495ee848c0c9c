/-
**The topology messages of the fabric-manager agent.**

`AsicInfo`, `HostPhysicalTopology` and `WatchTopologyResponse` follow the agent's protocol buffers,
less the fields the driver never reads (exit nodes, channels, the node path, the descriptor YAML).
`snapshotOf` and `Snapshot.usable` decide which messages carry a topology the driver acts on.
-/

import Mathlib.Tactic

namespace DraDriver.FabricManager

/-! ### Topologies -/

/-- `topologypb.AsicInfo`. -/
structure AsicInfo where
  uniqueId : UInt64
  boardType : UInt32
  trayId : UInt32
  asicLocation : UInt32
  chipArch : String
  memoryBytes : UInt64
  pciAddress : String
  chipId : UInt32
  isMmioCapable : Bool
  deviceNodeId : UInt32
  deriving DecidableEq, Repr

/-- `topologypb.LocalEthConnection`: one link between two ASICs of the host. -/
structure LocalEthConnection where
  srcAsicId : UInt64
  dstAsicId : UInt64
  deriving DecidableEq, Repr

/-- `topologypb.HostTopologyQuirks`. -/
structure HostTopologyQuirks where
  isBhGlxRevC : Bool
  deriving DecidableEq, Repr

/-- `topologypb.HostPhysicalTopology`. -/
structure HostPhysicalTopology where
  asics : List AsicInfo
  localConnections : List LocalEthConnection
  quirks : Option HostTopologyQuirks
  discoveryError : String
  deriving DecidableEq, Repr

/-- The agent's contract for `chip_id`: the logical id of a chip within its host. -/
def HostPhysicalTopology.ChipIdsDistinct (topo : HostPhysicalTopology) : Prop :=
  (topo.asics.map AsicInfo.chipId).Nodup

instance (topo : HostPhysicalTopology) : Decidable topo.ChipIdsDistinct :=
  inferInstanceAs (Decidable (List.Nodup _))

/-- No two MMIO chips share a chip id. -/
def HostPhysicalTopology.MmioChipIdsDistinct (topo : HostPhysicalTopology) : Prop :=
  ((topo.asics.filter fun asic => asic.isMmioCapable).map AsicInfo.chipId).Nodup

/-- The MMIO chips. -/
def HostPhysicalTopology.mmioAsics (topo : HostPhysicalTopology) : List AsicInfo :=
  topo.asics.filter fun asic => asic.isMmioCapable

/-- No two MMIO chips of one tray share a location. -/
def HostPhysicalTopology.MmioSlotsDistinct (topo : HostPhysicalTopology) : Prop :=
  (topo.mmioAsics.map fun asic => (asic.trayId, asic.asicLocation)).Nodup

instance (topo : HostPhysicalTopology) : Decidable topo.MmioSlotsDistinct :=
  inferInstanceAs (Decidable (List.Nodup _))

/-- The host without one of its chips. -/
def HostPhysicalTopology.without (topo : HostPhysicalTopology) (lost : AsicInfo) :
    HostPhysicalTopology :=
  { topo with asics := topo.asics.erase lost }

/-- The chip as an agent reports it that counts locations from `d` further on. -/
def AsicInfo.shift (d : ℕ) (asic : AsicInfo) : AsicInfo :=
  { asic with asicLocation := UInt32.ofNat (asic.asicLocation.toNat + d) }

/-- The host with every location counted from another base. -/
def HostPhysicalTopology.shift (topo : HostPhysicalTopology) (d : ℕ) : HostPhysicalTopology :=
  { topo with asics := topo.asics.map (AsicInfo.shift d) }

@[simp] theorem AsicInfo.shift_zero (asic : AsicInfo) : asic.shift 0 = asic := by
  unfold AsicInfo.shift
  rw [Nat.add_zero, UInt32.ofNat_toNat]

theorem AsicInfo.shift_location {d : ℕ} {asic : AsicInfo} (small : asic.asicLocation.toNat + d < 2 ^ 32) :
    (asic.shift d).asicLocation.toNat = asic.asicLocation.toNat + d :=
  UInt32.toNat_ofNat_of_lt' small

theorem HostPhysicalTopology.ChipIdsDistinct.mmio {topo : HostPhysicalTopology}
    (distinct : topo.ChipIdsDistinct) : topo.MmioChipIdsDistinct :=
  distinct.sublist (List.filter_sublist.map _)

/-! ### Messages and snapshots -/

/-- `agentpb.GetTopologyStatus`; a status this build does not know keeps its number. -/
inductive GetTopologyStatus
  | topologyOk
  | topologyNotDiscovered
  | unknown (number : ℕ)
  deriving DecidableEq, Repr

/-- `agentpb.WatchTopologyResponse`: one message of a watch stream. -/
structure WatchTopologyResponse where
  status : GetTopologyStatus
  physicalTopology : Option HostPhysicalTopology
  version : UInt64
  deriving DecidableEq, Repr

/-- One point-in-time view of the agent's topology state. -/
structure Snapshot where
  status : GetTopologyStatus
  topology : Option HostPhysicalTopology
  version : UInt64
  deriving DecidableEq, Repr

/-- What the client makes of a message: a topology counts only with status OK. -/
def snapshotOf (resp : WatchTopologyResponse) : Snapshot :=
  { status := resp.status
    topology := if resp.status = .topologyOk then resp.physicalTopology else none
    version := resp.version }

/-- The discovery error of a snapshot; a missing topology reports none. -/
def Snapshot.discoveryError (s : Snapshot) : String :=
  (s.topology.map HostPhysicalTopology.discoveryError).getD ""

/-- Whether discovery has completed and did not fail. -/
def Snapshot.usable (s : Snapshot) : Bool :=
  s.topology.isSome && decide (s.discoveryError = "")

/-- The topology a consumer acts on: that of a usable snapshot. -/
def Snapshot.usableTopology (s : Snapshot) : Option HostPhysicalTopology :=
  if s.usable then s.topology else none

end DraDriver.FabricManager
