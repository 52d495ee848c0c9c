import DraDriver.Base.GoRuntime
import DraDriver.Base.Text
import DraDriver.FabricManager.Topology
import DraDriver.Tenstorrent.Bundles
import DraDriver.Tenstorrent.Counters
import DraDriver.Tenstorrent.Devices
import DraDriver.Tenstorrent.Mesh
import DraDriver.Tenstorrent.Apply
import DraDriver.Base.Exclusion
import DraDriver.Tenstorrent.Exclusion
import DraDriver.Base.Effect
import DraDriver.Profiles.Edits
import DraDriver.Tenstorrent.Edits
import DraDriver.Plugin.Disk
import DraDriver.Plugin.Cdi
import DraDriver.Plugin.Hardware
import DraDriver.Plugin.State
import DraDriver.Plugin.Ends
import DraDriver.Plugin.Startup
import DraDriver.Plugin.Reconcile
import DraDriver.Plugin.Runs
import DraDriver.Plugin.Durable
import DraDriver.Plugin.Release
import DraDriver.Plugin.Rolling
import DraDriver.Plugin.Prepared
import DraDriver.Plugin.Renumber
import DraDriver.FabricManager.Watch
import DraDriver.Base.Changes
import DraDriver.Tenstorrent.Stable
import DraDriver.Plugin.Pipeline
import DraDriver.Plugin.Lag
import DraDriver.Plugin.Published
import DraDriver.Plugin.Resolve
import DraDriver.Base.Footprint
import DraDriver.Plugin.Batch
import DraDriver.Tenstorrent.TraySets
import DraDriver.Base.Grid
import DraDriver.Tenstorrent.MeshGrid
import DraDriver.Tenstorrent.Limits
import DraDriver.Tenstorrent.MeshLoss
import DraDriver.Plugin.Isolation
import DraDriver.Tenstorrent.Shift
import DraDriver.Tenstorrent.Orders
import DraDriver.Plugin.Precedence
import DraDriver.Plugin.Preparable
import DraDriver.Plugin.Retries
import DraDriver.Plugin.Prune
import DraDriver.Tenstorrent.Totals
import DraDriver.Base.GoJson
import DraDriver.Plugin.Checkpoint
import DraDriver.Plugin.RoundTrip
import DraDriver.Base.Lock
import DraDriver.Plugin.Composite
import DraDriver.Plugin.Concurrent
import DraDriver.Base.Progress
import DraDriver.FabricManager.Progress
import DraDriver.Plugin.Process
import DraDriver.Base.Ledger
import DraDriver.Plugin.Cluster
import DraDriver.Base.Offer
import DraDriver.Plugin.Fallback
import DraDriver.Tenstorrent.Withdrawal
import DraDriver.Plugin.Downgrade
