import PreemptionFabric.Theorems.Authority
import PreemptionFabric.Theorems.Codec
import PreemptionFabric.Theorems.Preempted
import PreemptionFabric.Theorems.Fence
import PreemptionFabric.Theorems.Resume
import PreemptionFabric.Lib.KeyedMap
import PreemptionFabric.Theorems.Quiescence
import PreemptionFabric.Theorems.Reloading
import PreemptionFabric.Theorems.Endings
import PreemptionFabric.Framing
import PreemptionFabric.Theorems.Framing
import PreemptionFabric.Theorems.Streaming
import PreemptionFabric.Lib.Crc
import PreemptionFabric.Theorems.Corruption
import PreemptionFabric.Theorems.Progress
import PreemptionFabric.Theorems.Rejection
import PreemptionFabric.Theorems.Attempts
import PreemptionFabric.Theorems.Images
import PreemptionFabric.Theorems.Checkpoints
import PreemptionFabric.Lib.Observation
import PreemptionFabric.Theorems.Isolation
import PreemptionFabric.Theorems.Reports
import PreemptionFabric.Lib.Path
import PreemptionFabric.Theorems.Paths
import PreemptionFabric.Theorems.Eligibility
import PreemptionFabric.Theorems.Boundary
import PreemptionFabric.Lib.Ledger
import PreemptionFabric.Theorems.Resources
import PreemptionFabric.Coordinator
import PreemptionFabric.Theorems.Coordinator
import PreemptionFabric.Theorems.ReferenceWorker
import PreemptionFabric.Theorems.Buffering
import PreemptionFabric.Theorems.Boots
import PreemptionFabric.Theorems.Canonical
import PreemptionFabric.Theorems.Broker
import PreemptionFabric.Theorems.Release
import PreemptionFabric.Theorems.Driving
import PreemptionFabric.Theorems.Transport
import PreemptionFabric.Theorems.Scenario
import PreemptionFabric.Theorems.Sessions
import PreemptionFabric.Deployment
import PreemptionFabric.Theorems.Deployment
import PreemptionFabric.Dialogue
import PreemptionFabric.Theorems.Dialogue
import PreemptionFabric.Theorems.Observed
import PreemptionFabric.Theorems.Normal
import PreemptionFabric.Theorems.Inversion
import PreemptionFabric.Theorems.Fabric
