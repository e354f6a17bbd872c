import Baleen.Lib.Words
import Baleen.Lib.Grid
import Baleen.Lib.Slab
import Baleen.Lib.Op
import Baleen.Evtchn.Model
import Baleen.Sched.Model
import Baleen.Grant.Model
import Baleen.P2m.Model
import Baleen.Hypervisor.Check
import Baleen.P2m.Pages
import Baleen.P2m.Spec
import Baleen.P2m.Teardown
import Baleen.Hypervisor.Reclaim
import Baleen.Evtchn.Teardown
import Baleen.Sched.Cpus
import Baleen.Hypervisor.Calls
import Baleen.Hypervisor.Runs
import Baleen.Hypervisor.Sweep
import Baleen.Hypervisor.Delegation
import Baleen.Hypervisor.Shells
import Baleen.Hypervisor.Tidy
import Baleen.P2m.Ledger
import Baleen.Hypervisor.Checked
import Baleen.Hypervisor.Shape
import Baleen.Hypervisor.Invariant
import Baleen.Hypervisor.Destroy
import Baleen.Hypervisor.Rebirth
import Baleen.Stage2.LeafMap
import Baleen.Stage2.Check
import Baleen.Stage2.Leaves
import Baleen.Stage2.Isolation
import Baleen.Lib.Bits
import Baleen.Lib.Checks
import Baleen.Lib.Slice
import Baleen.Arm64.Descriptor
import Baleen.Arm64.Layout
import Baleen.Arm64.Tables
import Baleen.Arm64.Windows
import Baleen.Arm64.Walk
import Baleen.Arm64.Emit
import Baleen.Arm64.Verify
import Baleen.Arm64.Gate
import Baleen.Arm64.Regime
import Baleen.Smmu.Model
import Baleen.Smmu.Entry
import Baleen.Smmu.Stream
import Baleen.Smmu.Composition
import Baleen.Lib.Keeps
import Baleen.Virtio.Transport
import Baleen.Virtio.Backend
import Baleen.Virtio.Confinement
import Baleen.Lib.Loop
import Baleen.Virtio.Rounds
import Baleen.Lib.Panics
import Baleen.Virtio.Addresses
import Baleen.Virtio.Registers
import Baleen.Lib.FairShare
import Baleen.Lib.Choose
import Baleen.Policy.Model
import Baleen.Policy.Decisions
import Baleen.Policy.Settling
import Baleen.Policy.Shares
import Baleen.Policy.SinglePcpu
import Baleen.Policy.Fairness
import Baleen.Policy.Waiting
import Baleen.Policy.Bounded
import Baleen.Policy.Useful
import Baleen.Policy.Histories
import Baleen.Policy.Waking
import Baleen.Policy.Overflow
import Baleen.Policy.Scaling
import Baleen.Gic.Model
import Baleen.Gic.Decode
import Baleen.Gic.Enables
import Baleen.Gic.Counting
import Baleen.Gic.Mediation
import Baleen.Lib.Agree
import Baleen.Lib.Codes
import Baleen.Sched.Alike
import Baleen.Grant.Alike
import Baleen.Grant.Locality
import Baleen.P2m.Alike
import Baleen.P2m.Undo
import Baleen.P2m.Levels
import Baleen.Hypervisor.AlikeMemory
import Baleen.Hypervisor.Alike
import Baleen.Hypervisor.AlikeCalls
import Baleen.Hypervisor.Universe
import Baleen.Sim.Noninterference
import Baleen.Sim.Surface
import Baleen.Sim.LocalRespect
import Baleen.Sim.Withdrawal
import Baleen.Sim.Enumerate
import Baleen.Sim.StateKey
import Baleen.Sim.KeyedStates
import Baleen.Sim.Bisimulation
import Baleen.P2m.Refusals
import Baleen.Sim.ObsPlus
import Baleen.Sim.View
import Baleen.Sim.SameView
import Baleen.Sim.FrameProbes
import Baleen.Sim.LinkProbes
import Baleen.Sim.GrantProbes
import Baleen.Sim.OwnCalls
import Baleen.Sim.Residue
import Baleen.Lib.Overlap
import Baleen.Pl011.Needle
import Baleen.Virtio.Disk
import Baleen.Virtio.Requests
import Baleen.Virtio.Overlays
import Baleen.Gic.Widths
import Baleen.Arm64.Vtcr
import Baleen.Smmu.Encodings
import Baleen.Gic.ListRegisters
import Baleen.Part.Ownership
import Baleen.Gic.Routing
import Baleen.Metal.Isolation
import Baleen.Metal.Accounts
import Baleen.Metal.Reports
