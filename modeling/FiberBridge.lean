import FiberBridge.Scenario.Run
import FiberBridge.Proofs.Change
import FiberBridge.Proofs.Fate
import FiberBridge.Proofs.Moves
import FiberBridge.Proofs.Steady
import FiberBridge.Proofs.Steps
import FiberBridge.Proofs.Current
import FiberBridge.Proofs.Outcome
import FiberBridge.Proofs.Scripts
import FiberBridge.Proofs.Pending
import FiberBridge.Proofs.Lookup
import FiberBridge.Proofs.Protocol
import FiberBridge.Proofs.Attribution
import FiberBridge.Proofs.Turn
import FiberBridge.Proofs.Account
import FiberBridge.Proofs.Asking
import FiberBridge.Proofs.Dispatch
import FiberBridge.Proofs.Spent
import FiberBridge.Proofs.Detached
import FiberBridge.Proofs.Failure
import FiberBridge.Proofs.Raised
import FiberBridge.Proofs.Restarted
import FiberBridge.Proofs.Twins
import FiberBridge.Proofs.Along
import FiberBridge.Proofs.Advisory
import FiberBridge.Proofs.Homes
import FiberBridge.Proofs.Leases
import FiberBridge.Proofs.Lifetimes
import FiberBridge.Proofs.Locks
import FiberBridge.Proofs.Refusals
import FiberBridge.Proofs.Hosted
import FiberBridge.Proofs.Spares
import FiberBridge.Proofs.Target
import FiberBridge.Proofs.Numbering
import FiberBridge.Proofs.Mirror
import FiberBridge.Proofs.Mirrored
import FiberBridge.Proofs.Labels
import FiberBridge.Proofs.Spans
import FiberBridge.Proofs.Bystanders
import FiberBridge.Proofs.Images
import FiberBridge.Proofs.Isolation
import FiberBridge.Proofs.Frames
import FiberBridge.Proofs.Stranded
import FiberBridge.Proofs.Courses
import FiberBridge.Proofs.Forwarding
import FiberBridge.Proofs.Served
import FiberBridge.Proofs.Notices
import FiberBridge.Proofs.Handlers
import FiberBridge.Proofs.Reserved
