import RunSweep.Proofs.Loop.Shutdown
import RunSweep.Proofs.Loop.Accounts
import RunSweep.Proofs.Loop.Steps
import RunSweep.Proofs.Loop.Limit
import RunSweep.Proofs.Loop.Faults
import RunSweep.Proofs.Sweep.Directories
import RunSweep.Proofs.Sweep.Fallback
import RunSweep.Proofs.Sweep.Conservation
import RunSweep.Proofs.Sweep.Steps
import RunSweep.Proofs.Storage.Equivalence
import RunSweep.Proofs.Storage.Reachable
import RunSweep.Proofs.Storage.Operations
import RunSweep.Proofs.Storage.Views
import RunSweep.Proofs.Path.Names
import RunSweep.Proofs.Text.Encoding
import RunSweep.Loop.Rehearsal
import RunSweep.Loop.Script
import RunSweep.Main
import RunSweep.Proofs.Sweep.Isolation
import RunSweep.Proofs.Storage.Coherence
import RunSweep.Proofs.Sweep.Frame
import RunSweep.Proofs.Loop.ExitBlindness
import RunSweep.Proofs.Sweep.Clearing
import RunSweep.Proofs.Loop.Rehearsal
import RunSweep.Proofs.Config.Precedence
import RunSweep.Proofs.Path.Order
import RunSweep.Proofs.Sweep.Partition
import RunSweep.Proofs.Sweep.Completeness
import RunSweep.Proofs.Sweep.Listing
import RunSweep.Proofs.Sweep.Idempotence
import RunSweep.Proofs.Storage.Permutation
import RunSweep.Proofs.Sweep.OrderFree
import RunSweep.Proofs.Decimal.Rounding
import RunSweep.Proofs.Decimal.Value
import RunSweep.Proofs.Decimal.Arithmetic
import RunSweep.Proofs.Sweep.Classification
import RunSweep.Proofs.Path.Sameness
import RunSweep.Proofs.Config.Acceptance
import RunSweep.Proofs.Command.Threshold
import RunSweep.Proofs.Command.Arguments
import RunSweep.Proofs.Command.Display
import RunSweep.Proofs.Config.Directories
import RunSweep.Proofs.Loop.Calls
import RunSweep.Proofs.Loop.Turns
import RunSweep.Proofs.Text.Decoding
import RunSweep.Proofs.Text.Keywords
import RunSweep.Proofs.Launch.Output
import RunSweep.Proofs.Decimal.Integers
import RunSweep.Proofs.Config.Values
import RunSweep.Proofs.Config.Completion
import RunSweep.Proofs.Sweep.Lists
import RunSweep.Proofs.Loop.Surplus
import RunSweep.Proofs.Loop.Trace
