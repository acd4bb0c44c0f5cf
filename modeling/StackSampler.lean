import StackSampler.Main
import StackSampler.Sampling.TriggerSet
import StackSampler.Config.Format
import StackSampler.Proofs.Store.Links
import StackSampler.Proofs.Store.Layout
import StackSampler.Proofs.Store.Cells
import StackSampler.Proofs.Store.WellLinked
import StackSampler.Proofs.Run
import StackSampler.Proofs.Store.Tally
import StackSampler.Proofs.Store.Refinement
import StackSampler.Proofs.Store.Conservation
import StackSampler.Proofs.Store.History
import StackSampler.Proofs.Sampling.Operation
import StackSampler.Proofs.Sampling.Tick
import StackSampler.Proofs.Sampling.Effect
import StackSampler.Proofs.Sampling.Lifecycle
import StackSampler.Proofs.Sampling.Growth
import StackSampler.Proofs.Sampling.Hand
import StackSampler.Proofs.Sampling.LogicalStack
import StackSampler.Proofs.Sampling.Renewal
import StackSampler.Proofs.Snapshot.Export
import StackSampler.Proofs.Sampling.Views
import StackSampler.Proofs.Decimal.Digits
import StackSampler.Proofs.Reading
import StackSampler.Proofs.Time.Calendar
import StackSampler.Proofs.Time.Rfc3339
import StackSampler.Proofs.Json.RoundTrip
import StackSampler.Proofs.Snapshot.RoundTrip
import StackSampler.Proofs.Files.Output
import StackSampler.Proofs.Sampling.Interleaving
import StackSampler.Proofs.Sampling.Exclusion
import StackSampler.Proofs.Sampling.Progress
import StackSampler.Proofs.Sampling.Allocation
import StackSampler.Proofs.Sampling.Wiring
import StackSampler.Proofs.Sampling.Stop
import StackSampler.Proofs.Sampling.FailedInstall
import StackSampler.Proofs.Sampling.Ownership
import StackSampler.Proofs.Sampling.NamedTriggers
import StackSampler.Proofs.Sampling.Reclamation
import StackSampler.Proofs.Sampling.Reentry
import StackSampler.Proofs.Sampling.Outcomes
import StackSampler.Proofs.Sampling.Accounting
import StackSampler.Proofs.Sampling.DistinctStacks
import StackSampler.Proofs.Snapshot.Names
import StackSampler.Proofs.Command.Validation
import StackSampler.Proofs.Command.RecordedProfile
import StackSampler.Proofs.Store.Lookup
import StackSampler.Proofs.Store.Retention
import StackSampler.Proofs.Store.Capture
import StackSampler.Proofs.Sampling.CallStack
import StackSampler.Proofs.Report.Collapsed
import StackSampler.Proofs.Sampling.FailedStart
import StackSampler.Proofs.Frame.Hash
import StackSampler.Proofs.Frame.Symbols
import StackSampler.Proofs.Snapshot.Identities
import StackSampler.Proofs.Text.Split
import StackSampler.Proofs.Report.Frames
import StackSampler.Proofs.Report.Lines
import StackSampler.Proofs.Sampling.HandDelivery
import StackSampler.Proofs.Sampling.Guards
import StackSampler.Proofs.Report.Statistics
import StackSampler.Proofs.Store.LinkWords
import StackSampler.Proofs.Store.Candidate
