import SyncLedger.Flag.Cache
import SyncLedger.Job.Fault
import SyncLedger.Job.Reconcile
import SyncLedger.Json.Writer
import SyncLedger.Log.Filter
import SyncLedger.Proofs.Job.Reconcile
import SyncLedger.Settings.Load
import SyncLedger.Stats
import SyncLedger.Stream.Reconcile
import SyncLedger.Stream.Tracker
import SyncLedger.Stream.HandOver
import SyncLedger.Timeout.Run
import SyncLedger.Proofs.Job.Recovery
import SyncLedger.Proofs.Stream.History
import SyncLedger.Proofs.Stream.Account
import SyncLedger.Proofs.Stream.Terminal
import SyncLedger.Proofs.Stream.Announcement
import SyncLedger.Proofs.Stream.Throttle
import SyncLedger.Proofs.Stream.Frozen
import SyncLedger.Proofs.Stream.Independence
import SyncLedger.Proofs.Stream.Exchange
import SyncLedger.Proofs.Stream.Durable
import SyncLedger.Proofs.Stream.HandOver
import SyncLedger.Proofs.Timeout.Polling
import SyncLedger.Proofs.Timeout.Rounds
import SyncLedger.Proofs.Timeout.Phase
import SyncLedger.Proofs.Timeout.Verdict
import SyncLedger.Proofs.Timeout.Silence
import SyncLedger.Proofs.Timeout.Conclusion
import SyncLedger.Proofs.Timeout.Interruption
import SyncLedger.Proofs.Timeout.Closing
import SyncLedger.Proofs.Flag.Coherence
import SyncLedger.Proofs.Flag.Resolution
import SyncLedger.Proofs.Job.Trace
import SyncLedger.Proofs.Job.Effect
import SyncLedger.Proofs.Job.Cutoff
import SyncLedger.Proofs.Job.Repetition
import SyncLedger.Proofs.Json.ReadBack
import SyncLedger.Proofs.Stream.Reasons
import SyncLedger.Proofs.Message.ReadBack
import SyncLedger.Proofs.Json.Tolerance
import SyncLedger.Proofs.Json.Layer
import SyncLedger.Proofs.Json.Equality
import SyncLedger.Proofs.Message.Tolerance
import SyncLedger.Proofs.Text.Digits
import SyncLedger.Proofs.Text.Blank
import SyncLedger.Proofs.Text.Uuid
import SyncLedger.Proofs.Json.Bookkeeping
import SyncLedger.Proofs.Log.Directive
import SyncLedger.Proofs.Log.Precedence
import SyncLedger.Proofs.Log.Components
import SyncLedger.Proofs.Settings.Wrapped
import SyncLedger.Proofs.Settings.Setting
import SyncLedger.Proofs.Settings.Variable
import SyncLedger.Proofs.Settings.Override
import SyncLedger.Proofs.Time.Order
import SyncLedger.Proofs.Job.Previous
import SyncLedger.Proofs.Job.Walk
import SyncLedger.Proofs.Flag.Settings
import SyncLedger.Proofs.Stats
import SyncLedger.Proofs.Text.Order
import SyncLedger.Proofs.Stream.Snapshot
import SyncLedger.Proofs.Timeout.Accuracy
import SyncLedger.Proofs.Settings.Span
import SyncLedger.Proofs.Timeout.Failure
