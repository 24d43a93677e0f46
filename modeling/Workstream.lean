import Workstream.ApiControls.RateControl
import Workstream.Artifacts.ZipDirectory
import Workstream.Checkers.Lineage
import Workstream.Checkers.Verdicts
import Workstream.Images.LayerAccounts
import Workstream.ModelUsage.Replays
import Workstream.ModelUsage.Chain
import Workstream.ModelUsage.Envelopes
import Workstream.ModelUsage.Settlement
import Workstream.Outbox.EndToEnd
import Workstream.Outbox.PayloadRules
import Workstream.Reviews.Lifecycle
import Workstream.Revision.Limits
import Workstream.Storage.VerificationChain
import Workstream.Tasks.ImportOnce
import Workstream.Trials.CpuStop
import Workstream.Trials.DiskBudget
