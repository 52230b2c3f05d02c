import CopyLocker.Worker.Projection
import CopyLocker.Worker.HeartbeatReclaim
import CopyLocker.Worker.ProjectionOverride
import CopyLocker.Protocol.ActivationEpoch
import CopyLocker.Protocol.ValidationErrors
import CopyLocker.Worker.OfflineKeys
import CopyLocker.Server.Cancellation
import CopyLocker.Server.Fallback
import CopyLocker.Protocol.SessionMarks
import CopyLocker.Worker.EpochApprovals
import CopyLocker.Worker.KeysetPublication
import CopyLocker.Protocol.RevocationWalk
import CopyLocker.Worker.Reconciliation
import CopyLocker.Worker.AccountSessions
import CopyLocker.Worker.AdminVersions
import CopyLocker.Worker.DueSubscriptions
import CopyLocker.Store.Concurrency
import CopyLocker.Core.ClockRuns
import CopyLocker.Core.StateTable
import CopyLocker.Proto.ChainRuns
import CopyLocker.Client.Installations
import CopyLocker.Client.RevocationSync
import CopyLocker.Client.Scheduler
import CopyLocker.Worker.StoredEnvelopes
import CopyLocker.Packages.SealedAsset
import CopyLocker.Worker.SimulatorOverflow
import CopyLocker.Protocol.Deadlines
import CopyLocker.Protocol.SessionNonces
import CopyLocker.Proto.LicenseKey
import CopyLocker.Server.FingerprintMatch
import CopyLocker.Server.Sketch
import CopyLocker.Server.CubeKey
import CopyLocker.Worker.JsonCbor
