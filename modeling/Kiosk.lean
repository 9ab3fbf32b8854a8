import Kiosk.Storage.SlotSafety
import Kiosk.Storage.UiBundleStore
import Kiosk.Storage.Capacity
import Kiosk.Storage.CreationOrder
import Kiosk.Runtime.Absorbing
import Kiosk.Library.Budget
import Kiosk.Protocol.Retention
import Kiosk.Protocol.SequenceLife
import Kiosk.Storage.TornTail
import Kiosk.Network.ResultSlot
import Kiosk.Runtime.DigitBuffer
import Kiosk.Runtime.BusinessGate
import Kiosk.Runtime.Resync
import Kiosk.Protocol.ProjectionConvergence
import Kiosk.Protocol.JournalScan
import Kiosk.Runtime.WorkerBusy
import Kiosk.Storage.Provenance
import Kiosk.Backend.SnapshotWire
import Kiosk.Storage.CompactionAgreement
import Kiosk.Storage.Reclaim
import Kiosk.Hardware.ScannerGm65
import Kiosk.Protocol.PartialLoad
import Kiosk.Protocol.SnapshotVersion
import Kiosk.Runtime.TransientFailure
import Kiosk.Runtime.UiSync
import Kiosk.Network.RetryDelay
import Kiosk.Runtime.RequestUrl
import Kiosk.Runtime.QuantityConsistency
import Kiosk.Runtime.EventBody
import Kiosk.Hardware.KeypadCalibration
import Kiosk.Runtime.RecoveryOverlay
import Kiosk.Runtime.StatusAgreement
import Kiosk.Protocol.UiTokens
import Kiosk.Ui.TwoLines
import Kiosk.Network.WifiManager
import Kiosk.Health.RecoverySupervisor
import Kiosk.Runtime.OfflineWork
import Kiosk.Backend.EventRead
import Kiosk.Health.LoopSupervisors
import Kiosk.Health.SelfRestarts
import Kiosk.Runtime.BootstrapAttempts
import Kiosk.Runtime.BundleDelivery
import Kiosk.Runtime.EventReading
import Kiosk.Debug.SerialScreenshot
import Kiosk.Runtime.BundleDownload
import Kiosk.Runtime.NetworkRecovery
