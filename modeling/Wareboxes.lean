import Wareboxes.BarcodeKinds
import Wareboxes.CarrierJobs
import Wareboxes.DeliveryFencing
import Wareboxes.EdgeSafety
import Wareboxes.ExecutionBudget
import Wareboxes.FefoOrder
import Wareboxes.LeaseDiscipline
import Wareboxes.LeaseSafety
import Wareboxes.MessageCuts
import Wareboxes.OutboxBudget
import Wareboxes.ProbeBeforeReplay
import Wareboxes.ProbeBudget
import Wareboxes.QrReading
import Wareboxes.ReceiptQuantities
import Wareboxes.ReportTexts
import Wareboxes.RfCommandExits
import Wareboxes.RfCycleCountAnswers
import Wareboxes.RfMovementRestarts
import Wareboxes.RfMovementScans
import Wareboxes.RfPickContainers
import Wareboxes.RfPickingRestarts
import Wareboxes.RfReceivingRestarts
import Wareboxes.RfSingleLanes
import Wareboxes.SubmissionIdentity
import Wareboxes.WorkerRuns
import Wareboxes.X12Contacts
