import Wareboxes.EdgeClaims
import Wareboxes.EdgeDeliveries

/-!
# The store as one object with typed calls

Every operation of the edge store is one call with the type of its answer.
Each call is one immediate transaction, so that processes which share the
database interleave whole calls. The two identifiers that `claim_next` draws
at random are an argument of the execution, not of the call.
-/

namespace Wareboxes.EdgeStoreCalls

open RustTime EdgeTypes EdgeCommands EdgeAdapters Transactions EdgeTables EdgeOperations
open EdgeTransitions EdgeClaims EdgeDeliveries

/-- A call of the edge store. -/
inductive StoreCall where
  | registerDevice (descriptor : DeviceDescriptor) (actor : ActorId) (reason : String)
      (now : DateTime)
  | deviceStatus (deviceId : DeviceId)
  | listDevices
  | changeControlMode (deviceId : DeviceId) (action : ControlAction) (actor : ActorId)
      (reason : String) (now : DateTime)
  | recordHeartbeat (deviceId : DeviceId) (report : HealthReport) (now : DateTime)
  | recordHeartbeatFailure (deviceId : DeviceId) (failure : AdapterFailure) (now : DateTime)
  | submit (request : CommandRequest) (now : DateTime)
  | submitCloudDelivery (request : CommandRequest) (delivery : CloudDelivery) (now : DateTime)
  | resolveManually (commandId : String) (actor : ActorId) (note : String) (now : DateTime)
  | cancelCommand (commandId : String) (actor : ActorId) (reason : String) (now : DateTime)
  | retryAfterReview (commandId : String) (actor : ActorId) (reason : String) (now : DateTime)
  | recoverExpiredLeases (now : DateTime) (agent : ActorId)
  | claimNext (now : DateTime) (lease : Duration) (maxAttempts : ℕ)
  | complete (claim : ClaimedCommand) (now : DateTime) (completion : Completion)
  | pendingCloudAcknowledgements (limit : ℕ)
  | pendingCloudReports (limit : ℕ)
  | markCloudAcknowledged (cloudCommandId : ℤ) (deliveryRevision acknowledgementRevision : ℕ)
      (now : DateTime)
  | markCloudReported (cloudCommandId : ℤ) (reportedRevision : ℕ) (reportedStatus : String)
      (now : DateTime)
  | recordCloudError (cloudCommandId : ℤ) (message : String) (now : DateTime)
  | cloudReportableCount (deviceId : String)

/-- The answer of each call, when it returns one. -/
def StoreCall.Answer : StoreCall → Type
  | .registerDevice .. | .deviceStatus _ | .changeControlMode .. | .recordHeartbeat ..
  | .recordHeartbeatFailure .. => DeviceStatus
  | .listDevices => List DeviceStatus
  | .submit .. | .submitCloudDelivery .. => SubmissionOutcome
  | .resolveManually .. | .cancelCommand .. | .retryAfterReview .. => CommandRecord
  | .recoverExpiredLeases .. => LeaseRecoverySummary
  | .claimNext .. => Option ClaimedCommand
  | .complete .. => Option Bool
  | .pendingCloudAcknowledgements _ | .pendingCloudReports _ => List PendingCloudCommand
  | .markCloudAcknowledged .. | .markCloudReported .. => DeliveryRow
  | .recordCloudError .. => Unit
  | .cloudReportableCount _ => ℕ × ℕ

/-- A random lease token and attempt identifier. -/
structure FreshIds where
  leaseToken : String
  /-- Identifier of the next attempt. -/
  attemptId : String

/-- The transaction of each call. -/
def StoreCall.exec (ids : FreshIds) : (call : StoreCall) → StoreTx call.Answer
  | .registerDevice descriptor actor reason now =>
    EdgeOperations.registerDevice descriptor actor reason now
  | .deviceStatus deviceId => loadDevice deviceId
  | .listDevices => EdgeOperations.listDevices
  | .changeControlMode deviceId action actor reason now =>
    EdgeOperations.changeControlMode deviceId action actor reason now
  | .recordHeartbeat deviceId report now => EdgeOperations.recordHeartbeat deviceId report now
  | .recordHeartbeatFailure deviceId failure now =>
    EdgeOperations.recordHeartbeatFailure deviceId failure now
  | .submit request now => EdgeOperations.submit request now
  | .submitCloudDelivery request delivery now =>
    EdgeOperations.submitCloudDelivery request delivery now
  | .resolveManually commandId actor note now =>
    EdgeOperations.resolveManually commandId actor note now
  | .cancelCommand commandId actor reason now =>
    EdgeOperations.cancelCommand commandId actor reason now
  | .retryAfterReview commandId actor reason now =>
    EdgeOperations.retryAfterReview commandId actor reason now
  | .recoverExpiredLeases now agent => EdgeClaims.recoverExpiredLeases now agent
  | .claimNext now lease maxAttempts =>
    EdgeClaims.claimNext ids.leaseToken ids.attemptId now lease maxAttempts
  | .complete claim now completion => EdgeClaims.complete claim now completion
  | .pendingCloudAcknowledgements limit => EdgeDeliveries.pendingCloudAcknowledgements limit
  | .pendingCloudReports limit => EdgeDeliveries.pendingCloudReports limit
  | .markCloudAcknowledged cloudCommandId deliveryRevision acknowledgementRevision now =>
    EdgeDeliveries.markCloudAcknowledged cloudCommandId deliveryRevision acknowledgementRevision now
  | .markCloudReported cloudCommandId reportedRevision reportedStatus now =>
    EdgeDeliveries.markCloudReported cloudCommandId reportedRevision reportedStatus now
  | .recordCloudError cloudCommandId message now =>
    EdgeDeliveries.recordCloudError cloudCommandId message now
  | .cloudReportableCount deviceId => EdgeDeliveries.cloudReportableCount deviceId

/-- The reply of a call: its answer, an error or a panic. -/
abbrev StoreCall.Reply (call : StoreCall) : Type := Except (Halt StoreError) call.Answer

/-- The claim that a call handed out. -/
def StoreCall.claimOf : (call : StoreCall) → call.Reply → Option ClaimedCommand
  | .claimNext .., .ok claim => claim
  | _, _ => none

end Wareboxes.EdgeStoreCalls
