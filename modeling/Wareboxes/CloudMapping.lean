import Wareboxes.CommandWire
import Wareboxes.EdgeDeliveries

/-!
# Messages between the agent and the cloud

The agent maps a stored command to its report. Instants travel as RFC 3339
texts; they are kept here as the instants that the texts stand for. Only the
fields that one of the two sides reads are shown, and the texts that serde gives
for a payload it cannot decode are left out.
-/

namespace Wareboxes.CloudMapping

open RustTime EdgeCommands EdgeTables EdgeDeliveries CloudCommands CommandWire

/-- A positive revision of the contract. -/
@[ext]
structure Revision where
  /-- The number. -/
  get : ℤ
  /-- It starts from one. -/
  positive : 0 < get

instance : DecidableEq Revision := fun _ _ => decidable_of_iff _ Revision.ext_iff.symm

/-- `Revision::new`. -/
def newRevision (value : ℤ) : Option Revision :=
  if h : 0 < value then some ⟨value, h⟩ else none

/-- Errors of the mapping. -/
inductive CloudMappingError where
  /-- A revision is missing or out of range. -/
  | invalidRevision
  /-- The payload cannot be decoded. -/
  | incompatiblePayload
  | notReportable (localCommandId : String)
  /-- A local success has no result. -/
  | missingResult

/-- The report of a command. -/
structure ReportAutomationCommandRequest where
  /-- The revision that the agent acknowledged. -/
  expectedRevision : Revision
  /-- How the command ended. -/
  status : AutomationCommandStatus
  /-- What the device answered. -/
  result : Option AutomationCommandResult
  /-- The code of the failure. -/
  errorCode : Option String
  /-- The failure in words. -/
  errorMessage : Option String
  /-- When the command ended. -/
  occurredAt : DateTime

/-- The heartbeat of a device. -/
structure RecordAutomationHeartbeatRequest where
  /-- The agent that reports. -/
  agentInstance : String
  /-- How the device is. -/
  health : AutomationHealthState
  /-- The mode at the facility. -/
  controlMode : AutomationControlMode
  /-- Detail for operators. -/
  message : Option String
  /-- Live commands of the device. -/
  queuedCommands : ℕ
  /-- Commands of the device that wait for an operator. -/
  manualReviewCommands : ℕ
  /-- When the device was asked. -/
  observedAt : DateTime
  deriving DecidableEq

/-- `revision`: a revision of the agent is positive at the contract. -/
def revision (value : ℕ) : Except CloudMappingError Revision :=
  match newRevision value with
  | some revision => .ok revision
  | none => .error .invalidRevision

/-- `error_message`: the note of an operator before the last error, and a text of the
state when there is neither. -/
def errorMessage (command : CommandRecord) (fallback : String) : String :=
  (command.resolutionNote.or command.lastError).getD fallback

/-- What a report says about the outcome of a command. -/
structure ReportedOutcome where
  /-- How the command ended. -/
  status : AutomationCommandStatus
  /-- What the device answered. -/
  result : Option AutomationCommandResult
  /-- The code of the failure. -/
  errorCode : Option String
  /-- The failure in words. -/
  errorMessage : Option String

/-- The outcome of a local command in a state that is reported. -/
def reportedOutcome (pending : PendingCloudCommand) : Except CloudMappingError ReportedOutcome :=
  match pending.command.state with
  | .succeeded =>
    match pending.command.result with
    | none => .error .missingResult
    | some result =>
      match transcodeResult result with
      | some answer => .ok ⟨.succeeded, some answer, none, none⟩
      | none => .error .incompatiblePayload
  | .failed => .ok ⟨.failed, none, some "EDGE_PERMANENT_FAILURE",
    some (errorMessage pending.command "edge command failed")⟩
  | .cancelled => .ok ⟨.failed, none, some "EDGE_CANCELLED",
    some (errorMessage pending.command "edge command was cancelled")⟩
  | .manualReview | .resolvedManually => .ok ⟨.manualReview, none, some "EDGE_MANUAL_REVIEW",
    some (errorMessage pending.command "edge command requires manual reconciliation")⟩
  | .queued | .executing | .retryWait | .recoveryWait =>
    .error (.notReportable pending.cloud.localCommandId)

/-- `report_request`. -/
def reportRequest (pending : PendingCloudCommand) :
    Except CloudMappingError ReportAutomationCommandRequest := do
  let expectedRevision ←
    match pending.cloud.acknowledgementRevision with
    | some revision => .ok revision
    | none => .error .invalidRevision
  let outcome ← reportedOutcome pending
  let expectedRevision ← revision expectedRevision
  return ⟨expectedRevision, outcome.status, outcome.result, outcome.errorCode,
    outcome.errorMessage, pending.command.updatedAt⟩

/-- The report that the cloud's repository gets for a request. -/
def ReportAutomationCommandRequest.command (request : ReportAutomationCommandRequest)
    (commandId : ℤ) : ReportAutomationCommand :=
  { commandId := commandId
    expectedRevision := request.expectedRevision.get.toNat
    status := request.status
    result := request.result
    errorCode := request.errorCode
    errorMessage := request.errorMessage
    occurredAt := request.occurredAt }

end Wareboxes.CloudMapping
