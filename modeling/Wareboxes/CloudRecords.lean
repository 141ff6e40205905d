import Wareboxes.CloudMapping
import Wareboxes.OutboxTables
import Wareboxes.ServerCommands

/-!
# Automation records of the cloud

The cloud keeps the devices of each facility, the commands for them and the heartbeats that
agents send. The records of one tenant are shown. Columns that the checks of a table force to
be present together are one constructor or one optional record: a delivered command has its
account, its agent, its token and its times, an accepted one keeps them and has the time of its
acceptance, a finished one has the outcome besides. The link of a command to a packing session
or a shipping document is left out, and so is the history of a command.
-/

namespace Wareboxes.CloudRecords

open CloudCommands CloudMapping KeyedTables OutboxTables RustTime ServerCommands Transactions

/-- The epoch of PostgreSQL, 2000-01-01, in seconds of Unix time. -/
def postgresEpoch : ℤ := 946684800

/-- An instant as the database gets it: whole microseconds, rounded towards the epoch of
PostgreSQL. -/
def stored (instant : DateTime) : Timestamp :=
  postgresEpoch * 1000000 + (instant.nanos - postgresEpoch * 1000000000).tdiv 1000

/-- A `revision` column: a positive `INTEGER`. -/
@[ext]
structure RowRevision where
  value : ℕ
  /-- The check of the table. -/
  positive : 0 < value
  /-- The type of the column. -/
  fits : (value : ℤ) ≤ maxInteger

instance : DecidableEq RowRevision := fun _ _ => decidable_of_iff _ RowRevision.ext_iff.symm

namespace RowRevision

/-- The revision of a new row. -/
def first : RowRevision := ⟨1, by decide, by decide⟩

/-- `revision+1`, unless it leaves the type of the column. -/
def next (revision : RowRevision) : Option RowRevision :=
  if h : ((revision.value + 1 : ℕ) : ℤ) ≤ maxInteger then
    some ⟨revision.value + 1, Nat.succ_pos _, h⟩
  else none

theorem next_eq_some {revision revision' : RowRevision} (h : revision.next = some revision') :
    revision'.value = revision.value + 1 := by
  unfold next at h
  split at h
  · cases h
    rfl
  · cases h

end RowRevision

/-- What a heartbeat leaves at its device. -/
structure HealthProjection where
  health : AutomationHealthState
  known : health ≠ .unknown
  /-- Detail for operators. -/
  healthMessage : Option String
  /-- When the device was asked. -/
  lastHeartbeatAt : Timestamp

/-- A row of `automation_devices`. -/
structure AutomationDevice where
  id : ℤ
  facilityId : ℤ
  /-- The key that the agent knows it by. -/
  deviceKey : String
  deviceClass : AutomationDeviceClass
  controlMode : AutomationControlMode
  controlReason : String
  controlChangedAt : Timestamp
  revision : RowRevision
  projection : Option HealthProjection

/-- The last heartbeat found the device fit for work, and is not older than an instant. -/
def AutomationDevice.fitSince (device : AutomationDevice) (earliest : Timestamp) : Bool :=
  match device.projection with
  | some projection =>
    (decide (projection.health = .healthy) || decide (projection.health = .degraded)) &&
      decide (earliest ≤ projection.lastHeartbeatAt)
  | none => false

/-- What a delivery writes into a command. -/
structure Delivery where
  /-- The account that the command is assigned to. -/
  serviceAccountId : ℤ
  agentInstance : String
  /-- The secret of the delivery. -/
  token : String
  deliveredAt : Timestamp

/-- What a report writes into a command. -/
structure Outcome where
  status : AutomationCommandStatus
  /-- A report finishes a command or sends it to an operator. -/
  final : status = .succeeded ∨ status = .failed ∨ status = .manualReview
  result : Option AutomationCommandResult
  errorCode : Option String
  errorMessage : Option String
  completedAt : Timestamp

/-- `AutomationManualResolution`. -/
inductive AutomationManualResolution where
  /-- The device did execute the command. -/
  | confirmedExecuted
  /-- The device did not execute the command. -/
  | confirmedNotExecuted
  deriving DecidableEq

/-- What the decision of an operator writes into a command. -/
structure Resolution where
  resolvedBy : ℤ
  outcome : AutomationManualResolution
  reason : String
  resolvedAt : Timestamp

/-- How far a command is, with the columns that the checks of the table ask for. -/
inductive CommandProgress where
  /-- Nobody has the command. -/
  | queued
  /-- An agent has the command until the delivery expires. -/
  | delivered (delivery : Delivery) (expiresAt : Timestamp)
  /-- The agent stored the command. -/
  | accepted (delivery : Delivery) (acceptedAt : Timestamp)
  /-- The agent reported the command. -/
  | reported (delivery : Delivery) (acceptedAt : Timestamp) (outcome : Outcome)
  /-- An operator decided about a report that asked for it. -/
  | resolved (delivery : Delivery) (acceptedAt : Timestamp) (outcome : Outcome)
      (resolution : Resolution)
  /-- The command was withdrawn before any delivery. -/
  | cancelled (completedAt : Timestamp)

namespace CommandProgress

/-- The status column. -/
def status : CommandProgress → AutomationCommandStatus
  | .queued => .queued
  | .delivered .. => .delivered
  | .accepted .. => .accepted
  | .reported _ _ outcome => outcome.status
  | .resolved .. => .resolvedManually
  | .cancelled _ => .cancelled

/-- The last delivery. -/
def delivery? : CommandProgress → Option Delivery
  | .delivered delivery _ | .accepted delivery _ | .reported delivery _ _
  | .resolved delivery _ _ _ => some delivery
  | .queued | .cancelled _ => none

/-- The time of the acceptance. -/
def acceptedAt? : CommandProgress → Option Timestamp
  | .accepted _ acceptedAt | .reported _ acceptedAt _ | .resolved _ acceptedAt _ _ =>
    some acceptedAt
  | .queued | .delivered .. | .cancelled _ => none

/-- The outcome that the agent reported. -/
def outcome? : CommandProgress → Option Outcome
  | .reported _ _ outcome | .resolved _ _ outcome _ => some outcome
  | .queued | .delivered .. | .accepted .. | .cancelled _ => none

variable {progress : CommandProgress}

theorem status_eq_delivered :
    progress.status = .delivered ↔
      ∃ delivery expiresAt, progress = .delivered delivery expiresAt := by
  constructor
  · intro h
    cases progress with
    | delivered delivery expiresAt => exact ⟨delivery, expiresAt, rfl⟩
    | reported delivery acceptedAt outcome =>
      have hfinal := outcome.final
      rw [show outcome.status = .delivered from h] at hfinal
      simp at hfinal
    | queued | accepted _ _ | resolved _ _ _ _ | cancelled _ => cases h
  · rintro ⟨delivery, expiresAt, rfl⟩
    rfl

theorem status_eq_accepted :
    progress.status = .accepted ↔
      ∃ delivery acceptedAt, progress = .accepted delivery acceptedAt := by
  constructor
  · intro h
    cases progress with
    | accepted delivery acceptedAt => exact ⟨delivery, acceptedAt, rfl⟩
    | reported delivery acceptedAt outcome =>
      have hfinal := outcome.final
      rw [show outcome.status = .accepted from h] at hfinal
      simp at hfinal
    | queued | delivered _ _ | resolved _ _ _ _ | cancelled _ => cases h
  · rintro ⟨delivery, acceptedAt, rfl⟩
    rfl

end CommandProgress

/-- A row of `automation_commands`. -/
structure AutomationCommand where
  id : ℤ
  facilityId : ℤ
  deviceId : ℤ
  /-- The name that the requester gave it. -/
  correlationId : String
  /-- Handling of unobserved outcomes. -/
  recoveryPolicy : AutomationRecoveryPolicy
  command : AutomationDeviceCommand
  requestedAt : Timestamp
  revision : RowRevision
  progress : CommandProgress

/-- A row of `automation_heartbeats`, without the counts that only operators read. -/
structure AutomationHeartbeat where
  deviceId : ℤ
  serviceAccountId : ℤ
  agentInstance : String
  /-- Mode of the device at the agent. -/
  controlMode : AutomationControlMode
  /-- When the device was asked. -/
  observedAt : Timestamp

/-- `AutomationCommandReadModel`, with the fields that one of the operations reads. -/
structure AutomationCommandReadModel where
  commandId : ℤ
  deviceId : ℤ
  command : AutomationDeviceCommand
  status : AutomationCommandStatus
  revision : RowRevision
  assignedServiceAccountId : Option ℤ
  acceptedAt : Option Timestamp
  requestedAt : Timestamp

/-- `mapping::command`. -/
def readModel (row : AutomationCommand) : AutomationCommandReadModel :=
  { commandId := row.id
    deviceId := row.deviceId
    command := row.command
    status := row.progress.status
    revision := row.revision
    assignedServiceAccountId := row.progress.delivery?.map (·.serviceAccountId)
    acceptedAt := row.progress.acceptedAt?
    requestedAt := row.requestedAt }

/-- `AutomationDeliveryReadModel`, without the time of its expiry. -/
structure AutomationDeliveryReadModel where
  command : AutomationCommandReadModel
  deliveryToken : String

/-- `PullAutomationCommands`. -/
structure PullAutomationCommands where
  facilityId : ℤ
  agentInstance : String
  /-- How many commands at most. -/
  limit : ℕ
  deriving DecidableEq

/-- `AcknowledgeAutomationCommand`. -/
structure AcknowledgeAutomationCommand where
  commandId : ℤ
  deliveryToken : String
  expectedRevision : ℕ
  deriving DecidableEq

/-- `RecordAutomationHeartbeat`. -/
structure RecordAutomationHeartbeat where
  deviceId : ℤ
  /-- What the agent says about it. -/
  heartbeat : RecordAutomationHeartbeatRequest
  deriving DecidableEq

/-- `RegisterAutomationDeviceCommand`. -/
structure RegisterAutomationDeviceCommand where
  facilityId : ℤ
  /-- The key that the agent knows it by. -/
  deviceKey : String
  deviceClass : AutomationDeviceClass
  displayName : String
  deriving DecidableEq

/-- `ChangeAutomationControlCommand`. -/
structure ChangeAutomationControlCommand where
  deviceId : ℤ
  /-- The revision that the operator has seen. -/
  expectedRevision : ℕ
  targetMode : AutomationControlMode
  reason : String
  /-- The operator looked at the device. -/
  safetyConfirmed : Bool
  deriving DecidableEq

/-- `EnqueueAutomationCommand`, for a command that is not tied to packing or shipping. -/
structure EnqueueAutomationCommand where
  deviceId : ℤ
  /-- The name that the requester gives the command. -/
  correlationId : String
  /-- Handling of unobserved outcomes. -/
  recoveryPolicy : AutomationRecoveryPolicy
  command : AutomationDeviceCommand
  deriving DecidableEq

/-- `ResolveAutomationCommand`. -/
structure ResolveAutomationCommand where
  commandId : ℤ
  /-- The revision that the operator has seen. -/
  expectedRevision : ℕ
  outcome : AutomationManualResolution
  reason : String
  deriving DecidableEq

/-- The automation tables of a tenant, and the answers that were stored for its commands. -/
structure Cloud where
  /-- The facilities that are not deleted. -/
  facilities : List ℤ
  /-- `automation_devices`. -/
  devices : KeyedTable AutomationDevice.id
  /-- `automation_commands`. -/
  commands : KeyedTable AutomationCommand.id
  /-- `automation_heartbeats`, oldest first. -/
  heartbeats : List AutomationHeartbeat
  pulls : StoredResults PullAutomationCommands (List AutomationDeliveryReadModel)
  acknowledgements : StoredResults AcknowledgeAutomationCommand AutomationCommandReadModel
  reports : StoredResults ReportAutomationCommand AutomationCommandReadModel
  heartbeatResults : StoredResults RecordAutomationHeartbeat AutomationHeartbeat
  registrations : StoredResults RegisterAutomationDeviceCommand AutomationDevice
  controlChanges : StoredResults ChangeAutomationControlCommand AutomationDevice
  enqueued : StoredResults EnqueueAutomationCommand AutomationCommandReadModel
  /-- Answers to decisions of operators. -/
  resolutions : StoredResults ResolveAutomationCommand AutomationCommandReadModel

/-- The tables of a tenant that has only its facilities. -/
def Cloud.initial (facilities : List ℤ) : Cloud :=
  { facilities := facilities
    devices := .empty
    commands := .empty
    heartbeats := []
    pulls := .empty
    acknowledgements := .empty
    reports := .empty
    heartbeatResults := .empty
    registrations := .empty
    controlChanges := .empty
    enqueued := .empty
    resolutions := .empty }

/-- A transaction of the cloud. -/
abbrev CloudTx := Transaction Cloud AppError

/-- What a transaction draws from its surroundings. -/
structure Draws where
  /-- `CURRENT_TIMESTAMP`, the start of the transaction. -/
  startedAt : Timestamp
  now : DateTime
  /-- The next identity of a table. -/
  id : ℤ
  /-- `random_delivery_token`, for each delivery of a pull. -/
  token : ℕ → String
  /-- Commands that other transactions hold, which a pull skips. -/
  locked : List ℤ

end Wareboxes.CloudRecords
