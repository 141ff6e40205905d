import Wareboxes.EdgeAdapters
import Wareboxes.Transactions

/-!
# The tables of the edge store

One typed row for each table of the edge schema. The request of a command is
kept as the value that was submitted: its hash and its JSON text are functions
of it, and so are the scope columns of the command row. Columns that no
operation reads back are left out.
-/

namespace Wareboxes.EdgeTables

open RustText RustTime EdgeTypes EdgeCommands
open KeyedTables Transactions

/-- Errors of the edge store. The texts of database errors are not modelled. -/
inductive StoreError where
  /-- A constraint of the schema refused the statement. -/
  | database
  /-- A command or result is not valid. -/
  | command (reason : CommandError)
  /-- An identifier, name or reason is not valid. -/
  | type (reason : TypeError)
  | deviceNotFound (deviceId : DeviceId)
  | deviceConfigurationConflict (deviceId : DeviceId)
  /-- The identity of a command was used with other content. -/
  | identityConflict
  | commandNotFound (commandId : String)
  /-- Tenant or facility of a command differ from those of its device. -/
  | scopeMismatch
  /-- The command is meant for another device class. -/
  | deviceClassMismatch (expected actual : DeviceClass)
  | invalidTransition (commandId : String) (state : CommandState) (target : String)
  /-- The command is no longer held by the lease. -/
  | leaseMismatch (commandId : String)
  | deviceNotAutomatic (deviceId : DeviceId)
  /-- A stored record is not one the agent writes. -/
  | corruptRecord (detail : String)
  /-- A duration does not fit in the database. -/
  | durationOverflow
  /-- The metadata of a cloud delivery is not valid. -/
  | invalidCloudDelivery
  | cloudDeliveryConflict
  | cloudDeliveryNotFound (cloudCommandId : ℤ)
  deriving DecidableEq

/-- Whether a claim executes the command or asks about an earlier execution. -/
inductive ClaimKind where
  | execute
  | recoveryProbe
  deriving DecidableEq

/-- The storage word of each kind. -/
def ClaimKind.asStr : ClaimKind → String
  | .execute => "execute"
  | .recoveryProbe => "recovery_probe"

/-- How an attempt stands or ended. -/
inductive AttemptState where
  | active
  | succeeded
  | retryableFailure
  | permanentFailure
  | ambiguous
  | notFound
  | stillProcessing
  | manualReview
  | abandoned
  deriving DecidableEq

/-- The status words the cloud accepts in a report. -/
inductive ReportedStatus where
  | succeeded
  | failed
  | manualReview
  deriving DecidableEq

/-- The reported status a storage word stands for. -/
def ReportedStatus.parse? (text : String) : Option ReportedStatus :=
  if text = "succeeded" then some .succeeded
  else if text = "failed" then some .failed
  else if text = "manual_review" then some .manualReview
  else none

/-- A row of `edge_devices`. -/
structure DeviceRow where
  /-- Immutable identity, scope, class and display name. -/
  descriptor : DeviceDescriptor
  controlMode : ControlMode
  controlReason : String
  /-- Author of the last control change. -/
  controlActor : ActorId
  controlChangedAt : Millis
  /-- Last reported health. -/
  healthState : HealthState
  /-- Message of the last heartbeat. -/
  healthMessage : Option String
  lastHeartbeatAt : Option Millis
  /-- Consecutive heartbeats that did not permit automatic work. -/
  consecutiveHealthFailures : ℕ

/-- The primary key of `edge_devices`. -/
def DeviceRow.key (row : DeviceRow) : DeviceId := row.descriptor.deviceId

/-- A row of `edge_commands`. -/
structure CommandRow where
  request : CommandRequest
  state : CommandState
  /-- Execution attempts made so far. -/
  attemptCount : ℕ
  createdAt : Millis
  /-- Time of the last change. -/
  updatedAt : Millis
  /-- Time before which the command is not claimed. -/
  nextAttemptAt : Millis
  leaseToken : Option String
  /-- Expiry of that lease, in milliseconds. -/
  leaseUntil : Option ℤ
  /-- Result of a successful execution. -/
  result : Option CommandResult
  lastError : Option String
  /-- Note that settled the command. -/
  resolutionNote : Option String

/-- The primary key of `edge_commands`. -/
def CommandRow.key (row : CommandRow) : String := row.request.commandId.asStr

/-- A row of `edge_command_attempts`. -/
structure AttemptRow where
  attemptId : String
  commandId : String
  /-- Position among the attempts of the command. -/
  sequence : ℕ
  executionAttempt : ℕ
  /-- Execution or recovery probe. -/
  kind : ClaimKind
  /-- How the attempt stands. -/
  state : AttemptState
  startedAt : Millis
  /-- Time at which the attempt ended. -/
  finishedAt : Option Millis
  /-- Detail of the ending. -/
  message : Option String
  /-- Result of a successful attempt. -/
  result : Option CommandResult

/-- A row of `edge_command_events`. -/
structure CommandEventRow where
  /-- Command that changed state. -/
  commandId : String
  /-- State before, absent for a submission. -/
  fromState : Option CommandState
  toState : CommandState
  /-- Author of the change, when an actor is known. -/
  actor : Option ActorId
  reason : String
  occurredAt : Millis

/-- A row of `edge_control_events`. The scope columns are those of the device. -/
structure ControlEventRow where
  /-- Device whose mode changed. -/
  deviceId : DeviceId
  /-- Mode before, absent for a registration. -/
  fromMode : Option ControlMode
  toMode : ControlMode
  /-- Author of the change. -/
  actor : ActorId
  reason : String
  occurredAt : Millis

/-- A row of `edge_heartbeat_events`. -/
structure HeartbeatEventRow where
  deviceId : DeviceId
  health : HealthState
  message : Option String
  alarmCodes : List String
  /-- Time of the heartbeat. -/
  observedAt : Millis

/-- The metadata of one delivery by the cloud. -/
structure CloudDelivery where
  cloudCommandId : ℤ
  cloudDeviceId : ℤ
  /-- Secret that acknowledges the delivery. -/
  deliveryToken : String
  deliveryRevision : ℕ
  deriving DecidableEq

/-- A delivery has positive identifiers, a token of 32 to 200 bytes and a revision. -/
def CloudDelivery.validate (delivery : CloudDelivery) : Except StoreError Unit :=
  if delivery.cloudCommandId ≤ 0 ∨ delivery.cloudDeviceId ≤ 0 ∨
      ¬(32 ≤ len delivery.deliveryToken ∧ len delivery.deliveryToken ≤ 200) ∨
      delivery.deliveryRevision = 0 then .error .invalidCloudDelivery
  else .ok ()

/-- A row of `edge_cloud_deliveries`. -/
structure DeliveryRow where
  delivery : CloudDelivery
  localCommandId : String
  acknowledgementRevision : Option ℕ
  /-- Time at which the acknowledgement was recorded. -/
  acknowledgedAt : Option Millis
  reportedRevision : Option ℕ
  reportedStatus : Option ReportedStatus
  /-- Time at which the report was recorded. -/
  reportedAt : Option Millis
  lastCloudError : Option String
  /-- Time of the last change. -/
  updatedAt : Millis

/-- The primary key of `edge_cloud_deliveries`. -/
def DeliveryRow.key (row : DeliveryRow) : ℤ := row.delivery.cloudCommandId

/-- The whole edge store. Event tables only grow. -/
structure Store where
  devices : KeyedTable DeviceRow.key
  commands : KeyedTable CommandRow.key
  /-- Execution attempts and recovery probes. -/
  attempts : KeyedTable AttemptRow.attemptId
  /-- Audit trail of the commands. -/
  commandEvents : List CommandEventRow
  /-- Audit trail of the control modes. -/
  controlEvents : List ControlEventRow
  heartbeatEvents : List HeartbeatEventRow
  /-- Commands that came from the cloud. -/
  deliveries : KeyedTable DeliveryRow.key

/-- The store right after the schema was created. -/
def Store.initial : Store :=
  ⟨.empty, .empty, .empty, [], [], [], .empty⟩

/-- The device stored under an identifier. -/
def Store.device? (s : Store) (deviceId : DeviceId) : Option DeviceRow := s.devices.find? deviceId

/-- The command stored under an identifier. -/
def Store.command? (s : Store) (commandId : String) : Option CommandRow :=
  s.commands.find? commandId

/-- The delivery stored under a cloud identifier. -/
def Store.delivery? (s : Store) (cloudCommandId : ℤ) : Option DeliveryRow :=
  s.deliveries.find? cloudCommandId

/-- The attempts of one command, oldest first. -/
def Store.attemptsOf (s : Store) (commandId : String) : List AttemptRow :=
  s.attempts.rows.filter fun row => decide (row.commandId = commandId)

/-- The audit trail of one command, oldest first. -/
def Store.eventsOf (s : Store) (commandId : String) : List CommandEventRow :=
  s.commandEvents.filter fun row => decide (row.commandId = commandId)

/-- The control history of one device, oldest first. -/
def Store.controlEventsOf (s : Store) (deviceId : DeviceId) : List ControlEventRow :=
  s.controlEvents.filter fun row => decide (row.deviceId = deviceId)

/-- A store operation. -/
abbrev StoreTx := Transaction Store StoreError

end Wareboxes.EdgeTables
