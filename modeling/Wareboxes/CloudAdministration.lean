import Wareboxes.CloudQueue

/-!
# Operators at the cloud

Operators register devices, change who may move them, request commands and decide about
commands that nobody knows the outcome of. Each of these is one transaction, with the checks in
the order of the source. The shipping side withdraws a print that was not delivered; what it
checks about the shipment comes before the part that is shown.
-/

namespace Wareboxes.CloudAdministration

open CloudCommands CloudQueue CloudRecords OutboxTables RustTime ServerCommands Transactions
open Transaction

/-- A device that a stored answer shows is still visible. -/
def deviceVisible (scope : ScopeBindings) (cloud : Cloud) (deviceId : ℤ) :
    Except AppError Unit := do
  let _ ← lockDevice cloud scope deviceId
  return ()

/-- An expected revision is positive. -/
def positiveRevision (expectedRevision : ℕ) : Except AppError Unit :=
  if expectedRevision = 0 then .error (.badRequest "expected revision must be positive")
  else .ok ()

section Registration

/-- `MAX_AUTOMATION_DISPLAY_NAME_LENGTH`. -/
def maxAutomationDisplayNameLength : ℕ := 200

/-- The characters of a device key. -/
def isKeyChar (c : Char) : Bool :=
  c.isAlphanum || c == '-' || c == '_' || c == '.' || c == ':' || c == '/' || c == '@'

/-- `validate_automation_device`. -/
def validateAutomationDevice (deviceKey displayName : String) : Except AutomationError Unit := do
  validateText deviceKey "automation device key" maxAutomationIdentifierLength
  if deviceKey.toList.all isKeyChar then
    validateText displayName "automation device display name" maxAutomationDisplayNameLength
  else .error (.invalidText "automation device key" maxAutomationIdentifierLength)

/-- `lower`, on the characters of a device key. -/
def lowerKey (deviceKey : String) : List Char := deviceKey.toList.map Char.toLower

/-- The answers to registrations. -/
def registrationJournal : Journal RegisterAutomationDeviceCommand AutomationDevice :=
  ⟨Cloud.registrations, fun results cloud => { cloud with registrations := results }⟩

/-- `require_facility_tx`, and no device has the key. -/
def checkRegistration (cloud : Cloud) (scope : ScopeBindings)
    (command : RegisterAutomationDeviceCommand) : Except AppError Unit :=
  if ¬scope.includesFacility command.facilityId ∨ command.facilityId ∉ cloud.facilities then
    .error (.notFound "automation facility")
  else if (cloud.devices.rows.any fun device =>
      decide (lowerKey device.deviceKey = lowerKey command.deviceKey)) = true then
    .error (.conflict "automation device key already exists")
  else .ok ()

/-- A registered device is disabled. -/
def registeredDevice (draws : Draws) (command : RegisterAutomationDeviceCommand) :
    AutomationDevice :=
  { id := draws.id
    facilityId := command.facilityId
    deviceKey := command.deviceKey
    deviceClass := command.deviceClass
    controlMode := .disabled
    controlReason := "registered disabled"
    controlChangedAt := stored draws.now
    revision := .first
    projection := none }

/-- A new registration. -/
def executeRegistration (draws : Draws) (scope : ScopeBindings)
    (command : RegisterAutomationDeviceCommand) : CloudTx AutomationDevice := do
  let cloud ← gets id
  lift (checkRegistration cloud scope command)
  let devices ← orFail (cloud.devices.insert? (registeredDevice draws command)) .database
  modify fun cloud => { cloud with devices := devices }
  pure (registeredDevice draws command)

/-- `register_device`. -/
def registerDevice (draws : Draws) (context : CommandContext)
    (command : RegisterAutomationDeviceCommand) : CloudTx AutomationDevice := do
  lift (orBadRequest (validateAutomationDevice command.deviceKey command.displayName))
  idempotent registrationJournal context command
    (fun cloud device => deviceVisible context.scope cloud device.id)
    (executeRegistration draws context.scope command)

end Registration

section Control

/-- The answers to changes of control. -/
def controlJournal : Journal ChangeAutomationControlCommand AutomationDevice :=
  ⟨Cloud.controlChanges, fun results cloud => { cloud with controlChanges := results }⟩

/-- The checks of a change before the database is asked. -/
def validateControl (command : ChangeAutomationControlCommand) : Except AppError Unit := do
  orBadRequest (validateAutomationMessage command.reason)
  positiveRevision command.expectedRevision
  if command.targetMode = .automatic ∧ ¬command.safetyConfirmed then
    .error (.badRequest "resuming automation requires the physical safety confirmation")
  else .ok ()

/-- The mode is another one, and automatic work starts only on a healthy device without open
questions. -/
def checkControl (cloud : Cloud) (startedAt : Timestamp) (device : AutomationDevice)
    (command : ChangeAutomationControlCommand) : Except AppError Unit :=
  if device.revision.value ≠ command.expectedRevision then
    .error (.conflict "automation device revision does not match expected revision")
  else if device.controlMode = command.targetMode then
    .error (.conflict "automation device is already in the requested control mode")
  else if command.targetMode = .automatic ∧
      ¬(device.fitSince (addSeconds startedAt (-healthFreshSeconds)) &&
        !deviceHasManualReview cloud device.id) then
    .error (.conflict ("automation cannot resume without a fresh healthy heartbeat and " ++
      "reconciled manual-review commands"))
  else .ok ()

/-- The device in its new mode. -/
def controlled (command : ChangeAutomationControlCommand) (changedAt : Timestamp)
    (revision : RowRevision) (device : AutomationDevice) : AutomationDevice :=
  { device with
    controlMode := command.targetMode
    controlReason := command.reason
    controlChangedAt := changedAt
    revision := revision }

theorem controlled_id (command : ChangeAutomationControlCommand) (changedAt : Timestamp)
    (revision : RowRevision) (device : AutomationDevice) :
    (controlled command changedAt revision device).id = device.id := rfl

/-- A new change of control. -/
def executeControl (draws : Draws) (scope : ScopeBindings)
    (command : ChangeAutomationControlCommand) : CloudTx AutomationDevice := do
  let cloud ← gets id
  let device ← lift (lockDevice cloud scope command.deviceId)
  lift (checkControl cloud draws.startedAt device command)
  let revision ← orFail device.revision.next .database
  ensure (device.controlChangedAt ≤ stored draws.now) .database
  modify fun cloud => { cloud with
    devices := cloud.devices.rewriteRow device.id
      (controlled command (stored draws.now) revision)
      (controlled_id command (stored draws.now) revision) }
  pure (controlled command (stored draws.now) revision device)

/-- `change_control`. -/
def changeControl (draws : Draws) (context : CommandContext)
    (command : ChangeAutomationControlCommand) : CloudTx AutomationDevice := do
  lift (validateControl command)
  idempotent controlJournal context command
    (fun cloud device => deviceVisible context.scope cloud device.id)
    (executeControl draws context.scope command)

end Control

section Requests

/-- The answers to requests. -/
def enqueueJournal : Journal EnqueueAutomationCommand AutomationCommandReadModel :=
  ⟨Cloud.enqueued, fun results cloud => { cloud with enqueued := results }⟩

/-- The checks of a request before the database is asked. -/
def validateEnqueue (command : EnqueueAutomationCommand) : Except AppError Unit := do
  orBadRequest (validateAutomationMessage command.correlationId)
  orBadRequest command.command.validate

/-- The last heartbeat of the device found it in automatic mode at the agent. -/
def edgeIsAutomatic (cloud : Cloud) (device : AutomationDevice) : Bool :=
  cloud.heartbeats.any fun heartbeat =>
    decide (heartbeat.deviceId = device.id) &&
      decide (device.projection.map (·.lastHeartbeatAt) = some heartbeat.observedAt) &&
      decide (heartbeat.controlMode = .automatic)

/-- The last heartbeat is not older than an instant. -/
def heartbeatSince (device : AutomationDevice) (earliest : DateTime) : Bool :=
  device.projection.any fun projection =>
    decide (earliest.nanos ≤ projection.lastHeartbeatAt * 1000)

/-- The device can be asked to work. -/
def readyForCommands (cloud : Cloud) (device : AutomationDevice) (earliest : DateTime) : Bool :=
  decide (device.controlMode = .automatic) && edgeIsAutomatic cloud device &&
    (device.projection.any fun projection =>
      decide (projection.health = .healthy) || decide (projection.health = .degraded)) &&
    heartbeatSince device earliest

/-- The device is ready, and no command has the name. -/
def checkEnqueue (cloud : Cloud) (earliest : DateTime) (device : AutomationDevice)
    (command : EnqueueAutomationCommand) : Except AppError Unit :=
  if ¬readyForCommands cloud device earliest then
    .error (.conflict
      "automation device is not healthy, fresh, and automatic at both cloud and edge")
  else if deviceHasManualReview cloud device.id then
    .error (.conflict "automation device has an unresolved manual-review command")
  else if (cloud.commands.rows.any fun row =>
      decide (row.correlationId = command.correlationId)) = true then
    .error (.conflict "automation command correlation ID already exists")
  else .ok ()

/-- A requested command is queued. -/
def queuedCommand (draws : Draws) (device : AutomationDevice)
    (command : EnqueueAutomationCommand) : AutomationCommand :=
  { id := draws.id
    facilityId := device.facilityId
    deviceId := device.id
    correlationId := command.correlationId
    recoveryPolicy := command.recoveryPolicy
    command := command.command
    requestedAt := stored draws.now
    revision := .first
    progress := .queued }

/-- A new request. -/
def executeEnqueue (draws : Draws) (scope : ScopeBindings)
    (command : EnqueueAutomationCommand) : CloudTx AutomationCommandReadModel := do
  let cloud ← gets id
  let device ← lift (lockDevice cloud scope command.deviceId)
  ensure (device.deviceClass = command.command.deviceClass)
    (.badRequest "automation command class does not match the device")
  let earliest ← orPanic (draws.now.checkedAddSigned (-healthFreshSeconds * 1000000000))
  lift (checkEnqueue cloud earliest device command)
  let commands ← orFail (cloud.commands.insert? (queuedCommand draws device command)) .database
  modify fun cloud => { cloud with commands := commands }
  pure (readModel (queuedCommand draws device command))

/-- `enqueue_command`. -/
def enqueueCommand (draws : Draws) (context : CommandContext)
    (command : EnqueueAutomationCommand) : CloudTx AutomationCommandReadModel := do
  lift (validateEnqueue command)
  idempotent enqueueJournal context command
    (fun cloud model => deviceVisible context.scope cloud model.deviceId)
    (executeEnqueue draws context.scope command)

end Requests

section Decisions

/-- The answers to decisions. -/
def resolutionJournal : Journal ResolveAutomationCommand AutomationCommandReadModel :=
  ⟨Cloud.resolutions, fun results cloud => { cloud with resolutions := results }⟩

/-- The checks of a decision before the database is asked. -/
def validateResolution (command : ResolveAutomationCommand) : Except AppError Unit := do
  orBadRequest (validateAutomationMessage command.reason)
  positiveRevision command.expectedRevision

/-- The command waits for the decision at the revision that the operator has seen. -/
def checkResolution (cloud : Cloud) (scope : ScopeBindings)
    (command : ResolveAutomationCommand) : Except AppError Unit := do
  let current ← lockCommand cloud command.commandId
  deviceVisible scope cloud current.deviceId
  if current.status ≠ .manualReview ∨ current.revision.value ≠ command.expectedRevision then
    .error (.conflict "automation command is not at the expected manual-review revision")
  else .ok ()

/-- A decision is not before the report that asked for it. -/
def resolve (resolution : Resolution) : CommandProgress → Option CommandProgress
  | .reported delivery acceptedAt outcome =>
    if outcome.status = .manualReview ∧ outcome.completedAt ≤ resolution.resolvedAt then
      some (.resolved delivery acceptedAt outcome resolution)
    else none
  | .queued | .delivered .. | .accepted .. | .resolved .. | .cancelled _ => none

/-- A new decision. -/
def executeResolution (draws : Draws) (context : CommandContext)
    (command : ResolveAutomationCommand) : CloudTx AutomationCommandReadModel := do
  let cloud ← gets id
  lift (checkResolution cloud context.scope command)
  let resolvedAt := stored draws.now
  -- The trigger compares the clock of the server with the start of the transaction.
  ensure (addSeconds draws.startedAt (-60) ≤ resolvedAt ∧
    resolvedAt ≤ addSeconds draws.startedAt 60) .database
  updateCommand command.commandId
    (resolve ⟨context.actorId, command.outcome, command.reason, resolvedAt⟩)
  updatedCommand command.commandId

/-- `resolve_command`. -/
def resolveCommand (draws : Draws) (context : CommandContext)
    (command : ResolveAutomationCommand) : CloudTx AutomationCommandReadModel := do
  lift (validateResolution command)
  idempotent resolutionJournal context command
    (fun cloud model => deviceVisible context.scope cloud model.deviceId)
    (executeResolution draws context command)

/-- A queued command is withdrawn. -/
def cancel (completedAt : Timestamp) : CommandProgress → Option CommandProgress
  | .queued => some (.cancelled completedAt)
  | .delivered .. | .accepted .. | .reported .. | .resolved .. | .cancelled _ => none

/-- The part of the shipping side that withdraws a print. -/
def cancelPrint (draws : Draws) (commandId : ℤ) (expectedRevision : ℕ) :
    CloudTx AutomationCommandReadModel := do
  let current ← gets (commandRow? · commandId)
  let current ← orFail current (.notFound "shipment document print job")
  ensure (current.status = .queued ∧ current.revision.value = expectedRevision)
    (.conflict "shipment document print is no longer queued at the expected revision")
  updateCommand commandId (cancel (stored draws.now))
  updatedCommand commandId

end Decisions

end Wareboxes.CloudAdministration
