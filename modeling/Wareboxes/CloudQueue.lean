import Wareboxes.CloudRecords

/-!
# The command queue of the cloud

An agent of a facility sends heartbeats, pulls commands, acknowledges those that it stored and
reports what became of them. Each of these is one transaction. The order of the checks is the
order of the source, so the first error is the one that the caller gets. Callers without the
permission are refused before any of this and are not shown. The triggers of the tables repeat
the guards of the operations; what they add, and the checks of the tables, stand where a row is
rewritten.
-/

namespace Wareboxes.CloudQueue

open CloudCommands CloudMapping CloudRecords OutboxTables RustTime ServerCommands Transactions
open Transaction

/-- How long a delivery is exclusive: `DELIVERY_LEASE_SECONDS`, in nanoseconds. -/
def deliveryLease : ℤ := 30 * 1000000000

/-- How old a heartbeat may be: `HEALTH_FRESH_SECONDS`. -/
def healthFreshSeconds : ℤ := 120

/-- The nanoseconds of some minutes. -/
def minutes (count : ℤ) : ℤ := count * 60 * 1000000000

section Rows

/-- `lock_device_tx`: the device, when the caller may see it. -/
def lockDevice (cloud : Cloud) (scope : ScopeBindings) (deviceId : ℤ) :
    Except AppError AutomationDevice :=
  match cloud.devices.find? deviceId with
  | none => .error (.notFound "automation device")
  | some device =>
    if scope.includesFacility device.facilityId then .ok device
    else .error (.notFound "automation device")

/-- A command joined with its device. -/
def commandRow? (cloud : Cloud) (commandId : ℤ) : Option AutomationCommandReadModel := do
  let row ← cloud.commands.find? commandId
  let _ ← cloud.devices.find? row.deviceId
  return readModel row

/-- `lock_command_tx`. -/
def lockCommand (cloud : Cloud) (commandId : ℤ) : Except AppError AutomationCommandReadModel :=
  match commandRow? cloud commandId with
  | some model => .ok model
  | none => .error (.notFound "automation command")

/-- `require_assigned_visible_tx`. -/
def requireAssignedVisible (cloud : Cloud) (scope : ScopeBindings) (serviceAccountId : ℤ)
    (model : AutomationCommandReadModel) : Except AppError Unit := do
  let _ ← lockDevice cloud scope model.deviceId
  if model.assignedServiceAccountId = some serviceAccountId then .ok ()
  else .error (.notFound "automation command")

/-- `device_has_manual_review_tx`. -/
def deviceHasManualReview (cloud : Cloud) (deviceId : ℤ) : Bool :=
  cloud.commands.rows.any fun row =>
    decide (row.deviceId = deviceId) && decide (row.progress.status = .manualReview)

/-- The last heartbeat of a device. -/
def latestHeartbeat? (cloud : Cloud) (deviceId : ℤ) : Option AutomationHeartbeat :=
  (cloud.heartbeats.filter fun heartbeat => decide (heartbeat.deviceId = deviceId)).getLast?

/-- A command at the next revision. -/
def advance (revision : RowRevision) (progress : CommandProgress) (row : AutomationCommand) :
    AutomationCommand :=
  { row with
    revision := revision
    progress := progress }

theorem advance_id (revision : RowRevision) (progress : CommandProgress)
    (row : AutomationCommand) : (advance revision progress row).id = row.id := rfl

/-- An update of one command. `rewrite` says which updates the checks and the trigger of the
table let through. -/
def updateCommand (commandId : ℤ) (rewrite : CommandProgress → Option CommandProgress) :
    CloudTx Unit := do
  let row ← gets (·.commands.find? commandId)
  let row ← orFail row .database
  let revision ← orFail row.revision.next .database
  let progress ← orFail (rewrite row.progress) .database
  modify fun cloud => { cloud with
    commands := cloud.commands.rewriteRow commandId (advance revision progress)
      (advance_id revision progress) }

/-- `command_row_tx`, after an update. -/
def updatedCommand (commandId : ℤ) : CloudTx AutomationCommandReadModel := do
  let model ← gets (commandRow? · commandId)
  orFail model .database

end Rows

section Answers

variable {ρ α : Type} [DecidableEq ρ]

/-- A table of stored answers. -/
structure Journal (ρ α : Type) where
  results : Cloud → StoredResults ρ α
  /-- The tables with other answers. -/
  withResults : StoredResults ρ α → Cloud → Cloud

/-- A command that is answered from its key, or executed and stored. A stored answer is given
when the caller may still see it. -/
def idempotent (journal : Journal ρ α) (context : CommandContext) (request : ρ)
    (visible : Cloud → α → Except AppError Unit) (execute : CloudTx α) : CloudTx α := do
  let cloud ← gets id
  let replay ← lift (replayed (journal.results cloud) context request)
  match replay with
  | some result => do
    lift (visible cloud result)
    pure result
  | none => do
    let result ← execute
    let results ← gets journal.results
    let results ← orFail (results.insert? (completedResult context request result)) .database
    modify (journal.withResults results)
    pure result

/-- A command is answered from its key and changes nothing, or it is executed. -/
theorem idempotent_ok {journal : Journal ρ α} {context : CommandContext} {request : ρ}
    {visible : Cloud → α → Except AppError Unit} {execute : CloudTx α} {cloud cloud' : Cloud}
    {result : α}
    (h : idempotent journal context request visible execute cloud = .ok (result, cloud')) :
    (cloud' = cloud ∧ visible cloud result = .ok () ∧
      (journal.results cloud).find? context.idempotencyKey =
        some (completedResult context request result)) ∨
    ∃ middle results, execute cloud = .ok (result, middle) ∧
      (journal.results middle).insert? (completedResult context request result) = some results ∧
      cloud' = journal.withResults results middle := by
  unfold idempotent at h
  rw [gets_bind] at h
  obtain ⟨replay, hreplay, h⟩ := lift_bind_ok.mp h
  cases replay with
  | some =>
    obtain ⟨_, hvisible, h⟩ := lift_bind_ok.mp h
    cases h
    exact .inl ⟨rfl, hvisible, replayed_eq_some.mp hreplay⟩
  | none =>
    obtain ⟨answer, middle, hexecute, h⟩ := bind_ok.mp h
    rw [gets_bind] at h
    obtain ⟨results, hinsert, h⟩ := orFail_bind_ok.mp h
    rw [modify_bind] at h
    cases h
    exact .inr ⟨middle, results, hexecute, hinsert, rfl⟩

end Answers

section Pull

/-- The answers to pulls. -/
def pullJournal : Journal PullAutomationCommands (List AutomationDeliveryReadModel) :=
  ⟨Cloud.pulls, fun results cloud => { cloud with pulls := results }⟩

/-- The checks of a pull before the database is asked. -/
def validatePull (scope : ScopeBindings) (command : PullAutomationCommands) :
    Except AppError Unit := do
  orBadRequest (validateAutomationMessage command.agentInstance)
  if ¬(1 ≤ command.limit ∧ command.limit ≤ 100) then
    .error (.badRequest "automation command pull limit must be between 1 and 100")
  else if ¬scope.includesFacility command.facilityId then
    .error (.notFound "automation facility")
  else .ok ()

/-- A stored delivery is still visible and assigned to the account. -/
def deliveryVisible (scope : ScopeBindings) (serviceAccountId : ℤ) (cloud : Cloud)
    (delivery : AutomationDeliveryReadModel) : Except AppError Unit := do
  let _ ← lockDevice cloud scope delivery.command.deviceId
  if delivery.command.assignedServiceAccountId = some serviceAccountId then .ok ()
  else .error (.notFound "automation command delivery")

/-- Every stored delivery is. -/
def deliveriesVisible (scope : ScopeBindings) (serviceAccountId : ℤ) (cloud : Cloud) :
    List AutomationDeliveryReadModel → Except AppError Unit
  | [] => .ok ()
  | delivery :: rest => do
    deliveryVisible scope serviceAccountId cloud delivery
    deliveriesVisible scope serviceAccountId cloud rest

/-- The command waits for a delivery: nobody has it, or the account let it expire. -/
def awaitsDelivery (serviceAccountId : ℤ) (now : Timestamp) :
    CommandProgress → Bool
  | .queued => true
  | .delivered delivery expiresAt =>
    decide (delivery.serviceAccountId = serviceAccountId) && decide (expiresAt ≤ now)
  | .accepted .. | .reported .. | .resolved .. | .cancelled _ => false

/-- The device takes commands from the agent. -/
def deviceReady (cloud : Cloud) (serviceAccountId : ℤ) (agentInstance : String)
    (now : Timestamp) (device : AutomationDevice) : Bool :=
  decide (device.controlMode = .automatic) &&
    device.fitSince (addSeconds now (-healthFreshSeconds)) &&
    ((latestHeartbeat? cloud device.id).any fun heartbeat =>
      decide (heartbeat.serviceAccountId = serviceAccountId) &&
        decide (heartbeat.agentInstance = agentInstance) &&
        decide (heartbeat.controlMode = .automatic)) &&
    !deviceHasManualReview cloud device.id

/-- The command can be delivered to the agent. -/
def deliverable (cloud : Cloud) (serviceAccountId : ℤ) (command : PullAutomationCommands)
    (now : Timestamp) (row : AutomationCommand) : Bool :=
  decide (row.facilityId = command.facilityId) &&
    ((cloud.devices.find? row.deviceId).any
      (deviceReady cloud serviceAccountId command.agentInstance now)) &&
    awaitsDelivery serviceAccountId now row.progress

/-- The order `requested_at, id`. -/
def requestedBefore (first second : AutomationCommand) : Prop :=
  first.requestedAt < second.requestedAt ∨
    first.requestedAt = second.requestedAt ∧ first.id ≤ second.id

instance : DecidableRel requestedBefore := fun _ _ => inferInstanceAs (Decidable (_ ∨ _))

/-- The commands of a pull, oldest first, without those that others hold. -/
def selectDeliverable (serviceAccountId : ℤ) (command : PullAutomationCommands)
    (draws : Draws) (cloud : Cloud) : List ℤ :=
  ((((cloud.commands.rows.filter
    (deliverable cloud serviceAccountId command (stored draws.now))).insertionSort
      requestedBefore).map (·.id)).filter fun id => !draws.locked.contains id).take command.limit

/-- A delivery takes a waiting command of the same account. -/
def redeliver (delivery : Delivery) (expiresAt : Timestamp) :
    CommandProgress → Option CommandProgress
  | .queued => some (.delivered delivery expiresAt)
  | .delivered earlier _ =>
    if earlier.serviceAccountId = delivery.serviceAccountId then
      some (.delivered delivery expiresAt)
    else none
  | .accepted .. | .reported .. | .resolved .. | .cancelled _ => none

/-- Deliver one command. -/
def deliverCommand (serviceAccountId : ℤ) (agentInstance : String) (now expiresAt : Timestamp)
    (selected : ℤ × String) (delivered : List AutomationDeliveryReadModel) :
    CloudTx (List AutomationDeliveryReadModel) := do
  updateCommand selected.1
    (redeliver ⟨serviceAccountId, agentInstance, selected.2, now⟩ expiresAt)
  let model ← updatedCommand selected.1
  pure (delivered ++ [⟨model, selected.2⟩])

/-- A new pull. -/
def executePull (draws : Draws) (serviceAccountId : ℤ) (command : PullAutomationCommands) :
    CloudTx (List AutomationDeliveryReadModel) := do
  let ids ← gets (selectDeliverable serviceAccountId command draws)
  let expiresAt ← orPanic (draws.now.checkedAddSigned deliveryLease)
  loop (deliverCommand serviceAccountId command.agentInstance (stored draws.now)
    (stored expiresAt)) (ids.zipIdx.map fun selected => (selected.1, draws.token selected.2)) []

/-- `pull_commands`. -/
def pullCommands (draws : Draws) (serviceAccountId : ℤ) (context : CommandContext)
    (command : PullAutomationCommands) : CloudTx (List AutomationDeliveryReadModel) := do
  lift (validatePull context.scope command)
  idempotent pullJournal context command
    (deliveriesVisible context.scope serviceAccountId)
    (executePull draws serviceAccountId command)

end Pull

section Acknowledgement

/-- The answers to acknowledgements. -/
def acknowledgementJournal : Journal AcknowledgeAutomationCommand AutomationCommandReadModel :=
  ⟨Cloud.acknowledgements, fun results cloud => { cloud with acknowledgements := results }⟩

/-- The checks of an acknowledgement before the database is asked. -/
def validateAcknowledgement (command : AcknowledgeAutomationCommand) : Except AppError Unit := do
  orBadRequest (validateAutomationMessage command.deliveryToken)
  if command.expectedRevision = 0 then .error (.badRequest "expected revision must be positive")
  else .ok ()

/-- The token of the last delivery. -/
def tokenMatches (cloud : Cloud) (command : AcknowledgeAutomationCommand) : Bool :=
  ((cloud.commands.find? command.commandId).bind (·.progress.delivery?)).any fun delivery =>
    decide (delivery.token = command.deliveryToken)

/-- The command is delivered at the revision and with the token of the acknowledgement. -/
def checkAcknowledgement (cloud : Cloud) (serviceAccountId : ℤ) (scope : ScopeBindings)
    (command : AcknowledgeAutomationCommand) : Except AppError Unit := do
  let current ← lockCommand cloud command.commandId
  requireAssignedVisible cloud scope serviceAccountId current
  if deviceHasManualReview cloud current.deviceId then
    .error (.conflict "automation device has an unresolved manual-review command")
  else if current.status ≠ .delivered ∨ current.revision.value ≠ command.expectedRevision then
    .error (.conflict "automation delivery status or revision changed")
  else if ¬tokenMatches cloud command then
    .error (.conflict "automation delivery token changed")
  else .ok ()

/-- An acceptance is not before its delivery. -/
def accept (acceptedAt : Timestamp) : CommandProgress → Option CommandProgress
  | .delivered delivery _ =>
    if delivery.deliveredAt ≤ acceptedAt then some (.accepted delivery acceptedAt) else none
  | .queued | .accepted .. | .reported .. | .resolved .. | .cancelled _ => none

/-- A new acknowledgement. -/
def executeAcknowledgement (draws : Draws) (serviceAccountId : ℤ) (scope : ScopeBindings)
    (command : AcknowledgeAutomationCommand) : CloudTx AutomationCommandReadModel := do
  let cloud ← gets id
  lift (checkAcknowledgement cloud serviceAccountId scope command)
  updateCommand command.commandId (accept (stored draws.now))
  updatedCommand command.commandId

/-- `acknowledge_command`. -/
def acknowledgeCommand (draws : Draws) (serviceAccountId : ℤ) (context : CommandContext)
    (command : AcknowledgeAutomationCommand) : CloudTx AutomationCommandReadModel := do
  lift (validateAcknowledgement command)
  idempotent acknowledgementJournal context command
    (fun cloud => requireAssignedVisible cloud context.scope serviceAccountId)
    (executeAcknowledgement draws serviceAccountId context.scope command)

end Acknowledgement

section Report

/-- The answers to reports. -/
def reportJournal : Journal ReportAutomationCommand AutomationCommandReadModel :=
  ⟨Cloud.reports, fun results cloud => { cloud with reports := results }⟩

/-- A result answers the command. -/
def validateResult (result : Option AutomationCommandResult) (command : AutomationDeviceCommand) :
    Except AppError Unit :=
  match result with
  | some result => orBadRequest (result.validateFor command)
  | none => .ok ()

/-- The command is accepted at the revision of the report, and its result fits. -/
def checkReport (cloud : Cloud) (serviceAccountId : ℤ) (scope : ScopeBindings)
    (command : ReportAutomationCommand) : Except AppError AutomationCommandReadModel := do
  let current ← lockCommand cloud command.commandId
  requireAssignedVisible cloud scope serviceAccountId current
  if current.status ≠ .accepted ∨ current.revision.value ≠ command.expectedRevision then
    .error (.conflict "automation command status or revision changed")
  else do
    validateResult command.result current.command
    return current

/-- The time of a report lies between the acceptance and a minute from now. -/
def inWindow (current : AutomationCommandReadModel) (latest occurredAt : DateTime) : Prop :=
  (current.acceptedAt.getD current.requestedAt) * 1000 ≤ occurredAt.nanos ∧
    occurredAt.nanos ≤ latest.nanos

instance (current : AutomationCommandReadModel) (latest occurredAt : DateTime) :
    Decidable (inWindow current latest occurredAt) :=
  inferInstanceAs (Decidable (_ ∧ _))

/-- What a report leaves, when its status is one that finishes a command. -/
def reportOutcome (command : ReportAutomationCommand) : Option Outcome :=
  if h : command.status = .succeeded ∨ command.status = .failed ∨
      command.status = .manualReview then
    some ⟨command.status, h, command.result, command.errorCode, command.errorMessage,
      stored command.occurredAt⟩
  else none

/-- A report is not before the acceptance. -/
def finish (outcome : Outcome) : CommandProgress → Option CommandProgress
  | .accepted delivery acceptedAt =>
    if acceptedAt ≤ outcome.completedAt then some (.reported delivery acceptedAt outcome)
    else none
  | .queued | .delivered .. | .reported .. | .resolved .. | .cancelled _ => none

/-- A new report. -/
def executeReport (draws : Draws) (serviceAccountId : ℤ) (scope : ScopeBindings)
    (command : ReportAutomationCommand) : CloudTx AutomationCommandReadModel := do
  let cloud ← gets id
  let current ← lift (checkReport cloud serviceAccountId scope command)
  let latest ← orPanic (draws.now.checkedAddSigned (minutes 1))
  ensure (inWindow current latest command.occurredAt)
    (.badRequest "automation result time is outside the accepted command window")
  let outcome ← orFail (reportOutcome command) .database
  updateCommand command.commandId (finish outcome)
  updatedCommand command.commandId

/-- `report_command`. -/
def reportCommand (draws : Draws) (serviceAccountId : ℤ) (context : CommandContext)
    (command : ReportAutomationCommand) : CloudTx AutomationCommandReadModel := do
  lift (validateReportShape command)
  idempotent reportJournal context command
    (fun cloud => requireAssignedVisible cloud context.scope serviceAccountId)
    (executeReport draws serviceAccountId context.scope command)

end Report

section Heartbeat

/-- The largest count of a heartbeat, an `i32`. -/
def maxCount : ℕ := 2147483647

/-- The answers to heartbeats. -/
def heartbeatJournal : Journal RecordAutomationHeartbeat AutomationHeartbeat :=
  ⟨Cloud.heartbeatResults, fun results cloud => { cloud with heartbeatResults := results }⟩

/-- The checks of a heartbeat before the database is asked. -/
def validateHeartbeat (command : RecordAutomationHeartbeat) : Except AppError Unit := do
  orBadRequest (validateAutomationMessage command.heartbeat.agentInstance)
  validateOptionalMessage command.heartbeat.message

/-- A stored heartbeat is still visible and of the account. -/
def heartbeatVisible (scope : ScopeBindings) (serviceAccountId : ℤ) (cloud : Cloud)
    (heartbeat : AutomationHeartbeat) : Except AppError Unit := do
  let _ ← lockDevice cloud scope heartbeat.deviceId
  if heartbeat.serviceAccountId = serviceAccountId then .ok ()
  else .error (.notFound "automation heartbeat")

/-- The heartbeat is newer than the last one, and its counts fit. -/
def checkHeartbeat (device : AutomationDevice) (request : RecordAutomationHeartbeatRequest) :
    Except AppError Unit :=
  if (device.projection.any fun projection =>
      decide (request.observedAt.nanos ≤ projection.lastHeartbeatAt * 1000)) = true then
    .error (.conflict "automation heartbeat is not newer than the device projection")
  else if maxCount < request.queuedCommands then
    .error (.badRequest "queued automation command count is too large")
  else if maxCount < request.manualReviewCommands then
    .error (.badRequest "manual-review automation command count is too large")
  else .ok ()

/-- The device after a heartbeat. -/
def project (projection : HealthProjection) (device : AutomationDevice) : AutomationDevice :=
  { device with projection := some projection }

theorem project_id (projection : HealthProjection) (device : AutomationDevice) :
    (project projection device).id = device.id := rfl

/-- What a heartbeat leaves at its device, unless it does not know the health. -/
def healthProjection (request : RecordAutomationHeartbeatRequest) : Option HealthProjection :=
  if h : request.health ≠ .unknown then
    some ⟨request.health, h, request.message, stored request.observedAt⟩
  else none

/-- A new heartbeat. -/
def executeHeartbeat (draws : Draws) (serviceAccountId : ℤ) (scope : ScopeBindings)
    (command : RecordAutomationHeartbeat) : CloudTx AutomationHeartbeat := do
  let cloud ← gets id
  let device ← lift (lockDevice cloud scope command.deviceId)
  let earliest ← orPanic (draws.now.checkedAddSigned (minutes (-5)))
  let latest ← orPanic (draws.now.checkedAddSigned (minutes 1))
  ensure (earliest.nanos ≤ command.heartbeat.observedAt.nanos ∧
      command.heartbeat.observedAt.nanos ≤ latest.nanos)
    (.badRequest "automation heartbeat time is outside the accepted clock-skew window")
  lift (checkHeartbeat device command.heartbeat)
  let observedAt := stored command.heartbeat.observedAt
  -- The table checks the window again, from the start of the transaction.
  ensure (addSeconds draws.startedAt (-300) ≤ observedAt ∧
    observedAt ≤ addSeconds draws.startedAt 60) .database
  let projection ← orFail (healthProjection command.heartbeat) .database
  let heartbeat : AutomationHeartbeat :=
    { deviceId := device.id
      serviceAccountId := serviceAccountId
      agentInstance := command.heartbeat.agentInstance
      controlMode := command.heartbeat.controlMode
      observedAt := observedAt }
  modify fun cloud => { cloud with
    heartbeats := cloud.heartbeats ++ [heartbeat]
    devices := cloud.devices.rewriteRow device.id (project projection) (project_id projection) }
  pure heartbeat

/-- `record_heartbeat`. -/
def recordHeartbeat (draws : Draws) (serviceAccountId : ℤ) (context : CommandContext)
    (command : RecordAutomationHeartbeat) : CloudTx AutomationHeartbeat := do
  lift (validateHeartbeat command)
  idempotent heartbeatJournal context command
    (heartbeatVisible context.scope serviceAccountId)
    (executeHeartbeat draws serviceAccountId context.scope command)

/-- `assigned_devices`. The agent keeps them by their keys, so their order does not matter. -/
def assignedDevices (scope : ScopeBindings) (facilityId : ℤ) : CloudTx (List AutomationDevice) := do
  ensure (scope.includesFacility facilityId = true) (.notFound "automation facility")
  gets fun cloud => cloud.devices.rows.filter fun device => decide (device.facilityId = facilityId)

end Heartbeat

end Wareboxes.CloudQueue
