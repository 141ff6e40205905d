import Wareboxes.EdgeTransitions

/-!
# Devices, submissions and operator actions of the edge store

Each definition is one public operation of the store, in the order of its
statements. An operation that halts leaves the store as it was, which is the
reading of `commit`; the operations themselves only say what a successful
transaction writes.
-/

namespace Wareboxes.EdgeOperations

open RustText RustTime EdgeTypes EdgeCommands EdgeAdapters Transactions.Transaction EdgeTables
open EdgeTransitions

/-- The row of a newly registered device: it is disabled and its health is unknown. -/
def newDeviceRow (descriptor : DeviceDescriptor) (actor : ActorId) (reason : String)
    (now : DateTime) : DeviceRow :=
  { descriptor := descriptor
    controlMode := .disabled
    controlReason := reason
    controlActor := actor
    controlChangedAt := now.timestampMillis
    healthState := .unknown
    healthMessage := none
    lastHeartbeatAt := none
    consecutiveHealthFailures := 0 }

/-- Store a new device and open its control history. -/
def insertDevice (descriptor : DeviceDescriptor) (actor : ActorId) (reason : String)
    (now : DateTime) : StoreTx Unit := do
  ensure (admitsDisplayName descriptor.displayName ∧ admitsControlReason reason) .database
  let table ← gets fun s => s.devices.insert? (newDeviceRow descriptor actor reason now)
  let table ← orFail table .database
  modify fun s => { s with
    devices := table
    controlEvents := s.controlEvents ++
      [⟨descriptor.deviceId, none, .disabled, actor, reason, now.timestampMillis⟩] }

/-- Register a device, or return it when it is registered with the same descriptor. -/
def registerDevice (descriptor : DeviceDescriptor) (actor : ActorId) (reason : String)
    (now : DateTime) : StoreTx DeviceStatus := do
  lift (liftType descriptor.validate)
  let descriptor := { descriptor with displayName := trim descriptor.displayName }
  let reason ← lift (liftType (validateReason reason))
  let existing ← gets (·.device? descriptor.deviceId)
  match existing with
  | some row => do
    let status ← lift (decodeDevice row)
    ensure (status.descriptor = descriptor) (.deviceConfigurationConflict descriptor.deviceId)
    pure status
  | none => do
    insertDevice descriptor actor reason now
    loadDevice descriptor.deviceId

/-- The order `tenant_id, facility_id, device_id`. -/
def listedBefore (first second : DeviceRow) : Prop :=
  first.descriptor.tenantId.asStr < second.descriptor.tenantId.asStr ∨
    first.descriptor.tenantId = second.descriptor.tenantId ∧
      (first.descriptor.facilityId.asStr < second.descriptor.facilityId.asStr ∨
        first.descriptor.facilityId = second.descriptor.facilityId ∧
          first.key.asStr ≤ second.key.asStr)

instance : DecidableRel listedBefore := fun _ _ => inferInstanceAs (Decidable (_ ∨ _))

/-- Every registered device. -/
def listDevices : StoreTx (List DeviceStatus) := do
  let rows ← gets fun s => s.devices.rows.insertionSort listedBefore
  lift (rows.mapM decodeDevice)

/-- Leaving automatic mode quarantines the commands of the device. -/
def quarantineUnlessAutomatic (deviceId : DeviceId) (target : ControlMode) (actor : ActorId)
    (reason : String) (now : DateTime) : StoreTx Unit :=
  if target ≠ .automatic then quarantineDeviceCommands deviceId actor reason now else pure ()

/-- Change the control mode of a device. -/
def changeControlMode (deviceId : DeviceId) (action : ControlAction) (actor : ActorId)
    (reason : String) (now : DateTime) : StoreTx DeviceStatus := do
  let reason ← lift (liftType (validateReason reason))
  let existing ← loadDevice deviceId
  quarantineUnlessAutomatic deviceId action.targetMode actor reason now
  updateDeviceMode existing action.targetMode actor reason now
  loadDevice deviceId

/-- The device row after a heartbeat. -/
def setHealth (report : HealthReport) (failures : ℕ) (now : DateTime) (row : DeviceRow) :
    DeviceRow :=
  { row with
    healthState := report.state
    healthMessage := report.message
    lastHeartbeatAt := some now.timestampMillis
    consecutiveHealthFailures := failures }

theorem setHealth_key (report : HealthReport) (failures : ℕ) (now : DateTime) (row : DeviceRow) :
    (setHealth report failures now row).key = row.key := rfl

/-- The failure counter after a heartbeat; it saturates at the largest `u32`. -/
def healthFailures (report : HealthReport) (device : DeviceStatus) : ℕ :=
  if report.state.permitsAutomaticWork then 0
  else min (device.consecutiveHealthFailures + 1) maxU32

/-- Store the answer of a heartbeat. -/
def recordHeartbeat (deviceId : DeviceId) (report : HealthReport) (now : DateTime) :
    StoreTx DeviceStatus := do
  lift (report.validate.mapError fun failure => .corruptRecord failure.display)
  let device ← loadDevice deviceId
  modify fun s => { s with
    devices := s.devices.updateWhere (fun row => decide (row.key = deviceId))
      (setHealth report (healthFailures report device) now) (setHealth_key report _ now)
    heartbeatEvents := s.heartbeatEvents ++
      [⟨deviceId, report.state, report.message, report.alarmCodes, now.timestampMillis⟩] }
  loadDevice deviceId

/-- Store a failed heartbeat as an offline device. -/
def recordHeartbeatFailure (deviceId : DeviceId) (failure : AdapterFailure) (now : DateTime) :
    StoreTx DeviceStatus := do
  let message ← orPanic (truncateMessage failure.message)
  recordHeartbeat deviceId ⟨.offline, some message, []⟩ now

/-- Whether a stored command shares an identity with a request. -/
def sharesIdentity (request : CommandRequest) (row : CommandRow) : Bool :=
  decide (row.key = request.commandId.asStr) ||
    (decide (row.request.tenantId = request.tenantId) &&
      decide (row.request.facilityId = request.facilityId) &&
      decide (row.request.deviceId = request.deviceId) &&
      (decide (row.request.correlationId = request.correlationId) ||
        decide (row.request.idempotencyKey = request.idempotencyKey)))

/-- The stored commands that share an identity with a request. Their identifiers are
distinct, so the list has the length of the set that the source collects. -/
def commandIdentityCandidates (request : CommandRequest) (s : Store) : List CommandRow :=
  s.commands.rows.filter (sharesIdentity request)

/-- The schema check `length(delivery_token) BETWEEN 32 AND 200`, in characters. -/
def admitsDeliveryToken (token : String) : Prop :=
  32 ≤ sqliteLength token ∧ sqliteLength token ≤ 200

instance (token : String) : Decidable (admitsDeliveryToken token) :=
  inferInstanceAs (Decidable (_ ∧ _))

/-- The row of a delivery that the cloud repeated before it was acknowledged. -/
def refreshDelivery (delivery : CloudDelivery) (now : DateTime) (row : DeliveryRow) :
    DeliveryRow :=
  { row with
    delivery := { row.delivery with
      deliveryToken := delivery.deliveryToken
      deliveryRevision := delivery.deliveryRevision }
    lastCloudError := none
    updatedAt := now.timestampMillis }

theorem refreshDelivery_key (delivery : CloudDelivery) (now : DateTime) (row : DeliveryRow) :
    (refreshDelivery delivery now row).key = row.key := rfl

/-- The row of a first delivery. -/
def newDeliveryRow (localCommandId : String) (delivery : CloudDelivery) (now : DateTime) :
    DeliveryRow :=
  { delivery := delivery
    localCommandId := localCommandId
    acknowledgementRevision := none
    acknowledgedAt := none
    reportedRevision := none
    reportedStatus := none
    reportedAt := none
    lastCloudError := none
    updatedAt := now.timestampMillis }

/-- A repeated delivery is refreshed while it is unacknowledged, and has to repeat an
acknowledged one exactly. -/
def refreshCloudDelivery (current : DeliveryRow) (localCommandId : String)
    (delivery : CloudDelivery) (now : DateTime) : StoreTx Unit := do
  ensure (¬(current.localCommandId ≠ localCommandId ∨
      current.delivery.cloudDeviceId ≠ delivery.cloudDeviceId ∨
      (current.acknowledgementRevision.isSome = true ∧ current.delivery ≠ delivery)))
    .cloudDeliveryConflict
  if current.acknowledgementRevision.isNone then do
    ensure (admitsDeliveryToken delivery.deliveryToken) .database
    modify fun s => { s with
      deliveries := s.deliveries.updateWhere
        (fun row => decide (row.key = delivery.cloudCommandId))
        (refreshDelivery delivery now) (refreshDelivery_key delivery now) }
  else
    pure ()

/-- A first delivery is stored; a local command belongs to at most one delivery. -/
def insertCloudDelivery (localCommandId : String) (delivery : CloudDelivery) (now : DateTime) :
    StoreTx Unit := do
  ensure (admitsDeliveryToken delivery.deliveryToken) .database
  let taken ← gets fun s =>
    s.deliveries.rows.any fun row => decide (row.localCommandId = localCommandId)
  ensure (taken = false) .database
  let table ← gets fun s => s.deliveries.insert? (newDeliveryRow localCommandId delivery now)
  let table ← orFail table .database
  modify fun s => { s with deliveries := table }

/-- Store or refresh the delivery of a submitted command. -/
def upsertCloudDelivery (localCommandId : String) (delivery : CloudDelivery) (now : DateTime) :
    StoreTx Unit := do
  lift delivery.validate
  let current ← gets (·.delivery? delivery.cloudCommandId)
  match current with
  | some row => refreshCloudDelivery row localCommandId delivery now
  | none => insertCloudDelivery localCommandId delivery now

/-- The delivery of a submission, when it came from the cloud. -/
def upsertOptionalDelivery (localCommandId : String) (delivery : Option CloudDelivery)
    (now : DateTime) : StoreTx Unit :=
  match delivery with
  | some delivery => upsertCloudDelivery localCommandId delivery now
  | none => pure ()

/-- The state and status reason of a new command. -/
def submissionStatus (mode : ControlMode) : CommandState × String :=
  if mode = .automatic then (.queued, "durable device command accepted")
  else (.manualReview, "device command quarantined because automation is not enabled")

/-- The row of a new command. -/
def newCommandRow (request : CommandRequest) (mode : ControlMode) (now : DateTime) : CommandRow :=
  { request := request
    state := (submissionStatus mode).1
    attemptCount := 0
    createdAt := now.timestampMillis
    updatedAt := now.timestampMillis
    nextAttemptAt := now.timestampMillis
    leaseToken := none
    leaseUntil := none
    result := none
    lastError :=
      if (submissionStatus mode).1 = .manualReview then some (submissionStatus mode).2 else none
    resolutionNote := none }

section NewCommandFields

variable (request : CommandRequest) (mode : ControlMode) (now : DateTime)

@[simp] theorem newCommandRow_state :
    (newCommandRow request mode now).state = (submissionStatus mode).1 := rfl

@[simp] theorem newCommandRow_leaseToken : (newCommandRow request mode now).leaseToken = none := rfl

end NewCommandFields

/-- A stored command of the same tenant, facility and device has the correlation or the
idempotency key of the request: the two unique constraints of `edge_commands`. -/
def takesScopedIdentity (request : CommandRequest) (row : CommandRow) : Bool :=
  decide (row.request.tenantId = request.tenantId) &&
    decide (row.request.facilityId = request.facilityId) &&
    decide (row.request.deviceId = request.deviceId) &&
    (decide (row.request.correlationId = request.correlationId) ||
      decide (row.request.idempotencyKey = request.idempotencyKey))

/-- Store a new command and open its audit trail. -/
def insertCommand (request : CommandRequest) (mode : ControlMode) (now : DateTime) :
    StoreTx Unit := do
  let taken ← gets fun s => s.commands.rows.any (takesScopedIdentity request)
  ensure (taken = false) .database
  let table ← gets fun s => s.commands.insert? (newCommandRow request mode now)
  let table ← orFail table .database
  modify fun s => { s with commands := table }
  appendCommandEvent request.commandId.asStr none (submissionStatus mode).1 none
    (submissionStatus mode).2 now

/-- A submission whose identities are known has to repeat the stored request. -/
def replaySubmission (request : CommandRequest) (delivery : Option CloudDelivery)
    (candidates : List CommandRow) (now : DateTime) : StoreTx SubmissionOutcome :=
  match candidates with
  | [row] => do
    ensure (row.request = request) .identityConflict
    upsertOptionalDelivery request.commandId.asStr delivery now
    let record ← lift (decodeCommand row)
    pure (.replayed record)
  | _ => fail .identityConflict

/-- Submit a command, with its delivery when it came from the cloud. -/
def submitWithCloud (request : CommandRequest) (delivery : Option CloudDelivery)
    (now : DateTime) : StoreTx SubmissionOutcome := do
  lift (liftCommand request.validate)
  let device ← loadDevice request.deviceId
  ensure (device.descriptor.tenantId = request.tenantId ∧
    device.descriptor.facilityId = request.facilityId) .scopeMismatch
  ensure (device.descriptor.deviceClass = request.command.deviceClass)
    (.deviceClassMismatch device.descriptor.deviceClass request.command.deviceClass)
  let candidates ← gets (commandIdentityCandidates request)
  if candidates = [] then do
    insertCommand request device.controlMode now
    upsertOptionalDelivery request.commandId.asStr delivery now
    let record ← loadCommand request.commandId.asStr
    pure (.accepted record)
  else
    replaySubmission request delivery candidates now

/-- Submit a command from the facility. -/
def submit (request : CommandRequest) (now : DateTime) : StoreTx SubmissionOutcome :=
  submitWithCloud request none now

/-- Submit a command that the cloud delivered. -/
def submitCloudDelivery (request : CommandRequest) (delivery : CloudDelivery) (now : DateTime) :
    StoreTx SubmissionOutcome :=
  submitWithCloud request (some delivery) now

/-- Move a command on behalf of an operator. -/
def operatorTransition (commandId : String) (actor : ActorId) (reason : String)
    (target : CommandState) (allowed : List CommandState) (now : DateTime) :
    StoreTx CommandRecord := do
  let record ← loadCommand commandId
  ensure (record.state ∈ allowed) (.invalidTransition commandId record.state target.asStr)
  transitionUnleased now ⟨commandId, record.state, target, some actor, reason, none,
    if target = .resolvedManually then some reason else none⟩
  loadCommand commandId

/-- Settle a quarantined command by hand. -/
def resolveManually (commandId : String) (actor : ActorId) (note : String) (now : DateTime) :
    StoreTx CommandRecord := do
  let note ← lift (liftType (validateReason note))
  operatorTransition commandId actor note .resolvedManually [.manualReview] now

/-- Cancel a command that is not executing. -/
def cancelCommand (commandId : String) (actor : ActorId) (reason : String) (now : DateTime) :
    StoreTx CommandRecord := do
  let reason ← lift (liftType (validateReason reason))
  operatorTransition commandId actor reason .cancelled
    [.queued, .retryWait, .recoveryWait, .manualReview] now

/-- Queue a quarantined command again. -/
def retryAfterReview (commandId : String) (actor : ActorId) (reason : String) (now : DateTime) :
    StoreTx CommandRecord := do
  let reason ← lift (liftType (validateReason reason))
  let record ← loadCommand commandId
  ensure (record.state = .manualReview)
    (.invalidTransition commandId record.state "retry_after_review")
  let device ← loadDevice record.request.deviceId
  ensure (device.controlMode = .automatic) (.deviceNotAutomatic record.request.deviceId)
  transitionUnleased now ⟨commandId, record.state, .queued, some actor, reason, some now, none⟩
  loadCommand commandId

end Wareboxes.EdgeOperations
