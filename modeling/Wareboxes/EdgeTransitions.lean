import Wareboxes.EdgeTables

/-!
# Statements and transition helpers of the edge store

Every operation of the store is assembled from the helpers of this module: the
loaders and decoders, the audited transitions of a command with and without a
lease, the abandonment of an active attempt, and the quarantine of a device.
An SQL update that the source requires to change exactly one row is
`updateOne?`, with the refusal the source reports otherwise.
-/

namespace Wareboxes.EdgeTransitions

open RustText RustTime EdgeTypes EdgeCommands Transactions Transactions.Transaction EdgeTables

/-- The longest persisted message, in bytes. -/
def maxPersistedMessageLength : ℕ := 1000

/-- Trim a message, replace an empty one and cut it to the persisted length. The cut
panics (`none`) when it is inside a character. -/
def truncateMessage (message : String) : Option String :=
  let message := trim message
  truncate maxPersistedMessageLength (if isEmpty message then "no detail supplied" else message)

/-- A count that has to fit in 32 bits. -/
def checkedU32 (value : ℕ) (field : String) : Except StoreError ℕ :=
  if value ≤ maxU32 then .ok value
  else .error (.corruptRecord (field ++ " does not fit in u32"))

/-- A duration in milliseconds, when it fits in an `i64`. -/
def durationMillis (duration : Duration) : Except StoreError ℤ :=
  if (duration.asMillis : ℤ) ≤ maxI64 then .ok duration.asMillis else .error .durationOverflow

/-- A device row as callers see it. -/
def statusOf (row : DeviceRow) : DeviceStatus :=
  { descriptor := row.descriptor
    controlMode := row.controlMode
    controlReason := row.controlReason
    controlActor := row.controlActor
    controlChangedAt := row.controlChangedAt.toDateTime
    health := row.healthState
    healthMessage := row.healthMessage
    lastHeartbeatAt := row.lastHeartbeatAt.map Millis.toDateTime
    consecutiveHealthFailures := row.consecutiveHealthFailures }

/-- Read a device row. Identifiers and enumerations are typed, so that only the
failure counter is checked. -/
def decodeDevice (row : DeviceRow) : Except StoreError DeviceStatus := do
  let _ ← checkedU32 row.consecutiveHealthFailures "health failure count"
  return statusOf row

/-- Errors of the command layer pass through the store. -/
def liftCommand {α : Type} (check : Except CommandError α) : Except StoreError α :=
  check.mapError .command

/-- Errors of the type layer pass through the store. -/
def liftType {α : Type} (check : Except TypeError α) : Except StoreError α :=
  check.mapError .type

/-- A stored result is checked against the stored request. -/
def validateStoredResult (row : CommandRow) : Except CommandError Unit :=
  match row.result with
  | some result => result.validateFor row.request.command
  | none => .ok ()

/-- A command row as callers see it. -/
def recordOf (row : CommandRow) : CommandRecord :=
  { request := row.request
    state := row.state
    attemptCount := row.attemptCount
    createdAt := row.createdAt.toDateTime
    updatedAt := row.updatedAt.toDateTime
    nextAttemptAt := row.nextAttemptAt.toDateTime
    result := row.result
    lastError := row.lastError
    resolutionNote := row.resolutionNote }

/-- Read a command row: request and result are validated again. -/
def decodeCommand (row : CommandRow) : Except StoreError CommandRecord := do
  liftCommand row.request.validate
  liftCommand (validateStoredResult row)
  let _ ← checkedU32 row.attemptCount "command attempt count"
  return recordOf row

/-- A row that the agent can read back. -/
def Readable (row : CommandRow) : Prop :=
  row.request.validate = .ok () ∧ validateStoredResult row = .ok () ∧ row.attemptCount ≤ maxU32

theorem checkedU32_ok {value result : ℕ} {field : String} :
    checkedU32 value field = .ok result ↔ value ≤ maxU32 ∧ result = value := by
  unfold checkedU32
  split_ifs with h
  · simp only [Except.ok.injEq, h, true_and]
    exact eq_comm
  · simp [h]

theorem liftCommand_ok {α : Type} {check : Except CommandError α} {value : α} :
    liftCommand check = .ok value ↔ check = .ok value := by
  cases check <;> simp [liftCommand, Except.mapError]

theorem liftType_ok {α : Type} {check : Except TypeError α} {value : α} :
    liftType check = .ok value ↔ check = .ok value := by
  cases check <;> simp [liftType, Except.mapError]

theorem decodeDevice_ok {row : DeviceRow} {status : DeviceStatus} :
    decodeDevice row = .ok status ↔
      row.consecutiveHealthFailures ≤ maxU32 ∧ status = statusOf row := by
  unfold decodeDevice
  rw [except_bind_ok]
  constructor
  · rintro ⟨failures, hcheck, hstatus⟩
    cases hstatus
    exact ⟨(checkedU32_ok.mp hcheck).1, rfl⟩
  · rintro ⟨hbound, rfl⟩
    exact ⟨_, checkedU32_ok.mpr ⟨hbound, rfl⟩, rfl⟩

theorem decodeCommand_ok {row : CommandRow} {record : CommandRecord} :
    decodeCommand row = .ok record ↔ Readable row ∧ record = recordOf row := by
  unfold decodeCommand
  simp only [except_bind_ok, liftCommand_ok, checkedU32_ok]
  constructor
  · rintro ⟨_, hrequest, _, hresult, _, ⟨hbound, _⟩, hrecord⟩
    cases hrecord
    exact ⟨⟨hrequest, hresult, hbound⟩, rfl⟩
  · rintro ⟨⟨hrequest, hresult, hbound⟩, rfl⟩
    exact ⟨(), hrequest, (), hresult, _, ⟨hbound, rfl⟩, rfl⟩

/-- Load and decode a device. -/
def loadDevice (deviceId : DeviceId) : StoreTx DeviceStatus := do
  let row ← gets (·.device? deviceId)
  let row ← orFail row (.deviceNotFound deviceId)
  lift (decodeDevice row)

/-- Load and decode a command. -/
def loadCommand (commandId : String) : StoreTx CommandRecord := do
  let row ← gets (·.command? commandId)
  let row ← orFail row (.commandNotFound commandId)
  lift (decodeCommand row)

/-- The schema check `length(trim(control_reason)) BETWEEN 1 AND 1000`. -/
def admitsControlReason (reason : String) : Prop :=
  1 ≤ sqliteLength (sqliteTrim reason) ∧ sqliteLength (sqliteTrim reason) ≤ 1000

instance (reason : String) : Decidable (admitsControlReason reason) :=
  inferInstanceAs (Decidable (_ ∧ _))

/-- The schema check `length(trim(display_name)) BETWEEN 1 AND 200`. -/
def admitsDisplayName (name : String) : Prop :=
  1 ≤ sqliteLength (sqliteTrim name) ∧ sqliteLength (sqliteTrim name) ≤ 200

instance (name : String) : Decidable (admitsDisplayName name) :=
  inferInstanceAs (Decidable (_ ∧ _))

/-- Append to the audit trail of a command. -/
def appendCommandEvent (commandId : String) (fromState : Option CommandState)
    (toState : CommandState) (actor : Option ActorId) (reason : String) (now : DateTime) :
    StoreTx Unit :=
  modify fun s => { s with
    commandEvents := s.commandEvents ++
      [⟨commandId, fromState, toState, actor, reason, now.timestampMillis⟩] }

/-- Rewrite the one command row that is stored under an identifier and meets a condition. -/
def updateCommand (commandId : String) (guard : CommandRow → Bool)
    (rewrite : CommandRow → CommandRow) (hkey : ∀ row, (rewrite row).key = row.key)
    (refusal : StoreError) : StoreTx Unit := do
  let table ← gets fun s => s.commands.updateOne? commandId guard rewrite hkey
  let table ← orFail table refusal
  modify fun s => { s with commands := table }

/-- A transition of a command that no lease holds. -/
structure UnleasedTransition where
  commandId : String
  fromState : CommandState
  toState : CommandState
  actor : Option ActorId
  reason : String
  /-- New due time, if it changes. -/
  nextAttemptAt : Option DateTime
  resolutionNote : Option String

/-- The row after an unleased transition. -/
def UnleasedTransition.rewrite (transition : UnleasedTransition) (now : DateTime)
    (row : CommandRow) : CommandRow :=
  { row with
    state := transition.toState
    updatedAt := now.timestampMillis
    nextAttemptAt :=
      (transition.nextAttemptAt.map DateTime.timestampMillis).getD row.nextAttemptAt
    lastError := if transition.toState = .queued then none else row.lastError
    resolutionNote := transition.resolutionNote.or row.resolutionNote }

section RewriteFields

variable (transition : UnleasedTransition) (now : DateTime) (row : CommandRow)

theorem UnleasedTransition.rewrite_key : (transition.rewrite now row).key = row.key := rfl

@[simp] theorem UnleasedTransition.rewrite_state :
    (transition.rewrite now row).state = transition.toState := rfl

@[simp] theorem UnleasedTransition.rewrite_leaseToken :
    (transition.rewrite now row).leaseToken = row.leaseToken := rfl

end RewriteFields

/-- Move a command that is in the given state and not leased. -/
def transitionUnleased (now : DateTime) (transition : UnleasedTransition) : StoreTx Unit := do
  updateCommand transition.commandId
    (fun row => decide (row.state = transition.fromState) && row.leaseToken.isNone)
    (transition.rewrite now) (transition.rewrite_key now)
    (.invalidTransition transition.commandId transition.fromState transition.toState.asStr)
  appendCommandEvent transition.commandId (some transition.fromState) transition.toState
    transition.actor transition.reason now

/-- The row after its lease was taken away. -/
def revokeLease (toState : CommandState) (reason : String) (now : DateTime)
    (row : CommandRow) : CommandRow :=
  { row with
    state := toState
    updatedAt := now.timestampMillis
    nextAttemptAt := now.timestampMillis
    leaseToken := none
    leaseUntil := none
    lastError := some reason }

section RevokeFields

variable (toState : CommandState) (reason : String) (now : DateTime) (row : CommandRow)

theorem revokeLease_key : (revokeLease toState reason now row).key = row.key := rfl

@[simp] theorem revokeLease_state : (revokeLease toState reason now row).state = toState := rfl

@[simp] theorem revokeLease_leaseToken : (revokeLease toState reason now row).leaseToken = none :=
  rfl

end RevokeFields

/-- Move an executing command whoever holds its lease. -/
def transitionLeasedWithoutToken (commandId : String) (toState : CommandState)
    (actor : Option ActorId) (reason : String) (now : DateTime) : StoreTx Unit := do
  updateCommand commandId (fun row => decide (row.state = .executing))
    (revokeLease toState reason now) (revokeLease_key toState reason now)
    (.leaseMismatch commandId)
  appendCommandEvent commandId (some .executing) toState actor reason now

/-- The attempt after it was abandoned. -/
def abandonAttempt (reason : String) (now : DateTime) (row : AttemptRow) : AttemptRow :=
  { row with
    state := .abandoned
    finishedAt := some now.timestampMillis
    message := some reason }

theorem abandonAttempt_attemptId (reason : String) (now : DateTime) (row : AttemptRow) :
    (abandonAttempt reason now row).attemptId = row.attemptId := rfl

/-- The active attempts of a command. -/
def isActiveOf (commandId : String) (row : AttemptRow) : Bool :=
  decide (row.commandId = commandId) && decide (row.state = .active)

/-- Abandon the active attempt of a command, which has to be exactly one. -/
def abandonActiveAttempt (commandId reason : String) (now : DateTime) : StoreTx Unit := do
  let changed ← gets fun s => s.attempts.countWhere (isActiveOf commandId)
  modify fun s => { s with
    attempts := s.attempts.updateWhere (isActiveOf commandId) (abandonAttempt reason now)
      (abandonAttempt_attemptId reason now) }
  ensure (changed = 1) (.corruptRecord
    ("executing command " ++ commandId ++ " does not have exactly one active attempt"))

/-- The order `created_at_ms, command_id`. -/
def submittedBefore (first second : CommandRow) : Prop :=
  first.createdAt.millis < second.createdAt.millis ∨
    (first.createdAt.millis = second.createdAt.millis ∧ first.key ≤ second.key)

instance : DecidableRel submittedBefore := fun _ _ => inferInstanceAs (Decidable (_ ∨ _))

/-- The commands that a quarantine of a device has to move. -/
def liveCommands (deviceId : DeviceId) (s : Store) : List CommandRow :=
  (s.commands.rows.filter fun row =>
    decide (row.request.deviceId = deviceId) && row.state.isLive).insertionSort submittedBefore

/-- Take one live command out of automation. -/
def quarantineCommand (actor : ActorId) (reason : String) (now : DateTime)
    (listed : CommandRow) : StoreTx Unit :=
  if listed.state = .executing then do
    abandonActiveAttempt listed.key reason now
    transitionLeasedWithoutToken listed.key .manualReview (some actor) reason now
  else
    transitionUnleased now ⟨listed.key, listed.state, .manualReview, some actor, reason, none, none⟩

/-- Take every live command of a device out of automation. -/
def quarantineDeviceCommands (deviceId : DeviceId) (actor : ActorId) (reason : String)
    (now : DateTime) : StoreTx Unit := do
  let commands ← gets (liveCommands deviceId)
  loop (fun listed _ => quarantineCommand actor reason now listed) commands ()

/-- The device row after a control change. -/
def setControlMode (target : ControlMode) (actor : ActorId) (reason : String) (now : DateTime)
    (row : DeviceRow) : DeviceRow :=
  { row with
    controlMode := target
    controlReason := reason
    controlActor := actor
    controlChangedAt := now.timestampMillis }

theorem setControlMode_key (target : ControlMode) (actor : ActorId) (reason : String)
    (now : DateTime) (row : DeviceRow) :
    (setControlMode target actor reason now row).key = row.key := rfl

/-- Change the mode of a device and append to its control history. -/
def updateDeviceMode (existing : DeviceStatus) (target : ControlMode) (actor : ActorId)
    (reason : String) (now : DateTime) : StoreTx Unit := do
  ensure (admitsControlReason reason) .database
  modify fun s => { s with
    devices := s.devices.updateWhere
      (fun row => decide (row.key = existing.descriptor.deviceId))
      (setControlMode target actor reason now) (setControlMode_key target actor reason now)
    controlEvents := s.controlEvents ++
      [⟨existing.descriptor.deviceId, some existing.controlMode, target, actor, reason,
        now.timestampMillis⟩] }

/-- Quarantine a device and take it out of automatic mode. -/
def forceManualFallback (deviceId : DeviceId) (actor : ActorId) (reason : String)
    (now : DateTime) : StoreTx Unit := do
  let existing ← loadDevice deviceId
  quarantineDeviceCommands deviceId actor reason now
  if existing.controlMode ≠ .manualFallback then
    updateDeviceMode existing .manualFallback actor reason now
  else
    pure ()

end Wareboxes.EdgeTransitions
