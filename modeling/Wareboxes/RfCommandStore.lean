import Wareboxes.KeyedTables
import Wareboxes.RustText
import Wareboxes.RustTime
import Wareboxes.Transactions

/-!
# The durable command store of a handheld device

A handheld device writes every command to its own database before it sends it,
and keeps one row for each attempt to send it. The request and its idempotency
key are stored with the command, and an attempt refers to them. The tables hold
enumerations where the database holds their names, a draft where it holds its
JSON text, and one optional record where a constraint forces columns to be
present together.

The request of a draft, the hash of a body and the canonical form of a URL are
computed by code that the store only calls; they are parameters.
-/

namespace Wareboxes.RfCommandStore

open KeyedTables RustText RustTime Transactions Transaction

/-- Bytes of a body. -/
abbrev Bytes := List UInt8

/-- A SHA-256 hash. -/
abbrev Digest := Vector UInt8 32

/-- `CommandOperation`. -/
inductive CommandOperation where
  | claimNext | claimById | confirmLoose | confirmLicensePlate | release | inboundUnloadingStart
  | expectedReceiptConfirmation | cycleCountConfirmation | pickConfirmation | pickShortageReport
  | replenishmentConfirmation | crossDockConfirmation | outboundCartonMovement
  deriving DecidableEq

/-- `ResponseKind`. -/
inductive ResponseKind where
  | optionalClaim | claim | looseConfirmation | licensePlateConfirmation | release
  | relocationOptionalClaim | relocationClaim | relocationConfirmation | relocationRelease
  | cycleCountOptionalClaim | cycleCountClaim | cycleCountConfirmation | cycleCountRelease
  | pickOptionalClaim | pickClaim | pickConfirmation | pickShortageReport | pickRelease
  | replenishmentOptionalClaim | replenishmentClaim | replenishmentConfirmation
  | replenishmentRelease | crossDockOptionalClaim | crossDockClaim | crossDockConfirmation
  | crossDockRelease | outboundCartonMovement | inboundUnloadingStart
  | expectedReceiptConfirmation | unexpectedReceiptConfirmation
  deriving DecidableEq

/-- `CommandStatus`. -/
inductive CommandStatus where
  /-- The command was written and not sent. -/
  | persisted
  /-- An attempt is under way. -/
  | dispatching
  /-- The outcome of the last attempt is unknown. -/
  | ambiguous
  /-- The last attempt may be repeated. -/
  | retryable
  /-- The server's answer was written. -/
  | responseRecorded
  /-- The answer could not be applied. -/
  | reconcileRequired
  /-- The command was done. -/
  | completed
  /-- The server refused the command. -/
  | rejected
  deriving DecidableEq

/-- `CommandStatus::as_str`. -/
def CommandStatus.asStr : CommandStatus → String
  | .persisted => "persisted"
  | .dispatching => "dispatching"
  | .ambiguous => "ambiguous"
  | .retryable => "retryable"
  | .responseRecorded => "response_recorded"
  | .reconcileRequired => "reconcile_required"
  | .completed => "completed"
  | .rejected => "rejected"

/-- The statuses that the queries and the index for unresolved commands list. -/
def CommandStatus.isUnresolved : CommandStatus → Bool
  | .persisted | .dispatching | .ambiguous | .retryable | .responseRecorded
  | .reconcileRequired => true
  | .completed | .rejected => false

/-- The statuses of a command with a recorded response. -/
def CommandStatus.responseRequired : CommandStatus → Bool
  | .responseRecorded | .reconcileRequired | .completed | .rejected => true
  | .persisted | .dispatching | .ambiguous | .retryable => false

/-- The statuses from which a command may be sent. -/
def CommandStatus.maySend : CommandStatus → Bool
  | .persisted | .ambiguous | .retryable => true
  | _ => false

/-- The statuses that `finalize` may set. -/
def CommandStatus.isFinal : CommandStatus → Bool
  | .completed | .rejected | .reconcileRequired => true
  | _ => false

/-- How a call of the store fails. -/
inductive CommandStoreError where
  /-- The database refused a statement. -/
  | database (constraint : String)
  /-- The request of a command cannot be built. -/
  | wire (message : String)
  /-- The scope is not valid. -/
  | invalidScope
  | invalidServerUrl
  | serverUrlChangeBlocked
  /-- The identity belongs to another command. -/
  | identityConflict
  | unresolvedCommandExists
  /-- There is no such command. -/
  | notFound (recordId : ℤ)
  /-- The command belongs to another scope. -/
  | scopeMismatch
  /-- The status does not admit the transition. -/
  | invalidTransition (recordId : ℤ) (status : CommandStatus) (target : String)
  /-- The attempt is not under way. -/
  | attemptMismatch (recordId : ℤ) (attemptId : String)
  /-- A row is not what the store writes. -/
  | corruptRecord (message : String)
  | nonRetryableHttpStatus (status : ℕ)
  | retryableHttpStatus (status : ℕ)
  deriving DecidableEq

/-- `ExecutionScope`. -/
structure ExecutionScope where
  tenantId : ℤ
  operatorId : ℤ
  deviceId : String
  deriving DecidableEq

/-- `valid_device_id`. -/
def validDeviceId (deviceId : String) : Bool :=
  !isEmpty deviceId && decide (len deviceId ≤ 128) &&
    deviceId.toList.all fun c => decide (33 ≤ c.toNat) && decide (c.toNat ≤ 126)

/-- `ExecutionScope::validate`. -/
def ExecutionScope.validate (scope : ExecutionScope) : Except CommandStoreError Unit :=
  if scope.tenantId ≤ 0 || scope.operatorId ≤ 0 || !validDeviceId scope.deviceId then
    .error .invalidScope
  else .ok ()

/-- `HttpMethod`. -/
inductive HttpMethod where
  | post
  deriving DecidableEq

/-- `DurableHttpRequest`. -/
structure DurableHttpRequest where
  method : HttpMethod
  path : String
  contentType : String
  body : Bytes
  bodySha256 : Digest
  responseKind : ResponseKind
  deriving DecidableEq

/-- `DurableHttpResponse`, whose status is a `u16`. -/
@[ext]
structure DurableHttpResponse where
  status : ℕ
  /-- The status is a `u16`. -/
  status_lt : status < 65536
  body : Bytes
  serverRequestId : Option String

instance : DecidableEq DurableHttpResponse :=
  fun _ _ => decidable_of_iff _ DurableHttpResponse.ext_iff.symm

/-- `is_retryable_http_status`. -/
def isRetryableHttpStatus (status : ℕ) : Bool :=
  status == 401 || status == 408 || status == 429 ||
    (decide (500 ≤ status) && decide (status < 600))

/-- `DurableCommandDraft`. -/
structure DurableCommandDraft (Command : Type) where
  /-- The version of the command format. -/
  schemaVersion : ℕ
  commandId : String
  /-- The key under which the server runs the command at most once. -/
  idempotencyKey : String
  command : Command
  deriving DecidableEq

/-- What the store calls. -/
structure Wire (Command : Type) where
  /-- `CommandOperation::from`. -/
  operationOf : Command → CommandOperation
  /-- `build_durable_request`. -/
  build : DurableCommandDraft Command → Except String DurableHttpRequest
  /-- The digest of a body. -/
  sha256 : Bytes → Digest
  /-- A built request carries the hash of its body. -/
  build_sha256 : ∀ draft request, build draft = .ok request →
    request.bodySha256 = sha256 request.body
  /-- The canonical form of a trimmed server URL, when it is one. -/
  canonicalUrl : String → Option String

/-- The response columns of a command. -/
structure StoredResponse where
  response : DurableHttpResponse
  /-- The hash of its body. -/
  sha256 : Digest

/-- A row of `rf_commands`. -/
structure CommandRow (Command : Type) where
  recordId : ℤ
  commandId : String
  /-- The tenant, the operator and the device. -/
  scope : ExecutionScope
  operation : CommandOperation
  idempotencyKey : String
  draft : DurableCommandDraft Command
  request : DurableHttpRequest
  status : CommandStatus
  attemptCount : ℤ
  /-- When the row was written. -/
  createdAtMs : ℤ
  /-- When the row was last changed. -/
  updatedAtMs : ℤ
  lastError : Option String
  response : Option StoredResponse

/-- The status of an attempt. -/
inductive AttemptStatus where
  /-- The attempt is under way. -/
  | dispatching
  /-- Its outcome is unknown. -/
  | ambiguous
  | responded
  | retryable
  deriving DecidableEq

/-- A row of `rf_command_attempts`. -/
structure AttemptRow where
  attemptId : String
  recordId : ℤ
  /-- The number of the attempt. -/
  ordinal : ℤ
  requestId : String
  startedAtMs : ℤ
  finishedAtMs : Option ℤ
  status : AttemptStatus
  httpStatus : Option ℕ
  serverRequestId : Option String
  errorMessage : Option String

/-- The database of a device. -/
structure Store (Command : Type) where
  deviceId : String
  /-- The server that the device uses. -/
  serverUrl : Option String
  commands : KeyedTable (@CommandRow.recordId Command)
  /-- `rf_command_attempts`. -/
  attempts : KeyedTable AttemptRow.attemptId

/-- A new database. -/
def Store.initial {Command : Type} (deviceId : String) : Store Command :=
  ⟨deviceId, none, .empty, .empty⟩

/-- `DurableCommandRecord`. -/
structure DurableCommandRecord (Command : Type) where
  recordId : ℤ
  scope : ExecutionScope
  operation : CommandOperation
  draft : DurableCommandDraft Command
  request : DurableHttpRequest
  status : CommandStatus
  attemptCount : ℤ
  /-- When the command was written. -/
  createdAtMs : ℤ
  /-- When it last changed. -/
  updatedAtMs : ℤ
  lastError : Option String
  response : Option DurableHttpResponse

/-- `DispatchAttempt`. -/
structure DispatchAttempt (Command : Type) where
  attemptId : String
  requestId : String
  /-- The number of the attempt. -/
  ordinal : ℤ
  /-- The command, with the request that is sent. -/
  command : DurableCommandRecord Command

/-- `DeviceProfile`. -/
structure DeviceProfile where
  deviceId : String
  serverUrl : Option String

/-- `bounded`. -/
def bounded (message : String) : String := String.ofList (message.toList.take 1000)

section Operations

variable {Command : Type} (wire : Wire Command)

/-- The transactions of the store. -/
abbrev StoreTx (Command : Type) := Transaction (Store Command) CommandStoreError

/-- `DurableHttpRequest::verify_body`. -/
def verifyBody (request : DurableHttpRequest) : Bool :=
  decide (wire.sha256 request.body = request.bodySha256)

/-- `decode_response`, on columns that satisfy the constraint of the table. -/
def decodeResponse (stored : Option StoredResponse) :
    Except CommandStoreError (Option DurableHttpResponse) :=
  match stored with
  | none => .ok none
  | some stored =>
    if wire.sha256 stored.response.body = stored.sha256 then .ok (some stored.response)
    else .error (.corruptRecord "response body hash does not match")

/-- The record of a row. -/
def recordOf (row : CommandRow Command) : DurableCommandRecord Command where
  recordId := row.recordId
  scope := row.scope
  operation := row.operation
  draft := row.draft
  request := row.request
  status := row.status
  attemptCount := row.attemptCount
  createdAtMs := row.createdAtMs
  updatedAtMs := row.updatedAtMs
  lastError := row.lastError
  response := row.response.map StoredResponse.response

/-- Continue only when a stored row has a property. -/
def expect (condition : Bool) (message : String) : Except CommandStoreError Unit :=
  if condition then .ok () else .error (.corruptRecord message)

/-- `build_durable_request`, with the error of the store. -/
def buildRequest (draft : DurableCommandDraft Command) :
    Except CommandStoreError DurableHttpRequest :=
  (wire.build draft).mapError .wire

/-- `decode_record`. -/
def decodeRecord (row : CommandRow Command) :
    Except CommandStoreError (DurableCommandRecord Command) := do
  expect (row.draft.commandId == row.commandId) "draft command ID does not match its index"
  expect (verifyBody wire row.request) "request body hash does not match"
  let expectedRequest ← buildRequest wire row.draft
  expect (row.request == expectedRequest) "durable request does not match its typed command"
  expect (row.operation == wire.operationOf row.draft.command)
    "draft operation does not match its index"
  let response ← decodeResponse wire row.response
  expect (row.status.responseRequired == response.isSome)
    "command status and recorded response do not match"
  return recordOf row

/-- `load_record`. -/
def loadRecord (recordId : ℤ) : StoreTx Command (DurableCommandRecord Command) := do
  let commands ← gets Store.commands
  let row ← orFail (commands.find? recordId) (.notFound recordId)
  lift (decodeRecord wire row)

/-- `load_record` and `require_scope`. -/
def loadScoped (scope : ExecutionScope) (recordId : ℤ) :
    StoreTx Command (DurableCommandRecord Command) := do
  let record ← loadRecord wire recordId
  ensure (record.scope = scope) .scopeMismatch
  return record

/-- The row is an unresolved command of the device. -/
def CommandRow.blocks (deviceId : String) (row : CommandRow Command) : Bool :=
  row.scope.deviceId == deviceId && row.status.isUnresolved

/-- The row that `persist` writes. -/
def newCommand (scope : ExecutionScope) (draft : DurableCommandDraft Command)
    (request : DurableHttpRequest) (recordId now : ℤ) : CommandRow Command where
  recordId := recordId
  commandId := draft.commandId
  scope := scope
  operation := wire.operationOf draft.command
  idempotencyKey := draft.idempotencyKey
  draft := draft
  request := request
  status := .persisted
  attemptCount := 0
  createdAtMs := now
  updatedAtMs := now
  lastError := none
  response := none

/-- The row has the unique operation and key of a new row. -/
def CommandRow.sharesKey (first second : CommandRow Command) : Bool :=
  first.scope.tenantId == second.scope.tenantId && first.operation == second.operation &&
    first.idempotencyKey == second.idempotencyKey

/-- The rowid that SQLite gives to a new row: one more than the largest, and an unused one
of its choice when that is not possible. -/
def newRowId (rows : List (CommandRow Command)) (choice : ℤ) : ℤ :=
  let largest := rows.foldl (fun largest row => max largest row.recordId) 0
  if largest < maxI64 then largest + 1 else choice

/-- `persist`. -/
def persist [DecidableEq Command] (scope : ExecutionScope) (draft : DurableCommandDraft Command)
    (choice now : ℤ) : StoreTx Command (DurableCommandRecord Command) := do
  lift scope.validate
  let request ← lift (buildRequest wire draft)
  let commands ← gets Store.commands
  match commands.rows.find? (fun row => row.commandId == draft.commandId) with
  | some row =>
    let existing ← loadRecord wire row.recordId
    ensure (existing.scope = scope ∧ existing.operation = wire.operationOf draft.command ∧
      existing.draft = draft ∧ existing.request = request) .identityConflict
    return existing
  | none =>
    ensure (commands.rows.any (CommandRow.blocks scope.deviceId) = false) .unresolvedCommandExists
    let row := newCommand wire scope draft request (newRowId commands.rows choice) now
    ensure (commands.rows.any (CommandRow.sharesKey row) = false) .identityConflict
    let commands ← orFail (commands.insert? row) (.database "rf_commands.record_id")
    modify fun store => { store with commands }
    loadRecord wire row.recordId

/-- The row of a new attempt. -/
def newAttempt (attemptId requestId : String) (recordId ordinal now : ℤ) : AttemptRow where
  attemptId := attemptId
  recordId := recordId
  ordinal := ordinal
  requestId := requestId
  startedAtMs := now
  finishedAtMs := none
  status := .dispatching
  httpStatus := none
  serverRequestId := none
  errorMessage := none

/-- The attempt shares a unique column with a new row. -/
def AttemptRow.clashes (first second : AttemptRow) : Bool :=
  first.requestId == second.requestId ||
    (first.recordId == second.recordId && first.ordinal == second.ordinal)

/-- What `begin_attempt` writes to the command. -/
def dispatched (ordinal now : ℤ) (row : CommandRow Command) : CommandRow Command :=
  { row with
    status := .dispatching, attemptCount := ordinal, updatedAtMs := now, lastError := none }

theorem dispatched_recordId (ordinal now : ℤ) (row : CommandRow Command) :
    (dispatched ordinal now row).recordId = row.recordId := rfl

/-- `begin_attempt`. -/
def beginAttempt (scope : ExecutionScope) (recordId : ℤ) (attemptId requestId : String)
    (now : ℤ) : StoreTx Command (DispatchAttempt Command) := do
  lift scope.validate
  let record ← loadScoped wire scope recordId
  ensure (record.status.maySend = true) (.invalidTransition recordId record.status "dispatching")
  ensure (verifyBody wire record.request = true)
    (.corruptRecord "request body hash does not match")
  ensure (record.attemptCount < maxI64) (.corruptRecord "attempt count overflow")
  let ordinal := record.attemptCount + 1
  let attempts ← gets Store.attempts
  let attempt := newAttempt attemptId requestId recordId ordinal now
  ensure (attempts.rows.any (AttemptRow.clashes attempt) = false)
    (.database "rf_command_attempts unique columns")
  let attempts ← orFail (attempts.insert? attempt) (.database "rf_command_attempts.attempt_id")
  modify fun store => { store with
    attempts
    commands := store.commands.rewriteRow recordId (dispatched ordinal now)
      (dispatched_recordId ordinal now) }
  let command ← loadRecord wire recordId
  return ⟨attemptId, requestId, ordinal, command⟩

/-- How a call ends an attempt: the status that it sets, as its error names it, and what it
writes to the attempt and to the command. -/
structure Ending (Command : Type) where
  target : CommandStatus
  /-- What the attempt becomes. -/
  attempt : AttemptRow → AttemptRow
  /-- What the row becomes. -/
  command : CommandRow Command → CommandRow Command
  /-- The attempt keeps its key. -/
  attempt_id : ∀ row, (attempt row).attemptId = row.attemptId
  /-- The command keeps its key. -/
  command_id : ∀ row, (command row).recordId = row.recordId

/-- The common part of the calls that end an attempt. -/
def endAttempt (scope : ExecutionScope) (recordId : ℤ) (attemptId : String)
    (ending : Ending Command) : StoreTx Command (DurableCommandRecord Command) := do
  let record ← loadScoped wire scope recordId
  ensure (record.status = .dispatching)
    (.invalidTransition recordId record.status ending.target.asStr)
  let attempts ← gets Store.attempts
  let attempts ← orFail (attempts.updateOne? attemptId
    (fun row => row.recordId == recordId && row.status == .dispatching) ending.attempt
    ending.attempt_id) (.attemptMismatch recordId attemptId)
  modify fun store => { store with
    attempts
    commands := store.commands.rewriteRow recordId ending.command ending.command_id }
  loadRecord wire recordId

/-- What `mark_ambiguous` writes. -/
def ambiguousEnding (message : String) (now : ℤ) : Ending Command where
  target := .ambiguous
  attempt row := { row with
    status := .ambiguous, finishedAtMs := some now, errorMessage := some message }
  command row := { row with
    status := .ambiguous, updatedAtMs := now, lastError := some message }
  attempt_id _ := rfl
  command_id _ := rfl

/-- `mark_ambiguous`. -/
def markAmbiguous (scope : ExecutionScope) (recordId : ℤ) (attemptId message : String) (now : ℤ) :
    StoreTx Command (DurableCommandRecord Command) := do
  lift scope.validate
  endAttempt wire scope recordId attemptId (ambiguousEnding (bounded message) now)

/-- What `record_response` writes. -/
def responseEnding (response : DurableHttpResponse) (now : ℤ) : Ending Command where
  target := .responseRecorded
  attempt row := { row with
    status := .responded, finishedAtMs := some now, httpStatus := some response.status
    serverRequestId := response.serverRequestId }
  command row := { row with
    status := .responseRecorded, updatedAtMs := now, lastError := none
    response := some ⟨response, wire.sha256 response.body⟩ }
  attempt_id _ := rfl
  command_id _ := rfl

/-- `record_response`. -/
def recordResponse (scope : ExecutionScope) (recordId : ℤ) (attemptId : String)
    (response : DurableHttpResponse) (now : ℤ) :
    StoreTx Command (DurableCommandRecord Command) := do
  lift scope.validate
  ensure (isRetryableHttpStatus response.status = false) (.retryableHttpStatus response.status)
  endAttempt wire scope recordId attemptId (responseEnding wire response now)

/-- The message of a retryable response. -/
def retryableMessage (status : ℕ) : String :=
  "HTTP " ++ toString status ++ " response is retryable"

/-- What `record_retryable_response` writes. -/
def retryableEnding (response : DurableHttpResponse) (now : ℤ) : Ending Command where
  target := .retryable
  attempt row := { row with
    status := .retryable, finishedAtMs := some now, httpStatus := some response.status
    serverRequestId := response.serverRequestId
    errorMessage := some (retryableMessage response.status) }
  command row := { row with
    status := .retryable, updatedAtMs := now
    lastError := some (retryableMessage response.status) }
  attempt_id _ := rfl
  command_id _ := rfl

/-- `record_retryable_response`. -/
def recordRetryableResponse (scope : ExecutionScope) (recordId : ℤ) (attemptId : String)
    (response : DurableHttpResponse) (now : ℤ) :
    StoreTx Command (DurableCommandRecord Command) := do
  lift scope.validate
  ensure (isRetryableHttpStatus response.status = true) (.nonRetryableHttpStatus response.status)
  endAttempt wire scope recordId attemptId (retryableEnding response now)

/-- What `finalize` writes. -/
def finalized (status : CommandStatus) (message : Option String) (now : ℤ)
    (row : CommandRow Command) : CommandRow Command :=
  { row with status, updatedAtMs := now, lastError := message }

theorem finalized_recordId (status : CommandStatus) (message : Option String) (now : ℤ)
    (row : CommandRow Command) : (finalized status message now row).recordId = row.recordId := rfl

/-- `finalize`. -/
def finalize (scope : ExecutionScope) (recordId : ℤ) (status : CommandStatus)
    (message : Option String) (now : ℤ) : StoreTx Command (DurableCommandRecord Command) := do
  lift scope.validate
  ensure (status.isFinal = true) (.invalidTransition recordId status "terminal status")
  let record ← loadScoped wire scope recordId
  ensure (record.status = .responseRecorded)
    (.invalidTransition recordId record.status status.asStr)
  modify fun store => { store with
    commands := store.commands.rewriteRow recordId
      (finalized status (message.map bounded) now) (finalized_recordId _ _ _) }
  loadRecord wire recordId

/-- The text that recovery writes. -/
def interruptedMessage : String := "application stopped while the request was in flight"

/-- An attempt after recovery. -/
def interruptedAttempt (now : ℤ) (row : AttemptRow) : AttemptRow :=
  { row with
    status := .ambiguous, finishedAtMs := some now, errorMessage := some interruptedMessage }

theorem interruptedAttempt_attemptId (now : ℤ) (row : AttemptRow) :
    (interruptedAttempt now row).attemptId = row.attemptId := rfl

/-- A command after recovery. -/
def interruptedCommand (now : ℤ) (row : CommandRow Command) : CommandRow Command :=
  { row with status := .ambiguous, updatedAtMs := now, lastError := some interruptedMessage }

theorem interruptedCommand_recordId (now : ℤ) (row : CommandRow Command) :
    (interruptedCommand now row).recordId = row.recordId := rfl

/-- `recover_interrupted_dispatches`, which runs when the database is opened. -/
def recoverInterruptedDispatches (now : ℤ) : StoreTx Command Unit :=
  modify fun store => { store with
    attempts := store.attempts.updateWhere (fun row => row.status == .dispatching)
      (interruptedAttempt now) (interruptedAttempt_attemptId now)
    commands := store.commands.updateWhere (fun row => row.status == .dispatching)
      (interruptedCommand now) (interruptedCommand_recordId now) }

/-- `normalize_server_url`. -/
def normalizeServerUrl (serverUrl : Option String) : Except CommandStoreError (Option String) :=
  match serverUrl with
  | none => .ok none
  | some text =>
    if isEmpty (trim text) || decide (2048 < len (trim text)) then .error .invalidServerUrl
    else match wire.canonicalUrl (trim text) with
      | some url => .ok (some url)
      | none => .error .invalidServerUrl

/-- `decode_device_profile`. -/
def decodeDeviceProfile (deviceId : String) (serverUrl : Option String) :
    Except CommandStoreError DeviceProfile := do
  expect (validDeviceId deviceId) "device profile contains an invalid device ID"
  let normalized ← (normalizeServerUrl wire serverUrl).mapError fun _ =>
    .corruptRecord "device profile contains an invalid server URL"
  expect (normalized == serverUrl) "device profile contains a non-canonical server URL"
  return ⟨deviceId, serverUrl⟩

/-- `load_device_profile`. -/
def loadDeviceProfile : StoreTx Command DeviceProfile := do
  let deviceId ← gets Store.deviceId
  let serverUrl ← gets Store.serverUrl
  lift (decodeDeviceProfile wire deviceId serverUrl)

/-- `set_server_url`. -/
def setServerUrl (serverUrl : Option String) : StoreTx Command DeviceProfile := do
  let serverUrl ← lift (normalizeServerUrl wire serverUrl)
  let profile ← loadDeviceProfile wire
  if profile.serverUrl = serverUrl then return profile
  else do
    let commands ← gets Store.commands
    ensure (commands.rows.any (CommandRow.blocks profile.deviceId) = false)
      .serverUrlChangeBlocked
    modify fun store => { store with serverUrl }
    loadDeviceProfile wire

end Operations

end Wareboxes.RfCommandStore
