import Wareboxes.EdgeTypes

/-!
# Device commands, their results and their life cycle states

Commands are vendor neutral and typed by device class. A request is validated
when it is submitted and again whenever it is read back from the store; a
result is validated against the command it answers.
-/

namespace Wareboxes.EdgeCommands

open RustText RustTime EdgeTypes

/-- The only command schema the agent understands. -/
def commandSchemaVersion : ℕ := 1

/-- The longest reference text, in bytes. -/
def maxReferenceLength : ℕ := 200

/-- The longest print payload, in bytes. -/
def maxPrintPayloadBytes : ℕ := 10 * 1024 * 1024

/-- Errors of command and result validation. Serialization errors do not occur
for the typed values of this model. -/
inductive CommandError where
  | unsupportedSchema (version : ℕ)
  /-- A text is blank or too long. -/
  | invalidText (field : String) (max : ℕ)
  | printPayloadTooLarge
  | invalidScaleTimeout
  /-- The pulse is too long. -/
  | invalidPulseDuration
  /-- A result of another device class was supplied. -/
  | resultKindMismatch
  deriving DecidableEq

/-- A reference has to have visible text and at most `max` bytes. -/
def validateText (value field : String) (max : ℕ) : Except CommandError Unit :=
  if isEmpty (trim value) || decide (max < len value) then .error (.invalidText field max)
  else .ok ()

/-- An optional reference is checked when it is present. -/
def validateOptionalText (value : Option String) (field : String) (max : ℕ) :
    Except CommandError Unit :=
  match value with
  | some text => validateText text field max
  | none => .ok ()

/-- What may happen after an outcome that nobody observed. -/
inductive RecoveryPolicy where
  /-- The device deduplicates, so the command may be delivered again. -/
  | deviceDeduplicatedReplay
  /-- The device has to be asked before the command is delivered again. -/
  | probeThenRetry
  /-- An operator has to decide. -/
  | manualReview
  deriving DecidableEq

/-- A positive 32-bit number, as `NonZeroU32` is. -/
@[ext]
structure NonZeroU32 where
  get : ℕ
  /-- It is not zero. -/
  positive : 0 < get
  /-- It has 32 bits. -/
  bounded : get ≤ maxU32

instance : DecidableEq NonZeroU32 := fun _ _ => decidable_of_iff _ NonZeroU32.ext_iff.symm

/-- A positive 16-bit number, as `NonZeroU16` is. -/
@[ext]
structure NonZeroU16 where
  get : ℕ
  /-- It is not zero. -/
  positive : 0 < get
  /-- It has 16 bits. -/
  bounded : get < 65536

instance : DecidableEq NonZeroU16 := fun _ _ => decidable_of_iff _ NonZeroU16.ext_iff.symm

/-- Commands of programmable controllers. -/
inductive PlcCommand where
  | setDiscreteOutput (point : String) (value : Bool)
  | pulseDiscreteOutput (point : String) (durationMs : NonZeroU32)
  | resetFault (faultCode : String)
  deriving DecidableEq

/-- Commands of conveyors. -/
inductive ConveyorCommand where
  | routeCarrier (carrierId destination : String)
  | startZone (zone : String)
  | stopZone (zone : String)
  deriving DecidableEq

/-- What a robot mission is for. -/
inductive RobotMissionKind where
  | pick
  | place
  | transport
  | charge
  deriving DecidableEq

/-- Commands of robots. -/
inductive RoboticsCommand where
  | dispatchMission (missionId : String) (missionKind : RobotMissionKind)
      (source destination : String) (payloadId : Option String)
  | cancelMission (missionId : String)
  deriving DecidableEq

/-- Commands of sorters. -/
inductive SortationCommand where
  | divert (trackingId chute : String)
  | reject (trackingId lane reasonCode : String)
  deriving DecidableEq

/-- Formats of printed documents. -/
inductive PrintFormat where
  | zpl
  | pdf
  | png
  | html
  deriving DecidableEq

/-- Commands of printers. -/
inductive PrinterCommand where
  | printDocument (documentId : String) (format : PrintFormat) (content : String)
      (copies : NonZeroU16)
  | cancelPrintJob (spoolJobId : String)
  deriving DecidableEq

/-- Units a scale can be asked for. -/
inductive WeightUnit where
  | gram
  | kilogram
  | pound
  deriving DecidableEq

/-- Commands of scales. -/
inductive ScaleCommand where
  | readStableWeight (requestedUnit : WeightUnit) (timeoutMs : NonZeroU32)
  | tare
  deriving DecidableEq

/-- A command in the language of its device class. -/
inductive DeviceCommand where
  | plc (command : PlcCommand)
  | conveyor (command : ConveyorCommand)
  | robotics (command : RoboticsCommand)
  | sortation (command : SortationCommand)
  | printer (command : PrinterCommand)
  | scale (command : ScaleCommand)
  deriving DecidableEq

/-- The class a command is meant for. -/
def DeviceCommand.deviceClass : DeviceCommand → DeviceClass
  | .plc _ => .plc
  | .conveyor _ => .conveyor
  | .robotics _ => .robotics
  | .sortation _ => .sortation
  | .printer _ => .printer
  | .scale _ => .scale

/-- Field checks of each command. -/
def DeviceCommand.validate : DeviceCommand → Except CommandError Unit
  | .plc (.setDiscreteOutput point _) => validateText point "PLC point" maxReferenceLength
  | .plc (.pulseDiscreteOutput point durationMs) => do
    validateText point "PLC point" maxReferenceLength
    if 60000 < durationMs.get then .error .invalidPulseDuration else .ok ()
  | .plc (.resetFault faultCode) => validateText faultCode "PLC fault code" maxReferenceLength
  | .conveyor (.routeCarrier carrierId destination) => do
    validateText carrierId "carrier ID" maxReferenceLength
    validateText destination "conveyor destination" maxReferenceLength
  | .conveyor (.startZone zone) | .conveyor (.stopZone zone) =>
    validateText zone "conveyor zone" maxReferenceLength
  | .robotics (.dispatchMission missionId _ source destination payloadId) => do
    validateText missionId "robot mission ID" maxReferenceLength
    validateText source "robot mission source" maxReferenceLength
    validateText destination "robot mission destination" maxReferenceLength
    validateOptionalText payloadId "robot payload ID" maxReferenceLength
  | .robotics (.cancelMission missionId) =>
    validateText missionId "robot mission ID" maxReferenceLength
  | .sortation (.divert trackingId chute) => do
    validateText trackingId "sortation tracking ID" maxReferenceLength
    validateText chute "sortation chute" maxReferenceLength
  | .sortation (.reject trackingId lane reasonCode) => do
    validateText trackingId "sortation tracking ID" maxReferenceLength
    validateText lane "sortation lane" maxReferenceLength
    validateText reasonCode "sortation reason code" maxReferenceLength
  | .printer (.printDocument documentId _ content _) => do
    validateText documentId "print document ID" maxReferenceLength
    if isEmpty content then .error (.invalidText "print content" maxPrintPayloadBytes)
    else if maxPrintPayloadBytes < len content then .error .printPayloadTooLarge
    else .ok ()
  | .printer (.cancelPrintJob spoolJobId) =>
    validateText spoolJobId "print spool job ID" maxReferenceLength
  | .scale (.readStableWeight _ timeoutMs) =>
    if 120000 < timeoutMs.get then .error .invalidScaleTimeout else .ok ()
  | .scale .tare => .ok ()

/-- A command with its identity, scope and recovery policy. -/
structure CommandRequest where
  schemaVersion : ℕ
  /-- Stable identity of the command. -/
  commandId : CommandId
  tenantId : TenantId
  facilityId : FacilityId
  /-- Device that executes the command. -/
  deviceId : DeviceId
  /-- Identity used for downstream correlation. -/
  correlationId : CorrelationId
  /-- Identity used for duplicate submissions. -/
  idempotencyKey : IdempotencyKey
  /-- Handling of unobserved outcomes. -/
  recoveryPolicy : RecoveryPolicy
  command : DeviceCommand
  deriving DecidableEq

/-- The schema is checked before the command. -/
def CommandRequest.validate (request : CommandRequest) : Except CommandError Unit :=
  if request.schemaVersion ≠ commandSchemaVersion then
    .error (.unsupportedSchema request.schemaVersion)
  else request.command.validate

/-- What an adapter is given: the request and the execution attempt. -/
structure CommandEnvelope where
  request : CommandRequest
  /-- Number of the execution attempt. -/
  attempt : ℕ
  deriving DecidableEq

/-- Result of a controller command. -/
structure PlcResult where
  controllerReference : Option String
  outputState : Option Bool
  deriving DecidableEq

/-- Result of a conveyor command. -/
structure ConveyorResult where
  controllerReference : Option String
  observedZone : Option String
  deriving DecidableEq

/-- Result of a robot command. -/
structure RoboticsResult where
  controllerReference : String
  missionState : String
  deriving DecidableEq

/-- Result of a sorter command. -/
structure SortationResult where
  controllerReference : Option String
  observedLane : String
  deriving DecidableEq

/-- Result of a printer command. -/
structure PrinterResult where
  spoolJobId : String
  deriving DecidableEq

/-- Result of a scale command. Masses are signed 64-bit milligrams. -/
structure ScaleResult where
  massMilligrams : ℤ
  stable : Bool
  deriving DecidableEq

/-- A result in the language of its device class. -/
inductive CommandResult where
  | plc (result : PlcResult)
  | conveyor (result : ConveyorResult)
  | robotics (result : RoboticsResult)
  | sortation (result : SortationResult)
  | printer (result : PrinterResult)
  | scale (result : ScaleResult)
  deriving DecidableEq

/-- The class a result comes from. -/
def CommandResult.deviceClass : CommandResult → DeviceClass
  | .plc _ => .plc
  | .conveyor _ => .conveyor
  | .robotics _ => .robotics
  | .sortation _ => .sortation
  | .printer _ => .printer
  | .scale _ => .scale

/-- Field checks of each result. -/
def CommandResult.validateFields : CommandResult → Except CommandError Unit
  | .plc result =>
    validateOptionalText result.controllerReference "PLC controller reference" maxReferenceLength
  | .conveyor result => do
    validateOptionalText result.controllerReference "conveyor controller reference"
      maxReferenceLength
    validateOptionalText result.observedZone "observed conveyor zone" maxReferenceLength
  | .robotics result => do
    validateText result.controllerReference "robot controller reference" maxReferenceLength
    validateText result.missionState "robot mission state" maxReferenceLength
  | .sortation result => do
    validateOptionalText result.controllerReference "sortation controller reference"
      maxReferenceLength
    validateText result.observedLane "observed sortation lane" maxReferenceLength
  | .printer result => validateText result.spoolJobId "print spool job ID" maxReferenceLength
  | .scale _ => .ok ()

/-- A result answers a command of its own class and has well formed fields. -/
def CommandResult.validateFor (result : CommandResult) (command : DeviceCommand) :
    Except CommandError Unit :=
  if result.deviceClass ≠ command.deviceClass then .error .resultKindMismatch
  else result.validateFields

/-- Life cycle states of a stored command. -/
inductive CommandState where
  | queued
  | executing
  | retryWait
  | recoveryWait
  | succeeded
  | failed
  | manualReview
  | resolvedManually
  | cancelled
  deriving DecidableEq

/-- The storage word of each state. -/
def CommandState.asStr : CommandState → String
  | .queued => "queued"
  | .executing => "executing"
  | .retryWait => "retry_wait"
  | .recoveryWait => "recovery_wait"
  | .succeeded => "succeeded"
  | .failed => "failed"
  | .manualReview => "manual_review"
  | .resolvedManually => "resolved_manually"
  | .cancelled => "cancelled"

/-- Terminal states are never left. -/
def CommandState.isTerminal : CommandState → Bool
  | .succeeded | .failed | .resolvedManually | .cancelled => true
  | .queued | .executing | .retryWait | .recoveryWait | .manualReview => false

/-- The states that a quarantine empties (the SQL list
`'queued', 'executing', 'retry_wait', 'recovery_wait'`). -/
def CommandState.isLive : CommandState → Bool
  | .queued | .executing | .retryWait | .recoveryWait => true
  | .succeeded | .failed | .manualReview | .resolvedManually | .cancelled => false

/-- A command as callers see it. -/
structure CommandRecord where
  request : CommandRequest
  state : CommandState
  /-- Execution attempts made so far. -/
  attemptCount : ℕ
  createdAt : DateTime
  /-- Time of the last change. -/
  updatedAt : DateTime
  /-- Time before which the command is not claimed. -/
  nextAttemptAt : DateTime
  /-- Result of a successful execution. -/
  result : Option CommandResult
  lastError : Option String
  /-- Note of an operator or probe that settled the command. -/
  resolutionNote : Option String
  deriving DecidableEq

/-- Outcome of a submission. -/
inductive SubmissionOutcome where
  | accepted (record : CommandRecord)
  /-- The same command was submitted before. -/
  | replayed (record : CommandRecord)
  deriving DecidableEq

end Wareboxes.EdgeCommands
