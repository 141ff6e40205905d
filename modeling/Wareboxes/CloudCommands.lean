import Wareboxes.RustText
import Wareboxes.RustTime

/-!
# The command language of the cloud

The cloud keeps commands in a language of its own, which the contract and the
domain share, and validates them when they are enqueued. Texts have to be
trimmed, without control characters and bounded in characters; numbers are
unsigned and may be zero before the validation. Results and failure messages
that come back from a facility are validated with the same text check.
-/

namespace Wareboxes.CloudCommands

open RustText RustTime

/-- The longest reference text, in characters. -/
def maxAutomationIdentifierLength : ℕ := 128

/-- The longest message, in characters. -/
def maxAutomationMessageLength : ℕ := 1000

/-- The longest print content, in bytes. -/
def maxAutomationPrintBytes : ℕ := 10 * 1024 * 1024

/-- Errors of the validation. -/
inductive AutomationError where
  /-- A text is blank, not trimmed, too long or has a control character. -/
  | invalidText (field : String) (max : ℕ)
  | printPayloadTooLarge
  /-- The scale timeout is zero or too long. -/
  | invalidScaleTimeout
  /-- The pulse is zero or too long. -/
  | invalidPulseDuration
  /-- A result of another device class was reported. -/
  | resultClassMismatch
  deriving DecidableEq

/-- The message shown for each error. -/
def AutomationError.display : AutomationError → String
  | .invalidText field max =>
    field ++ " must contain between 1 and " ++ toString max ++ " characters"
  | .printPayloadTooLarge =>
    "automation print content cannot exceed " ++ toString maxAutomationPrintBytes ++ " bytes"
  | .invalidScaleTimeout => "scale timeout must be between 1 and 120,000 milliseconds"
  | .invalidPulseDuration => "PLC pulse duration must be between 1 and 60,000 milliseconds"
  | .resultClassMismatch => "automation result class does not match its command"

/-- A text is trimmed, not empty, bounded in characters and without control characters. -/
def validateText (value field : String) (max : ℕ) : Except AutomationError Unit :=
  if isEmpty (trim value) || decide (trim value ≠ value) || decide (max < charCount value) ||
      value.toList.any isControl then .error (.invalidText field max)
  else .ok ()

/-- A reference is a text of at most 128 characters. -/
def validateReference (value field : String) : Except AutomationError Unit :=
  validateText value field maxAutomationIdentifierLength

/-- An optional reference is checked when it is present. -/
def validateOptionalReference (value : Option String) (field : String) :
    Except AutomationError Unit :=
  match value with
  | some text => validateReference text field
  | none => .ok ()

/-- `validate_automation_message`. -/
def validateAutomationMessage (message : String) : Except AutomationError Unit :=
  validateText message "automation message" maxAutomationMessageLength

/-- The device families. -/
inductive AutomationDeviceClass where
  | plc
  | conveyor
  | robotics
  | sortation
  | printer
  | scale
  deriving DecidableEq

/-- What may happen after an outcome that nobody observed. -/
inductive AutomationRecoveryPolicy where
  | deviceDeduplicatedReplay
  | probeThenRetry
  | manualReview
  deriving DecidableEq

/-- Who may move a device. -/
inductive AutomationControlMode where
  | disabled
  | automatic
  | manualFallback
  deriving DecidableEq

/-- What the last heartbeat said about a device. -/
inductive AutomationHealthState where
  | unknown
  | healthy
  | degraded
  | offline
  | faulted
  deriving DecidableEq

/-- What a robot mission is for. -/
inductive AutomationRobotMissionKind where
  | pick
  | place
  | transport
  | charge
  deriving DecidableEq

/-- Formats of printed documents. -/
inductive AutomationPrintFormat where
  | zpl
  | pdf
  | png
  | html
  deriving DecidableEq

/-- Units a scale can be asked for. -/
inductive AutomationWeightUnit where
  | gram
  | kilogram
  | pound
  deriving DecidableEq

/-- Commands of programmable controllers. -/
inductive AutomationPlcCommand where
  | setDiscreteOutput (point : String) (value : Bool)
  | pulseDiscreteOutput (point : String) (durationMs : UInt32)
  | resetFault (faultCode : String)
  deriving DecidableEq

/-- Commands of conveyors. -/
inductive AutomationConveyorCommand where
  | routeCarrier (carrierId destination : String)
  | startZone (zone : String)
  | stopZone (zone : String)
  deriving DecidableEq

/-- Commands of robots. -/
inductive AutomationRoboticsCommand where
  | dispatchMission (missionId : String) (missionKind : AutomationRobotMissionKind)
      (source destination : String) (payloadId : Option String)
  | cancelMission (missionId : String)
  deriving DecidableEq

/-- Commands of sorters. -/
inductive AutomationSortationCommand where
  | divert (trackingId chute : String)
  | reject (trackingId lane reasonCode : String)
  deriving DecidableEq

/-- Commands of printers. -/
inductive AutomationPrinterCommand where
  | printDocument (documentId : String) (format : AutomationPrintFormat) (content : String)
      (copies : UInt16)
  | cancelPrintJob (spoolJobId : String)
  deriving DecidableEq

/-- Commands of scales. -/
inductive AutomationScaleCommand where
  | readStableWeight (requestedUnit : AutomationWeightUnit) (timeoutMs : UInt32)
  | tare
  deriving DecidableEq

/-- A command in the language of its device class. -/
inductive AutomationDeviceCommand where
  | plc (command : AutomationPlcCommand)
  | conveyor (command : AutomationConveyorCommand)
  | robotics (command : AutomationRoboticsCommand)
  | sortation (command : AutomationSortationCommand)
  | printer (command : AutomationPrinterCommand)
  | scale (command : AutomationScaleCommand)
  deriving DecidableEq

/-- The class a command is meant for. -/
def AutomationDeviceCommand.deviceClass : AutomationDeviceCommand → AutomationDeviceClass
  | .plc _ => .plc
  | .conveyor _ => .conveyor
  | .robotics _ => .robotics
  | .sortation _ => .sortation
  | .printer _ => .printer
  | .scale _ => .scale

/-- Field checks of each command. -/
def AutomationDeviceCommand.validate : AutomationDeviceCommand → Except AutomationError Unit
  | .plc (.setDiscreteOutput point _) => validateReference point "PLC point"
  | .plc (.pulseDiscreteOutput point durationMs) => do
    validateReference point "PLC point"
    if ¬(1 ≤ durationMs.toNat ∧ durationMs.toNat ≤ 60000) then .error .invalidPulseDuration
    else .ok ()
  | .plc (.resetFault faultCode) => validateReference faultCode "PLC fault code"
  | .conveyor (.routeCarrier carrierId destination) => do
    validateReference carrierId "conveyor carrier ID"
    validateReference destination "conveyor destination"
  | .conveyor (.startZone zone) | .conveyor (.stopZone zone) =>
    validateReference zone "conveyor zone"
  | .robotics (.dispatchMission missionId _ source destination payloadId) => do
    validateReference missionId "robot mission ID"
    validateReference source "robot mission source"
    validateReference destination "robot mission destination"
    validateOptionalReference payloadId "robot payload ID"
  | .robotics (.cancelMission missionId) => validateReference missionId "robot mission ID"
  | .sortation (.divert trackingId chute) => do
    validateReference trackingId "sortation tracking ID"
    validateReference chute "sortation chute"
  | .sortation (.reject trackingId lane reasonCode) => do
    validateReference trackingId "sortation tracking ID"
    validateReference lane "sortation lane"
    validateReference reasonCode "sortation reason code"
  | .printer (.printDocument documentId _ content copies) => do
    validateReference documentId "print document ID"
    if isEmpty content then .error (.invalidText "print content" maxAutomationPrintBytes)
    else if maxAutomationPrintBytes < len content then .error .printPayloadTooLarge
    else if copies = 0 then .error (.invalidText "print copies" 65535)
    else .ok ()
  | .printer (.cancelPrintJob spoolJobId) => validateReference spoolJobId "print spool job ID"
  | .scale (.readStableWeight _ timeoutMs) =>
    if ¬(1 ≤ timeoutMs.toNat ∧ timeoutMs.toNat ≤ 120000) then .error .invalidScaleTimeout
    else .ok ()
  | .scale .tare => .ok ()

/-- Result of a controller command. -/
structure AutomationPlcResult where
  controllerReference : Option String
  outputState : Option Bool
  deriving DecidableEq

/-- Result of a conveyor command. -/
structure AutomationConveyorResult where
  controllerReference : Option String
  observedZone : Option String
  deriving DecidableEq

/-- Result of a robot command. -/
structure AutomationRoboticsResult where
  controllerReference : String
  missionState : String
  deriving DecidableEq

/-- Result of a sorter command. -/
structure AutomationSortationResult where
  controllerReference : Option String
  observedLane : String
  deriving DecidableEq

/-- Result of a printer command. -/
structure AutomationPrinterResult where
  spoolJobId : String
  deriving DecidableEq

/-- Result of a scale command. Masses are signed 64-bit milligrams. -/
structure AutomationScaleResult where
  massMilligrams : ℤ
  stable : Bool
  deriving DecidableEq

/-- A result in the language of its device class. -/
inductive AutomationCommandResult where
  | plc (result : AutomationPlcResult)
  | conveyor (result : AutomationConveyorResult)
  | robotics (result : AutomationRoboticsResult)
  | sortation (result : AutomationSortationResult)
  | printer (result : AutomationPrinterResult)
  | scale (result : AutomationScaleResult)
  deriving DecidableEq

/-- The class a result comes from. -/
def AutomationCommandResult.deviceClass : AutomationCommandResult → AutomationDeviceClass
  | .plc _ => .plc
  | .conveyor _ => .conveyor
  | .robotics _ => .robotics
  | .sortation _ => .sortation
  | .printer _ => .printer
  | .scale _ => .scale

/-- Field checks of each result. -/
def AutomationCommandResult.validateFields :
    AutomationCommandResult → Except AutomationError Unit
  | .plc result => validateOptionalReference result.controllerReference "PLC controller reference"
  | .conveyor result => do
    validateOptionalReference result.controllerReference "conveyor controller reference"
    validateOptionalReference result.observedZone "observed conveyor zone"
  | .robotics result => do
    validateReference result.controllerReference "robot controller reference"
    validateReference result.missionState "robot mission state"
  | .sortation result => do
    validateOptionalReference result.controllerReference "sortation controller reference"
    validateReference result.observedLane "observed sortation lane"
  | .printer result => validateReference result.spoolJobId "print spool job ID"
  | .scale _ => .ok ()

/-- A result answers a command of its own class and has well formed fields. -/
def AutomationCommandResult.validateFor (result : AutomationCommandResult)
    (command : AutomationDeviceCommand) : Except AutomationError Unit :=
  if result.deviceClass ≠ command.deviceClass then .error .resultClassMismatch
  else result.validateFields

/-- Life cycle states of a command at the cloud. -/
inductive AutomationCommandStatus where
  | queued
  | delivered
  | accepted
  | succeeded
  | failed
  | manualReview
  | resolvedManually
  | cancelled
  deriving DecidableEq

/-- Errors of the cloud's operations. The texts of database errors are not modelled. -/
inductive AppError where
  /-- The request is not well formed. -/
  | badRequest (message : String)
  /-- The resource does not exist for the caller. -/
  | notFound (resource : String)
  /-- The request contradicts what is stored. -/
  | conflict (message : String)
  /-- An idempotency key was used with another request. -/
  | idempotencyKeyReused
  /-- The database refused a statement. -/
  | database
  /-- The stored data is not what the code relies on. -/
  | internal (message : String)
  deriving DecidableEq

/-- Errors of the validation are answered as bad requests. -/
def orBadRequest {α : Type} (check : Except AutomationError α) : Except AppError α :=
  check.mapError fun error => .badRequest error.display

/-- A report of an edge agent, as the cloud's repository gets it. -/
structure ReportAutomationCommand where
  commandId : ℤ
  /-- The revision that the agent has seen. -/
  expectedRevision : ℕ
  status : AutomationCommandStatus
  result : Option AutomationCommandResult
  errorCode : Option String
  errorMessage : Option String
  occurredAt : DateTime
  deriving DecidableEq

/-- The code and the message of a failure are checked when they are present. -/
def validateOptionalMessage (value : Option String) : Except AppError Unit :=
  match value with
  | some message => orBadRequest (validateAutomationMessage message)
  | none => .ok ()

/-- `validate_report_shape`: a success has a result and no error, a failure or a review
has a message and no result. -/
def validateReportShape (command : ReportAutomationCommand) : Except AppError Unit :=
  if command.expectedRevision = 0 then .error (.badRequest "expected revision must be positive")
  else if command.status = .succeeded ∧ command.result.isSome = true ∧
      command.errorCode.isNone = true ∧ command.errorMessage.isNone = true then .ok ()
  else if (command.status = .failed ∨ command.status = .manualReview) ∧
      command.result.isNone = true ∧
      (command.errorMessage.any fun message => !isEmpty message) = true then do
    validateOptionalMessage command.errorCode
    validateOptionalMessage command.errorMessage
  else .error (.badRequest
    "automation report must be succeeded with a result, or failed/manual review with an error")

end Wareboxes.CloudCommands
