import Wareboxes.RustText
import Wareboxes.RustTime

/-!
# Identifiers, devices and control modes of the edge agent

Identifiers are trimmed, bounded and restricted to a safe alphabet when they
are built, and their type carries that check: a value that the source could
not construct has no counterpart here. The enumerations keep the storage words
of the database columns.
-/

namespace Wareboxes.EdgeTypes

open RustText RustTime

/-- The longest identifier, in bytes. -/
def maxIdentifierLength : ℕ := 128

/-- Errors of the constructors in this module. -/
inductive TypeError where
  /-- The text is empty or longer than the field admits. -/
  | invalidLength (field : String) (max : ℕ)
  /-- The text has a character outside the admitted alphabet. -/
  | invalidCharacters (field : String)
  /-- The display name is blank or longer than 200 bytes. -/
  | invalidDisplayName
  /-- The operator reason is blank or longer than 1,000 bytes. -/
  | invalidReason
  deriving DecidableEq

/-- The characters an identifier may have. -/
def identifierCharacter (c : Char) : Bool :=
  c.isAlphanum || c == '-' || c == '_' || c == '.' || c == ':' || c == '/' || c == '@'

/-- Trim an identifier and check its length and alphabet. -/
def validateIdentifier (value field : String) (max : ℕ) : Except TypeError String :=
  let value := trim value
  if isEmpty value || decide (max < len value) then .error (.invalidLength field max)
  else if !value.toList.all identifierCharacter then .error (.invalidCharacters field)
  else .ok value

/-- A checked identifier of one field. Only trimmed, bounded texts over the safe
alphabet have this type. -/
structure Identifier (field : String) (max : ℕ) where
  /-- The identifier's text. -/
  asStr : String
  /-- The text is accepted unchanged. -/
  checked : validateIdentifier asStr field max = .ok asStr
  deriving DecidableEq

/-- Each identifier type of the source is one field name and one length. -/
abbrev TenantId := Identifier "tenant ID" maxIdentifierLength

/-- Facility identifiers. -/
abbrev FacilityId := Identifier "facility ID" maxIdentifierLength

/-- Device identifiers. -/
abbrev DeviceId := Identifier "device ID" maxIdentifierLength

/-- Command identifiers. -/
abbrev CommandId := Identifier "command ID" maxIdentifierLength

/-- Correlation identifiers. -/
abbrev CorrelationId := Identifier "correlation ID" maxIdentifierLength

/-- Operator and process identifiers. -/
abbrev ActorId := Identifier "actor ID" maxIdentifierLength

/-- Idempotency keys. -/
abbrev IdempotencyKey := Identifier "idempotency key" 200

/-- The device families that have a command language. -/
inductive DeviceClass where
  | plc
  | conveyor
  | robotics
  | sortation
  | printer
  | scale
  deriving DecidableEq

/-- The registered, immutable part of a device. -/
structure DeviceDescriptor where
  tenantId : TenantId
  facilityId : FacilityId
  deviceId : DeviceId
  /-- Command language of the device. -/
  deviceClass : DeviceClass
  /-- Name shown to operators. -/
  displayName : String
  deriving DecidableEq

/-- A display name has to have visible text of at most 200 bytes. -/
def DeviceDescriptor.validate (descriptor : DeviceDescriptor) : Except TypeError Unit :=
  let trimmed := trim descriptor.displayName
  if isEmpty trimmed || decide (200 < len trimmed) then .error .invalidDisplayName else .ok ()

/-- Who may move a device. -/
inductive ControlMode where
  | disabled
  | automatic
  | manualFallback
  deriving DecidableEq

/-- What the last heartbeat said about a device. -/
inductive HealthState where
  | unknown
  | healthy
  | degraded
  | offline
  | faulted
  deriving DecidableEq

/-- The storage word of each health state. -/
def HealthState.asStr : HealthState → String
  | .unknown => "unknown"
  | .healthy => "healthy"
  | .degraded => "degraded"
  | .offline => "offline"
  | .faulted => "faulted"

/-- Automation continues on healthy and degraded devices only. -/
def HealthState.permitsAutomaticWork : HealthState → Bool
  | .healthy | .degraded => true
  | .unknown | .offline | .faulted => false

/-- Operator control of a device. Resuming carries the confirmation that the
physical safety checklist was done, which has no content of its own. -/
inductive ControlAction where
  | disable
  | enterManualFallback
  | resumeAutomation

/-- The mode each action leads to. -/
def ControlAction.targetMode : ControlAction → ControlMode
  | .disable => .disabled
  | .enterManualFallback => .manualFallback
  | .resumeAutomation => .automatic

/-- A device as callers see it. -/
structure DeviceStatus where
  descriptor : DeviceDescriptor
  controlMode : ControlMode
  controlReason : String
  /-- Author of the last control change. -/
  controlActor : ActorId
  controlChangedAt : DateTime
  /-- Last reported health. -/
  health : HealthState
  /-- Message of the last heartbeat. -/
  healthMessage : Option String
  lastHeartbeatAt : Option DateTime
  /-- Consecutive heartbeats that did not permit automatic work. -/
  consecutiveHealthFailures : ℕ

/-- Trim an operator's reason and check its length. -/
def validateReason (reason : String) : Except TypeError String :=
  let reason := trim reason
  if isEmpty reason || decide (1000 < len reason) then .error .invalidReason else .ok reason

end Wareboxes.EdgeTypes
