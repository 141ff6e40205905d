import Wareboxes.EdgeCommands
import Wareboxes.KeyedTables

/-!
# The boundary between the engine and the device adapters

Adapters are outside the agent: the engine sees their capabilities and the
answers to its heartbeat, execution and recovery calls. A failure carries a
class, which decides how the engine settles the attempt.
-/

namespace Wareboxes.EdgeAdapters

open RustText EdgeTypes EdgeCommands KeyedTables

/-- The longest adapter message, in bytes. -/
def maxAdapterMessageLength : ℕ := 1000

/-- The most alarm codes a health report may carry. -/
def maxAlarmCodes : ℕ := 100

/-- What a downstream controller guarantees. -/
structure AdapterCapabilities where
  /-- The controller deduplicates stable command identities. -/
  deviceSideDuplicateProtection : Bool
  /-- The controller can be asked about an earlier command. -/
  recoveryProbe : Bool

/-- What an adapter knows about a failed call. -/
inductive AdapterFailureClass where
  /-- The controller did not accept the command. -/
  | retryable
  /-- The controller rejected the command. -/
  | permanent
  /-- It is unknown whether the controller accepted the command. -/
  | ambiguous

/-- The name of a class as its `Debug` form prints it. -/
def AdapterFailureClass.debug : AdapterFailureClass → String
  | .retryable => "Retryable"
  | .permanent => "Permanent"
  | .ambiguous => "Ambiguous"

/-- A failed adapter call. Its fields are public in the source, so any message is possible. -/
structure AdapterFailure where
  failureClass : AdapterFailureClass
  /-- Detail for operators. -/
  message : String

/-- The message shown for an adapter failure. -/
def AdapterFailure.display (failure : AdapterFailure) : String :=
  failure.failureClass.debug ++ " adapter failure: " ++ failure.message

/-- Answer of a successful heartbeat. -/
structure HealthReport where
  state : HealthState
  /-- Detail for operators. -/
  message : Option String
  alarmCodes : List String

/-- A health report has a bounded message and at most 100 alarm codes without whitespace. -/
def HealthReport.validate (report : HealthReport) : Except AdapterFailure Unit :=
  if report.message.any fun message => decide (maxAdapterMessageLength < len message) then
    .error ⟨.permanent, "health message exceeds 1,000 characters"⟩
  else if decide (maxAlarmCodes < report.alarmCodes.length) || report.alarmCodes.any fun code =>
      isEmpty (trim code) || decide (128 < len code) || code.toList.any isWhitespace then
    .error ⟨.permanent, "health report contains invalid alarm codes"⟩
  else .ok ()

/-- Answer of a successful recovery probe. -/
inductive RecoveryOutcome where
  /-- The earlier delivery completed. -/
  | completed (result : CommandResult)
  /-- The earlier delivery is still being worked on. -/
  | stillProcessing
  /-- The controller has no trace of the earlier delivery. -/
  | notFound
  /-- The controller cannot tell, an operator has to. -/
  | manualReview (reason : String)

/-- The adapters of an agent, by device. An adapter's descriptor does not change while
it is registered. -/
structure AdapterRegistry where
  adapters : KeyedTable DeviceDescriptor.deviceId

/-- The descriptor of the adapter of a device. -/
def AdapterRegistry.get (registry : AdapterRegistry) (deviceId : DeviceId) :
    Option DeviceDescriptor :=
  registry.adapters.find? deviceId

/-- The registered devices, in the order of their identifiers. -/
def AdapterRegistry.deviceIds (registry : AdapterRegistry) : List DeviceId :=
  (registry.adapters.rows.map DeviceDescriptor.deviceId).insertionSort fun first second =>
    first.asStr ≤ second.asStr

end Wareboxes.EdgeAdapters
