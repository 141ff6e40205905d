import Wareboxes.CallPrograms
import Wareboxes.EdgeStoreCalls

/-!
# The engine of the edge agent

The engine is a program over the calls of the store and of the adapters. It
recovers expired leases, claims due commands up to its batch size, and settles
each claim by what the adapter answers. The program fixes which completion
follows which answer; what a call does is left to the semantics.
-/

namespace Wareboxes.AgentEngine

open RustTime EdgeTypes EdgeCommands EdgeAdapters
open Transactions EdgeTables EdgeClaims EdgeStoreCalls
open CallPrograms

/-- Settings of the engine. Counts are unsigned 32-bit numbers. -/
structure EngineConfig where
  /-- How long a claim holds its command. -/
  lease : Duration
  /-- Base delay between tries. -/
  retryDelay : Duration
  /-- Longest delay between tries. -/
  retryDelayCap : Duration
  /-- Execution attempts of a command. -/
  maxAttempts : ℕ
  maxRecoveryProbes : ℕ
  batchSize : ℕ

/-- Errors of the engine. -/
inductive EngineError where
  /-- The store refused a call. -/
  | store (reason : StoreError)
  /-- The submitted command is not valid. -/
  | command (reason : CommandError)
  /-- The settings are not valid. -/
  | invalidConfig (detail : String)
  | adapterNotRegistered (deviceId : String)
  /-- The adapter does not match the stored device. -/
  | adapterConfigurationMismatch
  /-- The adapter cannot honour the recovery policy. -/
  | unsupportedRecoveryPolicy
  /-- The next attempt lies outside the representable time. -/
  | timeOverflow

/-- The checks on the settings. -/
def EngineConfig.validate (config : EngineConfig) : Except EngineError Unit :=
  if config.lease.nanos = 0 then .error (.invalidConfig "lease must be positive")
  else if config.retryDelay.nanos = 0 then .error (.invalidConfig "retry delay must be positive")
  else if config.retryDelayCap.nanos < config.retryDelay.nanos then
    .error (.invalidConfig "retry delay cap must not be shorter than the base delay")
  else if config.maxAttempts = 0 then .error (.invalidConfig "maximum attempts must be positive")
  else if config.maxRecoveryProbes = 0 then
    .error (.invalidConfig "maximum recovery probes must be positive")
  else if ¬(1 ≤ config.batchSize ∧ config.batchSize ≤ 1000) then
    .error (.invalidConfig "batch size must be between 1 and 1,000")
  else .ok ()

/-- An engine, without its store. Only valid settings make one. -/
structure EdgeEngine where
  adapters : AdapterRegistry
  /-- Name of the agent in the audit trails. -/
  agentId : ActorId
  config : EngineConfig
  /-- The settings passed their checks. -/
  checked : config.validate.isOk = true

variable {config : EngineConfig}

theorem EngineConfig.maxAttempts_pos (h : config.validate.isOk = true) :
    0 < config.maxAttempts := by
  unfold EngineConfig.validate at h
  split_ifs at h <;> first | omega | cases h

theorem EngineConfig.maxRecoveryProbes_pos (h : config.validate.isOk = true) :
    0 < config.maxRecoveryProbes := by
  unfold EngineConfig.validate at h
  split_ifs at h <;> first | omega | cases h

/-- Calls of the engine: the store, and the adapter of a device. -/
inductive EngineCall where
  | store (call : StoreCall)
  | capabilities (deviceId : DeviceId)
  | heartbeat (deviceId : DeviceId)
  | execute (deviceId : DeviceId) (envelope : CommandEnvelope)
  | recover (deviceId : DeviceId) (envelope : CommandEnvelope)

/-- Replies to the calls of the engine. -/
def EngineCall.Reply : EngineCall → Type
  | .store call => call.Reply
  | .capabilities _ => AdapterCapabilities
  | .heartbeat _ => Except AdapterFailure HealthReport
  | .execute .. => Except AdapterFailure CommandResult
  | .recover .. => Except AdapterFailure RecoveryOutcome

/-- A program of the engine. A panic of a call is a panic of the program. -/
abbrev EngineProg := Prog EngineCall EngineCall.Reply (Halt EngineError)

/-- Call the store; its errors are errors of the engine. -/
def callStore (call : StoreCall) : EngineProg call.Answer :=
  .call (.store call) fun reply =>
    match reply with
    | .ok answer => .done answer
    | .error (.error reason) => .fail (.error (.store reason))
    | .error .panic => .fail .panic

/-- Totals of a run. -/
structure RunSummary where
  recoveredLeases : ℕ
  claimed : ℕ
  succeeded : ℕ
  retryableFailures : ℕ
  permanentFailures : ℕ
  ambiguousOutcomes : ℕ
  recoveryProbes : ℕ
  manualReviews : ℕ

/-- The budgets passed to a retryable failure. -/
def EdgeEngine.retryLimits (engine : EdgeEngine) : RetryLimits :=
  ⟨engine.config.maxAttempts, engine.config.maxRecoveryProbes⟩

/-- The position of a claim in its own series of tries. -/
def retryOrdinal (claim : ClaimedCommand) : ℕ :=
  match claim.kind with
  | .execute => claim.envelope.attempt
  | .recoveryProbe => claim.recoveryProbeCount

/-- The delay before the next try: it doubles from try to try up to the cap. -/
def EngineConfig.retryDelayAt (config : EngineConfig) (attempt : ℕ) : Duration :=
  ((config.retryDelay.checkedMul (2 ^ min (attempt - 1) 31)).getD config.retryDelayCap).min
    config.retryDelayCap

/-- The time of the next try. -/
def EdgeEngine.nextAttemptAt (engine : EdgeEngine) (attempt : ℕ) (now : DateTime) :
    EngineProg DateTime :=
  match now.checkedAdd (engine.config.retryDelayAt attempt) with
  | some next => .done next
  | none => .fail (.error .timeOverflow)

/-- Send a claim to an operator. -/
def EdgeEngine.reviewClaim (engine : EdgeEngine) (claim : ClaimedCommand) (reason : String)
    (now : DateTime) (summary : RunSummary) : EngineProg RunSummary := do
  let _ ← callStore (.complete claim now (.manualReview reason engine.agentId))
  pure { summary with manualReviews := summary.manualReviews + 1 }

/-- Settle a claim that may be tried again. -/
def EdgeEngine.retryClaim (engine : EdgeEngine) (claim : ClaimedCommand) (message : String)
    (now : DateTime) (summary : RunSummary) : EngineProg RunSummary := do
  let next ← engine.nextAttemptAt (retryOrdinal claim) now
  let exhausted : Option Bool ← callStore
    (.complete claim now (.retryable message next engine.retryLimits engine.agentId))
  pure { summary with
    retryableFailures := summary.retryableFailures + 1
    manualReviews := summary.manualReviews + if exhausted = some true then 1 else 0 }

/-- Settle a claim whose adapter call failed. -/
def EdgeEngine.handleFailure (engine : EdgeEngine) (claim : ClaimedCommand)
    (failure : AdapterFailure) (now : DateTime) (summary : RunSummary) : EngineProg RunSummary :=
  match failure.failureClass with
  | .retryable => engine.retryClaim claim failure.message now summary
  | .permanent =>
    if claim.kind = .recoveryProbe then
      engine.reviewClaim claim ("recovery probe failed permanently: " ++ failure.message) now
        summary
    else do
      let _ ← callStore (.complete claim now (.permanent failure.message))
      pure { summary with permanentFailures := summary.permanentFailures + 1 }
  | .ambiguous => do
    let next ← engine.nextAttemptAt (retryOrdinal claim) now
    let review : Option Bool ← callStore
      (.complete claim now (.ambiguous failure.message next engine.agentId))
    pure { summary with
      ambiguousOutcomes := summary.ambiguousOutcomes + 1
      manualReviews := summary.manualReviews + if review = some true then 1 else 0 }

/-- Settle a claim with the result of the device. -/
def completeClaim (claim : ClaimedCommand) (result : CommandResult) (now : DateTime)
    (summary : RunSummary) : EngineProg RunSummary := do
  let _ ← callStore (.complete claim now (.success result))
  pure { summary with succeeded := summary.succeeded + 1 }

/-- Settle a claim of a device that must not work now. -/
def EdgeEngine.handleUnhealthy (engine : EdgeEngine) (claim : ClaimedCommand)
    (health : HealthReport) (now : DateTime) (summary : RunSummary) : EngineProg RunSummary :=
  let message := health.message.getD ("device health is " ++ health.state.asStr)
  if health.state = .faulted then engine.reviewClaim claim message now summary
  else engine.retryClaim claim message now summary

/-- Deliver the command of an execution claim. -/
def EdgeEngine.executeClaim (engine : EdgeEngine) (claim : ClaimedCommand) (now : DateTime)
    (summary : RunSummary) : EngineProg RunSummary :=
  .call (.execute claim.envelope.request.deviceId claim.envelope) fun reply =>
    match reply with
    | .ok result => completeClaim claim result now summary
    | .error failure => engine.handleFailure claim failure now summary

/-- Settle a probe by what the device knows of the earlier delivery. -/
def EdgeEngine.handleRecovery (engine : EdgeEngine) (claim : ClaimedCommand)
    (outcome : RecoveryOutcome) (now : DateTime) (summary : RunSummary) : EngineProg RunSummary :=
  match outcome with
  | .completed result => completeClaim claim result now summary
  | .stillProcessing =>
    if engine.config.maxRecoveryProbes ≤ claim.recoveryProbeCount then
      engine.reviewClaim claim "downstream command exceeded its recovery-probe budget" now summary
    else do
      let next ← engine.nextAttemptAt claim.recoveryProbeCount now
      let _ ← callStore (.complete claim now
        (.deferRecovery "downstream command is still processing" next))
      pure summary
  | .notFound =>
    if engine.config.maxAttempts ≤ claim.envelope.attempt then
      engine.reviewClaim claim
        ("recovery found no downstream command, but the execution retry budget is " ++
          "exhausted") now summary
    else do
      let _ ← callStore (.complete claim now .notFound)
      pure summary
  | .manualReview reason => engine.reviewClaim claim reason now summary

/-- Ask the device about the command of a probe claim. -/
def EdgeEngine.probeClaim (engine : EdgeEngine) (claim : ClaimedCommand) (now : DateTime)
    (summary : RunSummary) : EngineProg RunSummary :=
  let summary := { summary with recoveryProbes := summary.recoveryProbes + 1 }
  .call (.recover claim.envelope.request.deviceId claim.envelope) fun reply =>
    match reply with
    | .ok outcome => engine.handleRecovery claim outcome now summary
    | .error failure => engine.handleFailure claim failure now summary

/-- Work on a claim whose device may work. -/
def EdgeEngine.deliverClaim (engine : EdgeEngine) (claim : ClaimedCommand) (now : DateTime)
    (summary : RunSummary) : EngineProg RunSummary :=
  match claim.kind with
  | .execute => engine.executeClaim claim now summary
  | .recoveryProbe => engine.probeClaim claim now summary

/-- Ask for the health of the device before working on a claim. -/
def EdgeEngine.checkHealth (engine : EdgeEngine) (claim : ClaimedCommand) (now : DateTime)
    (summary : RunSummary) : EngineProg RunSummary :=
  .call (.heartbeat claim.envelope.request.deviceId) fun reply =>
    match reply with
    | .ok health => do
      Prog.ofExcept (health.validate.mapError fun failure =>
        .error (.store (.corruptRecord failure.display)))
      let _ ← callStore (.recordHeartbeat claim.envelope.request.deviceId health now)
      if health.state.permitsAutomaticWork then engine.deliverClaim claim now summary
      else engine.handleUnhealthy claim health now summary
    | .error failure => do
      let _ ← callStore (.recordHeartbeatFailure claim.envelope.request.deviceId failure now)
      engine.handleFailure claim failure now summary

/-- Whether an adapter lost the capability that a policy rests on. -/
def missingRecoveryCapability (policy : RecoveryPolicy) (capabilities : AdapterCapabilities) :
    Bool :=
  match policy with
  | .deviceDeduplicatedReplay => !capabilities.deviceSideDuplicateProtection
  | .probeThenRetry => !capabilities.recoveryProbe
  | .manualReview => false

/-- Settle one claim. -/
def EdgeEngine.processClaim (engine : EdgeEngine) (claim : ClaimedCommand) (now : DateTime)
    (summary : RunSummary) : EngineProg RunSummary :=
  match engine.adapters.get claim.envelope.request.deviceId with
  | none =>
    engine.reviewClaim claim "no adapter is registered for this durable device command" now summary
  | some descriptor =>
    if descriptor.tenantId ≠ claim.envelope.request.tenantId ∨
        descriptor.facilityId ≠ claim.envelope.request.facilityId ∨
        descriptor.deviceClass ≠ claim.envelope.request.command.deviceClass then
      engine.reviewClaim claim "adapter configuration changed after command persistence" now
        summary
    else
      .call (.capabilities claim.envelope.request.deviceId) fun capabilities =>
        if missingRecoveryCapability claim.envelope.request.recoveryPolicy capabilities then
          engine.reviewClaim claim
            "adapter recovery capabilities changed after command persistence" now summary
        else
          engine.checkHealth claim now summary

/-- Claim and settle commands until none is due or the batch is used up. -/
def EdgeEngine.runBatch (engine : EdgeEngine) (now : DateTime) :
    ℕ → RunSummary → EngineProg RunSummary
  | 0, summary => pure summary
  | remaining + 1, summary => do
    let claimed : Option ClaimedCommand ←
      callStore (.claimNext now engine.config.lease engine.config.maxAttempts)
    match claimed with
    | none => pure summary
    | some claim => do
      let summary ← engine.processClaim claim now
        { summary with claimed := summary.claimed + 1 }
      engine.runBatch now remaining summary

/-- One run of the engine. -/
def EdgeEngine.runOnce (engine : EdgeEngine) (now : DateTime) : EngineProg RunSummary := do
  let recovered : LeaseRecoverySummary ←
    callStore (.recoverExpiredLeases now engine.agentId)
  engine.runBatch now engine.config.batchSize
    { recoveredLeases :=
        recovered.replayable + recovered.probesRequired + recovered.manualReviews
      claimed := 0
      succeeded := 0
      retryableFailures := 0
      permanentFailures := 0
      ambiguousOutcomes := 0
      recoveryProbes := 0
      manualReviews := recovered.manualReviews }

/-- A submission has to fit the registered adapter, the stored device and the
capabilities that its policy rests on. -/
def EdgeEngine.validateSubmission (engine : EdgeEngine) (request : CommandRequest) :
    EngineProg Unit := do
  Prog.ofExcept (request.validate.mapError fun reason => .error (.command reason))
  match engine.adapters.get request.deviceId with
  | none => .fail (.error (.adapterNotRegistered request.deviceId.asStr))
  | some descriptor => do
    let durable : DeviceStatus ← callStore (.deviceStatus request.deviceId)
    if descriptor ≠ durable.descriptor ∨ descriptor.tenantId ≠ request.tenantId ∨
        descriptor.facilityId ≠ request.facilityId ∨
        descriptor.deviceClass ≠ request.command.deviceClass then
      .fail (.error .adapterConfigurationMismatch)
    else
      .call (.capabilities request.deviceId) fun capabilities =>
        if missingRecoveryCapability request.recoveryPolicy capabilities then
          .fail (.error .unsupportedRecoveryPolicy)
        else
          .done ()

/-- Submit a command from the facility. -/
def EdgeEngine.submit (engine : EdgeEngine) (request : CommandRequest) (now : DateTime) :
    EngineProg SubmissionOutcome := do
  engine.validateSubmission request
  callStore (.submit request now)

/-- Submit a command that the cloud delivered. -/
def EdgeEngine.submitCloudDelivery (engine : EdgeEngine) (request : CommandRequest)
    (delivery : CloudDelivery) (now : DateTime) : EngineProg SubmissionOutcome := do
  engine.validateSubmission request
  callStore (.submitCloudDelivery request delivery now)

/-- Ask one device for its health and store the answer. -/
def refreshHeartbeat (deviceId : DeviceId) (now : DateTime) : EngineProg DeviceStatus :=
  .call (.heartbeat deviceId) fun reply =>
    match reply with
    | .ok health => do
      Prog.ofExcept (health.validate.mapError fun failure =>
        .error (.store (.corruptRecord failure.display)))
      callStore (.recordHeartbeat deviceId health now)
    | .error failure => callStore (.recordHeartbeatFailure deviceId failure now)

/-- Ask every device of a list for its health. -/
def refreshEach (now : DateTime) : List DeviceId → EngineProg (List DeviceStatus)
  | [] => pure []
  | deviceId :: rest => do
    let status ← refreshHeartbeat deviceId now
    let others ← refreshEach now rest
    pure (status :: others)

/-- Ask every registered device for its health. -/
def EdgeEngine.refreshHeartbeats (engine : EdgeEngine) (now : DateTime) :
    EngineProg (List DeviceStatus) :=
  refreshEach now engine.adapters.deviceIds

end Wareboxes.AgentEngine
