import Wareboxes.AgentEngine
import Wareboxes.ClaimTracking

/-!
# Runs of the engine

An engine settles a claim by what its adapters answer. This module says which
completions it can choose for a claim, whatever the adapters and the store
reply, and which calls belong to runs of engines with one configuration next
to any calls of operators and other processes.
-/

namespace Wareboxes.EngineRuns

open RustTime EdgeTypes EdgeCommands EdgeAdapters EdgeClaims EdgeStoreCalls AgentEngine
open CallPrograms.Prog EdgeRuns LabelledRuns

/-- The completions that an engine chooses for a claim. -/
inductive EngineCompletion (config : EngineConfig) (claim : ClaimedCommand) :
    Completion → Prop where
  | success (result : CommandResult) : EngineCompletion config claim (.success result)
  /-- The command may be tried again, within the budgets of the settings. -/
  | retryable (message : String) (nextAttemptAt : DateTime) (agent : ActorId) :
      EngineCompletion config claim (.retryable message nextAttemptAt
        ⟨config.maxAttempts, config.maxRecoveryProbes⟩ agent)
  /-- The device rejected an execution. -/
  | permanent (message : String) (hkind : claim.kind = .execute) :
      EngineCompletion config claim (.permanent message)
  /-- Nobody knows what the device did. -/
  | ambiguous (message : String) (nextAttemptAt : DateTime) (agent : ActorId) :
      EngineCompletion config claim (.ambiguous message nextAttemptAt agent)
  /-- A probe found the command in work, within the budget of probes. -/
  | deferRecovery (message : String) (nextAttemptAt : DateTime)
      (hkind : claim.kind = .recoveryProbe)
      (hprobes : claim.recoveryProbeCount < config.maxRecoveryProbes) :
      EngineCompletion config claim (.deferRecovery message nextAttemptAt)
  /-- A probe found nothing, within the budget of executions. -/
  | notFound (hkind : claim.kind = .recoveryProbe)
      (hattempts : claim.envelope.attempt < config.maxAttempts) :
      EngineCompletion config claim .notFound
  /-- An operator has to look at the command. -/
  | manualReview (reason : String) (agent : ActorId) :
      EngineCompletion config claim (.manualReview reason agent)

/-- The calls of an engine that works on a claim: it completes this claim only and claims no
other. -/
def SettlesClaim (config : EngineConfig) (claim : ClaimedCommand) (now : DateTime) :
    EngineCall → Prop
  | .store (.complete other now' completion) =>
    other = claim ∧ now' = now ∧ EngineCompletion config claim completion
  | .store (.claimNext ..) => False
  | _ => True

variable {engine : EdgeEngine} {claim : ClaimedCommand} {now : DateTime} {summary : RunSummary}
  {admits : EngineCall → Prop} {call : StoreCall} {message : String} {config : EngineConfig}
  {request : EngineCall}

theorem onlyIssues_callStore (h : admits (.store call)) : OnlyIssues admits (callStore call) := by
  refine onlyIssues_call h fun reply => ?_
  match reply with
  | .ok answer => exact onlyIssues_done answer
  | .error (.error reason) => exact onlyIssues_fail _
  | .error .panic => exact onlyIssues_fail _

theorem onlyIssues_nextAttemptAt {attempt : ℕ} :
    OnlyIssues admits (engine.nextAttemptAt attempt now) := by
  unfold EdgeEngine.nextAttemptAt
  cases now.checkedAdd (engine.config.retryDelayAt attempt) with
  | some next => exact onlyIssues_done next
  | none => exact onlyIssues_fail _

theorem reviewClaim_settles {reason : String} :
    OnlyIssues (SettlesClaim engine.config claim now)
      (engine.reviewClaim claim reason now summary) :=
  onlyIssues_bind (onlyIssues_callStore ⟨rfl, rfl, .manualReview reason engine.agentId⟩)
    fun _ => onlyIssues_done _

theorem retryClaim_settles :
    OnlyIssues (SettlesClaim engine.config claim now)
      (engine.retryClaim claim message now summary) :=
  onlyIssues_bind onlyIssues_nextAttemptAt fun next =>
    onlyIssues_bind (onlyIssues_callStore ⟨rfl, rfl, .retryable message next engine.agentId⟩)
      fun _ => onlyIssues_done _

theorem completeClaim_settles {result : CommandResult} :
    OnlyIssues (SettlesClaim config claim now) (completeClaim claim result now summary) :=
  onlyIssues_bind (onlyIssues_callStore ⟨rfl, rfl, .success result⟩) fun _ => onlyIssues_done _

theorem handleFailure_settles {failure : AdapterFailure} :
    OnlyIssues (SettlesClaim engine.config claim now)
      (engine.handleFailure claim failure now summary) := by
  unfold EdgeEngine.handleFailure
  cases failure.failureClass with
  | retryable => exact retryClaim_settles
  | permanent =>
    split_ifs with hprobe
    · exact reviewClaim_settles
    · have hexecute : claim.kind = .execute := by
        cases hkind : claim.kind with
        | execute => rfl
        | recoveryProbe => exact absurd hkind hprobe
      exact onlyIssues_bind
        (onlyIssues_callStore ⟨rfl, rfl, .permanent failure.message hexecute⟩)
        fun _ => onlyIssues_done _
  | ambiguous =>
    exact onlyIssues_bind onlyIssues_nextAttemptAt fun next =>
      onlyIssues_bind
        (onlyIssues_callStore ⟨rfl, rfl, .ambiguous failure.message next engine.agentId⟩)
        fun _ => onlyIssues_done _

theorem handleUnhealthy_settles {health : HealthReport} :
    OnlyIssues (SettlesClaim engine.config claim now)
      (engine.handleUnhealthy claim health now summary) := by
  unfold EdgeEngine.handleUnhealthy
  split_ifs
  · exact reviewClaim_settles
  · exact retryClaim_settles

theorem handleRecovery_settles {outcome : RecoveryOutcome} (hprobe : claim.kind = .recoveryProbe) :
    OnlyIssues (SettlesClaim engine.config claim now)
      (engine.handleRecovery claim outcome now summary) := by
  unfold EdgeEngine.handleRecovery
  cases outcome with
  | completed => exact completeClaim_settles
  | stillProcessing =>
    dsimp only
    split_ifs with hbudget
    · exact reviewClaim_settles
    · exact onlyIssues_bind onlyIssues_nextAttemptAt fun next =>
        onlyIssues_bind (onlyIssues_callStore
          ⟨rfl, rfl, .deferRecovery _ next hprobe (Nat.lt_of_not_le hbudget)⟩)
          fun _ => onlyIssues_done _
  | notFound =>
    dsimp only
    split_ifs with hbudget
    · exact reviewClaim_settles
    · exact onlyIssues_bind
        (onlyIssues_callStore ⟨rfl, rfl, .notFound hprobe (Nat.lt_of_not_le hbudget)⟩)
        fun _ => onlyIssues_done _
  | manualReview => exact reviewClaim_settles

theorem deliverClaim_settles :
    OnlyIssues (SettlesClaim engine.config claim now)
      (engine.deliverClaim claim now summary) := by
  unfold EdgeEngine.deliverClaim
  cases hkind : claim.kind with
  | execute =>
    refine onlyIssues_call trivial fun reply => ?_
    match reply with
    | .ok result => exact completeClaim_settles
    | .error failure => exact handleFailure_settles
  | recoveryProbe =>
    refine onlyIssues_call trivial fun reply => ?_
    match reply with
    | .ok outcome => exact handleRecovery_settles hkind
    | .error failure => exact handleFailure_settles

theorem checkHealth_settles :
    OnlyIssues (SettlesClaim engine.config claim now)
      (engine.checkHealth claim now summary) := by
  refine onlyIssues_call trivial fun reply => ?_
  match reply with
  | .ok health =>
    refine onlyIssues_bind (onlyIssues_ofExcept _) fun _ =>
      onlyIssues_bind (onlyIssues_callStore trivial) fun _ => ?_
    split_ifs
    · exact deliverClaim_settles
    · exact handleUnhealthy_settles
  | .error failure =>
    exact onlyIssues_bind (onlyIssues_callStore trivial) fun _ => handleFailure_settles

/-- An engine that works on a claim completes this claim only, and chooses the completion by
its settings. -/
theorem processClaim_settles :
    OnlyIssues (SettlesClaim engine.config claim now)
      (engine.processClaim claim now summary) := by
  unfold EdgeEngine.processClaim
  cases engine.adapters.get claim.envelope.request.deviceId with
  | none => exact reviewClaim_settles
  | some =>
    dsimp only
    split_ifs
    · exact reviewClaim_settles
    · refine onlyIssues_call trivial fun capabilities => ?_
      split_ifs
      · exact reviewClaim_settles
      · exact checkHealth_settles

/-- The calls of engines with these settings, and any calls of others: claims are made and
completed by engines, with whatever answers of the adapters. -/
def ConfiguredCall (config : EngineConfig) : StoreCall → Prop
  | .claimNext _ lease maxAttempts => lease = config.lease ∧ maxAttempts = config.maxAttempts
  | .complete claim now completion =>
    ∃ (engine : EdgeEngine) (summary : RunSummary), engine.config = config ∧
      Issues (engine.processClaim claim now summary) (.store (.complete claim now completion))
  | _ => True

/-- A call of a run of engines with one configuration. -/
def EngineAction (config : EngineConfig) (σ : EdgeState) (action : EdgeAction) : Prop :=
  Honest σ action ∧ ConfiguredCall config action.call

theorem engineCompletion_of_configured {completion : Completion}
    (h : ConfiguredCall config (.complete claim now completion)) :
    EngineCompletion config claim completion := by
  obtain ⟨engine, summary, rfl, hissues⟩ := h
  exact (processClaim_settles _ hissues).2.2

section Programs

/-- The store calls of a program are calls of engines with these settings. -/
def ConfiguredBy (config : EngineConfig) : EngineCall → Prop
  | .store call => ConfiguredCall config call
  | _ => True

theorem processClaim_configured :
    OnlyIssues (ConfiguredBy engine.config) (engine.processClaim claim now summary) := by
  intro request hissues
  have hsettles := processClaim_settles request hissues
  cases request with
  | store call =>
    cases call with
    | complete other now' completion =>
      obtain ⟨rfl, rfl, -⟩ := hsettles
      exact ⟨engine, summary, rfl, hissues⟩
    | claimNext => exact hsettles.elim
    | _ => trivial
  | _ => trivial

theorem runBatch_configured (remaining : ℕ) (summary : RunSummary) :
    OnlyIssues (ConfiguredBy engine.config) (engine.runBatch now remaining summary) := by
  induction remaining generalizing summary with
  | zero => exact onlyIssues_done _
  | succ remaining ih =>
    refine onlyIssues_bind (onlyIssues_callStore ⟨rfl, rfl⟩) fun claimed => ?_
    match claimed with
    | none => exact onlyIssues_done _
    | some claim => exact onlyIssues_bind processClaim_configured ih

theorem validateSubmission_configured {request : CommandRequest} :
    OnlyIssues (ConfiguredBy config) (engine.validateSubmission request) := by
  refine onlyIssues_bind (onlyIssues_ofExcept _) fun _ => ?_
  cases engine.adapters.get request.deviceId with
  | none => exact onlyIssues_fail _
  | some descriptor =>
    refine onlyIssues_bind (onlyIssues_callStore trivial) fun durable => ?_
    split_ifs
    · exact onlyIssues_fail _
    · refine onlyIssues_call trivial fun capabilities => ?_
      split_ifs
      · exact onlyIssues_fail _
      · exact onlyIssues_done _

theorem refreshEach_configured (devices : List DeviceId) :
    OnlyIssues (ConfiguredBy config) (refreshEach now devices) := by
  induction devices with
  | nil => exact onlyIssues_done _
  | cons device rest ih =>
    refine onlyIssues_bind (onlyIssues_call trivial fun reply => ?_) fun _ =>
      onlyIssues_bind ih fun _ => onlyIssues_done _
    match reply with
    | .ok health =>
      exact onlyIssues_bind (onlyIssues_ofExcept _) fun _ => onlyIssues_callStore trivial
    | .error failure => exact onlyIssues_callStore trivial

/-- Whatever the store and the adapters answer, the programs of an engine only make store calls
that the runs of engines with its settings consist of. -/
theorem programs_configured (engine : EdgeEngine) (request : CommandRequest)
    (delivery : EdgeTables.CloudDelivery) (now : DateTime) :
    OnlyIssues (ConfiguredBy engine.config) (engine.runOnce now) ∧
      OnlyIssues (ConfiguredBy engine.config) (engine.submit request now) ∧
      OnlyIssues (ConfiguredBy engine.config) (engine.submitCloudDelivery request delivery now) ∧
      OnlyIssues (ConfiguredBy engine.config) (engine.refreshHeartbeats now) :=
  ⟨onlyIssues_bind (onlyIssues_callStore trivial) fun _ => runBatch_configured _ _,
    onlyIssues_bind validateSubmission_configured fun _ => onlyIssues_callStore trivial,
    onlyIssues_bind validateSubmission_configured fun _ => onlyIssues_callStore trivial,
    refreshEach_configured _⟩

end Programs

theorem returns_callStore (answer : call.Answer) : Returns (callStore call) answer :=
  .later (.ok answer) .here

/-- A failure that leaves the outcome open is settled as ambiguous. -/
theorem handleFailure_ambiguous {next : DateTime}
    (hnext : now.checkedAdd (engine.config.retryDelayAt (retryOrdinal claim)) = some next) :
    Issues (engine.handleFailure claim ⟨.ambiguous, message⟩ now summary)
      (.store (.complete claim now (.ambiguous message next engine.agentId))) := by
  have hreturns : Returns (engine.nextAttemptAt (retryOrdinal claim) now) next := by
    unfold EdgeEngine.nextAttemptAt
    rw [hnext]
    exact .here
  exact issues_bind_later hreturns (issues_bind_first .here)

theorem checkHealth_delivers (status : DeviceStatus)
    (h : Issues (engine.deliverClaim claim now summary) request) :
    Issues (engine.checkHealth claim now summary) request := by
  refine .later (.ok ⟨.healthy, none, []⟩) ?_
  have hstored : Returns (callStore
      (.recordHeartbeat claim.envelope.request.deviceId ⟨.healthy, none, []⟩ now)) status :=
    returns_callStore _
  exact issues_bind_later .here (issues_bind_later hstored h)

/-- An engine works on a claim whose adapter is registered as the command expects it. -/
theorem processClaim_delivers {descriptor : DeviceDescriptor}
    (hadapter : engine.adapters.get claim.envelope.request.deviceId = some descriptor)
    (htenant : descriptor.tenantId = claim.envelope.request.tenantId)
    (hfacility : descriptor.facilityId = claim.envelope.request.facilityId)
    (hclass : descriptor.deviceClass = claim.envelope.request.command.deviceClass)
    (status : DeviceStatus) (h : Issues (engine.deliverClaim claim now summary) request) :
    Issues (engine.processClaim claim now summary) request := by
  unfold EdgeEngine.processClaim
  rw [hadapter]
  dsimp only
  rw [if_neg (by simp [htenant, hfacility, hclass])]
  refine .later (⟨true, true⟩ : AdapterCapabilities) ?_
  rw [if_neg (by cases claim.envelope.request.recoveryPolicy <;> simp [missingRecoveryCapability])]
  exact checkHealth_delivers status h

section Facility

/-- Settings that allow one execution and one probe. -/
def scaleConfig : EngineConfig :=
  { lease := oneSecond
    retryDelay := ⟨10000000, by decide⟩
    retryDelayCap := ⟨10000000, by decide⟩
    maxAttempts := 1
    maxRecoveryProbes := 1
    batchSize := 10 }

/-- The engine of the packing scale. -/
def scaleEngine : EdgeEngine :=
  { adapters := ⟨⟨[packingScale], by decide⟩⟩
    agentId := ⟨"edge-agent", by decide +kernel⟩
    config := scaleConfig
    checked := by decide }

/-- The state of the packing scale as the store would report it. -/
def scaleStatus : DeviceStatus :=
  EdgeTransitions.statusOf
    (EdgeOperations.newDeviceRow packingScale supervisor "installed" (atMillis 0))

/-- Totals before the first claim. -/
def noTotals : RunSummary := ⟨0, 0, 0, 0, 0, 0, 0, 0⟩

/-- The scale does not answer, and nobody knows what it did. -/
def unanswered (policy : RecoveryPolicy) : EdgeAction :=
  ⟨⟨"token-2", "attempt-2"⟩, .complete (scaleClaim policy) (atMillis 10)
    (.ambiguous "no answer" (atMillis 20) scaleEngine.agentId)⟩

theorem unanswered_configured (policy : RecoveryPolicy) :
    ConfiguredCall scaleConfig (unanswered policy).call := by
  have hnext : (atMillis 10).checkedAdd (scaleEngine.config.retryDelayAt
      (retryOrdinal (scaleClaim policy))) = some (atMillis 20) := by
    cases policy <;> decide
  have hadapter : scaleEngine.adapters.get (scaleClaim policy).envelope.request.deviceId =
      some packingScale := by
    cases policy <;> decide
  refine ⟨scaleEngine, noTotals, rfl, processClaim_delivers hadapter rfl rfl rfl scaleStatus ?_⟩
  exact .later (.error ⟨.ambiguous, "no answer"⟩) (handleFailure_ambiguous hnext)

theorem claimedRun_engine (policy : RecoveryPolicy) :
    Replays EdgeState.next (EngineAction scaleConfig) (claimedRun policy) .initial := by
  obtain ⟨hregister, hcontrol, hsubmit, hclaim, _⟩ := claimedRun_honest policy
  exact ⟨⟨hregister, trivial⟩, ⟨hcontrol, trivial⟩, ⟨hsubmit, trivial⟩, ⟨hclaim, rfl, rfl⟩, trivial⟩

end Facility

end Wareboxes.EngineRuns
