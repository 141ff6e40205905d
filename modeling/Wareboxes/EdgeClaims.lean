import Wareboxes.EdgeOperations

/-!
# Leases: claiming, completing and recovering commands

A claim takes the first due command of an automatic, idle device and opens an
attempt for it. The holder of the claim completes it in one of seven ways,
each of which is a record of what `finishClaim` writes. A lease that expires
without a completion is recovered according to the command's policy.
-/

namespace Wareboxes.EdgeClaims

open RustTime EdgeTypes EdgeCommands Transactions.Transaction EdgeTables EdgeTransitions

/-- What a runner holds while it works on a command. -/
structure ClaimedCommand where
  /-- Request and attempt number for the adapter. -/
  envelope : CommandEnvelope
  /-- Token that fences the completion. -/
  leaseToken : String
  /-- Attempt opened by the claim. -/
  attemptId : String
  /-- Execution or recovery probe. -/
  kind : ClaimKind
  recoveryProbeCount : ℕ
  deriving DecidableEq

/-- The command of a claim. -/
def ClaimedCommand.commandId (claim : ClaimedCommand) : String :=
  claim.envelope.request.commandId.asStr

/-- Budgets of a retryable failure. -/
structure RetryLimits where
  /-- Execution attempts a command may use. -/
  executionAttempts : ℕ
  /-- Recovery probes a command may use. -/
  recoveryProbes : ℕ

/-- Outcome of a lease recovery. -/
structure LeaseRecoverySummary where
  /-- Commands that wait for a replay. -/
  replayable : ℕ
  /-- Commands that wait for a probe. -/
  probesRequired : ℕ
  /-- Commands that wait for an operator. -/
  manualReviews : ℕ

/-- Where a policy sends an expired command, and why. -/
def expiryTarget : RecoveryPolicy → CommandState × String
  | .deviceDeduplicatedReplay =>
    (.retryWait, "execution lease expired; downstream duplicate protection permits replay")
  | .probeThenRetry =>
    (.recoveryWait, "execution lease expired; downstream state must be probed before replay")
  | .manualReview => (.manualReview, "execution lease expired with a manual-review recovery policy")

/-- Count one recovered command. -/
def LeaseRecoverySummary.count (summary : LeaseRecoverySummary) :
    RecoveryPolicy → LeaseRecoverySummary
  | .deviceDeduplicatedReplay => { summary with replayable := summary.replayable + 1 }
  | .probeThenRetry => { summary with probesRequired := summary.probesRequired + 1 }
  | .manualReview => { summary with manualReviews := summary.manualReviews + 1 }

/-- Whether the lease of an executing command ran out. -/
def leaseExpired (now : DateTime) (row : CommandRow) : Bool :=
  decide (row.state = .executing) &&
    row.leaseUntil.any fun lease => decide (lease ≤ now.timestampMillis.millis)

/-- The executing commands whose lease ran out. -/
def expiredCommands (now : DateTime) (s : Store) : List CommandRow :=
  (s.commands.rows.filter (leaseExpired now)).insertionSort submittedBefore

/-- A command that nobody can replay or probe takes its device out of automation. -/
def fallbackAfterExpiry (listed : CommandRow) (agent : ActorId) (now : DateTime) : StoreTx Unit :=
  if (expiryTarget listed.request.recoveryPolicy).1 = .manualReview then
    forceManualFallback listed.request.deviceId agent
      (expiryTarget listed.request.recoveryPolicy).2 now
  else
    pure ()

/-- Recover one expired command. -/
def recoverCommand (agent : ActorId) (now : DateTime) (listed : CommandRow)
    (summary : LeaseRecoverySummary) : StoreTx LeaseRecoverySummary := do
  abandonActiveAttempt listed.key (expiryTarget listed.request.recoveryPolicy).2 now
  transitionLeasedWithoutToken listed.key (expiryTarget listed.request.recoveryPolicy).1
    (some agent) (expiryTarget listed.request.recoveryPolicy).2 now
  fallbackAfterExpiry listed agent now
  pure (summary.count listed.request.recoveryPolicy)

/-- Recover every expired command. The list is read before the first one is moved. -/
def recoverExpiredLeases (now : DateTime) (agent : ActorId) : StoreTx LeaseRecoverySummary := do
  let expired ← gets (expiredCommands now)
  loop (recoverCommand agent now) expired ⟨0, 0, 0⟩

/-- The order `next_attempt_at_ms, created_at_ms, command_id`. -/
def dueBefore (first second : CommandRow) : Prop :=
  first.nextAttemptAt.millis < second.nextAttemptAt.millis ∨
    (first.nextAttemptAt.millis = second.nextAttemptAt.millis ∧ submittedBefore first second)

instance : DecidableRel dueBefore := fun _ _ => inferInstanceAs (Decidable (_ ∨ _))

/-- A device is automatic. -/
def isAutomatic (s : Store) (deviceId : DeviceId) : Bool :=
  (s.device? deviceId).any fun row => decide (row.controlMode = .automatic)

/-- A device executes a command. -/
def isBusy (s : Store) (deviceId : DeviceId) : Bool :=
  s.commands.rows.any fun row =>
    decide (row.request.deviceId = deviceId) && decide (row.state = .executing)

/-- The states a command is claimed from. -/
def isWaiting : CommandState → Bool
  | .queued | .retryWait | .recoveryWait => true
  | .executing | .succeeded | .failed | .manualReview | .resolvedManually | .cancelled => false

/-- Whether a command may be claimed. -/
def claimable (s : Store) (now : DateTime) (maxAttempts : ℕ) (row : CommandRow) : Bool :=
  isWaiting row.state && decide (row.nextAttemptAt.millis ≤ now.timestampMillis.millis) &&
    isAutomatic s row.request.deviceId &&
    (decide (row.state = .recoveryWait) || decide (row.attemptCount < maxAttempts)) &&
    !isBusy s row.request.deviceId

/-- The commands that may be claimed, first choice first. -/
def claimCandidates (now : DateTime) (maxAttempts : ℕ) (s : Store) : List CommandRow :=
  (s.commands.rows.filter (claimable s now maxAttempts)).insertionSort dueBefore

/-- A command that waits for recovery is probed, any other one is executed. -/
def claimKind (state : CommandState) : ClaimKind :=
  if state = .recoveryWait then .recoveryProbe else .execute

/-- The row of a claimed command. -/
def lease (kind : ClaimKind) (leaseToken : String) (leaseUntil : ℤ) (now : DateTime)
    (row : CommandRow) : CommandRow :=
  { row with
    state := .executing
    attemptCount := row.attemptCount + if kind = .execute then 1 else 0
    updatedAt := now.timestampMillis
    leaseToken := some leaseToken
    leaseUntil := some leaseUntil }

section LeaseFields

variable (kind : ClaimKind) (leaseToken : String) (leaseUntil : ℤ) (now : DateTime)
  (row : CommandRow)

theorem lease_key : (lease kind leaseToken leaseUntil now row).key = row.key := rfl

@[simp] theorem lease_request : (lease kind leaseToken leaseUntil now row).request = row.request :=
  rfl

@[simp] theorem lease_leaseToken :
    (lease kind leaseToken leaseUntil now row).leaseToken = some leaseToken := rfl

end LeaseFields

/-- The sequence number of the next attempt. -/
def nextSequence (commandId : String) (s : Store) : ℕ :=
  ((s.attemptsOf commandId).map AttemptRow.sequence).foldr max 0 + 1

/-- Recovery probes of a command. -/
def probeCount (commandId : String) (s : Store) : ℕ :=
  (s.attemptsOf commandId).countP fun row => decide (row.kind = .recoveryProbe)

/-- The row of a new attempt. -/
def newAttemptRow (attemptId commandId : String) (sequence executionAttempt : ℕ) (kind : ClaimKind)
    (now : DateTime) : AttemptRow :=
  { attemptId := attemptId
    commandId := commandId
    sequence := sequence
    executionAttempt := executionAttempt
    kind := kind
    state := .active
    startedAt := now.timestampMillis
    finishedAt := none
    message := none
    result := none }

/-- Open an attempt for a claimed command. -/
def openAttempt (attemptId commandId : String) (kind : ClaimKind) (executionAttempt : ℕ)
    (now : DateTime) : StoreTx Unit := do
  let sequence ← gets (nextSequence commandId)
  let table ← gets fun s => s.attempts.insert?
    (newAttemptRow attemptId commandId sequence executionAttempt kind now)
  let table ← orFail table .database
  modify fun s => { s with attempts := table }

/-- Claim one candidate. -/
def claimCandidate (leaseToken attemptId : String) (now : DateTime) (leaseUntil : ℤ)
    (candidate : CommandRow) : StoreTx ClaimedCommand := do
  updateCommand candidate.key (fun row => decide (row.state = candidate.state))
    (lease (claimKind candidate.state) leaseToken leaseUntil now) (lease_key _ _ _ now)
    (.leaseMismatch candidate.key)
  let record ← loadCommand candidate.key
  openAttempt attemptId candidate.key (claimKind candidate.state) record.attemptCount now
  let probes ← gets (probeCount candidate.key)
  appendCommandEvent candidate.key (some candidate.state) .executing none
    (claimKind candidate.state).asStr now
  let probes ← lift (checkedU32 probes "recovery probe count")
  pure ⟨⟨record.request, record.attemptCount⟩, leaseToken, attemptId,
    claimKind candidate.state, probes⟩

/-- The expiry of a lease that begins now. -/
def leaseExpiry (now : DateTime) (duration : Duration) : Except StoreError ℤ := do
  let millis ← durationMillis duration
  if now.timestampMillis.millis + millis ≤ maxI64 then
    return now.timestampMillis.millis + millis
  else
    .error .durationOverflow

/-- Claim the first due command, under a fresh token and attempt identifier. -/
def claimNext (leaseToken attemptId : String) (now : DateTime) (duration : Duration)
    (maxAttempts : ℕ) : StoreTx (Option ClaimedCommand) := do
  let leaseUntil ← lift (leaseExpiry now duration)
  let candidates ← gets (claimCandidates now maxAttempts)
  match candidates with
  | [] => pure none
  | candidate :: _ => do
    let claim ← claimCandidate leaseToken attemptId now leaseUntil candidate
    pure (some claim)

/-- What a completion writes. -/
structure ClaimCompletion where
  target : CommandState
  /-- How the attempt ended. -/
  attemptState : AttemptState
  /-- Reason in the audit trail and message of the attempt. -/
  reason : String
  nextAttemptAt : DateTime
  result : Option CommandResult
  /-- Error shown to operators. -/
  lastError : Option String
  resolutionNote : Option String
  /-- Author and reason of a forced fallback. -/
  manualFallback : Option (ActorId × String)

/-- The row of a completed command. -/
def ClaimCompletion.settle (completion : ClaimCompletion) (now : DateTime) (row : CommandRow) :
    CommandRow :=
  { row with
    state := completion.target
    updatedAt := now.timestampMillis
    nextAttemptAt := completion.nextAttemptAt.timestampMillis
    leaseToken := none
    leaseUntil := none
    result := completion.result
    lastError := completion.lastError
    resolutionNote := completion.resolutionNote }

section SettleFields

variable (completion : ClaimCompletion) (now : DateTime) (row : CommandRow)

theorem ClaimCompletion.settle_key : (completion.settle now row).key = row.key := rfl

@[simp] theorem ClaimCompletion.settle_state :
    (completion.settle now row).state = completion.target := rfl

@[simp] theorem ClaimCompletion.settle_leaseToken :
    (completion.settle now row).leaseToken = none := rfl

end SettleFields

/-- The row of a completed attempt. -/
def ClaimCompletion.closeAttempt (completion : ClaimCompletion) (now : DateTime)
    (row : AttemptRow) : AttemptRow :=
  { row with
    state := completion.attemptState
    finishedAt := some now.timestampMillis
    message := some completion.reason
    result := completion.result }

theorem ClaimCompletion.closeAttempt_attemptId (completion : ClaimCompletion) (now : DateTime)
    (row : AttemptRow) : (completion.closeAttempt now row).attemptId = row.attemptId := rfl

/-- Rewrite the one attempt row that is stored under an identifier and meets a condition. -/
def updateAttempt (attemptId : String) (guard : AttemptRow → Bool)
    (rewrite : AttemptRow → AttemptRow) (hkey : ∀ row, (rewrite row).attemptId = row.attemptId)
    (refusal : StoreError) : StoreTx Unit := do
  let table ← gets fun s => s.attempts.updateOne? attemptId guard rewrite hkey
  let table ← orFail table refusal
  modify fun s => { s with attempts := table }

/-- The fallback of a completion that asks for one. -/
def completionFallback (deviceId : DeviceId) (fallback : Option (ActorId × String))
    (now : DateTime) : StoreTx Unit :=
  match fallback with
  | some (actor, reason) => forceManualFallback deviceId actor reason now
  | none => pure ()

/-- Complete a claim whose token still holds the command. -/
def finishClaim (claim : ClaimedCommand) (now : DateTime) (completion : ClaimCompletion) :
    StoreTx Unit := do
  updateCommand claim.commandId
    (fun row => decide (row.state = .executing) &&
      decide (row.leaseToken = some claim.leaseToken))
    (completion.settle now) (completion.settle_key now) (.leaseMismatch claim.commandId)
  updateAttempt claim.attemptId (isActiveOf claim.commandId) (completion.closeAttempt now)
    (completion.closeAttempt_attemptId now) (.leaseMismatch claim.commandId)
  appendCommandEvent claim.commandId (some .executing) completion.target none completion.reason now
  completionFallback claim.envelope.request.deviceId completion.manualFallback now

/-- The seven ways in which a runner settles its claim, with the arguments of the
source's operations. -/
inductive Completion where
  | success (result : CommandResult)
  | retryable (message : String) (nextAttemptAt : DateTime) (limits : RetryLimits)
      (agent : ActorId)
  | permanent (message : String)
  | ambiguous (message : String) (nextAttemptAt : DateTime) (agent : ActorId)
  | deferRecovery (message : String) (nextAttemptAt : DateTime)
  | notFound
  /-- `require_manual_review` -/
  | manualReview (reason : String) (agent : ActorId)

/-- `complete_success`: the result has to answer the command. -/
def completeSuccess (claim : ClaimedCommand) (result : CommandResult) (now : DateTime) :
    StoreTx Unit := do
  lift (liftCommand (result.validateFor claim.envelope.request.command))
  finishClaim claim now
    { target := .succeeded
      attemptState := .succeeded
      reason := "device command completed"
      nextAttemptAt := now
      result := some result
      lastError := none
      resolutionNote := none
      manualFallback := none }

/-- Whether a retryable failure uses up the budget of its claim. -/
def retryExhausted (claim : ClaimedCommand) (limits : RetryLimits) : Bool :=
  match claim.kind with
  | .execute => decide (limits.executionAttempts ≤ claim.envelope.attempt)
  | .recoveryProbe => decide (limits.recoveryProbes ≤ claim.recoveryProbeCount)

/-- Where a retryable failure sends the command. -/
def retryTarget (claim : ClaimedCommand) (limits : RetryLimits) : CommandState :=
  if retryExhausted claim limits then .manualReview
  else if claim.kind = .recoveryProbe then .recoveryWait
  else .retryWait

/-- `retryable_failure`: another try, or a fallback when the budget is used up. -/
def retryableFailure (claim : ClaimedCommand) (message : String) (nextAttemptAt : DateTime)
    (limits : RetryLimits) (agent : ActorId) (now : DateTime) : StoreTx Bool := do
  let message ← orPanic (truncateMessage message)
  finishClaim claim now
    { target := retryTarget claim limits
      attemptState :=
        if retryExhausted claim limits then .manualReview else .retryableFailure
      reason := message
      nextAttemptAt := nextAttemptAt
      result := none
      lastError := some message
      resolutionNote := none
      manualFallback :=
        if retryExhausted claim limits then
          some (agent, "device command exhausted its retry budget")
        else none }
  pure (retryExhausted claim limits)

/-- `permanent_failure`: the device rejected the command. -/
def permanentFailure (claim : ClaimedCommand) (message : String) (now : DateTime) :
    StoreTx Unit := do
  let message ← orPanic (truncateMessage message)
  finishClaim claim now
    { target := .failed
      attemptState := .permanentFailure
      reason := message
      nextAttemptAt := now
      result := none
      lastError := some message
      resolutionNote := none
      manualFallback := none }

/-- Where an ambiguous outcome sends a command of each policy. -/
def ambiguousTarget : RecoveryPolicy → CommandState
  | .deviceDeduplicatedReplay => .retryWait
  | .probeThenRetry => .recoveryWait
  | .manualReview => .manualReview

/-- `ambiguous_failure`: the policy decides. -/
def ambiguousFailure (claim : ClaimedCommand) (message : String) (nextAttemptAt : DateTime)
    (agent : ActorId) (now : DateTime) : StoreTx Bool := do
  let message ← orPanic (truncateMessage message)
  finishClaim claim now
    { target := ambiguousTarget claim.envelope.request.recoveryPolicy
      attemptState := .ambiguous
      reason := message
      nextAttemptAt := nextAttemptAt
      result := none
      lastError := some message
      resolutionNote := none
      manualFallback :=
        if ambiguousTarget claim.envelope.request.recoveryPolicy = .manualReview then
          some (agent, "ambiguous device outcome requires manual reconciliation")
        else none }
  pure (decide (ambiguousTarget claim.envelope.request.recoveryPolicy = .manualReview))

/-- `defer_recovery`: a probe found the command still in work. -/
def deferRecovery (claim : ClaimedCommand) (message : String) (nextAttemptAt : DateTime)
    (now : DateTime) : StoreTx Unit := do
  ensure (claim.kind = .recoveryProbe)
    (.invalidTransition claim.commandId .executing "defer_recovery")
  let message ← orPanic (truncateMessage message)
  finishClaim claim now
    { target := .recoveryWait
      attemptState := .stillProcessing
      reason := message
      nextAttemptAt := nextAttemptAt
      result := none
      lastError := some message
      resolutionNote := none
      manualFallback := none }

/-- `recovery_not_found`: a probe found no trace of the command. -/
def recoveryNotFound (claim : ClaimedCommand) (now : DateTime) : StoreTx Unit := do
  ensure (claim.kind = .recoveryProbe)
    (.invalidTransition claim.commandId .executing "recovery_not_found")
  finishClaim claim now
    { target := .queued
      attemptState := .notFound
      reason := "downstream recovery probe found no prior command"
      nextAttemptAt := now
      result := none
      lastError := none
      resolutionNote := none
      manualFallback := none }

/-- `require_manual_review`: an operator has to look at the device. -/
def requireManualReview (claim : ClaimedCommand) (reason : String) (agent : ActorId)
    (now : DateTime) : StoreTx Unit := do
  let reason ← orPanic (truncateMessage reason)
  finishClaim claim now
    { target := .manualReview
      attemptState := .manualReview
      reason := reason
      nextAttemptAt := now
      result := none
      lastError := some reason
      resolutionNote := none
      manualFallback := some (agent, reason) }

/-- Settle a claim in one of the seven ways. The answer says whether a failure
ended in manual review, for the two operations that return it. -/
def complete (claim : ClaimedCommand) (now : DateTime) : Completion → StoreTx (Option Bool)
  | .success result => do
    completeSuccess claim result now
    pure none
  | .retryable message nextAttemptAt limits agent => do
    let exhausted ← retryableFailure claim message nextAttemptAt limits agent now
    pure (some exhausted)
  | .permanent message => do
    permanentFailure claim message now
    pure none
  | .ambiguous message nextAttemptAt agent => do
    let review ← ambiguousFailure claim message nextAttemptAt agent now
    pure (some review)
  | .deferRecovery message nextAttemptAt => do
    deferRecovery claim message nextAttemptAt now
    pure none
  | .notFound => do
    recoveryNotFound claim now
    pure none
  | .manualReview reason agent => do
    requireManualReview claim reason agent now
    pure none

end Wareboxes.EdgeClaims
