import Wareboxes.EdgeInvariants

/-!
# Runs of the edge store

Any number of processes share the store: engines, operators and the cloud
synchronisation. A run is a sequence of their calls in any order, each of
which commits or rolls back as a whole. Beside the store, a state remembers
every claim that was ever handed out. A process that never completes its
claim has crashed; nothing else is needed to model that.
-/

namespace Wareboxes.EdgeRuns

open RustTime EdgeTypes EdgeCommands Transactions Transactions.Transaction EdgeTables EdgeClaims
open EdgeStoreCalls EdgeInvariants LabelledRuns

/-- The store and every claim that was handed out, oldest first. -/
structure EdgeState where
  store : Store
  /-- Claims held by processes, settled or not. -/
  issued : List ClaimedCommand

/-- Before the first call. -/
def EdgeState.initial : EdgeState := ⟨.initial, []⟩

/-- A call together with the identifiers that are drawn for it. -/
structure EdgeAction where
  /-- Identifiers for a claim. -/
  ids : FreshIds
  call : StoreCall

/-- The reply to a call. -/
def EdgeState.reply (σ : EdgeState) (action : EdgeAction) : action.call.Reply :=
  (commit (action.call.exec action.ids) σ.store).1

/-- The state after a call. -/
def EdgeState.next (σ : EdgeState) (action : EdgeAction) : EdgeState :=
  ⟨(commit (action.call.exec action.ids) σ.store).2,
    σ.issued ++ (action.call.claimOf (σ.reply action)).toList⟩

/-- A run of calls that are allowed where they are made. -/
abbrev EdgeRun (allows : EdgeState → EdgeAction → Prop) : EdgeState → EdgeState → Prop :=
  Run (fun σ action σ' => σ' = σ.next action) allows

/-- Calls without any restriction. -/
def anyCall (_ : EdgeState) (_ : EdgeAction) : Prop := True

/-- The claim that a call completes was handed out. -/
def completesIssued (issued : List ClaimedCommand) : StoreCall → Prop
  | .complete claim _ _ => claim ∈ issued
  | _ => True

instance (issued : List ClaimedCommand) (call : StoreCall) :
    Decidable (completesIssued issued call) :=
  match call with
  | .complete claim _ _ => inferInstanceAs (Decidable (claim ∈ issued))
  | .registerDevice .. | .deviceStatus _ | .listDevices | .changeControlMode ..
  | .recordHeartbeat .. | .recordHeartbeatFailure .. | .submit .. | .submitCloudDelivery ..
  | .resolveManually .. | .cancelCommand .. | .retryAfterReview .. | .recoverExpiredLeases .. | .claimNext ..
  | .pendingCloudAcknowledgements _ | .pendingCloudReports _ | .markCloudAcknowledged ..
  | .markCloudReported .. | .recordCloudError .. | .cloudReportableCount _ =>
    inferInstanceAs (Decidable True)

/-- Random identifiers were not drawn before, and processes complete only claims that were
handed out. -/
def Honest (σ : EdgeState) (action : EdgeAction) : Prop :=
  (∀ claim ∈ σ.issued, claim.leaseToken ≠ action.ids.leaseToken ∧
    claim.attemptId ≠ action.ids.attemptId) ∧ completesIssued σ.issued action.call

instance (σ : EdgeState) (action : EdgeAction) : Decidable (Honest σ action) :=
  inferInstanceAs (Decidable (_ ∧ _))

variable {σ σ' : EdgeState} {action : EdgeAction}

theorem claimOf_error {call : StoreCall} {halt : Halt StoreError} :
    call.claimOf (.error halt) = none := by
  cases call <;> rfl

/-- A call that halts changes nothing, and a call that answers moves the store. -/
theorem next_cases (σ : EdgeState) (action : EdgeAction) :
    (∃ halt, σ.reply action = .error halt ∧ σ.next action = σ) ∨
      ∃ answer, σ.reply action = .ok answer ∧
        action.call.exec action.ids σ.store = .ok (answer, (σ.next action).store) ∧
        (σ.next action).issued = σ.issued ++ (action.call.claimOf (.ok answer)).toList := by
  cases hexec : action.call.exec action.ids σ.store with
  | error halt =>
    have hcommit := commit_of_error hexec
    have hreply : σ.reply action = .error halt := by
      unfold EdgeState.reply
      rw [hcommit]
    refine .inl ⟨halt, hreply, ?_⟩
    unfold EdgeState.next
    rw [hreply, hcommit, claimOf_error]
    simp
  | ok pair =>
    obtain ⟨answer, after⟩ := pair
    have hcommit := commit_of_ok hexec
    have hreply : σ.reply action = .ok answer := by
      unfold EdgeState.reply
      rw [hcommit]
    refine .inr ⟨answer, hreply, ?_, ?_⟩
    · unfold EdgeState.next
      rw [hcommit]
    · unfold EdgeState.next
      rw [hreply]

theorem next_storeInvariant (hσ : StoreInvariant σ.store) :
    StoreInvariant (σ.next action).store := by
  rcases next_cases σ action with ⟨_, _, hsame⟩ | ⟨answer, _, hexec, _⟩
  · rw [hsame]
    exact hσ
  · exact exec_storeInvariant hexec hσ

theorem run_storeInvariant {allows : EdgeState → EdgeAction → Prop}
    (h : EdgeRun allows .initial σ) : StoreInvariant σ.store := by
  have hstep : ∀ σ action σ', allows σ action → σ' = σ.next action →
      StoreInvariant σ.store → StoreInvariant σ'.store := by
    rintro σ action σ' _ rfl hσ
    exact next_storeInvariant hσ
  exact h.preserves (fun σ => StoreInvariant σ.store) hstep storeInvariant_initial

section Facility

/-- The instant some milliseconds after the epoch, within the first thousand seconds. -/
def atMillis (millis : ℕ) : DateTime :=
  ⟨(millis % 1000000 : ℕ) * 1000000, by
    unfold minSeconds
    omega, by
    unfold maxSeconds
    omega⟩

/-- The time that a claim of the concrete runs holds its command. -/
def oneSecond : Duration := ⟨1000000000, by decide⟩

/-- A scale, the device of the concrete runs below. -/
def packingScale : DeviceDescriptor :=
  { tenantId := ⟨"tenant-1", by decide +kernel⟩
    facilityId := ⟨"facility-1", by decide +kernel⟩
    deviceId := ⟨"scale-1", by decide +kernel⟩
    deviceClass := .scale
    displayName := "Packing scale" }

/-- A command for the scale. -/
def tareRequest (policy : RecoveryPolicy) : CommandRequest :=
  { schemaVersion := 1
    commandId := ⟨"tare-1", by decide +kernel⟩
    tenantId := packingScale.tenantId
    facilityId := packingScale.facilityId
    deviceId := packingScale.deviceId
    correlationId := ⟨"correlation-1", by decide +kernel⟩
    idempotencyKey := ⟨"key-1", by decide +kernel⟩
    recoveryPolicy := policy
    command := .scale .tare }

/-- The operator of the concrete runs. -/
def supervisor : ActorId := ⟨"supervisor", by decide +kernel⟩

/-- The scale is registered and taken into automatic mode. -/
def commissioning : List EdgeAction :=
  [⟨⟨"token-0", "attempt-0"⟩,
    .registerDevice packingScale supervisor "installed" (atMillis 0)⟩,
   ⟨⟨"token-0", "attempt-0"⟩,
    .changeControlMode packingScale.deviceId .resumeAutomation supervisor "inspected"
      (atMillis 1)⟩]

/-- The commissioned scale gets a command, which is claimed. -/
def claimedRun (policy : RecoveryPolicy) : List EdgeAction :=
  commissioning ++
    [⟨⟨"token-0", "attempt-0"⟩, .submit (tareRequest policy) (atMillis 2)⟩,
     ⟨⟨"token-1", "attempt-1"⟩, .claimNext (atMillis 3) oneSecond 1⟩]

/-- The scale executes its command. -/
def afterClaim (policy : RecoveryPolicy) : EdgeState :=
  replay EdgeState.next (claimedRun policy) .initial

theorem claimedRun_honest (policy : RecoveryPolicy) :
    Replays EdgeState.next Honest (claimedRun policy) .initial := by
  cases policy <;> (refine ⟨?_, ?_, ?_, ?_, trivial⟩ <;> decide +kernel)

/-- The claim of that run. -/
def scaleClaim (policy : RecoveryPolicy) : ClaimedCommand :=
  ⟨⟨tareRequest policy, 1⟩, "token-1", "attempt-1", .execute, 0⟩

/-- The scale is disabled while it executes its command. -/
def revokedRun (policy : RecoveryPolicy) : List EdgeAction :=
  claimedRun policy ++
    [⟨⟨"token-2", "attempt-2"⟩,
      .changeControlMode packingScale.deviceId .disable supervisor "jammed" (atMillis 4)⟩]

/-- The command of the disabled scale waits for an operator. -/
def afterRevocation (policy : RecoveryPolicy) : EdgeState :=
  replay EdgeState.next (revokedRun policy) .initial

/-- The scale is registered and gets a command before it is taken into automatic mode. -/
def earlySubmission (policy : RecoveryPolicy) : List EdgeAction :=
  [⟨⟨"token-0", "attempt-0"⟩,
    .registerDevice packingScale supervisor "installed" (atMillis 0)⟩,
   ⟨⟨"token-0", "attempt-0"⟩, .submit (tareRequest policy) (atMillis 1)⟩]

/-- The disabled scale has a command. -/
def afterEarlySubmission (policy : RecoveryPolicy) : EdgeState :=
  replay EdgeState.next (earlySubmission policy) .initial

end Facility

end Wareboxes.EdgeRuns
