import Wareboxes.ClaimFencing
import Wareboxes.EngineRuns

/-!
# Waiting commands and the budget of executions

A claim takes a queued command or one that waits for a retry only while its
attempt count is below the budget. Retryable failures and probes that find
nothing check the budget before they put a command back; three other ways
back do not. This module names the three, shows that every waiting command
stays claimable in a run that avoids them with a spent budget, and gives a run
in which a command is stranded.
-/

namespace Wareboxes.ExecutionBudget

open RustTime EdgeCommands KeyedTables EdgeTables EdgeOperations EdgeClaims EdgeStoreCalls
open CommandLife EdgeMoves OperationMoves EdgeInvariants EdgeRuns ClaimFencing ClaimTracking
open AgentEngine EngineRuns LabelledRuns

/-- The states from which a command is executed. -/
def awaitsExecution : CommandState → Bool
  | .queued | .retryWait => true
  | .executing | .recoveryWait | .succeeded | .failed | .manualReview | .resolvedManually
  | .cancelled => false

/-- Every command that waits for an execution has one left. -/
def WithinBudget (maxAttempts : ℕ) (s : Store) : Prop :=
  ∀ commandId row, s.command? commandId = some row → awaitsExecution row.state = true →
    row.attemptCount < maxAttempts

/-- The three calls that put a command back without a look at its budget find it unspent: an
ambiguous outcome of a command that the device deduplicates, the recovery of such a command, and
an operator who queues a command after its review. -/
def KeepsBudget (config : EngineConfig) (s : Store) : StoreCall → Prop
  | .complete claim _ (.ambiguous ..) => holdsLease s claim = true →
    claim.envelope.request.recoveryPolicy = .deviceDeduplicatedReplay →
    claim.envelope.attempt < config.maxAttempts
  | .recoverExpiredLeases now _ => ∀ row ∈ expiredCommands now s,
    row.request.recoveryPolicy = .deviceDeduplicatedReplay →
    row.attemptCount < config.maxAttempts
  | .retryAfterReview commandId .. => ∀ row, s.command? commandId = some row →
    row.state = .manualReview → isAutomatic s row.request.deviceId = true →
    row.attemptCount < config.maxAttempts
  | _ => True

variable {config : EngineConfig} {σ : EdgeState} {action : EdgeAction} {t t' : Store}
  {label : MoveLabel} {commandId : String} {claim : ClaimedCommand} {now : DateTime}
  {completion : Completion} {row row' : CommandRow} {v' : CommandView}

/-- A completion of an engine that sends its command to execution finds the budget unspent. -/
theorem attempt_lt_of_completion (hcompletion : EngineCompletion config claim completion)
    (hambiguous : ∀ message next agent, completion = .ambiguous message next agent →
      claim.envelope.request.recoveryPolicy = .deviceDeduplicatedReplay →
      claim.envelope.attempt < config.maxAttempts)
    (htarget : awaitsExecution (completionTarget claim completion) = true) :
    claim.envelope.attempt < config.maxAttempts := by
  cases hcompletion with
  | success | permanent | deferRecovery | manualReview => cases htarget
  | retryable =>
    simp only [completionTarget, retryTarget] at htarget
    split_ifs at htarget with hexhausted hprobe
    · cases htarget
    · cases htarget
    · unfold retryExhausted at hexhausted
      cases hkind : claim.kind with
      | recoveryProbe => exact absurd hkind hprobe
      | execute =>
        rw [hkind] at hexhausted
        simpa using hexhausted
  | ambiguous message nextAttemptAt agent =>
    refine hambiguous message nextAttemptAt agent rfl ?_
    revert htarget
    simp only [completionTarget]
    cases claim.envelope.request.recoveryPolicy <;> decide
  | notFound hkind hattempts => exact hattempts

/-- A completion that sends its command to execution finds the budget unspent. -/
theorem finished_withinBudget
    (hmove : CommandMove (viewOf t commandId) (.finished claim completion) now v')
    (hadmits : Admits action.ids σ.store action.call
      (.command commandId (.finished claim completion) now)) (ht : Tracked σ t)
    (haction : EngineAction config σ action) (hkeeps : KeepsBudget config σ.store action.call)
    (hrow : t.command? commandId = some row) (hrow' : v'.row = some row')
    (hwaits : awaitsExecution row'.state = true) : row'.attemptCount < config.maxAttempts := by
  obtain ⟨hcall, hcommand⟩ := admits_finished hadmits
  obtain ⟨hhonest, hconfigured⟩ := haction
  have hheld := ht.finished hadmits hhonest.2 hmove hrow
  rw [hcall] at hconfigured hkeeps
  obtain ⟨before, _, hbefore, hexecuting, htoken, _⟩ := hmove.finished_inv
  obtain rfl : row = before := Option.some.inj (hrow.symm.trans hbefore)
  have hcount : row'.attemptCount = claim.envelope.attempt := by
    rw [hmove.keeps_attemptCount (by simp) hrow hrow', hheld.envelope]
  have hlease : holdsLease σ.store claim = true :=
    holdsLease_of_token (hcommand ▸ ht.stored_of_executing hrow hexecuting) htoken
  rw [hcount]
  refine attempt_lt_of_completion (engineCompletion_of_configured hconfigured) ?_ ?_
  · rintro message next agent rfl
    exact hkeeps hlease
  · rw [hmove.state_eq hrow'] at hwaits
    exact hwaits

/-- A revoked lease that sends its command to execution finds the budget unspent. -/
theorem abandoned_withinBudget {target : CommandState} {reason : String}
    (hmove : CommandMove (viewOf t commandId) (.abandoned target reason) now v')
    (hadmits : Admits action.ids σ.store action.call
      (.command commandId (.abandoned target reason) now))
    (ht : Tracked σ t) (hkeeps : KeepsBudget config σ.store action.call)
    (hrow : t.command? commandId = some row) (hrow' : v'.row = some row')
    (hwaits : awaitsExecution row'.state = true) : row'.attemptCount < config.maxAttempts := by
  obtain ⟨before, hbefore, hexecuting, _⟩ := hmove.abandoned_inv
  obtain rfl : row = before := Option.some.inj (hrow.symm.trans hbefore)
  rw [hmove.keeps_attemptCount (by simp) hrow hrow']
  rw [hmove.state_eq hrow', LifeEvent.target] at hwaits
  rcases ht.abandoned hadmits hrow hexecuting with rfl | ⟨⟨agent, hcall⟩, hlisted, _, rfl⟩
  · cases hwaits
  · rw [hcall] at hkeeps
    refine hkeeps row hlisted ?_
    revert hwaits
    cases row.request.recoveryPolicy <;> decide

/-- A move keeps every waiting command within its budget, unless an operator queues one. -/
theorem move_withinBudget (h : Move t label t')
    (hadmits : Admits action.ids σ.store action.call label) (ht : Tracked σ t)
    (hvalid : config.validate.isOk = true) (haction : EngineAction config σ action)
    (hkeeps : KeepsBudget config σ.store action.call) (hretry : ∀ commandId actor reason now,
      action.call ≠ .retryAfterReview commandId actor reason now)
    (hinv : WithinBudget config.maxAttempts t) : WithinBudget config.maxAttempts t' := by
  intro commandId row' hrow' hwaits
  rcases h.view_cases commandId with hsame | ⟨event, now, rfl, hmove, _⟩
  · exact hinv commandId row' ((congrArg CommandView.row hsame).symm.trans hrow') hwaits
  cases event with
  | submitted request mode =>
    obtain ⟨_, hnew, _⟩ := hmove.submitted_inv
    obtain rfl : newCommandRow request mode now = row' := Option.some.inj (hnew.symm.trans hrow')
    exact EngineConfig.maxAttempts_pos hvalid
  | claimed =>
    rw [hmove.state_eq hrow'] at hwaits
    cases hwaits
  | finished =>
    obtain ⟨row, _, hrow, _⟩ := hmove.finished_inv
    exact finished_withinBudget hmove hadmits ht haction hkeeps hrow hrow' hwaits
  | abandoned =>
    obtain ⟨row, hrow, _⟩ := hmove.abandoned_inv
    exact abandoned_withinBudget hmove hadmits ht hkeeps hrow hrow' hwaits
  | shifted fromState toState _ =>
    obtain ⟨row, _, _, hshift, _⟩ := hmove.shifted_inv
    rw [hmove.state_eq hrow', LifeEvent.target] at hwaits
    have hqueued : toState = .queued := by
      revert hshift hwaits
      cases fromState <;> cases toState <;> decide
    subst hqueued
    obtain ⟨actor, reason, hcall⟩ := admits_requeued hadmits
    exact absurd hcall (hretry commandId actor reason now)

/-- An operator who queues a command with an execution left keeps the budgets. -/
theorem retry_withinBudget {s s' : Store} {fromState : CommandState} {note : Option String}
    (h : Move s (.command commandId (.shifted fromState .queued note) now) s')
    (hkeeps : ∀ row, s.command? commandId = some row → row.state = .manualReview →
      isAutomatic s row.request.deviceId = true → row.attemptCount < config.maxAttempts)
    (hinv : WithinBudget config.maxAttempts s) : WithinBudget config.maxAttempts s' := by
  intro other row' hrow' hwaits
  rcases h.view_cases other with hsame | ⟨event, now', hlabel, hmove, hguard⟩
  · exact hinv other row' ((congrArg CommandView.row hsame).symm.trans hrow') hwaits
  · cases hlabel
    obtain ⟨row, hrow, hstate, hshift, _⟩ := hmove.shifted_inv
    have hreview : fromState = .manualReview := by
      revert hshift
      cases fromState <;> decide
    rw [hmove.keeps_attemptCount (by simp) hrow hrow']
    exact hkeeps row hrow (hstate.trans hreview) (hguard rfl row hrow)

/-- A call that finds the budgets unspent keeps every waiting command within its budget. -/
theorem next_withinBudget (hσ : EdgeInvariant σ) (hvalid : config.validate.isOk = true)
    (haction : EngineAction config σ action) (hkeeps : KeepsBudget config σ.store action.call)
    (hinv : WithinBudget config.maxAttempts σ.store) :
    WithinBudget config.maxAttempts (σ.next action).store := by
  by_cases hcall : ∃ commandId actor reason now,
      action.call = .retryAfterReview commandId actor reason now
  · obtain ⟨commandId, actor, reason, now, hcall⟩ := hcall
    rcases next_cases σ action with ⟨_, _, hsame⟩ | ⟨answer, _, hexec, _⟩
    · rw [hsame]
      exact hinv
    · obtain ⟨ids, call⟩ := action
      subst hcall
      exact retry_withinBudget (retryAfterReview_move hexec) hkeeps hinv
  · refine next_preserves (WithinBudget config.maxAttempts) hσ ?_ hinv
    intro t label t' hadmits hmove ht
    refine move_withinBudget hmove hadmits ht hvalid haction hkeeps ?_
    intro commandId actor reason now he
    exact hcall ⟨commandId, actor, reason, now, he⟩

/-- In every run of engines with one valid configuration in which the three calls that ignore the
budget find it unspent, every command that is queued or waits for a retry has an execution left,
and `claim_next` can select it as soon as it is due and its device is automatic and idle. -/
theorem waiting_commands_stay_claimable {config : EngineConfig} {σ : EdgeState}
    (hvalid : config.validate.isOk = true)
    (h : EdgeRun (fun σ action => EngineAction config σ action ∧
      KeepsBudget config σ.store action.call) .initial σ)
    {commandId : String} {row : CommandRow} (hrow : σ.store.command? commandId = some row)
    (hstate : row.state = .queued ∨ row.state = .retryWait) :
    row.attemptCount < config.maxAttempts ∧ ∀ now,
      row.nextAttemptAt.millis ≤ now.timestampMillis.millis →
      isAutomatic σ.store row.request.deviceId = true →
      isBusy σ.store row.request.deviceId = false →
      row ∈ claimCandidates now config.maxAttempts σ.store := by
  have hrun := h.preserves
    (fun σ => EdgeInvariant σ ∧ WithinBudget config.maxAttempts σ.store) ?_ ?_
  · have hwaits : awaitsExecution row.state = true := by
      rcases hstate with hstate | hstate
      · rw [hstate]; rfl
      · rw [hstate]; rfl
    have hbudget := hrun.2 commandId row hrow hwaits
    refine ⟨hbudget, fun now hdue hautomatic hidle => ?_⟩
    have hkey : row.key = commandId := KeyedTable.key_of_find? hrow
    refine mem_claimCandidates.mpr ⟨hkey ▸ hrow, claimable_iff.mpr
      ⟨?_, hdue, hautomatic, .inr hbudget, hidle⟩⟩
    rcases hstate with hstate | hstate
    · rw [hstate]; rfl
    · rw [hstate]; rfl
  · rintro σ action σ' ⟨haction, hkeeps⟩ rfl ⟨hσ, hinv⟩
    exact ⟨next_edgeInvariant haction.1 hσ, next_withinBudget hσ hvalid haction hkeeps hinv⟩
  · refine ⟨⟨storeInvariant_initial, claimInvariant_initial⟩, ?_⟩
    intro commandId row hrow
    cases hrow

/-- A command that has just been submitted to the automatic scale. -/
def queuedRun : List EdgeAction :=
  commissioning ++ [⟨⟨"token-0", "attempt-0"⟩, .submit (tareRequest .probeThenRetry) (atMillis 2)⟩]

/-- The theorem at the submitted command. -/
theorem waiting_commands_stay_claimable_after_submission :
    ∃ row, (replay EdgeState.next queuedRun .initial).store.command? "tare-1" = some row ∧
      row.state = .queued ∧ row.attemptCount < scaleConfig.maxAttempts := by
  have hrun : Replays EdgeState.next (fun σ action => EngineAction scaleConfig σ action ∧
      KeepsBudget scaleConfig σ.store action.call) queuedRun .initial := by
    refine ⟨⟨⟨?_, trivial⟩, trivial⟩, ⟨⟨?_, trivial⟩, trivial⟩, ⟨⟨?_, trivial⟩, trivial⟩,
        trivial⟩ <;>
      decide +kernel
  have hstored : ((replay EdgeState.next queuedRun .initial).store.command? "tare-1").map
      CommandRow.state = some .queued := by
    decide +kernel
  obtain ⟨row, hrow, hstate⟩ := Option.map_eq_some_iff.mp hstored
  exact ⟨row, hrow, hstate, (waiting_commands_stay_claimable scaleEngine.checked
    (run_replay EdgeState.next hrun) hrow (.inl hstate)).1⟩

/-- The state after the scale did not answer. -/
def strandedState : EdgeState :=
  (afterClaim .deviceDeduplicatedReplay).next (unanswered .deviceDeduplicatedReplay)

/-- A command that the device deduplicates and whose only execution ended ambiguous waits for a
retry that no claim will ever make. -/
theorem ambiguous_replay_strands_command :
    scaleConfig.validate.isOk = true ∧ EdgeRun (EngineAction scaleConfig) .initial strandedState ∧
      ∃ row, strandedState.store.command? "tare-1" = some row ∧ row.state = .retryWait ∧
        ¬row.attemptCount < scaleConfig.maxAttempts ∧
        ∀ now, row ∉ claimCandidates now scaleConfig.maxAttempts strandedState.store := by
  have hclaimed := run_replay EdgeState.next (claimedRun_engine .deviceDeduplicatedReplay)
  have hhonest : Honest (afterClaim .deviceDeduplicatedReplay)
      (unanswered .deviceDeduplicatedReplay) := by
    decide +kernel
  have hstored : (strandedState.store.command? "tare-1").map
      (fun row => (row.state, row.attemptCount)) = some (.retryWait, 1) := by
    decide +kernel
  obtain ⟨row, hrow, hpair⟩ := Option.map_eq_some_iff.mp hstored
  have hstate : row.state = .retryWait := congrArg Prod.fst hpair
  have hcount : row.attemptCount = 1 := congrArg Prod.snd hpair
  have hspent : ¬row.attemptCount < scaleConfig.maxAttempts := by
    rw [hcount]
    decide
  refine ⟨scaleEngine.checked, hclaimed.trans (.single ⟨hhonest, unanswered_configured _⟩ rfl), row,
    hrow, hstate, hspent, ?_⟩
  intro now hcandidate
  obtain ⟨_, _, _, hbudget, _⟩ := claimable_iff.mp (mem_claimCandidates.mp hcandidate).2
  rcases hbudget with hrecovery | hbudget
  · rw [hstate] at hrecovery
    cases hrecovery
  · exact hspent hbudget

end Wareboxes.ExecutionBudget
