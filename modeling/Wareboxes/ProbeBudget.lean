import Wareboxes.ClaimFencing
import Wareboxes.EngineRuns

/-!
# The budget of recovery probes

Settings bound how often a command is probed. The engine checks the bound when
a probe fails in a retryable way and when it finds the command still in work.
A probe can also end ambiguous, with an expired lease or with nothing found;
none of these looks at the bound. The module shows that a run in which they
find probes left keeps every command within the bound, and gives a run in
which a command is probed more often.
-/

namespace Wareboxes.ProbeBudget

open RustTime EdgeTypes EdgeCommands EdgeTables EdgeOperations EdgeClaims EdgeStoreCalls
open CommandLife EdgeMoves OperationMoves EdgeInvariants EdgeRuns ClaimFencing ClaimTracking
open AgentEngine EngineRuns LabelledRuns CallPrograms.Prog

/-- A command that may still be probed has a probe left, and only commands that have to be probed
are probed. -/
structure ProbesLeft (maxProbes : ℕ) (v : CommandView) (row : CommandRow) : Prop where
  /-- The bound was never exceeded. -/
  bounded : countProbes v.attempts ≤ maxProbes
  /-- A waiting command has probes left. -/
  waiting : isWaiting row.state = true → countProbes v.attempts < maxProbes
  /-- A command that is being executed has a probe left. -/
  executing : ∀ attempt ∈ v.attempts, attempt.state = .active → attempt.kind = .execute →
    countProbes v.attempts < maxProbes
  /-- Only a probing policy waits for a probe. -/
  awaitsProbe : row.state = .recoveryWait → row.request.recoveryPolicy = .probeThenRetry
  /-- And only such a policy runs one. -/
  probing : ∀ attempt ∈ v.attempts, attempt.state = .active → attempt.kind = .recoveryProbe →
    row.request.recoveryPolicy = .probeThenRetry

/-- What holds of one command in a run that keeps its probes within the bound. -/
def WithinProbes (maxProbes : ℕ) (v : CommandView) : Prop :=
  ∀ row, v.row = some row → ProbesLeft maxProbes v row

/-- The ends of a probe that do not look at the bound find probes left: an ambiguous outcome, an
expired lease and a probe that found nothing. -/
def KeepsProbes (config : EngineConfig) (commandId : String) (s : Store) : StoreCall → Prop
  | .complete claim _ (.ambiguous ..) => claim.commandId = commandId →
    holdsLease s claim = true → claim.kind = .recoveryProbe →
    claim.recoveryProbeCount < config.maxRecoveryProbes
  | .complete claim _ .notFound => claim.commandId = commandId → holdsLease s claim = true →
    claim.recoveryProbeCount < config.maxRecoveryProbes
  | .recoverExpiredLeases now _ => ∀ row ∈ expiredCommands now s, row.key = commandId →
    (∃ attempt ∈ s.attemptsOf commandId, attempt.state = .active ∧
      attempt.kind = .recoveryProbe) →
    probeCount commandId s < config.maxRecoveryProbes
  | _ => True

variable {maxProbes : ℕ} {v v' : CommandView} {event : LifeEvent} {now : DateTime}
  {row row' : CommandRow} {claim : ClaimedCommand}

/-- A change that ends or skips an execution keeps the probes, given what its target needs. -/
theorem probesLeft_of_idle (h : CommandMove v event now v') (hwf : WellFormed v)
    (hrow' : v'.row = some row') (hidle : event.target ≠ .executing)
    (hcount : countProbes v'.attempts = countProbes v.attempts)
    (hbounded : countProbes v.attempts ≤ maxProbes)
    (hwaiting : isWaiting event.target = true → countProbes v.attempts < maxProbes)
    (hpolicy : event.target = .recoveryWait →
      row'.request.recoveryPolicy = .probeThenRetry) : ProbesLeft maxProbes v' row' := by
  have hstate := h.state_eq hrow'
  have hnone : countActive v'.attempts = 0 := by
    have hactive := (h.wellFormed hwf).active row' hrow'
    rwa [hstate, if_neg hidle] at hactive
  have hinactive : ∀ attempt ∈ v'.attempts, attempt.state ≠ .active := by
    intro attempt hattempt hactive
    have := List.countP_eq_zero.mp hnone attempt hattempt
    simp [hactive] at this
  constructor
  · rw [hcount]
    exact hbounded
  · rw [hstate, hcount]
    exact hwaiting
  · intro attempt hattempt hactive
    exact absurd hactive (hinactive attempt hattempt)
  · rw [hstate]
    exact hpolicy
  · intro attempt hattempt hactive
    exact absurd hactive (hinactive attempt hattempt)

/-- A claim within the bound uses up one probe at most. -/
theorem probesLeft_claimed {maxAttempts : ℕ} (h : CommandMove v (.claimed claim maxAttempts) now v')
    (hwf : WellFormed v) (hv : WithinProbes maxProbes v) (hrow' : v'.row = some row') :
    ProbesLeft maxProbes v' row' := by
  obtain ⟨row, sequence, hrow, hwait, hkind, hattempts⟩ := h.claimed_inv
  have hleft := hv row hrow
  have hheld := claimed_heldBy h hwf hrow'
  have hfewer := hleft.waiting hwait
  have hcount : countProbes v'.attempts =
      countProbes v.attempts + if claim.kind = .recoveryProbe then 1 else 0 := by
    rw [hattempts, countProbes_concat]
    rfl
  have hrequest := h.request_eq hrow hrow'
  constructor
  · rw [hcount]
    split_ifs <;> omega
  · intro hwaiting
    rw [h.state_eq hrow'] at hwaiting
    cases hwaiting
  · intro attempt hattempt hactive hexecute
    have hexecute' : claim.kind = .execute :=
      (hheld.attempt attempt hattempt hactive).2.symm.trans hexecute
    rw [hcount, hexecute', if_neg (by decide)]
    exact hfewer
  · intro hrecovery
    rw [h.state_eq hrow'] at hrecovery
    cases hrecovery
  · intro attempt hattempt hactive hprobe
    have hprobe' : claim.kind = .recoveryProbe :=
      (hheld.attempt attempt hattempt hactive).2.symm.trans hprobe
    rw [hrequest]
    refine hleft.awaitsProbe ?_
    rw [hprobe'] at hkind
    unfold claimKind at hkind
    split_ifs at hkind with hrecovery
    exact hrecovery

variable {config : EngineConfig} {σ : EdgeState} {action : EdgeAction} {t t' : Store}
  {label : MoveLabel} {commandId : String} {completion : Completion}

/-- A probe that an engine ends so that the command waits again leaves a probe, given what the
two completions without a check found. -/
theorem probes_lt_of_completion (hcompletion : EngineCompletion config claim completion)
    (hprobe : claim.kind = .recoveryProbe)
    (hambiguous : ∀ message next agent, completion = .ambiguous message next agent →
      claim.recoveryProbeCount < config.maxRecoveryProbes)
    (hnotFound : completion = .notFound → claim.recoveryProbeCount < config.maxRecoveryProbes)
    (hwaiting : isWaiting (completionTarget claim completion) = true) :
    claim.recoveryProbeCount < config.maxRecoveryProbes := by
  cases hcompletion with
  | success | permanent | manualReview => cases hwaiting
  | retryable =>
    simp only [completionTarget, retryTarget] at hwaiting
    split_ifs at hwaiting with hexhausted
    · cases hwaiting
    · unfold retryExhausted at hexhausted
      rw [hprobe] at hexhausted
      simpa using hexhausted
  | ambiguous message nextAttemptAt agent => exact hambiguous message nextAttemptAt agent rfl
  | deferRecovery message nextAttemptAt hkind hprobes => exact hprobes
  | notFound => exact hnotFound rfl

/-- Only a probe, or the policy, makes a command wait for a probe. -/
theorem recoveryWait_of_completion
    (hprobe : isProbeOnly completion = true → claim.kind = .recoveryProbe)
    (htarget : completionTarget claim completion = .recoveryWait) :
    claim.kind = .recoveryProbe ∨
      claim.envelope.request.recoveryPolicy = .probeThenRetry := by
  cases completion with
  | success | permanent | notFound | manualReview => cases htarget
  | retryable =>
    simp only [completionTarget, retryTarget] at htarget
    split_ifs at htarget with hexhausted hkind
    exact .inl hkind
  | ambiguous =>
    simp only [completionTarget] at htarget
    refine .inr ?_
    revert htarget
    cases claim.envelope.request.recoveryPolicy <;> decide
  | deferRecovery => exact .inl (hprobe rfl)

/-- A completion of an engine keeps the probes. -/
theorem probesLeft_finished
    (hmove : CommandMove (viewOf t commandId) (.finished claim completion) now v')
    (hadmits : Admits action.ids σ.store action.call
      (.command commandId (.finished claim completion) now)) (ht : Tracked σ t)
    (haction : EngineAction config σ action)
    (hkeeps : KeepsProbes config commandId σ.store action.call)
    (hv : WithinProbes config.maxRecoveryProbes (viewOf t commandId)) (hrow' : v'.row = some row') :
    ProbesLeft config.maxRecoveryProbes v' row' := by
  obtain ⟨hcall, hcommand⟩ := admits_finished hadmits
  obtain ⟨hhonest, hconfigured⟩ := haction
  rw [hcall] at hconfigured hkeeps
  obtain ⟨row, attempt, hrow, hexecuting, htoken, hattempt, _, hactive, hprobeOnly, close, hclose,
    _, hattempts⟩ := hmove.finished_inv
  have hleft := hv row hrow
  have hheld := ht.finished hadmits hhonest.2 hmove hrow
  have hkind := (hheld.attempt attempt hattempt hactive).2
  have hcount := hheld.probes
  have hrequest := hmove.request_eq hrow hrow'
  have hlease : holdsLease σ.store claim = true :=
    holdsLease_of_token (hcommand ▸ ht.stored_of_executing hrow hexecuting) htoken
  refine probesLeft_of_idle hmove (ht.store.views commandId) hrow'
    (completionTarget_ne_executing claim completion) ?_ hleft.bounded ?_ ?_
  · rw [hattempts]
    exact hclose.countProbes_map _ _
  · intro hwaiting
    cases hclaim : claim.kind with
    | execute => exact hleft.executing attempt hattempt hactive (hkind.trans hclaim)
    | recoveryProbe =>
      rw [← hcount]
      refine probes_lt_of_completion (engineCompletion_of_configured hconfigured) hclaim ?_ ?_
        hwaiting
      · rintro message next agent rfl
        exact hkeeps hcommand.symm hlease hclaim
      · rintro rfl
        exact hkeeps hcommand.symm hlease
  · intro htarget
    rw [hrequest]
    rcases recoveryWait_of_completion hprobeOnly htarget with hclaim | hpolicy
    · exact hleft.probing attempt hattempt hactive (hkind.trans hclaim)
    · rw [hheld.envelope] at hpolicy
      exact hpolicy

/-- A revoked lease keeps the probes. -/
theorem probesLeft_abandoned {target : CommandState} {reason : String}
    (hmove : CommandMove (viewOf t commandId) (.abandoned target reason) now v')
    (hadmits : Admits action.ids σ.store action.call
      (.command commandId (.abandoned target reason) now))
    (ht : Tracked σ t) (hkeeps : KeepsProbes config commandId σ.store action.call)
    (hv : WithinProbes config.maxRecoveryProbes (viewOf t commandId)) (hrow' : v'.row = some row') :
    ProbesLeft config.maxRecoveryProbes v' row' := by
  obtain ⟨row, hrow, hexecuting, hrevocation, close, hclose, _, hattempts⟩ := hmove.abandoned_inv
  have hleft := hv row hrow
  have hview := ht.executing commandId row hrow hexecuting
  have htarget := ht.abandoned hadmits hrow hexecuting
  have hsame : σ.store.attemptsOf commandId = (viewOf t commandId).attempts :=
    (congrArg CommandView.attempts hview).symm
  have hrequest := hmove.request_eq hrow hrow'
  have hone : 0 < countActive (viewOf t commandId).attempts := by
    have hactive := (ht.store.views commandId).active row hrow
    rw [if_pos hexecuting] at hactive
    omega
  obtain ⟨attempt, hattempt, hactive⟩ := List.countP_pos_iff.mp hone
  rw [decide_eq_true_eq] at hactive
  refine probesLeft_of_idle hmove (ht.store.views commandId) hrow'
    (ne_executing_of_isRevocation hrevocation) ?_ hleft.bounded ?_ ?_
  · rw [hattempts]
    exact hclose.countProbes_map _ _
  · intro hwaiting
    cases hkind : attempt.kind with
    | execute => exact hleft.executing attempt hattempt hactive hkind
    | recoveryProbe =>
      rcases htarget with rfl | ⟨⟨agent, hcall⟩, hlisted, hkey, _⟩
      · cases hwaiting
      · rw [hcall] at hkeeps
        have hprobes := hkeeps row hlisted hkey
          ⟨attempt, by rw [hsame]; exact hattempt, hactive, hkind⟩
        unfold probeCount at hprobes
        rw [hsame] at hprobes
        exact hprobes
  · rw [hrequest, LifeEvent.target]
    intro hwait
    rcases htarget with rfl | ⟨_, _, _, rfl⟩
    · cases hwait
    · revert hwait
      cases row.request.recoveryPolicy <;> decide

/-- An operator moves a command, other than back into the queue, within the bound. -/
theorem probesLeft_shifted {fromState toState : CommandState} {note : Option String}
    (hmove : CommandMove v (.shifted fromState toState note) now v') (hwf : WellFormed v)
    (hqueue : toState ≠ .queued) (hv : WithinProbes maxProbes v) (hrow' : v'.row = some row') :
    ProbesLeft maxProbes v' row' := by
  obtain ⟨row, hrow, _, hshift, hattempts⟩ := hmove.shifted_inv
  have hidle : isWaiting toState = false ∧ toState ≠ .executing := by
    revert hshift hqueue
    cases fromState <;> cases toState <;> decide
  refine probesLeft_of_idle hmove hwf hrow' hidle.2 ?_ (hv row hrow).bounded ?_ ?_
  · rw [hattempts]
  · intro hwaiting
    exact absurd hwaiting (ne_true_of_eq_false hidle.1)
  · rintro rfl
    cases hidle.1

/-- A new command has every probe left. -/
theorem probesLeft_submitted {request : CommandRequest} {mode : ControlMode}
    (hmove : CommandMove v (.submitted request mode) now v') (hwf : WellFormed v)
    (hmax : 0 < maxProbes) (hrow' : v'.row = some row') : ProbesLeft maxProbes v' row' := by
  obtain ⟨hfresh, _, hattempts⟩ := hmove.submitted_inv
  have hnone : countProbes v.attempts = 0 := by
    rw [hwf.unsubmitted hfresh]
    rfl
  have htarget : (submissionStatus mode).1 ≠ .executing ∧
      (submissionStatus mode).1 ≠ .recoveryWait := by
    cases mode <;> decide
  refine probesLeft_of_idle hmove hwf hrow' htarget.1 ?_ ?_ ?_ ?_
  · rw [hattempts]
  · rw [hnone]
    exact hmax.le
  · intro _
    rw [hnone]
    exact hmax
  · intro hwait
    exact absurd hwait htarget.2

/-- An operator queues this command after its review. -/
def RetriesCommand (commandId : String) (call : StoreCall) : Prop :=
  ∃ actor reason now, call = .retryAfterReview commandId actor reason now

/-- A call of an engine that keeps the probes of a command nobody retries. -/
def KeepsWithinProbes (config : EngineConfig) (commandId : String) (σ : EdgeState)
    (action : EdgeAction) : Prop :=
  EngineAction config σ action ∧ KeepsProbes config commandId σ.store action.call ∧
    ¬RetriesCommand commandId action.call

/-- A move keeps the probes of a command. -/
theorem move_withinProbes (h : Move t label t')
    (hadmits : Admits action.ids σ.store action.call label) (ht : Tracked σ t)
    (hvalid : config.validate.isOk = true) (haction : KeepsWithinProbes config commandId σ action)
    (hinv : WithinProbes config.maxRecoveryProbes (viewOf t commandId)) :
    WithinProbes config.maxRecoveryProbes (viewOf t' commandId) := by
  obtain ⟨hengine, hkeeps, hretry⟩ := haction
  have hwf := ht.store.views commandId
  rcases h.view_cases commandId with hsame | ⟨event, now, rfl, hmove, _⟩
  · rw [hsame]
    exact hinv
  intro row' hrow'
  cases event with
  | submitted =>
    exact probesLeft_submitted hmove hwf (EngineConfig.maxRecoveryProbes_pos hvalid) hrow'
  | claimed => exact probesLeft_claimed hmove hwf hinv hrow'
  | finished => exact probesLeft_finished hmove hadmits ht hengine hkeeps hinv hrow'
  | abandoned => exact probesLeft_abandoned hmove hadmits ht hkeeps hinv hrow'
  | shifted =>
    refine probesLeft_shifted hmove hwf ?_ hinv hrow'
    rintro rfl
    obtain ⟨actor, reason, hcall⟩ := admits_requeued hadmits
    exact hretry ⟨actor, reason, now, hcall⟩

/-- The probes of a command stay within the bound in every run that keeps them. -/
theorem run_withinProbes (hvalid : config.validate.isOk = true)
    (h : EdgeRun (KeepsWithinProbes config commandId) .initial σ) :
    EdgeInvariant σ ∧ WithinProbes config.maxRecoveryProbes (viewOf σ.store commandId) := by
  refine h.preserves (fun σ => EdgeInvariant σ ∧
    WithinProbes config.maxRecoveryProbes (viewOf σ.store commandId)) ?_ ?_
  · rintro σ action σ' haction rfl ⟨hσ, hinv⟩
    refine ⟨next_edgeInvariant haction.1.1 hσ, ?_⟩
    refine next_preserves
      (fun t => WithinProbes config.maxRecoveryProbes (viewOf t commandId)) hσ ?_ hinv
    intro t label t' hadmits hmove ht
    exact move_withinProbes hmove hadmits ht hvalid haction
  · refine ⟨⟨storeInvariant_initial, claimInvariant_initial⟩, ?_⟩
    intro row hrow
    cases hrow

/-- A claim takes a waiting command, and probes it only if it waits for a probe. -/
theorem claimed_waiting (h : action.call.claimOf (σ.reply action) = some claim) :
    ∃ row, σ.store.command? claim.commandId = some row ∧ isWaiting row.state = true ∧
      claim.kind = claimKind row.state := by
  rcases next_cases σ action with ⟨halt, hreply, _⟩ | ⟨answer, hreply, hexec, _⟩
  · rw [hreply, claimOf_error] at h
    cases h
  rw [hreply] at h
  rcases exec_cases hexec with ⟨other, maxAttempts, now, hother, _, _, hmove⟩ | ⟨hnone, _⟩
  · obtain rfl : other = claim := Option.some.inj (hother.symm.trans h)
    cases hmove with
    | command hmove _ =>
      obtain ⟨row, _, hrow, hwait, hkind, _⟩ := hmove.claimed_inv
      exact ⟨row, hrow, hwait, hkind⟩
  · rw [hnone] at h
    cases h

/-- In every run of engines with one valid configuration in which no operator retries a command,
and in which ambiguous probes, expired probes and probes that find nothing come while probes are
left, the command is never claimed for a probe after its last one, and once that has ended it is
in review or in a terminal state. -/
theorem recovery_probes_bounded {config : EngineConfig} {commandId : String} {σ : EdgeState}
    (hvalid : config.validate.isOk = true)
    (h : EdgeRun (KeepsWithinProbes config commandId) .initial σ) :
    (∀ (action : EdgeAction) (claim : ClaimedCommand),
      action.call.claimOf (σ.reply action) = some claim →
      claim.commandId = commandId → claim.kind = .recoveryProbe →
      probeCount commandId σ.store < config.maxRecoveryProbes) ∧
    ∀ row, σ.store.command? commandId = some row →
      probeCount commandId σ.store ≤ config.maxRecoveryProbes ∧
      (probeCount commandId σ.store = config.maxRecoveryProbes →
        (∀ attempt ∈ σ.store.attemptsOf commandId, attempt.kind = .recoveryProbe →
          attempt.state ≠ .active) →
        row.state = .manualReview ∨ row.state.isTerminal = true) := by
  obtain ⟨hσ, hwithin⟩ := run_withinProbes hvalid h
  constructor
  · rintro action claim hclaim rfl _
    obtain ⟨row, hrow, hwait, _⟩ := claimed_waiting hclaim
    exact (hwithin row hrow).waiting hwait
  · intro row hrow
    have hleft := hwithin row hrow
    refine ⟨hleft.bounded, fun hspent hended => ?_⟩
    have hnone : ¬countProbes (viewOf σ.store commandId).attempts < config.maxRecoveryProbes :=
      hspent.symm.le.not_gt
    have hwait : isWaiting row.state = false :=
      eq_false_of_ne_true fun hwait => hnone (hleft.waiting hwait)
    have hidle : row.state ≠ .executing := by
      intro hexecuting
      have hactive := (hσ.store.views commandId).active row hrow
      rw [if_pos hexecuting] at hactive
      obtain ⟨attempt, hattempt, hstate⟩ := List.countP_pos_iff.mp (hactive.symm ▸ Nat.one_pos)
      rw [decide_eq_true_eq] at hstate
      cases hkind : attempt.kind with
      | execute => exact hnone (hleft.executing attempt hattempt hstate hkind)
      | recoveryProbe => exact hended attempt hattempt hkind hstate
    -- The states that neither wait nor execute are the review and the terminal ones.
    revert hwait hidle
    cases row.state <;> decide

section Facility

/-- The scale does not answer and its command is claimed for a probe. -/
def probedRun : List EdgeAction :=
  claimedRun .probeThenRetry ++ [unanswered .probeThenRetry,
    ⟨⟨"token-2", "attempt-2"⟩, .claimNext (atMillis 30) oneSecond 1⟩]

/-- The scale is probed. -/
def afterProbe : EdgeState := replay EdgeState.next probedRun .initial

/-- The claim of the only probe that the settings allow. -/
def probeOfScale : ClaimedCommand :=
  ⟨⟨tareRequest .probeThenRetry, 1⟩, "token-2", "attempt-2", .recoveryProbe, 1⟩

/-- The engine of the scale issues the calls of its probe. -/
theorem probeOfScale_issues {request : EngineCall}
    (h : Issues (scaleEngine.probeClaim probeOfScale (atMillis 40) noTotals) request) :
    Issues (scaleEngine.processClaim probeOfScale (atMillis 40) noTotals) request := by
  have hadapter : scaleEngine.adapters.get probeOfScale.envelope.request.deviceId =
      some packingScale := by
    decide
  exact processClaim_delivers hadapter rfl rfl rfl scaleStatus h

theorem probedRun_keeps :
    Replays EdgeState.next (KeepsWithinProbes scaleConfig "tare-1") probedRun .initial := by
  obtain ⟨hregister, hcontrol, hsubmit, hclaim, _⟩ := claimedRun_engine .probeThenRetry
  have hunanswered : Honest (afterClaim .probeThenRetry) (unanswered .probeThenRetry) := by
    decide +kernel
  have hprobe : Honest ((afterClaim .probeThenRetry).next (unanswered .probeThenRetry))
      ⟨⟨"token-2", "attempt-2"⟩, .claimNext (atMillis 30) oneSecond 1⟩ := by
    decide +kernel
  refine ⟨⟨hregister, trivial, ?_⟩, ⟨hcontrol, trivial, ?_⟩, ⟨hsubmit, trivial, ?_⟩,
    ⟨hclaim, trivial, ?_⟩, ⟨⟨hunanswered, unanswered_configured _⟩, ?_, ?_⟩,
    ⟨⟨hprobe, rfl, rfl⟩, trivial, ?_⟩, trivial⟩
  case refine_5 =>
    intro _ _ hkind
    cases hkind
  all_goals
    rintro ⟨_, _, _, hcall⟩
    cases hcall

/-- The probe finds the command still in work, which ends the budget of probes. -/
def stillProcessing : EdgeAction :=
  ⟨⟨"token-3", "attempt-3"⟩, .complete probeOfScale (atMillis 40)
    (.manualReview "downstream command exceeded its recovery-probe budget" scaleEngine.agentId)⟩

/-- The theorem at the end of the only probe: the command of the scale is in review. -/
theorem recovery_probes_bounded_after_probe :
    probeCount "tare-1" (afterProbe.next stillProcessing).store = scaleConfig.maxRecoveryProbes ∧
      ∃ row, (afterProbe.next stillProcessing).store.command? "tare-1" = some row ∧
        (row.state = .manualReview ∨ row.state.isTerminal = true) := by
  have hhonest : Honest afterProbe stillProcessing := by
    decide +kernel
  have hconfigured : ConfiguredCall scaleConfig stillProcessing.call :=
    ⟨scaleEngine, noTotals, rfl, probeOfScale_issues
      (.later (.ok .stillProcessing) (issues_bind_first .here))⟩
  have hnotRetried : ¬RetriesCommand "tare-1" stillProcessing.call := by
    rintro ⟨_, _, _, hcall⟩
    cases hcall
  have hspent : probeCount "tare-1" (afterProbe.next stillProcessing).store =
      scaleConfig.maxRecoveryProbes := by
    decide +kernel
  have hended : ∀ attempt ∈ (afterProbe.next stillProcessing).store.attemptsOf "tare-1",
      attempt.kind = .recoveryProbe → attempt.state ≠ .active := by
    decide +kernel
  have hstored : ((afterProbe.next stillProcessing).store.command? "tare-1").isSome = true := by
    decide +kernel
  obtain ⟨row, hrow⟩ := Option.isSome_iff_exists.mp hstored
  have hbounded := recovery_probes_bounded scaleEngine.checked
    ((run_replay EdgeState.next probedRun_keeps).trans
      (.single ⟨⟨hhonest, hconfigured⟩, trivial, hnotRetried⟩ rfl))
  exact ⟨hspent, row, hrow, (hbounded.2 row hrow).2 hspent hended⟩

/-- The scale does not answer the probe either. -/
def unansweredProbe : EdgeAction :=
  ⟨⟨"token-3", "attempt-3"⟩, .complete probeOfScale (atMillis 40)
    (.ambiguous "no answer" (atMillis 50) scaleEngine.agentId)⟩

/-- The command of the scale is claimed once more. -/
def nextProbe : EdgeAction :=
  ⟨⟨"token-3", "attempt-3"⟩, .claimNext (atMillis 60) oneSecond 1⟩

/-- A probe that ends ambiguous leaves the command waiting for a probe, although the settings
allow no other one, and the next claim makes it. -/
theorem ambiguous_probe_is_repeated :
    scaleConfig.validate.isOk = true ∧
      EdgeRun (fun σ action => EngineAction scaleConfig σ action ∧
        ¬RetriesCommand "tare-1" action.call) .initial (afterProbe.next unansweredProbe) ∧
      probeCount "tare-1" (afterProbe.next unansweredProbe).store =
        scaleConfig.maxRecoveryProbes ∧
      ((afterProbe.next unansweredProbe).store.command? "tare-1").map CommandRow.state =
        some .recoveryWait ∧
      EngineAction scaleConfig (afterProbe.next unansweredProbe) nextProbe ∧
      (nextProbe.call.claimOf ((afterProbe.next unansweredProbe).reply nextProbe)).map
        (fun claim => (claim.commandId, claim.kind)) = some ("tare-1", .recoveryProbe) := by
  have hprefix : EdgeRun (fun σ action => EngineAction scaleConfig σ action ∧
      ¬RetriesCommand "tare-1" action.call) .initial afterProbe :=
    (run_replay EdgeState.next probedRun_keeps).mono fun _ _ h => ⟨h.1, h.2.2⟩
  have hhonest : Honest afterProbe unansweredProbe := by
    decide +kernel
  have hnext : (atMillis 40).checkedAdd (scaleEngine.config.retryDelayAt
      (retryOrdinal probeOfScale)) = some (atMillis 50) := by
    decide
  have hconfigured : ConfiguredCall scaleConfig unansweredProbe.call :=
    ⟨scaleEngine, noTotals, rfl, probeOfScale_issues
      (.later (.error ⟨.ambiguous, "no answer"⟩) (handleFailure_ambiguous hnext))⟩
  have hnotRetried : ¬RetriesCommand "tare-1" unansweredProbe.call := by
    rintro ⟨_, _, _, hcall⟩
    cases hcall
  have hfresh : Honest (afterProbe.next unansweredProbe) nextProbe := by
    decide +kernel
  exact ⟨scaleEngine.checked,
    hprefix.trans (.single ⟨⟨hhonest, hconfigured⟩, hnotRetried⟩ rfl), by decide +kernel,
    by decide +kernel, ⟨hfresh, rfl, rfl⟩, by decide +kernel⟩

end Facility

end Wareboxes.ProbeBudget
