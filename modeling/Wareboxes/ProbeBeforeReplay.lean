import Wareboxes.ClaimTracking

/-!
# A command in doubt is probed before it is replayed

A command whose policy asks for a probe is in doubt once an execution of it
ended without a known outcome. From then on it waits for a probe, for an
operator, or for nothing at all, and it executes only as a probe. Two events
end the doubt: a probe that found no trace of the command, and an operator
who queues it again.
-/

namespace Wareboxes.ProbeBeforeReplay

open RustTime EdgeCommands EdgeTables EdgeClaims CommandLife EdgeMoves OperationMoves EdgeRuns
open ClaimTracking LabelledRuns

/-- The states of a command in doubt that no attempt works on. -/
def isSuspended : CommandState → Bool
  | .recoveryWait | .manualReview | .succeeded | .failed | .resolvedManually | .cancelled => true
  | .queued | .executing | .retryWait => false

/-- The command is in doubt: it is suspended, or it executes as a probe. -/
def AwaitsProbe (v : CommandView) : Prop :=
  ∃ row, v.row = some row ∧ row.request.recoveryPolicy = .probeThenRetry ∧
    (isSuspended row.state = true ∨ row.state = .executing ∧
      ∀ attempt ∈ v.attempts, attempt.state = .active → attempt.kind = .recoveryProbe)

variable {v v' : CommandView} {claim : ClaimedCommand} {now : DateTime} {maxAttempts : ℕ}
  {row : CommandRow} {completion : Completion} {s : Store} {before : AttemptRow}

theorem claimKind_of_awaitsProbe (h : CommandMove v (.claimed claim maxAttempts) now v')
    (hv : AwaitsProbe v) : claim.kind = .recoveryProbe := by
  obtain ⟨row, hrow, _, hstate⟩ := hv
  cases h with
  | claimed hbefore hwait _ _ hkind _ _ =>
    rw [hrow] at hbefore
    cases hbefore
    rw [hkind]
    rcases hstate with hsuspended | ⟨hexecuting, _⟩
    · revert hwait hsuspended
      cases row.state <;> simp [isWaiting, isSuspended, claimKind]
    · rw [hexecuting] at hwait
      cases hwait

theorem awaitsProbe_claimed (h : CommandMove v (.claimed claim maxAttempts) now v')
    (hwf : WellFormed v) (hv : AwaitsProbe v) : AwaitsProbe v' := by
  have hkind := claimKind_of_awaitsProbe h hv
  obtain ⟨row', hrow', hstate, _⟩ := h.reaches
  have hheld := claimed_heldBy h hwf hrow'
  obtain ⟨row, hrow, hpolicy, _⟩ := hv
  refine ⟨row', hrow', ?_, .inr ⟨hstate, ?_⟩⟩
  · rw [h.request_eq hrow hrow']
    exact hpolicy
  · intro attempt hattempt hactive
    exact (hheld.attempt attempt hattempt hactive).2.trans hkind

/-- A change of a stored command to a suspended state leaves it in doubt. -/
theorem awaitsProbe_suspended {event : LifeEvent} (h : CommandMove v event now v')
    (hrow : v.row = some row) (hpolicy : row.request.recoveryPolicy = .probeThenRetry)
    (htarget : isSuspended event.target = true) : AwaitsProbe v' := by
  obtain ⟨row', hrow', hstate, _⟩ := h.reaches
  refine ⟨row', hrow', ?_, .inl (by rw [hstate]; exact htarget)⟩
  rw [h.request_eq hrow hrow']
  exact hpolicy

theorem isSuspended_of_isShift {before after : CommandState} (h : isShift before after = true)
    (hqueued : after ≠ .queued) : isSuspended after = true := by
  revert h hqueued
  cases before <;> cases after <;> decide

/-- An ambiguous outcome, and every outcome of a probe but one, suspends a command that has to
be probed. -/
theorem isSuspended_completionTarget
    (hpolicy : claim.envelope.request.recoveryPolicy = .probeThenRetry)
    (hcompletion : completionAttemptState claim completion = .ambiguous ∨
      claim.kind = .recoveryProbe ∧ completion ≠ .notFound) :
    isSuspended (completionTarget claim completion) = true := by
  cases completion with
  | success | permanent | deferRecovery | manualReview => rfl
  | retryable =>
    rcases hcompletion with hambiguous | ⟨hprobe, _⟩
    · simp only [completionAttemptState] at hambiguous
      split_ifs at hambiguous
    · simp only [completionTarget, retryTarget, hprobe, if_true]
      split_ifs <;> rfl
  | ambiguous => simp only [completionTarget, hpolicy, ambiguousTarget, isSuspended]
  | notFound =>
    rcases hcompletion with hambiguous | ⟨_, hne⟩
    · cases hambiguous
    · exact absurd rfl hne

variable {σ σ' : EdgeState} {action : EdgeAction} {t t' : Store} {label : MoveLabel}
  {commandId : String}

/-- A revoked lease suspends a command that has to be probed. -/
theorem isSuspended_of_abandoned {target : CommandState} {reason : String}
    (hadmits : Admits action.ids σ.store action.call
      (.command commandId (.abandoned target reason) now))
    (ht : Tracked σ t) (hrow : t.command? commandId = some row) (hstate : row.state = .executing)
    (hpolicy : row.request.recoveryPolicy = .probeThenRetry) : isSuspended target = true := by
  rcases ht.abandoned hadmits hrow hstate with rfl | ⟨_, _, _, rfl⟩
  · rfl
  · rw [hpolicy]
    rfl

/-- A move keeps the doubt, unless a probe found nothing or an operator queued the command. -/
theorem move_awaitsProbe (h : Move t label t')
    (hadmits : Admits action.ids σ.store action.call label) (ht : Tracked σ t)
    (hissued : completesIssued σ.issued action.call)
    (hretry : ∀ actor reason now, action.call ≠ .retryAfterReview commandId actor reason now)
    (hprobe : ∀ claim now, claim.commandId = commandId →
      action.call ≠ .complete claim now .notFound)
    (hv : AwaitsProbe (viewOf t commandId)) : AwaitsProbe (viewOf t' commandId) := by
  rcases h.view_cases commandId with hsame | ⟨event, now, rfl, hmove, _⟩
  · rw [hsame]
    exact hv
  obtain ⟨row, hrow, hpolicy, hstate⟩ := hv
  cases event with
  | submitted =>
    rw [hmove.submitted_inv.1] at hrow
    cases hrow
  | claimed =>
    exact awaitsProbe_claimed hmove (ht.store.views commandId) ⟨row, hrow, hpolicy, hstate⟩
  | finished claim =>
    refine awaitsProbe_suspended hmove hrow hpolicy ?_
    obtain ⟨row', attempt, hrow', hexecuting, _, hattempt, _, hactive, _⟩ := hmove.finished_inv
    rw [hrow] at hrow'
    cases hrow'
    have hheld := ht.finished hadmits hissued hmove hrow
    have hprobing : attempt.kind = .recoveryProbe := by
      rcases hstate with hsuspended | ⟨_, hall⟩
      · rw [hexecuting] at hsuspended
        cases hsuspended
      · exact hall attempt hattempt hactive
    refine isSuspended_completionTarget (by rw [hheld.envelope]; exact hpolicy)
      (.inr ⟨(hheld.attempt attempt hattempt hactive).2.symm.trans hprobing, ?_⟩)
    rintro rfl
    obtain ⟨hcall, hcommand⟩ := admits_finished hadmits
    exact hprobe claim now hcommand.symm hcall
  | abandoned =>
    obtain ⟨row', hrow', hexecuting, _⟩ := hmove.abandoned_inv
    rw [hrow] at hrow'
    cases hrow'
    exact awaitsProbe_suspended hmove hrow hpolicy
      (isSuspended_of_abandoned hadmits ht hrow hexecuting hpolicy)
  | shifted =>
    obtain ⟨_, _, _, hshift, _⟩ := hmove.shifted_inv
    refine awaitsProbe_suspended hmove hrow hpolicy (isSuspended_of_isShift hshift ?_)
    rintro rfl
    obtain ⟨actor, reason, hcall⟩ := admits_requeued hadmits
    exact hretry actor reason now hcall

/-- A call ends an execution of the command without a known outcome. -/
def EndsUnknown (commandId : String) (s s' : Store) : Prop :=
  ∃ before ∈ s.attemptsOf commandId, ∃ after ∈ s'.attemptsOf commandId,
    before.attemptId = after.attemptId ∧ before.state = .active ∧ before.kind = .execute ∧
      (after.state = .ambiguous ∨ after.state = .abandoned)

/-- A call ends a probe of the command that found nothing. -/
def EndsNotFound (commandId : String) (s s' : Store) : Prop :=
  ∃ before ∈ s.attemptsOf commandId, ∃ after ∈ s'.attemptsOf commandId,
    before.attemptId = after.attemptId ∧ before.state = .active ∧ before.kind = .recoveryProbe ∧
      after.state = .notFound

/-- A call starts an execution of the command. -/
def StartsExecution (commandId : String) (s s' : Store) : Prop :=
  ∃ after ∈ s'.attemptsOf commandId, after.kind = .execute ∧
    ∀ before ∈ s.attemptsOf commandId, before.attemptId ≠ after.attemptId

/-- A call of an honest run that neither ends a probe of the command with nothing found nor
queues the command after a review. -/
def KeepsDoubt (commandId : String) (σ : EdgeState) (action : EdgeAction) : Prop :=
  Honest σ action ∧ ¬EndsNotFound commandId σ.store (σ.next action).store ∧
    ∀ actor reason now, action.call ≠ .retryAfterReview commandId actor reason now

/-- Attempts of a command are told apart by their identifiers. -/
theorem attempt_unique {first second : AttemptRow} (hfirst : first ∈ s.attemptsOf commandId)
    (hsecond : second ∈ s.attemptsOf commandId) (hid : first.attemptId = second.attemptId) :
    first = second :=
  s.attempts.eq_of_key_eq (List.mem_filter.mp hfirst).1 (List.mem_filter.mp hsecond).1 hid

/-- A completion with nothing found ends a probe. -/
theorem endsNotFound_of_complete {s s' : Store} {answer : Option Bool}
    (hs : ClaimInvariant σ.issued s) (hissued : claim ∈ σ.issued)
    (h : complete claim now .notFound s = .ok (answer, s')) :
    EndsNotFound claim.commandId s s' := by
  obtain ⟨mid, hmove, hmoves⟩ := complete_moves h
  cases hmove with
  | command hview _ _ _ _ _ =>
    obtain ⟨row, attempt, hrow, hstate, htoken, hattempt, hid, hactive, hkind, close, hclose,
      hclosed, hattempts⟩ := hview.finished_inv
    have hheld := hs.heldBy hissued hrow hstate htoken
    have hmem : close attempt ∈ mid.attemptsOf claim.commandId := by
      change close attempt ∈ (viewOf mid claim.commandId).attempts
      rw [hattempts]
      exact List.mem_map.mpr ⟨attempt, hattempt, if_pos hid⟩
    have hnotFound : (close attempt).state = .notFound := hclosed attempt
    have hfinal : close attempt ∈ s'.attemptsOf claim.commandId := by
      refine hmoves.preserves (fun t => close attempt ∈ t.attemptsOf claim.commandId) ?_ hmem
      rintro t label t' ⟨hreview, _⟩
      cases hreview
    refine ⟨attempt, hattempt, close attempt, hfinal, (hclose.attemptId attempt).symm, hactive, ?_,
      hnotFound⟩
    exact ((hheld.attempt attempt hattempt hactive).2).trans (hkind rfl)

theorem next_awaitsProbe (hσ : EdgeInvariant σ) (hkeeps : KeepsDoubt commandId σ action)
    (hv : AwaitsProbe (viewOf σ.store commandId)) :
    AwaitsProbe (viewOf (σ.next action).store commandId) := by
  obtain ⟨hhonest, hprobe, hretry⟩ := hkeeps
  rcases next_cases σ action with ⟨_, _, hsame⟩ | ⟨answer, _, hexec, _⟩
  · rw [hsame]
    exact hv
  · refine next_preserves (fun t => AwaitsProbe (viewOf t commandId)) hσ ?_ hv
    intro t label t' hadmits hmove ht
    refine move_awaitsProbe hmove hadmits ht hhonest.2 hretry ?_
    rintro claim now rfl hcall
    obtain ⟨ids, call⟩ := action
    subst hcall
    exact hprobe (endsNotFound_of_complete hσ.claims hhonest.2 hexec)

/-- Some attempt under an identifier has no known outcome. -/
def HasUnknown (attempts : List AttemptRow) (attemptId : String) : Prop :=
  ∃ attempt ∈ attempts, attempt.attemptId = attemptId ∧
    (attempt.state = .ambiguous ∨ attempt.state = .abandoned)

theorem not_hasUnknown_of_active (hbefore : before ∈ s.attemptsOf commandId)
    (hactive : before.state = .active) : ¬HasUnknown (s.attemptsOf commandId) before.attemptId := by
  rintro ⟨attempt, hattempt, hid, hunknown⟩
  rw [attempt_unique hattempt hbefore hid, hactive] at hunknown
  rcases hunknown with hstate | hstate
  · cases hstate
  · cases hstate

theorem completionAttemptState_ne_abandoned (claim : ClaimedCommand) (completion : Completion) :
    completionAttemptState claim completion ≠ .abandoned := by
  cases completion <;> simp only [completionAttemptState, ne_eq, reduceCtorEq, not_false_eq_true]
  split_ifs <;> simp

/-- The move that leaves an execution without a known outcome puts its command in doubt. -/
theorem move_hasUnknown (h : Move t label t')
    (hadmits : Admits action.ids σ.store action.call label) (ht : Tracked σ t)
    (hissued : completesIssued σ.issued action.call)
    (hpolicy : ∀ row, σ.store.command? commandId = some row →
      row.request.recoveryPolicy = .probeThenRetry)
    (hbefore : before ∈ σ.store.attemptsOf commandId) (hactive : before.state = .active)
    (hinv : HasUnknown (t.attemptsOf commandId) before.attemptId →
      AwaitsProbe (viewOf t commandId) ∧
        ∀ actor reason now, action.call ≠ .retryAfterReview commandId actor reason now)
    (hunknown : HasUnknown (t'.attemptsOf commandId) before.attemptId) :
    AwaitsProbe (viewOf t' commandId) ∧
      ∀ actor reason now, action.call ≠ .retryAfterReview commandId actor reason now := by
  have hstill : ∀ row, t.command? commandId = some row → row.state = .executing →
      before ∈ t.attemptsOf commandId ∧ row.request.recoveryPolicy = .probeThenRetry := by
    intro row hrow hstate
    have hview := ht.executing commandId row hrow hstate
    have hattempts : t.attemptsOf commandId = σ.store.attemptsOf commandId :=
      congrArg CommandView.attempts hview
    have hstored : σ.store.command? commandId = some row :=
      (congrArg CommandView.row hview).symm.trans hrow
    exact ⟨hattempts ▸ hbefore, hpolicy row hstored⟩
  change HasUnknown (viewOf t' commandId).attempts before.attemptId at hunknown
  rcases h.view_cases commandId with hsame | ⟨event, now, rfl, hmove, _⟩
  · rw [hsame] at hunknown ⊢
    exact hinv hunknown
  cases event with
  | submitted =>
    obtain ⟨hnone, _, hattempts⟩ := hmove.submitted_inv
    rw [hattempts, (ht.store.views commandId).unsubmitted hnone] at hunknown
    obtain ⟨attempt, hattempt, _⟩ := hunknown
    cases hattempt
  | claimed =>
    obtain ⟨_, sequence, _, _, _, hattempts⟩ := hmove.claimed_inv
    rw [hattempts] at hunknown
    obtain ⟨attempt, hattempt, hid, hstate⟩ := hunknown
    rcases List.mem_append.mp hattempt with hold | hnew
    · obtain ⟨hv, hretry⟩ := hinv ⟨attempt, hold, hid, hstate⟩
      exact ⟨awaitsProbe_claimed hmove (ht.store.views commandId) hv, hretry⟩
    · rw [List.mem_singleton.mp hnew] at hstate
      rcases hstate with hstate | hstate
      · cases hstate
      · cases hstate
  | finished claim completion =>
    obtain ⟨row, _, hrow, hexecuting, _, _, _, _, _, close, hclose, hclosed, hattempts⟩ :=
      hmove.finished_inv
    obtain ⟨hmem, hprobing⟩ := hstill row hrow hexecuting
    rw [hattempts] at hunknown
    obtain ⟨after, hafter, hid, hstate⟩ := hunknown
    obtain ⟨other, hother, hsame, _, hafter⟩ := hclose.mem_map hafter
    have heq : other = before := attempt_unique hother hmem (hsame.trans hid)
    have hambiguous : completionAttemptState claim completion = .ambiguous := by
      rw [hafter, heq] at hstate
      split_ifs at hstate
      · rw [hclosed] at hstate
        exact hstate.resolve_right (completionAttemptState_ne_abandoned claim completion)
      · rw [hactive] at hstate
        rcases hstate with hstate | hstate
        · cases hstate
        · cases hstate
    have hheld := ht.finished hadmits hissued hmove hrow
    refine ⟨awaitsProbe_suspended hmove hrow hprobing (isSuspended_completionTarget
      (by rw [hheld.envelope]; exact hprobing) (.inl hambiguous)), ?_⟩
    rw [(admits_finished hadmits).1]
    intro actor reason now' he
    cases he
  | abandoned =>
    obtain ⟨row, hrow, hexecuting, _⟩ := hmove.abandoned_inv
    obtain ⟨_, hprobing⟩ := hstill row hrow hexecuting
    refine ⟨awaitsProbe_suspended hmove hrow hprobing
      (isSuspended_of_abandoned hadmits ht hrow hexecuting hprobing), ?_⟩
    intro actor reason now' hcall
    rw [hcall] at hadmits
    cases hadmits
  | shifted =>
    obtain ⟨row, -, _, hshift, hattempts⟩ := hmove.shifted_inv
    rw [hattempts] at hunknown
    obtain ⟨⟨other, hother, hprobing, _⟩, hretry⟩ := hinv hunknown
    refine ⟨awaitsProbe_suspended hmove hother hprobing (isSuspended_of_isShift hshift ?_), hretry⟩
    rintro rfl
    obtain ⟨actor, reason, hcall⟩ := admits_requeued hadmits
    exact hretry actor reason now hcall

/-- A call that ends an execution without a known outcome puts its command in doubt. -/
theorem awaitsProbe_of_endsUnknown (hσ : EdgeInvariant σ) (hhonest : Honest σ action)
    (hpolicy : ∀ row, σ.store.command? commandId = some row →
      row.request.recoveryPolicy = .probeThenRetry)
    (hend : EndsUnknown commandId σ.store (σ.next action).store) :
    AwaitsProbe (viewOf (σ.next action).store commandId) := by
  obtain ⟨before, hbefore, after, hafter, hid, hactive, _, hunknown⟩ := hend
  have hdoubt := @next_preserves σ action
    (fun t => HasUnknown (t.attemptsOf commandId) before.attemptId →
      AwaitsProbe (viewOf t commandId) ∧
        ∀ actor reason now, action.call ≠ .retryAfterReview commandId actor reason now) hσ ?_ ?_
  · exact (hdoubt ⟨after, hafter, hid.symm, hunknown⟩).1
  · intro t label t' hadmits hmove ht hinv
    exact move_hasUnknown hmove hadmits ht hhonest.2 hpolicy hbefore hactive hinv
  · intro hunknown'
    exact absurd hunknown' (not_hasUnknown_of_active hbefore hactive)

theorem run_awaitsProbe (h : EdgeRun (KeepsDoubt commandId) σ σ') (hσ : EdgeInvariant σ)
    (hv : AwaitsProbe (viewOf σ.store commandId)) :
    EdgeInvariant σ' ∧ AwaitsProbe (viewOf σ'.store commandId) := by
  refine h.preserves (fun σ => EdgeInvariant σ ∧ AwaitsProbe (viewOf σ.store commandId)) ?_ ⟨hσ, hv⟩
  rintro σ action σ' hkeeps rfl ⟨hσ, hv⟩
  exact ⟨next_edgeInvariant hkeeps.1 hσ, next_awaitsProbe hσ hkeeps hv⟩

theorem not_startsExecution (hv : AwaitsProbe (viewOf σ.store commandId)) :
    ¬StartsExecution commandId σ.store (σ.next action).store := by
  rintro ⟨after, hafter, hexecute, hnew⟩
  rcases next_cases σ action with ⟨_, _, hsame⟩ | ⟨answer, _, hexec, _⟩
  · rw [hsame] at hafter
    exact hnew after hafter rfl
  rcases exec_cases hexec with ⟨claim, maxAttempts, now, _, _, _, hmove⟩ | ⟨_, hmoves⟩
  · change after ∈ (viewOf (σ.next action).store commandId).attempts at hafter
    rcases hmove.view_cases commandId with hsame | ⟨event, now', hlabel, hchange, _⟩
    · rw [hsame] at hafter
      exact hnew after hafter rfl
    · cases hlabel
      have hprobe := claimKind_of_awaitsProbe hchange hv
      rcases hchange.attempts_cases hafter with ⟨before, hbefore, hid, _⟩ |
        ⟨other, _, sequence, hclaimed, hopened⟩
      · exact hnew before hbefore hid
      · cases hclaimed
        rw [hopened] at hexecute
        have hkind : claim.kind = .execute := hexecute
        rw [hprobe] at hkind
        cases hkind
  · have hold : ∀ after ∈ (σ.next action).store.attemptsOf commandId,
        ∃ before ∈ σ.store.attemptsOf commandId, before.attemptId = after.attemptId := by
      refine hmoves.preserves (fun t => ∀ after ∈ t.attemptsOf commandId,
        ∃ before ∈ σ.store.attemptsOf commandId, before.attemptId = after.attemptId) ?_ ?_
      · rintro t label t' ⟨_, hlabel⟩ hmove hinv after hafter
        change after ∈ (viewOf t' commandId).attempts at hafter
        rcases hmove.view_cases commandId with hsame | ⟨event, now, rfl, hchange, _⟩
        · rw [hsame] at hafter
          exact hinv after hafter
        · rcases hchange.attempts_cases hafter with ⟨before, hbefore, hid, _⟩ |
            ⟨claim, maxAttempts, _, rfl, _⟩
          · obtain ⟨first, hfirst, hsame⟩ := hinv before hbefore
            exact ⟨first, hfirst, hsame.trans hid⟩
          · exact absurd rfl (hlabel commandId claim maxAttempts now)
      · exact fun after hafter => ⟨after, hafter, rfl⟩
    obtain ⟨before, hbefore, hid⟩ := hold after hafter
    exact hnew before hbefore hid

/-- When a call ends an execution of a command that has to be probed without a known outcome, no
later call starts an execution of it, as long as no probe of it ended with nothing found and no
operator queued it after a review. -/
theorem no_replay_before_probe {commandId : String} {σ σ' : EdgeState} {ending : EdgeAction}
    {row : CommandRow} (hreach : EdgeRun Honest .initial σ) (hhonest : Honest σ ending)
    (hrow : σ.store.command? commandId = some row)
    (hpolicy : row.request.recoveryPolicy = .probeThenRetry)
    (hend : EndsUnknown commandId σ.store (σ.next ending).store)
    (hrun : EdgeRun (KeepsDoubt commandId) (σ.next ending) σ') (last : EdgeAction) :
    ¬StartsExecution commandId σ'.store (σ'.next last).store := by
  have hσ := run_edgeInvariant hreach
  have hpolicy' : ∀ other, σ.store.command? commandId = some other →
      other.request.recoveryPolicy = .probeThenRetry := by
    intro other hother
    rw [hrow] at hother
    cases hother
    exact hpolicy
  have hdoubt := awaitsProbe_of_endsUnknown hσ hhonest hpolicy' hend
  exact not_startsExecution (run_awaitsProbe hrun (next_edgeInvariant hhonest hσ) hdoubt).2

/-- The execution of the scale's command times out. -/
def timeout : EdgeAction :=
  ⟨⟨"token-2", "attempt-2"⟩, .complete (scaleClaim .probeThenRetry) (atMillis 10)
    (.ambiguous "no answer" (atMillis 20) supervisor)⟩

/-- The command of the scale is claimed again. -/
def secondClaim : EdgeAction :=
  ⟨⟨"token-2", "attempt-2"⟩, .claimNext (atMillis 30) oneSecond 1⟩

/-- The theorem at a timeout of the scale: the next claim takes its command, but not to execute
it. -/
theorem no_replay_before_probe_after_timeout :
    (((afterClaim .probeThenRetry).next timeout).next secondClaim).issued.length = 2 ∧
      ¬StartsExecution "tare-1" ((afterClaim .probeThenRetry).next timeout).store
        (((afterClaim .probeThenRetry).next timeout).next secondClaim).store := by
  have hstored : ((afterClaim .probeThenRetry).store.command? "tare-1").map
      (fun row => row.request.recoveryPolicy) = some .probeThenRetry := by
    decide +kernel
  obtain ⟨row, hrow, hpolicy⟩ := Option.map_eq_some_iff.mp hstored
  have hend : EndsUnknown "tare-1" (afterClaim .probeThenRetry).store
      ((afterClaim .probeThenRetry).next timeout).store := by
    unfold EndsUnknown
    decide +kernel
  have hhonest : Honest (afterClaim .probeThenRetry) timeout := by
    decide +kernel
  exact ⟨by decide +kernel, no_replay_before_probe
    (run_replay EdgeState.next (claimedRun_honest .probeThenRetry)) hhonest hrow hpolicy hend .refl
    secondClaim⟩

end Wareboxes.ProbeBeforeReplay
