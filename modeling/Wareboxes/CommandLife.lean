import Wareboxes.AuditChains
import Wareboxes.EdgeClaims

/-!
# The life of one command

What the store knows about one command is its row, its attempts and its audit
trail. This module says which changes of that view a store operation can make,
one constructor for each kind of change, and derives what holds of every
command at any time: the audit trail is linked and ends in the stored state,
no entry leaves a terminal state, a lease is held exactly while the command
executes, and an executing command has exactly one active attempt.
-/

namespace Wareboxes.CommandLife

open RustTime EdgeTypes EdgeCommands EdgeTables
open EdgeTransitions EdgeOperations EdgeClaims
open AuditChains

/-- Everything the store keeps about one command. -/
structure CommandView where
  /-- The stored command, if it was submitted. -/
  row : Option CommandRow
  /-- Its attempts, oldest first. -/
  attempts : List AttemptRow
  /-- Its audit trail, oldest first. -/
  events : List CommandEventRow

/-- The view that a store has of a command. -/
def viewOf (s : Store) (commandId : String) : CommandView :=
  ⟨s.command? commandId, s.attemptsOf commandId, s.eventsOf commandId⟩

/-- Where a completion sends the command of its claim. -/
def completionTarget (claim : ClaimedCommand) : Completion → CommandState
  | .success _ => .succeeded
  | .retryable _ _ limits _ => retryTarget claim limits
  | .permanent _ => .failed
  | .ambiguous .. => ambiguousTarget claim.envelope.request.recoveryPolicy
  | .deferRecovery .. => .recoveryWait
  | .notFound => .queued
  | .manualReview .. => .manualReview

/-- How a completion ends the attempt of its claim. -/
def completionAttemptState (claim : ClaimedCommand) : Completion → AttemptState
  | .success _ => .succeeded
  | .retryable _ _ limits _ =>
    if retryExhausted claim limits then .manualReview else .retryableFailure
  | .permanent _ => .permanentFailure
  | .ambiguous .. => .ambiguous
  | .deferRecovery .. => .stillProcessing
  | .notFound => .notFound
  | .manualReview .. => .manualReview

/-- The completions that only a recovery probe may use. -/
def isProbeOnly : Completion → Bool
  | .deferRecovery .. | .notFound => true
  | .success _ | .retryable .. | .permanent _ | .ambiguous .. | .manualReview .. => false

/-- The result that a completion stores. -/
def completionResult : Completion → Option CommandResult
  | .success result => some result
  | .retryable .. | .permanent _ | .ambiguous .. | .deferRecovery .. | .notFound
  | .manualReview .. => none

/-- The message that a completion stores, cut to the length of the column. -/
def completionMessage : Completion → Option String
  | .success _ | .notFound => none
  | .retryable message _ _ _ | .permanent message | .ambiguous message _ _
  | .deferRecovery message _ | .manualReview message _ => truncateMessage message

/-- The reason of the fallback that a completion can force. -/
def fallbackReason : Completion → Option String
  | .retryable .. => some "device command exhausted its retry budget"
  | .ambiguous .. => some "ambiguous device outcome requires manual reconciliation"
  | .manualReview message _ => truncateMessage message
  | .success _ | .permanent _ | .deferRecovery .. | .notFound => none

/-- The record that `finishClaim` is given belongs to the completion. -/
structure Settles (claim : ClaimedCommand) (completion : Completion) (effect : ClaimCompletion) :
    Prop where
  /-- The command moves to the state of the completion. -/
  target : effect.target = completionTarget claim completion
  /-- How the attempt ends. -/
  attemptState : effect.attemptState = completionAttemptState claim completion
  /-- Only a probe is deferred or finds nothing. -/
  probe : isProbeOnly completion = true → claim.kind = .recoveryProbe
  /-- A success has a result that answers the command. -/
  answers : ∀ result, completion = .success result →
    result.validateFor claim.envelope.request.command = .ok ()
  /-- The result that is stored. -/
  result : effect.result = completionResult completion
  /-- The error that is stored. -/
  error : effect.lastError = completionMessage completion
  /-- Only an operator writes a note. -/
  note : effect.resolutionNote = none
  /-- A fallback is forced for a command that needs a review. -/
  fallback : ∀ actor reason, effect.manualFallback = some (actor, reason) →
    completionTarget claim completion = .manualReview ∧ fallbackReason completion = some reason

theorem completionTarget_ne_executing (claim : ClaimedCommand) (completion : Completion) :
    completionTarget claim completion ≠ .executing := by
  cases completion <;> simp only [completionTarget, ne_eq, reduceCtorEq, not_false_eq_true]
  · unfold retryTarget
    split_ifs <;> simp
  · unfold ambiguousTarget
    cases claim.envelope.request.recoveryPolicy <;> simp

theorem completionAttemptState_ne_active (claim : ClaimedCommand) (completion : Completion) :
    completionAttemptState claim completion ≠ .active := by
  cases completion <;> simp only [completionAttemptState, ne_eq, reduceCtorEq, not_false_eq_true]
  split_ifs <;> simp

/-- The kinds of change in the life of a command. -/
inductive LifeEvent where
  | submitted (request : CommandRequest) (mode : ControlMode)
  | claimed (claim : ClaimedCommand) (maxAttempts : ℕ)
  | finished (claim : ClaimedCommand) (completion : Completion)
  /-- The lease is taken away and its attempt abandoned, for a reason. -/
  | abandoned (target : CommandState) (reason : String)
  /-- A command that is not leased is moved, perhaps with a note. -/
  | shifted (fromState toState : CommandState) (note : Option String)

/-- The attempt that a claim opens. -/
def openedAttempt (claim : ClaimedCommand) (sequence : ℕ) (now : DateTime) : AttemptRow :=
  newAttemptRow claim.attemptId claim.commandId sequence claim.envelope.attempt claim.kind now

/-- Recovery probes among some attempts. -/
def countProbes (attempts : List AttemptRow) : ℕ :=
  attempts.countP fun row => decide (row.kind = .recoveryProbe)

theorem countProbes_concat (attempts : List AttemptRow) (attempt : AttemptRow) :
    countProbes (attempts ++ [attempt]) =
      countProbes attempts + if attempt.kind = .recoveryProbe then 1 else 0 := by
  unfold countProbes
  rw [List.countP_append, List.countP_singleton]
  simp only [decide_eq_true_eq]

/-- Active attempts among some attempts. -/
def countActive (attempts : List AttemptRow) : ℕ :=
  attempts.countP fun row => decide (row.state = .active)

/-- The transitions that operators and quarantines make on commands without a lease. -/
def isShift : CommandState → CommandState → Bool
  | .queued, .manualReview | .retryWait, .manualReview | .recoveryWait, .manualReview => true
  | .queued, .cancelled | .retryWait, .cancelled | .recoveryWait, .cancelled => true
  | .manualReview, .cancelled | .manualReview, .resolvedManually | .manualReview, .queued => true
  | _, _ => false

/-- The states that a revoked lease leads to. -/
def isRevocation : CommandState → Bool
  | .retryWait | .recoveryWait | .manualReview => true
  | _ => false

/-- One change of the view of a command. Each constructor is one audited transition of
the store together with everything it writes about the command. -/
inductive CommandMove (v : CommandView) : LifeEvent → DateTime → CommandView → Prop where
  /-- A valid request becomes a row, queued or quarantined by the mode of its device. -/
  | submitted {request : CommandRequest} {mode : ControlMode} {now : DateTime}
      (hrow : v.row = none) (hvalid : request.validate = .ok ()) :
      CommandMove v (.submitted request mode) now
        ⟨some (newCommandRow request mode now), v.attempts,
          v.events ++ [⟨request.commandId.asStr, none, (submissionStatus mode).1, none,
            (submissionStatus mode).2, now.timestampMillis⟩]⟩
  /-- A waiting command within its budget is leased and gets a new active attempt. -/
  | claimed {row : CommandRow} {claim : ClaimedCommand} {maxAttempts sequence : ℕ}
      {leaseUntil : ℤ} {now : DateTime} (hrow : v.row = some row)
      (hwait : isWaiting row.state = true)
      (hdue : row.nextAttemptAt.millis ≤ now.timestampMillis.millis)
      (hbudget : row.state = .recoveryWait ∨ row.attemptCount < maxAttempts)
      (hkind : claim.kind = claimKind row.state)
      (henvelope : claim.envelope =
        ⟨row.request, row.attemptCount + if claim.kind = .execute then 1 else 0⟩)
      (hprobes : claim.recoveryProbeCount =
        countProbes v.attempts + if claim.kind = .recoveryProbe then 1 else 0) :
      CommandMove v (.claimed claim maxAttempts) now
        ⟨some (lease claim.kind claim.leaseToken leaseUntil now row),
          v.attempts ++ [openedAttempt claim sequence now],
          v.events ++ [⟨claim.commandId, some row.state, .executing, none, claim.kind.asStr,
            now.timestampMillis⟩]⟩
  /-- The holder of the lease settles the command and closes its attempt. -/
  | finished {row : CommandRow} {attempt : AttemptRow} {claim : ClaimedCommand}
      {completion : Completion} {effect : ClaimCompletion} {now : DateTime}
      (hrow : v.row = some row) (hstate : row.state = .executing)
      (htoken : row.leaseToken = some claim.leaseToken)
      (hattempt : attempt ∈ v.attempts) (hid : attempt.attemptId = claim.attemptId)
      (hactive : attempt.state = .active) (hsettles : Settles claim completion effect) :
      CommandMove v (.finished claim completion) now
        ⟨some (effect.settle now row),
          v.attempts.map fun other =>
            if other.attemptId = claim.attemptId then effect.closeAttempt now other else other,
          v.events ++ [⟨claim.commandId, some .executing, effect.target, none, effect.reason,
            now.timestampMillis⟩]⟩
  /-- A lease is taken away and the active attempt abandoned. -/
  | abandoned {row : CommandRow} {target : CommandState} {actor : ActorId} {reason : String}
      {now : DateTime} (hrow : v.row = some row) (hstate : row.state = .executing)
      (hactive : countActive v.attempts = 1) (htarget : isRevocation target = true) :
      CommandMove v (.abandoned target reason) now
        ⟨some (revokeLease target reason now row),
          v.attempts.map fun other =>
            if other.state = .active then abandonAttempt reason now other else other,
          v.events ++ [⟨row.key, some .executing, target, some actor, reason,
            now.timestampMillis⟩]⟩
  /-- A command without a lease is moved by an operator or a quarantine. -/
  | shifted {row : CommandRow} {transition : UnleasedTransition} {now : DateTime}
      (hrow : v.row = some row) (hstate : row.state = transition.fromState)
      (htoken : row.leaseToken = none)
      (hshift : isShift transition.fromState transition.toState = true) :
      CommandMove v
        (.shifted transition.fromState transition.toState transition.resolutionNote) now
        ⟨some (transition.rewrite now row), v.attempts,
          v.events ++ [⟨row.key, some transition.fromState, transition.toState, transition.actor,
            transition.reason, now.timestampMillis⟩]⟩

/-- The transition that an entry of the audit trail records. -/
def CommandEventRow.transition (event : CommandEventRow) : Option CommandState × CommandState :=
  (event.fromState, event.toState)

/-- What holds of the view of a command at any time. -/
structure WellFormed (v : CommandView) : Prop where
  /-- A command that was not submitted has no attempts. -/
  unsubmitted : v.row = none → v.attempts = []
  /-- The audit trail is linked and ends in the stored state. -/
  linked : Linked none (v.events.map CommandEventRow.transition) (v.row.map CommandRow.state)
  /-- No entry of the audit trail leaves a terminal state. -/
  final : ∀ event ∈ v.events, ∀ before, event.fromState = some before → before.isTerminal = false
  /-- A command has a token while it runs. -/
  token : ∀ row, v.row = some row → (row.state = .executing ↔ row.leaseToken.isSome = true)
  /-- And a time at which its lease ends. -/
  expiry : ∀ row, v.row = some row → (row.state = .executing ↔ row.leaseUntil.isSome = true)
  /-- A command has exactly one active attempt while it executes, and none otherwise. -/
  active : ∀ row, v.row = some row →
    countActive v.attempts = if row.state = .executing then 1 else 0

theorem wellFormed_absent : WellFormed ⟨none, [], []⟩ where
  unsubmitted _ := rfl
  linked := rfl
  final := by simp
  token := by simp
  expiry := by simp
  active := by simp

variable {v v' : CommandView} {event : LifeEvent} {now : DateTime} {state : CommandState}
  {row row' : CommandRow} {attempts : List AttemptRow} {claim : ClaimedCommand}
  {rewrite : AttemptRow → AttemptRow} {after : AttemptRow}

theorem ne_executing_of_isWaiting (h : isWaiting state = true) : state ≠ .executing := by
  rintro rfl
  cases h

theorem not_terminal_of_isWaiting (h : isWaiting state = true) : state.isTerminal = false := by
  cases state <;> first | rfl | cases h

/-- A shift starts from a state that is neither executing nor terminal and does not execute. -/
theorem isShift_cases {before after : CommandState} (h : isShift before after = true) :
    before ≠ .executing ∧ before.isTerminal = false ∧ after ≠ .executing := by
  revert h
  cases before <;> cases after <;> decide

theorem ne_executing_of_isRevocation (h : isRevocation state = true) : state ≠ .executing := by
  rintro rfl
  cases h

theorem submissionStatus_ne_executing (mode : ControlMode) :
    (submissionStatus mode).1 ≠ .executing := by
  unfold submissionStatus
  split_ifs <;> simp

/-- The state that a change leads to. -/
def LifeEvent.target : LifeEvent → CommandState
  | .submitted _ mode => (submissionStatus mode).1
  | .claimed .. => .executing
  | .finished claim completion => completionTarget claim completion
  | .abandoned target _ => target
  | .shifted _ toState _ => toState

section

variable (h : CommandMove v event now v')
include h

theorem CommandMove.reaches :
    ∃ row, v'.row = some row ∧ row.state = event.target ∧
      row.updatedAt = now.timestampMillis := by
  cases h with
  | submitted | claimed | abandoned | shifted => exact ⟨_, rfl, rfl, rfl⟩
  | finished _ _ _ _ _ _ hsettles => exact ⟨_, rfl, hsettles.target, rfl⟩

/-- Every change appends one entry to the audit trail, which records the transition it
makes and does not leave a terminal state. -/
theorem CommandMove.recorded :
    ∃ entry, v'.events = v.events ++ [entry] ∧ entry.fromState = v.row.map CommandRow.state ∧
      v'.row.map CommandRow.state = some entry.toState ∧
      ∀ before, entry.fromState = some before → before.isTerminal = false := by
  cases h with
  | submitted hrow _ =>
    refine ⟨_, rfl, ?_, rfl, ?_⟩
    · rw [hrow]
      rfl
    · intro before hb
      cases hb
  | claimed hrow hwait _ _ _ _ _ =>
    refine ⟨_, rfl, ?_, rfl, ?_⟩
    · rw [hrow]
      rfl
    · intro before hb
      cases hb
      exact not_terminal_of_isWaiting hwait
  | finished hrow hstate _ _ _ _ _ | abandoned hrow hstate _ _ =>
    refine ⟨_, rfl, ?_, rfl, ?_⟩
    · rw [hrow, Option.map_some, hstate]
    · intro before hb
      cases hb
      rfl
  | shifted hrow hstate _ hshift =>
    refine ⟨_, rfl, ?_, rfl, ?_⟩
    · rw [hrow, Option.map_some, hstate]
    · intro before hb
      cases hb
      exact (isShift_cases hshift).2.1

/-- The audit trail stays linked. -/
theorem CommandMove.linked
    (hv : Linked none (v.events.map CommandEventRow.transition) (v.row.map CommandRow.state)) :
    Linked none (v'.events.map CommandEventRow.transition) (v'.row.map CommandRow.state) := by
  obtain ⟨entry, hevents, hfrom, hto, _⟩ := h.recorded
  rw [hevents, List.map_append, hto]
  refine linked_concat.mpr ⟨?_, rfl⟩
  rw [hfrom]
  exact hv

/-- No entry leaves a terminal state. -/
theorem CommandMove.final
    (hv : ∀ e ∈ v.events, ∀ before, e.fromState = some before → before.isTerminal = false) :
    ∀ e ∈ v'.events, ∀ before, e.fromState = some before → before.isTerminal = false := by
  obtain ⟨entry, hevents, _, _, hfinal⟩ := h.recorded
  intro e he
  rw [hevents] at he
  rcases List.mem_append.mp he with he | he
  · exact hv e he
  · rw [List.mem_singleton.mp he]
    exact hfinal

/-- A change keeps the request of a stored command, and a submission stores its own. -/
theorem CommandMove.request_cases {row' : CommandRow} (hrow' : v'.row = some row') :
    (∃ row, v.row = some row ∧ row'.request = row.request) ∨
      ∃ mode, event = .submitted row'.request mode ∧ v.row = none := by
  cases h with
  | submitted hrow _ =>
    cases hrow'
    exact .inr ⟨_, rfl, hrow⟩
  | claimed hrow _ _ _ _ _ _ | finished hrow _ _ _ _ _ _ | abandoned hrow _ _ _
  | shifted hrow _ _ _ =>
    cases hrow'
    exact .inl ⟨_, hrow, rfl⟩

theorem CommandMove.state_eq {row' : CommandRow} (hrow' : v'.row = some row') :
    row'.state = event.target := by
  obtain ⟨reached, hreached, hstate, _⟩ := h.reaches
  rwa [Option.some.inj (hreached.symm.trans hrow')] at hstate

theorem CommandMove.request_eq (hrow : v.row = some row) (hrow' : v'.row = some row') :
    row'.request = row.request := by
  rcases h.request_cases hrow' with ⟨before, hbefore, hrequest⟩ | ⟨mode, _, hnone⟩
  · rwa [Option.some.inj (hrow.symm.trans hbefore)]
  · cases hrow.symm.trans hnone

theorem CommandMove.claimed_of_executing (htarget : event.target = .executing) :
    ∃ claim maxAttempts, event = .claimed claim maxAttempts := by
  cases h with
  | submitted => exact absurd htarget (submissionStatus_ne_executing _)
  | claimed => exact ⟨_, _, rfl⟩
  | finished => exact absurd htarget (completionTarget_ne_executing _ _)
  | abandoned _ _ _ hrevocation => exact absurd htarget (ne_executing_of_isRevocation hrevocation)
  | shifted _ _ _ hshift => exact absurd htarget (isShift_cases hshift).2.2

/-- Tokens and expiries come and go with the execution. -/
theorem CommandMove.leased
    (hv : ∀ row, v.row = some row → (row.state = .executing ↔ row.leaseToken.isSome = true) ∧
      (row.state = .executing ↔ row.leaseUntil.isSome = true)) :
    ∀ row, v'.row = some row → (row.state = .executing ↔ row.leaseToken.isSome = true) ∧
      (row.state = .executing ↔ row.leaseUntil.isSome = true) := by
  intro row hrow'
  cases h with
  | @submitted request mode now hrow _ =>
    cases hrow'
    have hne := submissionStatus_ne_executing mode
    simp [newCommandRow, hne]
  | claimed =>
    cases hrow'
    simp [lease]
  | @finished before attempt claim completion effect now hrow _ _ _ _ _ hsettles =>
    cases hrow'
    have hne := completionTarget_ne_executing claim completion
    rw [← hsettles.target] at hne
    simp [ClaimCompletion.settle, hne]
  | abandoned hrow _ _ htarget =>
    cases hrow'
    have hne := ne_executing_of_isRevocation htarget
    simp [revokeLease, hne]
  | shifted hrow hstate htoken hshift =>
    cases hrow'
    obtain ⟨hfrom, _, hto⟩ := isShift_cases hshift
    obtain ⟨_, hexpiry⟩ := hv _ hrow
    rw [hstate] at hexpiry
    have huntil := (not_congr hexpiry).mp hfrom
    exact ⟨by simp [UnleasedTransition.rewrite, hto, htoken],
      iff_of_false hto huntil⟩

end

/-- Abandoning leaves no active attempt. -/
theorem countActive_abandon (attempts : List AttemptRow) (reason : String) (now : DateTime) :
    countActive (attempts.map fun other =>
      if other.state = .active then abandonAttempt reason now other else other) = 0 := by
  refine List.countP_eq_zero.mpr fun row hrow => ?_
  obtain ⟨other, _, rfl⟩ := List.mem_map.mp hrow
  split_ifs with hactive
  · simp [abandonAttempt]
  · simp [hactive]

/-- Closing the only active attempt leaves none. -/
theorem countActive_close {attempt : AttemptRow} {attemptId : String}
    (hone : countActive attempts = 1) (hmem : attempt ∈ attempts)
    (hid : attempt.attemptId = attemptId) (hactive : attempt.state = .active)
    {close : AttemptRow → AttemptRow} (hclose : ∀ row, (close row).state ≠ .active) :
    countActive (attempts.map fun other =>
      if other.attemptId = attemptId then close other else other) = 0 := by
  have hothers : ∀ other ∈ attempts, other.state = .active → other.attemptId = attemptId := by
    intro other hother hactive'
    by_contra hne
    obtain ⟨before, after, rfl⟩ := List.append_of_mem hmem
    have hsplit : countActive before + countActive after = 0 := by
      unfold countActive at hone ⊢
      rw [List.countP_append, List.countP_cons] at hone
      simp only [hactive, decide_true, if_true] at hone
      omega
    rcases List.mem_append.mp hother with hb | ha
    · have hpos : 0 < countActive before :=
        List.countP_pos_iff.mpr ⟨other, hb, by simp [hactive']⟩
      omega
    · rcases List.mem_cons.mp ha with rfl | ha
      · exact hne hid
      · have hpos : 0 < countActive after :=
          List.countP_pos_iff.mpr ⟨other, ha, by simp [hactive']⟩
        omega
  refine List.countP_eq_zero.mpr fun row hrow => ?_
  obtain ⟨other, hother, rfl⟩ := List.mem_map.mp hrow
  split_ifs with hsame
  · simp [hclose other]
  · have hstate : other.state ≠ .active := fun h => hsame (hothers other hother h)
    simp [hstate]

section

variable (h : CommandMove v event now v')
include h

/-- The active attempt comes and goes with the execution. -/
theorem CommandMove.active (hnone : v.row = none → v.attempts = []) (hv : ∀ row, v.row = some row →
      countActive v.attempts = if row.state = .executing then 1 else 0) :
    ∀ row, v'.row = some row →
      countActive v'.attempts = if row.state = .executing then 1 else 0 := by
  intro row hrow'
  cases h with
  | @submitted request mode now hrow _ =>
    cases hrow'
    rw [hnone hrow, newCommandRow_state, if_neg (submissionStatus_ne_executing mode)]
    rfl
  | claimed hrow hwait _ _ _ _ _ =>
    cases hrow'
    have hbefore := hv _ hrow
    rw [if_neg (ne_executing_of_isWaiting hwait)] at hbefore
    unfold countActive at hbefore ⊢
    rw [List.countP_append, hbefore]
    rfl
  | @finished before attempt claim completion effect now hrow hstate _ hattempt hid hact hsettles =>
    cases hrow'
    have hbefore := hv _ hrow
    rw [if_pos hstate] at hbefore
    have htarget := completionTarget_ne_executing claim completion
    rw [← hsettles.target] at htarget
    have hclosed := completionAttemptState_ne_active claim completion
    rw [← hsettles.attemptState] at hclosed
    rw [ClaimCompletion.settle_state, if_neg htarget]
    exact countActive_close hbefore hattempt hid hact fun _ => hclosed
  | abandoned hrow _ _ htarget =>
    cases hrow'
    rw [revokeLease_state, if_neg (ne_executing_of_isRevocation htarget)]
    exact countActive_abandon _ _ _
  | shifted hrow hstate _ hshift =>
    cases hrow'
    obtain ⟨hfrom, _, hto⟩ := isShift_cases hshift
    have hbefore := hv _ hrow
    rw [hstate, if_neg hfrom] at hbefore
    rw [UnleasedTransition.rewrite_state, if_neg hto]
    exact hbefore

theorem CommandMove.wellFormed (hv : WellFormed v) : WellFormed v' where
  unsubmitted hnone := by
    obtain ⟨row, hrow, _⟩ := h.reaches
    rw [hnone] at hrow
    cases hrow
  linked := h.linked hv.linked
  final := h.final hv.final
  token row hrow := (h.leased (fun r hr => ⟨hv.token r hr, hv.expiry r hr⟩) row hrow).1
  expiry row hrow := (h.leased (fun r hr => ⟨hv.token r hr, hv.expiry r hr⟩) row hrow).2
  active := h.active hv.unsubmitted hv.active

/-- Only a claim counts an attempt. -/
theorem CommandMove.keeps_attemptCount
    (hevent : ∀ claim maxAttempts, event ≠ .claimed claim maxAttempts) (hrow : v.row = some row)
    (hrow' : v'.row = some row') : row'.attemptCount = row.attemptCount := by
  cases h with
  | submitted hnone =>
    rw [hnone] at hrow
    cases hrow
  | claimed => exact absurd rfl (hevent _ _)
  | finished hbefore | abandoned hbefore | shifted hbefore =>
    rw [hbefore] at hrow
    cases hrow
    cases hrow'
    rfl

end

/-- A rewriting of attempts that keeps what identifies them. -/
structure KeepsAttempts (rewrite : AttemptRow → AttemptRow) : Prop where
  /-- The identifier stays. -/
  attemptId : ∀ attempt, (rewrite attempt).attemptId = attempt.attemptId
  /-- A probe stays a probe. -/
  kind : ∀ attempt, (rewrite attempt).kind = attempt.kind

/-- A submission finds no command; it leaves the attempts alone. -/
theorem CommandMove.submitted_inv {request : CommandRequest} {mode : ControlMode}
    (h : CommandMove v (.submitted request mode) now v') :
    v.row = none ∧ v'.row = some (newCommandRow request mode now) ∧ v'.attempts = v.attempts := by
  cases h with
  | submitted hrow => exact ⟨hrow, rfl, rfl⟩

/-- What a completion found, and how it left the attempts. -/
theorem CommandMove.finished_inv {completion : Completion}
    (h : CommandMove v (.finished claim completion) now v') :
    ∃ row attempt, v.row = some row ∧ row.state = .executing ∧
      row.leaseToken = some claim.leaseToken ∧ attempt ∈ v.attempts ∧
      attempt.attemptId = claim.attemptId ∧ attempt.state = .active ∧
      (isProbeOnly completion = true → claim.kind = .recoveryProbe) ∧
      ∃ close, KeepsAttempts close ∧
        (∀ other, (close other).state = completionAttemptState claim completion) ∧
        v'.attempts = v.attempts.map fun other =>
          if other.attemptId = claim.attemptId then close other else other := by
  cases h with
  | @finished row attempt _ _ effect _ hrow hstate htoken hattempt hid hactive hsettles =>
    exact ⟨row, attempt, hrow, hstate, htoken, hattempt, hid, hactive, hsettles.probe,
      effect.closeAttempt now, ⟨fun _ => rfl, fun _ => rfl⟩, fun _ => hsettles.attemptState, rfl⟩

/-- What a revocation found, and how it left the attempts. -/
theorem CommandMove.abandoned_inv {target : CommandState} {reason : String}
    (h : CommandMove v (.abandoned target reason) now v') :
    ∃ row, v.row = some row ∧ row.state = .executing ∧ isRevocation target = true ∧
      ∃ close, KeepsAttempts close ∧ (∀ other, (close other).state = .abandoned) ∧
        v'.attempts = v.attempts.map fun other =>
          if other.state = .active then close other else other := by
  cases h with
  | abandoned hrow hstate _ htarget =>
    exact ⟨_, hrow, hstate, htarget, abandonAttempt reason now, ⟨fun _ => rfl, fun _ => rfl⟩,
      fun _ => rfl, rfl⟩

/-- What a shift found; it leaves the attempts alone. -/
theorem CommandMove.shifted_inv {fromState toState : CommandState} {note : Option String}
    (h : CommandMove v (.shifted fromState toState note) now v') :
    ∃ row, v.row = some row ∧ row.state = fromState ∧ isShift fromState toState = true ∧
      v'.attempts = v.attempts := by
  cases h with
  | shifted hrow hstate _ hshift => exact ⟨_, hrow, hstate, hshift, rfl⟩

/-- What a claim found, and the attempt that it opened. -/
theorem CommandMove.claimed_inv {maxAttempts : ℕ}
    (h : CommandMove v (.claimed claim maxAttempts) now v') :
    ∃ row sequence, v.row = some row ∧ isWaiting row.state = true ∧
      claim.kind = claimKind row.state ∧
      v'.attempts = v.attempts ++ [openedAttempt claim sequence now] := by
  cases h with
  | claimed hrow hwait _ _ hkind _ _ => exact ⟨_, _, hrow, hwait, hkind, rfl⟩

/-- Attempts after a rewriting come from attempts before it. -/
theorem KeepsAttempts.mem_map (hrewrite : KeepsAttempts rewrite) {selects : AttemptRow → Prop}
    [DecidablePred selects]
    (h : after ∈ attempts.map fun other => if selects other then rewrite other else other) :
    ∃ before ∈ attempts, before.attemptId = after.attemptId ∧ before.kind = after.kind ∧
      after = if selects before then rewrite before else before := by
  obtain ⟨before, hbefore, rfl⟩ := List.mem_map.mp h
  refine ⟨before, hbefore, ?_, ?_, rfl⟩
  · split_ifs
    · exact (hrewrite.attemptId before).symm
    · rfl
  · split_ifs
    · exact (hrewrite.kind before).symm
    · rfl

/-- A rewriting of attempts keeps the number of probes. -/
theorem KeepsAttempts.countProbes_map (hrewrite : KeepsAttempts rewrite)
    (selects : AttemptRow → Prop) [DecidablePred selects] (attempts : List AttemptRow) :
    countProbes (attempts.map fun other => if selects other then rewrite other else other) =
      countProbes attempts := by
  unfold countProbes
  rw [List.countP_map]
  refine List.countP_congr fun other _ => ?_
  simp only [Function.comp]
  split_ifs
  · rw [hrewrite.kind other]
  · rfl

/-- Attempts come from earlier ones, unless a claim opened them. -/
theorem CommandMove.attempts_cases (h : CommandMove v event now v') (hafter : after ∈ v'.attempts) :
    (∃ before ∈ v.attempts, before.attemptId = after.attemptId ∧ before.kind = after.kind) ∨
      ∃ claim maxAttempts sequence, event = .claimed claim maxAttempts ∧
        after = openedAttempt claim sequence now := by
  cases event with
  | submitted =>
    obtain ⟨_, _, hattempts⟩ := h.submitted_inv
    rw [hattempts] at hafter
    exact .inl ⟨after, hafter, rfl, rfl⟩
  | claimed claim maxAttempts =>
    obtain ⟨_, sequence, _, _, _, hattempts⟩ := h.claimed_inv
    rw [hattempts] at hafter
    rcases List.mem_append.mp hafter with hold | hnew
    · exact .inl ⟨after, hold, rfl, rfl⟩
    · exact .inr ⟨claim, maxAttempts, sequence, rfl, List.mem_singleton.mp hnew⟩
  | finished =>
    obtain ⟨_, _, _, _, _, _, _, _, _, close, hclose, _, hattempts⟩ := h.finished_inv
    rw [hattempts] at hafter
    obtain ⟨before, hbefore, hid, hkind, _⟩ := hclose.mem_map hafter
    exact .inl ⟨before, hbefore, hid, hkind⟩
  | abandoned =>
    obtain ⟨_, _, _, _, close, hclose, _, hattempts⟩ := h.abandoned_inv
    rw [hattempts] at hafter
    obtain ⟨before, hbefore, hid, hkind, _⟩ := hclose.mem_map hafter
    exact .inl ⟨before, hbefore, hid, hkind⟩
  | shifted =>
    obtain ⟨_, _, _, _, hattempts⟩ := h.shifted_inv
    rw [hattempts] at hafter
    exact .inl ⟨after, hafter, rfl, rfl⟩

end Wareboxes.CommandLife
