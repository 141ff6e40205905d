import Wareboxes.EdgeRuns

/-!
# A lost lease cannot be completed

The token of a claim is drawn once. When the command of the claim no longer
carries it, because the lease expired, the device was quarantined or the claim
was completed, no later call brings it back, and every completion with the
claim fails without an effect.
-/

namespace Wareboxes.ClaimFencing

open RustTime KeyedTables Transactions Transactions.Transaction EdgeTables EdgeTransitions
open EdgeClaims EdgeStoreCalls CommandLife EdgeMoves TransitionMoves OperationMoves EdgeRuns
open LabelledRuns

variable {s s' : Store} {claim : ClaimedCommand}

/-- The command of a claim still carries its token. -/
def holdsLease (s : Store) (claim : ClaimedCommand) : Bool :=
  (s.command? claim.commandId).any fun row => decide (row.leaseToken = some claim.leaseToken)

theorem holdsLease_eq_false :
    holdsLease s claim = false ↔ ∀ row, s.command? claim.commandId = some row →
      row.leaseToken ≠ some claim.leaseToken := by
  unfold holdsLease
  cases s.command? claim.commandId with
  | none | some => simp

theorem holdsLease_of_token {row : CommandRow} (hrow : s.command? claim.commandId = some row)
    (htoken : row.leaseToken = some claim.leaseToken) : holdsLease s claim = true := by
  unfold holdsLease
  rw [hrow]
  simp [htoken]

/-- A move does not hand out a claim under the token of this one. -/
def LeavesToken (claim : ClaimedCommand) (label : MoveLabel) : Prop :=
  ∀ commandId other maxAttempts now, label = .command commandId (.claimed other maxAttempts) now →
    other.leaseToken ≠ claim.leaseToken

variable {label : MoveLabel} {now : DateTime} {α : Type}

theorem move_holdsLease (h : Move s label s') (hlabel : LeavesToken claim label)
    (hlost : holdsLease s claim = false) : holdsLease s' claim = false := by
  rw [holdsLease_eq_false] at hlost ⊢
  intro row' hrow'
  rcases h.view_cases claim.commandId with hsame | ⟨event, now, rfl, hmove, _⟩
  · exact hlost row' ((congrArg CommandView.row hsame).symm.trans hrow')
  · generalize hv' : viewOf s' claim.commandId = v' at hmove
    have hrow : v'.row = some row' := by
      rw [← hv']
      exact hrow'
    cases hmove with
    | submitted | finished | abandoned =>
      cases hrow
      simp
    | claimed =>
      cases hrow
      exact fun he => hlabel _ _ _ _ rfl (Option.some.inj he)
    | shifted _ _ htoken =>
      cases hrow
      rw [UnleasedTransition.rewrite_leaseToken, htoken]
      simp

theorem moves_holdsLease {admits : MoveLabel → Prop} (h : Moves admits s s')
    (hadmits : ∀ label, admits label → LeavesToken claim label)
    (hlost : holdsLease s claim = false) : holdsLease s' claim = false :=
  h.preserves (fun s => holdsLease s claim = false)
    (fun _ label _ hlabel hmove => move_holdsLease hmove (hadmits label hlabel)) hlost

theorem isFallback_leavesToken {targets : String → Prop} {reason : String}
    (h : IsFallback targets reason now label) : LeavesToken claim label := by
  rintro commandId other maxAttempts now' rfl
  exact absurd h not_isFallback_claimed

variable {σ σ' : EdgeState} {action : EdgeAction}

theorem next_issued (hissued : claim ∈ σ.issued) : claim ∈ (σ.next action).issued :=
  List.mem_append_left _ hissued

theorem next_holdsLease (hhonest : Honest σ action) (hissued : claim ∈ σ.issued)
    (hlost : holdsLease σ.store claim = false) :
    holdsLease (σ.next action).store claim = false := by
  rcases next_cases σ action with ⟨_, _, hsame⟩ | ⟨answer, _, hexec, _⟩
  · rw [hsame]
    exact hlost
  · refine moves_holdsLease (exec_moves hexec) ?_ hlost
    rintro label hadmits commandId other maxAttempts now rfl htoken
    obtain ⟨hdrawn, _⟩ := admits_claimed hadmits
    exact (hhonest.1 claim hissued).1 (htoken.symm.trans hdrawn)

theorem run_holdsLease (h : EdgeRun Honest σ σ') (hissued : claim ∈ σ.issued)
    (hlost : holdsLease σ.store claim = false) :
    claim ∈ σ'.issued ∧ holdsLease σ'.store claim = false := by
  refine h.preserves (fun σ => claim ∈ σ.issued ∧ holdsLease σ.store claim = false) ?_
    ⟨hissued, hlost⟩
  rintro σ action σ' hhonest rfl ⟨hissued, hlost⟩
  exact ⟨next_issued hissued, next_holdsLease hhonest hissued hlost⟩

/-- The checks that a completion makes on its own arguments before it looks at the store. -/
def AcceptedArguments (claim : ClaimedCommand) : Completion → Prop
  | .success result => result.validateFor claim.envelope.request.command = .ok ()
  | .retryable message .. | .permanent message | .ambiguous message .. =>
    (truncateMessage message).isSome = true
  | .deferRecovery message _ =>
    claim.kind = .recoveryProbe ∧ (truncateMessage message).isSome = true
  | .notFound => claim.kind = .recoveryProbe
  | .manualReview reason _ => (truncateMessage reason).isSome = true

theorem finishClaim_of_lost {effect : ClaimCompletion} (hlost : holdsLease s claim = false) :
    finishClaim claim now effect s = .error (.error (.leaseMismatch claim.commandId)) := by
  unfold finishClaim
  refine bind_of_error ?_
  unfold updateCommand
  rw [gets_bind]
  refine bind_of_error (orFail_error.mpr ⟨KeyedTable.updateOne?_eq_none ?_, rfl⟩)
  intro row hrow
  have htoken := holdsLease_eq_false.mp hlost row hrow
  simp [htoken]

/-- A sequence halts where its first part does. -/
theorem halts_bind {α β : Type} {first : StoreTx α} {next : α → StoreTx β}
    {explains : Halt StoreError → Prop} (h : ∃ halt, first s = .error halt ∧ explains halt) :
    ∃ halt, (first >>= next) s = .error halt ∧ explains halt := by
  obtain ⟨halt, hhalt, hexplains⟩ := h
  exact ⟨halt, bind_of_error hhalt, hexplains⟩

/-- A failure is the failure of an operation that goes on with a message, unless the message
cannot be stored. -/
theorem messaged_of_lost {message : String} {finish : String → StoreTx α}
    (hfinish : ∀ text, finish text s = .error (.error (.leaseMismatch claim.commandId))) :
    ∃ halt, (orPanic (truncateMessage message) >>= finish) s = .error halt ∧
      ((truncateMessage message).isSome = true →
        halt = .error (.leaseMismatch claim.commandId)) := by
  cases htext : truncateMessage message with
  | none => exact ⟨.panic, orPanic_bind_of_none rfl, by simp⟩
  | some text => exact ⟨_, (orPanic_bind_of_some rfl).trans (hfinish text), fun _ => rfl⟩

/-- A failure is the failure of an operation behind a guard, unless the guard refuses. -/
theorem guarded_of_lost {condition accepted : Prop} [Decidable condition] {refusal : StoreError}
    {rest : Unit → StoreTx α} (hrest : ∃ halt, rest () s = .error halt ∧
      (accepted → halt = .error (.leaseMismatch claim.commandId))) :
    ∃ halt, (ensure condition refusal >>= rest) s = .error halt ∧
      (condition ∧ accepted → halt = .error (.leaseMismatch claim.commandId)) := by
  by_cases hcondition : condition
  · obtain ⟨halt, hhalt, hmismatch⟩ := hrest
    exact ⟨halt, (ensure_bind_of_true hcondition).trans hhalt, fun h => hmismatch h.2⟩
  · exact ⟨_, ensure_bind_of_false hcondition, fun h => absurd h.1 hcondition⟩

/-- A completion without the lease fails, and names the lost lease unless it already refused
its arguments. -/
theorem complete_of_lost (completion : Completion) (hlost : holdsLease s claim = false) :
    ∃ halt, complete claim now completion s = .error halt ∧
      (AcceptedArguments claim completion → halt = .error (.leaseMismatch claim.commandId)) := by
  have hfinish : ∀ effect, finishClaim claim now effect s =
      .error (.error (.leaseMismatch claim.commandId)) := fun _ => finishClaim_of_lost hlost
  cases completion with
  | success result =>
    cases hcheck : result.validateFor claim.envelope.request.command with
    | error reason =>
      refine ⟨.error (.command reason), bind_of_error (lift_bind_of_error ?_), fun haccepted => ?_⟩
      · rw [hcheck]
        rfl
      · change result.validateFor claim.envelope.request.command = .ok () at haccepted
        rw [hcheck] at haccepted
        cases haccepted
    | ok out =>
      have hlift : liftCommand (result.validateFor claim.envelope.request.command) = .ok out :=
        liftCommand_ok.mpr hcheck
      exact ⟨_, bind_of_error ((lift_bind_of_ok hlift).trans (hfinish _)), fun _ => rfl⟩
  | retryable =>
    apply halts_bind
    unfold retryableFailure
    exact messaged_of_lost fun text => bind_of_error (hfinish _)
  | permanent =>
    apply halts_bind
    unfold permanentFailure
    exact messaged_of_lost fun text => hfinish _
  | ambiguous =>
    apply halts_bind
    unfold ambiguousFailure
    exact messaged_of_lost fun text => bind_of_error (hfinish _)
  | deferRecovery =>
    apply halts_bind
    unfold deferRecovery
    exact guarded_of_lost (messaged_of_lost fun text => hfinish _)
  | notFound =>
    apply halts_bind
    unfold recoveryNotFound
    by_cases hprobe : claim.kind = .recoveryProbe
    · exact ⟨_, (ensure_bind_of_true hprobe).trans (hfinish _), fun _ => rfl⟩
    · exact ⟨_, ensure_bind_of_false hprobe, fun haccepted => absurd haccepted hprobe⟩
  | manualReview =>
    apply halts_bind
    unfold requireManualReview
    exact messaged_of_lost fun text => hfinish _

theorem complete_releases {completion : Completion} {answer : Option Bool}
    (h : complete claim now completion s = .ok (answer, s')) : holdsLease s' claim = false := by
  obtain ⟨mid, hmove, hmoves⟩ := complete_moves h
  refine moves_holdsLease hmoves (fun label ⟨_, _, _, h⟩ => isFallback_leavesToken h) ?_
  rw [holdsLease_eq_false]
  intro row hrow
  cases hmove with
  | command hview =>
    generalize hv' : viewOf mid claim.commandId = v' at hview
    have hrow' : v'.row = some row := by
      rw [← hv']
      exact hrow
    cases hview with
    | finished =>
      cases hrow'
      simp

/-- The completion of a claim. -/
abbrev completing (ids : FreshIds) (claim : ClaimedCommand) (now : DateTime)
    (completion : Completion) : EdgeAction :=
  ⟨ids, .complete claim now completion⟩

/-- A completion without the lease is refused and changes nothing. -/
theorem refused_of_lost (ids : FreshIds) (now : DateTime) (completion : Completion)
    (hlost : holdsLease σ.store claim = false) :
    σ.next (completing ids claim now completion) = σ ∧
      ∃ halt, σ.reply (completing ids claim now completion) = .error halt ∧
        (AcceptedArguments claim completion →
          halt = .error (.leaseMismatch claim.commandId)) := by
  obtain ⟨halt, hhalt, hmismatch⟩ := @complete_of_lost σ.store claim now completion hlost
  rcases next_cases σ (completing ids claim now completion) with
    ⟨other, hreply, hsame⟩ | ⟨answer, _, hexec, _⟩
  · refine ⟨hsame, halt, ?_, hmismatch⟩
    unfold EdgeState.reply
    exact congrArg Prod.fst (commit_of_error hhalt)
  · have hok : complete claim now completion σ.store = .ok (answer, _) := hexec
    rw [hhalt] at hok
    cases hok

/-- A claim that was handed out and whose lease was lost can never be completed: in every later
state of every run with fresh identifiers each of the seven completions fails and leaves the state
exactly as it was, and the error is the lost lease whenever the completion accepts its own
arguments. A claim that was completed once is never completed again. -/
theorem lost_lease_is_fenced {claim : ClaimedCommand} {σ : EdgeState} (hissued : claim ∈ σ.issued) :
    (holdsLease σ.store claim = false → ∀ σ', EdgeRun Honest σ σ' → ∀ ids now completion,
      σ'.next (completing ids claim now completion) = σ' ∧
        ∃ halt, σ'.reply (completing ids claim now completion) = .error halt ∧
          (AcceptedArguments claim completion →
            halt = .error (.leaseMismatch claim.commandId))) ∧
    (∀ ids now completion answer, σ.reply (completing ids claim now completion) = .ok answer →
      ∀ σ', EdgeRun Honest (σ.next (completing ids claim now completion)) σ' →
        ∀ ids' now' completion', ∃ halt,
          σ'.reply (completing ids' claim now' completion') = .error halt) := by
  constructor
  · intro hlost σ' hrun ids now completion
    exact refused_of_lost ids now completion (run_holdsLease hrun hissued hlost).2
  · intro ids now completion answer hreply σ' hrun ids' now' completion'
    have hlost : holdsLease (σ.next (completing ids claim now completion)).store claim = false := by
      rcases next_cases σ (completing ids claim now completion) with
        ⟨other, herror, _⟩ | ⟨_, _, hexec, _⟩
      · rw [hreply] at herror
        cases herror
      · exact complete_releases hexec
    obtain ⟨_, halt, hhalt, _⟩ := refused_of_lost ids' now' completion'
      (run_holdsLease hrun (next_issued hissued) hlost).2
    exact ⟨halt, hhalt⟩

/-- The theorem at the claim of a scale that was disabled under way. -/
theorem lost_lease_is_fenced_after_disabling :
    scaleClaim .manualReview ∈ (afterRevocation .manualReview).issued ∧
      ∃ halt, (afterRevocation .manualReview).reply (completing ⟨"token-3", "attempt-3"⟩
          (scaleClaim .manualReview) (atMillis 5) (.permanent "rejected")) = .error halt ∧
        halt = .error (.leaseMismatch "tare-1") := by
  have hissued : scaleClaim .manualReview ∈ (afterRevocation .manualReview).issued := by
    decide +kernel
  have hlost : holdsLease (afterRevocation .manualReview).store (scaleClaim .manualReview) =
      false := by
    decide +kernel
  have haccepted : (truncateMessage "rejected").isSome = true := by
    decide +kernel
  obtain ⟨_, halt, hhalt, hmismatch⟩ := (lost_lease_is_fenced hissued).1 hlost _ .refl
    ⟨"token-3", "attempt-3"⟩ (atMillis 5) (.permanent "rejected")
  exact ⟨hissued, halt, hhalt, hmismatch haccepted⟩

/-- A completion that refuses its arguments does not get to the lease: the result of a printer
is refused as such, although the lease of the scale's claim was revoked. -/
theorem refused_result_hides_lost_lease :
    Replays EdgeState.next Honest (revokedRun .manualReview) .initial ∧
      scaleClaim .manualReview ∈ (afterRevocation .manualReview).issued ∧
      holdsLease (afterRevocation .manualReview).store (scaleClaim .manualReview) = false ∧
      (complete (scaleClaim .manualReview) (atMillis 5) (.success (.printer ⟨"job-1"⟩))
        (afterRevocation .manualReview).store).map Prod.fst =
        .error (.error (.command .resultKindMismatch)) := by
  refine ⟨?_, ?_, ?_, ?_⟩
  · refine ⟨?_, ?_, ?_, ?_, ?_, trivial⟩ <;> decide +kernel
  · decide +kernel
  · decide +kernel
  · decide +kernel

end Wareboxes.ClaimFencing
