import Wareboxes.RfMovement

/-!
# Restarts of the movement workflow

A process that stops leaves its command in the store, and a new workflow takes it
back as ready or as ambiguous. The answer of the server is checked against the
draft, which is stored, and against the kind of task that the operator selected,
which is not: a new workflow has the kind for loose units. So the restart shows in
nothing when the answer brings no task or when loose units were selected, and
otherwise the new workflow asks for a supervisor.
-/

namespace Wareboxes.RfMovementRestarts

open LabelledRuns RfLanes RfMovement MovementWorkflow Lane

variable {w : MovementWorkflow} {command : PersistedCommand OwnCommand} {outcome : CommandOutcome}

/-- The runs of the workflow. -/
def WorkflowRun : MovementWorkflow → MovementWorkflow → Prop :=
  Run (fun w event w' => w' = (w.apply event).1) fun _ (_ : Event) => True

/-- The calls of the movement workflow that a restart goes through. -/
instance movementRestartable : Restartable MovementWorkflow OwnCommand CommandOutcome where
  activity := MovementWorkflow.activity
  dispatchStarted recordId w := (w.dispatchStarted recordId).1
  durableOutcomeRecorded recordId outcome w := (w.durableOutcomeRecorded recordId outcome).1
  restoreReadyCommand recordId draft w := (w.restoreReadyCommand recordId draft).1
  restoreAmbiguousCommand recordId draft message w :=
    (w.restoreAmbiguousCommand recordId draft message).1
  retryAmbiguous w := w.retryAmbiguous.1

theorem isOwn_of_operation {saved : RfCommand OwnCommand} {operation : MovementOperation}
    (h : movementOperation saved = some operation) : saved.isOwn = true := by
  cases saved with
  | own => rfl
  | other => cases h

theorem rfCommand_isOwn (command : MovementCommand) : (w.rfCommand command).isOwn = true := by
  unfold rfCommand
  cases w.operation <;> rfl

theorem beginCommand_sound (h : w.lane.Sound) (commandId key : String)
    (command : MovementCommand) : (w.beginCommand commandId key command).1.lane.Sound := by
  unfold beginCommand
  split_ifs
  · exact h
  · exact sound_persisting (rfCommand_isOwn command)

theorem submitScan_sound (h : w.lane.Sound) (commandId key : String) :
    (w.submitScan commandId key).1.lane.Sound := by
  unfold submitScan
  split
  · exact h
  · dsimp only
    split_ifs
    · exact h
    · split
      · exact h
      · split
        · unfold scanSource
          split_ifs <;> exact h
        · unfold scanLicensePlate
          split
          · exact h
          · split_ifs <;> exact h
        · unfold scanDestination
          split_ifs
          · exact h
          · split
            · exact h
            · exact beginCommand_sound (w := w.acceptScan) h commandId key _

theorem durableOutcomeRecorded_lane (recordId : ℤ) (outcome : CommandOutcome) :
    (w.durableOutcomeRecorded recordId outcome).1.lane = w.lane ∨
      (w.durableOutcomeRecorded recordId outcome).1.lane = .empty := by
  rcases w.durableOutcomeRecorded_cases recordId outcome with
    ⟨hresult, -⟩ | ⟨reason, hresult⟩ | ⟨command, -, -, -, -, hresult⟩
  · exact .inl (by rw [hresult])
  · exact .inl (by rw [hresult]; rfl)
  · rw [hresult]
    rcases w.applyOutcome_cases outcome with ⟨-, hended⟩ | ⟨-, reason, happly⟩
    · exact .inr hended.lane
    · rw [happly]
      exact .inl rfl

theorem apply_sound (h : w.lane.Sound) (event : Event) : (w.apply event).1.lane.Sound := by
  cases event with
  | editScan | requireReconciliation => exact h
  | submitScan commandId key => exact submitScan_sound h commandId key
  | commandPersisted commandId recordId =>
    change (w.commandPersisted commandId recordId).1.lane.Sound
    unfold commandPersisted
    split
    · exact h
    · next written hwritten =>
      split_ifs with hpositive
      · exact h
      · exact h.written hwritten (not_le.mp hpositive)
  | dispatchStarted recordId => exact h.frame (dispatchStarted_same recordId)
  | dispatchAmbiguous recordId message => exact h.frame (dispatchAmbiguous_same recordId message)
  | restoreReadyCommand | restoreAmbiguousCommand =>
    simp only [apply, restoreReadyCommand, restoreAmbiguousCommand]
    split
    · exact h
    · next operation hoperation =>
      split_ifs with hignored
      · exact h
      · rw [Bool.or_eq_true, decide_eq_true_eq, not_or, not_le] at hignored
        exact sound_of_persisted rfl (isOwn_of_operation hoperation) hignored.1
  | retryAmbiguous => exact h.frame retryAmbiguous_same
  | durableOutcomeRecorded recordId outcome =>
    change (w.durableOutcomeRecorded recordId outcome).1.lane.Sound
    rcases durableOutcomeRecorded_lane (w := w) recordId outcome with hlane | hlane
    · rwa [hlane]
    · rw [hlane]
      exact sound_empty
  | restoreCurrentPutawayClaim | restoreCurrentInventoryRelocationClaim => exact sound_empty
  | selectOperation operation =>
    change (w.selectOperation operation).lane.Sound
    unfold selectOperation
    split_ifs <;> exact h
  | selectKind kind =>
    change (w.selectKind kind).lane.Sound
    unfold selectKind
    split_ifs <;> exact h
  | beginClaimNext commandId key =>
    change (w.beginClaimNext commandId key).1.lane.Sound
    unfold beginClaimNext
    split_ifs
    · exact h
    · exact beginCommand_sound h commandId key _
  | beginClaimById taskId commandId key =>
    change (w.beginClaimById taskId commandId key).1.lane.Sound
    unfold beginClaimById
    split_ifs
    · exact h
    · exact h
    · exact beginCommand_sound h commandId key _
  | beginRelease commandId key reason note =>
    change (w.beginRelease commandId key reason note).1.lane.Sound
    unfold beginRelease
    split_ifs
    · exact h
    · split
      · exact h
      · dsimp only
        split_ifs
        · exact h
        · exact h
        · exact beginCommand_sound h commandId key _
  | durableRejectionRecorded recordId message =>
    change (w.durableRejectionRecorded recordId message).1.lane.Sound
    unfold durableRejectionRecorded
    split
    · exact h
    · split_ifs
      · exact h
      · exact sound_empty

theorem run_sound (h : WorkflowRun .default w) : w.lane.Sound := by
  refine Run.preserves (fun w : MovementWorkflow => w.lane.Sound) ?_ h sound_empty
  rintro mid event _ - rfl hmid
  exact apply_sound hmid event

theorem outcomeMatches_ne_other {saved : RfCommand OwnCommand}
    (h : outcomeMatches saved outcome = true) : outcome ≠ .other := by
  rintro rfl
  cases saved with
  | own command => rcases command with command | command <;> cases command <;> cases h
  | other => cases h

theorem outcomeMatches_operation {saved : RfCommand OwnCommand}
    (h : outcomeMatches saved outcome = true) :
    ∀ claim ∈ outcome.claimed, some claim.operation = movementOperation saved := by
  intro claim hclaim
  rcases saved with (command | command) | _
  · cases outcome with
    | putawayClaimed =>
      obtain ⟨_, -, rfl⟩ := Option.map_eq_some_iff.mp hclaim
      rfl
    | inventoryRelocationClaimed => cases command <;> cases h
    | putawayConfirmed | inventoryRelocationConfirmed | putawayReleased |
      inventoryRelocationReleased | other => cases hclaim
  · cases outcome with
    | inventoryRelocationClaimed =>
      obtain ⟨_, -, rfl⟩ := Option.map_eq_some_iff.mp hclaim
      rfl
    | putawayClaimed => cases command <;> cases h
    | putawayConfirmed | inventoryRelocationConfirmed | putawayReleased |
      inventoryRelocationReleased | other => cases hclaim
  · cases h

/-- What a workflow makes of an outcome that matches its written command. -/
theorem finish_of_matches (hcommand : w.lane.persisted = some command)
    (hoperation : movementOperation command.draft.command = some w.operation)
    (hmatches : outcomeMatches command.draft.command outcome = true)
    (hreason : w.reconcileReason = none) :
    ((∀ claim ∈ outcome.claimed, claim.details.work.kind = w.selectedKind) →
      (finish command.recordId outcome w).claim = outcome.claimed ∧
        (finish command.recordId outcome w).activity =
          if outcome.claimed.isSome then .active else .idle) ∧
    ((∃ claim ∈ outcome.claimed, claim.details.work.kind ≠ w.selectedKind) →
      (finish command.recordId outcome w).activity = .reconcileRequired) := by
  have hresult : finish command.recordId outcome w =
      { w with lane := w.lane.dispatchStarted command.recordId }.applyOutcome outcome := by
    change ({ w with lane := w.lane.dispatchStarted command.recordId }.durableOutcomeRecorded
      command.recordId outcome).1 = _
    unfold durableOutcomeRecorded
    rw [dispatchStarted_sent hcommand]
    dsimp only
    rw [if_neg (not_not.mpr rfl), hoperation]
    dsimp only
    rw [if_neg]
    rintro (hne | hne)
    · exact hne rfl
    · rw [hmatches] at hne
      cases hne
  rw [hresult]
  have hfits := fun claim hclaim => Option.some.inj
    ((outcomeMatches_operation hmatches claim hclaim).trans hoperation)
  rcases applyOutcome_cases outcome
    { w with lane := w.lane.dispatchStarted command.recordId } with
    ⟨hfit, hended⟩ | ⟨hmisfit, reason, happly⟩
  · refine ⟨fun _ => ⟨hended.claim, ?_⟩, ?_⟩
    · unfold MovementWorkflow.activity
      rw [hended.reconcileReason.trans hreason, hended.lane, hended.claim]
      rfl
    · rintro ⟨claim, hclaim, hkind⟩
      exact absurd (hfit.2 claim hclaim).2 hkind
  · rw [happly]
    refine ⟨fun hkind => absurd ⟨outcomeMatches_ne_other hmatches, fun claim hclaim =>
      ⟨hfits claim hclaim, hkind claim hclaim⟩⟩ hmisfit, fun _ => activityOf_of_reason rfl⟩

/-- An accepted outcome matches the command and brings a task of the selected kind. -/
theorem matches_of_accepts (h : Accepts w command.recordId outcome)
    (hcommand : w.lane.persisted = some command) :
    movementOperation command.draft.command = some w.operation ∧
      outcomeMatches command.draft.command outcome = true ∧
      w.reconcileReason = none ∧
      ∀ claim ∈ outcome.claimed, claim.details.work.kind = w.selectedKind := by
  have hsent := dispatchStarted_sent hcommand
  change ({ w with lane := w.lane.dispatchStarted command.recordId }.durableOutcomeRecorded
    command.recordId outcome).1.activity ≠ _ at h
  rcases durableOutcomeRecorded_cases command.recordId outcome
    { w with lane := w.lane.dispatchStarted command.recordId } with
    ⟨hresult, hnone⟩ | ⟨reason, hresult⟩ | ⟨other, hother, -, hoperation, hmatches, hresult⟩
  · exact absurd rfl (hnone command hsent)
  · rw [hresult] at h
    exact absurd (activityOf_of_reason rfl) h
  · cases hsent.symm.trans hother
    rw [hresult] at h
    rcases applyOutcome_cases outcome
      { w with lane := w.lane.dispatchStarted command.recordId } with
      ⟨hfits, hended⟩ | ⟨-, reason, happly⟩
    · refine ⟨hoperation, hmatches, ?_, fun claim hclaim => (hfits.2 claim hclaim).2⟩
      refine Option.not_isSome_iff_eq_none.mp fun hsome => h (activityOf_of_reason ?_)
      rw [hended.reconcileReason]
      exact hsome
    · rw [happly] at h
      exact absurd (activityOf_of_reason rfl) h

/-- What a new workflow with a saved command holds. -/
theorem restore_state (takenBack : TakenBack) (hrecord : 0 < command.recordId)
    {operation : MovementOperation}
    (hoperation : movementOperation command.draft.command = some operation) :
    (takenBack.restore command default).lane.persisted = some command ∧
      (takenBack.restore command default).operation = operation ∧
      (takenBack.restore command default).selectedKind = .loose ∧
      (takenBack.restore command default).reconcileReason = none := by
  have hpositive : ¬ (decide (command.recordId ≤ 0) || default.reconcileReason.isSome) = true := by
    rw [Bool.or_eq_true, decide_eq_true_eq, not_or, not_le]
    exact ⟨hrecord, by decide⟩
  have hready : (default.restoreReadyCommand command.recordId command.draft).1 =
      { default with operation, lane := .ready command } := by
    unfold MovementWorkflow.restoreReadyCommand
    rw [hoperation]
    dsimp only
    rw [if_neg hpositive]
  have hambiguous : ∀ message,
      (default.restoreAmbiguousCommand command.recordId command.draft message).1 =
        { default with operation, lane := .ambiguous command message } := by
    intro message
    unfold MovementWorkflow.restoreAmbiguousCommand
    rw [hoperation]
    dsimp only
    rw [if_neg hpositive]
  obtain ⟨lane, hlane, hstate⟩ : ∃ lane : Lane OwnCommand, lane.persisted = some command ∧
      takenBack.restore command MovementWorkflow.default = { default with operation, lane } := by
    cases takenBack with
    | ready => exact ⟨.ready command, rfl, hready⟩
    | ambiguous message => exact ⟨.ambiguous command message, rfl, hambiguous message⟩
    | retried message =>
      exact ⟨.ready command, rfl, congrArg (fun w => w.retryAmbiguous.1) (hambiguous message)⟩
  rw [hstate]
  exact ⟨hlane, rfl, rfl, rfl⟩

/-- In every state that the workflow reaches with a written command, and for every outcome that it
accepts, a new workflow that takes the command back ends with the same task and the same activity,
and asks for no supervisor, exactly when the outcome brings no task or the operator had selected
loose units. -/
theorem restart_shows_only_in_selected_kind (h : WorkflowRun .default w)
    (hcommand : w.lane.persisted = some command)
    (haccepts : Accepts w command.recordId outcome) (takenBack : TakenBack) :
    ((finish command.recordId outcome (takenBack.restore command default)).claim =
        (finish command.recordId outcome w).claim ∧
      (finish command.recordId outcome (takenBack.restore command default)).activity =
        (finish command.recordId outcome w).activity ∧
      (finish command.recordId outcome (takenBack.restore command default)).activity ≠
        .reconcileRequired) ↔
    (outcome.claimed = none ∨ w.selectedKind = .loose) := by
  have hrecord := (run_sound h).positive command hcommand
  obtain ⟨hoperation, hmatches, hreason, hkind⟩ := matches_of_accepts haccepts hcommand
  obtain ⟨hclaim, hactivity⟩ := (finish_of_matches hcommand hoperation hmatches hreason).1 hkind
  obtain ⟨hheld, hsame, hloose, hfresh⟩ := restore_state takenBack hrecord hoperation
  rw [← hsame] at hoperation
  obtain ⟨htaken, hrefused⟩ := finish_of_matches hheld hoperation hmatches hfresh
  rw [hclaim, hactivity]
  constructor
  · rintro ⟨-, -, hquiet⟩
    by_contra hnot
    push Not at hnot
    obtain ⟨claim, hbrought⟩ := Option.ne_none_iff_exists'.mp hnot.1
    refine hquiet (hrefused ⟨claim, hbrought, ?_⟩)
    rw [hloose, hkind claim hbrought]
    exact hnot.2
  · intro hcondition
    obtain ⟨hclaimAgain, hactivityAgain⟩ := htaken fun claim hbrought => by
      rcases hcondition with hnone | hselected
      · rw [hnone] at hbrought
        cases hbrought
      · rw [hloose, hkind claim hbrought, hselected]
    refine ⟨hclaimAgain, hactivityAgain, ?_⟩
    rw [hactivityAgain]
    split_ifs <;> rintro ⟨⟩

section Plates

/-- A putaway task of a license plate. -/
def plateClaim : PutawayClaim where
  details := ⟨42, none, ⟨some "A-01-01"⟩, .licensePlate "LP-7"⟩
  policy := .productDefault

/-- The operator asks for the next task of a kind, and the command is written. -/
def claimCalls (kind : MovementKind) : List Event :=
  [.selectKind kind, .beginClaimNext "command-1" "key-1", .commandPersisted "command-1" 1]

/-- The workflow after these calls. -/
def afterClaim (kind : MovementKind) : MovementWorkflow :=
  replay (fun w event => (w.apply event).1) (claimCalls kind) .default

theorem afterClaim_run (kind : MovementKind) : WorkflowRun .default (afterClaim kind) :=
  run_replay_any _ _

/-- The written command. -/
def claimCommand (kind : MovementKind) : PersistedCommand OwnCommand :=
  ⟨1, ⟨1, "command-1", "key-1", .own (.putaway (.claimNext kind))⟩⟩

/-- A restart does not show when no task is available. -/
theorem restart_without_task_does_not_show : (finish 1 (.putawayClaimed none)
        (TakenBack.ready.restore (claimCommand .licensePlate) MovementWorkflow.default)).activity =
      (finish 1 (.putawayClaimed none) (afterClaim .licensePlate)).activity := by
  have haccepts : Accepts (afterClaim .licensePlate) 1 (.putawayClaimed none) := by
    unfold Accepts
    decide +kernel
  have hcommand :
      (afterClaim .licensePlate).lane.persisted = some (claimCommand .licensePlate) := by
    decide +kernel
  exact ((restart_shows_only_in_selected_kind (afterClaim_run .licensePlate) hcommand haccepts
    .ready).mpr (.inl rfl)).2.1

/-- The operator selected license plates and the server answers with one: the workflow takes the
task, and after a restart it asks for a supervisor, however the command is taken back. -/
theorem restart_loses_plate_task :
    WorkflowRun .default (afterClaim .licensePlate) ∧
      (afterClaim .licensePlate).lane.persisted = some (claimCommand .licensePlate) ∧
      Accepts (afterClaim .licensePlate) 1 (.putawayClaimed (some plateClaim)) ∧
      (finish 1 (.putawayClaimed (some plateClaim)) (afterClaim .licensePlate)).activity =
        .active ∧
      (finish 1 (.putawayClaimed (some plateClaim))
        (TakenBack.ready.restore (claimCommand .licensePlate)
          MovementWorkflow.default)).activity = .reconcileRequired ∧
      ∀ message, (finish 1 (.putawayClaimed (some plateClaim))
        ((TakenBack.ambiguous message).restore (claimCommand .licensePlate)
          MovementWorkflow.default)).activity =
          .reconcileRequired := by
  refine ⟨afterClaim_run .licensePlate, by decide +kernel, ?_, by decide +kernel,
    by decide +kernel, fun message => rfl⟩
  unfold Accepts
  decide +kernel

end Plates

end Wareboxes.RfMovementRestarts
