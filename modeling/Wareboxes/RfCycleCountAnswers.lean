import Wareboxes.RfCycleCount

/-!
# Answers to cycle count commands

The workflow does not compare the outcome of a command with the command. The result
of a claim replaces the count that is held whatever was asked for, and the result of
a confirmation or of a release ends the count that is held when it names its task. A
new workflow that takes a saved command back holds no count, so after a restart it
takes the result of a claim only, unless the count was loaded before the command.
-/

namespace Wareboxes.RfCycleCountAnswers

open LabelledRuns RfLanes RfCycleCount CycleCountWorkflow

variable {w : CycleCountWorkflow} {command : PersistedCommand CycleCountCommand}
  {outcome : CommandOutcome}

/-- The outcome is one of the command: its kind fits, and it names the task that a claim by
identity, a confirmation or a release named. -/
def Fits : RfCommand CycleCountCommand → CommandOutcome → Bool
  | .own .claimNext, .claimed _ => true
  | .own (.claimById taskId), .claimed (some claim) => taskId == claim.taskId
  | .own (.confirm taskId ..), .confirmed outcome => taskId == outcome
  | .own (.release taskId ..), .released outcome => taskId == outcome
  | _, _ => false

/-- The task that the result of a confirmation or of a release names. -/
def endedTask : CommandOutcome → Option ℤ
  | .confirmed taskId | .released taskId => some taskId
  | .claimed _ | .other => none

/-- The outcome brings the result of a claim. -/
def isClaimResult : CommandOutcome → Bool
  | .claimed _ => true
  | .confirmed _ | .released _ | .other => false

/-- The count that is held has the task. -/
def Holds (w : CycleCountWorkflow) (taskId : ℤ) : Prop :=
  ∃ claim ∈ w.claim, claim.taskId = taskId

/-- The outcome fits the command; or it is the result of a claim that changes nothing while a
supervisor is asked for already; or it is not the result of a claim and does not name the task of
the count that is held. -/
def Unmistakable (w : CycleCountWorkflow) (command : RfCommand CycleCountCommand)
    (outcome : CommandOutcome) : Prop :=
  Fits command outcome = true ∨
    (outcome = .claimed w.claim ∧ w.reconcileReason.isSome = true) ∨
    (isClaimResult outcome = false ∧ ∀ taskId ∈ endedTask outcome, ¬ Holds w taskId)

section Outcomes

theorem activity_eq_reconcileRequired_iff :
    w.activity = .reconcileRequired ↔ w.reconcileReason.isSome = true :=
  activityOf_eq_reconcileRequired_iff

theorem holds_iff_any (taskId : ℤ) :
    (w.claim.any fun claim => decide (claim.taskId = taskId)) = true ↔ Holds w taskId := by
  rw [Option.any_eq_true]
  simp only [decide_eq_true_eq]
  rfl

variable {taskId : ℤ}

theorem applyOutcome_of_claim (h : isClaimResult outcome = true) :
    ∃ claim, outcome = .claimed claim ∧ (w.applyOutcome outcome).claim = claim ∧
      (w.applyOutcome outcome).reconcileReason = w.reconcileReason := by
  cases outcome with
  | claimed claim => exact ⟨claim, rfl, rfl, rfl⟩
  | confirmed | released | other => cases h

/-- A result that names the held count ends it, whichever of the two it is. -/
theorem applyOutcome_of_ended (h : endedTask outcome = some taskId) (hholds : Holds w taskId) :
    (w.applyOutcome outcome).claim = none ∧
      (w.applyOutcome outcome).reconcileReason = w.reconcileReason := by
  cases outcome with
  | claimed | other => cases h
  | confirmed | released =>
    cases h
    rw [applyOutcome, recordEnd, if_pos ((holds_iff_any taskId).mpr hholds)]
    exact ⟨rfl, rfl⟩

/-- Any other outcome leaves the count and calls for a supervisor. -/
theorem applyOutcome_of_mismatch (hclaim : isClaimResult outcome = false)
    (hended : ∀ taskId ∈ endedTask outcome, ¬ Holds w taskId) :
    (w.applyOutcome outcome).claim = w.claim ∧
      (w.applyOutcome outcome).reconcileReason.isSome = true := by
  cases outcome with
  | claimed => cases hclaim
  | confirmed taskId | released taskId =>
    rw [applyOutcome, recordEnd, if_neg (mt (holds_iff_any taskId).mp (hended taskId rfl))]
    exact ⟨rfl, rfl⟩
  | other => exact ⟨rfl, rfl⟩

theorem durableOutcomeRecorded_of_sent (h : w.lane.sent = some command) :
    w.durableOutcomeRecorded command.recordId outcome =
      { w with lane := .empty }.applyOutcome outcome := by
  unfold durableOutcomeRecorded commandMatches
  rw [h, Option.any_some, decide_eq_true rfl, if_neg (by decide)]

/-- In every state with a command that was sent, and for every outcome, it holds that the count
changes only by an outcome that fits the command, and that any other outcome leaves the count and
calls for a supervisor, exactly when the outcome is not mistaken for one of the command. -/
theorem only_fitting_outcomes_change_claim (hsent : w.lane.sent = some command) :
    (((w.durableOutcomeRecorded command.recordId outcome).claim ≠ w.claim →
        Fits command.draft.command outcome = true) ∧
      (Fits command.draft.command outcome = false →
        (w.durableOutcomeRecorded command.recordId outcome).claim = w.claim ∧
          (w.durableOutcomeRecorded command.recordId outcome).activity = .reconcileRequired)) ↔
      Unmistakable w command.draft.command outcome := by
  rw [durableOutcomeRecorded_of_sent hsent, activity_eq_reconcileRequired_iff]
  set idle : CycleCountWorkflow := { w with lane := .empty }
  constructor
  · rintro ⟨-, hunfit⟩
    by_cases hfits : Fits command.draft.command outcome = true
    · exact .inl hfits
    obtain ⟨hkept, hreason⟩ := hunfit (Bool.not_eq_true _ ▸ hfits)
    by_cases hclaim : isClaimResult outcome = true
    · -- The result of a claim is taken as it is, so the count was the same.
      obtain ⟨claim, rfl, hbrought, hsame⟩ := applyOutcome_of_claim (w := idle) hclaim
      refine .inr (.inl ⟨congrArg _ (hbrought.symm.trans hkept), hsame ▸ hreason⟩)
    · refine .inr (.inr ⟨Bool.not_eq_true _ ▸ hclaim, fun taskId htask hholds => ?_⟩)
      -- A result that names the held count ends it.
      obtain ⟨hdone, -⟩ := applyOutcome_of_ended (w := idle) htask hholds
      obtain ⟨held, hheld, -⟩ := hholds
      rw [hkept.symm.trans hdone] at hheld
      cases hheld
  · intro hunmistakable
    have hkept : Fits command.draft.command outcome = false →
        (idle.applyOutcome outcome).claim = w.claim ∧
          (idle.applyOutcome outcome).reconcileReason.isSome = true := by
      intro hunfit
      rcases hunmistakable with hfits | ⟨rfl, hreason⟩ | ⟨hclaim, hended⟩
      · exact absurd (hunfit.symm.trans hfits) (by decide)
      · exact ⟨rfl, hreason⟩
      · exact applyOutcome_of_mismatch (w := idle) hclaim hended
    refine ⟨fun hchanged => ?_, hkept⟩
    by_contra hunfit
    exact hchanged (hkept (Bool.not_eq_true _ ▸ hunfit)).1

end Outcomes

section Restarts

/-- The calls of the cycle count workflow that a restart goes through. -/
instance cycleCountReloadable :
    Reloadable CycleCountWorkflow CycleCountCommand CycleCountClaim CommandOutcome where
  activity := CycleCountWorkflow.activity
  dispatchStarted := CycleCountWorkflow.dispatchStarted
  durableOutcomeRecorded := durableOutcomeRecorded
  restoreReadyCommand recordId draft w := (w.restoreReadyCommand recordId draft).1
  restoreAmbiguousCommand := restoreAmbiguousCommand
  retryAmbiguous w := w.retryAmbiguous.1
  claim := CycleCountWorkflow.claim
  lane := CycleCountWorkflow.lane
  reconcileReason := CycleCountWorkflow.reconcileReason
  restoreCurrentClaim := restoreCurrentClaim
  setLane lane w := { w with lane }
  Takes command := command.draft.command.isOwn = true
  set_kept _ _ := ⟨rfl, rfl, rfl⟩
  ready_eq := by
    intro command w hown
    rw [CycleCountWorkflow.restoreReadyCommand, if_neg (ne_false_of_eq_true hown)]
  ambiguous_eq := by
    intro command w message hown
    rw [CycleCountWorkflow.restoreAmbiguousCommand, if_neg (ne_false_of_eq_true hown)]
  retry_eq _ := rfl
  load_empty := by
    intro loaded w hlane hquiet
    rw [CycleCountWorkflow.restoreCurrentClaim, if_pos hlane]
    exact ⟨rfl, hquiet⟩
  load_busy _ _ hbusy := if_neg hbusy

/-- The count that was loaded before the command has the task. -/
def Loaded (recovery : Recovery CycleCountClaim) (taskId : ℤ) : Prop :=
  ∃ claim, recovery.before = some (some claim) ∧ claim.taskId = taskId

theorem finish_of_persisted (h : w.lane.persisted = some command) :
    finish command.recordId outcome w = { w with lane := .empty }.applyOutcome outcome := by
  change (w.dispatchStarted command.recordId).durableOutcomeRecorded _ outcome = _
  rw [durableOutcomeRecorded_of_sent (w := w.dispatchStarted command.recordId)
    (Lane.dispatchStarted_sent h)]
  rfl

/-- An accepted outcome is the result of a claim, or ends the count that is held. -/
theorem cases_of_accepts (h : Accepts w command.recordId outcome)
    (hcommand : w.lane.persisted = some command) :
    w.reconcileReason = none ∧
      (isClaimResult outcome = true ∨
        ∃ taskId, endedTask outcome = some taskId ∧ Holds w taskId) := by
  change (finish command.recordId outcome w).activity ≠ _ at h
  rw [finish_of_persisted hcommand, Ne, activity_eq_reconcileRequired_iff,
    Option.not_isSome_iff_eq_none] at h
  by_cases hclaim : isClaimResult outcome = true
  · obtain ⟨_, _, _, hreason⟩ := applyOutcome_of_claim
      (w := { w with lane := .empty }) hclaim
    exact ⟨hreason.symm.trans h, .inl hclaim⟩
  · by_cases hended : ∀ taskId ∈ endedTask outcome, ¬ Holds w taskId
    · have hreason := (applyOutcome_of_mismatch (w := { w with lane := .empty })
        (Bool.not_eq_true _ ▸ hclaim) hended).2
      rw [h] at hreason
      cases hreason
    · push Not at hended
      obtain ⟨taskId, htask, hholds⟩ := hended
      have hreason := (applyOutcome_of_ended (w := { w with lane := .empty }) htask hholds).2
      exact ⟨hreason.symm.trans h, .inr ⟨taskId, htask, hholds⟩⟩

/-- A new workflow holds the saved command and the count that was loaded before it. -/
theorem restore_awaits (recovery : Recovery CycleCountClaim)
    (hown : command.draft.command.isOwn = true) :
    (recovery.restore command CycleCountWorkflow.default).lane.persisted = some command ∧
      (recovery.restore command CycleCountWorkflow.default).claim = recovery.before.join ∧
      (recovery.restore command CycleCountWorkflow.default).reconcileReason = none :=
  recovery.restore_state (w := CycleCountWorkflow.default) hown rfl rfl rfl

/-- In every state that the workflow reaches with a written command, and for every outcome that it
accepts, a new workflow that takes the command back ends with the same count and asks for no
supervisor exactly when the outcome is the result of a claim, or when the count with the task of
the outcome was loaded before the command. -/
theorem restart_shows_unless_claim_loaded (h : WorkflowRun .default w)
    (hcommand : w.lane.persisted = some command)
    (haccepts : Accepts w command.recordId outcome) (recovery : Recovery CycleCountClaim) :
    ((finish command.recordId outcome (recovery.restore command CycleCountWorkflow.default)).claim =
        (finish command.recordId outcome w).claim ∧
      (finish command.recordId outcome
        (recovery.restore command CycleCountWorkflow.default)).activity ≠
        .reconcileRequired) ↔
    (isClaimResult outcome = true ∨
      ∃ taskId, endedTask outcome = some taskId ∧ Loaded recovery taskId) := by
  have hown := run_sound h _ (Lane.draft_of_persisted hcommand)
  obtain ⟨hlane, hclaim, hreason⟩ := restore_awaits recovery hown
  obtain ⟨-, hcases⟩ := cases_of_accepts haccepts hcommand
  rw [finish_of_persisted hlane, finish_of_persisted hcommand, Ne,
    activity_eq_reconcileRequired_iff]
  set restored : CycleCountWorkflow :=
    { recovery.restore command CycleCountWorkflow.default with lane := .empty }
  have hholds : ∀ taskId, Holds restored taskId ↔ Loaded recovery taskId := by
    intro taskId
    change (∃ claim ∈ (recovery.restore command CycleCountWorkflow.default).claim,
      claim.taskId = taskId) ↔ _
    rw [hclaim]
    constructor
    · rintro ⟨claim, hmem, htask⟩
      exact ⟨claim, Option.join_eq_some_iff.mp hmem, htask⟩
    · rintro ⟨claim, hmem, htask⟩
      exact ⟨claim, Option.join_eq_some_iff.mpr hmem, htask⟩
  rcases hcases with hresult | ⟨taskId, htask, hheld⟩
  · refine ⟨fun _ => .inl hresult, fun _ => ?_⟩
    obtain ⟨claim, rfl, -, -⟩ := applyOutcome_of_claim
      (w := { w with lane := .empty }) hresult
    exact ⟨rfl, Option.not_isSome_iff_eq_none.mpr hreason⟩
  · obtain ⟨hdone, -⟩ := applyOutcome_of_ended (w := { w with lane := .empty }) htask hheld
    have hnot : isClaimResult outcome = false := by
      cases outcome with
      | claimed => cases htask
      | confirmed | released | other => rfl
    rw [hdone]
    constructor
    · rintro ⟨-, hquiet⟩
      refine .inr ⟨taskId, htask, ?_⟩
      by_contra hloaded
      refine hquiet (applyOutcome_of_mismatch hnot ?_).2
      intro other hother
      rw [htask, Option.mem_some_iff] at hother
      rw [← hother, hholds]
      exact hloaded
    · rintro (hresult | ⟨other, hother, hloaded⟩)
      · rw [hnot] at hresult
        cases hresult
      · obtain ⟨hended, hsame⟩ := applyOutcome_of_ended hother ((hholds other).mpr hloaded)
        refine ⟨hended, ?_⟩
        rw [hsame, Option.not_isSome_iff_eq_none]
        exact hreason

end Restarts

section Shelves

/-- A count of loose units on a shelf. -/
def shelfClaim (taskId : ℤ) : CycleCountClaim where
  taskId
  locationBarcode := "A-01"
  itemBarcodes := ["SKU-1", "UPC-1"]
  licensePlateBarcode := none

/-- The operator counts the shelf of task 42, and the confirmation is sent. -/
def countCalls : List Event :=
  [.restoreCurrentClaim (some (shelfClaim 42)), .editScan "A-01", .submitScan, .editScan "UPC-1",
    .submitScan, .editQuantity "7", .beginConfirmation "command-1" "key-1",
    .commandPersisted "command-1" 1, .dispatchStarted 1]

/-- The workflow after these calls. -/
def afterCount : CycleCountWorkflow :=
  replay (fun w event => (w.apply event).1) countCalls .default

theorem afterCount_run : WorkflowRun .default afterCount :=
  run_replay_any _ countCalls

/-- The confirmation that was sent. -/
def countCommand : PersistedCommand CycleCountCommand :=
  ⟨1, ⟨1, "command-1", "key-1", .own (.confirm 42 "A-01" "UPC-1" none 7 none)⟩⟩

theorem afterCount_lane : afterCount.lane = .inFlight countCommand := by
  decide +kernel

/-- The result of another confirmation leaves the count. -/
theorem other_confirmation_keeps_claim :
    (afterCount.durableOutcomeRecorded 1 (.confirmed 43)).claim = afterCount.claim := by
  have hunmistakable : Unmistakable afterCount countCommand.draft.command (.confirmed 43) := by
    refine .inr (.inr ⟨rfl, ?_⟩)
    rintro _ ⟨⟩ ⟨claim, hclaim, htask⟩
    have hheld : afterCount.claim = some (shelfClaim 42) := by decide +kernel
    rw [hheld] at hclaim
    cases hclaim
    cases htask
  have hsent : afterCount.lane.sent = some countCommand := by
    rw [afterCount_lane]
    rfl
  exact (((only_fitting_outcomes_change_claim hsent).mpr hunmistakable).2 rfl).1

/-- While a confirmation of task 42 is in flight, the result of a claim of task 43 replaces the
count, and the result of a release of task 42 ends it. Neither calls for a supervisor. -/
theorem unfit_outcomes_change_claim :
    WorkflowRun .default afterCount ∧ afterCount.lane = .inFlight countCommand ∧
      Fits countCommand.draft.command (.claimed (some (shelfClaim 43))) = false ∧
      (afterCount.durableOutcomeRecorded 1 (.claimed (some (shelfClaim 43)))).claim ≠
        afterCount.claim ∧
      (afterCount.durableOutcomeRecorded 1 (.claimed (some (shelfClaim 43)))).activity =
        .active ∧
      Fits countCommand.draft.command (.released 42) = false ∧
      (afterCount.durableOutcomeRecorded 1 (.released 42)).claim ≠ afterCount.claim ∧
      (afterCount.durableOutcomeRecorded 1 (.released 42)).activity = .idle := by
  refine ⟨afterCount_run, afterCount_lane, ?_⟩
  decide +kernel

theorem afterCount_accepts : Accepts afterCount 1 (.confirmed 42) := by
  unfold Accepts
  decide +kernel

/-- A restart does not show when the count is loaded before the confirmation. -/
theorem restart_with_claim_does_not_show : (finish 1 (.confirmed 42)
        ((Recovery.mk (some (some (shelfClaim 42))) .ready none).restore countCommand
          CycleCountWorkflow.default)).claim =
      (finish 1 (.confirmed 42) afterCount).claim := by
  have hcommand : afterCount.lane.persisted = some countCommand := by
    rw [afterCount_lane]
    rfl
  exact ((restart_shows_unless_claim_loaded afterCount_run hcommand afterCount_accepts
    ⟨some (some (shelfClaim 42)), .ready, none⟩).mpr
      (.inr ⟨42, rfl, shelfClaim 42, rfl, rfl⟩)).1

/-- A confirmation is sent and the device restarts. The result that the workflow would have taken
calls for a supervisor, however the confirmation is taken back, when the count is not loaded and
also when it is loaded after the confirmation. -/
theorem restart_loses_confirmation :
    WorkflowRun .default afterCount ∧ afterCount.lane.persisted = some countCommand ∧
      Accepts afterCount 1 (.confirmed 42) ∧
      ∀ (takenBack : TakenBack) (after : Option (Option CycleCountClaim)),
        (finish 1 (.confirmed 42)
          ((Recovery.mk none takenBack after).restore countCommand
            CycleCountWorkflow.default)).activity =
            .reconcileRequired := by
  refine ⟨afterCount_run, by decide +kernel, afterCount_accepts, ?_⟩
  intro takenBack after
  have hown : countCommand.draft.command.isOwn = true := rfl
  obtain ⟨hlane, hclaim, -⟩ := restore_awaits (Recovery.mk none takenBack after) hown
  rw [show (1 : ℤ) = countCommand.recordId from rfl, finish_of_persisted hlane,
    activity_eq_reconcileRequired_iff]
  refine (applyOutcome_of_mismatch rfl ?_).2
  rintro taskId - ⟨claim, hmem, -⟩
  change claim ∈ ((Recovery.mk none takenBack after).restore countCommand
    CycleCountWorkflow.default).claim at hmem
  rw [hclaim] at hmem
  cases hmem

end Shelves

end Wareboxes.RfCycleCountAnswers
