import Wareboxes.RfLanes

/-!
# The cycle count workflow of the handheld device

An operator claims a count, scans the location, the item and the license plate that
the count names, enters a quantity and a note, and the device confirms the count
with a durable command. The outcome of a confirmation or of a release is compared
with the claim that the workflow holds in memory and not with the command, and the
outcome of a claim with nothing.
-/

namespace Wareboxes.RfCycleCount

open RustText LabelledRuns RfLanes

/-- `CycleCountClaim`, with the fields that the workflow reads. -/
structure CycleCountClaim where
  taskId : ℤ
  locationBarcode : String
  /-- Any of these names the item. -/
  itemBarcodes : List String
  licensePlateBarcode : Option String
  deriving DecidableEq

/-- `CountScanStage`. -/
inductive CountScanStage where
  | location | item | licensePlate

/-- `CycleCountCommand`. -/
inductive CycleCountCommand where
  | claimNext
  | claimById (taskId : ℤ)
  | confirm (taskId : ℤ) (locationBarcode itemBarcode : String)
      (licensePlateBarcode : Option String) (countedQuantity : ℤ) (note : Option String)
  | release (taskId : ℤ) (reason : ReleaseReason) (note : Option String)
  deriving DecidableEq

/-- `CommandOutcome`, without the contents of the results of other workflows. -/
inductive CommandOutcome where
  | claimed (claim : Option CycleCountClaim)
  /-- `CycleCountConfirmed`. -/
  | confirmed (taskId : ℤ)
  /-- `CycleCountReleased`. -/
  | released (taskId : ℤ)
  /-- A result of another workflow. -/
  | other

/-- An effect of this workflow. -/
abbrev Effect := WorkflowEffect CycleCountCommand

/-- `CycleCountWorkflow`. -/
structure CycleCountWorkflow where
  claim : Option CycleCountClaim
  /-- The command that is under way. -/
  lane : Lane CycleCountCommand
  locationScan : Option String
  itemScan : Option String
  licensePlateScan : Option String
  /-- The text in the scan field. -/
  scanDraft : String
  /-- The text in the quantity field. -/
  quantityDraft : String
  /-- The text in the note field. -/
  noteDraft : String
  /-- What the operator is told went wrong. -/
  error : Option String
  /-- What the operator is told. -/
  notice : Option String
  /-- Why a supervisor has to look at the device. -/
  reconcileReason : Option String

namespace CycleCountWorkflow

/-- `CycleCountWorkflow::default`. -/
def default : CycleCountWorkflow where
  claim := none
  lane := .empty
  locationScan := none
  itemScan := none
  licensePlateScan := none
  scanDraft := ""
  quantityDraft := ""
  noteDraft := ""
  error := none
  notice := none
  reconcileReason := none

/-- `activity`. -/
def activity (w : CycleCountWorkflow) : Activity :=
  activityOf w.reconcileReason w.lane w.claim.isSome

/-- A change of the scan field through `scan_draft_mut`. -/
def editScan (text : String) (w : CycleCountWorkflow) : CycleCountWorkflow :=
  { w with scanDraft := text }

/-- A change of the quantity field through `quantity_draft_mut`. -/
def editQuantity (text : String) (w : CycleCountWorkflow) : CycleCountWorkflow :=
  { w with quantityDraft := text }

/-- A change of the note field through `note_draft_mut`. -/
def editNote (text : String) (w : CycleCountWorkflow) : CycleCountWorkflow :=
  { w with noteDraft := text }

/-- `reset_inputs`. -/
def resetInputs (w : CycleCountWorkflow) : CycleCountWorkflow :=
  { w with
    locationScan := none
    itemScan := none
    licensePlateScan := none
    scanDraft := ""
    quantityDraft := ""
    noteDraft := "" }

/-- `require_reconciliation`. -/
def requireReconciliation (reason : String) (w : CycleCountWorkflow) : CycleCountWorkflow :=
  { w with reconcileReason := some reason }

/-- `expected_scan`. -/
def expectedScan (w : CycleCountWorkflow) : Option CountScanStage :=
  match w.claim with
  | none => none
  | some claim =>
    if w.locationScan.isNone then some .location
    else if w.itemScan.isNone then some .item
    else if claim.licensePlateBarcode.isSome && w.licensePlateScan.isNone then some .licensePlate
    else none

/-- The command is written down in the lane, and its effect is asked for. -/
def persist (command : CycleCountCommand) (commandId idempotencyKey : String)
    (w : CycleCountWorkflow) : CycleCountWorkflow × Option Effect :=
  let draft : Draft CycleCountCommand := ⟨1, commandId, idempotencyKey, .own command⟩
  ({ w with lane := .persisting draft, error := none }, some (.persistCommand draft))

/-- `begin`. -/
def begin (command : CycleCountCommand) (commandId idempotencyKey : String)
    (w : CycleCountWorkflow) : CycleCountWorkflow × Option Effect :=
  if w.activity ≠ .idle then (w, none) else w.persist command commandId idempotencyKey

/-- `begin_active`. -/
def beginActive (command : CycleCountCommand) (commandId idempotencyKey : String)
    (w : CycleCountWorkflow) : CycleCountWorkflow × Option Effect :=
  if w.activity ≠ .active then (w, none) else w.persist command commandId idempotencyKey

/-- `begin_claim_next`. -/
def beginClaimNext (commandId idempotencyKey : String) (w : CycleCountWorkflow) :
    CycleCountWorkflow × Option Effect :=
  w.begin .claimNext commandId idempotencyKey

/-- `begin_claim_by_id`. -/
def beginClaimById (taskId : ℤ) (commandId idempotencyKey : String) (w : CycleCountWorkflow) :
    CycleCountWorkflow × Option Effect :=
  if taskId ≤ 0 then ({ w with error := some "Task ID must be positive" }, none)
  else w.begin (.claimById taskId) commandId idempotencyKey

/-- The scan is the one that the count asks for at this stage. -/
def scanAccepted (claim : CycleCountClaim) (scanned : String) : CountScanStage → Bool
  | .location => scanned == claim.locationBarcode
  | .item => claim.itemBarcodes.contains scanned
  | .licensePlate => claim.licensePlateBarcode == some scanned

/-- What the operator is told about another scan. -/
def scanMismatch : CountScanStage → String
  | .location => "Location does not match this count"
  | .item => "Item does not match this count"
  | .licensePlate => "License plate does not match this count"

/-- The scan is kept. -/
def recordScan (scanned : String) (w : CycleCountWorkflow) : CountScanStage → CycleCountWorkflow
  | .location => { w with locationScan := some scanned }
  | .item => { w with itemScan := some scanned }
  | .licensePlate => { w with licensePlateScan := some scanned }

/-- `submit_scan`. -/
def submitScan (w : CycleCountWorkflow) : CycleCountWorkflow × Bool :=
  if w.activity ≠ .active then (w, false)
  else match w.expectedScan with
    | none => (w, false)
    | some stage =>
      let scanned := trim w.scanDraft
      if isEmpty scanned then ({ w with error := some "A scan is required" }, false)
      else match w.claim with
        | none => (w, false)
        | some claim =>
          if scanAccepted claim scanned stage = false then
            ({ w with scanDraft := "", error := some (scanMismatch stage) }, false)
          else ({ w.recordScan scanned stage with scanDraft := "", error := none }, true)

/-- The counted quantity, when the field holds one. -/
def countedQuantity (w : CycleCountWorkflow) : Option ℤ :=
  (parseI64 (trim w.quantityDraft)).filter fun quantity => decide (0 ≤ quantity)

/-- The note, trimmed, when something is left of it. -/
def note (w : CycleCountWorkflow) : Option String :=
  if isEmpty (trim w.noteDraft) then none else some (trim w.noteDraft)

/-- The confirmation of the count that is held. -/
def confirmation (quantity : ℤ) (w : CycleCountWorkflow) : Option CycleCountCommand := do
  let claim ← w.claim
  let locationBarcode ← w.locationScan
  let itemBarcode ← w.itemScan
  return .confirm claim.taskId locationBarcode itemBarcode w.licensePlateScan quantity w.note

/-- `begin_confirmation`. -/
def beginConfirmation (commandId idempotencyKey : String) (w : CycleCountWorkflow) :
    CycleCountWorkflow × Option Effect :=
  if w.activity ≠ .active ∨ w.expectedScan.isSome then (w, none)
  else match w.countedQuantity with
    | none => ({ w with error := some "Enter a whole-number count of zero or more" }, none)
    | some quantity =>
      if w.note.any fun text => decide (1000 < charCount text) then
        ({ w with error := some "Count note cannot exceed 1000 characters" }, none)
      else match w.confirmation quantity with
        | none => (w, none)
        | some command => w.beginActive command commandId idempotencyKey

/-- `begin_release`. -/
def beginRelease (commandId idempotencyKey : String) (w : CycleCountWorkflow) :
    CycleCountWorkflow × Option Effect :=
  match w.claim with
  | none => (w, none)
  | some claim =>
    w.beginActive (.release claim.taskId .workInterrupted none) commandId idempotencyKey

/-- `command_persisted`. -/
def commandPersisted (commandId : String) (recordId : ℤ) (w : CycleCountWorkflow) :
    CycleCountWorkflow × Transition CycleCountCommand :=
  match w.lane.written commandId recordId with
  | none => (w, .ignored)
  | some command =>
    ({ w with lane := .ready command }, .effect (.dispatchPersistedCommand recordId))

/-- `dispatch_started`. -/
def dispatchStarted (recordId : ℤ) (w : CycleCountWorkflow) : CycleCountWorkflow :=
  { w with lane := w.lane.dispatchStarted recordId }

/-- `dispatch_ambiguous`. -/
def dispatchAmbiguous (recordId : ℤ) (message : String) (w : CycleCountWorkflow) :
    CycleCountWorkflow :=
  { w with lane := w.lane.dispatchAmbiguous recordId message }

/-- `retry_ambiguous`. -/
def retryAmbiguous (w : CycleCountWorkflow) : CycleCountWorkflow × Option Effect :=
  ({ w with lane := w.lane.retryAmbiguous.1 }, w.lane.retryAmbiguous.2)

/-- The command was sent under a row number. -/
def commandMatches (recordId : ℤ) (w : CycleCountWorkflow) : Bool :=
  w.lane.sent.any fun command => decide (command.recordId = recordId)

/-- The count is done or given back, when it is the one that is held. -/
def recordEnd (taskId : ℤ) (told mismatch : String) (w : CycleCountWorkflow) :
    CycleCountWorkflow :=
  if w.claim.any fun claim => decide (claim.taskId = taskId) then
    { { w with claim := none }.resetInputs with notice := some told }
  else w.requireReconciliation mismatch

/-- The outcome of a command that is no longer under way. -/
def applyOutcome (outcome : CommandOutcome) (w : CycleCountWorkflow) : CycleCountWorkflow :=
  match outcome with
  | .claimed claim =>
    { { w with claim }.resetInputs with
      notice := if claim.isNone then some "No cycle count work is ready" else none }
  | .confirmed taskId =>
    w.recordEnd taskId "Count recorded" "Count result did not match active work"
  | .released taskId =>
    w.recordEnd taskId "Count returned to queue" "Release result did not match active work"
  | .other => w.requireReconciliation "The saved command returned the wrong workflow result"

/-- `durable_outcome_recorded`. -/
def durableOutcomeRecorded (recordId : ℤ) (outcome : CommandOutcome) (w : CycleCountWorkflow) :
    CycleCountWorkflow :=
  if w.commandMatches recordId = false then w
  else { w with lane := .empty }.applyOutcome outcome

/-- `durable_rejection_recorded`. -/
def durableRejectionRecorded (recordId : ℤ) (message : String) (w : CycleCountWorkflow) :
    CycleCountWorkflow :=
  if w.commandMatches recordId then { w with lane := .empty, error := some message } else w

/-- `restore_current_claim`. -/
def restoreCurrentClaim (claim : Option CycleCountClaim) (w : CycleCountWorkflow) :
    CycleCountWorkflow :=
  if w.lane = .empty then { { w with claim }.resetInputs with error := none } else w

/-- `restore_ready_command`. -/
def restoreReadyCommand (recordId : ℤ) (draft : Draft CycleCountCommand)
    (w : CycleCountWorkflow) : CycleCountWorkflow × Transition CycleCountCommand :=
  if draft.command.isOwn = false then
    (w.requireReconciliation "Saved work is not a cycle count command", .ignored)
  else ({ w with lane := .ready ⟨recordId, draft⟩ },
    .effect (.dispatchPersistedCommand recordId))

/-- `restore_ambiguous_command`. -/
def restoreAmbiguousCommand (recordId : ℤ) (draft : Draft CycleCountCommand) (message : String)
    (w : CycleCountWorkflow) : CycleCountWorkflow :=
  if draft.command.isOwn = false then
    w.requireReconciliation "Saved work is not a cycle count command"
  else { w with lane := .ambiguous ⟨recordId, draft⟩ message }

end CycleCountWorkflow

/-- A call of the workflow. -/
inductive Event where
  /-- The operator or the scanner changes the scan field. -/
  | editScan (text : String)
  /-- The operator changes the quantity field. -/
  | editQuantity (text : String)
  /-- The operator changes the note field. -/
  | editNote (text : String)
  | beginClaimNext (commandId idempotencyKey : String)
  | beginClaimById (taskId : ℤ) (commandId idempotencyKey : String)
  | submitScan
  | beginConfirmation (commandId idempotencyKey : String)
  | beginRelease (commandId idempotencyKey : String)
  | commandPersisted (commandId : String) (recordId : ℤ)
  | dispatchStarted (recordId : ℤ)
  | dispatchAmbiguous (recordId : ℤ) (message : String)
  | retryAmbiguous
  | durableOutcomeRecorded (recordId : ℤ) (outcome : CommandOutcome)
  | durableRejectionRecorded (recordId : ℤ) (message : String)
  | restoreCurrentClaim (claim : Option CycleCountClaim)
  | restoreReadyCommand (recordId : ℤ) (draft : Draft CycleCountCommand)
  | restoreAmbiguousCommand (recordId : ℤ) (draft : Draft CycleCountCommand) (message : String)
  | requireReconciliation (reason : String)

/-- The workflow after a call, and the effect that the call asks for. -/
def CycleCountWorkflow.apply (w : CycleCountWorkflow) :
    Event → CycleCountWorkflow × Option Effect
  | .editScan text => (w.editScan text, none)
  | .editQuantity text => (w.editQuantity text, none)
  | .editNote text => (w.editNote text, none)
  | .beginClaimNext commandId key => w.beginClaimNext commandId key
  | .beginClaimById taskId commandId key => w.beginClaimById taskId commandId key
  | .submitScan => (w.submitScan.1, none)
  | .beginConfirmation commandId key => w.beginConfirmation commandId key
  | .beginRelease commandId key => w.beginRelease commandId key
  | .commandPersisted commandId recordId =>
    (w.commandPersisted commandId recordId).map id Transition.effect?
  | .dispatchStarted recordId => (w.dispatchStarted recordId, none)
  | .dispatchAmbiguous recordId message => (w.dispatchAmbiguous recordId message, none)
  | .retryAmbiguous => w.retryAmbiguous
  | .durableOutcomeRecorded recordId outcome => (w.durableOutcomeRecorded recordId outcome, none)
  | .durableRejectionRecorded recordId message =>
    (w.durableRejectionRecorded recordId message, none)
  | .restoreCurrentClaim claim => (w.restoreCurrentClaim claim, none)
  | .restoreReadyCommand recordId draft =>
    (w.restoreReadyCommand recordId draft).map id Transition.effect?
  | .restoreAmbiguousCommand recordId draft message =>
    (w.restoreAmbiguousCommand recordId draft message, none)
  | .requireReconciliation reason => (w.requireReconciliation reason, none)

/-- The runs of the workflow. -/
def WorkflowRun : CycleCountWorkflow → CycleCountWorkflow → Prop :=
  Run (fun w event w' => w' = (w.apply event).1) fun _ (_ : Event) => True

section Lanes

open CycleCountWorkflow

variable {w : CycleCountWorkflow}

/-- The command of a lane, if there is one, is a cycle count command. -/
def SoundLane (lane : Lane CycleCountCommand) : Prop :=
  ∀ draft ∈ lane.draft, draft.command.isOwn = true

theorem soundLane_empty : SoundLane .empty := by
  rintro draft ⟨⟩

theorem SoundLane.frame {lane lane' : Lane CycleCountCommand} (h : SoundLane lane)
    (hsame : lane.Same lane') : SoundLane lane' := by
  unfold SoundLane
  rw [hsame.draft]
  exact h

theorem persist_sound (command : CycleCountCommand) (commandId key : String) :
    SoundLane (w.persist command commandId key).1.lane := by
  rintro draft ⟨⟩
  rfl

theorem begin_sound (h : SoundLane w.lane) (command : CycleCountCommand)
    (commandId key : String) : SoundLane (w.begin command commandId key).1.lane := by
  unfold begin
  split_ifs
  · exact h
  · exact persist_sound command commandId key

theorem beginActive_sound (h : SoundLane w.lane) (command : CycleCountCommand)
    (commandId key : String) : SoundLane (w.beginActive command commandId key).1.lane := by
  unfold beginActive
  split_ifs
  · exact h
  · exact persist_sound command commandId key

theorem submitScan_lane : w.submitScan.1.lane = w.lane := by
  unfold submitScan
  split_ifs
  · rfl
  · split
    · rfl
    · next stage _ =>
      dsimp only
      split_ifs
      · rfl
      · split
        · rfl
        · split_ifs
          · rfl
          · cases stage <;> rfl

theorem beginConfirmation_sound (h : SoundLane w.lane) (commandId key : String) :
    SoundLane (w.beginConfirmation commandId key).1.lane := by
  unfold beginConfirmation
  split
  · exact h
  · split
    · exact h
    · split
      · exact h
      · split
        · exact h
        · exact beginActive_sound h _ commandId key

theorem applyOutcome_lane (outcome : CommandOutcome) : (w.applyOutcome outcome).lane = w.lane := by
  have hend : ∀ taskId told mismatch, (w.recordEnd taskId told mismatch).lane = w.lane := by
    intro taskId told mismatch
    unfold recordEnd
    split_ifs <;> rfl
  cases outcome with
  | claimed | other => rfl
  | confirmed | released => exact hend _ _ _

theorem durableOutcomeRecorded_lane (recordId : ℤ) (outcome : CommandOutcome) :
    (w.durableOutcomeRecorded recordId outcome).lane = w.lane ∨
      (w.durableOutcomeRecorded recordId outcome).lane = .empty := by
  unfold durableOutcomeRecorded
  split_ifs
  · exact .inl rfl
  · exact .inr (applyOutcome_lane outcome)

theorem apply_sound (h : SoundLane w.lane) (event : Event) : SoundLane (w.apply event).1.lane := by
  cases event with
  | editScan | editQuantity | editNote | requireReconciliation => exact h
  | submitScan =>
    change SoundLane w.submitScan.1.lane
    rwa [submitScan_lane]
  | beginConfirmation commandId key => exact beginConfirmation_sound h commandId key
  | commandPersisted commandId recordId =>
    change SoundLane (w.commandPersisted commandId recordId).1.lane
    unfold commandPersisted
    split
    · exact h
    · next command hwritten =>
      rw [(Lane.draft_of_written hwritten).1] at h
      exact h
  | dispatchStarted recordId => exact h.frame (Lane.dispatchStarted_same recordId)
  | dispatchAmbiguous recordId message =>
    exact h.frame (Lane.dispatchAmbiguous_same recordId message)
  | retryAmbiguous => exact h.frame Lane.retryAmbiguous_same
  | durableOutcomeRecorded recordId outcome =>
    change SoundLane (w.durableOutcomeRecorded recordId outcome).lane
    rcases durableOutcomeRecorded_lane (w := w) recordId outcome with hlane | hlane
    · rwa [hlane]
    · rw [hlane]
      exact soundLane_empty
  | restoreReadyCommand | restoreAmbiguousCommand =>
    simp only [apply, restoreReadyCommand, restoreAmbiguousCommand]
    split_ifs with hown
    · exact h
    · rintro _ ⟨⟩
      exact Bool.ne_false_iff.mp hown
  | beginClaimNext | beginClaimById | beginRelease | durableRejectionRecorded |
    restoreCurrentClaim =>
    simp only [apply, beginClaimNext, beginClaimById, beginRelease, durableRejectionRecorded,
      restoreCurrentClaim]
    repeat' split
    all_goals first
      | exact h
      | exact begin_sound h _ _ _
      | exact beginActive_sound h _ _ _
      | exact soundLane_empty

theorem run_sound (h : WorkflowRun .default w) : SoundLane w.lane := by
  refine Run.preserves (fun w : CycleCountWorkflow => SoundLane w.lane) ?_ h soundLane_empty
  rintro mid event _ - rfl hmid
  exact apply_sound hmid event

end Lanes

end Wareboxes.RfCycleCount
