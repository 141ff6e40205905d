import Wareboxes.RfPicking

/-!
# Restarts of the picking workflow

The outcome of a picking command is compared with the command, which a new workflow
takes back as it was written. The result of a shortage report is also compared with
the order of the pick that is held, which a new workflow does not hold. So a restart
does not show for claims, confirmations and releases, and for a shortage report only
when the pick was loaded before the command.
-/

namespace Wareboxes.RfPickingRestarts

open LabelledRuns RfLanes RfPicking PickingWorkflow Lane

variable {w : PickingWorkflow} {command : PersistedCommand PickingCommand}
  {outcome : CommandOutcome}

section Lanes

section

variable (h : w.lane.Sound) (picking : PickingCommand) (commandId key : String)
include h picking commandId key

theorem begin_sound : (w.begin picking commandId key).1.lane.Sound := by
  unfold PickingWorkflow.begin
  split_ifs
  · exact h
  · exact sound_persisting rfl

theorem beginIdle_sound : (w.beginIdle picking commandId key).1.lane.Sound := by
  unfold beginIdle
  split_ifs
  · exact h
  · exact begin_sound h picking commandId key

theorem beginActive_sound : (w.beginActive picking commandId key).1.lane.Sound := by
  unfold beginActive
  split_ifs
  · exact h
  · exact begin_sound h picking commandId key

end

theorem beginConfirmation_sound (h : w.lane.Sound) (commandId key : String) :
    (w.beginConfirmation commandId key).1.lane.Sound := by
  unfold beginConfirmation
  split_ifs
  · exact h
  · split
    · exact h
    · exact beginActive_sound h _ commandId key

theorem recordScan_lane (palletPick : Bool) (scanned : String) (stage : PickScanStage) :
    (w.recordScan palletPick scanned stage).lane = w.lane := by
  cases stage <;> rfl

theorem submitScan_sound (h : w.lane.Sound) (commandId key : String) :
    (w.submitScan commandId key).1.lane.Sound := by
  unfold submitScan
  split
  · exact h
  · next stage _ =>
    dsimp only
    split
    · exact h
    · split
      · exact h
      · next claim _ =>
        have hkept : (w.recordScan (claim.execution.method == .pallet)
            (RustText.trim w.scanDraft) stage).lane.Sound := by
          rw [recordScan_lane]
          exact h
        split_ifs
        · exact h
        · refine beginConfirmation_sound ?_ commandId key
          exact hkept
        · exact hkept

/-- What `reset_scans` leaves: the lane, the pick and the reason for a supervisor. -/
theorem resetScans_kept : w.resetScans.lane = w.lane ∧ w.resetScans.claim = w.claim ∧
    w.resetScans.reconcileReason = w.reconcileReason := by
  unfold resetScans
  split
  · next claim evidence _ _ =>
    split_ifs
    · unfold reuseSourceLicensePlate reuseItem reuseSourceLocation
      split_ifs <;> exact ⟨rfl, rfl, rfl⟩
    · exact ⟨rfl, rfl, rfl⟩
  · exact ⟨rfl, rfl, rfl⟩

/-- The pick that is held after an outcome that its command matches. -/
def endClaim : CommandOutcome → Option PickClaim
  | .claimed claim => claim
  | .confirmed .. | .shortageReported _ | .released _ | .other => none

/-- What an outcome that its command matches leaves and what it changes. -/
theorem applyOutcome_kept (h : outcome ≠ .other) :
    (w.applyOutcome outcome).lane = w.lane ∧ (w.applyOutcome outcome).claim = endClaim outcome ∧
      (w.applyOutcome outcome).reconcileReason = w.reconcileReason := by
  cases outcome with
  | other => exact absurd rfl h
  | claimed claim =>
    obtain ⟨hlane, hclaim, hreason⟩ := resetScans_kept
      (w := { w with claim }.keepEvidenceFor claim)
    have hkept : ({ w with claim }.keepEvidenceFor claim).lane = w.lane ∧
        ({ w with claim }.keepEvidenceFor claim).claim = claim ∧
        ({ w with claim }.keepEvidenceFor claim).reconcileReason = w.reconcileReason := by
      unfold keepEvidenceFor
      split_ifs <;> exact ⟨rfl, rfl, rfl⟩
    exact ⟨hlane.trans hkept.1, hclaim.trans hkept.2.1, hreason.trans hkept.2.2⟩
  | confirmed =>
    obtain ⟨hlane, hclaim, hreason⟩ := resetScans_kept
      (w := { w.retainBatchScanEvidence with claim := none })
    have hkept : w.retainBatchScanEvidence.lane = w.lane ∧
        w.retainBatchScanEvidence.reconcileReason = w.reconcileReason := by
      unfold retainBatchScanEvidence
      split <;> exact ⟨rfl, rfl⟩
    exact ⟨hlane.trans hkept.1, hclaim, hreason.trans hkept.2⟩
  | shortageReported | released =>
    exact resetScans_kept (w := { w with batchScanEvidence := none, claim := none })

theorem ne_other_of_matches {saved : RfCommand PickingCommand}
    (h : outcomeMatches saved outcome = true) : outcome ≠ .other := by
  rintro rfl
  cases saved with
  | other => cases h
  | own picking => cases picking <;> cases h

theorem durableOutcomeRecorded_sound (h : w.lane.Sound) (recordId : ℤ) :
    (w.durableOutcomeRecorded recordId outcome).lane.Sound := by
  unfold durableOutcomeRecorded
  split
  · exact h
  · split_ifs with hunmatched hrefused
    · exact h
    · exact h
    · have hne := ne_other_of_matches (Bool.ne_false_iff.mp hunmatched)
      rw [(applyOutcome_kept (w := { w with lane := .empty }) hne).1]
      exact sound_empty

theorem apply_sound (h : w.lane.Sound) (event : Event) : (w.apply event).1.lane.Sound := by
  cases event with
  | editScan | editClusterId | editZoneId | editPickedQuantity | editShortageNote |
    requireReconciliation => exact h
  | submitScan commandId key => exact submitScan_sound h commandId key
  | beginConfirmation commandId key => exact beginConfirmation_sound h commandId key
  | commandPersisted commandId recordId =>
    change (w.commandPersisted commandId recordId).1.lane.Sound
    unfold commandPersisted
    split
    · exact h
    · next written hwritten =>
      split_ifs with hpositive
      · exact h
      · exact h.written hwritten (not_le.mp hpositive)
  | dispatchStarted recordId => exact h.frame (dispatchStarted_same recordId)
  | dispatchAmbiguous recordId message => exact h.frame (dispatchAmbiguous_same recordId message)
  | retryAmbiguous => exact h.frame retryAmbiguous_same
  | durableOutcomeRecorded recordId => exact durableOutcomeRecorded_sound h recordId
  | restoreCurrentClaim claim =>
    change (w.restoreCurrentClaim claim).lane.Sound
    unfold restoreCurrentClaim
    split_ifs
    · change { w with batchScanEvidence := none, claim }.resetScans.lane.Sound
      rw [resetScans_kept.1]
      exact h
    · exact h
  | restoreReadyCommand | restoreAmbiguousCommand =>
    simp only [PickingWorkflow.apply, restoreReadyCommand, restoreAmbiguousCommand]
    split_ifs with hown hpositive
    · exact h
    · exact h
    · exact sound_of_persisted rfl (Bool.ne_false_iff.mp hown) (not_le.mp hpositive)
  | beginShortage | cancelShortage | setShortageReason | setShortageDisposition |
    setControlledEvidence | beginClaimNext | beginClaimById | beginClusterClaim | beginZoneClaim |
    beginRelease | beginShortageReport | durableRejectionRecorded =>
    -- The others leave the lane, begin a command or empty the lane.
    simp only [PickingWorkflow.apply, beginShortage, cancelShortage, setShortageReason,
      setShortageDisposition, setControlledEvidence, beginClaimNext, beginClaimById,
      beginClusterClaim, beginZoneClaim, beginRelease, beginShortageReport,
      durableRejectionRecorded]
    repeat' split
    all_goals first
      | exact h
      | exact beginIdle_sound h _ _ _
      | exact beginActive_sound h _ _ _
      | exact sound_empty

theorem run_sound (h : WorkflowRun .default w) : w.lane.Sound := by
  refine Run.preserves (fun w : PickingWorkflow => w.lane.Sound) ?_ h sound_empty
  rintro mid event _ - rfl hmid
  exact apply_sound hmid event

end Lanes

section Restarts

/-- The calls of the picking workflow that a restart goes through. -/
instance pickingReloadable :
    Reloadable PickingWorkflow PickingCommand PickClaim CommandOutcome where
  activity := PickingWorkflow.activity
  dispatchStarted := PickingWorkflow.dispatchStarted
  durableOutcomeRecorded := durableOutcomeRecorded
  restoreReadyCommand recordId draft w := (w.restoreReadyCommand recordId draft).1
  restoreAmbiguousCommand := restoreAmbiguousCommand
  retryAmbiguous w := w.retryAmbiguous.1
  claim := PickingWorkflow.claim
  lane := PickingWorkflow.lane
  reconcileReason := PickingWorkflow.reconcileReason
  restoreCurrentClaim := restoreCurrentClaim
  setLane lane w := { w with lane }
  Takes command := command.draft.command.isOwn = true ∧ 0 < command.recordId
  set_kept _ _ := ⟨rfl, rfl, rfl⟩
  ready_eq := by
    rintro command w ⟨hown, hpositive⟩
    rw [PickingWorkflow.restoreReadyCommand, if_neg (ne_false_of_eq_true hown),
      if_neg (not_le.mpr hpositive)]
  ambiguous_eq := by
    rintro command w message ⟨hown, hpositive⟩
    rw [PickingWorkflow.restoreAmbiguousCommand, if_neg (ne_false_of_eq_true hown),
      if_neg (not_le.mpr hpositive)]
  retry_eq _ := rfl
  load_empty := by
    intro loaded w hlane _
    rw [PickingWorkflow.restoreCurrentClaim, if_pos (Lane.isEmpty_iff.mpr hlane)]
    exact ⟨(resetScans_kept (w := { w with batchScanEvidence := none, claim := loaded })).2.1, rfl⟩
  load_busy := by
    intro loaded w hbusy
    rw [PickingWorkflow.restoreCurrentClaim, if_neg (mt Lane.isEmpty_iff.mp hbusy)]

/-- The result is not one of a shortage report, or it fits the order of the pick that was loaded
before the command. -/
def LoadedFits (recovery : Recovery PickClaim) (outcome : CommandOutcome) : Prop :=
  PickingWorkflow.refusesShortage outcome
    { PickingWorkflow.default with claim := recovery.before.join } = false

theorem activity_eq_reconcileRequired_iff :
    w.activity = .reconcileRequired ↔ w.reconcileReason.isSome = true :=
  activityOf_eq_reconcileRequired_iff

/-- The check of a shortage result reads the pick that is held and nothing else. -/
theorem refusesShortage_congr {w' : PickingWorkflow} (h : w.claim = w'.claim) :
    w.refusesShortage outcome = w'.refusesShortage outcome := by
  unfold refusesShortage shortageResultFits
  rw [h]

section

variable (h : w.lane.persisted = some command)
include h

/-- What a workflow does with the outcome of its written command. -/
theorem finish_of_persisted :
    finish command.recordId outcome w =
      if outcomeMatches command.draft.command outcome = false then
        (w.dispatchStarted command.recordId).requireReconciliation
          "Pick result did not match the saved command"
      else if w.refusesShortage outcome then
        (w.dispatchStarted command.recordId).requireReconciliation
          "Short-pick result did not match the active order revision"
      else { w with lane := .empty }.applyOutcome outcome := by
  have hsent : (w.dispatchStarted command.recordId).lane.sent = some command :=
    dispatchStarted_sent h
  change (w.dispatchStarted command.recordId).durableOutcomeRecorded _ outcome = _
  unfold durableOutcomeRecorded
  rw [hsent, Option.filter_some, decide_eq_true rfl, if_pos rfl]
  rfl

/-- A workflow takes the outcome of its written command when the outcome fits the command and, for
a shortage report, the pick that is held. -/
theorem finish_quiet_iff :
    (finish command.recordId outcome w).activity ≠ .reconcileRequired ↔
      w.reconcileReason = none ∧ outcomeMatches command.draft.command outcome = true ∧
        w.refusesShortage outcome = false := by
  rw [Ne, activity_eq_reconcileRequired_iff, Option.not_isSome_iff_eq_none, finish_of_persisted h]
  split_ifs with hunmatched hrefused
  · exact ⟨fun hreason => absurd hreason (by rintro ⟨⟩),
      fun hquiet => absurd (hquiet.2.1.symm.trans hunmatched) (by decide)⟩
  · exact ⟨fun hreason => absurd hreason (by rintro ⟨⟩),
      fun hquiet => absurd (hquiet.2.2.symm.trans hrefused) (by decide)⟩
  · have hmatched := Bool.ne_false_iff.mp hunmatched
    rw [(applyOutcome_kept (w := { w with lane := .empty }) (ne_other_of_matches hmatched)).2.2]
    exact ⟨fun hreason => ⟨hreason, hmatched, Bool.not_eq_true _ ▸ hrefused⟩,
      fun hquiet => hquiet.1⟩

/-- The pick that is held after an outcome that the workflow takes. -/
theorem finish_claim (hmatched : outcomeMatches command.draft.command outcome = true)
    (hfits : w.refusesShortage outcome = false) :
    (finish command.recordId outcome w).claim = endClaim outcome := by
  rw [finish_of_persisted h, hmatched, hfits, if_neg (by decide), if_neg (by decide)]
  exact (applyOutcome_kept (w := { w with lane := .empty }) (ne_other_of_matches hmatched)).2.1

end

/-- A new workflow holds the saved command and the pick that was loaded before it. -/
theorem restore_awaits (recovery : Recovery PickClaim)
    (hown : command.draft.command.isOwn = true) (hpositive : 0 < command.recordId) :
    Awaits command recovery.before.join (recovery.restore command PickingWorkflow.default) :=
  recovery.restore_state ⟨hown, hpositive⟩ rfl rfl rfl

/-- In every state that the workflow reaches with a written command, and for every outcome that it
accepts, a new workflow that takes the command back ends with the same pick and asks for no
supervisor exactly when the outcome is not the result of a shortage report, or fits the pick that
was loaded before the command. -/
theorem restart_shows_only_for_shortage (h : WorkflowRun .default w)
    (hcommand : w.lane.persisted = some command)
    (haccepts : Accepts w command.recordId outcome) (recovery : Recovery PickClaim) :
    ((finish command.recordId outcome (recovery.restore command PickingWorkflow.default)).claim =
        (finish command.recordId outcome w).claim ∧
      (finish command.recordId outcome
        (recovery.restore command PickingWorkflow.default)).activity ≠
        .reconcileRequired) ↔
    LoadedFits recovery outcome := by
  have hsound := run_sound h
  have hown := hsound.own _ (draft_of_persisted hcommand)
  obtain ⟨hlane, hclaim, hreason⟩ :=
    restore_awaits recovery hown (hsound.positive command hcommand)
  obtain ⟨-, hmatched, hfits⟩ := (finish_quiet_iff hcommand).mp haccepts
  have hrefuses : (recovery.restore command PickingWorkflow.default).refusesShortage outcome =
      refusesShortage outcome
        { default with claim := recovery.before.join } :=
    refusesShortage_congr hclaim
  unfold LoadedFits
  rw [← hrefuses, finish_quiet_iff hlane]
  constructor
  · rintro ⟨-, -, -, hloaded⟩
    exact hloaded
  · intro hloaded
    refine ⟨?_, hreason, hmatched, hloaded⟩
    rw [finish_claim hlane hmatched hloaded, finish_claim hcommand hmatched hfits]

end Restarts

section Shortages

/-- A pick of ten loose units. -/
def shelfClaim : PickClaim where
  taskId := 42
  orderId := 7
  orderRevision := 3
  execution := { method := .discrete, clusterId := none, storageZoneId := none }
  pickPolicy :=
    { requireSourceLocationScan := true
      requireItemScan := true
      requireDestinationContainerScan := true }
  suggestedDestinationLicensePlateBarcode := none
  content :=
    { contentId := 43
      sourceInventoryBalanceId := 5
      itemBatchId := 6
      sourceLocationBarcode := "A-01"
      sourceLicensePlateBarcode := none
      itemBarcodes := ["SKU-1"]
      lot := none
      serial := none
      plannedQuantity := 10 }
  palletHasPlate := by decide

/-- The operator finds nothing on the shelf and reports it, and the report is sent. -/
def shortageCalls : List Event :=
  [.restoreCurrentClaim (some shelfClaim), .beginShortage, .editScan "A-01",
    .submitScan "command-1" "key-1", .beginShortageReport "command-2" "key-2",
    .commandPersisted "command-2" 1, .dispatchStarted 1]

/-- The workflow after these calls. -/
def afterShortage : PickingWorkflow :=
  replay (fun w event => (w.apply event).1) shortageCalls .default

theorem afterShortage_run : WorkflowRun .default afterShortage :=
  run_replay_any _ shortageCalls

/-- The report that was sent. -/
def shortageRecord : PersistedCommand PickingCommand :=
  ⟨1, ⟨1, "command-2", "key-2", .own (.reportShortage
    { taskId := 42
      contentId := 43
      sourceLocationBarcode := "A-01"
      sourceLicensePlateBarcode := none
      observedItemBarcode := none
      observedLot := none
      observedSerial := none
      reason := .inventoryMissing
      note := none
      outcome := .noPick })⟩⟩

/-- The result of the report. -/
def shortageResult : PickShortageReportResult where
  shortageId := 9
  taskId := 42
  contentId := 43
  orderId := 7
  orderRevision := 4
  plannedQuantity := 10
  pickedQuantity := 0
  shortQuantity := 10
  reason := .inventoryMissing
  note := none
  observedItemBarcode := none
  observedLot := none
  observedSerial := none

theorem afterShortage_persisted : afterShortage.lane.persisted = some shortageRecord := by
  decide +kernel

theorem afterShortage_accepts : Accepts afterShortage 1 (.shortageReported shortageResult) := by
  unfold Accepts
  decide +kernel

/-- A restart does not show when the pick is loaded before the report. -/
theorem restart_with_pick_does_not_show : (finish 1 (.shortageReported shortageResult)
        ((Recovery.mk (some (some shelfClaim)) .ready none).restore shortageRecord
          PickingWorkflow.default)).claim =
      (finish 1 (.shortageReported shortageResult) afterShortage).claim :=
  ((restart_shows_only_for_shortage afterShortage_run afterShortage_persisted
    afterShortage_accepts ⟨some (some shelfClaim), .ready, none⟩).mpr
      (by unfold LoadedFits; decide +kernel)).1

/-- A shortage report is sent and the device restarts. The result that the workflow would have
taken calls for a supervisor, however the report is taken back, when the pick is not loaded and
also when it is loaded after the report. -/
theorem restart_loses_shortage_report :
    WorkflowRun .default afterShortage ∧ afterShortage.lane.persisted = some shortageRecord ∧
      Accepts afterShortage 1 (.shortageReported shortageResult) ∧
      ∀ (takenBack : TakenBack) (after : Option (Option PickClaim)),
        (finish 1 (.shortageReported shortageResult)
          ((Recovery.mk none takenBack after).restore shortageRecord
            PickingWorkflow.default)).activity =
            .reconcileRequired := by
  refine ⟨afterShortage_run, afterShortage_persisted, afterShortage_accepts, ?_⟩
  intro takenBack after
  have hown : shortageRecord.draft.command.isOwn = true := rfl
  obtain ⟨hlane, hclaim, -⟩ :=
    restore_awaits (Recovery.mk none takenBack after) hown (by decide)
  have hrefuses : ((Recovery.mk none takenBack after).restore shortageRecord
      PickingWorkflow.default).refusesShortage (.shortageReported shortageResult) =
        PickingWorkflow.default.refusesShortage (.shortageReported shortageResult) :=
    refusesShortage_congr hclaim
  by_contra hquiet
  obtain ⟨-, -, hfits⟩ := (finish_quiet_iff hlane).mp hquiet
  rw [hrefuses] at hfits
  cases hfits

end Shortages

end Wareboxes.RfPickingRestarts
