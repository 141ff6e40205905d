import Wareboxes.RfMovement

/-!
# Confirmations are backed by scans

The scans that the workflow took since a task became active are kept beside it.
The workflow marks the source as verified only after the barcode of the source was
scanned, keeps a plate only when it is the plate of the task, and forgets both
whenever the task changes. So a confirmation names the active task, its
destination and its plate, and its source was scanned for this task.
-/

namespace Wareboxes.RfMovementScans

open RustText LabelledRuns RfLanes RfMovement MovementWorkflow

variable {w w' : MovementWorkflow} {event : Event} {scans : List (ScanStage × String)}

/-- The call makes a task active: the answer to a claim is applied, or the server names the
current task. -/
def activates (w : MovementWorkflow) : Event → Bool
  | .durableOutcomeRecorded recordId outcome =>
    outcome.claimed.isSome && decide (w.lane ≠ .empty) &&
      decide ((w.durableOutcomeRecorded recordId outcome).1.lane = .empty)
  | .restoreCurrentPutawayClaim claim => claim.isSome
  | .restoreCurrentInventoryRelocationClaim claim => claim.isSome
  | _ => false

/-- The scan that a call takes. -/
def scannedBy (w : MovementWorkflow) : Event → List (ScanStage × String)
  | .submitScan _ _ => (w.expectedScan.map fun stage => (stage, trim w.scanDraft)).toList
  | _ => []

/-- The workflow, and the scans since the task became active. -/
structure World where
  workflow : MovementWorkflow
  /-- The scans since the task became active, oldest first. -/
  scans : List (ScanStage × String)

/-- A device that was just started. -/
def World.initial : World := ⟨.default, []⟩

/-- The state after a call. -/
def World.next (world : World) (event : Event) : World where
  workflow := (world.workflow.apply event).1
  scans := if activates world.workflow event then []
    else world.scans ++ scannedBy world.workflow event

/-- A saved command is put back only when no task is active. -/
def RestoresIdle (world : World) : Event → Prop
  | .restoreReadyCommand _ _ => world.workflow.claim = none
  | .restoreAmbiguousCommand _ _ _ => world.workflow.claim = none
  | _ => True

/-- The runs of the workflow in which saved commands are put back when no task is active. -/
def MovementRun : World → World → Prop :=
  Run (fun world event world' => world' = world.next event) RestoresIdle

/-- The task, the operation and the progress of the scans are the same. -/
structure SameProgress (w w' : MovementWorkflow) : Prop where
  /-- The task is the same. -/
  claim : w'.claim = w.claim
  operation : w'.operation = w.operation
  sourceVerified : w'.sourceVerified = w.sourceVerified
  licensePlateScan : w'.licensePlateScan = w.licensePlateScan

/-- What a call can do to the task and the scans. -/
structure Advance (w : MovementWorkflow) (event : Event) (w' : MovementWorkflow) : Prop where
  /-- The task stays, or it is of the kind. -/
  operation : w'.claim = w.claim ∧ w'.operation = w.operation ∨
    ∀ claim ∈ w'.claim, claim.operation = w'.operation
  /-- The source was verified before, or its barcode is scanned now. -/
  source : w'.sourceVerified = true → activates w event = false ∧ w'.claim = w.claim ∧
    (w.sourceVerified = true ∨ ∃ claim ∈ w.claim, ∃ barcode,
      claim.details.sourceBarcode = some barcode ∧ (.source, barcode) ∈ scannedBy w event)
  /-- The plate was there before, or it is that of the task. -/
  plate : ∀ barcode ∈ w'.licensePlateScan, w'.claim = w.claim ∧ (w.licensePlateScan = some barcode ∨
    ∃ claim ∈ w.claim, claim.details.work.plate = some barcode)

/-- The task and the scans stay, and the operation does when there is a task. -/
theorem Advance.kept (hquiet : activates w event = false) (hclaim : w'.claim = w.claim)
    (hoperation : w'.operation = w.operation ∨ w'.claim = none)
    (hsource : w'.sourceVerified = w.sourceVerified)
    (hplate : w'.licensePlateScan = w.licensePlateScan) : Advance w event w' where
  operation := by
    rcases hoperation with hsame | hidle
    · exact .inl ⟨hclaim, hsame⟩
    · rw [hidle]
      exact .inr nofun
  source hverified := ⟨hquiet, hclaim, .inl (hsource ▸ hverified)⟩
  plate _ hbarcode := ⟨hclaim, .inl (hplate ▸ hbarcode)⟩

theorem Advance.same (hquiet : activates w event = false) (hsame : SameProgress w w') :
    Advance w event w' :=
  .kept hquiet hsame.claim (.inl hsame.operation) hsame.sourceVerified hsame.licensePlateScan

/-- The task changed and nothing is scanned yet. -/
theorem Advance.restarted (hoperation : ∀ claim ∈ w'.claim, claim.operation = w'.operation)
    (hsource : w'.sourceVerified = false) (hplate : w'.licensePlateScan = none) :
    Advance w event w' where
  operation := .inr hoperation
  source hverified := by
    rw [hsource] at hverified
    cases hverified
  plate _ hbarcode := by
    rw [hplate] at hbarcode
    cases hbarcode

/-- The task fits the operation, and the progress of the scans belongs to the task. -/
structure Backed (w : MovementWorkflow) (scans : List (ScanStage × String)) : Prop where
  /-- The task is of the chosen kind. -/
  operation : ∀ claim ∈ w.claim, claim.operation = w.operation
  /-- A verified source was scanned. -/
  source : w.sourceVerified = true → ∃ claim ∈ w.claim, ∃ barcode,
    claim.details.sourceBarcode = some barcode ∧ (.source, barcode) ∈ scans
  /-- A scanned plate is that of the task. -/
  plate : ∀ barcode ∈ w.licensePlateScan, ∃ claim ∈ w.claim,
    claim.details.work.plate = some barcode

theorem Backed.advance (h : Backed w scans) (hadvance : Advance w event w') :
    Backed w' (if activates w event then [] else scans ++ scannedBy w event) := by
  constructor
  · rcases hadvance.operation with ⟨hclaim, hoperation⟩ | hfits
    · rw [hclaim, hoperation]
      exact h.operation
    · exact hfits
  · intro hverified
    obtain ⟨hquiet, hclaim, hkept | ⟨claim, hheld, barcode, hbarcode, hscan⟩⟩ :=
      hadvance.source hverified
    · obtain ⟨claim, hheld, barcode, hbarcode, hscan⟩ := h.source hkept
      rw [hquiet, hclaim]
      exact ⟨claim, hheld, barcode, hbarcode, List.mem_append_left _ hscan⟩
    · rw [hquiet, hclaim]
      exact ⟨claim, hheld, barcode, hbarcode, List.mem_append_right _ hscan⟩
  · intro barcode hbarcode
    obtain ⟨hclaim, hkept | hheld⟩ := hadvance.plate barcode hbarcode
    · rw [hclaim]
      exact h.plate barcode hkept
    · rw [hclaim]
      exact hheld

theorem SameProgress.refl (w : MovementWorkflow) : SameProgress w w := ⟨rfl, rfl, rfl, rfl⟩

theorem beginCommand_same (commandId key : String) (command : MovementCommand) :
    SameProgress w (w.beginCommand commandId key command).1 := by
  unfold beginCommand
  split_ifs <;> exact ⟨rfl, rfl, rfl, rfl⟩

variable {commandId key : String} {taskId : ℤ} {reason : ReleaseReason} {note : Option String}
  {operation : MovementOperation} {claim : Option ActiveMovementClaim} {command : MovementCommand}

theorem beginClaimNext_same : SameProgress w (w.beginClaimNext commandId key).1 := by
  unfold beginClaimNext
  split_ifs
  · exact .refl w
  · exact beginCommand_same ..

theorem beginClaimById_same : SameProgress w (w.beginClaimById taskId commandId key).1 := by
  unfold beginClaimById
  split_ifs
  · exact .refl w
  · exact ⟨rfl, rfl, rfl, rfl⟩
  · exact beginCommand_same ..

theorem beginRelease_same : SameProgress w (w.beginRelease commandId key reason note).1 := by
  unfold beginRelease
  split_ifs
  · exact .refl w
  · split
    · exact .refl w
    · dsimp only
      split_ifs
      · exact ⟨rfl, rfl, rfl, rfl⟩
      · exact ⟨rfl, rfl, rfl, rfl⟩
      · exact beginCommand_same ..

/-- A saved command that is put back keeps the task and the scans. -/
theorem restore_keeps (recordId : ℤ) (draft : Draft OwnCommand) (message : String) :
    ((w.restoreReadyCommand recordId draft).1.claim = w.claim ∧
      (w.restoreReadyCommand recordId draft).1.sourceVerified = w.sourceVerified ∧
      (w.restoreReadyCommand recordId draft).1.licensePlateScan = w.licensePlateScan) ∧
    (w.restoreAmbiguousCommand recordId draft message).1.claim = w.claim ∧
      (w.restoreAmbiguousCommand recordId draft message).1.sourceVerified = w.sourceVerified ∧
      (w.restoreAmbiguousCommand recordId draft message).1.licensePlateScan =
        w.licensePlateScan := by
  unfold restoreReadyCommand restoreAmbiguousCommand
  constructor
  all_goals
    split
    · exact ⟨rfl, rfl, rfl⟩
    · split_ifs <;> exact ⟨rfl, rfl, rfl⟩

theorem claim_none_of_idle (h : w.activity = .idle) : w.claim = none := by
  obtain ⟨hreason, hlane⟩ := lane_empty_of_activityOf (.inl h)
  unfold activity activityOf at h
  rw [hreason, hlane] at h
  cases hclaim : w.claim with
  | none => rfl
  | some =>
    rw [hclaim] at h
    cases h

theorem selectOperation_advance :
    Advance w (.selectOperation operation) (w.selectOperation operation) := by
  unfold selectOperation
  split_ifs with hidle
  · have hclaim := claim_none_of_idle hidle
    exact .kept rfl rfl (.inr hclaim) rfl rfl
  · exact .same rfl (.refl w)

/-- An expected scan belongs to the active task. -/
theorem expectedScan_cases {stage : ScanStage} (h : w.expectedScan = some stage) :
    ∃ claim, w.claim = some claim ∧
      match stage with
      | .source => w.sourceVerified = false
      | .licensePlate => claim.details.work.kind = .licensePlate
      | .destination => claim.details.sourceBarcode.isSome = true → w.sourceVerified = true := by
  unfold expectedScan at h
  split_ifs at h
  split at h
  · cases h
  · next claim hclaim =>
    refine ⟨claim, hclaim, ?_⟩
    split_ifs at h with hsource hplate
    · cases h
      simp only [Bool.and_eq_true, Bool.not_eq_true'] at hsource
      exact hsource.2
    · cases h
      exact hplate.1
    · cases h
      intro hbarcode
      simpa [hbarcode] using hsource

theorem submitScan_advance :
    Advance w (.submitScan commandId key) (w.submitScan commandId key).1 := by
  unfold submitScan
  cases hstage : w.expectedScan with
  | none => exact .same rfl (.refl w)
  | some stage =>
    dsimp only
    split_ifs
    · exact .same rfl ⟨rfl, rfl, rfl, rfl⟩
    · split
      · exact .same rfl (.refl w)
      · next claim hclaim =>
        cases stage with
        | source =>
          unfold scanSource
          split_ifs with hbarcode
          · exact .same rfl ⟨rfl, rfl, rfl, rfl⟩
          · refine ⟨.inl ⟨rfl, rfl⟩, fun _ => ⟨rfl, rfl, .inr ⟨claim, hclaim, trim w.scanDraft,
              not_not.mp hbarcode, ?_⟩⟩, fun _ hplate => ⟨rfl, .inl hplate⟩⟩
            unfold scannedBy
            rw [hstage]
            exact List.mem_singleton.mpr rfl
        | licensePlate =>
          dsimp only
          unfold scanLicensePlate
          split
          · exact .same rfl ⟨rfl, rfl, rfl, rfl⟩
          · next hwork =>
            split_ifs with hbarcode
            · exact .same rfl ⟨rfl, rfl, rfl, rfl⟩
            · refine ⟨.inl ⟨rfl, rfl⟩, fun hverified => ⟨rfl, rfl, .inl hverified⟩,
                fun _ hscanned => ⟨rfl, .inr ⟨claim, hclaim, ?_⟩⟩⟩
              rw [hwork, MovementWork.plate, not_not.mp hbarcode]
              exact hscanned
        | destination =>
          dsimp only
          unfold scanDestination
          split_ifs
          · exact .same rfl ⟨rfl, rfl, rfl, rfl⟩
          · split
            · exact .same rfl (.refl w)
            · have hsame := beginCommand_same (w := w.acceptScan) commandId key
              exact .same rfl ⟨(hsame _).claim, (hsame _).operation, (hsame _).sourceVerified,
                (hsame _).licensePlateScan⟩

theorem activates_outcome_eq_false {recordId : ℤ} {outcome : CommandOutcome}
    (h : (w.durableOutcomeRecorded recordId outcome).1.lane = w.lane) :
    activates w (.durableOutcomeRecorded recordId outcome) = false := by
  change (outcome.claimed.isSome && decide (w.lane ≠ .empty) &&
    decide ((w.durableOutcomeRecorded recordId outcome).1.lane = .empty)) = false
  rw [h]
  cases w.lane <;> simp

theorem durableOutcomeRecorded_advance (recordId : ℤ) (outcome : CommandOutcome) :
    Advance w (.durableOutcomeRecorded recordId outcome)
      (w.durableOutcomeRecorded recordId outcome).1 := by
  have hkeep : ∀ reason, (w.durableOutcomeRecorded recordId outcome).1 =
      w.requireReconciliation reason → Advance w (.durableOutcomeRecorded recordId outcome)
        (w.durableOutcomeRecorded recordId outcome).1 := by
    intro reason hresult
    refine .same (activates_outcome_eq_false (by rw [hresult]; rfl)) ?_
    rw [hresult]
    exact ⟨rfl, rfl, rfl, rfl⟩
  rcases w.durableOutcomeRecorded_cases recordId outcome with
    ⟨hresult, -⟩ | ⟨reason, hresult⟩ | ⟨command, -, -, -, -, hresult⟩
  · refine .same (activates_outcome_eq_false (by rw [hresult])) ?_
    rw [hresult]
    exact .refl w
  · exact hkeep reason (by rw [hresult])
  · rcases w.applyOutcome_cases outcome with ⟨hfits, hended⟩ | ⟨-, reason, happly⟩
    · rw [hresult]
      refine .restarted (fun claim hclaim => ?_) hended.sourceVerified hended.licensePlateScan
      rw [hended.claim] at hclaim
      rw [hended.operation]
      exact (hfits.2 claim hclaim).1
    · exact hkeep reason (by rw [hresult, happly])

variable {world : World} {draft : Draft OwnCommand}

theorem apply_advance (hallowed : RestoresIdle world event) :
    Advance world.workflow event (world.workflow.apply event).1 := by
  cases event with
  | selectOperation => exact selectOperation_advance
  | selectKind kind =>
    refine .same rfl ?_
    change SameProgress _ (world.workflow.selectKind kind)
    unfold selectKind
    split_ifs <;> exact ⟨rfl, rfl, rfl, rfl⟩
  | editScan | requireReconciliation | dispatchStarted | dispatchAmbiguous | retryAmbiguous =>
    exact .same rfl ⟨rfl, rfl, rfl, rfl⟩
  | beginClaimNext => exact .same rfl beginClaimNext_same
  | beginClaimById => exact .same rfl beginClaimById_same
  | submitScan => exact submitScan_advance
  | beginRelease => exact .same rfl beginRelease_same
  | commandPersisted commandId recordId =>
    refine .same rfl ?_
    change SameProgress _ (world.workflow.commandPersisted commandId recordId).1
    unfold commandPersisted
    split
    · exact .refl _
    · split_ifs <;> exact ⟨rfl, rfl, rfl, rfl⟩
  | restoreReadyCommand recordId draft =>
    obtain ⟨hclaim, hsource, hplate⟩ := (restore_keeps recordId draft "").1
    exact .kept rfl hclaim (.inr (hclaim.trans hallowed)) hsource hplate
  | restoreAmbiguousCommand recordId draft message =>
    obtain ⟨hclaim, hsource, hplate⟩ := (restore_keeps recordId draft message).2
    exact .kept rfl hclaim (.inr (hclaim.trans hallowed)) hsource hplate
  | durableOutcomeRecorded recordId outcome => exact durableOutcomeRecorded_advance recordId outcome
  | durableRejectionRecorded recordId message =>
    refine .same rfl ?_
    change SameProgress _ (world.workflow.durableRejectionRecorded recordId message).1
    unfold durableRejectionRecorded
    split
    · exact .refl _
    · split_ifs <;> exact ⟨rfl, rfl, rfl, rfl⟩
  | restoreCurrentPutawayClaim =>
    refine .restarted (fun held hheld => ?_) rfl rfl
    obtain ⟨_, -, rfl⟩ := Option.map_eq_some_iff.mp hheld
    rfl
  | restoreCurrentInventoryRelocationClaim =>
    refine .restarted (fun held hheld => ?_) rfl rfl
    obtain ⟨_, -, rfl⟩ := Option.map_eq_some_iff.mp hheld
    rfl

theorem run_backed (h : MovementRun World.initial world) : Backed world.workflow world.scans := by
  refine Run.preserves (fun world : World => Backed world.workflow world.scans) ?_ h ?_
  · rintro mid event _ hallowed rfl hmid
    exact hmid.advance (apply_advance hallowed)
  · refine ⟨?_, ?_, ?_⟩
    · rintro _ ⟨⟩
    · rintro ⟨⟩
    · rintro _ ⟨⟩

/-- What a confirmation says. -/
structure Confirmation where
  operation : MovementOperation
  taskId : ℤ
  plate : Option String
  destination : String

/-- The confirmation that a command is. -/
def confirmationOf : RfCommand OwnCommand → Option Confirmation
  | .own (.putaway (.confirmLoose taskId destination _)) =>
    some ⟨.putaway, taskId, none, destination⟩
  | .own (.putaway (.confirmLicensePlate taskId plate destination _)) =>
    some ⟨.putaway, taskId, some plate, destination⟩
  | .own (.inventoryRelocation (.confirmLoose taskId destination)) =>
    some ⟨.inventoryRelocation, taskId, none, destination⟩
  | .own (.inventoryRelocation (.confirmLicensePlate taskId plate destination)) =>
    some ⟨.inventoryRelocation, taskId, some plate, destination⟩
  | _ => none

/-- The confirmation that a command is, in the operation that sends it. -/
def begunConfirmation (operation : MovementOperation) :
    MovementCommand → Option Confirmation
  | .confirmLoose taskId destination => some ⟨operation, taskId, none, destination⟩
  | .confirmLicensePlate taskId plate destination =>
    some ⟨operation, taskId, some plate, destination⟩
  | _ => none

theorem confirmationOf_rfCommand :
    confirmationOf (w.rfCommand command) =
      begunConfirmation w.operation command := by
  unfold rfCommand
  cases w.operation <;> cases command <;> rfl

/-- A command that was begun is written. -/
theorem beginCommand_effect
    (h : (w.beginCommand commandId key command).2 = some (.persistCommand draft)) :
    draft.command = w.rfCommand command := by
  unfold beginCommand at h
  split_ifs at h
  cases h
  rfl

theorem acceptScan_rfCommand :
    w.acceptScan.rfCommand command = w.rfCommand command := rfl

/-- A scan asks for a confirmation when it is that of the destination. -/
theorem submitScan_effect (h : (w.submitScan commandId key).2 = some (.persistCommand draft)) :
    ∃ claim command, w.claim = some claim ∧ w.expectedScan = some .destination ∧
      claim.details.destination.barcode = some (trim w.scanDraft) ∧
      w.confirmation claim.details (trim w.scanDraft) = some command ∧
      draft.command = w.rfCommand command := by
  unfold submitScan at h
  split at h
  · cases h
  · next stage hstage =>
    dsimp only at h
    split_ifs at h
    split at h
    · cases h
    · next claim hclaim =>
      cases stage with
      | source | licensePlate => cases h
      | destination =>
        dsimp only at h
        unfold scanDestination at h
        split_ifs at h with hbarcode
        split at h
        · cases h
        · next command hcommand =>
          refine ⟨claim, command, hclaim, hstage, not_not.mp hbarcode, hcommand, ?_⟩
          rw [← acceptScan_rfCommand]
          exact beginCommand_effect h

/-- A command that is written was begun by an idle workflow, by a release, or by the scan of the
destination. -/
theorem persisted_command (h : (w.apply event).2 = some (.persistCommand draft)) :
    ∃ command, draft.command = w.rfCommand command ∧
      (begunConfirmation w.operation command = none ∨
        ∃ claim, w.claim = some claim ∧ w.expectedScan = some .destination ∧
          claim.details.destination.barcode = some (trim w.scanDraft) ∧
          w.confirmation claim.details (trim w.scanDraft) = some command) := by
  cases event with
  | selectOperation | selectKind | editScan | restoreCurrentPutawayClaim |
    restoreCurrentInventoryRelocationClaim | requireReconciliation => cases h
  | beginClaimNext commandId key =>
    change (w.beginClaimNext commandId key).2 = _ at h
    unfold beginClaimNext at h
    split_ifs at h
    exact ⟨_, beginCommand_effect h, .inl rfl⟩
  | beginClaimById taskId commandId key =>
    change (w.beginClaimById taskId commandId key).2 = _ at h
    unfold beginClaimById at h
    split_ifs at h
    exact ⟨_, beginCommand_effect h, .inl rfl⟩
  | submitScan =>
    obtain ⟨claim, command, hclaim, hstage, hbarcode, hcommand, hdraft⟩ := submitScan_effect h
    exact ⟨command, hdraft, .inr ⟨claim, hclaim, hstage, hbarcode, hcommand⟩⟩
  | beginRelease commandId key reason note =>
    change (w.beginRelease commandId key reason note).2 = _ at h
    unfold beginRelease at h
    split_ifs at h
    split at h
    · cases h
    · dsimp only at h
      split_ifs at h
      exact ⟨_, beginCommand_effect h, .inl rfl⟩
  | commandPersisted commandId recordId =>
    change (w.commandPersisted commandId recordId).2.effect? = _ at h
    unfold commandPersisted at h
    split at h
    · cases h
    · split_ifs at h <;> cases h
  | dispatchStarted | dispatchAmbiguous =>
    simp only [apply, dispatchStarted, dispatchAmbiguous, moveLane] at h
    split_ifs at h <;> cases h
  | restoreReadyCommand | restoreAmbiguousCommand =>
    simp only [apply, restoreReadyCommand, restoreAmbiguousCommand] at h
    split at h
    · cases h
    · split_ifs at h <;> cases h
  | retryAmbiguous =>
    change w.lane.retryAmbiguous.2 = _ at h
    unfold Lane.retryAmbiguous at h
    split at h <;> cases h
  | durableRejectionRecorded recordId message =>
    change (w.durableRejectionRecorded recordId message).2.effect? = _ at h
    unfold durableRejectionRecorded at h
    split at h
    · cases h
    · split_ifs at h <;> cases h
  | durableOutcomeRecorded recordId outcome =>
    change (w.durableOutcomeRecorded recordId outcome).2.effect? = _ at h
    rcases w.durableOutcomeRecorded_cases recordId outcome with
      ⟨hresult, -⟩ | ⟨_, hresult⟩ | ⟨_, -, -, -, -, hresult⟩
    all_goals
      rw [hresult] at h
      cases h

/-- The confirmation of a task names the task and its scanned destination and plate. -/
theorem confirmation_of_scan {claim : ActiveMovementClaim} (hbacked : Backed w scans)
    (hclaim : w.claim = some claim) {scanned : String}
    (h : w.confirmation claim.details scanned = some command) :
    begunConfirmation w.operation command =
      some ⟨claim.operation, claim.details.taskId, claim.details.work.plate, scanned⟩ := by
  rw [← hbacked.operation claim hclaim]
  unfold confirmation at h
  split at h
  · next hwork =>
    cases h
    rw [hwork]
    rfl
  · next hwork =>
    obtain ⟨plate, hplate, rfl⟩ := Option.map_eq_some_iff.mp h
    obtain ⟨held, hheld, hsame⟩ := hbacked.plate plate hplate
    cases hclaim.symm.trans hheld
    rw [hsame]
    rfl

/-- In every run, a confirmation that the workflow asks to be written names the active task and
its operation, the destination that the task directs and, for a move of a plate, the plate of the
task; and when the task names a barcode of its source, that barcode was scanned as the source
since the task became active. -/
theorem confirmations_are_scan_backed (h : MovementRun World.initial world)
    (heffect : (world.workflow.apply event).2 = some (.persistCommand draft))
    {confirmation : Confirmation}
    (hconfirmation : confirmationOf draft.command = some confirmation) :
    ∃ claim, world.workflow.claim = some claim ∧
      confirmation.taskId = claim.details.taskId ∧ confirmation.operation = claim.operation ∧
      claim.details.destination.barcode = some confirmation.destination ∧
      confirmation.plate = claim.details.work.plate ∧
      ∀ barcode, claim.details.sourceBarcode = some barcode → (.source, barcode) ∈ world.scans := by
  have hbacked := run_backed h
  obtain ⟨command, hcommand, hcases⟩ := persisted_command heffect
  rw [hcommand, confirmationOf_rfCommand] at hconfirmation
  rcases hcases with hnone | ⟨claim, hclaim, hstage, hdestination, hcommand⟩
  · rw [hnone] at hconfirmation
    cases hconfirmation
  · rw [confirmation_of_scan hbacked hclaim hcommand] at hconfirmation
    cases hconfirmation
    refine ⟨claim, hclaim, rfl, rfl, hdestination, rfl, fun barcode hbarcode => ?_⟩
    obtain ⟨other, hother, hverified⟩ := expectedScan_cases hstage
    cases hclaim.symm.trans hother
    obtain ⟨held, hheld, scanned, hscanned, hmem⟩ :=
      hbacked.source (hverified (by rw [hbarcode]; rfl))
    cases hclaim.symm.trans hheld
    cases hbarcode.symm.trans hscanned
    exact hmem

section Putaway

/-- A putaway task of loose units. -/
def looseClaim : PutawayClaim where
  details := ⟨42, some ⟨some "RECV-01"⟩, ⟨some "A-01-01"⟩, .loose⟩
  policy := .productDefault

/-- The task is claimed, and its source is scanned. -/
def sourceScanned : List Event :=
  [.beginClaimNext "command-1" "key-1", .commandPersisted "command-1" 1, .dispatchStarted 1,
   .durableOutcomeRecorded 1 (.putawayClaimed (some looseClaim)), .editScan " RECV-01 ",
   .submitScan "command-2" "key-2", .editScan "A-01-01"]

/-- The state after these calls. -/
def afterSource : World := replay World.next sourceScanned .initial

/-- The confirmation that the scan of the destination asks for. -/
def looseConfirmation : Draft OwnCommand :=
  ⟨1, "command-3", "key-3", .own (.putaway (.confirmLoose 42 "A-01-01"
    PutawayPolicy.productDefault.expectation))⟩

/-- The scan of the destination confirms the task, whose source was scanned before. -/
theorem loose_confirmation_is_scan_backed :
    (afterSource.workflow.apply (.submitScan "command-3" "key-3")).2 =
        some (.persistCommand looseConfirmation) ∧
      ∃ claim, afterSource.workflow.claim = some claim ∧ claim.details.taskId = 42 ∧
        ∀ barcode, claim.details.sourceBarcode = some barcode →
          (.source, barcode) ∈ afterSource.scans := by
  have hrun : MovementRun World.initial afterSource := run_replay World.next
    ⟨trivial, trivial, trivial, trivial, trivial, trivial, trivial, trivial⟩
  have heffect : (afterSource.workflow.apply (.submitScan "command-3" "key-3")).2 =
      some (.persistCommand looseConfirmation) := by decide +kernel
  obtain ⟨claim, hclaim, htask, -, -, -, hsource⟩ :=
    confirmations_are_scan_backed hrun heffect rfl
  exact ⟨heffect, claim, hclaim, htask.symm, hsource⟩

end Putaway

end Wareboxes.RfMovementScans
