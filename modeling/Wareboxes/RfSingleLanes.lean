import Wareboxes.RfDirectedMoves
import Wareboxes.RfOutboundLoad

/-!
# One command at a time in the handheld workflows

While a command is under way, the replenishment, cross-dock and outbound load
workflows begin no other, only the outcome or the rejection of its own row ends it,
and the callbacks of other commands change nothing. Three entry points do not look
at the lane: a release is begun from any claim that is held, a load that was looked
up empties the lane, and a saved command takes the lane whatever is in it. In every
sequence of calls the rule holds exactly when no call is one of these with another
command in its way, and then a written command stays until its own row ends it.
-/

namespace Wareboxes.RfSingleLanes

open LabelledRuns RfCommandStore RfLanes Lane

section DirectedMoves

open RfDirectedMoves MoveWorkflow

variable {m : DirectedMoves} {w : MoveWorkflow m}

/-- The call begins a release, or takes a saved command back that is not the one under way with
its row, while a command is under way. -/
def MoveIntrudes (w : MoveWorkflow m) : Event m → Prop
  | .beginRelease commandId key =>
    w.lane ≠ .empty ∧ w.claim.isSome = true ∧ blankIdentity commandId key = false
  | .restoreReadyCommand recordId draft | .restoreAmbiguousCommand recordId draft _ =>
    refusesSaved recordId draft = false ∧ w.lane ≠ .empty ∧
      w.lane.persisted ≠ some ⟨recordId, draft⟩
  | _ => False

variable {command : MoveCommand m} {commandId key : String} {recordId : ℤ}
  {outcome : RfDirectedMoves.CommandOutcome m} {message : String} {draft : Draft (MoveCommand m)}
  {event : Event m}

theorem begin_singleLane (h : w.lane = .empty) :
    SingleLane w.lane none (w.begin command commandId key).1.lane
      (w.begin command commandId key).2 := by
  unfold begin
  split_ifs
  · exact singleLane_refl
  · rw [h]
    exact singleLane_persist _

theorem beginIdle_singleLane :
    SingleLane w.lane none (w.beginIdle command commandId key).1.lane
      (w.beginIdle command commandId key).2 := by
  unfold beginIdle
  split_ifs with hactivity
  · exact singleLane_refl
  · exact begin_singleLane (lane_empty_of_activityOf (.inl (not_not.mp hactivity))).2

theorem beginConfirmation_singleLane :
    SingleLane w.lane none (w.beginConfirmation commandId key).1.lane
      (w.beginConfirmation commandId key).2 := by
  unfold beginConfirmation
  split
  · exact singleLane_refl
  · next hguard =>
    push Not at hguard
    split
    · exact singleLane_refl
    · exact begin_singleLane (lane_empty_of_activityOf (.inr hguard.1)).2

/-- A release is begun whatever the lane holds. -/
theorem beginRelease_singleLane_iff :
    SingleLane w.lane none (w.beginRelease commandId key).1.lane
        (w.beginRelease commandId key).2 ↔
      ¬ MoveIntrudes w (.beginRelease commandId key) := by
  unfold beginRelease
  cases hclaim : w.claim with
  | none =>
    refine iff_of_true singleLane_refl ?_
    rintro ⟨-, hheld, -⟩
    rw [hclaim] at hheld
    cases hheld
  | some =>
    by_cases hempty : w.lane = .empty
    · refine iff_of_true (begin_singleLane hempty) ?_
      rintro ⟨hlane, -, -⟩
      exact hlane hempty
    · dsimp only
      unfold begin
      split_ifs with hblank
      · refine iff_of_true singleLane_refl ?_
        rintro ⟨-, -, hidentity⟩
        rw [hblank] at hidentity
        cases hidentity
      · refine iff_of_false ?_ ?_
        · intro hsingle
          exact hempty (hsingle.begun _ rfl).1
        · rw [not_not]
          exact ⟨hempty, by rw [hclaim]; rfl, Bool.not_eq_true _ ▸ hblank⟩

theorem submitScan_lane : w.submitScan.1.lane = w.lane := by
  unfold submitScan
  split_ifs
  · rfl
  · split
    · rfl
    · next stage _ =>
      dsimp only
      split_ifs
      · rfl
      · split
        · rfl
        · split_ifs
          · rfl
          · cases stage <;> rfl

theorem applyOutcome_lane (outcome : RfDirectedMoves.CommandOutcome m) :
    (w.applyOutcome outcome).lane = w.lane := by
  cases outcome <;> rfl

theorem durableOutcomeRecorded_singleLane :
    SingleLane w.lane (some (.ended recordId))
      (w.durableOutcomeRecorded recordId outcome).lane none := by
  unfold durableOutcomeRecorded
  split_ifs with haccepts
  · exact singleLane_refl
  · rw [applyOutcome_lane]
    refine singleLane_end ?_
    rw [Bool.not_eq_false, acceptsOutcome, Option.any_eq_true] at haccepts
    obtain ⟨command, hsent, hmatches⟩ := haccepts
    rw [Bool.and_eq_true] at hmatches
    exact ownsRecord_of_sent hsent (of_decide_eq_true hmatches.1)

theorem durableRejectionRecorded_singleLane :
    SingleLane w.lane (some (.ended recordId))
      (w.durableRejectionRecorded recordId message).lane none := by
  unfold durableRejectionRecorded
  split
  · exact singleLane_refl
  · next command hsent =>
    obtain ⟨hsent, hrecord⟩ := Option.filter_eq_some_iff.mp hsent
    split_ifs <;> exact singleLane_end (ownsRecord_of_sent hsent (of_decide_eq_true hrecord))

/-- A call of a workflow of directed moves respects the command under way exactly when it does
not intrude. -/
theorem move_singleLane_iff :
    SingleLane w.lane event.callback (w.apply event).1.lane (w.apply event).2 ↔
      ¬ MoveIntrudes w event := by
  cases event with
  | editScan | requireReconciliation => exact iff_of_true singleLane_refl not_false
  | beginClaimNext => exact iff_of_true beginIdle_singleLane not_false
  | beginClaimById workId commandId key =>
    refine iff_of_true ?_ not_false
    change SingleLane w.lane _ (w.beginClaimById workId commandId key).1.lane
      (w.beginClaimById workId commandId key).2
    unfold beginClaimById
    split_ifs
    · exact singleLane_refl
    · exact beginIdle_singleLane
  | submitScan =>
    refine iff_of_true ?_ not_false
    change SingleLane w.lane _ w.submitScan.1.lane none
    rw [submitScan_lane]
    exact singleLane_refl
  | beginConfirmation => exact iff_of_true beginConfirmation_singleLane not_false
  | beginRelease => exact beginRelease_singleLane_iff
  | commandPersisted commandId recordId =>
    refine iff_of_true ?_ not_false
    change SingleLane w.lane _ (w.commandPersisted commandId recordId).1.lane
      (w.commandPersisted commandId recordId).2.effect?
    unfold commandPersisted
    split
    · exact singleLane_refl
    · next command hwritten =>
      split_ifs
      · exact singleLane_refl
      · exact singleLane_written hwritten
  | dispatchStarted recordId =>
    exact iff_of_true (singleLane_sent (dispatchStarted_same recordId)
      dispatchStarted_of_foreign) not_false
  | dispatchAmbiguous recordId message =>
    exact iff_of_true (singleLane_sent (dispatchAmbiguous_same recordId message) fun hforeign =>
      dispatchAmbiguous_of_foreign hforeign message) not_false
  | retryAmbiguous => exact iff_of_true singleLane_retry not_false
  | durableOutcomeRecorded => exact iff_of_true durableOutcomeRecorded_singleLane not_false
  | durableRejectionRecorded => exact iff_of_true durableRejectionRecorded_singleLane not_false
  | restoreCurrentClaim claim =>
    refine iff_of_true ?_ not_false
    change SingleLane w.lane _ (w.restoreCurrentClaim claim).lane none
    unfold restoreCurrentClaim
    split_ifs <;> exact singleLane_refl
  | restoreReadyCommand | restoreAmbiguousCommand =>
    simp only [MoveWorkflow.apply, restoreReadyCommand, restoreAmbiguousCommand, MoveIntrudes]
    split_ifs with hrefused
    · exact singleLane_refused_iff (Bool.not_eq_false _ ▸ hrefused)
    · exact singleLane_taken_iff (Bool.not_eq_true _ ▸ hrefused) rfl (by rintro _ ⟨⟩)

end DirectedMoves

section OutboundLoads

open RfOutboundLoad OutboundLoadWorkflow

variable {w : OutboundLoadWorkflow}

/-- The call brings a load that was looked up, or takes a saved command back that is not the one
under way with its row, while a command is under way. -/
def LoadIntrudes (w : OutboundLoadWorkflow) : RfOutboundLoad.Event → Prop
  | .resolveLoad _ => w.lane ≠ .empty
  | .restoreReadyCommand recordId draft | .restoreAmbiguousCommand recordId draft _ =>
    draft.command.isOwn = true ∧ w.lane ≠ .empty ∧ w.lane.persisted ≠ some ⟨recordId, draft⟩
  | _ => False

theorem selectFirstAvailableOperation_lane : w.selectFirstAvailableOperation.lane = w.lane := by
  unfold selectFirstAvailableOperation
  split_ifs
  · rfl
  · split <;> rfl

variable {load : OutboundLoad} {commandId key : String} {recordId : ℤ}
  {outcome : RfOutboundLoad.CommandOutcome} {message : String} {lane : Lane OutboundLoadCommand}
  {draft : Draft OutboundLoadCommand} {event : RfOutboundLoad.Event}

theorem resolveLoad_singleLane_iff :
    SingleLane w.lane none (w.resolveLoad load).lane none ↔
      ¬ LoadIntrudes w (.resolveLoad load) := by
  unfold resolveLoad LoadIntrudes
  rw [selectFirstAvailableOperation_lane, not_not]
  constructor
  · intro h
    by_contra hbusy
    rcases h.kept hbusy with hsame | ⟨_, ⟨⟩, -⟩
    exact hbusy (Lane.eq_empty_iff_draft.mpr hsame.draft.symm)
  · intro h
    rw [h]
    exact singleLane_refl

theorem load_submitScan_lane : w.submitScan.lane = w.lane := by
  unfold submitScan
  split_ifs
  · rfl
  · split
    · rfl
    · next stage _ =>
      dsimp only
      split_ifs
      · rfl
      · split
        · rfl
        · cases stage <;> rfl

theorem beginMovement_singleLane :
    SingleLane w.lane none (w.beginMovement commandId key).1.lane
      (w.beginMovement commandId key).2.effect? := by
  unfold beginMovement
  split
  · exact singleLane_refl
  · next hguard =>
    push Not at hguard
    have hempty := (lane_empty_of_activityOf (.inr hguard.1)).2
    split
    · split
      · exact singleLane_refl
      · change SingleLane w.lane _ (.persisting _) (some (.persistCommand _))
        rw [hempty]
        exact singleLane_persist _
    · exact singleLane_refl

theorem load_durableOutcomeRecorded_singleLane :
    SingleLane w.lane (some (.ended recordId))
      (w.durableOutcomeRecorded recordId outcome).lane none := by
  unfold durableOutcomeRecorded
  split_ifs with haccepts
  · exact singleLane_refl
  · rw [Bool.not_eq_false, acceptsOutcome, Option.any_eq_true] at haccepts
    obtain ⟨command, hcommand, -⟩ := haccepts
    obtain ⟨persisted, hpersisted, -⟩ := Option.bind_eq_some_iff.mp hcommand
    obtain ⟨hlane, hrecord⟩ := Option.filter_eq_some_iff.mp hpersisted
    have howns : w.lane.ownsRecord recordId = true := by
      rw [ownsRecord, hlane]
      exact hrecord
    cases outcome with
    | other => exact singleLane_refl
    | moved =>
      dsimp only
      split
      · exact singleLane_refl
      · rw [selectFirstAvailableOperation_lane]
        exact singleLane_end howns

theorem ambiguousLane_same : lane.Same (ambiguousLane recordId message lane) := by
  cases lane with
  | ready =>
    rw [ambiguousLane]
    split_ifs <;> exact ⟨rfl, rfl⟩
  | empty | persisting | inFlight | ambiguous =>
    unfold ambiguousLane
    exact dispatchAmbiguous_same recordId message

theorem ambiguousLane_of_foreign (h : lane.ownsRecord recordId = false) :
    ambiguousLane recordId message lane = lane := by
  cases lane with
  | ready => rw [ambiguousLane, if_neg (of_decide_eq_false h)]
  | empty | persisting | inFlight | ambiguous =>
    unfold ambiguousLane
    exact dispatchAmbiguous_of_foreign h message

theorem outboundCommand_isSome : (outboundCommand draft).isSome = draft.command.isOwn := by
  unfold outboundCommand
  cases draft.command <;> rfl

/-- A call of the outbound load workflow respects the command under way exactly when it does not
intrude. -/
theorem load_singleLane_iff :
    SingleLane w.lane event.callback (w.apply event).1.lane (w.apply event).2 ↔
      ¬ LoadIntrudes w event := by
  cases event with
  | editScan | requireReconciliation => exact iff_of_true singleLane_refl not_false
  | resolveLoad => exact resolveLoad_singleLane_iff
  | loadLookupFailed | clearLoad | selectOperation =>
    refine iff_of_true ?_ not_false
    simp only [OutboundLoadWorkflow.apply, loadLookupFailed, clearLoad, selectOperation]
    split_ifs <;> exact singleLane_refl
  | submitScan =>
    refine iff_of_true ?_ not_false
    change SingleLane w.lane _ w.submitScan.lane none
    rw [load_submitScan_lane]
    exact singleLane_refl
  | beginMovement => exact iff_of_true beginMovement_singleLane not_false
  | commandPersisted commandId recordId =>
    refine iff_of_true ?_ not_false
    change SingleLane w.lane _ (w.commandPersisted commandId recordId).1.lane
      (w.commandPersisted commandId recordId).2.effect?
    unfold commandPersisted
    split
    · exact singleLane_refl
    · next command hwritten =>
      split_ifs
      · exact singleLane_refl
      · exact singleLane_written hwritten
  | dispatchStarted recordId =>
    exact iff_of_true (singleLane_sent (dispatchStarted_same recordId)
      dispatchStarted_of_foreign) not_false
  | dispatchAmbiguous =>
    exact iff_of_true (singleLane_sent ambiguousLane_same ambiguousLane_of_foreign) not_false
  | retryAmbiguous => exact iff_of_true singleLane_retry not_false
  | durableOutcomeRecorded => exact iff_of_true load_durableOutcomeRecorded_singleLane not_false
  | durableRejectionRecorded recordId message =>
    refine iff_of_true ?_ not_false
    change SingleLane w.lane _ (w.durableRejectionRecorded recordId message).lane none
    unfold durableRejectionRecorded
    split_ifs with howns
    · exact singleLane_end howns
    · exact singleLane_refl
  | restoreReadyCommand _ draft | restoreAmbiguousCommand _ draft =>
    simp only [OutboundLoadWorkflow.apply, restoreReadyCommand, restoreAmbiguousCommand]
    rw [LoadIntrudes, ← outboundCommand_isSome]
    cases outboundCommand draft with
    | none => exact singleLane_refused_iff Bool.false_ne_true
    | some => exact singleLane_taken_iff rfl rfl (by rintro _ ⟨⟩)

end OutboundLoads

section Claims

open RfDirectedMoves RfOutboundLoad

/-- From every state of the three workflows and for every sequence of calls, each call respects
the command under way exactly when none intrudes at its turn: when a command is under way it begins
no release of held work, brings no load that was looked up and takes no other saved command back.
Then a written command stays in its lane, under its row, until its row is ended. -/
theorem lanes_are_single_unless_intruded
    (replenisher : ReplenishmentWorkflow) (moves : List (RfDirectedMoves.Event replenishment))
    (docker : CrossDockWorkflow) (transfers : List (RfDirectedMoves.Event crossDock))
    (loader : OutboundLoadWorkflow) (loadings : List RfOutboundLoad.Event) :
    SingleUnless MoveWorkflow.lane MoveWorkflow.apply RfDirectedMoves.Event.callback
        MoveIntrudes moves replenisher ∧
      SingleUnless MoveWorkflow.lane MoveWorkflow.apply RfDirectedMoves.Event.callback
        MoveIntrudes transfers docker ∧
      SingleUnless OutboundLoadWorkflow.lane OutboundLoadWorkflow.apply
        RfOutboundLoad.Event.callback LoadIntrudes loadings loader :=
  ⟨singleUnless_of_call fun _ _ => move_singleLane_iff,
    singleUnless_of_call fun _ _ => move_singleLane_iff,
    singleUnless_of_call fun _ _ => load_singleLane_iff⟩

/-- A replenishment of a pick face with loose units. -/
def reserveClaim : ReplenishmentClaim where
  workId := 42
  planId := 20
  policyId := 10
  sourceInventoryBalanceId := 100
  itemBatchId := 7
  itemId := 5
  itemBarcodes := ["SKU-1"]
  uom := "EA"
  lot := none
  serial := none
  quantity := 12
  sourceLocation := ⟨30, "RES-1"⟩
  destinationPickFace := ⟨31, "PF-1"⟩

/-- The operator moves the units, and the confirmation is sent. -/
def moveCalls : List (RfDirectedMoves.Event replenishment) :=
  [.restoreCurrentClaim (some reserveClaim), .editScan "RES-1", .submitScan, .editScan "SKU-1",
    .submitScan, .editScan "PF-1", .submitScan, .beginConfirmation "command-1" "key-1",
    .commandPersisted "command-1" 1, .dispatchStarted 1]

/-- The workflow after these calls. -/
def afterMove : ReplenishmentWorkflow :=
  replay (fun w event => (w.apply event).1) moveCalls .default

theorem afterMove_run : RfDirectedMoves.WorkflowRun .default afterMove :=
  run_replay_any _ moveCalls

/-- A load with one packed carton. -/
def packedLoad : OutboundLoad where
  outboundLoadId := 44
  facilityId := 4
  status := .loading
  revision := 3
  progress := ⟨1, 1, 0, 0⟩
  stagingLocationId := 101
  stagingLocationBarcode := "STAGE-04"
  trailerNumber := some "TRL-8801"
  shipments := [⟨9, 2⟩]
  cartons := [⟨1, 9, 71, "CTN-71", 1, .packed 60, 1, 5, none⟩]

/-- The operator stages the carton, and the command is sent. -/
def stageCalls : List RfOutboundLoad.Event :=
  [.resolveLoad packedLoad, .editScan "PACK-1", .submitScan, .editScan "CTN-71", .submitScan,
    .editScan "STAGE-04", .submitScan, .beginMovement "command-1" "key-1",
    .commandPersisted "command-1" 1, .dispatchStarted 1]

/-- The workflow after these calls. -/
def afterStage : OutboundLoadWorkflow :=
  replay (fun w event => (w.apply event).1) stageCalls .default

theorem afterStage_run : RfOutboundLoad.WorkflowRun .default afterStage :=
  run_replay_any _ stageCalls

/-- While the confirmation of a move is in flight, a release takes its place in the lane and is
handed to the store; and while a carton is being staged, a second look at the load empties the
lane. Neither call belongs to the command that was under way. -/
theorem release_and_lookup_replace_command :
    RfDirectedMoves.WorkflowRun .default afterMove ∧ afterMove.activity = .inFlight ∧
      afterMove.lane.draft.map DurableCommandDraft.commandId = some "command-1" ∧
      (afterMove.beginRelease "command-2" "key-2").1.lane.draft.map
        DurableCommandDraft.commandId = some "command-2" ∧
      (afterMove.beginRelease "command-2" "key-2").2.isSome = true ∧
      RfOutboundLoad.WorkflowRun .default afterStage ∧ afterStage.activity = .inFlight ∧
      (afterStage.resolveLoad packedLoad).lane = .empty := by
  refine ⟨afterMove_run, by decide +kernel, by decide +kernel, by decide +kernel,
    by decide +kernel, afterStage_run, by decide +kernel, by decide +kernel⟩

end Claims

end Wareboxes.RfSingleLanes
