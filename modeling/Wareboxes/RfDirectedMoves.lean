import Wareboxes.RfLanes

/-!
# The replenishment and cross-dock workflows of the handheld device

Both workflows direct an operator to move units of an item to a pick face: the
operator claims a work, scans the source, the item, its lot and serial number when
it has them, and the destination, and the device confirms the move with a durable
command that carries what the result has to match. The two differ in their data and
texts only. So there is one workflow over the data, and each of the two is that
workflow with its own.
-/

namespace Wareboxes.RfDirectedMoves

open RustText LabelledRuns RfLanes

/-- What a workflow of directed moves knows of its claims, results and texts. -/
structure DirectedMoves where
  /-- The work that an operator claims. -/
  Claim : Type
  /-- What the result of a confirmation has to match. -/
  Expectation : Type
  ConfirmationResult : Type
  /-- Why a work is given back. -/
  ReleaseReason : Type
  workId : Claim → ℤ
  sourceBarcode : Claim → String
  itemBarcodes : Claim → List String
  lot : Claim → Option String
  /-- The serial number of the unit. -/
  serial : Claim → Option String
  /-- The barcode of the pick face. -/
  destinationBarcode : Claim → String
  expectation : Claim → Expectation
  confirmedWorkId : ConfirmationResult → ℤ
  confirmationMatches : ConfirmationResult → Expectation → Bool
  /-- The reason of `begin_release`. -/
  workInterrupted : ReleaseReason
  /-- The text for another source. -/
  sourceMismatch : String
  /-- The text for an outcome that does not match. -/
  outcomeMismatch : String
  /-- The text for a saved command of another workflow. -/
  notOwnCommand : String
  noWork : String
  confirmedNotice : String
  releasedNotice : String

/-- The stages of the scan. -/
inductive ScanStage where
  | source | item | lot | serial | destinationPickFace

variable {m : DirectedMoves}

/-- The commands of a workflow of directed moves. -/
inductive MoveCommand (m : DirectedMoves) where
  | claimNext
  | claimById (workId : ℤ)
  | confirm (workId : ℤ) (expected : m.Expectation) (sourceBarcode itemBarcode : String)
      (lotScan serialScan : Option String) (destinationPickFaceBarcode : String)
  | release (workId : ℤ) (reason : m.ReleaseReason) (note : Option String)

/-- `CommandOutcome`, without the contents of the results of other workflows. -/
inductive CommandOutcome (m : DirectedMoves) where
  | claimed (claim : Option m.Claim)
  | confirmed (result : m.ConfirmationResult)
  /-- The work was given back. -/
  | released (workId : ℤ)
  /-- A result of another workflow. -/
  | other

/-- The workflow. -/
structure MoveWorkflow (m : DirectedMoves) where
  /-- The work that is held. -/
  claim : Option m.Claim
  /-- The command that is under way. -/
  lane : Lane (MoveCommand m)
  sourceScan : Option String
  itemScan : Option String
  lotScan : Option String
  serialScan : Option String
  destinationScan : Option String
  /-- The text in the scan field. -/
  scanDraft : String
  /-- What the operator is told went wrong. -/
  error : Option String
  /-- What the operator is told. -/
  notice : Option String
  /-- Why a supervisor has to look at the device. -/
  reconcileReason : Option String

/-- The workflow after a call, with the effect that the call asks for. -/
abbrev Answer (m : DirectedMoves) := MoveWorkflow m × Option (WorkflowEffect (MoveCommand m))

namespace MoveWorkflow

/-- `default`. -/
def default : MoveWorkflow m where
  claim := none
  lane := .empty
  sourceScan := none
  itemScan := none
  lotScan := none
  serialScan := none
  destinationScan := none
  scanDraft := ""
  error := none
  notice := none
  reconcileReason := none

/-- `activity`. -/
def activity (w : MoveWorkflow m) : Activity :=
  activityOf w.reconcileReason w.lane w.claim.isSome

/-- A change of the scan field through `scan_draft_mut`. -/
def editScan (text : String) (w : MoveWorkflow m) : MoveWorkflow m :=
  { w with scanDraft := text }

/-- `reset_scans`. -/
def resetScans (w : MoveWorkflow m) : MoveWorkflow m :=
  { w with
    sourceScan := none
    itemScan := none
    lotScan := none
    serialScan := none
    destinationScan := none
    scanDraft := "" }

/-- `require_reconciliation`. -/
def requireReconciliation (reason : String) (w : MoveWorkflow m) : MoveWorkflow m :=
  { w with reconcileReason := some reason, error := none }

/-- `expected_scan`. -/
def expectedScan (w : MoveWorkflow m) : Option ScanStage :=
  match w.claim with
  | none => none
  | some claim =>
    if w.sourceScan.isNone then some .source
    else if w.itemScan.isNone then some .item
    else if (m.lot claim).isSome && w.lotScan.isNone then some .lot
    else if (m.serial claim).isSome && w.serialScan.isNone then some .serial
    else if w.destinationScan.isNone then some .destinationPickFace
    else none

/-- The identity of a command is missing. -/
def blankIdentity (commandId idempotencyKey : String) : Bool :=
  isEmpty (trim commandId) || isEmpty (trim idempotencyKey)

/-- `begin`. -/
def begin (command : MoveCommand m) (commandId idempotencyKey : String) (w : MoveWorkflow m) :
    Answer m :=
  if blankIdentity commandId idempotencyKey then
    ({ w with error := some "Command identity is unavailable" }, none)
  else
    let draft : Draft (MoveCommand m) := ⟨1, commandId, idempotencyKey, .own command⟩
    ({ w with lane := .persisting draft, error := none, notice := none },
      some (.persistCommand draft))

/-- `begin_idle`. -/
def beginIdle (command : MoveCommand m) (commandId idempotencyKey : String) (w : MoveWorkflow m) :
    Answer m :=
  if w.activity ≠ .idle then (w, none) else w.begin command commandId idempotencyKey

/-- `begin_claim_next`. -/
def beginClaimNext (commandId idempotencyKey : String) (w : MoveWorkflow m) : Answer m :=
  w.beginIdle .claimNext commandId idempotencyKey

/-- `begin_claim_by_id`. -/
def beginClaimById (workId : ℤ) (commandId idempotencyKey : String) (w : MoveWorkflow m) :
    Answer m :=
  if workId ≤ 0 then ({ w with error := some "Task ID must be positive" }, none)
  else w.beginIdle (.claimById workId) commandId idempotencyKey

/-- The scan is the one that the work asks for at this stage. -/
def scanAccepted (claim : m.Claim) (scanned : String) : ScanStage → Bool
  | .source => scanned == m.sourceBarcode claim
  | .item => (m.itemBarcodes claim).contains scanned
  | .lot => m.lot claim == some scanned
  | .serial => m.serial claim == some scanned
  | .destinationPickFace => scanned == m.destinationBarcode claim

/-- `scan_mismatch`. -/
def scanMismatch (m : DirectedMoves) : ScanStage → String
  | .source => m.sourceMismatch
  | .item => "Item does not match this task"
  | .lot => "Lot does not match this task"
  | .serial => "Serial does not match this task"
  | .destinationPickFace => "Destination pick face does not match this task"

/-- The scan is kept. -/
def recordScan (scanned : String) (w : MoveWorkflow m) : ScanStage → MoveWorkflow m
  | .source => { w with sourceScan := some scanned }
  | .item => { w with itemScan := some scanned }
  | .lot => { w with lotScan := some scanned }
  | .serial => { w with serialScan := some scanned }
  | .destinationPickFace => { w with destinationScan := some scanned }

/-- `submit_scan`. -/
def submitScan (w : MoveWorkflow m) : MoveWorkflow m × Bool :=
  if w.activity ≠ .active then (w, false)
  else match w.expectedScan with
    | none => (w, false)
    | some stage =>
      let scanned := trim w.scanDraft
      if isEmpty scanned then ({ w with error := some "A scan is required" }, false)
      else match w.claim with
        | none => (w, false)
        | some claim =>
          if scanAccepted claim scanned stage = false then
            ({ w with scanDraft := "", error := some (scanMismatch m stage) }, false)
          else ({ w.recordScan scanned stage with scanDraft := "", error := none }, true)

/-- The confirmation of the work that is held. -/
def confirmation (w : MoveWorkflow m) : Option (MoveCommand m) := do
  let claim ← w.claim
  let sourceBarcode ← w.sourceScan
  let itemBarcode ← w.itemScan
  let destinationBarcode ← w.destinationScan
  return .confirm (m.workId claim) (m.expectation claim) sourceBarcode itemBarcode w.lotScan
    w.serialScan destinationBarcode

/-- `begin_confirmation`. -/
def beginConfirmation (commandId idempotencyKey : String) (w : MoveWorkflow m) : Answer m :=
  if w.activity ≠ .active ∨ w.expectedScan.isSome then (w, none)
  else match w.confirmation with
    | none => (w, none)
    | some command => w.begin command commandId idempotencyKey

/-- `begin_release`. -/
def beginRelease (commandId idempotencyKey : String) (w : MoveWorkflow m) : Answer m :=
  match w.claim with
  | none => (w, none)
  | some claim =>
    w.begin (.release (m.workId claim) m.workInterrupted none) commandId idempotencyKey

/-- `command_persisted`. -/
def commandPersisted (commandId : String) (recordId : ℤ) (w : MoveWorkflow m) :
    MoveWorkflow m × Transition (MoveCommand m) :=
  match w.lane.written commandId recordId with
  | none => (w, .ignored)
  | some command =>
    if recordId ≤ 0 then (w, .ignored)
    else ({ w with lane := .ready command }, .effect (.dispatchPersistedCommand recordId))

/-- `dispatch_started`. -/
def dispatchStarted (recordId : ℤ) (w : MoveWorkflow m) : MoveWorkflow m :=
  { w with lane := w.lane.dispatchStarted recordId }

/-- `dispatch_ambiguous`. -/
def dispatchAmbiguous (recordId : ℤ) (message : String) (w : MoveWorkflow m) : MoveWorkflow m :=
  { w with lane := w.lane.dispatchAmbiguous recordId message }

/-- `retry_ambiguous`. -/
def retryAmbiguous (w : MoveWorkflow m) : Answer m :=
  ({ w with lane := w.lane.retryAmbiguous.1 }, w.lane.retryAmbiguous.2)

/-- `outcome_matches`. -/
def outcomeMatches : RfCommand (MoveCommand m) → CommandOutcome m → Bool
  | .own .claimNext, .claimed _ => true
  | .own (.claimById workId), .claimed (some claim) => m.workId claim == workId
  | .own (.confirm workId expected ..), .confirmed result =>
    m.confirmedWorkId result == workId && m.confirmationMatches result expected
  | .own (.release workId ..), .released releasedId => workId == releasedId
  | _, _ => false

/-- `accepts_outcome`. -/
def acceptsOutcome (recordId : ℤ) (outcome : CommandOutcome m) (w : MoveWorkflow m) : Bool :=
  w.lane.sent.any fun command =>
    decide (command.recordId = recordId) && outcomeMatches command.draft.command outcome

/-- The outcome of a command that is no longer under way. -/
def applyOutcome (outcome : CommandOutcome m) (w : MoveWorkflow m) : MoveWorkflow m :=
  match outcome with
  | .claimed claim =>
    { { w with claim }.resetScans with notice := if claim.isNone then some m.noWork else none }
  | .confirmed _ => { { w with claim := none }.resetScans with notice := some m.confirmedNotice }
  | .released _ => { { w with claim := none }.resetScans with notice := some m.releasedNotice }
  | .other => w.requireReconciliation "The saved command returned the wrong workflow result"

/-- `durable_outcome_recorded`. -/
def durableOutcomeRecorded (recordId : ℤ) (outcome : CommandOutcome m) (w : MoveWorkflow m) :
    MoveWorkflow m :=
  if w.acceptsOutcome recordId outcome = false then w.requireReconciliation m.outcomeMismatch
  else { w with lane := .empty }.applyOutcome outcome

/-- The command confirms a move. -/
def isConfirmation : RfCommand (MoveCommand m) → Bool
  | .own (.confirm ..) => true
  | _ => false

/-- `durable_rejection_recorded`. -/
def durableRejectionRecorded (recordId : ℤ) (message : String) (w : MoveWorkflow m) :
    MoveWorkflow m :=
  match w.lane.sent.filter fun command => decide (command.recordId = recordId) with
  | none => w
  | some command =>
    let settled : MoveWorkflow m := { w with lane := .empty }
    { if isConfirmation command.draft.command then settled.resetScans else settled with
      error := some message }

/-- `restore_current_claim`. -/
def restoreCurrentClaim (claim : Option m.Claim) (w : MoveWorkflow m) : MoveWorkflow m :=
  if w.lane.isEmpty then { { w with claim }.resetScans with error := none, notice := none }
  else w

/-- A saved command is refused. -/
def refusesSaved (recordId : ℤ) (draft : Draft (MoveCommand m)) : Bool :=
  decide (recordId ≤ 0) || !draft.command.isOwn

/-- `restore_ready_command`. -/
def restoreReadyCommand (recordId : ℤ) (draft : Draft (MoveCommand m)) (w : MoveWorkflow m) :
    MoveWorkflow m × Transition (MoveCommand m) :=
  if refusesSaved recordId draft then (w.requireReconciliation m.notOwnCommand, .ignored)
  else ({ w with lane := .ready ⟨recordId, draft⟩ },
    .effect (.dispatchPersistedCommand recordId))

/-- `restore_ambiguous_command`. -/
def restoreAmbiguousCommand (recordId : ℤ) (draft : Draft (MoveCommand m)) (message : String)
    (w : MoveWorkflow m) : MoveWorkflow m :=
  if refusesSaved recordId draft then w.requireReconciliation m.notOwnCommand
  else { w with lane := .ambiguous ⟨recordId, draft⟩ message }

end MoveWorkflow

/-- A call of a workflow of directed moves. -/
inductive Event (m : DirectedMoves) where
  /-- The operator or the scanner changes the scan field. -/
  | editScan (text : String)
  | beginClaimNext (commandId idempotencyKey : String)
  | beginClaimById (workId : ℤ) (commandId idempotencyKey : String)
  | submitScan
  | beginConfirmation (commandId idempotencyKey : String)
  | beginRelease (commandId idempotencyKey : String)
  | commandPersisted (commandId : String) (recordId : ℤ)
  | dispatchStarted (recordId : ℤ)
  | dispatchAmbiguous (recordId : ℤ) (message : String)
  | retryAmbiguous
  | durableOutcomeRecorded (recordId : ℤ) (outcome : CommandOutcome m)
  | durableRejectionRecorded (recordId : ℤ) (message : String)
  | restoreCurrentClaim (claim : Option m.Claim)
  | restoreReadyCommand (recordId : ℤ) (draft : Draft (MoveCommand m))
  | restoreAmbiguousCommand (recordId : ℤ) (draft : Draft (MoveCommand m)) (message : String)
  | requireReconciliation (reason : String)

/-- The workflow after a call, and the effect that the call asks for. -/
def MoveWorkflow.apply (w : MoveWorkflow m) :
    Event m → Answer m
  | .editScan text => (w.editScan text, none)
  | .beginClaimNext commandId key => w.beginClaimNext commandId key
  | .beginClaimById workId commandId key => w.beginClaimById workId commandId key
  | .submitScan => (w.submitScan.1, none)
  | .beginConfirmation commandId key => w.beginConfirmation commandId key
  | .beginRelease commandId key => w.beginRelease commandId key
  | .commandPersisted commandId recordId =>
    (w.commandPersisted commandId recordId).map id Transition.effect?
  | .dispatchStarted recordId => (w.dispatchStarted recordId, none)
  | .dispatchAmbiguous recordId message => (w.dispatchAmbiguous recordId message, none)
  | .retryAmbiguous => w.retryAmbiguous
  | .durableOutcomeRecorded recordId outcome => (w.durableOutcomeRecorded recordId outcome, none)
  | .durableRejectionRecorded recordId message =>
    (w.durableRejectionRecorded recordId message, none)
  | .restoreCurrentClaim claim => (w.restoreCurrentClaim claim, none)
  | .restoreReadyCommand recordId draft =>
    (w.restoreReadyCommand recordId draft).map id Transition.effect?
  | .restoreAmbiguousCommand recordId draft message =>
    (w.restoreAmbiguousCommand recordId draft message, none)
  | .requireReconciliation reason => (w.requireReconciliation reason, none)

/-- The callback that a call is. -/
def Event.callback : Event m → Option Callback
  | .commandPersisted commandId recordId => some (.written commandId recordId)
  | .dispatchStarted recordId | .dispatchAmbiguous recordId _ => some (.sent recordId)
  | .durableOutcomeRecorded recordId _ | .durableRejectionRecorded recordId _ =>
    some (.ended recordId)
  | _ => none

/-- The runs of the workflow. -/
def WorkflowRun : MoveWorkflow m → MoveWorkflow m → Prop :=
  Run (fun w event w' => w' = (w.apply event).1) fun _ (_ : Event m) => True

section Replenishment

/-- `ReplenishmentLocation` and `CrossDockLocation`, without the name. -/
structure PickFaceLocation where
  locationId : ℤ
  barcode : String

/-- `ReplenishmentClaim`, without the fields that the workflow does not read. -/
structure ReplenishmentClaim where
  workId : ℤ
  /-- The plan that the work belongs to. -/
  planId : ℤ
  policyId : ℤ
  sourceInventoryBalanceId : ℤ
  itemBatchId : ℤ
  itemId : ℤ
  itemBarcodes : List String
  uom : String
  lot : Option String
  serial : Option String
  /-- How many units are moved. -/
  quantity : ℤ
  sourceLocation : PickFaceLocation
  destinationPickFace : PickFaceLocation

/-- `ReplenishmentConfirmationExpectation`. -/
structure ReplenishmentConfirmationExpectation where
  planId : ℤ
  policyId : ℤ
  sourceInventoryBalanceId : ℤ
  itemBatchId : ℤ
  itemId : ℤ
  uom : String
  lot : Option String
  serial : Option String
  sourceLocationId : ℤ
  destinationPickFaceLocationId : ℤ
  quantity : ℤ
  deriving DecidableEq

/-- `ReplenishmentConfirmationResult`, without the fields that the workflow does not read. The
others but the identity of the work are those of the expectation. -/
structure ReplenishmentConfirmationResult extends ReplenishmentConfirmationExpectation where
  workId : ℤ

/-- `ReplenishmentReleaseReason`. -/
inductive ReplenishmentReleaseReason where
  | workInterrupted | equipmentUnavailable | sourceBlocked | destinationBlocked
  | inventoryMismatch | safetyIssue | other

/-- `ReplenishmentConfirmationExpectation::from`. -/
def ReplenishmentClaim.expectation (claim : ReplenishmentClaim) :
    ReplenishmentConfirmationExpectation where
  planId := claim.planId
  policyId := claim.policyId
  sourceInventoryBalanceId := claim.sourceInventoryBalanceId
  itemBatchId := claim.itemBatchId
  itemId := claim.itemId
  uom := claim.uom
  lot := claim.lot
  serial := claim.serial
  sourceLocationId := claim.sourceLocation.locationId
  destinationPickFaceLocationId := claim.destinationPickFace.locationId
  quantity := claim.quantity

/-- `confirmation_matches_expectation`, which compares field by field. -/
def confirmationMatchesExpectation (result : ReplenishmentConfirmationResult)
    (expected : ReplenishmentConfirmationExpectation) : Bool :=
  decide (result.toReplenishmentConfirmationExpectation = expected)

/-- The data and texts of the replenishment workflow. -/
def replenishment : DirectedMoves where
  Claim := ReplenishmentClaim
  Expectation := ReplenishmentConfirmationExpectation
  ConfirmationResult := ReplenishmentConfirmationResult
  ReleaseReason := ReplenishmentReleaseReason
  workId := ReplenishmentClaim.workId
  sourceBarcode := fun claim => claim.sourceLocation.barcode
  itemBarcodes := ReplenishmentClaim.itemBarcodes
  lot := ReplenishmentClaim.lot
  serial := ReplenishmentClaim.serial
  destinationBarcode := fun claim => claim.destinationPickFace.barcode
  expectation := ReplenishmentClaim.expectation
  confirmedWorkId := ReplenishmentConfirmationResult.workId
  confirmationMatches := confirmationMatchesExpectation
  workInterrupted := .workInterrupted
  sourceMismatch := "Source location does not match this task"
  outcomeMismatch := "The saved replenishment result does not match its command or task"
  notOwnCommand := "Saved work is not a replenishment command"
  noWork := "No replenishment work is ready"
  confirmedNotice := "Pick face replenished"
  releasedNotice := "Replenishment returned to queue"

/-- `ReplenishmentWorkflow`. -/
abbrev ReplenishmentWorkflow := MoveWorkflow replenishment

end Replenishment

section CrossDock

/-- `CrossDockClaim`, without the fields that the workflow does not read. -/
structure CrossDockClaim where
  workId : ℤ
  /-- The plan that the work belongs to. -/
  planId : ℤ
  /-- The order that waits for the units. -/
  orderId : ℤ
  orderLineId : ℤ
  reservationId : ℤ
  sourceInventoryBalanceId : ℤ
  itemBatchId : ℤ
  itemId : ℤ
  itemBarcodes : List String
  uom : String
  lot : Option String
  serial : Option String
  /-- How many units are moved. -/
  quantity : ℤ
  sourceReceivingLocation : PickFaceLocation
  destinationPickFace : PickFaceLocation

/-- `CrossDockConfirmationExpectation`. -/
structure CrossDockConfirmationExpectation where
  planId : ℤ
  orderId : ℤ
  orderLineId : ℤ
  reservationId : ℤ
  sourceInventoryBalanceId : ℤ
  itemBatchId : ℤ
  itemId : ℤ
  uom : String
  lot : Option String
  serial : Option String
  sourceLocationId : ℤ
  destinationPickFaceLocationId : ℤ
  quantity : ℤ
  deriving DecidableEq

/-- `CrossDockConfirmationResult`, without the fields that the workflow does not read. The others
but the identity of the work are those of the expectation. -/
structure CrossDockConfirmationResult extends CrossDockConfirmationExpectation where
  workId : ℤ

/-- `CrossDockReleaseReason`. -/
inductive CrossDockReleaseReason where
  | workInterrupted | endOfShift | equipmentIssue | other

/-- `CrossDockConfirmationExpectation::from`. -/
def CrossDockClaim.expectation (claim : CrossDockClaim) : CrossDockConfirmationExpectation where
  planId := claim.planId
  orderId := claim.orderId
  orderLineId := claim.orderLineId
  reservationId := claim.reservationId
  sourceInventoryBalanceId := claim.sourceInventoryBalanceId
  itemBatchId := claim.itemBatchId
  itemId := claim.itemId
  uom := claim.uom
  lot := claim.lot
  serial := claim.serial
  sourceLocationId := claim.sourceReceivingLocation.locationId
  destinationPickFaceLocationId := claim.destinationPickFace.locationId
  quantity := claim.quantity

/-- `confirmation_matches`, which compares field by field. -/
def confirmationMatches (result : CrossDockConfirmationResult)
    (expected : CrossDockConfirmationExpectation) : Bool :=
  decide (result.toCrossDockConfirmationExpectation = expected)

/-- The data and texts of the cross-dock workflow. -/
def crossDock : DirectedMoves where
  Claim := CrossDockClaim
  Expectation := CrossDockConfirmationExpectation
  ConfirmationResult := CrossDockConfirmationResult
  ReleaseReason := CrossDockReleaseReason
  workId := CrossDockClaim.workId
  sourceBarcode := fun claim => claim.sourceReceivingLocation.barcode
  itemBarcodes := CrossDockClaim.itemBarcodes
  lot := CrossDockClaim.lot
  serial := CrossDockClaim.serial
  destinationBarcode := fun claim => claim.destinationPickFace.barcode
  expectation := CrossDockClaim.expectation
  confirmedWorkId := CrossDockConfirmationResult.workId
  confirmationMatches := confirmationMatches
  workInterrupted := .workInterrupted
  sourceMismatch := "Receiving source does not match this task"
  outcomeMismatch := "The saved cross-dock result does not match its command or task"
  notOwnCommand := "Saved work is not a cross-dock command"
  noWork := "No cross-dock work is ready"
  confirmedNotice := "Cross-dock move confirmed"
  releasedNotice := "Cross-dock work returned to queue"

/-- `CrossDockWorkflow`. -/
abbrev CrossDockWorkflow := MoveWorkflow crossDock

end CrossDock

end Wareboxes.RfDirectedMoves
