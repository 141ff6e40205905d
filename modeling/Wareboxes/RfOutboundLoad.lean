import Wareboxes.RfLanes

/-!
# The outbound load workflow of the handheld device

An operator looks a load up and moves its cartons between the packed position, the
staging lane and the trailer. Each move is confirmed by a durable command that
carries the load as it was scanned, and the result is checked against that load in
every field that the move determines.
-/

namespace Wareboxes.RfOutboundLoad

open RustText LabelledRuns RfLanes

/-- `OutboundCartonOperation`. -/
inductive OutboundCartonOperation where
  | stage | load | unload | unstage
  deriving DecidableEq

/-- `OutboundCartonOperation::ALL`. -/
def OutboundCartonOperation.all : List OutboundCartonOperation :=
  [.stage, .load, .unload, .unstage]

/-- `OutboundCartonOperation::label`, in lower case. -/
def OutboundCartonOperation.lowerLabel : OutboundCartonOperation → String
  | .stage => "stage"
  | .load => "load"
  | .unload => "unload"
  | .unstage => "unstage"

/-- `OutboundLoadStatus`. -/
inductive OutboundLoadStatus where
  | planned | staging | loading | readyToDepart | departed | cancelled
  deriving DecidableEq

/-- `PackedCartonMovementKind`. -/
inductive PackedCartonMovementKind where
  | stage | load | unload | unstage
  deriving DecidableEq

/-- `PackedCartonPositionStateResponse`. -/
inductive PackedCartonPositionState where
  /-- The carton is packed and nowhere else. -/
  | packed (locationId : ℤ)
  | staged (outboundLoadId stagingLocationId : ℤ)
  /-- The carton is in the trailer of a load. -/
  | loaded (outboundLoadId : ℤ) (loadSequence : ℕ)
  | departed (outboundLoadId : Option ℤ) (loadSequence : Option ℕ)
  deriving DecidableEq

/-- The state is `Packed`. -/
def PackedCartonPositionState.isPacked : PackedCartonPositionState → Bool
  | .packed _ => true
  | _ => false

/-- The state is `Staged`. -/
def PackedCartonPositionState.isStaged : PackedCartonPositionState → Bool
  | .staged .. => true
  | _ => false

/-- The state is `Loaded`. -/
def PackedCartonPositionState.isLoaded : PackedCartonPositionState → Bool
  | .loaded .. => true
  | _ => false

/-- `OutboundLoadCartonResponse`, without the fields that the workflow does not read. -/
structure OutboundLoadCarton where
  outboundLoadCartonId : ℤ
  shipmentId : ℤ
  cartonId : ℤ
  cartonBarcode : String
  /-- Its place in the trailer. -/
  loadSequence : ℕ
  state : PackedCartonPositionState
  positionRevision : ℤ
  /-- How many units are in it. -/
  packedQuantity : ℤ
  lastMovementId : Option ℤ
  deriving DecidableEq

/-- `OutboundLoadShipmentResponse`, without the fields that the workflow does not read. -/
structure OutboundLoadShipment where
  shipmentId : ℤ
  inventoryOwnerId : ℤ
  deriving DecidableEq

/-- `OutboundLoadProgressResponse`. -/
structure OutboundLoadProgress where
  plannedShipmentCount : ℕ
  plannedCartonCount : ℕ
  stagedCartonCount : ℕ
  loadedCartonCount : ℕ
  deriving DecidableEq

/-- `OutboundLoadResponse`, without the fields that the workflow does not read. -/
structure OutboundLoad where
  outboundLoadId : ℤ
  facilityId : ℤ
  status : OutboundLoadStatus
  revision : ℤ
  progress : OutboundLoadProgress
  stagingLocationId : ℤ
  stagingLocationBarcode : String
  trailerNumber : Option String
  shipments : List OutboundLoadShipment
  cartons : List OutboundLoadCarton
  deriving DecidableEq

/-- `MovePackedCartonResponse` with its movement and its position, without the fields that the
workflow does not read. -/
structure CartonMovement where
  movementId : ℤ
  movementLoadId : ℤ
  outboundLoadCartonId : ℤ
  movedCartonId : ℤ
  kind : PackedCartonMovementKind
  /-- Where the carton was. -/
  sourceLocationId : ℤ
  /-- Where the carton went. -/
  destinationLocationId : ℤ
  /-- How many units were moved. -/
  quantity : ℤ
  detailQuantities : List ℤ
  positionCartonId : ℤ
  cartonBarcode : String
  inventoryOwnerId : ℤ
  facilityId : ℤ
  state : PackedCartonPositionState
  positionRevision : ℤ
  contentQuantities : List ℤ
  outboundLoadId : ℤ
  loadStatus : OutboundLoadStatus
  loadRevision : ℤ
  progress : OutboundLoadProgress

/-- `OutboundCartonMovementExpectation`. -/
structure OutboundCartonMovementExpectation where
  load : OutboundLoad
  cartonId : ℤ
  operation : OutboundCartonOperation
  deriving DecidableEq

/-- `OutboundLoadCommand`. -/
inductive OutboundLoadCommand where
  | stage (expected : OutboundCartonMovementExpectation)
      (sourceLocationBarcode cartonBarcode stagingLocationBarcode : String)
  /-- A carton goes into the trailer. -/
  | load (expected : OutboundCartonMovementExpectation)
      (stagingLocationBarcode cartonBarcode trailerNumber : String)
  /-- A carton leaves the trailer. -/
  | unload (expected : OutboundCartonMovementExpectation)
      (trailerNumber cartonBarcode stagingLocationBarcode : String)
  /-- A carton leaves the staging lane. -/
  | unstage (expected : OutboundCartonMovementExpectation)
      (stagingLocationBarcode cartonBarcode returnLocationBarcode : String)
  deriving DecidableEq

/-- `OutboundLoadCommand::expectation`. -/
def OutboundLoadCommand.expectation : OutboundLoadCommand → OutboundCartonMovementExpectation
  | .stage expected .. | .load expected .. | .unload expected .. | .unstage expected .. => expected

/-- `CommandOutcome`, without the contents of the results of other workflows. -/
inductive CommandOutcome where
  /-- `OutboundCartonMoved`. -/
  | moved (result : CartonMovement)
  /-- A result of another workflow. -/
  | other

/-- `OutboundLoadScanStage`, without the scan of the load, which no state expects. -/
inductive ScanStage where
  | source | carton | destination

/-- `outbound_command`. -/
def outboundCommand (draft : Draft OutboundLoadCommand) : Option OutboundLoadCommand :=
  match draft.command with
  | .own command => some command
  | .other => none

/-- `Revision::checked_next`. -/
def checkedNext (revision : ℤ) : Option ℤ :=
  if revision + 1 < 2 ^ 63 then some (revision + 1) else none

/-- A sum of quantities with `checked_add`. -/
def checkedSum : List ℤ → Option ℤ :=
  List.foldlM (fun total quantity =>
    if -2 ^ 63 ≤ total + quantity ∧ total + quantity < 2 ^ 63 then some (total + quantity)
    else none) 0

/-- The carton has to be where the operation takes it from. -/
def eligible (operation : OutboundCartonOperation) (state : PackedCartonPositionState) : Bool :=
  match operation with
  | .stage => state.isPacked
  | .load => state.isStaged
  | .unload => state.isLoaded
  | .unstage => state.isStaged

/-- `matching_carton`. -/
def matchingCarton (load : OutboundLoad) (operation : OutboundCartonOperation)
    (barcode : String) : Option OutboundLoadCarton :=
  load.cartons.find? fun carton =>
    eqIgnoreAsciiCase carton.cartonBarcode barcode && eligible operation carton.state

/-- The kind of movement of an operation. -/
def expectedKind : OutboundCartonOperation → PackedCartonMovementKind
  | .stage => .stage
  | .load => .load
  | .unload => .unload
  | .unstage => .unstage

/-- A carton that leaves the trailer of a load that was ready to depart. -/
def OutboundCartonMovementExpectation.reopens (expected : OutboundCartonMovementExpectation) :
    Bool :=
  expected.operation == .unload && expected.load.status == .readyToDepart

/-- The position is where the operation takes the carton. -/
def stateMatches (expected : OutboundCartonMovementExpectation) (carton : OutboundLoadCarton) :
    PackedCartonPositionState → Bool
  | .staged outboundLoadId stagingLocationId =>
    (expected.operation == .stage || expected.operation == .unload) &&
      outboundLoadId == expected.load.outboundLoadId &&
      stagingLocationId == expected.load.stagingLocationId
  | .loaded outboundLoadId loadSequence =>
    expected.operation == .load && outboundLoadId == expected.load.outboundLoadId &&
      loadSequence == carton.loadSequence
  | .packed _ => expected.operation == .unstage
  | .departed .. => false

/-- The states of the cartons of a load after a movement. -/
def statesAfter (expected : OutboundCartonMovementExpectation) (carton : OutboundLoadCarton)
    (result : CartonMovement) : List PackedCartonPositionState :=
  expected.load.cartons.map fun candidate =>
    if candidate.cartonId = carton.cartonId then result.state else candidate.state

/-- `movement_matches`, for a carton with its owner and the next revision of its position. -/
def movementMatchesCarton (expected : OutboundCartonMovementExpectation)
    (carton : OutboundLoadCarton) (ownerId resultingPositionRevision : ℤ)
    (result : CartonMovement) : Bool :=
  let states := statesAfter expected carton result
  result.outboundLoadId == expected.load.outboundLoadId &&
    result.movementLoadId == expected.load.outboundLoadId &&
    result.outboundLoadCartonId == carton.outboundLoadCartonId &&
    result.movedCartonId == expected.cartonId &&
    result.positionCartonId == expected.cartonId &&
    result.cartonBarcode == carton.cartonBarcode &&
    result.inventoryOwnerId == ownerId &&
    result.facilityId == expected.load.facilityId &&
    result.positionRevision == resultingPositionRevision &&
    result.kind == expectedKind expected.operation &&
    result.quantity == carton.packedQuantity &&
    decide (0 < result.quantity) &&
    result.sourceLocationId != result.destinationLocationId &&
    !result.detailQuantities.isEmpty &&
    checkedSum result.detailQuantities == some carton.packedQuantity &&
    !result.contentQuantities.isEmpty &&
    checkedSum result.contentQuantities == some carton.packedQuantity &&
    stateMatches expected carton result.state &&
    (if expected.reopens then checkedNext expected.load.revision
      else some expected.load.revision) == some result.loadRevision &&
    result.loadStatus == (if expected.reopens then .loading else expected.load.status) &&
    result.progress.plannedShipmentCount == expected.load.progress.plannedShipmentCount &&
    result.progress.plannedCartonCount == expected.load.progress.plannedCartonCount &&
    result.progress.stagedCartonCount == states.countP PackedCartonPositionState.isStaged &&
    result.progress.loadedCartonCount == states.countP PackedCartonPositionState.isLoaded

/-- `movement_matches`. -/
def movementMatches (expected : OutboundCartonMovementExpectation) (result : CartonMovement) :
    Bool :=
  match expected.load.cartons.find? fun carton => carton.cartonId == expected.cartonId with
  | none => false
  | some carton =>
    match expected.load.shipments.find? fun shipment =>
        shipment.shipmentId == carton.shipmentId with
    | none => false
    | some shipment =>
      match checkedNext carton.positionRevision with
      | none => false
      | some resultingPositionRevision =>
        movementMatchesCarton expected carton shipment.inventoryOwnerId
          resultingPositionRevision result

/-- An effect of this workflow. -/
abbrev Effect := WorkflowEffect OutboundLoadCommand

/-- `OutboundLoadWorkflow`. -/
structure OutboundLoadWorkflow where
  /-- The load that was looked up. -/
  load : Option OutboundLoad
  operation : OutboundCartonOperation
  /-- The command that is under way. -/
  lane : Lane OutboundLoadCommand
  sourceScan : Option String
  cartonScan : Option String
  destinationScan : Option String
  /-- The text in the scan field. -/
  scanDraft : String
  /-- What the operator is told went wrong. -/
  error : Option String
  /-- What the operator is told. -/
  notice : Option String
  /-- Why a supervisor has to look at the device. -/
  reconcileReason : Option String

namespace OutboundLoadWorkflow

/-- `OutboundLoadWorkflow::default`. -/
def default : OutboundLoadWorkflow where
  load := none
  operation := .stage
  lane := .empty
  sourceScan := none
  cartonScan := none
  destinationScan := none
  scanDraft := ""
  error := none
  notice := none
  reconcileReason := none

/-- `activity`. -/
def activity (w : OutboundLoadWorkflow) : Activity :=
  activityOf w.reconcileReason w.lane w.load.isSome

/-- A change of the scan field through `scan_draft_mut`. -/
def editScan (text : String) (w : OutboundLoadWorkflow) : OutboundLoadWorkflow :=
  { w with scanDraft := text }

/-- `clear_scans`. -/
def clearScans (w : OutboundLoadWorkflow) : OutboundLoadWorkflow :=
  { w with sourceScan := none, cartonScan := none, destinationScan := none, scanDraft := "" }

/-- `require_reconciliation`. -/
def requireReconciliation (reason : String) (w : OutboundLoadWorkflow) : OutboundLoadWorkflow :=
  { w with reconcileReason := some reason }

/-- The load is in a status in which the operation is allowed. -/
def statusAllows (status : OutboundLoadStatus) : OutboundCartonOperation → Bool
  | .stage => status == .staging || status == .loading
  | .load => status == .loading
  | .unload => status == .loading || status == .readyToDepart
  | .unstage => status == .staging || status == .loading

/-- `operation_allowed`. -/
def operationAllowed (operation : OutboundCartonOperation) (w : OutboundLoadWorkflow) : Bool :=
  w.load.any fun load =>
    statusAllows load.status operation &&
      load.cartons.any fun carton => eligible operation carton.state

/-- `select_first_available_operation`. -/
def selectFirstAvailableOperation (w : OutboundLoadWorkflow) : OutboundLoadWorkflow :=
  if w.operationAllowed w.operation then w
  else match OutboundCartonOperation.all.find? fun operation => w.operationAllowed operation with
    | none => w
    | some operation => { w with operation }

/-- `resolve_load`. -/
def resolveLoad (load : OutboundLoad) (w : OutboundLoadWorkflow) : OutboundLoadWorkflow :=
  { w with
    load := some load
    lane := .empty
    error := none
    notice := none }.clearScans.selectFirstAvailableOperation

/-- `load_lookup_failed`. -/
def loadLookupFailed (message : String) (w : OutboundLoadWorkflow) : OutboundLoadWorkflow :=
  if w.load.isNone && w.lane.isEmpty then { w with error := some message } else w

/-- `clear_load`. -/
def clearLoad (w : OutboundLoadWorkflow) : OutboundLoadWorkflow :=
  if w.activity ≠ .active then w
  else { w with load := none, notice := none, error := none }.clearScans

/-- `select_operation`. -/
def selectOperation (operation : OutboundCartonOperation) (w : OutboundLoadWorkflow) :
    OutboundLoadWorkflow :=
  if w.activity = .active ∧ w.operationAllowed operation then
    { w with operation, error := none, notice := none }.clearScans
  else w

/-- `expected_scan`. -/
def expectedScan (w : OutboundLoadWorkflow) : Option ScanStage :=
  if w.load.isNone then none
  else if w.sourceScan.isNone then some .source
  else if w.cartonScan.isNone then some .carton
  else if w.destinationScan.isNone then some .destination
  else none

/-- The scan is the staging lane of the load. -/
def matchesStaging (load : OutboundLoad) (scanned : String) : Option String :=
  if eqIgnoreAsciiCase load.stagingLocationBarcode scanned then none
  else some "Staging lane does not match this load"

/-- The scan is the trailer of the load. -/
def matchesTrailer (load : OutboundLoad) (scanned : String) : Option String :=
  if load.trailerNumber.any fun trailer => eqIgnoreAsciiCase trailer scanned then none
  else some "Trailer does not match this load"

/-- `validate_scan`: what is wrong with a scan. -/
def validateScan (stage : ScanStage) (scanned : String) (w : OutboundLoadWorkflow) :
    Option String :=
  match w.load with
  | none => some "Scan an outbound load first"
  | some load =>
    match stage, w.operation with
    | .source, .load | .source, .unstage => matchesStaging load scanned
    | .source, .unload => matchesTrailer load scanned
    | .source, .stage => none
    | .carton, operation =>
      if (matchingCarton load operation scanned).isSome then none
      else some "Carton is not eligible for this operation"
    | .destination, .stage | .destination, .unload => matchesStaging load scanned
    | .destination, .load => matchesTrailer load scanned
    | .destination, .unstage => none

/-- The scan is kept. -/
def recordScan (scanned : String) (w : OutboundLoadWorkflow) : ScanStage → OutboundLoadWorkflow
  | .source => { w with sourceScan := some scanned }
  | .carton => { w with cartonScan := some scanned }
  | .destination => { w with destinationScan := some scanned }

/-- `submit_scan`. -/
def submitScan (w : OutboundLoadWorkflow) : OutboundLoadWorkflow :=
  if w.activity ≠ .active then w
  else match w.expectedScan with
    | none => w
    | some stage =>
      let scanned := trim w.scanDraft
      let cleared : OutboundLoadWorkflow := { w with scanDraft := "" }
      if isEmpty scanned then { cleared with error := some "Scan value is required" }
      else match cleared.validateScan stage scanned with
        | some message => { cleared with error := some message }
        | none => { cleared.recordScan scanned stage with error := none }

/-- The command of an operation with its scans. -/
def movementCommand (expected : OutboundCartonMovementExpectation)
    (source carton destination : String) : OutboundLoadCommand :=
  match expected.operation with
  | .stage => .stage expected source carton destination
  | .load => .load expected source carton destination
  | .unload => .unload expected source carton destination
  | .unstage => .unstage expected source carton destination

/-- `begin_movement`. -/
def beginMovement (commandId idempotencyKey : String) (w : OutboundLoadWorkflow) :
    OutboundLoadWorkflow × Transition OutboundLoadCommand :=
  if w.activity ≠ .active ∨ w.expectedScan.isSome then (w, .ignored)
  else match w.load, w.sourceScan, w.cartonScan, w.destinationScan with
    | some load, some source, some cartonScan, some destination =>
      match matchingCarton load w.operation cartonScan with
      | none => ({ w with error := some "Carton is not eligible for this operation" }, .ignored)
      | some carton =>
        let expected : OutboundCartonMovementExpectation := ⟨load, carton.cartonId, w.operation⟩
        let draft : Draft OutboundLoadCommand :=
          ⟨1, commandId, idempotencyKey,
            .own (movementCommand expected source cartonScan destination)⟩
        ({ w with lane := .persisting draft }, .effect (.persistCommand draft))
    | _, _, _, _ => (w, .ignored)

/-- `command_persisted`. -/
def commandPersisted (commandId : String) (recordId : ℤ) (w : OutboundLoadWorkflow) :
    OutboundLoadWorkflow × Transition OutboundLoadCommand :=
  match w.lane.written commandId recordId with
  | none => (w, .ignored)
  | some command =>
    if recordId ≤ 0 then (w, .ignored)
    else ({ w with lane := .ready command }, .effect (.dispatchPersistedCommand recordId))

/-- `dispatch_started`. -/
def dispatchStarted (recordId : ℤ) (w : OutboundLoadWorkflow) : OutboundLoadWorkflow :=
  { w with lane := w.lane.dispatchStarted recordId }

/-- The lane after `dispatch_ambiguous`, which here also takes a command that was not sent. -/
def ambiguousLane (recordId : ℤ) (message : String) :
    Lane OutboundLoadCommand → Lane OutboundLoadCommand
  | .ready command =>
    if command.recordId = recordId then .ambiguous command message else .ready command
  | lane => lane.dispatchAmbiguous recordId message

/-- `dispatch_ambiguous`. -/
def dispatchAmbiguous (recordId : ℤ) (message : String) (w : OutboundLoadWorkflow) :
    OutboundLoadWorkflow :=
  { w with lane := ambiguousLane recordId message w.lane }

/-- `retry_ambiguous`. -/
def retryAmbiguous (w : OutboundLoadWorkflow) : OutboundLoadWorkflow × Option Effect :=
  ({ w with lane := w.lane.retryAmbiguous.1 }, w.lane.retryAmbiguous.2)

/-- The load and the operation of a saved command. -/
def takeExpectation (command : OutboundLoadCommand) (w : OutboundLoadWorkflow) :
    OutboundLoadWorkflow :=
  { w with load := some command.expectation.load, operation := command.expectation.operation }

/-- `restore_ready_command`. -/
def restoreReadyCommand (recordId : ℤ) (draft : Draft OutboundLoadCommand)
    (w : OutboundLoadWorkflow) : OutboundLoadWorkflow × Transition OutboundLoadCommand :=
  match outboundCommand draft with
  | none => (w.requireReconciliation "Saved work is not an outbound-load command", .ignored)
  | some command =>
    ({ w.takeExpectation command with lane := .ready ⟨recordId, draft⟩ },
      .effect (.dispatchPersistedCommand recordId))

/-- `restore_ambiguous_command`. -/
def restoreAmbiguousCommand (recordId : ℤ) (draft : Draft OutboundLoadCommand)
    (message : String) (w : OutboundLoadWorkflow) : OutboundLoadWorkflow :=
  match outboundCommand draft with
  | none => w.requireReconciliation "Saved work is not an outbound-load command"
  | some command => { w.takeExpectation command with lane := .ambiguous ⟨recordId, draft⟩ message }

/-- `persisted_command`. -/
def persistedCommand (recordId : ℤ) (w : OutboundLoadWorkflow) : Option OutboundLoadCommand :=
  (w.lane.persisted.filter fun command => decide (command.recordId = recordId)).bind fun command =>
    outboundCommand command.draft

/-- `accepts_outcome`. -/
def acceptsOutcome (recordId : ℤ) (outcome : CommandOutcome) (w : OutboundLoadWorkflow) : Bool :=
  (w.persistedCommand recordId).any fun command =>
    match outcome with
    | .moved result => movementMatches command.expectation result
    | .other => false

/-- The first carton with the identity is moved. -/
def moveCarton (result : CartonMovement) : List OutboundLoadCarton → List OutboundLoadCarton
  | [] => []
  | carton :: rest =>
    if carton.cartonId = result.movedCartonId then
      { carton with
        state := result.state
        positionRevision := result.positionRevision
        lastMovementId := some result.movementId } :: rest
    else carton :: moveCarton result rest

/-- The load after a movement. -/
def loadAfter (load : OutboundLoad) (result : CartonMovement) : OutboundLoad :=
  { load with
    cartons := moveCarton result load.cartons
    status := result.loadStatus
    revision := result.loadRevision
    progress := result.progress }

/-- `durable_outcome_recorded`. -/
def durableOutcomeRecorded (recordId : ℤ) (outcome : CommandOutcome) (w : OutboundLoadWorkflow) :
    OutboundLoadWorkflow :=
  if w.acceptsOutcome recordId outcome = false then
    w.requireReconciliation "Outbound carton result conflicts with saved scans"
  else match outcome with
    | .other => w
    | .moved result =>
      match w.load with
      | none => w.requireReconciliation "Outbound load snapshot is missing"
      | some load =>
        { w with
          load := some (loadAfter load result)
          lane := .empty
          notice := some ("Carton " ++ result.cartonBarcode ++ " " ++ w.operation.lowerLabel ++
            " complete")
          error := none }.clearScans.selectFirstAvailableOperation

/-- `durable_rejection_recorded`. -/
def durableRejectionRecorded (recordId : ℤ) (message : String) (w : OutboundLoadWorkflow) :
    OutboundLoadWorkflow :=
  if w.lane.ownsRecord recordId then
    { w with lane := .empty, error := some message }.clearScans
  else w

end OutboundLoadWorkflow

/-- A call of the workflow. -/
inductive Event where
  /-- The operator or the scanner changes the scan field. -/
  | editScan (text : String)
  | resolveLoad (load : OutboundLoad)
  | loadLookupFailed (message : String)
  | clearLoad
  | selectOperation (operation : OutboundCartonOperation)
  | submitScan
  | beginMovement (commandId idempotencyKey : String)
  | commandPersisted (commandId : String) (recordId : ℤ)
  | dispatchStarted (recordId : ℤ)
  | dispatchAmbiguous (recordId : ℤ) (message : String)
  | retryAmbiguous
  | durableOutcomeRecorded (recordId : ℤ) (outcome : CommandOutcome)
  | durableRejectionRecorded (recordId : ℤ) (message : String)
  | restoreReadyCommand (recordId : ℤ) (draft : Draft OutboundLoadCommand)
  | restoreAmbiguousCommand (recordId : ℤ) (draft : Draft OutboundLoadCommand) (message : String)
  | requireReconciliation (reason : String)

/-- The workflow after a call, and the effect that the call asks for. -/
def OutboundLoadWorkflow.apply (w : OutboundLoadWorkflow) :
    Event → OutboundLoadWorkflow × Option Effect
  | .editScan text => (w.editScan text, none)
  | .resolveLoad load => (w.resolveLoad load, none)
  | .loadLookupFailed message => (w.loadLookupFailed message, none)
  | .clearLoad => (w.clearLoad, none)
  | .selectOperation operation => (w.selectOperation operation, none)
  | .submitScan => (w.submitScan, none)
  | .beginMovement commandId key => (w.beginMovement commandId key).map id Transition.effect?
  | .commandPersisted commandId recordId =>
    (w.commandPersisted commandId recordId).map id Transition.effect?
  | .dispatchStarted recordId => (w.dispatchStarted recordId, none)
  | .dispatchAmbiguous recordId message => (w.dispatchAmbiguous recordId message, none)
  | .retryAmbiguous => w.retryAmbiguous
  | .durableOutcomeRecorded recordId outcome => (w.durableOutcomeRecorded recordId outcome, none)
  | .durableRejectionRecorded recordId message =>
    (w.durableRejectionRecorded recordId message, none)
  | .restoreReadyCommand recordId draft =>
    (w.restoreReadyCommand recordId draft).map id Transition.effect?
  | .restoreAmbiguousCommand recordId draft message =>
    (w.restoreAmbiguousCommand recordId draft message, none)
  | .requireReconciliation reason => (w.requireReconciliation reason, none)

/-- The callback that a call is. -/
def Event.callback : Event → Option Callback
  | .commandPersisted commandId recordId => some (.written commandId recordId)
  | .dispatchStarted recordId | .dispatchAmbiguous recordId _ => some (.sent recordId)
  | .durableOutcomeRecorded recordId _ | .durableRejectionRecorded recordId _ =>
    some (.ended recordId)
  | _ => none

/-- The runs of the workflow. -/
def WorkflowRun : OutboundLoadWorkflow → OutboundLoadWorkflow → Prop :=
  Run (fun w event w' => w' = (w.apply event).1) fun _ (_ : Event) => True

end Wareboxes.RfOutboundLoad
