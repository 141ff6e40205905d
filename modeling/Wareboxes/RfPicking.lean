import Wareboxes.RfLanes

/-!
# The picking workflow of the handheld device

An operator claims a pick, scans the source location, the item, the source license
plate when there is one and the destination license plate, and the device confirms
the pick with a durable command. A full-pallet pick keeps its plate, so the scan of
the source plate is the destination too. When stock is short the operator reports a
shortage instead, in a sub-flow that shares the scans of the source, and picks of one
batch cart carry their scans from one claim to the next. The policy of the claim says
which scans the command carries.
-/

namespace Wareboxes.RfPicking

open RustText LabelledRuns RfLanes

/-- `PickExecutionMethod`. -/
inductive PickExecutionMethod where
  | discrete | case | pallet | clusterCart | batchCart | zone
  deriving DecidableEq

/-- `PickExecutionEvidence`, without the fields that the workflow does not read. -/
structure PickExecutionEvidence where
  /-- How the pick is done. -/
  method : PickExecutionMethod
  /-- The route of the cart. -/
  clusterId : Option ℤ
  storageZoneId : Option ℤ
  deriving DecidableEq

/-- `PickDecisionPolicy`, without the fields that the workflow does not read. -/
structure PickDecisionPolicy where
  requireSourceLocationScan : Bool
  requireItemScan : Bool
  requireDestinationContainerScan : Bool
  deriving DecidableEq

/-- `PickClaimContent`, without the fields that the workflow does not read. -/
structure PickClaimContent where
  contentId : ℤ
  sourceInventoryBalanceId : ℤ
  itemBatchId : ℤ
  sourceLocationBarcode : String
  sourceLicensePlateBarcode : Option String
  itemBarcodes : List String
  lot : Option String
  serial : Option String
  /-- How many units are picked. -/
  plannedQuantity : ℤ
  deriving DecidableEq

/-- `PickClaim`, without the fields that the workflow does not read. -/
structure PickClaim where
  taskId : ℤ
  orderId : ℤ
  orderRevision : ℤ
  /-- How the pick is done. -/
  execution : PickExecutionEvidence
  /-- Which scans the pick needs. -/
  pickPolicy : PickDecisionPolicy
  suggestedDestinationLicensePlateBarcode : Option String
  content : PickClaimContent
  /-- `map_pick_claim` refuses a full-pallet claim that names no source plate. -/
  palletHasPlate : execution.method = .pallet → content.sourceLicensePlateBarcode.isSome = true
  deriving DecidableEq

/-- `PickScanStage`. -/
inductive PickScanStage where
  | sourceLocation | item | sourceLicensePlate | destinationLicensePlate
  | observedItem | observedLot | observedSerial | shortageDestinationLicensePlate
  deriving DecidableEq

/-- `PickReleaseReason`. -/
inductive PickReleaseReason where
  | workInterrupted | equipmentUnavailable | sourceBlocked | inventoryDiscrepancy | safetyIssue
  | other
  deriving DecidableEq

/-- `PickShortageReason`. -/
inductive PickShortageReason where
  | inventoryMissing | insufficientQuantity | damagedInventory | wrongInventory
  | lotOrSerialMismatch | other
  deriving DecidableEq

/-- `PickShortageReason::supports_partial`. -/
def PickShortageReason.supportsPartial : PickShortageReason → Bool
  | .insufficientQuantity | .damagedInventory | .other => true
  | .inventoryMissing | .wrongInventory | .lotOrSerialMismatch => false

/-- `PickShortageDisposition`. -/
inductive PickShortageDisposition where
  | noPick | partialPick
  deriving DecidableEq

/-- `PickControlledEvidence`. -/
inductive PickControlledEvidence where
  | lot | serial

/-- `PickShortageOutcome`. -/
inductive PickShortageOutcome where
  | noPick
  | partialPick (pickedQuantity : ℤ) (destinationLicensePlateBarcode : String)
  deriving DecidableEq

/-- `PickShortageCommand`. -/
structure PickShortageCommand where
  taskId : ℤ
  contentId : ℤ
  sourceLocationBarcode : String
  sourceLicensePlateBarcode : Option String
  observedItemBarcode : Option String
  observedLot : Option String
  /-- The serial number that was found. -/
  observedSerial : Option String
  reason : PickShortageReason
  /-- What the operator adds. -/
  note : Option String
  /-- What was picked all the same. -/
  outcome : PickShortageOutcome
  deriving DecidableEq

/-- `PickShortageDraft`. -/
structure PickShortageDraft where
  reason : PickShortageReason
  /-- Whether a part is picked. -/
  disposition : PickShortageDisposition
  /-- Whether the lot or the serial number differs. -/
  controlledEvidence : Option PickControlledEvidence
  /-- The text in the quantity field. -/
  pickedQuantity : String
  /-- The text in the note field. -/
  note : String
  observedItemBarcode : Option String
  observedLot : Option String
  /-- The serial number that was found. -/
  observedSerial : Option String
  destinationLicensePlateBarcode : Option String

/-- `PickShortageReportResult`, without its status, which the workflow does not read. -/
structure PickShortageReportResult where
  shortageId : ℤ
  taskId : ℤ
  contentId : ℤ
  orderId : ℤ
  orderRevision : ℤ
  /-- How many units were to be picked. -/
  plannedQuantity : ℤ
  pickedQuantity : ℤ
  /-- How many are missing. -/
  shortQuantity : ℤ
  reason : PickShortageReason
  /-- What the operator added. -/
  note : Option String
  observedItemBarcode : Option String
  observedLot : Option String
  /-- The serial number that was found. -/
  observedSerial : Option String

/-- `PickingCommand`. -/
inductive PickingCommand where
  | claimNext
  /-- Claim the next pick of a cart. -/
  | claimCluster (clusterId : ℤ)
  | claimZone (storageZoneId : ℤ)
  | claimById (taskId : ℤ)
  | confirm (taskId contentId : ℤ) (sourceLocationBarcode itemBarcode sourceLicensePlateBarcode
      destinationLicensePlateBarcode : Option String)
  | reportShortage (command : PickShortageCommand)
  | release (taskId : ℤ) (reason : PickReleaseReason) (note : Option String)
  deriving DecidableEq

/-- `CommandOutcome`, without the contents of the results of other workflows. -/
inductive CommandOutcome where
  | claimed (claim : Option PickClaim)
  | confirmed (taskId contentId : ℤ) (taskCompleted orderReadyToPack : Bool)
  /-- `PickShortageReported`. -/
  | shortageReported (result : PickShortageReportResult)
  | released (taskId : ℤ)
  /-- A result of another workflow. -/
  | other

/-- `BatchScanEvidence`. -/
structure BatchScanEvidence where
  /-- The route of the cart. -/
  clusterId : ℤ
  sourceInventoryBalanceId : ℤ
  itemBatchId : ℤ
  sourceLocationBarcode : Option String
  itemBarcode : Option String
  sourceLicensePlateBarcode : Option String

/-- `batch_evidence_matches_claim`. -/
def batchEvidenceMatchesClaim (evidence : BatchScanEvidence) (claim : PickClaim) : Bool :=
  claim.execution.method == .batchCart &&
    claim.execution.clusterId == some evidence.clusterId &&
    claim.content.sourceInventoryBalanceId == evidence.sourceInventoryBalanceId &&
    claim.content.itemBatchId == evidence.itemBatchId

/-- `expected_shortage_scan`. -/
def expectedShortageScan (content : PickClaimContent) (shortage : PickShortageDraft)
    (sourceLocationVerified sourceLicensePlateVerified : Bool) : Option PickScanStage :=
  let itemRequired := shortage.disposition == .partialPick ||
    [PickShortageReason.insufficientQuantity, .damagedInventory, .wrongInventory,
      .lotOrSerialMismatch].contains shortage.reason
  if !sourceLocationVerified then some .sourceLocation
  else if content.sourceLicensePlateBarcode.isSome && !sourceLicensePlateVerified then
    some .sourceLicensePlate
  else if itemRequired && shortage.observedItemBarcode.isNone then some .observedItem
  else if shortage.reason = .lotOrSerialMismatch then
    match shortage.controlledEvidence with
    | some .lot => if shortage.observedLot.isNone then some .observedLot else none
    | some .serial => if shortage.observedSerial.isNone then some .observedSerial else none
    | none => none
  else if shortage.disposition = .partialPick then
    if content.lot.isSome && shortage.observedLot.isNone then some .observedLot
    else if content.serial.isSome && shortage.observedSerial.isNone then some .observedSerial
    else if shortage.destinationLicensePlateBarcode.isNone then
      some .shortageDestinationLicensePlate
    else none
  else none

/-- `valid_scan`. -/
def validScan (value : String) : Bool :=
  !isEmpty value && trim value == value && decide (charCount value ≤ 200) &&
    !value.toList.any isControl

/-- The lot or the serial number that was found differs from the directed one. -/
def evidenceDiffers (content : PickClaimContent) (shortage : PickShortageDraft) : Bool :=
  match shortage.controlledEvidence with
  | some .lot => content.lot.any fun directed => shortage.observedLot.any fun value =>
      value != directed
  | some .serial => content.serial.any fun directed => shortage.observedSerial.any fun value =>
      value != directed
  | none => false

/-- The checks of `validate_shortage` that depend on the reason. -/
def shortageReasonFault (content : PickClaimContent) (shortage : PickShortageDraft) :
    Option String :=
  let observedItemMatches := shortage.observedItemBarcode.any content.itemBarcodes.contains
  match shortage.reason with
  | .inventoryMissing | .other => none
  | .insufficientQuantity | .damagedInventory =>
    if observedItemMatches then none else some "Scan the directed item as evidence"
  | .wrongInventory =>
    match shortage.observedItemBarcode with
    | none => some "Scan the item that was found"
    | some observed =>
      if content.itemBarcodes.contains observed then
        some "Observed item must differ from the directed item"
      else none
  | .lotOrSerialMismatch =>
    if !observedItemMatches then some "Scan the directed item before its lot or serial"
    else if !evidenceDiffers content shortage then
      some "Scan a lot or serial that differs from the directed stock"
    else none

/-- The checks of `validate_shortage` for a part that is picked. -/
def partialPickFault (content : PickClaimContent) (shortage : PickShortageDraft) :
    Option String :=
  if shortage.disposition ≠ .partialPick then none
  else if !shortage.reason.supportsPartial then some "This reason cannot record a partial pick"
  else if !(shortage.observedItemBarcode.any content.itemBarcodes.contains) then
    some "Scan the directed item for a partial pick"
  else if content.lot ≠ shortage.observedLot then some "Scan the directed lot for a partial pick"
  else if content.serial ≠ shortage.observedSerial then
    some "Scan the directed serial for a partial pick"
  else match parseI64 (trim shortage.pickedQuantity) with
    | none => some "Enter the quantity physically picked"
    | some quantity =>
      if quantity ≤ 0 ∨ content.plannedQuantity ≤ quantity then
        some "Partial quantity must be between zero and planned quantity"
      else match shortage.destinationLicensePlateBarcode with
        | none => some "Scan the partial-pick destination license plate"
        | some destination =>
          if content.sourceLicensePlateBarcode = some destination then
            some "Destination license plate must differ from the source"
          else none

/-- `validate_shortage`: what is wrong with a shortage, when something is. -/
def validateShortage (claim : PickClaim) (shortage : PickShortageDraft)
    (sourceLocationScan sourceLicensePlateScan : Option String) : Option String :=
  let content := claim.content
  let scans := [shortage.observedItemBarcode, shortage.observedLot, shortage.observedSerial,
    shortage.destinationLicensePlateBarcode].filterMap id
  if sourceLocationScan ≠ some content.sourceLocationBarcode then
    some "Scan the directed source location"
  else if content.sourceLicensePlateBarcode ≠ sourceLicensePlateScan then
    some "Scan the directed source license plate"
  else if !scans.all validScan then some "Scan evidence is invalid"
  else if 500 < charCount (trim shortage.note) then
    some "Short-pick note cannot exceed 500 characters"
  else if shortage.reason = .other ∧ isEmpty (trim shortage.note) = true then
    some "Add a note for Other"
  else (shortageReasonFault content shortage).or (partialPickFault content shortage)

/-- An effect of this workflow. -/
abbrev Effect := WorkflowEffect PickingCommand

/-- `PickingWorkflow`. -/
structure PickingWorkflow where
  claim : Option PickClaim
  /-- The command that is under way. -/
  lane : Lane PickingCommand
  sourceLocationScan : Option String
  itemScan : Option String
  sourceLocationWasScanned : Bool
  itemWasScanned : Bool
  sourceLicensePlateScan : Option String
  destinationLicensePlateScan : Option String
  /-- The shortage that is being described. -/
  shortage : Option PickShortageDraft
  /-- The text in the scan field. -/
  scanDraft : String
  /-- The text in the field for a cart. -/
  clusterIdDraft : String
  /-- The text in the field for a zone. -/
  zoneIdDraft : String
  /-- What the operator is told went wrong. -/
  error : Option String
  /-- What the operator is told. -/
  notice : Option String
  /-- Why a supervisor has to look at the device. -/
  reconcileReason : Option String
  /-- The scans of the last pick of a batch cart. -/
  batchScanEvidence : Option BatchScanEvidence

namespace PickingWorkflow

/-- `PickingWorkflow::default`. -/
def default : PickingWorkflow where
  claim := none
  lane := .empty
  sourceLocationScan := none
  itemScan := none
  sourceLocationWasScanned := false
  itemWasScanned := false
  sourceLicensePlateScan := none
  destinationLicensePlateScan := none
  shortage := none
  scanDraft := ""
  clusterIdDraft := ""
  zoneIdDraft := ""
  error := none
  notice := none
  reconcileReason := none
  batchScanEvidence := none

/-- `activity`. -/
def activity (w : PickingWorkflow) : Activity :=
  activityOf w.reconcileReason w.lane w.claim.isSome

/-- A change of the scan field through `scan_draft_mut`. -/
def editScan (text : String) (w : PickingWorkflow) : PickingWorkflow :=
  { w with scanDraft := text }

/-- A change of the field for a cart through `cluster_id_draft_mut`. -/
def editClusterId (text : String) (w : PickingWorkflow) : PickingWorkflow :=
  { w with clusterIdDraft := text }

/-- A change of the field for a zone through `zone_id_draft_mut`. -/
def editZoneId (text : String) (w : PickingWorkflow) : PickingWorkflow :=
  { w with zoneIdDraft := text }

/-- A change of the quantity of a shortage through `shortage_mut`. -/
def editPickedQuantity (text : String) (w : PickingWorkflow) : PickingWorkflow :=
  { w with shortage := w.shortage.map fun draft => { draft with pickedQuantity := text } }

/-- A change of the note of a shortage through `shortage_mut`. -/
def editShortageNote (text : String) (w : PickingWorkflow) : PickingWorkflow :=
  { w with shortage := w.shortage.map fun draft => { draft with note := text } }

/-- `require_reconciliation`. -/
def requireReconciliation (reason : String) (w : PickingWorkflow) : PickingWorkflow :=
  { w with reconcileReason := some reason, error := none }

/-- `reject_scan`. -/
def rejectScan (message : String) (w : PickingWorkflow) : PickingWorkflow :=
  { w with scanDraft := "", error := some message }

/-- Whether the lot or the serial number of the claim is the evidence of a mismatch. -/
def controlledEvidence (w : PickingWorkflow) : Option PickControlledEvidence :=
  w.claim.bind fun claim =>
    if claim.content.lot.isSome then some .lot
    else if claim.content.serial.isSome then some .serial
    else none

/-- `begin_shortage`. -/
def beginShortage (w : PickingWorkflow) : PickingWorkflow :=
  if w.activity ≠ .active ∨ w.shortage.isSome then w
  else { w with
    shortage := some
      { reason := .inventoryMissing
        disposition := .noPick
        controlledEvidence := w.controlledEvidence
        pickedQuantity := ""
        note := ""
        observedItemBarcode := none
        observedLot := none
        observedSerial := none
        destinationLicensePlateBarcode := none }
    itemScan := none
    destinationLicensePlateScan := none
    scanDraft := ""
    error := none }

/-- `cancel_shortage`. -/
def cancelShortage (w : PickingWorkflow) : PickingWorkflow :=
  if w.activity = .active then
    { w with
      shortage := none
      itemScan := none
      destinationLicensePlateScan := none
      scanDraft := ""
      error := none }
  else w

/-- A shortage with another reason. -/
def shortageWithReason (reason : PickShortageReason) (evidence : Option PickControlledEvidence)
    (shortage : PickShortageDraft) : PickShortageDraft :=
  let kept : PickShortageDraft :=
    if reason.supportsPartial then { shortage with reason }
    else { shortage with
      reason
      disposition := .noPick
      pickedQuantity := ""
      destinationLicensePlateBarcode := none }
  { kept with
    controlledEvidence := evidence
    observedItemBarcode := none
    observedLot := none
    observedSerial := none }

/-- `set_shortage_reason`. -/
def setShortageReason (reason : PickShortageReason) (w : PickingWorkflow) : PickingWorkflow :=
  match w.shortage with
  | none => w
  | some shortage =>
    if shortage.reason = reason then w
    else { w with
      shortage := some (shortageWithReason reason w.controlledEvidence shortage)
      scanDraft := ""
      error := none }

/-- A shortage with another disposition. -/
def shortageWithDisposition (disposition : PickShortageDisposition)
    (shortage : PickShortageDraft) : PickShortageDraft :=
  match disposition with
  | .partialPick => { shortage with disposition }
  | .noPick =>
    let kept : PickShortageDraft :=
      { shortage with disposition, pickedQuantity := "", destinationLicensePlateBarcode := none }
    if shortage.reason = .lotOrSerialMismatch then kept
    else { kept with observedLot := none, observedSerial := none }

/-- `set_shortage_disposition`. -/
def setShortageDisposition (disposition : PickShortageDisposition) (w : PickingWorkflow) :
    PickingWorkflow :=
  match w.shortage with
  | none => w
  | some shortage =>
    if disposition = .partialPick ∧ shortage.reason.supportsPartial = false then
      { w with error := some "This reason cannot record a partial pick" }
    else { w with
      shortage := some (shortageWithDisposition disposition shortage)
      scanDraft := ""
      error := none }

/-- `set_controlled_evidence`. -/
def setControlledEvidence (evidence : PickControlledEvidence) (w : PickingWorkflow) :
    PickingWorkflow :=
  match w.shortage with
  | none => w
  | some shortage =>
    { w with
      shortage := some { shortage with
        controlledEvidence := some evidence
        observedLot := none
        observedSerial := none }
      scanDraft := ""
      error := none }

/-- The scan that a pick without a shortage expects. -/
def expectedPickScan (content : PickClaimContent) (w : PickingWorkflow) : Option PickScanStage :=
  if w.sourceLocationScan.isNone then some .sourceLocation
  else if w.itemScan.isNone then some .item
  else if content.sourceLicensePlateBarcode.isSome && w.sourceLicensePlateScan.isNone then
    some .sourceLicensePlate
  else if w.destinationLicensePlateScan.isNone then some .destinationLicensePlate
  else none

/-- `expected_scan`. -/
def expectedScan (w : PickingWorkflow) : Option PickScanStage :=
  if w.activity ≠ .active then none
  else match w.claim, w.shortage with
    | none, _ => none
    | some claim, some shortage =>
      expectedShortageScan claim.content shortage w.sourceLocationScan.isSome
        w.sourceLicensePlateScan.isSome
    | some claim, none => w.expectedPickScan claim.content

/-- `begin`. -/
def begin (command : PickingCommand) (commandId idempotencyKey : String) (w : PickingWorkflow) :
    PickingWorkflow × Option Effect :=
  if isEmpty (trim commandId) || isEmpty (trim idempotencyKey) then
    ({ w with error := some "Command identity is unavailable" }, none)
  else
    let draft : Draft PickingCommand := ⟨1, commandId, idempotencyKey, .own command⟩
    ({ w with lane := .persisting draft, error := none, notice := none },
      some (.persistCommand draft))

/-- `begin_idle`. -/
def beginIdle (command : PickingCommand) (commandId idempotencyKey : String)
    (w : PickingWorkflow) : PickingWorkflow × Option Effect :=
  if w.activity ≠ .idle then (w, none) else w.begin command commandId idempotencyKey

/-- `begin_active`. -/
def beginActive (command : PickingCommand) (commandId idempotencyKey : String)
    (w : PickingWorkflow) : PickingWorkflow × Option Effect :=
  if w.activity ≠ .active then (w, none) else w.begin command commandId idempotencyKey

/-- `begin_claim_next`. -/
def beginClaimNext (commandId idempotencyKey : String) (w : PickingWorkflow) :
    PickingWorkflow × Option Effect :=
  w.beginIdle .claimNext commandId idempotencyKey

/-- `begin_claim_by_id`. -/
def beginClaimById (taskId : ℤ) (commandId idempotencyKey : String) (w : PickingWorkflow) :
    PickingWorkflow × Option Effect :=
  if taskId ≤ 0 then ({ w with error := some "Pick work ID must be positive" }, none)
  else w.beginIdle (.claimById taskId) commandId idempotencyKey

/-- The positive number of a field. -/
def positiveNumber (text : String) : Option ℤ :=
  (parseI64 (trim text)).filter fun value => decide (0 < value)

/-- `begin_cluster_claim`. -/
def beginClusterClaim (commandId idempotencyKey : String) (w : PickingWorkflow) :
    PickingWorkflow × Option Effect :=
  match positiveNumber w.clusterIdDraft with
  | none => ({ w with error := some "Scan or enter a positive cluster route ID" }, none)
  | some clusterId => w.beginIdle (.claimCluster clusterId) commandId idempotencyKey

/-- `begin_zone_claim`. -/
def beginZoneClaim (commandId idempotencyKey : String) (w : PickingWorkflow) :
    PickingWorkflow × Option Effect :=
  match positiveNumber w.zoneIdDraft with
  | none => ({ w with error := some "Scan or enter a positive pick zone ID" }, none)
  | some storageZoneId => w.beginIdle (.claimZone storageZoneId) commandId idempotencyKey

/-- The confirmation of the pick that is held. -/
def confirmation (claim : PickClaim) (w : PickingWorkflow) : PickingCommand :=
  let policy := claim.pickPolicy
  .confirm claim.taskId claim.content.contentId
    (if policy.requireSourceLocationScan then w.sourceLocationScan else none)
    (if policy.requireItemScan then w.itemScan else none)
    w.sourceLicensePlateScan
    (if policy.requireDestinationContainerScan then w.destinationLicensePlateScan else none)

/-- `begin_confirmation`. -/
def beginConfirmation (commandId idempotencyKey : String) (w : PickingWorkflow) :
    PickingWorkflow × Option Effect :=
  if w.expectedScan.isSome || w.shortage.isSome then (w, none)
  else match w.claim with
    | none => (w, none)
    | some claim => w.beginActive (w.confirmation claim) commandId idempotencyKey

/-- What a scan of the lot or of the serial number has to be in a shortage. -/
def observedAccepted (directed : Option String) (scanned : String) (w : PickingWorkflow) : Bool :=
  w.shortage.any fun shortage => directed.any fun directed =>
    if shortage.disposition = .partialPick then scanned == directed else scanned != directed

/-- The scan is one that the pick can take at this stage. -/
def scanAccepted (content : PickClaimContent) (scanned : String) (w : PickingWorkflow) :
    PickScanStage → Bool
  | .sourceLocation => scanned == content.sourceLocationBarcode
  | .item => content.itemBarcodes.contains scanned
  | .sourceLicensePlate => content.sourceLicensePlateBarcode == some scanned
  | .destinationLicensePlate | .shortageDestinationLicensePlate =>
    content.sourceLicensePlateBarcode.all fun source => source != scanned
  | .observedItem =>
    w.shortage.any fun shortage =>
      if shortage.reason = .wrongInventory then !content.itemBarcodes.contains scanned
      else content.itemBarcodes.contains scanned
  | .observedLot => w.observedAccepted content.lot scanned
  | .observedSerial => w.observedAccepted content.serial scanned

/-- What the operator is told about another scan. -/
def scanMismatch (w : PickingWorkflow) : PickScanStage → String
  | .sourceLocation => "Source location does not match this pick"
  | .item => "Item does not match this pick"
  | .sourceLicensePlate => "Source license plate does not match this pick"
  | .destinationLicensePlate | .shortageDestinationLicensePlate =>
    "Destination license plate must differ from the source"
  | .observedItem =>
    if w.shortage.any fun shortage => shortage.reason == .wrongInventory then
      "Observed item matches the directed item"
    else "Observed item does not match the directed item"
  | .observedLot => "Observed lot matches the directed lot"
  | .observedSerial => "Observed serial matches the directed serial"

/-- The scan is kept. A full-pallet pick takes its source plate as the destination. -/
def recordScan (palletPick : Bool) (scanned : String) (w : PickingWorkflow) :
    PickScanStage → PickingWorkflow
  | .sourceLocation =>
    { w with sourceLocationScan := some scanned, sourceLocationWasScanned := true }
  | .item => { w with itemScan := some scanned, itemWasScanned := true }
  | .sourceLicensePlate =>
    { w with
      sourceLicensePlateScan := some scanned
      destinationLicensePlateScan :=
        if palletPick then some scanned else w.destinationLicensePlateScan }
  | .destinationLicensePlate => { w with destinationLicensePlateScan := some scanned }
  | .observedItem =>
    { w with
      shortage := w.shortage.map fun draft =>
        { draft with observedItemBarcode := some scanned } }
  | .observedLot =>
    { w with shortage := w.shortage.map fun draft => { draft with observedLot := some scanned } }
  | .observedSerial =>
    { w with
      shortage := w.shortage.map fun draft => { draft with observedSerial := some scanned } }
  | .shortageDestinationLicensePlate =>
    { w with
      shortage := w.shortage.map fun draft =>
        { draft with destinationLicensePlateBarcode := some scanned } }

/-- The scan completes the pick. -/
def completesPick (palletPick : Bool) (stage : PickScanStage) : Bool :=
  stage == .destinationLicensePlate || (palletPick && stage == .sourceLicensePlate)

/-- `submit_scan`. -/
def submitScan (commandId idempotencyKey : String) (w : PickingWorkflow) :
    PickingWorkflow × Option Effect :=
  match w.expectedScan with
  | none => (w, none)
  | some stage =>
    let scanned := trim w.scanDraft
    if isEmpty scanned then ({ w with error := some "A scan is required" }, none)
    else match w.claim with
      | none => (w, none)
      | some claim =>
        let palletPick := claim.execution.method == .pallet
        if w.scanAccepted claim.content scanned stage = false then
          (w.rejectScan (w.scanMismatch stage), none)
        else
          let kept : PickingWorkflow :=
            { w.recordScan palletPick scanned stage with scanDraft := "", error := none }
          if completesPick palletPick stage then kept.beginConfirmation commandId idempotencyKey
          else (kept, none)

/-- `begin_release`. -/
def beginRelease (commandId idempotencyKey : String) (reason : PickReleaseReason)
    (note : Option String) (w : PickingWorkflow) : PickingWorkflow × Option Effect :=
  match w.claim with
  | none => (w, none)
  | some claim =>
    let note := releaseNote note
    if reason = .other ∧ note = none then
      ({ w with error := some "A note is required for Other" }, none)
    else if note.any fun text => decide (500 < charCount text) then
      ({ w with error := some "Release note cannot exceed 500 characters" }, none)
    else w.beginActive (.release claim.taskId reason note) commandId idempotencyKey

/-- The outcome of a shortage. -/
def shortageOutcome (shortage : PickShortageDraft) : Option PickShortageOutcome :=
  match shortage.disposition with
  | .noPick => some .noPick
  | .partialPick => do
    let quantity ← parseI64 (trim shortage.pickedQuantity)
    let destination ← shortage.destinationLicensePlateBarcode
    return .partialPick quantity destination

/-- The report of a shortage. -/
def shortageCommand (claim : PickClaim) (shortage : PickShortageDraft) (w : PickingWorkflow) :
    Option PickingCommand := do
  let outcome ← shortageOutcome shortage
  let sourceLocationBarcode ← w.sourceLocationScan
  return .reportShortage
    { taskId := claim.taskId
      contentId := claim.content.contentId
      sourceLocationBarcode
      sourceLicensePlateBarcode := w.sourceLicensePlateScan
      observedItemBarcode := shortage.observedItemBarcode
      observedLot := shortage.observedLot
      observedSerial := shortage.observedSerial
      reason := shortage.reason
      note := if isEmpty (trim shortage.note) then none else some (trim shortage.note)
      outcome }

/-- `begin_shortage_report`. -/
def beginShortageReport (commandId idempotencyKey : String) (w : PickingWorkflow) :
    PickingWorkflow × Option Effect :=
  match w.claim, w.shortage with
  | some claim, some shortage =>
    match validateShortage claim shortage w.sourceLocationScan w.sourceLicensePlateScan with
    | some message => ({ w with error := some message }, none)
    | none =>
      match w.shortageCommand claim shortage with
      | none => (w, none)
      | some command => w.beginActive command commandId idempotencyKey
  | _, _ => (w, none)

/-- `command_persisted`. -/
def commandPersisted (commandId : String) (recordId : ℤ) (w : PickingWorkflow) :
    PickingWorkflow × Transition PickingCommand :=
  match w.lane.written commandId recordId with
  | none => (w, .ignored)
  | some command =>
    if recordId ≤ 0 then (w, .ignored)
    else ({ w with lane := .ready command }, .effect (.dispatchPersistedCommand recordId))

/-- `dispatch_started`. -/
def dispatchStarted (recordId : ℤ) (w : PickingWorkflow) : PickingWorkflow :=
  { w with lane := w.lane.dispatchStarted recordId }

/-- `dispatch_ambiguous`. -/
def dispatchAmbiguous (recordId : ℤ) (message : String) (w : PickingWorkflow) :
    PickingWorkflow :=
  { w with lane := w.lane.dispatchAmbiguous recordId message }

/-- `retry_ambiguous`. -/
def retryAmbiguous (w : PickingWorkflow) : PickingWorkflow × Option Effect :=
  ({ w with lane := w.lane.retryAmbiguous.1 }, w.lane.retryAmbiguous.2)

/-- The scan is prefilled when the policy does not require it. -/
def prefilled (required : Bool) (value : Option String) : Option String :=
  if required then none else value

/-- The scans of a claim before anything is scanned. -/
def clearScans (w : PickingWorkflow) : PickingWorkflow :=
  { w with
    sourceLocationWasScanned := false
    itemWasScanned := false
    sourceLocationScan := w.claim.bind fun claim =>
      prefilled claim.pickPolicy.requireSourceLocationScan
        (some claim.content.sourceLocationBarcode)
    itemScan := w.claim.bind fun claim =>
      prefilled claim.pickPolicy.requireItemScan claim.content.itemBarcodes.head?
    sourceLicensePlateScan := none
    destinationLicensePlateScan := w.claim.bind fun claim =>
      prefilled claim.pickPolicy.requireDestinationContainerScan
        claim.suggestedDestinationLicensePlateBarcode
    shortage := none
    scanDraft := "" }

/-- The source location of the last pick of a batch. -/
def reuseSourceLocation (claim : PickClaim) (evidence : BatchScanEvidence)
    (w : PickingWorkflow) : PickingWorkflow :=
  if claim.pickPolicy.requireSourceLocationScan ∧
      evidence.sourceLocationBarcode = some claim.content.sourceLocationBarcode then
    { w with
      sourceLocationScan := evidence.sourceLocationBarcode
      sourceLocationWasScanned := true }
  else w

/-- The item of the last pick of a batch. -/
def reuseItem (claim : PickClaim) (evidence : BatchScanEvidence) (w : PickingWorkflow) :
    PickingWorkflow :=
  if claim.pickPolicy.requireItemScan &&
      evidence.itemBarcode.any claim.content.itemBarcodes.contains then
    { w with itemScan := evidence.itemBarcode, itemWasScanned := true }
  else w

/-- The source plate of the last pick of a batch. -/
def reuseSourceLicensePlate (claim : PickClaim) (evidence : BatchScanEvidence)
    (w : PickingWorkflow) : PickingWorkflow :=
  if evidence.sourceLicensePlateBarcode = claim.content.sourceLicensePlateBarcode then
    { w with sourceLicensePlateScan := evidence.sourceLicensePlateBarcode }
  else w

/-- `reset_scans`. -/
def resetScans (w : PickingWorkflow) : PickingWorkflow :=
  match w.claim, w.batchScanEvidence with
  | some claim, some evidence =>
    if batchEvidenceMatchesClaim evidence claim then
      ((w.clearScans.reuseSourceLocation claim evidence).reuseItem claim
        evidence).reuseSourceLicensePlate claim evidence
    else w.clearScans
  | _, _ => w.clearScans

/-- `retain_batch_scan_evidence`. -/
def retainBatchScanEvidence (w : PickingWorkflow) : PickingWorkflow :=
  match w.claim with
  | none => w
  | some claim =>
    { w with
      batchScanEvidence :=
        (claim.execution.clusterId.filter fun _ => claim.execution.method == .batchCart).map
          fun clusterId =>
            { clusterId
              sourceInventoryBalanceId := claim.content.sourceInventoryBalanceId
              itemBatchId := claim.content.itemBatchId
              sourceLocationBarcode :=
                if w.sourceLocationWasScanned then w.sourceLocationScan else none
              itemBarcode := if w.itemWasScanned then w.itemScan else none
              sourceLicensePlateBarcode := w.sourceLicensePlateScan } }

/-- How many units a shortage command picked. -/
def PickShortageOutcome.picked : PickShortageOutcome → ℤ
  | .noPick => 0
  | .partialPick pickedQuantity _ => pickedQuantity

/-- `outcome_matches`. -/
def outcomeMatches : RfCommand PickingCommand → CommandOutcome → Bool
  | .own .claimNext, .claimed _ => true
  | .own (.claimCluster _), .claimed _ => true
  | .own (.claimZone storageZoneId), .claimed claim =>
    claim.all fun claim => claim.execution.method == .zone &&
      claim.execution.storageZoneId == some storageZoneId
  | .own (.claimById taskId), .claimed (some claim) => taskId == claim.taskId
  | .own (.confirm taskId contentId ..), .confirmed outcomeTaskId outcomeContentId .. =>
    taskId == outcomeTaskId && contentId == outcomeContentId
  | .own (.reportShortage command), .shortageReported result =>
    command.taskId == result.taskId && command.contentId == result.contentId &&
      command.reason == result.reason && command.note == result.note &&
      command.observedItemBarcode == result.observedItemBarcode &&
      command.observedLot == result.observedLot &&
      command.observedSerial == result.observedSerial &&
      PickShortageOutcome.picked command.outcome == result.pickedQuantity
  | .own (.release taskId ..), .released outcomeTaskId => taskId == outcomeTaskId
  | _, _ => false

/-- The result of a shortage report fits the order of the pick that is held. -/
def shortageResultFits (result : PickShortageReportResult) (w : PickingWorkflow) : Bool :=
  w.claim.any fun claim =>
    result.orderId == claim.orderId && decide (claim.orderRevision < result.orderRevision) &&
      result.plannedQuantity == claim.content.plannedQuantity &&
      result.shortQuantity == result.plannedQuantity - result.pickedQuantity

/-- The scans of the last pick are kept for a claim of the same batch only. -/
def keepEvidenceFor (claim : Option PickClaim) (w : PickingWorkflow) : PickingWorkflow :=
  if w.batchScanEvidence.any fun evidence =>
      claim.any fun claim => batchEvidenceMatchesClaim evidence claim then w
  else { w with batchScanEvidence := none }

/-- The outcome of a command that it matches. A result of another workflow matches none. -/
def applyOutcome (outcome : CommandOutcome) (w : PickingWorkflow) : PickingWorkflow :=
  match outcome with
  | .claimed claim =>
    { ({ w with claim }.keepEvidenceFor claim).resetScans with
      notice := if claim.isNone then some "No pick work is ready" else none
      error := none }
  | .confirmed _ _ _ orderReadyToPack =>
    { { w.retainBatchScanEvidence with claim := none }.resetScans with
      notice := some (if orderReadyToPack then "Pick confirmed; order picking is complete"
        else "Pick confirmed")
      error := none }
  | .shortageReported result =>
    { { w with batchScanEvidence := none, claim := none }.resetScans with
      notice := some ("Short pick " ++ toString result.shortageId ++
        " reported for supervisor recovery")
      error := none }
  | .released _ =>
    { { w with batchScanEvidence := none, claim := none }.resetScans with
      notice := some "Pick returned to the queue"
      error := none }
  | .other => w

/-- The outcome is a shortage that does not fit the pick that is held. -/
def refusesShortage (outcome : CommandOutcome) (w : PickingWorkflow) : Bool :=
  match outcome with
  | .shortageReported result => !w.shortageResultFits result
  | _ => false

/-- `durable_outcome_recorded`. -/
def durableOutcomeRecorded (recordId : ℤ) (outcome : CommandOutcome) (w : PickingWorkflow) :
    PickingWorkflow :=
  match w.lane.sent.filter fun command => decide (command.recordId = recordId) with
  | none => w
  | some command =>
    if outcomeMatches command.draft.command outcome = false then
      w.requireReconciliation "Pick result did not match the saved command"
    else if w.refusesShortage outcome then
      w.requireReconciliation "Short-pick result did not match the active order revision"
    else { w with lane := .empty }.applyOutcome outcome

/-- `durable_rejection_recorded`. -/
def durableRejectionRecorded (recordId : ℤ) (message : String) (w : PickingWorkflow) :
    PickingWorkflow :=
  if w.lane.sent.any fun command => decide (command.recordId = recordId) then
    { w with lane := .empty, error := some message }
  else w

/-- `restore_current_claim`. -/
def restoreCurrentClaim (claim : Option PickClaim) (w : PickingWorkflow) : PickingWorkflow :=
  if w.lane.isEmpty then
    { { w with batchScanEvidence := none, claim }.resetScans with
      error := none
      reconcileReason := none }
  else w

/-- `restore_ready_command`. -/
def restoreReadyCommand (recordId : ℤ) (draft : Draft PickingCommand) (w : PickingWorkflow) :
    PickingWorkflow × Transition PickingCommand :=
  if draft.command.isOwn = false then
    (w.requireReconciliation "Saved work is not a picking command", .ignored)
  else if recordId ≤ 0 then (w, .ignored)
  else ({ w with lane := .ready ⟨recordId, draft⟩ },
    .effect (.dispatchPersistedCommand recordId))

/-- `restore_ambiguous_command`. -/
def restoreAmbiguousCommand (recordId : ℤ) (draft : Draft PickingCommand) (message : String)
    (w : PickingWorkflow) : PickingWorkflow :=
  if draft.command.isOwn = false then
    w.requireReconciliation "Saved work is not a picking command"
  else if recordId ≤ 0 then w
  else { w with lane := .ambiguous ⟨recordId, draft⟩ message }

end PickingWorkflow

/-- A call of the workflow. -/
inductive Event where
  /-- The operator or the scanner changes the scan field. -/
  | editScan (text : String)
  /-- The operator changes the field for a cart. -/
  | editClusterId (text : String)
  /-- The operator changes the field for a zone. -/
  | editZoneId (text : String)
  /-- The operator changes the quantity of a shortage. -/
  | editPickedQuantity (text : String)
  | editShortageNote (text : String)
  | beginShortage
  | cancelShortage
  | setShortageReason (reason : PickShortageReason)
  | setShortageDisposition (disposition : PickShortageDisposition)
  | setControlledEvidence (evidence : PickControlledEvidence)
  | beginClaimNext (commandId idempotencyKey : String)
  | beginClaimById (taskId : ℤ) (commandId idempotencyKey : String)
  | beginClusterClaim (commandId idempotencyKey : String)
  | beginZoneClaim (commandId idempotencyKey : String)
  | submitScan (commandId idempotencyKey : String)
  | beginConfirmation (commandId idempotencyKey : String)
  | beginRelease (commandId idempotencyKey : String) (reason : PickReleaseReason)
      (note : Option String)
  | beginShortageReport (commandId idempotencyKey : String)
  | commandPersisted (commandId : String) (recordId : ℤ)
  | dispatchStarted (recordId : ℤ)
  | dispatchAmbiguous (recordId : ℤ) (message : String)
  | retryAmbiguous
  | durableOutcomeRecorded (recordId : ℤ) (outcome : CommandOutcome)
  | durableRejectionRecorded (recordId : ℤ) (message : String)
  | restoreCurrentClaim (claim : Option PickClaim)
  | restoreReadyCommand (recordId : ℤ) (draft : Draft PickingCommand)
  | restoreAmbiguousCommand (recordId : ℤ) (draft : Draft PickingCommand) (message : String)
  | requireReconciliation (reason : String)

/-- The workflow after a call, and the effect that the call asks for. -/
def PickingWorkflow.apply (w : PickingWorkflow) : Event → PickingWorkflow × Option Effect
  | .editScan text => (w.editScan text, none)
  | .editClusterId text => (w.editClusterId text, none)
  | .editZoneId text => (w.editZoneId text, none)
  | .editPickedQuantity text => (w.editPickedQuantity text, none)
  | .editShortageNote text => (w.editShortageNote text, none)
  | .beginShortage => (w.beginShortage, none)
  | .cancelShortage => (w.cancelShortage, none)
  | .setShortageReason reason => (w.setShortageReason reason, none)
  | .setShortageDisposition disposition => (w.setShortageDisposition disposition, none)
  | .setControlledEvidence evidence => (w.setControlledEvidence evidence, none)
  | .beginClaimNext commandId key => w.beginClaimNext commandId key
  | .beginClaimById taskId commandId key => w.beginClaimById taskId commandId key
  | .beginClusterClaim commandId key => w.beginClusterClaim commandId key
  | .beginZoneClaim commandId key => w.beginZoneClaim commandId key
  | .submitScan commandId key => w.submitScan commandId key
  | .beginConfirmation commandId key => w.beginConfirmation commandId key
  | .beginRelease commandId key reason note => w.beginRelease commandId key reason note
  | .beginShortageReport commandId key => w.beginShortageReport commandId key
  | .commandPersisted commandId recordId =>
    (w.commandPersisted commandId recordId).map id Transition.effect?
  | .dispatchStarted recordId => (w.dispatchStarted recordId, none)
  | .dispatchAmbiguous recordId message => (w.dispatchAmbiguous recordId message, none)
  | .retryAmbiguous => w.retryAmbiguous
  | .durableOutcomeRecorded recordId outcome => (w.durableOutcomeRecorded recordId outcome, none)
  | .durableRejectionRecorded recordId message =>
    (w.durableRejectionRecorded recordId message, none)
  | .restoreCurrentClaim claim => (w.restoreCurrentClaim claim, none)
  | .restoreReadyCommand recordId draft =>
    (w.restoreReadyCommand recordId draft).map id Transition.effect?
  | .restoreAmbiguousCommand recordId draft message =>
    (w.restoreAmbiguousCommand recordId draft message, none)
  | .requireReconciliation reason => (w.requireReconciliation reason, none)

/-- The runs of the workflow. -/
def WorkflowRun : PickingWorkflow → PickingWorkflow → Prop :=
  Run (fun w event w' => w' = (w.apply event).1) fun _ (_ : Event) => True

end Wareboxes.RfPicking
