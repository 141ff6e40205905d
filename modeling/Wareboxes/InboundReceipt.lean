import Wareboxes.OutboxTables
import Wareboxes.RfReceivingTypes
import Wareboxes.ServerCommands

/-!
# Expected receipts at the server

The server confirms an expected receipt in one transaction: it checks the request, reads the
load and the line, posts the goods to the inventory, adds the quantity to one of the totals of
the line, and closes the load with its last open line. Rows that are marked as deleted are left
out of the tables. What the inventory does with the goods is outside: it answers with the
numbers of its rows, which are positive, or refuses. The order of the checks is the order of
the source, so the first error is the one that the caller gets.
-/

namespace Wareboxes.InboundReceipt

open CloudCommands KeyedTables OutboxTables RfReceiving RustText RustTime ServerCommands
open Transactions Transaction

/-- The goods of a confirmation that puts them away. The expiration is a text in a request and
an instant in a command. -/
structure Goods (τ : Type) where
  itemBarcode : String
  /-- The dock that was scanned. -/
  receivingLocationBarcode : String
  quantity : ℤ
  licensePlateBarcode : Option String
  lot : Option String
  serial : Option String
  expiration : Option τ

/-- A confirmation of an expected line. The reasons are those of the contract. -/
inductive Confirmation (τ : Type) where
  | received (goods : Goods τ)
  | quarantined (goods : Goods τ) (reason : ReceiptQuarantineReason) (note : Option String)
  | rejected (itemBarcode : String) (quantity : ℤ) (reason : ReceiptExceptionReason)
      (note : Option String)
  | missing (quantity : ℤ) (reason : ReceiptExceptionReason) (note : Option String)

/-- `ConfirmExpectedReceiptRequest`. -/
abbrev ConfirmExpectedReceiptRequest := Confirmation String

/-- `ConfirmExpectedReceiptCommand`. -/
abbrev ConfirmExpectedReceiptCommand := Confirmation Timestamp

/-- The disposition of a confirmation. -/
def Confirmation.disposition {τ : Type} : Confirmation τ → ConfirmationMode
  | .received _ => .received
  | .quarantined .. => .quarantined
  | .rejected .. => .rejected
  | .missing .. => .missing

/-- The quantity of a confirmation. -/
def Confirmation.quantity {τ : Type} : Confirmation τ → ℤ
  | .received goods | .quarantined goods _ _ => goods.quantity
  | .rejected _ quantity _ _ | .missing quantity _ _ => quantity

/-- `InventoryStatus`. -/
inductive InventoryStatus where
  | available | hold | damaged | quarantine
  deriving DecidableEq

/-- `LoadStatus`. -/
inductive LoadStatus where
  | planned | scheduled | arrived | receiving | received | rejected | closed | cancelled
  deriving DecidableEq

/-- `LoadType`. -/
inductive LoadType where
  | inbound | outbound
  deriving DecidableEq

/-- `LoadLineStatus`. -/
inductive LoadLineStatus where
  | pending | partially | received | rejected | missing
  deriving DecidableEq

/-- The line is open: `status IN ('pending', 'partial')`. -/
def LoadLineStatus.isOpen : LoadLineStatus → Bool
  | .pending | .partially => true
  | .received | .rejected | .missing => false

/-- The quantities of a line, with the checks of the table. -/
structure LineQuantities where
  /-- How many units are expected. -/
  expected : ℤ
  received : ℤ
  rejected : ℤ
  missing : ℤ
  /-- Something is expected, and a `BIGINT` holds it. -/
  expectedFits : 0 < expected ∧ expected ≤ maxI64
  /-- No share is negative. -/
  nonNegative : 0 ≤ received ∧ 0 ≤ rejected ∧ 0 ≤ missing
  /-- No more is settled than expected. -/
  resolved : received + rejected + missing ≤ expected

/-- A row of `loads`. -/
structure Load where
  id : ℤ
  /-- Whose goods they are. -/
  inventoryOwnerId : ℤ
  /-- Where they are received. -/
  facilityId : ℤ
  status : LoadStatus
  /-- Whether goods come or go. -/
  type : LoadType
  dockDoorLocationId : Option ℤ
  /-- No line of the load is open. -/
  receiveCompleted : Bool

/-- A row of `load_lines`. -/
structure LoadLine where
  id : ℤ
  loadId : ℤ
  itemId : ℤ
  quantities : LineQuantities
  lot : Option String
  serial : Option String
  expiration : Option Timestamp
  status : LoadLineStatus

/-- A row of `items` with its barcodes. Lines refer to items that are deleted, too. -/
structure Item where
  id : ℤ
  /-- The item is not deleted. -/
  active : Bool
  /-- The barcodes that are not deleted. -/
  barcodes : List String

/-- A row of `locations`. -/
structure Location where
  id : ℤ
  facilityId : ℤ
  barcode : Option String
  active : Bool
  /-- Goods can be received there. -/
  receivable : Bool

/-- `ValidatedReceipt`, without the plate number that only other callers give. -/
structure ValidatedReceipt where
  receivingLocationId : Option ℤ
  /-- How many units are received. -/
  receivedQty : ℤ
  rejectedQty : ℤ
  missingQty : ℤ
  licensePlateBarcode : Option String
  lot : Option String
  serial : Option String
  expiration : Option Timestamp
  /-- Why the goods are not simply received. -/
  exceptionReason : Option ReceiptExceptionReason
  /-- What the operator adds. -/
  exceptionNote : Option String
  /-- Why the goods go to quarantine. -/
  quarantineReason : Option ReceiptQuarantineReason
  deriving DecidableEq

/-- `physical_quantity`. -/
def ValidatedReceipt.physicalQuantity (receipt : ValidatedReceipt) : ℤ :=
  if receipt.quarantineReason.isSome then receipt.rejectedQty else receipt.receivedQty

/-- `inventory_status`. -/
def ValidatedReceipt.inventoryStatus (receipt : ValidatedReceipt) : Option InventoryStatus :=
  if 0 < receipt.physicalQuantity then
    some (if receipt.quarantineReason.isSome then .quarantine else .available)
  else none

/-- `ValidatedScannerReceipt`. -/
structure ValidatedScannerReceipt where
  receipt : ValidatedReceipt
  itemBarcode : Option String
  /-- The dock that was scanned. -/
  receivingLocationBarcode : Option String
  deriving DecidableEq

/-- `ReceiveExpectedInventoryResult`. -/
structure ReceiveExpectedInventoryResult where
  loadId : ℤ
  loadLineId : ℤ
  inventoryTransactionId : Option ℤ
  itemBatchId : Option ℤ
  inventoryBalanceId : Option ℤ
  licensePlateId : Option ℤ
  inventoryHoldId : Option ℤ
  inventoryStatus : Option InventoryStatus
  loadStatus : LoadStatus
  lineStatus : LoadLineStatus
  /-- How many units of the line were received. -/
  cumulativeReceivedQty : ℤ
  cumulativeRejectedQty : ℤ
  cumulativeMissingQty : ℤ
  remainingQuantity : ℤ
  /-- No line of the load is open. -/
  receiveCompleted : Bool

/-- The tables that a receipt reads and writes. -/
structure Tables where
  loads : KeyedTable Load.id
  lines : KeyedTable LoadLine.id
  items : KeyedTable Item.id
  locations : KeyedTable Location.id
  /-- The loads of `customer_return_load_plans`. -/
  customerReturnLoads : List ℤ
  activeOwnerFacilities : List (ℤ × ℤ)
  /-- The answers of `inbound.confirm_expected_receipt.v1`. -/
  results : StoredResults (ℤ × ValidatedScannerReceipt) ReceiveExpectedInventoryResult

/-- The numbers of the rows that the inventory writes for goods. -/
structure Posted where
  licensePlateId : Option PositiveId
  itemBatchId : PositiveId
  inventoryTransactionId : PositiveId
  inventoryBalanceId : PositiveId

/-- What is outside the receipt: the texts of instants, the letter case of the database, and the
inventory, which posts the goods of a receipt on a line, and places a hold on them. -/
structure Surroundings where
  /-- `DateTime::parse_from_rfc3339`. -/
  parseInstant : String → Option Timestamp
  /-- `LOWER` of the database. -/
  lower : String → String
  /-- The posting to inventory. -/
  post : LoadLine → ValidatedReceipt → Except AppError Posted
  /-- `place_composed_inventory_hold_tx`. -/
  placeHold : LoadLine → ValidatedReceipt → Posted → Except AppError PositiveId

section Requests

/-- `validate_required_text` of the route. -/
def validateRequiredText (value field : String) (maximum : ℕ) : Except AppError Unit :=
  if trim value ≠ value ∨ isEmpty value = true then
    .error (.badRequest (field ++ " must be trimmed and nonempty"))
  else if maximum < charCount value then
    .error (.badRequest (field ++ " cannot exceed " ++ toString maximum ++ " characters"))
  else .ok ()

/-- `validate_optional_text` of the route. -/
def validateOptionalText (value : Option String) (field : String) (maximum : ℕ) :
    Except AppError Unit :=
  match value with
  | none => .ok ()
  | some value => validateRequiredText value field maximum

/-- `validate_exception`. -/
def validateException (reason : ReceiptExceptionReason) (note : Option String) :
    Except AppError Unit := do
  validateOptionalText note "note" 1000
  if reason = .other ∧ note.isNone then
    .error (.badRequest "note is required when reason is other")
  else .ok ()

/-- The texts of goods. -/
def validateGoods (goods : Goods String) : Except AppError Unit := do
  validateRequiredText goods.itemBarcode "item_barcode" 200
  validateRequiredText goods.receivingLocationBarcode "receiving_location_barcode" 200
  validateOptionalText goods.licensePlateBarcode "license_plate_barcode" 200
  validateOptionalText goods.lot "lot" 200
  validateOptionalText goods.serial "serial" 200

/-- The part of `validate_confirmation` before the quantity. -/
def validateTexts : ConfirmExpectedReceiptRequest → Except AppError Unit
  | .received goods => validateGoods goods
  | .quarantined goods reason note => do
    validateGoods goods
    validateOptionalText note "note" 1000
    if reason = .other ∧ note.isNone then
      .error (.badRequest "note is required when quarantine reason is other")
    else .ok ()
  | .rejected itemBarcode _ reason note => do
    validateRequiredText itemBarcode "item_barcode" 200
    validateException reason note
  | .missing _ reason note => validateException reason note

/-- `validate_confirmation`. -/
def validateConfirmation (body : ConfirmExpectedReceiptRequest) : Except AppError Unit := do
  validateTexts body
  if 0 < body.quantity then .ok () else .error (.badRequest "quantity must be positive")

/-- `parse_timestamp`, for the expiration. -/
def parseTimestamp (around : Surroundings) (value : Option String) :
    Except AppError (Option Timestamp) :=
  match value with
  | none => .ok none
  | some text =>
    match around.parseInstant text with
    | some instant => .ok (some instant)
    | none => .error (.badRequest "expiration must be an RFC 3339 timestamp")

/-- The goods with the instant of their expiration. -/
def mapGoods (around : Surroundings) (goods : Goods String) :
    Except AppError (Goods Timestamp) := do
  let expiration ← parseTimestamp around goods.expiration
  return { goods with expiration }

/-- `map_confirmation`, without the disposition and the quantity, which the command has. -/
def mapConfirmation (around : Surroundings) :
    ConfirmExpectedReceiptRequest → Except AppError ConfirmExpectedReceiptCommand
  | .received goods => do
    let goods ← mapGoods around goods
    return .received goods
  | .quarantined goods reason note => do
    let goods ← mapGoods around goods
    return .quarantined goods reason note
  | .rejected itemBarcode quantity reason note => .ok (.rejected itemBarcode quantity reason note)
  | .missing quantity reason note => .ok (.missing quantity reason note)

end Requests

section Validation

/-- `validated_optional_text`. -/
def validatedOptionalText (value : Option String) (label : String) (maximumCharacters : ℕ) :
    Except AppError (Option String) :=
  match value with
  | none => .ok none
  | some value =>
    let trimmed := trim value
    if isEmpty trimmed then .error (.badRequest (label ++ " cannot be blank"))
    else if maximumCharacters < charCount trimmed then
      .error (.badRequest (label ++ " cannot exceed " ++ toString maximumCharacters ++
        " characters"))
    else .ok (some trimmed)

/-- `required_text`. -/
def requiredText (value label : String) (maximumCharacters : ℕ) : Except AppError String := do
  match ← validatedOptionalText (some value) label maximumCharacters with
  | some text => .ok text
  | none => .error (.internal ("validated " ++ label ++ " is missing"))

/-- `require_positive_quantity`. -/
def requirePositiveQuantity (quantity : ℤ) : Except AppError Unit :=
  if 0 < quantity then .ok ()
  else .error (.badRequest "expected receipt quantity must be positive")

/-- `require_other_note`. -/
def requireOtherNote (reason : ReceiptExceptionReason) (note : Option String) :
    Except AppError Unit :=
  if reason = .other ∧ note.isNone then
    .error (.badRequest "exception note is required when the reason is other")
  else .ok ()

/-- The receipt of goods: the quantity goes to one of the totals. -/
def goodsReceipt (goods : Goods Timestamp) (receivedQty rejectedQty : ℤ)
    (exceptionReason : Option ReceiptExceptionReason) (exceptionNote : Option String)
    (quarantineReason : Option ReceiptQuarantineReason) :
    Except AppError ValidatedScannerReceipt := do
  let licensePlateBarcode ←
    validatedOptionalText goods.licensePlateBarcode "license plate barcode" 200
  let lot ← validatedOptionalText goods.lot "lot" 200
  let serial ← validatedOptionalText goods.serial "serial" 200
  let itemBarcode ← requiredText goods.itemBarcode "item barcode" 200
  let receivingLocationBarcode ←
    requiredText goods.receivingLocationBarcode "receiving location barcode" 200
  return {
    receipt := {
      receivingLocationId := none
      receivedQty, rejectedQty
      missingQty := 0
      licensePlateBarcode, lot, serial
      expiration := goods.expiration
      exceptionReason, exceptionNote, quarantineReason }
    itemBarcode := some itemBarcode
    receivingLocationBarcode := some receivingLocationBarcode }

/-- The receipt of goods that are not put away. -/
def bareReceipt (rejectedQty missingQty : ℤ) (reason : ReceiptExceptionReason)
    (note : Option String) : ValidatedReceipt where
  receivingLocationId := none
  receivedQty := 0
  rejectedQty := rejectedQty
  missingQty := missingQty
  licensePlateBarcode := none
  lot := none
  serial := none
  expiration := none
  exceptionReason := some reason
  exceptionNote := note
  quarantineReason := none

/-- `validate_scanner_command`. A quantity in quarantine is a rejected quantity. -/
def validateScannerCommand :
    ConfirmExpectedReceiptCommand → Except AppError ValidatedScannerReceipt
  | .received goods => do
    requirePositiveQuantity goods.quantity
    goodsReceipt goods goods.quantity 0 none none none
  | .quarantined goods reason note => do
    requirePositiveQuantity goods.quantity
    let note ← validatedOptionalText note "exception note" 1000
    if reason = .other ∧ note.isNone then
      .error (.badRequest "exception note is required when the quarantine reason is other")
    else goodsReceipt goods 0 goods.quantity (some reason.asException) note (some reason)
  | .rejected itemBarcode quantity reason note => do
    requirePositiveQuantity quantity
    let note ← validatedOptionalText note "exception note" 1000
    requireOtherNote reason note
    let itemBarcode ← requiredText itemBarcode "item barcode" 200
    return ⟨bareReceipt quantity 0 reason note, some itemBarcode, none⟩
  | .missing quantity reason note => do
    requirePositiveQuantity quantity
    let note ← validatedOptionalText note "exception note" 1000
    requireOtherNote reason note
    return ⟨bareReceipt 0 quantity reason note, none, none⟩

end Validation

section Execution

/-- `load_line_status`. -/
def loadLineStatus (expected received rejected missing : ℤ) : LoadLineStatus :=
  if expected ≤ received + rejected + missing then
    if 0 < received then .received else if 0 < rejected then .rejected else .missing
  else if 0 < received ∨ 0 < rejected ∨ 0 < missing then .partially
  else .pending

local instance lawfulPairs : LawfulBEq (ℤ × ℤ) := inferInstance

/-- The checks of the load and the item, before the scans are looked at. -/
def checkLoad (s : Tables) (load : Load) (item : Item) (receipt : ValidatedReceipt) :
    Except AppError Unit :=
  if s.customerReturnLoads.contains load.id ∧ 0 < receipt.receivedQty ∧
      receipt.quarantineReason = none then
    .error (.conflict "returned inventory must be received into quarantine for inspection")
  else if (load.inventoryOwnerId, load.facilityId) ∉ s.activeOwnerFacilities then
    .error (.conflict "inventory owner is not active in the facility")
  else if item.active = false then
    .error (.conflict "expected receipt line item is no longer active")
  else if load.type ≠ .inbound then
    .error (.conflict "expected inventory can only be received against an inbound load")
  else if load.status ≠ .receiving then
    .error (.conflict "inbound unloading must be started before receiving inventory")
  else .ok ()

/-- `require_expected_item_barcode`. -/
def requireExpectedItemBarcode (around : Surroundings) (item : Item) (itemBarcode : String) :
    Except AppError Unit :=
  if item.barcodes.any fun name => around.lower name == around.lower itemBarcode then .ok ()
  else .error (.conflict "item barcode does not match the expected receipt line")

/-- `require_expected_receiving_location`. -/
def requireExpectedReceivingLocation (s : Tables) (load : Load) (barcode : String) :
    Except AppError ℤ :=
  match load.dockDoorLocationId with
  | none => .error (.conflict "load has no receiving dock assigned")
  | some locationId =>
    if (s.locations.find? locationId).any fun location =>
        location.facilityId == load.facilityId && location.active && location.receivable &&
          location.barcode == some barcode then
      .ok locationId
    else .error (.conflict
      "receiving location barcode does not match the load's active receiving dock")

/-- The scan of the item. -/
def checkItemScan (around : Surroundings) (item : Item) (scanned : ValidatedScannerReceipt) :
    Except AppError Unit :=
  match scanned.itemBarcode with
  | some barcode => requireExpectedItemBarcode around item barcode
  | none => .ok ()

/-- The scan of the dock, which gives the location of the receipt. -/
def checkDockScan (s : Tables) (load : Load) (scanned : ValidatedScannerReceipt) :
    Except AppError ValidatedReceipt :=
  match scanned.receivingLocationBarcode with
  | some barcode => do
    let locationId ← requireExpectedReceivingLocation s load barcode
    return { scanned.receipt with receivingLocationId := some locationId }
  | none => .ok scanned.receipt

/-- `checked_add` with the message of the source. -/
def addOr (message : String) (left right : ℤ) : Except AppError ℤ :=
  match checkedAddI64 left right with
  | some sum => .ok sum
  | none => .error (.badRequest message)

/-- The totals of a line after a receipt, as the table takes them. -/
def cumulativeQuantities (prior : LineQuantities) (receipt : ValidatedReceipt) :
    Except AppError LineQuantities := do
  let received ← addOr "received quantity is too large" prior.received receipt.receivedQty
  let rejected ← addOr "rejected quantity is too large" prior.rejected receipt.rejectedQty
  let missing ← addOr "missing quantity is too large" prior.missing receipt.missingQty
  let some resolved := (checkedAddI64 received rejected).bind fun quantity =>
      checkedAddI64 quantity missing
    | .error (.badRequest "resolved quantity is too large")
  if prior.expected < resolved then
    .error (.conflict "cannot receive, reject, or mark missing more than expected quantity")
  else if h : (0 ≤ received ∧ 0 ≤ rejected ∧ 0 ≤ missing) ∧
      received + rejected + missing ≤ prior.expected then
    .ok ⟨prior.expected, received, rejected, missing, prior.expectedFits, h.1, h.2⟩
  else .error .database

/-- The value of the line or of the receipt, which have to agree. -/
def compatibleDimension {α : Type} [DecidableEq α] (existing requested : Option α)
    (label : String) : Except AppError (Option α) :=
  match existing, requested with
  | some existing, some requested =>
    if existing ≠ requested then
      .error (.conflict (label ++ " does not match the expected load line"))
    else .ok (some existing)
  | some existing, none => .ok (some existing)
  | none, requested => .ok requested

/-- `compatible_text_dimension`. -/
def compatibleTextDimension : Option String → Option String → String →
    Except AppError (Option String) := compatibleDimension

/-- `compatible_expiration`. -/
def compatibleExpiration (existing requested : Option Timestamp) :
    Except AppError (Option Timestamp) :=
  compatibleDimension existing requested "expiration"

/-- The line after a receipt. -/
def receivedLine (line : LoadLine) (receipt : ValidatedReceipt) : Except AppError LoadLine := do
  let quantities ← cumulativeQuantities line.quantities receipt
  let lot ← compatibleTextDimension line.lot receipt.lot "lot"
  let serial ← compatibleTextDimension line.serial receipt.serial "serial"
  let expiration ← compatibleExpiration line.expiration receipt.expiration
  return { line with
    quantities, lot, serial, expiration
    status := loadLineStatus quantities.expected quantities.received quantities.rejected
      quantities.missing }

/-- The goods are posted to the inventory, and those in quarantine are held. -/
def postGoods (around : Surroundings) (s : Tables) (load : Load) (line : LoadLine)
    (receipt : ValidatedReceipt) : Except AppError (Option (Posted × Option PositiveId)) :=
  if 0 < receipt.physicalQuantity then
    match receipt.receivingLocationId with
    | none => .error (.internal "validated receipt is missing its location")
    | some locationId =>
      if (s.locations.find? locationId).any fun location =>
          location.facilityId == load.facilityId && location.active && location.receivable then do
        let posted ← around.post line receipt
        if receipt.quarantineReason.isSome then
          let hold ← around.placeHold line receipt posted
          return some (posted, some hold)
        else return some (posted, none)
      else .error (.badRequest
        "receiving location must be active and receivable in the load facility")
  else .ok none

/-- No line of the load is open. -/
def receiveCompleted (s : Tables) (loadId : ℤ) : Bool :=
  s.lines.countWhere (fun line => line.loadId == loadId && line.status.isOpen) == 0

/-- A line takes the place of the line with its number. -/
def replaceLine (changed : LoadLine) (line : LoadLine) : LoadLine :=
  if line.id = changed.id then changed else line

theorem replaceLine_id (changed line : LoadLine) : (replaceLine changed line).id = line.id := by
  unfold replaceLine
  split_ifs with hid
  · exact hid.symm
  · rfl

/-- The load after a receipt. -/
def receivedLoad (completed : Bool) (load : Load) : Load :=
  { load with
    status := if completed then .received else .receiving
    receiveCompleted := completed }

theorem receivedLoad_id (completed : Bool) (load : Load) :
    (receivedLoad completed load).id = load.id := rfl

/-- The tables with a changed line. -/
def Tables.withLine (s : Tables) (changed : LoadLine) : Tables :=
  { s with lines := s.lines.rewriteRow changed.id (replaceLine changed) (replaceLine_id changed) }

/-- The tables after the load of a changed line was looked at. -/
def Tables.withLoad (s : Tables) (loadId : ℤ) : Tables :=
  { s with
    loads := s.loads.rewriteRow loadId (receivedLoad (receiveCompleted s loadId))
      (receivedLoad_id _) }

/-- The answer for a line that was changed. -/
def receiptResult (line : LoadLine) (receipt : ValidatedReceipt) (completed : Bool)
    (posted : Option (Posted × Option PositiveId)) : ReceiveExpectedInventoryResult where
  loadId := line.loadId
  loadLineId := line.id
  inventoryTransactionId := posted.map fun rows => rows.1.inventoryTransactionId.value
  itemBatchId := posted.map fun rows => rows.1.itemBatchId.value
  inventoryBalanceId := posted.map fun rows => rows.1.inventoryBalanceId.value
  licensePlateId := posted.bind fun rows => rows.1.licensePlateId.map PositiveId.value
  inventoryHoldId := posted.bind fun rows => rows.2.map PositiveId.value
  inventoryStatus := receipt.inventoryStatus
  loadStatus := if completed then .received else .receiving
  lineStatus := line.status
  cumulativeReceivedQty := line.quantities.received
  cumulativeRejectedQty := line.quantities.rejected
  cumulativeMissingQty := line.quantities.missing
  remainingQuantity := line.quantities.expected -
    (line.quantities.received + line.quantities.rejected + line.quantities.missing)
  receiveCompleted := completed

/-- The part of `execute_expected_receipt` after the look for a stored answer. -/
def receive (around : Surroundings) (context : CommandContext) (load : Load) (line : LoadLine)
    (item : Item) (scanned : ValidatedScannerReceipt) :
    Transaction Tables AppError ReceiveExpectedInventoryResult := do
  let s ← gets id
  lift (checkLoad s load item scanned.receipt)
  lift (checkItemScan around item scanned)
  let receipt ← lift (checkDockScan s load scanned)
  let changed ← lift (receivedLine line receipt)
  let posted ← lift (postGoods around s load line receipt)
  modify (Tables.withLine · changed)
  let completed ← gets (receiveCompleted · line.loadId)
  modify (Tables.withLoad · line.loadId)
  let result := receiptResult changed receipt completed posted
  let results ← gets fun s => s.results.insert?
    (completedResult context (line.id, scanned) result)
  let results ← orFail results .database
  modify ({ · with results })
  return result

/-- `execute_expected_receipt`. -/
def executeExpectedReceipt (around : Surroundings) (context : CommandContext) (loadLineId : ℤ)
    (scanned : ValidatedScannerReceipt) :
    Transaction Tables AppError ReceiveExpectedInventoryResult := do
  let s ← gets id
  let line ← orFail (s.lines.find? loadLineId) (.notFound "load line")
  let load ← orFail (s.loads.find? line.loadId) (.notFound "load line")
  let item ← orFail (s.items.find? line.itemId) (.notFound "load line")
  ensure (context.scope.includesInventoryOwner load.inventoryOwnerId = true ∧
    context.scope.includesFacility load.facilityId = true) (.notFound "load line")
  match ← lift (replayed s.results context (loadLineId, scanned)) with
  | some result => return result
  | none => receive around context load line item scanned

/-- `confirm_expected_receipt`. -/
def confirmExpectedReceipt (around : Surroundings) (context : CommandContext) (loadLineId : ℤ)
    (command : ConfirmExpectedReceiptCommand) :
    Transaction Tables AppError ReceiveExpectedInventoryResult := do
  ensure (0 < loadLineId) (.badRequest "load line ID must be positive")
  let scanned ← lift (validateScannerCommand command)
  executeExpectedReceipt around context loadLineId scanned

/-- `ExpectedReceivingLoadStatus`: the status of the load in an answer is the one of the
device. -/
def mapLoadStatus : LoadStatus → Except AppError ReceivingLoadStatus
  | .arrived => .ok .arrived
  | .receiving => .ok .receiving
  | .received => .ok .received
  | .planned | .scheduled | .rejected | .closed | .cancelled =>
    .error (.internal "expected receipt returned an invalid load status")

/-- `ExpectedReceiptConfirmationResponse`. -/
structure ExpectedReceiptConfirmationResponse where
  loadId : ℤ
  loadLineId : ℤ
  disposition : ConfirmationMode
  quantity : ℤ
  inventoryTransactionId : Option ℤ
  inventoryBalanceId : Option ℤ
  itemBatchId : Option ℤ
  licensePlateId : Option ℤ
  inventoryHoldId : Option ℤ
  inventoryStatus : Option InventoryStatus
  lineStatus : LoadLineStatus
  loadStatus : ReceivingLoadStatus
  /-- How many units of the line were received. -/
  cumulativeReceivedQuantity : ℤ
  cumulativeRejectedQuantity : ℤ
  cumulativeMissingQuantity : ℤ
  remainingQuantity : ℤ
  /-- No line of the load is open. -/
  receiveCompleted : Bool
  deriving DecidableEq

/-- `map_confirmation_result`. -/
def mapConfirmationResult (result : ReceiveExpectedInventoryResult)
    (disposition : ConfirmationMode) (quantity : ℤ) :
    Except AppError ExpectedReceiptConfirmationResponse := do
  let loadStatus ← mapLoadStatus result.loadStatus
  return {
    loadId := result.loadId
    loadLineId := result.loadLineId
    disposition, quantity
    inventoryTransactionId := result.inventoryTransactionId
    inventoryBalanceId := result.inventoryBalanceId
    itemBatchId := result.itemBatchId
    licensePlateId := result.licensePlateId
    inventoryHoldId := result.inventoryHoldId
    inventoryStatus := result.inventoryStatus
    lineStatus := result.lineStatus
    loadStatus
    cumulativeReceivedQuantity := result.cumulativeReceivedQty
    cumulativeRejectedQuantity := result.cumulativeRejectedQty
    cumulativeMissingQuantity := result.cumulativeMissingQty
    remainingQuantity := result.remainingQuantity
    receiveCompleted := result.receiveCompleted }

/-- `confirm`: the route. -/
def confirm (around : Surroundings) (context : CommandContext) (loadLineId : ℤ)
    (body : ConfirmExpectedReceiptRequest) :
    Transaction Tables AppError ExpectedReceiptConfirmationResponse := do
  ensure (0 < loadLineId) (.badRequest "load line ID must be positive")
  lift (validateConfirmation body)
  let command ← lift (mapConfirmation around body)
  let result ← confirmExpectedReceipt around context loadLineId command
  lift (mapConfirmationResult result body.disposition body.quantity)

end Execution

end Wareboxes.InboundReceipt
