import Wareboxes.RustText
import Wareboxes.RustTime

/-!
# Values of expected receiving

The handheld device receives an inbound load line by line. This module has the values
of that workflow: barcodes and quantities that are checked when they are built, the
session that the server sends, the draft of a confirmation, the commands, and the
intents, which keep a command together with what a restarted device needs to go on.
An intent checks itself against its own recovery data.
-/

namespace Wareboxes.RfReceiving

open RustText RustTime

/-- The types of `positive_id!`. -/
@[ext]
structure PositiveId where
  value : ℤ
  /-- No number is zero. -/
  positive : 0 < value

instance : DecidableEq PositiveId := fun _ _ => decidable_of_iff _ PositiveId.ext_iff.symm

/-- `LoadId`. -/
abbrev LoadId := PositiveId

/-- `LoadLineId`. -/
abbrev LoadLineId := PositiveId

/-- `InventoryOwnerId`. -/
abbrev InventoryOwnerId := PositiveId

/-- `FacilityId`. -/
abbrev FacilityId := PositiveId

/-- `LocationId`. -/
abbrev LocationId := PositiveId

/-- `ItemId`. -/
abbrev ItemId := PositiveId

/-- `PositiveQuantity`. -/
@[ext]
structure PositiveQuantity where
  value : ℤ
  /-- Nothing is not a quantity. -/
  positive : 0 < value

instance : DecidableEq PositiveQuantity :=
  fun _ _ => decidable_of_iff _ PositiveQuantity.ext_iff.symm

/-- `PositiveQuantity::try_from`. -/
def PositiveQuantity.tryFrom (value : ℤ) : Option PositiveQuantity :=
  if h : 0 < value then some ⟨value, h⟩ else none

/-- `NonNegativeQuantity`. -/
@[ext]
structure NonNegativeQuantity where
  value : ℤ
  /-- Nothing is one. -/
  nonNegative : 0 ≤ value

instance : DecidableEq NonNegativeQuantity :=
  fun _ _ => decidable_of_iff _ NonNegativeQuantity.ext_iff.symm

/-- `validated_text`: the text is trimmed, not empty, short enough and without control
characters. -/
def validatedText (maximum : ℕ) (value : String) : Bool :=
  trim value == value && !isEmpty value && decide (charCount value ≤ maximum) &&
    !value.toList.any isControl

/-- A text that `validated_text` takes. -/
structure ValidatedText (maximum : ℕ) where
  value : String
  /-- It passed the check. -/
  valid : validatedText maximum value = true
  deriving DecidableEq

/-- The constructor of the types with a checked text. -/
def ValidatedText.new {maximum : ℕ} (value : String) : Option (ValidatedText maximum) :=
  if h : validatedText maximum value = true then some ⟨value, h⟩ else none

/-- `ItemBarcode`. -/
abbrev ItemBarcode := ValidatedText 200

/-- `DockBarcode`. -/
abbrev DockBarcode := ValidatedText 200

/-- `SealBarcode`. -/
abbrev SealBarcode := ValidatedText 200

/-- `LicensePlateBarcode`. -/
abbrev LicensePlateBarcode := ValidatedText 200

/-- `StockDimension`. -/
abbrev StockDimension := ValidatedText 200

/-- `ExceptionNote`. -/
abbrev ExceptionNote := ValidatedText 1000

/-- `Expiration`. -/
structure Expiration where
  value : String
  /-- It was checked, and it is a time. -/
  valid : (validatedText 200 value && isRfc3339 value) = true
  deriving DecidableEq

/-- `Expiration::new`. -/
def Expiration.new (value : String) : Option Expiration :=
  if h : (validatedText 200 value && isRfc3339 value) = true then some ⟨value, h⟩ else none

/-- The characters of a load barcode after the first. -/
def isLoadBarcodeChar (c : Char) : Bool :=
  c.isUpper || c.isDigit || ['.', '_', ':', '-'].contains c

/-- The check of `LoadBarcode::new`. -/
def isLoadBarcode (canonical : String) : Bool :=
  match canonical.toList with
  | [] => false
  | first :: rest =>
    decide (charCount canonical ≤ 200) && (first.isUpper || first.isDigit) &&
      rest.all isLoadBarcodeChar

/-- `LoadBarcode`. -/
structure LoadBarcode where
  value : String
  /-- It is the barcode of a load. -/
  valid : isLoadBarcode value = true
  deriving DecidableEq

/-- `LoadBarcode::new`. -/
def LoadBarcode.new (value : String) : Option LoadBarcode :=
  let canonical := String.ofList ((trim value).toList.map toAsciiUppercase)
  if h : isLoadBarcode canonical = true then some ⟨canonical, h⟩ else none

/-- `ReceiptPolicySource`. -/
inductive ReceiptPolicySource where
  | productDefault | configuration
  deriving DecidableEq

/-- `ReceiptPolicyScope`. -/
inductive ReceiptPolicyScope where
  | tenant
  | inventoryOwner (inventoryOwnerId : InventoryOwnerId)
  | facility (facilityId : FacilityId)
  | ownerFacility (inventoryOwnerId : InventoryOwnerId) (facilityId : FacilityId)
  deriving DecidableEq

/-- `ReceiptPolicy`. The device compares policies and nothing else. -/
structure ReceiptPolicy where
  source : ReceiptPolicySource
  configurationId : Option ℤ
  configurationRevision : Option ℤ
  configurationScope : Option ReceiptPolicyScope
  /-- Unexpected goods may be received. -/
  allowUnexpected : Bool
  /-- Goods without an item go to quarantine. -/
  quarantineUnmappedItems : Bool
  /-- How much more than expected may be received. -/
  overReceiptToleranceBasisPoints : ℕ
  policyHash : String
  deriving DecidableEq

/-- `ReceivingLoadStatus`. -/
inductive ReceivingLoadStatus where
  | arrived | receiving | received
  deriving DecidableEq

/-- `ReceivingDock`. -/
structure ReceivingDock where
  locationId : LocationId
  barcode : DockBarcode
  name : Option String
  deriving DecidableEq

/-- `ExpectedReceiptLine`. -/
structure ExpectedReceiptLine where
  loadLineId : LoadLineId
  itemId : ItemId
  itemDescription : Option String
  uom : StockDimension
  itemBarcodes : List ItemBarcode
  /-- How many units are expected. -/
  expected : PositiveQuantity
  received : NonNegativeQuantity
  rejected : NonNegativeQuantity
  missing : NonNegativeQuantity
  remaining : NonNegativeQuantity
  lot : Option StockDimension
  serial : Option StockDimension
  expiration : Option Expiration
  deriving DecidableEq

namespace ExpectedReceiptLine

/-- The checks of `ExpectedReceiptLine::try_new`. -/
def isValid (line : ExpectedReceiptLine) : Bool :=
  !line.itemBarcodes.isEmpty &&
    decide (line.itemBarcodes.map fun barcode =>
      barcode.value.toList.map toAsciiLowercase).Nodup &&
    (((checkedAddI64 line.received.value line.rejected.value).bind fun quantity =>
      checkedAddI64 quantity line.missing.value).bind fun quantity =>
        checkedAddI64 quantity line.remaining.value) == some line.expected.value

/-- `accepts`. -/
def accepts (barcode : ItemBarcode) (line : ExpectedReceiptLine) : Bool :=
  line.itemBarcodes.any fun expected => eqIgnoreAsciiCase expected.value barcode.value

end ExpectedReceiptLine

/-- `ReceivingSession`, and `ReceivingSessionInput`, which has the same fields. -/
structure ReceivingSession where
  loadId : LoadId
  /-- Whose goods they are. -/
  inventoryOwnerId : InventoryOwnerId
  /-- Where they are received. -/
  facilityId : FacilityId
  referenceNumber : Option String
  status : ReceivingLoadStatus
  expectedSeal : Option SealBarcode
  dock : ReceivingDock
  receiptPolicy : ReceiptPolicy
  lines : List ExpectedReceiptLine
  deriving DecidableEq

namespace ReceivingSession

/-- The checks of `ReceivingSession::try_new`. -/
def isValid (session : ReceivingSession) : Bool :=
  !(session.lines.isEmpty && session.status != .received) &&
    (session.lines.all fun line => line.remaining.value != 0) &&
    decide (session.lines.map ExpectedReceiptLine.loadLineId).Nodup

/-- `ReceivingSession::try_new`. -/
def tryNew (input : ReceivingSession) : Option ReceivingSession :=
  if input.isValid then some input else none

/-- `line`. -/
def line (lineId : LoadLineId) (session : ReceivingSession) : Option ExpectedReceiptLine :=
  session.lines.find? fun line => line.loadLineId == lineId

end ReceivingSession

/-- A session as the server sends it: `try_new` took the session and each of its lines. -/
structure SentSession where
  session : ReceivingSession
  /-- The server sends a valid session. -/
  valid : session.isValid = true
  /-- With valid lines. -/
  linesValid : (session.lines.all fun line => line.isValid) = true

/-- `ConfirmationMode`. -/
inductive ConfirmationMode where
  | received | quarantined | unexpected | rejected | missing
  deriving DecidableEq

/-- The goods are put away, so the dock and the container are captured. -/
def ConfirmationMode.isPhysical : ConfirmationMode → Bool
  | .received | .quarantined | .unexpected => true
  | .rejected | .missing => false

/-- `ContainerCapture`. -/
inductive ContainerCapture where
  | loose | licensePlate
  deriving DecidableEq

/-- `ReceiptExceptionReason`. -/
inductive ReceiptExceptionReason where
  | damaged | qualityRejected | shortShipment | countDiscrepancy | wrongItem | other
  deriving DecidableEq

/-- `ReceiptQuarantineReason`. -/
inductive ReceiptQuarantineReason where
  | damaged | qualityInspection | countDiscrepancy | wrongItem | other
  deriving DecidableEq

/-- `UnexpectedReceiptReason`. -/
inductive UnexpectedReceiptReason where
  | excess | unexpectedItem | blindReceipt | misShipped | other
  deriving DecidableEq

/-- `ReceiptQuarantineReason::from_exception`. -/
def ReceiptQuarantineReason.fromException :
    ReceiptExceptionReason → Option ReceiptQuarantineReason
  | .damaged => some .damaged
  | .qualityRejected => some .qualityInspection
  | .countDiscrepancy => some .countDiscrepancy
  | .wrongItem => some .wrongItem
  | .other => some .other
  | .shortShipment => none

/-- `ReceiptQuarantineReason::as_exception`. -/
def ReceiptQuarantineReason.asException : ReceiptQuarantineReason → ReceiptExceptionReason
  | .damaged => .damaged
  | .qualityInspection => .qualityRejected
  | .countDiscrepancy => .countDiscrepancy
  | .wrongItem => .wrongItem
  | .other => .other

/-- The goods of a command that puts them away. -/
structure ReceivedGoods where
  itemBarcode : ItemBarcode
  receivingLocationBarcode : DockBarcode
  quantity : PositiveQuantity
  licensePlateBarcode : Option LicensePlateBarcode
  lot : Option StockDimension
  serial : Option StockDimension
  expiration : Option Expiration
  deriving DecidableEq

/-- `ExpectedReceiptCommand`. -/
inductive ExpectedReceiptCommand where
  | received (goods : ReceivedGoods)
  | quarantined (goods : ReceivedGoods) (reason : ReceiptQuarantineReason)
      (note : Option ExceptionNote)
  | rejected (itemBarcode : ItemBarcode) (quantity : PositiveQuantity)
      (reason : ReceiptExceptionReason) (note : Option ExceptionNote)
  | missing (quantity : PositiveQuantity) (reason : ReceiptExceptionReason)
      (note : Option ExceptionNote)
  deriving DecidableEq

/-- `disposition`. -/
def ExpectedReceiptCommand.disposition : ExpectedReceiptCommand → ConfirmationMode
  | .received .. => .received
  | .quarantined .. => .quarantined
  | .rejected .. => .rejected
  | .missing .. => .missing

/-- `quantity`. -/
def ExpectedReceiptCommand.quantity : ExpectedReceiptCommand → PositiveQuantity
  | .received goods | .quarantined goods _ _ => goods.quantity
  | .rejected _ quantity _ _ | .missing quantity _ _ => quantity

/-- `ConfirmationDraft`. -/
structure ConfirmationDraft where
  mode : ConfirmationMode
  selectedLineId : Option LoadLineId
  itemBarcode : Option ItemBarcode
  dockBarcode : Option DockBarcode
  quantity : Option PositiveQuantity
  /-- Whether the goods are on a plate. -/
  containerCapture : ContainerCapture
  licensePlateBarcode : Option LicensePlateBarcode
  lot : Option StockDimension
  serial : Option StockDimension
  expiration : Option Expiration
  /-- Why the goods are not simply received. -/
  exceptionReason : Option ReceiptExceptionReason
  /-- What the operator adds. -/
  exceptionNote : Option ExceptionNote
  /-- Why the goods are unexpected. -/
  unexpectedReason : Option UnexpectedReceiptReason
  deriving DecidableEq

/-- `ConfirmationDraft::default`. -/
def ConfirmationDraft.default : ConfirmationDraft where
  mode := .received
  selectedLineId := none
  itemBarcode := none
  dockBarcode := none
  quantity := none
  containerCapture := .loose
  licensePlateBarcode := none
  lot := none
  serial := none
  expiration := none
  exceptionReason := none
  exceptionNote := none
  unexpectedReason := none

/-- The goods of a draft. -/
def ConfirmationDraft.goods (draft : ConfirmationDraft) : Option ReceivedGoods := do
  let itemBarcode ← draft.itemBarcode
  let receivingLocationBarcode ← draft.dockBarcode
  let quantity ← draft.quantity
  return {
    itemBarcode, receivingLocationBarcode, quantity
    licensePlateBarcode := draft.licensePlateBarcode
    lot := draft.lot
    serial := draft.serial
    expiration := draft.expiration }

/-- The draft of goods that were put away. -/
def ReceivedGoods.draft (mode : ConfirmationMode) (lineId : Option LoadLineId)
    (goods : ReceivedGoods) : ConfirmationDraft :=
  { ConfirmationDraft.default with
    mode
    selectedLineId := lineId
    itemBarcode := some goods.itemBarcode
    dockBarcode := some goods.receivingLocationBarcode
    quantity := some goods.quantity
    containerCapture := if goods.licensePlateBarcode.isSome then .licensePlate else .loose
    licensePlateBarcode := goods.licensePlateBarcode
    lot := goods.lot
    serial := goods.serial
    expiration := goods.expiration }

/-- `UnloadingDraft`. -/
structure UnloadingDraft where
  dockScan : Option DockBarcode
  sealScan : Option SealBarcode
  deriving DecidableEq

/-- `UnloadingDraft::default`. -/
def UnloadingDraft.default : UnloadingDraft := ⟨none, none⟩

/-- `ActiveSession`. -/
structure ActiveSession where
  loadBarcode : LoadBarcode
  session : ReceivingSession
  draft : ConfirmationDraft
  unloading : UnloadingDraft
  deriving DecidableEq

/-- `ConfirmationRecoverySnapshot`. -/
structure ConfirmationRecoverySnapshot where
  loadBarcode : LoadBarcode
  loadId : LoadId
  /-- Whose goods they are. -/
  inventoryOwnerId : InventoryOwnerId
  /-- Where they are received. -/
  facilityId : FacilityId
  referenceNumber : Option String
  status : ReceivingLoadStatus
  expectedSeal : Option SealBarcode
  dock : ReceivingDock
  receiptPolicy : ReceiptPolicy
  selectedLine : ExpectedReceiptLine
  /-- `try_new` refuses a closed line. -/
  isOpen : selectedLine.remaining.value ≠ 0
  deriving DecidableEq

namespace ConfirmationRecoverySnapshot

/-- `capture`. -/
def capture (active : ActiveSession) (lineId : LoadLineId) :
    Option ConfirmationRecoverySnapshot :=
  match active.session.line lineId with
  | none => none
  | some selectedLine =>
    if h : selectedLine.remaining.value ≠ 0 then
      some
        { loadBarcode := active.loadBarcode
          loadId := active.session.loadId
          inventoryOwnerId := active.session.inventoryOwnerId
          facilityId := active.session.facilityId
          referenceNumber := active.session.referenceNumber
          status := active.session.status
          expectedSeal := active.session.expectedSeal
          dock := active.session.dock
          receiptPolicy := active.session.receiptPolicy
          selectedLine
          isOpen := h }
    else none

/-- The draft that a command came from, as far as the command has it. -/
def draft (snapshot : ConfirmationRecoverySnapshot) : ExpectedReceiptCommand → ConfirmationDraft
  | .received goods => goods.draft .received (some snapshot.selectedLine.loadLineId)
  | .quarantined goods reason note =>
    { goods.draft .quarantined (some snapshot.selectedLine.loadLineId) with
      exceptionReason := some reason.asException
      exceptionNote := note }
  | .rejected itemBarcode quantity reason note =>
    { ConfirmationDraft.default with
      mode := .rejected
      selectedLineId := some snapshot.selectedLine.loadLineId
      itemBarcode := some itemBarcode
      quantity := some quantity
      exceptionReason := some reason
      exceptionNote := note }
  | .missing quantity reason note =>
    { ConfirmationDraft.default with
      mode := .missing
      selectedLineId := some snapshot.selectedLine.loadLineId
      quantity := some quantity
      exceptionReason := some reason
      exceptionNote := note }

/-- The session with the line alone. -/
def session (snapshot : ConfirmationRecoverySnapshot) : ReceivingSession where
  loadId := snapshot.loadId
  inventoryOwnerId := snapshot.inventoryOwnerId
  facilityId := snapshot.facilityId
  referenceNumber := snapshot.referenceNumber
  status := snapshot.status
  expectedSeal := snapshot.expectedSeal
  dock := snapshot.dock
  receiptPolicy := snapshot.receiptPolicy
  lines := [snapshot.selectedLine]

/-- `restore_active`. -/
def restoreActive (snapshot : ConfirmationRecoverySnapshot) (command : ExpectedReceiptCommand) :
    Option ActiveSession := do
  let session ← snapshot.session.tryNew
  return {
    loadBarcode := snapshot.loadBarcode
    session
    draft := snapshot.draft command
    unloading := .default }

end ConfirmationRecoverySnapshot

/-- `matches_expected`. -/
def matchesExpected {α : Type} [DecidableEq α] (expected actual : Option α) : Bool :=
  expected.all fun expected => actual == some expected

/-- The goods fit the line and the dock. -/
def ReceivedGoods.fits (dock : ReceivingDock) (line : ExpectedReceiptLine)
    (goods : ReceivedGoods) : Bool :=
  line.accepts goods.itemBarcode && goods.receivingLocationBarcode == dock.barcode &&
    matchesExpected line.lot goods.lot && matchesExpected line.serial goods.serial &&
    matchesExpected line.expiration goods.expiration

/-- `ConfirmationIntent`. -/
structure ConfirmationIntent where
  schemaVersion : ℕ
  loadId : LoadId
  loadLineId : LoadLineId
  command : ExpectedReceiptCommand
  /-- What a restarted device needs. -/
  recovery : ConfirmationRecoverySnapshot
  deriving DecidableEq

namespace ConfirmationIntent

/-- The command fits the line. -/
def commandFits (intent : ConfirmationIntent) : Bool :=
  match intent.command with
  | .received goods => goods.fits intent.recovery.dock intent.recovery.selectedLine
  | .quarantined goods reason note =>
    goods.fits intent.recovery.dock intent.recovery.selectedLine &&
      !(reason == .other && note.isNone)
  | .rejected itemBarcode _ reason note =>
    intent.recovery.selectedLine.accepts itemBarcode && !(reason == .other && note.isNone)
  | .missing _ reason note => !(reason == .other && note.isNone)

/-- `is_current_and_valid`: the checks of `validation_failure`. -/
def isCurrentAndValid (intent : ConfirmationIntent) : Bool :=
  intent.schemaVersion == 3 && intent.loadId == intent.recovery.loadId &&
    intent.loadLineId == intent.recovery.selectedLine.loadLineId &&
    decide (intent.command.quantity.value ≤ intent.recovery.selectedLine.remaining.value) &&
    intent.commandFits

/-- `try_new`. -/
def tryNew (recovery : ConfirmationRecoverySnapshot) (command : ExpectedReceiptCommand) :
    Option ConfirmationIntent :=
  let intent : ConfirmationIntent :=
    ⟨3, recovery.loadId, recovery.selectedLine.loadLineId, command, recovery⟩
  if intent.isCurrentAndValid then some intent else none

/-- `restore_active`. -/
def restoreActive (intent : ConfirmationIntent) : Option ActiveSession :=
  intent.recovery.restoreActive intent.command

end ConfirmationIntent

/-- `UnexpectedReceiptCommand`. -/
structure UnexpectedReceiptCommand where
  goods : ReceivedGoods
  /-- Why they are unexpected. -/
  reason : UnexpectedReceiptReason
  /-- What the operator adds. -/
  note : Option ExceptionNote
  receiptPolicy : ReceiptPolicy
  deriving DecidableEq

/-- `UnexpectedReceiptRecoverySnapshot`: the barcode of the load and the fields of the session. -/
structure UnexpectedReceiptRecoverySnapshot where
  loadBarcode : LoadBarcode
  session : ReceivingSession
  deriving DecidableEq

/-- `UnexpectedReceiptIntent`. -/
structure UnexpectedReceiptIntent where
  schemaVersion : ℕ
  loadId : LoadId
  command : UnexpectedReceiptCommand
  /-- What a restarted device needs. -/
  recovery : UnexpectedReceiptRecoverySnapshot
  deriving DecidableEq

namespace UnexpectedReceiptIntent

/-- `is_current_and_valid`. -/
def isCurrentAndValid (intent : UnexpectedReceiptIntent) : Bool :=
  intent.schemaVersion == 2 && intent.loadId == intent.recovery.session.loadId &&
    intent.command.goods.receivingLocationBarcode == intent.recovery.session.dock.barcode &&
    intent.command.receiptPolicy == intent.recovery.session.receiptPolicy &&
    !(intent.command.reason == .other && intent.command.note.isNone) &&
    intent.recovery.session.tryNew.isSome

/-- `capture`. -/
def capture (active : ActiveSession) : Option UnexpectedReceiptIntent := do
  let goods ← active.draft.goods
  let reason ← active.draft.unexpectedReason
  let intent : UnexpectedReceiptIntent :=
    { schemaVersion := 2
      loadId := active.session.loadId
      command := ⟨goods, reason, active.draft.exceptionNote, active.session.receiptPolicy⟩
      recovery := ⟨active.loadBarcode, active.session⟩ }
  if intent.isCurrentAndValid then some intent else none

/-- `restore_active`. -/
def restoreActive (intent : UnexpectedReceiptIntent) : Option ActiveSession :=
  if intent.isCurrentAndValid then
    intent.recovery.session.tryNew.map fun session =>
      { loadBarcode := intent.recovery.loadBarcode
        session
        draft :=
          { intent.command.goods.draft .unexpected none with
            exceptionNote := intent.command.note
            unexpectedReason := some intent.command.reason }
        unloading := .default }
  else none

end UnexpectedReceiptIntent

/-- `UnloadingStartCommand`. -/
structure UnloadingStartCommand where
  loadScan : LoadBarcode
  receivingLocationScan : DockBarcode
  sealScan : Option SealBarcode
  deriving DecidableEq

/-- `UnloadingStartRecoverySnapshot`. -/
structure UnloadingStartRecoverySnapshot where
  loadBarcode : LoadBarcode
  loadId : LoadId
  /-- Whose goods they are. -/
  inventoryOwnerId : InventoryOwnerId
  /-- Where they are received. -/
  facilityId : FacilityId
  referenceNumber : Option String
  expectedSeal : Option SealBarcode
  dock : ReceivingDock
  receiptPolicy : ReceiptPolicy
  lines : List ExpectedReceiptLine
  deriving DecidableEq

/-- The session of a load that has arrived. -/
def UnloadingStartRecoverySnapshot.session (snapshot : UnloadingStartRecoverySnapshot) :
    ReceivingSession where
  loadId := snapshot.loadId
  inventoryOwnerId := snapshot.inventoryOwnerId
  facilityId := snapshot.facilityId
  referenceNumber := snapshot.referenceNumber
  status := .arrived
  expectedSeal := snapshot.expectedSeal
  dock := snapshot.dock
  receiptPolicy := snapshot.receiptPolicy
  lines := snapshot.lines

/-- `UnloadingStartIntent`. -/
structure UnloadingStartIntent where
  schemaVersion : ℕ
  loadId : LoadId
  command : UnloadingStartCommand
  /-- What a restarted device needs. -/
  recovery : UnloadingStartRecoverySnapshot
  deriving DecidableEq

namespace UnloadingStartIntent

/-- `is_current_and_valid`. -/
def isCurrentAndValid (intent : UnloadingStartIntent) : Bool :=
  intent.schemaVersion == 2 && intent.loadId == intent.recovery.loadId &&
    intent.command.loadScan == intent.recovery.loadBarcode &&
    intent.command.receivingLocationScan == intent.recovery.dock.barcode &&
    intent.command.sealScan == intent.recovery.expectedSeal &&
    intent.recovery.session.tryNew.isSome

/-- `try_new`. -/
def tryNew (loadBarcode : LoadBarcode) (session : ReceivingSession)
    (command : UnloadingStartCommand) : Option UnloadingStartIntent :=
  if session.status ≠ .arrived then none
  else
    let intent : UnloadingStartIntent :=
      { schemaVersion := 2
        loadId := session.loadId
        command
        recovery :=
          { loadBarcode
            loadId := session.loadId
            inventoryOwnerId := session.inventoryOwnerId
            facilityId := session.facilityId
            referenceNumber := session.referenceNumber
            expectedSeal := session.expectedSeal
            dock := session.dock
            receiptPolicy := session.receiptPolicy
            lines := session.lines } }
    if intent.isCurrentAndValid then some intent else none

/-- `capture`. -/
def capture (active : ActiveSession) : Option UnloadingStartIntent := do
  let receivingLocationScan ← active.unloading.dockScan
  tryNew active.loadBarcode active.session
    ⟨active.loadBarcode, receivingLocationScan, active.unloading.sealScan⟩

/-- `restore_active`. -/
def restoreActive (intent : UnloadingStartIntent) : Option ActiveSession :=
  if intent.isCurrentAndValid then
    intent.recovery.session.tryNew.map fun session =>
      { loadBarcode := intent.recovery.loadBarcode
        session
        draft := .default
        unloading := ⟨some intent.command.receivingLocationScan, intent.command.sealScan⟩ }
  else none

end UnloadingStartIntent

/-- `ReceivingCommandIntent`. -/
inductive ReceivingCommandIntent where
  | unloading (intent : UnloadingStartIntent)
  | expected (intent : ConfirmationIntent)
  | unexpected (intent : UnexpectedReceiptIntent)
  deriving DecidableEq

namespace ReceivingCommandIntent

/-- `is_current_and_valid`. -/
def isCurrentAndValid : ReceivingCommandIntent → Bool
  | .unloading intent => intent.isCurrentAndValid
  | .expected intent => intent.isCurrentAndValid
  | .unexpected intent => intent.isCurrentAndValid

/-- `restore_active`. -/
def restoreActive : ReceivingCommandIntent → Option ActiveSession
  | .unloading intent => intent.restoreActive
  | .expected intent => intent.restoreActive
  | .unexpected intent => intent.restoreActive

end ReceivingCommandIntent

/-- `ConfirmationResult`, and `ConfirmationSummary`, which has the same fields. -/
structure ConfirmationResult where
  loadId : LoadId
  loadLineId : LoadLineId
  disposition : ConfirmationMode
  quantity : PositiveQuantity
  /-- How many units of the line were received. -/
  cumulativeReceived : NonNegativeQuantity
  cumulativeRejected : NonNegativeQuantity
  cumulativeMissing : NonNegativeQuantity
  remaining : NonNegativeQuantity
  /-- No line of the load is open. -/
  receiveCompleted : Bool
  deriving DecidableEq

/-- `UnexpectedReceiptResult`, without the fields that the workflow does not read. -/
structure UnexpectedReceiptResult where
  loadId : LoadId
  /-- Whose goods they are. -/
  inventoryOwnerId : InventoryOwnerId
  /-- Where they were received. -/
  facilityId : FacilityId
  receivingLocationId : LocationId
  goods : ReceivedGoods
  /-- Why they are unexpected. -/
  reason : UnexpectedReceiptReason
  /-- What the operator added. -/
  note : Option ExceptionNote

/-- `UnloadingStartResult`, without the fields that the workflow does not read. -/
structure UnloadingStartResult where
  unloadingStartId : ℤ
  loadId : LoadId
  receivingLocationId : LocationId

/-- `ReceivingCommandResult`. -/
inductive ReceivingCommandResult where
  | unloading (result : UnloadingStartResult)
  | expected (result : ConfirmationResult)
  | unexpected (result : UnexpectedReceiptResult)

/-- `ReconciliationReason`. -/
inductive ReconciliationReason where
  | commandIntegrityFailure | confirmationIdentityMismatch | confirmationDispositionMismatch
  | confirmationQuantityMismatch | cumulativeQuantityRegressed | cumulativeQuantityInvalid
  | refreshAggregateMismatch | refreshQuantityRegressed | invalidServerState
  deriving DecidableEq

/-- How much a confirmation adds to one of the totals. -/
def ConfirmationResult.delta (mode : ConfirmationMode) (result : ConfirmationResult) : ℤ :=
  if result.disposition = mode then result.quantity.value else 0

/-- `validate_result_quantities`: what is wrong with a result, when something is. -/
def validateResultQuantities (line : ExpectedReceiptLine) (result : ConfirmationResult) :
    Option ReconciliationReason :=
  let cumulative :=
    ((checkedAddI64 result.cumulativeReceived.value result.cumulativeRejected.value).bind
      fun quantity => checkedAddI64 quantity result.cumulativeMissing.value).bind
      fun quantity => checkedAddI64 quantity result.remaining.value
  if cumulative ≠ some line.expected.value ∨
      checkedAddI64 line.received.value (result.delta .received) ≠
        some result.cumulativeReceived.value ∨
      checkedAddI64 line.rejected.value (result.delta .rejected) ≠
        some result.cumulativeRejected.value ∨
      checkedAddI64 line.missing.value (result.delta .missing) ≠
        some result.cumulativeMissing.value ∨
      result.receiveCompleted = true ∧ result.remaining.value ≠ 0 then
    some .cumulativeQuantityInvalid
  else none

/-- `apply_confirmation`. -/
def ExpectedReceiptLine.applyConfirmation (result : ConfirmationResult)
    (line : ExpectedReceiptLine) : Except ReconciliationReason ExpectedReceiptLine :=
  if result.cumulativeReceived.value < line.received.value ∨
      result.cumulativeRejected.value < line.rejected.value ∨
      result.cumulativeMissing.value < line.missing.value then
    .error .cumulativeQuantityRegressed
  else .ok { line with
    received := result.cumulativeReceived
    rejected := result.cumulativeRejected
    missing := result.cumulativeMissing
    remaining := result.remaining }

end Wareboxes.RfReceiving
