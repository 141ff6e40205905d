import Wareboxes.InboundReceipt
import Wareboxes.RfReceivingGuard

/-!
# Receipts of the device and of the server

The device and the server each keep the totals of a line. The server counts goods in quarantine
as rejected, and the device counts them as nothing: it expects that only goods it calls rejected
raise that total. Every other confirmation that the server accepts gets an answer that the device
takes, and every quarantine gets one that sends the device to a supervisor.
-/

namespace Wareboxes.ReceiptQuantities

open InboundReceipt KeyedTables LabelledRuns RfReceiving RfReceivingGuard RustTime
open ServerCommands Transactions Transaction KeyedTable ReceivingReducer

section Wire

/-- The goods of a command, in the contract. -/
def requestGoods (goods : ReceivedGoods) : Goods String where
  itemBarcode := goods.itemBarcode.value
  receivingLocationBarcode := goods.receivingLocationBarcode.value
  quantity := goods.quantity.value
  licensePlateBarcode := goods.licensePlateBarcode.map ValidatedText.value
  lot := goods.lot.map ValidatedText.value
  serial := goods.serial.map ValidatedText.value
  expiration := goods.expiration.map Expiration.value

/-- `map_expected_receipt_command`. -/
def mapExpectedReceiptCommand : ExpectedReceiptCommand → ConfirmExpectedReceiptRequest
  | .received goods => .received (requestGoods goods)
  | .quarantined goods reason note =>
    .quarantined (requestGoods goods) reason (note.map ValidatedText.value)
  | .rejected itemBarcode quantity reason note =>
    .rejected itemBarcode.value quantity.value reason (note.map ValidatedText.value)
  | .missing quantity reason note => .missing quantity.value reason (note.map ValidatedText.value)

/-- The rows of the inventory that an answer names. -/
def optionalIds (response : ExpectedReceiptConfirmationResponse) : List (Option ℤ) :=
  [response.inventoryTransactionId, response.inventoryBalanceId, response.itemBatchId,
    response.licensePlateId, response.inventoryHoldId]

/-- `inventory_shape_is_valid`. The contract has no unexpected disposition. -/
def inventoryShapeIsValid (response : ExpectedReceiptConfirmationResponse) : Bool :=
  match response.disposition with
  | .received =>
    response.inventoryTransactionId.isSome && response.inventoryBalanceId.isSome &&
      response.itemBatchId.isSome && response.inventoryHoldId.isNone &&
      response.inventoryStatus == some .available
  | .quarantined =>
    response.inventoryTransactionId.isSome && response.inventoryBalanceId.isSome &&
      response.itemBatchId.isSome && response.inventoryHoldId.isSome &&
      response.inventoryStatus == some .quarantine
  | .rejected | .missing =>
    (optionalIds response).all Option.isNone && response.inventoryStatus.isNone
  | .unexpected => false

/-- `completion_is_valid`. -/
def completionIsValid (response : ExpectedReceiptConfirmationResponse) : Bool :=
  if response.receiveCompleted then
    response.remainingQuantity == 0 && response.loadStatus == .received
  else response.loadStatus == .receiving

/-- The last part of `validate_expected_receipt_confirmation_response`. -/
def responseIsValid (response : ExpectedReceiptConfirmationResponse) : Bool :=
  (optionalIds response).all (fun id => id.all fun id => decide (0 < id)) &&
    inventoryShapeIsValid response && completionIsValid response

/-- `decode_expected_receipt_confirmation_response_from_body`, from the decoded contract on. The
numbers that have to be positive or not negative are checked by their types. -/
def decodeConfirmation (response : ExpectedReceiptConfirmationResponse) :
    Option ConfirmationResult :=
  if responseIsValid response then
    if hids : 0 < response.loadId ∧ 0 < response.loadLineId ∧ 0 < response.quantity then
      if htotals : 0 ≤ response.cumulativeReceivedQuantity ∧
          0 ≤ response.cumulativeRejectedQuantity ∧ 0 ≤ response.cumulativeMissingQuantity ∧
          0 ≤ response.remainingQuantity then
        some
          { loadId := ⟨response.loadId, hids.1⟩
            loadLineId := ⟨response.loadLineId, hids.2.1⟩
            disposition := response.disposition
            quantity := ⟨response.quantity, hids.2.2⟩
            cumulativeReceived := ⟨response.cumulativeReceivedQuantity, htotals.1⟩
            cumulativeRejected := ⟨response.cumulativeRejectedQuantity, htotals.2.1⟩
            cumulativeMissing := ⟨response.cumulativeMissingQuantity, htotals.2.2.1⟩
            remaining := ⟨response.remainingQuantity, htotals.2.2.2⟩
            receiveCompleted := response.receiveCompleted }
      else none
    else none
  else none

end Wire

section Shares

variable {τ : Type}

/-- The total that goods are added to. -/
def countedAs : ConfirmationMode → ConfirmationMode
  | .quarantined => .rejected
  | mode => mode

/-- What a confirmation adds to a total. -/
def share (body : Confirmation τ) (total : ConfirmationMode) : ℤ :=
  if countedAs body.disposition = total then body.quantity else 0

/-- The shares of a confirmation, as its receipt has them. -/
structure HasShares (body : Confirmation τ) (receipt : ValidatedReceipt) : Prop where
  /-- What is received. -/
  received : receipt.receivedQty = share body .received
  /-- What is rejected. -/
  rejected : receipt.rejectedQty = share body .rejected
  /-- What is missing. -/
  missing : receipt.missingQty = share body .missing
  /-- Quarantine needs a reason. -/
  quarantine : receipt.quarantineReason.isSome = decide (body.disposition = .quarantined)

/-- What the server answers to a confirmation of a line. -/
structure Accepted (line : LoadLine) (body : Confirmation τ)
    (response : ExpectedReceiptConfirmationResponse) : Prop where
  loadId : response.loadId = line.loadId
  loadLineId : response.loadLineId = line.id
  disposition : response.disposition = body.disposition
  quantity : response.quantity = body.quantity
  /-- Something was counted. -/
  positive : 0 < body.quantity
  /-- The line counts what is received. -/
  received : response.cumulativeReceivedQuantity = line.quantities.received + share body .received
  /-- And what is rejected. -/
  rejected : response.cumulativeRejectedQuantity = line.quantities.rejected + share body .rejected
  /-- And what is missing. -/
  missing : response.cumulativeMissingQuantity = line.quantities.missing + share body .missing
  /-- The totals and what is open are what is expected. -/
  total : response.cumulativeReceivedQuantity + response.cumulativeRejectedQuantity +
    response.cumulativeMissingQuantity + response.remainingQuantity = line.quantities.expected
  /-- No more than expected is resolved. -/
  remaining : 0 ≤ response.remainingQuantity
  /-- A load is complete only when the line is. -/
  completed : response.receiveCompleted = true → response.remainingQuantity = 0
  /-- The device can read the answer. -/
  valid : responseIsValid response = true

end Shares

variable {body : ConfirmExpectedReceiptRequest}

section Validation

variable {around : Surroundings} {command : ConfirmExpectedReceiptCommand}
  {scanned : ValidatedScannerReceipt}

/-- The mapping of a request keeps its disposition and its quantity. -/
theorem mapConfirmation_ok (h : mapConfirmation around body = .ok command) :
    command.disposition = body.disposition ∧ command.quantity = body.quantity := by
  unfold mapConfirmation at h
  cases body with
  | received | quarantined =>
    obtain ⟨mapped, hmapped, hcommand⟩ := except_bind_ok.mp h
    obtain ⟨expiration, -, hgoods⟩ := except_bind_ok.mp hmapped
    cases hgoods
    cases hcommand
    exact ⟨rfl, rfl⟩
  | rejected | missing =>
    cases h
    exact ⟨rfl, rfl⟩

/-- The receipt of goods has the quantities that it was given. -/
theorem goodsReceipt_ok {goods : Goods OutboxTables.Timestamp} {receivedQty rejectedQty : ℤ}
    {exceptionReason : Option ReceiptExceptionReason} {exceptionNote : Option String}
    {quarantineReason : Option ReceiptQuarantineReason}
    (h : goodsReceipt goods receivedQty rejectedQty exceptionReason exceptionNote
      quarantineReason = .ok scanned) :
    scanned.receipt.receivedQty = receivedQty ∧ scanned.receipt.rejectedQty = rejectedQty ∧
      scanned.receipt.missingQty = 0 ∧ scanned.receipt.quarantineReason = quarantineReason := by
  unfold goodsReceipt at h
  obtain ⟨_, -, h⟩ := except_bind_ok.mp h
  obtain ⟨_, -, h⟩ := except_bind_ok.mp h
  obtain ⟨_, -, h⟩ := except_bind_ok.mp h
  obtain ⟨_, -, h⟩ := except_bind_ok.mp h
  obtain ⟨_, -, h⟩ := except_bind_ok.mp h
  cases h
  exact ⟨rfl, rfl, rfl, rfl⟩

theorem requirePositiveQuantity_ok {quantity : ℤ} {done : Unit}
    (h : requirePositiveQuantity quantity = .ok done) : 0 < quantity := by
  unfold requirePositiveQuantity at h
  split_ifs at h with hpositive
  exact hpositive

/-- A command that is taken has its quantity in one of the totals. -/
theorem validateScannerCommand_ok (h : validateScannerCommand command = .ok scanned) :
    HasShares command scanned.receipt ∧ 0 < command.quantity := by
  unfold validateScannerCommand at h
  cases command with
  | received =>
    obtain ⟨_, hpositive, h⟩ := except_bind_ok.mp h
    obtain ⟨hreceived, hrejected, hmissing, hquarantine⟩ := goodsReceipt_ok h
    refine ⟨⟨hreceived, hrejected, hmissing, ?_⟩, requirePositiveQuantity_ok hpositive⟩
    rw [hquarantine]
    rfl
  | quarantined =>
    obtain ⟨_, hpositive, h⟩ := except_bind_ok.mp h
    obtain ⟨_, -, h⟩ := except_bind_ok.mp h
    split_ifs at h
    obtain ⟨hreceived, hrejected, hmissing, hquarantine⟩ := goodsReceipt_ok h
    refine ⟨⟨hreceived, hrejected, hmissing, ?_⟩, requirePositiveQuantity_ok hpositive⟩
    rw [hquarantine]
    rfl
  | rejected =>
    obtain ⟨_, hpositive, h⟩ := except_bind_ok.mp h
    obtain ⟨_, -, h⟩ := except_bind_ok.mp h
    obtain ⟨_, -, h⟩ := except_bind_ok.mp h
    obtain ⟨_, -, h⟩ := except_bind_ok.mp h
    cases h
    exact ⟨⟨rfl, rfl, rfl, rfl⟩, requirePositiveQuantity_ok hpositive⟩
  | missing =>
    obtain ⟨_, hpositive, h⟩ := except_bind_ok.mp h
    obtain ⟨_, -, h⟩ := except_bind_ok.mp h
    obtain ⟨_, -, h⟩ := except_bind_ok.mp h
    cases h
    exact ⟨⟨rfl, rfl, rfl, rfl⟩, requirePositiveQuantity_ok hpositive⟩

end Validation

variable {posted : Option (Posted × Option PositiveId)} {lineId : ℤ}

section Execution

variable {around : Surroundings} {context : CommandContext} {s s' : Tables} {load : Load}
  {line changed : LoadLine} {item : Item} {scanned : ValidatedScannerReceipt}
  {receipt : ValidatedReceipt}

theorem checkDockScan_ok (h : checkDockScan s load scanned = .ok receipt) :
    ∃ locationId, receipt = { scanned.receipt with receivingLocationId := locationId } := by
  unfold checkDockScan at h
  split at h
  · obtain ⟨locationId, -, h⟩ := except_bind_ok.mp h
    cases h
    exact ⟨some locationId, rfl⟩
  · cases h
    exact ⟨scanned.receipt.receivingLocationId, rfl⟩

variable {τ : Type} {result : ReceiveExpectedInventoryResult}
  {response : ExpectedReceiptConfirmationResponse}

theorem HasShares.withLocation {body : Confirmation τ} (h : HasShares body receipt)
    (locationId : Option ℤ) : HasShares body { receipt with receivingLocationId := locationId } :=
  ⟨h.received, h.rejected, h.missing, h.quarantine⟩

theorem addOr_ok {message : String} {left right sum : ℤ} (h : addOr message left right = .ok sum) :
    sum = left + right := by
  unfold addOr at h
  split at h
  · next found hfound =>
    cases h
    exact (checkedAddI64_eq_some.mp hfound).1.symm
  · cases h

/-- The totals of a line after a receipt. -/
theorem cumulativeQuantities_ok {prior next : LineQuantities}
    (h : cumulativeQuantities prior receipt = .ok next) :
    next.expected = prior.expected ∧ next.received = prior.received + receipt.receivedQty ∧
      next.rejected = prior.rejected + receipt.rejectedQty ∧
      next.missing = prior.missing + receipt.missingQty := by
  unfold cumulativeQuantities at h
  obtain ⟨received, hreceived, h⟩ := except_bind_ok.mp h
  obtain ⟨rejected, hrejected, h⟩ := except_bind_ok.mp h
  obtain ⟨missing, hmissing, h⟩ := except_bind_ok.mp h
  split at h
  · split_ifs at h
    cases h
    exact ⟨rfl, addOr_ok hreceived, addOr_ok hrejected, addOr_ok hmissing⟩
  · cases h

/-- The line after a receipt. -/
theorem receivedLine_ok (h : receivedLine line receipt = .ok changed) :
    changed.id = line.id ∧ changed.loadId = line.loadId ∧ changed.itemId = line.itemId ∧
      cumulativeQuantities line.quantities receipt = .ok changed.quantities ∧
      changed.status = loadLineStatus changed.quantities.expected changed.quantities.received
        changed.quantities.rejected changed.quantities.missing := by
  unfold receivedLine at h
  obtain ⟨quantities, hquantities, h⟩ := except_bind_ok.mp h
  obtain ⟨_, -, h⟩ := except_bind_ok.mp h
  obtain ⟨_, -, h⟩ := except_bind_ok.mp h
  obtain ⟨_, -, h⟩ := except_bind_ok.mp h
  cases h
  exact ⟨rfl, rfl, rfl, hquantities, rfl⟩

theorem isOpen_of_less {expected received rejected missing : ℤ}
    (h : received + rejected + missing < expected) :
    (loadLineStatus expected received rejected missing).isOpen = true := by
  unfold loadLineStatus
  rw [if_neg (not_le.mpr h)]
  split_ifs <;> rfl

/-- The goods that are put away have their rows, and those in quarantine have a hold. -/
def PostedFor (receipt : ValidatedReceipt) (posted : Option (Posted × Option PositiveId)) : Prop :=
  if 0 < receipt.physicalQuantity then
    ∃ rows hold, posted = some (rows, hold) ∧ hold.isSome = receipt.quarantineReason.isSome
  else posted = none

theorem postGoods_ok (h : postGoods around s load line receipt = .ok posted) :
    PostedFor receipt posted := by
  unfold postGoods at h
  unfold PostedFor
  by_cases hphysical : 0 < receipt.physicalQuantity
  · rw [if_pos hphysical] at h ⊢
    split at h
    · cases h
    · split at h
      · obtain ⟨rows, -, h⟩ := except_bind_ok.mp h
        split at h
        · next hquarantine =>
          obtain ⟨hold, -, h⟩ := except_bind_ok.mp h
          cases h
          exact ⟨rows, some hold, rfl, hquarantine.symm⟩
        · next hquarantine =>
          cases h
          exact ⟨rows, none, rfl, (Bool.not_eq_true _ ▸ hquarantine).symm⟩
      · cases h
  · rw [if_neg hphysical] at h ⊢
    cases h
    rfl

section

variable (hfind : s.lines.find? line.id = some line) (hid : changed.id = line.id)
include hfind hid

theorem mem_withLine : changed ∈ (s.withLine changed).lines.rows := by
  unfold Tables.withLine
  rw [rewriteRow_rows, hid]
  refine List.mem_map.mpr ⟨line, (KeyedTable.find?_eq_some.mp hfind).1, ?_⟩
  rw [if_pos rfl]
  unfold replaceLine
  rw [if_pos hid.symm]

/-- A load is complete only when the changed line is closed. -/
theorem closed_of_completed (hload : changed.loadId = line.loadId)
    (h : receiveCompleted (s.withLine changed) line.loadId = true) :
    changed.status.isOpen = false := by
  unfold receiveCompleted countWhere at h
  rw [beq_iff_eq, List.countP_eq_zero] at h
  have hclosed := h changed (mem_withLine hfind hid)
  rw [hload, beq_self_eq_true, Bool.true_and] at hclosed
  exact Bool.not_eq_true _ ▸ hclosed

end

/-- A receipt that is executed: the line is changed, the goods are posted, the load is looked at,
and the answer is stored. -/
theorem receive_ok (h : receive around context load line item scanned s = .ok (result, s')) :
    ∃ receipt changed posted, checkDockScan s load scanned = .ok receipt ∧
      receivedLine line receipt = .ok changed ∧
      postGoods around s load line receipt = .ok posted ∧
      result = receiptResult changed receipt
        (receiveCompleted (s.withLine changed) line.loadId) posted ∧
      ∃ results, s.results.insert? (completedResult context (line.id, scanned) result) =
          some results ∧
        s' = { (s.withLine changed).withLoad line.loadId with results } := by
  unfold receive at h
  rw [gets_bind] at h
  obtain ⟨_, -, h⟩ := lift_bind_ok.mp h
  obtain ⟨_, -, h⟩ := lift_bind_ok.mp h
  obtain ⟨receipt, hreceipt, h⟩ := lift_bind_ok.mp h
  obtain ⟨changed, hchanged, h⟩ := lift_bind_ok.mp h
  obtain ⟨posted, hposted, h⟩ := lift_bind_ok.mp h
  rw [modify_bind, gets_bind, modify_bind, gets_bind] at h
  obtain ⟨results, hresults, h⟩ := orFail_bind_ok.mp h
  rw [modify_bind] at h
  cases h
  exact ⟨receipt, changed, posted, hreceipt, hchanged, hposted, rfl, results, hresults, rfl⟩

/-- The shares depend on the disposition and the quantity. -/
theorem HasShares.congr {τ υ : Type} {body : Confirmation τ} {other : Confirmation υ}
    (h : HasShares body receipt) (hdisposition : body.disposition = other.disposition)
    (hquantity : body.quantity = other.quantity) : HasShares other receipt := by
  have hshare : share body = share other := by
    unfold share
    rw [hdisposition, hquantity]
  obtain ⟨hreceived, hrejected, hmissing, hquarantine⟩ := h
  rw [hshare] at hreceived hrejected hmissing
  rw [hdisposition] at hquarantine
  exact ⟨hreceived, hrejected, hmissing, hquarantine⟩

/-- The goods of a receipt are the quantity of the confirmation, when they are put away. -/
theorem physicalQuantity_of_shares {body : Confirmation τ} (h : HasShares body receipt) :
    receipt.physicalQuantity = if body.disposition.isPhysical then body.quantity else 0 := by
  unfold ValidatedReceipt.physicalQuantity
  rw [h.quarantine, h.received, h.rejected]
  cases body <;> rfl

/-- The status of the goods of a receipt. -/
theorem inventoryStatus_of_shares {body : Confirmation τ} (h : HasShares body receipt)
    (hpositive : 0 < body.quantity) :
    receipt.inventoryStatus = match body.disposition with
      | .received => some .available
      | .quarantined => some .quarantine
      | _ => none := by
  unfold ValidatedReceipt.inventoryStatus
  rw [physicalQuantity_of_shares h, h.quarantine]
  cases body with
  | received | quarantined => exact if_pos hpositive
  | rejected | missing => rfl

/-- The rows of the inventory fit the disposition. -/
theorem rows_of_shares {body : Confirmation τ} (h : HasShares body receipt)
    (hpositive : 0 < body.quantity) (hposted : PostedFor receipt posted) :
    match body.disposition with
    | .received => ∃ rows, posted = some (rows, none)
    | .quarantined => ∃ rows hold, posted = some (rows, some hold)
    | _ => posted = none := by
  rw [PostedFor, physicalQuantity_of_shares h, h.quarantine] at hposted
  cases body with
  | received goods =>
    obtain ⟨rows, hold, rfl, hhold⟩ := (if_pos hpositive).mp hposted
    cases hold with
    | none => exact ⟨rows, rfl⟩
    | some => cases hhold
  | quarantined goods =>
    obtain ⟨rows, hold, rfl, hhold⟩ := (if_pos hpositive).mp hposted
    cases hold with
    | none => cases hhold
    | some hold => exact ⟨rows, hold, rfl⟩
  | rejected | missing => exact hposted

/-- The rows of the inventory have positive numbers. -/
theorem optionalIds_positive (posted : Option (Posted × Option PositiveId)) :
    [posted.map fun rows => rows.1.inventoryTransactionId.value,
      posted.map fun rows => rows.1.inventoryBalanceId.value,
      posted.map fun rows => rows.1.itemBatchId.value,
      posted.bind fun rows => rows.1.licensePlateId.map PositiveId.value,
      posted.bind fun rows => rows.2.map PositiveId.value].all
        (fun id => id.all fun id => decide (0 < id)) = true := by
  cases posted with
  | none => rfl
  | some rows =>
    obtain ⟨⟨plate, batch, transaction, balance⟩, hold⟩ := rows
    have hplate : (plate.map PositiveId.value).all (fun id => decide (0 < id)) = true := by
      cases plate with
      | none => rfl
      | some plate => exact decide_eq_true plate.positive
    have hhold : (hold.map PositiveId.value).all (fun id => decide (0 < id)) = true := by
      cases hold with
      | none => rfl
      | some hold => exact decide_eq_true hold.positive
    simp [hplate, hhold, batch.positive, transaction.positive, balance.positive]

/-- The device can read the answer to a receipt: the rows fit the disposition, and the load fits
the line. -/
theorem responseIsValid_of_receipt {body : Confirmation τ} {completed : Bool}
    (hshares : HasShares body receipt) (hpositive : 0 < body.quantity)
    (hposted : PostedFor receipt posted)
    (hresponse : mapConfirmationResult (receiptResult changed receipt completed posted)
      body.disposition body.quantity = .ok response)
    (hcompleted : completed = true → response.remainingQuantity = 0) :
    responseIsValid response = true := by
  obtain ⟨loadStatus, hloadStatus, hmapped⟩ := except_bind_ok.mp hresponse
  cases hmapped
  have hrows := rows_of_shares hshares hpositive hposted
  have hstatus := inventoryStatus_of_shares hshares hpositive
  refine Bool.and_eq_true _ _ ▸ ⟨Bool.and_eq_true _ _ ▸ ⟨?_, ?_⟩, ?_⟩
  · exact optionalIds_positive posted
  · unfold inventoryShapeIsValid
    cases body with
    | received =>
      obtain ⟨rows, rfl⟩ := hrows
      change (receipt.inventoryStatus == some .available) = true
      rw [hstatus]
      rfl
    | quarantined =>
      obtain ⟨rows, -, rfl⟩ := hrows
      change (receipt.inventoryStatus == some .quarantine) = true
      rw [hstatus]
      rfl
    | rejected | missing =>
      cases hrows
      change receipt.inventoryStatus.isNone = true
      rw [hstatus]
      rfl
  · unfold completionIsValid
    cases completed with
    | false =>
      cases hloadStatus
      rfl
    | true =>
      cases hloadStatus
      have hzero := hcompleted rfl
      rw [hzero]
      rfl

/-- The answer to a receipt that is executed. -/
theorem accepted_of_receive {body : Confirmation τ} (hshares : HasShares body scanned.receipt)
    (hpositive : 0 < body.quantity) (hfind : s.lines.find? line.id = some line)
    (h : receive around context load line item scanned s = .ok (result, s'))
    (hresponse : mapConfirmationResult result body.disposition body.quantity = .ok response) :
    Accepted line body response := by
  obtain ⟨receipt, changed, posted, hreceipt, hchanged, hposted, rfl, -⟩ := receive_ok h
  obtain ⟨locationId, rfl⟩ := checkDockScan_ok hreceipt
  replace hshares := hshares.withLocation locationId
  obtain ⟨hid, hload, -, hquantities, hstatus⟩ := receivedLine_ok hchanged
  obtain ⟨_, hreceived, hrejected, hmissing⟩ := cumulativeQuantities_ok hquantities
  rw [hshares.received] at hreceived
  rw [hshares.rejected] at hrejected
  rw [hshares.missing] at hmissing
  have hclosed : receiveCompleted (s.withLine changed) line.loadId = true →
      changed.quantities.expected - (changed.quantities.received + changed.quantities.rejected +
        changed.quantities.missing) = 0 := by
    intro hcompleted
    have hopen := closed_of_completed hfind hid hload hcompleted
    rw [hstatus] at hopen
    have hless := mt isOpen_of_less (Bool.not_eq_true _ ▸ hopen)
    have hresolved := changed.quantities.resolved
    omega
  obtain ⟨loadStatus, _, hmapped⟩ := except_bind_ok.mp hresponse
  cases hmapped
  have hresolved := changed.quantities.resolved
  refine ⟨hload, hid, rfl, rfl, hpositive, hreceived, hrejected, hmissing, ?_, ?_, hclosed, ?_⟩
  · change changed.quantities.received + changed.quantities.rejected +
      changed.quantities.missing + (changed.quantities.expected -
        (changed.quantities.received + changed.quantities.rejected +
          changed.quantities.missing)) = _
    omega
  · change 0 ≤ changed.quantities.expected - (changed.quantities.received +
      changed.quantities.rejected + changed.quantities.missing)
    omega
  · exact responseIsValid_of_receipt hshares hpositive (postGoods_ok hposted) hresponse hclosed

/-- A confirmation that is taken: the rows are there for the caller, and the answer was stored or
the receipt is executed. -/
theorem execute_ok (h : executeExpectedReceipt around context lineId scanned s = .ok (result, s')) :
    ∃ line load item, s.lines.find? lineId = some line ∧ s.loads.find? line.loadId = some load ∧
      s.items.find? line.itemId = some item ∧
      (context.scope.includesInventoryOwner load.inventoryOwnerId = true ∧
        context.scope.includesFacility load.facilityId = true) ∧
      (replayed s.results context (lineId, scanned) = .ok (some result) ∧ s' = s ∨
        replayed s.results context (lineId, scanned) = .ok none ∧
          receive around context load line item scanned s = .ok (result, s')) := by
  unfold executeExpectedReceipt at h
  rw [gets_bind] at h
  obtain ⟨line, hline, h⟩ := orFail_bind_ok.mp h
  obtain ⟨load, hload, h⟩ := orFail_bind_ok.mp h
  obtain ⟨item, hitem, h⟩ := orFail_bind_ok.mp h
  obtain ⟨hscope, h⟩ := ensure_bind_ok.mp h
  obtain ⟨stored, hstored, h⟩ := lift_bind_ok.mp h
  refine ⟨line, load, item, hline, hload, hitem, hscope, ?_⟩
  cases stored with
  | some =>
    cases h
    exact .inl ⟨hstored, rfl⟩
  | none => exact .inr ⟨hstored, h⟩

/-- A confirmation with a stored answer. -/
theorem execute_of_replayed (hline : s.lines.find? lineId = some line)
    (hload : s.loads.find? line.loadId = some load) (hitem : s.items.find? line.itemId = some item)
    (hscope : context.scope.includesInventoryOwner load.inventoryOwnerId = true ∧
      context.scope.includesFacility load.facilityId = true)
    (hstored : replayed s.results context (lineId, scanned) = .ok (some result)) :
    executeExpectedReceipt around context lineId scanned s = .ok (result, s) := by
  unfold executeExpectedReceipt
  rw [gets_bind]
  refine orFail_bind_ok.mpr ⟨line, hline, orFail_bind_ok.mpr ⟨load, hload, ?_⟩⟩
  refine orFail_bind_ok.mpr ⟨item, hitem, ensure_bind_ok.mpr ⟨hscope, ?_⟩⟩
  exact lift_bind_ok.mpr ⟨some result, hstored, rfl⟩

theorem find?_withLine (hfind : s.lines.find? line.id = some line) (hid : changed.id = line.id) :
    (s.withLine changed).lines.find? line.id = some changed := by
  unfold Tables.withLine rewriteRow
  rw [hid, find?_updateWhere_key hfind, if_pos rfl]
  unfold replaceLine
  rw [if_pos hid.symm]

theorem find?_withLoad (hfind : s.loads.find? line.loadId = some load) :
    (s.withLoad line.loadId).loads.find? line.loadId =
      some (receivedLoad (receiveCompleted s line.loadId) load) := by
  unfold Tables.withLoad rewriteRow
  rw [find?_updateWhere_key hfind, if_pos rfl]

/-- A confirmation that is sent again gets the same answer, and nothing happens. -/
theorem execute_again
    (h : executeExpectedReceipt around context lineId scanned s = .ok (result, s')) :
    executeExpectedReceipt around context lineId scanned s' = .ok (result, s') := by
  obtain ⟨line, load, item, hline, hload, hitem, hscope, ⟨-, rfl⟩ | ⟨-, hreceive⟩⟩ :=
    execute_ok h
  · exact h
  · obtain rfl := key_of_find? hline
    obtain ⟨receipt, changed, posted, -, hchanged, -, -, results, hresults, rfl⟩ :=
      receive_ok hreceive
    obtain ⟨hid, hloadId, hitemId, -, -⟩ := receivedLine_ok hchanged
    have hloadAfter : ((s.withLine changed).withLoad line.loadId).loads.find? changed.loadId =
        some (receivedLoad (receiveCompleted (s.withLine changed) line.loadId) load) := by
      rw [hloadId]
      exact find?_withLoad hload
    have hitemAfter : s.items.find? changed.itemId = some item := by
      rw [hitemId]
      exact hitem
    refine execute_of_replayed (find?_withLine hline hid) hloadAfter hitemAfter hscope ?_
    refine replayed_eq_some.mpr ?_
    exact (find?_insert hresults _).trans (if_pos rfl)

section

variable (h : confirm around context lineId body s = .ok (response, s'))
include h

/-- A confirmation that the server takes. -/
theorem confirm_ok :
    0 < lineId ∧ validateConfirmation body = .ok () ∧
      ∃ command scanned result, mapConfirmation around body = .ok command ∧
        validateScannerCommand command = .ok scanned ∧
        executeExpectedReceipt around context lineId scanned s = .ok (result, s') ∧
        mapConfirmationResult result body.disposition body.quantity = .ok response := by
  unfold confirm at h
  obtain ⟨hpositive, h⟩ := ensure_bind_ok.mp h
  obtain ⟨_, hvalid, h⟩ := lift_bind_ok.mp h
  obtain ⟨command, hcommand, h⟩ := lift_bind_ok.mp h
  obtain ⟨result, mid, hconfirm, h⟩ := bind_ok.mp h
  obtain ⟨hresponse, rfl⟩ := lift_ok.mp h
  unfold confirmExpectedReceipt at hconfirm
  obtain ⟨-, hconfirm⟩ := ensure_bind_ok.mp hconfirm
  obtain ⟨scanned, hscanned, hexecute⟩ := lift_bind_ok.mp hconfirm
  exact ⟨hpositive, hvalid, command, scanned, result, hcommand, hscanned, hexecute, hresponse⟩

/-- The answer to a confirmation that was not sent before. -/
theorem accepted_of_confirm (hline : s.lines.find? lineId = some line)
    (hfresh : s.results.find? context.idempotencyKey = none) : Accepted line body response := by
  obtain ⟨-, -, command, scanned, result, hcommand, hscanned, hexecute, hresponse⟩ := confirm_ok h
  obtain ⟨hdisposition, hquantity⟩ := mapConfirmation_ok hcommand
  obtain ⟨hshares, hpositive⟩ := validateScannerCommand_ok hscanned
  obtain ⟨found, load, item, hfound, -, -, -, ⟨hstored, -⟩ | ⟨-, hreceive⟩⟩ := execute_ok hexecute
  · rw [replayed_eq_some, hfresh] at hstored
    cases hstored
  · cases hline.symm.trans hfound
    obtain rfl := key_of_find? hline
    rw [hquantity] at hpositive
    exact accepted_of_receive (hshares.congr hdisposition hquantity) hpositive hline hreceive
      hresponse

/-- A request that is sent again gets the same answer, and nothing happens. -/
theorem confirm_again : confirm around context lineId body s' = .ok (response, s') := by
  obtain ⟨hpositive, hvalid, command, scanned, result, hcommand, hscanned, hexecute, hresponse⟩ :=
    confirm_ok h
  unfold confirm
  refine ensure_bind_ok.mpr ⟨hpositive, lift_bind_ok.mpr ⟨(), hvalid, ?_⟩⟩
  refine lift_bind_ok.mpr ⟨command, hcommand, bind_ok.mpr ⟨result, s', ?_, ?_⟩⟩
  · unfold confirmExpectedReceipt
    refine ensure_bind_ok.mpr ⟨hpositive, lift_bind_ok.mpr ⟨scanned, hscanned, ?_⟩⟩
    exact execute_again hexecute
  · exact lift_ok.mpr ⟨hresponse, rfl⟩

end

end Execution

variable {shown : ExpectedReceiptLine}

section Device

variable {around : Surroundings} {context : CommandContext} {s s' : Tables} {line : LoadLine}
  {intent : ConfirmationIntent} {response : ExpectedReceiptConfirmationResponse}
  {result : ConfirmationResult} {r : ReceivingReducer} {active : ActiveSession}

/-- Nobody touched the line since the device read it. -/
structure Mirrors (line : LoadLine) (loadId : LoadId) (shown : ExpectedReceiptLine) : Prop where
  id : line.id = shown.loadLineId.value
  loadId : line.loadId = loadId.value
  /-- How many units are expected. -/
  expected : line.quantities.expected = shown.expected.value
  received : line.quantities.received = shown.received.value
  rejected : line.quantities.rejected = shown.rejected.value
  missing : line.quantities.missing = shown.missing.value

theorem mapExpectedReceiptCommand_disposition (command : ExpectedReceiptCommand) :
    (mapExpectedReceiptCommand command).disposition = command.disposition := by
  cases command <;> rfl

theorem shares_nonNegative {τ : Type} {body : Confirmation τ} (hpositive : 0 < body.quantity) :
    0 ≤ share body .received ∧ 0 ≤ share body .rejected ∧ 0 ≤ share body .missing := by
  have hshare : ∀ total, 0 ≤ share body total := by
    intro total
    unfold share
    split_ifs
    · exact hpositive.le
    · exact le_rfl
  exact ⟨hshare _, hshare _, hshare _⟩

/-- What the device reads in an answer of the server. -/
structure Reads (response : ExpectedReceiptConfirmationResponse) (result : ConfirmationResult) :
    Prop where
  loadId : result.loadId.value = response.loadId
  loadLineId : result.loadLineId.value = response.loadLineId
  disposition : result.disposition = response.disposition
  quantity : result.quantity.value = response.quantity
  received : result.cumulativeReceived.value = response.cumulativeReceivedQuantity
  rejected : result.cumulativeRejected.value = response.cumulativeRejectedQuantity
  missing : result.cumulativeMissing.value = response.cumulativeMissingQuantity
  remaining : result.remaining.value = response.remainingQuantity
  /-- No line of the load is open. -/
  completed : result.receiveCompleted = response.receiveCompleted

variable {loadId : LoadId}

/-- The device can read every answer to its commands. -/
theorem decode_of_accepted (h : Accepted line body response) (hmirror : Mirrors line loadId shown) :
    ∃ result, decodeConfirmation response = some result ∧ Reads response result := by
  have hids : 0 < response.loadId ∧ 0 < response.loadLineId ∧ 0 < response.quantity := by
    refine ⟨?_, ?_, ?_⟩
    · rw [h.loadId, hmirror.loadId]
      exact loadId.positive
    · rw [h.loadLineId, hmirror.id]
      exact shown.loadLineId.positive
    · rw [h.quantity]
      exact h.positive
  have htotals : 0 ≤ response.cumulativeReceivedQuantity ∧
      0 ≤ response.cumulativeRejectedQuantity ∧ 0 ≤ response.cumulativeMissingQuantity ∧
      0 ≤ response.remainingQuantity := by
    obtain ⟨_, _, _⟩ := shares_nonNegative h.positive
    obtain ⟨_, _, _⟩ := line.quantities.nonNegative
    rw [h.received, h.rejected, h.missing]
    exact ⟨by omega, by omega, by omega, h.remaining⟩
  unfold decodeConfirmation
  rw [if_pos h.valid, dif_pos hids, dif_pos htotals]
  exact ⟨_, rfl, ⟨rfl, rfl, rfl, rfl, rfl, rfl, rfl, rfl, rfl⟩⟩

theorem checkedAddI64_of_fits {left right : ℤ} (hlower : 0 ≤ left + right)
    (hupper : left + right ≤ maxI64) : checkedAddI64 left right = some (left + right) := by
  refine checkedAddI64_eq_some.mpr ⟨rfl, ?_, hupper⟩
  unfold maxI64
  omega

/-- What the device expects to be added to the totals is what the server adds, but for goods in
quarantine. -/
theorem delta_of_accepted (h : Accepted line body response) (hreads : Reads response result) :
    result.delta .received = share body .received ∧ result.delta .missing = share body .missing ∧
      (result.delta .rejected = share body .rejected ↔ body.disposition ≠ .quarantined) := by
  have hpositive := h.positive
  unfold ConfirmationResult.delta share
  rw [hreads.disposition, h.disposition, hreads.quantity, h.quantity]
  cases body with
  | received | rejected | missing => exact ⟨rfl, rfl, iff_of_true rfl nofun⟩
  | quarantined =>
    refine ⟨rfl, rfl, iff_of_false ?_ (not_not.mpr rfl)⟩
    exact hpositive.ne

section

variable (h : Accepted line body response) (hmirror : Mirrors line loadId shown)
  (hreads : Reads response result)
include h hmirror hreads

/-- The quantities of an answer are valid for the device exactly when the goods are not in
quarantine. -/
theorem validateResultQuantities_of_accepted :
    validateResultQuantities shown result =
      if body.disposition = .quarantined then some .cumulativeQuantityInvalid else none := by
  obtain ⟨hdeltaReceived, hdeltaMissing, hdeltaRejected⟩ := delta_of_accepted h hreads
  obtain ⟨_, _, _⟩ := shares_nonNegative h.positive
  obtain ⟨_, _, _⟩ := line.quantities.nonNegative
  have hexpected := line.quantities.expectedFits.2
  have htotal := h.total
  have hremaining := h.remaining
  rw [h.received, h.rejected, h.missing] at htotal
  have hcumulative :
      ((checkedAddI64 result.cumulativeReceived.value result.cumulativeRejected.value).bind
        fun quantity => checkedAddI64 quantity result.cumulativeMissing.value).bind
        (fun quantity => checkedAddI64 quantity result.remaining.value) =
        some shown.expected.value := by
    rw [hreads.received, hreads.rejected, hreads.missing, hreads.remaining, h.received, h.rejected,
      h.missing, checkedAddI64_of_fits (by omega) (by omega), Option.bind_some,
      checkedAddI64_of_fits (by omega) (by omega), Option.bind_some,
      checkedAddI64_of_fits (by omega) (by omega), ← hmirror.expected, ← htotal]
  have hreceivedTotal : checkedAddI64 shown.received.value (result.delta .received) =
      some result.cumulativeReceived.value := by
    rw [hdeltaReceived, ← hmirror.received, hreads.received, h.received]
    exact checkedAddI64_of_fits (by omega) (by omega)
  have hmissingTotal : checkedAddI64 shown.missing.value (result.delta .missing) =
      some result.cumulativeMissing.value := by
    rw [hdeltaMissing, ← hmirror.missing, hreads.missing, h.missing]
    exact checkedAddI64_of_fits (by omega) (by omega)
  have hcompleted : ¬ (result.receiveCompleted = true ∧ result.remaining.value ≠ 0) := by
    rintro ⟨hdone, hopen⟩
    rw [hreads.completed] at hdone
    rw [hreads.remaining] at hopen
    exact hopen (h.completed hdone)
  unfold validateResultQuantities
  by_cases hquarantine : body.disposition = .quarantined
  · have hrejectedTotal : checkedAddI64 shown.rejected.value (result.delta .rejected) ≠
        some result.cumulativeRejected.value := by
      intro hsame
      have hsum := (checkedAddI64_eq_some.mp hsame).1
      rw [← hmirror.rejected, hreads.rejected, h.rejected] at hsum
      have hshare : result.delta .rejected = share body .rejected := by omega
      exact hdeltaRejected.mp hshare hquarantine
    rw [if_pos (.inr (.inr (.inl hrejectedTotal))), if_pos hquarantine]
  · have hrejectedTotal : checkedAddI64 shown.rejected.value (result.delta .rejected) =
        some result.cumulativeRejected.value := by
      rw [hdeltaRejected.mpr hquarantine, ← hmirror.rejected, hreads.rejected, h.rejected]
      exact checkedAddI64_of_fits (by omega) (by omega)
    rw [if_neg, if_neg hquarantine]
    rintro (hwrong | hwrong | hwrong | hwrong | hwrong)
    · exact hwrong hcumulative
    · exact hwrong hreceivedTotal
    · exact hwrong hrejectedTotal
    · exact hwrong hmissingTotal
    · exact hcompleted hwrong

/-- The totals of a line never go back. -/
theorem applyConfirmation_of_accepted : ∃ next, shown.applyConfirmation result = .ok next := by
  obtain ⟨_, _, _⟩ := shares_nonNegative h.positive
  unfold ExpectedReceiptLine.applyConfirmation
  rw [if_neg]
  · exact ⟨_, rfl⟩
  · rw [hreads.received, hreads.rejected, hreads.missing, h.received, h.rejected, h.missing,
      hmirror.received, hmirror.rejected, hmirror.missing]
    omega

end

/-- An answer names the command that it is for. -/
theorem resultFault_of_accepted
    (h : Accepted line (mapExpectedReceiptCommand intent.command) response)
    (hmirror : Mirrors line intent.loadId intent.recovery.selectedLine)
    (hreads : Reads response result)
    (hlineId : intent.recovery.selectedLine.loadLineId = intent.loadLineId) :
    resultFault intent result = none := by
  have hload : result.loadId = intent.loadId :=
    PositiveId.ext (hreads.loadId.trans (h.loadId.trans hmirror.loadId))
  have hline : result.loadLineId = intent.loadLineId := by
    rw [← hlineId]
    exact PositiveId.ext (hreads.loadLineId.trans (h.loadLineId.trans hmirror.id))
  have hdisposition : result.disposition = intent.command.disposition := by
    rw [hreads.disposition, h.disposition, mapExpectedReceiptCommand_disposition]
  have hquantity : result.quantity = intent.command.quantity := by
    refine PositiveQuantity.ext (hreads.quantity.trans (h.quantity.trans ?_))
    cases intent.command <;> rfl
  unfold resultFault
  rw [if_neg (by rw [not_or, not_not, not_not]; exact ⟨hload, hline⟩),
    if_neg (not_not.mpr hdisposition), if_neg (not_not.mpr hquantity)]

/-- The state after the answer: a supervisor is called for goods in quarantine, and otherwise the
load is complete or the session is read again. -/
theorem activity_of_accepted (hpending : PendingSound active (.expected intent))
    (h : Accepted line (mapExpectedReceiptCommand intent.command) response)
    (hmirror : Mirrors line intent.loadId intent.recovery.selectedLine)
    (hreads : Reads response result) : (r.expectedSucceeded active intent result).1.activity =
      if intent.command.disposition = .quarantined then .reconcileRequired
      else if result.receiveCompleted then .loadComplete else .refreshing := by
  have hlineId := (line_eq_some hpending).2
  have hfault := resultFault_of_accepted h hmirror hreads hlineId
  have hvalid := validateResultQuantities_of_accepted h hmirror hreads
  rw [mapExpectedReceiptCommand_disposition] at hvalid
  have hfound : active.session.line result.loadLineId = some intent.recovery.selectedLine := by
    rw [loadLineId_of_resultFault hfault]
    exact hpending
  obtain ⟨next, hnext⟩ := applyConfirmation_of_accepted h hmirror hreads
  unfold expectedSucceeded confirmedLine
  rw [hfault]
  rw [hfound]
  dsimp only
  rw [hvalid]
  by_cases hquarantine : intent.command.disposition = .quarantined
  · rw [if_pos hquarantine, if_pos hquarantine]
    rfl
  · rw [if_neg hquarantine, if_neg hquarantine]
    rw [hnext]
    split_ifs <;> rfl

/-- The device takes the answer to every confirmation that the server accepts, when nobody touched
the line in between and the goods are not in quarantine. The answer to goods in quarantine calls
for a supervisor. A confirmation that is sent again gets the same answer. -/
theorem device_takes_answer_unless_quarantined (hrun : ReceivingRun .default r) {id : ℕ}
    (hstate : r.state = .confirmationPending active id (.expected intent))
    (hline : s.lines.find? intent.loadLineId.value = some line)
    (hmirror : Mirrors line intent.loadId intent.recovery.selectedLine)
    (hfresh : s.results.find? context.idempotencyKey = none)
    (h : confirm around context intent.loadLineId.value
      (mapExpectedReceiptCommand intent.command) s = .ok (response, s')) :
    confirm around context intent.loadLineId.value (mapExpectedReceiptCommand intent.command) s' =
        .ok (response, s') ∧
      ∃ result, decodeConfirmation response = some result ∧
        (r.confirmationSucceeded id (.expected result)).1.activity =
          if intent.command.disposition = .quarantined then .reconcileRequired
          else if result.receiveCompleted then .loadComplete else .refreshing := by
  have hsound := run_sound hrun
  rw [hstate] at hsound
  have haccepted := accepted_of_confirm h hline hfresh
  obtain ⟨result, hresult, hreads⟩ := decode_of_accepted haccepted hmirror
  refine ⟨confirm_again h, result, hresult, ?_⟩
  unfold confirmationSucceeded
  rw [hstate]
  dsimp only
  rw [if_neg (not_not.mpr rfl)]
  exact activity_of_accepted hsound.2 haccepted hmirror hreads

end Device

section Quarantine

/-- The device asks for a confirmation. -/
def confirmedCalls (calls : List Event) : List Event := calls ++ [.beginConfirmation .allowed]

/-- Four units go to quarantine. -/
def quarantinedCalls : List Event :=
  itemCalls ++ [.selectMode .quarantined, .scanDock "DOCK-1", .setQuantity 4,
    .setExceptionReason .damaged]

/-- The goods of both confirmations. -/
def lotGoods : ReceivedGoods where
  itemBarcode := lotLine.itemBarcodes.head (by decide)
  receivingLocationBarcode := lotSession.dock.barcode
  quantity := ⟨4, lotSession.dock.locationId.positive⟩
  licensePlateBarcode := none
  lot := lotLine.lot
  serial := none
  expiration := none

/-- The session that the device works on. -/
def lotActive (command : ExpectedReceiptCommand) : ActiveSession where
  loadBarcode := lotRecovery.loadBarcode
  session := lotSession
  draft := lotRecovery.draft command
  unloading := .default

/-- The line at the server. -/
def lotRow : LoadLine where
  id := 11
  loadId := 7
  itemId := 5
  quantities := ⟨10, 0, 0, 0, by decide, by decide, by decide⟩
  lot := some "LOT-1"
  serial := none
  expiration := none
  status := .pending

/-- The tables of the server. -/
def lotTables : Tables where
  loads := ⟨[⟨7, 2, 3, .receiving, .inbound, some 4, false⟩], by decide⟩
  lines := ⟨[lotRow], by decide⟩
  items := ⟨[⟨5, true, ["SKU-1"]⟩], by decide⟩
  locations := ⟨[⟨4, 3, some "DOCK-1", true, true⟩], by decide⟩
  customerReturnLoads := []
  activeOwnerFacilities := [(2, 3)]
  results := .empty

/-- An inventory that takes all goods. -/
def lotSurroundings : Surroundings where
  parseInstant := fun _ => none
  lower := fun text => String.ofList (text.toList.map RustText.toAsciiLowercase)
  post := fun _ _ => .ok ⟨none, ⟨31, by decide⟩, ⟨32, by decide⟩, ⟨33, by decide⟩⟩
  placeHold := fun _ _ _ => .ok ⟨34, by decide⟩

/-- The operator's command. -/
def lotContext : CommandContext := ⟨9, ⟨true, [], true, []⟩, "key-1"⟩

theorem lot_mirrors (command : ExpectedReceiptCommand) :
    Mirrors lotRow (lotIntent command).loadId (lotIntent command).recovery.selectedLine :=
  ⟨rfl, rfl, rfl, rfl, rfl, rfl⟩

/-- The answer of the server to a command for the line. -/
def lotAnswer (command : ExpectedReceiptCommand) : Option ExpectedReceiptConfirmationResponse :=
  ((confirm lotSurroundings lotContext 11 (mapExpectedReceiptCommand command)
    lotTables).toOption).map Prod.fst

/-- An answer is the end of a confirmation. -/
theorem confirm_of_lotAnswer {command : ExpectedReceiptCommand}
    {response : ExpectedReceiptConfirmationResponse} (h : lotAnswer command = some response) :
    ∃ s', confirm lotSurroundings lotContext 11 (mapExpectedReceiptCommand command) lotTables =
      .ok (response, s') := by
  unfold lotAnswer at h
  obtain ⟨⟨found, s'⟩, hfound, rfl⟩ := Option.map_eq_some_iff.mp h
  refine ⟨s', ?_⟩
  cases hconfirm : confirm lotSurroundings lotContext 11 (mapExpectedReceiptCommand command)
      lotTables with
  | error halt =>
    rw [hconfirm] at hfound
    cases hfound
  | ok pair =>
    rw [hconfirm] at hfound
    cases hfound
    rfl

/-- The answer to four units that were received. -/
def receivedResponse : ExpectedReceiptConfirmationResponse where
  loadId := 7
  loadLineId := 11
  disposition := .received
  quantity := 4
  inventoryTransactionId := some 32
  inventoryBalanceId := some 33
  itemBatchId := some 31
  licensePlateId := none
  inventoryHoldId := none
  inventoryStatus := some .available
  lineStatus := .partially
  loadStatus := .receiving
  cumulativeReceivedQuantity := 4
  cumulativeRejectedQuantity := 0
  cumulativeMissingQuantity := 0
  remainingQuantity := 6
  receiveCompleted := false

/-- The answer to four units in quarantine. -/
def quarantinedResponse : ExpectedReceiptConfirmationResponse :=
  { receivedResponse with
    disposition := .quarantined
    inventoryHoldId := some 34
    inventoryStatus := some .quarantine
    cumulativeReceivedQuantity := 0
    cumulativeRejectedQuantity := 4 }

/-- The device reads its session again after four units were received. -/
theorem received_answer_is_taken :
    lotAnswer (.received lotGoods) = some receivedResponse ∧
      ∃ result, decodeConfirmation receivedResponse = some result ∧
        ((afterCalls (confirmedCalls receivedCalls)).confirmationSucceeded 2
          (.expected result)).1.activity =
            if result.receiveCompleted then .loadComplete else .refreshing := by
  have hanswer : lotAnswer (.received lotGoods) = some receivedResponse := by decide +kernel
  obtain ⟨s', hconfirm⟩ := confirm_of_lotAnswer hanswer
  have hrun : ReceivingRun .default (afterCalls (confirmedCalls receivedCalls)) :=
    run_replay_any _ _
  have hstate : (afterCalls (confirmedCalls receivedCalls)).state = .confirmationPending
      (lotActive (.received lotGoods)) 2 (.expected (lotIntent (.received lotGoods))) := by
    decide +kernel
  obtain ⟨-, result, hresult, hactivity⟩ := device_takes_answer_unless_quarantined hrun hstate
    (by rfl) (lot_mirrors (.received lotGoods)) (by rfl) hconfirm
  exact ⟨hanswer, result, hresult, hactivity⟩

/-- Four units go to quarantine, the server accepts them, and its answer sends the device to a
supervisor. -/
theorem quarantine_needs_supervisor :
    ReceivingRun .default (afterCalls (confirmedCalls quarantinedCalls)) ∧
      (afterCalls (confirmedCalls quarantinedCalls)).state = .confirmationPending
        (lotActive (.quarantined lotGoods .damaged none)) 2
        (.expected (lotIntent (.quarantined lotGoods .damaged none))) ∧
      lotAnswer (.quarantined lotGoods .damaged none) = some quarantinedResponse ∧
      ((decodeConfirmation quarantinedResponse).map fun result =>
        ((afterCalls (confirmedCalls quarantinedCalls)).confirmationSucceeded 2
          (.expected result)).1.state) = some (.reconcileRequired .cumulativeQuantityInvalid) := by
  exact ⟨run_replay_any _ _, by decide +kernel, by decide +kernel, by decide +kernel⟩

end Quarantine

end Wareboxes.ReceiptQuantities
