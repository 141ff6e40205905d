import Wareboxes.LabelledRuns
import Wareboxes.RfReceivingTypes

/-!
# The expected receiving workflow

`ExpectedReceivingReducer` goes from the barcode of a load to its session, collects the
draft of a confirmation from scans and fields, and asks for a command to be kept with
the intent that describes it. The result of the command closes the load or asks for a
new session. A restarted device starts from the intent instead of the session: the
reducer is then where it was when it asked for the command, as far as the intent knows.
-/

namespace Wareboxes.RfReceiving

open LabelledRuns

/-- `ReceivingEffect`. -/
inductive ReceivingEffect where
  /-- Ask the server for the session of a load. -/
  | resolveLoad (resolutionId : ℕ) (barcode : LoadBarcode)
  /-- Keep a command and send it. -/
  | persistConfirmation (confirmationId : ℕ) (intent : ReceivingCommandIntent)
  /-- Ask the server for the session again. -/
  | refreshSession (refreshId : ℕ) (loadId : LoadId)
  deriving DecidableEq

/-- `ReceivingActivity`. -/
inductive ReceivingActivity where
  | awaitingLoad | resolvingLoad | loadResolutionFailed | active | confirmationPending
  | refreshing | refreshFailed | loadComplete | reconcileRequired

/-- `ScannerTarget`. -/
inductive ScannerTarget where
  | loadBarcode | itemBarcode | dockBarcode | sealBarcode | licensePlateBarcode

/-- `CommandAccessBlock`. -/
inductive CommandAccessBlock where
  | signedOut | offline | savedCommandPending | serverStateUnverified
  deriving DecidableEq

/-- `CommandAccess`. -/
inductive CommandAccess where
  | allowed
  | blocked (reason : CommandAccessBlock)

/-- `ActionBlockReason`. -/
inductive ActionBlockReason where
  | device (reason : CommandAccessBlock)
  | noActiveSession | noSelectedLine | itemScanRequired | dockScanRequired | sealScanRequired
  | quantityRequired | licensePlateScanRequired | exceptionReasonRequired
  | exceptionNoteRequired | quantityExceedsRemaining | workflowBusy | loadComplete
  | reconciliationRequired
  deriving DecidableEq

/-- `ActionGuard`. -/
inductive ActionGuard where
  | allowed
  | blocked (reason : ActionBlockReason)
  deriving DecidableEq

/-- `ReceivingOperatorError`. -/
inductive ReceivingOperatorError where
  | invalidScan | itemNotExpected
  | itemMatchesMultipleLines (lineIds : List LoadLineId)
  | lineNotOpen | itemDoesNotMatchLine | wrongReceivingDock | wrongSeal | invalidQuantity
  | quantityExceedsRemaining | dimensionDoesNotMatchExpected | loadNotFound | loadNotReady
  | connectionUnavailable | confirmationRejected | unloadingStartRejected
  deriving DecidableEq

/-- `LoadResolutionFailure`. -/
inductive LoadResolutionFailure where
  | notFound | notReady | retryable | invalidResponse

/-- `ConfirmationFailure`. -/
inductive ConfirmationFailure where
  | rejected | commandStillPending | invalidResponse

/-- `RefreshFailure`. -/
inductive RefreshFailure where
  | retryable | notFoundOrConflict | invalidResponse

/-- `State`. -/
inductive State where
  | awaitingLoad
  /-- The server is asked for the session of a load. -/
  | resolvingLoad (resolutionId : ℕ) (barcode : LoadBarcode)
  /-- There is no session of the load. -/
  | loadResolutionFailed (barcode : LoadBarcode)
  /-- The operator works on a load. -/
  | active (active : ActiveSession)
  /-- A command is under way. -/
  | confirmationPending (active : ActiveSession) (confirmationId : ℕ)
      (intent : ReceivingCommandIntent)
  /-- The server is asked for the session again. -/
  | refreshing (active : ActiveSession) (refreshId : ℕ) (summary : ConfirmationResult)
  /-- The session did not come. -/
  | refreshFailed (active : ActiveSession) (summary : ConfirmationResult)
  /-- All lines of the load are closed. -/
  | loadComplete (summary : ConfirmationResult)
  /-- A supervisor has to look at the device. -/
  | reconcileRequired (reason : ReconciliationReason)
  deriving DecidableEq

/-- `ReceivingTransition`. -/
inductive ReceivingTransition where
  | applied
  /-- The call does not fit the state. -/
  | ignored
  /-- Something is to be done. -/
  | effect (requested : ReceivingEffect)
  /-- The call is not possible now. -/
  | blocked (reason : ActionBlockReason)
  /-- A supervisor has to look at the device. -/
  | reconciliationRequired (reason : ReconciliationReason)
  deriving DecidableEq

/-- `select_line`. -/
def ActiveSession.selectLine (lineId : LoadLineId) (barcode : Option ItemBarcode)
    (active : ActiveSession) : ActiveSession :=
  match active.session.line lineId with
  | none => active
  | some line =>
    { active with
      draft :=
        { ConfirmationDraft.default with
          selectedLineId := some lineId
          itemBarcode := barcode
          lot := line.lot
          serial := line.serial
          expiration := line.expiration } }

/-- The line of the draft. -/
def ActiveSession.selectedLine (active : ActiveSession) : Option ExpectedReceiptLine :=
  active.draft.selectedLineId.bind fun lineId => active.session.line lineId

/-- The scan that the draft lacks, when the next thing is a scan: `focus_for_draft`. -/
def ActiveSession.scannerTarget (active : ActiveSession) : Option ScannerTarget :=
  let draft := active.draft
  if active.session.status = .arrived then
    if active.unloading.dockScan.isNone then some .dockBarcode
    else if active.session.expectedSeal.isSome && active.unloading.sealScan.isNone then
      some .sealBarcode
    else none
  else if draft.mode ≠ .unexpected ∧ draft.selectedLineId.isNone then some .itemBarcode
  else if draft.mode ≠ .missing ∧ draft.itemBarcode.isNone then some .itemBarcode
  else if draft.mode.isPhysical then
    if draft.dockBarcode.isNone then some .dockBarcode
    else if draft.containerCapture = .licensePlate ∧ draft.licensePlateBarcode.isNone then
      some .licensePlateBarcode
    else none
  else none

/-- The first part of `guard_for_draft`: the line and the quantity. -/
def ActiveSession.quantityFault (active : ActiveSession) : Option ActionBlockReason :=
  if active.draft.mode = .unexpected then
    if active.draft.quantity.isNone then some .quantityRequired else none
  else match active.selectedLine with
    | none => some .noSelectedLine
    | some line =>
      match active.draft.quantity with
      | none => some .quantityRequired
      | some quantity =>
        if line.remaining.value < quantity.value then some .quantityExceedsRemaining else none

/-- The second part of `guard_for_draft`: the scans and the reason that the mode needs. -/
def ConfirmationDraft.modeFault (draft : ConfirmationDraft) : Option ActionBlockReason :=
  match draft.mode with
  | .received | .quarantined | .unexpected =>
    if draft.itemBarcode.isNone then some .itemScanRequired
    else if draft.dockBarcode.isNone then some .dockScanRequired
    else if draft.containerCapture = .licensePlate ∧ draft.licensePlateBarcode.isNone then
      some .licensePlateScanRequired
    else none
  | .rejected =>
    if draft.itemBarcode.isNone then some .itemScanRequired
    else if draft.exceptionReason.isNone then some .exceptionReasonRequired
    else none
  | .missing => if draft.exceptionReason.isNone then some .exceptionReasonRequired else none

/-- The last part of `guard_for_draft`: the reasons and the note. -/
def ConfirmationDraft.reasonFault (draft : ConfirmationDraft) : Option ActionBlockReason :=
  if draft.mode = .quarantined ∧
      (draft.exceptionReason.bind ReceiptQuarantineReason.fromException).isNone then
    some .exceptionReasonRequired
  else if draft.exceptionReason = some .other ∧ draft.exceptionNote.isNone then
    some .exceptionNoteRequired
  else if draft.mode = .unexpected then
    match draft.unexpectedReason with
    | none => some .exceptionReasonRequired
    | some reason =>
      if reason = .other ∧ draft.exceptionNote.isNone then some .exceptionNoteRequired else none
  else none

/-- `guard_for_draft`. -/
def ActiveSession.guard (active : ActiveSession) : ActionGuard :=
  match active.quantityFault.or (active.draft.modeFault.or active.draft.reasonFault) with
  | some reason => .blocked reason
  | none => .allowed

/-- The command of a draft for an expected line. -/
def ConfirmationDraft.command (draft : ConfirmationDraft) : Option ExpectedReceiptCommand :=
  match draft.mode with
  | .received => draft.goods.map .received
  | .quarantined => do
    let goods ← draft.goods
    let reason ← draft.exceptionReason.bind ReceiptQuarantineReason.fromException
    return .quarantined goods reason draft.exceptionNote
  | .rejected => do
    let itemBarcode ← draft.itemBarcode
    let quantity ← draft.quantity
    let reason ← draft.exceptionReason
    return .rejected itemBarcode quantity reason draft.exceptionNote
  | .missing => do
    let quantity ← draft.quantity
    let reason ← draft.exceptionReason
    return .missing quantity reason draft.exceptionNote
  | .unexpected => none

/-- `intent_for_draft`. -/
def ActiveSession.intent (active : ActiveSession) : Option ReceivingCommandIntent :=
  if active.guard ≠ .allowed then none
  else if active.draft.mode = .unexpected then
    (UnexpectedReceiptIntent.capture active).map .unexpected
  else do
    let lineId ← active.draft.selectedLineId
    let command ← active.draft.command
    let recovery ← ConfirmationRecoverySnapshot.capture active lineId
    (ConfirmationIntent.tryNew recovery command).map .expected

/-- `ExpectedReceivingReducer`. -/
structure ReceivingReducer where
  state : State
  nextCorrelationId : ℕ
  /-- What the operator is told went wrong. -/
  operatorError : Option ReceivingOperatorError
  lastConfirmation : Option ConfirmationResult
  deriving DecidableEq

namespace ReceivingReducer

/-- The reducer after a call, with the answer of the call. -/
abbrev Reduction := ReceivingReducer × ReceivingTransition

/-- `ExpectedReceivingReducer::default`. -/
def default : ReceivingReducer := ⟨.awaitingLoad, 1, none, none⟩

/-- `activity`. -/
def activity (r : ReceivingReducer) : ReceivingActivity :=
  match r.state with
  | .awaitingLoad => .awaitingLoad
  | .resolvingLoad .. => .resolvingLoad
  | .loadResolutionFailed _ => .loadResolutionFailed
  | .active _ => .active
  | .confirmationPending .. => .confirmationPending
  | .refreshing .. => .refreshing
  | .refreshFailed .. => .refreshFailed
  | .loadComplete _ => .loadComplete
  | .reconcileRequired _ => .reconcileRequired

/-- `next_id`, without the number itself: the counter stops at the largest `u64`. -/
def nextId (r : ReceivingReducer) : ℕ := min (r.nextCorrelationId + 1) (2 ^ 64 - 1)

/-- `set_operator_error`. -/
def setOperatorError (error : ReceivingOperatorError) (r : ReceivingReducer) : Reduction :=
  ({ r with operatorError := some error }, .applied)

/-- `reconcile`. -/
def reconcile (reason : ReconciliationReason) (r : ReceivingReducer) : Reduction :=
  ({ r with state := .reconcileRequired reason, operatorError := none },
    .reconciliationRequired reason)

/-- The reducer works on a session and nothing went wrong. -/
def work (active : ActiveSession) (r : ReceivingReducer) : Reduction :=
  ({ r with state := .active active, operatorError := none }, .applied)

/-- The reducer works on a session, and what the operator is told stays. -/
def keep (active : ActiveSession) (r : ReceivingReducer) : Reduction :=
  ({ r with state := .active active }, .applied)

/-- `active_mut`. -/
def activeMut (r : ReceivingReducer) : Option ActiveSession :=
  match r.state with
  | .active active => some active
  | _ => none

/-- The server is asked for the session of a load. -/
def resolve (barcode : LoadBarcode) (r : ReceivingReducer) : Reduction :=
  ({ r with
      state := .resolvingLoad r.nextCorrelationId barcode
      nextCorrelationId := r.nextId
      operatorError := none },
    .effect (.resolveLoad r.nextCorrelationId barcode))

/-- `scan_load`. -/
def scanLoad (value : String) (r : ReceivingReducer) : Reduction :=
  match r.state with
  | .awaitingLoad | .loadResolutionFailed _ | .loadComplete _ =>
    match LoadBarcode.new value with
    | none => r.setOperatorError .invalidScan
    | some barcode => r.resolve barcode
  | _ => (r, .blocked .workflowBusy)

/-- `retry_load_resolution`. -/
def retryLoadResolution (r : ReceivingReducer) : Reduction :=
  match r.state with
  | .loadResolutionFailed barcode => r.resolve barcode
  | _ => (r, .ignored)

/-- `load_resolved`. -/
def loadResolved (resolutionId : ℕ) (sent : SentSession) (r : ReceivingReducer) : Reduction :=
  match r.state with
  | .resolvingLoad expected barcode =>
    if expected ≠ resolutionId then (r, .ignored)
    else r.work ⟨barcode, sent.session, .default, .default⟩
  | _ => (r, .ignored)

/-- What the operator is told when there is no session of a load. -/
def resolutionError : LoadResolutionFailure → Option ReceivingOperatorError
  | .notFound => some .loadNotFound
  | .notReady => some .loadNotReady
  | .retryable => some .connectionUnavailable
  | .invalidResponse => none

/-- `load_resolution_failed`. -/
def loadResolutionFailed (resolutionId : ℕ) (failure : LoadResolutionFailure)
    (r : ReceivingReducer) : Reduction :=
  match r.state with
  | .resolvingLoad expected barcode =>
    if expected ≠ resolutionId then (r, .ignored)
    else match resolutionError failure with
      | none => r.reconcile .invalidServerState
      | some error =>
        ({ r with state := .loadResolutionFailed barcode, operatorError := some error },
          .applied)
  | _ => (r, .ignored)

/-- `scan_item`. -/
def scanItem (value : String) (r : ReceivingReducer) : Reduction :=
  match (ValidatedText.new value : Option ItemBarcode) with
  | none => r.setOperatorError .invalidScan
  | some barcode =>
    match r.activeMut with
    | none => (r, .blocked .noActiveSession)
    | some active =>
      let unselected : ActiveSession :=
        { active with
          draft := { active.draft with selectedLineId := none, itemBarcode := some barcode } }
      if active.draft.mode = .unexpected then r.work unselected
      else match (active.session.lines.filter fun line => line.accepts barcode).map
          ExpectedReceiptLine.loadLineId with
        | [] => r.setOperatorError .itemNotExpected
        | [lineId] => r.work (active.selectLine lineId (some barcode))
        | lineIds =>
          ({ r with
              state := .active unselected
              operatorError := some (.itemMatchesMultipleLines lineIds) },
            .applied)

/-- `select_line`. -/
def selectLine (lineId : LoadLineId) (r : ReceivingReducer) : Reduction :=
  match r.activeMut with
  | none => (r, .blocked .noActiveSession)
  | some active =>
    match active.session.line lineId with
    | none => r.setOperatorError .lineNotOpen
    | some line =>
      if active.draft.itemBarcode.any fun barcode => !line.accepts barcode then
        r.setOperatorError .itemDoesNotMatchLine
      else r.work (active.selectLine lineId active.draft.itemBarcode)

/-- The draft in another mode. -/
def draftInMode (mode : ConfirmationMode) (draft : ConfirmationDraft) : ConfirmationDraft :=
  let changed : ConfirmationDraft :=
    { draft with
      mode
      exceptionReason := none
      exceptionNote := none
      unexpectedReason := none }
  if mode = .unexpected then
    { changed with
      selectedLineId := none
      itemBarcode := none
      dockBarcode := none
      quantity := some ⟨1, by decide⟩
      lot := none
      serial := none
      expiration := none }
  else changed

/-- `select_mode`. -/
def selectMode (mode : ConfirmationMode) (r : ReceivingReducer) : Reduction :=
  match r.activeMut with
  | none => (r, .blocked .noActiveSession)
  | some active => r.work { active with draft := draftInMode mode active.draft }

/-- `scan_dock`. -/
def scanDock (value : String) (r : ReceivingReducer) : Reduction :=
  match (ValidatedText.new value : Option DockBarcode) with
  | none => r.setOperatorError .invalidScan
  | some barcode =>
    match r.activeMut with
    | none => (r, .blocked .noActiveSession)
    | some active =>
      if active.session.status = .arrived then
        if barcode ≠ active.session.dock.barcode then r.setOperatorError .wrongReceivingDock
        else r.work
          { active with unloading := { active.unloading with dockScan := some barcode } }
      else if active.draft.mode ≠ .unexpected ∧ active.draft.selectedLineId.isNone then
        (r, .blocked .noSelectedLine)
      else if active.draft.mode.isPhysical = false then (r, .blocked .workflowBusy)
      else if barcode ≠ active.session.dock.barcode then r.setOperatorError .wrongReceivingDock
      else r.work { active with draft := { active.draft with dockBarcode := some barcode } }

/-- `scan_unloading_seal`. -/
def scanUnloadingSeal (value : String) (r : ReceivingReducer) : Reduction :=
  match (ValidatedText.new value : Option SealBarcode) with
  | none => r.setOperatorError .invalidScan
  | some scanned =>
    match r.activeMut with
    | none => (r, .blocked .noActiveSession)
    | some active =>
      if active.session.status ≠ .arrived ∨ active.unloading.dockScan.isNone then
        (r, .blocked .workflowBusy)
      else if active.session.expectedSeal ≠ some scanned then r.setOperatorError .wrongSeal
      else r.work
        { active with unloading := { active.unloading with sealScan := some scanned } }

/-- `set_quantity`. -/
def setQuantity (quantity : ℤ) (r : ReceivingReducer) : Reduction :=
  match PositiveQuantity.tryFrom quantity with
  | none => r.setOperatorError .invalidQuantity
  | some quantity =>
    match r.activeMut with
    | none => (r, .blocked .noActiveSession)
    | some active =>
      let entered : ActiveSession :=
        { active with draft := { active.draft with quantity := some quantity } }
      if active.draft.mode = .unexpected then r.work entered
      else match active.selectedLine with
        | none => (r, .blocked .noSelectedLine)
        | some line =>
          if line.remaining.value < quantity.value then
            r.setOperatorError .quantityExceedsRemaining
          else r.work entered

/-- `set_container_capture`. -/
def setContainerCapture (capture : ContainerCapture) (r : ReceivingReducer) : Reduction :=
  match r.activeMut with
  | none => (r, .blocked .noActiveSession)
  | some active =>
    if active.draft.mode.isPhysical = false then (r, .blocked .workflowBusy)
    else r.keep
      { active with
        draft :=
          { active.draft with
            containerCapture := capture
            licensePlateBarcode :=
              if capture = .loose then none else active.draft.licensePlateBarcode } }

/-- `scan_license_plate`. -/
def scanLicensePlate (value : String) (r : ReceivingReducer) : Reduction :=
  match (ValidatedText.new value : Option LicensePlateBarcode) with
  | none => r.setOperatorError .invalidScan
  | some barcode =>
    match r.activeMut with
    | none => (r, .blocked .noActiveSession)
    | some active =>
      if active.draft.mode.isPhysical = false ∨
          active.draft.containerCapture ≠ .licensePlate then (r, .blocked .workflowBusy)
      else r.work
        { active with draft := { active.draft with licensePlateBarcode := some barcode } }

/-- The line that a field of the draft has to fit: none for unexpected goods. -/
def dimensionLine (active : ActiveSession) : Option ExpectedReceiptLine :=
  if active.draft.mode = .unexpected then none else active.selectedLine

/-- `set_dimension` and `set_expiration`: a field that the line has can not be changed. -/
def setDimension {α : Type} [DecidableEq α] (parse : String → Option α)
    (expected : ExpectedReceiptLine → Option α)
    (store : Option α → ConfirmationDraft → ConfirmationDraft) (value : Option String)
    (r : ReceivingReducer) : Reduction :=
  match value.mapM parse with
  | none => r.setOperatorError .invalidScan
  | some parsed =>
    match r.activeMut with
    | none => (r, .blocked .noActiveSession)
    | some active =>
      let directed := (dimensionLine active).bind expected
      if directed.isSome ∧ directed ≠ parsed then
        r.setOperatorError .dimensionDoesNotMatchExpected
      else r.work { active with draft := store parsed active.draft }

/-- `set_lot`. -/
def setLot (value : Option String) (r : ReceivingReducer) : Reduction :=
  r.setDimension ValidatedText.new ExpectedReceiptLine.lot (fun lot draft => { draft with lot })
    value

/-- `set_serial`. -/
def setSerial (value : Option String) (r : ReceivingReducer) : Reduction :=
  r.setDimension ValidatedText.new ExpectedReceiptLine.serial
    (fun serial draft => { draft with serial }) value

/-- `set_expiration`. -/
def setExpiration (value : Option String) (r : ReceivingReducer) : Reduction :=
  r.setDimension Expiration.new ExpectedReceiptLine.expiration
    (fun expiration draft => { draft with expiration }) value

/-- `set_exception_reason`. -/
def setExceptionReason (reason : ReceiptExceptionReason) (r : ReceivingReducer) : Reduction :=
  match r.activeMut with
  | none => (r, .blocked .noActiveSession)
  | some active => r.keep
    { active with
      draft :=
        { active.draft with
          exceptionReason := some reason
          exceptionNote := if reason = .other then active.draft.exceptionNote else none } }

/-- `set_unexpected_reason`. -/
def setUnexpectedReason (reason : UnexpectedReceiptReason) (r : ReceivingReducer) : Reduction :=
  match r.activeMut with
  | none => (r, .blocked .noActiveSession)
  | some active => r.keep
    { active with
      draft :=
        { active.draft with
          unexpectedReason := some reason
          exceptionNote := if reason = .other then active.draft.exceptionNote else none } }

/-- `set_exception_note`. -/
def setExceptionNote (value : Option String) (r : ReceivingReducer) : Reduction :=
  match value.mapM (ValidatedText.new : String → Option ExceptionNote) with
  | none => r.setOperatorError .invalidScan
  | some note =>
    match r.activeMut with
    | none => (r, .blocked .noActiveSession)
    | some active => r.keep { active with draft := { active.draft with exceptionNote := note } }

/-- `submit_scan`: the scan goes to what the reducer waits for. -/
def submitScan (value : String) (r : ReceivingReducer) : Reduction :=
  match r.state with
  | .awaitingLoad | .loadResolutionFailed _ => r.scanLoad value
  | .active active =>
    match active.scannerTarget with
    | some .loadBarcode => r.scanLoad value
    | some .itemBarcode => r.scanItem value
    | some .dockBarcode => r.scanDock value
    | some .sealBarcode => r.scanUnloadingSeal value
    | some .licensePlateBarcode => r.scanLicensePlate value
    | none => (r, .blocked .workflowBusy)
  | _ => (r, .blocked .workflowBusy)

/-- `confirmation_guard`. -/
def confirmationGuard (access : CommandAccess) (r : ReceivingReducer) : ActionGuard :=
  match access with
  | .blocked reason => .blocked (.device reason)
  | .allowed =>
    match r.state with
    | .active active =>
      if active.session.status = .arrived then .blocked .workflowBusy else active.guard
    | .loadComplete _ => .blocked .loadComplete
    | .reconcileRequired _ => .blocked .reconciliationRequired
    | .awaitingLoad | .resolvingLoad .. | .loadResolutionFailed _ => .blocked .noActiveSession
    | .confirmationPending .. | .refreshing .. | .refreshFailed .. => .blocked .workflowBusy

/-- `unloading_start_guard`. -/
def unloadingStartGuard (access : CommandAccess) (r : ReceivingReducer) : ActionGuard :=
  match access with
  | .blocked reason => .blocked (.device reason)
  | .allowed =>
    match r.activeMut with
    | none => .blocked .noActiveSession
    | some active =>
      if active.session.status ≠ .arrived then .blocked .workflowBusy
      else if active.unloading.dockScan.isNone then .blocked .dockScanRequired
      else if active.session.expectedSeal.isSome && active.unloading.sealScan.isNone then
        .blocked .sealScanRequired
      else .allowed

/-- A command is under way, and is to be kept. -/
def pend (active : ActiveSession) (intent : ReceivingCommandIntent) (r : ReceivingReducer) :
    Reduction :=
  ({ r with
      state := .confirmationPending active r.nextCorrelationId intent
      nextCorrelationId := r.nextId
      operatorError := none },
    .effect (.persistConfirmation r.nextCorrelationId intent))

/-- `begin_unloading_start`. -/
def beginUnloadingStart (access : CommandAccess) (r : ReceivingReducer) : Reduction :=
  match r.unloadingStartGuard access with
  | .blocked reason => (r, .blocked reason)
  | .allowed =>
    match r.activeMut with
    | none => (r, .blocked .workflowBusy)
    | some active =>
      match UnloadingStartIntent.capture active with
      | none => r.reconcile .commandIntegrityFailure
      | some intent => r.pend active (.unloading intent)

/-- `begin_confirmation`. -/
def beginConfirmation (access : CommandAccess) (r : ReceivingReducer) : Reduction :=
  match r.confirmationGuard access with
  | .blocked reason => (r, .blocked reason)
  | .allowed =>
    match r.activeMut with
    | none => (r, .blocked .workflowBusy)
    | some active =>
      match active.intent with
      | none => r.reconcile .commandIntegrityFailure
      | some intent => r.pend active intent

/-- `restore_pending_confirmation`: the correlation number, or why there is none. -/
def restorePendingConfirmation (intent : ReceivingCommandIntent) (r : ReceivingReducer) :
    ReceivingReducer × Except ReconciliationReason ℕ :=
  let failed : ReceivingReducer × Except ReconciliationReason ℕ :=
    ((r.reconcile .commandIntegrityFailure).1, .error .commandIntegrityFailure)
  if r.state ≠ .awaitingLoad ∨ intent.isCurrentAndValid = false then failed
  else match intent.restoreActive with
    | none => failed
    | some active =>
      ({ state := .confirmationPending active r.nextCorrelationId intent
         nextCorrelationId := r.nextId
         operatorError := none
         lastConfirmation := none },
        .ok r.nextCorrelationId)

/-- `confirmation_failed`. -/
def confirmationFailed (confirmationId : ℕ) (failure : ConfirmationFailure)
    (r : ReceivingReducer) : Reduction :=
  match r.state with
  | .confirmationPending active expected _ =>
    if expected ≠ confirmationId then (r, .ignored)
    else match failure with
      | .rejected =>
        ({ r with
            state := .active active
            operatorError := some (if active.session.status = .arrived
              then .unloadingStartRejected else .confirmationRejected) },
          .applied)
      | .commandStillPending => (r, .applied)
      | .invalidResponse => r.reconcile .commandIntegrityFailure
  | _ => (r, .ignored)

/-- The result of a start of unloading. -/
def unloadingSucceeded (active : ActiveSession) (intent : UnloadingStartIntent)
    (result : UnloadingStartResult) (r : ReceivingReducer) : Reduction :=
  if result.unloadingStartId ≤ 0 ∨ result.loadId ≠ intent.loadId ∨
      result.receivingLocationId ≠ intent.recovery.dock.locationId then
    r.reconcile .confirmationIdentityMismatch
  else r.work
    { active with
      session := { active.session with status := .receiving }
      unloading := .default }

/-- The result of a receipt of unexpected goods. -/
def unexpectedSucceeded (active : ActiveSession) (intent : UnexpectedReceiptIntent)
    (result : UnexpectedReceiptResult) (r : ReceivingReducer) : Reduction :=
  if result.loadId ≠ intent.loadId ∨
      result.inventoryOwnerId ≠ intent.recovery.session.inventoryOwnerId ∨
      result.facilityId ≠ intent.recovery.session.facilityId ∨
      result.receivingLocationId ≠ intent.recovery.session.dock.locationId ∨
      result.goods ≠ intent.command.goods ∨ result.reason ≠ intent.command.reason ∨
      result.note ≠ intent.command.note then
    r.reconcile .confirmationIdentityMismatch
  else r.work { active with draft := .default }

/-- What is wrong with the result of a confirmation, before its quantities are read. -/
def resultFault (intent : ConfirmationIntent) (result : ConfirmationResult) :
    Option ReconciliationReason :=
  if result.loadId ≠ intent.loadId ∨ result.loadLineId ≠ intent.loadLineId then
    some .confirmationIdentityMismatch
  else if result.disposition ≠ intent.command.disposition then
    some .confirmationDispositionMismatch
  else if result.quantity ≠ intent.command.quantity then some .confirmationQuantityMismatch
  else none

/-- The line after the result of its confirmation, or what is wrong with the result. -/
def confirmedLine (intent : ConfirmationIntent) (result : ConfirmationResult)
    (session : ReceivingSession) : Except ReconciliationReason ExpectedReceiptLine :=
  match resultFault intent result with
  | some reason => .error reason
  | none =>
    match session.line result.loadLineId with
    | none => .error .confirmationIdentityMismatch
    | some line =>
      match validateResultQuantities line result with
      | some reason => .error reason
      | none => line.applyConfirmation result

/-- The session with a changed line. -/
def withLine (changed : ExpectedReceiptLine) (session : ReceivingSession) : ReceivingSession :=
  { session with
    lines := session.lines.map fun line =>
      if line.loadLineId = changed.loadLineId then changed else line }

/-- The result of a confirmation. -/
def expectedSucceeded (active : ActiveSession) (intent : ConfirmationIntent)
    (result : ConfirmationResult) (r : ReceivingReducer) : Reduction :=
  match confirmedLine intent result active.session with
  | .error reason => r.reconcile reason
  | .ok line =>
    if result.receiveCompleted then
      ({ r with
          state := .loadComplete result
          operatorError := none
          lastConfirmation := some result },
        .applied)
    else
      ({ state := .refreshing { active with session := withLine line active.session }
           r.nextCorrelationId result
         nextCorrelationId := r.nextId
         operatorError := none
         lastConfirmation := some result },
        .effect (.refreshSession r.nextCorrelationId active.session.loadId))

/-- `confirmation_succeeded`. -/
def confirmationSucceeded (confirmationId : ℕ) (result : ReceivingCommandResult)
    (r : ReceivingReducer) : Reduction :=
  match r.state with
  | .confirmationPending active expected intent =>
    if expected ≠ confirmationId then (r, .ignored)
    else match intent, result with
      | .unloading intent, .unloading result => r.unloadingSucceeded active intent result
      | .unexpected intent, .unexpected result => r.unexpectedSucceeded active intent result
      | .expected intent, .expected result => r.expectedSucceeded active intent result
      | _, _ => r.reconcile .confirmationDispositionMismatch
  | _ => (r, .ignored)

/-- A line of a new session is behind the line of the old one. -/
def regresses (prior refreshed : ExpectedReceiptLine) : Bool :=
  decide (refreshed.received.value < prior.received.value ∨
    refreshed.rejected.value < prior.rejected.value ∨
    refreshed.missing.value < prior.missing.value)

/-- What is wrong with a new session, when something is. -/
def refreshFault (prior session : ReceivingSession) (summary : ConfirmationResult) :
    Option ReconciliationReason :=
  if session.loadId ≠ prior.loadId ∨ session.inventoryOwnerId ≠ prior.inventoryOwnerId ∨
      session.facilityId ≠ prior.facilityId then
    some .refreshAggregateMismatch
  else if 0 < summary.remaining.value ∧ session.line summary.loadLineId = none then
    some .refreshAggregateMismatch
  else if session.lines.any fun refreshed =>
      (prior.line refreshed.loadLineId).any fun old => regresses old refreshed then
    some .refreshQuantityRegressed
  else none

/-- `refresh_succeeded`. -/
def refreshSucceeded (refreshId : ℕ) (sent : SentSession) (r : ReceivingReducer) : Reduction :=
  match r.state with
  | .refreshing active expected summary =>
    if expected ≠ refreshId then (r, .ignored)
    else match refreshFault active.session sent.session summary with
      | some reason => r.reconcile reason
      | none => r.work ⟨active.loadBarcode, sent.session, .default, .default⟩
  | _ => (r, .ignored)

/-- `refresh_failed`. -/
def refreshFailed (refreshId : ℕ) (failure : RefreshFailure) (r : ReceivingReducer) : Reduction :=
  match r.state with
  | .refreshing active expected summary =>
    if expected ≠ refreshId then (r, .ignored)
    else match failure with
      | .retryable =>
        ({ r with
            state := .refreshFailed active summary
            operatorError := some .connectionUnavailable },
          .applied)
      | .notFoundOrConflict | .invalidResponse => r.reconcile .invalidServerState
  | _ => (r, .ignored)

/-- `retry_refresh`. -/
def retryRefresh (r : ReceivingReducer) : Reduction :=
  match r.state with
  | .refreshFailed active summary =>
    ({ r with
        state := .refreshing active r.nextCorrelationId summary
        nextCorrelationId := r.nextId
        operatorError := none },
      .effect (.refreshSession r.nextCorrelationId active.session.loadId))
  | _ => (r, .ignored)

/-- `finish_received_load`. -/
def finishReceivedLoad (r : ReceivingReducer) : Reduction :=
  match r.activeMut with
  | none => (r, .blocked .workflowBusy)
  | some active =>
    if active.session.status ≠ .received ∨ active.session.lines ≠ [] then
      (r, .blocked .workflowBusy)
    else
      ({ r with state := .awaitingLoad, operatorError := none, lastConfirmation := none },
        .applied)

end ReceivingReducer

/-- A call of the reducer. -/
inductive Event where
  | submitScan (value : String)
  | scanLoad (value : String)
  | retryLoadResolution
  | loadResolved (resolutionId : ℕ) (sent : SentSession)
  | loadResolutionFailed (resolutionId : ℕ) (failure : LoadResolutionFailure)
  | scanItem (value : String)
  | selectLine (lineId : LoadLineId)
  | selectMode (mode : ConfirmationMode)
  | scanDock (value : String)
  | scanUnloadingSeal (value : String)
  | setQuantity (quantity : ℤ)
  | setContainerCapture (capture : ContainerCapture)
  | scanLicensePlate (value : String)
  | setLot (value : Option String)
  | setSerial (value : Option String)
  | setExpiration (value : Option String)
  | setExceptionReason (reason : ReceiptExceptionReason)
  | setUnexpectedReason (reason : UnexpectedReceiptReason)
  | setExceptionNote (value : Option String)
  | beginUnloadingStart (access : CommandAccess)
  | beginConfirmation (access : CommandAccess)
  | restorePendingConfirmation (intent : ReceivingCommandIntent)
  | confirmationFailed (confirmationId : ℕ) (failure : ConfirmationFailure)
  | confirmationSucceeded (confirmationId : ℕ) (result : ReceivingCommandResult)
  | refreshSucceeded (refreshId : ℕ) (sent : SentSession)
  | refreshFailed (refreshId : ℕ) (failure : RefreshFailure)
  | retryRefresh
  | finishReceivedLoad
  | requireReconciliation (reason : ReconciliationReason)

/-- The reducer after a call, and what the call answers. -/
def ReceivingReducer.apply (r : ReceivingReducer) :
    Event → Reduction
  | .submitScan value => r.submitScan value
  | .scanLoad value => r.scanLoad value
  | .retryLoadResolution => r.retryLoadResolution
  | .loadResolved resolutionId sent => r.loadResolved resolutionId sent
  | .loadResolutionFailed resolutionId failure => r.loadResolutionFailed resolutionId failure
  | .scanItem value => r.scanItem value
  | .selectLine lineId => r.selectLine lineId
  | .selectMode mode => r.selectMode mode
  | .scanDock value => r.scanDock value
  | .scanUnloadingSeal value => r.scanUnloadingSeal value
  | .setQuantity quantity => r.setQuantity quantity
  | .setContainerCapture capture => r.setContainerCapture capture
  | .scanLicensePlate value => r.scanLicensePlate value
  | .setLot value => r.setLot value
  | .setSerial value => r.setSerial value
  | .setExpiration value => r.setExpiration value
  | .setExceptionReason reason => r.setExceptionReason reason
  | .setUnexpectedReason reason => r.setUnexpectedReason reason
  | .setExceptionNote value => r.setExceptionNote value
  | .beginUnloadingStart access => r.beginUnloadingStart access
  | .beginConfirmation access => r.beginConfirmation access
  | .restorePendingConfirmation intent => ((r.restorePendingConfirmation intent).1, .applied)
  | .confirmationFailed confirmationId failure => r.confirmationFailed confirmationId failure
  | .confirmationSucceeded confirmationId result => r.confirmationSucceeded confirmationId result
  | .refreshSucceeded refreshId sent => r.refreshSucceeded refreshId sent
  | .refreshFailed refreshId failure => r.refreshFailed refreshId failure
  | .retryRefresh => r.retryRefresh
  | .finishReceivedLoad => r.finishReceivedLoad
  | .requireReconciliation reason => r.reconcile reason

/-- The runs of the reducer. -/
def ReceivingRun : ReceivingReducer → ReceivingReducer → Prop :=
  Run (fun r event r' => r' = (r.apply event).1) fun _ (_ : Event) => True

end Wareboxes.RfReceiving
