import Wareboxes.EdgeOperations

/-!
# Cloud deliveries in the edge store

A command that came from the cloud is acknowledged once and reported once. The
pending queries say which deliveries still wait for either, and the two mark
operations record the cloud's answer; a second answer has to repeat the first.
A delivery record is the delivery row, with its instants as stored.
-/

namespace Wareboxes.EdgeDeliveries

open RustTime EdgeCommands Transactions.Transaction EdgeTables EdgeTransitions

/-- A delivery together with its local command. -/
structure PendingCloudCommand where
  cloud : DeliveryRow
  command : CommandRecord

/-- The states that are reported to the cloud. -/
def isReportable : CommandState → Bool
  | .succeeded | .failed | .manualReview | .resolvedManually | .cancelled => true
  | .queued | .executing | .retryWait | .recoveryWait => false

/-- A delivery that waits for its acknowledgement. -/
def awaitsAcknowledgement (delivery : DeliveryRow) (_ : CommandRow) : Bool :=
  delivery.acknowledgedAt.isNone

/-- A delivery that waits for its report. -/
def awaitsReport (delivery : DeliveryRow) (command : CommandRow) : Bool :=
  delivery.acknowledgedAt.isSome && delivery.reportedAt.isNone && isReportable command.state

/-- The deliveries of the store, each joined with its local command. -/
def deliveredCommands (s : Store) : List (DeliveryRow × CommandRow) :=
  s.deliveries.rows.filterMap fun delivery =>
    (s.command? delivery.localCommandId).map fun command => (delivery, command)

/-- The order `cloud_command_id`. -/
def deliveredBefore (first second : DeliveryRow × CommandRow) : Prop :=
  first.1.delivery.cloudCommandId ≤ second.1.delivery.cloudCommandId

instance : DecidableRel deliveredBefore := fun _ _ => inferInstanceAs (Decidable (_ ≤ _))

/-- The first deliveries that meet a condition, by cloud identifier. -/
def selectDelivered (selects : DeliveryRow → CommandRow → Bool) (limit : ℕ) (s : Store) :
    List (DeliveryRow × CommandRow) :=
  (((deliveredCommands s).filter fun pair => selects pair.1 pair.2).insertionSort
    deliveredBefore).take limit

/-- Decode the command of each selected delivery. -/
def decodePending : List (DeliveryRow × CommandRow) → Except StoreError (List PendingCloudCommand)
  | [] => .ok []
  | (delivery, command) :: rest => do
    let record ← decodeCommand command
    let others ← decodePending rest
    return ⟨delivery, record⟩ :: others

/-- The deliveries that meet a condition, at most `limit` of them. -/
def pendingCloudCommands (selects : DeliveryRow → CommandRow → Bool) (limit : ℕ) :
    StoreTx (List PendingCloudCommand) := do
  ensure (1 ≤ limit ∧ limit ≤ 1000)
    (.corruptRecord "cloud delivery query limit must be between 1 and 1,000")
  let selected ← gets (selectDelivered selects limit)
  lift (decodePending selected)

/-- The deliveries that wait for their acknowledgement. -/
def pendingCloudAcknowledgements (limit : ℕ) : StoreTx (List PendingCloudCommand) :=
  pendingCloudCommands awaitsAcknowledgement limit

/-- The deliveries that wait for their report. -/
def pendingCloudReports (limit : ℕ) : StoreTx (List PendingCloudCommand) :=
  pendingCloudCommands awaitsReport limit

/-- Load a delivery. -/
def loadCloudDelivery (cloudCommandId : ℤ) : StoreTx DeliveryRow := do
  let row ← gets (·.delivery? cloudCommandId)
  orFail row (.cloudDeliveryNotFound cloudCommandId)

/-- Rewrite the delivery stored under an identifier. -/
def updateDelivery (cloudCommandId : ℤ) (guard : DeliveryRow → Bool)
    (rewrite : DeliveryRow → DeliveryRow) (hkey : ∀ row, (rewrite row).key = row.key) :
    StoreTx Unit :=
  modify fun s => { s with
    deliveries := s.deliveries.updateWhere
      (fun row => decide (row.key = cloudCommandId) && guard row) rewrite hkey }

/-- The row of an acknowledged delivery. -/
def acknowledge (revision : ℕ) (now : DateTime) (row : DeliveryRow) : DeliveryRow :=
  { row with
    acknowledgementRevision := some revision
    acknowledgedAt := some now.timestampMillis
    lastCloudError := none
    updatedAt := now.timestampMillis }

theorem acknowledge_key (revision : ℕ) (now : DateTime) (row : DeliveryRow) :
    (acknowledge revision now row).key = row.key := rfl

/-- Record the acknowledgement of a delivery. -/
def markCloudAcknowledged (cloudCommandId : ℤ) (deliveryRevision acknowledgementRevision : ℕ)
    (now : DateTime) : StoreTx DeliveryRow := do
  ensure (deliveryRevision ≠ 0 ∧ acknowledgementRevision ≠ 0) .invalidCloudDelivery
  let current ← loadCloudDelivery cloudCommandId
  ensure (current.delivery.deliveryRevision = deliveryRevision) .cloudDeliveryConflict
  match current.acknowledgementRevision with
  | some existing => do
    ensure (existing = acknowledgementRevision) .cloudDeliveryConflict
    pure current
  | none => do
    updateDelivery cloudCommandId (·.acknowledgedAt.isNone)
      (acknowledge acknowledgementRevision now) (acknowledge_key acknowledgementRevision now)
    loadCloudDelivery cloudCommandId

/-- The row of a reported delivery. -/
def report (revision : ℕ) (status : ReportedStatus) (now : DateTime) (row : DeliveryRow) :
    DeliveryRow :=
  { row with
    reportedRevision := some revision
    reportedStatus := some status
    reportedAt := some now.timestampMillis
    lastCloudError := none
    updatedAt := now.timestampMillis }

theorem report_key (revision : ℕ) (status : ReportedStatus) (now : DateTime) (row : DeliveryRow) :
    (report revision status now row).key = row.key := rfl

/-- Record the report of a delivery. -/
def markCloudReported (cloudCommandId : ℤ) (reportedRevision : ℕ) (reportedStatus : String)
    (now : DateTime) : StoreTx DeliveryRow := do
  ensure (reportedRevision ≠ 0) .invalidCloudDelivery
  let status ← orFail (ReportedStatus.parse? reportedStatus) .invalidCloudDelivery
  let current ← loadCloudDelivery cloudCommandId
  ensure (current.acknowledgementRevision.isSome = true) .cloudDeliveryConflict
  match current.reportedRevision with
  | some existing => do
    ensure (existing = reportedRevision ∧ current.reportedStatus = some status)
      .cloudDeliveryConflict
    pure current
  | none => do
    updateDelivery cloudCommandId (·.reportedAt.isNone) (report reportedRevision status now)
      (report_key reportedRevision status now)
    loadCloudDelivery cloudCommandId

/-- The row of a delivery whose cloud call failed. -/
def noteError (message : String) (now : DateTime) (row : DeliveryRow) : DeliveryRow :=
  { row with lastCloudError := some message, updatedAt := now.timestampMillis }

theorem noteError_key (message : String) (now : DateTime) (row : DeliveryRow) :
    (noteError message now row).key = row.key := rfl

/-- Record an error of a cloud call. -/
def recordCloudError (cloudCommandId : ℤ) (message : String) (now : DateTime) :
    StoreTx Unit := do
  let message ← orPanic (truncateMessage message)
  let _ ← loadCloudDelivery cloudCommandId
  updateDelivery cloudCommandId (fun _ => true) (noteError message now) (noteError_key message now)

/-- The commands of a device that are live, and those that wait for an operator. -/
def cloudReportableCount (deviceId : String) : StoreTx (ℕ × ℕ) := do
  let live ← gets fun s => s.commands.countWhere fun row =>
    decide (row.request.deviceId.asStr = deviceId) && row.state.isLive
  let review ← gets fun s => s.commands.countWhere fun row =>
    decide (row.request.deviceId.asStr = deviceId) && decide (row.state = .manualReview)
  ensure (live ≤ maxU32) (.corruptRecord "queued count overflowed")
  ensure (review ≤ maxU32) (.corruptRecord "manual-review count overflowed")
  pure (live, review)

end Wareboxes.EdgeDeliveries
