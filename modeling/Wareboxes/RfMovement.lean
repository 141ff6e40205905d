import Wareboxes.RfLanes

/-!
# The movement workflow of the handheld device

An operator claims a task, scans the source location, the license plate and the
destination that the task names, and the device confirms the task with a durable
command. One command is under way at a time: it is written, sent, and answered or
left open. After a restart the saved command is put back, and the server's view of
the current claim may replace the device's own. The commands and results of the
other workflows appear only as far as this one tells them from its own.
-/

namespace Wareboxes.RfMovement

open RustText RfLanes

/-- `MovementKind`. -/
inductive MovementKind where
  | loose
  | licensePlate
  deriving DecidableEq

/-- `MovementOperation`. -/
inductive MovementOperation where
  /-- Stock moves from receiving to storage. -/
  | putaway
  /-- Stock moves within storage. -/
  | inventoryRelocation
  deriving DecidableEq

/-- `MovementOperation::label`. -/
def MovementOperation.label : MovementOperation → String
  | .putaway => "Putaway"
  | .inventoryRelocation => "Relocate"

/-- `MovementOperation::label` in lower case. -/
def MovementOperation.lowerLabel : MovementOperation → String
  | .putaway => "putaway"
  | .inventoryRelocation => "relocate"

/-- `Location`, without the fields that are only shown. -/
structure Location where
  barcode : Option String

/-- `MovementWork`, without the fields that are only shown. -/
inductive MovementWork where
  | loose
  | licensePlate (barcode : String)

/-- `MovementWork::kind`. -/
def MovementWork.kind : MovementWork → MovementKind
  | .loose => .loose
  | .licensePlate _ => .licensePlate

/-- The barcode of the plate that is moved. -/
def MovementWork.plate : MovementWork → Option String
  | .loose => none
  | .licensePlate barcode => some barcode

/-- `MovementClaimDetails`, with the fields that the workflow reads. -/
structure MovementClaimDetails where
  taskId : ℤ
  source : Option Location
  /-- Where the stock goes. -/
  destination : Location
  work : MovementWork

/-- The barcode of the source, when the task names one. -/
def MovementClaimDetails.sourceBarcode (details : MovementClaimDetails) : Option String :=
  details.source.bind Location.barcode

/-- `PutawayPolicySource`. -/
inductive PutawayPolicySource where
  | productDefault
  | configuration
  deriving DecidableEq

/-- `PutawayPolicyExpectation`. -/
structure PutawayPolicyExpectation where
  source : PutawayPolicySource
  configurationId : Option ℤ
  configurationRevision : Option ℤ
  policyHash : String
  deriving DecidableEq

/-- `PutawayPolicy`, without the switches that only the server reads. -/
structure PutawayPolicy where
  source : PutawayPolicySource
  configurationId : Option ℤ
  configurationRevision : Option ℤ
  policyHash : String

/-- `PutawayPolicy::product_default`. -/
def PutawayPolicy.productDefault : PutawayPolicy where
  source := .productDefault
  configurationId := none
  configurationRevision := none
  policyHash := "9ebb7234209756a6ff122d74733521612cd2dd38dbb8ed8490e732c9b1625971"

/-- `PutawayPolicy::expectation`. -/
def PutawayPolicy.expectation (policy : PutawayPolicy) : PutawayPolicyExpectation where
  source := policy.source
  configurationId := policy.configurationId
  configurationRevision := policy.configurationRevision
  policyHash := policy.policyHash

/-- `PutawayClaim`. -/
structure PutawayClaim where
  details : MovementClaimDetails
  policy : PutawayPolicy

/-- `InventoryRelocationClaim`. -/
structure InventoryRelocationClaim where
  details : MovementClaimDetails

/-- `ActiveMovementClaim`. -/
inductive ActiveMovementClaim where
  | putaway (claim : PutawayClaim)
  | inventoryRelocation (claim : InventoryRelocationClaim)

/-- `ActiveMovementClaim::operation`. -/
def ActiveMovementClaim.operation : ActiveMovementClaim → MovementOperation
  | .putaway _ => .putaway
  | .inventoryRelocation _ => .inventoryRelocation

/-- `ActiveMovementClaim::details`. -/
def ActiveMovementClaim.details : ActiveMovementClaim → MovementClaimDetails
  | .putaway claim => claim.details
  | .inventoryRelocation claim => claim.details

/-- `ScanStage`. -/
inductive ScanStage where
  | source
  | licensePlate
  | destination

/-- `PutawayCommand`. -/
inductive PutawayCommand where
  | claimNext (workflow : MovementKind)
  | claimById (taskId : ℤ)
  | confirmLoose (taskId : ℤ) (destinationLocationBarcode : String)
      (expectedPolicy : PutawayPolicyExpectation)
  | confirmLicensePlate (taskId : ℤ) (licensePlateBarcode destinationLocationBarcode : String)
      (expectedPolicy : PutawayPolicyExpectation)
  | release (taskId : ℤ) (reason : ReleaseReason) (note : Option String)
  deriving DecidableEq

/-- `InventoryRelocationCommand`. -/
inductive InventoryRelocationCommand where
  | claimNext (workflow : MovementKind)
  | claimById (taskId : ℤ)
  | confirmLoose (taskId : ℤ) (destinationLocationBarcode : String)
  | confirmLicensePlate (taskId : ℤ) (licensePlateBarcode destinationLocationBarcode : String)
  | release (taskId : ℤ) (reason : ReleaseReason) (note : Option String)
  deriving DecidableEq

/-- `MovementCommand`. -/
inductive MovementCommand where
  | claimNext (workflow : MovementKind)
  | claimById (taskId : ℤ)
  | confirmLoose (taskId : ℤ) (destinationLocationBarcode : String)
  | confirmLicensePlate (taskId : ℤ) (licensePlateBarcode destinationLocationBarcode : String)
  | release (taskId : ℤ) (reason : ReleaseReason) (note : Option String)

/-- `MovementCommand::into_putaway`. -/
def MovementCommand.intoPutaway (expectedPolicy : PutawayPolicyExpectation) :
    MovementCommand → PutawayCommand
  | .claimNext workflow => .claimNext workflow
  | .claimById taskId => .claimById taskId
  | .confirmLoose taskId destination => .confirmLoose taskId destination expectedPolicy
  | .confirmLicensePlate taskId plate destination =>
    .confirmLicensePlate taskId plate destination expectedPolicy
  | .release taskId reason note => .release taskId reason note

/-- `MovementCommand::into_relocation`. -/
def MovementCommand.intoRelocation : MovementCommand → InventoryRelocationCommand
  | .claimNext workflow => .claimNext workflow
  | .claimById taskId => .claimById taskId
  | .confirmLoose taskId destination => .confirmLoose taskId destination
  | .confirmLicensePlate taskId plate destination => .confirmLicensePlate taskId plate destination
  | .release taskId reason note => .release taskId reason note

/-- The commands of `RfCommand` that belong to this workflow. -/
inductive OwnCommand where
  | putaway (command : PutawayCommand)
  | inventoryRelocation (command : InventoryRelocationCommand)
  deriving DecidableEq

/-- `RfCommand::movement_operation`. -/
def movementOperation : RfCommand OwnCommand → Option MovementOperation
  | .own (.putaway _) => some .putaway
  | .own (.inventoryRelocation _) => some .inventoryRelocation
  | .other => none

/-- An effect of this workflow. -/
abbrev Effect := WorkflowEffect OwnCommand

/-- `CommandOutcome`, without the contents of the results of other workflows. -/
inductive CommandOutcome where
  | putawayClaimed (claim : Option PutawayClaim)
  | inventoryRelocationClaimed (claim : Option InventoryRelocationClaim)
  | putawayConfirmed (taskId : ℤ)
  | inventoryRelocationConfirmed (taskId : ℤ)
  /-- The task was given back. -/
  | putawayReleased (taskId : ℤ)
  /-- The task was given back. -/
  | inventoryRelocationReleased (taskId : ℤ)
  /-- A result of another workflow. -/
  | other

/-- The claim that an outcome brings. -/
def CommandOutcome.claimed : CommandOutcome → Option ActiveMovementClaim
  | .putawayClaimed claim => claim.map .putaway
  | .inventoryRelocationClaimed claim => claim.map .inventoryRelocation
  | _ => none

/-- `MovementWorkflow`. -/
structure MovementWorkflow where
  operation : MovementOperation
  selectedKind : MovementKind
  /-- The task that is held. -/
  claim : Option ActiveMovementClaim
  /-- The command that is under way. -/
  lane : Lane OwnCommand
  sourceVerified : Bool
  licensePlateScan : Option String
  /-- The text in the scan field. -/
  scanDraft : String
  /-- What the operator is told went wrong. -/
  error : Option String
  /-- What the operator is told. -/
  notice : Option String
  /-- Why a supervisor has to look at the device. -/
  reconcileReason : Option String

namespace MovementWorkflow

/-- `MovementWorkflow::default`. -/
def default : MovementWorkflow where
  operation := .putaway
  selectedKind := .loose
  claim := none
  lane := .empty
  sourceVerified := false
  licensePlateScan := none
  scanDraft := ""
  error := none
  notice := none
  reconcileReason := none

/-- `activity`. -/
def activity (w : MovementWorkflow) : Activity :=
  activityOf w.reconcileReason w.lane w.claim.isSome

/-- `select_operation`. -/
def selectOperation (operation : MovementOperation) (w : MovementWorkflow) : MovementWorkflow :=
  if w.activity = .idle then { w with operation, notice := none, error := none } else w

/-- `select_kind`. -/
def selectKind (kind : MovementKind) (w : MovementWorkflow) : MovementWorkflow :=
  if w.activity = .idle then { w with selectedKind := kind, notice := none, error := none } else w

/-- A change of the scan field through `scan_draft_mut`. -/
def editScan (text : String) (w : MovementWorkflow) : MovementWorkflow :=
  { w with scanDraft := text }

/-- `expected_scan`. -/
def expectedScan (w : MovementWorkflow) : Option ScanStage :=
  if w.activity ≠ .active then none
  else match w.claim with
    | none => none
    | some claim =>
      if claim.details.sourceBarcode.isSome && !w.sourceVerified then some .source
      else if claim.details.work.kind = .licensePlate ∧ w.licensePlateScan = none then
        some .licensePlate
      else some .destination

/-- `accept_scan`. -/
def acceptScan (w : MovementWorkflow) : MovementWorkflow :=
  { w with scanDraft := "", error := none }

/-- `reject_scan`. -/
def rejectScan (message : String) (w : MovementWorkflow) : MovementWorkflow :=
  { w with scanDraft := "", error := some message }

/-- `reset_scans`. -/
def resetScans (w : MovementWorkflow) : MovementWorkflow :=
  { w with sourceVerified := false, licensePlateScan := none, scanDraft := "" }

/-- `require_reconciliation`. -/
def requireReconciliation (reason : String) (w : MovementWorkflow) : MovementWorkflow :=
  { w with reconcileReason := some reason, error := none }

/-- The policy that a putaway command expects. -/
def expectedPolicy (w : MovementWorkflow) : PutawayPolicyExpectation :=
  match w.claim with
  | some (.putaway claim) => claim.policy.expectation
  | _ => PutawayPolicy.productDefault.expectation

/-- The command of the selected operation. -/
def rfCommand (command : MovementCommand) (w : MovementWorkflow) :
    RfCommand OwnCommand :=
  match w.operation with
  | .putaway => .own (.putaway (command.intoPutaway w.expectedPolicy))
  | .inventoryRelocation => .own (.inventoryRelocation command.intoRelocation)

/-- `begin_command`. -/
def beginCommand (commandId idempotencyKey : String) (command : MovementCommand)
    (w : MovementWorkflow) : MovementWorkflow × Option Effect :=
  if isEmpty (trim commandId) || isEmpty (trim idempotencyKey) then
    ({ w with error := some "Command identity is unavailable" }, none)
  else
    let draft : Draft OwnCommand := ⟨1, commandId, idempotencyKey, w.rfCommand command⟩
    ({ w with lane := .persisting draft, error := none, notice := none },
      some (.persistCommand draft))

/-- `begin_claim_next`. -/
def beginClaimNext (commandId idempotencyKey : String) (w : MovementWorkflow) :
    MovementWorkflow × Option Effect :=
  if w.activity ≠ .idle then (w, none)
  else w.beginCommand commandId idempotencyKey (.claimNext w.selectedKind)

/-- `begin_claim_by_id`. -/
def beginClaimById (taskId : ℤ) (commandId idempotencyKey : String) (w : MovementWorkflow) :
    MovementWorkflow × Option Effect :=
  if w.activity ≠ .idle then (w, none)
  else if taskId ≤ 0 then ({ w with error := some "Task ID must be positive" }, none)
  else w.beginCommand commandId idempotencyKey (.claimById taskId)

/-- The source is scanned. -/
def scanSource (claim : MovementClaimDetails) (scanned : String) (w : MovementWorkflow) :
    MovementWorkflow :=
  if claim.sourceBarcode ≠ some scanned then
    w.rejectScan "Source location does not match this task"
  else { w with sourceVerified := true }.acceptScan

/-- The license plate is scanned. -/
def scanLicensePlate (claim : MovementClaimDetails) (scanned : String) (w : MovementWorkflow) :
    MovementWorkflow :=
  match claim.work with
  | .loose => w.requireReconciliation "Active work type changed while scanning"
  | .licensePlate barcode =>
    if barcode ≠ scanned then w.rejectScan "License plate does not match this task"
    else { w with licensePlateScan := some scanned }.acceptScan

/-- The confirmation of the task, with the scanned destination. -/
def confirmation (claim : MovementClaimDetails) (scanned : String) (w : MovementWorkflow) :
    Option MovementCommand :=
  match claim.work with
  | .loose => some (.confirmLoose claim.taskId scanned)
  | .licensePlate _ =>
    w.licensePlateScan.map fun plate => .confirmLicensePlate claim.taskId plate scanned

/-- The destination is scanned. -/
def scanDestination (claim : MovementClaimDetails) (scanned commandId idempotencyKey : String)
    (w : MovementWorkflow) : MovementWorkflow × Option Effect :=
  if claim.destination.barcode ≠ some scanned then
    (w.rejectScan "Destination location does not match this task", none)
  else match w.confirmation claim scanned with
    | none => (w, none)
    | some command => w.acceptScan.beginCommand commandId idempotencyKey command

/-- `submit_scan`. -/
def submitScan (commandId idempotencyKey : String) (w : MovementWorkflow) :
    MovementWorkflow × Option Effect :=
  match w.expectedScan with
  | none => (w, none)
  | some stage =>
    let scanned := trim w.scanDraft
    if isEmpty scanned then ({ w with error := some "Scan cannot be empty" }, none)
    else match w.claim with
      | none => (w, none)
      | some claim =>
        match stage with
        | .source => (w.scanSource claim.details scanned, none)
        | .licensePlate => (w.scanLicensePlate claim.details scanned, none)
        | .destination => w.scanDestination claim.details scanned commandId idempotencyKey

/-- `begin_release`. -/
def beginRelease (commandId idempotencyKey : String) (reason : ReleaseReason)
    (note : Option String) (w : MovementWorkflow) : MovementWorkflow × Option Effect :=
  if w.activity ≠ .active then (w, none)
  else match w.claim with
    | none => (w, none)
    | some claim =>
      let note := releaseNote note
      if reason = .other ∧ note = none then
        ({ w with error := some "A note is required for Other" }, none)
      else if note.any fun text => decide (500 < charCount text) then
        ({ w with error := some "Release note cannot exceed 500 characters" }, none)
      else w.beginCommand commandId idempotencyKey (.release claim.details.taskId reason note)

/-- `command_persisted`. -/
def commandPersisted (commandId : String) (recordId : ℤ) (w : MovementWorkflow) :
    MovementWorkflow × Transition OwnCommand :=
  match w.lane.written commandId recordId with
  | none => (w, .ignored)
  | some command =>
    if recordId ≤ 0 then (w, .ignored)
    else ({ w with lane := .ready command }, .effect (.dispatchPersistedCommand recordId))

/-- A call that may move the command along its lane. -/
def moveLane (lane : Lane OwnCommand) (w : MovementWorkflow) :
    MovementWorkflow × Transition OwnCommand :=
  ({ w with lane }, if lane = w.lane then .ignored else .applied)

/-- `dispatch_started`. -/
def dispatchStarted (recordId : ℤ) (w : MovementWorkflow) :
    MovementWorkflow × Transition OwnCommand :=
  w.moveLane (w.lane.dispatchStarted recordId)

/-- `dispatch_ambiguous`. -/
def dispatchAmbiguous (recordId : ℤ) (message : String) (w : MovementWorkflow) :
    MovementWorkflow × Transition OwnCommand :=
  w.moveLane (w.lane.dispatchAmbiguous recordId message)

/-- `restore_ready_command`. -/
def restoreReadyCommand (recordId : ℤ) (draft : Draft OwnCommand) (w : MovementWorkflow) :
    MovementWorkflow × Transition OwnCommand :=
  match movementOperation draft.command with
  | none => (w, .ignored)
  | some operation =>
    if recordId ≤ 0 || w.reconcileReason.isSome then (w, .ignored)
    else ({ w with operation, lane := .ready ⟨recordId, draft⟩ },
      .effect (.dispatchPersistedCommand recordId))

/-- `restore_ambiguous_command`. -/
def restoreAmbiguousCommand (recordId : ℤ) (draft : Draft OwnCommand) (message : String)
    (w : MovementWorkflow) : MovementWorkflow × Transition OwnCommand :=
  match movementOperation draft.command with
  | none => (w, .ignored)
  | some operation =>
    if recordId ≤ 0 || w.reconcileReason.isSome then (w, .ignored)
    else ({ w with operation, lane := .ambiguous ⟨recordId, draft⟩ message }, .applied)

/-- `retry_ambiguous`. -/
def retryAmbiguous (w : MovementWorkflow) : MovementWorkflow × Option Effect :=
  ({ w with lane := w.lane.retryAmbiguous.1 }, w.lane.retryAmbiguous.2)

/-- `outcome_matches`. -/
def outcomeMatches : RfCommand OwnCommand → CommandOutcome → Bool
  | .own (.putaway (.claimNext _)), .putawayClaimed _ => true
  | .own (.inventoryRelocation (.claimNext _)), .inventoryRelocationClaimed _ => true
  | .own (.putaway (.claimById taskId)), .putawayClaimed (some claim) =>
    taskId == claim.details.taskId
  | .own (.inventoryRelocation (.claimById taskId)), .inventoryRelocationClaimed (some claim) =>
    taskId == claim.details.taskId
  | .own (.putaway (.confirmLoose taskId ..)), .putawayConfirmed outcome
  | .own (.putaway (.confirmLicensePlate taskId ..)), .putawayConfirmed outcome
  | .own (.inventoryRelocation (.confirmLoose taskId _)), .inventoryRelocationConfirmed outcome
  | .own (.inventoryRelocation (.confirmLicensePlate taskId ..)),
      .inventoryRelocationConfirmed outcome
  | .own (.putaway (.release taskId ..)), .putawayReleased outcome
  | .own (.inventoryRelocation (.release taskId ..)), .inventoryRelocationReleased outcome =>
    taskId == outcome
  | _, _ => false

/-- `apply_claim_outcome`. -/
def applyClaimOutcome (claim : Option ActiveMovementClaim) (w : MovementWorkflow) :
    MovementWorkflow × Bool :=
  if claim.any fun claim => decide (claim.operation ≠ w.operation) then
    (w.requireReconciliation "Claimed work does not match the command", false)
  else if claim.any fun claim => decide (claim.details.work.kind ≠ w.selectedKind) then
    (w.requireReconciliation "Claimed work does not match the selected workflow", false)
  else
    ({ { w with claim }.resetScans with
      notice := if claim.isNone then
        some ("No " ++ w.operation.lowerLabel ++ " work is available") else none }, true)

/-- The command is done: the lane is empty again. -/
def settle (w : MovementWorkflow) : MovementWorkflow :=
  { w with lane := .empty, error := none }

/-- A claim is answered. -/
def recordClaim (claim : Option ActiveMovementClaim) (w : MovementWorkflow) : MovementWorkflow :=
  match w.applyClaimOutcome claim with
  | (w, true) => w.settle
  | (w, false) => w

/-- The task is done or given back. -/
def recordEnd (message : String) (w : MovementWorkflow) : MovementWorkflow :=
  { { w with claim := none }.resetScans with
    notice := some (w.operation.label ++ message) }.settle

/-- The outcome of a command that it matches. -/
def applyOutcome (outcome : CommandOutcome) (w : MovementWorkflow) : MovementWorkflow :=
  match outcome with
  | .putawayClaimed claim => w.recordClaim (claim.map .putaway)
  | .inventoryRelocationClaimed claim => w.recordClaim (claim.map .inventoryRelocation)
  | .putawayConfirmed _ | .inventoryRelocationConfirmed _ => w.recordEnd " confirmed"
  | .putawayReleased _ | .inventoryRelocationReleased _ => w.recordEnd " returned to the queue"
  | .other => w.requireReconciliation "Recorded result does not match the workflow"

/-- `durable_outcome_recorded`. -/
def durableOutcomeRecorded (recordId : ℤ) (outcome : CommandOutcome) (w : MovementWorkflow) :
    MovementWorkflow × Transition OwnCommand :=
  match w.lane.sent with
  | none => (w, .ignored)
  | some command =>
    if command.recordId ≠ recordId then (w, .ignored)
    else match movementOperation command.draft.command with
      | none => (w.requireReconciliation "Recorded result does not match the workflow", .applied)
      | some operation =>
        if operation ≠ w.operation ∨ outcomeMatches command.draft.command outcome = false then
          (w.requireReconciliation "Recorded result does not match the command", .applied)
        else (w.applyOutcome outcome, .applied)

/-- A recorded outcome is ignored when its row is not that of the command that was sent, calls for
a supervisor, or is the matching outcome of the command. -/
theorem durableOutcomeRecorded_cases (recordId : ℤ) (outcome : CommandOutcome)
    (w : MovementWorkflow) :
    (w.durableOutcomeRecorded recordId outcome = (w, .ignored) ∧
        ∀ command ∈ w.lane.sent, command.recordId ≠ recordId) ∨
      (∃ reason, w.durableOutcomeRecorded recordId outcome =
        (w.requireReconciliation reason, .applied)) ∨
      ∃ command, w.lane.sent = some command ∧ command.recordId = recordId ∧
        movementOperation command.draft.command = some w.operation ∧
        outcomeMatches command.draft.command outcome = true ∧
        w.durableOutcomeRecorded recordId outcome = (w.applyOutcome outcome, .applied) := by
  unfold durableOutcomeRecorded
  split
  · next hsent =>
    refine .inl ⟨rfl, ?_⟩
    rw [hsent]
    rintro _ ⟨⟩
  · next command hsent =>
    split_ifs with hrecord
    · refine .inl ⟨rfl, ?_⟩
      rw [hsent]
      rintro _ ⟨⟩
      exact hrecord
    · split
      · exact .inr (.inl ⟨_, rfl⟩)
      · next operation hoperation =>
        split_ifs with hmatch
        · exact .inr (.inl ⟨_, rfl⟩)
        · push Not at hmatch
          rw [hmatch.1] at hoperation
          exact .inr (.inr ⟨command, hsent, not_not.mp hrecord, hoperation,
            Bool.ne_false_iff.mp hmatch.2, rfl⟩)

/-- An outcome fits when it is one of movements, and a task that it brings has the operation and
the selected kind. -/
def Fits (outcome : CommandOutcome) (w : MovementWorkflow) : Prop :=
  outcome ≠ .other ∧ ∀ claim ∈ outcome.claimed,
    claim.operation = w.operation ∧ claim.details.work.kind = w.selectedKind

/-- The command ended: the task is the one that was brought, and nothing is scanned yet. -/
structure Ended (brought : Option ActiveMovementClaim) (w w' : MovementWorkflow) : Prop where
  /-- The task that the outcome brings. -/
  claim : w'.claim = brought
  /-- The kind of work stays. -/
  operation : w'.operation = w.operation
  /-- The scans begin again. -/
  sourceVerified : w'.sourceVerified = false
  /-- No plate is scanned. -/
  licensePlateScan : w'.licensePlateScan = none
  /-- No command is under way. -/
  lane : w'.lane = .empty
  /-- No new reason to reconcile. -/
  reconcileReason : w'.reconcileReason = w.reconcileReason

/-- An outcome that fits ends the command, and any other one calls for a supervisor. -/
theorem applyOutcome_cases (outcome : CommandOutcome) (w : MovementWorkflow) :
    (w.Fits outcome ∧ Ended outcome.claimed w (w.applyOutcome outcome)) ∨
      ¬w.Fits outcome ∧ ∃ reason, w.applyOutcome outcome = w.requireReconciliation reason := by
  have hbrought : ∀ brought : Option ActiveMovementClaim,
      ((∀ claim ∈ brought, claim.operation = w.operation ∧
        claim.details.work.kind = w.selectedKind) ∧ Ended brought w (w.recordClaim brought)) ∨
      (∃ claim ∈ brought, ¬(claim.operation = w.operation ∧
        claim.details.work.kind = w.selectedKind)) ∧
          ∃ reason, w.recordClaim brought = w.requireReconciliation reason := by
    rintro (_ | claim)
    · exact .inl ⟨by rintro _ ⟨⟩, rfl, rfl, rfl, rfl, rfl, rfl⟩
    · unfold recordClaim applyClaimOutcome
      simp only [Option.any_some, decide_eq_true_eq, Option.isNone_some, Bool.false_eq_true,
        if_false]
      split_ifs with hoperation hkind
      · exact .inr ⟨⟨claim, rfl, fun h => hoperation h.1⟩, _, rfl⟩
      · exact .inr ⟨⟨claim, rfl, fun h => hkind h.2⟩, _, rfl⟩
      · refine .inl ⟨?_, rfl, rfl, rfl, rfl, rfl, rfl⟩
        rintro _ ⟨⟩
        exact ⟨not_not.mp hoperation, not_not.mp hkind⟩
  cases outcome with
  | putawayClaimed | inventoryRelocationClaimed =>
    rcases hbrought _ with ⟨hfits, hended⟩ | ⟨⟨claim, hclaim, hmisfit⟩, hreason⟩
    · exact .inl ⟨⟨nofun, hfits⟩, hended⟩
    · exact .inr ⟨fun h => hmisfit (h.2 claim hclaim), hreason⟩
  | putawayConfirmed | inventoryRelocationConfirmed | putawayReleased |
    inventoryRelocationReleased =>
    exact .inl ⟨⟨nofun, by rintro _ ⟨⟩⟩, rfl, rfl, rfl, rfl, rfl, rfl⟩
  | other => exact .inr ⟨fun h => h.1 rfl, _, rfl⟩

/-- `durable_rejection_recorded`. -/
def durableRejectionRecorded (recordId : ℤ) (message : String) (w : MovementWorkflow) :
    MovementWorkflow × Transition OwnCommand :=
  match w.lane.sent with
  | none => (w, .ignored)
  | some command =>
    if command.recordId ≠ recordId then (w, .ignored)
    else ({ w with lane := .empty, error := some message }, .applied)

/-- `restore_current_claim`. -/
def restoreCurrentClaim (operation : MovementOperation) (claim : Option ActiveMovementClaim)
    (w : MovementWorkflow) : MovementWorkflow :=
  { w with
    operation
    selectedKind :=
      (claim.map fun held : ActiveMovementClaim => held.details.work.kind).getD w.selectedKind
    claim
    lane := .empty
    reconcileReason := none
    error := none
    notice := none }.resetScans

/-- `restore_current_putaway_claim`. -/
def restoreCurrentPutawayClaim (claim : Option PutawayClaim) (w : MovementWorkflow) :
    MovementWorkflow :=
  w.restoreCurrentClaim .putaway (claim.map .putaway)

/-- `restore_current_inventory_relocation_claim`. -/
def restoreCurrentInventoryRelocationClaim (claim : Option InventoryRelocationClaim)
    (w : MovementWorkflow) : MovementWorkflow :=
  w.restoreCurrentClaim .inventoryRelocation (claim.map .inventoryRelocation)

end MovementWorkflow

/-- A call of the workflow. -/
inductive Event where
  | selectOperation (operation : MovementOperation)
  | selectKind (kind : MovementKind)
  /-- The operator or the scanner changes the scan field. -/
  | editScan (text : String)
  | beginClaimNext (commandId idempotencyKey : String)
  | beginClaimById (taskId : ℤ) (commandId idempotencyKey : String)
  | submitScan (commandId idempotencyKey : String)
  | beginRelease (commandId idempotencyKey : String) (reason : ReleaseReason)
      (note : Option String)
  | commandPersisted (commandId : String) (recordId : ℤ)
  | dispatchStarted (recordId : ℤ)
  | dispatchAmbiguous (recordId : ℤ) (message : String)
  | restoreReadyCommand (recordId : ℤ) (draft : Draft OwnCommand)
  | restoreAmbiguousCommand (recordId : ℤ) (draft : Draft OwnCommand) (message : String)
  | retryAmbiguous
  | durableOutcomeRecorded (recordId : ℤ) (outcome : CommandOutcome)
  | durableRejectionRecorded (recordId : ℤ) (message : String)
  | restoreCurrentPutawayClaim (claim : Option PutawayClaim)
  | restoreCurrentInventoryRelocationClaim (claim : Option InventoryRelocationClaim)
  | requireReconciliation (reason : String)

/-- A call without an effect. -/
def quietly (w : MovementWorkflow) : MovementWorkflow × Option Effect := (w, none)

/-- The workflow after a call, and the effect that the call asks for. -/
def MovementWorkflow.apply (w : MovementWorkflow) :
    Event → MovementWorkflow × Option Effect
  | .selectOperation operation => quietly (w.selectOperation operation)
  | .selectKind kind => quietly (w.selectKind kind)
  | .editScan text => quietly (w.editScan text)
  | .beginClaimNext commandId key => w.beginClaimNext commandId key
  | .beginClaimById taskId commandId key => w.beginClaimById taskId commandId key
  | .submitScan commandId key => w.submitScan commandId key
  | .beginRelease commandId key reason note => w.beginRelease commandId key reason note
  | .commandPersisted commandId recordId =>
    (w.commandPersisted commandId recordId).map id Transition.effect?
  | .dispatchStarted recordId => (w.dispatchStarted recordId).map id Transition.effect?
  | .dispatchAmbiguous recordId message =>
    (w.dispatchAmbiguous recordId message).map id Transition.effect?
  | .restoreReadyCommand recordId draft =>
    (w.restoreReadyCommand recordId draft).map id Transition.effect?
  | .restoreAmbiguousCommand recordId draft message =>
    (w.restoreAmbiguousCommand recordId draft message).map id Transition.effect?
  | .retryAmbiguous => w.retryAmbiguous
  | .durableOutcomeRecorded recordId outcome =>
    (w.durableOutcomeRecorded recordId outcome).map id Transition.effect?
  | .durableRejectionRecorded recordId message =>
    (w.durableRejectionRecorded recordId message).map id Transition.effect?
  | .restoreCurrentPutawayClaim claim => quietly (w.restoreCurrentPutawayClaim claim)
  | .restoreCurrentInventoryRelocationClaim claim =>
    quietly (w.restoreCurrentInventoryRelocationClaim claim)
  | .requireReconciliation reason => quietly (w.requireReconciliation reason)

end Wareboxes.RfMovement
