import Wareboxes.LabelledRuns
import Wareboxes.OutboxOperations

/-!
# Runs of the outbox

Any number of workers, producers and operators call the outbox. A call is one
step at a time of the database clock, which never goes back, except that a
delivery report takes two steps: its update, which locks the event when it
matches, and its journal entry with the commit. A worker reports events that it
claimed, and does not send a second report about a claim while the first is
running. What was committed is kept as a history, which no operation reads.
-/

namespace Wareboxes.OutboxRuns

open OutboxTables OutboxOperations LabelledRuns

/-- The claim that a report is about, with the worker that made it. -/
def claimOf (report : Report) : ℤ × ℤ × String × ℤ :=
  (report.tenantId, report.eventId, report.workerId, report.claimVersion)

/-- A report between its two statements. -/
structure OpenReport where
  report : Report
  updatedAt : Timestamp
  /-- The row that the update matched, as it was. -/
  matched : Option OutboxEvent
  deriving DecidableEq

/-- What was committed. -/
inductive Happening where
  | enqueued (event : OutboxEvent)
  | claimed (event : OutboxEvent)
  | published (event : OutboxEvent)
  | replayed (event : OutboxEvent)
  | discarded (event : OutboxEvent)

/-- The database with the transactions that are open and the history so far. -/
structure World where
  /-- The committed tables. -/
  db : Outbox
  clock : Timestamp
  /-- The reports whose update ran and whose commit did not. -/
  pending : List OpenReport
  /-- What was committed, oldest first. -/
  history : List Happening

/-- A new database. -/
def World.initial : World := ⟨.initial, 0, [], []⟩

/-- The events that an open report keeps locked. -/
def World.lockedIds (w : World) : List ℤ :=
  (w.pending.filter fun entry => entry.matched.isSome).map fun entry => entry.report.eventId

/-- The happening is the claim that a report is about. -/
def isClaimOf (report : Report) : Happening → Bool
  | .claimed event =>
    event.tenantId == report.tenantId && event.id == report.eventId &&
      event.claimVersion == report.claimVersion &&
      event.claim.any fun claim => claim.claimedBy == report.workerId
  | _ => false

/-- A call, or one statement of a report. -/
inductive Action where
  | enqueue (event : NewOutboxEvent)
  /-- `claim_events`, while other transactions hold some events locked. -/
  | claimEvents (tenantId : ℤ) (workerId publisherName : String) (batchSize leaseSeconds : ℤ)
      (locked : List ℤ)
  /-- The update of `mark_published` or `mark_failed`. -/
  | beginReport (report : Report)
  /-- The journal entry and the commit of that report. -/
  | endReport (report : Report)
  /-- The connection of that report is lost, and the update is rolled back. -/
  | loseReport (report : Report)
  | replayDeadLetter (tenantId eventId userId expectedReplayCount : ℤ)
  | discardDeadLetter (tenantId eventId userId expectedReplayCount : ℤ) (reason : String)
  /-- `purge_published`, while other transactions hold some events locked. -/
  | purgePublished (tenantId retentionSeconds batchSize : ℤ) (locked : List ℤ)
  | changeMemberships (memberships : List (ℤ × ℤ))

/-- An action at a time of the database clock. -/
structure Step where
  now : Timestamp
  action : Action

/-- Commit a transaction and note what it did, or roll it back. -/
def World.attempt {α : Type} (w : World) (now : Timestamp) (transaction : OutboxTx α)
    (happens : α → Outbox → List Happening) : World :=
  match transaction w.db with
  | .ok (value, db) => { w with db, clock := now, history := w.history ++ happens value db }
  | .error _ => { w with clock := now }

/-- The reports that stay open when one ends. -/
def World.without (w : World) (report : Report) : List OpenReport :=
  w.pending.filter fun entry => decide (entry.report ≠ report)

/-- What the end of a report adds to the history. -/
def reportHappens (entry : OpenReport) (_ : Bool) (_ : Outbox) : List Happening :=
  match entry.report.failure, entry.matched with
  | none, some event => [.published (entry.report.settle entry.updatedAt event)]
  | _, _ => []

/-- What a replay or a discard adds to the history. -/
def deadLetterHappens (happening : OutboxEvent → Happening) (eventId : ℤ) (done : Bool)
    (db : Outbox) : List Happening :=
  if done then ((db.events.find? eventId).toList).map happening else []

/-- The state after a step. -/
def World.next (w : World) (step : Step) : World :=
  match step.action with
  | .enqueue event =>
    w.attempt step.now (enqueue event step.now) fun id db =>
      ((db.events.find? id).toList).map .enqueued
  | .claimEvents tenantId workerId publisherName batchSize leaseSeconds locked =>
    w.attempt step.now
      (claimEvents tenantId workerId publisherName batchSize leaseSeconds
        (locked ++ w.lockedIds) step.now)
      fun events _ => events.map .claimed
  | .beginReport report =>
    match report.validate, report.matched step.now w.db.events.rows with
    | .ok _, .ok matched =>
      { w with clock := step.now, pending := w.pending ++ [⟨report, step.now, matched⟩] }
    | _, _ => { w with clock := step.now }
  | .endReport report =>
    match w.pending.find? fun entry => decide (entry.report = report) with
    | some entry =>
      { w.attempt step.now (report.finish entry.updatedAt entry.matched step.now)
          (reportHappens entry) with pending := w.without report }
    | none => { w with clock := step.now }
  | .loseReport report => { w with clock := step.now, pending := w.without report }
  | .replayDeadLetter tenantId eventId userId expectedReplayCount =>
    w.attempt step.now (replayDeadLetter tenantId eventId userId expectedReplayCount step.now)
      (deadLetterHappens .replayed eventId)
  | .discardDeadLetter tenantId eventId userId expectedReplayCount reason =>
    w.attempt step.now
      (discardDeadLetter tenantId eventId userId expectedReplayCount reason step.now)
      (deadLetterHappens .discarded eventId)
  | .purgePublished tenantId retentionSeconds batchSize locked =>
    w.attempt step.now
      (purgePublished tenantId retentionSeconds batchSize (locked ++ w.lockedIds) step.now)
      fun _ _ => []
  | .changeMemberships memberships => { w with clock := step.now, db := { w.db with memberships } }

/-- The worker of a report claimed its event, and has no other report about that
claim running. -/
def World.mayReport (w : World) (report : Report) : Prop :=
  w.history.any (isClaimOf report) = true ∧
    ∀ entry ∈ w.pending, claimOf entry.report ≠ claimOf report

/-- The clock does not go back, and workers report what they claimed. -/
def Allowed (w : World) (step : Step) : Prop :=
  w.clock ≤ step.now ∧
    match step.action with
    | .beginReport report => w.mayReport report
    | _ => True

/-- Runs whose steps meet a further condition. -/
abbrev OutboxRun (condition : World → Step → Prop) : World → World → Prop :=
  Run (fun w step w' => w' = w.next step) fun w step => Allowed w step ∧ condition w step

/-- Runs without a further condition. -/
def anyStep (_ : World) (_ : Step) : Prop := True

instance (w : World) (report : Report) : Decidable (w.mayReport report) :=
  inferInstanceAs (Decidable (_ ∧ _))

instance (w : World) (step : Step) : Decidable (Allowed w step) :=
  match step with
  | ⟨now, .beginReport report⟩ => inferInstanceAs (Decidable (w.clock ≤ now ∧ w.mayReport report))
  | ⟨now, .enqueue _⟩ | ⟨now, .claimEvents ..⟩ | ⟨now, .endReport _⟩ | ⟨now, .loseReport _⟩
  | ⟨now, .replayDeadLetter ..⟩ | ⟨now, .discardDeadLetter ..⟩ | ⟨now, .purgePublished ..⟩
  | ⟨now, .changeMemberships _⟩ => inferInstanceAs (Decidable (w.clock ≤ now ∧ True))

section Orders

/-- An event of the order with number seven. -/
def orderEvent (eventKey : String) (sequence : ℤ) : NewOutboxEvent where
  tenantId := 1
  inventoryOwnerId := none
  facilityId := none
  actorUserId := none
  eventKey := eventKey
  aggregateType := "order"
  aggregateId := "7"
  orderingKey := "order:7"
  aggregateSequence := sequence
  eventType := "order.released"
  schemaVersion := 1
  payload := ⟨true, "order 7"⟩
  occurredAt := 0

/-- A worker claims for one second. -/
def claimBy (workerId : String) : Action := .claimEvents 1 workerId "stdout" 10 1 []

/-- A worker reports that it delivered the first event of its first claim. -/
def deliveryBy (workerId : String) : Report := ⟨1, 1, workerId, 1, none⟩

/-- Two events of one order are enqueued, and the first of them is claimed. -/
def claimedOrder : List Step :=
  [⟨1, .enqueue (orderEvent "order-7-1" 1)⟩, ⟨2, .enqueue (orderEvent "order-7-2" 2)⟩,
   ⟨3, claimBy "worker-a"⟩]

/-- The first event is delivered, and the second is claimed. -/
def deliveredOrder : List Step :=
  claimedOrder ++
    [⟨4, .beginReport (deliveryBy "worker-a")⟩, ⟨5, .endReport (deliveryBy "worker-a")⟩,
     ⟨6, claimBy "worker-b"⟩]

theorem deliveredOrder_allowed :
    Replays World.next (fun w step => Allowed w step ∧ anyStep w step) deliveredOrder
      World.initial := by
  refine ⟨⟨?_, trivial⟩, ⟨?_, trivial⟩, ⟨?_, trivial⟩, ⟨?_, trivial⟩, ⟨?_, trivial⟩, ⟨?_, trivial⟩,
    trivial⟩ <;> decide +kernel

/-- The state after that run. -/
def afterDelivery : World := replay World.next deliveredOrder World.initial

end Orders

end Wareboxes.OutboxRuns
