import Wareboxes.OutboxTables

/-!
# Operations of the transactional outbox

Each operation is one transaction of `outbox.rs`, read at a given time of the
database clock. The rows that another transaction holds locked are an argument
of the operations that skip locked rows. A delivery report is split at its two
statements, the guarded update of the event and the insertion into the result
journal, because an update that matches no row takes no lock and other
transactions can run in between.
-/

namespace Wareboxes.OutboxOperations

open RustText RustTime Transactions Transaction OutboxTables

/-- The sequence that the next event of an ordering key must have. The addition
wraps, and the result is then refused because sequences are positive. -/
def expectedSequence : Option ℤ → ℤ
  | none => 1
  | some sequence => if sequence = maxI64 then -maxI64 - 1 else sequence + 1

/-- The row that `enqueue` inserts. -/
def newRow (event : NewOutboxEvent) (id : ℤ) (now : Timestamp) : OutboxEvent :=
  { event with
    id, created := now, availableAt := now, claim := none, claimVersion := 0, attempts := 0
    lastError := none, deadLetteredAt := none, replayCount := 0, discard := none
    publishedAt := none }

/-- The checks of `enqueue` that do not read the database. -/
def NewOutboxEvent.validate (event : NewOutboxEvent) : PersistenceResult Unit := do
  requiredText event.eventKey "event key"
  requiredText event.aggregateType "aggregate type"
  requiredText event.aggregateId "aggregate ID"
  requiredText event.orderingKey "ordering key"
  requiredText event.eventType "event type"
  if event.aggregateSequence ≤ 0 then
    .error (.invalidInput "aggregate sequence must be positive")
  else if event.schemaVersion ≤ 0 then
    .error (.invalidInput "schema version must be positive")
  else if !event.payload.isObject then
    .error (.invalidInput "outbox payload must be an object")
  else .ok ()

/-- The columns that the conflict clause of the counter sets. -/
def advanced (sequence : ℤ) (now : Timestamp) (row : SequenceRow) : SequenceRow :=
  { row with lastSequence := sequence, updated := now }

theorem advanced_key (sequence : ℤ) (now : Timestamp) (row : SequenceRow) :
    (advanced sequence now row).key = row.key := rfl

/-- Advance the counter of an ordering key, or start it. -/
def advanceSequence (event : NewOutboxEvent) (now : Timestamp) : OutboxTx Unit := do
  let current ← gets fun db => db.sequences.find? (event.tenantId, event.orderingKey)
  match current with
  | none =>
    let sequences ← gets fun db => db.sequences.insert?
      ⟨event.tenantId, event.orderingKey, event.aggregateSequence, now⟩
    let sequences ← orFail sequences (.database "outbox_aggregate_sequences_pkey")
    modify fun db => { db with sequences }
  | some row =>
    ensure (event.aggregateSequence = row.lastSequence + 1 ∧ row.updated ≤ now)
      (.database "outbox aggregate sequences must advance by one")
    modify fun db => { db with
      sequences := db.sequences.updateWhere
        (fun other => decide (other.key = (event.tenantId, event.orderingKey)))
        (advanced event.aggregateSequence now) (advanced_key event.aggregateSequence now) }

/-- `enqueue`. -/
def enqueue (event : NewOutboxEvent) (now : Timestamp) : OutboxTx ℤ := do
  lift (NewOutboxEvent.validate event)
  let eventKeys ← gets fun db => db.eventKeys.insert? ⟨event.tenantId, event.eventKey, now⟩
  let eventKeys ← orFail eventKeys (.database "outbox_event_keys_pkey")
  modify fun db => { db with eventKeys }
  let current ← gets fun db =>
    (db.sequences.find? (event.tenantId, event.orderingKey)).map SequenceRow.lastSequence
  ensure (event.aggregateSequence = expectedSequence current)
    (.conflict "outbox aggregate sequence must be contiguous")
  advanceSequence event now
  let rows ← gets fun db => db.events.rows
  ensure (∀ row ∈ rows, ¬(row.tenantId = event.tenantId ∧ row.eventKey = event.eventKey))
    (.database "outbox_events_tenant_id_event_key_key")
  ensure (∀ row ∈ rows, ¬(row.tenantId = event.tenantId ∧ row.orderingKey = event.orderingKey ∧
      row.aggregateSequence = event.aggregateSequence))
    (.database "outbox_events_tenant_id_ordering_key_aggregate_sequence_key")
  let id ← gets fun db => db.lastId + 1
  let events ← gets fun db => db.events.insert? (newRow event id now)
  let events ← orFail events (.database "outbox_events_pkey")
  modify fun db => { db with events, lastId := id }
  return id

/-- The conditions of the claiming query on the event itself. -/
def isDue (tenantId : ℤ) (now : Timestamp) (event : OutboxEvent) : Bool :=
  event.tenantId == tenantId && event.publishedAt.isNone && event.deadLetteredAt.isNone &&
    event.discard.isNone && decide (event.availableAt ≤ now) &&
    event.claim.all fun claim => decide (claim.leaseExpiresAt ≤ now)

/-- The row is an unsettled predecessor of the event. -/
def blocks (event predecessor : OutboxEvent) : Bool :=
  predecessor.tenantId == event.tenantId && predecessor.orderingKey == event.orderingKey &&
    decide (predecessor.aggregateSequence < event.aggregateSequence) &&
    predecessor.publishedAt.isNone && predecessor.discard.isNone

/-- The `WHERE` clause of the claiming query. -/
def isClaimable (rows : List OutboxEvent) (tenantId : ℤ) (now : Timestamp)
    (event : OutboxEvent) : Bool :=
  isDue tenantId now event && !rows.any (blocks event)

/-- The order of the claiming query. -/
def availableBefore (first second : OutboxEvent) : Prop :=
  first.availableAt < second.availableAt ∨
    first.availableAt = second.availableAt ∧ first.id ≤ second.id

instance : DecidableRel availableBefore := fun first second =>
  inferInstanceAs (Decidable (first.availableAt < second.availableAt ∨
    first.availableAt = second.availableAt ∧ first.id ≤ second.id))

/-- The identities that the claiming query selects and locks. -/
def candidates (rows : List OutboxEvent) (tenantId : ℤ) (limit : ℕ) (locked : List ℤ)
    (now : Timestamp) : List ℤ :=
  (((((rows.filter (isClaimable rows tenantId now)).insertionSort availableBefore).filter
    fun event => !locked.contains event.id).take limit).map OutboxEvent.id)

/-- The columns that a claim sets. -/
def takeClaim (workerId : String) (leaseSeconds : ℤ) (now : Timestamp) (event : OutboxEvent) :
    OutboxEvent :=
  { event with
    claim := some ⟨now, workerId, addSeconds now leaseSeconds⟩
    claimVersion := event.claimVersion + 1
    attempts := event.attempts + 1 }

@[simp] theorem takeClaim_id (workerId : String) (leaseSeconds : ℤ) (now : Timestamp)
    (event : OutboxEvent) : (takeClaim workerId leaseSeconds now event).id = event.id := rfl

/-- The journal row of a claimed event. -/
def attemptOf (publisherName : String) (event : OutboxEvent) (claim : Claim) : AttemptRow where
  tenantId := event.tenantId
  outboxEventId := event.id
  eventKey := event.eventKey
  eventType := event.eventType
  claimVersion := event.claimVersion
  replayCount := event.replayCount
  attemptNumber := event.attempts
  workerId := claim.claimedBy
  publisherName := publisherName
  claimedAt := claim.claimedAt
  leaseExpiresAt := claim.leaseExpiresAt

/-- Two journal rows that the further unique constraints keep apart. -/
def attemptsClash (first second : AttemptRow) : Bool :=
  first.tenantId == second.tenantId && first.eventKey == second.eventKey &&
    (first.claimVersion == second.claimVersion ||
      first.replayCount == second.replayCount && first.attemptNumber == second.attemptNumber)

/-- Insert the journal row of one claimed event. -/
def insertAttempt (row : AttemptRow) : OutboxTx Unit := do
  let rows ← gets fun db => db.attempts.rows
  ensure (rows.all fun other => !attemptsClash other row)
    (.database "outbox_delivery_attempts_tenant_id_event_key")
  let attempts ← gets fun db => db.attempts.insert? row
  let attempts ← orFail attempts (.database "outbox_delivery_attempts_pkey")
  modify fun db => { db with attempts }

/-- The claimed events that the journal query selects, with their claims. -/
def journalled (tenantId : ℤ) (workerId : String) (events : List OutboxEvent) :
    List (OutboxEvent × Claim) :=
  events.filterMap fun event =>
    match event.claim with
    | some claim =>
      if event.tenantId = tenantId ∧ claim.claimedBy = workerId then some (event, claim) else none
    | none => none

/-- The checks of `claim_events` that do not read the database. -/
def validateClaim (workerId publisherName : String) (batchSize leaseSeconds : ℤ) :
    PersistenceResult Unit := do
  boundedText workerId "worker ID" 200
  boundedText publisherName "publisher name" 200
  if ¬(1 ≤ batchSize ∧ batchSize ≤ 1000) then
    .error (.invalidInput "outbox batch size must be between 1 and 1000")
  else if leaseSeconds ≤ 0 then
    .error (.invalidInput "outbox claim lease must be positive")
  else .ok ()

/-- The new column values are ones that the columns can hold. -/
def claimFits (leaseSeconds : ℤ) (now : Timestamp) (event : OutboxEvent) : Bool :=
  representable (addSeconds now leaseSeconds) && decide (event.claimVersion < maxI64) &&
    decide (event.attempts < maxInteger)

/-- `claim_events`. -/
def claimEvents (tenantId : ℤ) (workerId publisherName : String) (batchSize leaseSeconds : ℤ)
    (locked : List ℤ) (now : Timestamp) : OutboxTx (List OutboxEvent) := do
  lift (validateClaim workerId publisherName batchSize leaseSeconds)
  let ids ← gets fun db => candidates db.events.rows tenantId batchSize.toNat locked now
  let rows ← gets fun db => db.events.rows
  ensure (∀ row ∈ rows, row.id ∈ ids → claimFits leaseSeconds now row)
    (.database "value out of range")
  modify fun db => { db with
    events := db.events.updateWhere (fun row => ids.contains row.id)
      (takeClaim workerId leaseSeconds now) (takeClaim_id workerId leaseSeconds now) }
  let events ← gets fun db =>
    (db.events.rows.filter fun row => ids.contains row.id).insertionSort (·.id ≤ ·.id)
  let journal := journalled tenantId workerId events
  loop (fun entry _ => insertAttempt (attemptOf publisherName entry.1 entry.2)) journal ()
  ensure (journal.length = events.length)
    (.invalidData "delivery attempt journal did not record every claimed event")
  return events

/-- Whether a failed delivery is worth another attempt. -/
inductive DeliveryFailureClass where
  /-- The delivery may succeed later. -/
  | retryable
  | permanent
  deriving DecidableEq

/-- Why and how a delivery failed. -/
structure Failure where
  /-- Whether another attempt is worth it. -/
  failureClass : DeliveryFailureClass
  error : String
  /-- The delay before the next attempt. -/
  retryAfterSeconds : ℤ
  /-- The number of attempts after which the event is given up. -/
  maxAttempts : ℤ
  deriving DecidableEq

/-- The failure gives the event up after this many attempts. -/
def Failure.givesUp (failure : Failure) (attempts : ℤ) : Bool :=
  failure.failureClass == .permanent || decide (failure.maxAttempts ≤ attempts)

/-- What a worker reports about a claim. -/
structure Report where
  tenantId : ℤ
  /-- The event that the worker claimed. -/
  eventId : ℤ
  workerId : String
  claimVersion : ℤ
  /-- The failure, or nothing when the event was delivered. -/
  failure : Option Failure
  deriving DecidableEq

namespace Report

/-- The checks of `mark_published` and `mark_failed` that do not read the database. -/
def validate (report : Report) : PersistenceResult Unit := do
  boundedText report.workerId "worker ID" 200
  match report.failure with
  | none => .ok ()
  | some failure =>
    boundedText failure.error "delivery error" 4000
    if failure.retryAfterSeconds < 0 then
      .error (.invalidInput "outbox retry delay cannot be negative")
    else if failure.maxAttempts ≤ 0 then
      .error (.invalidInput "outbox maximum attempts must be positive")
    else .ok ()

/-- The `WHERE` clause of both updates. -/
def holdsClaim (report : Report) (now : Timestamp) (event : OutboxEvent) : Bool :=
  event.tenantId == report.tenantId && event.id == report.eventId &&
    (event.claim.any fun claim =>
      claim.claimedBy == report.workerId && decide (now < claim.leaseExpiresAt)) &&
    event.claimVersion == report.claimVersion && event.deadLetteredAt.isNone &&
    event.discard.isNone && event.publishedAt.isNone

/-- The columns that the update sets. -/
def settle (report : Report) (now : Timestamp) (event : OutboxEvent) : OutboxEvent :=
  match report.failure with
  | none => { event with publishedAt := some now, claim := none, lastError := none }
  | some failure =>
    { event with
      availableAt := if failure.givesUp event.attempts then event.availableAt
        else addSeconds now failure.retryAfterSeconds
      claim := none
      lastError := some (trim failure.error)
      deadLetteredAt := if failure.givesUp event.attempts then some now else none }

@[simp] theorem settle_id (report : Report) (now : Timestamp) (event : OutboxEvent) :
    (report.settle now event).id = event.id := by
  unfold settle
  split <;> rfl

/-- The time of the next attempt is one that the column can hold. -/
def fits (report : Report) (now : Timestamp) (event : OutboxEvent) : Bool :=
  report.failure.all fun failure =>
    failure.givesUp event.attempts || representable (addSeconds now failure.retryAfterSeconds)

/-- The first statement: the event row that the update matches, as it was. -/
def matched (report : Report) (now : Timestamp) (rows : List OutboxEvent) :
    PersistenceResult (Option OutboxEvent) :=
  match rows.find? (report.holdsClaim now) with
  | none => .ok none
  | some event =>
    if report.fits now event then .ok (some event) else .error (.database "timestamp out of range")

/-- The outcome that is recorded for the attempt. -/
def outcome (report : Report) (event : Option OutboxEvent) : DeliveryAttemptOutcome :=
  match report.failure, event with
  | _, none => .leaseLost
  | none, some _ => .published
  | some failure, some event =>
    match failure.failureClass with
    | .permanent => .permanentFailure
    | .retryable =>
      if failure.maxAttempts ≤ event.attempts then .retryExhausted else .retryScheduled

/-- The result row of `record_delivery_result`. -/
def resultRow (report : Report) (event : Option OutboxEvent) (now : Timestamp) : ResultRow where
  tenantId := report.tenantId
  outboxEventId := report.eventId
  claimVersion := report.claimVersion
  outcome := report.outcome event
  completedAt := now
  error := report.failure.map fun failure => trim failure.error
  retryAfterSeconds :=
    if report.outcome event = .retryScheduled then report.failure.map Failure.retryAfterSeconds
    else none

/-- The journal has the attempt that the report is about. -/
def attempted (report : Report) (db : Outbox) : Bool :=
  (db.attempts.find? (report.tenantId, report.eventId, report.claimVersion)).any fun attempt =>
    attempt.workerId == report.workerId

/-- `record_delivery_result`: the number of inserted rows. -/
def recordDeliveryResult (report : Report) (event : Option OutboxEvent) (now : Timestamp) :
    OutboxTx ℕ := do
  let attempted ← gets report.attempted
  let inserted ← gets fun db => db.results.insert? (report.resultRow event now)
  match attempted, inserted with
  | true, some results =>
    modify fun db => { db with results }
    return 1
  | _, _ => return 0

/-- The error of a report whose result could not be recorded. -/
def missingResult (report : Report) : String :=
  match report.failure with
  | none => "published event is missing its delivery attempt result"
  | some _ => "failed event is missing its delivery attempt result"

/-- The row that the first statement changed, with its new columns. -/
def applyUpdate (report : Report) (updatedAt : Timestamp) (event : Option OutboxEvent)
    (db : Outbox) :
    Outbox :=
  if event.isSome then
    { db with
      events := db.events.updateWhere (fun row => decide (row.id = report.eventId))
        (report.settle updatedAt) (report.settle_id updatedAt) }
  else db

/-- The second statement and the commit, after an update at the given time that
matched the given row. -/
def finish (report : Report) (updatedAt : Timestamp) (event : Option OutboxEvent)
    (now : Timestamp) : OutboxTx Bool := do
  modify (report.applyUpdate updatedAt event)
  let journalRows ← report.recordDeliveryResult event now
  ensure (event.isSome = true → journalRows = 1) (.invalidData report.missingResult)
  return event.isSome

end Report

/-- The conditions that both dead-letter operations put on their event. -/
def isDeadLetter (tenantId eventId expectedReplayCount : ℤ) (event : OutboxEvent) : Bool :=
  event.tenantId == tenantId && event.id == eventId &&
    event.replayCount == expectedReplayCount && event.deadLetteredAt.isSome &&
    event.lastError.isSome && event.publishedAt.isNone && event.discard.isNone &&
    event.claim.isNone

/-- The text constraints of the evidence tables. -/
def evidenceText (value : String) (maximum : ℕ) : Bool :=
  btrim value == value && !isEmpty value && decide (charCount value ≤ maximum)

/-- The check constraints that both evidence tables put on the snapshot of an event. -/
def evidenceFits (event : OutboxEvent) : Bool :=
  evidenceText event.eventKey 500 && evidenceText event.eventType 500 &&
    decide (0 < event.attempts) && event.lastError.all fun error => evidenceText error 4000

/-- The evidence of a replay. -/
def replayEvidence (userId : ℤ) (now : Timestamp) (event : OutboxEvent) : ReplayRow where
  tenantId := event.tenantId
  outboxEventId := event.id
  inventoryOwnerId := event.inventoryOwnerId
  facilityId := event.facilityId
  eventKey := event.eventKey
  eventType := event.eventType
  previousReplayCount := event.replayCount
  resultingReplayCount := event.replayCount + 1
  previousAttempts := event.attempts
  lastErrorSnapshot := event.lastError.getD ""
  replayedByUserId := userId
  replayedAt := now

/-- The columns that a replay sets. -/
def replayed (now : Timestamp) (event : OutboxEvent) : OutboxEvent :=
  { event with
    availableAt := now, attempts := 0, lastError := none, deadLetteredAt := none
    replayCount := event.replayCount + 1, claim := none }

@[simp] theorem replayed_id (now : Timestamp) (event : OutboxEvent) :
    (replayed now event).id = event.id := rfl

/-- The identities that a dead-letter operation refuses before it asks the database. -/
def deadLetterArguments (eventId userId expectedReplayCount : ℤ) (message : String) :
    PersistenceResult Unit :=
  if eventId ≤ 0 ∨ userId ≤ 0 ∨ expectedReplayCount < 0 then .error (.invalidInput message)
  else .ok ()

/-- `replay_dead_letter`. -/
def replayDeadLetter (tenantId eventId userId expectedReplayCount : ℤ) (now : Timestamp) :
    OutboxTx Bool := do
  lift (deadLetterArguments eventId userId expectedReplayCount
    "dead-letter replay identity and expected generation are invalid")
  let target ← gets fun db =>
    db.events.rows.find? (isDeadLetter tenantId eventId expectedReplayCount)
  match target with
  | none => return false
  | some event =>
    ensure (event.replayCount < maxInteger) (.database "integer out of range")
    ensure (evidenceFits event) (.database "outbox_dead_letter_replays_check")
    let memberships ← gets Outbox.memberships
    ensure ((tenantId, userId) ∈ memberships)
      (.database "outbox dead-letter replay actor is not an active tenant member")
    let replays ← gets fun db => db.replays.insert? (replayEvidence userId now event)
    let replays ← orFail replays (.database "outbox_dead_letter_replays_event_generation_unique")
    modify fun db => { db with replays }
    let events ← gets fun db => db.events.updateOne? eventId
      (fun row => row.tenantId == tenantId && row.replayCount == expectedReplayCount)
      (replayed now) (replayed_id now)
    let events ← orFail events (.conflict "outbox dead-letter replay target changed")
    modify fun db => { db with events }
    return true

/-- The evidence of a discard. -/
def discardEvidence (userId : ℤ) (reason : String) (now : Timestamp) (event : OutboxEvent) :
    DiscardRow where
  tenantId := event.tenantId
  outboxEventId := event.id
  inventoryOwnerId := event.inventoryOwnerId
  facilityId := event.facilityId
  eventKey := event.eventKey
  eventType := event.eventType
  replayCount := event.replayCount
  previousAttempts := event.attempts
  lastErrorSnapshot := event.lastError.getD ""
  discardReason := reason
  discardedByUserId := userId
  discardedAt := now

/-- The columns that a discard sets. -/
def discarded (userId : ℤ) (reason : String) (now : Timestamp) (event : OutboxEvent) :
    OutboxEvent :=
  { event with discard := some ⟨now, reason, userId⟩ }

@[simp] theorem discarded_id (userId : ℤ) (reason : String) (now : Timestamp)
    (event : OutboxEvent) : (discarded userId reason now event).id = event.id := rfl

/-- The checks of `discard_dead_letter` on its reason. -/
def validateDiscardReason (reason : String) : PersistenceResult Unit := do
  boundedText reason "discard reason" 1000
  if trim reason ≠ reason ∨ reason.toList.any isControl then
    .error (.invalidInput "discard reason must be trimmed and control-free")
  else .ok ()

/-- `discard_dead_letter`. -/
def discardDeadLetter (tenantId eventId userId expectedReplayCount : ℤ) (reason : String)
    (now : Timestamp) : OutboxTx Bool := do
  lift (validateDiscardReason reason)
  lift (deadLetterArguments eventId userId expectedReplayCount
    "dead-letter discard identity and expected generation are invalid")
  let target ← gets fun db =>
    db.events.rows.find? (isDeadLetter tenantId eventId expectedReplayCount)
  match target with
  | none => return false
  | some event =>
    ensure (evidenceFits event) (.database "outbox_dead_letter_discards_check")
    let memberships ← gets Outbox.memberships
    ensure ((tenantId, userId) ∈ memberships)
      (.database "outbox dead-letter discard actor is not an active tenant member")
    let discards ← gets fun db => db.discards.insert? (discardEvidence userId reason now event)
    let discards ← orFail discards (.database "outbox_dead_letter_discards_event_unique")
    modify fun db => { db with discards }
    let events ← gets fun db => db.events.updateOne? eventId
      (fun row => row.tenantId == tenantId && row.replayCount == expectedReplayCount)
      (discarded userId reason now) (discarded_id userId reason now)
    let events ← orFail events (.conflict "outbox dead-letter discard target changed")
    modify fun db => { db with events }
    return true

/-- `COALESCE(published_at, discarded_at)`. -/
def settledAt (event : OutboxEvent) : Option Timestamp :=
  event.publishedAt.orElse fun _ => event.discard.map Discard.discardedAt

/-- The order of the purging query. -/
def settledBefore (first second : OutboxEvent) : Prop :=
  (settledAt first).getD 0 < (settledAt second).getD 0 ∨
    (settledAt first).getD 0 = (settledAt second).getD 0 ∧ first.id ≤ second.id

instance : DecidableRel settledBefore := fun first second =>
  inferInstanceAs (Decidable ((settledAt first).getD 0 < (settledAt second).getD 0 ∨
    (settledAt first).getD 0 = (settledAt second).getD 0 ∧ first.id ≤ second.id))

/-- The identities that the purging query selects and locks. -/
def expired (rows : List OutboxEvent) (tenantId retentionSeconds : ℤ) (limit : ℕ)
    (locked : List ℤ) (now : Timestamp) : List ℤ :=
  (((rows.filter fun event => event.tenantId == tenantId && (settledAt event).any fun instant =>
    decide (instant ≤ addSeconds now (-retentionSeconds))).insertionSort settledBefore).filter
      fun event => !locked.contains event.id).take limit |>.map OutboxEvent.id

/-- `purge_published`: the number of deleted rows. -/
def purgePublished (tenantId retentionSeconds batchSize : ℤ) (locked : List ℤ) (now : Timestamp) :
    OutboxTx ℕ := do
  ensure (0 ≤ retentionSeconds) (.invalidInput "outbox retention period cannot be negative")
  ensure (1 ≤ batchSize ∧ batchSize ≤ 10000)
    (.invalidInput "outbox purge batch size must be between 1 and 10000")
  ensure (representable (addSeconds now (-retentionSeconds)))
    (.database "timestamp out of range")
  let ids ← gets fun db =>
    expired db.events.rows tenantId retentionSeconds batchSize.toNat locked now
  let count ← gets fun db =>
    db.events.countWhere fun row => row.tenantId == tenantId && ids.contains row.id
  modify fun db => { db with
    events := db.events.deleteWhere fun row => row.tenantId == tenantId && ids.contains row.id }
  return count

end Wareboxes.OutboxOperations
