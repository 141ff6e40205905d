import Wareboxes.KeyedTables
import Wareboxes.RustText
import Wareboxes.RustTime
import Wareboxes.Transactions

/-!
# Tables of the transactional outbox

The outbox keeps one row for each committed domain event, one counter for
each ordering key, one journal row for each delivery attempt and one for its
result, and evidence of every replay and discard of a dead letter. Columns
that the database forces to be present together are one optional record: a
claim has its time, its worker and its lease, a discard its time, its reason
and its user. Foreign keys into tables outside the outbox are not shown, apart
from the active tenant memberships, which the evidence triggers read.
-/

namespace Wareboxes.OutboxTables

open KeyedTables RustText Transactions

/-- A `timestamptz`, as microseconds since the Unix epoch. -/
abbrev Timestamp := ℤ

/-- The first instant that PostgreSQL represents. -/
def minTimestamp : Timestamp := -210866803200000000

/-- The first instant after those that PostgreSQL represents. -/
def endTimestamp : Timestamp := 9224318016000000000

/-- The instant is one that PostgreSQL represents. -/
def representable (instant : Timestamp) : Bool :=
  decide (minTimestamp ≤ instant) && decide (instant < endTimestamp)

/-- An instant moved by a `BIGINT` multiple of `INTERVAL '1 second'`. -/
def addSeconds (instant : Timestamp) (seconds : ℤ) : Timestamp :=
  instant + seconds * 1000000

/-- The largest `INTEGER`. -/
def maxInteger : ℤ := 2147483647

/-- How a persistence call fails. -/
inductive PersistenceError where
  /-- An argument was refused before the database was asked. -/
  | invalidInput (message : String)
  /-- The stored data contradicts the caller. -/
  | conflict (message : String)
  /-- The stored data is not what the code relies on. -/
  | invalidData (message : String)
  /-- The database refused a statement, for the named constraint or range. -/
  | database (reason : String)

/-- Transactions that fail with a persistence error. -/
abbrev PersistenceResult := Except PersistenceError

/-- `required_text`. -/
def requiredText (value label : String) : PersistenceResult Unit :=
  if isEmpty (trim value) then .error (.invalidInput (label ++ " cannot be blank")) else .ok ()

/-- `bounded_text`. -/
def boundedText (value label : String) (maximumCharacters : ℕ) : PersistenceResult Unit := do
  requiredText value label
  if maximumCharacters < charCount value then
    .error (.invalidInput (label ++ " cannot exceed " ++ toString maximumCharacters ++
      " characters"))
  else .ok ()

/-- A JSON value, as far as the outbox looks at it. -/
structure Payload where
  /-- It is a JSON object. -/
  isObject : Bool
  /-- Its text. -/
  encoding : String
  deriving DecidableEq

/-- The envelope of an event, which no statement changes after the insertion. -/
structure NewOutboxEvent where
  /-- The tenant that the event belongs to. -/
  tenantId : ℤ
  /-- The owner of the goods. -/
  inventoryOwnerId : Option ℤ
  /-- The facility. -/
  facilityId : Option ℤ
  /-- The user who caused the event. -/
  actorUserId : Option ℤ
  /-- The key of the event. -/
  eventKey : String
  /-- The kind of aggregate that changed. -/
  aggregateType : String
  /-- Which one changed. -/
  aggregateId : String
  /-- Events of one tenant with one ordering key are delivered in sequence. -/
  orderingKey : String
  /-- The position among the events of the ordering key. -/
  aggregateSequence : ℤ
  /-- What happened. -/
  eventType : String
  /-- The version of the payload's shape. -/
  schemaVersion : ℤ
  /-- What is delivered. -/
  payload : Payload
  /-- When it happened. -/
  occurredAt : Timestamp
  deriving DecidableEq

/-- The columns that a claim sets together. -/
structure Claim where
  /-- When it was made. -/
  claimedAt : Timestamp
  /-- The worker that made it. -/
  claimedBy : String
  /-- When it lapses. -/
  leaseExpiresAt : Timestamp
  deriving DecidableEq

/-- The columns that a discard sets together. -/
structure Discard where
  /-- When it was. -/
  discardedAt : Timestamp
  /-- Why. -/
  discardReason : String
  /-- By whom. -/
  discardedByUserId : ℤ
  deriving DecidableEq

/-- A row of `outbox_events`. -/
structure OutboxEvent extends NewOutboxEvent where
  /-- Its identity. -/
  id : ℤ
  /-- When the row was inserted. -/
  created : Timestamp
  /-- The event is not delivered before this time. -/
  availableAt : Timestamp
  /-- The worker that delivers the event now. -/
  claim : Option Claim
  /-- The number of claims that were ever made. -/
  claimVersion : ℤ
  /-- The number of claims since the insertion or the last replay. -/
  attempts : ℤ
  /-- Why the last delivery failed. -/
  lastError : Option String
  /-- When the event was given up. -/
  deadLetteredAt : Option Timestamp
  /-- How often the event was replayed. -/
  replayCount : ℤ
  /-- The terminal disposition of an event that was given up. -/
  discard : Option Discard
  /-- When the event was delivered. -/
  publishedAt : Option Timestamp
  deriving DecidableEq

/-- The event waits neither for its delivery nor for an operator. -/
def OutboxEvent.isSettled (event : OutboxEvent) : Bool :=
  event.publishedAt.isSome || event.discard.isSome

/-- The events of one tenant and one ordering key are delivered in sequence. -/
def OutboxEvent.stream (event : OutboxEvent) : ℤ × String := (event.tenantId, event.orderingKey)

/-- A row of `outbox_event_keys`. -/
structure EventKeyRow where
  /-- The tenant. -/
  tenantId : ℤ
  /-- The key that no later event of the tenant may use. -/
  eventKey : String
  /-- When the key was taken. -/
  created : Timestamp

/-- The primary key of `outbox_event_keys`. -/
def EventKeyRow.key (row : EventKeyRow) : ℤ × String := (row.tenantId, row.eventKey)

/-- A row of `outbox_aggregate_sequences`. -/
structure SequenceRow where
  /-- The tenant. -/
  tenantId : ℤ
  /-- The key of the stream. -/
  orderingKey : String
  /-- The last place that was given out. -/
  lastSequence : ℤ
  /-- When it was. -/
  updated : Timestamp

/-- The primary key of `outbox_aggregate_sequences`. -/
def SequenceRow.key (row : SequenceRow) : ℤ × String := (row.tenantId, row.orderingKey)

/-- A row of `outbox_delivery_attempts`. -/
structure AttemptRow where
  /-- The tenant. -/
  tenantId : ℤ
  /-- The event. -/
  outboxEventId : ℤ
  /-- Its key. -/
  eventKey : String
  /-- What happened. -/
  eventType : String
  /-- The claim. -/
  claimVersion : ℤ
  /-- How often the event had been replayed. -/
  replayCount : ℤ
  /-- The number of the attempt since the last replay. -/
  attemptNumber : ℤ
  /-- Who made it. -/
  workerId : String
  /-- How it is delivered. -/
  publisherName : String
  /-- When it was made. -/
  claimedAt : Timestamp
  /-- When the claim lapses. -/
  leaseExpiresAt : Timestamp

/-- The primary key of `outbox_delivery_attempts`. -/
def AttemptRow.key (row : AttemptRow) : ℤ × ℤ × ℤ :=
  (row.tenantId, row.outboxEventId, row.claimVersion)

/-- What became of a delivery attempt. -/
inductive DeliveryAttemptOutcome where
  /-- The event was delivered. -/
  | published
  /-- The delivery failed and will be tried again. -/
  | retryScheduled
  /-- The delivery failed for good. -/
  | permanentFailure
  /-- The delivery failed and the attempts are spent. -/
  | retryExhausted
  /-- The worker reported without holding the claim. -/
  | leaseLost
  deriving DecidableEq

/-- A row of `outbox_delivery_attempt_results`. -/
structure ResultRow where
  /-- The tenant. -/
  tenantId : ℤ
  /-- The event. -/
  outboxEventId : ℤ
  /-- The claim that the result belongs to. -/
  claimVersion : ℤ
  /-- How the delivery ended. -/
  outcome : DeliveryAttemptOutcome
  /-- When the result was recorded. -/
  completedAt : Timestamp
  /-- Why the delivery failed. -/
  error : Option String
  /-- The delay before the next attempt. -/
  retryAfterSeconds : Option ℤ

/-- The primary key of `outbox_delivery_attempt_results`. -/
def ResultRow.key (row : ResultRow) : ℤ × ℤ × ℤ :=
  (row.tenantId, row.outboxEventId, row.claimVersion)

/-- A row of `outbox_dead_letter_replays`. -/
structure ReplayRow where
  /-- The tenant. -/
  tenantId : ℤ
  /-- The event. -/
  outboxEventId : ℤ
  /-- The owner. -/
  inventoryOwnerId : Option ℤ
  /-- The facility. -/
  facilityId : Option ℤ
  /-- Its key. -/
  eventKey : String
  /-- What happened. -/
  eventType : String
  /-- The generation that was given up. -/
  previousReplayCount : ℤ
  /-- The generation that starts. -/
  resultingReplayCount : ℤ
  /-- How many it had. -/
  previousAttempts : ℤ
  /-- Why the last delivery failed. -/
  lastErrorSnapshot : String
  /-- By whom. -/
  replayedByUserId : ℤ
  /-- When it was. -/
  replayedAt : Timestamp

/-- The unique generation of an event. -/
def ReplayRow.key (row : ReplayRow) : ℤ × ℤ × ℤ :=
  (row.tenantId, row.outboxEventId, row.resultingReplayCount)

/-- A row of `outbox_dead_letter_discards`. -/
structure DiscardRow where
  /-- The tenant. -/
  tenantId : ℤ
  /-- The event. -/
  outboxEventId : ℤ
  /-- The owner. -/
  inventoryOwnerId : Option ℤ
  /-- The facility. -/
  facilityId : Option ℤ
  /-- Its key. -/
  eventKey : String
  /-- What happened. -/
  eventType : String
  /-- The generation that was discarded. -/
  replayCount : ℤ
  /-- How many it had. -/
  previousAttempts : ℤ
  /-- Why the last delivery failed. -/
  lastErrorSnapshot : String
  /-- Why the event was discarded. -/
  discardReason : String
  /-- By whom. -/
  discardedByUserId : ℤ
  /-- When it was. -/
  discardedAt : Timestamp

/-- An event is discarded once. -/
def DiscardRow.key (row : DiscardRow) : ℤ × ℤ := (row.tenantId, row.outboxEventId)

/-- The committed contents of the outbox tables. -/
structure Outbox where
  /-- `outbox_events`. -/
  events : KeyedTable OutboxEvent.id
  /-- The last value that the identity column took. -/
  lastId : ℤ
  /-- `outbox_event_keys`. -/
  eventKeys : KeyedTable EventKeyRow.key
  /-- `outbox_aggregate_sequences`. -/
  sequences : KeyedTable SequenceRow.key
  /-- `outbox_delivery_attempts`. -/
  attempts : KeyedTable AttemptRow.key
  /-- `outbox_delivery_attempt_results`. -/
  results : KeyedTable ResultRow.key
  /-- `outbox_dead_letter_replays`. -/
  replays : KeyedTable ReplayRow.key
  /-- `outbox_dead_letter_discards`. -/
  discards : KeyedTable DiscardRow.key
  /-- The active memberships, as pairs of a tenant and a user. -/
  memberships : List (ℤ × ℤ)

/-- A new database. -/
def Outbox.initial : Outbox := ⟨.empty, 0, .empty, .empty, .empty, .empty, .empty, .empty, []⟩

/-- The transactions of the outbox. -/
abbrev OutboxTx := Transaction Outbox PersistenceError

end Wareboxes.OutboxTables
