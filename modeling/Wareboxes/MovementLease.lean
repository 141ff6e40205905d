import Wareboxes.RustTime
import Wareboxes.Transactions

/-!
# The lease monitor of a claimed task

A handheld device that holds a claimed task converts the server's lease into a
deadline of its own monotonic clock, renews the lease by heartbeats and says
whether work that affects inventory may begin. One heartbeat is in flight at a
time. The retries of a failed heartbeat belong to one cycle, which began with
the first request, and the deadline of a renewal is counted from that beginning.
Attempt numbers and failure counts saturate.
-/

namespace Wareboxes.MovementLease

open RustTime Transactions

/-- The largest `u64`. -/
def maxU64 : ℕ := 18446744073709551615

/-- How a call of the monitor fails. -/
inductive LeaseError where
  /-- A window of the policy is empty. -/
  | invalidPolicy (message : String)
  | invalidTimestamp (field : String)
  /-- The lease does not expire after the heartbeat. -/
  | invalidLeaseWindow
  | monotonicTimeMovedBackwards
  /-- A time is outside the range of the monotonic clock. -/
  | monotonicOverflow
  | noHeartbeatInFlight
  /-- The heartbeat in flight belongs to no cycle. -/
  | missingHeartbeatCycle
  /-- The attempt was given up earlier. -/
  | staleHeartbeatAttempt (actual : ℕ)
  /-- Another attempt is in flight. -/
  | attemptMismatch (expected actual : ℕ)
  /-- The response is about another task. -/
  | taskMismatch (expected actual : ℤ)

/-- Wall-clock and monotonic readings that were captured together. -/
structure ClockSample where
  wallTime : DateTime
  monotonic : Duration

/-- The timing policy of a lease, whose windows are not empty. -/
structure LeasePolicy where
  /-- Inventory actions stop this long before the deadline. -/
  actionGuard : Duration
  retryDelay : Duration
  /-- The time allowed for a heartbeat. -/
  requestTimeout : Duration
  /-- There is a guard window. -/
  guard_pos : 0 < actionGuard.nanos
  /-- A retry waits. -/
  retry_pos : 0 < retryDelay.nanos
  /-- A request has time. -/
  timeout_pos : 0 < requestTimeout.nanos

/-- `DEFAULT_ACTION_GUARD`: one minute. -/
def defaultActionGuard : Duration := ⟨60000000000, by decide⟩

/-- `DEFAULT_RETRY_DELAY`: five seconds. -/
def defaultRetryDelay : Duration := ⟨5000000000, by decide⟩

/-- `DEFAULT_REQUEST_TIMEOUT`: fifteen seconds. -/
def defaultRequestTimeout : Duration := ⟨15000000000, by decide⟩

/-- `LeasePolicy::default`. -/
def LeasePolicy.default : LeasePolicy :=
  ⟨defaultActionGuard, defaultRetryDelay, defaultRequestTimeout, by decide, by decide, by decide⟩

/-- A heartbeat that the caller may send. -/
structure HeartbeatAttempt where
  /-- The number of the attempt. -/
  id : ℕ
  taskId : ℤ
  /-- When the attempt began. -/
  startedAt : Duration

/-- Why a heartbeat did not renew the lease. -/
inductive HeartbeatFailureKind where
  /-- The outcome is ambiguous or worth another attempt. -/
  | retryable
  /-- The server says that the claim is not held. -/
  | leaseRejected
  deriving DecidableEq

/-- The most recent outcome. -/
inductive HeartbeatOutcome where
  /-- The lease was renewed. -/
  | succeeded (attemptId : ℕ) (receivedAt : Duration)
  | failed (attemptId : ℕ) (receivedAt : Duration) (kind : HeartbeatFailureKind)
      (consecutiveFailures : ℕ)

/-- The state of the heartbeat schedule. -/
inductive HeartbeatState where
  /-- The next cycle begins at a time. -/
  | scheduled (nextAttemptAt : Duration)
  | inFlight (attemptId : ℕ) (startedAt : Duration)
  /-- The cycle goes on at a time. -/
  | retryScheduled (nextAttemptAt : Duration) (consecutiveFailures : ℕ)
  | leaseRejected
  deriving DecidableEq

/-- Why no inventory action may begin. -/
inductive ActionBlockReason where
  /-- The server has not confirmed the claim yet. -/
  | unverifiedLease
  /-- The guard window has begun. -/
  | leaseExpiresSoon
  /-- The deadline has passed. -/
  | leaseExpired
  /-- The server rejected the claim. -/
  | leaseRejected

/-- The fields of a heartbeat response. -/
structure HeartbeatLease where
  /-- The task that the response is about. -/
  taskId : ℤ
  /-- When the server renewed the lease. -/
  heartbeatAt : String
  leaseExpiresAt : String
  deriving DecidableEq

/-- The monitor of one claimed task. -/
structure MovementLeaseMonitor where
  taskId : ℤ
  /-- The expiry that the server last told. -/
  leaseExpiresAt : DateTime
  /-- The deadline on the monotonic clock. -/
  leaseDeadline : Duration
  policy : LeasePolicy
  heartbeatState : HeartbeatState
  /-- The most recent outcome. -/
  lastOutcome : Option HeartbeatOutcome
  nextAttemptId : ℕ
  /-- Failures since the last success. -/
  consecutiveFailures : ℕ
  /-- When the first request of the cycle was made. -/
  heartbeatCycleStartedAt : Option Duration
  /-- The server confirmed the claim. -/
  verified : Bool

/-- `Option::ok_or`. -/
def okOr {α : Type} (value : Option α) (error : LeaseError) : Except LeaseError α :=
  match value with
  | some value => .ok value
  | none => .error error

theorem okOr_eq_ok {α : Type} {value : Option α} {error : LeaseError} {out : α} :
    okOr value error = .ok out ↔ value = some out := by
  cases value <;> simp [okOr]

/-- Fail with an error when a condition holds. -/
def failIf (condition : Bool) (error : LeaseError) : Except LeaseError Unit :=
  if condition then .error error else .ok ()

/-- `parse_server_timestamp`. -/
def parseServerTimestamp (parse : String → Option DateTime) (field value : String) :
    Except LeaseError DateTime :=
  okOr (parse value) (.invalidTimestamp field)

/-- `checked_add`. -/
def checkedAdd (base delta : Duration) : Except LeaseError Duration :=
  okOr (base.checkedAdd delta) .monotonicOverflow

/-- `validate_monotonic_order`. -/
def validateMonotonicOrder (startedAt receivedAt : Duration) : Except LeaseError Unit :=
  failIf (decide (receivedAt.nanos < startedAt.nanos)) .monotonicTimeMovedBackwards

/-- `heartbeat_offset`: half of the lease, or earlier to leave room for retries. -/
def heartbeatOffset (leaseDuration : Duration) (policy : LeasePolicy) : Duration :=
  let retryReserve := (policy.retryDelay.checkedMul 2).getD .maximum
  let safetyReserve := (policy.actionGuard.checkedAdd retryReserve).getD .maximum
  leaseDuration.half.min (leaseDuration.saturatingSub safetyReserve)

namespace MovementLeaseMonitor

/-- `MovementLeaseMonitor::new`. -/
def new (parse : String → Option DateTime) (taskId : ℤ) (leaseExpiresAt : String)
    (observedAt : ClockSample) (policy : LeasePolicy) :
    Except LeaseError MovementLeaseMonitor := do
  let leaseExpiresAt ← parseServerTimestamp parse "lease_expires_at" leaseExpiresAt
  let remaining := (leaseExpiresAt.since observedAt.wallTime).getD .zero
  let leaseDeadline ← checkedAdd observedAt.monotonic remaining
  return {
    taskId, leaseExpiresAt, leaseDeadline, policy
    heartbeatState := .scheduled observedAt.monotonic
    lastOutcome := none
    nextAttemptId := 1
    consecutiveFailures := 0
    heartbeatCycleStartedAt := none
    verified := false }

variable (monitor : MovementLeaseMonitor)

/-- `heartbeat_due`. -/
def heartbeatDue (now : Duration) : Bool :=
  if monitor.leaseDeadline.nanos ≤ now.nanos then false
  else match monitor.heartbeatState with
    | .scheduled nextAttemptAt | .retryScheduled nextAttemptAt _ =>
      decide (nextAttemptAt.nanos ≤ now.nanos)
    | .inFlight _ _ | .leaseRejected => false

/-- `begin_heartbeat`. -/
def beginHeartbeat (now : Duration) : Option HeartbeatAttempt × MovementLeaseMonitor :=
  if monitor.heartbeatDue now then
    let cycleStartedAt := match monitor.heartbeatState with
      | .scheduled _ => some now
      | _ => monitor.heartbeatCycleStartedAt
    (some ⟨monitor.nextAttemptId, monitor.taskId, now⟩,
      { monitor with
        heartbeatCycleStartedAt := cycleStartedAt
        nextAttemptId := min (monitor.nextAttemptId + 1) maxU64
        heartbeatState := .inFlight monitor.nextAttemptId now })
  else (none, monitor)

/-- `heartbeat_request_timed_out`. -/
def heartbeatRequestTimedOut (now : Duration) : Bool :=
  match monitor.heartbeatState with
  | .inFlight _ startedAt =>
    decide (startedAt.nanos ≤ now.nanos) &&
      decide (monitor.policy.requestTimeout.nanos ≤ now.nanos - startedAt.nanos)
  | _ => false

/-- `action_block_at`. -/
def actionBlockAt : Duration := monitor.leaseDeadline.saturatingSub monitor.policy.actionGuard

/-- `require_in_flight`. -/
def requireInFlight (actualAttemptId : ℕ) : Except LeaseError Duration :=
  match monitor.heartbeatState with
  | .inFlight attemptId startedAt =>
    if attemptId = actualAttemptId then .ok startedAt
    else if actualAttemptId < attemptId then .error (.staleHeartbeatAttempt actualAttemptId)
    else .error (.attemptMismatch attemptId actualAttemptId)
  | _ =>
    if actualAttemptId < monitor.nextAttemptId then .error (.staleHeartbeatAttempt actualAttemptId)
    else .error .noHeartbeatInFlight

/-- A call through `&mut self` whose checks all come before its assignments. -/
def assign (result : Except LeaseError MovementLeaseMonitor) :
    Except LeaseError Unit × MovementLeaseMonitor :=
  match result with
  | .ok changed => (.ok (), changed)
  | .error error => (.error error, monitor)

/-- The monitor after a response that passes every check of `heartbeat_succeeded`. -/
def renewed (parse : String → Option DateTime) (attemptId : ℕ) (response : HeartbeatLease)
    (receivedAt : Duration) : Except LeaseError MovementLeaseMonitor := do
  let attemptStartedAt ← monitor.requireInFlight attemptId
  validateMonotonicOrder attemptStartedAt receivedAt
  let cycleStartedAt ← okOr monitor.heartbeatCycleStartedAt .missingHeartbeatCycle
  validateMonotonicOrder cycleStartedAt attemptStartedAt
  failIf (response.taskId != monitor.taskId) (.taskMismatch monitor.taskId response.taskId)
  let heartbeatAt ← parseServerTimestamp parse "heartbeat_at" response.heartbeatAt
  let leaseExpiresAt ← parseServerTimestamp parse "lease_expires_at" response.leaseExpiresAt
  let leaseDuration ← okOr (leaseExpiresAt.since heartbeatAt) .invalidLeaseWindow
  failIf (leaseDuration.nanos == 0) .invalidLeaseWindow
  let leaseDeadline ← checkedAdd cycleStartedAt leaseDuration
  let nextAttemptAt ← checkedAdd cycleStartedAt (heartbeatOffset leaseDuration monitor.policy)
  return { monitor with
    leaseExpiresAt, leaseDeadline
    heartbeatState := .scheduled nextAttemptAt
    lastOutcome := some (.succeeded attemptId receivedAt)
    consecutiveFailures := 0
    heartbeatCycleStartedAt := none
    verified := true }

/-- `heartbeat_succeeded`. -/
def heartbeatSucceeded (parse : String → Option DateTime) (attemptId : ℕ)
    (response : HeartbeatLease) (receivedAt : Duration) :
    Except LeaseError Unit × MovementLeaseMonitor :=
  monitor.assign (monitor.renewed parse attemptId response receivedAt)

/-- The schedule after a failure. -/
def stateAfterFailure (kind : HeartbeatFailureKind) (receivedAt : Duration)
    (consecutiveFailures : ℕ) : Except LeaseError HeartbeatState :=
  match kind with
  | .retryable => do
    let retryAt ← checkedAdd receivedAt monitor.policy.retryDelay
    return .retryScheduled (retryAt.min monitor.actionBlockAt) consecutiveFailures
  | .leaseRejected => .ok .leaseRejected

/-- The monitor after a failure that passes every check of `heartbeat_failed`. -/
def afterFailure (attemptId : ℕ) (kind : HeartbeatFailureKind) (receivedAt : Duration) :
    Except LeaseError MovementLeaseMonitor := do
  let startedAt ← monitor.requireInFlight attemptId
  validateMonotonicOrder startedAt receivedAt
  let consecutiveFailures := min (monitor.consecutiveFailures + 1) maxU32
  let heartbeatState ← monitor.stateAfterFailure kind receivedAt consecutiveFailures
  return { monitor with
    lastOutcome := some (.failed attemptId receivedAt kind consecutiveFailures)
    consecutiveFailures, heartbeatState
    heartbeatCycleStartedAt :=
      if kind = .leaseRejected then none else monitor.heartbeatCycleStartedAt }

/-- `heartbeat_failed`. -/
def heartbeatFailed (attemptId : ℕ) (kind : HeartbeatFailureKind) (receivedAt : Duration) :
    Except LeaseError Unit × MovementLeaseMonitor :=
  monitor.assign (monitor.afterFailure attemptId kind receivedAt)

/-- `expire_timed_out_heartbeat`. -/
def expireTimedOutHeartbeat (now : Duration) :
    Except LeaseError (Option ℕ) × MovementLeaseMonitor :=
  if monitor.heartbeatRequestTimedOut now then
    match monitor.heartbeatState with
    | .inFlight attemptId _ =>
      match monitor.heartbeatFailed attemptId .retryable now with
      | (.ok (), changed) => (.ok (some attemptId), changed)
      | (.error error, changed) => (.error error, changed)
    | _ => (.ok none, monitor)
  else (.ok none, monitor)

/-- `action_block_reason`. -/
def actionBlockReason (now : Duration) : Option ActionBlockReason :=
  if monitor.heartbeatState = .leaseRejected then some .leaseRejected
  else if monitor.leaseDeadline.nanos ≤ now.nanos then some .leaseExpired
  else if monitor.verified = false then some .unverifiedLease
  else if monitor.actionBlockAt.nanos ≤ now.nanos then some .leaseExpiresSoon
  else none

/-- `inventory_actions_allowed`. -/
def inventoryActionsAllowed (now : Duration) : Bool := (monitor.actionBlockReason now).isNone

section Calls

variable {monitor} {changed : MovementLeaseMonitor} {parse : String → Option DateTime}
  {attemptId : ℕ} {response : HeartbeatLease} {receivedAt now : Duration}
  {kind : HeartbeatFailureKind}

/-- What an allowed inventory action needs. -/
theorem allowed_iff : monitor.inventoryActionsAllowed now = true ↔
    monitor.heartbeatState ≠ .leaseRejected ∧ monitor.verified = true ∧
      now.nanos + monitor.policy.actionGuard.nanos < monitor.leaseDeadline.nanos := by
  unfold inventoryActionsAllowed actionBlockReason actionBlockAt Duration.saturatingSub
  split_ifs with hrejected hexpired hverified hsoon
  all_goals simp_all
  all_goals omega

theorem requireInFlight_eq_ok {startedAt : Duration} :
    monitor.requireInFlight attemptId = .ok startedAt ↔
      monitor.heartbeatState = .inFlight attemptId startedAt := by
  unfold requireInFlight
  constructor
  · intro h
    split at h
    · next current started hstate =>
      split_ifs at h with heq
      cases h
      rw [hstate, heq]
    · split_ifs at h
  · intro h
    rw [h]
    exact if_pos rfl

/-- A renewal keeps the policy, and its deadline is the start of the cycle
plus the length of the lease. -/
theorem renewed_ok (h : monitor.renewed parse attemptId response receivedAt = .ok changed) :
    ∃ cycleStartedAt heartbeatAt leaseExpiresAt nextAttemptAt,
      monitor.heartbeatCycleStartedAt = some cycleStartedAt ∧
      parse response.heartbeatAt = some heartbeatAt ∧
      parse response.leaseExpiresAt = some leaseExpiresAt ∧
      changed.leaseDeadline.nanos + heartbeatAt.nanos =
        cycleStartedAt.nanos + leaseExpiresAt.nanos ∧
      changed.heartbeatState = .scheduled nextAttemptAt ∧
      changed.heartbeatCycleStartedAt = none ∧
      changed.policy = monitor.policy := by
  unfold renewed at h
  obtain ⟨startedAt, -, h⟩ := except_bind_ok.mp h
  obtain ⟨-, -, h⟩ := except_bind_ok.mp h
  obtain ⟨cycleStartedAt, hcycle, h⟩ := except_bind_ok.mp h
  obtain ⟨-, -, h⟩ := except_bind_ok.mp h
  obtain ⟨-, -, h⟩ := except_bind_ok.mp h
  obtain ⟨heartbeatAt, hheartbeat, h⟩ := except_bind_ok.mp h
  obtain ⟨leaseExpiresAt, hlease, h⟩ := except_bind_ok.mp h
  obtain ⟨span, hspan, h⟩ := except_bind_ok.mp h
  obtain ⟨-, -, h⟩ := except_bind_ok.mp h
  obtain ⟨deadline, hdeadline, h⟩ := except_bind_ok.mp h
  obtain ⟨nextAttemptAt, -, h⟩ := except_bind_ok.mp h
  cases h
  have hsum := Duration.checkedAdd_eq_some (okOr_eq_ok.mp hdeadline)
  have hlength := DateTime.since_eq_some (okOr_eq_ok.mp hspan)
  refine ⟨cycleStartedAt, heartbeatAt, leaseExpiresAt, nextAttemptAt, okOr_eq_ok.mp hcycle,
    okOr_eq_ok.mp hheartbeat, okOr_eq_ok.mp hlease, ?_, rfl, rfl, rfl⟩
  dsimp only
  omega

/-- A failure keeps the policy, the deadline and the confirmation. A rejection
ends the cycle, and a retry continues it. -/
theorem afterFailure_ok (h : monitor.afterFailure attemptId kind receivedAt = .ok changed) :
    changed.policy = monitor.policy ∧ changed.leaseDeadline = monitor.leaseDeadline ∧
      changed.verified = monitor.verified ∧
      ((changed.heartbeatState = .leaseRejected ∧ changed.heartbeatCycleStartedAt = none) ∨
        (kind = .retryable ∧ (∃ nextAttemptAt failures,
          changed.heartbeatState = .retryScheduled nextAttemptAt failures) ∧
          changed.heartbeatCycleStartedAt = monitor.heartbeatCycleStartedAt)) := by
  unfold afterFailure at h
  obtain ⟨startedAt, -, h⟩ := except_bind_ok.mp h
  obtain ⟨-, -, h⟩ := except_bind_ok.mp h
  obtain ⟨state, hstate, h⟩ := except_bind_ok.mp h
  cases h
  refine ⟨rfl, rfl, rfl, ?_⟩
  cases kind with
  | retryable =>
    obtain ⟨retryAt, -, hstate⟩ := except_bind_ok.mp hstate
    cases hstate
    exact .inr ⟨rfl, ⟨_, _, rfl⟩, rfl⟩
  | leaseRejected =>
    cases hstate
    exact .inl ⟨rfl, rfl⟩

/-- A success or a failure of an attempt that is not in flight is an error. -/
theorem requireInFlight_error
    (h : ∀ startedAt, monitor.heartbeatState ≠ .inFlight attemptId startedAt) :
    ∃ error, monitor.requireInFlight attemptId = .error error := by
  cases hrequired : monitor.requireInFlight attemptId with
  | ok startedAt => exact absurd (requireInFlight_eq_ok.mp hrequired) (h startedAt)
  | error error => exact ⟨error, rfl⟩

/-- A success of an attempt that is not in flight leaves the monitor alone. -/
theorem heartbeatSucceeded_unmatched (parse : String → Option DateTime)
    (response : HeartbeatLease) (receivedAt : Duration)
    (h : ∀ startedAt, monitor.heartbeatState ≠ .inFlight attemptId startedAt) :
    ∃ error, monitor.heartbeatSucceeded parse attemptId response receivedAt =
      (.error error, monitor) := by
  obtain ⟨error, hrequired⟩ := requireInFlight_error h
  refine ⟨error, ?_⟩
  unfold heartbeatSucceeded renewed
  rw [hrequired]
  rfl

/-- A failure of an attempt that is not in flight leaves the monitor alone. -/
theorem heartbeatFailed_unmatched (kind : HeartbeatFailureKind) (receivedAt : Duration)
    (h : ∀ startedAt, monitor.heartbeatState ≠ .inFlight attemptId startedAt) :
    ∃ error, monitor.heartbeatFailed attemptId kind receivedAt = (.error error, monitor) := by
  obtain ⟨error, hrequired⟩ := requireInFlight_error h
  refine ⟨error, ?_⟩
  unfold heartbeatFailed afterFailure
  rw [hrequired]
  rfl

/-- A heartbeat that begins is in flight in its cycle. -/
theorem beginHeartbeat_some {attempt : HeartbeatAttempt}
    (h : monitor.beginHeartbeat now = (some attempt, changed)) :
    changed.policy = monitor.policy ∧ changed.leaseDeadline = monitor.leaseDeadline ∧
      changed.verified = monitor.verified ∧
      (∃ attemptId, changed.heartbeatState = .inFlight attemptId now) ∧
      ((∃ nextAttemptAt, monitor.heartbeatState = .scheduled nextAttemptAt ∧
          changed.heartbeatCycleStartedAt = some now) ∨
        (∃ nextAttemptAt failures, monitor.heartbeatState = .retryScheduled nextAttemptAt failures ∧
          changed.heartbeatCycleStartedAt = monitor.heartbeatCycleStartedAt)) := by
  unfold beginHeartbeat at h
  split at h
  · next hdue =>
    cases h
    refine ⟨rfl, rfl, rfl, ⟨_, rfl⟩, ?_⟩
    unfold heartbeatDue at hdue
    cases hstate : monitor.heartbeatState with
    | scheduled nextAttemptAt => exact .inl ⟨nextAttemptAt, rfl, rfl⟩
    | retryScheduled nextAttemptAt failures => exact .inr ⟨nextAttemptAt, failures, rfl, rfl⟩
    | inFlight | leaseRejected => simp [hstate] at hdue
  · cases h

theorem beginHeartbeat_none (h : monitor.beginHeartbeat now = (none, changed)) :
    changed = monitor := by
  unfold beginHeartbeat at h
  split at h
  · cases h
  · cases h
    rfl

/-- An expiry either does nothing or records a retryable failure. -/
theorem expireTimedOutHeartbeat_cases (monitor : MovementLeaseMonitor) (now : Duration) :
    (monitor.expireTimedOutHeartbeat now).2 = monitor ∨
      ∃ attemptId, monitor.afterFailure attemptId .retryable now =
        .ok (monitor.expireTimedOutHeartbeat now).2 := by
  unfold expireTimedOutHeartbeat heartbeatFailed assign
  split_ifs
  · split
    · next attemptId _ _ =>
      cases hresult : monitor.afterFailure attemptId .retryable now with
      | ok => exact .inr ⟨attemptId, hresult⟩
      | error => exact .inl rfl
    · exact .inl rfl
  · exact .inl rfl

end Calls

end MovementLeaseMonitor

/-- Anything that can happen to a monitor. -/
inductive MonitorEvent where
  | begin (now : Duration)
  /-- `expire_timed_out_heartbeat`. -/
  | expire (now : Duration)
  /-- `heartbeat_succeeded`. -/
  | succeeded (attemptId : ℕ) (response : HeartbeatLease) (receivedAt : Duration)
  | failed (attemptId : ℕ) (kind : HeartbeatFailureKind) (receivedAt : Duration)

/-- The monitor after an event. -/
def MovementLeaseMonitor.apply (parse : String → Option DateTime)
    (monitor : MovementLeaseMonitor) : MonitorEvent → MovementLeaseMonitor
  | .begin now => (monitor.beginHeartbeat now).2
  | .expire now => (monitor.expireTimedOutHeartbeat now).2
  | .succeeded attemptId response receivedAt =>
    (monitor.heartbeatSucceeded parse attemptId response receivedAt).2
  | .failed attemptId kind receivedAt => (monitor.heartbeatFailed attemptId kind receivedAt).2

namespace MovementLeaseMonitor

variable {monitor : MovementLeaseMonitor} {parse : String → Option DateTime}

theorem apply_of_rejected (h : monitor.heartbeatState = .leaseRejected) (event : MonitorEvent) :
    monitor.apply parse event = monitor := by
  have hidle : ∀ attemptId startedAt, monitor.heartbeatState ≠ .inFlight attemptId startedAt := by
    intro attemptId startedAt hflight
    rw [h] at hflight
    cases hflight
  cases event with
  | begin now =>
    have hdue : monitor.heartbeatDue now = false := by
      unfold heartbeatDue
      rw [h]
      exact ite_self false
    change (monitor.beginHeartbeat now).2 = monitor
    rw [beginHeartbeat, hdue]
    rfl
  | expire now =>
    have htimed : monitor.heartbeatRequestTimedOut now = false := by
      unfold heartbeatRequestTimedOut
      rw [h]
    change (monitor.expireTimedOutHeartbeat now).2 = monitor
    rw [expireTimedOutHeartbeat, htimed]
    rfl
  | succeeded attemptId response receivedAt =>
    obtain ⟨error, hsucceeded⟩ :=
      heartbeatSucceeded_unmatched parse response receivedAt (hidle attemptId)
    exact congrArg Prod.snd hsucceeded
  | failed attemptId kind receivedAt =>
    obtain ⟨error, hfailed⟩ := heartbeatFailed_unmatched kind receivedAt (hidle attemptId)
    exact congrArg Prod.snd hfailed

theorem blocked_after_rejection (h : monitor.heartbeatState = .leaseRejected)
    (events : List MonitorEvent) (now : Duration) :
    (events.foldl (apply parse) monitor).inventoryActionsAllowed now = false := by
  induction events with
  | nil =>
    rw [List.foldl_nil, ← Bool.not_eq_true, allowed_iff]
    exact fun hallowed => hallowed.1 h
  | cons event rest ih =>
    rw [List.foldl_cons, apply_of_rejected h]
    exact ih

/-- A recorded rejection leaves the lease rejected. -/
theorem rejected_of_failed {attemptId : ℕ} {receivedAt : Duration}
    (h : (monitor.heartbeatFailed attemptId .leaseRejected receivedAt).1 = .ok ()) :
    (monitor.heartbeatFailed attemptId .leaseRejected receivedAt).2.heartbeatState =
      .leaseRejected := by
  unfold heartbeatFailed assign at h ⊢
  cases hresult : monitor.afterFailure attemptId .leaseRejected receivedAt with
  | ok =>
    obtain ⟨-, -, -, ⟨hstate, -⟩ | ⟨hkind, -⟩⟩ := afterFailure_ok hresult
    · exact hstate
    · cases hkind
  | error =>
    rw [hresult] at h
    cases h

end MovementLeaseMonitor

end Wareboxes.MovementLease
