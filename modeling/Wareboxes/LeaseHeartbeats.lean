import Wareboxes.LabelledRuns
import Wareboxes.MovementLease

/-!
# Heartbeats between a device and the server

The device drives the lease monitor of its claimed task frame by frame. A frame
gives up a heartbeat that took too long, begins one that is due and sends it
under the idempotency key of its cycle, which is drawn when the cycle sends its
first request and dropped when the monitor records a renewal. The server renews
the lease once for each key and answers later requests with that key from its
record. Requests and answers may be lost, late or duplicated: a request that was
sent can be served at any later time and any number of times, and every answer
can arrive at any later time and any number of times. Both clocks run at the
same rate, so that the server's clock is the device's monotonic clock moved by a
constant. Keys and request identities are random and do not repeat.

Shown is the work on one claimed task; the screens and the reconciliation of the
workflow are not.
-/

namespace Wareboxes.LeaseHeartbeats

open RustTime MovementLease LabelledRuns

/-- The kinds of claimed work. -/
inductive ClaimOperation where
  /-- Putaway of received stock. -/
  | putaway
  | inventoryRelocation
  | cycleCount
  | picking
  /-- Replenishment of pick faces. -/
  | replenishment
  | crossDock
  deriving DecidableEq

/-- What stays the same while a device works on a task. -/
structure Setting where
  operation : ClaimOperation
  taskId : ℤ
  /-- The timing policy of the device. -/
  policy : LeasePolicy
  /-- The text form of instants. -/
  texts : Rfc3339
  /-- The length of a lease, `task_timeout_seconds`. -/
  timeout : Duration
  /-- The server's clock minus the device's monotonic clock, in nanoseconds. -/
  offset : ℤ

/-- The heartbeat that the device waits for. -/
structure ExpectedHeartbeat where
  operation : ClaimOperation
  taskId : ℤ
  attemptId : ℕ
  requestId : String

/-- `HeartbeatRuntime`, apart from its clock. -/
structure HeartbeatRuntime where
  /-- The monitor of the claimed task. -/
  monitor : Option MovementLeaseMonitor
  /-- The heartbeat that the device waits for. -/
  expected : Option ExpectedHeartbeat
  /-- The key of the present cycle. -/
  idempotencyKey : Option String

/-- `HeartbeatRuntime::new`, and the effect of `HeartbeatRuntime::reset`. -/
def HeartbeatRuntime.fresh : HeartbeatRuntime := ⟨none, none, none⟩

/-- A heartbeat request. -/
structure HeartbeatRequest where
  operation : ClaimOperation
  taskId : ℤ
  requestId : String
  /-- The key under which the server renews at most once. -/
  idempotencyKey : String
  deriving DecidableEq

/-- The body of a response, as far as the device looks at it. -/
inductive ResponseBody where
  | heartbeat (lease : HeartbeatLease)
  /-- An error, which may say that the key was used for another request. -/
  | error (idempotencyKeyReused : Bool)
  | other
  deriving DecidableEq

/-- A response of the server. -/
structure NetworkResponse where
  status : ℕ
  body : ResponseBody
  deriving DecidableEq

/-- The status says that the request succeeded. -/
def NetworkResponse.isSuccess (response : NetworkResponse) : Bool :=
  decide (200 ≤ response.status) && decide (response.status < 300)

/-- The heartbeat decoders, which differ in the names of the fields only. -/
def decodeHeartbeatResponse (parse : String → Option DateTime) (expectedTaskId : ℤ)
    (response : NetworkResponse) : Option HeartbeatLease :=
  match response.body with
  | .heartbeat lease =>
    if response.isSuccess && decide (0 < expectedTaskId) && lease.taskId == expectedTaskId &&
        (parse lease.heartbeatAt).isSome && (parse lease.leaseExpiresAt).isSome then
      some lease
    else none
  | _ => none

/-- The claim that the screen shows as active. -/
structure ActiveClaim where
  operation : ClaimOperation
  taskId : ℤ
  /-- The expiry that came with the claim. -/
  leaseExpiresAt : String

/-- What a frame of the device finds. -/
structure Frame where
  /-- A check of the claim is under way. -/
  leaseCheck : Bool
  claim : Option ActiveClaim
  /-- The wall clock of the device. -/
  wallTime : DateTime
  /-- The operator is signed in. -/
  session : Bool
  /-- The request can be built. -/
  builds : Bool
  newKey : String
  /-- A new random request identity. -/
  requestId : String

namespace HeartbeatRuntime

variable (parse : String → Option DateTime) (policy : LeasePolicy) (runtime : HeartbeatRuntime)

/-- The runtime with a monitor of the claimed task, which is made when there is none. -/
def monitored (claim : ActiveClaim) (sample : ClockSample) :
    Except LeaseError (MovementLeaseMonitor × HeartbeatRuntime) :=
  match runtime.monitor with
  | some monitor =>
    if monitor.taskId = claim.taskId then .ok (monitor, runtime)
    else do
      let monitor ← MovementLeaseMonitor.new parse claim.taskId claim.leaseExpiresAt sample policy
      return (monitor, fresh)
  | none => do
    let monitor ← MovementLeaseMonitor.new parse claim.taskId claim.leaseExpiresAt sample policy
    return (monitor, fresh)

/-- The expected heartbeat, unless it was given up. -/
def keepExpected (expired : Option ℕ) : Option ExpectedHeartbeat :=
  runtime.expected.filter fun expected => decide (some expected.attemptId ≠ expired)

/-- The last part of a frame: begin a heartbeat that is due and send it. -/
def send (operation : ClaimOperation) (monitor : MovementLeaseMonitor) (frame : Frame)
    (now : Duration) : HeartbeatRuntime × Option HeartbeatRequest :=
  match monitor.beginHeartbeat now with
  | (none, monitor) => ({ runtime with monitor := some monitor }, none)
  | (some attempt, monitor) =>
    if frame.session then
      let key := runtime.idempotencyKey.getD frame.newKey
      if frame.builds then
        (⟨some monitor, some ⟨operation, attempt.taskId, attempt.id, frame.requestId⟩, some key⟩,
          some ⟨operation, attempt.taskId, frame.requestId, key⟩)
      else (fresh, none)
    else ({ runtime with monitor := some monitor }, none)

/-- `maintain_claim_heartbeat`. -/
def maintain (frame : Frame) (now : Duration) : HeartbeatRuntime × Option HeartbeatRequest :=
  if frame.leaseCheck then (fresh, none)
  else match frame.claim with
    | none => (fresh, none)
    | some claim =>
      match runtime.monitored parse policy claim ⟨frame.wallTime, now⟩ with
      | .error _ => (fresh, none)
      | .ok (monitor, runtime) =>
        match monitor.expireTimedOutHeartbeat now with
        | (.error _, _) => (fresh, none)
        | (.ok expired, monitor) =>
          send { runtime with expected := runtime.keepExpected expired } claim.operation monitor
            frame now

/-- A failure is recorded, and the monitor is kept or dropped after it. -/
def recordFailure (kind : HeartbeatFailureKind) (keep : Bool) (attemptId : ℕ) (now : Duration) :
    HeartbeatRuntime :=
  match runtime.monitor with
  | some monitor =>
    match monitor.heartbeatFailed attemptId kind now with
    | (.ok (), monitor) => if keep then { runtime with monitor := some monitor } else fresh
    | (.error _, _) => fresh
  | none => fresh

/-- `record_retryable_heartbeat`. -/
def recordRetryable : ℕ → Duration → HeartbeatRuntime := runtime.recordFailure .retryable true

/-- The part of `handle_heartbeat_response` for a renewal. -/
def recordRenewal (attemptId : ℕ) (lease : HeartbeatLease) (now : Duration) : HeartbeatRuntime :=
  match runtime.monitor with
  | some monitor =>
    match monitor.heartbeatSucceeded parse attemptId lease now with
    | (.ok (), monitor) => { runtime with monitor := some monitor, idempotencyKey := none }
    | (.error _, _) => fresh
  | none => fresh

/-- The part of `handle_heartbeat_response` for a lost claim. The check of the claim that
follows drops the monitor, unless another check is under way. -/
def recordRejection (checkPending : Bool) : ℕ → Duration → HeartbeatRuntime :=
  runtime.recordFailure .leaseRejected checkPending

/-- The part of `handle_heartbeat_response` after its checks of the request. -/
def record (expected : ExpectedHeartbeat) (response : Option NetworkResponse) (now : Duration)
    (checkPending : Bool) : HeartbeatRuntime :=
  match response with
  | none => runtime.recordRetryable expected.attemptId now
  | some response =>
    if response.isSuccess then
      match decodeHeartbeatResponse parse expected.taskId response with
      | some lease => runtime.recordRenewal parse expected.attemptId lease now
      | none => fresh
    else if response.status = 401 then fresh
    else if response.status = 408 ∨ response.status = 429 ∨
        (500 ≤ response.status ∧ response.status ≤ 599) then
      runtime.recordRetryable expected.attemptId now
    else if response.status = 409 ∧ response.body = .error true then fresh
    else if response.status = 403 ∨ response.status = 404 ∨ response.status = 409 then
      runtime.recordRejection checkPending expected.attemptId now
    else fresh

/-- `handle_heartbeat_response`, where no response stands for a transport error. -/
def handle (operation : ClaimOperation) (taskId : ℤ) (requestId : String)
    (response : Option NetworkResponse) (activeMatches checkPending : Bool) (now : Duration) :
    HeartbeatRuntime :=
  match runtime.expected with
  | none => runtime
  | some expected =>
    if expected.operation ≠ operation ∨ expected.taskId ≠ taskId ∨
        expected.requestId ≠ requestId then runtime
    else if activeMatches then
      record parse { runtime with expected := none } expected response now checkPending
    else fresh

end HeartbeatRuntime

/-- A renewal that the server recorded under its key. -/
structure Renewal where
  idempotencyKey : String
  /-- When the lease was renewed. -/
  heartbeatAt : DateTime
  leaseExpiresAt : DateTime

/-- The answer to a renewal, also when it is repeated. -/
def Renewal.answer (setting : Setting) (renewal : Renewal) : NetworkResponse :=
  ⟨200, .heartbeat ⟨setting.taskId, setting.texts.format renewal.heartbeatAt,
    setting.texts.format renewal.leaseExpiresAt⟩⟩

/-- The server's side of the claim. -/
structure Server where
  /-- `lease_expires_at` of the task. -/
  lease : DateTime
  /-- The renewals, newest first. -/
  renewals : List Renewal

/-- A heartbeat on the server at a time of its clock. -/
def Server.serve (setting : Setting) (server : Server) (key : String) (heartbeatAt : DateTime) :
    NetworkResponse × Server :=
  match server.renewals.find? (fun renewal => renewal.idempotencyKey == key) with
  | some renewal => (renewal.answer setting, server)
  | none =>
    if server.lease.nanos ≤ heartbeatAt.nanos then (⟨409, .error false⟩, server)
    else match heartbeatAt.checkedAdd setting.timeout with
      | some leaseExpiresAt =>
        let renewal := ⟨key, heartbeatAt, leaseExpiresAt⟩
        (renewal.answer setting, ⟨leaseExpiresAt, renewal :: server.renewals⟩)
      | none => (⟨500, .error false⟩, server)

/-- The device, the server and what is on the way between them. -/
structure World where
  runtime : HeartbeatRuntime
  server : Server
  sent : List HeartbeatRequest
  /-- The answers that the server gave, with the requests they belong to. -/
  answers : List (HeartbeatRequest × NetworkResponse)
  /-- The device's monotonic clock. -/
  clock : Duration

/-- What can happen. -/
inductive Action where
  | frame (frame : Frame)
  | serve (request : HeartbeatRequest) (heartbeatAt : DateTime)
  /-- The server, or something between, answers a request without a renewal. -/
  | refuse (request : HeartbeatRequest) (response : NetworkResponse)
  /-- An answer arrives, or the device learns that there will be none. -/
  | deliver (request : HeartbeatRequest) (response : Option NetworkResponse)
      (activeMatches checkPending : Bool)
  /-- The monitor is told to give up a heartbeat that took too long. -/
  | expire
  | fail (attemptId : ℕ) (kind : HeartbeatFailureKind)
  /-- `clear_claim_heartbeat`. -/
  | clear

/-- An action at a time of the monotonic clock. -/
structure Step where
  now : Duration
  action : Action

/-- Change the monitor of the device. -/
def HeartbeatRuntime.onMonitor (runtime : HeartbeatRuntime)
    (change : MovementLeaseMonitor → MovementLeaseMonitor) : HeartbeatRuntime :=
  { runtime with monitor := runtime.monitor.map change }

/-- The state after a step. -/
def World.next (setting : Setting) (w : World) (step : Step) : World :=
  match step.action with
  | .frame frame =>
    let result := w.runtime.maintain setting.texts.parse setting.policy frame step.now
    { w with runtime := result.1, sent := w.sent ++ result.2.toList, clock := step.now }
  | .serve request heartbeatAt =>
    let result := w.server.serve setting request.idempotencyKey heartbeatAt
    { w with
      server := result.2, answers := w.answers ++ [(request, result.1)], clock := step.now }
  | .refuse request response =>
    { w with answers := w.answers ++ [(request, response)], clock := step.now }
  | .deliver request response activeMatches checkPending =>
    { w with
      runtime := w.runtime.handle setting.texts.parse request.operation request.taskId
        request.requestId response activeMatches checkPending step.now
      clock := step.now }
  | .expire =>
    { w with
      runtime := w.runtime.onMonitor fun monitor => (monitor.expireTimedOutHeartbeat step.now).2
      clock := step.now }
  | .fail attemptId kind =>
    { w with
      runtime := w.runtime.onMonitor fun monitor =>
        (monitor.heartbeatFailed attemptId kind step.now).2
      clock := step.now }
  | .clear => { w with runtime := .fresh, clock := step.now }

/-- Time does not go back, the device works on its task, random identities are new, the
server serves what was sent at the time of its clock, and what arrives was answered. -/
def Allowed (setting : Setting) (w : World) (step : Step) : Prop :=
  w.clock.nanos ≤ step.now.nanos ∧
  match step.action with
  | .frame frame =>
    (∀ claim ∈ frame.claim,
      claim.operation = setting.operation ∧ claim.taskId = setting.taskId) ∧
    (∀ request ∈ w.sent,
      request.idempotencyKey ≠ frame.newKey ∧ request.requestId ≠ frame.requestId)
  | .serve request heartbeatAt =>
    request ∈ w.sent ∧ heartbeatAt.nanos = step.now.nanos + setting.offset
  | .refuse request response =>
    request ∈ w.sent ∧
      (response.isSuccess = true → ∀ lease, response.body ≠ .heartbeat lease)
  | .deliver request response _ _ =>
    request ∈ w.sent ∧ ∀ answer ∈ response, (request, answer) ∈ w.answers
  | .expire | .fail _ _ | .clear => True

/-- A device that works on a task which the server leased to it until some time. -/
def World.start (lease : DateTime) (clock : Duration) : World :=
  ⟨.fresh, ⟨lease, []⟩, [], [], clock⟩

/-- The runs of a device and the server. -/
def LeaseRun (setting : Setting) : World → World → Prop :=
  Run (fun w step w' => w' = w.next setting step) (Allowed setting)

end Wareboxes.LeaseHeartbeats
