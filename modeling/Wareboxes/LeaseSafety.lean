import Wareboxes.LeaseHeartbeats

/-!
# A device acts only while the server's lease lasts

The server renews the lease not earlier than the first request of a cycle was
sent, and the device counts the renewed lease from the moment before that
request. Whatever happens to requests and answers, a deadline that the device
derived from an answer is not later than the lease on the server.
-/

namespace Wareboxes.LeaseSafety

open RustTime Transactions MovementLease MovementLeaseMonitor LeaseHeartbeats LabelledRuns
open HeartbeatRuntime

variable {setting : Setting} {server : Server} {clock now : Duration}
  {runtime : HeartbeatRuntime} {monitor changed : MovementLeaseMonitor}
  {sent : List HeartbeatRequest} {w : World} {key : Option String}

/-- What a monitor relies on that works under a key. -/
structure SoundMonitor (setting : Setting) (server : Server) (clock : Duration)
    (key : Option String) (monitor : MovementLeaseMonitor) : Prop where
  /-- The monitor has the policy of the setting. -/
  policy : monitor.policy = setting.policy
  /-- Cycles began in the past. -/
  begun : ∀ startedAt ∈ monitor.heartbeatCycleStartedAt, startedAt.nanos ≤ clock.nanos
  /-- A confirmed deadline is within a lease that the server granted. -/
  deadline : monitor.verified = true → ∃ renewal ∈ server.renewals,
    monitor.leaseDeadline.nanos + setting.offset ≤ renewal.leaseExpiresAt.nanos
  /-- A key is in use in the middle of a cycle only. -/
  middle : key.isSome → ∀ nextAttemptAt, monitor.heartbeatState ≠ .scheduled nextAttemptAt
  /-- Renewals under the key are not earlier than the cycle. -/
  cycle : ∀ startedAt ∈ monitor.heartbeatCycleStartedAt, ∀ renewal ∈ server.renewals,
    renewal.idempotencyKey ∈ key → startedAt.nanos + setting.offset ≤ renewal.heartbeatAt.nanos

/-- The monitor of the device has what it relies on. -/
def Sound (setting : Setting) (server : Server) (clock : Duration) (runtime : HeartbeatRuntime) :
    Prop :=
  ∀ monitor ∈ runtime.monitor, SoundMonitor setting server clock runtime.idempotencyKey monitor

/-- The expected heartbeat was sent under the key of the present cycle. -/
def Waiting (sent : List HeartbeatRequest) (runtime : HeartbeatRuntime) : Prop :=
  ∀ expected ∈ runtime.expected, ∃ request ∈ sent, request.requestId = expected.requestId ∧
    runtime.idempotencyKey = some request.idempotencyKey

/-- The device is sound and waits for nothing. -/
def Idle (setting : Setting) (server : Server) (clock : Duration) (runtime : HeartbeatRuntime) :
    Prop :=
  Sound setting server clock runtime ∧ runtime.expected = none

theorem sound_fresh : Sound setting server clock .fresh := by
  intro monitor h
  cases h

theorem waiting_fresh : Waiting sent .fresh := by
  intro expected h
  cases h

theorem idle_fresh : Idle setting server clock .fresh := ⟨sound_fresh, rfl⟩

/-- A device is sound when its monitor is. -/
theorem sound_of_monitor (hmonitor : runtime.monitor = some monitor)
    (h : SoundMonitor setting server clock runtime.idempotencyKey monitor) :
    Sound setting server clock runtime := by
  intro found hfound
  obtain rfl := Option.some.inj (hmonitor.symm.trans hfound)
  exact h

variable {receivedAt : Duration} {attemptId : ℕ} {parse : String → Option DateTime}
  {sample : ClockSample} {lease : HeartbeatLease} {current : String}
  {response : Option NetworkResponse} {request : HeartbeatRequest}

section

variable (h : SoundMonitor setting server clock key monitor)
include h

/-- A failed heartbeat leaves the monitor sound. -/
theorem SoundMonitor.failed {kind : HeartbeatFailureKind}
    (hfailed : monitor.afterFailure attemptId kind receivedAt = .ok changed) :
    SoundMonitor setting server clock key changed := by
  obtain ⟨hpolicy, hdeadline, hverified, hstate⟩ := afterFailure_ok hfailed
  have hcycle : ∀ startedAt ∈ changed.heartbeatCycleStartedAt,
      startedAt ∈ monitor.heartbeatCycleStartedAt := by
    intro startedAt hstarted
    rcases hstate with ⟨-, hnone⟩ | ⟨-, -, hsame⟩
    · rw [hnone] at hstarted
      cases hstarted
    · rwa [hsame] at hstarted
  refine ⟨hpolicy.trans h.policy, ?_, ?_, ?_, ?_⟩
  · intro startedAt hstarted
    exact h.begun startedAt (hcycle startedAt hstarted)
  · rw [hdeadline, hverified]
    exact h.deadline
  · intro _ nextAttemptAt hscheduled
    rcases hstate with ⟨hrejected, -⟩ | ⟨-, ⟨retryAt, failures, hretry⟩, -⟩
    · rw [hrejected] at hscheduled
      cases hscheduled
    · rw [hretry] at hscheduled
      cases hscheduled
  · intro startedAt hstarted
    exact h.cycle startedAt (hcycle startedAt hstarted)

/-- A callback that reports a failure leaves the monitor sound. -/
theorem SoundMonitor.heartbeatFailed (attemptId : ℕ) (kind : HeartbeatFailureKind)
    (receivedAt : Duration) :
    SoundMonitor setting server clock key
      (monitor.heartbeatFailed attemptId kind receivedAt).2 := by
  unfold MovementLeaseMonitor.heartbeatFailed assign
  cases hresult : monitor.afterFailure attemptId kind receivedAt with
  | ok => exact h.failed hresult
  | error => exact h

theorem SoundMonitor.expired (now : Duration) :
    SoundMonitor setting server clock key (monitor.expireTimedOutHeartbeat now).2 := by
  rcases expireTimedOutHeartbeat_cases monitor now with hsame | ⟨attemptId, hfailed⟩
  · rwa [hsame]
  · exact h.failed hfailed

/-- A heartbeat that begins leaves the monitor sound, under the key of its cycle or under
one that no renewal uses. -/
theorem SoundMonitor.begun_heartbeat {attempt : HeartbeatAttempt}
    (hbegin : monitor.beginHeartbeat clock = (some attempt, changed)) {key' : Option String}
    (hkey : key' = key ∨ ∀ renewal ∈ server.renewals, renewal.idempotencyKey ∉ key') :
    SoundMonitor setting server clock key' changed := by
  obtain ⟨hpolicy, hdeadline, hverified, ⟨attemptId, hflight⟩, hcycle⟩ :=
    beginHeartbeat_some hbegin
  refine ⟨hpolicy.trans h.policy, ?_, ?_, ?_, ?_⟩
  · intro startedAt hstarted
    rcases hcycle with ⟨-, -, hsome⟩ | ⟨-, -, -, hsame⟩
    · rw [hsome] at hstarted
      cases hstarted
      exact le_refl _
    · rw [hsame] at hstarted
      exact h.begun startedAt hstarted
  · rw [hdeadline, hverified]
    exact h.deadline
  · intro _ nextAttemptAt hscheduled
    rw [hflight] at hscheduled
    cases hscheduled
  · intro startedAt hstarted renewal hrenewal hsame
    rcases hkey with rfl | hunused
    · rcases hcycle with ⟨nextAttemptAt, hscheduled, -⟩ | ⟨-, -, -, hkept⟩
      · exact absurd hscheduled (h.middle (Option.isSome_of_mem hsame) nextAttemptAt)
      · rw [hkept] at hstarted
        exact h.cycle startedAt hstarted renewal hrenewal hsame
    · exact absurd hsame (hunused renewal hrenewal)

/-- A renewal under the key of the cycle leaves the monitor sound: the new deadline is
within the lease that the server granted. -/
theorem SoundMonitor.renewal {renewal : Renewal} (hrenewal : renewal ∈ server.renewals)
    (hkey : renewal.idempotencyKey ∈ key)
    (hrenewed : monitor.renewed setting.texts.parse attemptId
      ⟨setting.taskId, setting.texts.format renewal.heartbeatAt,
        setting.texts.format renewal.leaseExpiresAt⟩ receivedAt = .ok changed) :
    SoundMonitor setting server clock none changed := by
  obtain ⟨startedAt, _, leaseExpiresAt, nextAttemptAt, hstarted, hheartbeat, hexpires,
    _, -, hnone, hpolicy⟩ := renewed_ok hrenewed
  cases setting.texts.parse_format hheartbeat
  cases setting.texts.parse_format hexpires
  have hnotEarlier := h.cycle startedAt hstarted renewal hrenewal hkey
  refine ⟨hpolicy.trans h.policy, ?_, ?_, ?_, ?_⟩
  · intro started hchanged
    rw [hnone] at hchanged
    cases hchanged
  · intro _
    exact ⟨renewal, hrenewal, by omega⟩
  · intro hsome
    cases hsome
  · intro started hchanged
    rw [hnone] at hchanged
    cases hchanged

end

/-- A new monitor is sound. -/
theorem sound_new {taskId : ℤ} {text : String}
    (h : MovementLeaseMonitor.new parse taskId text sample setting.policy = .ok monitor) :
    SoundMonitor setting server clock none monitor := by
  unfold MovementLeaseMonitor.new at h
  obtain ⟨leaseExpiresAt, -, h⟩ := except_bind_ok.mp h
  obtain ⟨deadline, -, h⟩ := except_bind_ok.mp h
  cases h
  refine ⟨rfl, ?_, ?_, ?_, ?_⟩
  · intro startedAt hstarted
    cases hstarted
  · intro hverified
    cases hverified
  · intro hsome
    cases hsome
  · intro startedAt hstarted
    cases hstarted

/-- A frame works with the monitor it finds or with a new one. -/
theorem monitored_cases {claim : ActiveClaim} {base : HeartbeatRuntime}
    (hsound : Sound setting server clock runtime)
    (h : runtime.monitored parse setting.policy claim sample = .ok (monitor, base)) :
    SoundMonitor setting server clock base.idempotencyKey monitor ∧
      (base = runtime ∨ base = .fresh) := by
  unfold monitored at h
  split at h
  · next hfound =>
    split at h
    · cases h
      exact ⟨hsound _ hfound, .inl rfl⟩
    · obtain ⟨made, hnew, h⟩ := except_bind_ok.mp h
      cases h
      exact ⟨sound_new hnew, .inr rfl⟩
  · obtain ⟨made, hnew, h⟩ := except_bind_ok.mp h
    cases h
    exact ⟨sound_new hnew, .inr rfl⟩

/-- A frame leaves the device sound, and what it sends carries the key that the device keeps
and the identity of the frame. -/
def FrameSound (setting : Setting) (server : Server) (clock : Duration)
    (sent : List HeartbeatRequest) (frame : Frame)
    (result : HeartbeatRuntime × Option HeartbeatRequest) : Prop :=
  Sound setting server clock result.1 ∧ Waiting (sent ++ result.2.toList) result.1 ∧
    ∀ request ∈ result.2, request.requestId = frame.requestId

/-- A frame that sends nothing. -/
theorem frameSound_silent {frame : Frame} (h : Sound setting server clock runtime)
    (hwaiting : Waiting sent runtime) :
    FrameSound setting server clock sent frame (runtime, none) := by
  refine ⟨h, ?_, ?_⟩
  · rwa [Option.toList_none, List.append_nil]
  · rintro _ ⟨⟩

section

variable {frame : Frame}
  (hnew : ∀ renewal ∈ server.renewals, renewal.idempotencyKey ≠ frame.newKey)
include hnew

theorem frameSound_send (operation : ClaimOperation) (hwaiting : Waiting sent runtime)
    (h : SoundMonitor setting server clock runtime.idempotencyKey monitor) :
    FrameSound setting server clock sent frame (runtime.send operation monitor frame clock) := by
  unfold HeartbeatRuntime.send
  split
  · next untouched hbegin =>
    obtain rfl := beginHeartbeat_none hbegin
    exact frameSound_silent (sound_of_monitor rfl h) hwaiting
  · next attempt begun hbegin =>
    split_ifs
    · refine ⟨sound_of_monitor rfl (h.begun_heartbeat hbegin ?_), ?_, ?_⟩
      · cases hkey : runtime.idempotencyKey with
        | none =>
          refine .inr fun renewal hrenewal hsame => ?_
          exact hnew renewal hrenewal (Option.some.inj hsame).symm
        | some => exact .inl rfl
      · rintro _ ⟨⟩
        exact ⟨_, List.mem_append_right _ (List.mem_singleton.mpr rfl), rfl, rfl⟩
      · rintro _ ⟨⟩
        rfl
    · exact frameSound_silent sound_fresh waiting_fresh
    · exact frameSound_silent (sound_of_monitor rfl (h.begun_heartbeat hbegin (.inl rfl))) hwaiting

/-- A frame at the time of the clock leaves the device sound. -/
theorem frameSound_maintain (h : Sound setting server clock runtime)
    (hwaiting : Waiting sent runtime) :
    FrameSound setting server clock sent frame
      (runtime.maintain setting.texts.parse setting.policy frame clock) := by
  have hreset : FrameSound setting server clock sent frame (.fresh, none) :=
    frameSound_silent sound_fresh waiting_fresh
  unfold HeartbeatRuntime.maintain
  split_ifs
  · exact hreset
  · split
    · exact hreset
    · next claim _ =>
      split
      · exact hreset
      · next monitor base hmonitored =>
        obtain ⟨hsound, hbase⟩ := monitored_cases h hmonitored
        have hexpired := hsound.expired clock
        have hbaseWaiting : Waiting sent base := by
          rcases hbase with rfl | rfl
          · exact hwaiting
          · exact waiting_fresh
        split
        · exact hreset
        · next expired changed hexpire =>
          rw [hexpire] at hexpired
          refine frameSound_send hnew claim.operation ?_ hexpired
          intro expected hexpected
          exact hbaseWaiting expected (Option.filter_eq_some_iff.mp hexpected).1

end

/-- The lease of an answer is one that the server granted under a key. -/
def Granted (setting : Setting) (server : Server) (key : String) (lease : HeartbeatLease) : Prop :=
  ∃ renewal ∈ server.renewals, renewal.idempotencyKey = key ∧
    lease = ⟨setting.taskId, setting.texts.format renewal.heartbeatAt,
      setting.texts.format renewal.leaseExpiresAt⟩

section

variable (h : Idle setting server clock runtime)
include h

theorem Idle.recordFailure (kind : HeartbeatFailureKind) (keep : Bool) (attemptId : ℕ)
    (now : Duration) :
    Idle setting server clock (runtime.recordFailure kind keep attemptId now) := by
  unfold HeartbeatRuntime.recordFailure
  split
  · next monitor hmonitor =>
    have hfailed := (h.1 monitor hmonitor).heartbeatFailed attemptId kind now
    split
    · next changed hresult =>
      rw [hresult] at hfailed
      split_ifs
      · exact ⟨sound_of_monitor rfl hfailed, h.2⟩
      · exact idle_fresh
    · exact idle_fresh
  · exact idle_fresh

variable (hkey : runtime.idempotencyKey = some current)
include hkey

/-- A renewal that the server granted under the key of the cycle leaves the device sound. -/
theorem Idle.recordRenewal (hgranted : Granted setting server current lease) (attemptId : ℕ)
    (now : Duration) :
    Idle setting server clock
      (runtime.recordRenewal setting.texts.parse attemptId lease now) := by
  obtain ⟨renewal, hrenewal, rfl, rfl⟩ := hgranted
  unfold HeartbeatRuntime.recordRenewal heartbeatSucceeded assign
  split
  · next monitor hmonitor =>
    split
    · next changed hassigned =>
      split at hassigned
      · next hresult =>
        cases hassigned
        exact ⟨sound_of_monitor rfl ((h.1 monitor hmonitor).renewal hrenewal hkey hresult), h.2⟩
      · cases hassigned
    · exact idle_fresh
  · exact idle_fresh

/-- A response to the expected request leaves the device sound. -/
theorem Idle.record {expected : ExpectedHeartbeat}
    (hgranted : ∀ answer ∈ response, answer.isSuccess = true → ∀ lease,
      answer.body = .heartbeat lease → Granted setting server current lease) (now : Duration)
    (checkPending : Bool) :
    Idle setting server clock
      (runtime.record setting.texts.parse expected response now checkPending) := by
  unfold HeartbeatRuntime.record
  split
  · exact h.recordFailure _ _ _ _
  · next answer =>
    split_ifs with hsuccess
    · split
      · next lease hdecoded =>
        refine h.recordRenewal hkey (hgranted answer rfl hsuccess lease ?_) _ _
        unfold decodeHeartbeatResponse at hdecoded
        split at hdecoded
        · next decoded hbody =>
          split_ifs at hdecoded
          cases hdecoded
          exact hbody
        · cases hdecoded
      · exact idle_fresh
    · exact idle_fresh
    · exact h.recordFailure _ _ _ _
    · exact idle_fresh
    · exact h.recordFailure _ _ _ _
    · exact idle_fresh

end

/-- What holds between a device and the server. -/
structure Anchored (setting : Setting) (w : World) : Prop where
  /-- The device is sound. -/
  device : Sound setting w.server w.clock w.runtime
  /-- The device waits for a request that it sent in the present cycle. -/
  waiting : Waiting w.sent w.runtime
  /-- Requests have identities of their own. -/
  unique : ∀ first ∈ w.sent, ∀ second ∈ w.sent, first.requestId = second.requestId →
    first = second
  /-- No renewal outlasts the lease. -/
  lasting : ∀ renewal ∈ w.server.renewals, renewal.leaseExpiresAt.nanos ≤ w.server.lease.nanos
  /-- Renewals are in the past, have the length of a lease and were asked for. -/
  renewals : ∀ renewal ∈ w.server.renewals,
    renewal.heartbeatAt.nanos ≤ w.clock.nanos + setting.offset ∧
      renewal.leaseExpiresAt.nanos = renewal.heartbeatAt.nanos + setting.timeout.nanos ∧
      ∃ request ∈ w.sent, request.idempotencyKey = renewal.idempotencyKey
  /-- Successful answers tell a renewal under the key of their request. -/
  answers : ∀ pair ∈ w.answers, pair.2.isSuccess = true → ∀ lease,
    pair.2.body = .heartbeat lease → Granted setting w.server pair.1.idempotencyKey lease

theorem anchored_start (lease : DateTime) (clock : Duration) :
    Anchored setting (World.start lease clock) where
  device := sound_fresh
  waiting := waiting_fresh
  unique _ h := by cases h
  lasting _ h := by cases h
  renewals _ h := by cases h
  answers _ h := by cases h

/-- What a heartbeat does on the server: it answers from its record, refuses, or renews
under a key that it had not seen. -/
theorem serve_cases (setting : Setting) (server : Server) (key : String) (heartbeatAt : DateTime) :
    ((server.serve setting key heartbeatAt).2 = server ∧
      ((server.serve setting key heartbeatAt).1.isSuccess = false ∨
        ∃ renewal ∈ server.renewals, renewal.idempotencyKey = key ∧
          (server.serve setting key heartbeatAt).1 = renewal.answer setting)) ∨
    ∃ leaseExpiresAt, leaseExpiresAt.nanos = heartbeatAt.nanos + setting.timeout.nanos ∧
      (server.serve setting key heartbeatAt).2 =
        ⟨leaseExpiresAt, ⟨key, heartbeatAt, leaseExpiresAt⟩ :: server.renewals⟩ ∧
      (server.serve setting key heartbeatAt).1 =
        Renewal.answer setting ⟨key, heartbeatAt, leaseExpiresAt⟩ := by
  unfold Server.serve
  split
  · next renewal hfind =>
    have hkey : renewal.idempotencyKey = key := by simpa using List.find?_some hfind
    exact .inl ⟨rfl, .inr ⟨renewal, List.mem_of_find?_eq_some hfind, hkey, rfl⟩⟩
  · split_ifs
    · exact .inl ⟨rfl, .inl rfl⟩
    · split
      · next leaseExpiresAt hadd =>
        refine .inr ⟨leaseExpiresAt, ?_, rfl, rfl⟩
        unfold DateTime.checkedAdd at hadd
        split_ifs at hadd
        cases hadd
        rfl
      · exact .inl ⟨rfl, .inl rfl⟩

/-- A renewal that is not earlier than the present time leaves the device sound. -/
theorem Sound.served {renewal : Renewal} {lease : DateTime} (h : Sound setting server clock runtime)
    (hrenewal : (clock.nanos : ℤ) + setting.offset ≤ renewal.heartbeatAt.nanos) :
    Sound setting ⟨lease, renewal :: server.renewals⟩ clock runtime := by
  intro monitor hmonitor
  obtain ⟨hpolicy, hbegun, hdeadline, hmiddle, hcycle⟩ := h monitor hmonitor
  refine ⟨hpolicy, hbegun, ?_, hmiddle, ?_⟩
  · intro hverified
    obtain ⟨granted, hgranted, hwithin⟩ := hdeadline hverified
    exact ⟨granted, List.mem_cons_of_mem _ hgranted, hwithin⟩
  · intro startedAt hstarted later hlater hsame
    rcases List.mem_cons.mp hlater with rfl | hlater
    · have := hbegun startedAt hstarted
      omega
    · exact hcycle startedAt hstarted later hlater hsame

/-- A lease stays granted when the server records another renewal. -/
theorem Granted.cons (h : Granted setting server current lease) (expiry : DateTime)
    (renewal : Renewal) : Granted setting ⟨expiry, renewal :: server.renewals⟩ current lease := by
  obtain ⟨granted, hgranted, hrest⟩ := h
  exact ⟨granted, List.mem_cons_of_mem _ hgranted, hrest⟩

namespace Anchored

variable (h : Anchored setting w)
include h

/-- Time passes. -/
theorem later (hnow : w.clock.nanos ≤ now.nanos) : Anchored setting { w with clock := now } where
  device monitor hmonitor :=
    { h.device monitor hmonitor with
      begun startedAt hstarted :=
        ((h.device monitor hmonitor).begun startedAt hstarted).trans hnow }
  waiting := h.waiting
  unique := h.unique
  lasting := h.lasting
  renewals renewal hrenewal := by
    obtain ⟨_, hrest⟩ := h.renewals renewal hrenewal
    exact ⟨by dsimp only; omega, hrest⟩
  answers := h.answers

/-- A change of the device alone keeps the world anchored when the device stays sound. -/
theorem device_step (hsound : Sound setting w.server w.clock runtime)
    (hwaiting : Waiting w.sent runtime) : Anchored setting { w with runtime } :=
  ⟨hsound, hwaiting, h.unique, h.lasting, h.renewals, h.answers⟩

/-- A frame keeps the world anchored. -/
theorem frame {frame : Frame} (hnew : ∀ request ∈ w.sent,
      request.idempotencyKey ≠ frame.newKey ∧ request.requestId ≠ frame.requestId) :
    Anchored setting (w.next setting ⟨w.clock, .frame frame⟩) := by
  have hunused : ∀ renewal ∈ w.server.renewals, renewal.idempotencyKey ≠ frame.newKey := by
    intro renewal hrenewal
    obtain ⟨-, -, request, hrequest, hkey⟩ := h.renewals renewal hrenewal
    rw [← hkey]
    exact (hnew request hrequest).1
  obtain ⟨hsound, hwaiting, hidentity⟩ := frameSound_maintain hunused h.device h.waiting
  refine ⟨hsound, hwaiting, ?_, h.lasting, ?_, h.answers⟩
  · intro first hfirst second hsecond hsame
    rcases List.mem_append.mp hfirst with hfirst | hfirst
    · rcases List.mem_append.mp hsecond with hsecond | hsecond
      · exact h.unique first hfirst second hsecond hsame
      · rw [hidentity second (Option.mem_toList.mp hsecond)] at hsame
        exact absurd hsame (hnew first hfirst).2
    · rcases List.mem_append.mp hsecond with hsecond | hsecond
      · rw [hidentity first (Option.mem_toList.mp hfirst)] at hsame
        exact absurd hsame.symm (hnew second hsecond).2
      · exact Option.mem_unique (Option.mem_toList.mp hfirst) (Option.mem_toList.mp hsecond)
  · intro renewal hrenewal
    obtain ⟨hpast, hlength, request, hrequest, hkey⟩ := h.renewals renewal hrenewal
    exact ⟨hpast, hlength, request, List.mem_append_left _ hrequest, hkey⟩

/-- An answer that tells no renewal, or one that the server has, keeps the world anchored. -/
theorem answer {response : NetworkResponse}
    (hgranted : response.isSuccess = true → ∀ lease, response.body = .heartbeat lease →
      Granted setting w.server request.idempotencyKey lease) :
    Anchored setting { w with answers := w.answers ++ [(request, response)] } := by
  refine ⟨h.device, h.waiting, h.unique, h.lasting, h.renewals, ?_⟩
  intro pair hpair
  rcases List.mem_append.mp hpair with hpair | hpair
  · exact h.answers pair hpair
  · obtain rfl := List.mem_singleton.mp hpair
    exact hgranted

/-- A renewal keeps the world anchored. -/
theorem renew {heartbeatAt leaseExpiresAt : DateTime} (hsent : request ∈ w.sent)
    (hclock : heartbeatAt.nanos = w.clock.nanos + setting.offset)
    (hlength : leaseExpiresAt.nanos = heartbeatAt.nanos + setting.timeout.nanos) :
    Anchored setting { w with
      server := ⟨leaseExpiresAt,
        ⟨request.idempotencyKey, heartbeatAt, leaseExpiresAt⟩ :: w.server.renewals⟩ } where
  device := h.device.served (by rw [hclock])
  waiting := h.waiting
  unique := h.unique
  lasting renewal hrenewal := by
    rcases List.mem_cons.mp hrenewal with rfl | hrenewal
    · exact le_refl _
    · obtain ⟨hpast, _, -⟩ := h.renewals renewal hrenewal
      dsimp only
      omega
  renewals renewal hrenewal := by
    rcases List.mem_cons.mp hrenewal with rfl | hrenewal
    · exact ⟨hclock.le, hlength, request, hsent, rfl⟩
    · exact h.renewals renewal hrenewal
  answers pair hpair hsuccess lease hbody := (h.answers pair hpair hsuccess lease hbody).cons _ _

/-- Serving a request keeps the world anchored. -/
theorem serve {heartbeatAt : DateTime} (hsent : request ∈ w.sent)
    (hclock : heartbeatAt.nanos = w.clock.nanos + setting.offset) :
    Anchored setting (w.next setting ⟨w.clock, .serve request heartbeatAt⟩) := by
  have hcases := serve_cases setting w.server request.idempotencyKey heartbeatAt
  unfold World.next
  dsimp only
  rcases hcases with ⟨hserver, hanswer⟩ | ⟨leaseExpiresAt, hlength, hserver, hanswer⟩
  · rw [hserver]
    refine h.answer fun hsuccess lease hbody => ?_
    rcases hanswer with hfailed | ⟨renewal, hrenewal, hkey, hanswer⟩
    · rw [hfailed] at hsuccess
      cases hsuccess
    · rw [hanswer] at hbody
      cases hbody
      exact ⟨renewal, hrenewal, hkey, rfl⟩
  · rw [hserver, hanswer]
    refine (h.renew hsent hclock hlength).answer fun _ lease hbody => ?_
    cases hbody
    exact ⟨_, List.mem_cons_self, rfl, rfl⟩

/-- The arrival of an answer keeps the world anchored. -/
theorem deliver {activeMatches checkPending : Bool} (hsent : request ∈ w.sent)
    (hanswered : ∀ answer ∈ response, (request, answer) ∈ w.answers) :
    Anchored setting
      (w.next setting ⟨w.clock, .deliver request response activeMatches checkPending⟩) := by
  unfold World.next handle
  dsimp only
  split
  · exact h
  · next expected hexpected =>
    split_ifs with hother
    · exact h
    · obtain ⟨-, -, hsame⟩ : expected.operation = request.operation ∧
          expected.taskId = request.taskId ∧ expected.requestId = request.requestId := by
        simpa only [not_or, not_not] using hother
      obtain ⟨first, hfirst, hfirstId, hkey⟩ := h.waiting expected hexpected
      obtain rfl := h.unique first hfirst request hsent (hfirstId.trans hsame)
      have hidle : Idle setting w.server w.clock { w.runtime with expected := none } :=
        ⟨h.device, rfl⟩
      obtain ⟨hsound, hnone⟩ := hidle.record hkey
        (fun answer hanswer => h.answers _ (hanswered answer hanswer)) w.clock checkPending
      refine h.device_step hsound fun waiting hwaiting => ?_
      rw [hnone] at hwaiting
      cases hwaiting
    · exact h.device_step sound_fresh waiting_fresh

/-- A change of the monitor alone keeps the world anchored when the monitor stays sound. -/
theorem onMonitor {change : MovementLeaseMonitor → MovementLeaseMonitor}
    (hchange : ∀ {key monitor}, SoundMonitor setting w.server w.clock key monitor →
      SoundMonitor setting w.server w.clock key (change monitor)) :
    Anchored setting { w with runtime := w.runtime.onMonitor change } := by
  refine h.device_step ?_ h.waiting
  intro changed hchanged
  obtain ⟨monitor, hmonitor, rfl⟩ := Option.map_eq_some_iff.mp hchanged
  exact hchange (h.device monitor hmonitor)

theorem next {step : Step} (hallowed : Allowed setting w step) :
    Anchored setting (w.next setting step) := by
  obtain ⟨now, action⟩ := step
  obtain ⟨hnow, hallowed⟩ := hallowed
  have h := h.later hnow
  cases action with
  | frame => exact h.frame hallowed.2
  | serve => exact h.serve hallowed.1 hallowed.2
  | refuse => exact h.answer fun hsuccess lease hbody => absurd hbody (hallowed.2 hsuccess lease)
  | deliver => exact h.deliver hallowed.1 hallowed.2
  | expire => exact h.onMonitor fun hsound => hsound.expired now
  | fail attemptId kind => exact h.onMonitor fun hsound => hsound.heartbeatFailed attemptId kind now
  | clear => exact h.device_step sound_fresh waiting_fresh

end Anchored

theorem run_anchored {lease : DateTime} {clock : Duration}
    (h : LeaseRun setting (World.start lease clock) w) : Anchored setting w := by
  refine Run.preserves (Anchored setting) ?_ h (anchored_start lease clock)
  rintro w step _ hallowed rfl hw
  exact hw.next hallowed

/-- In every run a monitor that allows inventory actions at a time is right that the lease
on the server lasts longer than the guard after it. A callback that does not match the
heartbeat in flight leaves the monitor alone, a response that does not match the expected
request leaves the device alone, and a monitor that recorded a rejection never allows an
action again, whatever happens to it. -/
theorem actions_stay_within_server_lease {lease : DateTime} {clock : Duration}
    (h : LeaseRun setting (World.start lease clock) w) :
    (∀ monitor, w.runtime.monitor = some monitor → ∀ now : Duration,
      monitor.inventoryActionsAllowed now = true →
      now.nanos + setting.policy.actionGuard.nanos + setting.offset < w.server.lease.nanos) ∧
    (∀ (monitor : MovementLeaseMonitor) attemptId,
      (∀ startedAt, monitor.heartbeatState ≠ .inFlight attemptId startedAt) →
      (∀ parse response receivedAt,
        (monitor.heartbeatSucceeded parse attemptId response receivedAt).2 = monitor) ∧
      ∀ kind receivedAt, (monitor.heartbeatFailed attemptId kind receivedAt).2 = monitor) ∧
    (∀ operation taskId requestId response activeMatches checkPending now,
      (∀ expected ∈ w.runtime.expected, expected.requestId ≠ requestId) →
      w.runtime.handle setting.texts.parse operation taskId requestId response activeMatches
        checkPending now = w.runtime) ∧
    (∀ (monitor : MovementLeaseMonitor) attemptId receivedAt,
      (monitor.heartbeatFailed attemptId .leaseRejected receivedAt).1 = .ok () →
      ∀ parse (events : List MonitorEvent) now,
        (events.foldl (MovementLeaseMonitor.apply parse)
          (monitor.heartbeatFailed attemptId .leaseRejected receivedAt).2).inventoryActionsAllowed
            now = false) := by
  have hw := run_anchored h
  refine ⟨?_, ?_, ?_, ?_⟩
  · intro monitor hmonitor now hallowed
    obtain ⟨-, hverified, hguard⟩ := allowed_iff.mp hallowed
    obtain ⟨renewal, hrenewal, _⟩ := (hw.device monitor hmonitor).deadline hverified
    have hlasting := hw.lasting renewal hrenewal
    rw [(hw.device monitor hmonitor).policy] at hguard
    omega
  · intro monitor attemptId hidle
    constructor
    · intro parse response receivedAt
      obtain ⟨error, hsucceeded⟩ := heartbeatSucceeded_unmatched parse response receivedAt hidle
      rw [hsucceeded]
    · intro kind receivedAt
      obtain ⟨error, hfailed⟩ := heartbeatFailed_unmatched kind receivedAt hidle
      rw [hfailed]
  · intro operation taskId requestId response activeMatches checkPending now hother
    unfold handle
    split
    · rfl
    · next expected hexpected => rw [if_pos (.inr (.inr (hother expected hexpected)))]
  · intro monitor attemptId receivedAt hrejected parse events now
    exact blocked_after_rejection (rejected_of_failed hrejected) events now

section Putaway

/-- A second of the monotonic clock. -/
def tick (seconds : Fin 100000) : Duration := ⟨seconds * 1000000000, by omega⟩

/-- A second of the server's clock. -/
def serverSecond (seconds : Fin 100000) : DateTime :=
  ⟨seconds * 1000000000, by unfold minSeconds; omega, by unfold maxSeconds; omega⟩

/-- The texts of the instants below. -/
def earlyTexts : Rfc3339 where
  parse text :=
    if text = "1970-01-01T01:00:02+00:00" then some (serverSecond 3602)
    else if text = "1970-01-01T01:30:00+00:00" then some (serverSecond 5400)
    else if text = "1970-01-01T01:30:02+00:00" then some (serverSecond 5402)
    else none
  format instant :=
    if instant = serverSecond 3602 then "1970-01-01T01:00:02+00:00"
    else if instant = serverSecond 5400 then "1970-01-01T01:30:00+00:00"
    else if instant = serverSecond 5402 then "1970-01-01T01:30:02+00:00"
    else ""
  parse_format {instant read} h := by
    split_ifs at h <;> simp_all

/-- Putaway of task 42 under half-hour leases, with a server clock that is an hour ahead of
the monotonic clock. -/
def putawaySetting : Setting :=
  ⟨.putaway, 42, .default, earlyTexts, tick 1800, 3600000000000⟩

/-- A frame that shows the claim. -/
def putawayFrame (newKey requestId : String) : Frame :=
  ⟨false, some ⟨.putaway, 42, earlyTexts.format (serverSecond 5400)⟩, serverSecond 3601, true,
    true, newKey, requestId⟩

/-- The first heartbeat. -/
def firstHeartbeat : HeartbeatRequest := ⟨.putaway, 42, "request-1", "key-1"⟩

/-- The retry of that heartbeat, under its key. -/
def secondHeartbeat : HeartbeatRequest := ⟨.putaway, 42, "request-2", "key-1"⟩

/-- The renewal, whose answer to the first request is lost. -/
def firstRenewal : Renewal := ⟨"key-1", serverSecond 3602, serverSecond 5402⟩

/-- The answer to the first heartbeat is lost, and the retry is answered from the record. -/
def retriedHeartbeat : List Step :=
  [⟨tick 1, .frame (putawayFrame "key-1" "request-1")⟩,
   ⟨tick 2, .serve firstHeartbeat (serverSecond 3602)⟩,
   ⟨tick 16, .frame (putawayFrame "key-2" "request-2")⟩,
   ⟨tick 21, .frame (putawayFrame "key-2" "request-2")⟩,
   ⟨tick 22, .serve secondHeartbeat (serverSecond 3622)⟩,
   ⟨tick 23, .deliver secondHeartbeat (some (firstRenewal.answer putawaySetting)) true false⟩]

/-- The state after that run. -/
def afterRetry : World :=
  replay (World.next putawaySetting) retriedHeartbeat (World.start (serverSecond 5400) (tick 0))

theorem retriedHeartbeat_allowed :
    Replays (World.next putawaySetting) (Allowed putawaySetting) retriedHeartbeat
      (World.start (serverSecond 5400) (tick 0)) := by
  refine ⟨⟨?_, ?_, ?_⟩, ⟨?_, ?_, ?_⟩, ⟨?_, ?_, ?_⟩, ⟨?_, ?_, ?_⟩, ⟨?_, ?_, ?_⟩, ⟨?_, ?_, ?_⟩,
    trivial⟩ <;> decide +kernel

/-- The device may act long after the retry, and the lease on the server lasts beyond the
guard after that. -/
theorem retried_heartbeat_stays_within_lease :
    ∃ monitor, afterRetry.runtime.monitor = some monitor ∧
      monitor.inventoryActionsAllowed (tick 1700) = true ∧
      ((tick 1700).nanos : ℤ) + putawaySetting.policy.actionGuard.nanos + putawaySetting.offset <
        afterRetry.server.lease.nanos := by
  have hrun : LeaseRun putawaySetting (World.start (serverSecond 5400) (tick 0)) afterRetry :=
    run_replay (World.next putawaySetting) retriedHeartbeat_allowed
  have hallowed : afterRetry.runtime.monitor.any
      (fun monitor => monitor.inventoryActionsAllowed (tick 1700)) = true := by decide +kernel
  obtain ⟨monitor, hmonitor, hallowed⟩ := (Option.any_eq_true _ _).mp hallowed
  exact ⟨monitor, hmonitor, hallowed,
    (actions_stay_within_server_lease hrun).1 monitor hmonitor (tick 1700) hallowed⟩

end Putaway

end Wareboxes.LeaseSafety
