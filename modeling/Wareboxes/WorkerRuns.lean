import Wareboxes.LabelledRuns
import Wareboxes.RustTime

/-!
# Delivery runs of the outbox worker

A worker has a semaphore with a permit for each delivery that may be in flight. Its runs share
the semaphore: a run goes through tenants, reserves permits, asks the store for at most so many
events and starts a delivery with a permit of its own for each event. Tenants are given, or
discovered page by page. A run may be interleaved with other runs and with the ends of deliveries
in any way, and the store and the publisher may answer anything.
-/

namespace Wareboxes.WorkerRuns

open RustTime LabelledRuns List

section Model

/-- An error with its contexts, the outermost first. -/
abbrev Error := List String

/-- `WorkerConfig`, with durations in nanoseconds. -/
structure WorkerConfig where
  batchSize : ℤ
  maxInFlight : ℕ
  tenantPageSize : ℕ
  lease : ℕ
  publishTimeout : ℕ
  retryDelay : ℕ
  retryDelayCap : ℕ
  maxAttempts : ℤ

/-- `WorkerConfig::validate`. -/
def WorkerConfig.validate (config : WorkerConfig) : Except Error Unit :=
  if ¬(1 ≤ config.batchSize ∧ config.batchSize ≤ 1000) then
    .error ["worker batch size must be between 1 and 1000"]
  else if ¬(1 ≤ config.maxInFlight ∧ config.maxInFlight ≤ 1000) then
    .error ["maximum in-flight deliveries must be between 1 and 1000"]
  else if ¬(1 ≤ config.tenantPageSize ∧ config.tenantPageSize ≤ 10000) then
    .error ["tenant page size must be between 1 and 10000"]
  else if config.lease = 0 then .error ["worker lease must be positive"]
  else if config.publishTimeout = 0 then .error ["publisher timeout must be positive"]
  else if config.lease ≤ config.publishTimeout then
    .error ["publisher timeout must be shorter than the claim lease"]
  else if config.retryDelayCap < config.retryDelay then
    .error ["retry delay cap must not be shorter than the base retry delay"]
  else if config.maxAttempts ≤ 0 then .error ["maximum delivery attempts must be positive"]
  else .ok ()

/-- The permits that `reserve_claim_slots` tries to get. -/
def WorkerConfig.desiredCapacity (config : WorkerConfig) : ℕ :=
  min config.batchSize.toNat config.maxInFlight

/-- `EventOutcome`. -/
inductive EventOutcome where
  | published
  | retryableFailure
  | permanentFailure
  | lostClaim

/-- `RunSummary`. -/
structure RunSummary where
  claimed : ℕ
  published : ℕ
  retryableFailures : ℕ
  permanentFailures : ℕ
  lostClaims : ℕ

/-- `RunSummary::record`. -/
def RunSummary.record (summary : RunSummary) : EventOutcome → RunSummary
  | .published => { summary with published := summary.published + 1 }
  | .retryableFailure => { summary with retryableFailures := summary.retryableFailures + 1 }
  | .permanentFailure => { summary with permanentFailures := summary.permanentFailures + 1 }
  | .lostClaim => { summary with lostClaims := summary.lostClaims + 1 }

/-- The outcomes that a summary has. -/
def RunSummary.outcomes (summary : RunSummary) : ℕ :=
  summary.published + summary.retryableFailures + summary.permanentFailures + summary.lostClaims

/-- How the publisher's own task ends. -/
inductive PublishEnd where
  | succeeded
  | failedRetryable
  | failedPermanent
  | timedOut
  | panicked
  | cancelled

/-- `process_event`: what the publisher did and what the store answered to the report. -/
def processEvent (publish : PublishEnd) (marked : Except Error Bool) :
    Except Error EventOutcome := do
  if ← marked then
    return match publish with
      | .succeeded => .published
      | .failedPermanent => .permanentFailure
      | .failedRetryable | .timedOut | .panicked | .cancelled => .retryableFailure
  else return .lostClaim

/-- How a delivery ends. -/
inductive TaskEnd where
  | returned (publish : PublishEnd) (marked : Except Error Bool)
  /-- The task itself panicked or was cancelled. -/
  | joinError

/-- `TenantId`, an `i64`. -/
@[ext]
structure TenantId where
  get : ℤ
  /-- It fits the column. -/
  fits : get ≤ maxI64

instance : DecidableEq TenantId := fun _ _ => decidable_of_iff _ TenantId.ext_iff.symm

/-- Where the tenants of a run come from. -/
inductive Source where
  /-- `run_once`. -/
  | once
  /-- `run_cycle`. -/
  | listed
  /-- `run_discovered_cycle`: the cursor, and whether the last page was short. -/
  | discovered (after : Option TenantId) (short : Bool)

/-- Where a run is. -/
inductive Phase where
  /-- At the head of the loop over tenants. -/
  | next
  /-- It reserves permits for the last tenant. -/
  | reserving (held : ℕ)
  /-- It asked the store for so many events. -/
  | claiming (limit : ℕ)
  /-- It asked the store for a page of tenants. -/
  | discovering
  /-- It waits for its deliveries. -/
  | draining
  | returned (result : Except Error RunSummary)

/-- A run of the worker. -/
structure Cycle where
  source : Source
  todo : List TenantId
  phase : Phase
  /-- Deliveries in flight, each with a permit. -/
  running : ℕ
  /-- Ends of deliveries that were not joined. -/
  ready : List TaskEnd
  summary : RunSummary
  firstError : Option Error
  /-- The tenants that were processed, in their order. -/
  started : List TenantId

/-- What a run or its surroundings do. -/
inductive Action where
  | finish (result : TaskEnd)
  /-- An ended delivery is joined. -/
  | collect
  /-- The run goes on to the next tenant or leaves the loop. -/
  | proceed
  /-- A permit is acquired. -/
  | take
  /-- The store is asked for events. -/
  | ask
  | answer (events : Except Error ℕ)
  | page (tenants : Except Error (List TenantId))
  | exit

/-- `record_first_error`. -/
def Cycle.recordFirstError (error : Error) (c : Cycle) : Cycle :=
  { c with firstError := some (c.firstError.getD error) }

/-- `record_task_result`. -/
def Cycle.recordTaskResult (c : Cycle) : TaskEnd → Cycle
  | .returned publish marked =>
    match processEvent publish marked with
    | .ok outcome => { c with summary := c.summary.record outcome }
    | .error error => c.recordFirstError error
  | .joinError =>
    c.recordFirstError ["joining an outbox event task after publisher panic containment"]

/-- `validate_tenant_page`, from the cursor or zero on. -/
def validateTenantPage : ℤ → List TenantId → Bool
  | _, [] => true
  | previous, tenant :: rest => previous < tenant.get && validateTenantPage tenant.get rest

/-- The cursor as `validate_tenant_page` reads it. -/
def cursor (after : Option TenantId) : ℤ := (after.map TenantId.get).getD 0

/-- `claim_and_spawn` fails: `run_once` returns, the others go on. -/
def Cycle.fail (error : Error) (c : Cycle) : Cycle :=
  match c.source with
  | .once => { c with phase := .returned (.error error) }
  | _ => { c.recordFirstError (("processing outbox events for tenant " ++
      toString ((c.started.getLast?.map TenantId.get).getD 0)) :: error) with phase := .next }

/-- The next step of a run at the head of its loop. -/
def Cycle.proceed (c : Cycle) : Cycle :=
  match c.todo, c.source with
  | tenant :: rest, _ =>
    { c with todo := rest, phase := .reserving 0, started := c.started ++ [tenant] }
  | [], .discovered _ false => { c with phase := .discovering }
  | [], _ => { c with phase := .draining }

/-- A page of tenants arrives. -/
def WorkerConfig.receivePage (config : WorkerConfig) (after : Option TenantId) (c : Cycle) :
    Except Error (List TenantId) → Cycle
  | .error error =>
    { c.recordFirstError ("discovering tenants for outbox delivery" :: error) with
      phase := .draining }
  | .ok [] => { c with phase := .draining }
  | .ok page =>
    if validateTenantPage (cursor after) page then
      { c with
        source := .discovered page.getLast? (decide (page.length < config.tenantPageSize))
        todo := page
        phase := .next }
    else
      { c.recordFirstError ["tenant discovery page must be strictly increasing after its cursor"]
        with phase := .draining }

/-- `finish_summary`. -/
def Cycle.finishSummary (c : Cycle) : Except Error RunSummary :=
  match c.firstError with
  | some error => .error error
  | none => .ok c.summary

/-- The permits and the run after an action, when the action is possible. -/
def WorkerConfig.act (config : WorkerConfig) (free : ℕ) (c : Cycle) : Action → Option (ℕ × Cycle)
  | .finish result =>
    if 0 < c.running then
      some (free + 1, { c with running := c.running - 1, ready := c.ready ++ [result] })
    else none
  | .collect =>
    match c.phase, c.ready with
    | .next, result :: rest | .draining, result :: rest =>
      some (free, { c.recordTaskResult result with ready := rest })
    | _, _ => none
  | .proceed =>
    match c.phase with
    | .next => some (free, c.proceed)
    | _ => none
  | .take =>
    match c.phase with
    | .reserving held =>
      if 0 < free ∧ (held = 0 ∨ held < config.desiredCapacity) then
        some (free - 1, { c with phase := .reserving (held + 1) })
      else none
    | _ => none
  | .ask =>
    match c.phase with
    | .reserving held =>
      if 0 < held ∧ (config.desiredCapacity ≤ held ∨ free = 0) then
        some (free, { c with phase := .claiming held })
      else none
    | _ => none
  | .answer events =>
    match c.phase, events with
    | .claiming limit, .error error => some (free + limit, c.fail error)
    | .claiming limit, .ok count =>
      if limit < count then
        some (free + limit,
          c.fail ["outbox store returned more events than the requested claim limit"])
      else
        some (free + (limit - count), { c with
          phase := .next
          running := c.running + count
          summary := { c.summary with claimed := c.summary.claimed + count } })
    | _, _ => none
  | .page tenants =>
    match c.phase, c.source with
    | .discovering, .discovered after _ => some (free, config.receivePage after c tenants)
    | _, _ => none
  | .exit =>
    match c.phase, c.running, c.ready with
    | .draining, 0, [] => some (free, { c with phase := .returned c.finishSummary })
    | _, _, _ => none

/-- A run that starts. -/
def newCycle (source : Source) (todo : List TenantId) : Cycle :=
  ⟨source, todo, .next, 0, [], ⟨0, 0, 0, 0, 0⟩, none, []⟩

/-- A worker: the free permits of its semaphore, and its runs. -/
structure World where
  free : ℕ
  cycles : List Cycle

/-- What happens to a worker. -/
inductive Label where
  | runOnce (tenant : TenantId)
  | runCycle (tenants : List TenantId)
  | runDiscoveredCycle
  | act (index : ℕ) (action : Action)

/-- The worker afterwards, when it can happen. -/
def World.next (config : WorkerConfig) (w : World) : Label → Option World
  | .runOnce tenant => some { w with cycles := w.cycles ++ [newCycle .once [tenant]] }
  | .runCycle tenants => some { w with cycles := w.cycles ++ [newCycle .listed tenants] }
  | .runDiscoveredCycle =>
    some { w with cycles := w.cycles ++ [newCycle (.discovered none false) []] }
  | .act index action => do
    let c ← w.cycles[index]?
    let (free, c') ← config.act w.free c action
    return ⟨free, w.cycles.set index c'⟩

/-- The worker after some labels, when they can happen. -/
def World.play (config : WorkerConfig) : World → List Label → Option World
  | w, [] => some w
  | w, label :: rest => (w.next config label).bind fun w' => w'.play config rest

/-- `Worker::new`. -/
def World.initial (config : WorkerConfig) : World := ⟨config.maxInFlight, []⟩

/-- The deliveries in flight. -/
def World.inFlight (w : World) : ℕ := (w.cycles.map Cycle.running).sum

end Model

section Invariant

variable {config : WorkerConfig} {free free' : ℕ} {c c' : Cycle} {action : Action}

/-- The permits that a run keeps for a claim. -/
def Phase.held : Phase → ℕ
  | .reserving held => held
  | .claiming limit => limit
  | _ => 0

/-- A claim is on its way. -/
def Phase.claims : Phase → Bool
  | .reserving _ | .claiming _ => true
  | _ => false

/-- The permits of a run and its deliveries. -/
def Cycle.slots (c : Cycle) : ℕ := c.phase.held + c.running

/-- The tenants that a discovered cycle knows are in order, up to its cursor. -/
def Cycle.InOrder (c : Cycle) : Prop :=
  match c.source with
  | .discovered after _ =>
    0 ≤ cursor after ∧
      (c.started ++ c.todo).Pairwise (fun tenant later => tenant.get < later.get) ∧
      ∀ tenant ∈ c.started ++ c.todo, 0 < tenant.get ∧ tenant.get ≤ cursor after
  | _ => True

/-- What holds of a run at every moment. -/
structure Sound (config : WorkerConfig) (c : Cycle) : Prop where
  /-- No more permits are reserved than wanted. -/
  bounded : c.phase.held ≤ config.desiredCapacity
  /-- Without an error every claimed event is in flight, ended or counted. -/
  accounts : c.firstError = none →
    c.summary.claimed = c.running + c.ready.length + c.summary.outcomes
  /-- Its parts run in order. -/
  inOrder : c.InOrder
  /-- All tenants of a page were processed before the next page is asked for. -/
  page : c.phase = .discovering → c.todo = [] ∧ ∃ after short, c.source = .discovered after short
  /-- A single tenant has no deliveries before its claim is answered. -/
  once : c.source = .once → c.todo.length ≤ 1 ∧ (c.todo ≠ [] → c.phase = .next) ∧
    (c.todo ≠ [] ∨ c.phase.claims = true → c.running = 0 ∧ c.ready = [])
  /-- A run returns when its deliveries were joined, with their sum. -/
  returned : ∀ result, c.phase = .returned result → c.running = 0 ∧ c.ready = [] ∧
    ∀ summary, result = .ok summary → summary.claimed = summary.outcomes

/-- The last tenant that was processed, or zero. -/
def Cycle.lastStarted (c : Cycle) : ℤ := cursor c.started.getLast?

/-- How many tenants a run can still process. -/
def Cycle.remaining (c : Cycle) : ℕ :=
  match c.source with
  | .discovered _ _ => (maxI64 - c.lastStarted).toNat
  | _ => c.todo.length

/-- The steps that a run can still take for the tenant it is at. -/
def Phase.cost (capacity : ℕ) (todo : List TenantId) : Phase → ℕ
  | .next => if todo.isEmpty then 3 else 1
  | .reserving held => 2 * capacity + 5 + (capacity - held)
  | .claiming limit => 2 * limit + 4
  | .discovering => 2
  | .draining => 1
  | .returned _ => 0

/-- A bound on the steps that a run can still take. -/
def Cycle.cost (config : WorkerConfig) (c : Cycle) : ℕ :=
  (3 * config.desiredCapacity + 5) * c.remaining +
    c.phase.cost config.desiredCapacity c.todo + 2 * c.running + c.ready.length

/-- What every action of a run does: permits are not lost, the run stays sound, and fewer steps
are left. -/
structure Advances (config : WorkerConfig) (free : ℕ) (c : Cycle) (free' : ℕ) (c' : Cycle) :
    Prop where
  /-- Permits are neither made nor lost. -/
  slots : free' + c'.slots = free + c.slots
  /-- The cycle stays sound. -/
  sound : Sound config c'
  /-- It comes nearer to its end. -/
  cost : c'.cost config < c.cost config

theorem recordTaskResult_spec (c : Cycle) (result : TaskEnd) :
    ∃ summary firstError, c.recordTaskResult result = { c with summary, firstError } ∧
      summary.claimed = c.summary.claimed ∧
      (firstError = none → c.firstError = none ∧ summary.outcomes = c.summary.outcomes + 1) := by
  unfold Cycle.recordTaskResult
  split
  · split
    · next outcome _ =>
      refine ⟨c.summary.record outcome, c.firstError, rfl, ?_, fun hnone => ⟨hnone, ?_⟩⟩
      · cases outcome <;> rfl
      · cases outcome <;> simp only [RunSummary.record, RunSummary.outcomes] <;> omega
    · exact ⟨c.summary, _, rfl, rfl, nofun⟩
  · exact ⟨c.summary, _, rfl, rfl, nofun⟩

/-- Fewer steps are left when no more tenants are left. -/
theorem cost_lt (hremaining : c'.remaining ≤ c.remaining)
    (h : c'.phase.cost config.desiredCapacity c'.todo + 2 * c'.running + c'.ready.length <
      c.phase.cost config.desiredCapacity c.todo + 2 * c.running + c.ready.length) :
    c'.cost config < c.cost config := by
  have hmul := Nat.mul_le_mul_left (3 * config.desiredCapacity + 5) hremaining
  unfold Cycle.cost
  omega

variable {result : TaskEnd} {after : Option TenantId} {short : Bool}

section

variable (hs : Sound config c)
include hs

/-- A delivery that ended keeps its place among those to join. -/
theorem finish_advances (h : 0 < c.running) :
    Advances config free c (free + 1)
      { c with running := c.running - 1, ready := c.ready ++ [result] } := by
  refine ⟨?_, ⟨hs.bounded, ?_, hs.inOrder, hs.page, ?_, ?_⟩, cost_lt le_rfl ?_⟩ <;>
    grind [Cycle.slots, Sound]

theorem collect_advances {rest : List TaskEnd} (h : c.ready = result :: rest) :
    Advances config free c free { c.recordTaskResult result with ready := rest } := by
  obtain ⟨summary, firstError, heq, _, _⟩ := recordTaskResult_spec c result
  rw [heq]
  refine ⟨rfl, ⟨hs.bounded, ?_, hs.inOrder, hs.page, ?_, ?_⟩, cost_lt le_rfl ?_⟩ <;>
    grind [Sound]

/-- A failed claim gives its permits back. -/
theorem fail_advances {limit : ℕ} (h : c.phase = .claiming limit) (error : Error) :
    Advances config free c (free + limit) (c.fail error) := by
  unfold Cycle.fail Cycle.recordFirstError
  split
  all_goals
    refine ⟨?_, ⟨Nat.zero_le _, ?_, hs.inOrder, nofun, ?_, ?_⟩, cost_lt le_rfl ?_⟩ <;>
      grind [Cycle.slots, Phase.held, Phase.claims, Phase.cost, Sound]

/-- Permits for events that the store did not have are given back. -/
theorem spawn_advances {limit count : ℕ} (h : c.phase = .claiming limit) (hcount : count ≤ limit) :
    Advances config free c (free + (limit - count)) { c with
      phase := .next
      running := c.running + count
      summary := { c.summary with claimed := c.summary.claimed + count } } := by
  refine ⟨?_, ⟨Nat.zero_le _, ?_, hs.inOrder, nofun, ?_, nofun⟩, cost_lt le_rfl ?_⟩ <;>
    grind [Cycle.slots, Phase.held, Phase.claims, Phase.cost, RunSummary.outcomes, Sound]

/-- A reservation goes on, or ends with the call of the store. -/
theorem reserve_advances {held : ℕ} {phase : Phase} (h : c.phase = .reserving held)
    (hphase : phase.claims = true) (hslots : free' + phase.held = free + held)
    (hbounded : phase.held ≤ config.desiredCapacity)
    (hcost : phase.cost config.desiredCapacity c.todo <
      2 * config.desiredCapacity + 5 + (config.desiredCapacity - held)) :
    Advances config free c free' { c with phase } := by
  refine ⟨?_, ⟨hbounded, hs.accounts, hs.inOrder, ?_, ?_, ?_⟩, cost_lt le_rfl ?_⟩ <;>
    grind [Cycle.slots, Phase.held, Phase.claims, Phase.cost, Sound]

theorem exit_advances (h : c.phase = .draining) (hrunning : c.running = 0) (hready : c.ready = []) :
    Advances config free c free { c with phase := .returned c.finishSummary } := by
  refine ⟨?_, ⟨Nat.zero_le _, hs.accounts, hs.inOrder, nofun, ?_, ?_⟩, cost_lt le_rfl ?_⟩ <;>
    grind [Cycle.slots, Phase.held, Phase.claims, Phase.cost, Cycle.finishSummary, Sound]

/-- A tenant that is processed comes after those before it. -/
theorem lastStarted_lt {tenant : TenantId} {rest : List TenantId}
    (hsource : c.source = .discovered after short) (htodo : c.todo = tenant :: rest) :
    c.lastStarted < tenant.get := by
  have horder := hs.inOrder
  unfold Cycle.InOrder at horder
  rw [hsource, htodo] at horder
  unfold Cycle.lastStarted
  cases hlast : c.started.getLast? with
  | none => exact (horder.2.2 tenant (by simp)).1
  | some last =>
    rw [pairwise_append] at horder
    exact horder.2.1.2.2 last (mem_of_getLast? hlast) tenant (mem_cons_self ..)

theorem proceed_advances (h : c.phase = .next) : Advances config free c free c.proceed := by
  unfold Cycle.proceed
  split
  · next tenant rest htodo =>
    have horder : Cycle.InOrder { c with
        todo := rest, phase := .reserving 0, started := c.started ++ [tenant] } := by
      have horder := hs.inOrder
      unfold Cycle.InOrder at horder ⊢
      rw [htodo] at horder
      simpa only [append_assoc, singleton_append] using horder
    -- The tenant was among those that could still be processed.
    have hless : Cycle.remaining { c with
        todo := rest, phase := .reserving 0, started := c.started ++ [tenant] } + 1 ≤
        c.remaining := by
      cases hsource : c.source with
      | discovered after short =>
        have hlast := lastStarted_lt hs hsource htodo
        have hfits := tenant.fits
        simp only [Cycle.remaining, hsource, Cycle.lastStarted, getLast?_append,
          getLast?_singleton, Option.some_or, cursor, Option.map_some, Option.getD_some]
        unfold Cycle.lastStarted cursor at hlast
        omega
      | once | listed => simp [Cycle.remaining, hsource, htodo]
    refine ⟨?_, ⟨Nat.zero_le _, hs.accounts, horder, nofun, ?_, nofun⟩, ?_⟩
    · grind [Cycle.slots, Phase.held]
    · intro honce
      obtain ⟨hcount, -, hidle⟩ := hs.once honce
      rw [htodo, length_cons] at hcount
      have hlast : rest = [] := List.length_eq_zero_iff.mp (by omega)
      exact ⟨by dsimp only; omega, fun hmore => absurd hlast hmore,
        fun _ => hidle (.inl (by rw [htodo]; nofun))⟩
    · have hmul := Nat.mul_le_mul_left (3 * config.desiredCapacity + 5) hless
      grind [Cycle.cost, Phase.cost]
  all_goals
    refine ⟨?_, ⟨Nat.zero_le _, hs.accounts, hs.inOrder, ?_, ?_, nofun⟩, cost_lt le_rfl ?_⟩ <;>
      grind [Cycle.slots, Phase.held, Phase.claims, Phase.cost, Sound]

end

/-- A page of tenants after the cursor. -/
theorem validateTenantPage_spec {previous : ℤ} {page : List TenantId}
    (h : validateTenantPage previous page = true) :
    page.Pairwise (fun tenant later => tenant.get < later.get) ∧
      ∀ tenant ∈ page, previous < tenant.get ∧ tenant.get ≤ cursor page.getLast? := by
  induction page generalizing previous with
  | nil => exact ⟨.nil, forall_mem_nil _⟩
  | cons tenant rest ih =>
    rw [validateTenantPage, Bool.and_eq_true, decide_eq_true_eq] at h
    obtain ⟨hsorted, hrest⟩ := ih h.2
    refine ⟨List.pairwise_cons.mpr ⟨fun later hlater => (hrest later hlater).1, hsorted⟩, ?_⟩
    cases rest with
    | nil => simpa [cursor] using h.1
    | cons second others =>
      rw [getLast?_cons_cons]
      have hsecond := hrest second (mem_cons_self ..)
      refine List.forall_mem_cons.mpr ⟨⟨h.1, by omega⟩, fun later hlater => ?_⟩
      have hlate := hrest later hlater
      exact ⟨by omega, hlate.2⟩

theorem receivePage_advances (hs : Sound config c) (h : c.phase = .discovering)
    (hsource : c.source = .discovered after short) (tenants : Except Error (List TenantId)) :
    Advances config free c free (config.receivePage after c tenants) := by
  have hstop (firstError : Option Error) (herror : firstError = none → c.firstError = none) :
      Advances config free c free { c with phase := .draining, firstError } := by
    refine ⟨?_, ⟨Nat.zero_le _, ?_, hs.inOrder, nofun, ?_, nofun⟩, cost_lt le_rfl ?_⟩ <;>
      grind [Cycle.slots, Phase.held, Phase.cost, Sound]
  unfold WorkerConfig.receivePage
  split
  · exact hstop _ nofun
  · exact hstop c.firstError id
  · next page hpage =>
    split_ifs with hvalid
    · obtain ⟨hsorted, hbounds⟩ := validateTenantPage_spec hvalid
      have horder := hs.inOrder
      unfold Cycle.InOrder at horder
      rw [hsource, (hs.page h).1, append_nil] at horder
      obtain ⟨_, hstarted, hbelow⟩ := horder
      have hlarge : ∀ tenant ∈ c.started, ∀ later ∈ page, tenant.get < later.get :=
        fun tenant htenant later hlater =>
          lt_of_le_of_lt (hbelow tenant htenant).2 (hbounds later hlater).1
      obtain ⟨first, rest, rfl⟩ := exists_cons_of_ne_nil (fun hnil => hpage (hnil ▸ rfl))
      have hfirst := hbounds first (mem_cons_self ..)
      refine ⟨?_, ⟨Nat.zero_le _, hs.accounts, ⟨by omega, List.pairwise_append.mpr
        ⟨hstarted, hsorted, hlarge⟩, ?_⟩, nofun, nofun, nofun⟩, cost_lt ?_ ?_⟩
      · grind [Cycle.slots, Phase.held]
      · refine List.forall_mem_append.mpr ⟨fun tenant htenant => ?_, fun tenant htenant => ?_⟩
        · have hlate := hlarge tenant htenant first (mem_cons_self ..)
          exact ⟨(hbelow tenant htenant).1, by omega⟩
        · exact ⟨by have hbound := hbounds tenant htenant; omega, (hbounds tenant htenant).2⟩
      · simp only [Cycle.remaining, hsource]
        exact le_rfl
      · grind [Phase.cost]
    · exact hstop _ nofun

/-- Every action of a sound run. -/
theorem act_advances (hcapacity : 0 < config.desiredCapacity) (hs : Sound config c)
    (h : config.act free c action = some (free', c')) : Advances config free c free' c' := by
  cases action with
  | finish =>
    simp only [WorkerConfig.act, Option.ite_none_right_eq_some] at h
    obtain ⟨hrunning, ⟨⟩⟩ := h
    exact finish_advances hs hrunning
  | collect =>
    simp only [WorkerConfig.act] at h
    split at h
    · next hready => cases h; exact collect_advances hs hready
    · next hready => cases h; exact collect_advances hs hready
    · cases h
  | take | ask =>
    simp only [WorkerConfig.act] at h
    split at h
    · next held hphase =>
      have hbounded := hs.bounded
      rw [Option.ite_none_right_eq_some] at h
      obtain ⟨_, ⟨⟩⟩ := h
      refine reserve_advances hs hphase rfl ?_ ?_ ?_ <;> grind [Phase.held, Phase.cost]
    · cases h
  | answer =>
    simp only [WorkerConfig.act] at h
    split at h
    · next hphase => cases h; exact fail_advances hs hphase _
    · next hphase =>
      split_ifs at h with hmore
      · cases h; exact fail_advances hs hphase _
      · cases h; exact spawn_advances hs hphase (not_lt.mp hmore)
    · cases h
  | proceed | page | exit =>
    simp only [WorkerConfig.act] at h
    split at h
    · cases h
      first
        | exact proceed_advances hs ‹_›
        | exact receivePage_advances hs ‹_› ‹_› _
        | exact exit_advances hs ‹_› ‹_› ‹_›
    · cases h

end Invariant

section Runs

variable {config : WorkerConfig} {w w' : World} {label : Label} {c : Cycle} {index : ℕ}

/-- All permits are accounted for, and all runs are sound. -/
structure Consistent (config : WorkerConfig) (w : World) : Prop where
  /-- Every permit is free or held. -/
  permits : w.free + (w.cycles.map Cycle.slots).sum = config.maxInFlight
  /-- Every cycle is sound. -/
  sound : ∀ c ∈ w.cycles, Sound config c

/-- A worker that follows labels that can happen. -/
abbrev WorkerRun (config : WorkerConfig) : World → World → Prop :=
  Run (fun w label w' => w.next config label = some w') fun _ _ => True

/-- A valid configuration has room for a delivery. -/
theorem desiredCapacity_pos (h : config.validate = .ok ()) : 0 < config.desiredCapacity := by
  unfold WorkerConfig.validate at h
  split_ifs at h with hbatch hroom
  unfold WorkerConfig.desiredCapacity
  omega

theorem sound_newCycle {source : Source} {todo : List TenantId}
    (horder : Cycle.InOrder (newCycle source todo)) (honce : source = .once → todo.length ≤ 1) :
    Sound config (newCycle source todo) :=
  ⟨Nat.zero_le _, fun _ => rfl, horder, nofun,
    fun hsource => ⟨honce hsource, fun _ => rfl, fun _ => ⟨rfl, rfl⟩⟩, nofun⟩

theorem Consistent.start (hw : Consistent config w) (hs : Sound config c)
    (hslots : c.slots = 0) : Consistent config { w with cycles := w.cycles ++ [c] } := by
  refine ⟨?_, List.forall_mem_append.mpr ⟨hw.sound, List.forall_mem_singleton.mpr hs⟩⟩
  rw [map_append, sum_append, map_singleton, sum_singleton, hslots]
  exact hw.permits

/-- An action of a run among the others. -/
theorem act_cases {action : Action} (h : w.next config (.act index action) = some w') :
    ∃ before c after free c', w.cycles = before ++ c :: after ∧ before.length = index ∧
      config.act w.free c action = some (free, c') ∧ w' = ⟨free, before ++ c' :: after⟩ := by
  simp only [World.next, Option.bind_eq_bind, Option.bind_eq_some_iff] at h
  obtain ⟨c, hc, ⟨free, c'⟩, hact, ⟨⟩⟩ := h
  obtain ⟨hlt, rfl⟩ := List.getElem?_eq_some_iff.mp hc
  refine ⟨w.cycles.take index, _, w.cycles.drop (index + 1), free, c', ?_, ?_, hact, ?_⟩
  · rw [getElem_cons_drop, take_append_drop]
  · exact length_take_of_le hlt.le
  · rw [set_eq_take_append_cons_drop, if_pos hlt]

theorem Consistent.next (hcapacity : 0 < config.desiredCapacity) (hw : Consistent config w)
    (h : w.next config label = some w') : Consistent config w' := by
  cases label with
  | runOnce =>
    cases h
    exact hw.start (sound_newCycle trivial fun _ => le_rfl) rfl
  | runCycle =>
    cases h
    exact hw.start (sound_newCycle trivial nofun) rfl
  | runDiscoveredCycle =>
    cases h
    exact hw.start (sound_newCycle ⟨le_rfl, .nil, forall_mem_nil _⟩ nofun) rfl
  | act index action =>
    obtain ⟨before, c, after, free, c', hcycles, -, hact, rfl⟩ := act_cases h
    have hsound := hw.sound
    have hpermits := hw.permits
    rw [hcycles] at hsound hpermits
    obtain ⟨hbefore, hhere⟩ := List.forall_mem_append.mp hsound
    obtain ⟨hc, hafter⟩ := List.forall_mem_cons.mp hhere
    have hadvances := act_advances hcapacity hc hact
    refine ⟨?_, List.forall_mem_append.mpr ⟨hbefore,
      List.forall_mem_cons.mpr ⟨hadvances.sound, hafter⟩⟩⟩
    have hslots := hadvances.slots
    simp only [map_append, map_cons, sum_append, sum_cons] at hpermits ⊢
    omega

theorem run_consistent (hvalid : config.validate = .ok ())
    (h : WorkerRun config (World.initial config) w) : Consistent config w := by
  refine Run.preserves (Consistent config) (fun _ _ _ _ hstep hw =>
    hw.next (desiredCapacity_pos hvalid) hstep) h ⟨rfl, forall_mem_nil _⟩

theorem inFlight_add_held (w : World) :
    w.inFlight + (w.cycles.map fun c => c.phase.held).sum = (w.cycles.map Cycle.slots).sum := by
  unfold World.inFlight
  induction w.cycles with
  | nil => rfl
  | cons c rest ih =>
    simp only [map_cons, sum_cons, Cycle.slots] at ih ⊢
    omega

/-- At every moment no more deliveries are in flight than allowed, a claim that the store has to
answer asked for no more events than there are free slots, and a run that returned has no
delivery that did not end or was not joined. -/
theorem deliveries_stay_within_slots (config : WorkerConfig) (hvalid : config.validate = .ok ())
    (w : World) (hrun : WorkerRun config (World.initial config) w) :
    w.inFlight ≤ config.maxInFlight ∧
    (∀ c ∈ w.cycles, ∀ limit, c.phase = .claiming limit →
      limit ≤ config.maxInFlight - w.inFlight) ∧
    ∀ c ∈ w.cycles, ∀ result, c.phase = .returned result → c.running = 0 ∧ c.ready = [] := by
  have hw := run_consistent hvalid hrun
  have hpermits := hw.permits
  have hsum := inFlight_add_held w
  refine ⟨by omega, fun c hc limit hphase => ?_, fun c hc result hphase => ?_⟩
  · have hmem : c.phase.held ∈ w.cycles.map fun c => c.phase.held := mem_map_of_mem hc
    have hheld := single_le_sum (fun held _ => Nat.zero_le held) _ hmem
    rw [hphase] at hheld
    change limit ≤ _ at hheld
    omega
  · obtain ⟨hrunning, hready, -⟩ := (hw.sound c hc).returned result hphase
    exact ⟨hrunning, hready⟩

/-- The label is an action of this run. -/
def Label.actsOn (index : ℕ) : Label → Bool
  | .act other _ => other = index
  | _ => false

/-- What a step does to a run: an action of its own leaves fewer steps, everything else leaves
the run as it was. -/
theorem cost_next (hcapacity : 0 < config.desiredCapacity) (hw : Consistent config w)
    (h : w.next config label = some w') (hc : w.cycles[index]? = some c) :
    ∃ c', w'.cycles[index]? = some c' ∧
      c'.cost config + (if label.actsOn index then 1 else 0) ≤ c.cost config := by
  have hlt := (List.getElem?_eq_some_iff.mp hc).1
  cases label with
  | act other action =>
    obtain ⟨before, c₁, after, free, c', hcycles, rfl, hact, rfl⟩ := act_cases h
    have hadvances := act_advances hcapacity (hw.sound c₁ (by rw [hcycles]; simp)) hact
    rw [hcycles] at hc
    by_cases hsame : before.length = index
    · subst hsame
      rw [getElem?_append_right le_rfl, Nat.sub_self] at hc
      cases hc
      refine ⟨c', by rw [getElem?_append_right le_rfl, Nat.sub_self]; rfl, ?_⟩
      have hcost := hadvances.cost
      simp only [Label.actsOn, decide_true, if_true]
      omega
    · refine ⟨c, ?_, by simp [Label.actsOn, hsame]⟩
      rw [← hc]
      rcases lt_or_gt_of_ne hsame with hless | hless
      · simp [getElem?_append_right hless.le, getElem?_cons, Nat.sub_ne_zero_of_lt hless]
      · simp [getElem?_append_left hless]
  | runOnce | runCycle | runDiscoveredCycle =>
    cases h
    exact ⟨c, by rw [getElem?_append_left hlt, hc], le_rfl⟩

/-- A run takes no more steps than its cost says. -/
theorem play_bounded (hcapacity : 0 < config.desiredCapacity) {labels : List Label}
    (hw : Consistent config w) (h : w.play config labels = some w')
    (hc : w.cycles[index]? = some c) : labels.countP (·.actsOn index) ≤ c.cost config := by
  induction labels generalizing w c with
  | nil => exact Nat.zero_le _
  | cons label rest ih =>
    obtain ⟨mid, hnext, hrest⟩ := Option.bind_eq_some_iff.mp h
    obtain ⟨c', hc', _⟩ := cost_next hcapacity hw hnext hc
    have hless := ih (hw.next hcapacity hnext) hrest hc'
    rw [countP_cons]
    omega

/-- A run that has not returned can act, unless it waits for a permit. -/
theorem act_possible (free : ℕ) (hs : Sound config c)
    (hlive : ∀ result, c.phase ≠ .returned result) (hpermit : 0 < free ∨ 0 < c.slots) :
    ∃ action, (config.act free c action).isSome = true := by
  cases hphase : c.phase with
  | next => exact ⟨.proceed, by simp [WorkerConfig.act, hphase]⟩
  | reserving held =>
    by_cases hready : 0 < held ∧ (config.desiredCapacity ≤ held ∨ free = 0)
    · exact ⟨.ask, by simp [WorkerConfig.act, hphase, hready]⟩
    · by_cases hfree : 0 < free
      · exact ⟨.take, by simp only [WorkerConfig.act, hphase]; rw [if_pos (by omega)]; rfl⟩
      · refine ⟨.finish .joinError, ?_⟩
        simp only [Cycle.slots, hphase, Phase.held] at hpermit
        simp only [WorkerConfig.act]
        rw [if_pos (by omega)]
        rfl
  | claiming => exact ⟨.answer (.error []), by simp [WorkerConfig.act, hphase]⟩
  | discovering =>
    obtain ⟨-, after, short, hsource⟩ := hs.page hphase
    exact ⟨.page (.ok []), by simp [WorkerConfig.act, hphase, hsource]⟩
  | draining =>
    cases hrunning : c.running with
    | succ => exact ⟨.finish .joinError, by simp [WorkerConfig.act, hrunning]⟩
    | zero =>
      cases hready : c.ready with
      | nil => exact ⟨.exit, by simp [WorkerConfig.act, hphase, hrunning, hready]⟩
      | cons => exact ⟨.collect, by simp [WorkerConfig.act, hphase, hready]⟩
  | returned result => exact absurd hphase (hlive result)

/-- While a run has not returned, some run can act. -/
theorem some_run_acts (hcapacity : 0 < config.desiredCapacity) (hw : Consistent config w)
    (hc : c ∈ w.cycles) (hlive : ∀ result, c.phase ≠ .returned result) :
    ∃ index action, (w.next config (.act index action)).isSome = true := by
  have hacts : ∀ c ∈ w.cycles, (∃ action, (config.act w.free c action).isSome = true) →
      ∃ index action, (w.next config (.act index action)).isSome = true := by
    rintro c hc ⟨action, haction⟩
    obtain ⟨index, hindex⟩ := List.mem_iff_getElem?.mp hc
    obtain ⟨⟨free, c'⟩, hact⟩ := Option.isSome_iff_exists.mp haction
    exact ⟨index, action, by simp [World.next, hindex, hact]⟩
  by_cases hfree : 0 < w.free
  · exact hacts c hc (act_possible w.free (hw.sound c hc) hlive (.inl hfree))
  · -- All permits are taken, and who has one goes on.
    have hpermits := hw.permits
    have hroom : 0 < config.maxInFlight :=
      lt_of_lt_of_le hcapacity (Nat.min_le_right _ _)
    obtain ⟨slots, hslots, hpos⟩ := exists_mem_ne_zero_of_sum_ne_zero
      (show (w.cycles.map Cycle.slots).sum ≠ 0 by omega)
    obtain ⟨other, hother, rfl⟩ := List.mem_map.mp hslots
    refine hacts other hother (act_possible w.free (hw.sound other hother) ?_
      (.inr (Nat.pos_of_ne_zero hpos)))
    intro result hresult
    have hrunning := ((hw.sound other hother).returned result hresult).1
    simp [Cycle.slots, hresult, Phase.held, hrunning] at hpos

/-- A discovered cycle processes tenants in strictly increasing order, so none twice, and returns
`Ok` only with the sum of its claims. It takes no more steps than its cost says, whatever else
happens, and as long as it has not returned some run can go on. -/
theorem discovered_cycles_are_fair_and_end (config : WorkerConfig)
    (hvalid : config.validate = .ok ()) (w : World)
    (hrun : WorkerRun config (World.initial config) w) (index : ℕ) (c : Cycle)
    (hc : w.cycles[index]? = some c) (after : Option TenantId) (short : Bool)
    (hsource : c.source = .discovered after short) :
    c.started.Pairwise (fun tenant later => tenant.get < later.get) ∧
    (∀ summary, c.phase = .returned (.ok summary) → summary.claimed = summary.published +
      summary.retryableFailures + summary.permanentFailures + summary.lostClaims) ∧
    (∀ labels w', w.play config labels = some w' →
      labels.countP (·.actsOn index) ≤ c.cost config) ∧
    ((∀ result, c.phase ≠ .returned result) →
      ∃ other action, (w.next config (.act other action)).isSome = true) := by
  have hcapacity := desiredCapacity_pos hvalid
  have hw := run_consistent hvalid hrun
  have hmem := mem_of_getElem? hc
  have hs := hw.sound c hmem
  refine ⟨?_, fun summary hphase => ?_, fun labels w' hplay => play_bounded hcapacity hw hplay hc,
    some_run_acts hcapacity hw hmem⟩
  · have horder := hs.inOrder
    unfold Cycle.InOrder at horder
    rw [hsource] at horder
    exact (List.pairwise_append.mp horder.2.1).1
  · exact (hs.returned _ hphase).2.2 summary rfl

end Runs

section Orders

variable {config : WorkerConfig} {w w' : World} {labels : List Label}

theorem run_of_play (h : w.play config labels = some w') : WorkerRun config w w' := by
  induction labels generalizing w with
  | nil =>
    cases h
    exact .refl
  | cons label rest ih =>
    obtain ⟨mid, hnext, hrest⟩ := Option.bind_eq_some_iff.mp h
    exact (Run.single trivial hnext).trans (ih hrest)

/-- A worker with one slot. -/
def smallConfig : WorkerConfig := ⟨2, 1, 2, 60, 30, 1, 10, 3⟩

/-- A discovered cycle finds one tenant and asks for its events. -/
def askedOrder : List Label :=
  .runDiscoveredCycle :: [.proceed, .page (.ok [⟨7, by decide⟩]), .proceed, .take, .ask].map
    (.act 0)

/-- The tenant has one event, which is published. -/
def publishedOrder : List Label :=
  askedOrder ++ [.answer (.ok 1), .proceed, .finish (.returned .succeeded (.ok true)), .collect,
    .exit].map (.act 0)

/-- The small worker after some labels. -/
def reached (labels : List Label) : World :=
  ((World.initial smallConfig).play smallConfig labels).getD (World.initial smallConfig)

theorem run_reached (h : ((World.initial smallConfig).play smallConfig labels).isSome = true) :
    WorkerRun smallConfig (World.initial smallConfig) (reached labels) := by
  obtain ⟨w, hplay⟩ := Option.isSome_iff_exists.mp h
  rw [reached, hplay]
  exact run_of_play hplay

/-- A claim asks for the only slot. -/
theorem claim_asks_for_free_slot :
    ∃ c, (reached askedOrder).cycles = [c] ∧ c.phase = .claiming 1 ∧
      1 ≤ smallConfig.maxInFlight - (reached askedOrder).inFlight :=
  ⟨_, rfl, rfl, (deliveries_stay_within_slots smallConfig (by decide) (reached askedOrder)
    (run_reached rfl)).2.1 _ (List.mem_singleton.mpr rfl) 1 rfl⟩

/-- The event is counted when the cycle returns. -/
theorem published_event_is_counted :
    ∃ c summary, (reached publishedOrder).cycles = [c] ∧ c.started.map TenantId.get = [7] ∧
      c.phase = .returned (.ok summary) ∧ summary.claimed = 1 ∧
      summary.claimed = summary.published + summary.retryableFailures +
        summary.permanentFailures + summary.lostClaims :=
  ⟨_, _, rfl, rfl, rfl, rfl, (discovered_cycles_are_fair_and_end smallConfig (by decide)
    (reached publishedOrder) (run_reached rfl) 0 _ rfl _ _ rfl).2.1 _ rfl⟩

end Orders

end Wareboxes.WorkerRuns
