import Wareboxes.KeyedTables
import Wareboxes.LabelledRuns

/-!
# Attempts of carrier manifest jobs

A worker claims waiting jobs, and jobs whose lease expired, and reports each claim as
completed or failed. A claim counts an attempt, and only a reported failure compares the
count with the budget. So the budget holds as long as the last attempt is reported before its
lease expires and no supervisor schedules a spent job again.
-/

namespace Wareboxes.CarrierJobs

open KeyedTables LabelledRuns KeyedTable

/-- The status of a job with the columns that it forces to be present. Times have one unit. -/
inductive JobState where
  | queued
  | processing (claimedBy : String) (claimedAt leaseExpiresAt : ℤ)
  | retryScheduled (nextAttemptAt : ℤ)
  | succeeded (completedAt : ℤ)
  | failed (completedAt : ℤ)
  | cancelled (completedAt : ℤ)
  deriving DecidableEq

/-- A row of `carrier_manifest_jobs`. -/
structure Job where
  id : ℤ
  tenantId : ℤ
  state : JobState
  revision : ℤ
  attemptCount : ℤ
  /-- Code and message of the last error. -/
  lastError : Option (String × String)
  deriving DecidableEq

/-- `CarrierGatewayError`, without the delay that a carrier asks for. -/
structure GatewayError where
  retryable : Bool
  code : String
  message : String

/-- The jobs that `claim` may take. -/
def isCandidate (tenantId now : ℤ) (job : Job) : Bool :=
  decide (job.tenantId = tenantId) && match job.state with
    | .queued => true
    | .retryScheduled nextAttemptAt => decide (nextAttemptAt ≤ now)
    | .processing _ _ leaseExpiresAt => decide (leaseExpiresAt < now)
    | _ => false

/-- The candidates of a claim: in the order of their numbers, without rows that are locked. -/
def candidates (jobs : List Job) (tenantId now : ℤ) (locked : List ℤ) (batchSize : ℕ) : List ℤ :=
  (((jobs.filter fun job => isCandidate tenantId now job && decide (job.id ∉ locked)).map
    Job.id).insertionSort (· ≤ ·)).take batchSize

/-- A claimed job. -/
def taken (workerId : String) (now : ℤ) (lease : ℕ) (job : Job) : Job :=
  { job with
    state := .processing workerId now (now + lease)
    revision := job.revision + 1
    attemptCount := job.attemptCount + 1 }

/-- The job is still claimed as the worker was told: the condition of every report. -/
def holds (claim : Job) (workerId : String) (now : ℤ) (job : Job) : Bool :=
  decide (job.tenantId = claim.tenantId ∧ job.id = claim.id ∧ job.revision = claim.revision) &&
    match job.state with
    | .processing claimedBy _ leaseExpiresAt => decide (claimedBy = workerId ∧ now ≤ leaseExpiresAt)
    | _ => false

/-- The job after `fail`: it is scheduled again while the budget lasts. -/
def afterFailure (claim : Job) (error : GatewayError) (retryAfter maxAttempts now : ℤ) (job : Job) :
    Job :=
  { job with
    state := if error.retryable ∧ claim.attemptCount < maxAttempts then
      .retryScheduled (now + retryAfter) else .failed now
    revision := job.revision + 1
    lastError := some (error.code, error.message) }

/-- The job after `complete`. -/
def afterCompletion (now : ℤ) (job : Job) : Job :=
  { job with state := .succeeded now, revision := job.revision + 1, lastError := none }

/-- The job after an operator cancelled it or scheduled it again. -/
def afterOperator (state : JobState) (job : Job) : Job :=
  { job with state, revision := job.revision + 1 }

/-- A job that waits for a claim. -/
def isWaiting : JobState → Bool
  | .queued | .retryScheduled _ => true
  | _ => false

/-- A job that is done. -/
def isTerminal : JobState → Bool
  | .succeeded _ | .failed _ | .cancelled _ => true
  | _ => false

/-- A committed transaction on the jobs. A claim lists the rows that others hold locked. -/
inductive Step where
  | enqueue (id tenantId now : ℤ)
  | claim (tenantId : ℤ) (workerId : String) (batchSize lease : ℕ) (now : ℤ)
      (locked : List ℤ)
  | fail (held : Job) (workerId : String) (error : GatewayError) (retryAfter now : ℤ)
  | complete (held : Job) (workerId : String) (now : ℤ)
  | cancel (id expectedRevision now : ℤ)
  | retry (id expectedRevision now : ℤ)

/-- When a step commits. -/
def Step.now : Step → ℤ
  | .enqueue _ _ now | .claim _ _ _ _ now _ | .fail _ _ _ _ now | .complete _ _ now
  | .cancel _ _ now | .retry _ _ now => now

/-- The jobs, the claims that workers were given, and the time of the last step. -/
structure World where
  jobs : KeyedTable Job.id
  claims : List Job
  clock : ℤ

/-- The rows that a step updates. -/
def Step.selects (jobs : List Job) (job : Job) : Step → Bool
  | .enqueue _ _ _ => false
  | .claim tenantId _ batchSize _ now locked =>
    decide (job.id ∈ candidates jobs tenantId now locked batchSize)
  | .fail held workerId _ _ now | .complete held workerId now => holds held workerId now job
  | .cancel id expectedRevision _ =>
    decide (job.id = id ∧ job.revision = expectedRevision) && isWaiting job.state
  | .retry id expectedRevision _ => decide (job.id = id ∧ job.revision = expectedRevision) &&
    match job.state with
    | .failed _ => true
    | _ => false

/-- What an update writes. -/
def Step.rewrite (maxAttempts : ℤ) : Step → Job → Job
  | .enqueue _ _ _ => id
  | .claim _ workerId _ lease now _ => taken workerId now lease
  | .fail held _ error retryAfter now => afterFailure held error retryAfter maxAttempts now
  | .complete _ _ now => afterCompletion now
  | .cancel _ _ now => afterOperator (.cancelled now)
  | .retry _ _ now => afterOperator (.retryScheduled now)

theorem Step.rewrite_id (maxAttempts : ℤ) (step : Step) (job : Job) :
    (step.rewrite maxAttempts job).id = job.id := by
  cases step <;> rfl

/-- The claims that a step hands out: the rows as they were written. -/
def Step.handsOut (maxAttempts : ℤ) (jobs : List Job) : Step → List Job
  | .claim tenantId workerId batchSize lease now locked =>
    let step := Step.claim tenantId workerId batchSize lease now locked
    (jobs.filter fun job => step.selects jobs job).map (step.rewrite maxAttempts)
  | _ => []

/-- The state after a step. A number that is taken is not given to a new job. -/
def World.next (maxAttempts : ℤ) (w : World) : Step → World
  | .enqueue id tenantId now =>
    match w.jobs.insert? ⟨id, tenantId, .queued, 1, 0, none⟩ with
    | some jobs => ⟨jobs, w.claims, now⟩
    | none => ⟨w.jobs, w.claims, now⟩
  | step => ⟨w.jobs.updateWhere (fun job => step.selects w.jobs.rows job) (step.rewrite maxAttempts)
      (step.rewrite_id maxAttempts), w.claims ++ step.handsOut maxAttempts w.jobs.rows, step.now⟩

/-- A worker reports claims that it was given. -/
def Granted (w : World) : Step → Prop
  | .fail held _ _ _ _ | .complete held _ _ => held ∈ w.claims
  | _ => True

/-- How often a job was claimed. -/
def timesClaimed (w : World) (id : ℤ) : ℕ := (w.claims.map Job.id).count id

/-- There is no job yet. -/
def World.initial : World := ⟨.empty, [], 0⟩

/-- The lease of a job has expired. -/
def lapsed (now : ℤ) (job : Job) : Bool :=
  match job.state with
  | .processing _ _ leaseExpiresAt => decide (leaseExpiresAt < now)
  | _ => false

/-- At the time of a step no spent job has an expired lease, and no spent job is scheduled
again. -/
def Spares (maxAttempts : ℤ) (w : World) (step : Step) : Prop :=
  (∀ job ∈ w.jobs.rows, maxAttempts ≤ job.attemptCount → lapsed step.now job = false) ∧
    match step with
    | .retry id _ _ => ∀ job ∈ w.jobs.rows, job.id = id → job.attemptCount < maxAttempts
    | _ => True

/-- Runs from an empty table. -/
def JobRun (maxAttempts : ℤ) (allows : World → Step → Prop) (w : World) : Prop :=
  Run (fun w step w' => w' = w.next maxAttempts step) allows .initial w

variable {maxAttempts : ℤ} {w : World} {step : Step} {job : Job}

/-- What every state has when spent jobs are spared. -/
structure Sound (maxAttempts : ℤ) (w : World) : Prop where
  /-- A job counts its claims. -/
  counted : ∀ job ∈ w.jobs.rows, (timesClaimed w job.id : ℤ) = job.attemptCount
  /-- While a job has the revision of a claim, it has the count of that claim. -/
  known : ∀ claim ∈ w.claims, ∃ job ∈ w.jobs.rows, job.id = claim.id ∧
    claim.revision ≤ job.revision ∧
      (claim.revision = job.revision → claim.attemptCount = job.attemptCount)
  /-- A waiting job has an attempt left. -/
  budget : ∀ job ∈ w.jobs.rows, job.attemptCount ≤ maxAttempts ∧
    (isWaiting job.state = true → job.attemptCount < maxAttempts)

theorem Sound.initial : Sound maxAttempts .initial where
  counted _ hjob := absurd hjob List.not_mem_nil
  known _ hclaim := absurd hclaim List.not_mem_nil
  budget _ hjob := absurd hjob List.not_mem_nil

/-- A candidate that does not wait has an expired lease. -/
theorem lapsed_of_isCandidate {tenantId now : ℤ} (h : isCandidate tenantId now job = true)
    (hstate : isWaiting job.state = false) : lapsed now job = true := by
  unfold isCandidate at h
  unfold lapsed
  cases hjob : job.state with
  | processing =>
    rw [hjob] at h
    exact (Bool.and_eq_true_iff.mp h).2
  | queued | retryScheduled =>
    rw [hjob] at hstate
    cases hstate
  | succeeded | failed | cancelled => simp [hjob] at h

/-- An update does not write a lease that has expired. -/
theorem lapsed_rewrite (maxAttempts : ℤ) (h : step.selects w.jobs.rows job = true) :
    lapsed step.now (step.rewrite maxAttempts job) = false := by
  cases step with
  | enqueue => cases h
  | claim tenantId workerId batchSize lease now =>
    exact decide_eq_false (by omega : ¬now + lease < now)
  | fail =>
    unfold lapsed Step.rewrite afterFailure
    dsimp only
    split_ifs <;> rfl
  | complete | cancel | retry => rfl

theorem Step.revision_rewrite (maxAttempts : ℤ) (h : step.selects w.jobs.rows job = true) :
    (step.rewrite maxAttempts job).revision = job.revision + 1 := by
  cases step with
  | enqueue => cases h
  | claim | fail | complete | cancel | retry => rfl

/-- A claimed row is a candidate. -/
theorem isCandidate_of_mem {tenantId now : ℤ} {locked : List ℤ} {batchSize : ℕ}
    (hjob : job ∈ w.jobs.rows) (h : job.id ∈ candidates w.jobs.rows tenantId now locked batchSize) :
    isCandidate tenantId now job = true := by
  have hmem := (List.mem_insertionSort _).mp (List.mem_of_mem_take h)
  obtain ⟨other, hother, hid⟩ := List.mem_map.mp hmem
  obtain ⟨hstored, hselected⟩ := List.mem_filter.mp hother
  rw [← w.jobs.eq_of_key_eq hstored hjob hid]
  exact (Bool.and_eq_true_iff.mp hselected).1

/-- The claims that a step hands out are rows as it writes them. -/
theorem mem_handsOut {claim : Job} (h : claim ∈ step.handsOut maxAttempts w.jobs.rows) :
    ∃ job ∈ w.jobs.rows, step.selects w.jobs.rows job = true ∧
      step.rewrite maxAttempts job = claim := by
  cases step with
  | claim =>
    obtain ⟨job, hjob, hsame⟩ := List.mem_map.mp h
    exact ⟨job, (List.mem_filter.mp hjob).1, (List.mem_filter.mp hjob).2, hsame⟩
  | enqueue | fail | complete | cancel | retry => cases h

theorem nodup_handsOut (maxAttempts : ℤ) (w : World) (step : Step) :
    ((step.handsOut maxAttempts w.jobs.rows).map Job.id).Nodup := by
  cases step with
  | claim =>
    rw [Step.handsOut, List.map_map]
    exact w.jobs.nodup.sublist (List.filter_sublist.map _)
  | enqueue | fail | complete | cancel | retry => exact List.nodup_nil

/-- A step counts an attempt for each claim that it hands out. -/
theorem handsOut_count (maxAttempts : ℤ) (step : Step) (hjob : job ∈ w.jobs.rows) :
    (((step.handsOut maxAttempts w.jobs.rows).map Job.id).count job.id : ℤ) =
      if step.selects w.jobs.rows job then
        (step.rewrite maxAttempts job).attemptCount - job.attemptCount else 0 := by
  cases step with
  | claim tenantId workerId batchSize lease now locked =>
    set step := Step.claim tenantId workerId batchSize lease now locked with hstep
    have hmem : job.id ∈ (step.handsOut maxAttempts w.jobs.rows).map Job.id ↔
        step.selects w.jobs.rows job = true := by
      constructor
      · intro h
        obtain ⟨claim, hclaim, hid⟩ := List.mem_map.mp h
        obtain ⟨other, hother, hselected, rfl⟩ := mem_handsOut hclaim
        rwa [w.jobs.eq_of_key_eq hother hjob hid] at hselected
      · intro h
        exact List.mem_map.mpr ⟨_, List.mem_map_of_mem (List.mem_filter.mpr ⟨hjob, h⟩), rfl⟩
    have hone : (step.rewrite maxAttempts job).attemptCount - job.attemptCount = 1 :=
      add_sub_cancel_left job.attemptCount 1
    rw [(nodup_handsOut maxAttempts w step).count, hone]
    simp only [hmem]
    split_ifs <;> rfl
  | enqueue | fail | complete | cancel | retry =>
    simp [Step.handsOut, Step.rewrite, afterFailure, afterCompletion, afterOperator]

section

variable (hw : Sound maxAttempts w) (hgranted : Granted w step)
  (hspares : Spares maxAttempts w step)
include hw hgranted hspares

/-- An update that spares spent jobs leaves each job it writes within its budget. -/
theorem Sound.budget_rewrite (hjob : job ∈ w.jobs.rows) (h : step.selects w.jobs.rows job = true) :
    (step.rewrite maxAttempts job).attemptCount ≤ maxAttempts ∧
      (isWaiting (step.rewrite maxAttempts job).state = true →
        (step.rewrite maxAttempts job).attemptCount < maxAttempts) := by
  obtain ⟨hle, hwaiting⟩ := hw.budget job hjob
  cases step with
  | enqueue => cases h
  | claim =>
    have hcandidate := isCandidate_of_mem hjob (of_decide_eq_true h)
    have hleft : job.attemptCount < maxAttempts := by
      cases hstate : isWaiting job.state with
      | true => exact hwaiting hstate
      | false =>
        by_contra hspent
        have hlapsed := lapsed_of_isCandidate hcandidate hstate
        have hheld := hspares.1 job hjob (not_lt.mp hspent)
        exact Bool.false_ne_true (hheld.symm.trans hlapsed)
    exact ⟨Int.add_one_le_of_lt hleft, fun hstate => by cases hstate⟩
  | fail claim workerId error =>
    refine ⟨hle, fun hstate => ?_⟩
    -- The report compares the count of its claim, which is that of the row.
    obtain ⟨stored, hstored, hid, -, hsame⟩ := hw.known claim hgranted
    have hheld := of_decide_eq_true (Bool.and_eq_true_iff.mp h).1
    rw [w.jobs.eq_of_key_eq hstored hjob (hid.trans hheld.2.1.symm)] at hsame
    by_cases hretry : error.retryable ∧ claim.attemptCount < maxAttempts
    · exact hsame hheld.2.2.symm ▸ hretry.2
    · simp [Step.rewrite, afterFailure, hretry, isWaiting] at hstate
  | complete | cancel => exact ⟨hle, fun hstate => by cases hstate⟩
  | retry =>
    have hid := (of_decide_eq_true (Bool.and_eq_true_iff.mp h).1).1
    exact ⟨hle, fun _ => hspares.2 job hjob hid⟩

/-- An update keeps the state sound. -/
theorem Sound.update :
    Sound maxAttempts ⟨w.jobs.updateWhere (fun job => step.selects w.jobs.rows job)
      (step.rewrite maxAttempts) (step.rewrite_id maxAttempts),
      w.claims ++ step.handsOut maxAttempts w.jobs.rows, step.now⟩ := by
  constructor
  · intro job' hjob'
    obtain ⟨job, hjob, rfl⟩ := List.mem_map.mp hjob'
    have hcounted := hw.counted job hjob
    have hnew := handsOut_count maxAttempts step hjob
    have hid : (if step.selects w.jobs.rows job then step.rewrite maxAttempts job else job).id =
        job.id := by
      split_ifs
      · exact step.rewrite_id maxAttempts job
      · rfl
    unfold timesClaimed at hcounted ⊢
    rw [hid, List.map_append, List.count_append, Nat.cast_add, hcounted, hnew]
    split_ifs <;> omega
  · intro claim hclaim
    rcases List.mem_append.mp hclaim with hold | hnew
    · obtain ⟨job, hjob, hid, hle, hsame⟩ := hw.known claim hold
      refine ⟨_, List.mem_map_of_mem hjob, ?_⟩
      split_ifs with hselected
      · have hrevision := Step.revision_rewrite maxAttempts hselected
        rw [step.rewrite_id, hrevision]
        exact ⟨hid, by omega, fun heq => by omega⟩
      · exact ⟨hid, hle, hsame⟩
    · obtain ⟨job, hjob, hselected, rfl⟩ := mem_handsOut hnew
      refine ⟨_, List.mem_map_of_mem hjob, ?_⟩
      rw [if_pos hselected]
      exact ⟨rfl, le_rfl, fun _ => rfl⟩
  · intro job' hjob'
    obtain ⟨job, hjob, rfl⟩ := List.mem_map.mp hjob'
    split_ifs with hselected
    · exact hw.budget_rewrite hgranted hspares hjob hselected
    · exact hw.budget job hjob

end

theorem Sound.next (hw : Sound maxAttempts w) (hpositive : 0 < maxAttempts)
    (hgranted : Granted w step) (hspares : Spares maxAttempts w step) :
    Sound maxAttempts (w.next maxAttempts step) := by
  cases step with
  | enqueue =>
    unfold World.next
    dsimp only
    split
    · next jobs hinsert =>
      obtain ⟨hfree, -⟩ := insert?_eq_some hinsert
      constructor
      · intro job hjob
        rcases (mem_insert hinsert).mp hjob with hjob | rfl
        · exact hw.counted job hjob
        · refine Nat.cast_eq_zero.mpr (List.count_eq_zero.mpr fun hclaimed => ?_)
          obtain ⟨claim, hclaim, hid⟩ := List.mem_map.mp hclaimed
          obtain ⟨stored, hstored, hsame, -⟩ := hw.known claim hclaim
          exact KeyedTable.find?_eq_none.mp hfree stored hstored (hsame.trans hid)
      · intro claim hclaim
        obtain ⟨job, hjob, hknown⟩ := hw.known claim hclaim
        exact ⟨job, (mem_insert hinsert).mpr (.inl hjob), hknown⟩
      · intro job hjob
        rcases (mem_insert hinsert).mp hjob with hjob | rfl
        · exact hw.budget job hjob
        · exact ⟨hpositive.le, fun _ => hpositive⟩
    · exact ⟨hw.counted, hw.known, hw.budget⟩
  | claim | fail | complete | cancel | retry => exact hw.update hgranted hspares

/-- After a step that spares spent jobs, no spent job has an expired lease. -/
theorem lapsed_next (hspares : Spares maxAttempts w step) :
    ∀ job ∈ (w.next maxAttempts step).jobs.rows, maxAttempts ≤ job.attemptCount →
      lapsed (w.next maxAttempts step).clock job = false := by
  intro job hjob hspent
  cases step with
  | enqueue =>
    unfold World.next at hjob ⊢
    dsimp only at hjob ⊢
    split at hjob
    · next jobs hinsert =>
      rcases (mem_insert hinsert).mp hjob with hjob | rfl
      · exact hspares.1 job hjob hspent
      · rfl
    · exact hspares.1 job hjob hspent
  | claim | fail | complete | cancel | retry =>
    obtain ⟨old, hold, rfl⟩ := List.mem_map.mp hjob
    split_ifs at hspent ⊢ with hselected
    · exact lapsed_rewrite maxAttempts hselected
    · exact hspares.1 old hold hspent

/-- In a run that spares spent jobs a job is claimed at most as often as the budget allows, and a
job with a spent budget has ended, or its last attempt still holds its lease. -/
theorem attempts_stay_within_budget (maxAttempts : ℤ) (hpositive : 0 < maxAttempts) (w : World)
    (hrun : JobRun maxAttempts (fun w step => Granted w step ∧ Spares maxAttempts w step) w)
    (job : Job) (hjob : job ∈ w.jobs.rows) : (timesClaimed w job.id : ℤ) ≤ maxAttempts ∧
    ((timesClaimed w job.id : ℤ) = maxAttempts → isTerminal job.state = true ∨
      ∃ claimedBy claimedAt leaseExpiresAt,
        job.state = .processing claimedBy claimedAt leaseExpiresAt ∧
          w.clock ≤ leaseExpiresAt) := by
  obtain ⟨hw, hlive⟩ : Sound maxAttempts w ∧ ∀ job ∈ w.jobs.rows,
      maxAttempts ≤ job.attemptCount → lapsed w.clock job = false := by
    refine hrun.preserves (fun w => Sound maxAttempts w ∧ ∀ job ∈ w.jobs.rows,
      maxAttempts ≤ job.attemptCount → lapsed w.clock job = false) ?_
      ⟨.initial, fun _ hjob => absurd hjob List.not_mem_nil⟩
    rintro w step _ ⟨hgranted, hspares⟩ rfl ⟨hw, -⟩
    exact ⟨hw.next hpositive hgranted hspares, lapsed_next hspares⟩
  obtain ⟨hle, hwaiting⟩ := hw.budget job hjob
  rw [hw.counted job hjob]
  refine ⟨hle, fun hspent => ?_⟩
  have hheld := hlive job hjob hspent.ge
  unfold lapsed at hheld
  cases hstate : job.state with
  | queued | retryScheduled => exact absurd hspent (hwaiting (by rw [hstate]; rfl)).ne
  | processing claimedBy claimedAt leaseExpiresAt =>
    rw [hstate] at hheld
    exact .inr ⟨_, _, _, rfl, not_lt.mp (of_decide_eq_false hheld)⟩
  | succeeded | failed | cancelled => exact .inl rfl

/-- A job is claimed once, and its failure is reported in time. -/
def reportedJob : List Step :=
  [.enqueue 1 1 0, .claim 1 "A" 10 60 0 [],
    .fail ⟨1, 1, .processing "A" 0 60, 2, 1, none⟩ "A" ⟨true, "busy", "later"⟩ 30 20]

/-- The worker dies, and another claims the job after the lease. -/
def abandonedJob : List Step :=
  [.enqueue 1 1 0, .claim 1 "A" 10 60 0 [], .claim 1 "B" 10 60 61 []]

theorem reported_job_is_claimed_once :
    timesClaimed (replay (World.next 1) reportedJob .initial) 1 ≤ (1 : ℤ) := by
  have hrun : JobRun 1 (fun w step => Granted w step ∧ Spares 1 w step)
      (replay (World.next 1) reportedJob .initial) := by
    refine run_replay _ ?_
    simp only [Replays, reportedJob, Granted, Spares]
    decide +kernel
  have hjob : ⟨1, 1, .failed 20, 3, 1, some ("busy", "later")⟩ ∈
      (replay (World.next 1) reportedJob .initial).jobs.rows := by decide +kernel
  exact (attempts_stay_within_budget 1 one_pos _ hrun _ hjob).1

/-- With a budget of one attempt the job is claimed twice. -/
theorem abandoned_job_is_claimed_twice :
    JobRun 1 Granted (replay (World.next 1) abandonedJob .initial) ∧
      timesClaimed (replay (World.next 1) abandonedJob .initial) 1 = 2 :=
  ⟨run_replay _ ⟨trivial, trivial, trivial, trivial⟩, by decide⟩

end Wareboxes.CarrierJobs
