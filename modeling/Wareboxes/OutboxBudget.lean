import Wareboxes.OutboxJournal

/-!
# The attempt budget of an event

A claim counts against the budget of its event, but the budget is compared only
when a worker reports a failure. An event whose workers die before they report
is claimed again whenever its lease lapses. When the last delivery of an event
is always reported before its lease lapses, the budget bounds the claims of each
generation, and an event that spent it is settled, dead-lettered or still being
delivered.
-/

namespace Wareboxes.OutboxBudget

open KeyedTables Transactions Transaction OutboxTables OutboxOperations OutboxRuns OutboxMoves
open OutboxEventLife OutboxJournal LabelledRuns

variable {w w' : World} {label : Label} {now : Timestamp} {event event' : OutboxEvent}
  {happenings : List Happening} {maxAttempts : ℤ} {step : Step}

/-- The happening is a claim of an event in one of its generations. -/
def isClaimIn (id generation : ℤ) : Happening → Bool
  | .claimed event => event.id == id && event.replayCount == generation
  | _ => false

/-- The claims of an event between two replays, or from its creation to the first. -/
def claimsIn (history : List Happening) (id generation : ℤ) : ℕ :=
  history.countP (isClaimIn id generation)

/-- A retryable failure is reported with the configured limit. -/
def CarriesLimit (maxAttempts : ℤ) (report : Report) : Prop :=
  ∀ failure, report.failure = some failure → failure.failureClass = .retryable →
    failure.maxAttempts = maxAttempts

/-- A move at a time costs at most what is left, and does not let the report of a last
delivery go after its lease lapsed. -/
def Affordable (maxAttempts : ℤ) (time : Timestamp) (w : World) : Label → Prop
  | .claim event now => now = time ∧ event.attempts < maxAttempts
  | .begin report => CarriesLimit maxAttempts report
  | .lose report => ∀ entry ∈ w.pending, entry.report = report → ∀ row, entry.matched = some row →
      maxAttempts ≤ row.attempts → ∀ claim, row.claim = some claim → time < claim.leaseExpiresAt
  | .other => True

/-- The budget of one event. -/
structure RowBudget (maxAttempts : ℤ) (history : List Happening) (row : OutboxEvent) : Prop where
  /-- An event that waits for a claim can afford it. -/
  waiting : row.isSettled = false → row.deadLetteredAt = none → row.claim = none →
    row.attempts < maxAttempts
  /-- The event was not claimed more often than the budget allows. -/
  spent : row.attempts ≤ maxAttempts
  /-- The attempts are the claims of the present generation. -/
  counted : (claimsIn history row.id row.replayCount : ℤ) = row.attempts
  /-- Later generations have no claims. -/
  later : ∀ generation, row.replayCount < generation → claimsIn history row.id generation = 0

/-- The budget holds for every event and every generation. -/
structure Budgeted (maxAttempts : ℤ) (w : World) : Prop where
  /-- Workers report retryable failures with the configured limit. -/
  limits : ∀ entry ∈ w.pending, CarriesLimit maxAttempts entry.report
  /-- Every stored event is within its budget. -/
  rows : ∀ row ∈ w.db.events.rows, RowBudget maxAttempts w.history row
  /-- Identities that were not given out have no claims. -/
  fresh : ∀ id generation, w.db.lastId < id → claimsIn w.history id generation = 0
  /-- No generation has more claims than the budget allows. -/
  bounded : ∀ id generation, (claimsIn w.history id generation : ℤ) ≤ maxAttempts

theorem budgeted_initial (hpositive : 0 < maxAttempts) : Budgeted maxAttempts World.initial where
  limits _ h := by cases h
  rows _ h := by cases h
  fresh _ _ _ := rfl
  bounded _ _ := hpositive.le

theorem claimsIn_append (first second : List Happening) (id generation : ℤ) :
    claimsIn (first ++ second) id generation =
      claimsIn first id generation + claimsIn second id generation :=
  List.countP_append

theorem claimsIn_claimed (id generation : ℤ) :
    claimsIn [.claimed event] id generation =
      if id = event.id ∧ generation = event.replayCount then 1 else 0 := by
  unfold claimsIn
  rw [List.countP_singleton]
  simp only [isClaimIn, Bool.and_eq_true, beq_iff_eq, @eq_comm ℤ event.id,
    @eq_comm ℤ event.replayCount]

/-- How a change spends the budget: a claim costs one attempt, a replay starts a new
generation, and anything else leaves the attempts and the generation. -/
theorem cost_of_change (h : EventChange w now label event event' happenings) :
    ∃ cost : ℕ, (∀ id generation, claimsIn happenings id generation =
        if id = event.id ∧ generation = event.replayCount then cost else 0) ∧
      (cost = 0 ∨ cost = 1 ∧ label = .claim event now) ∧
      (event'.attempts = event.attempts + cost ∧ event'.replayCount = event.replayCount ∨
        cost = 0 ∧ event'.attempts = 0 ∧ event'.replayCount = event.replayCount + 1) := by
  cases h with
  | claim => exact ⟨1, claimsIn_claimed, .inr ⟨rfl, rfl⟩, .inl ⟨rfl, rfl⟩⟩
  | publish hentry hholds hfailure =>
    rw [settle_published hfailure]
    exact ⟨0, fun _ _ => (ite_self _).symm, .inl rfl, .inl ⟨(add_zero _).symm, rfl⟩⟩
  | fail hentry hholds hfailure =>
    obtain ⟨-, -, -, -, hattempts, hreplay, -⟩ := settle_failed hfailure _ event
    exact ⟨0, fun _ _ => (ite_self _).symm, .inl rfl,
      .inl ⟨hattempts.trans (add_zero _).symm, hreplay⟩⟩
  | replay => exact ⟨0, fun _ _ => (ite_self _).symm, .inl rfl, .inr ⟨rfl, rfl, rfl⟩⟩
  | discard =>
    exact ⟨0, fun _ _ => (ite_self _).symm, .inl rfl, .inl ⟨(add_zero _).symm, rfl⟩⟩

/-- A retryable failure with the configured limit gives up exactly when the budget is spent. -/
theorem attempts_of_retry {failure : Failure}
    (hlimit : failure.failureClass = .retryable → failure.maxAttempts = maxAttempts)
    {attempts : ℤ} (h : failure.givesUp attempts = false) : attempts < maxAttempts := by
  unfold Failure.givesUp at h
  cases hclass : failure.failureClass with
  | permanent =>
    rw [hclass] at h
    cases h
  | retryable =>
    rw [hclass, hlimit hclass] at h
    simpa using h

/-- A change that leaves its event waiting leaves it within the budget. -/
theorem Budgeted.waiting_change (hw : Budgeted maxAttempts w) (hpositive : 0 < maxAttempts)
    (hchange : EventChange w now label event event' happenings)
    (hunsettled : event'.isSettled = false) (hdead : event'.deadLetteredAt = none)
    (hclaim : event'.claim = none) : event'.attempts < maxAttempts := by
  cases hchange with
  | claim => cases hclaim
  | publish hentry hholds hfailure =>
    rw [settle_published hfailure] at hunsettled
    cases hunsettled
  | @fail _ entry failure hentry hholds hfailure =>
    obtain ⟨-, -, -, -, hattempts, -, hletter⟩ := settle_failed hfailure entry.updatedAt event
    rw [hattempts]
    rw [hletter] at hdead
    refine attempts_of_retry (hw.limits entry hentry failure hfailure) ?_
    by_contra hgives
    rw [if_pos (by simpa using hgives)] at hdead
    cases hdead
  | replay => exact hpositive
  | discard => simp [OutboxEvent.isSettled, discarded] at hunsettled

variable {time : Timestamp}

/-- The budget holds after a move that keeps events with their claims, or leaves them within
their budgets. -/
theorem Budgeted.keep (hw : Budgeted maxAttempts w)
    (hlimits : ∀ entry ∈ w'.pending, CarriesLimit maxAttempts entry.report)
    (hlastId : w.db.lastId ≤ w'.db.lastId)
    (hrows : ∀ row ∈ w'.db.events.rows, RowBudget maxAttempts w'.history row ∨
      row ∈ w.db.events.rows ∧ ∀ generation,
        claimsIn w'.history row.id generation = claimsIn w.history row.id generation)
    (hcounts : ∀ id generation,
      claimsIn w'.history id generation = claimsIn w.history id generation ∨
      id ≤ w.db.lastId ∧ (claimsIn w'.history id generation : ℤ) ≤ maxAttempts) :
    Budgeted maxAttempts w' := by
  constructor
  · exact hlimits
  · intro row hrow
    rcases hrows row hrow with hnew | ⟨hold, hsame⟩
    · exact hnew
    · have hbudget := hw.rows row hold
      refine ⟨hbudget.waiting, hbudget.spent, ?_, fun generation hgeneration => ?_⟩
      · rw [hsame]
        exact hbudget.counted
      · rw [hsame]
        exact hbudget.later generation hgeneration
  · intro id generation hfresh
    rcases hcounts id generation with hsame | ⟨hid, -⟩
    · rw [hsame]
      exact hw.fresh id generation (by omega)
    · omega
  · intro id generation
    rcases hcounts id generation with hsame | ⟨-, hle⟩
    · rw [hsame]
      exact hw.bounded id generation
    · exact hle

/-- An affordable change of one event keeps the budget. -/
theorem Budgeted.change (hw : Budgeted maxAttempts w) (hpositive : 0 < maxAttempts)
    (hstored : ∀ row ∈ w.db.events.rows, row.id ≤ w.db.lastId) (hevent : event ∈ w.db.events.rows)
    (hchange : EventChange w now label event event' happenings)
    (haffordable : Affordable maxAttempts time w label) (hrows : ∀ row, row ∈ w'.db.events.rows ↔
      row = event' ∨ row ∈ w.db.events.rows ∧ row.id ≠ event.id)
    (hhistory : w'.history = w.history ++ happenings) (hlastId : w'.db.lastId = w.db.lastId)
    (hlimits : ∀ entry ∈ w'.pending, CarriesLimit maxAttempts entry.report) :
    Budgeted maxAttempts w' := by
  obtain ⟨-, hid⟩ := hchange.envelope
  obtain ⟨cost, hcost, hclaim, hkept⟩ := cost_of_change hchange
  have hbudget := hw.rows event hevent
  have hspent := hbudget.spent
  have hcounts : ∀ id generation, claimsIn w'.history id generation =
      claimsIn w.history id generation +
        if id = event.id ∧ generation = event.replayCount then cost else 0 := by
    intro id generation
    rw [hhistory, claimsIn_append, hcost]
  have hafford : event.attempts + cost ≤ maxAttempts := by
    rcases hclaim with rfl | ⟨rfl, rfl⟩
    · simpa using hspent
    · exact haffordable.2
  have hown : RowBudget maxAttempts w'.history event' := by
    have hwaiting := hw.waiting_change hpositive hchange
    rcases hkept with ⟨hattempts, hreplay⟩ | ⟨rfl, hattempts, hreplay⟩
    · refine ⟨hwaiting, by omega, ?_, fun generation hgeneration => ?_⟩
      · rw [hid, hcounts, if_pos ⟨rfl, hreplay⟩, hreplay, Nat.cast_add, hbudget.counted, hattempts]
      · rw [hid, hcounts, if_neg (by omega), hbudget.later generation (by omega)]
    · refine ⟨hwaiting, by omega, ?_, fun generation hgeneration => ?_⟩
      · rw [hid, hcounts, ite_self, hbudget.later _ (by omega), hattempts]
        rfl
      · rw [hid, hcounts, ite_self, hbudget.later generation (by omega)]
  refine hw.keep hlimits hlastId.ge (fun row hrow => ?_) fun id generation => ?_
  · rcases (hrows row).mp hrow with rfl | ⟨hrow, hne⟩
    · exact .inl hown
    · refine .inr ⟨hrow, fun generation => ?_⟩
      rw [hcounts, if_neg fun h => hne h.1, Nat.add_zero]
  · by_cases hsame : id = event.id ∧ generation = event.replayCount
    · refine .inr ⟨hsame.1 ▸ hstored event hevent, ?_⟩
      rw [hcounts, if_pos hsame, Nat.cast_add, hsame.1, hsame.2, hbudget.counted]
      exact hafford
    · exact .inl (by rw [hcounts, if_neg hsame, Nat.add_zero])

/-- The open reports after a move are those before it, except for one that begins. -/
theorem pending_of_move (h : Move w label w') : (∀ entry ∈ w'.pending, entry ∈ w.pending) ∨
    ∃ entry : OpenReport, label = .begin entry.report ∧ w'.pending = w.pending ++ [entry] ∧
      w'.db = w.db ∧ w'.history = w.history := by
  cases h with
  | beginReport => exact .inr ⟨_, rfl, rfl, rfl, rfl⟩
  | loseReport | settle | loseClaim => exact .inl fun _ h => (mem_without.mp h).1
  | pass | enqueue | claim | replay | discard | purge => exact .inl fun _ h => h

/-- An affordable move keeps the budget. -/
theorem budgeted_of_move (h : Move w label w') (hlocked : Locked w) (hknown : Known w)
    (hpositive : 0 < maxAttempts) (haffordable : Affordable maxAttempts time w label)
    (hw : Budgeted maxAttempts w) : Budgeted maxAttempts w' := by
  rcases pending_of_move h with hpending | ⟨entry, rfl, hpending, hdb, hhistory⟩
  · have hlimits : ∀ entry ∈ w'.pending, CarriesLimit maxAttempts entry.report :=
      fun entry hentry => hw.limits entry (hpending entry hentry)
    obtain ⟨-, hshape⟩ := shape_of_move h hlocked
    cases hshape with
    | shrink hsub hkept hhistory hsequences hlastId =>
      refine hw.keep hlimits hlastId.ge (fun row hrow => .inr ⟨hsub row hrow, ?_⟩) ?_
      · rw [hhistory]
        exact fun _ => rfl
      · rw [hhistory]
        exact fun _ _ => .inl rfl
    | @insert _ event _ hnext hsequences hrows hhistory hlastId =>
      have hsame : ∀ id generation,
          claimsIn w'.history id generation = claimsIn w.history id generation := by
        intro id generation
        rw [hhistory, claimsIn_append]
        rfl
      refine hw.keep hlimits (by omega) (fun row hrow => ?_) fun id generation =>
        .inl (hsame id generation)
      rcases (hrows row).mp hrow with hrow | rfl
      · exact .inr ⟨hrow, hsame row.id⟩
      · have hnone : ∀ generation, claimsIn w'.history (w.db.lastId + 1) generation = 0 :=
          fun generation => (hsame _ generation).trans (hw.fresh _ generation (by omega))
        exact .inl ⟨fun _ _ _ => hpositive, hpositive.le, congrArg Nat.cast (hnone 0),
          fun generation _ => hnone generation⟩
    | change hevent hchange hrows hhistory hsequences hlastId =>
      exact hw.change hpositive hknown.stored hevent hchange haffordable hrows hhistory hlastId
        hlimits
  · refine hw.keep (fun other hother => ?_) (hdb ▸ le_rfl)
      (fun row hrow => .inr ⟨hdb ▸ hrow, ?_⟩) ?_
    · rw [hpending] at hother
      rcases List.mem_append.mp hother with hother | hother
      · exact hw.limits other hother
      · obtain rfl := List.mem_singleton.mp hother
        exact haffordable
    · rw [hhistory]
      exact fun _ => rfl
    · rw [hhistory]
      exact fun _ _ => .inl rfl

/-- An event that spent its budget is settled, given up or still being delivered at
the given time. -/
def Live (maxAttempts : ℤ) (time : Timestamp) (w : World) : Prop :=
  ∀ row ∈ w.db.events.rows, maxAttempts ≤ row.attempts →
    row.isSettled = true ∨ row.deadLetteredAt.isSome = true ∨
      ∃ claim, row.claim = some claim ∧
        (time < claim.leaseExpiresAt ∨ ∃ entry ∈ w.pending, entry.matched = some row)

/-- Events that did not change stay live when their reports stay open. -/
theorem Live.keep (hw : Live maxAttempts time w) {row : OutboxEvent}
    (hrow : row ∈ w.db.events.rows) (hspent : maxAttempts ≤ row.attempts)
    (hpending : ∀ entry ∈ w.pending, entry.matched = some row → entry ∈ w'.pending) :
    row.isSettled = true ∨ row.deadLetteredAt.isSome = true ∨
      ∃ claim, row.claim = some claim ∧
        (time < claim.leaseExpiresAt ∨ ∃ entry ∈ w'.pending, entry.matched = some row) := by
  rcases hw row hrow hspent with
    hsettled | hdead | ⟨claim, hclaim, hlive | ⟨entry, hentry, hmatched⟩⟩
  · exact .inl hsettled
  · exact .inr (.inl hdead)
  · exact .inr (.inr ⟨claim, hclaim, .inl hlive⟩)
  · exact .inr (.inr ⟨claim, hclaim, .inr ⟨entry, hpending entry hentry hmatched, hmatched⟩⟩)

theorem entry_eq_of_report (hlocked : Locked w) {first second : OpenReport}
    (hfirst : first ∈ w.pending) (hsecond : second ∈ w.pending)
    (h : first.report = second.report) : first = second :=
  List.inj_on_of_nodup_map hlocked.apart hfirst hsecond (congrArg claimOf h)

/-- A report that ends leaves an event that spent its budget settled or given up. -/
theorem settled_of_report {entry : OpenReport} (hlimit : CarriesLimit maxAttempts entry.report)
    (hspent : maxAttempts ≤ (entry.report.settle entry.updatedAt event).attempts) :
    (entry.report.settle entry.updatedAt event).isSettled = true ∨
      (entry.report.settle entry.updatedAt event).deadLetteredAt.isSome = true := by
  cases hfailure : entry.report.failure with
  | none =>
    rw [settle_published hfailure]
    exact .inl rfl
  | some failure =>
    obtain ⟨-, -, -, -, hattempts, -, hletter⟩ := settle_failed hfailure entry.updatedAt event
    refine .inr ?_
    rw [hletter, if_pos]
    · rfl
    · by_contra hretry
      have hlt := attempts_of_retry (hlimit failure hfailure) (by simpa using hretry)
      omega

/-- An affordable move keeps the events live. -/
theorem live_of_move (h : Move w label w') (hlocked : Locked w) (hpositive : 0 < maxAttempts)
    (hbudget : Budgeted maxAttempts w) (haffordable : Affordable maxAttempts time w label)
    (hw : Live maxAttempts time w) : Live maxAttempts time w' := by
  cases h with
  | pass => exact hw
  | @enqueue now event events _ _ hnow _ hnext hsequences hinsert =>
    intro row hrow hspent
    rcases (KeyedTable.mem_insert hinsert).mp hrow with hrow | rfl
    · exact hw row hrow hspent
    · change maxAttempts ≤ 0 at hspent
      omega
  | @claim now event workerId publisherName leaseSeconds attempts hnow hevent hclaimable hunlocked
      hlease hinsert =>
    intro row hrow hspent
    rcases (mem_rewriteEvent_iff (takeClaim_id _ _ _) hevent row).mp hrow with rfl | ⟨hrow, -⟩
    · refine .inr (.inr ⟨_, rfl, .inl ?_⟩)
      rw [← haffordable.1]
      exact lt_add_of_pos_right now (by positivity)
    · exact hw row hrow hspent
  | beginReport =>
    intro row hrow hspent
    exact hw.keep hrow hspent fun entry hentry _ => List.mem_append_left _ hentry
  | @loseReport now report hnow =>
    intro row hrow hspent
    rcases hw row hrow hspent with
      hsettled | hdead | ⟨claim, hclaim, hlive | ⟨entry, hentry, hmatched⟩⟩
    · exact .inl hsettled
    · exact .inr (.inl hdead)
    · exact .inr (.inr ⟨claim, hclaim, .inl hlive⟩)
    · by_cases hlost : entry.report = report
      · exact .inr (.inr ⟨claim, hclaim,
          .inl (haffordable entry hentry hlost row hmatched hspent claim hclaim)⟩)
      · exact .inr (.inr ⟨claim, hclaim,
          .inr ⟨entry, mem_without.mpr ⟨hentry, hlost⟩, hmatched⟩⟩)
  | @settle now closing event results hnow hclosing hmatched hattempted hinsert =>
    obtain ⟨hevent, hholds⟩ := hlocked.held closing hclosing event hmatched
    have hid := (holdsClaim_iff.mp hholds).2.1
    intro row hrow hspent
    rw [← hid] at hrow
    rcases (mem_rewriteEvent_iff (closing.report.settle_id _) hevent row).mp hrow with
      rfl | ⟨hrow, hne⟩
    · rcases settled_of_report (hbudget.limits closing hclosing) hspent with hsettled | hdead
      · exact .inl hsettled
      · exact .inr (.inl hdead)
    · refine hw.keep hrow hspent fun entry hentry hrowMatched => ?_
      refine mem_without.mpr ⟨hentry, fun hsame => hne ?_⟩
      obtain rfl := entry_eq_of_report hlocked hentry hclosing hsame
      rw [hmatched] at hrowMatched
      rw [Option.some.inj hrowMatched]
  | @loseClaim now closing results hnow hclosing hmatched hattempted hinsert =>
    intro row hrow hspent
    refine hw.keep hrow hspent fun entry hentry hrowMatched => ?_
    refine mem_without.mpr ⟨hentry, fun hsame => ?_⟩
    obtain rfl := entry_eq_of_report hlocked hentry hclosing hsame
    rw [hmatched] at hrowMatched
    cases hrowMatched
  | replay hnow hevent hdead =>
    intro row hrow hspent
    rcases (mem_rewriteEvent_iff (replayed_id _) hevent row).mp hrow with rfl | ⟨hrow, -⟩
    · change maxAttempts ≤ 0 at hspent
      omega
    · exact hw row hrow hspent
  | discard hnow hevent =>
    intro row hrow hspent
    rcases (mem_rewriteEvent_iff (discarded_id _ _ _) hevent row).mp hrow with rfl | ⟨hrow, -⟩
    · exact .inl (by simp [OutboxEvent.isSettled, discarded])
    · exact hw row hrow hspent
  | purge =>
    intro row hrow hspent
    exact hw row (KeyedTable.mem_deleteWhere.mp hrow).1 hspent

/-- The last delivery that the budget of an event allows is reported before its lease
lapses, that report is not lost, and retryable failures are reported with the
configured limit. -/
def Punctual (maxAttempts : ℤ) (w : World) (step : Step) : Prop :=
  (∀ row ∈ w.db.events.rows, maxAttempts ≤ row.attempts → ∀ claim, row.claim = some claim →
    step.now < claim.leaseExpiresAt ∨
      ∃ entry ∈ w.pending, entry.matched = some row ∧ step.action ≠ .loseReport entry.report) ∧
  ∀ report, step.action = .beginReport report → CarriesLimit maxAttempts report

/-- An event that spent its budget is not claimed by a punctual step. -/
theorem claim_affordable (hbudget : Budgeted maxAttempts w) (hlocked : Locked w)
    (hpunctual : Punctual maxAttempts w step) (hevent : event ∈ w.db.events.rows)
    (hunlocked : event.id ∉ w.lockedIds) (hdue : isDue event.tenantId step.now event = true) :
    event.attempts < maxAttempts := by
  obtain ⟨-, hpublished, hdead, hdiscard, -, hlapsed⟩ := isDue_iff.mp hdue
  by_contra hspent
  rw [not_lt] at hspent
  cases hclaim : event.claim with
  | none =>
    have hunsettled : event.isSettled = false := by
      rw [OutboxEvent.isSettled, hpublished, hdiscard]
      rfl
    exact absurd ((hbudget.rows event hevent).waiting hunsettled hdead hclaim) (not_lt.mpr hspent)
  | some claim =>
    rcases hpunctual.1 event hevent hspent claim hclaim with hlive | ⟨entry, hentry, hmatched, -⟩
    · exact absurd hlive (not_lt.mpr (hlapsed claim hclaim))
    · exact hunlocked (hlocked.mem_lockedIds hentry hmatched)

/-- The moves of a punctual step are affordable at its time. -/
theorem affordable_of_within (hfenced : Fenced w) (hbudget : Budgeted maxAttempts w)
    (hpunctual : Punctual maxAttempts w step) {current : World}
    (h : Within w step current label) : Affordable maxAttempts step.now current label := by
  cases label with
  | claim =>
    obtain ⟨rfl, hevent, hunlocked, hdue⟩ := h
    exact ⟨rfl, claim_affordable hbudget hfenced.locked hpunctual hevent hunlocked hdue⟩
  | begin report => exact hpunctual.2 report h
  | lose =>
    obtain ⟨rfl, hlost⟩ := h
    intro entry hentry hreport row hmatched hspent claim hclaim
    rcases hlost with haction | ⟨ended, hended, hendedReport, hfailed⟩
    · obtain ⟨hrow, -⟩ := hfenced.locked.held entry hentry row hmatched
      rcases hpunctual.1 row hrow hspent claim hclaim with hlive | ⟨other, hother, hsame, hkept⟩
      · exact hlive
      · have hne : other.report ≠ entry.report := by
          rintro heq
          exact hkept (by rw [haction, heq, hreport])
        exact absurd rfl (hfenced.locked.id_ne hother hentry hne hsame hmatched)
    · obtain rfl := entry_eq_of_report hfenced.locked hended hentry
        (hendedReport.trans hreport.symm)
      rcases hfailed with hnone | ⟨halt, herror⟩
      · rw [hmatched] at hnone
        cases hnone
      · obtain ⟨db, hfinish, -⟩ := hfenced.finish hended step.now
        rw [hendedReport, commit_of_error herror] at hfinish
        cases hfinish
  | other => trivial

/-- When a punctual step begins, the events that spent their budget are live. -/
theorem live_of_punctual (hbudget : Budgeted maxAttempts w)
    (hpunctual : Punctual maxAttempts w step) : Live maxAttempts step.now w := by
  intro row hrow hspent
  by_contra hdone
  rw [not_or, not_or] at hdone
  obtain ⟨hunsettled, halive, hidle⟩ := hdone
  have hdead : row.deadLetteredAt = none := by simpa using halive
  cases hclaim : row.claim with
  | none =>
    have hlt := (hbudget.rows row hrow).waiting (Bool.eq_false_iff.mpr hunsettled) hdead hclaim
    exact absurd hlt (not_lt.mpr hspent)
  | some claim =>
    refine hidle ⟨claim, hclaim, ?_⟩
    rcases hpunctual.1 row hrow hspent claim hclaim with hlive | ⟨entry, hentry, hmatched, -⟩
    · exact .inl hlive
    · exact .inr ⟨entry, hentry, hmatched⟩

/-- A punctual step keeps the budget and leaves the events that spent it live. -/
theorem next_budgeted (hpositive : 0 < maxAttempts) (hallowed : Allowed w step)
    (hpunctual : Punctual maxAttempts w step) (hfenced : Fenced w)
    (hbudget : Budgeted maxAttempts w) :
    Budgeted maxAttempts (w.next step) ∧ Live maxAttempts step.now (w.next step) := by
  have hmoves : Run Move (Affordable maxAttempts step.now) w (w.next step) :=
    (next_moves hallowed).mono fun _ _ h => affordable_of_within hfenced hbudget hpunctual h
  have hstart : Fenced w ∧ Budgeted maxAttempts w ∧ Live maxAttempts step.now w :=
    ⟨hfenced, hbudget, live_of_punctual hbudget hpunctual⟩
  refine (Run.preserves
    (fun w => Fenced w ∧ Budgeted maxAttempts w ∧ Live maxAttempts step.now w) ?_ hmoves hstart).2
  rintro w label w' haffordable hmove ⟨hfenced, hbudget, hlive⟩
  exact ⟨hfenced.move hmove,
    budgeted_of_move hmove hfenced.locked hfenced.known hpositive haffordable hbudget,
    live_of_move hmove hfenced.locked hpositive hbudget haffordable hlive⟩

theorem next_clock (w : World) (step : Step) : (w.next step).clock = step.now := by
  unfold World.next World.attempt
  repeat' split
  all_goals rfl

/-- In every run whose steps are punctual, an event is claimed at most `max_attempts`
times between two replays, or from its creation, and an event that spent its attempts
is published, discarded or dead-lettered, or its last delivery still holds its lease
or is being reported. -/
theorem punctual_deliveries_stay_within_budget (hpositive : 0 < maxAttempts)
    (h : OutboxRun (Punctual maxAttempts) World.initial w) :
    (∀ id generation, (claimsIn w.history id generation : ℤ) ≤ maxAttempts) ∧
      ∀ row ∈ w.db.events.rows, maxAttempts ≤ row.attempts →
        row.publishedAt.isSome = true ∨ row.discard.isSome = true ∨
        row.deadLetteredAt.isSome = true ∨
        ∃ claim, row.claim = some claim ∧
          (w.clock < claim.leaseExpiresAt ∨ ∃ entry ∈ w.pending, entry.matched = some row) := by
  have hrun : Fenced w ∧ Budgeted maxAttempts w ∧ Live maxAttempts w.clock w := by
    refine Run.preserves
      (fun w => Fenced w ∧ Budgeted maxAttempts w ∧ Live maxAttempts w.clock w) ?_ h
      ⟨fenced_initial, budgeted_initial hpositive, fun row hrow => by cases hrow⟩
    rintro w step _ ⟨hallowed, hpunctual⟩ rfl ⟨hfenced, hbudget, -⟩
    rw [next_clock]
    exact ⟨hfenced.next hallowed, next_budgeted hpositive hallowed hpunctual hfenced hbudget⟩
  obtain ⟨-, hbudget, hlive⟩ := hrun
  refine ⟨hbudget.bounded, fun row hrow hspent => ?_⟩
  rcases hlive row hrow hspent with hsettled | hdead | hclaimed
  · rcases Bool.or_eq_true_iff.mp hsettled with hpublished | hdiscard
    · exact .inl hpublished
    · exact .inr (.inl hdiscard)
  · exact .inr (.inr (.inl hdead))
  · exact .inr (.inr (.inr hclaimed))

section Orders

/-- A step before every lease lapses is punctual. -/
theorem punctual_of_early
    (hearly : ∀ row ∈ w.db.events.rows, ∀ claim ∈ row.claim, step.now < claim.leaseExpiresAt)
    (hlimit : ∀ report, step.action = .beginReport report → CarriesLimit maxAttempts report) :
    Punctual maxAttempts w step :=
  ⟨fun row hrow _ claim hclaim => .inl (hearly row hrow claim hclaim), hlimit⟩

/-- A worker reports that it could not deliver the first event, which may be tried once. -/
def failureBy (workerId : String) : Report :=
  ⟨1, 1, workerId, 1, some ⟨.retryable, "connection refused", 1, 1⟩⟩

/-- The only delivery of the first event fails. -/
def givenUpOrder : List Step :=
  claimedOrder ++
    [⟨4, .beginReport (failureBy "worker-a")⟩, ⟨5, .endReport (failureBy "worker-a")⟩]

theorem givenUpOrder_punctual :
    Replays World.next (fun w step => Allowed w step ∧ Punctual 1 w step) givenUpOrder
      World.initial := by
  refine ⟨⟨?_, punctual_of_early ?_ ?_⟩, ⟨?_, punctual_of_early ?_ ?_⟩,
    ⟨?_, punctual_of_early ?_ ?_⟩, ⟨?_, punctual_of_early ?_ ?_⟩,
    ⟨?_, punctual_of_early ?_ ?_⟩, trivial⟩
  all_goals first
    | decide +kernel
    | rintro report ⟨⟩
      try
        rintro failure ⟨⟩ -
        rfl

/-- An event whose only delivery failed was claimed once and is dead-lettered. -/
theorem failed_delivery_stays_within_budget :
    (∃ row ∈ (replay World.next givenUpOrder World.initial).db.events.rows, row.id = 1 ∧
      1 ≤ row.attempts ∧ row.publishedAt = none ∧ row.discard = none ∧ row.claim = none) ∧
    (claimsIn (replay World.next givenUpOrder World.initial).history 1 0 : ℤ) ≤ 1 :=
  ⟨by decide +kernel, (punctual_deliveries_stay_within_budget Int.one_pos
    (run_replay World.next givenUpOrder_punctual)).1 1 0⟩

/-- Three workers claim the first event one after the other, and none of them reports. -/
def abandonedOrder : List Step :=
  claimedOrder ++ [⟨2000000, claimBy "worker-b"⟩, ⟨4000000, claimBy "worker-c"⟩,
    ⟨6000000, .changeMemberships []⟩]

/-- Workers that die before they report claim an event more often than the limit of two
allows. Its lease lapsed, and it is neither settled nor given up, so that it is claimed
again while it blocks its stream. -/
theorem dead_workers_exceed_budget : ∃ w,
    OutboxRun (fun _ step => ∀ report, step.action = .beginReport report → CarriesLimit 2 report)
      World.initial w ∧
    claimsIn w.history 1 0 = 3 ∧
    ∃ row ∈ w.db.events.rows, row.id = 1 ∧ row.replayCount = 0 ∧ row.attempts = 3 ∧
      row.publishedAt = none ∧ row.discard = none ∧ row.deadLetteredAt = none ∧
      isClaimable w.db.events.rows 1 w.clock row = true := by
  have hallowed : Replays World.next
      (fun w step => Allowed w step ∧
        ∀ report, step.action = .beginReport report → CarriesLimit 2 report)
      abandonedOrder World.initial := by
    refine ⟨⟨?_, ?_⟩, ⟨?_, ?_⟩, ⟨?_, ?_⟩, ⟨?_, ?_⟩, ⟨?_, ?_⟩, ⟨?_, ?_⟩, trivial⟩
    all_goals first
      | decide +kernel
      | rintro report ⟨⟩
  refine ⟨_, run_replay World.next hallowed, ?_, ?_⟩
  · decide +kernel
  · decide +kernel

end Orders

end Wareboxes.OutboxBudget
