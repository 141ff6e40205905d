import Wareboxes.OutboxMoves

/-!
# The life of an outbox event

A move leaves every event as it is, apart from one that is inserted or changed,
or from settled ones that are deleted. An event changes by a claim, by the
report of a worker that still holds the claim, by a replay or by a discard, and
all of these find it unsettled: a settled event stays as it is until it is
deleted. No change touches the envelope.
-/

namespace Wareboxes.OutboxEventLife

open KeyedTables OutboxTables OutboxOperations OutboxRuns OutboxMoves LabelledRuns

/-- How a move changes an event, and what it adds to the history. -/
inductive EventChange (w : World) (now : Timestamp) :
    Label → OutboxEvent → OutboxEvent → List Happening → Prop where
  | claim {event : OutboxEvent} {workerId : String} {leaseSeconds : ℤ}
      (hclaimable : isClaimable w.db.events.rows event.tenantId now event = true)
      (hunlocked : event.id ∉ w.lockedIds) (hlease : 0 < leaseSeconds) :
      EventChange w now (.claim event now) event (takeClaim workerId leaseSeconds now event)
        [.claimed (takeClaim workerId leaseSeconds now event)]
  /-- A worker that held the claim reports the delivery. -/
  | publish {event : OutboxEvent} {entry : OpenReport} (hentry : entry ∈ w.pending)
      (hholds : entry.report.holdsClaim entry.updatedAt event = true)
      (hfailure : entry.report.failure = none) :
      EventChange w now .other event (entry.report.settle entry.updatedAt event)
        [.published (entry.report.settle entry.updatedAt event)]
  /-- A worker that held the claim reports a failure. -/
  | fail {event : OutboxEvent} {entry : OpenReport} {failure : Failure}
      (hentry : entry ∈ w.pending)
      (hholds : entry.report.holdsClaim entry.updatedAt event = true)
      (hfailure : entry.report.failure = some failure) :
      EventChange w now .other event (entry.report.settle entry.updatedAt event) []
  /-- A dead letter is replayed. -/
  | replay {event : OutboxEvent}
      (hdead : isDeadLetter event.tenantId event.id event.replayCount event = true) :
      EventChange w now .other event (replayed now event) [.replayed (replayed now event)]
  /-- A dead letter is discarded. -/
  | discard {event : OutboxEvent} {userId : ℤ} {reason : String}
      (hdead : isDeadLetter event.tenantId event.id event.replayCount event = true) :
      EventChange w now .other event (discarded userId reason now event)
        [.discarded (discarded userId reason now event)]

section Changes

variable {w : World} {now : Timestamp} {label : Label} {event event' : OutboxEvent}
  {happenings : List Happening}

variable {report : Report} {tenantId : ℤ} {rows : List OutboxEvent} {other : OutboxEvent}

theorem settle_published (h : report.failure = none) (updatedAt : Timestamp) (event : OutboxEvent) :
    report.settle updatedAt event =
      { event with publishedAt := some updatedAt, claim := none, lastError := none } := by
  unfold Report.settle
  rw [h]

/-- The report of a failure schedules a retry or gives the event up. -/
theorem settle_failed {failure : Failure} (h : report.failure = some failure)
    (updatedAt : Timestamp) (event : OutboxEvent) : (report.settle updatedAt event).claim = none ∧
      (report.settle updatedAt event).publishedAt = event.publishedAt ∧
      (report.settle updatedAt event).discard = event.discard ∧
      (report.settle updatedAt event).claimVersion = event.claimVersion ∧
      (report.settle updatedAt event).attempts = event.attempts ∧
      (report.settle updatedAt event).replayCount = event.replayCount ∧
      (report.settle updatedAt event).deadLetteredAt =
        if failure.givesUp event.attempts then some updatedAt else none := by
  unfold Report.settle
  rw [h]
  exact ⟨rfl, rfl, rfl, rfl, rfl, rfl, rfl⟩

theorem EventChange.envelope (h : EventChange w now label event event' happenings) :
    event'.toNewOutboxEvent = event.toNewOutboxEvent ∧ event'.id = event.id := by
  cases h with
  | claim | replay | discard => exact ⟨rfl, rfl⟩
  | publish | fail =>
    refine ⟨?_, Report.settle_id _ _ _⟩
    unfold Report.settle
    split <;> rfl

theorem EventChange.place (h : EventChange w now label event event' happenings) :
    event'.stream = event.stream ∧ event'.aggregateSequence = event.aggregateSequence := by
  unfold OutboxEvent.stream
  rw [h.envelope.1]
  exact ⟨rfl, rfl⟩

/-- A due event waits for its delivery. -/
theorem isDue_iff : isDue tenantId now event = true ↔
    event.tenantId = tenantId ∧ event.publishedAt = none ∧ event.deadLetteredAt = none ∧
      event.discard = none ∧ event.availableAt ≤ now ∧
      ∀ claim, event.claim = some claim → claim.leaseExpiresAt ≤ now := by
  unfold isDue
  simp only [Bool.and_eq_true, beq_iff_eq, Option.isNone_iff_eq_none, decide_eq_true_eq,
    Option.all_eq_true]
  tauto

/-- A dead letter waits for an operator. -/
theorem isDeadLetter_iff {tenantId id replayCount : ℤ} :
    isDeadLetter tenantId id replayCount event = true ↔
      event.tenantId = tenantId ∧ event.id = id ∧ event.replayCount = replayCount ∧
        event.deadLetteredAt.isSome = true ∧ event.lastError.isSome = true ∧
        event.publishedAt = none ∧ event.discard = none ∧ event.claim = none := by
  unfold isDeadLetter
  simp only [Bool.and_eq_true, beq_iff_eq, Option.isNone_iff_eq_none]
  tauto

theorem isDue_of_isClaimable (h : isClaimable rows tenantId now event = true) :
    isDue tenantId now event = true := by
  unfold isClaimable at h
  exact (Bool.and_eq_true_iff.mp h).1

/-- The events before a claimable one in its stream are settled. -/
theorem settled_of_isClaimable (h : isClaimable rows tenantId now event = true)
    (hother : other ∈ rows) (hstream : other.stream = event.stream)
    (hlower : other.aggregateSequence < event.aggregateSequence) : other.isSettled = true := by
  unfold isClaimable at h
  have hblocked := (Bool.and_eq_true_iff.mp h).2
  rw [Bool.not_eq_true', List.any_eq_false] at hblocked
  have hfree := hblocked other hother
  obtain ⟨htenant, hkey⟩ := Prod.mk.injEq .. ▸ hstream
  simp only [blocks, htenant, hkey, hlower, decide_true, beq_self_eq_true, Bool.true_and,
    Bool.and_true, Bool.and_eq_true, Option.isNone_iff_eq_none, not_and] at hfree
  unfold OutboxEvent.isSettled
  cases hpublished : other.publishedAt with
  | some => rfl
  | none =>
    cases hdiscard : other.discard with
    | some => rfl
    | none => exact absurd hdiscard (hfree hpublished)

section

variable (h : EventChange w now label event event' happenings)
include h

theorem EventChange.unsettled : event.isSettled = false := by
  have hnone : event.publishedAt = none ∧ event.discard = none := by
    cases h with
    | claim hclaimable =>
      obtain ⟨-, hpublished, -, hdiscard, -⟩ := isDue_iff.mp (isDue_of_isClaimable hclaimable)
      exact ⟨hpublished, hdiscard⟩
    | publish _ hholds | fail _ hholds =>
      obtain ⟨-, -, -, -, -, hdiscard, hpublished⟩ := holdsClaim_iff.mp hholds
      exact ⟨hpublished, hdiscard⟩
    | replay hdead | discard hdead =>
      obtain ⟨-, -, -, -, -, hpublished, hdiscard, -⟩ := isDeadLetter_iff.mp hdead
      exact ⟨hpublished, hdiscard⟩
  unfold OutboxEvent.isSettled
  rw [hnone.1, hnone.2]
  rfl

theorem EventChange.noted (hsettled : event'.isSettled = true) :
    happenings = [.published event'] ∨ happenings = [.discarded event'] := by
  have hunsettled := h.unsettled
  cases h with
  | claim => exact absurd hsettled (by simpa [takeClaim, OutboxEvent.isSettled] using hunsettled)
  | publish => exact .inl rfl
  | fail hentry hholds hfailure =>
    obtain ⟨-, hpublished, hdiscard, -⟩ := settle_failed hfailure _ event
    unfold OutboxEvent.isSettled at hsettled hunsettled
    rw [hpublished, hdiscard, hunsettled] at hsettled
    cases hsettled
  | replay => exact absurd hsettled (by simpa [replayed, OutboxEvent.isSettled] using hunsettled)
  | discard => exact .inr rfl

/-- Only a claim leaves its event claimed, and it does not settle it. -/
theorem EventChange.claimed (hclaimed : event'.claim.isSome = true) :
    isClaimable w.db.events.rows event.tenantId now event = true ∧
      event'.isSettled = event.isSettled := by
  cases h with
  | claim hclaimable => exact ⟨hclaimable, rfl⟩
  | publish hentry hholds hfailure =>
    rw [settle_published hfailure] at hclaimed
    cases hclaimed
  | fail hentry hholds hfailure =>
    rw [(settle_failed hfailure _ event).1] at hclaimed
    cases hclaimed
  | replay => cases hclaimed
  | discard hdead =>
    obtain ⟨-, -, -, -, -, -, -, hclaim⟩ := isDeadLetter_iff.mp hdead
    rw [show (discarded _ _ now event).claim = event.claim from rfl, hclaim] at hclaimed
    cases hclaimed

/-- A publication is noted for an event that was claimed. -/
theorem EventChange.published (hother : .published other ∈ happenings) :
    other = event' ∧ event.claim.isSome = true ∧ event'.isSettled = true := by
  cases h with
  | claim | replay | discard => cases hother with | tail _ h => cases h
  | publish hentry hholds hfailure =>
    obtain ⟨rfl⟩ := List.mem_singleton.mp hother
    obtain ⟨-, -, ⟨claim, hclaim, -⟩, -⟩ := holdsClaim_iff.mp hholds
    refine ⟨rfl, by rw [hclaim]; rfl, ?_⟩
    rw [settle_published hfailure]
    rfl
  | fail => cases hother

end

end Changes

/-- What a move does to the events, their counters and the history. -/
inductive Shape (w : World) (now : Timestamp) : Label → World → Prop where
  /-- Settled events may be deleted. -/
  | shrink {w' : World} {label : Label}
      (hsub : ∀ row ∈ w'.db.events.rows, row ∈ w.db.events.rows)
      (hkept : ∀ row ∈ w.db.events.rows, row.isSettled = false → row ∈ w'.db.events.rows)
      (hhistory : w'.history = w.history) (hsequences : w'.db.sequences = w.db.sequences)
      (hlastId : w'.db.lastId = w.db.lastId) : Shape w now label w'
  /-- An event with the next sequence of its stream is inserted. -/
  | insert {w' : World} {event : NewOutboxEvent}
      (hpositive : 0 < event.aggregateSequence)
      (hnext : event.aggregateSequence =
        lastSequence w.db.sequences (event.tenantId, event.orderingKey) + 1)
      (hsequences : ∀ stream, lastSequence w'.db.sequences stream =
        if stream = (event.tenantId, event.orderingKey) then event.aggregateSequence
        else lastSequence w.db.sequences stream)
      (hrows : ∀ row, row ∈ w'.db.events.rows ↔
        row ∈ w.db.events.rows ∨ row = newRow event (w.db.lastId + 1) now)
      (hhistory : w'.history = w.history ++ [.enqueued (newRow event (w.db.lastId + 1) now)])
      (hlastId : w'.db.lastId = w.db.lastId + 1) : Shape w now .other w'
  | change {w' : World} {label : Label} {event event' : OutboxEvent} {happenings : List Happening}
      (hevent : event ∈ w.db.events.rows)
      (hchange : EventChange w now label event event' happenings)
      (hrows : ∀ row, row ∈ w'.db.events.rows ↔
        row = event' ∨ row ∈ w.db.events.rows ∧ row.id ≠ event.id)
      (hhistory : w'.history = w.history ++ happenings)
      (hsequences : w'.db.sequences = w.db.sequences) (hlastId : w'.db.lastId = w.db.lastId) :
      Shape w now label w'

/-- The rows after one event was rewritten. -/
theorem mem_rewriteEvent_iff {events : KeyedTable OutboxEvent.id} {event : OutboxEvent}
    {rewrite : OutboxEvent → OutboxEvent} (hid : ∀ row, (rewrite row).id = row.id)
    (hevent : event ∈ events.rows) (row : OutboxEvent) :
    row ∈ (rewriteEvent events event.id rewrite hid).rows ↔
      row = rewrite event ∨ row ∈ events.rows ∧ row.id ≠ event.id := by
  rw [rewriteEvent, KeyedTable.updateWhere_rows]
  simp only [decide_eq_true_eq]
  exact KeyedTable.mem_map_key_iff hevent row

/-- Every move has one of these shapes, at a time that the clock shows afterwards. -/
theorem shape_of_move {w w' : World} {label : Label} (h : Move w label w') (hw : Locked w) :
    w.clock ≤ w'.clock ∧ Shape w w'.clock label w' := by
  cases h with
  | pass hnow | beginReport hnow | loseReport hnow | loseClaim hnow =>
    exact ⟨hnow, .shrink (fun _ hrow => hrow) (fun _ hrow _ => hrow) rfl rfl rfl⟩
  | enqueue hnow hpositive hnext hsequences hinsert =>
    exact ⟨hnow, .insert hpositive hnext hsequences (fun row => KeyedTable.mem_insert hinsert)
      rfl rfl⟩
  | claim hnow hevent hclaimable hunlocked hlease =>
    exact ⟨hnow, .change hevent (.claim hclaimable hunlocked hlease)
      (mem_rewriteEvent_iff (takeClaim_id _ _ _) hevent) rfl rfl rfl⟩
  | @settle _ entry event _ hnow hentry hmatched hattempted hinsert =>
    obtain ⟨hevent, hholds⟩ := hw.held entry hentry event hmatched
    have hid := (holdsClaim_iff.mp hholds).2.1
    have hrows := mem_rewriteEvent_iff (entry.report.settle_id entry.updatedAt) hevent
    rw [hid] at hrows
    refine ⟨hnow, ?_⟩
    cases hfailure : entry.report.failure with
    | none =>
      refine .change hevent (.publish hentry hholds hfailure) (by rw [hid]; exact hrows) ?_ rfl rfl
      dsimp only [reportHappens]
      rw [hfailure, hmatched]
    | some =>
      refine .change hevent (.fail hentry hholds hfailure) (by rw [hid]; exact hrows) ?_ rfl rfl
      dsimp only [reportHappens]
      rw [hfailure]
  | replay hnow hevent hdead =>
    exact ⟨hnow, .change hevent (.replay hdead)
      (mem_rewriteEvent_iff (replayed_id _) hevent) rfl rfl rfl⟩
  | discard hnow hevent hdead =>
    exact ⟨hnow, .change hevent (.discard hdead)
      (mem_rewriteEvent_iff (discarded_id _ _ _) hevent) rfl rfl rfl⟩
  | purge hnow hsettled =>
    refine ⟨hnow, .shrink (fun row hrow => (KeyedTable.mem_deleteWhere.mp hrow).1)
      (fun row hrow hunsettled => KeyedTable.mem_deleteWhere.mpr ⟨hrow, ?_⟩) rfl rfl rfl⟩
    by_contra hselected
    have hsettled := hsettled row hrow (by simpa using hselected)
    rw [hunsettled] at hsettled
    cases hsettled

end Wareboxes.OutboxEventLife
