import Wareboxes.OutboxRuns

/-!
# What one step of the outbox can do

Every step of a run is a sequence of moves, each of which changes one event:
a batch of claims is a move for each claimed event. A move states under which
condition it happens and what the next state is, so that an invariant is
checked against the moves and never against the transactions.
-/

namespace Wareboxes.OutboxMoves

open KeyedTables Transactions Transaction OutboxTables OutboxOperations OutboxRuns LabelledRuns
open KeyedTable List

/-- The last sequence that was given out for a stream, or zero. -/
def lastSequence (sequences : KeyedTable SequenceRow.key) (stream : ℤ × String) : ℤ :=
  ((sequences.find? stream).map SequenceRow.lastSequence).getD 0

/-- What a move does to an event, as far as conditions on runs need to know. -/
inductive Label where
  | claim (event : OutboxEvent) (now : Timestamp)
  /-- The update of the report runs. -/
  | begin (report : Report)
  /-- The report ends without an effect. -/
  | lose (report : Report)
  | other

/-- The event table after the row with an identity was rewritten. -/
def rewriteEvent (events : KeyedTable OutboxEvent.id) (id : ℤ) (rewrite : OutboxEvent → OutboxEvent)
    (hid : ∀ row, (rewrite row).id = row.id) : KeyedTable OutboxEvent.id :=
  events.updateWhere (fun row => decide (row.id = id)) rewrite hid

variable {events : KeyedTable OutboxEvent.id} {rewrite : OutboxEvent → OutboxEvent}
  {hid : ∀ row, (rewrite row).id = row.id}

/-- The rows after the rewriting of one. -/
theorem mem_rewriteEvent {id : ℤ} {row' : OutboxEvent} :
    row' ∈ (rewriteEvent events id rewrite hid).rows ↔
      ∃ row ∈ events.rows, row' = if row.id = id then rewrite row else row := by
  simp only [rewriteEvent, updateWhere_rows, mem_map, decide_eq_true_eq]
  constructor
  · rintro ⟨row, hrow, rfl⟩
    exact ⟨row, hrow, rfl⟩
  · rintro ⟨row, hrow, rfl⟩
    exact ⟨row, hrow, rfl⟩

/-- One change of the outbox at a time that is not before the clock. -/
inductive Move : World → Label → World → Prop where
  /-- Time passes, or the memberships change. -/
  | pass {w : World} {now : Timestamp} {memberships : List (ℤ × ℤ)} (hnow : w.clock ≤ now) :
      Move w .other { w with clock := now, db := { w.db with memberships } }
  /-- An event with the next sequence of its stream is inserted. -/
  | enqueue {w : World} {now : Timestamp} {event : NewOutboxEvent}
      {events : KeyedTable OutboxEvent.id} {eventKeys : KeyedTable EventKeyRow.key}
      {sequences : KeyedTable SequenceRow.key} (hnow : w.clock ≤ now)
      (hpositive : 0 < event.aggregateSequence)
      (hnext : event.aggregateSequence =
        lastSequence w.db.sequences (event.tenantId, event.orderingKey) + 1)
      (hsequences : ∀ stream, lastSequence sequences stream =
        if stream = (event.tenantId, event.orderingKey) then event.aggregateSequence
        else lastSequence w.db.sequences stream)
      (hinsert : w.db.events.insert? (newRow event (w.db.lastId + 1) now) = some events) :
      Move w .other { w with
        clock := now
        db := { w.db with events, eventKeys, sequences, lastId := w.db.lastId + 1 }
        history := w.history ++ [.enqueued (newRow event (w.db.lastId + 1) now)] }
  /-- A claimable event that no open report keeps locked is claimed. -/
  | claim {w : World} {now : Timestamp} {event : OutboxEvent} {workerId publisherName : String}
      {leaseSeconds : ℤ} {attempts : KeyedTable AttemptRow.key} (hnow : w.clock ≤ now)
      (hevent : event ∈ w.db.events.rows)
      (hclaimable : isClaimable w.db.events.rows event.tenantId now event = true)
      (hunlocked : event.id ∉ w.lockedIds) (hlease : 0 < leaseSeconds)
      (hinsert : w.db.attempts.insert? (attemptOf publisherName
        (takeClaim workerId leaseSeconds now event)
        ⟨now, workerId, addSeconds now leaseSeconds⟩) = some attempts) :
      Move w (.claim event now) { w with
        clock := now
        db := { w.db with
          events := rewriteEvent w.db.events event.id (takeClaim workerId leaseSeconds now)
            (takeClaim_id workerId leaseSeconds now)
          attempts }
        history := w.history ++ [.claimed (takeClaim workerId leaseSeconds now event)] }
  /-- The update of a report runs. -/
  | beginReport {w : World} {now : Timestamp} {report : Report} {matched : Option OutboxEvent}
      (hnow : w.clock ≤ now) (hmay : w.mayReport report)
      (hmatched : report.matched now w.db.events.rows = .ok matched) :
      Move w (.begin report) { w with
        clock := now, pending := w.pending ++ [⟨report, now, matched⟩] }
  /-- A report ends without an effect. -/
  | loseReport {w : World} {now : Timestamp} {report : Report} (hnow : w.clock ≤ now) :
      Move w (.lose report) { w with clock := now, pending := w.without report }
  /-- A report whose update matched commits. -/
  | settle {w : World} {now : Timestamp} {entry : OpenReport} {event : OutboxEvent}
      {results : KeyedTable ResultRow.key} (hnow : w.clock ≤ now) (hentry : entry ∈ w.pending)
      (hmatched : entry.matched = some event)
      (hattempted : entry.report.attempted w.db = true)
      (hinsert : w.db.results.insert? (entry.report.resultRow (some event) now) = some results) :
      Move w .other { w with
        clock := now
        db := { w.db with
          events := rewriteEvent w.db.events entry.report.eventId
            (entry.report.settle entry.updatedAt) (entry.report.settle_id entry.updatedAt)
          results }
        pending := w.without entry.report
        history := w.history ++ reportHappens entry true w.db }
  /-- A report whose update did not match records that. -/
  | loseClaim {w : World} {now : Timestamp} {entry : OpenReport}
      {results : KeyedTable ResultRow.key} (hnow : w.clock ≤ now) (hentry : entry ∈ w.pending)
      (hmatched : entry.matched = none) (hattempted : entry.report.attempted w.db = true)
      (hinsert : w.db.results.insert? (entry.report.resultRow none now) = some results) :
      Move w .other { w with
        clock := now, db := { w.db with results }, pending := w.without entry.report }
  /-- A dead letter is replayed. -/
  | replay {w : World} {now : Timestamp} {event : OutboxEvent}
      {replays : KeyedTable ReplayRow.key} (hnow : w.clock ≤ now)
      (hevent : event ∈ w.db.events.rows)
      (hdead : isDeadLetter event.tenantId event.id event.replayCount event = true) :
      Move w .other { w with
        clock := now
        db := { w.db with
          replays
          events := rewriteEvent w.db.events event.id (replayed now) (replayed_id now) }
        history := w.history ++ [.replayed (replayed now event)] }
  /-- A dead letter is discarded. -/
  | discard {w : World} {now : Timestamp} {event : OutboxEvent} {userId : ℤ} {reason : String}
      {discards : KeyedTable DiscardRow.key} (hnow : w.clock ≤ now)
      (hevent : event ∈ w.db.events.rows)
      (hdead : isDeadLetter event.tenantId event.id event.replayCount event = true) :
      Move w .other { w with
        clock := now
        db := { w.db with
          discards
          events := rewriteEvent w.db.events event.id (discarded userId reason now)
            (discarded_id userId reason now) }
        history := w.history ++ [.discarded (discarded userId reason now event)] }
  /-- Settled events are deleted. -/
  | purge {w : World} {now : Timestamp} {selects : OutboxEvent → Bool} (hnow : w.clock ≤ now)
      (hsettled : ∀ row ∈ w.db.events.rows, selects row = true → row.isSettled = true) :
      Move w .other { w with
        clock := now, db := { w.db with events := w.db.events.deleteWhere selects } }

/-- The moves of a step claim events that were there, due and not locked when it began,
begin the report that the step begins, and lose a report only when its connection is
lost, its update did not match or its end fails. -/
def Within (w : World) (step : Step) (current : World) : Label → Prop
  | .claim event now => now = step.now ∧ event ∈ w.db.events.rows ∧ event.id ∉ w.lockedIds ∧
      isDue event.tenantId step.now event = true
  | .begin report => step.action = .beginReport report
  | .lose report => current = w ∧ (step.action = .loseReport report ∨
      ∃ entry ∈ w.pending, entry.report = report ∧ (entry.matched = none ∨
        ∃ halt, report.finish entry.updatedAt entry.matched step.now w.db = .error halt))
  | .other => True

variable {entry : OpenReport}

section Steps

variable {w : World} {step : Step} {now : Timestamp} {db db' : Outbox}

theorem otherMove {first second : World} (h : Move first .other second) :
    Run Move (Within w step) first second :=
  Run.single (show Within w step first .other from trivial) h

/-- A transaction that fails only lets time pass. -/
theorem attempt_moves {α : Type} {transaction : OutboxTx α}
    {happens : α → Outbox → List Happening} (hnow : w.clock ≤ step.now)
    (hok : ∀ value db, transaction w.db = .ok (value, db) →
      Run Move (Within w step) w
        { w with db, clock := step.now, history := w.history ++ happens value db }) :
    Run Move (Within w step) w (w.attempt step.now transaction happens) := by
  unfold World.attempt
  split
  · next value db heq => exact hok value db heq
  · exact otherMove (.pass hnow)

section Enqueue

variable {event : NewOutboxEvent}

/-- A counter that is advanced has the sequence of the event. -/
theorem advanceSequence_ok (h : advanceSequence event now db = .ok ((), db')) :
    ∃ sequences, db' = { db with sequences } ∧ ∀ stream, lastSequence sequences stream =
      if stream = (event.tenantId, event.orderingKey) then event.aggregateSequence
      else lastSequence db.sequences stream := by
  unfold advanceSequence at h
  rw [gets_bind] at h
  cases hfind : db.sequences.find? (event.tenantId, event.orderingKey) with
  | none =>
    rw [hfind] at h
    dsimp only at h
    rw [gets_bind] at h
    obtain ⟨sequences, hinsert, hmodify⟩ := orFail_bind_ok.mp h
    cases hmodify
    refine ⟨sequences, rfl, fun stream => ?_⟩
    unfold lastSequence
    rw [find?_insert hinsert stream]
    change ((if stream = (event.tenantId, event.orderingKey) then _ else _ : Option SequenceRow).map
      SequenceRow.lastSequence).getD 0 = _
    split_ifs <;> rfl
  | some =>
    rw [hfind] at h
    obtain ⟨-, hmodify⟩ := ensure_bind_ok.mp h
    cases hmodify
    refine ⟨_, rfl, fun stream => ?_⟩
    refine (congrArg (fun found => (found.map SequenceRow.lastSequence).getD 0)
      (find?_updateWhere_key hfind stream)).trans ?_
    split_ifs <;> rfl

/-- The sequence that an accepted event has. -/
theorem sequence_of_expected (hpositive : 0 < event.aggregateSequence)
    (hexpected : event.aggregateSequence = expectedSequence
      ((db.sequences.find? (event.tenantId, event.orderingKey)).map SequenceRow.lastSequence)) :
    event.aggregateSequence =
      lastSequence db.sequences (event.tenantId, event.orderingKey) + 1 := by
  unfold lastSequence
  cases hfind : db.sequences.find? (event.tenantId, event.orderingKey) with
  | none =>
    rw [hfind] at hexpected
    exact hexpected
  | some row =>
    rw [hfind] at hexpected
    simp only [Option.map_some, expectedSequence, Option.getD_some] at hexpected ⊢
    split_ifs at hexpected with hmax
    · have hbig : (0 : ℤ) ≤ RustTime.maxI64 := by decide
      omega
    · exact hexpected

theorem validate_positive (h : NewOutboxEvent.validate event = .ok ()) :
    0 < event.aggregateSequence := by
  unfold NewOutboxEvent.validate at h
  obtain ⟨_, -, h⟩ := except_bind_ok.mp h
  obtain ⟨_, -, h⟩ := except_bind_ok.mp h
  obtain ⟨_, -, h⟩ := except_bind_ok.mp h
  obtain ⟨_, -, h⟩ := except_bind_ok.mp h
  obtain ⟨_, -, h⟩ := except_bind_ok.mp h
  split_ifs at h with hsequence
  omega

/-- An insertion is a move. -/
theorem enqueue_moves (hnow : w.clock ≤ step.now) :
    Run Move (Within w step) w (w.attempt step.now (enqueue event step.now) fun id db =>
      ((db.events.find? id).toList).map .enqueued) := by
  refine attempt_moves hnow fun id db h => ?_
  unfold enqueue at h
  obtain ⟨_, hvalid, h⟩ := lift_bind_ok.mp h
  rw [gets_bind] at h
  obtain ⟨eventKeys, -, h⟩ := orFail_bind_ok.mp h
  rw [modify_bind, gets_bind] at h
  obtain ⟨hexpected, h⟩ := ensure_bind_ok.mp h
  obtain ⟨_, mid, hadvance, h⟩ := bind_ok.mp h
  obtain ⟨sequences, rfl, hsequences⟩ := advanceSequence_ok hadvance
  rw [gets_bind] at h
  obtain ⟨-, h⟩ := ensure_bind_ok.mp h
  obtain ⟨-, h⟩ := ensure_bind_ok.mp h
  rw [gets_bind, gets_bind] at h
  obtain ⟨events, hinsert, h⟩ := orFail_bind_ok.mp h
  rw [modify_bind] at h
  cases h
  have hpositive := validate_positive hvalid
  have hfound : events.find? (w.db.lastId + 1) =
      some (newRow event (w.db.lastId + 1) step.now) :=
    (find?_insert hinsert _).trans (if_pos rfl)
  rw [hfound]
  exact otherMove
    (.enqueue hnow hpositive (sequence_of_expected hpositive hexpected) hsequences hinsert)

end Enqueue

section Claims

variable {workerId publisherName : String} {leaseSeconds : ℤ} {done : List ℤ}

/-- The event table when some of the selected events have been claimed. -/
def claimRows (events : KeyedTable OutboxEvent.id) (done : List ℤ) (workerId : String)
    (leaseSeconds : ℤ) (now : Timestamp) : KeyedTable OutboxEvent.id :=
  events.updateWhere (fun row => done.contains row.id) (takeClaim workerId leaseSeconds now)
    (takeClaim_id workerId leaseSeconds now)

variable {row : OutboxEvent} {rows : List OutboxEvent} {locked : List ℤ} {tenantId : ℤ}

theorem mem_claimRows (hrow : row ∈ events.rows) (hdone : row.id ∉ done) :
    row ∈ (claimRows events done workerId leaseSeconds now).rows := by
  have hkept : ¬done.contains row.id = true := by simpa using hdone
  exact List.mem_map.mpr ⟨row, hrow, if_neg hkept⟩

variable {ids : List ℤ}

/-- Claims do not unblock other events. -/
theorem isClaimable_claimRows :
    isClaimable (claimRows events done workerId leaseSeconds now).rows tenantId now row =
      isClaimable events.rows tenantId now row := by
  have hsame : ∀ other, blocks row (if done.contains other.id then
      takeClaim workerId leaseSeconds now other else other) = blocks row other := by
    intro other
    split <;> rfl
  unfold isClaimable
  rw [claimRows, updateWhere_rows, any_map]
  simp only [Function.comp_def, hsame]

/-- Claiming one more event. -/
theorem rewriteEvent_claimRows {id : ℤ} (hid : id ∉ done) :
    rewriteEvent (claimRows events done workerId leaseSeconds now) id
        (takeClaim workerId leaseSeconds now) (takeClaim_id workerId leaseSeconds now) =
      claimRows events (done ++ [id]) workerId leaseSeconds now := by
  apply eq_of_rows
  simp only [rewriteEvent, claimRows, updateWhere_rows, map_map]
  apply map_congr_left
  intro row _
  by_cases hdone : row.id ∈ done
  · have hne : row.id ≠ id := fun he => hid (he ▸ hdone)
    simp [hdone, takeClaim, hne]
  · by_cases he : row.id = id <;> simp [he, hid, hdone]

theorem insertAttempt_ok {row : AttemptRow} (h : insertAttempt row db = .ok ((), db')) :
    ∃ attempts, db.attempts.insert? row = some attempts ∧ db' = { db with attempts } := by
  unfold insertAttempt at h
  rw [gets_bind] at h
  obtain ⟨-, h⟩ := ensure_bind_ok.mp h
  rw [gets_bind] at h
  obtain ⟨attempts, hinsert, h⟩ := orFail_bind_ok.mp h
  cases h
  exact ⟨attempts, hinsert, rfl⟩

/-- The state when some of the selected events have been claimed and journalled. -/
def claimedSoFar (w : World) (now : Timestamp) (workerId : String) (leaseSeconds : ℤ)
    (done : List ℤ) (attempts : KeyedTable AttemptRow.key) (history : List Happening) : World :=
  { w with
    clock := now
    db := { w.db with events := claimRows w.db.events done workerId leaseSeconds now, attempts }
    history }

/-- The journal entries of the remaining events claim them one by one. The induction
is on the events that have not been journalled. -/
theorem claimedSoFar_moves (hlease : 0 < leaseSeconds)
    (todo : List OutboxEvent) (attempts : KeyedTable AttemptRow.key) (history : List Happening)
    (hnodup : (done ++ todo.map OutboxEvent.id).Nodup)
    (hrows : ∀ event ∈ todo, ∃ row ∈ w.db.events.rows,
      event = takeClaim workerId leaseSeconds step.now row ∧
      isClaimable w.db.events.rows row.tenantId step.now row = true ∧ row.id ∉ w.lockedIds)
    (hloop : loop (fun event _ => insertAttempt (attemptOf publisherName event
        ⟨step.now, workerId, addSeconds step.now leaseSeconds⟩)) todo ()
      { w.db with events, attempts } = .ok ((), db')) :
    ∃ attempts', db' = { w.db with events, attempts := attempts' } ∧
      Run Move (Within w step)
        (claimedSoFar w step.now workerId leaseSeconds done attempts history)
        (claimedSoFar w step.now workerId leaseSeconds (done ++ todo.map OutboxEvent.id) attempts'
          (history ++ todo.map .claimed)) := by
  induction todo generalizing done attempts history with
  | nil =>
    cases hloop
    refine ⟨attempts, rfl, ?_⟩
    simp only [map_nil, append_nil]
    exact .refl
  | cons event rest ih =>
    obtain ⟨_, mid, hjournal, hrest⟩ := bind_ok.mp hloop
    obtain ⟨attempts₁, hinsert, rfl⟩ := insertAttempt_ok hjournal
    obtain ⟨row, hrow, rfl, hclaimable, hunlocked⟩ := hrows event (mem_cons_self ..)
    have hfresh : row.id ∉ done := by
      intro hmem
      rw [nodup_append] at hnodup
      exact hnodup.2.2 _ hmem _ (mem_cons_self ..) rfl
    have hsplit :
        done ++ (takeClaim workerId leaseSeconds step.now row :: rest).map OutboxEvent.id =
        (done ++ [row.id]) ++ rest.map OutboxEvent.id := by
      simp [takeClaim]
    rw [hsplit] at hnodup ⊢
    obtain ⟨attempts', hdb, hruns⟩ := ih attempts₁
      (history ++ [.claimed (takeClaim workerId leaseSeconds step.now row)]) hnodup
      (fun event hevent => hrows event (mem_cons_of_mem _ hevent)) hrest
    refine ⟨attempts', hdb, ?_⟩
    have hdue : isDue row.tenantId step.now row = true := by
      unfold isClaimable at hclaimable
      exact (Bool.and_eq_true_iff.mp hclaimable).1
    have hmove : Move (claimedSoFar w step.now workerId leaseSeconds done attempts history)
        (.claim row step.now)
        (claimedSoFar w step.now workerId leaseSeconds (done ++ [row.id]) attempts₁
          (history ++ [.claimed (takeClaim workerId leaseSeconds step.now row)])) := by
      have h := Move.claim
        (w := claimedSoFar w step.now workerId leaseSeconds done attempts history)
        (le_refl step.now) (mem_claimRows hrow hfresh)
        (isClaimable_claimRows.trans hclaimable) hunlocked hlease
        hinsert
      rw [show (claimedSoFar w step.now workerId leaseSeconds done attempts history).db.events =
        claimRows w.db.events done workerId leaseSeconds step.now from rfl,
        rewriteEvent_claimRows hfresh] at h
      exact h
    have hwithin : Within w step
        (claimedSoFar w step.now workerId leaseSeconds done attempts history)
        (.claim row step.now) := ⟨rfl, hrow, hunlocked, hdue⟩
    simpa using (Run.single hwithin hmove).trans hruns

/-- The selected events are claimable and not locked. -/
theorem mem_candidates {tenantId id : ℤ} {limit : ℕ}
    (h : id ∈ candidates rows tenantId limit locked now) :
    ∃ row ∈ rows, row.id = id ∧ isClaimable rows tenantId now row = true ∧ id ∉ locked := by
  unfold candidates at h
  obtain ⟨row, hrow, rfl⟩ := List.mem_map.mp h
  obtain ⟨hrow, hunlocked⟩ := List.mem_filter.mp (mem_of_mem_take hrow)
  rw [mem_insertionSort, mem_filter] at hrow
  exact ⟨row, hrow.1, rfl, hrow.2, by simpa using hunlocked⟩

theorem tenant_of_isClaimable (h : isClaimable rows tenantId now row = true) :
    row.tenantId = tenantId := by
  simp only [isClaimable, isDue, Bool.and_eq_true, beq_iff_eq] at h
  exact h.1.1.1.1.1.1

/-- The rows that the journal query reads after the update, by identity. -/
def claimedEvents (events : KeyedTable OutboxEvent.id) (ids : List ℤ) (workerId : String)
    (leaseSeconds : ℤ) (now : Timestamp) : List OutboxEvent :=
  ((claimRows events ids workerId leaseSeconds now).rows.filter
    fun row => ids.contains row.id).insertionSort (·.id ≤ ·.id)

/-- The claimed events are the selected ones with the columns that a claim sets. -/
theorem mem_claimedEvents {ids : List ℤ} {event : OutboxEvent} :
    event ∈ claimedEvents events ids workerId leaseSeconds now ↔
      ∃ row ∈ events.rows, row.id ∈ ids ∧ event = takeClaim workerId leaseSeconds now row := by
  unfold claimedEvents
  rw [mem_insertionSort, mem_filter]
  constructor
  · rintro ⟨hmem, hid⟩
    obtain ⟨row, hrow, rfl⟩ := List.mem_map.mp hmem
    by_cases hselected : ids.contains row.id = true
    · exact ⟨row, hrow, by simpa using hselected, if_pos hselected⟩
    · simp only [if_neg hselected] at hid
      exact absurd hid hselected
  · rintro ⟨row, hrow, hid, rfl⟩
    have hselected : ids.contains row.id = true := by simpa using hid
    exact ⟨List.mem_map.mpr ⟨row, hrow, if_pos hselected⟩, hselected⟩

/-- Claiming the claimed events is claiming the selected ones. -/
theorem claimRows_claimedEvents :
    claimRows events ((claimedEvents events ids workerId leaseSeconds now).map OutboxEvent.id)
      workerId leaseSeconds now = claimRows events ids workerId leaseSeconds now := by
  apply eq_of_rows
  refine map_congr_left fun row hrow => ?_
  have hsame : row.id ∈ (claimedEvents events ids workerId leaseSeconds now).map OutboxEvent.id ↔
      row.id ∈ ids := by
    rw [mem_map]
    constructor
    · rintro ⟨event, hevent, hid⟩
      obtain ⟨other, -, hother, rfl⟩ := mem_claimedEvents.mp hevent
      exact hid ▸ hother
    · intro hid
      exact ⟨_, mem_claimedEvents.mpr ⟨row, hrow, hid, rfl⟩, rfl⟩
  simp only [contains_iff_mem, hsame]

/-- Every claimed event is journalled. -/
theorem journalled_claimed {events : List OutboxEvent}
    (h : ∀ event ∈ events, event.tenantId = tenantId ∧
      event.claim = some ⟨now, workerId, addSeconds now leaseSeconds⟩) :
    journalled tenantId workerId events =
      events.map fun event => (event, ⟨now, workerId, addSeconds now leaseSeconds⟩) := by
  induction events with
  | nil => rfl
  | cons event rest ih =>
    obtain ⟨htenant, hclaim⟩ := h event (mem_cons_self ..)
    have hrest := ih fun other hother => h other (mem_cons_of_mem _ hother)
    unfold journalled at hrest ⊢
    rw [filterMap_cons, hclaim]
    simp only [htenant, and_self, if_true, map_cons, hrest]

theorem validateClaim_lease {batchSize : ℤ}
    (h : validateClaim workerId publisherName batchSize leaseSeconds = .ok ()) :
    0 < leaseSeconds := by
  unfold validateClaim at h
  obtain ⟨_, -, h⟩ := except_bind_ok.mp h
  obtain ⟨_, -, h⟩ := except_bind_ok.mp h
  split_ifs at h with hbatch hlease
  omega

/-- A batch of claims is a sequence of moves. -/
theorem claimEvents_moves {tenantId batchSize : ℤ} (hnow : w.clock ≤ step.now) :
    Run Move (Within w step) w (w.attempt step.now
      (claimEvents tenantId workerId publisherName batchSize leaseSeconds (locked ++ w.lockedIds)
        step.now) fun events _ => events.map .claimed) := by
  refine attempt_moves hnow fun events db h => ?_
  unfold claimEvents at h
  obtain ⟨_, hvalid, h⟩ := lift_bind_ok.mp h
  rw [gets_bind, gets_bind] at h
  obtain ⟨-, h⟩ := ensure_bind_ok.mp h
  rw [modify_bind, gets_bind] at h
  obtain ⟨_, db', hloop, h⟩ := bind_ok.mp h
  obtain ⟨-, h⟩ := ensure_bind_ok.mp h
  cases h
  generalize hids : candidates w.db.events.rows tenantId batchSize.toNat (locked ++ w.lockedIds)
    step.now = ids at hloop ⊢
  change loop _ (journalled tenantId workerId
    (claimedEvents w.db.events ids workerId leaseSeconds step.now)) () _ = _ at hloop
  change Run Move _ w { w with
    db, clock := step.now
    history := w.history ++
      (claimedEvents w.db.events ids workerId leaseSeconds step.now).map .claimed }
  have hrows : ∀ event ∈ claimedEvents w.db.events ids workerId leaseSeconds step.now,
      ∃ row ∈ w.db.events.rows, event = takeClaim workerId leaseSeconds step.now row ∧
        row.tenantId = tenantId ∧
        isClaimable w.db.events.rows row.tenantId step.now row = true ∧ row.id ∉ w.lockedIds := by
    intro event hevent
    obtain ⟨row, hrow, hid, rfl⟩ := mem_claimedEvents.mp hevent
    obtain ⟨other, hother, hsame, hclaimable, hunlocked⟩ := mem_candidates (hids ▸ hid)
    obtain rfl := w.db.events.eq_of_key_eq hother hrow hsame
    have htenant := tenant_of_isClaimable hclaimable
    refine ⟨other, hrow, rfl, htenant, htenant ▸ hclaimable, fun hlocked => hunlocked ?_⟩
    exact mem_append_right _ hlocked
  rw [journalled_claimed fun event hevent => by
    obtain ⟨row, -, rfl, htenant, -⟩ := hrows event hevent
    exact ⟨htenant, rfl⟩, loop_map] at hloop
  have hnodup : ([] ++ (claimedEvents w.db.events ids workerId leaseSeconds step.now).map
      OutboxEvent.id).Nodup :=
    (claimRows w.db.events ids workerId leaseSeconds step.now).nodup_selection _ _
  obtain ⟨attempts, rfl, hruns⟩ := claimedSoFar_moves (validateClaim_lease hvalid)
    (claimedEvents w.db.events ids workerId leaseSeconds step.now) w.db.attempts w.history hnodup
    (fun event hevent => by
      obtain ⟨row, hrow, hclaimed, -, hrest⟩ := hrows event hevent
      exact ⟨row, hrow, hclaimed, hrest⟩) hloop
  have hstart : Move w .other
      (claimedSoFar w step.now workerId leaseSeconds [] w.db.attempts w.history) := by
    have hsame : claimRows w.db.events [] workerId leaseSeconds step.now = w.db.events :=
      updateWhere_eq_self _ fun _ _ => rfl
    unfold claimedSoFar
    rw [hsame]
    exact .pass hnow
  rw [nil_append] at hruns
  unfold claimedSoFar at hruns
  rw [claimRows_claimedEvents] at hruns
  exact (otherMove hstart).trans hruns

end Claims

section Reports

variable {report : Report} {updatedAt : Timestamp} {event : Option OutboxEvent}

/-- The update of a report does not touch the journals. -/
theorem applyUpdate_journals (report : Report) (updatedAt : Timestamp) (event : Option OutboxEvent)
    (db : Outbox) : (report.applyUpdate updatedAt event db).attempts = db.attempts ∧
      (report.applyUpdate updatedAt event db).results = db.results := by
  unfold Report.applyUpdate
  split <;> exact ⟨rfl, rfl⟩

/-- A report that ends changes the matched event and the result journal. Without a
match the result may be there already or belong to another worker. -/
theorem finish_ok {answer : Bool} (h : report.finish updatedAt event now db = .ok (answer, db')) :
    answer = event.isSome ∧
      ((event = none ∧ db' = db) ∨ ∃ results, report.attempted db = true ∧
        db.results.insert? (report.resultRow event now) = some results ∧
        db' = { report.applyUpdate updatedAt event db with results }) := by
  obtain ⟨hattempts, hresults⟩ := applyUpdate_journals report updatedAt event db
  have hattempted : report.attempted (report.applyUpdate updatedAt event db) =
      report.attempted db := by
    unfold Report.attempted
    rw [hattempts]
  unfold Report.finish at h
  rw [modify_bind] at h
  obtain ⟨rows, mid, hrecord, h⟩ := bind_ok.mp h
  obtain ⟨hrows, h⟩ := ensure_bind_ok.mp h
  cases h
  refine ⟨rfl, ?_⟩
  unfold Report.recordDeliveryResult at hrecord
  rw [gets_bind, gets_bind, hattempted, hresults] at hrecord
  have hmissing : rows = 0 → event = none := by
    intro hzero
    by_contra hsome
    have hone := hrows (Option.isSome_iff_ne_none.mpr hsome)
    omega
  cases htrue : report.attempted db with
  | false =>
    rw [htrue] at hrecord
    cases hrecord
    obtain rfl := hmissing rfl
    exact .inl ⟨rfl, rfl⟩
  | true =>
    rw [htrue] at hrecord
    cases hinsert : db.results.insert? (report.resultRow event now) with
    | none =>
      rw [hinsert] at hrecord
      cases hrecord
      obtain rfl := hmissing rfl
      exact .inl ⟨rfl, rfl⟩
    | some results =>
      rw [hinsert] at hrecord
      cases hrecord
      exact .inr ⟨results, rfl, rfl, rfl⟩

variable {answer : Bool}

theorem reportHappens_none (h : entry.matched = none) : reportHappens entry answer db = [] := by
  unfold reportHappens
  rw [h]
  cases entry.report.failure <;> rfl

/-- The end of a report is a move. -/
theorem endReport_moves (hnow : w.clock ≤ step.now) (hentry : entry ∈ w.pending) :
    Run Move (Within w step) w
      { w.attempt step.now (entry.report.finish entry.updatedAt entry.matched step.now)
          (reportHappens entry) with pending := w.without entry.report } := by
  unfold World.attempt
  split
  · next answer db heq =>
    obtain ⟨-, ⟨hnone, rfl⟩ | ⟨results, hattempted, hinsert, rfl⟩⟩ := finish_ok heq
    · rw [reportHappens_none hnone, append_nil]
      have hwithin : Within w step w (.lose entry.report) :=
        ⟨rfl, .inr ⟨entry, hentry, rfl, .inl hnone⟩⟩
      exact Run.single hwithin (.loseReport hnow)
    · cases hmatched : entry.matched with
      | none =>
        rw [hmatched] at hinsert
        rw [reportHappens_none hmatched, append_nil]
        exact otherMove (.loseClaim hnow hentry hmatched hattempted hinsert)
      | some =>
        rw [hmatched] at hinsert
        exact otherMove (.settle hnow hentry hmatched hattempted hinsert)
  · next halt heq =>
    have hwithin : Within w step w (.lose entry.report) :=
      ⟨rfl, .inr ⟨entry, hentry, rfl, .inr ⟨halt, heq⟩⟩⟩
    exact Run.single hwithin (.loseReport hnow)

end Reports

section DeadLetters

variable {tenantId eventId userId expectedReplayCount : ℤ} {event : OutboxEvent}

/-- The event that a dead-letter operation finds. -/
theorem deadLetter_found
    (h : db.events.rows.find? (isDeadLetter tenantId eventId expectedReplayCount) = some event) :
    event ∈ db.events.rows ∧ event.id = eventId ∧
      isDeadLetter event.tenantId event.id event.replayCount event = true := by
  have hfound := find?_some h
  have hsame : event.tenantId = tenantId ∧ event.id = eventId ∧
      event.replayCount = expectedReplayCount := by
    simp only [isDeadLetter, Bool.and_eq_true, beq_iff_eq] at hfound
    exact ⟨hfound.1.1.1.1.1.1.1, hfound.1.1.1.1.1.1.2, hfound.1.1.1.1.1.2⟩
  obtain ⟨rfl, rfl, rfl⟩ := hsame
  exact ⟨mem_of_find?_eq_some h, rfl, hfound⟩

/-- An update of one row by its identity. -/
theorem rewriteEvent_of_updateOne {events events' : KeyedTable OutboxEvent.id}
    {guard : OutboxEvent → Bool} (h : events.updateOne? eventId guard rewrite hid = some events') :
    events' = rewriteEvent events eventId rewrite hid := by
  obtain ⟨_, -, -, hrows⟩ := updateOne?_eq_some h
  apply eq_of_rows
  rw [hrows]
  simp only [rewriteEvent, updateWhere_rows, decide_eq_true_eq]

/-- The rewritten event is found under its identity. -/
theorem find?_rewriteEvent (hevent : event ∈ events.rows) :
    (rewriteEvent events event.id rewrite hid).find? event.id = some (rewrite event) :=
  (find?_updateWhere_key (find?_of_mem hevent) event.id).trans
    (if_pos rfl)

/-- A replay is a move. -/
theorem replayDeadLetter_moves (hnow : w.clock ≤ step.now) :
    Run Move (Within w step) w (w.attempt step.now
      (replayDeadLetter tenantId eventId userId expectedReplayCount step.now)
      (deadLetterHappens .replayed eventId)) := by
  refine attempt_moves hnow fun done db h => ?_
  unfold replayDeadLetter at h
  obtain ⟨_, -, h⟩ := lift_bind_ok.mp h
  rw [gets_bind] at h
  cases hfind : w.db.events.rows.find? (isDeadLetter tenantId eventId expectedReplayCount) with
  | none =>
    rw [hfind] at h
    cases h
    simp only [deadLetterHappens, Bool.false_eq_true, if_false, append_nil]
    exact otherMove (.pass hnow)
  | some =>
    rw [hfind] at h
    obtain ⟨hevent, rfl, hdead⟩ := deadLetter_found hfind
    obtain ⟨-, h⟩ := ensure_bind_ok.mp h
    obtain ⟨-, h⟩ := ensure_bind_ok.mp h
    rw [gets_bind] at h
    obtain ⟨-, h⟩ := ensure_bind_ok.mp h
    rw [gets_bind] at h
    obtain ⟨replays, -, h⟩ := orFail_bind_ok.mp h
    rw [modify_bind, gets_bind] at h
    obtain ⟨events, hupdate, h⟩ := orFail_bind_ok.mp h
    rw [modify_bind] at h
    cases h
    obtain rfl := rewriteEvent_of_updateOne hupdate
    simp only [deadLetterHappens, if_true, find?_rewriteEvent hevent, Option.toList_some,
      map_singleton]
    exact otherMove (.replay hnow hevent hdead)

/-- A discard is a move. -/
theorem discardDeadLetter_moves {reason : String} (hnow : w.clock ≤ step.now) :
    Run Move (Within w step) w (w.attempt step.now
      (discardDeadLetter tenantId eventId userId expectedReplayCount reason step.now)
      (deadLetterHappens .discarded eventId)) := by
  refine attempt_moves hnow fun done db h => ?_
  unfold discardDeadLetter at h
  obtain ⟨_, -, h⟩ := lift_bind_ok.mp h
  obtain ⟨_, -, h⟩ := lift_bind_ok.mp h
  rw [gets_bind] at h
  cases hfind : w.db.events.rows.find? (isDeadLetter tenantId eventId expectedReplayCount) with
  | none =>
    rw [hfind] at h
    cases h
    simp only [deadLetterHappens, Bool.false_eq_true, if_false, append_nil]
    exact otherMove (.pass hnow)
  | some =>
    rw [hfind] at h
    obtain ⟨hevent, rfl, hdead⟩ := deadLetter_found hfind
    obtain ⟨-, h⟩ := ensure_bind_ok.mp h
    rw [gets_bind] at h
    obtain ⟨-, h⟩ := ensure_bind_ok.mp h
    rw [gets_bind] at h
    obtain ⟨discards, -, h⟩ := orFail_bind_ok.mp h
    rw [modify_bind, gets_bind] at h
    obtain ⟨events, hupdate, h⟩ := orFail_bind_ok.mp h
    rw [modify_bind] at h
    cases h
    obtain rfl := rewriteEvent_of_updateOne hupdate
    simp only [deadLetterHappens, if_true, find?_rewriteEvent hevent, Option.toList_some,
      map_singleton]
    exact otherMove (.discard hnow hevent hdead)

end DeadLetters

theorem isSettled_of_settledAt {event : OutboxEvent} (h : (settledAt event).isSome = true) :
    event.isSettled = true := by
  unfold settledAt at h
  unfold OutboxEvent.isSettled
  cases hpublished : event.publishedAt with
  | some => rfl
  | none =>
    rw [hpublished] at h
    simpa using h

/-- A purge is a move. -/
theorem purgePublished_moves {tenantId retentionSeconds batchSize : ℤ} {locked : List ℤ}
    (hnow : w.clock ≤ step.now) :
    Run Move (Within w step) w (w.attempt step.now
      (purgePublished tenantId retentionSeconds batchSize locked step.now) fun _ _ => []) := by
  refine attempt_moves hnow fun count db h => ?_
  unfold purgePublished at h
  obtain ⟨-, h⟩ := ensure_bind_ok.mp h
  obtain ⟨-, h⟩ := ensure_bind_ok.mp h
  obtain ⟨-, h⟩ := ensure_bind_ok.mp h
  rw [gets_bind, gets_bind, modify_bind] at h
  cases h
  rw [append_nil]
  refine otherMove (.purge hnow fun row hrow hselected => ?_)
  have hid := (Bool.and_eq_true_iff.mp hselected).2
  unfold expired at hid
  rw [contains_iff_mem, mem_map] at hid
  obtain ⟨other, hother, hsame⟩ := hid
  have hother := (List.mem_filter.mp (mem_of_mem_take hother)).1
  rw [mem_insertionSort, mem_filter] at hother
  obtain rfl := w.db.events.eq_of_key_eq hother.1 hrow hsame
  have hinstant := (Bool.and_eq_true_iff.mp hother.2).2
  refine isSettled_of_settledAt ?_
  cases hsettled : settledAt other with
  | none => simp [hsettled] at hinstant
  | some => rfl

theorem next_moves (h : Allowed w step) : Run Move (Within w step) w (w.next step) := by
  obtain ⟨hnow, hmay⟩ := h
  unfold World.next
  cases haction : step.action with
  | enqueue => exact enqueue_moves hnow
  | claimEvents => exact claimEvents_moves hnow
  | beginReport report =>
    rw [haction] at hmay
    dsimp only
    split
    · next matched _ hmatched =>
      have hwithin : Within w step w (.begin report) := haction
      exact Run.single hwithin (.beginReport hnow hmay hmatched)
    · exact otherMove (.pass hnow)
  | endReport report =>
    dsimp only
    split
    · next entry hfind =>
      have hsame : entry.report = report := by simpa using find?_some hfind
      subst hsame
      exact endReport_moves hnow (mem_of_find?_eq_some hfind)
    · exact otherMove (.pass hnow)
  | loseReport report =>
    have hwithin : Within w step w (.lose report) := ⟨rfl, .inl haction⟩
    exact Run.single hwithin (.loseReport hnow)
  | replayDeadLetter => exact replayDeadLetter_moves hnow
  | discardDeadLetter => exact discardDeadLetter_moves hnow
  | purgePublished => exact purgePublished_moves hnow
  | changeMemberships => exact otherMove (.pass hnow)

end Steps

section Locks

variable {w w' : World} {label : Label} {event : OutboxEvent} {report : Report}
  {tenantId id replayCount : ℤ}

/-- The event of a report that holds its claim. -/
theorem holdsClaim_iff {now : Timestamp} :
    report.holdsClaim now event = true ↔
      event.tenantId = report.tenantId ∧ event.id = report.eventId ∧
        (∃ claim, event.claim = some claim ∧ claim.claimedBy = report.workerId ∧
          now < claim.leaseExpiresAt) ∧
        event.claimVersion = report.claimVersion ∧ event.deadLetteredAt = none ∧
        event.discard = none ∧ event.publishedAt = none := by
  unfold Report.holdsClaim
  simp only [Bool.and_eq_true, beq_iff_eq, Option.any_eq_true, decide_eq_true_eq,
    Option.isNone_iff_eq_none]
  tauto

/-- A report that holds a claim is about it. -/
theorem claimOf_eq_of_holdsClaim {first second : Report} {now later : Timestamp}
    (hfirst : first.holdsClaim now event = true) (hsecond : second.holdsClaim later event = true) :
    claimOf first = claimOf second := by
  obtain ⟨ht, hi, ⟨claim, hc, hw, -⟩, hv, -⟩ := holdsClaim_iff.mp hfirst
  obtain ⟨ht', hi', ⟨claim', hc', hw', -⟩, hv', -⟩ := holdsClaim_iff.mp hsecond
  rw [hc] at hc'
  cases hc'
  unfold claimOf
  rw [← ht, ← hi, ← hw, ← hv, ht', hi', hw', hv']

/-- What keeps the open reports apart: each matched row is still there, and no two
reports are about one claim. -/
structure Locked (w : World) : Prop where
  /-- A matched row is stored as it was, with the claim that the report holds. -/
  held : ∀ entry ∈ w.pending, ∀ event, entry.matched = some event →
    event ∈ w.db.events.rows ∧ entry.report.holdsClaim entry.updatedAt event = true
  /-- No two open reports are about one claim. -/
  apart : (w.pending.map fun entry => claimOf entry.report).Nodup

theorem locked_initial : Locked World.initial := by
  constructor
  · intro entry hentry
    cases hentry
  · exact nodup_nil

theorem Locked.mem_lockedIds (h : Locked w) (hentry : entry ∈ w.pending)
    (hmatched : entry.matched = some event) : event.id ∈ w.lockedIds := by
  have hid := (holdsClaim_iff.mp (h.held entry hentry event hmatched).2).2.1
  rw [hid]
  refine List.mem_map.mpr ⟨entry, List.mem_filter.mpr ⟨hentry, ?_⟩, rfl⟩
  rw [hmatched]
  rfl

theorem Locked.apart_without (h : Locked w) (report : Report) :
    ((w.without report).map fun entry => claimOf entry.report).Nodup :=
  h.apart.sublist (List.filter_sublist.map _)

theorem mem_without : entry ∈ w.without report ↔ entry ∈ w.pending ∧ entry.report ≠ report := by
  unfold World.without
  rw [mem_filter, decide_eq_true_eq]

/-- The row that an open report matched is not the one that another open report matched. -/
theorem Locked.id_ne (h : Locked w) {first second : OpenReport} (hfirst : first ∈ w.pending)
    (hsecond : second ∈ w.pending) (hne : first.report ≠ second.report)
    {event other : OutboxEvent} (hevent : first.matched = some event)
    (hother : second.matched = some other) : event.id ≠ other.id := by
  intro hid
  obtain ⟨hstored, hholds⟩ := h.held first hfirst event hevent
  obtain ⟨hstored', hholds'⟩ := h.held second hsecond other hother
  obtain rfl := w.db.events.eq_of_key_eq hstored hstored' hid
  have hsame := inj_on_of_nodup_map h.apart hfirst hsecond
    (claimOf_eq_of_holdsClaim hholds hholds')
  exact hne (congrArg OpenReport.report hsame)

/-- The rows that are not rewritten stay. -/
theorem mem_rewriteEvent_of_ne {id : ℤ} (hid : ∀ row, (rewrite row).id = row.id)
    {row : OutboxEvent} (hrow : row ∈ events.rows) (hne : row.id ≠ id) :
    row ∈ (rewriteEvent events id rewrite hid).rows :=
  mem_rewriteEvent.mpr ⟨row, hrow, (if_neg hne).symm⟩

theorem claim_of_isDeadLetter (h : isDeadLetter tenantId id replayCount event = true) :
    event.claim = none := by
  simp only [isDeadLetter, Bool.and_eq_true, Option.isNone_iff_eq_none] at h
  exact h.2

/-- The row that an open report matched is claimed, so it is no dead letter. -/
theorem Locked.id_ne_dead (h : Locked w) (hentry : entry ∈ w.pending) {event row : OutboxEvent}
    (hrow : entry.matched = some row) (hevent : event ∈ w.db.events.rows)
    (hdead : isDeadLetter tenantId id replayCount event = true) : row.id ≠ event.id := by
  intro hid
  obtain ⟨hstored, hholds⟩ := h.held entry hentry row hrow
  obtain rfl := w.db.events.eq_of_key_eq hstored hevent hid
  obtain ⟨-, -, ⟨claim, hclaim, -⟩, -⟩ := holdsClaim_iff.mp hholds
  rw [claim_of_isDeadLetter hdead] at hclaim
  cases hclaim

theorem Move.locked (h : Move w label w') (hw : Locked w) : Locked w' := by
  cases h with
  | pass => exact ⟨hw.held, hw.apart⟩
  | enqueue hnow hpositive hnext hsequences hinsert =>
    refine ⟨fun entry hentry event hmatched => ?_, hw.apart⟩
    obtain ⟨hstored, hholds⟩ := hw.held entry hentry event hmatched
    exact ⟨(mem_insert hinsert).mpr (.inl hstored), hholds⟩
  | @claim _ event _ _ _ _ hnow hevent hclaimable hunlocked hlease hinsert =>
    refine ⟨fun entry hentry row hmatched => ?_, hw.apart⟩
    obtain ⟨hstored, hholds⟩ := hw.held entry hentry row hmatched
    refine ⟨mem_rewriteEvent_of_ne (takeClaim_id _ _ _) hstored fun hid => hunlocked ?_, hholds⟩
    exact hid ▸ hw.mem_lockedIds hentry hmatched
  | @beginReport now report matched hnow hmay hmatched =>
    constructor
    · intro entry hentry event hevent
      rcases List.mem_append.mp hentry with hentry | hentry
      · exact hw.held entry hentry event hevent
      · obtain rfl := List.mem_singleton.mp hentry
        subst hevent
        unfold Report.matched at hmatched
        split at hmatched
        · cases hmatched
        · next found hfind =>
          split_ifs at hmatched
          cases hmatched
          exact ⟨mem_of_find?_eq_some hfind, find?_some hfind⟩
    · simp only [map_append, map_singleton]
      refine List.nodup_append.mpr ⟨hw.apart, nodup_singleton _, ?_⟩
      intro claim hclaim other hother
      obtain ⟨entry, hentry, rfl⟩ := List.mem_map.mp hclaim
      rw [mem_singleton] at hother
      exact hother ▸ hmay.2 entry hentry
  | loseReport | loseClaim _ hentry =>
    refine ⟨fun entry hentry => hw.held entry (mem_without.mp hentry).1, hw.apart_without _⟩
  | @settle _ closing event _ hnow hclosing hmatched hattempted hinsert =>
    refine ⟨fun entry hentry row hrow => ?_, hw.apart_without _⟩
    obtain ⟨hentry, hne⟩ := mem_without.mp hentry
    obtain ⟨hstored, hholds⟩ := hw.held entry hentry row hrow
    have hid := (holdsClaim_iff.mp (hw.held closing hclosing event hmatched).2).2.1
    refine ⟨mem_rewriteEvent_of_ne (closing.report.settle_id _) hstored ?_, hholds⟩
    rw [← hid]
    exact hw.id_ne hentry hclosing hne hrow hmatched
  | @replay _ event _ hnow hevent hdead =>
    refine ⟨fun entry hentry row hrow => ?_, hw.apart⟩
    obtain ⟨hstored, hholds⟩ := hw.held entry hentry row hrow
    refine ⟨mem_rewriteEvent_of_ne (replayed_id _) hstored ?_, hholds⟩
    exact hw.id_ne_dead hentry hrow hevent hdead
  | @discard _ event _ _ _ hnow hevent hdead =>
    refine ⟨fun entry hentry row hrow => ?_, hw.apart⟩
    obtain ⟨hstored, hholds⟩ := hw.held entry hentry row hrow
    refine ⟨mem_rewriteEvent_of_ne (discarded_id _ _ _) hstored ?_, hholds⟩
    exact hw.id_ne_dead hentry hrow hevent hdead
  | @purge _ selects hnow hsettled =>
    refine ⟨fun entry hentry row hrow => ?_, hw.apart⟩
    obtain ⟨hstored, hholds⟩ := hw.held entry hentry row hrow
    obtain ⟨-, -, -, -, -, hdiscard, hpublished⟩ := holdsClaim_iff.mp hholds
    refine ⟨KeyedTable.mem_deleteWhere.mpr ⟨hstored, ?_⟩, hholds⟩
    by_contra hselected
    have hsettled := hsettled row hstored (by simpa using hselected)
    simp [OutboxEvent.isSettled, hdiscard, hpublished] at hsettled

end Locks

end Wareboxes.OutboxMoves
