import Wareboxes.OutboxOrdering

/-!
# Fencing and the delivery journal

Each claim raises the version of its event and is journalled once. While an
event is claimed, its journal has no result for the claim until the lease has
lapsed, so a worker that still holds its claim always finds room for its
result. A worker whose claim was superseded changes no event.
-/

namespace Wareboxes.OutboxJournal

open KeyedTables Transactions Transaction OutboxTables OutboxOperations OutboxRuns OutboxMoves
open OutboxEventLife OutboxOrdering LabelledRuns KeyedTable World

variable {w w' : World} {label : Label} {now : Timestamp} {event event' : OutboxEvent}
  {happenings : List Happening}

/-- A change is a claim, or it leaves the event without a claim at its version. -/
theorem claim_or_release (h : EventChange w now label event event' happenings) :
    (∃ workerId leaseSeconds, event' = takeClaim workerId leaseSeconds now event ∧
      isClaimable w.db.events.rows event.tenantId now event = true ∧
      happenings = [.claimed event']) ∨
    (event'.claimVersion = event.claimVersion ∧ event'.claim = none ∧
      ∀ other, .claimed other ∉ happenings) := by
  cases h with
  | @claim _ workerId leaseSeconds hclaimable =>
    exact .inl ⟨workerId, leaseSeconds, rfl, hclaimable, rfl⟩
  | publish hentry hholds hfailure =>
    rw [settle_published hfailure]
    exact .inr ⟨rfl, rfl, fun other => by simp⟩
  | fail hentry hholds hfailure =>
    obtain ⟨hclaim, -, -, hversion, -⟩ := settle_failed hfailure _ event
    exact .inr ⟨hversion, hclaim, fun other => by simp⟩
  | replay => exact .inr ⟨rfl, rfl, fun other => by simp⟩
  | discard hdead =>
    obtain ⟨-, -, -, -, -, -, -, hclaim⟩ := isDeadLetter_iff.mp hdead
    exact .inr ⟨rfl, hclaim, fun other => by simp⟩

/-- A claim is justified when it raises the version of its event. -/
def RaisesVersion (history : List Happening) : Happening → Prop
  | .claimed event => ∀ earlier : OutboxEvent, .claimed earlier ∈ history → earlier.id = event.id →
      earlier.claimVersion < event.claimVersion
  | .published event =>
    ∀ earlier : OutboxEvent, .published earlier ∈ history → earlier.id ≠ event.id
  | _ => True

/-- What the history knows of the claims and publications of the stored events. -/
structure Known (w : World) : Prop where
  /-- Identities were given out. -/
  stored : ∀ row ∈ w.db.events.rows, row.id ≤ w.db.lastId
  /-- A claimed row is one to publish. -/
  waits : ∀ row ∈ w.db.events.rows, row.claim.isSome = true →
    row.deadLetteredAt = none ∧ row.discard = none ∧ row.publishedAt = none
  /-- Its claim is in the history. -/
  current : ∀ row ∈ w.db.events.rows, row.claim.isSome = true → ∃ event : OutboxEvent,
    .claimed event ∈ w.history ∧ event.tenantId = row.tenantId ∧ event.id = row.id ∧
      event.claimVersion = row.claimVersion ∧ event.claim = row.claim
  /-- A claim that was made has a version that the event reached, and is the present
  one when the event is still claimed at that version. -/
  past : ∀ event : OutboxEvent, .claimed event ∈ w.history →
    event.id ≤ w.db.lastId ∧ event.claim.isSome = true ∧
      ∀ row ∈ w.db.events.rows, row.id = event.id → row.tenantId = event.tenantId ∧
        event.claimVersion ≤ row.claimVersion ∧
        (row.claimVersion = event.claimVersion → row.claim.isSome = true → row.claim = event.claim)
  /-- A published event is settled. -/
  published : ∀ event : OutboxEvent, .published event ∈ w.history →
    event.id ≤ w.db.lastId ∧ ∀ row ∈ w.db.events.rows, row.id = event.id → row.isSettled = true
  /-- Versions are raised, and nothing is published twice. -/
  raised : Justified RaisesVersion w.history

theorem known_initial : Known initial where
  stored _ h := by cases h
  waits _ h := by cases h
  current _ h := by cases h
  past _ h := by cases h
  published _ h := by cases h
  raised := justified_nil

variable {leaseSeconds : ℤ} {workerId : String} {report : Report} {row : OutboxEvent}
  {matched : Option OutboxEvent} {results : KeyedTable ResultRow.key} {closing : OpenReport}
  {entry : OpenReport}

section

variable (hw : Known w) (hevent : event ∈ w.db.events.rows)
include hw hevent

/-- A history that grows by a claim of a stored event. -/
theorem Known.raised_claim :
    Justified RaisesVersion
      (w.history ++ [.claimed (takeClaim workerId leaseSeconds now event)]) := by
  refine hw.raised.concat fun earlier hearlier hid => ?_
  obtain ⟨-, -, hrows⟩ := hw.past earlier hearlier
  obtain ⟨-, _, -⟩ := hrows event hevent hid.symm
  change earlier.claimVersion < event.claimVersion + 1
  omega

section

variable (hchange : EventChange w now label event event' happenings)
include hchange

theorem Known.raised_change : Justified RaisesVersion (w.history ++ happenings) := by
  have hunsettled := hchange.unsettled
  have hid := hchange.envelope.2
  cases hchange with
  | claim => exact hw.raised_claim hevent
  | publish =>
    refine hw.raised.concat fun earlier hearlier hsame => ?_
    rw [hid] at hsame
    have hsettled := (hw.published earlier hearlier).2 event hevent hsame.symm
    rw [hunsettled] at hsettled
    cases hsettled
  | fail => rw [List.append_nil]; exact hw.raised
  | replay | discard => exact hw.raised.concat trivial

/-- A change of one event keeps what the history knows. -/
theorem Known.change (hrows : ∀ row, row ∈ w'.db.events.rows ↔
      row = event' ∨ row ∈ w.db.events.rows ∧ row.id ≠ event.id)
    (hhistory : w'.history = w.history ++ happenings) (hlastId : w'.db.lastId = w.db.lastId) :
    Known w' := by
  obtain ⟨henvelope, hid⟩ := hchange.envelope
  have htenant : event'.tenantId = event.tenantId := by rw [henvelope]
  have hunsettled : ¬event.isSettled = true := ne_true_of_eq_false hchange.unsettled
  have hclaims := claim_or_release hchange
  constructor
  · intro row hrow
    rw [hlastId]
    rcases (hrows row).mp hrow with rfl | ⟨hrow, -⟩
    · rw [hid]
      exact hw.stored event hevent
    · exact hw.stored row hrow
  · intro row hrow hclaim
    rcases (hrows row).mp hrow with rfl | ⟨hrow, -⟩
    · rcases hclaims with ⟨workerId, leaseSeconds, rfl, hclaimable, -⟩ | ⟨-, hnone, -⟩
      · obtain ⟨-, hpublished, hdead, hdiscard, -⟩ := isDue_iff.mp (isDue_of_isClaimable hclaimable)
        exact ⟨hdead, hdiscard, hpublished⟩
      · rw [hnone] at hclaim
        cases hclaim
    · exact hw.waits row hrow hclaim
  · intro row hrow hclaim
    rw [hhistory]
    rcases (hrows row).mp hrow with rfl | ⟨hrow, -⟩
    · rcases hclaims with ⟨workerId, leaseSeconds, -, -, rfl⟩ | ⟨-, hnone, -⟩
      · exact ⟨row, by simp, rfl, rfl, rfl, rfl⟩
      · rw [hnone] at hclaim
        cases hclaim
    · obtain ⟨other, hother, hsame⟩ := hw.current row hrow hclaim
      exact ⟨other, List.mem_append_left _ hother, hsame⟩
  · intro other hother
    rw [hhistory] at hother
    rw [hlastId]
    rcases List.mem_append.mp hother with hold | hnew
    · obtain ⟨hgiven, hsome, hpast⟩ := hw.past other hold
      refine ⟨hgiven, hsome, fun row hrow hsame => ?_⟩
      rcases (hrows row).mp hrow with rfl | ⟨hrow, -⟩
      · rw [hid] at hsame
        obtain ⟨hotherTenant, hversion, -⟩ := hpast event hevent hsame
        refine ⟨htenant.trans hotherTenant, ?_⟩
        rcases hclaims with ⟨workerId, leaseSeconds, rfl, -, -⟩ | ⟨hkeep, hnone, -⟩
        · change _ ≤ event.claimVersion + 1 ∧ (event.claimVersion + 1 = _ → _)
          exact ⟨by omega, fun heq => absurd heq (by omega)⟩
        · rw [hkeep, hnone]
          exact ⟨hversion, fun _ hclaim => absurd hclaim Bool.false_ne_true⟩
      · exact hpast row hrow hsame
    · rcases hclaims with ⟨workerId, leaseSeconds, heq, -, rfl⟩ | ⟨-, -, hnone⟩
      · obtain ⟨rfl⟩ := List.mem_singleton.mp hnew
        refine ⟨by rw [hid]; exact hw.stored event hevent, by rw [heq]; rfl,
          fun row hrow hsame => ?_⟩
        rcases (hrows row).mp hrow with rfl | ⟨hrow, hne⟩
        · exact ⟨rfl, le_refl _, fun _ _ => rfl⟩
        · exact absurd (hsame.trans hid) hne
      · exact absurd hnew (hnone other)
  · intro other hother
    rw [hhistory] at hother
    rw [hlastId]
    rcases List.mem_append.mp hother with hold | hnew
    · obtain ⟨hgiven, hsettled⟩ := hw.published other hold
      refine ⟨hgiven, fun row hrow hsame => ?_⟩
      rcases (hrows row).mp hrow with rfl | ⟨hrow, -⟩
      · exact absurd (hsettled event hevent (hid.symm.trans hsame)) hunsettled
      · exact hsettled row hrow hsame
    · obtain ⟨rfl, -, hsettled⟩ := hchange.published hnew
      refine ⟨by rw [hid]; exact hw.stored event hevent, fun row hrow hsame => ?_⟩
      rcases (hrows row).mp hrow with rfl | ⟨hrow, hne⟩
      · exact hsettled
      · exact absurd (hsame.trans hid) hne
  · rw [hhistory]
    exact hw.raised_change hevent hchange

end

end

theorem known_of_move (h : Move w label w') (hlocked : Locked w) (hw : Known w) : Known w' := by
  obtain ⟨-, hshape⟩ := shape_of_move h hlocked
  cases hshape with
  | shrink hsub hkept hhistory hsequences hlastId =>
    constructor
    · intro row hrow
      rw [hlastId]
      exact hw.stored row (hsub row hrow)
    · exact fun row hrow => hw.waits row (hsub row hrow)
    · rw [hhistory]
      exact fun row hrow => hw.current row (hsub row hrow)
    · rw [hhistory, hlastId]
      intro event hevent
      obtain ⟨hgiven, hsome, hpast⟩ := hw.past event hevent
      exact ⟨hgiven, hsome, fun row hrow => hpast row (hsub row hrow)⟩
    · rw [hhistory, hlastId]
      intro event hevent
      obtain ⟨hgiven, hsettled⟩ := hw.published event hevent
      exact ⟨hgiven, fun row hrow => hsettled row (hsub row hrow)⟩
    · rw [hhistory]
      exact hw.raised
  | @insert _ event hpositive hnext hsequences hrows hhistory hlastId =>
    constructor
    · intro row hrow
      rw [hlastId]
      rcases (hrows row).mp hrow with hrow | rfl
      · have hid := hw.stored row hrow
        omega
      · exact le_refl _
    · intro row hrow hclaim
      rcases (hrows row).mp hrow with hrow | rfl
      · exact hw.waits row hrow hclaim
      · cases hclaim
    · intro row hrow hclaim
      rw [hhistory]
      rcases (hrows row).mp hrow with hrow | rfl
      · obtain ⟨other, hother, hsame⟩ := hw.current row hrow hclaim
        exact ⟨other, List.mem_append_left _ hother, hsame⟩
      · cases hclaim
    · intro other hother
      rw [hhistory] at hother
      have hold : .claimed other ∈ w.history := by simpa using hother
      obtain ⟨hgiven, hsome, hpast⟩ := hw.past other hold
      refine ⟨by omega, hsome, fun row hrow hsame => ?_⟩
      rcases (hrows row).mp hrow with hrow | rfl
      · exact hpast row hrow hsame
      · change w.db.lastId + 1 = other.id at hsame
        omega
    · intro other hother
      rw [hhistory] at hother
      have hold : .published other ∈ w.history := by simpa using hother
      obtain ⟨_, hsettled⟩ := hw.published other hold
      refine ⟨by omega, fun row hrow hsame => ?_⟩
      rcases (hrows row).mp hrow with hrow | rfl
      · exact hsettled row hrow hsame
      · change w.db.lastId + 1 = other.id at hsame
        omega
    · rw [hhistory]
      exact hw.raised.concat trivial
  | change hevent hchange hrows hhistory hsequences hlastId =>
    exact hw.change hevent hchange hrows hhistory hlastId

/-- The key of the journal row of a claimed event. -/
def journalKey (event : OutboxEvent) : ℤ × ℤ × ℤ := (event.tenantId, event.id, event.claimVersion)

/-- The key of the journal rows that a report is about. -/
def reportKey (report : Report) : ℤ × ℤ × ℤ :=
  (report.tenantId, report.eventId, report.claimVersion)

/-- Claims and journalled attempts correspond. -/
structure Attempted (w : World) : Prop where
  /-- Every claim has an attempt. -/
  journalled : ∀ event : OutboxEvent, .claimed event ∈ w.history →
    ∃ attempt ∈ w.db.attempts.rows, attempt.key = journalKey event ∧
      event.claim.map Claim.claimedBy = some attempt.workerId
  /-- Every attempt has a claim. -/
  claimed : ∀ attempt ∈ w.db.attempts.rows, ∃ event : OutboxEvent, .claimed event ∈ w.history ∧
    attempt.key = journalKey event

variable {answer : Bool} {db : Outbox}

theorem claimed_notMem_reportHappens : .claimed event ∉ reportHappens entry answer db := by
  unfold reportHappens
  split <;> simp

theorem attempted_initial : Attempted initial where
  journalled _ h := by cases h
  claimed _ h := by cases h

theorem Attempted.same (hw : Attempted w) (hattempts : w'.db.attempts = w.db.attempts)
    (hclaims : ∀ event : OutboxEvent, .claimed event ∈ w'.history ↔ .claimed event ∈ w.history) :
    Attempted w' := by
  constructor
  · intro event hevent
    rw [hattempts]
    exact hw.journalled event ((hclaims event).mp hevent)
  · intro attempt hattempt
    rw [hattempts] at hattempt
    obtain ⟨event, hevent, hkey⟩ := hw.claimed attempt hattempt
    exact ⟨event, (hclaims event).mpr hevent, hkey⟩

theorem attempted_of_move (h : Move w label w') (hw : Attempted w) : Attempted w' := by
  cases h with
  | @claim now event workerId publisherName leaseSeconds attempts hnow hevent hclaimable hunlocked
      hlease hinsert =>
    constructor
    · intro other hother
      rcases List.mem_append.mp hother with hold | hnew
      · obtain ⟨attempt, hattempt, hkey⟩ := hw.journalled other hold
        exact ⟨attempt, (mem_insert hinsert).mpr (.inl hattempt), hkey⟩
      · obtain ⟨rfl⟩ := List.mem_singleton.mp hnew
        exact ⟨_, (mem_insert hinsert).mpr (.inr rfl), rfl, rfl⟩
    · intro attempt hattempt
      rcases (mem_insert hinsert).mp hattempt with hold | rfl
      · obtain ⟨other, hother, hkey⟩ := hw.claimed attempt hold
        exact ⟨other, List.mem_append_left _ hother, hkey⟩
      · exact ⟨_, List.mem_append_right _ (List.mem_singleton.mpr rfl), rfl⟩
  | settle =>
    refine hw.same rfl fun event => ?_
    simp only [List.mem_append, claimed_notMem_reportHappens, or_false]
  | pass | beginReport | loseReport | loseClaim | purge => exact hw.same rfl fun _ => Iff.rfl
  | enqueue | replay | discard => exact hw.same rfl fun _ => by simp

/-- The claim that a report is about. -/
theorem claim_of_granted (h : w.history.any (isClaimOf report) = true) :
    ∃ event : OutboxEvent, .claimed event ∈ w.history ∧ journalKey event = reportKey report ∧
      event.claim.map Claim.claimedBy = some report.workerId := by
  obtain ⟨happening, hmem, hclaim⟩ := List.any_eq_true.mp h
  cases happening with
  | claimed event =>
    simp only [isClaimOf, Bool.and_eq_true, beq_iff_eq, Option.any_eq_true] at hclaim
    obtain ⟨⟨⟨htenant, hid⟩, hversion⟩, claim, hsome, hworker⟩ := hclaim
    refine ⟨event, hmem, ?_, ?_⟩
    · unfold journalKey reportKey
      rw [htenant, hid, hversion]
    · rw [hsome, Option.map_some, hworker]
  | enqueued | published | replayed | discarded => cases hclaim

/-- A journalled attempt belongs to the worker that claimed. -/
theorem Attempted.worker (hw : Attempted w) (hevent : .claimed event ∈ w.history)
    {attempt : AttemptRow} (hfind : w.db.attempts.find? (journalKey event) = some attempt) :
    event.claim.map Claim.claimedBy = some attempt.workerId := by
  obtain ⟨other, hother, hkey, hworker⟩ := hw.journalled event hevent
  obtain rfl := eq_of_find? hfind hother hkey
  exact hworker

theorem Attempted.attempted (hw : Attempted w) (h : w.history.any (isClaimOf report) = true) :
    report.attempted w.db = true := by
  obtain ⟨event, hevent, hkey, hworker⟩ := claim_of_granted h
  obtain ⟨attempt, hattempt, hattemptKey, hattemptWorker⟩ := hw.journalled event hevent
  have hfind : w.db.attempts.find? (reportKey report) = some attempt := by
    rw [← hkey, ← hattemptKey]
    exact find?_of_mem hattempt
  have hsame : attempt.workerId = report.workerId := by
    rw [hworker] at hattemptWorker
    exact (Option.some.inj hattemptWorker).symm
  unfold Report.attempted
  change (w.db.attempts.find? (reportKey report)).any _ = true
  rw [hfind]
  simpa using hsame

/-- What holds of the result journal in every state. -/
structure Recorded (w : World) : Prop where
  /-- Open reports are about claims that were made. -/
  granted : ∀ entry ∈ w.pending, w.history.any (isClaimOf entry.report) = true
  /-- Every result is of a claim. -/
  backed : ∀ result ∈ w.db.results.rows, ∃ event : OutboxEvent, .claimed event ∈ w.history ∧
    result.key = journalKey event
  /-- A claim with a result has run out. -/
  lapsed : ∀ row ∈ w.db.events.rows, ∀ claim, row.claim = some claim →
    ∀ result ∈ w.db.results.rows, result.key = journalKey row → claim.leaseExpiresAt ≤ w.clock
  /-- An open report that did not match is not about a live claim. -/
  stale : ∀ entry ∈ w.pending, entry.matched = none → ∀ row ∈ w.db.events.rows, ∀ claim,
    row.claim = some claim → journalKey row = reportKey entry.report →
      claim.leaseExpiresAt ≤ w.clock
  /-- An open report that matched has no result yet. -/
  unrecorded : ∀ entry ∈ w.pending, entry.matched.isSome = true →
    ∀ result ∈ w.db.results.rows, result.key ≠ reportKey entry.report

theorem recorded_initial : Recorded initial where
  granted _ h := by cases h
  backed _ h := by cases h
  lapsed _ h := by cases h
  stale _ h := by cases h
  unrecorded _ h := by cases h

/-- A result that the end of a report adds: it is about a claim that was made, no event is still
leased under its key, and no report that stays open has its key. -/
structure Closing (w w' : World) (result : ResultRow) : Prop where
  /-- The result answers an open report. -/
  closed : ∃ closing ∈ w.pending, result.key = reportKey closing.report
  /-- No live claim is left that it answers. -/
  lapsed : ∀ row ∈ w'.db.events.rows, ∀ claim, row.claim = some claim →
    result.key = journalKey row → claim.leaseExpiresAt ≤ w.clock
  /-- No open report is left that it answers. -/
  apart : ∀ entry ∈ w'.pending, result.key ≠ reportKey entry.report

/-- Moves that open no report: new results close a report, and new claims have new versions. -/
theorem Recorded.step (hw : Recorded w) (hclock : w.clock ≤ w'.clock)
    (hpending : ∀ entry ∈ w'.pending, entry ∈ w.pending)
    (hhistory : ∀ happening ∈ w.history, happening ∈ w'.history)
    (hresults : ∀ result ∈ w'.db.results.rows,
      result ∈ w.db.results.rows ∨ Closing w w' result)
    (hrows : ∀ row ∈ w'.db.events.rows, row.claim.isSome = true → row ∈ w.db.events.rows ∨
      ∀ event : OutboxEvent, .claimed event ∈ w.history → journalKey event ≠ journalKey row) :
    Recorded w' := by
  constructor
  · intro entry hentry
    obtain ⟨happening, hmem, hclaim⟩ :=
      List.any_eq_true.mp (hw.granted entry (hpending entry hentry))
    exact List.any_eq_true.mpr ⟨happening, hhistory happening hmem, hclaim⟩
  · intro result hresult
    rcases hresults result hresult with hold | hnew
    · obtain ⟨event, hevent, hkey⟩ := hw.backed result hold
      exact ⟨event, hhistory _ hevent, hkey⟩
    · obtain ⟨closing, hclosing, hkey⟩ := hnew.closed
      obtain ⟨event, hevent, hsame, -⟩ := claim_of_granted (hw.granted closing hclosing)
      exact ⟨event, hhistory _ hevent, hkey.trans hsame.symm⟩
  · intro row hrow claim hclaim result hresult hkey
    rcases hresults result hresult with hold | hnew
    · rcases hrows row hrow (by rw [hclaim]; rfl) with hrow | hfresh
      · exact (hw.lapsed row hrow claim hclaim result hold hkey).trans hclock
      · obtain ⟨event, hevent, hsame⟩ := hw.backed result hold
        exact absurd (hsame.symm.trans hkey) (hfresh event hevent)
    · exact (hnew.lapsed row hrow claim hclaim hkey).trans hclock
  · intro entry hentry hmatched row hrow claim hclaim hkey
    have hopen := hpending entry hentry
    rcases hrows row hrow (by rw [hclaim]; rfl) with hrow | hfresh
    · exact (hw.stale entry hopen hmatched row hrow claim hclaim hkey).trans hclock
    · obtain ⟨event, hevent, hsame, -⟩ := claim_of_granted (hw.granted entry hopen)
      exact absurd (hsame.trans hkey.symm) (hfresh event hevent)
  · intro entry hentry hmatched result hresult
    rcases hresults result hresult with hold | hnew
    · exact hw.unrecorded entry (hpending entry hentry) hmatched result hold
    · exact hnew.apart entry hentry

theorem id_of_journalKey (h : journalKey row = journalKey event) :
    row.id = event.id ∧ row.claimVersion = event.claimVersion := by
  simp only [journalKey, Prod.mk.injEq] at h
  exact h.2

/-- A version that no claim had has no result and no report. -/
theorem Known.fresh_version (hw : Known w) (hevent : event ∈ w.db.events.rows)
    {other : OutboxEvent} (hother : .claimed other ∈ w.history) :
    journalKey other ≠ journalKey (takeClaim workerId leaseSeconds now event) := by
  intro hkey
  obtain ⟨hid, hversion⟩ := id_of_journalKey hkey
  obtain ⟨-, -, hpast⟩ := hw.past other hother
  obtain ⟨-, _, -⟩ := hpast event hevent hid.symm
  change other.claimVersion = event.claimVersion + 1 at hversion
  omega

/-- The update of a report matches the event that is claimed at its version, unless
the lease lapsed. -/
theorem lapsed_of_unmatched (hknown : Known w) (hgranted : w.history.any (isClaimOf report) = true)
    (hnone : ∀ row ∈ w.db.events.rows, ¬report.holdsClaim now row = true)
    (hrow : row ∈ w.db.events.rows) {claim : Claim} (hclaim : row.claim = some claim)
    (hkey : journalKey row = reportKey report) : claim.leaseExpiresAt ≤ now := by
  obtain ⟨other, hother, hsame, hworker⟩ := claim_of_granted hgranted
  obtain ⟨hid, hversion⟩ := id_of_journalKey (hkey.trans hsame.symm)
  have hsome : row.claim.isSome = true := by
    rw [hclaim]
    rfl
  obtain ⟨-, -, hpast⟩ := hknown.past other hother
  obtain ⟨-, -, hpresent⟩ := hpast row hrow hid
  rw [← hpresent hversion hsome, hclaim] at hworker
  obtain ⟨hdead, hdiscard, hpublished⟩ := hknown.waits row hrow hsome
  simp only [journalKey, reportKey, Prod.mk.injEq] at hkey
  by_contra hlive
  refine hnone row hrow (holdsClaim_iff.mpr ⟨hkey.1, hkey.2.1,
    ⟨claim, hclaim, ?_, not_le.mp hlive⟩, hkey.2.2, hdead, hdiscard, hpublished⟩)
  exact Option.some.inj hworker

section

variable (hw : Recorded w)
include hw

/-- The update of a report finds no result when it matches, and no live claim when it
does not. -/
theorem Recorded.beginReport (hknown : Known w) (hnow : w.clock ≤ now)
    (hgranted : w.history.any (isClaimOf report) = true)
    (hmatched : report.matched now w.db.events.rows = .ok matched) :
    Recorded { w with clock := now, pending := w.pending ++ [⟨report, now, matched⟩] } := by
  have hfind : w.db.events.rows.find? (report.holdsClaim now) = matched := by
    unfold Report.matched at hmatched
    split at hmatched
    · next hnone =>
      cases hmatched
      exact hnone
    · next found hfound =>
      split_ifs at hmatched
      cases hmatched
      exact hfound
  constructor
  · intro entry hentry
    rcases List.mem_append.mp hentry with hentry | hentry
    · exact hw.granted entry hentry
    · obtain rfl := List.mem_singleton.mp hentry
      exact hgranted
  · exact hw.backed
  · intro row hrow claim hclaim result hresult hkey
    exact (hw.lapsed row hrow claim hclaim result hresult hkey).trans hnow
  · intro entry hentry hnone row hrow claim hclaim hkey
    rcases List.mem_append.mp hentry with hentry | hentry
    · exact (hw.stale entry hentry hnone row hrow claim hclaim hkey).trans hnow
    · obtain rfl := List.mem_singleton.mp hentry
      dsimp only at hnone
      rw [hnone] at hfind
      exact lapsed_of_unmatched hknown hgranted (List.find?_eq_none.mp hfind) hrow hclaim hkey
  · intro entry hentry hsome result hresult hkey
    rcases List.mem_append.mp hentry with hentry | hentry
    · exact hw.unrecorded entry hentry hsome result hresult hkey
    · obtain rfl := List.mem_singleton.mp hentry
      obtain ⟨event, rfl⟩ := Option.isSome_iff_exists.mp hsome
      obtain ⟨htenant, hid, ⟨claim, hclaim, -, hlive⟩, hversion, -⟩ :=
        holdsClaim_iff.mp (List.find?_some hfind)
      have hsame : result.key = journalKey event := by
        rw [hkey]
        unfold reportKey journalKey
        rw [htenant, hid, hversion]
      have hlapsed := hw.lapsed event (List.mem_of_find?_eq_some hfind) claim hclaim result hresult
        hsame
      exact absurd (hlapsed.trans hnow) (not_le.mpr hlive)

/-- The keys of two reports that both found their attempts name one worker. -/
theorem Recorded.reports_differ (hattempts : Attempted w) (hlocked : Locked w)
    {closing entry : OpenReport} (hclosing : closing ∈ w.pending)
    (hattempted : closing.report.attempted w.db = true) (hentry : entry ∈ w.pending)
    (hne : entry.report ≠ closing.report) : reportKey closing.report ≠ reportKey entry.report := by
  intro hkey
  simp only [Report.attempted, Option.any_eq_true, beq_iff_eq] at hattempted
  obtain ⟨attempt, hfind, hworker⟩ := hattempted
  obtain ⟨event, hevent, hsame, heventWorker⟩ := claim_of_granted (hw.granted entry hentry)
  have hfound : w.db.attempts.find? (journalKey event) = some attempt := by
    rw [hsame, ← hkey]
    exact hfind
  rw [hattempts.worker hevent hfound, Option.some.injEq] at heventWorker
  have hclaim : claimOf entry.report = claimOf closing.report := by
    simp only [reportKey, Prod.mk.injEq] at hkey
    unfold claimOf
    rw [← heventWorker, hworker, hkey.1, hkey.2.1, hkey.2.2]
  exact hne (congrArg OpenReport.report
    (List.inj_on_of_nodup_map hlocked.apart hentry hclosing hclaim))

/-- Closing a report records its result: no claim is made, and a row that is still claimed under
the key of the report has a lapsed lease. -/
theorem Recorded.close (hattempts : Attempted w) (hlocked : Locked w)
    (hclosing : closing ∈ w.pending) (hattempted : closing.report.attempted w.db = true)
    (hinsert : w.db.results.insert? (closing.report.resultRow matched now) = some results)
    (hresults : w'.db.results = results) (hclock : w.clock ≤ w'.clock)
    (hpending : w'.pending = w.without closing.report)
    (hhistory : ∀ happening ∈ w.history, happening ∈ w'.history)
    (hrows : ∀ row ∈ w'.db.events.rows, ∀ claim, row.claim = some claim →
      row ∈ w.db.events.rows ∧
        (journalKey row = reportKey closing.report → claim.leaseExpiresAt ≤ w.clock)) :
    Recorded w' := by
  have hopen : ∀ entry ∈ w'.pending, entry ∈ w.pending ∧ entry.report ≠ closing.report := by
    intro entry hentry
    rw [hpending] at hentry
    exact mem_without.mp hentry
  refine hw.step hclock (fun entry hentry => (hopen entry hentry).1) hhistory
    (fun result hresult => ?_) fun row hrow hclaim => ?_
  · rw [hresults] at hresult
    rcases (mem_insert hinsert).mp hresult with hold | rfl
    · exact .inl hold
    · refine .inr ⟨⟨closing, hclosing, rfl⟩, fun row hrow claim hclaim hkey =>
        (hrows row hrow claim hclaim).2 hkey.symm, fun entry hentry => ?_⟩
      obtain ⟨hentry, hne⟩ := hopen entry hentry
      exact hw.reports_differ hattempts hlocked hclosing hattempted hentry hne
  · obtain ⟨claim, hclaim⟩ := Option.isSome_iff_exists.mp hclaim
    exact .inl (hrows row hrow claim hclaim).1

end

theorem recorded_of_move (h : Move w label w') (hlocked : Locked w) (hknown : Known w)
    (hattempts : Attempted w) (hw : Recorded w) : Recorded w' := by
  cases h with
  | pass hnow =>
    exact hw.step hnow (fun _ h => h) (fun _ h => h) (fun _ => .inl) fun _ hrow _ => .inl hrow
  | enqueue hnow hpositive hnext hsequences hinsert =>
    refine hw.step hnow (fun _ h => h) (fun _ h => List.mem_append_left _ h) (fun _ => .inl)
      fun row hrow hclaim => ?_
    rcases (mem_insert hinsert).mp hrow with hrow | rfl
    · exact .inl hrow
    · cases hclaim
  | claim hnow hevent =>
    refine hw.step hnow (fun _ h => h) (fun _ h => List.mem_append_left _ h) (fun _ => .inl)
      fun row hrow _ => ?_
    rcases (mem_rewriteEvent_iff (takeClaim_id _ _ _) hevent row).mp hrow with rfl | ⟨hrow, -⟩
    · exact .inr fun other hother => hknown.fresh_version hevent hother
    · exact .inl hrow
  | beginReport hnow hmay hmatched => exact hw.beginReport hknown hnow hmay.1 hmatched
  | loseReport hnow =>
    exact hw.step hnow (fun _ h => (mem_without.mp h).1) (fun _ h => h) (fun _ => .inl)
      fun _ hrow _ => .inl hrow
  | @settle now closing event results hnow hclosing hmatched hattempted hinsert =>
    obtain ⟨hevent, hholds⟩ := hlocked.held closing hclosing event hmatched
    have hid := (holdsClaim_iff.mp hholds).2.1
    have hrows := mem_rewriteEvent_iff (closing.report.settle_id closing.updatedAt) hevent
    have hreleased : (closing.report.settle closing.updatedAt event).claim = none := by
      cases hfailure : closing.report.failure with
      | none => rw [settle_published hfailure]
      | some => exact (settle_failed hfailure _ event).1
    refine hw.close hattempts hlocked hclosing hattempted hinsert rfl hnow rfl
      (fun _ h => List.mem_append_left _ h) fun row hrow claim hclaim => ?_
    rw [← hid] at hrow
    rcases (hrows row).mp hrow with rfl | ⟨hrow, hne⟩
    · rw [hreleased] at hclaim
      cases hclaim
    · refine ⟨hrow, fun hkey => absurd ?_ hne⟩
      simp only [reportKey, journalKey, Prod.mk.injEq] at hkey
      exact hkey.2.1.trans hid.symm
  | @loseClaim now closing results hnow hclosing hmatched hattempted hinsert =>
    exact hw.close hattempts hlocked hclosing hattempted hinsert rfl hnow rfl (fun _ h => h)
      fun row hrow claim hclaim => ⟨hrow, hw.stale closing hclosing hmatched row hrow claim hclaim⟩
  | replay hnow hevent =>
    refine hw.step hnow (fun _ h => h) (fun _ h => List.mem_append_left _ h) (fun _ => .inl)
      fun row hrow hclaim => ?_
    rcases (mem_rewriteEvent_iff (replayed_id _) hevent row).mp hrow with rfl | ⟨hrow, -⟩
    · cases hclaim
    · exact .inl hrow
  | discard hnow hevent hdead =>
    refine hw.step hnow (fun _ h => h) (fun _ h => List.mem_append_left _ h) (fun _ => .inl)
      fun row hrow hclaim => ?_
    rcases (mem_rewriteEvent_iff (discarded_id _ _ _) hevent row).mp hrow with rfl | ⟨hrow, -⟩
    · have hnone := claim_of_isDeadLetter hdead
      change (OutboxEvent.claim _).isSome = true at hclaim
      rw [show (discarded _ _ _ _).claim = _ from hnone] at hclaim
      cases hclaim
    · exact .inl hrow
  | purge hnow =>
    exact hw.step hnow (fun _ h => h) (fun _ h => h) (fun _ => .inl)
      fun row hrow _ => .inl (KeyedTable.mem_deleteWhere.mp hrow).1

/-- What every reachable state has: locks, known claims and both journals in order. -/
structure Fenced (w : World) : Prop where
  /-- Open reports are apart. -/
  locked : Locked w
  /-- The history knows the claims. -/
  known : Known w
  /-- Claims are journalled. -/
  attempted : Attempted w
  /-- Results are in order. -/
  recorded : Recorded w

theorem fenced_initial : Fenced initial :=
  ⟨locked_initial, known_initial, attempted_initial, recorded_initial⟩

theorem Fenced.move (hw : Fenced w) (hmove : Move w label w') : Fenced w' where
  locked := hmove.locked hw.locked
  known := known_of_move hmove hw.locked hw.known
  attempted := attempted_of_move hmove hw.attempted
  recorded := recorded_of_move hmove hw.locked hw.known hw.attempted hw.recorded

theorem Fenced.next (hw : Fenced w) {step : Step} (hallowed : Allowed w step) :
    Fenced (w.next step) :=
  next_preserves Fenced (fun _ _ _ hmove hw => hw.move hmove) hallowed hw

theorem run_fenced {condition : World → Step → Prop} (h : OutboxRun condition initial w) :
    Fenced w := by
  refine Run.preserves Fenced ?_ h fenced_initial
  rintro w step _ ⟨hallowed, -⟩ rfl hw
  exact hw.next hallowed

/-- The update of a superseded report did not match. -/
theorem Fenced.unmatched (hw : Fenced w) (hentry : entry ∈ w.pending) {later : OutboxEvent}
    (hlater : .claimed later ∈ w.history) (hid : later.id = entry.report.eventId)
    (hversion : entry.report.claimVersion < later.claimVersion) : entry.matched = none := by
  cases hmatched : entry.matched with
  | none => rfl
  | some row =>
    obtain ⟨hrow, hholds⟩ := hw.locked.held entry hentry row hmatched
    obtain ⟨-, hrowId, -, _, -⟩ := holdsClaim_iff.mp hholds
    obtain ⟨-, -, hpast⟩ := hw.known.past later hlater
    obtain ⟨-, _, -⟩ := hpast row hrow (hrowId.trans hid.symm)
    omega

/-- A result is recorded when the attempt is there and has none. -/
theorem recordDeliveryResult_ok :
    ∃ rows db', report.recordDeliveryResult matched now db = .ok (rows, db') ∧
      (report.attempted db = true → db.results.find? (reportKey report) = none → rows = 1) := by
  unfold Report.recordDeliveryResult
  rw [gets_bind, gets_bind]
  cases hattempted : report.attempted db with
  | false => exact ⟨0, db, rfl, fun h => absurd h Bool.false_ne_true⟩
  | true =>
    cases hinsert : db.results.insert? (report.resultRow matched now) with
    | some => exact ⟨1, _, rfl, fun _ _ => rfl⟩
    | none =>
      refine ⟨0, db, rfl, fun _ hfree => ?_⟩
      have hkey : db.results.find? (report.resultRow matched now).key = none := hfree
      obtain ⟨results, hsome⟩ := insert?_of_find?_none hkey
      rw [hinsert] at hsome
      cases hsome

/-- The end of an open report never fails: a report that matched finds its attempt
without a result. -/
theorem Fenced.finish (hw : Fenced w) (hentry : entry ∈ w.pending) (now : Timestamp) :
    ∃ db, commit (entry.report.finish entry.updatedAt entry.matched now) w.db =
        (.ok entry.matched.isSome, db) ∧
      (entry.matched = none → db.events = w.db.events) := by
  cases hfinish : entry.report.finish entry.updatedAt entry.matched now w.db with
  | ok pair =>
    obtain ⟨answer, db⟩ := pair
    rw [commit_of_ok hfinish]
    obtain ⟨rfl, ⟨-, rfl⟩ | ⟨results, -, -, rfl⟩⟩ := finish_ok hfinish
    · exact ⟨_, rfl, fun _ => rfl⟩
    · refine ⟨_, rfl, fun hnone => ?_⟩
      rw [hnone]
      rfl
  | error =>
    exfalso
    unfold Report.finish at hfinish
    rw [modify_bind] at hfinish
    obtain ⟨hattempts, hresults⟩ :=
      applyUpdate_journals entry.report entry.updatedAt entry.matched w.db
    obtain ⟨rows, db', hrecord, hone⟩ := recordDeliveryResult_ok
    rw [bind_of_ok hrecord] at hfinish
    rcases bind_error.mp hfinish with hensure | ⟨_, _, _, hpure⟩
    · obtain ⟨hmissing, -⟩ := ensure_error.mp hensure
      refine hmissing fun hsome => hone ?_ ?_
      · unfold Report.attempted
        rw [hattempts]
        exact hw.attempted.attempted (hw.recorded.granted entry hentry)
      · rw [hresults, find?_eq_none]
        exact hw.recorded.unrecorded entry hentry hsome
    · cases hpure

/-- In every run of the outbox each claim has a version of its own and exactly one
journalled attempt, no claim has two results, a report whose claim was superseded
answers `false` and changes no event, no event is published twice, and no report
fails for want of its journalled attempt. -/
theorem reports_are_fenced_and_journalled (h : OutboxRun anyStep World.initial w) :
    (∀ event : OutboxEvent, .claimed event ∈ w.history →
      w.db.attempts.rows.countP (fun attempt => decide (attempt.key = journalKey event)) = 1) ∧
    (∀ before first between second after,
      w.history = before ++ .claimed first :: between ++ .claimed second :: after →
      first.id = second.id → first.claimVersion < second.claimVersion) ∧
    (∀ key, w.db.results.rows.countP (fun result => decide (result.key = key)) ≤ 1) ∧
    (∀ entry ∈ w.pending, ∀ later : OutboxEvent, .claimed later ∈ w.history →
      later.id = entry.report.eventId → entry.report.claimVersion < later.claimVersion →
      ∀ now, ∃ db, commit (entry.report.finish entry.updatedAt entry.matched now) w.db =
        (.ok false, db) ∧ db.events = w.db.events) ∧
    (∀ before first between second after,
      w.history = before ++ .published first :: between ++ .published second :: after →
      first.id ≠ second.id) ∧
    (∀ entry ∈ w.pending, ∀ now,
      (commit (entry.report.finish entry.updatedAt entry.matched now) w.db).1 =
        .ok entry.matched.isSome) := by
  have hw := run_fenced h
  refine ⟨?_, ?_, w.db.results.countP_key_le_one, ?_, ?_, ?_⟩
  · intro event hevent
    obtain ⟨attempt, hattempt, hkey, -⟩ := hw.attempted.journalled event hevent
    rw [← hkey]
    exact countP_key_eq_one hattempt
  · intro before first between second after hsplit hid
    have hraised := hw.known.raised _ _ _ hsplit
    exact hraised first (by simp) hid
  · intro entry hentry later hlater hid hversion now
    have hnone := hw.unmatched hentry hlater hid hversion
    obtain ⟨db, hcommit, hevents⟩ := hw.finish hentry now
    refine ⟨db, ?_, hevents hnone⟩
    rw [hcommit, hnone]
    rfl
  · intro before first between second after hsplit
    have hraised := hw.known.raised _ _ _ hsplit
    exact hraised first (by simp)
  · intro entry hentry now
    obtain ⟨db, hcommit, -⟩ := hw.finish hentry now
    rw [hcommit]

section Orders

/-- The first worker reports after its lease lapsed and another worker claimed. -/
def supersededOrder : List Step :=
  claimedOrder ++
    [⟨2000000, claimBy "worker-b"⟩, ⟨2000001, .beginReport (deliveryBy "worker-a")⟩]

theorem supersededOrder_allowed :
    Replays World.next (fun w step => Allowed w step ∧ anyStep w step) supersededOrder
      initial := by
  refine ⟨⟨?_, trivial⟩, ⟨?_, trivial⟩, ⟨?_, trivial⟩, ⟨?_, trivial⟩, ⟨?_, trivial⟩,
    trivial⟩ <;> decide +kernel

/-- The state after that run. -/
def afterSupersession : World := replay World.next supersededOrder World.initial

/-- The late report answers `false` and leaves the event to the second worker. -/
theorem late_report_answers_false : (∃ event ∈ afterSupersession.db.events.rows,
      event.id = 1 ∧ event.claim.map Claim.claimedBy = some "worker-b") ∧
    ∃ entry ∈ afterSupersession.pending, entry.report = deliveryBy "worker-a" ∧
      ∀ now, ∃ db, commit (entry.report.finish entry.updatedAt entry.matched now)
          afterSupersession.db = (.ok false, db) ∧
        db.events = afterSupersession.db.events := by
  have hrun : OutboxRun anyStep initial afterSupersession :=
    run_replay World.next supersededOrder_allowed
  have hgranted : afterSupersession.history.any (isClaimOf ⟨1, 1, "worker-b", 2, none⟩) = true := by
    decide +kernel
  have hentry : ⟨deliveryBy "worker-a", 2000001, none⟩ ∈ afterSupersession.pending := by
    decide +kernel
  obtain ⟨later, hlater, hkey, -⟩ := claim_of_granted hgranted
  have hid : later.id = 1 := congrArg (fun key => key.2.1) hkey
  have hversion : later.claimVersion = 2 := congrArg (fun key => key.2.2) hkey
  refine ⟨by decide +kernel, _, hentry, rfl, ?_⟩
  refine (reports_are_fenced_and_journalled hrun).2.2.2.1 _ hentry later hlater hid ?_
  rw [hversion]
  decide

end Orders

end Wareboxes.OutboxJournal
