import Wareboxes.OutboxEventLife

/-!
# Delivery in sequence

The sequences of a stream are given out without gaps, each of them belongs to
an event that is stored or was settled before it was deleted, and a claim finds
every earlier event of its stream settled. It follows that a stream has at most
one claimed event and that its events are published in increasing sequence,
whatever the workers, producers and operators do.
-/

namespace Wareboxes.OutboxOrdering

open OutboxTables OutboxOperations OutboxRuns OutboxMoves OutboxEventLife LabelledRuns

variable {w w' : World} {label : Label} {stream : ℤ × String} {sequence : ℤ}

/-- The history has the publication or the discard of the event at a place of a stream. -/
def SettledIn (history : List Happening) (stream : ℤ × String) (sequence : ℤ) : Prop :=
  ∃ event : OutboxEvent, (.published event ∈ history ∨ .discarded event ∈ history) ∧
    event.stream = stream ∧ event.aggregateSequence = sequence

theorem SettledIn.append {history : List Happening} (h : SettledIn history stream sequence)
    (happenings : List Happening) : SettledIn (history ++ happenings) stream sequence := by
  obtain ⟨event, hevent, hplace⟩ := h
  exact ⟨event, hevent.imp (List.mem_append_left _) (List.mem_append_left _), hplace⟩

/-- A claim is justified when all earlier events of its stream were settled, and a
publication when no event of its stream from its place on was published. -/
def InSequence (history : List Happening) : Happening → Prop
  | .claimed event => ∀ sequence, 0 < sequence → sequence < event.aggregateSequence →
      SettledIn history event.stream sequence
  | .published event => ∀ earlier : OutboxEvent, .published earlier ∈ history →
      earlier.stream = event.stream → earlier.aggregateSequence < event.aggregateSequence
  | _ => True

/-- What holds of the events, the counters and the history in every state. -/
structure Ordered (w : World) : Prop where
  /-- Counters are not negative. -/
  counted : ∀ stream, 0 ≤ lastSequence w.db.sequences stream
  /-- The numbers were drawn. -/
  given : ∀ row ∈ w.db.events.rows, 0 < row.aggregateSequence ∧
    row.aggregateSequence ≤ lastSequence w.db.sequences row.stream
  /-- No two stored events have one place. -/
  distinct : ∀ row ∈ w.db.events.rows, ∀ other ∈ w.db.events.rows, row.stream = other.stream →
    row.aggregateSequence = other.aggregateSequence → row = other
  /-- A sequence that was given out belongs to a stored or to a settled event. -/
  covered : ∀ stream sequence, 0 < sequence → sequence ≤ lastSequence w.db.sequences stream →
    (∃ row ∈ w.db.events.rows, row.stream = stream ∧ row.aggregateSequence = sequence) ∨
      SettledIn w.history stream sequence
  /-- A settled row is in the history. -/
  noted : ∀ row ∈ w.db.events.rows, row.isSettled = true →
    SettledIn w.history row.stream row.aggregateSequence
  /-- Only an open row is claimed. -/
  claimOpen : ∀ row ∈ w.db.events.rows, row.claim.isSome = true → row.isSettled = false
  /-- The stored events before a claimed one are settled. -/
  claimFront : ∀ row ∈ w.db.events.rows, row.claim.isSome = true →
    ∀ other ∈ w.db.events.rows, other.stream = row.stream →
      other.aggregateSequence < row.aggregateSequence → other.isSettled = true
  /-- The stored events up to a published one are settled. -/
  publishedFront : ∀ event : OutboxEvent, .published event ∈ w.history →
    event.aggregateSequence ≤ lastSequence w.db.sequences event.stream ∧
      ∀ other ∈ w.db.events.rows, other.stream = event.stream →
        other.aggregateSequence ≤ event.aggregateSequence → other.isSettled = true
  /-- Claims and publications are in sequence. -/
  justified : Justified InSequence w.history

theorem ordered_initial : Ordered World.initial where
  counted _ := le_refl 0
  given _ h := by cases h
  distinct _ h := by cases h
  covered stream sequence hpositive hgiven := by
    have hzero : lastSequence World.initial.db.sequences stream = 0 := rfl
    omega
  noted _ h := by cases h
  claimOpen _ h := by cases h
  claimFront _ h := by cases h
  publishedFront _ h := by cases h
  justified := justified_nil

/-- Deleting settled events keeps the order. -/
theorem Ordered.shrink (hw : Ordered w) (hsub : ∀ row ∈ w'.db.events.rows, row ∈ w.db.events.rows)
    (hkept : ∀ row ∈ w.db.events.rows, row.isSettled = false → row ∈ w'.db.events.rows)
    (hhistory : w'.history = w.history) (hsequences : w'.db.sequences = w.db.sequences) :
    Ordered w' where
  counted := by rw [hsequences]; exact hw.counted
  given row hrow := by rw [hsequences]; exact hw.given row (hsub row hrow)
  distinct row hrow other hother := hw.distinct row (hsub row hrow) other (hsub other hother)
  covered stream sequence hpositive hgiven := by
    rw [hsequences] at hgiven
    rw [hhistory]
    rcases hw.covered stream sequence hpositive hgiven with ⟨row, hrow, rfl, rfl⟩ | hsettled
    · cases hunsettled : row.isSettled with
      | false => exact .inl ⟨row, hkept row hrow hunsettled, rfl, rfl⟩
      | true => exact .inr (hw.noted row hrow hunsettled)
    · exact .inr hsettled
  noted row hrow := by rw [hhistory]; exact hw.noted row (hsub row hrow)
  claimOpen row hrow := hw.claimOpen row (hsub row hrow)
  claimFront row hrow hclaim other hother :=
    hw.claimFront row (hsub row hrow) hclaim other (hsub other hother)
  publishedFront event hevent := by
    rw [hhistory] at hevent
    rw [hsequences]
    obtain ⟨hgiven, hfront⟩ := hw.publishedFront event hevent
    exact ⟨hgiven, fun other hother => hfront other (hsub other hother)⟩
  justified := by rw [hhistory]; exact hw.justified

variable {now : Timestamp} {happenings : List Happening} {event event' : OutboxEvent}

/-- An event with the next sequence of its stream keeps the order. -/
theorem Ordered.insert (hw : Ordered w) {event : NewOutboxEvent}
    (hpositive : 0 < event.aggregateSequence) (hnext : event.aggregateSequence =
      lastSequence w.db.sequences (event.tenantId, event.orderingKey) + 1)
    (hsequences : ∀ stream, lastSequence w'.db.sequences stream =
      if stream = (event.tenantId, event.orderingKey) then event.aggregateSequence
      else lastSequence w.db.sequences stream) (hrows : ∀ row, row ∈ w'.db.events.rows ↔
      row ∈ w.db.events.rows ∨ row = newRow event (w.db.lastId + 1) now)
    (hhistory : w'.history = w.history ++ [.enqueued (newRow event (w.db.lastId + 1) now)]) :
    Ordered w' := by
  have hgrows : ∀ stream,
      lastSequence w.db.sequences stream ≤ lastSequence w'.db.sequences stream := by
    intro stream
    rw [hsequences]
    split_ifs with hstream
    · subst hstream
      omega
    · exact le_refl _
  have hlast : lastSequence w'.db.sequences (event.tenantId, event.orderingKey) =
      event.aggregateSequence := by
    rw [hsequences, if_pos rfl]
  have hlower : ∀ row ∈ w.db.events.rows, row.stream = (event.tenantId, event.orderingKey) →
      row.aggregateSequence < event.aggregateSequence := by
    intro row hrow hstream
    have hgiven := (hw.given row hrow).2
    rw [hstream] at hgiven
    omega
  constructor
  · intro stream
    exact (hw.counted stream).trans (hgrows stream)
  · intro row hrow
    rcases (hrows row).mp hrow with hrow | rfl
    · obtain ⟨hpos, hgiven⟩ := hw.given row hrow
      exact ⟨hpos, hgiven.trans (hgrows _)⟩
    · exact ⟨hpositive, hlast.ge⟩
  · intro row hrow other hother hstream hsame
    rcases (hrows row).mp hrow with hrow | rfl <;> rcases (hrows other).mp hother with hother | rfl
    · exact hw.distinct row hrow other hother hstream hsame
    · have hlt := hlower row hrow hstream
      change row.aggregateSequence = event.aggregateSequence at hsame
      omega
    · have hlt := hlower other hother hstream.symm
      change event.aggregateSequence = other.aggregateSequence at hsame
      omega
    · rfl
  · intro stream sequence hpos hgiven
    rw [hhistory]
    by_cases hold : sequence ≤ lastSequence w.db.sequences stream
    · rcases hw.covered stream sequence hpos hold with ⟨row, hrow, hplace⟩ | hsettled
      · exact .inl ⟨row, (hrows row).mpr (.inl hrow), hplace⟩
      · exact .inr (hsettled.append _)
    · rw [hsequences] at hgiven
      split_ifs at hgiven with hstream
      · subst hstream
        refine .inl ⟨_, (hrows _).mpr (.inr rfl), rfl, ?_⟩
        change event.aggregateSequence = sequence
        omega
      · exact absurd hgiven hold
  · intro row hrow hsettled
    rw [hhistory]
    rcases (hrows row).mp hrow with hrow | rfl
    · exact (hw.noted row hrow hsettled).append _
    · cases hsettled
  · intro row hrow hclaim
    rcases (hrows row).mp hrow with hrow | rfl
    · exact hw.claimOpen row hrow hclaim
    · cases hclaim
  · intro row hrow hclaim other hother hstream hlt
    rcases (hrows row).mp hrow with hrow | rfl
    · rcases (hrows other).mp hother with hother | rfl
      · exact hw.claimFront row hrow hclaim other hother hstream hlt
      · have hbelow := hlower row hrow hstream.symm
        change event.aggregateSequence < row.aggregateSequence at hlt
        omega
    · cases hclaim
  · intro published hpublished
    rw [hhistory] at hpublished
    have hold : .published published ∈ w.history := by simpa using hpublished
    obtain ⟨hgiven, hfront⟩ := hw.publishedFront published hold
    refine ⟨hgiven.trans (hgrows _), fun other hother hstream hle => ?_⟩
    rcases (hrows other).mp hother with hother | rfl
    · exact hfront other hother hstream hle
    · change event.aggregateSequence ≤ published.aggregateSequence at hle
      change (event.tenantId, event.orderingKey) = published.stream at hstream
      rw [← hstream] at hgiven
      omega
  · rw [hhistory]
    exact hw.justified.concat trivial

section

variable (hw : Ordered w) (hevent : event ∈ w.db.events.rows)
  (hchange : EventChange w now label event event' happenings)
include hw hevent hchange

/-- What a change adds to the history is in sequence. -/
theorem Ordered.justified_change : Justified InSequence (w.history ++ happenings) := by
  have hplace := hchange.place
  have hunsettled := hchange.unsettled
  cases hchange with
  | claim hclaimable =>
    refine hw.justified.concat fun sequence hpositive hlt => ?_
    change sequence < event.aggregateSequence at hlt
    change SettledIn w.history event.stream sequence
    have hgiven := (hw.given event hevent).2
    rcases hw.covered event.stream sequence hpositive (by omega) with
      ⟨row, hrow, hstream, rfl⟩ | hsettled
    · rw [← hstream]
      exact hw.noted row hrow (settled_of_isClaimable hclaimable hrow hstream hlt)
    · exact hsettled
  | publish hentry hholds hfailure =>
    refine hw.justified.concat fun earlier hearlier hstream => ?_
    rw [hplace.1] at hstream
    by_contra hnot
    have hsettled := (hw.publishedFront earlier hearlier).2 event hevent hstream.symm (by omega)
    rw [hunsettled] at hsettled
    cases hsettled
  | fail => rw [List.append_nil]; exact hw.justified
  | replay | discard => exact hw.justified.concat trivial

/-- A change of one event keeps the order. -/
theorem Ordered.change (hrows : ∀ row, row ∈ w'.db.events.rows ↔
      row = event' ∨ row ∈ w.db.events.rows ∧ row.id ≠ event.id)
    (hhistory : w'.history = w.history ++ happenings)
    (hsequences : w'.db.sequences = w.db.sequences) : Ordered w' := by
  obtain ⟨hstream', hsequence'⟩ := hchange.place
  have hunsettled : ¬event.isSettled = true := ne_true_of_eq_false hchange.unsettled
  constructor
  · rw [hsequences]
    exact hw.counted
  · intro row hrow
    rw [hsequences]
    rcases (hrows row).mp hrow with rfl | ⟨hrow, -⟩
    · rw [hstream', hsequence']
      exact hw.given event hevent
    · exact hw.given row hrow
  · intro row hrow other hother hstream hsame
    rcases (hrows row).mp hrow with rfl | ⟨hrow, hne⟩ <;>
      rcases (hrows other).mp hother with rfl | ⟨hother, hne'⟩
    · rfl
    · rw [hstream'] at hstream
      rw [hsequence'] at hsame
      exact absurd
        (congrArg OutboxEvent.id (hw.distinct event hevent other hother hstream hsame)).symm
        hne'
    · rw [hstream'] at hstream
      rw [hsequence'] at hsame
      exact absurd (congrArg OutboxEvent.id (hw.distinct row hrow event hevent hstream hsame)) hne
    · exact hw.distinct row hrow other hother hstream hsame
  · intro stream sequence hpositive hgiven
    rw [hsequences] at hgiven
    rw [hhistory]
    rcases hw.covered stream sequence hpositive hgiven with ⟨row, hrow, rfl, rfl⟩ | hsettled
    · by_cases hid : row.id = event.id
      · obtain rfl := w.db.events.eq_of_key_eq hrow hevent hid
        exact .inl ⟨event', (hrows event').mpr (.inl rfl), hstream', hsequence'⟩
      · exact .inl ⟨row, (hrows row).mpr (.inr ⟨hrow, hid⟩), rfl, rfl⟩
    · exact .inr (hsettled.append _)
  · intro row hrow hsettled
    rw [hhistory]
    rcases (hrows row).mp hrow with rfl | ⟨hrow, -⟩
    · rcases hchange.noted hsettled with rfl | rfl
      · exact ⟨row, .inl (by simp), rfl, rfl⟩
      · exact ⟨row, .inr (by simp), rfl, rfl⟩
    · exact (hw.noted row hrow hsettled).append _
  · intro row hrow hclaim
    rcases (hrows row).mp hrow with rfl | ⟨hrow, -⟩
    · rw [(hchange.claimed hclaim).2]
      exact hchange.unsettled
    · exact hw.claimOpen row hrow hclaim
  · intro row hrow hclaim other hother hstream hlt
    rcases (hrows row).mp hrow with rfl | ⟨hrow, -⟩
    · have hclaimable := (hchange.claimed hclaim).1
      rw [hstream'] at hstream
      rw [hsequence'] at hlt
      rcases (hrows other).mp hother with rfl | ⟨hother, -⟩
      · omega
      · exact settled_of_isClaimable hclaimable hother hstream hlt
    · rcases (hrows other).mp hother with rfl | ⟨hother, -⟩
      · rw [hstream'] at hstream
        rw [hsequence'] at hlt
        exact absurd (hw.claimFront row hrow hclaim event hevent hstream hlt) hunsettled
      · exact hw.claimFront row hrow hclaim other hother hstream hlt
  · intro published hpublished
    rw [hsequences]
    rw [hhistory] at hpublished
    rcases List.mem_append.mp hpublished with hold | hnew
    · obtain ⟨hgiven, hfront⟩ := hw.publishedFront published hold
      refine ⟨hgiven, fun other hother hstream hle => ?_⟩
      rcases (hrows other).mp hother with rfl | ⟨hother, -⟩
      · rw [hstream'] at hstream
        rw [hsequence'] at hle
        exact absurd (hfront event hevent hstream hle) hunsettled
      · exact hfront other hother hstream hle
    · obtain ⟨rfl, hclaim, hsettled⟩ := hchange.published hnew
      rw [hstream', hsequence']
      refine ⟨(hw.given event hevent).2, fun other hother hstream hle => ?_⟩
      rcases (hrows other).mp hother with rfl | ⟨hother, hne⟩
      · exact hsettled
      · rcases lt_or_eq_of_le hle with hlt | heq
        · exact hw.claimFront event hevent hclaim other hother hstream hlt
        · exact absurd (congrArg OutboxEvent.id
            (hw.distinct other hother event hevent hstream heq)) hne
  · rw [hhistory]
    exact hw.justified_change hevent hchange

end

theorem ordered_of_move (h : Move w label w') (hlocked : Locked w) (hw : Ordered w) :
    Ordered w' := by
  obtain ⟨-, hshape⟩ := shape_of_move h hlocked
  cases hshape with
  | shrink hsub hkept hhistory hsequences => exact hw.shrink hsub hkept hhistory hsequences
  | insert hpositive hnext hsequences hrows hhistory =>
    exact hw.insert hpositive hnext hsequences hrows hhistory
  | change hevent hchange hrows hhistory hsequences =>
    exact hw.change hevent hchange hrows hhistory hsequences

theorem next_preserves {step : Step} (inv : World → Prop)
    (preserved : ∀ w label w', Move w label w' → inv w → inv w') (h : Allowed w step)
    (hw : inv w) : inv (w.next step) :=
  Run.preserves inv (fun w label w' _ hmove hw => preserved w label w' hmove hw) (next_moves h) hw

theorem run_ordered {condition : World → Step → Prop}
    (h : OutboxRun condition World.initial w) : Locked w ∧ Ordered w := by
  refine Run.preserves (fun w => Locked w ∧ Ordered w) ?_ h ⟨locked_initial, ordered_initial⟩
  rintro w step _ ⟨hallowed, -⟩ rfl hw
  exact next_preserves (fun w => Locked w ∧ Ordered w)
    (fun w label w' hmove hw => ⟨hmove.locked hw.1, ordered_of_move hmove hw.1 hw.2⟩) hallowed hw

/-- In every run of the outbox an event is claimed only after every earlier event of
its stream was published or discarded, a stream never has two claimed events, and
the events of a stream are published in increasing sequence. -/
theorem streams_are_delivered_in_sequence (h : OutboxRun anyStep World.initial w) :
    (∀ before event after, w.history = before ++ .claimed event :: after →
      ∀ sequence, 0 < sequence → sequence < event.aggregateSequence →
        SettledIn before event.stream sequence) ∧
    (∀ row ∈ w.db.events.rows, ∀ other ∈ w.db.events.rows, row.stream = other.stream →
      row.claim.isSome = true → other.claim.isSome = true → row = other) ∧
    (∀ before first between second after,
      w.history = before ++ .published first :: between ++ .published second :: after →
      first.stream = second.stream → first.aggregateSequence < second.aggregateSequence) := by
  obtain ⟨-, hordered⟩ := run_ordered h
  refine ⟨fun before event after hsplit => hordered.justified _ _ _ hsplit, ?_, ?_⟩
  · intro row hrow other hother hstream hclaim hclaim'
    rcases lt_trichotomy row.aggregateSequence other.aggregateSequence with hlt | heq | hgt
    · have hsettled := hordered.claimFront other hother hclaim' row hrow hstream hlt
      rw [hordered.claimOpen row hrow hclaim] at hsettled
      cases hsettled
    · exact hordered.distinct row hrow other hother hstream heq
    · have hsettled := hordered.claimFront row hrow hclaim other hother hstream.symm hgt
      rw [hordered.claimOpen other hother hclaim'] at hsettled
      cases hsettled
  · intro before first between second after hsplit hstream
    have hjustified := hordered.justified _ _ _ hsplit
    exact hjustified first (by simp) hstream

/-- Two events of one order: the second is claimed after the first was published. -/
theorem second_event_follows_first :
    (∃ event, .claimed event ∈ afterDelivery.history ∧ event.aggregateSequence = 2) ∧
      ∀ before event after, afterDelivery.history = before ++ .claimed event :: after →
        ∀ sequence, 0 < sequence → sequence < event.aggregateSequence →
          SettledIn before event.stream sequence := by
  have hrun : OutboxRun anyStep World.initial afterDelivery :=
    run_replay World.next deliveredOrder_allowed
  have hclaimed : (afterDelivery.history.any fun happening =>
      match happening with
      | .claimed event => event.aggregateSequence == 2
      | .enqueued _ | .published _ | .replayed _ | .discarded _ => false) = true := by
    decide +kernel
  obtain ⟨happening, hmem, hsecond⟩ := List.any_eq_true.mp hclaimed
  refine ⟨?_, (streams_are_delivered_in_sequence hrun).1⟩
  cases happening with
  | claimed event => exact ⟨event, hmem, by simpa using hsecond⟩
  | _ => simp at hsecond

end Wareboxes.OutboxOrdering
