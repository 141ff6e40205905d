import Wareboxes.RfCommandRuns

/-!
# Commands and their attempts stay in step

Every reachable database keeps at most one unresolved command for a device. The
attempts of a command are numbered from one without gaps, the command counts
them, and it is being dispatched exactly while its last attempt is. A recorded
response belongs to the last attempt and is never written again, and whatever
was handed out for sending carries the request and the key that the command was
written with.
-/

namespace Wareboxes.RfCommandJournal

open KeyedTables Transactions Transaction LabelledRuns RfCommandStore RfCommandRuns KeyedTable List

variable {Command : Type} {wire : Wire Command} {store store' : Store Command}
  {row row' : CommandRow Command} {own own' : List AttemptRow} {recordId : ℤ} {attemptId : String}
  {asked : CommandStatus → Prop}

variable {attempt : AttemptRow}

/-- A command agrees with its attempts. -/
structure Journalled (row : CommandRow Command) (own : List AttemptRow) : Prop where
  /-- The row counts its attempts. -/
  count : (own.length : ℤ) = row.attemptCount
  /-- They are numbered from one. -/
  ordinals : own.map AttemptRow.ordinal = (List.range own.length).map fun i : ℕ => (i : ℤ) + 1
  /-- One runs while the row says so. -/
  dispatching : row.status = .dispatching ↔ ∃ attempt ∈ own, attempt.status = .dispatching
  /-- It is the last one. -/
  latest : ∀ attempt ∈ own, attempt.status = .dispatching → attempt.ordinal = row.attemptCount
  /-- A recorded response belongs to the last attempt. -/
  answered : ∀ stored ∈ row.response, ∃ attempt ∈ own, attempt.ordinal = row.attemptCount ∧
    attempt.status = .responded ∧ attempt.httpStatus = some stored.response.status ∧
    attempt.serverRequestId = stored.response.serverRequestId

section

variable (h : Journalled row own)
include h

theorem Journalled.nodup : (own.map AttemptRow.ordinal).Nodup := by
  rw [h.ordinals]
  exact List.nodup_range.map fun i j hij => by
    simp only [add_left_inj, Nat.cast_inj] at hij
    exact hij

theorem Journalled.eq_of_ordinal {first second : AttemptRow} (hfirst : first ∈ own)
    (hsecond : second ∈ own) (hsame : first.ordinal = second.ordinal) : first = second :=
  inj_on_of_nodup_map h.nodup hfirst hsecond hsame

theorem Journalled.ordinal_le (hattempt : attempt ∈ own) : attempt.ordinal ≤ row.attemptCount := by
  have hmem := mem_map_of_mem (f := AttemptRow.ordinal) hattempt
  rw [h.ordinals] at hmem
  obtain ⟨i, hi, _⟩ := List.mem_map.mp hmem
  rw [mem_range] at hi
  have hcount := h.count
  omega

/-- The attempt under way is the last one, and the only one under way. -/
theorem Journalled.last {attempt other : AttemptRow} (hattempt : attempt ∈ own)
    (hdispatching : attempt.status = .dispatching) (hother : other ∈ own) (hne : other ≠ attempt) :
    other.ordinal < attempt.ordinal ∧ other.status ≠ .dispatching := by
  have hlast := h.latest attempt hattempt hdispatching
  constructor
  · rw [hlast]
    refine lt_of_le_of_ne (h.ordinal_le hother) fun hsame => hne ?_
    exact h.eq_of_ordinal hother hattempt (hsame.trans hlast.symm)
  · intro hstatus
    refine hne (h.eq_of_ordinal hother hattempt ?_)
    rw [h.latest other hother hstatus, hlast]

end

variable {change : AttemptRow → AttemptRow} {draft : DurableCommandDraft Command}
  {request : DurableHttpRequest} {status : CommandStatus} {now : ℤ}

/-- The attempts keep their numbers when they are rewritten. -/
theorem Journalled.rewrite (h : Journalled row own)
    (hordinal : ∀ attempt, (change attempt).ordinal = attempt.ordinal)
    (hcount : row'.attemptCount = row.attemptCount) (hdispatching : row'.status = .dispatching ↔
      ∃ attempt ∈ own, (change attempt).status = .dispatching)
    (hlatest : ∀ attempt ∈ own, (change attempt).status = .dispatching →
      attempt.ordinal = row.attemptCount)
    (hanswered : ∀ stored ∈ row'.response, ∃ attempt ∈ own, attempt.ordinal = row.attemptCount ∧
      (change attempt).status = .responded ∧
      (change attempt).httpStatus = some stored.response.status ∧
      (change attempt).serverRequestId = stored.response.serverRequestId) :
    Journalled row' (own.map change) where
  count := by rw [length_map, hcount, h.count]
  ordinals := by
    rw [map_map, length_map, ← h.ordinals]
    exact map_congr_left fun attempt _ => hordinal attempt
  dispatching := by
    rw [hdispatching]
    simp only [mem_map, exists_exists_and_eq_and]
  latest := by
    intro _ hmem hstatus
    obtain ⟨attempt, hattempt, rfl⟩ := List.mem_map.mp hmem
    rw [hordinal, hcount]
    exact hlatest attempt hattempt hstatus
  answered := by
    intro stored hstored
    obtain ⟨attempt, hattempt, hlast, hrest⟩ := hanswered stored hstored
    exact ⟨change attempt, mem_map_of_mem hattempt, by rw [hordinal, hcount, hlast], hrest⟩

/-- A rewriting of the command alone. -/
theorem Journalled.keep (h : Journalled row own) (hcount : row'.attemptCount = row.attemptCount)
    (hdispatching : row'.status = .dispatching ↔ row.status = .dispatching)
    (hresponse : row'.response = row.response) : Journalled row' own where
  count := by rw [hcount, h.count]
  ordinals := h.ordinals
  dispatching := hdispatching.trans h.dispatching
  latest := by
    rw [hcount]
    exact h.latest
  answered := by
    rw [hcount, hresponse]
    exact h.answered

variable {scope : ExecutionScope}

/-- A new command has no attempts. -/
theorem journalled_new {recordId now : ℤ} :
    Journalled (newCommand wire scope draft request recordId now) [] where
  count := rfl
  ordinals := rfl
  dispatching := by
    constructor
    · rintro ⟨⟩
    · rintro ⟨attempt, hattempt, -⟩
      cases hattempt
  latest _ h := by cases h
  answered _ h := by cases h

/-- An attempt begins. -/
theorem Journalled.begin (h : Journalled row own) (hidle : row.status ≠ .dispatching)
    (hresponse : row.response = none) (attemptId requestId : String) (now : ℤ) :
    Journalled (dispatched (row.attemptCount + 1) now row)
      (own ++ [newAttempt attemptId requestId row.recordId (row.attemptCount + 1) now]) where
  count := by
    rw [length_append, length_singleton, Nat.cast_add, Nat.cast_one, h.count]
    rfl
  ordinals := by
    rw [map_append, length_append, length_singleton, range_succ,
      map_append, h.ordinals, map_singleton, map_singleton, h.count]
    rfl
  dispatching := by
    constructor
    · intro _
      exact ⟨_, mem_append_right _ (List.mem_singleton.mpr rfl), rfl⟩
    · intro _
      rfl
  latest := by
    intro attempt hattempt hstatus
    rcases List.mem_append.mp hattempt with hattempt | hattempt
    · exact absurd (h.dispatching.mpr ⟨attempt, hattempt, hstatus⟩) hidle
    · obtain rfl := List.mem_singleton.mp hattempt
      rfl
  answered := by
    intro stored hstored
    change stored ∈ row.response at hstored
    rw [hresponse] at hstored
    cases hstored

variable {ending : Ending Command}

/-- The last attempt ends. -/
theorem Journalled.finish (h : Journalled row own)
    (hattempt : attempt ∈ own) (hdispatching : attempt.status = .dispatching)
    (hending : IsEnding wire ending) (hresponse : row.response = none) :
    Journalled (ending.command row) (own.map fun other =>
      if other.attemptId = attempt.attemptId then ending.attempt other else other) := by
  have hlast := h.latest attempt hattempt hdispatching
  have hover : ∀ other ∈ own, (if other.attemptId = attempt.attemptId then ending.attempt other
      else other).status ≠ .dispatching := by
    intro other hother hstatus
    split_ifs at hstatus with hid
    · cases hending <;> cases hstatus
    · have hsame := (h.latest other hother hstatus).trans hlast.symm
      exact hid (congrArg AttemptRow.attemptId (h.eq_of_ordinal hother hattempt hsame))
  refine h.rewrite ?_ ?_ ?_ ?_ ?_
  · intro other
    split_ifs
    · cases hending <;> rfl
    · rfl
  · cases hending <;> rfl
  · constructor
    · intro hstatus
      cases hending <;> cases hstatus
    · rintro ⟨other, hother, hstatus⟩
      exact absurd hstatus (hover other hother)
  · intro other hother hstatus
    exact absurd hstatus (hover other hother)
  · intro stored hstored
    refine ⟨attempt, hattempt, hlast, ?_⟩
    rw [if_pos rfl]
    cases hending with
    | response =>
      cases hstored
      exact ⟨rfl, rfl, rfl⟩
    | ambiguous | retryable =>
      change stored ∈ row.response at hstored
      rw [hresponse] at hstored
      cases hstored

/-- The process stops and starts again. -/
theorem Journalled.recover (h : Journalled row own) (now : ℤ) :
    Journalled (if row.status == .dispatching then interruptedCommand now row else row)
      (own.map fun attempt =>
        if attempt.status == .dispatching then interruptedAttempt now attempt else attempt) := by
  have hover : ∀ attempt : AttemptRow, (if attempt.status == .dispatching then
      interruptedAttempt now attempt else attempt).status ≠ .dispatching := by
    intro attempt hstatus
    split_ifs at hstatus with hdispatching
    · cases hstatus
    · exact hdispatching (beq_iff_eq.mpr hstatus)
  refine h.rewrite ?_ ?_ ?_ ?_ ?_
  · intro attempt
    split_ifs <;> rfl
  · split_ifs <;> rfl
  · constructor
    · intro hstatus
      split_ifs at hstatus with hdispatching
      · cases hstatus
      · exact absurd (beq_iff_eq.mpr hstatus) hdispatching
    · rintro ⟨attempt, -, hstatus⟩
      exact absurd hstatus (hover attempt)
  · intro attempt _ hstatus
    exact absurd hstatus (hover attempt)
  · intro stored hstored
    have hstored : stored ∈ row.response := by
      split_ifs at hstored <;> exact hstored
    obtain ⟨attempt, hattempt, hlast, hresponded, hrest⟩ := h.answered stored hstored
    refine ⟨attempt, hattempt, hlast, ?_⟩
    rw [if_neg (by rw [hresponded]; decide)]
    exact ⟨hresponded, hrest⟩

/-- What every reachable command has. -/
structure SoundRow (wire : Wire Command) (row : CommandRow Command) (own : List AttemptRow) :
    Prop where
  /-- The scope is valid. -/
  valid : row.scope.validate = .ok ()
  /-- The row can be read. -/
  readable : Readable wire row
  /-- Its attempts are in order. -/
  journalled : Journalled row own

/-- What every reachable database has. -/
structure Consistent (wire : Wire Command) (store : Store Command) : Prop where
  /-- Every row is sound. -/
  rows : ∀ row ∈ store.commands.rows, SoundRow wire row (attemptsOf store.attempts row.recordId)
  /-- Every attempt has its row. -/
  owned : ∀ attempt ∈ store.attempts.rows, ∃ row ∈ store.commands.rows,
    row.recordId = attempt.recordId
  /-- A device has at most one unresolved command. -/
  alone : ∀ first ∈ store.commands.rows, ∀ second ∈ store.commands.rows,
    first.status.isUnresolved = true → second.status.isUnresolved = true →
    first.scope.deviceId = second.scope.deviceId → first = second

theorem consistent_initial (deviceId : String) :
    Consistent wire (Store.initial deviceId : Store Command) where
  rows _ h := by cases h
  owned _ h := by cases h
  alone _ h := by cases h

theorem response_none_of_status (h : Readable wire row)
    (hstatus : row.status.responseRequired = false) : row.response = none := by
  have hpresent := h.present
  rw [hstatus] at hpresent
  exact Option.not_isSome_iff_eq_none.mp (by rw [← hpresent]; decide)

/-- A command that may be sent is unresolved, is not being sent and has no response. -/
theorem waiting_of_maySend (h : status.maySend = true) :
    status.responseRequired = false ∧ status.isUnresolved = true ∧ status ≠ .dispatching := by
  revert h
  cases status <;> decide

section Moves

variable (hmove : RowMove wire asked row own row' own')
include hmove

/-- A command keeps what it was written with. -/
theorem move_same : row'.recordId = row.recordId ∧ row'.scope = row.scope ∧
    row'.draft = row.draft ∧ row'.request = row.request := by
  cases hmove with
  | kept | begun | finalized => exact ⟨rfl, rfl, rfl, rfl⟩
  | ended _ _ _ hending => cases hending <;> exact ⟨rfl, rfl, rfl, rfl⟩
  | interrupted => split_ifs <;> exact ⟨rfl, rfl, rfl, rfl⟩

theorem move_unresolved (h : row'.status.isUnresolved = true) :
    row.status.isUnresolved = true := by
  cases hmove with
  | kept => exact h
  | begun _ _ _ hsend => exact (waiting_of_maySend hsend).2.1
  | ended hstatus | finalized _ _ hstatus =>
    rw [hstatus]
    rfl
  | interrupted =>
    split_ifs at h with hdispatching
    · rw [beq_iff_eq.mp hdispatching]
      rfl
    · exact h

/-- A command that awaits reconciliation does not move. -/
theorem move_reconcileRequired (h : row.status = .reconcileRequired) : row' = row := by
  cases hmove with
  | kept => rfl
  | begun _ _ _ hsend =>
    rw [h] at hsend
    cases hsend
  | ended hstatus | finalized _ _ hstatus =>
    rw [h] at hstatus
    cases hstatus
  | interrupted => exact if_neg (by rw [h]; decide)

variable (h : Readable wire row)
include h

/-- A command without a response, before and after a move. -/
theorem move_readable : Readable wire row' := by
  have hwaits : row.status.responseRequired = false → false = row.response.isSome := by
    intro hstatus
    rw [response_none_of_status h hstatus]
    rfl
  cases hmove with
  | kept => exact h
  | begun _ _ _ hsend => exact { h with present := hwaits (waiting_of_maySend hsend).1 }
  | ended hstatus _ _ hending =>
    cases hending with
    | response =>
      refine { h with hash := ?_, present := rfl }
      rintro _ ⟨⟩
      rfl
    | ambiguous | retryable => exact { h with present := hwaits (by rw [hstatus]; rfl) }
  | @finalized status _ _ hstatus hfinal =>
    have hrequired : status.responseRequired = true := by
      revert hfinal
      cases status <;> decide
    have hpresent : true = row.response.isSome := by
      rw [← h.present, hstatus]
      rfl
    exact { h with present := hrequired.trans hpresent }
  | interrupted =>
    split_ifs with hdispatching
    · exact { h with present := hwaits (by rw [beq_iff_eq.mp hdispatching]; rfl) }
    · exact h

/-- A response stays as it was written. -/
theorem move_response : ∀ stored ∈ row.response, row'.response = some stored := by
  intro stored hstored
  cases hmove with
  | kept | begun | finalized => exact hstored
  | ended hstatus =>
    rw [response_none_of_status h (by rw [hstatus]; rfl)] at hstored
    cases hstored
  | interrupted => split_ifs <;> exact hstored

theorem move_journalled (hown : Journalled row own) : Journalled row' own' := by
  cases hmove with
  | kept => exact hown
  | begun attemptId requestId now hsend =>
    obtain ⟨hrequired, -, hidle⟩ := waiting_of_maySend hsend
    exact hown.begin hidle (response_none_of_status h hrequired) attemptId requestId now
  | ended hstatus hattempt hdispatching hending =>
    exact hown.finish hattempt hdispatching hending
      (response_none_of_status h (by rw [hstatus]; rfl))
  | @finalized status _ _ hstatus hfinal =>
    refine hown.keep rfl (iff_of_false ?_ (by rw [hstatus]; decide)) rfl
    rintro rfl
    cases hfinal
  | interrupted now => exact hown.recover now

end Moves

section

variable (hchange : Change wire asked store store') (h : Consistent wire store)
include hchange h

theorem consistent_of_change : Consistent wire store' := by
  cases hchange with
  | persisted hvalid hbuild hfree hinsert =>
    obtain ⟨hfind, -⟩ := insert?_eq_some hinsert
    refine ⟨?_, ?_, ?_⟩
    · intro row hrow
      rcases (mem_insert hinsert).mp hrow with hrow | rfl
      · exact h.rows row hrow
      · refine ⟨hvalid, ⟨rfl, hbuild, rfl, fun _ hstored => (by cases hstored), rfl⟩, ?_⟩
        rw [attemptsOf, List.filter_eq_nil_iff.mpr]
        · exact journalled_new
        · intro attempt hattempt hid
          obtain ⟨row, hrow, hrecord⟩ := h.owned attempt hattempt
          exact KeyedTable.find?_eq_none.mp hfind row hrow (hrecord.trans (of_decide_eq_true hid))
    · intro attempt hattempt
      obtain ⟨row, hrow, hrecord⟩ := h.owned attempt hattempt
      exact ⟨row, (mem_insert hinsert).mpr (.inl hrow), hrecord⟩
    · intro first hfirst second hsecond hfirstStatus hsecondStatus hdevice
      have hsecond := (mem_insert hinsert).mp hsecond
      rcases (mem_insert hinsert).mp hfirst with hfirst | rfl
      · rcases hsecond with hsecond | rfl
        · exact h.alone first hfirst second hsecond hfirstStatus hsecondStatus hdevice
        · rw [hfree first hfirst hdevice] at hfirstStatus
          cases hfirstStatus
      · rcases hsecond with hsecond | rfl
        · rw [hfree second hsecond hdevice.symm] at hsecondStatus
          cases hsecondStatus
        · rfl
  | moved change hrows hmoves howned =>
    have hmem : ∀ row' ∈ store'.commands.rows, ∃ row ∈ store.commands.rows, change row = row' := by
      intro row' hrow'
      rw [hrows] at hrow'
      exact List.mem_map.mp hrow'
    refine ⟨?_, ?_, ?_⟩
    · intro row' hrow'
      obtain ⟨row, hrow, rfl⟩ := hmem row' hrow'
      obtain ⟨hvalid, hreadable, hjournalled⟩ := h.rows row hrow
      obtain ⟨hid, hscope, -⟩ := move_same (hmoves row hrow)
      rw [hid]
      exact ⟨hscope ▸ hvalid, move_readable (hmoves row hrow) hreadable,
        move_journalled (hmoves row hrow) hreadable hjournalled⟩
    · intro attempt hattempt
      obtain ⟨row, hrow, hrecord⟩ : ∃ row ∈ store.commands.rows,
          row.recordId = attempt.recordId := by
        rcases howned attempt hattempt with ⟨old, hold, hrecord⟩ | hrow
        · rw [← hrecord]
          exact h.owned old hold
        · exact hrow
      exact ⟨change row, by rw [hrows]; exact mem_map_of_mem hrow,
        (move_same (hmoves row hrow)).1.trans hrecord⟩
    · intro first' hfirst' second' hsecond' hfirstStatus hsecondStatus hdevice
      obtain ⟨first, hfirst, rfl⟩ := hmem first' hfirst'
      obtain ⟨second, hsecond, rfl⟩ := hmem second' hsecond'
      rw [(move_same (hmoves first hfirst)).2.1, (move_same (hmoves second hsecond)).2.1] at hdevice
      rw [h.alone first hfirst second hsecond (move_unresolved (hmoves first hfirst) hfirstStatus)
        (move_unresolved (hmoves second hsecond) hsecondStatus) hdevice]

end

/-- The row still holds the command that another row held, with the response that it had. -/
structure SameCommand (row row' : CommandRow Command) : Prop where
  /-- The identity is the same. -/
  recordId : row'.recordId = row.recordId
  /-- The command stays. -/
  draft : row'.draft = row.draft
  /-- And so does its request. -/
  request : row'.request = row.request
  /-- A response stays as it was written. -/
  response : ∀ stored ∈ row.response, row'.response = some stored

theorem SameCommand.refl (row : CommandRow Command) : SameCommand row row :=
  ⟨rfl, rfl, rfl, fun _ h => h⟩

/-- A row that holds the command of a row that holds the command of another. -/
theorem SameCommand.trans {row'' : CommandRow Command} (first : SameCommand row row')
    (second : SameCommand row' row'') : SameCommand row row'' where
  recordId := second.recordId.trans first.recordId
  draft := second.draft.trans first.draft
  request := second.request.trans first.request
  response stored hstored := second.response stored (first.response stored hstored)

theorem change_keeps (hchange : Change wire asked store store') (h : Consistent wire store) :
    ∀ row ∈ store.commands.rows, ∃ row' ∈ store'.commands.rows, SameCommand row row' := by
  intro row hrow
  cases hchange with
  | persisted hvalid hbuild hfree hinsert =>
    exact ⟨row, (mem_insert hinsert).mpr (.inl hrow), .refl row⟩
  | moved change hrows hmoves =>
    obtain ⟨hrecordId, -, hdraft, hrequest⟩ := move_same (hmoves row hrow)
    exact ⟨change row, by rw [hrows]; exact mem_map_of_mem hrow, hrecordId, hdraft, hrequest,
      move_response (hmoves row hrow) (h.rows row hrow).readable⟩

/-- No attempt of the command with the identity is both under way and the last one. -/
def Stale (store : Store Command) (recordId : ℤ) (attemptId : String) : Prop :=
  ∀ attempt ∈ attemptsOf store.attempts recordId, attempt.attemptId = attemptId →
    attempt.status = .dispatching →
    ∃ other ∈ attemptsOf store.attempts recordId, attempt.ordinal < other.ordinal

/-- An attempt that is not the last one under way cannot end. -/
theorem Stale.endAttempt_fails (hstale : Stale store recordId attemptId) (h : Consistent wire store)
    {record : DurableCommandRecord Command} :
    endAttempt wire scope recordId attemptId ending store ≠ .ok (record, store') := by
  intro hresult
  obtain ⟨row, hrow, attempt, hattempt, -, rfl, -, hid, hrecord, hdispatching, -⟩ :=
    endAttempt_ok hresult
  have hown := mem_attemptsOf.mpr ⟨hattempt, hrecord⟩
  have hjournal := (h.rows row hrow).journalled
  obtain ⟨other, hother, hlater⟩ := hstale attempt hown hid hdispatching
  rw [hjournal.latest attempt hown hdispatching] at hlater
  exact absurd (hjournal.ordinal_le hother) (not_le.mpr hlater)

/-- The call is refused and the database is as before. -/
def Refused {α : Type} (transaction : StoreTx Command α) (store : Store Command) : Prop :=
  ∃ refusal, commit transaction store = (.error refusal, store)

theorem refused_of_ne_ok {α : Type} {transaction : StoreTx Command α}
    (h : ∀ out store', transaction store ≠ .ok (out, store')) : Refused transaction store := by
  cases hresult : transaction store with
  | ok pair => exact absurd hresult (h pair.1 pair.2)
  | error refusal => exact ⟨refusal, commit_of_error hresult⟩

section Runs

variable [DecidableEq Command] {w w' : World Command}
  {condition : World Command → Step Command → Prop}

/-- Runs keep the database consistent and every command. -/
theorem run_keeps (h : StoreRun wire condition w w') (hw : Consistent wire w.store) :
    Consistent wire w'.store ∧
      ∀ row ∈ w.store.commands.rows, ∃ row' ∈ w'.store.commands.rows, SameCommand row row' := by
  refine Run.preserves (fun w' : World Command => Consistent wire w'.store ∧
    ∀ row ∈ w.store.commands.rows, ∃ row' ∈ w'.store.commands.rows, SameCommand row row') ?_ h
    ⟨hw, fun row hrow => ⟨row, hrow, .refl row⟩⟩
  rintro mid step _ - rfl ⟨hmid, hkept⟩
  have hchange := run_change wire step.now mid.store step.call
  refine ⟨consistent_of_change hchange hmid, ?_⟩
  intro row hrow
  obtain ⟨row', hrow', hsame⟩ := hkept row hrow
  obtain ⟨row'', hrow'', hsame'⟩ := change_keeps hchange hmid row' hrow'
  exact ⟨row'', hrow'', hsame.trans hsame'⟩

/-- Every attempt that was handed out shows a stored command. -/
def Shown (w : World Command) : Prop :=
  ∀ attempt ∈ w.dispatched, ∃ row ∈ w.store.commands.rows,
    row.recordId = attempt.command.recordId ∧ row.draft = attempt.command.draft ∧
      row.request = attempt.command.request

/-- Runs from a new database keep the database consistent and show stored commands. -/
theorem run_consistent {deviceId : String}
    (h : StoreRun wire condition (World.initial deviceId) w) :
    Consistent wire w.store ∧ Shown w := by
  refine Run.preserves (fun w : World Command => Consistent wire w.store ∧ Shown w) ?_ h
    ⟨consistent_initial deviceId, fun attempt hattempt => by cases hattempt⟩
  rintro mid step _ - rfl ⟨hmid, hshown⟩
  have hchange := run_change wire step.now mid.store step.call
  refine ⟨consistent_of_change hchange hmid, ?_⟩
  intro attempt hattempt
  rcases List.mem_append.mp hattempt with hattempt | hattempt
  · obtain ⟨row, hrow, hid, hdraft, hrequest⟩ := hshown attempt hattempt
    obtain ⟨row', hrow', hsame⟩ := change_keeps hchange hmid row hrow
    exact ⟨row', hrow', hsame.recordId.trans hid, hsame.draft.trans hdraft,
      hsame.request.trans hrequest⟩
  · obtain ⟨row, hrow, hcommand⟩ := handedOut_stored (Option.mem_toList.mp hattempt)
    exact ⟨row, hrow, by rw [hcommand]; rfl, by rw [hcommand]; rfl, by rw [hcommand]; rfl⟩

/-- In every state that the store reaches, a device has at most one unresolved command; a
command counts its attempts and is being dispatched exactly while its last attempt, and no
other, is under way; a response is there in the four statuses that have one, belongs to the
last attempt and stays; all that was handed out for a command carries one request and one key;
and a call with a stale attempt is refused and changes nothing. -/
theorem commands_and_attempts_stay_in_step {deviceId : String}
    (h : StoreRun wire anyStep (World.initial deviceId) w) :
    (∀ first ∈ w.store.commands.rows, ∀ second ∈ w.store.commands.rows,
      first.status.isUnresolved = true → second.status.isUnresolved = true →
      first.scope.deviceId = second.scope.deviceId → first = second) ∧
    (∀ row ∈ w.store.commands.rows,
      (row.status = .dispatching ↔
        ∃ attempt ∈ attemptsOf w.store.attempts row.recordId, attempt.status = .dispatching) ∧
      (∀ attempt ∈ attemptsOf w.store.attempts row.recordId, attempt.status = .dispatching →
        ∀ other ∈ attemptsOf w.store.attempts row.recordId, other ≠ attempt →
          other.ordinal < attempt.ordinal ∧ other.status ≠ .dispatching) ∧
      row.attemptCount = (attemptsOf w.store.attempts row.recordId).length ∧
      (row.response.isSome = true ↔ row.status = .responseRecorded ∨
        row.status = .reconcileRequired ∨ row.status = .completed ∨ row.status = .rejected) ∧
      (∀ stored ∈ row.response,
        (∃ attempt ∈ attemptsOf w.store.attempts row.recordId,
          attempt.ordinal = row.attemptCount ∧ attempt.status = .responded ∧
          attempt.httpStatus = some stored.response.status ∧
          attempt.serverRequestId = stored.response.serverRequestId) ∧
        ∀ w', StoreRun wire anyStep w w' → ∃ row' ∈ w'.store.commands.rows,
          row'.recordId = row.recordId ∧ row'.response = some stored)) ∧
    (∀ first ∈ w.dispatched, ∀ second ∈ w.dispatched,
      first.command.recordId = second.command.recordId →
      first.command.request = second.command.request ∧
        first.command.draft.idempotencyKey = second.command.draft.idempotencyKey) ∧
    (∀ scope recordId attemptId now, Stale w.store recordId attemptId →
      (∀ message, Refused (markAmbiguous wire scope recordId attemptId message now) w.store) ∧
      (∀ response, Refused (recordResponse wire scope recordId attemptId response now) w.store) ∧
      ∀ response,
        Refused (recordRetryableResponse wire scope recordId attemptId response now) w.store) := by
  obtain ⟨hconsistent, hshown⟩ := run_consistent h
  refine ⟨hconsistent.alone, ?_, ?_, ?_⟩
  · intro row hrow
    have hjournal := (hconsistent.rows row hrow).journalled
    refine ⟨hjournal.dispatching, fun _ hattempt hdispatching _ hother hne =>
      hjournal.last hattempt hdispatching hother hne, hjournal.count.symm, ?_, ?_⟩
    · rw [← (hconsistent.rows row hrow).readable.present]
      cases row.status <;> decide
    · intro stored hstored
      refine ⟨hjournal.answered stored hstored, fun w' hlater => ?_⟩
      obtain ⟨row', hrow', hsame⟩ := (run_keeps hlater hconsistent).2 row hrow
      exact ⟨row', hrow', hsame.recordId, hsame.response stored hstored⟩
  · intro first hfirst second hsecond hrecord
    obtain ⟨row, hrow, hid, hdraft, hrequest⟩ := hshown first hfirst
    obtain ⟨row', hrow', hid', hdraft', hrequest'⟩ := hshown second hsecond
    obtain rfl := w.store.commands.eq_of_key_eq hrow hrow' (hid.trans (hrecord.trans hid'.symm))
    rw [← hrequest, ← hrequest', ← hdraft, ← hdraft']
    exact ⟨rfl, rfl⟩
  · intro scope recordId attemptId now hstale
    refine ⟨fun message => ?_, fun response => ?_, fun response => ?_⟩
    · refine refused_of_ne_ok fun record store' hresult => ?_
      obtain ⟨-, -, hresult⟩ := lift_bind_ok.mp hresult
      exact hstale.endAttempt_fails hconsistent hresult
    all_goals
      refine refused_of_ne_ok fun record store' hresult => ?_
      obtain ⟨-, -, hresult⟩ := lift_bind_ok.mp hresult
      obtain ⟨-, hresult⟩ := ensure_bind_ok.mp hresult
      exact hstale.endAttempt_fails hconsistent hresult

end Runs

section Scanner

/-- SHA-256 of the bodies below: an empty object, and nothing. -/
def bodyDigest (body : Bytes) : Digest :=
  if body = [0x7b, 0x7d] then #v[0x44, 0x13, 0x6f, 0xa3, 0x55, 0xb3, 0x67, 0x8a, 0x11, 0x46, 0xad,
    0x16, 0xf7, 0xe8, 0x64, 0x9e, 0x94, 0xfb, 0x4f, 0xc2, 0x1f, 0xe7, 0x7e, 0x83, 0x10, 0xc0, 0x60,
    0xf6, 0x1c, 0xaa, 0xff, 0x8a]
  else if body = [] then #v[0xe3, 0xb0, 0xc4, 0x42, 0x98, 0xfc, 0x1c, 0x14, 0x9a, 0xfb, 0xf4, 0xc8,
    0x99, 0x6f, 0xb9, 0x24, 0x27, 0xae, 0x41, 0xe4, 0x64, 0x9b, 0x93, 0x4c, 0xa4, 0x95, 0x99, 0x1b,
    0x78, 0x52, 0xb8, 0x55]
  else .replicate 32 0

/-- The request that claims a putaway task by its number. -/
def claimRequest (taskId : ℕ+) : DurableHttpRequest :=
  ⟨.post, "/api/v1/putaway-claims/" ++ toString (taskId : ℕ), "application/json", [0x7b, 0x7d],
    bodyDigest [0x7b, 0x7d], .claim⟩

/-- The wire of a device that claims putaway tasks by their numbers. -/
def claimWire : Wire ℕ+ where
  operationOf _ := .claimById
  build draft := .ok (claimRequest draft.command)
  sha256 := bodyDigest
  build_sha256 := by
    rintro draft _ ⟨⟩
    rfl
  canonicalUrl url := some url

/-- The operator of a scanner. -/
def scannerScope : ExecutionScope := ⟨1, 7, "scanner-1"⟩

/-- A command of that operator. -/
def scannerDraft : DurableCommandDraft ℕ+ := ⟨1, "command-1", "key-1", 42⟩

/-- The server has done the command. -/
def doneResponse : DurableHttpResponse := ⟨200, by decide, [], some "server-1"⟩

/-- The process stops during the first attempt, and the second attempt is answered. -/
def interruptedDispatch : List (Step ℕ+) :=
  [⟨1, .persist scannerScope scannerDraft 0⟩,
   ⟨2, .beginAttempt scannerScope 1 "attempt-1" "request-1"⟩,
   ⟨3, .restart⟩,
   ⟨4, .beginAttempt scannerScope 1 "attempt-2" "request-2"⟩,
   ⟨5, .recordResponse scannerScope 1 "attempt-2" doneResponse⟩]

/-- The state after that run. -/
def afterInterruption : World ℕ+ :=
  replay (World.next claimWire) interruptedDispatch (World.initial "scanner-1")

/-- The two attempts of the interrupted command carry one request, and a late answer to the
first of them is refused. -/
theorem interrupted_dispatch_stays_in_step :
    (afterInterruption.dispatched.map DispatchAttempt.ordinal = [1, 2] ∧
      ∀ first ∈ afterInterruption.dispatched, ∀ second ∈ afterInterruption.dispatched,
        first.command.recordId = second.command.recordId →
        first.command.request = second.command.request ∧
          first.command.draft.idempotencyKey = second.command.draft.idempotencyKey) ∧
      Refused (recordResponse claimWire scannerScope 1 "attempt-1" doneResponse 6)
        afterInterruption.store := by
  have hrun : StoreRun claimWire anyStep (World.initial "scanner-1") afterInterruption :=
    run_replay_any (World.next claimWire) _
  have hconclusion := commands_and_attempts_stay_in_step hrun
  have hstale : Stale afterInterruption.store 1 "attempt-1" := by
    unfold Stale
    decide +kernel
  exact ⟨⟨by decide +kernel, hconclusion.2.2.1⟩,
    (hconclusion.2.2.2 scannerScope 1 "attempt-1" 6 hstale).2.1 doneResponse⟩

end Scanner

end Wareboxes.RfCommandJournal
