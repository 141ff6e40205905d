import Wareboxes.RfCommandJournal

/-!
# Ways out of an unresolved command

A device starts no command while it has an unresolved one. A command that waits
can be sent, one that was sent can be answered, and one that was answered can be
finalized, so a few calls free the device. A command whose finalization asks for
reconciliation has no way out: no call accepts that status, and the device starts
no other command.
-/

namespace Wareboxes.RfCommandExits

open KeyedTables RustTime Transactions Transaction LabelledRuns RfCommandStore RfCommandRuns
open RfCommandJournal KeyedTable

variable {Command : Type} {wire : Wire Command} {store store' : Store Command}
  {row : CommandRow Command} {now : ℤ}

/-- The device has no unresolved command. -/
def FreeFor (device : String) (store : Store Command) : Prop :=
  ∀ row ∈ store.commands.rows, row.scope.deviceId = device → row.status.isUnresolved = false

/-- A call that may ask for every final status keeps the database consistent. -/
theorem still_consistent (hchange : Change wire (fun _ => True) store store')
    (h : Consistent wire store) : Consistent wire store' :=
  consistent_of_change hchange h

theorem loadScoped_stored (h : Consistent wire store) (hrow : row ∈ store.commands.rows) :
    loadScoped wire row.scope row.recordId store = .ok (recordOf row, store) :=
  loadScoped_ok.mpr ⟨rfl, row, KeyedTable.find?_eq_some.mpr ⟨hrow, rfl⟩,
    (h.rows row hrow).readable, rfl,
    rfl⟩

/-- The rewritten command is stored. -/
theorem mem_rewriteRow {rewrite : CommandRow Command → CommandRow Command}
    (hkey : ∀ row, (rewrite row).recordId = row.recordId) (hrow : row ∈ store.commands.rows) :
    rewrite row ∈ (store.commands.rewriteRow row.recordId rewrite hkey).rows := by
  rw [rewriteRow_rows]
  exact (mem_map_key_iff hrow _).mpr (.inl rfl)

section

variable (h : Consistent wire store) (hrow : row ∈ store.commands.rows)
include h hrow

theorem loadRecord_stored {recordId : ℤ} (hid : row.recordId = recordId) :
    loadRecord wire recordId store = .ok (recordOf row, store) :=
  loadRecord_ok.mpr ⟨rfl, row, KeyedTable.find?_eq_some.mpr ⟨hrow, hid⟩,
    (h.rows row hrow).readable, rfl⟩

/-- A command with a response is finalized. -/
theorem finalize_succeeds (hstatus : row.status = .responseRecorded) (now : ℤ) :
    finalize wire row.scope row.recordId .completed none now store =
      .ok (recordOf (finalized .completed none now row), { store with
        commands := store.commands.rewriteRow row.recordId (finalized .completed none now)
          (finalized_recordId _ _ _) }) := by
  unfold finalize
  refine lift_bind_ok.mpr ⟨(), (h.rows row hrow).valid, ensure_bind_ok.mpr ⟨rfl, ?_⟩⟩
  refine bind_ok.mpr ⟨_, _, loadScoped_stored h hrow, ensure_bind_ok.mpr ⟨hstatus, ?_⟩⟩
  exact loadRecord_stored (still_consistent (final_change none now hrow hstatus rfl trivial) h)
    (mem_rewriteRow (finalized_recordId _ _ _) hrow) rfl

/-- An attempt under way ends. -/
theorem endAttempt_succeeds (hstatus : row.status = .dispatching) {attempt : AttemptRow}
    (hown : attempt ∈ attemptsOf store.attempts row.recordId)
    (hdispatching : attempt.status = .dispatching) {ending : Ending Command}
    (hending : IsEnding wire ending) :
    ∃ record store', endAttempt wire row.scope row.recordId attempt.attemptId ending store =
      .ok (record, store') ∧ ending.command row ∈ store'.commands.rows := by
  obtain ⟨hattempt, hrecord⟩ := mem_attemptsOf.mp hown
  have hguard : (attempt.recordId == row.recordId && attempt.status == .dispatching) = true := by
    rw [hrecord, hdispatching, beq_self_eq_true, beq_self_eq_true]
    rfl
  have hupdates : ∃ attempts, store.attempts.updateOne? attempt.attemptId
      (fun other => other.recordId == row.recordId && other.status == .dispatching)
      ending.attempt ending.attempt_id = some attempts :=
    updateOne?_of_find? (find?_of_mem hattempt) hguard
  obtain ⟨attempts, hupdate⟩ := hupdates
  obtain ⟨-, -, -, hattempts⟩ := updateOne?_eq_some hupdate
  have hmem := mem_rewriteRow ending.command_id hrow
  have hafter := still_consistent
    (end_change hrow hstatus hattempt hrecord hdispatching hending hattempts) h
  refine ⟨recordOf (ending.command row), { store with
    attempts
    commands := store.commands.rewriteRow row.recordId ending.command ending.command_id }, ?_, hmem⟩
  unfold endAttempt
  refine bind_ok.mpr ⟨_, _, loadScoped_stored h hrow, ensure_bind_ok.mpr ⟨hstatus, ?_⟩⟩
  exact orFail_bind_ok.mpr ⟨attempts, hupdate,
    loadRecord_stored hafter hmem (ending.command_id row)⟩

end

/-- The server has done the command. -/
def okResponse : DurableHttpResponse := ⟨200, doneResponse.status_lt, [], none⟩

theorem exists_fresh (used : List String) : ∃ fresh, fresh ∉ used := by
  obtain ⟨fresh, hfresh⟩ := Infinite.exists_notMem_finset used.toFinset
  exact ⟨fresh, fun hmem => hfresh (List.mem_toFinset.mpr hmem)⟩

/-- A command that may be sent is sent, while its attempts can be counted. -/
theorem beginAttempt_succeeds (h : Consistent wire store) (hrow : row ∈ store.commands.rows)
    (hsend : row.status.maySend = true) (hcount : row.attemptCount < maxI64) (now : ℤ) :
    ∃ attemptId requestId attempt store',
      beginAttempt wire row.scope row.recordId attemptId requestId now store =
        .ok (attempt, store') ∧
      dispatched (row.attemptCount + 1) now row ∈ store'.commands.rows := by
  obtain ⟨attemptId, hattemptId⟩ := exists_fresh (store.attempts.rows.map AttemptRow.attemptId)
  obtain ⟨requestId, hrequestId⟩ := exists_fresh (store.attempts.rows.map AttemptRow.requestId)
  have hreadable := (h.rows row hrow).readable
  have hclash : store.attempts.rows.any (AttemptRow.clashes
      (newAttempt attemptId requestId row.recordId (row.attemptCount + 1) now)) = false := by
    refine List.any_eq_false.mpr fun other hother hclashes => ?_
    unfold AttemptRow.clashes at hclashes
    rw [Bool.or_eq_true, Bool.and_eq_true, beq_iff_eq, beq_iff_eq, beq_iff_eq] at hclashes
    rcases hclashes with hsame | ⟨hrecord, hordinal⟩
    · exact hrequestId (List.mem_map.mpr ⟨other, hother, hsame.symm⟩)
    · have hle := (h.rows row hrow).journalled.ordinal_le
        (mem_attemptsOf.mpr ⟨hother, hrecord.symm⟩)
      rw [← hordinal] at hle
      exact absurd hle (not_le.mpr (lt_add_one _))
  have hfind : store.attempts.find? (newAttempt attemptId requestId row.recordId
      (row.attemptCount + 1) now).attemptId = none :=
    KeyedTable.find?_eq_none.mpr fun other hother hsame =>
      hattemptId (List.mem_map.mpr ⟨other, hother, hsame⟩)
  obtain ⟨attempts, hinsert⟩ := insert?_of_find?_none hfind
  have hmem := mem_rewriteRow (dispatched_recordId (row.attemptCount + 1) now) hrow
  have hafter := still_consistent (begin_change hrow hsend hinsert) h
  refine ⟨attemptId, requestId, ⟨attemptId, requestId, row.attemptCount + 1,
    recordOf (dispatched (row.attemptCount + 1) now row)⟩, { store with
      attempts
      commands := store.commands.rewriteRow row.recordId (dispatched (row.attemptCount + 1) now)
        (dispatched_recordId _ _) }, ?_, hmem⟩
  have hverified : verifyBody wire row.request = true :=
    decide_eq_true (wire.build_sha256 _ _ hreadable.request).symm
  unfold beginAttempt
  refine lift_bind_ok.mpr ⟨(), (h.rows row hrow).valid, ?_⟩
  refine bind_ok.mpr ⟨_, _, loadScoped_stored h hrow, ensure_bind_ok.mpr ⟨hsend, ?_⟩⟩
  refine ensure_bind_ok.mpr ⟨hverified, ensure_bind_ok.mpr ⟨hcount, ?_⟩⟩
  refine ensure_bind_ok.mpr ⟨hclash, orFail_bind_ok.mpr ⟨attempts, hinsert, ?_⟩⟩
  rw [modify_bind]
  exact bind_ok.mpr ⟨_, _, loadRecord_stored hafter hmem rfl, rfl⟩

section Freeing

variable [DecidableEq Command] {w : World Command}

/-- A call with its outcome is a step with that outcome. -/
theorem next_store_of_ok {α : Type} {transaction : StoreTx Command α} {out : α}
    {step : Step Command}
    (hcall : runCall wire step.now w.store step.call = (commit transaction w.store).2)
    (h : transaction w.store = .ok (out, store')) : (w.next wire step).store = store' := by
  change runCall wire step.now w.store step.call = store'
  rw [hcall, commit_of_ok h]

section

variable (h : Consistent wire w.store)
include h

theorem next_consistent (step : Step Command) : Consistent wire (w.next wire step).store :=
  consistent_of_change (run_change wire step.now w.store step.call) h

theorem replay_consistent (steps : List (Step Command)) :
    Consistent wire (replay (World.next wire) steps w).store := by
  induction steps generalizing w with
  | nil => exact h
  | cons step rest ih => exact ih (next_consistent h step)

section

variable (hrow : row ∈ w.store.commands.rows)
include hrow

/-- A device with a recorded response is freed by its finalization. -/
theorem freed_of_responseRecorded (hstatus : row.status = .responseRecorded) :
    ∃ steps, FreeFor row.scope.deviceId (replay (World.next wire) steps w).store := by
  refine ⟨[⟨0, .finalize row.scope row.recordId .completed none⟩], ?_⟩
  change FreeFor _ (w.next wire _).store
  rw [next_store_of_ok rfl (finalize_succeeds h hrow hstatus 0)]
  intro other hother hdevice
  rw [rewriteRow_rows] at hother
  rcases (mem_map_key_iff hrow _).mp hother with rfl | ⟨hother, hne⟩
  · rfl
  · by_contra hopen
    have hsame := h.alone other hother row hrow (Bool.ne_false_iff.mp hopen)
      (by rw [hstatus]; rfl) hdevice
    exact hne (congrArg CommandRow.recordId hsame)

/-- A device with an attempt under way is freed by an answer. -/
theorem freed_of_dispatching (hstatus : row.status = .dispatching) :
    ∃ steps, FreeFor row.scope.deviceId (replay (World.next wire) steps w).store := by
  obtain ⟨attempt, hown, hdispatching⟩ := (h.rows row hrow).journalled.dispatching.mp hstatus
  obtain ⟨record, store', hend, hmem⟩ :=
    endAttempt_succeeds h hrow hstatus hown hdispatching (.response okResponse 0)
  have hcall : recordResponse wire row.scope row.recordId attempt.attemptId okResponse 0 w.store =
      .ok (record, store') :=
    lift_bind_ok.mpr ⟨(), (h.rows row hrow).valid, ensure_bind_ok.mpr ⟨rfl, hend⟩⟩
  let step : Step Command :=
    ⟨0, .recordResponse row.scope row.recordId attempt.attemptId okResponse⟩
  have hnext : (w.next wire step).store = store' := next_store_of_ok rfl hcall
  obtain ⟨steps, hfree⟩ := freed_of_responseRecorded (next_consistent h step)
    (by rw [hnext]; exact hmem) rfl
  exact ⟨step :: steps, hfree⟩

/-- A device with a command that may be sent is freed by its sending. -/
theorem freed_of_maySend (hsend : row.status.maySend = true) (hcount : row.attemptCount < maxI64) :
    ∃ steps, FreeFor row.scope.deviceId (replay (World.next wire) steps w).store := by
  obtain ⟨attemptId, requestId, attempt, store', hcall, hmem⟩ :=
    beginAttempt_succeeds h hrow hsend hcount 0
  let step : Step Command := ⟨0, .beginAttempt row.scope row.recordId attemptId requestId⟩
  have hnext : (w.next wire step).store = store' := next_store_of_ok rfl hcall
  obtain ⟨steps, hfree⟩ := freed_of_dispatching (next_consistent h step)
    (by rw [hnext]; exact hmem) rfl
  exact ⟨step :: steps, hfree⟩

end

end

/-- The command has no way out: its answer could not be applied, or it waits and its attempts
can no longer be counted. -/
def DeadEnd (row : CommandRow Command) : Prop :=
  row.status = .reconcileRequired ∨ row.status.maySend = true ∧ maxI64 ≤ row.attemptCount

omit [DecidableEq Command] in
theorem unresolved_cases {status : CommandStatus} (h : status.isUnresolved = true) :
    status = .reconcileRequired ∨ status = .responseRecorded ∨ status = .dispatching ∨
      status.maySend = true := by
  revert h
  cases status <;> decide

variable {device : String} {reason : CommandStoreError} {scope : ExecutionScope}
  {draft : DurableCommandDraft Command} {asked : CommandStatus → Prop}

/-- A device without a dead end is freed by a few calls. -/
theorem exists_freed (h : Consistent wire w.store)
    (hexit : ∀ row ∈ w.store.commands.rows, row.scope.deviceId = device → ¬ DeadEnd row) :
    ∃ steps, FreeFor device (replay (World.next wire) steps w).store := by
  by_cases hfree : FreeFor device w.store
  · exact ⟨[], hfree⟩
  · unfold FreeFor at hfree
    push Not at hfree
    obtain ⟨row, hrow, rfl, hopen⟩ := hfree
    have hexit := hexit row hrow rfl
    rcases unresolved_cases (Bool.ne_false_iff.mp hopen) with hstatus | hstatus | hstatus | hsend
    · exact absurd (.inl hstatus) hexit
    · exact freed_of_responseRecorded h hrow hstatus
    · exact freed_of_dispatching h hrow hstatus
    · exact freed_of_maySend h hrow hsend (not_le.mp fun hcount => hexit (.inr ⟨hsend, hcount⟩))

/-- `persist` never answers for the device that an unresolved command exists. -/
def Accepts (wire : Wire Command) (device : String) (store : Store Command) : Prop :=
  ∀ scope draft choice now, scope.deviceId = device →
    (commit (persist wire scope draft choice now) store).1 ≠
      .error (.error .unresolvedCommandExists)

/-- A step that asks for no reconciliation, while every command can be sent once more and its
attempts still be counted. -/
def Settling (w : World Command) (step : Step Command) : Prop :=
  (∀ scope recordId message, step.call ≠ .finalize scope recordId .reconcileRequired message) ∧
    ∀ row ∈ w.store.commands.rows, row.attemptCount + 1 < maxI64

theorem validate_error (h : scope.validate = .error reason) : reason = .invalidScope := by
  unfold ExecutionScope.validate at h
  split_ifs at h
  cases h
  rfl

omit [DecidableEq Command] in
theorem buildRequest_error (h : buildRequest wire draft = .error reason) :
    ∃ message, reason = .wire message := by
  unfold buildRequest at h
  cases hbuild : wire.build draft with
  | ok =>
    rw [hbuild] at h
    cases h
  | error message =>
    rw [hbuild] at h
    cases h
    exact ⟨message, rfl⟩

theorem FreeFor.accepts (hfree : FreeFor device store) (h : Consistent wire store) :
    Accepts wire device store := by
  rintro scope draft choice now rfl hrefused
  have hresult : persist wire scope draft choice now store =
      .error (.error .unresolvedCommandExists) := by
    cases hcall : persist wire scope draft choice now store with
    | ok =>
      rw [commit_of_ok hcall] at hrefused
      cases hrefused
    | error =>
      rw [commit_of_error hcall] at hrefused
      cases hrefused
      rfl
  have hopen : store.commands.rows.any (CommandRow.blocks scope.deviceId) = false := by
    refine List.any_eq_false.mpr fun row hrow hblocks => ?_
    rw [CommandRow.blocks, Bool.and_eq_true, beq_iff_eq] at hblocks
    exact absurd hblocks.2 (by rw [hfree row hrow hblocks.1]; decide)
  unfold persist at hresult
  cases hvalid : scope.validate with
  | error =>
    rw [lift_bind_of_error hvalid] at hresult
    cases hresult
    cases validate_error hvalid
  | ok =>
    rw [lift_bind_of_ok hvalid] at hresult
    cases hbuild : buildRequest wire draft with
    | error =>
      rw [lift_bind_of_error hbuild] at hresult
      cases hresult
      obtain ⟨_, ⟨⟩⟩ := buildRequest_error hbuild
    | ok request =>
      rw [lift_bind_of_ok hbuild, gets_bind] at hresult
      cases hfind : store.commands.rows.find? (fun row => row.commandId == draft.commandId) with
      | some =>
        rw [hfind] at hresult
        dsimp only at hresult
        rw [bind_of_ok (loadRecord_stored h (List.mem_of_find?_eq_some hfind) rfl)] at hresult
        rcases bind_error.mp hresult with hsame | ⟨_, _, -, ⟨⟩⟩
        obtain ⟨-, ⟨⟩⟩ := ensure_error.mp hsame
      | none =>
        rw [hfind] at hresult
        dsimp only at hresult
        rw [ensure_bind_of_true hopen] at hresult
        rcases bind_error.mp hresult with hshared | ⟨_, mid, hshared, hresult⟩
        · obtain ⟨-, ⟨⟩⟩ := ensure_error.mp hshared
        obtain ⟨-, hmid⟩ := ensure_ok.mp hshared
        rw [hmid] at hresult
        cases hinsert : store.commands.insert? (newCommand wire scope draft request
            (newRowId store.commands.rows choice) now) with
        | none =>
          rw [hinsert] at hresult
          cases hresult
        | some commands =>
          have hmem : newCommand wire scope draft request
              (newRowId store.commands.rows choice) now ∈ commands.rows :=
            (mem_insert hinsert).mpr (.inr rfl)
          have hafter := still_consistent
            (.persisted hvalid (buildRequest_ok.mp hbuild) hfree hinsert) h
          have hload := loadRecord_stored hafter hmem rfl
          rw [bind_of_ok (orFail_ok.mpr ⟨hinsert, rfl⟩), modify_bind] at hresult
          exact absurd (hload.symm.trans hresult) (by rintro ⟨⟩)

/-- What the steps that ask for no reconciliation keep. -/
def Countable (store : Store Command) : Prop :=
  ∀ row ∈ store.commands.rows, row.status ≠ .reconcileRequired ∧ row.attemptCount < maxI64

omit [DecidableEq Command] in
theorem move_countable {row' : CommandRow Command} {own own' : List AttemptRow}
    (hmove : RowMove wire asked row own row' own') (hasked : ¬ asked .reconcileRequired)
    (hcount : row.attemptCount + 1 < maxI64)
    (h : row.status ≠ .reconcileRequired ∧ row.attemptCount < maxI64) :
    row'.status ≠ .reconcileRequired ∧ row'.attemptCount < maxI64 := by
  cases hmove with
  | kept => exact h
  | begun => exact ⟨by rintro ⟨⟩, hcount⟩
  | ended _ _ _ hending => cases hending <;> exact ⟨by rintro ⟨⟩, h.2⟩
  | finalized _ _ _ _ hgiven => exact ⟨fun hsame => hasked (hsame ▸ hgiven), h.2⟩
  | interrupted =>
    split_ifs
    · exact ⟨by rintro ⟨⟩, h.2⟩
    · exact h

omit [DecidableEq Command] in
/-- A change that asks for no reconciliation, while the attempts can be counted. -/
theorem Countable.change (hchange : Change wire asked store store')
    (hasked : ¬ asked .reconcileRequired)
    (hcount : ∀ row ∈ store.commands.rows, row.attemptCount + 1 < maxI64) (h : Countable store) :
    Countable store' := by
  intro row' hrow'
  cases hchange with
  | persisted hvalid hbuild hfree hinsert =>
    rcases (mem_insert hinsert).mp hrow' with hrow | rfl
    · exact h row' hrow
    · exact ⟨by rintro ⟨⟩, show (0 : ℤ) < maxI64 by decide⟩
  | moved change hrows hmoves =>
    rw [hrows] at hrow'
    obtain ⟨row, hrow, rfl⟩ := List.mem_map.mp hrow'
    exact move_countable (hmoves row hrow) hasked (hcount row hrow) (h row hrow)

/-- Runs without a request for reconciliation keep the statuses and the counts. -/
theorem settling_countable {deviceId : String}
    (h : StoreRun wire Settling (World.initial deviceId) w) : Countable w.store := by
  refine Run.preserves (fun w : World Command => Countable w.store) ?_ h
    fun row hrow => by cases hrow
  rintro mid step _ ⟨hasked, hcount⟩ rfl hmid
  refine Countable.change (run_change wire step.now mid.store step.call) ?_ hcount hmid
  rintro ⟨scope, recordId, message, hcall⟩
  exact hasked scope recordId message hcall

/-- From every state in which the device has no dead end a few calls lead to a state in which
`persist` does not answer that an unresolved command exists. When no finalization asks for
reconciliation and the attempts can be counted, every state that the store reaches is such a
state. -/
theorem device_without_dead_end_is_freed {deviceId : String}
    (h : StoreRun wire anyStep (World.initial deviceId) w) :
    (∀ device, (∀ row ∈ w.store.commands.rows, row.scope.deviceId = device → ¬ DeadEnd row) →
      ∃ steps, Accepts wire device (replay (World.next wire) steps w).store) ∧
    (StoreRun wire Settling (World.initial deviceId) w →
      ∀ device, ∃ steps, Accepts wire device (replay (World.next wire) steps w).store) := by
  have hconsistent := (run_consistent h).1
  have hfreed : ∀ device,
      (∀ row ∈ w.store.commands.rows, row.scope.deviceId = device → ¬ DeadEnd row) →
      ∃ steps, Accepts wire device (replay (World.next wire) steps w).store := by
    intro device hexit
    obtain ⟨steps, hfree⟩ := exists_freed hconsistent hexit
    exact ⟨steps, hfree.accepts (replay_consistent hconsistent steps)⟩
  refine ⟨hfreed, fun hsettling device => hfreed device fun row hrow _ hdead => ?_⟩
  obtain ⟨hstatus, hcount⟩ := settling_countable hsettling row hrow
  rcases hdead with hdead | ⟨-, hdead⟩
  · exact hstatus hdead
  · exact absurd hcount (not_lt.mpr hdead)

/-- The scanner is freed although its process stopped during an attempt. -/
theorem interrupted_scanner_is_freed :
    ∃ steps, Accepts claimWire "scanner-1"
      (replay (World.next claimWire) steps (replay (World.next claimWire)
        (interruptedDispatch.take 3) (World.initial "scanner-1"))).store := by
  have hrun : StoreRun claimWire anyStep (World.initial "scanner-1") (replay (World.next claimWire)
      (interruptedDispatch.take 3) (World.initial "scanner-1")) :=
    run_replay_any (World.next claimWire) _
  refine (device_without_dead_end_is_freed hrun).1 "scanner-1" ?_
  unfold DeadEnd
  decide +kernel

omit [DecidableEq Command] in
/-- No change touches a command that awaits reconciliation. -/
theorem reconcileRequired_kept (hchange : Change wire asked store store')
    (hrow : row ∈ store.commands.rows) (hstatus : row.status = .reconcileRequired) :
    row ∈ store'.commands.rows := by
  cases hchange with
  | persisted hvalid hbuild hfree hinsert => exact (mem_insert hinsert).mpr (.inl hrow)
  | moved change hrows hmoves =>
    rw [hrows]
    exact List.mem_map.mpr ⟨row, hrow, move_reconcileRequired (hmoves row hrow) hstatus⟩

theorem run_keeps_reconcileRequired {w' : World Command} (h : StoreRun wire anyStep w w')
    (hrow : row ∈ w.store.commands.rows) (hstatus : row.status = .reconcileRequired) :
    row ∈ w'.store.commands.rows := by
  refine Run.preserves (fun w' : World Command => row ∈ w'.store.commands.rows) ?_ h hrow
  rintro mid step _ - rfl hmid
  exact reconcileRequired_kept (run_change wire step.now mid.store step.call) hmid hstatus

/-- A device with an unresolved command is refused every other one. -/
theorem persist_refused (hrow : row ∈ store.commands.rows)
    (hopen : row.status.isUnresolved = true) (hdevice : row.scope.deviceId = scope.deviceId)
    (hvalid : scope.validate = .ok ()) {request : DurableHttpRequest}
    (hbuild : wire.build draft = .ok request)
    (hnew : ∀ other ∈ store.commands.rows, other.commandId ≠ draft.commandId) (choice now : ℤ) :
    commit (persist wire scope draft choice now) store =
      (.error (.error .unresolvedCommandExists), store) := by
  have hfind : store.commands.rows.find? (fun row => row.commandId == draft.commandId) = none :=
    List.find?_eq_none.mpr fun other hother hsame => hnew other hother (beq_iff_eq.mp hsame)
  have hblocked : ¬ store.commands.rows.any (CommandRow.blocks scope.deviceId) = false := by
    rw [Bool.not_eq_false, List.any_eq_true]
    refine ⟨row, hrow, ?_⟩
    rw [CommandRow.blocks, hdevice, hopen, beq_self_eq_true]
    rfl
  refine commit_of_error ?_
  unfold persist
  rw [lift_bind_of_ok hvalid, lift_bind_of_ok (buildRequest_ok.mpr hbuild), gets_bind, hfind]
  exact ensure_bind_of_false hblocked

end Freeing

section Reconciliation

/-- The answer to a command cannot be applied. -/
def unappliedAnswer : List (Step ℕ+) :=
  [⟨1, .persist scannerScope scannerDraft 0⟩,
   ⟨2, .beginAttempt scannerScope 1 "attempt-1" "request-1"⟩,
   ⟨3, .recordResponse scannerScope 1 "attempt-1" doneResponse⟩,
   ⟨4, .finalize scannerScope 1 .reconcileRequired none⟩]

/-- The state after that run. -/
def afterUnapplied : World ℕ+ :=
  replay (World.next claimWire) unappliedAnswer (World.initial "scanner-1")

/-- Whatever is called after that run, the scanner is refused every new command. -/
theorem reconciliation_blocks_scanner :
    StoreRun claimWire anyStep (World.initial "scanner-1") afterUnapplied ∧
    ∀ w, StoreRun claimWire anyStep afterUnapplied w →
      ∀ draft choice now, (∀ row ∈ w.store.commands.rows, row.commandId ≠ draft.commandId) →
        (commit (persist claimWire scannerScope draft choice now) w.store).1 =
          .error (.error .unresolvedCommandExists) := by
  have hblocking : afterUnapplied.store.commands.rows.any (fun row =>
      row.status == .reconcileRequired && row.scope.deviceId == "scanner-1") = true := by
    decide +kernel
  obtain ⟨row, hrow, hblocks⟩ := List.any_eq_true.mp hblocking
  rw [Bool.and_eq_true, beq_iff_eq, beq_iff_eq] at hblocks
  refine ⟨run_replay_any (World.next claimWire) _, ?_⟩
  intro w hrun draft choice now hnew
  have hkept := run_keeps_reconcileRequired hrun hrow hblocks.1
  rw [persist_refused hkept (by rw [hblocks.1]; rfl) hblocks.2 (by decide +kernel) rfl hnew]

end Reconciliation

end Wareboxes.RfCommandExits
