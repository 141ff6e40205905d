import Wareboxes.LabelledRuns
import Wareboxes.RfCommandStore

/-!
# Runs of the durable command store

A run is a sequence of calls of the store and of restarts of the process, with
any arguments and any readings of the clock. A call that fails leaves the
database as it was. What a successful call does to the database is one of a few
changes, each with the conditions under which the call makes it.
-/

namespace Wareboxes.RfCommandRuns

open KeyedTables Transactions Transaction LabelledRuns RfCommandStore

variable {Command : Type} {wire : Wire Command}

/-- The row is one that `decode_record` accepts. -/
structure Readable (wire : Wire Command) (row : CommandRow Command) : Prop where
  /-- The row is of its draft. -/
  commandId : row.draft.commandId = row.commandId
  /-- The request is that of the draft. -/
  request : wire.build row.draft = .ok row.request
  /-- So is the operation. -/
  operation : row.operation = wire.operationOf row.draft.command
  /-- The answer has its digest. -/
  hash : ∀ stored ∈ row.response, wire.sha256 stored.response.body = stored.sha256
  /-- The response is there when the status says so. -/
  present : row.status.responseRequired = row.response.isSome

theorem expect_ok {condition : Bool} {message : String} {out : Unit} :
    expect condition message = .ok out ↔ condition = true := by
  unfold expect
  split_ifs with h <;> simp [h]

theorem buildRequest_ok {draft : DurableCommandDraft Command} {request : DurableHttpRequest} :
    buildRequest wire draft = .ok request ↔ wire.build draft = .ok request := by
  unfold buildRequest
  cases wire.build draft <;> simp [Except.mapError]

/-- The response columns decode when the hash is right. -/
theorem decodeResponse_ok {stored : Option StoredResponse} {out : Option DurableHttpResponse} :
    decodeResponse wire stored = .ok out ↔
      (∀ present ∈ stored, wire.sha256 present.response.body = present.sha256) ∧
        out = stored.map StoredResponse.response := by
  cases stored with
  | none => simp [decodeResponse, eq_comm]
  | some present =>
    unfold decodeResponse
    dsimp only
    split_ifs with h
    · simp [h, eq_comm]
    · constructor
      · rintro ⟨⟩
      · rintro ⟨hhash, -⟩
        exact absurd (hhash present rfl) h

variable {record : DurableCommandRecord Command}

theorem decodeRecord_ok {row : CommandRow Command} :
    decodeRecord wire row = .ok record ↔ Readable wire row ∧ record = recordOf row := by
  unfold decodeRecord
  simp only [except_bind_ok, expect_ok, buildRequest_ok, decodeResponse_ok, beq_iff_eq]
  constructor
  · rintro ⟨-, hid, -, -, request, hbuild, -, rfl, -, hoperation, response, ⟨hhash, rfl⟩, -,
      hpresent, hrecord⟩
    cases hrecord
    rw [Option.isSome_map] at hpresent
    exact ⟨⟨hid, hbuild, hoperation, hhash, hpresent⟩, rfl⟩
  · rintro ⟨hreadable, rfl⟩
    have hverified : verifyBody wire row.request = true :=
      decide_eq_true (wire.build_sha256 _ _ hreadable.request).symm
    have hpresent := hreadable.present
    rw [← Option.isSome_map (f := StoredResponse.response)] at hpresent
    exact ⟨(), hreadable.commandId, (), hverified, _, hreadable.request, (), rfl, (),
      hreadable.operation, _, ⟨hreadable.hash, rfl⟩, (), hpresent, rfl⟩

section Calls

variable {store store' : Store Command} {scope : ExecutionScope} {recordId now : ℤ}

/-- A record is loaded from a readable row. -/
theorem loadRecord_ok :
    loadRecord wire recordId store = .ok (record, store') ↔
      store = store' ∧ ∃ row, store.commands.find? recordId = some row ∧ Readable wire row ∧
        record = recordOf row := by
  unfold loadRecord
  rw [gets_bind, orFail_bind_ok]
  constructor
  · rintro ⟨row, hfind, hload⟩
    obtain ⟨hdecode, rfl⟩ := lift_ok.mp hload
    exact ⟨rfl, row, hfind, decodeRecord_ok.mp hdecode⟩
  · rintro ⟨rfl, row, hfind, hreadable⟩
    exact ⟨row, hfind, lift_ok.mpr ⟨decodeRecord_ok.mpr hreadable, rfl⟩⟩

/-- A record of the scope is loaded from a readable row of the scope. -/
theorem loadScoped_ok :
    loadScoped wire scope recordId store = .ok (record, store') ↔
      store = store' ∧ ∃ row, store.commands.find? recordId = some row ∧ Readable wire row ∧
        row.scope = scope ∧ record = recordOf row := by
  unfold loadScoped
  rw [bind_ok]
  constructor
  · rintro ⟨loaded, mid, hload, h⟩
    obtain ⟨rfl, row, hfind, hreadable, rfl⟩ := loadRecord_ok.mp hload
    obtain ⟨hscope, h⟩ := ensure_bind_ok.mp h
    cases h
    exact ⟨rfl, row, hfind, hreadable, hscope, rfl⟩
  · rintro ⟨rfl, row, hfind, hreadable, hscope, rfl⟩
    exact ⟨recordOf row, store, loadRecord_ok.mpr ⟨rfl, row, hfind, hreadable, rfl⟩,
      ensure_bind_ok.mpr ⟨hscope, rfl⟩⟩

end Calls

/-- The three ways in which an attempt ends. -/
inductive IsEnding (wire : Wire Command) : Ending Command → Prop where
  /-- Its outcome is unknown. -/
  | ambiguous (message : String) (now : ℤ) : IsEnding wire (ambiguousEnding message now)
  | response (response : DurableHttpResponse) (now : ℤ) :
      IsEnding wire (responseEnding wire response now)
  | retryable (response : DurableHttpResponse) (now : ℤ) :
      IsEnding wire (retryableEnding response now)

/-- The attempts of a command, oldest first. -/
def attemptsOf (attempts : KeyedTable AttemptRow.attemptId) (recordId : ℤ) : List AttemptRow :=
  attempts.rows.filter fun attempt => decide (attempt.recordId = recordId)

/-- What can happen to a command and its attempts, when a call asks for one of the final
statuses that are given. -/
inductive RowMove (wire : Wire Command) (asked : CommandStatus → Prop) (row : CommandRow Command)
    (own : List AttemptRow) : CommandRow Command → List AttemptRow → Prop where
  | kept : RowMove wire asked row own row own
  | begun (attemptId requestId : String) (now : ℤ) (hsend : row.status.maySend = true) :
      RowMove wire asked row own (dispatched (row.attemptCount + 1) now row)
        (own ++ [newAttempt attemptId requestId row.recordId (row.attemptCount + 1) now])
  /-- `mark_ambiguous`, `record_response` and `record_retryable_response`. -/
  | ended {attempt : AttemptRow} {ending : Ending Command} (hstatus : row.status = .dispatching)
      (hattempt : attempt ∈ own) (hdispatching : attempt.status = .dispatching)
      (hending : IsEnding wire ending) :
      RowMove wire asked row own (ending.command row) (own.map fun other =>
        if other.attemptId = attempt.attemptId then ending.attempt other else other)
  | finalized {status : CommandStatus} (message : Option String) (now : ℤ)
      (hstatus : row.status = .responseRecorded) (hfinal : status.isFinal = true)
      (hasked : asked status) : RowMove wire asked row own (finalized status message now row) own
  /-- `recover_interrupted_dispatches`. -/
  | interrupted (now : ℤ) :
      RowMove wire asked row own
        (if row.status == .dispatching then interruptedCommand now row else row)
        (own.map fun attempt =>
          if attempt.status == .dispatching then interruptedAttempt now attempt else attempt)

/-- What a call does to the database: it writes a new command, or moves some that are there. -/
inductive Change (wire : Wire Command) (asked : CommandStatus → Prop) (store : Store Command) :
    Store Command → Prop where
  | persisted {scope : ExecutionScope} {draft : DurableCommandDraft Command}
      {request : DurableHttpRequest} {recordId now : ℤ}
      {commands : KeyedTable (@CommandRow.recordId Command)}
      (hvalid : scope.validate = .ok ()) (hbuild : wire.build draft = .ok request)
      (hfree : ∀ row ∈ store.commands.rows, row.scope.deviceId = scope.deviceId →
        row.status.isUnresolved = false)
      (hinsert : store.commands.insert? (newCommand wire scope draft request recordId now) =
        some commands) :
      Change wire asked store { store with commands }
  | moved {store' : Store Command} (change : CommandRow Command → CommandRow Command)
      (hrows : store'.commands.rows = store.commands.rows.map change)
      (hmoves : ∀ row ∈ store.commands.rows,
        RowMove wire asked row (attemptsOf store.attempts row.recordId) (change row)
          (attemptsOf store'.attempts row.recordId))
      (howned : ∀ attempt ∈ store'.attempts.rows,
        (∃ old ∈ store.attempts.rows, old.recordId = attempt.recordId) ∨
          ∃ row ∈ store.commands.rows, row.recordId = attempt.recordId) :
      Change wire asked store store'

section Changes

variable {store store' : Store Command} {row : CommandRow Command} {attempt : AttemptRow}
  {attempts : KeyedTable AttemptRow.attemptId} {asked : CommandStatus → Prop} {now : ℤ}

/-- An attempt of a command. -/
theorem mem_attemptsOf {recordId : ℤ} :
    attempt ∈ attemptsOf attempts recordId ↔
      attempt ∈ attempts.rows ∧ attempt.recordId = recordId := by
  rw [attemptsOf, List.mem_filter, decide_eq_true_eq]

/-- A rewriting that keeps the commands of the attempts rewrites the attempts of each
command. -/
theorem attemptsOf_map {attempts attempts' : KeyedTable AttemptRow.attemptId}
    {change : AttemptRow → AttemptRow} (h : attempts'.rows = attempts.rows.map change)
    (hrecord : ∀ attempt, (change attempt).recordId = attempt.recordId) (recordId : ℤ) :
    attemptsOf attempts' recordId = (attemptsOf attempts recordId).map change := by
  unfold attemptsOf
  rw [h, List.filter_map]
  congr 1
  refine List.filter_congr fun attempt _ => ?_
  simp only [Function.comp, hrecord]

/-- Nothing happens to the commands. -/
theorem change_none (hcommands : store'.commands = store.commands)
    (hattempts : store'.attempts = store.attempts) : Change wire asked store store' := by
  refine .moved id (by rw [hcommands, List.map_id]) ?_ ?_
  · rw [hattempts]
    exact fun _ _ => .kept
  · rw [hattempts]
    exact fun attempt hattempt => .inl ⟨attempt, hattempt, rfl⟩

/-- One command moves. -/
theorem change_row (hrow : row ∈ store.commands.rows)
    {rewrite : CommandRow Command → CommandRow Command}
    (hkey : ∀ row, (rewrite row).recordId = row.recordId)
    (hmove : RowMove wire asked row (attemptsOf store.attempts row.recordId) (rewrite row)
      (attemptsOf attempts row.recordId))
    (hothers : ∀ recordId, recordId ≠ row.recordId →
      attemptsOf attempts recordId = attemptsOf store.attempts recordId)
    (howned : ∀ attempt ∈ attempts.rows,
      (∃ old ∈ store.attempts.rows, old.recordId = attempt.recordId) ∨
        ∃ row ∈ store.commands.rows, row.recordId = attempt.recordId) :
    Change wire asked store { store with
      attempts, commands := store.commands.rewriteRow row.recordId rewrite hkey } := by
  refine .moved _ rfl (fun other hother => ?_) howned
  split_ifs with hid
  · obtain rfl := store.commands.eq_of_key_eq hother hrow (of_decide_eq_true hid)
    exact hmove
  · dsimp only
    rw [hothers other.recordId (of_decide_eq_false (Bool.not_eq_true _ ▸ hid))]
    exact .kept

/-- An attempt begins. -/
theorem begin_change (hrow : row ∈ store.commands.rows) (hsend : row.status.maySend = true)
    {attemptId requestId : String} (hinsert : store.attempts.insert?
      (newAttempt attemptId requestId row.recordId (row.attemptCount + 1) now) = some attempts) :
    Change wire asked store { store with
      attempts
      commands := store.commands.rewriteRow row.recordId (dispatched (row.attemptCount + 1) now)
        (dispatched_recordId _ _) } := by
  have hrows := (KeyedTable.insert?_eq_some hinsert).2
  refine change_row hrow _ ?_ (fun recordId hne => KeyedTable.filter_concat_other hrows hne.symm) ?_
  · unfold attemptsOf
    rw [KeyedTable.filter_concat_self hrows (rfl : AttemptRow.recordId _ = row.recordId)]
    exact .begun attemptId requestId now hsend
  · intro attempt hattempt
    rcases (KeyedTable.mem_insert hinsert).mp hattempt with hattempt | rfl
    · exact .inl ⟨attempt, hattempt, rfl⟩
    · exact .inr ⟨row, hrow, rfl⟩

/-- An attempt ends. -/
theorem end_change {ending : Ending Command} (hrow : row ∈ store.commands.rows)
    (hstatus : row.status = .dispatching) (hattempt : attempt ∈ store.attempts.rows)
    (hrecord : attempt.recordId = row.recordId) (hdispatching : attempt.status = .dispatching)
    (hending : IsEnding wire ending)
    (hattempts : attempts.rows = store.attempts.rows.map fun other =>
      if other.attemptId = attempt.attemptId then ending.attempt other else other) :
    Change wire asked store { store with
      attempts
      commands := store.commands.rewriteRow row.recordId ending.command ending.command_id } := by
  have hkept : ∀ other : AttemptRow, (if other.attemptId = attempt.attemptId then
      ending.attempt other else other).recordId = other.recordId := by
    intro other
    split_ifs
    · cases hending <;> rfl
    · rfl
  refine change_row hrow _ ?_ ?_ ?_
  · rw [attemptsOf_map hattempts hkept]
    exact .ended hstatus (mem_attemptsOf.mpr ⟨hattempt, hrecord⟩) hdispatching hending
  · intro recordId hne
    rw [attemptsOf_map hattempts hkept, List.map_congr_left (g := id), List.map_id]
    intro other hother
    obtain ⟨hother, hid⟩ := mem_attemptsOf.mp hother
    refine if_neg fun hsame => hne ?_
    rw [← hid, store.attempts.eq_of_key_eq hother hattempt hsame, hrecord]
  · intro other hother
    rw [hattempts] at hother
    obtain ⟨stored, hstored, rfl⟩ := List.mem_map.mp hother
    exact .inl ⟨stored, hstored, (hkept stored).symm⟩

/-- A command is finalized. -/
theorem final_change {status : CommandStatus} (message : Option String) (now : ℤ)
    (hrow : row ∈ store.commands.rows) (hstatus : row.status = .responseRecorded)
    (hfinal : status.isFinal = true) (hasked : asked status) :
    Change wire asked store { store with
      commands := store.commands.rewriteRow row.recordId (finalized status message now)
        (finalized_recordId _ _ _) } :=
  change_row hrow _ (.finalized message now hstatus hfinal hasked) (fun _ _ => rfl)
    fun attempt hattempt => .inl ⟨attempt, hattempt, rfl⟩

/-- The process stops and starts again. -/
theorem recover_change (now : ℤ) :
    Change wire asked store { store with
      attempts := store.attempts.updateWhere (fun row => row.status == .dispatching)
        (interruptedAttempt now) (interruptedAttempt_attemptId now)
      commands := store.commands.updateWhere (fun row => row.status == .dispatching)
        (interruptedCommand now) (interruptedCommand_recordId now) } := by
  have hkept : ∀ attempt : AttemptRow, (if attempt.status == .dispatching then
      interruptedAttempt now attempt else attempt).recordId = attempt.recordId := by
    intro attempt
    split_ifs <;> rfl
  refine .moved _ rfl (fun row _ => ?_) ?_
  · rw [attemptsOf_map (store.attempts.updateWhere_rows _ _ (interruptedAttempt_attemptId now))
      hkept]
    exact .interrupted now
  · intro attempt hattempt
    obtain ⟨stored, hstored, rfl⟩ := List.mem_map.mp hattempt
    exact .inl ⟨stored, hstored, (hkept stored).symm⟩

end Changes

section Inversion

variable {store store' : Store Command} {scope : ExecutionScope} {recordId now : ℤ}
  {asked : CommandStatus → Prop}

/-- A new command is written when the device has no unresolved one. -/
theorem persist_change [DecidableEq Command] {draft : DurableCommandDraft Command} {choice : ℤ}
    (h : persist wire scope draft choice now store = .ok (record, store')) :
    Change wire asked store store' := by
  unfold persist at h
  obtain ⟨_, hvalid, h⟩ := lift_bind_ok.mp h
  obtain ⟨request, hbuild, h⟩ := lift_bind_ok.mp h
  rw [gets_bind] at h
  cases hfind : store.commands.rows.find? (fun row => row.commandId == draft.commandId) with
  | some =>
    rw [hfind] at h
    obtain ⟨existing, mid, hload, h⟩ := bind_ok.mp h
    obtain ⟨rfl, -⟩ := loadRecord_ok.mp hload
    obtain ⟨-, h⟩ := ensure_bind_ok.mp h
    cases h
    exact change_none rfl rfl
  | none =>
    rw [hfind] at h
    obtain ⟨hfree, h⟩ := ensure_bind_ok.mp h
    obtain ⟨-, h⟩ := ensure_bind_ok.mp h
    obtain ⟨commands, hinsert, h⟩ := orFail_bind_ok.mp h
    rw [modify_bind] at h
    obtain ⟨rfl, -⟩ := loadRecord_ok.mp h
    refine .persisted hvalid (buildRequest_ok.mp hbuild) ?_ hinsert
    intro row hrow hdevice
    have hblocks := List.any_eq_false.mp hfree row hrow
    simpa [CommandRow.blocks, hdevice] using hblocks

/-- An attempt begins for a command that may be sent. -/
theorem beginAttempt_change (asked : CommandStatus → Prop) {attemptId requestId : String}
    {attempt : DispatchAttempt Command}
    (h : beginAttempt wire scope recordId attemptId requestId now store = .ok (attempt, store')) :
    Change wire asked store store' ∧
      ∃ row ∈ store'.commands.rows, attempt.command = recordOf row := by
  unfold beginAttempt at h
  obtain ⟨_, -, h⟩ := lift_bind_ok.mp h
  obtain ⟨record, mid, hload, h⟩ := bind_ok.mp h
  obtain ⟨rfl, row, hfind, -, -, rfl⟩ := loadScoped_ok.mp hload
  obtain ⟨hsend, h⟩ := ensure_bind_ok.mp h
  obtain ⟨-, h⟩ := ensure_bind_ok.mp h
  obtain ⟨-, h⟩ := ensure_bind_ok.mp h
  rw [gets_bind] at h
  obtain ⟨-, h⟩ := ensure_bind_ok.mp h
  obtain ⟨attempts, hinsert, h⟩ := orFail_bind_ok.mp h
  rw [modify_bind] at h
  obtain ⟨command, last, hload, h⟩ := bind_ok.mp h
  obtain ⟨rfl, updated, hupdated, -, rfl⟩ := loadRecord_ok.mp hload
  cases h
  obtain ⟨hrow, rfl⟩ := KeyedTable.find?_eq_some.mp hfind
  exact ⟨begin_change hrow hsend hinsert, updated, (KeyedTable.find?_eq_some.mp hupdated).1, rfl⟩

variable {ending : Ending Command} {attemptId : String} {profile : DeviceProfile}

/-- An attempt that ends was under way. -/
theorem endAttempt_ok
    (h : endAttempt wire scope recordId attemptId ending store = .ok (record, store')) :
    ∃ row ∈ store.commands.rows, ∃ attempt ∈ store.attempts.rows, ∃ attempts,
      row.recordId = recordId ∧ row.status = .dispatching ∧ attempt.attemptId = attemptId ∧
      attempt.recordId = row.recordId ∧ attempt.status = .dispatching ∧
      (attempts.rows = store.attempts.rows.map fun other =>
        if other.attemptId = attempt.attemptId then ending.attempt other else other) ∧
      store' = { store with
        attempts
        commands := store.commands.rewriteRow row.recordId ending.command ending.command_id } := by
  unfold endAttempt at h
  obtain ⟨loaded, mid, hload, h⟩ := bind_ok.mp h
  obtain ⟨rfl, row, hfind, -, -, rfl⟩ := loadScoped_ok.mp hload
  obtain ⟨hstatus, h⟩ := ensure_bind_ok.mp h
  rw [gets_bind] at h
  obtain ⟨attempts, hupdate, h⟩ := orFail_bind_ok.mp h
  rw [modify_bind] at h
  obtain ⟨rfl, -⟩ := loadRecord_ok.mp h
  obtain ⟨attempt, hattempt, hguard, hattempts⟩ := KeyedTable.updateOne?_eq_some hupdate
  obtain ⟨hrow, rfl⟩ := KeyedTable.find?_eq_some.mp hfind
  obtain ⟨hstored, rfl⟩ := KeyedTable.find?_eq_some.mp hattempt
  rw [Bool.and_eq_true, beq_iff_eq, beq_iff_eq] at hguard
  exact ⟨row, hrow, attempt, hstored, attempts, rfl, hstatus, rfl, hguard.1, hguard.2, hattempts,
    rfl⟩

/-- The end of an attempt changes the attempt and its command. -/
theorem endAttempt_change (hending : IsEnding wire ending)
    (h : endAttempt wire scope recordId attemptId ending store = .ok (record, store')) :
    Change wire asked store store' := by
  obtain ⟨row, hrow, attempt, hattempt, attempts, -, hstatus, -, hrecord, hdispatching, hattempts,
    rfl⟩ := endAttempt_ok h
  exact end_change hrow hstatus hattempt hrecord hdispatching hending hattempts

/-- A command that is finalized had a recorded response. -/
theorem finalize_change {status : CommandStatus} {message : Option String} (hasked : asked status)
    (h : finalize wire scope recordId status message now store = .ok (record, store')) :
    Change wire asked store store' := by
  unfold finalize at h
  obtain ⟨-, -, h⟩ := lift_bind_ok.mp h
  obtain ⟨hfinal, h⟩ := ensure_bind_ok.mp h
  obtain ⟨loaded, mid, hload, h⟩ := bind_ok.mp h
  obtain ⟨rfl, row, hfind, -, -, rfl⟩ := loadScoped_ok.mp hload
  obtain ⟨hstatus, h⟩ := ensure_bind_ok.mp h
  rw [modify_bind] at h
  obtain ⟨rfl, -⟩ := loadRecord_ok.mp h
  obtain ⟨hrow, rfl⟩ := KeyedTable.find?_eq_some.mp hfind
  exact final_change _ now hrow hstatus hfinal hasked

theorem loadDeviceProfile_store (h : loadDeviceProfile wire store = .ok (profile, store')) :
    store = store' := by
  unfold loadDeviceProfile at h
  rw [gets_bind, gets_bind] at h
  exact (lift_ok.mp h).2.symm

theorem setServerUrl_change {serverUrl : Option String}
    (h : setServerUrl wire serverUrl store = .ok (profile, store')) :
    Change wire asked store store' := by
  unfold setServerUrl at h
  obtain ⟨url, -, h⟩ := lift_bind_ok.mp h
  obtain ⟨loaded, mid, hload, h⟩ := bind_ok.mp h
  obtain rfl := loadDeviceProfile_store hload
  split at h
  · cases h
    exact change_none rfl rfl
  · rw [gets_bind] at h
    obtain ⟨-, h⟩ := ensure_bind_ok.mp h
    rw [modify_bind] at h
    obtain rfl := loadDeviceProfile_store h
    exact change_none rfl rfl

end Inversion

/-- A call of the store, or a restart of the process, which opens the database again. -/
inductive Call (Command : Type) where
  | persist (scope : ExecutionScope) (draft : DurableCommandDraft Command) (choice : ℤ)
  | beginAttempt (scope : ExecutionScope) (recordId : ℤ) (attemptId requestId : String)
  | markAmbiguous (scope : ExecutionScope) (recordId : ℤ) (attemptId message : String)
  | recordResponse (scope : ExecutionScope) (recordId : ℤ) (attemptId : String)
      (response : DurableHttpResponse)
  | recordRetryableResponse (scope : ExecutionScope) (recordId : ℤ) (attemptId : String)
      (response : DurableHttpResponse)
  | finalize (scope : ExecutionScope) (recordId : ℤ) (status : CommandStatus)
      (message : Option String)
  | setServerUrl (serverUrl : Option String)
  /-- The process stops and starts again. -/
  | restart

/-- A call at a reading of the clock. -/
structure Step (Command : Type) where
  /-- The clock, in milliseconds. -/
  now : ℤ
  call : Call Command

/-- The database and what was handed out for sending. -/
structure World (Command : Type) where
  store : Store Command
  /-- The attempts that were begun, oldest first. -/
  dispatched : List (DispatchAttempt Command)

/-- A device with a new database. -/
def World.initial (deviceId : String) : World Command := ⟨.initial deviceId, []⟩

variable [DecidableEq Command]

/-- The database after a call. -/
def runCall (wire : Wire Command) (now : ℤ) (store : Store Command) : Call Command → Store Command
  | .persist scope draft choice => (commit (persist wire scope draft choice now) store).2
  | .beginAttempt scope recordId attemptId requestId =>
    (commit (beginAttempt wire scope recordId attemptId requestId now) store).2
  | .markAmbiguous scope recordId attemptId message =>
    (commit (markAmbiguous wire scope recordId attemptId message now) store).2
  | .recordResponse scope recordId attemptId response =>
    (commit (recordResponse wire scope recordId attemptId response now) store).2
  | .recordRetryableResponse scope recordId attemptId response =>
    (commit (recordRetryableResponse wire scope recordId attemptId response now) store).2
  | .finalize scope recordId status message =>
    (commit (finalize wire scope recordId status message now) store).2
  | .setServerUrl serverUrl => (commit (setServerUrl wire serverUrl) store).2
  | .restart => (commit (recoverInterruptedDispatches now) store).2

/-- The attempt that a call hands out. -/
def handedOut (wire : Wire Command) (now : ℤ) (store : Store Command) :
    Call Command → Option (DispatchAttempt Command)
  | .beginAttempt scope recordId attemptId requestId =>
    (commit (beginAttempt wire scope recordId attemptId requestId now) store).1.toOption
  | _ => none

/-- The state after a call. -/
def World.next (wire : Wire Command) (w : World Command) (step : Step Command) : World Command where
  store := runCall wire step.now w.store step.call
  dispatched := w.dispatched ++ (handedOut wire step.now w.store step.call).toList

/-- The runs of the store whose steps meet a condition. -/
def StoreRun (wire : Wire Command) (condition : World Command → Step Command → Prop) :
    World Command → World Command → Prop :=
  Run (fun w step w' => w' = w.next wire step) condition

/-- The condition that every step meets. -/
def anyStep (_ : World Command) (_ : Step Command) : Prop := True

variable {store : Store Command}

omit [DecidableEq Command] in
/-- A call that fails changes nothing. -/
theorem commit_change {asked : CommandStatus → Prop} {α : Type} {transaction : StoreTx Command α}
    (h : ∀ out store', transaction store = .ok (out, store') → Change wire asked store store') :
    Change wire asked store (commit transaction store).2 := by
  cases hresult : transaction store with
  | ok pair =>
    rw [commit_of_ok hresult]
    exact h pair.1 pair.2 hresult
  | error =>
    rw [commit_of_error hresult]
    exact change_none rfl rfl

/-- The final status that a call asks for. -/
def Call.Asks (call : Call Command) (status : CommandStatus) : Prop :=
  ∃ scope recordId message, call = .finalize scope recordId status message

theorem run_change (wire : Wire Command) (now : ℤ) (store : Store Command) (call : Call Command) :
    Change wire call.Asks store (runCall wire now store call) := by
  cases call with
  | persist => exact commit_change fun _ _ h => persist_change h
  | beginAttempt => exact commit_change fun _ _ h => (beginAttempt_change _ h).1
  | markAmbiguous =>
    refine commit_change fun _ _ h => ?_
    obtain ⟨-, -, h⟩ := lift_bind_ok.mp h
    exact endAttempt_change (.ambiguous _ _) h
  | recordResponse =>
    refine commit_change fun _ _ h => ?_
    obtain ⟨-, -, h⟩ := lift_bind_ok.mp h
    obtain ⟨-, h⟩ := ensure_bind_ok.mp h
    exact endAttempt_change (.response _ _) h
  | recordRetryableResponse =>
    refine commit_change fun _ _ h => ?_
    obtain ⟨-, -, h⟩ := lift_bind_ok.mp h
    obtain ⟨-, h⟩ := ensure_bind_ok.mp h
    exact endAttempt_change (.retryable _ _) h
  | finalize scope recordId status message =>
    exact commit_change fun _ _ h => finalize_change ⟨scope, recordId, message, rfl⟩ h
  | setServerUrl => exact commit_change fun _ _ h => setServerUrl_change h
  | restart => exact recover_change now

/-- An attempt that was handed out shows a command of the database. -/
theorem handedOut_stored {now : ℤ} {call : Call Command} {attempt : DispatchAttempt Command}
    (h : handedOut wire now store call = some attempt) :
    ∃ row ∈ (runCall wire now store call).commands.rows, attempt.command = recordOf row := by
  cases call with
  | beginAttempt scope recordId attemptId requestId =>
    change (commit (beginAttempt wire scope recordId attemptId requestId now) store).1.toOption =
      some attempt at h
    change ∃ row ∈ (commit (beginAttempt wire scope recordId attemptId requestId now)
      store).2.commands.rows, _
    cases hresult : beginAttempt wire scope recordId attemptId requestId now store with
    | ok pair =>
      obtain ⟨begun, store'⟩ := pair
      rw [commit_of_ok hresult] at h ⊢
      cases h
      exact (beginAttempt_change (fun _ => False) hresult).2
    | error =>
      rw [commit_of_error hresult] at h
      cases h
  | _ => cases h

end Wareboxes.RfCommandRuns
