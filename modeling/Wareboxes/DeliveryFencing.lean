import Wareboxes.CloudRuns

/-!
# Fencing of deliveries

A delivery that expired can be repeated while an acknowledgement of the earlier one is still
under way, and agents repeat their calls. The revision and the token of a command fence these
calls off: over any run of any callers a command is accepted once, with the token and the
revision of its latest delivery, is reported once and after that, stays with one account, is not
delivered again after it was accepted, and has a larger revision after every change. A pull
answers, at first and when it is repeated, with commands that were delivered to its caller, and
with the token and the revision of that delivery.
-/

namespace Wareboxes.DeliveryFencing

open CloudMapping CloudQueue CloudRecords CloudRuns KeyedTables LabelledRuns OutboxTables Option
open ServerCommands TransactionRules Transactions Transaction

/-- The account that a command was last delivered to. -/
def account? (cloud : Cloud) (commandId : ℤ) : Option ℤ :=
  (cloud.commands.find? commandId).bind (·.progress.delivery?.map (·.serviceAccountId))

/-- The acceptance of a command. -/
def acceptedAt? (cloud : Cloud) (commandId : ℤ) : Option Timestamp :=
  (cloud.commands.find? commandId).bind (·.progress.acceptedAt?)

/-- The reported outcome of a command. -/
def outcome? (cloud : Cloud) (commandId : ℤ) : Option Outcome :=
  (cloud.commands.find? commandId).bind (·.progress.outcome?)

/-- The call writes the acceptance of the command. -/
def Accepts (cloud : Cloud) (action : CloudAction) (commandId : ℤ) : Prop :=
  acceptedAt? (next cloud action) commandId ≠ acceptedAt? cloud commandId

/-- The call writes the outcome of the command. -/
def Reports (cloud : Cloud) (action : CloudAction) (commandId : ℤ) : Prop :=
  outcome? (next cloud action) commandId ≠ outcome? cloud commandId

/-- The call delivers the command and leaves it as a row. -/
def Delivers (cloud : Cloud) (action : CloudAction) (commandId : ℤ) (row : AutomationCommand) :
    Prop :=
  (next cloud action).commands.find? commandId = some row ∧ row.progress.status = .delivered ∧
    cloud.commands.find? commandId ≠ some row

instance (cloud : Cloud) (action : CloudAction) (commandId : ℤ) :
    Decidable (Accepts cloud action commandId) :=
  inferInstanceAs (Decidable (_ ≠ _))

section Moves

variable {draws : Draws} {call : CloudCall} {row? row'? : Option AutomationCommand}

/-- The call acknowledges the delivery that the row holds. -/
def TakesDelivery (call : CloudCall) (row? : Option AutomationCommand) : Prop :=
  ∃ serviceAccountId context command row delivery expiresAt,
    call = .acknowledge serviceAccountId context command ∧ row? = some row ∧
    row.id = command.commandId ∧ row.progress = .delivered delivery expiresAt ∧
    delivery.serviceAccountId = serviceAccountId ∧ delivery.token = command.deliveryToken ∧
    row.revision.value = command.expectedRevision

/-- The call acknowledges with the token and the revision of a row. -/
def TakesRow (call : CloudCall) (row : AutomationCommand) : Prop :=
  ∃ serviceAccountId context command, call = .acknowledge serviceAccountId context command ∧
    row.progress.delivery?.map (·.token) = some command.deliveryToken ∧
    row.revision.value = command.expectedRevision

/-- The call reports the command that the row shows as accepted. -/
def ReportsAccepted (call : CloudCall) (row? : Option AutomationCommand) : Prop :=
  ∃ serviceAccountId context command row delivery acceptedAt,
    call = .report serviceAccountId context command ∧ row? = some row ∧
    row.id = command.commandId ∧ row.progress = .accepted delivery acceptedAt ∧
    delivery.serviceAccountId = serviceAccountId ∧ row.revision.value = command.expectedRevision

section

variable (h : CommandMove draws call row? row'?)
include h

/-- An acceptance stays, and is written by an acknowledgement of the delivery that the row holds. -/
theorem acceptance_moves :
    row'?.bind (·.progress.acceptedAt?) = row?.bind (·.progress.acceptedAt?) ∨
      row?.bind (·.progress.acceptedAt?) = none ∧ TakesDelivery call row? := by
  cases h with
  | same | enqueue device => exact .inl rfl
  | deliver _ _ hwaits _ =>
    left
    rw [bind_some, bind_some]
    rcases awaitsDelivery_cases hwaits with hprogress | ⟨_, _, hprogress, _⟩ <;> rw [hprogress] <;>
      rfl
  | accept hid hprogress haccount htoken hexpected _ =>
    refine .inr ⟨?_, _, _, _, _, _, _, rfl, rfl, hid, hprogress, haccount, htoken, hexpected⟩
    rw [bind_some, hprogress]
    rfl
  | report _ hprogress | resolve _ hprogress | cancel hprogress =>
    left
    rw [bind_some, bind_some, hprogress]
    rfl

/-- An outcome stays, and is written by a report of the accepted command. -/
theorem outcome_moves :
    row'?.bind (·.progress.outcome?) = row?.bind (·.progress.outcome?) ∨
      row?.bind (·.progress.outcome?) = none ∧ ReportsAccepted call row? := by
  cases h with
  | same | enqueue device => exact .inl rfl
  | deliver _ _ hwaits _ =>
    left
    rw [bind_some, bind_some]
    rcases awaitsDelivery_cases hwaits with hprogress | ⟨_, _, hprogress, _⟩ <;> rw [hprogress] <;>
      rfl
  | report hid hprogress haccount hexpected _ =>
    refine .inr ⟨?_, _, _, _, _, _, _, rfl, rfl, hid, hprogress, haccount, hexpected⟩
    rw [bind_some, hprogress]
    rfl
  | accept _ hprogress | resolve _ hprogress | cancel hprogress =>
    left
    rw [bind_some, bind_some, hprogress]
    rfl

/-- A command that is assigned stays with its account. -/
theorem account_moves :
    row'?.bind (·.progress.delivery?.map (·.serviceAccountId)) =
        row?.bind (·.progress.delivery?.map (·.serviceAccountId)) ∨
      row?.bind (·.progress.delivery?.map (·.serviceAccountId)) = none := by
  cases h with
  | same => exact .inl rfl
  | enqueue => exact .inr rfl
  | deliver _ _ hwaits _ =>
    rw [bind_some, bind_some]
    rcases awaitsDelivery_cases hwaits with hprogress | ⟨earlier, _, hprogress, haccount, _⟩
    · rw [hprogress]
      exact .inr rfl
    · rw [hprogress]
      exact .inl (congrArg some haccount.symm)
  | accept _ hprogress | report _ hprogress | resolve _ hprogress =>
    left
    rw [bind_some, bind_some, hprogress]
    rfl
  | cancel hprogress =>
    right
    rw [bind_some, hprogress]
    rfl

end

variable {row : AutomationCommand}

theorem revision_grows (h : CommandMove draws call (some row) row'?) :
    ∃ row', row'? = some row' ∧ (row' = row ∨ row.revision.value < row'.revision.value) := by
  cases h with
  | same => exact ⟨row, rfl, .inl rfl⟩
  | deliver _ _ _ hrevision | accept _ _ _ _ _ hrevision | report _ _ _ _ hrevision
  | resolve _ _ hrevision | cancel _ hrevision =>
    exact ⟨_, rfl, .inr (revision_lt_advance _ hrevision)⟩

/-- A delivered row stays, is delivered again or is accepted. -/
theorem delivered_moves (h : CommandMove draws call (some row) row'?)
    (hdelivered : row.progress.status = .delivered) :
    row'? = some row ∨
      (∃ row', row'? = some row' ∧ row'.progress.status = .delivered ∧ row' ≠ row) ∨
      row'?.bind (·.progress.acceptedAt?) ≠ none := by
  obtain ⟨delivery, expiresAt, hprogress⟩ := CommandProgress.status_eq_delivered.mp hdelivered
  cases h with
  | same => exact .inl rfl
  | deliver token expiresAt hwaits hrevision =>
    refine .inr (.inl ⟨_, rfl, rfl, fun hsame => ?_⟩)
    have hvalue := congrArg (fun row : AutomationCommand => row.revision.value) hsame
    exact (revision_lt_advance _ hrevision).ne' hvalue
  | accept => exact .inr (.inr nofun)
  | report _ hother | resolve _ hother | cancel hother =>
    rw [hprogress] at hother
    cases hother

end Moves

section Runs

variable {cloud later : Cloud} {allows : Cloud → CloudAction → Prop} {commandId : ℤ}

/-- What a step does not overwrite stays over a run. -/
theorem run_written {β : Type} (read : Cloud → Option β) {value : β}
    (hstays : ∀ cloud action, read (next cloud action) = read cloud ∨ read cloud = none)
    (hrun : CloudRun allows cloud later) (h : read cloud = some value) :
    read later = some value := by
  have hstep : ∀ cloud action cloud', allows cloud action → cloud' = next cloud action →
      read cloud = some value → read cloud' = some value := by
    rintro cloud action cloud' _ rfl h
    rcases hstays cloud action with hsame | hnone
    · exact hsame.trans h
    · cases hnone.symm.trans h
  exact hrun.preserves (fun cloud => read cloud = some value) hstep h

theorem acceptedAt_stays (commandId : ℤ) (cloud : Cloud) (action : CloudAction) :
    acceptedAt? (next cloud action) commandId = acceptedAt? cloud commandId ∨
      acceptedAt? cloud commandId = none :=
  (acceptance_moves (next_moves cloud action commandId)).imp_right And.left

theorem outcome_stays (commandId : ℤ) (cloud : Cloud) (action : CloudAction) :
    outcome? (next cloud action) commandId = outcome? cloud commandId ∨
      outcome? cloud commandId = none :=
  (outcome_moves (next_moves cloud action commandId)).imp_right And.left

theorem account_stays (commandId : ℤ) (cloud : Cloud) (action : CloudAction) :
    account? (next cloud action) commandId = account? cloud commandId ∨
      account? cloud commandId = none :=
  account_moves (next_moves cloud action commandId)

/-- Until it is delivered again, a delivered command stays as it is or is accepted. -/
theorem run_delivered {row : AutomationCommand} (hdelivered : row.progress.status = .delivered)
    (hrun : CloudRun (fun cloud action => ∀ row, ¬Delivers cloud action commandId row) cloud later)
    (h : cloud.commands.find? commandId = some row) :
    later.commands.find? commandId = some row ∨ acceptedAt? later commandId ≠ none := by
  refine hrun.preserves
    (fun cloud => cloud.commands.find? commandId = some row ∨ acceptedAt? cloud commandId ≠ none)
    ?_ (.inl h)
  rintro cloud action cloud' hquiet rfl (hrow | haccepted)
  · have hmove := next_moves cloud action commandId
    rw [hrow] at hmove
    rcases delivered_moves hmove hdelivered with hsame | ⟨row', hrow', hstatus, hne⟩ | haccepted
    · exact .inl hsame
    · refine absurd ⟨hrow', hstatus, ?_⟩ (hquiet row')
      rw [hrow]
      exact fun hsame => hne (Option.some.inj hsame).symm
    · exact .inr haccepted
  · rw [(acceptedAt_stays commandId cloud action).resolve_right haccepted]
    exact .inr haccepted

end Runs

section Steps

variable {cloud : Cloud} {action : CloudAction} {commandId : ℤ}

/-- A value that a step writes, and does not overwrite, was not there before. -/
theorem written_of_ne {β : Type} {before after : Option β}
    (hstays : after = before ∨ before = none) (h : after ≠ before) :
    before = none ∧ ∃ value, after = some value := by
  have hnone := hstays.resolve_left h
  refine ⟨hnone, Option.ne_none_iff_exists'.mp fun hafter => ?_⟩
  exact h (hafter.trans hnone.symm)

theorem acceptedAt_of_delivers {row : AutomationCommand}
    (h : Delivers cloud action commandId row) : acceptedAt? cloud commandId = none := by
  obtain ⟨delivery, expiresAt, hprogress⟩ := CommandProgress.status_eq_delivered.mp h.2.1
  have hafter : acceptedAt? (next cloud action) commandId = none := by
    unfold acceptedAt?
    rw [h.1, bind_some, hprogress]
    rfl
  exact (acceptedAt_stays commandId cloud action).elim (fun hsame => hsame.symm.trans hafter) id

end Steps

section Answers

/-- The call answers with a delivery to an account. -/
def Answers (cloud : Cloud) (action : CloudAction) (serviceAccountId : ℤ)
    (answer : AutomationDeliveryReadModel) : Prop :=
  ∃ context command answers cloud', action.call = .pull serviceAccountId context command ∧
    pullCommands action.draws serviceAccountId context command cloud = .ok (answers, cloud') ∧
    answer ∈ answers

/-- The state is reached by calls of any callers. -/
def Reached (cloud : Cloud) : Prop :=
  ∃ facilities, CloudRun anyAction (.initial facilities) cloud

/-- A call on the way to the state delivered the command of an answer to the account, with the
token and at the revision of the answer. -/
def HandedOut (cloud : Cloud) (serviceAccountId : ℤ) (answer : AutomationDeliveryReadModel) :
    Prop :=
  ∃ earlier action row delivery, Reached earlier ∧
    CloudRun anyAction (next earlier action) cloud ∧
    Delivers earlier action answer.command.commandId row ∧
    row.progress.delivery? = some delivery ∧ delivery.serviceAccountId = serviceAccountId ∧
    delivery.token = answer.deliveryToken ∧ row.revision = answer.command.revision

/-- Every stored answer to a pull was handed out to the account that it names. -/
def PullsHandedOut (cloud : Cloud) : Prop :=
  ∀ result ∈ cloud.pulls.rows, ∀ answer ∈ result.result, ∃ serviceAccountId,
    answer.command.assignedServiceAccountId = some serviceAccountId ∧
      HandedOut cloud serviceAccountId answer

variable {cloud cloud' : Cloud} {action : CloudAction} {serviceAccountId : ℤ}
  {answer : AutomationDeliveryReadModel} {draws : Draws} {context : CommandContext}

theorem HandedOut.trans (h : HandedOut cloud serviceAccountId answer)
    (hrun : CloudRun anyAction cloud cloud') : HandedOut cloud' serviceAccountId answer := by
  obtain ⟨earlier, action, row, delivery, hreached, hcloud, hrest⟩ := h
  exact ⟨earlier, action, row, delivery, hreached, Run.trans hcloud hrun, hrest⟩

/-- A command with a key that is checked first keeps what its execution and its journal keep. -/
theorem maintains_idempotent {ρ α : Type} [DecidableEq ρ] {inv : Cloud → Prop}
    {journal : Journal ρ α} {request : ρ} {check : Except CloudCommands.AppError Unit}
    {visible : Cloud → α → Except CloudCommands.AppError Unit} {execute : CloudTx α}
    (hjournal : ∀ results cloud, inv cloud → inv (journal.withResults results cloud))
    (hexecute : Maintains inv execute) :
    Maintains inv (lift check >>= fun _ =>
      idempotent journal context request visible execute) := by
  refine maintains_lift_bind fun _ _ cloud result cloud' hinv h => ?_
  rcases idempotent_ok h with ⟨rfl, _⟩ | ⟨middle, results, hrun, _, rfl⟩
  · exact hinv
  · exact hjournal results middle (hexecute hinv hrun)

section Frames

variable {pulls : StoredResults PullAutomationCommands (List AutomationDeliveryReadModel)}

theorem updateCommand_pulls (commandId : ℤ)
    (rewrite : CommandProgress → Option CommandProgress) :
    Maintains (fun cloud => cloud.pulls = pulls) (updateCommand commandId rewrite) :=
  maintains_gets_bind fun _ => maintains_orFail_bind fun _ _ => maintains_orFail_bind fun _ _ =>
    maintains_orFail_bind fun _ _ => maintains_modify fun _ h => h

theorem updatedCommand_pulls (commandId : ℤ) :
    Maintains (fun cloud => cloud.pulls = pulls) (updatedCommand commandId) := by
  rintro cloud model cloud' hpulls h
  rwa [(updatedCommand_ok h).1]

/-- An update of a command, and the command after it, leave the answers to pulls. -/
theorem changedCommand_pulls (commandId : ℤ)
    (rewrite : CommandProgress → Option CommandProgress) :
    Maintains (fun cloud => cloud.pulls = pulls)
      (updateCommand commandId rewrite >>= fun _ => updatedCommand commandId) :=
  maintains_bind (updateCommand_pulls commandId rewrite) fun _ => updatedCommand_pulls commandId

/-- The deliveries of a pull leave the stored answers. -/
theorem executePull_pulls {serviceAccountId : ℤ} {command : PullAutomationCommands} :
    Maintains (fun cloud => cloud.pulls = pulls) (executePull draws serviceAccountId command) :=
  maintains_gets_bind fun _ => maintains_orPanic_bind fun _ _ => maintains_loop (fun _ _ =>
    maintains_bind (updateCommand_pulls _ _) fun _ =>
      maintains_bind (updatedCommand_pulls _) fun _ => maintains_pure _) _ _

/-- Only a pull stores answers to pulls. -/
theorem exec_pulls {call : CloudCall}
    (hcall : ∀ serviceAccountId context command, call ≠ .pull serviceAccountId context command) :
    Maintains (fun cloud => cloud.pulls = pulls) (call.exec draws) := by
  cases call with
  | pull => exact absurd rfl (hcall _ _ _)
  | assignedDevices =>
    exact maintains_ensure_bind fun _ => by
      rintro cloud _ _ hpulls ⟨⟩
      exact hpulls
  | acknowledge =>
    exact maintains_idempotent (fun _ _ h => h)
      (maintains_gets_bind fun _ => maintains_lift_bind fun _ _ => changedCommand_pulls _ _)
  | report =>
    exact maintains_idempotent (fun _ _ h => h)
      (maintains_gets_bind fun _ => maintains_lift_bind fun _ _ => maintains_orPanic_bind fun _ _ =>
        maintains_ensure_bind fun _ => maintains_orFail_bind fun _ _ => changedCommand_pulls _ _)
  | heartbeat =>
    exact maintains_idempotent (fun _ _ h => h)
      (executeHeartbeat_frame Cloud.pulls fun _ _ _ => rfl)
  | register =>
    exact maintains_idempotent (fun _ _ h => h)
      (executeRegistration_frame Cloud.pulls fun _ _ _ => rfl)
  | control =>
    exact maintains_idempotent (fun _ _ h => h)
      (executeControl_frame Cloud.pulls fun _ _ _ => rfl)
  | enqueue =>
    exact maintains_idempotent (fun _ _ h => h)
      (maintains_gets_bind fun _ => maintains_lift_bind fun _ _ => maintains_ensure_bind fun _ =>
        maintains_orPanic_bind fun _ _ => maintains_lift_bind fun _ _ => maintains_orFail_bind
          fun _ _ => maintains_bind (maintains_modify fun _ h => h) fun _ => maintains_pure _)
  | resolve =>
    exact maintains_idempotent (fun _ _ h => h)
      (maintains_gets_bind fun _ => maintains_lift_bind fun _ _ => maintains_ensure_bind fun _ =>
        changedCommand_pulls _ _)
  | cancelPrint =>
    exact maintains_gets_bind fun _ => maintains_orFail_bind fun _ _ =>
      maintains_ensure_bind fun _ => changedCommand_pulls _ _

end Frames

/-- Deliveries that may be shown again name the account of the caller. -/
theorem deliveriesVisible_ok {scope : ScopeBindings} {answers : List AutomationDeliveryReadModel}
    (h : deliveriesVisible scope serviceAccountId cloud answers = .ok ())
    (hanswer : answer ∈ answers) :
    answer.command.assignedServiceAccountId = some serviceAccountId := by
  induction answers with
  | nil => cases hanswer
  | cons first rest ih =>
    obtain ⟨_, hfirst, hrest⟩ := except_bind_ok.mp h
    rcases List.mem_cons.mp hanswer with rfl | hlater
    · obtain ⟨_, _, hfirst⟩ := except_bind_ok.mp hfirst
      split_ifs at hfirst with hassigned
      exact hassigned
    · exact ih hrest hlater

theorem next_of_pull {command : PullAutomationCommands}
    {answers : List AutomationDeliveryReadModel}
    (hcall : action.call = .pull serviceAccountId context command)
    (h : pullCommands action.draws serviceAccountId context command cloud =
      .ok (answers, cloud')) : next cloud action = cloud' := by
  unfold next
  rw [hcall]
  exact congrArg Prod.snd (commit_of_ok h)

/-- A pull answers with what was handed out to its caller, and stores no other answers. -/
theorem pull_handsOut {command : PullAutomationCommands}
    {answers : List AutomationDeliveryReadModel} (hreached : Reached cloud)
    (hstored : PullsHandedOut cloud) (hcall : action.call = .pull serviceAccountId context command)
    (h : pullCommands action.draws serviceAccountId context command cloud =
      .ok (answers, cloud')) :
    (∀ answer ∈ answers, HandedOut cloud' serviceAccountId answer) ∧ PullsHandedOut cloud' := by
  have hnext := next_of_pull hcall h
  obtain ⟨_, _, h⟩ := lift_bind_ok.mp h
  rcases idempotent_ok h with ⟨rfl, hvisible, hfound⟩ | ⟨middle, results, hrun, hinsert, rfl⟩
  · refine ⟨fun answer hanswer => ?_, hstored⟩
    obtain ⟨account, hassigned, hhanded⟩ :=
      hstored _ (KeyedTable.find?_eq_some.mp hfound).1 answer hanswer
    cases hassigned.symm.trans (deliveriesVisible_ok hvisible hanswer)
    exact hhanded
  · have hanswers := (executePull_ok context hrun).2
    have hhanded : ∀ answer ∈ answers,
        HandedOut (pullJournal.withResults results middle) serviceAccountId answer := by
      intro answer hanswer
      obtain ⟨-, row, expiresAt, hrow, hnew, hprogress, -, hrevision⟩ := hanswers answer hanswer
      refine ⟨cloud, action, row, _, hreached, hnext ▸ .refl, ⟨?_, ?_, hnew⟩,
        by rw [hprogress]; rfl, rfl, rfl, hrevision.symm⟩
      · rw [hnext]
        exact hrow
      · rw [hprogress]
        rfl
    refine ⟨hhanded, fun result hresult answer hanswer => ?_⟩
    rcases (KeyedTable.mem_insert hinsert).mp hresult with hearlier | rfl
    · rw [show pullJournal.results middle = cloud.pulls from executePull_pulls rfl hrun] at hearlier
      obtain ⟨account, hassigned, hearlier⟩ := hstored result hearlier answer hanswer
      exact ⟨account, hassigned, hearlier.trans (hnext ▸ .single trivial rfl)⟩
    · obtain ⟨-, _, _, -, -, -, hassigned, -⟩ := hanswers answer hanswer
      exact ⟨serviceAccountId, hassigned, hhanded answer hanswer⟩

/-- In every state that is reached, the stored answers to pulls were handed out. -/
theorem pullsHandedOut_of_reached (h : Reached cloud) : PullsHandedOut cloud := by
  obtain ⟨facilities, hrun⟩ := h
  -- The calls of the run are kept, so that what was handed out lies on the way to the state.
  refine (hrun.preserves (fun cloud => Reached cloud ∧ PullsHandedOut cloud) ?_
    ⟨⟨facilities, .refl⟩, by rintro _ ⟨⟩⟩).2
  rintro cloud action _ - rfl ⟨hreached, hstored⟩
  obtain ⟨start, hstart⟩ := hreached
  have hstep : CloudRun anyAction cloud (next cloud action) := .single trivial rfl
  refine ⟨⟨start, hstart.trans hstep⟩, ?_⟩
  by_cases hcall : ∀ serviceAccountId context command,
      action.call ≠ .pull serviceAccountId context command
  · intro result hresult answer hanswer
    rw [show (next cloud action).pulls = cloud.pulls from (exec_pulls hcall).commit rfl] at hresult
    obtain ⟨account, hassigned, hhanded⟩ := hstored result hresult answer hanswer
    exact ⟨account, hassigned, hhanded.trans hstep⟩
  · push Not at hcall
    obtain ⟨serviceAccountId, context, command, hcall⟩ := hcall
    cases hpull : pullCommands action.draws serviceAccountId context command cloud with
    | error =>
      have hsame : next cloud action = cloud := by
        unfold next
        rw [hcall]
        exact congrArg Prod.snd (commit_of_error hpull)
      rw [hsame]
      exact hstored
    | ok pair =>
      rw [next_of_pull hcall hpull]
      exact (pull_handsOut ⟨start, hstart⟩ hstored hcall hpull).2

/-- A pull answers with what was handed out to its caller. -/
theorem handedOut_of_answers (hreached : Reached cloud)
    (h : Answers cloud action serviceAccountId answer) :
    HandedOut (next cloud action) serviceAccountId answer := by
  obtain ⟨context, command, answers, cloud', hcall, hpull, hanswer⟩ := h
  rw [next_of_pull hcall hpull]
  exact (pull_handsOut hreached (pullsHandedOut_of_reached hreached) hcall hpull).1 answer hanswer

/-- What was handed out is still assigned to the account. -/
theorem HandedOut.assigned (h : HandedOut cloud serviceAccountId answer) :
    account? cloud answer.command.commandId = some serviceAccountId := by
  obtain ⟨earlier, action, row, delivery, -, hrun, hdelivers, hdelivery, rfl, -⟩ := h
  refine run_written (account? · _) (account_stays _) hrun ?_
  unfold account?
  rw [hdelivers.1, bind_some, hdelivery]
  rfl

end Answers

/-- What holds of a command between any call and any later call. -/
structure Fenced (commandId : ℤ) (before : Cloud) (first : CloudAction) (later : Cloud)
    (second : CloudAction) : Prop where
  /-- One acknowledgement is accepted. -/
  acceptedOnce : Accepts before first commandId → ¬Accepts later second commandId
  /-- It is accepted by the account that it is assigned to, with the token and the revision of
  the delivery that it holds. -/
  acceptedAsHeld : Accepts later second commandId →
    TakesDelivery second.call (later.commands.find? commandId)
  /-- When the first call delivers it and no call in between does, these are the token and the
  revision of that delivery. -/
  acceptedAsDelivered : ∀ row, Delivers before first commandId row →
    CloudRun (fun cloud action => ∀ row, ¬Delivers cloud action commandId row)
      (next before first) later →
    Accepts later second commandId → TakesRow second.call row
  /-- One report is accepted. -/
  reportedOnce : Reports before first commandId → ¬Reports later second commandId
  /-- It is reported by the account that it is assigned to, once it is accepted. -/
  reportedAfterAcceptance : Reports later second commandId →
    ReportsAccepted second.call (later.commands.find? commandId)
  /-- Once it is assigned, it stays with its account. -/
  oneAccount : ∀ serviceAccountId, account? (next before first) commandId = some serviceAccountId →
    account? (next later second) commandId = some serviceAccountId
  /-- A pull answers with commands that were delivered to its caller, with the token and at the
  revision of that delivery. -/
  answered : Reached later → ∀ serviceAccountId answer,
    Answers later second serviceAccountId answer →
      HandedOut (next later second) serviceAccountId answer
  /-- Pulls of two accounts do not both answer with it. -/
  oneCaller : Reached before → ∀ account other answer later', Answers before first account answer →
    answer.command.commandId = commandId → Answers later second other later' →
    later'.command.commandId = commandId → other = account
  /-- Once it is accepted, it is not delivered again. -/
  notRedelivered : acceptedAt? (next before first) commandId ≠ none →
    ∀ row, ¬Delivers later second commandId row
  /-- The revision grows. -/
  revisionIncreases : ∀ row, later.commands.find? commandId = some row →
    ∃ row', (next later second).commands.find? commandId = some row' ∧
      (row' = row ∨ row.revision.value < row'.revision.value)

section Fencing

variable {before later : Cloud} {first second : CloudAction} {commandId : ℤ}

/-- An acceptance takes the delivery that the row holds. -/
theorem accepts_held (h : Accepts later second commandId) :
    TakesDelivery second.call (later.commands.find? commandId) :=
  ((acceptance_moves (next_moves later second commandId)).resolve_left h).2

/-- An acceptance after a delivery, with no other delivery in between, takes that one. -/
theorem accepts_delivered {row : AutomationCommand}
    (hdelivers : Delivers before first commandId row)
    (hquiet : CloudRun (fun cloud action => ∀ row, ¬Delivers cloud action commandId row)
      (next before first) later)
    (h : Accepts later second commandId) : TakesRow second.call row := by
  obtain ⟨serviceAccountId, context, command, held, delivery, expiresAt, hcall, hheld, _,
    hprogress, _, htoken, hexpected⟩ := accepts_held h
  rcases run_delivered hdelivers.2.1 hquiet hdelivers.1 with hsame | haccepted
  · cases hheld.symm.trans hsame
    refine ⟨serviceAccountId, context, command, hcall, ?_, hexpected⟩
    rw [hprogress, ← htoken]
    rfl
  · exact absurd (written_of_ne (acceptedAt_stays commandId later second) h).1 haccepted

/-- Over any run of any callers, deliveries are fenced. -/
theorem deliveries_are_fenced (hrun : CloudRun anyAction (next before first) later)
    (second : CloudAction) (commandId : ℤ) : Fenced commandId before first later second where
  acceptedOnce hfirst hsecond := by
    obtain ⟨_, acceptedAt, hat⟩ := written_of_ne (acceptedAt_stays commandId before first) hfirst
    have hlater := run_written (acceptedAt? · commandId) (acceptedAt_stays commandId) hrun hat
    have hnone := (written_of_ne (acceptedAt_stays commandId later second) hsecond).1
    cases hnone.symm.trans hlater
  acceptedAsHeld := accepts_held
  acceptedAsDelivered _ hdelivers hquiet hsecond := accepts_delivered hdelivers hquiet hsecond
  reportedOnce hfirst hsecond := by
    obtain ⟨_, outcome, hat⟩ := written_of_ne (outcome_stays commandId before first) hfirst
    have hlater := run_written (outcome? · commandId) (outcome_stays commandId) hrun hat
    have hnone := (written_of_ne (outcome_stays commandId later second) hsecond).1
    cases hnone.symm.trans hlater
  reportedAfterAcceptance hsecond :=
    ((outcome_moves (next_moves later second commandId)).resolve_left hsecond).2
  oneAccount serviceAccountId hfirst :=
    run_written (account? · commandId) (account_stays commandId) (hrun.trans (.single trivial rfl))
      hfirst
  answered hreached _ _ hanswers := handedOut_of_answers hreached hanswers
  oneCaller hreached account other answer later' hfirst hid hsecond hlaterId := by
    obtain ⟨facilities, hbefore⟩ := hreached
    have hlater : Reached later :=
      ⟨facilities, (hbefore.trans (.single trivial rfl)).trans hrun⟩
    have haccount := (handedOut_of_answers ⟨facilities, hbefore⟩ hfirst).assigned
    have hother := (handedOut_of_answers hlater hsecond).assigned
    rw [hid] at haccount
    rw [hlaterId] at hother
    refine Option.some.inj (hother.symm.trans ?_)
    exact run_written (account? · commandId) (account_stays commandId)
      (hrun.trans (.single trivial rfl)) haccount
  notRedelivered haccepted row hdelivers := by
    obtain ⟨acceptedAt, hat⟩ := Option.ne_none_iff_exists'.mp haccepted
    have hlater := run_written (acceptedAt? · commandId) (acceptedAt_stays commandId) hrun hat
    rw [acceptedAt_of_delivers hdelivers] at hlater
    cases hlater
  revisionIncreases row hrow := by
    have hmove := next_moves later second commandId
    rw [hrow] at hmove
    exact revision_grows hmove

end Fencing

/-- The token of the first delivery. -/
def firstToken : String := "0198f0a27c5d7e3f9a1b2c3d4e5f6071"

/-- The token of the second delivery. -/
def secondToken : String := "0198f0a27c5d7e3f9a1b2c3d4e5f6072"

/-- The command was delivered, and again after the first delivery expired. -/
def redelivered : Cloud :=
  replay next [pullTare 4 firstToken, pullTare 30004 secondToken] tareRequested

/-- An acknowledgement of the first delivery comes after the second one was accepted. -/
theorem late_acknowledgement_is_refused :
    Accepts redelivered (acknowledgeTare 30005 secondToken 3) 1 ∧
      ¬Accepts (next redelivered (acknowledgeTare 30005 secondToken 3))
        (acknowledgeTare 30006 firstToken 2) 1 := by
  have haccepts : Accepts redelivered (acknowledgeTare 30005 secondToken 3) 1 := by
    decide +kernel
  exact ⟨haccepts,
    (deliveries_are_fenced .refl (acknowledgeTare 30006 firstToken 2) 1).acceptedOnce haccepts⟩

end Wareboxes.DeliveryFencing
