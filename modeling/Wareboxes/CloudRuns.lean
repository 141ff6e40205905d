import Wareboxes.CloudAdministration
import Wareboxes.EdgeRuns
import Wareboxes.TransactionRules

/-!
# Runs of the cloud

Any number of agents, operators and other parts of the server call the cloud in any order. Each
call commits or rolls back as a whole. This module says what a call can do to a command: it
leaves it alone, requests it, or moves it one step along its life. Everything that holds of
commands over whole runs follows from that.
-/

namespace Wareboxes.CloudRuns

open CloudAdministration CloudCommands CloudQueue CloudRecords EdgeRuns KeyedTables LabelledRuns
open OutboxTables ServerCommands TransactionRules Transactions Transaction KeyedTable

/-- A call of the cloud. -/
inductive CloudCall where
  | assignedDevices (scope : ScopeBindings) (facilityId : ℤ)
  | pull (serviceAccountId : ℤ) (context : CommandContext) (command : PullAutomationCommands)
  | acknowledge (serviceAccountId : ℤ) (context : CommandContext)
      (command : AcknowledgeAutomationCommand)
  | report (serviceAccountId : ℤ) (context : CommandContext) (command : ReportAutomationCommand)
  | heartbeat (serviceAccountId : ℤ) (context : CommandContext)
      (command : RecordAutomationHeartbeat)
  | register (context : CommandContext) (command : RegisterAutomationDeviceCommand)
  | control (context : CommandContext) (command : ChangeAutomationControlCommand)
  | enqueue (context : CommandContext) (command : EnqueueAutomationCommand)
  | resolve (context : CommandContext) (command : ResolveAutomationCommand)
  | cancelPrint (commandId : ℤ) (expectedRevision : ℕ)

/-- The answer of each call, when it returns one. -/
def CloudCall.Answer : CloudCall → Type
  | .assignedDevices .. => List AutomationDevice
  | .pull .. => List AutomationDeliveryReadModel
  | .acknowledge .. | .report .. | .enqueue .. | .resolve .. | .cancelPrint .. =>
    AutomationCommandReadModel
  | .heartbeat .. => AutomationHeartbeat
  | .register .. | .control .. => AutomationDevice

/-- The transaction of each call. -/
def CloudCall.exec (draws : Draws) : (call : CloudCall) → CloudTx call.Answer
  | .assignedDevices scope facilityId => CloudQueue.assignedDevices scope facilityId
  | .pull serviceAccountId context command => pullCommands draws serviceAccountId context command
  | .acknowledge serviceAccountId context command =>
    acknowledgeCommand draws serviceAccountId context command
  | .report serviceAccountId context command => reportCommand draws serviceAccountId context command
  | .heartbeat serviceAccountId context command =>
    recordHeartbeat draws serviceAccountId context command
  | .register context command => registerDevice draws context command
  | .control context command => changeControl draws context command
  | .enqueue context command => enqueueCommand draws context command
  | .resolve context command => resolveCommand draws context command
  | .cancelPrint commandId expectedRevision =>
    CloudAdministration.cancelPrint draws commandId expectedRevision

/-- A call together with what it draws from its surroundings. -/
structure CloudAction where
  /-- The clock, fresh identities and tokens, and commands held by others. -/
  draws : Draws
  call : CloudCall

/-- The state after a call. -/
def next (cloud : Cloud) (action : CloudAction) : Cloud :=
  (commit (action.call.exec action.draws) cloud).2

/-- A run of calls that are allowed where they are made. -/
abbrev CloudRun (allows : Cloud → CloudAction → Prop) : Cloud → Cloud → Prop :=
  Run (fun cloud action cloud' => cloud' = next cloud action) allows

/-- Calls without any restriction. -/
def anyAction (_ : Cloud) (_ : CloudAction) : Prop := True

/-- What a call can do to a command. -/
inductive CommandMove (draws : Draws) :
    CloudCall → Option AutomationCommand → Option AutomationCommand → Prop where
  | same {call : CloudCall} (row : Option AutomationCommand) : CommandMove draws call row row
  | enqueue {context : CommandContext} {command : EnqueueAutomationCommand}
      (device : AutomationDevice) :
      CommandMove draws (.enqueue context command) none
        (some (queuedCommand draws device command))
  | deliver {serviceAccountId : ℤ} {context : CommandContext} {command : PullAutomationCommands}
      {row : AutomationCommand} {revision : RowRevision} (token : String) (expiresAt : Timestamp)
      (hwaits : awaitsDelivery serviceAccountId (stored draws.now) row.progress = true)
      (hrevision : row.revision.next = some revision) :
      CommandMove draws (.pull serviceAccountId context command) (some row)
        (some (advance revision
          (.delivered ⟨serviceAccountId, command.agentInstance, token, stored draws.now⟩
            expiresAt) row))
  /-- The delivery that the caller has seen is accepted. -/
  | accept {serviceAccountId : ℤ} {context : CommandContext}
      {command : AcknowledgeAutomationCommand} {row : AutomationCommand}
      {revision : RowRevision} {delivery : Delivery} {expiresAt : Timestamp}
      (hid : row.id = command.commandId) (hprogress : row.progress = .delivered delivery expiresAt)
      (haccount : delivery.serviceAccountId = serviceAccountId)
      (htoken : delivery.token = command.deliveryToken)
      (hexpected : row.revision.value = command.expectedRevision)
      (hrevision : row.revision.next = some revision) :
      CommandMove draws (.acknowledge serviceAccountId context command) (some row)
        (some (advance revision (.accepted delivery (stored draws.now)) row))
  /-- The accepted command that the caller has seen is reported. -/
  | report {serviceAccountId : ℤ} {context : CommandContext} {command : ReportAutomationCommand}
      {row : AutomationCommand} {revision : RowRevision} {delivery : Delivery}
      {acceptedAt : Timestamp} {outcome : Outcome}
      (hid : row.id = command.commandId) (hprogress : row.progress = .accepted delivery acceptedAt)
      (haccount : delivery.serviceAccountId = serviceAccountId)
      (hexpected : row.revision.value = command.expectedRevision)
      (hrevision : row.revision.next = some revision) :
      CommandMove draws (.report serviceAccountId context command) (some row)
        (some (advance revision (.reported delivery acceptedAt outcome) row))
  /-- An operator decides about a command that asked for it. -/
  | resolve {context : CommandContext} {command : ResolveAutomationCommand}
      {row : AutomationCommand} {revision : RowRevision} {delivery : Delivery}
      {acceptedAt : Timestamp} {outcome : Outcome} (resolution : Resolution)
      (hprogress : row.progress = .reported delivery acceptedAt outcome)
      (hrevision : row.revision.next = some revision) :
      CommandMove draws (.resolve context command) (some row)
        (some (advance revision (.resolved delivery acceptedAt outcome resolution) row))
  /-- A queued command is withdrawn. -/
  | cancel {commandId : ℤ} {expectedRevision : ℕ} {row : AutomationCommand}
      {revision : RowRevision} (hprogress : row.progress = .queued)
      (hrevision : row.revision.next = some revision) :
      CommandMove draws (.cancelPrint commandId expectedRevision) (some row)
        (some (advance revision (.cancelled (stored draws.now)) row))

variable {draws : Draws} {cloud cloud' middle : Cloud} {serviceAccountId : ℤ}
  {context : CommandContext} {model : AutomationCommandReadModel} {row : AutomationCommand}

section Updates

variable {commandId : ℤ} {rewrite : CommandProgress → Option CommandProgress}

/-- A row that moves gets a larger revision. -/
theorem revision_lt_advance {revision : RowRevision}
    (progress : CommandProgress) (h : row.revision.next = some revision) :
    row.revision.value < (advance revision progress row).revision.value := by
  change row.revision.value < revision.value
  rw [RowRevision.next_eq_some h]
  exact Nat.lt_succ_self _

theorem updatedCommand_ok (h : updatedCommand commandId cloud = .ok (model, cloud')) :
    cloud' = cloud ∧ commandRow? cloud commandId = some model := by
  unfold updatedCommand at h
  rw [gets_bind] at h
  obtain ⟨hmodel, rfl⟩ := orFail_ok.mp h
  exact ⟨rfl, hmodel⟩

/-- An update finds its row, moves it to the next revision, and touches no other. -/
theorem updateCommand_ok (h : updateCommand commandId rewrite cloud = .ok ((), cloud')) :
    ∃ row revision progress, cloud.commands.find? commandId = some row ∧
      row.revision.next = some revision ∧ rewrite row.progress = some progress ∧
      ∀ id, cloud'.commands.find? id =
        if id = commandId then some (advance revision progress row)
        else cloud.commands.find? id := by
  unfold updateCommand at h
  rw [gets_bind] at h
  obtain ⟨row, hrow, h⟩ := orFail_bind_ok.mp h
  obtain ⟨revision, hrevision, h⟩ := orFail_bind_ok.mp h
  obtain ⟨progress, hprogress, h⟩ := orFail_bind_ok.mp h
  cases h
  refine ⟨row, revision, progress, hrow, hrevision, hprogress, fun id => ?_⟩
  dsimp only [rewriteRow]
  rw [find?_updateWhere_key hrow]

/-- An update that is read back moves its command only. -/
theorem changedCommand_moves {call : CloudCall}
    (hmove : ∀ row revision progress, cloud.commands.find? commandId = some row →
      row.revision.next = some revision → rewrite row.progress = some progress →
      CommandMove draws call (some row) (some (advance revision progress row)))
    (h : (updateCommand commandId rewrite >>= fun _ => updatedCommand commandId) cloud =
      .ok (model, cloud')) (id : ℤ) :
    CommandMove draws call (cloud.commands.find? id) (cloud'.commands.find? id) := by
  obtain ⟨_, middle, hupdate, hread⟩ := bind_ok.mp h
  obtain ⟨rfl, _⟩ := updatedCommand_ok hread
  obtain ⟨row, revision, progress, hrow, hrevision, hrewrite, hfind⟩ := updateCommand_ok hupdate
  rw [hfind]
  split_ifs with hid
  · rw [hid, hrow]
    exact hmove row revision progress hrow hrevision hrewrite
  · exact .same _

end Updates

variable {commandId : ℤ}

/-- A command that is found joined with its device is a row. -/
theorem commandRow?_eq_some (h : commandRow? cloud commandId = some model) :
    ∃ row, cloud.commands.find? commandId = some row ∧ model = readModel row := by
  obtain ⟨row, hrow, h⟩ := Option.bind_eq_some_iff.mp h
  obtain ⟨_, _, h⟩ := Option.bind_eq_some_iff.mp h
  cases h
  exact ⟨row, hrow, rfl⟩

theorem lockCommand_ok (h : lockCommand cloud commandId = .ok model) :
    commandRow? cloud commandId = some model := by
  unfold lockCommand at h
  split at h
  · cases h
    assumption
  · cases h

variable {scope : ScopeBindings}

/-- A command that is locked and may be changed is a row that is assigned to the account. -/
theorem assigned_of_locked (hlocked : lockCommand cloud commandId = .ok model)
    (hassigned : requireAssignedVisible cloud scope serviceAccountId model = .ok ())
    (hrow : cloud.commands.find? commandId = some row) :
    model = readModel row ∧
      row.progress.delivery?.map (·.serviceAccountId) = some serviceAccountId := by
  obtain ⟨other, hother, rfl⟩ := commandRow?_eq_some (lockCommand_ok hlocked)
  cases hrow.symm.trans hother
  unfold requireAssignedVisible at hassigned
  obtain ⟨_, _, hassigned⟩ := except_bind_ok.mp hassigned
  split_ifs at hassigned with haccount
  exact ⟨rfl, haccount⟩

variable {expiresAt : Timestamp}

section Pull

variable {command : PullAutomationCommands}

/-- A command that waits for a delivery is queued, or was delivered to the account. -/
theorem awaitsDelivery_cases {now : Timestamp} {progress : CommandProgress}
    (h : awaitsDelivery serviceAccountId now progress = true) :
    progress = .queued ∨ ∃ delivery expiresAt, progress = .delivered delivery expiresAt ∧
      delivery.serviceAccountId = serviceAccountId ∧ expiresAt ≤ now := by
  cases progress with
  | queued => exact .inl rfl
  | delivered delivery expiresAt =>
    obtain ⟨haccount, hexpired⟩ := Bool.and_eq_true _ _ ▸ h
    exact .inr ⟨delivery, expiresAt, rfl, decide_eq_true_iff.mp haccount,
      decide_eq_true_iff.mp hexpired⟩
  | accepted _ _ | reported _ _ _ | resolved _ _ _ _ | cancelled _ => cases h

/-- What a pull has done while some of its commands are still to be delivered: those are as
they were, and every other one is as it was or delivered once. -/
def PullProgress (draws : Draws) (serviceAccountId : ℤ) (context : CommandContext)
    (command : PullAutomationCommands) (before : Cloud) (remaining : List (ℤ × String))
    (now : Cloud) : Prop :=
  (remaining.map Prod.fst).Nodup ∧
    (∀ id ∈ remaining.map Prod.fst,
      now.commands.find? id = before.commands.find? id ∧
        ∀ row, before.commands.find? id = some row →
          awaitsDelivery serviceAccountId (stored draws.now) row.progress = true) ∧
    ∀ id, CommandMove draws (.pull serviceAccountId context command)
      (before.commands.find? id) (now.commands.find? id)

/-- What a pull has answered so far: each answer shows a command that is not still to be delivered,
as the pull left it, with the token and at the revision of its delivery. -/
def PullAnswers (draws : Draws) (serviceAccountId : ℤ) (command : PullAutomationCommands)
    (before : Cloud) (remaining : List (ℤ × String))
    (answers : List AutomationDeliveryReadModel) (now : Cloud) : Prop :=
  ∀ answer ∈ answers, answer.command.commandId ∉ remaining.map Prod.fst ∧
    ∃ row expiresAt, now.commands.find? answer.command.commandId = some row ∧
      before.commands.find? answer.command.commandId ≠ some row ∧
      row.progress = .delivered ⟨serviceAccountId, command.agentInstance, answer.deliveryToken,
        stored draws.now⟩ expiresAt ∧
      answer.command.assignedServiceAccountId = some serviceAccountId ∧
      answer.command.revision = row.revision

/-- A delivery is recorded with its account. -/
theorem redeliver_eq_some {delivery : Delivery} {progress progress' : CommandProgress}
    (h : redeliver delivery expiresAt progress = some progress') :
    progress' = .delivered delivery expiresAt := by
  cases progress with
  | queued =>
    cases h
    rfl
  | delivered earlier _ =>
    change (if _ then _ else _) = _ at h
    split_ifs at h
    cases h
    rfl
  | accepted _ _ | reported _ _ _ | resolved _ _ _ _ | cancelled _ => cases h

/-- One delivery of a pull. -/
theorem deliverCommand_progress {before : Cloud} {selected : ℤ × String}
    {rest : List (ℤ × String)} {answers answers' : List AutomationDeliveryReadModel}
    (hbefore : PullProgress draws serviceAccountId context command before (selected :: rest) cloud)
    (hanswers : PullAnswers draws serviceAccountId command before (selected :: rest) answers cloud)
    (h : deliverCommand serviceAccountId command.agentInstance (stored draws.now) expiresAt
      selected answers cloud = .ok (answers', cloud')) :
    PullProgress draws serviceAccountId context command before rest cloud' ∧
      PullAnswers draws serviceAccountId command before rest answers' cloud' := by
  obtain ⟨hnodup, hwaiting, hmoves⟩ := hbefore
  rw [List.map_cons, List.nodup_cons] at hnodup
  unfold deliverCommand at h
  obtain ⟨_, middle, hupdate, hread⟩ := bind_ok.mp h
  obtain ⟨model, last, hmodel, hend⟩ := bind_ok.mp hread
  obtain ⟨rfl, hmodel⟩ := updatedCommand_ok hmodel
  cases hend
  obtain ⟨row, revision, progress, hrow, hrevision, hprogress, hfind⟩ := updateCommand_ok hupdate
  cases redeliver_eq_some hprogress
  obtain ⟨hsame, hawaits⟩ := hwaiting selected.1 List.mem_cons_self
  have hid := key_of_find? hrow
  rw [hsame] at hrow
  refine ⟨⟨hnodup.2, fun id hid => ?_, fun id => ?_⟩, fun answer hanswer => ?_⟩
  · have hne : id ≠ selected.1 := by
      rintro rfl
      exact hnodup.1 hid
    rw [hfind, if_neg hne]
    exact hwaiting id (List.mem_cons_of_mem _ hid)
  · rw [hfind]
    split_ifs with hid
    · rw [hid, hrow]
      exact .deliver selected.2 expiresAt (hawaits row hrow) hrevision
    · exact hmoves id
  · rcases List.mem_append.mp hanswer with hearlier | hnew
    · obtain ⟨habsent, hshown⟩ := hanswers answer hearlier
      rw [List.map_cons, List.mem_cons, not_or] at habsent
      rw [hfind, if_neg habsent.1]
      exact ⟨habsent.2, hshown⟩
    · cases List.mem_singleton.mp hnew
      obtain ⟨shown, hshown, rfl⟩ := commandRow?_eq_some hmodel
      rw [hfind, if_pos rfl] at hshown
      cases hshown
      have habsent : row.id ∉ rest.map Prod.fst := hid ▸ hnodup.1
      refine ⟨habsent, _, expiresAt, (hfind row.id).trans (if_pos hid), ?_, rfl, rfl, rfl⟩
      change before.commands.find? row.id ≠ _
      rw [hid, hrow]
      intro hunmoved
      have hvalue := congrArg (fun row : AutomationCommand => row.revision.value)
        (Option.some.inj hunmoved)
      exact (revision_lt_advance _ hrevision).ne hvalue

/-- The commands of a pull wait for a delivery. -/
theorem selectDeliverable_waits {id : ℤ}
    (hid : id ∈ selectDeliverable serviceAccountId command draws cloud)
    (hrow : cloud.commands.find? id = some row) :
    awaitsDelivery serviceAccountId (stored draws.now) row.progress = true := by
  have hselected := List.mem_of_mem_filter (List.mem_of_mem_take hid)
  obtain ⟨other, hother, hkey⟩ := List.mem_map.mp hselected
  obtain ⟨hfound, hdeliverable⟩ := KeyedTable.mem_selection.mp hother
  cases hfound.symm.trans (hkey ▸ hrow)
  unfold deliverable at hdeliverable
  exact (Bool.and_eq_true _ _ ▸ hdeliverable).2

theorem selectDeliverable_nodup :
    (selectDeliverable serviceAccountId command draws cloud).Nodup := by
  unfold selectDeliverable
  have hsorted := cloud.commands.nodup_selection
    (deliverable cloud serviceAccountId command (stored draws.now)) requestedBefore
  exact (hsorted.filter _).sublist (List.take_sublist _ _)

theorem map_fst_tokens (ids : List ℤ) (token : ℕ → String) :
    (ids.zipIdx.map fun selected => (selected.1, token selected.2)).map Prod.fst = ids := by
  rw [List.map_map]
  exact List.zipIdx_map_fst 0 ids

/-- A new pull delivers waiting commands, each at most once, and answers with them. -/
theorem executePull_ok (context : CommandContext) {result : List AutomationDeliveryReadModel}
    (h : executePull draws serviceAccountId command cloud = .ok (result, cloud')) :
    (∀ id, CommandMove draws (.pull serviceAccountId context command)
      (cloud.commands.find? id) (cloud'.commands.find? id)) ∧
    PullAnswers draws serviceAccountId command cloud [] result cloud' := by
  unfold executePull at h
  rw [gets_bind] at h
  obtain ⟨expiresAt, _, h⟩ := orPanic_bind_ok.mp h
  have hstart : PullProgress draws serviceAccountId context command cloud
      ((selectDeliverable serviceAccountId command draws cloud).zipIdx.map fun selected =>
        (selected.1, draws.token selected.2)) cloud := by
    refine ⟨?_, fun id hid => ⟨rfl, fun row hrow => ?_⟩, fun id => .same _⟩
    · rw [map_fst_tokens]
      exact selectDeliverable_nodup
    · rw [map_fst_tokens] at hid
      exact selectDeliverable_waits hid hrow
  have hend := loop_invariant (fun remaining answers now =>
      PullProgress draws serviceAccountId context command cloud remaining now ∧
        PullAnswers draws serviceAccountId command cloud remaining answers now)
    (fun _ _ _ _ _ _ hprogress hbody => deliverCommand_progress hprogress.1 hprogress.2 hbody)
    ⟨hstart, by rintro _ ⟨⟩⟩ h
  exact ⟨hend.1.2.2, hend.2⟩

end Pull

section Acknowledgement

variable {command : AcknowledgeAutomationCommand}

/-- The checks of an acknowledgement find the delivery that the caller has seen. -/
theorem checkAcknowledgement_ok
    (h : checkAcknowledgement cloud serviceAccountId scope command = .ok ())
    (hrow : cloud.commands.find? command.commandId = some row) :
    ∃ delivery expiresAt, row.progress = .delivered delivery expiresAt ∧
      delivery.serviceAccountId = serviceAccountId ∧ delivery.token = command.deliveryToken ∧
      row.revision.value = command.expectedRevision := by
  unfold checkAcknowledgement at h
  obtain ⟨current, hcurrent, h⟩ := except_bind_ok.mp h
  obtain ⟨_, hassigned, h⟩ := except_bind_ok.mp h
  obtain ⟨rfl, haccount⟩ := assigned_of_locked hcurrent hassigned hrow
  split_ifs at h with _ hcurrent htoken
  rw [not_or, not_not, not_not] at hcurrent
  obtain ⟨delivery, expiresAt, hprogress⟩ :=
    CommandProgress.status_eq_delivered.mp hcurrent.1
  rw [hprogress] at haccount
  rw [tokenMatches, hrow, Option.bind_some, hprogress] at htoken
  exact ⟨delivery, expiresAt, hprogress, Option.some.inj haccount, of_decide_eq_true htoken,
    hcurrent.2⟩

/-- A new acknowledgement moves its command only. -/
theorem executeAcknowledgement_moves
    (h : executeAcknowledgement draws serviceAccountId context.scope command cloud =
      .ok (model, cloud')) (id : ℤ) :
    CommandMove draws (.acknowledge serviceAccountId context command)
      (cloud.commands.find? id) (cloud'.commands.find? id) := by
  unfold executeAcknowledgement at h
  rw [gets_bind] at h
  obtain ⟨_, hcheck, h⟩ := lift_bind_ok.mp h
  refine changedCommand_moves (fun row revision progress hrow hrevision hrewrite => ?_) h id
  obtain ⟨delivery, expiresAt, hprogress, haccount, htoken, hexpected⟩ :=
    checkAcknowledgement_ok hcheck hrow
  rw [hprogress] at hrewrite
  unfold accept at hrewrite
  dsimp only at hrewrite
  split_ifs at hrewrite
  cases hrewrite
  exact .accept (key_of_find? hrow) hprogress haccount htoken hexpected hrevision

end Acknowledgement

section Report

variable {command : ReportAutomationCommand}

/-- The checks of a report find the accepted command that the caller has seen. -/
theorem checkReport_ok {current : AutomationCommandReadModel}
    (h : checkReport cloud serviceAccountId scope command = .ok current)
    (hrow : cloud.commands.find? command.commandId = some row) :
    ∃ delivery acceptedAt, row.progress = .accepted delivery acceptedAt ∧
      delivery.serviceAccountId = serviceAccountId ∧
      row.revision.value = command.expectedRevision := by
  unfold checkReport at h
  obtain ⟨locked, hlocked, h⟩ := except_bind_ok.mp h
  obtain ⟨_, hassigned, h⟩ := except_bind_ok.mp h
  obtain ⟨rfl, haccount⟩ := assigned_of_locked hlocked hassigned hrow
  split_ifs at h with hcurrent
  rw [not_or, not_not, not_not] at hcurrent
  obtain ⟨delivery, acceptedAt, hprogress⟩ :=
    CommandProgress.status_eq_accepted.mp hcurrent.1
  rw [hprogress] at haccount
  exact ⟨delivery, acceptedAt, hprogress, Option.some.inj haccount, hcurrent.2⟩

/-- A new report moves its command only. -/
theorem executeReport_moves (h : executeReport draws serviceAccountId context.scope command cloud =
      .ok (model, cloud')) (id : ℤ) :
    CommandMove draws (.report serviceAccountId context command)
      (cloud.commands.find? id) (cloud'.commands.find? id) := by
  unfold executeReport at h
  rw [gets_bind] at h
  obtain ⟨current, hcheck, h⟩ := lift_bind_ok.mp h
  obtain ⟨latest, _, h⟩ := orPanic_bind_ok.mp h
  obtain ⟨_, h⟩ := ensure_bind_ok.mp h
  obtain ⟨outcome, _, h⟩ := orFail_bind_ok.mp h
  refine changedCommand_moves (fun row revision progress hrow hrevision hrewrite => ?_) h id
  obtain ⟨delivery, acceptedAt, hprogress, haccount, hexpected⟩ := checkReport_ok hcheck hrow
  rw [hprogress] at hrewrite
  unfold finish at hrewrite
  dsimp only at hrewrite
  split_ifs at hrewrite
  cases hrewrite
  exact .report (key_of_find? hrow) hprogress haccount hexpected hrevision

end Report

section Operators

/-- A new request adds its command only. -/
theorem executeEnqueue_moves {command : EnqueueAutomationCommand}
    (h : executeEnqueue draws context.scope command cloud = .ok (model, cloud')) (id : ℤ) :
    CommandMove draws (.enqueue context command)
      (cloud.commands.find? id) (cloud'.commands.find? id) := by
  unfold executeEnqueue at h
  rw [gets_bind] at h
  obtain ⟨device, _, h⟩ := lift_bind_ok.mp h
  obtain ⟨_, h⟩ := ensure_bind_ok.mp h
  obtain ⟨earliest, _, h⟩ := orPanic_bind_ok.mp h
  obtain ⟨_, _, h⟩ := lift_bind_ok.mp h
  obtain ⟨commands, hinsert, h⟩ := orFail_bind_ok.mp h
  rw [modify_bind] at h
  cases h
  have habsent := (insert?_eq_some hinsert).1
  change CommandMove draws _ _ (commands.find? id)
  rw [find?_insert hinsert]
  split_ifs with hid
  · have hnone : cloud.commands.find? id = none := hid ▸ habsent
    rw [hnone]
    exact .enqueue device
  · exact .same _

variable {progress progress' : CommandProgress}

/-- A decision takes a command that asked for it. -/
theorem resolve_eq_some {resolution : Resolution}
    (h : resolve resolution progress = some progress') :
    ∃ delivery acceptedAt outcome, progress = .reported delivery acceptedAt outcome ∧
      progress' = .resolved delivery acceptedAt outcome resolution := by
  cases progress with
  | reported delivery acceptedAt outcome =>
    change (if _ then _ else _) = _ at h
    split_ifs at h
    cases h
    exact ⟨delivery, acceptedAt, outcome, rfl, rfl⟩
  | queued | delivered _ _ | accepted _ _ | resolved _ _ _ _ | cancelled _ => cases h

/-- A new decision moves its command only. -/
theorem executeResolution_moves {command : ResolveAutomationCommand}
    (h : executeResolution draws context command cloud = .ok (model, cloud')) (id : ℤ) :
    CommandMove draws (.resolve context command)
      (cloud.commands.find? id) (cloud'.commands.find? id) := by
  unfold executeResolution at h
  rw [gets_bind] at h
  obtain ⟨_, _, h⟩ := lift_bind_ok.mp h
  obtain ⟨_, h⟩ := ensure_bind_ok.mp h
  refine changedCommand_moves (fun row revision progress _ hrevision hrewrite => ?_) h id
  obtain ⟨delivery, acceptedAt, outcome, hprogress, rfl⟩ := resolve_eq_some hrewrite
  exact .resolve _ hprogress hrevision

theorem cancel_eq_some {completedAt : Timestamp}
    (h : cancel completedAt progress = some progress') :
    progress = .queued ∧ progress' = .cancelled completedAt := by
  cases progress with
  | queued =>
    cases h
    exact ⟨rfl, rfl⟩
  | delivered _ _ | accepted _ _ | reported _ _ _ | resolved _ _ _ _ | cancelled _ => cases h

/-- A withdrawal moves its command only. -/
theorem cancelPrint_moves {commandId : ℤ} {expectedRevision : ℕ}
    (h : cancelPrint draws commandId expectedRevision cloud = .ok (model, cloud')) (id : ℤ) :
    CommandMove draws (.cancelPrint commandId expectedRevision)
      (cloud.commands.find? id) (cloud'.commands.find? id) := by
  unfold cancelPrint at h
  rw [gets_bind] at h
  obtain ⟨_, _, h⟩ := orFail_bind_ok.mp h
  obtain ⟨_, h⟩ := ensure_bind_ok.mp h
  refine changedCommand_moves (fun row revision progress _ hrevision hrewrite => ?_) h id
  obtain ⟨hprogress, rfl⟩ := cancel_eq_some hrewrite
  exact .cancel hprogress hrevision

end Operators

section Devices

variable {β : Type} (frame : Cloud → β) {value : β}
  (hframe : ∀ cloud heartbeats devices, frame { cloud with heartbeats, devices } = frame cloud)
include hframe

/-- A heartbeat changes heartbeats and devices only. -/
theorem executeHeartbeat_frame {command : RecordAutomationHeartbeat} :
    Maintains (fun cloud => frame cloud = value)
      (executeHeartbeat draws serviceAccountId scope command) :=
  maintains_gets_bind fun _ => maintains_lift_bind fun _ _ => maintains_orPanic_bind fun _ _ =>
    maintains_orPanic_bind fun _ _ => maintains_ensure_bind fun _ => maintains_lift_bind fun _ _ =>
    maintains_ensure_bind fun _ => maintains_orFail_bind fun _ _ =>
    maintains_bind (maintains_modify fun _ h => (hframe _ _ _).trans h) fun _ => maintains_pure _

/-- A registration changes devices only. -/
theorem executeRegistration_frame {command : RegisterAutomationDeviceCommand} :
    Maintains (fun cloud => frame cloud = value) (executeRegistration draws scope command) :=
  maintains_gets_bind fun _ => maintains_lift_bind fun _ _ => maintains_orFail_bind fun _ _ =>
    maintains_bind (maintains_modify fun _ h => (hframe _ _ _).trans h) fun _ => maintains_pure _

/-- A change of control changes devices only. -/
theorem executeControl_frame {command : ChangeAutomationControlCommand} :
    Maintains (fun cloud => frame cloud = value) (executeControl draws scope command) :=
  maintains_gets_bind fun _ => maintains_lift_bind fun _ _ => maintains_lift_bind fun _ _ =>
    maintains_orFail_bind fun _ _ => maintains_ensure_bind fun _ =>
    maintains_bind (maintains_modify fun _ h => (hframe _ _ _).trans h) fun _ => maintains_pure _

end Devices

section Calls

variable {ρ α : Type} [DecidableEq ρ] {call : CloudCall}

/-- A command with a key that is checked first moves what its execution moves. -/
theorem idempotent_moves {journal : Journal ρ α} {request : ρ} {check : Except AppError Unit}
    {visible : Cloud → α → Except AppError Unit} {execute : CloudTx α} {result : α}
    (hjournal : ∀ results cloud, (journal.withResults results cloud).commands = cloud.commands)
    (hexecute : ∀ middle, execute cloud = .ok (result, middle) → ∀ id,
      CommandMove draws call (cloud.commands.find? id) (middle.commands.find? id))
    (h : (lift check >>= fun _ => idempotent journal context request visible execute) cloud =
      .ok (result, cloud')) (id : ℤ) :
    CommandMove draws call (cloud.commands.find? id) (cloud'.commands.find? id) := by
  obtain ⟨_, _, h⟩ := lift_bind_ok.mp h
  rcases idempotent_ok h with ⟨rfl, _⟩ | ⟨middle, results, hrun, _, rfl⟩
  · exact .same _
  · rw [hjournal]
    exact hexecute middle hrun id

theorem moves_of_commands (h : cloud'.commands = cloud.commands) (id : ℤ) :
    CommandMove draws call (cloud.commands.find? id) (cloud'.commands.find? id) := by
  rw [h]
  exact .same _

theorem exec_moves {answer : call.Answer} (h : call.exec draws cloud = .ok (answer, cloud'))
    (id : ℤ) : CommandMove draws call (cloud.commands.find? id) (cloud'.commands.find? id) := by
  cases call with
  | assignedDevices =>
    obtain ⟨_, h⟩ := ensure_bind_ok.mp h
    cases h
    exact .same _
  | pull => exact idempotent_moves (fun _ _ => rfl) (fun _ hrun => (executePull_ok _ hrun).1) h id
  | acknowledge =>
    exact idempotent_moves (fun _ _ => rfl) (fun _ hrun => executeAcknowledgement_moves hrun) h id
  | report => exact idempotent_moves (fun _ _ => rfl) (fun _ hrun => executeReport_moves hrun) h id
  | heartbeat =>
    exact idempotent_moves (fun _ _ => rfl) (fun _ hrun => moves_of_commands
      (executeHeartbeat_frame Cloud.commands (fun _ _ _ => rfl) rfl hrun)) h id
  | register =>
    exact idempotent_moves (fun _ _ => rfl) (fun _ hrun => moves_of_commands
      (executeRegistration_frame Cloud.commands (fun _ _ _ => rfl) rfl hrun)) h id
  | control =>
    exact idempotent_moves (fun _ _ => rfl) (fun _ hrun => moves_of_commands
      (executeControl_frame Cloud.commands (fun _ _ _ => rfl) rfl hrun)) h id
  | enqueue =>
    exact idempotent_moves (fun _ _ => rfl) (fun _ hrun => executeEnqueue_moves hrun) h id
  | resolve =>
    exact idempotent_moves (fun _ _ => rfl) (fun _ hrun => executeResolution_moves hrun) h id
  | cancelPrint => exact cancelPrint_moves h id

theorem next_moves (cloud : Cloud) (action : CloudAction) (id : ℤ) :
    CommandMove action.draws action.call (cloud.commands.find? id)
      ((next cloud action).commands.find? id) := by
  unfold next
  cases hexec : action.call.exec action.draws cloud with
  | error =>
    rw [commit_of_error hexec]
    exact .same _
  | ok pair =>
    obtain ⟨answer, after⟩ := pair
    rw [commit_of_ok hexec]
    exact exec_moves hexec id

end Calls

section Facility

/-- What a call draws some milliseconds after the epoch. -/
def drawsAt (millis : ℕ) (id : ℤ) (token : String) : Draws :=
  { startedAt := stored (atMillis millis)
    now := atMillis millis
    id := id
    token := fun _ => token
    locked := [] }

/-- A caller that sees everything. -/
def callerContext (actorId : ℤ) (idempotencyKey : String) : CommandContext :=
  ⟨actorId, ⟨true, [], true, []⟩, idempotencyKey⟩

/-- The supervisor registers a scale. -/
def registerScale : CloudAction :=
  ⟨drawsAt 0 1 "", .register (callerContext 1 "register")
    ⟨1, "scale-1", .scale, "Packing scale"⟩⟩

/-- An agent with the account 7 says that the scale is fit. -/
def scaleHeartbeat (millis : ℕ) : CloudAction :=
  ⟨drawsAt millis 1 "", .heartbeat 7 (callerContext 2 "heartbeat")
    ⟨1, ⟨"agent-1", .healthy, .automatic, none, 0, 0, atMillis millis⟩⟩⟩

/-- The supervisor takes the scale into automatic mode. -/
def resumeScale (millis : ℕ) : CloudAction :=
  ⟨drawsAt millis 1 "", .control (callerContext 1 "resume") ⟨1, 1, .automatic, "inspected", true⟩⟩

/-- The supervisor requests that the scale is set to zero. -/
def requestTare (millis : ℕ) (id : ℤ) (correlationId : String) : CloudAction :=
  ⟨drawsAt millis id "", .enqueue (callerContext 1 correlationId)
    ⟨1, correlationId, .manualReview, .scale .tare⟩⟩

/-- The agent pulls commands. -/
def pullTare (millis : ℕ) (token : String) : CloudAction :=
  ⟨drawsAt millis 1 token, .pull 7 (callerContext 2 token) ⟨1, "agent-1", 10⟩⟩

/-- The agent acknowledges the command. -/
def acknowledgeTare (millis : ℕ) (token : String) (revision : ℕ) : CloudAction :=
  ⟨drawsAt millis 1 "", .acknowledge 7 (callerContext 2 token) ⟨1, token, revision⟩⟩

/-- A facility with a scale in automatic mode and a command for it. -/
def tareRequested : Cloud :=
  replay next
    [registerScale, scaleHeartbeat 1, resumeScale 2, requestTare 3 1 "tare"] (.initial [1])

end Facility

end Wareboxes.CloudRuns
