import Wareboxes.EdgeStoreCalls
import Wareboxes.TransitionMoves

/-!
# The operations of the store are sequences of moves

For every call of the store this module says which moves it can make. The
result is `exec_moves`: a call that returns an answer got there by moves that
it admits, and by nothing else. Invariants of the store are proved from the
moves and never look at the operations again.
-/

namespace Wareboxes.OperationMoves

open RustText RustTime EdgeTypes EdgeCommands EdgeAdapters KeyedTables Transactions.Transaction
open EdgeTables EdgeTransitions EdgeOperations EdgeClaims EdgeDeliveries EdgeStoreCalls
open CommandLife EdgeMoves TransitionMoves LabelledRuns KeyedTable

/-- The moves that a call can make from a store. -/
inductive Admits (ids : FreshIds) (s : Store) : StoreCall → MoveLabel → Prop where
  | registered {descriptor : DeviceDescriptor} {actor : ActorId} {reason : String}
      {now : DateTime} :
      Admits ids s (.registerDevice descriptor actor reason now) (.registered descriptor.deviceId)
  | quarantined {deviceId : DeviceId} {action : ControlAction} {actor : ActorId} {reason : String}
      {now : DateTime} {label : MoveLabel} (htarget : action.targetMode ≠ .automatic)
      (h : IsQuarantine (LiveOn s deviceId) (trim reason) now label) :
      Admits ids s (.changeControlMode deviceId action actor reason now) label
  | controlled {deviceId : DeviceId} {action : ControlAction} {actor : ActorId} {reason : String}
      {now : DateTime} :
      Admits ids s (.changeControlMode deviceId action actor reason now)
        (.control deviceId action.targetMode)
  | heartbeat {deviceId : DeviceId} {report : HealthReport} {now : DateTime} :
      Admits ids s (.recordHeartbeat deviceId report now) (.health deviceId)
  | heartbeatFailure {deviceId : DeviceId} {failure : AdapterFailure} {now : DateTime} :
      Admits ids s (.recordHeartbeatFailure deviceId failure now) (.health deviceId)
  | submitted {request : CommandRequest} {now : DateTime} (mode : ControlMode) :
      Admits ids s (.submit request now)
        (.command request.commandId.asStr (.submitted request mode) now)
  | cloudSubmitted {request : CommandRequest} {delivery : CloudDelivery} {now : DateTime}
      (mode : ControlMode) :
      Admits ids s (.submitCloudDelivery request delivery now)
        (.command request.commandId.asStr (.submitted request mode) now)
  | delivered {request : CommandRequest} {delivery : CloudDelivery} {now : DateTime} :
      Admits ids s (.submitCloudDelivery request delivery now) (.delivery delivery.cloudCommandId)
  | resolved {commandId : String} {actor : ActorId} {note : String} {now : DateTime} :
      Admits ids s (.resolveManually commandId actor note now)
        (.command commandId (.shifted .manualReview .resolvedManually (some (trim note))) now)
  | cancelled {commandId : String} {actor : ActorId} {reason : String} {now : DateTime}
      (fromState : CommandState) :
      Admits ids s (.cancelCommand commandId actor reason now)
        (.command commandId (.shifted fromState .cancelled none) now)
  | retried {commandId : String} {actor : ActorId} {reason : String} {now : DateTime} :
      Admits ids s (.retryAfterReview commandId actor reason now)
        (.command commandId (.shifted .manualReview .queued none) now)
  | recovered {now : DateTime} {agent : ActorId} {row : CommandRow}
      (h : row ∈ expiredCommands now s) :
      Admits ids s (.recoverExpiredLeases now agent)
        (.command row.key (.abandoned (expiryTarget row.request.recoveryPolicy).1
          (expiryTarget row.request.recoveryPolicy).2) now)
  | recoveryFallback {now : DateTime} {agent : ActorId} {row : CommandRow} {label : MoveLabel}
      (hrow : row ∈ expiredCommands now s)
      (htarget : (expiryTarget row.request.recoveryPolicy).1 = .manualReview)
      (h : IsFallback (LiveOn s row.request.deviceId)
        (expiryTarget row.request.recoveryPolicy).2 now label) :
      Admits ids s (.recoverExpiredLeases now agent) label
  | claimed {now : DateTime} {lease : Duration} {maxAttempts : ℕ} {claim : ClaimedCommand}
      (htoken : claim.leaseToken = ids.leaseToken) (hattempt : claim.attemptId = ids.attemptId) :
      Admits ids s (.claimNext now lease maxAttempts)
        (.command claim.commandId (.claimed claim maxAttempts) now)
  | finished {claim : ClaimedCommand} {now : DateTime} {completion : Completion} :
      Admits ids s (.complete claim now completion)
        (.command claim.commandId (.finished claim completion) now)
  | completionFallback {claim : ClaimedCommand} {now : DateTime} {completion : Completion}
      {label : MoveLabel} {reason : String}
      (htarget : completionTarget claim completion = .manualReview)
      (hreason : fallbackReason completion = some reason)
      (h : IsFallback (LiveOn s claim.envelope.request.deviceId) reason now label) :
      Admits ids s (.complete claim now completion) label
  | acknowledged {cloudCommandId : ℤ} {deliveryRevision acknowledgementRevision : ℕ}
      {now : DateTime} :
      Admits ids s
        (.markCloudAcknowledged cloudCommandId deliveryRevision acknowledgementRevision now)
        (.delivery cloudCommandId)
  | reported {cloudCommandId : ℤ} {reportedRevision : ℕ} {reportedStatus : String}
      {now : DateTime} :
      Admits ids s (.markCloudReported cloudCommandId reportedRevision reportedStatus now)
        (.delivery cloudCommandId)
  | noted {cloudCommandId : ℤ} {message : String} {now : DateTime} :
      Admits ids s (.recordCloudError cloudCommandId message now) (.delivery cloudCommandId)

variable {ids : FreshIds} {s s' : Store} {now : DateTime} {actor : ActorId} {reason : String}
  {out : Unit} {descriptor : DeviceDescriptor} {action : ControlAction} {device : DeviceRow}
  {localCommandId : String} {outcome : SubmissionOutcome} {row : CommandRow} {agent : ActorId}
  {answer : Option Bool} {leaseToken attemptId : String} {fromState : CommandState}

/-- A checked reason is stored without the space around it. -/
theorem reason_of_validated {kept : String} (h : liftType (validateReason reason) = .ok kept) :
    kept = trim reason := by
  have hreason := liftType_ok.mp h
  unfold validateReason at hreason
  dsimp only at hreason
  split_ifs at hreason
  exact (Except.ok.inj hreason).symm

/-- Storing a new device is one move. -/
theorem insertDevice_move (h : insertDevice descriptor actor reason now s = .ok (out, s')) :
    Move s (.registered descriptor.deviceId) s' := by
  unfold insertDevice at h
  rw [ensure_bind_ok, gets_bind, orFail_bind_ok] at h
  obtain ⟨_, table, hinsert, h⟩ := h
  cases h
  obtain ⟨hfree, _⟩ := insert?_eq_some hinsert
  exact @Move.registered s (newDeviceRow descriptor actor reason now) table
    ⟨descriptor.deviceId, none, .disabled, actor, reason, now.timestampMillis⟩ hfree rfl rfl
    (find?_insert hinsert) ⟨rfl, rfl, rfl⟩

variable {status : DeviceStatus}

/-- Registering a device is at most one move. -/
theorem registerDevice_moves (h : registerDevice descriptor actor reason now s = .ok (status, s')) :
    Moves (Admits ids s (.registerDevice descriptor actor reason now)) s s' := by
  unfold registerDevice at h
  rw [lift_bind_ok] at h
  obtain ⟨_, _, h⟩ := h
  rw [lift_bind_ok] at h
  obtain ⟨reason', _, h⟩ := h
  rw [gets_bind] at h
  cases hfound : s.device? descriptor.deviceId with
  | some =>
    simp only [hfound, lift_bind_ok, ensure_bind_ok] at h
    obtain ⟨status', _, _, h⟩ := h
    cases h
    exact .refl
  | none =>
    simp only [hfound] at h
    obtain ⟨_, mid, hinsert, hload⟩ := bind_ok.mp h
    obtain ⟨rfl, _⟩ := loadDevice_ok.mp hload
    have hmove := insertDevice_move hinsert
    exact Run.single Admits.registered hmove

/-- A quarantine followed by the new mode of the device. -/
theorem controlChange_moves {quarantined : Store} {out out' : Unit}
    (hdevice : s.device? device.key = some device)
    (hquarantine : quarantineUnlessAutomatic device.key action.targetMode actor (trim reason) now
      s = .ok (out, quarantined))
    (hupdate : updateDeviceMode (statusOf device) action.targetMode actor (trim reason) now
      quarantined = .ok (out', s')) :
    Moves (Admits ids s (.changeControlMode device.key action actor reason now)) s s' := by
  unfold quarantineUnlessAutomatic at hquarantine
  split_ifs at hquarantine with htarget
  · obtain ⟨hmoves, hdevices, hnone⟩ := quarantineDeviceCommands_moves hquarantine
    have hdevice' : quarantined.device? device.key = some device := by
      unfold Store.device? at hdevice ⊢
      rw [hdevices]
      exact hdevice
    have hmove := updateDeviceMode_move hupdate hdevice' fun _ => hnone
    exact (hmoves.mono fun label hlabel => .quarantined htarget hlabel).trans
      (.single .controlled hmove)
  · cases hquarantine
    exact .single .controlled (updateDeviceMode_move hupdate hdevice fun hne => absurd hne htarget)

variable {deviceId : DeviceId}

/-- A control change is a quarantine followed by one move of the device. -/
theorem changeControlMode_moves
    (h : changeControlMode deviceId action actor reason now s = .ok (status, s')) :
    Moves (Admits ids s (.changeControlMode deviceId action actor reason now)) s s' := by
  unfold changeControlMode at h
  rw [lift_bind_ok] at h
  obtain ⟨reason', hreason, hbody⟩ := h
  obtain rfl := reason_of_validated hreason
  obtain ⟨existing, mid, hload, hrest⟩ := bind_ok.mp hbody
  obtain ⟨rfl, device, hdevice, _, rfl⟩ := loadDevice_ok.mp hload
  obtain ⟨_, quarantined, hquarantine, hlast⟩ := bind_ok.mp hrest
  obtain ⟨_, updated, hupdate, hreload⟩ := bind_ok.mp hlast
  obtain ⟨rfl, _⟩ := loadDevice_ok.mp hreload
  have hkey : device.key = deviceId := key_of_find? hdevice
  subst hkey
  exact controlChange_moves hdevice hquarantine hupdate

/-- Storing the answer of a heartbeat is one move. -/
theorem recordHeartbeat_move {report : HealthReport}
    (h : recordHeartbeat deviceId report now s = .ok (status, s')) :
    Move s (.health deviceId) s' := by
  unfold recordHeartbeat at h
  rw [lift_bind_ok] at h
  obtain ⟨_, _, hbody⟩ := h
  obtain ⟨existing, mid, hload, hrest⟩ := bind_ok.mp hbody
  obtain ⟨rfl, device, hdevice, _, rfl⟩ := loadDevice_ok.mp hload
  rw [modify_bind] at hrest
  obtain ⟨rfl, _⟩ := loadDevice_ok.mp hrest
  have hkey : device.key = deviceId := key_of_find? hdevice
  subst hkey
  have hbound : healthFailures report (statusOf device) ≤ maxU32 := by
    unfold healthFailures
    split_ifs
    · exact Nat.zero_le _
    · exact Nat.min_le_right _ _
  exact @Move.health mid device
    (setHealth report (healthFailures report (statusOf device)) now device)
    _ _ hdevice rfl rfl hbound (find?_updateWhere_key hdevice)

variable {request : CommandRequest}

/-- Storing a new command is one move. -/
theorem insertCommand_move (h : insertCommand request device.controlMode now s = .ok (out, s'))
    (hvalid : request.validate = .ok ()) (hdevice : s.device? request.deviceId = some device)
    (hserves : Serves device request) (hunknown : commandIdentityCandidates request s = []) :
    Move s (.command request.commandId.asStr (.submitted request device.controlMode) now) s' := by
  unfold insertCommand at h
  rw [gets_bind, ensure_bind_ok, gets_bind, orFail_bind_ok] at h
  obtain ⟨_, table, hinsert, h⟩ := h
  rw [modify_bind] at h
  obtain rfl := appendCommandEvent_ok h
  obtain ⟨hfree, _⟩ := insert?_eq_some hinsert
  have hfind := find?_insert hinsert
  refine move_of_parts (.submitted hfree hvalid) ⟨device, hdevice, rfl, hserves, hunknown⟩
    ⟨?_, rfl, ?_⟩ ?_ ⟨rfl, rfl, rfl⟩
  · exact (hfind _).trans (if_pos rfl)
  · exact filter_concat_self rfl rfl
  · intro other hother
    exact ⟨(hfind other).trans (if_neg hother), rfl, filter_concat_other rfl hother.symm⟩

variable {admits : MoveLabel → Prop}

/-- Storing or refreshing a delivery is at most one move. -/
theorem upsertCloudDelivery_moves {delivery : CloudDelivery}
    (h : upsertCloudDelivery localCommandId delivery now s = .ok (out, s'))
    (hadmits : admits (.delivery delivery.cloudCommandId)) : Moves admits s s' := by
  unfold upsertCloudDelivery at h
  rw [lift_bind_ok] at h
  obtain ⟨_, _, h⟩ := h
  rw [gets_bind] at h
  cases hfound : s.delivery? delivery.cloudCommandId with
  | some row =>
    simp only [hfound] at h
    unfold refreshCloudDelivery at h
    rw [ensure_bind_ok] at h
    obtain ⟨_, h⟩ := h
    split_ifs at h
    · rw [ensure_bind_ok] at h
      obtain ⟨_, h⟩ := h
      cases h
      exact Run.single hadmits (.delivery (find?_updateWhere_key hfound)
        fun hzero => ⟨row, hfound, hzero⟩)
    · cases h
      exact .refl
  | none =>
    simp only [hfound] at h
    unfold insertCloudDelivery at h
    rw [ensure_bind_ok, gets_bind, ensure_bind_ok, gets_bind, orFail_bind_ok] at h
    obtain ⟨_, _, table, hinsert, h⟩ := h
    cases h
    exact Run.single hadmits (.delivery (find?_insert hinsert) (by simp [newDeliveryRow]))

variable {delivery : Option CloudDelivery}

/-- The delivery of a submission is at most one move. -/
theorem upsertOptionalDelivery_moves
    (h : upsertOptionalDelivery localCommandId delivery now s = .ok (out, s'))
    (hadmits : ∀ present, delivery = some present → admits (.delivery present.cloudCommandId)) :
    Moves admits s s' := by
  cases delivery with
  | none =>
    cases h
    exact .refl
  | some present => exact upsertCloudDelivery_moves h (hadmits present rfl)

/-- A replayed submission stored its delivery. -/
theorem replaySubmission_ok {candidates : List CommandRow}
    (h : replaySubmission request delivery candidates now s = .ok (outcome, s')) :
    ∃ out, upsertOptionalDelivery request.commandId.asStr delivery now s = .ok (out, s') := by
  match candidates with
  | [] | _ :: _ :: _ => cases h
  | [row] =>
    unfold replaySubmission at h
    rw [ensure_bind_ok] at h
    obtain ⟨_, hrest⟩ := h
    obtain ⟨out, upserted, hupsert, hlast⟩ := bind_ok.mp hrest
    rw [lift_bind_ok] at hlast
    obtain ⟨record, _, hdone⟩ := hlast
    cases hdone
    exact ⟨out, hupsert⟩

/-- A submission stores the command, or finds it, and stores its delivery. -/
theorem submitWithCloud_moves (h : submitWithCloud request delivery now s = .ok (outcome, s'))
    (hsubmitted : ∀ mode,
      admits (.command request.commandId.asStr (.submitted request mode) now))
    (hdelivered : ∀ present, delivery = some present → admits (.delivery present.cloudCommandId)) :
    Moves admits s s' := by
  unfold submitWithCloud at h
  rw [lift_bind_ok] at h
  obtain ⟨_, hvalid, hbody⟩ := h
  obtain ⟨status, mid, hload, hrest⟩ := bind_ok.mp hbody
  obtain ⟨rfl, device, hdevice, _, rfl⟩ := loadDevice_ok.mp hload
  rw [ensure_bind_ok, ensure_bind_ok, gets_bind] at hrest
  obtain ⟨hscope, hclass, hlast⟩ := hrest
  split_ifs at hlast with hcandidates
  · obtain ⟨_, inserted, hinsert, hinserted⟩ := bind_ok.mp hlast
    obtain ⟨_, upserted, hupsert, hupserted⟩ := bind_ok.mp hinserted
    obtain ⟨record, final, hreload, hdone⟩ := bind_ok.mp hupserted
    obtain ⟨hfinal, _⟩ := loadCommand_ok.mp hreload
    cases hdone
    rw [hfinal]
    have hmove := insertCommand_move hinsert (liftCommand_ok.mp hvalid) hdevice
      ⟨hscope.1, hscope.2, hclass⟩ hcandidates
    exact (Run.single (hsubmitted _) hmove).trans (upsertOptionalDelivery_moves hupsert hdelivered)
  · obtain ⟨out, hupsert⟩ := replaySubmission_ok hlast
    exact upsertOptionalDelivery_moves hupsert hdelivered

variable {commandId : String} {record : CommandRecord} {target : CommandState}

/-- An operator's transition is one move from a state that it admits. -/
theorem operatorTransition_move {allowed : List CommandState}
    (h : operatorTransition commandId actor reason target allowed now s = .ok (record, s'))
    (hshift : ∀ state ∈ allowed, isShift state target = true) (htarget : target ≠ .queued) :
    ∃ fromState ∈ allowed, Move s (.command commandId (.shifted fromState target
      (if target = .resolvedManually then some reason else none)) now) s' := by
  obtain ⟨existing, mid, hload, hrest⟩ := bind_ok.mp h
  obtain ⟨rfl, row, -, _, rfl⟩ := loadCommand_ok.mp hload
  rw [ensure_bind_ok] at hrest
  obtain ⟨hallowed, hbody⟩ := hrest
  obtain ⟨_, moved, hmove, hreload⟩ := bind_ok.mp hbody
  obtain ⟨rfl, _⟩ := loadCommand_ok.mp hreload
  refine ⟨row.state, hallowed, ?_⟩
  exact transitionUnleased_move hmove (hshift row.state hallowed) fun hqueued =>
    absurd hqueued htarget

/-- Settling a command by hand is one move. -/
theorem resolveManually_move {note : String}
    (h : resolveManually commandId actor note now s = .ok (record, s')) :
    Move s (.command commandId (.shifted .manualReview .resolvedManually (some (trim note))) now)
      s' := by
  unfold resolveManually at h
  rw [lift_bind_ok] at h
  obtain ⟨note', hnote, hbody⟩ := h
  obtain rfl := reason_of_validated hnote
  obtain ⟨fromState, hallowed, hmove⟩ := operatorTransition_move hbody (by decide) (by decide)
  rw [List.mem_singleton] at hallowed
  subst hallowed
  exact hmove

/-- Cancelling a command is one move. -/
theorem cancelCommand_move (h : cancelCommand commandId actor reason now s = .ok (record, s')) :
    ∃ fromState, Move s (.command commandId (.shifted fromState .cancelled none) now) s' := by
  unfold cancelCommand at h
  rw [lift_bind_ok] at h
  obtain ⟨reason', _, hbody⟩ := h
  obtain ⟨fromState, _, hmove⟩ := operatorTransition_move hbody (by decide) (by decide)
  exact ⟨fromState, hmove⟩

/-- Queueing a quarantined command again is one move. -/
theorem retryAfterReview_move
    (h : retryAfterReview commandId actor reason now s = .ok (record, s')) :
    Move s (.command commandId (.shifted .manualReview .queued none) now) s' := by
  unfold retryAfterReview at h
  rw [lift_bind_ok] at h
  obtain ⟨reason', _, hbody⟩ := h
  obtain ⟨existing, mid, hload, hrest⟩ := bind_ok.mp hbody
  obtain ⟨rfl, row, hrow, _, rfl⟩ := loadCommand_ok.mp hload
  rw [ensure_bind_ok] at hrest
  obtain ⟨hreview, hrest⟩ := hrest
  obtain ⟨status, mid', hloadDevice, hrest⟩ := bind_ok.mp hrest
  obtain ⟨rfl, device, hdevice, _, rfl⟩ := loadDevice_ok.mp hloadDevice
  rw [ensure_bind_ok] at hrest
  obtain ⟨hautomatic, hrest⟩ := hrest
  obtain ⟨_, moved, hmove, hreload⟩ := bind_ok.mp hrest
  obtain ⟨rfl, _⟩ := loadCommand_ok.mp hreload
  have hstate : row.state = .manualReview := hreview
  have hguard : isAutomatic mid' row.request.deviceId = true := by
    unfold isAutomatic
    have hdevice' : mid'.device? row.request.deviceId = some device := hdevice
    rw [hdevice']
    exact decide_eq_true hautomatic
  have hmoved := transitionUnleased_move hmove (by
    change isShift row.state .queued = true
    rw [hstate]
    rfl) (by
    intro _ other hother
    change mid'.command? commandId = some other at hother
    rw [hrow] at hother
    cases hother
    exact hguard)
  rw [show (recordOf row).state = .manualReview from hstate] at hmoved
  exact hmoved

theorem mem_expiredCommands :
    row ∈ expiredCommands now s ↔ s.command? row.key = some row ∧ leaseExpired now row = true := by
  unfold expiredCommands
  exact mem_selection

theorem isRevocation_expiryTarget (policy : RecoveryPolicy) :
    isRevocation (expiryTarget policy).1 = true := by
  cases policy <;> rfl

/-- Recovering one command is a move of the command and perhaps a fallback of its device. -/
theorem recoverCommand_moves {listed : CommandRow} {summary summary' : LeaseRecoverySummary}
    (h : recoverCommand agent now listed summary s = .ok (summary', s')) :
    Moves (fun label => label =
        .command listed.key (.abandoned (expiryTarget listed.request.recoveryPolicy).1
          (expiryTarget listed.request.recoveryPolicy).2) now ∨
      (expiryTarget listed.request.recoveryPolicy).1 = .manualReview ∧
        IsFallback (LiveOn s listed.request.deviceId)
          (expiryTarget listed.request.recoveryPolicy).2 now label) s s' := by
  obtain ⟨_, abandoned, habandon, hrest⟩ := bind_ok.mp h
  obtain ⟨_, moved, hmove, hrest⟩ := bind_ok.mp hrest
  obtain ⟨_, final, hfallback, hdone⟩ := bind_ok.mp hrest
  cases hdone
  have hfirst := abandon_move habandon hmove (isRevocation_expiryTarget _)
  refine (Run.single (.inl rfl) hfirst).trans ?_
  unfold fallbackAfterExpiry at hfallback
  split_ifs at hfallback with htarget
  · refine (forceManualFallback_moves hfallback).mono fun label hlabel => .inr ⟨htarget, ?_⟩
    exact hlabel.mono fun commandId hlive => hfirst.liveOn_before (by rintro ⟨⟩) hlive
  · cases hfallback
    exact .refl

theorem not_revives_recovery {label : MoveLabel}
    (h : Admits ids s (.recoverExpiredLeases now agent) label) : ¬Revives label := by
  intro hlabel
  cases h with
  | recovered => cases hlabel
  | recoveryFallback _ _ hfallback =>
    cases hfallback with
    | quarantine hquarantine =>
      cases hquarantine with
      | abandoned | shifted => cases hlabel
    | control => cases hlabel

/-- Recovering expired leases moves the listed commands. -/
theorem recoverExpiredLeases_moves {summary : LeaseRecoverySummary}
    (h : recoverExpiredLeases now agent s = .ok (summary, s')) :
    Moves (Admits ids s (.recoverExpiredLeases now agent)) s s' := by
  unfold recoverExpiredLeases at h
  rw [gets_bind] at h
  have hend := loop_invariant (fun rest _ t =>
    Moves (Admits ids s (.recoverExpiredLeases now agent)) s t ∧
      ∀ listed ∈ rest, listed ∈ expiredCommands now s) ?_ ?_ h
  · exact hend.1
  · rintro listed rest _ t _ t' ⟨hmoves, hall⟩ hbody
    have hlisted := hall listed List.mem_cons_self
    refine ⟨hmoves.trans ((recoverCommand_moves hbody).mono ?_),
      fun other hother => hall other (List.mem_cons_of_mem _ hother)⟩
    rintro label (rfl | ⟨htarget, hlabel⟩)
    · exact .recovered hlisted
    · refine .recoveryFallback hlisted htarget (hlabel.mono fun commandId => ?_)
      exact moves_liveOn_before hmoves fun label => not_revives_recovery
  · exact ⟨.refl, fun listed hlisted => hlisted⟩

/-- A successful update of an attempt found its row and rewrote it alone. -/
theorem updateAttempt_ok {attemptId : String} {guard : AttemptRow → Bool}
    {rewrite : AttemptRow → AttemptRow} {hkey : ∀ row, (rewrite row).attemptId = row.attemptId}
    {refusal : StoreError}
    (h : updateAttempt attemptId guard rewrite hkey refusal s = .ok (out, s')) :
    ∃ row table, s.attempts.find? attemptId = some row ∧ guard row = true ∧
      s' = { s with attempts := table } ∧
      table.rows = s.attempts.rows.map fun other =>
        if other.attemptId = attemptId then rewrite other else other := by
  unfold updateAttempt at h
  rw [gets_bind, orFail_bind_ok] at h
  obtain ⟨table, hfound, h⟩ := h
  cases h
  obtain ⟨row, hrow, hguard, hrows⟩ := updateOne?_eq_some hfound
  exact ⟨row, table, hrow, hguard, rfl, hrows⟩

variable {claim : ClaimedCommand} {completion : Completion}

/-- Settling a claim is one move, followed by the fallback it asks for. -/
theorem finishClaim_ok
    {effect : ClaimCompletion} (h : finishClaim claim now effect s = .ok (out, s'))
    (hsettles : Settles claim completion effect) :
    ∃ mid out, Move s (.command claim.commandId (.finished claim completion) now) mid ∧
      completionFallback claim.envelope.request.deviceId effect.manualFallback now mid =
        .ok (out, s') := by
  obtain ⟨_, updated, hupdate, hrest⟩ := bind_ok.mp h
  obtain ⟨_, closed, hclose, hrest⟩ := bind_ok.mp hrest
  obtain ⟨_, settled, happend, hfallback⟩ := bind_ok.mp hrest
  refine ⟨settled, _, ?_, hfallback⟩
  obtain ⟨row, table, hrow, hmatch, rfl, hfind⟩ := updateCommand_ok hupdate
  obtain ⟨attempt, attempts, hattempt, hactive, rfl, hrows⟩ := updateAttempt_ok hclose
  obtain rfl := appendCommandEvent_ok happend
  simp only [Bool.and_eq_true, decide_eq_true_eq] at hmatch
  simp only [isActiveOf, Bool.and_eq_true, decide_eq_true_eq] at hactive
  obtain ⟨hstored, hid⟩ := KeyedTable.find?_eq_some.mp hattempt
  have hmem : attempt ∈ s.attemptsOf claim.commandId :=
    List.mem_filter.mpr ⟨hstored, decide_eq_true hactive.1⟩
  have hcommand : ∀ other : AttemptRow,
      (if other.attemptId = claim.attemptId then effect.closeAttempt now other else
        other).commandId = other.commandId := by
    intro other
    split <;> rfl
  refine move_of_parts (.finished hrow hmatch.1 hmatch.2 hmem hid hactive.2 hsettles) trivial
    ⟨?_, ?_, ?_⟩ ?_ ⟨rfl, rfl, rfl⟩
  · exact (hfind _).trans (if_pos rfl)
  · exact attemptsOf_map hrows hcommand _
  · exact filter_concat_self rfl rfl
  · intro other hother
    refine ⟨(hfind other).trans (if_neg hother), ?_, filter_concat_other rfl hother.symm⟩
    refine (attemptsOf_map hrows hcommand other).trans ?_
    conv_rhs => rw [← List.map_id (s.attemptsOf other)]
    apply List.map_congr_left
    intro attempt' hattempt'
    refine if_neg fun hsame => hother ?_
    have hstored' := (List.mem_filter.mp hattempt').1
    have heq := s.attempts.eq_of_key_eq hstored' hstored (hsame.trans hid.symm)
    rw [← commandId_of_mem_attemptsOf hattempt', heq, hactive.1]

/-- Each of the seven operations hands its own record to `finishClaim`. -/
theorem complete_ok (h : complete claim now completion s = .ok (answer, s')) :
    ∃ effect out, Settles claim completion effect ∧
      finishClaim claim now effect s = .ok (out, s') := by
  cases completion with
  | success =>
    obtain ⟨_, final, hbody, hdone⟩ := bind_ok.mp h
    cases hdone
    unfold completeSuccess at hbody
    rw [lift_bind_ok] at hbody
    obtain ⟨_, hresult, hfinish⟩ := hbody
    refine ⟨_, _, ⟨rfl, rfl, nofun, ?_, rfl, rfl, rfl, by simp⟩, hfinish⟩
    rintro _ ⟨⟩
    exact liftCommand_ok.mp hresult
  | retryable =>
    obtain ⟨_, final, hbody, hdone⟩ := bind_ok.mp h
    cases hdone
    unfold retryableFailure at hbody
    rw [orPanic_bind_ok] at hbody
    obtain ⟨text, htext, hbody⟩ := hbody
    obtain ⟨out, final', hfinish, hdone⟩ := bind_ok.mp hbody
    cases hdone
    refine ⟨_, _, ⟨rfl, rfl, nofun, nofun, rfl, htext.symm, rfl, ?_⟩, hfinish⟩
    intro _ _ hasked
    split_ifs at hasked with hexhausted
    cases hasked
    exact ⟨if_pos hexhausted, rfl⟩
  | permanent =>
    obtain ⟨_, final, hbody, hdone⟩ := bind_ok.mp h
    cases hdone
    unfold permanentFailure at hbody
    rw [orPanic_bind_ok] at hbody
    obtain ⟨text, htext, hfinish⟩ := hbody
    exact ⟨_, _, ⟨rfl, rfl, nofun, nofun, rfl, htext.symm, rfl, by simp⟩, hfinish⟩
  | ambiguous =>
    obtain ⟨_, final, hbody, hdone⟩ := bind_ok.mp h
    cases hdone
    unfold ambiguousFailure at hbody
    rw [orPanic_bind_ok] at hbody
    obtain ⟨text, htext, hbody⟩ := hbody
    obtain ⟨out, final', hfinish, hdone⟩ := bind_ok.mp hbody
    cases hdone
    refine ⟨_, _, ⟨rfl, rfl, nofun, nofun, rfl, htext.symm, rfl, ?_⟩, hfinish⟩
    intro _ _ hasked
    split_ifs at hasked with hreview
    cases hasked
    exact ⟨hreview, rfl⟩
  | deferRecovery =>
    obtain ⟨_, final, hbody, hdone⟩ := bind_ok.mp h
    cases hdone
    unfold deferRecovery at hbody
    rw [ensure_bind_ok, orPanic_bind_ok] at hbody
    obtain ⟨hprobe, text, htext, hfinish⟩ := hbody
    exact ⟨_, _, ⟨rfl, rfl, fun _ => hprobe, nofun, rfl, htext.symm, rfl, by simp⟩, hfinish⟩
  | notFound =>
    obtain ⟨_, final, hbody, hdone⟩ := bind_ok.mp h
    cases hdone
    unfold recoveryNotFound at hbody
    rw [ensure_bind_ok] at hbody
    obtain ⟨hprobe, hfinish⟩ := hbody
    exact ⟨_, _, ⟨rfl, rfl, fun _ => hprobe, nofun, rfl, rfl, rfl, by simp⟩, hfinish⟩
  | manualReview =>
    obtain ⟨_, final, hbody, hdone⟩ := bind_ok.mp h
    cases hdone
    unfold requireManualReview at hbody
    rw [orPanic_bind_ok] at hbody
    obtain ⟨text, htext, hfinish⟩ := hbody
    refine ⟨_, _, ⟨rfl, rfl, nofun, nofun, rfl, htext.symm, rfl, ?_⟩, hfinish⟩
    rintro _ _ ⟨⟩
    exact ⟨rfl, htext⟩

/-- Completing a claim is one move, followed by the fallback it asks for. -/
theorem complete_moves (h : complete claim now completion s = .ok (answer, s')) :
    ∃ mid, Move s (.command claim.commandId (.finished claim completion) now) mid ∧
      Moves (fun label => completionTarget claim completion = .manualReview ∧
        ∃ reason, fallbackReason completion = some reason ∧
          IsFallback (LiveOn s claim.envelope.request.deviceId) reason now label) mid s' := by
  obtain ⟨effect, _, hsettles, hfinish⟩ := complete_ok h
  obtain ⟨settled, _, hmove, hfallback⟩ := finishClaim_ok hfinish hsettles
  refine ⟨settled, hmove, ?_⟩
  unfold completionFallback at hfallback
  cases hasked : effect.manualFallback with
  | none =>
    rw [hasked] at hfallback
    cases hfallback
    exact .refl
  | some =>
    rw [hasked] at hfallback
    obtain ⟨htarget, hreason⟩ := hsettles.fallback _ _ hasked
    refine (forceManualFallback_moves hfallback).mono fun label hlabel =>
      ⟨htarget, _, hreason, ?_⟩
    exact hlabel.mono fun commandId hlive => hmove.liveOn_before (by rintro ⟨⟩) hlive

variable {maxAttempts : ℕ}

theorem mem_claimCandidates :
    row ∈ claimCandidates now maxAttempts s ↔
      s.command? row.key = some row ∧ claimable s now maxAttempts row = true := by
  unfold claimCandidates
  exact mem_selection

/-- The conditions of a claim. -/
theorem claimable_iff :
    claimable s now maxAttempts row = true ↔
      isWaiting row.state = true ∧ row.nextAttemptAt.millis ≤ now.timestampMillis.millis ∧
        isAutomatic s row.request.deviceId = true ∧
        (row.state = .recoveryWait ∨ row.attemptCount < maxAttempts) ∧
        isBusy s row.request.deviceId = false := by
  unfold claimable
  simp only [Bool.and_eq_true, decide_eq_true_eq, Bool.or_eq_true, Bool.not_eq_true', and_assoc]

/-- A successful opening of an attempt appended an active one. -/
theorem openAttempt_ok {attemptId commandId : String} {kind : ClaimKind} {executionAttempt : ℕ}
    (h : openAttempt attemptId commandId kind executionAttempt now s = .ok (out, s')) :
    ∃ table sequence, s' = { s with attempts := table } ∧
      table.rows = s.attempts.rows ++
        [newAttemptRow attemptId commandId sequence executionAttempt kind now] := by
  unfold openAttempt at h
  rw [gets_bind, gets_bind, orFail_bind_ok] at h
  obtain ⟨table, hinsert, h⟩ := h
  cases h
  exact ⟨table, _, rfl, (insert?_eq_some hinsert).2⟩

/-- Claiming a candidate is one move, and its answer is the claim. -/
theorem claimCandidate_move {leaseUntil : ℤ} {candidate : CommandRow}
    (h : claimCandidate leaseToken attemptId now leaseUntil candidate s = .ok (claim, s'))
    (hcandidate : candidate ∈ claimCandidates now maxAttempts s) :
    claim.leaseToken = leaseToken ∧ claim.attemptId = attemptId ∧
      claim.commandId = candidate.key ∧
      Move s (.command claim.commandId (.claimed claim maxAttempts) now) s' := by
  obtain ⟨hstored, hclaimable⟩ := mem_claimCandidates.mp hcandidate
  obtain ⟨hwait, hdue, hautomatic, hbudget, hidle⟩ := claimable_iff.mp hclaimable
  obtain ⟨_, leased, hupdate, hrest⟩ := bind_ok.mp h
  obtain ⟨record, loaded, hload, hrest⟩ := bind_ok.mp hrest
  obtain ⟨_, opened, hopen, hrest⟩ := bind_ok.mp hrest
  rw [gets_bind] at hrest
  obtain ⟨_, audited, happend, hrest⟩ := bind_ok.mp hrest
  rw [lift_bind_ok] at hrest
  obtain ⟨probes, hprobes, hdone⟩ := hrest
  cases hdone
  obtain ⟨_, rfl⟩ := checkedU32_ok.mp hprobes
  obtain ⟨row, table, hrow, -, rfl, hfind⟩ := updateCommand_ok hupdate
  rw [hstored] at hrow
  cases hrow
  obtain ⟨rfl, row, hrow, _, rfl⟩ := loadCommand_ok.mp hload
  have hleased : table.find? candidate.key = some row := hrow
  rw [hfind, if_pos rfl] at hleased
  cases hleased
  obtain ⟨attempts, sequence, rfl, hrows⟩ := openAttempt_ok hopen
  obtain rfl := appendCommandEvent_ok happend
  have hself : Store.attemptsOf { s with commands := table, attempts := attempts } candidate.key =
      s.attemptsOf candidate.key ++ [newAttemptRow attemptId candidate.key sequence
        (candidate.attemptCount + if claimKind candidate.state = .execute then 1 else 0)
        (claimKind candidate.state) now] := filter_concat_self hrows rfl
  have hcount : probeCount candidate.key { s with commands := table, attempts := attempts } =
      countProbes (s.attemptsOf candidate.key) +
        if claimKind candidate.state = .recoveryProbe then 1 else 0 :=
    (congrArg countProbes hself).trans (countProbes_concat _ _)
  refine ⟨rfl, rfl, rfl, ?_⟩
  refine move_of_parts (@CommandMove.claimed (viewOf s candidate.key) candidate _ maxAttempts
    sequence leaseUntil now hstored hwait hdue hbudget rfl rfl hcount) ⟨hautomatic, hidle⟩
    ⟨?_, ?_, ?_⟩ ?_ ⟨rfl, rfl, rfl⟩
  · exact (hfind _).trans (if_pos rfl)
  · exact hself
  · exact filter_concat_self rfl rfl
  · intro other hother
    exact ⟨(hfind other).trans (if_neg hother), filter_concat_other hrows hother.symm,
      filter_concat_other rfl hother.symm⟩

/-- Claiming is one move, or there was nothing to claim. -/
theorem claimNext_ok {duration : Duration} {answer : Option ClaimedCommand}
    (h : claimNext leaseToken attemptId now duration maxAttempts s = .ok (answer, s')) :
    (answer = none ∧ s' = s ∧ claimCandidates now maxAttempts s = []) ∨
      ∃ claim, answer = some claim ∧ claim.leaseToken = leaseToken ∧
        claim.attemptId = attemptId ∧
        Move s (.command claim.commandId (.claimed claim maxAttempts) now) s' := by
  unfold claimNext at h
  rw [lift_bind_ok] at h
  obtain ⟨leaseUntil, _, h⟩ := h
  rw [gets_bind] at h
  cases hcandidates : claimCandidates now maxAttempts s with
  | nil =>
    rw [hcandidates] at h
    cases h
    exact .inl ⟨rfl, rfl, rfl⟩
  | cons candidate =>
    rw [hcandidates] at h
    obtain ⟨claim, final, hclaim, hdone⟩ := bind_ok.mp h
    cases hdone
    have hcandidate : candidate ∈ claimCandidates now maxAttempts s := by
      rw [hcandidates]
      exact List.mem_cons_self
    obtain ⟨htoken, hattempt, _, hmove⟩ := claimCandidate_move hclaim hcandidate
    exact .inr ⟨claim, rfl, htoken, hattempt, hmove⟩

variable {cloudCommandId : ℤ}

variable {call : StoreCall}

/-- An update of a delivery is at most one move, when it does not write the revision zero. -/
theorem updateDelivery_moves {guard : DeliveryRow → Bool}
    {rewrite : DeliveryRow → DeliveryRow} {hkey : ∀ row, (rewrite row).key = row.key}
    {row : DeliveryRow} (h : updateDelivery cloudCommandId guard rewrite hkey s = .ok (out, s'))
    (hrow : s.delivery? cloudCommandId = some row)
    (hrevision : (rewrite row).acknowledgementRevision = some 0 →
      row.acknowledgementRevision = some 0)
    (hadmits : Admits ids s call (.delivery cloudCommandId)) : Moves (Admits ids s call) s s' := by
  cases h
  cases hguard : guard row with
  | true =>
    exact Run.single hadmits (.delivery (find?_updateOne hkey hrow
      (updateWhere_key_rows hrow hguard)) fun hzero => ⟨row, hrow, hrevision hzero⟩)
  | false =>
    dsimp only
    rw [updateWhere_key_eq_self hrow hguard]
    exact .refl

theorem loadCloudDelivery_ok {row : DeliveryRow} :
    loadCloudDelivery cloudCommandId s = .ok (row, s') ↔
      s' = s ∧ s.delivery? cloudCommandId = some row := by
  unfold loadCloudDelivery
  rw [gets_bind, orFail_ok]
  exact and_comm

/-- Recording an acknowledgement is at most one move. -/
theorem markCloudAcknowledged_moves
    {deliveryRevision acknowledgementRevision : ℕ} {answer : DeliveryRow}
    (h : markCloudAcknowledged cloudCommandId deliveryRevision acknowledgementRevision now s =
      .ok (answer, s')) :
    Moves (Admits ids s (.markCloudAcknowledged cloudCommandId deliveryRevision
      acknowledgementRevision now)) s s' := by
  unfold markCloudAcknowledged at h
  rw [ensure_bind_ok] at h
  obtain ⟨hpositive, hbody⟩ := h
  obtain ⟨current, mid, hload, hrest⟩ := bind_ok.mp hbody
  obtain ⟨rfl, hcurrent⟩ := loadCloudDelivery_ok.mp hload
  rw [ensure_bind_ok] at hrest
  obtain ⟨_, hlast⟩ := hrest
  cases hpending : current.acknowledgementRevision with
  | some =>
    simp only [hpending, ensure_bind_ok] at hlast
    obtain ⟨_, hdone⟩ := hlast
    cases hdone
    exact .refl
  | none =>
    simp only [hpending] at hlast
    obtain ⟨_, updated, hupdate, hreload⟩ := bind_ok.mp hlast
    obtain ⟨rfl, _⟩ := loadCloudDelivery_ok.mp hreload
    refine updateDelivery_moves hupdate hcurrent (fun hzero => ?_) .acknowledged
    exact absurd (Option.some.inj hzero) hpositive.2

/-- Recording a report is at most one move. -/
theorem markCloudReported_moves {reportedRevision : ℕ}
    {reportedStatus : String} {answer : DeliveryRow}
    (h : markCloudReported cloudCommandId reportedRevision reportedStatus now s =
      .ok (answer, s')) :
    Moves (Admits ids s (.markCloudReported cloudCommandId reportedRevision reportedStatus now))
      s s' := by
  unfold markCloudReported at h
  rw [ensure_bind_ok, orFail_bind_ok] at h
  obtain ⟨_, status, _, hbody⟩ := h
  obtain ⟨current, mid, hload, hrest⟩ := bind_ok.mp hbody
  obtain ⟨rfl, hcurrent⟩ := loadCloudDelivery_ok.mp hload
  rw [ensure_bind_ok] at hrest
  obtain ⟨_, hlast⟩ := hrest
  cases hpending : current.reportedRevision with
  | some =>
    simp only [hpending, ensure_bind_ok] at hlast
    obtain ⟨_, hdone⟩ := hlast
    cases hdone
    exact .refl
  | none =>
    simp only [hpending] at hlast
    obtain ⟨_, updated, hupdate, hreload⟩ := bind_ok.mp hlast
    obtain ⟨rfl, _⟩ := loadCloudDelivery_ok.mp hreload
    exact updateDelivery_moves hupdate hcurrent id .reported

/-- Recording an error of a cloud call is one move. -/
theorem recordCloudError_moves {message : String}
    (h : recordCloudError cloudCommandId message now s = .ok (out, s')) :
    Moves (Admits ids s (.recordCloudError cloudCommandId message now)) s s' := by
  unfold recordCloudError at h
  rw [orPanic_bind_ok] at h
  obtain ⟨text, _, hbody⟩ := h
  obtain ⟨current, mid, hload, hupdate⟩ := bind_ok.mp hbody
  obtain ⟨rfl, hcurrent⟩ := loadCloudDelivery_ok.mp hload
  exact updateDelivery_moves hupdate hcurrent id .noted

/-- A pending query changes nothing. -/
theorem pendingCloudCommands_ok {selects : DeliveryRow → CommandRow → Bool} {limit : ℕ}
    {answer : List PendingCloudCommand}
    (h : pendingCloudCommands selects limit s = .ok (answer, s')) : s' = s := by
  unfold pendingCloudCommands at h
  rw [ensure_bind_ok, gets_bind, lift_ok] at h
  exact h.2.2

theorem cloudReportableCount_ok {deviceId : String} {answer : ℕ × ℕ}
    (h : cloudReportableCount deviceId s = .ok (answer, s')) : s' = s := by
  unfold cloudReportableCount at h
  rw [gets_bind, gets_bind, ensure_bind_ok, ensure_bind_ok] at h
  obtain ⟨_, _, hdone⟩ := h
  cases hdone
  rfl

variable {targets : String → Prop}

/-- A fallback claims nothing. -/
theorem not_isFallback_claimed {now now' : DateTime} :
    ¬IsFallback targets reason now (.command commandId (.claimed claim maxAttempts) now') := by
  rintro (⟨⟨⟩⟩ | _)

/-- Only `claim_next` claims, under the identifiers that were drawn for it. -/
theorem admits_claimed
    (h : Admits ids s call (.command commandId (.claimed claim maxAttempts) now)) :
    claim.leaseToken = ids.leaseToken ∧ claim.attemptId = ids.attemptId ∧
      commandId = claim.commandId ∧ ∃ lease, call = .claimNext now lease maxAttempts := by
  cases h with
  | claimed htoken hattempt => exact ⟨htoken, hattempt, rfl, _, rfl⟩
  | quarantined _ hquarantine => exact absurd (.quarantine hquarantine) not_isFallback_claimed
  | recoveryFallback _ _ hfallback | completionFallback _ _ hfallback =>
    exact absurd hfallback not_isFallback_claimed

/-- Only a completion completes a claim. -/
theorem admits_finished
    (h : Admits ids s call (.command commandId (.finished claim completion) now)) :
    call = .complete claim now completion ∧ commandId = claim.commandId := by
  cases h with
  | finished => exact ⟨rfl, rfl⟩
  | quarantined _ hquarantine => cases hquarantine
  | recoveryFallback _ _ hfallback | completionFallback _ _ hfallback =>
    cases hfallback with
    | quarantine hquarantine => cases hquarantine

/-- A fallback sends a command to manual review. -/
theorem isFallback_abandoned {now now' : DateTime}
    {reason reason' : String}
    (h : IsFallback targets reason now (.command commandId (.abandoned target reason') now')) :
    target = .manualReview := by
  cases h with
  | quarantine hquarantine =>
    cases hquarantine with
    | abandoned => rfl

/-- A lease is taken away by a quarantine, or by the recovery of a command that was listed. -/
theorem admits_abandoned
    (h : Admits ids s call (.command commandId (.abandoned target reason) now)) :
    target = .manualReview ∨ ∃ agent row, call = .recoverExpiredLeases now agent ∧
      row ∈ expiredCommands now s ∧ row.key = commandId ∧
      target = (expiryTarget row.request.recoveryPolicy).1 := by
  cases h with
  | recovered hlisted => exact .inr ⟨_, _, rfl, hlisted, rfl, rfl⟩
  | quarantined _ hquarantine => exact .inl (isFallback_abandoned (.quarantine hquarantine))
  | recoveryFallback _ _ hfallback | completionFallback _ _ hfallback =>
    exact .inl (isFallback_abandoned hfallback)

variable {note : Option String}

theorem not_isFallback_queued {now now' : DateTime} :
    ¬IsFallback targets reason now (.command commandId (.shifted fromState .queued note) now') := by
  rintro (⟨⟨⟩⟩ | _)

/-- Only an operator queues a command that was not executing. -/
theorem admits_requeued
    (h : Admits ids s call (.command commandId (.shifted fromState .queued note) now)) :
    ∃ actor reason, call = .retryAfterReview commandId actor reason now := by
  cases h with
  | retried => exact ⟨_, _, rfl⟩
  | quarantined _ hquarantine => exact absurd (.quarantine hquarantine) not_isFallback_queued
  | recoveryFallback _ _ hfallback | completionFallback _ _ hfallback =>
    exact absurd hfallback not_isFallback_queued

theorem exec_moves {answer : call.Answer}
    (h : call.exec ids s = .ok (answer, s')) : Moves (Admits ids s call) s s' := by
  cases call with
  | registerDevice => exact registerDevice_moves h
  | deviceStatus =>
    obtain ⟨rfl, _⟩ := loadDevice_ok.mp h
    exact .refl
  | listDevices =>
    obtain ⟨_, hdone⟩ := lift_ok.mp h
    rw [hdone]
    exact .refl
  | changeControlMode => exact changeControlMode_moves h
  | recordHeartbeat => exact .single .heartbeat (recordHeartbeat_move h)
  | recordHeartbeatFailure =>
    obtain ⟨_, _, h⟩ := orPanic_bind_ok.mp h
    exact .single .heartbeatFailure (recordHeartbeat_move h)
  | submit => exact submitWithCloud_moves h .submitted nofun
  | submitCloudDelivery =>
    refine submitWithCloud_moves h .cloudSubmitted ?_
    rintro _ ⟨⟩
    exact .delivered
  | resolveManually => exact .single .resolved (resolveManually_move h)
  | cancelCommand =>
    obtain ⟨fromState, hmove⟩ := cancelCommand_move h
    exact .single (.cancelled fromState) hmove
  | retryAfterReview => exact .single .retried (retryAfterReview_move h)
  | recoverExpiredLeases => exact recoverExpiredLeases_moves h
  | claimNext =>
    rcases claimNext_ok h with ⟨_, rfl, _⟩ | ⟨claim, _, htoken, hattempt, hmove⟩
    · exact .refl
    · exact .single (.claimed htoken hattempt) hmove
  | complete =>
    obtain ⟨mid, hmove, hmoves⟩ := complete_moves h
    refine (Run.single .finished hmove).trans (hmoves.mono ?_)
    rintro label ⟨htarget, reason, hreason, hlabel⟩
    exact .completionFallback htarget hreason hlabel
  | pendingCloudAcknowledgements | pendingCloudReports =>
    obtain rfl := pendingCloudCommands_ok h
    exact .refl
  | markCloudAcknowledged => exact markCloudAcknowledged_moves h
  | markCloudReported => exact markCloudReported_moves h
  | recordCloudError => exact recordCloudError_moves h
  | cloudReportableCount =>
    obtain rfl := cloudReportableCount_ok h
    exact .refl

end Wareboxes.OperationMoves
