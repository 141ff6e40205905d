import Wareboxes.CloudMapping
import Wareboxes.EdgeRuns

/-!
# Reports and the texts that they carry

A report carries a result or a message that some call stored with its command:
the result of an execution, the message of a failure, the reason of a control
change that took the lease away, or the note of an operator. The store bounds
these texts in bytes and admits control characters, the cloud bounds them in
characters and does not. This module says which texts each call stores, and
shows that every report is well formed in a run in which those texts are ones
that the cloud accepts.
-/

namespace Wareboxes.ReportTexts

open RustText RustTime EdgeTypes EdgeCommands EdgeAdapters KeyedTables EdgeTables EdgeTransitions
open EdgeOperations EdgeClaims EdgeDeliveries EdgeStoreCalls CommandLife EdgeMoves TransitionMoves
open OperationMoves EdgeRuns LabelledRuns CloudCommands CommandWire CloudMapping

/-- The cloud accepts a text as a message. -/
def IsMessage (text : String) : Prop := validateAutomationMessage text = .ok ()

instance (text : String) : Decidable (IsMessage text) := inferInstanceAs (Decidable (_ = _))

/-- The cloud accepts the fields of a result. -/
def IsAnswer (result : CommandResult) : Prop := (mirroredResult result).validateFields = .ok ()

instance (result : CommandResult) : Decidable (IsAnswer result) :=
  inferInstanceAs (Decidable (_ = _))

/-- What a completion stores is accepted by the cloud: the result of a success, and the
persisted form of a message. -/
def CompletionFits : Completion → Prop
  | .success result => IsAnswer result
  | .retryable message _ _ _ | .permanent message | .ambiguous message _ _
  | .deferRecovery message _ | .manualReview message _ =>
    ∀ text ∈ truncateMessage message, IsMessage text
  | .notFound => True

/-- What a call stores with commands is accepted by the cloud. -/
def FitsCloud : StoreCall → Prop
  | .changeControlMode _ action _ reason _ =>
    action.targetMode ≠ .automatic → IsMessage (trim reason)
  | .resolveManually _ _ note _ => IsMessage (trim note)
  | .complete _ _ completion => CompletionFits completion
  | _ => True

instance (completion : Completion) : Decidable (CompletionFits completion) :=
  match completion with
  | .success result => inferInstanceAs (Decidable (IsAnswer result))
  | .retryable message _ _ _ | .permanent message | .ambiguous message _ _
  | .deferRecovery message _ | .manualReview message _ =>
    inferInstanceAs (Decidable (∀ text ∈ truncateMessage message, IsMessage text))
  | .notFound => inferInstanceAs (Decidable True)

instance (call : StoreCall) : Decidable (FitsCloud call) :=
  match call with
  | .changeControlMode _ action _ reason _ =>
    inferInstanceAs (Decidable (action.targetMode ≠ .automatic → IsMessage (trim reason)))
  | .resolveManually _ _ note _ => inferInstanceAs (Decidable (IsMessage (trim note)))
  | .complete _ _ completion => inferInstanceAs (Decidable (CompletionFits completion))
  | .registerDevice .. | .deviceStatus _ | .listDevices | .recordHeartbeat ..
  | .recordHeartbeatFailure .. | .submit .. | .submitCloudDelivery .. | .cancelCommand ..
  | .retryAfterReview .. | .recoverExpiredLeases .. | .claimNext ..
  | .pendingCloudAcknowledgements _ | .pendingCloudReports _ | .markCloudAcknowledged ..
  | .markCloudReported .. | .recordCloudError .. | .cloudReportableCount _ =>
    inferInstanceAs (Decidable True)

/-- A command whose texts can be reported. -/
structure Presentable (row : CommandRow) : Prop where
  /-- The note is a message. -/
  note : ∀ text, row.resolutionNote = some text → IsMessage text
  /-- The error is a message. -/
  error : ∀ text, row.lastError = some text → IsMessage text
  /-- The cloud accepts the fields of the result. -/
  result : ∀ result, row.result = some result → IsAnswer result
  /-- A success has its result. -/
  succeeded : row.state = .succeeded → row.result.isSome = true

/-- Every command can be reported, and no acknowledgement has revision zero. -/
structure Prepared (s : Store) : Prop where
  /-- The texts of every command can be reported. -/
  commands : ∀ commandId row, s.command? commandId = some row → Presentable row
  /-- No acknowledgement has revision zero. -/
  deliveries : ∀ cloudCommandId row, s.delivery? cloudCommandId = some row →
    row.acknowledgementRevision ≠ some 0

theorem prepared_initial : Prepared .initial where
  commands _ _ h := by cases h
  deliveries _ _ h := by cases h

variable {now : DateTime} {row : CommandRow}

section Moves

variable {reason commandId : String} {event : LifeEvent} {v v' : CommandView} {ids : FreshIds}
  {s s' : Store} {call : StoreCall} {label : MoveLabel} {targets : String → Prop}

theorem presentable_new (request : CommandRequest) (mode : ControlMode) :
    Presentable (newCommandRow request mode now) where
  note _ htext := by cases htext
  error text htext := by
    unfold newCommandRow submissionStatus at htext
    by_cases hmode : mode = .automatic
    · simp [hmode] at htext
    · simp only [hmode, ↓reduceIte, Option.some.injEq] at htext
      rw [← htext]
      decide +kernel
  result _ hresult := by cases hresult
  succeeded hstate := by
    rw [newCommandRow_state] at hstate
    unfold submissionStatus at hstate
    split_ifs at hstate

/-- The texts of a completion that the cloud accepts. -/
theorem CompletionFits.message {completion : Completion} (h : CompletionFits completion)
    {text : String} (htext : completionMessage completion = some text) : IsMessage text := by
  cases completion with
  | success | notFound => cases htext
  | retryable | permanent | ambiguous | deferRecovery | manualReview => exact h text htext

theorem CompletionFits.fallback {completion : Completion} (h : CompletionFits completion)
    (hreason : fallbackReason completion = some reason) : IsMessage reason := by
  cases completion with
  | success | permanent | deferRecovery | notFound => cases hreason
  | retryable | ambiguous =>
    cases hreason
    decide +kernel
  | manualReview => exact h reason hreason

/-- Only a success makes a command succeed, and it has a result. -/
theorem result_of_succeeded {claim : ClaimedCommand} {completion : Completion}
    (h : completionTarget claim completion = .succeeded) :
    (completionResult completion).isSome = true := by
  cases completion with
  | success => rfl
  | retryable =>
    simp only [completionTarget, retryTarget] at h
    split_ifs at h
  | ambiguous =>
    unfold completionTarget ambiguousTarget at h
    cases hpolicy : claim.envelope.request.recoveryPolicy <;> rw [hpolicy] at h <;> cases h
  | permanent | deferRecovery | notFound | manualReview => cases h

/-- What a change stores with its command is accepted by the cloud. -/
def EventFits : LifeEvent → Prop
  | .finished _ completion => CompletionFits completion
  | .abandoned _ reason => IsMessage reason
  | .shifted _ _ note => ∀ text, note = some text → IsMessage text
  | .submitted .. | .claimed .. => True

/-- A change whose texts the cloud accepts leaves a command that can be reported. -/
theorem CommandMove.presentable (h : CommandMove v event now v') (hfits : EventFits event)
    (hv : ∀ row, v.row = some row → Presentable row) (hrow : v'.row = some row) :
    Presentable row := by
  cases h with
  | submitted =>
    cases hrow
    exact presentable_new _ _
  | claimed hbefore =>
    cases hrow
    have hkept := hv _ hbefore
    exact ⟨hkept.note, hkept.error, hkept.result, nofun⟩
  | @finished before _ claim completion effect _ _ _ _ _ _ _ hsettles =>
    cases hrow
    constructor
    · intro text htext
      cases hsettles.note.symm.trans htext
    · intro text htext
      exact CompletionFits.message hfits (hsettles.error.symm.trans htext)
    · intro result hresult
      have hsuccess := hsettles.result.symm.trans hresult
      cases completion with
      | success =>
        cases hsuccess
        exact hfits
      | _ => cases hsuccess
    · intro hstate
      change effect.result.isSome = true
      rw [hsettles.result]
      exact result_of_succeeded (hsettles.target.symm.trans hstate)
  | abandoned hbefore _ _ htarget =>
    cases hrow
    have hkept := hv _ hbefore
    refine ⟨hkept.note, ?_, hkept.result, ?_⟩
    · rintro _ ⟨⟩
      exact hfits
    · intro hstate
      rw [revokeLease_state] at hstate
      rw [hstate] at htarget
      cases htarget
  | @shifted before transition _ hbefore _ _ hshift =>
    cases hrow
    have hkept := hv _ hbefore
    constructor
    · intro text htext
      rcases Option.or_eq_some_iff.mp htext with hgiven | ⟨_, hnote⟩
      · exact hfits text hgiven
      · exact hkept.note text hnote
    · intro text htext
      simp only [UnleasedTransition.rewrite] at htext
      split_ifs at htext
      exact hkept.error text htext
    · exact hkept.result
    · intro hstate
      rw [UnleasedTransition.rewrite_state] at hstate
      rw [hstate] at hshift
      revert hshift
      cases transition.fromState <;> simp [isShift]

theorem isMessage_expiry (policy : RecoveryPolicy) : IsMessage (expiryTarget policy).2 := by
  cases policy <;> decide +kernel

theorem eventFits_fallback {now' : DateTime} (hreason : IsMessage reason)
    (h : IsFallback targets reason now (.command commandId event now')) : EventFits event := by
  cases h with
  | quarantine hquarantine =>
    cases hquarantine with
    | abandoned => exact hreason
    | shifted => exact nofun

/-- The texts of a change are those of the call that makes it. -/
theorem eventFits_of_admits (hfits : FitsCloud call)
    (h : Admits ids s call (.command commandId event now)) : EventFits event := by
  cases h with
  | submitted | cloudSubmitted | claimed => trivial
  | cancelled | retried => exact nofun
  | finished => exact hfits
  | resolved =>
    rintro _ ⟨⟩
    exact hfits
  | recovered => exact isMessage_expiry _
  | quarantined htarget hquarantine =>
    exact eventFits_fallback (hfits htarget) (.quarantine hquarantine)
  | recoveryFallback _ _ hfallback => exact eventFits_fallback (isMessage_expiry _) hfallback
  | completionFallback _ hreason hfallback =>
    exact eventFits_fallback (CompletionFits.fallback hfits hreason) hfallback

theorem move_prepared (hfits : FitsCloud call) (hadmits : Admits ids s call label)
    {t t' : Store} (h : Move t label t') (ht : Prepared t) : Prepared t' where
  commands commandId row hrow := by
    rcases h.view_cases commandId with hsame | ⟨event, now, rfl, hmove, _⟩
    · exact ht.commands commandId row ((congrArg CommandView.row hsame).symm.trans hrow)
    · exact CommandMove.presentable hmove (eventFits_of_admits hfits hadmits)
        (ht.commands commandId) hrow
  deliveries := by
    cases h with
    | command _ _ _ _ hdeliveries =>
      unfold Store.delivery?
      rw [hdeliveries]
      exact ht.deliveries
    | registered | control | health => exact ht.deliveries
    | @delivery cloudCommandId _ _ hfind hrevision =>
      intro other row hrow hzero
      unfold Store.delivery? at hrow
      rw [hfind other] at hrow
      split_ifs at hrow
      · cases hrow
        obtain ⟨old, hold, hbefore⟩ := hrevision hzero
        exact ht.deliveries _ old hold hbefore
      · exact ht.deliveries other row hrow hzero

end Moves

section Runs

/-- Calls that store only what the cloud accepts. -/
def fittingCall (_ : EdgeState) (action : EdgeAction) : Prop := FitsCloud action.call

theorem run_prepared {σ : EdgeState} (h : EdgeRun fittingCall .initial σ) : Prepared σ.store := by
  have hstep : ∀ σ action σ', fittingCall σ action → σ' = σ.next action →
      Prepared σ.store → Prepared σ'.store := by
    rintro σ action σ' hfits rfl hσ
    rcases next_cases σ action with ⟨_, _, hsame⟩ | ⟨answer, _, hexec, _⟩
    · rw [hsame]
      exact hσ
    · exact (exec_moves hexec).preserves Prepared
        (fun _ _ _ hadmits hmove => move_prepared hfits hadmits hmove) hσ
  exact h.preserves (fun σ => Prepared σ.store) hstep prepared_initial

end Runs

section Reports

theorem IsMessage.visible {text : String} (h : IsMessage text) : isEmpty text = false := by
  unfold IsMessage validateAutomationMessage CloudCommands.validateText at h
  split_ifs at h with hcheck
  simp only [Bool.or_eq_true, not_or, Bool.not_eq_true, decide_eq_false_iff_not, not_not]
    at hcheck
  obtain ⟨⟨⟨hvisible, htrimmed⟩, _⟩, _⟩ := hcheck
  rw [htrimmed] at hvisible
  exact hvisible

/-- The message of a report is the note, the error or the text of the state. -/
theorem isMessage_errorMessage (h : Presentable row) {fallback : String}
    (hfallback : IsMessage fallback) : IsMessage (errorMessage (recordOf row) fallback) := by
  change IsMessage ((row.resolutionNote.or row.lastError).getD fallback)
  cases hnote : row.resolutionNote with
  | some text => exact h.note text hnote
  | none =>
    cases herror : row.lastError with
    | some text => exact h.error text herror
    | none => exact hfallback

variable {command : ReportAutomationCommand} {p : PendingCloudCommand}

/-- A failure or review with a code and a message is well formed. -/
theorem validateReportShape_failure {code message : String}
    (hrevision : command.expectedRevision ≠ 0)
    (hstatus : command.status = .failed ∨ command.status = .manualReview)
    (hresult : command.result = none) (hcode : command.errorCode = some code)
    (hmessage : command.errorMessage = some message) (hcodeText : IsMessage code)
    (hmessageText : IsMessage message) : validateReportShape command = .ok () := by
  have hnot : command.status ≠ .succeeded := by
    rcases hstatus with h | h <;> simp [h]
  have hvisible := hmessageText.visible
  unfold validateReportShape
  rw [if_neg hrevision, if_neg (by simp [hnot]), if_pos (by simp [hstatus, hresult, hmessage,
    hvisible]), hcode, hmessage]
  change (orBadRequest (validateAutomationMessage code) >>= fun _ =>
    orBadRequest (validateAutomationMessage message)) = _
  rw [hcodeText, hmessageText]
  rfl

/-- A success with a result is well formed. -/
theorem validateReportShape_success (hrevision : command.expectedRevision ≠ 0)
    (hstatus : command.status = .succeeded) (hresult : command.result.isSome = true)
    (hcode : command.errorCode = none) (hmessage : command.errorMessage = none) :
    validateReportShape command = .ok () := by
  unfold validateReportShape
  rw [if_neg hrevision, if_pos (by simp [hstatus, hresult, hcode, hmessage])]

/-- A request is built once the outcome is, and carries it. -/
theorem reportRequest_ok {acknowledged : ℕ} {outcome : ReportedOutcome}
    (hack : p.cloud.acknowledgementRevision = some acknowledged) (hpositive : acknowledged ≠ 0)
    (houtcome : reportedOutcome p = .ok outcome) :
    ∃ request, reportRequest p = .ok request ∧ request.status = outcome.status ∧
      request.result = outcome.result ∧ request.errorCode = outcome.errorCode ∧
      request.errorMessage = outcome.errorMessage ∧
      request.expectedRevision.get.toNat = acknowledged := by
  have hrevision : revision acknowledged = .ok ⟨acknowledged, by omega⟩ := by
    unfold revision newRevision
    rw [dif_pos (by omega)]
  refine ⟨⟨⟨acknowledged, by omega⟩, outcome.status, outcome.result, outcome.errorCode,
    outcome.errorMessage, p.command.updatedAt⟩, ?_, rfl, rfl, rfl, rfl, Int.toNat_natCast _⟩
  unfold reportRequest
  rw [hack, houtcome]
  change (revision acknowledged >>= _) = _
  rw [hrevision]
  rfl

/-- A stored result answers every command of the cloud that arrives as its command. -/
theorem validateFor_of_stored (hreadable : Readable row)
    (hpresentable : Presentable row) {result : CommandResult} (hresult : row.result = some result)
    {command : AutomationDeviceCommand}
    (harrived : transcodeCommand command = some row.request.command) :
    (mirroredResult result).validateFor command = .ok () := by
  have hclass : result.deviceClass = row.request.command.deviceClass := by
    have hstored := hreadable.2.1
    unfold validateStoredResult at hstored
    rw [hresult] at hstored
    by_contra hother
    simp [CommandResult.validateFor, hother] at hstored
  have hsame : (mirroredResult result).deviceClass = command.deviceClass := by
    apply localDeviceClass_injective
    rw [mirroredResult_class, hclass, transcodeCommand_class harrived]
  unfold AutomationCommandResult.validateFor
  rw [if_neg (by simpa using hsame)]
  exact hpresentable.result result hresult

/-- The outcome of a reportable command that can be presented. -/
theorem reportedOutcome_ok (hrecord : p.command = recordOf row) (hpresentable : Presentable row)
    (hstate : isReportable row.state = true) :
    ∃ outcome, reportedOutcome p = .ok outcome ∧
      ((outcome.status = .succeeded ∧ (∃ result, row.result = some result ∧
          outcome.result = some (mirroredResult result)) ∧ outcome.errorCode = none ∧
          outcome.errorMessage = none) ∨
        ((outcome.status = .failed ∨ outcome.status = .manualReview) ∧ outcome.result = none ∧
          ∃ code message, outcome.errorCode = some code ∧ outcome.errorMessage = some message ∧
            IsMessage code ∧ IsMessage message)) := by
  have hrecordState : p.command.state = row.state := by rw [hrecord]; rfl
  unfold reportedOutcome
  rw [hrecordState]
  cases hcase : row.state with
  | succeeded =>
    obtain ⟨result, hresult⟩ := Option.isSome_iff_exists.mp (hpresentable.succeeded hcase)
    have hstored : p.command.result = some result := by rw [hrecord]; exact hresult
    refine ⟨⟨.succeeded, some (mirroredResult result), none, none⟩, ?_,
      .inl ⟨rfl, ⟨result, hresult, rfl⟩, rfl, rfl⟩⟩
    simp only [hstored, transcodeResult_eq]
  | failed | cancelled =>
    refine ⟨_, rfl, .inr ⟨.inl rfl, rfl, _, _, rfl, rfl, by decide +kernel, ?_⟩⟩
    rw [hrecord]
    exact isMessage_errorMessage hpresentable (by decide +kernel)
  | manualReview | resolvedManually =>
    refine ⟨_, rfl, .inr ⟨.inr rfl, rfl, _, _, rfl, rfl, by decide +kernel, ?_⟩⟩
    rw [hrecord]
    exact isMessage_errorMessage hpresentable (by decide +kernel)
  | queued | executing | retryWait | recoveryWait => rw [hcase] at hstate; cases hstate

/-- In every run of calls that store only what the cloud accepts, every command record in
a reportable state whose delivery is acknowledged gets a report. The report passes the
shape check of the cloud, and its result passes the check against every command of the
cloud that arrives as the command of the record. -/
theorem reports_are_well_formed {σ : EdgeState} (hrun : EdgeRun fittingCall .initial σ)
    {delivery : DeliveryRow} {row : CommandRow} {record : CommandRecord} {acknowledged : ℕ}
    (hdelivery : delivery ∈ σ.store.deliveries.rows)
    (hrow : σ.store.command? delivery.localCommandId = some row)
    (hrecord : decodeCommand row = .ok record) (hstate : isReportable record.state = true)
    (hack : delivery.acknowledgementRevision = some acknowledged) :
    ∃ request, reportRequest ⟨delivery, record⟩ = .ok request ∧
      validateReportShape (request.command delivery.key) = .ok () ∧
      ∀ result command, request.result = some result →
        transcodeCommand command = some record.request.command →
        result.validateFor command = .ok () := by
  have hprepared := run_prepared hrun
  have hpresentable := hprepared.commands _ row hrow
  obtain ⟨hreadable, rfl⟩ := decodeCommand_ok.mp hrecord
  have hpositive : acknowledged ≠ 0 := by
    rintro rfl
    exact hprepared.deliveries _ delivery (KeyedTable.find?_of_mem hdelivery) hack
  obtain ⟨outcome, houtcome, hcases⟩ :=
    reportedOutcome_ok (p := ⟨delivery, recordOf row⟩) rfl hpresentable hstate
  obtain ⟨request, hrequest, hstatus, hresult, hcode, hmessage, hrevision⟩ :=
    reportRequest_ok (p := ⟨delivery, recordOf row⟩) hack hpositive houtcome
  have hsent : (request.command delivery.key).expectedRevision ≠ 0 := by
    change request.expectedRevision.get.toNat ≠ 0
    rw [hrevision]
    exact hpositive
  refine ⟨request, hrequest, ?_⟩
  rcases hcases with ⟨hsucceeded, ⟨result, hstored, hmirrored⟩, hnoCode, hnoMessage⟩ |
    ⟨hfailed, hnone, code, message, hgivenCode, hgivenMessage, hcodeText, hmessageText⟩
  · refine ⟨validateReportShape_success hsent (hstatus.trans hsucceeded) ?_
      (hcode.trans hnoCode) (hmessage.trans hnoMessage), ?_⟩
    · change request.result.isSome = true
      rw [hresult, hmirrored]
      rfl
    · intro answer command hanswer harrived
      rw [hresult, hmirrored] at hanswer
      cases hanswer
      exact validateFor_of_stored hreadable hpresentable hstored harrived
  · refine ⟨validateReportShape_failure hsent ?_ (hresult.trans hnone) (hcode.trans hgivenCode)
      (hmessage.trans hgivenMessage) hcodeText hmessageText, ?_⟩
    · rcases hfailed with h | h
      · exact .inl (hstatus.trans h)
      · exact .inr (hstatus.trans h)
    · intro answer command hanswer _
      rw [hresult, hnone] at hanswer
      cases hanswer

/-- What the cloud says to the shape of the report of a delivery, when there is one. -/
def reportVerdict (s : Store) (cloudCommandId : ℤ) : Option (Except AppError Unit) := do
  let delivery ← s.delivery? cloudCommandId
  let row ← s.command? delivery.localCommandId
  let record ← (decodeCommand row).toOption
  let request ← (reportRequest ⟨delivery, record⟩).toOption
  return validateReportShape (request.command cloudCommandId)

/-- The delivery of a command for the scale. -/
def tareDelivery : CloudDelivery := ⟨41, 12, "TTTTTTTTTTTTTTTTTTTTTTTTTTTTTTTTTTTTTTTTTTTTTTTT", 2⟩

/-- The request that the delivery becomes. -/
def deliveredTare : CommandRequest :=
  { tareRequest .manualReview with
    commandId := ⟨"cloud:41", by decide +kernel⟩
    correlationId := ⟨"cloud:41", by decide +kernel⟩
    idempotencyKey := ⟨"cloud:41", by decide +kernel⟩ }

/-- The claim of that command. -/
def deliveredClaim : ClaimedCommand := ⟨⟨deliveredTare, 1⟩, "token-1", "attempt-1", .execute, 0⟩

/-- The delivered command is acknowledged, claimed and rejected by the scale. -/
def rejectedRun (message : String) : List EdgeAction :=
  commissioning ++
    [⟨⟨"token-0", "attempt-0"⟩, .submitCloudDelivery deliveredTare tareDelivery (atMillis 2)⟩,
     ⟨⟨"token-0", "attempt-0"⟩, .markCloudAcknowledged 41 2 3 (atMillis 3)⟩,
     ⟨⟨"token-1", "attempt-1"⟩, .claimNext (atMillis 4) oneSecond 1⟩,
     ⟨⟨"token-2", "attempt-2"⟩, .complete deliveredClaim (atMillis 5) (.permanent message)⟩]

/-- The state after that run. -/
def afterRejection (message : String) : EdgeState :=
  replay EdgeState.next (rejectedRun message) .initial

/-- A rejection with a plain message is reported. -/
theorem plain_rejection_is_reported :
    ∃ delivery ∈ (afterRejection "drive fault E12").store.deliveries.rows,
      ∃ record request, reportRequest ⟨delivery, record⟩ = .ok request ∧
        validateReportShape (request.command delivery.key) = .ok () := by
  have hrun : EdgeRun fittingCall .initial (afterRejection "drive fault E12") := by
    apply run_replay
    refine ⟨?_, ?_, ?_, ?_, ?_, ?_, trivial⟩ <;>
      (change FitsCloud _; decide +kernel)
  obtain ⟨delivery, hdelivery⟩ : ∃ delivery,
      (afterRejection "drive fault E12").store.delivery? 41 = some delivery :=
    Option.isSome_iff_exists.mp (by decide +kernel)
  have hlocal : ((afterRejection "drive fault E12").store.delivery? 41).map
      DeliveryRow.localCommandId = some "cloud:41" := by decide +kernel
  have hack : ((afterRejection "drive fault E12").store.delivery? 41).bind
      DeliveryRow.acknowledgementRevision = some 3 := by decide +kernel
  obtain ⟨row, hrow⟩ : ∃ row,
      (afterRejection "drive fault E12").store.command? "cloud:41" = some row :=
    Option.isSome_iff_exists.mp (by decide +kernel)
  have hstate : ((afterRejection "drive fault E12").store.command? "cloud:41").map
      CommandRow.state = some .failed := by decide +kernel
  have hreadable : ((afterRejection "drive fault E12").store.command? "cloud:41").map
      (fun row => (decodeCommand row).toOption.isSome) = some true := by decide +kernel
  rw [hdelivery] at hlocal hack
  rw [hrow] at hstate hreadable
  simp only [Option.map_some, Option.bind_some, Option.some.injEq] at hlocal hack hstate hreadable
  cases hrecord : decodeCommand row with
  | error => rw [hrecord] at hreadable; cases hreadable
  | ok =>
    obtain ⟨_, rfl⟩ := decodeCommand_ok.mp hrecord
    rw [← hlocal] at hrow
    obtain ⟨request, hrequest, hshape, _⟩ := reports_are_well_formed hrun
      (KeyedTable.find?_eq_some.mp hdelivery).1 hrow hrecord (by
        change isReportable row.state = true
        rw [hstate]
        rfl) hack
    exact ⟨delivery, (KeyedTable.find?_eq_some.mp hdelivery).1, _, request, hrequest, hshape⟩

/-- A rejection with a line break in its message is accepted by the store, and its report
is refused by the cloud. -/
theorem broken_line_is_refused :
    EdgeRun Honest .initial (afterRejection "drive fault\nE12") ∧
      reportVerdict (afterRejection "drive fault\nE12").store 41 = some (.error (.badRequest
        "automation message must contain between 1 and 1000 characters")) := by
  refine ⟨?_, by decide +kernel⟩
  apply run_replay
  refine ⟨?_, ?_, ?_, ?_, ?_, ?_, trivial⟩ <;> decide +kernel

end Reports

end Wareboxes.ReportTexts
