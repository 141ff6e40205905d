import Wareboxes.RfReceivingGuard

/-!
# Restarts of expected receiving

A command is kept before it is sent, so a device that restarts finds its intent and not
the session that the intent came from. The restored reducer waits for the same command.
What becomes of the command is the same for it and for a reducer that went on: the same
kind of state, the same reason for a supervisor, the same message for the operator. Their
lines agree too. A confirmation restores its own line and no other, and the other commands
restore the whole session.
-/

namespace Wareboxes.RfReceivingRestarts

open RfReceiving ReceivingReducer RfReceivingGuard ConfirmationRecoverySnapshot

variable {r restarted : ReceivingReducer} {active restored : ActiveSession}
  {intent : ReceivingCommandIntent} {session : ReceivingSession} {id : ℕ}

/-- What becomes of a command. -/
inductive Outcome where
  /-- The server answers with a result. -/
  | succeeded (result : ReceivingCommandResult)
  /-- The server refuses the command, or its answer can not be read. -/
  | failed (failure : ConfirmationFailure)

/-- The reducer is told what became of the command. -/
def Outcome.record (id : ℕ) (r : ReceivingReducer) : Outcome → ReceivingReducer
  | .succeeded result => (r.confirmationSucceeded id result).1
  | .failed failure => (r.confirmationFailed id failure).1

/-- `session`: the session that the operator sees. -/
def shownSession (r : ReceivingReducer) : Option ReceivingSession :=
  match r.state with
  | .active active | .confirmationPending active .. | .refreshing active .. |
    .refreshFailed active _ => some active.session
  | _ => none

/-- A line that the operator sees. -/
def shownLine (lineId : LoadLineId) (r : ReceivingReducer) : Option ExpectedReceiptLine :=
  (shownSession r).bind fun session => session.line lineId

/-- `reconciliation_reason`. -/
def reconciliationReason (r : ReceivingReducer) : Option ReconciliationReason :=
  match r.state with
  | .reconcileRequired reason => some reason
  | _ => none

/-- The confirmation that the state tells about. -/
def shownSummary (r : ReceivingReducer) : Option ConfirmationResult :=
  match r.state with
  | .refreshing _ _ summary | .refreshFailed _ summary | .loadComplete summary => some summary
  | _ => none

/-- The lines that a command keeps: a confirmation its own, the other commands all. -/
def Concerns (lineId : LoadLineId) : ReceivingCommandIntent → Prop
  | .expected intent => lineId = intent.loadLineId
  | .unexpected _ | .unloading _ => True

/-- A session has the lines of another one, as far as a command keeps them. -/
structure SameLines (intent : ReceivingCommandIntent) (session restored : ReceivingSession) :
    Prop where
  /-- The load is as far. -/
  status : restored.status = session.status
  /-- The lines that the command keeps are the same. -/
  kept : ∀ lineId, Concerns lineId intent → restored.line lineId = session.line lineId
  /-- There are no other lines. -/
  held : ∀ lineId line, restored.line lineId = some line → session.line lineId = some line

/-- The operator of a restarted device sees what the operator of the other device sees. -/
structure SameView (intent : ReceivingCommandIntent) (r restarted : ReceivingReducer) :
    Prop where
  /-- The kind of the state. -/
  activity : restarted.activity = r.activity
  /-- Why a supervisor is called. -/
  reason : reconciliationReason restarted = reconciliationReason r
  /-- The same error is shown. -/
  operatorError : restarted.operatorError = r.operatorError
  /-- And the same summary. -/
  summary : shownSummary restarted = shownSummary r
  /-- The lines that the command keeps are the same. -/
  kept : ∀ lineId, Concerns lineId intent → shownLine lineId restarted = shownLine lineId r
  /-- There are no other lines. -/
  held : ∀ lineId line, shownLine lineId restarted = some line →
    shownLine lineId r = some line

section Effects

variable {event : Event}

theorem effect_of_apply (h : (r.apply event).2 = .effect (.persistConfirmation id intent)) :
    ∃ active, Captured active intent ∧ r.apply event = r.pend active intent := by
  cases event with
  | beginUnloadingStart access =>
    change (r.beginUnloadingStart access).2 = _ at h
    change ∃ active, _ ∧ r.beginUnloadingStart access = _
    unfold beginUnloadingStart at h ⊢
    split at h
    · cases h
    · next hguard =>
      split at h
      · cases h
      · next active hactive =>
        split at h
        · cases h
        · next captured hcaptured =>
          cases h
          exact ⟨active, .unloading (arrived_of_unloadingStartGuard hguard hactive) hcaptured,
            rfl⟩
  | beginConfirmation access =>
    change (r.beginConfirmation access).2 = _ at h
    change ∃ active, _ ∧ r.beginConfirmation access = _
    unfold beginConfirmation at h ⊢
    split at h
    · cases h
    · next hguard =>
      split at h
      · cases h
      · next active hactive =>
        split at h
        · cases h
        · next captured hcaptured =>
          cases h
          exact ⟨active, .confirmation hcaptured, rfl⟩
  | submitScan | scanLoad | scanItem | scanDock | scanUnloadingSeal | scanLicensePlate | setLot |
    setSerial | setExpiration | confirmationSucceeded | retryLoadResolution | loadResolved |
    loadResolutionFailed | selectLine | selectMode | setQuantity | setContainerCapture |
    setExceptionReason | setUnexpectedReason | setExceptionNote | restorePendingConfirmation |
    confirmationFailed | refreshSucceeded | refreshFailed | retryRefresh | finishReceivedLoad |
    requireReconciliation =>
    -- None of the others answers with a command.
    simp only [ReceivingReducer.apply, submitScan, scanLoad, scanItem, scanDock,
      scanUnloadingSeal, scanLicensePlate, setLot, setSerial, setExpiration, setDimension,
      confirmationSucceeded, unloadingSucceeded, unexpectedSucceeded, expectedSucceeded,
      retryLoadResolution, loadResolved, loadResolutionFailed, selectLine, selectMode, setQuantity,
      setContainerCapture, setExceptionReason, setUnexpectedReason, setExceptionNote,
      confirmationFailed, refreshSucceeded, refreshFailed, retryRefresh, finishReceivedLoad] at h
    repeat' split at h
    all_goals cases h

end Effects

section Captures

theorem captured_unexpected {unexpected : UnexpectedReceiptIntent}
    (h : Captured active (.unexpected unexpected)) :
    unexpected.recovery.session = active.session ∧ unexpected.isCurrentAndValid = true := by
  cases h with
  | confirmation h =>
    unfold ActiveSession.intent at h
    split_ifs at h
    · obtain ⟨built, hbuilt, hsame⟩ := Option.map_eq_some_iff.mp h
      cases hsame
      unfold UnexpectedReceiptIntent.capture at hbuilt
      obtain ⟨goods, -, hbuilt⟩ := Option.bind_eq_some_iff.mp hbuilt
      obtain ⟨reason, -, hbuilt⟩ := Option.bind_eq_some_iff.mp hbuilt
      dsimp only at hbuilt
      split_ifs at hbuilt with hvalid
      cases hbuilt
      exact ⟨rfl, hvalid⟩
    · obtain ⟨_, -, h⟩ := Option.bind_eq_some_iff.mp h
      obtain ⟨_, -, h⟩ := Option.bind_eq_some_iff.mp h
      obtain ⟨_, -, h⟩ := Option.bind_eq_some_iff.mp h
      obtain ⟨_, -, hother⟩ := Option.map_eq_some_iff.mp h
      cases hother

theorem captured_unloading {unloading : UnloadingStartIntent}
    (h : Captured active (.unloading unloading)) :
    unloading.recovery.session = active.session ∧ unloading.isCurrentAndValid = true := by
  cases h with
  | confirmation h => exact absurd h intent_ne_unloading
  | unloading harrived h =>
    unfold UnloadingStartIntent.capture at h
    obtain ⟨scan, -, h⟩ := Option.bind_eq_some_iff.mp h
    unfold UnloadingStartIntent.tryNew at h
    rw [if_neg (not_not.mpr harrived)] at h
    dsimp only at h
    split_ifs at h with hvalid
    cases h
    refine ⟨?_, hvalid⟩
    unfold UnloadingStartRecoverySnapshot.session
    rw [← harrived]

variable {lineId : LoadLineId}

theorem captured_valid (h : Captured active intent) : intent.isCurrentAndValid = true := by
  cases intent with
  | expected => exact (captured_expected h).2
  | unexpected => exact (captured_unexpected h).2
  | unloading => exact (captured_unloading h).2

theorem sameLines_of_eq {restoredSession : ReceivingSession} (h : restoredSession = session) :
    SameLines intent session restoredSession := by
  subst h
  exact ⟨rfl, fun _ _ => rfl, fun _ _ hline => hline⟩

/-- A session of one line has that line. -/
theorem line_of_singleton {line : ExpectedReceiptLine} (hlines : session.lines = [line])
    {found : ExpectedReceiptLine} (h : session.line lineId = some found) :
    found = line ∧ lineId = line.loadLineId := by
  obtain ⟨hmem, hid⟩ := line_eq_some h
  rw [hlines, List.mem_singleton] at hmem
  subst hmem
  exact ⟨rfl, hid.symm⟩

theorem expected_sameLines {expected : ConfirmationIntent}
    (h : Captured active (.expected expected)) :
    SameLines (.expected expected) active.session expected.recovery.session := by
  obtain ⟨hcapture, -⟩ := captured_expected h
  have hline := capture_eq_some hcapture
  have hid := (line_eq_some hline).2
  have hrestored : expected.recovery.session.line expected.loadLineId =
      some expected.recovery.selectedLine := by
    rw [← hid]
    exact snapshot_line expected.recovery
  refine ⟨?_, ?_, ?_⟩
  · unfold capture at hcapture
    split at hcapture
    · cases hcapture
    · split_ifs at hcapture
      rw [← Option.some.inj hcapture]
      rfl
  · rintro lineId rfl
    rw [hrestored, hline]
  · intro lineId found hfound
    obtain ⟨rfl, rfl⟩ := line_of_singleton rfl hfound
    rw [hid]
    exact hline

theorem snapshot_valid (snapshot : ConfirmationRecoverySnapshot) :
    snapshot.session.isValid = true := by
  unfold ReceivingSession.isValid
  have hopen : (snapshot.selectedLine.remaining.value != 0) = true :=
    bne_iff_ne.mpr snapshot.isOpen
  simp [session, hopen]

/-- Every command that was captured is restored, with the lines that it keeps. -/
theorem restore_of_captured (h : Captured active intent) :
    ∃ restored, intent.restoreActive = some restored ∧
      SameLines intent active.session restored.session := by
  cases intent with
  | expected expected =>
    have hsession : expected.recovery.session.tryNew = some expected.recovery.session :=
      if_pos (snapshot_valid expected.recovery)
    change ∃ restored, expected.restoreActive = some restored ∧ _
    unfold ConfirmationIntent.restoreActive restoreActive
    rw [hsession]
    exact ⟨_, rfl, expected_sameLines h⟩
  | unexpected unexpected =>
    obtain ⟨hsession, hvalid⟩ := captured_unexpected h
    have htaken := (Bool.and_eq_true _ _ ▸ hvalid).2
    obtain ⟨taken, htaken⟩ := Option.isSome_iff_exists.mp htaken
    change ∃ restored, unexpected.restoreActive = some restored ∧ _
    unfold UnexpectedReceiptIntent.restoreActive
    rw [if_pos hvalid, htaken]
    exact ⟨_, rfl, sameLines_of_eq ((tryNew_eq_some htaken).1.trans hsession)⟩
  | unloading unloading =>
    obtain ⟨hsession, hvalid⟩ := captured_unloading h
    have htaken := (Bool.and_eq_true _ _ ▸ hvalid).2
    obtain ⟨taken, htaken⟩ := Option.isSome_iff_exists.mp htaken
    change ∃ restored, unloading.restoreActive = some restored ∧ _
    unfold UnloadingStartIntent.restoreActive
    rw [if_pos hvalid, htaken]
    exact ⟨_, rfl, sameLines_of_eq ((tryNew_eq_some htaken).1.trans hsession)⟩

end Captures

section Outcomes

variable {other : ℕ} {restoredSession : ReceivingSession} {expected : ConfirmationIntent}

theorem sameView_reconcile (reason : ReconciliationReason) :
    SameView intent (r.reconcile reason).1 (restarted.reconcile reason).1 :=
  ⟨rfl, rfl, rfl, rfl, fun _ _ => rfl, fun _ _ hline => hline⟩

/-- The lines of a session with a changed line. -/
theorem withLine_line (changed : ExpectedReceiptLine) (lineId : LoadLineId) :
    (withLine changed session).line lineId = (session.line lineId).map fun line =>
      if lineId = changed.loadLineId then changed else line := by
  have hsame : ((fun line : ExpectedReceiptLine => line.loadLineId == lineId) ∘ fun line =>
      if line.loadLineId = changed.loadLineId then changed else line) =
      fun line => line.loadLineId == lineId := by
    funext line
    rw [Function.comp_apply]
    split_ifs with hid
    · rw [hid]
    · rfl
  unfold withLine ReceivingSession.line
  rw [List.find?_map, hsame]
  cases hfind : session.lines.find? fun line => line.loadLineId == lineId with
  | none => rfl
  | some line =>
    have hid := List.find?_some hfind
    rw [Option.map_some, Option.map_some, beq_iff_eq.mp hid]

/-- The lines agree after the same line was changed. -/
theorem SameLines.withLine (h : SameLines intent session restoredSession)
    (changed : ExpectedReceiptLine) :
    SameLines intent (withLine changed session) (withLine changed restoredSession) where
  status := h.status
  kept := by
    intro lineId hconcerns
    rw [withLine_line, withLine_line, h.kept lineId hconcerns]
  held := by
    intro lineId line hline
    rw [withLine_line] at hline ⊢
    obtain ⟨found, hfound, hchanged⟩ := Option.map_eq_some_iff.mp hline
    rw [h.held lineId found hfound, Option.map_some, hchanged]

/-- The result of a confirmation is compared with the line of the command. -/
theorem confirmedLine_congr (result : ConfirmationResult)
    (h : restoredSession.line expected.loadLineId = session.line expected.loadLineId) :
    confirmedLine expected result restoredSession = confirmedLine expected result session := by
  unfold confirmedLine
  cases hfault : resultFault expected result with
  | some => rfl
  | none => rw [loadLineId_of_resultFault hfault, h]

/-- The result of a confirmation does not show the restart. -/
theorem sameView_expectedSucceeded
    (h : SameLines (.expected expected) active.session restored.session)
    (result : ConfirmationResult) :
    SameView (.expected expected) (r.expectedSucceeded active expected result).1
      (restarted.expectedSucceeded restored expected result).1 := by
  unfold expectedSucceeded
  rw [confirmedLine_congr result (h.kept _ rfl)]
  cases confirmedLine expected result active.session with
  | error reason => exact sameView_reconcile reason
  | ok line =>
    split_ifs
    · exact ⟨rfl, rfl, rfl, rfl, fun _ _ => rfl, fun _ _ hline => hline⟩
    · exact ⟨rfl, rfl, rfl, rfl, (h.withLine line).kept, (h.withLine line).held⟩

/-- Nothing that becomes of the command shows the restart. -/
theorem sameView_record (hstate : r.state = .confirmationPending active id intent)
    (hrestarted : restarted.state = .confirmationPending restored other intent)
    (herror : restarted.operatorError = r.operatorError)
    (h : SameLines intent active.session restored.session) (outcome : Outcome) :
    SameView intent (outcome.record id r) (outcome.record other restarted) := by
  cases r
  cases restarted
  cases hstate
  cases hrestarted
  cases outcome with
  | failed failure =>
    unfold Outcome.record confirmationFailed
    dsimp only
    rw [if_neg (not_not.mpr rfl), if_neg (not_not.mpr rfl)]
    cases failure with
    | rejected => exact ⟨rfl, rfl, by rw [h.status], rfl, h.kept, h.held⟩
    | commandStillPending => exact ⟨rfl, rfl, herror, rfl, h.kept, h.held⟩
    | invalidResponse => exact sameView_reconcile _
  | succeeded result =>
    unfold Outcome.record confirmationSucceeded
    dsimp only
    rw [if_neg (not_not.mpr rfl), if_neg (not_not.mpr rfl)]
    cases intent with
    | unloading unloading =>
      cases result with
      | unloading =>
        dsimp only [unloadingSucceeded]
        split_ifs
        · exact sameView_reconcile _
        · exact ⟨rfl, rfl, rfl, rfl, h.kept, h.held⟩
      | expected | unexpected => exact sameView_reconcile _
    | expected expected =>
      cases result with
      | expected result => exact sameView_expectedSucceeded h result
      | unloading | unexpected => exact sameView_reconcile _
    | unexpected unexpected =>
      cases result with
      | unexpected =>
        dsimp only [unexpectedSucceeded]
        split_ifs
        · exact sameView_reconcile _
        · exact ⟨rfl, rfl, rfl, rfl, h.kept, h.held⟩
      | unloading | expected => exact sameView_reconcile _

/-- Every command that a reducer asks for can be taken back by a new reducer, which then waits for
the same command, and nothing that becomes of the command shows the restart. -/
theorem restart_does_not_show {event : Event}
    (h : (r.apply event).2 = .effect (.persistConfirmation id intent)) :
    ∃ restarted restored,
      ReceivingReducer.default.restorePendingConfirmation intent = (restarted, .ok 1) ∧
        restarted.state = .confirmationPending restored 1 intent ∧
        ∀ outcome : Outcome,
          SameView intent (outcome.record id (r.apply event).1) (outcome.record 1 restarted) := by
  obtain ⟨active, hcaptured, hpend⟩ := effect_of_apply h
  rw [hpend] at h ⊢
  cases h
  obtain ⟨restored, hrestored, hlines⟩ := restore_of_captured hcaptured
  have hvalid := captured_valid hcaptured
  let restarted : ReceivingReducer := ⟨.confirmationPending restored 1 intent, 2, none, none⟩
  refine ⟨restarted, restored, ?_, rfl, ?_⟩
  · unfold restorePendingConfirmation
    rw [if_neg (by simp [hvalid, ReceivingReducer.default]), hrestored]
    rfl
  · intro outcome
    have hpending : (r.pend active intent).1.state =
        .confirmationPending active r.nextCorrelationId intent := rfl
    have hrestarted : restarted.state = .confirmationPending restored 1 intent := rfl
    exact sameView_record hpending hrestarted rfl hlines outcome

/-- A rejection of four units survives a restart. -/
theorem rejection_survives_restart :
    ∃ restarted restored,
      ReceivingReducer.default.restorePendingConfirmation rejectedIntent = (restarted, .ok 1) ∧
        restarted.state = .confirmationPending restored 1 rejectedIntent ∧
        ∀ outcome : Outcome,
          SameView rejectedIntent
            (outcome.record 2 ((afterCalls rejectedCalls).apply (.beginConfirmation .allowed)).1)
            (outcome.record 1 restarted) :=
  restart_does_not_show (by decide +kernel)

end Outcomes

end Wareboxes.RfReceivingRestarts
