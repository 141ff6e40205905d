import Wareboxes.RfReceiving

/-!
# What a call does to the work on a load

A call leaves the state, leaves the work on the load, starts the work on a session that
the server sent, edits the draft, waits for a command, or comes back from one. The edits
say what a draft may become: a line is selected with an item that it accepts, the dock is
the dock of the session, and a lot, a serial number or an expiration that the line has is
not changed. Every invariant of the reducer follows from these moves.
-/

namespace Wareboxes.RfReceiving

open ReceivingReducer

/-- The draft has the lot, the serial number and the expiration of the line. -/
structure HasDimensions (line : ExpectedReceiptLine) (draft : ConfirmationDraft) : Prop where
  /-- The lot is the expected one. -/
  lot : matchesExpected line.lot draft.lot = true
  /-- So is the serial number. -/
  serial : matchesExpected line.serial draft.serial = true
  /-- So is the expiration. -/
  expiration : matchesExpected line.expiration draft.expiration = true

/-- The draft is about the same goods. -/
structure SameGoods (draft draft' : ConfirmationDraft) : Prop where
  mode : draft'.mode = draft.mode
  line : draft'.selectedLineId = draft.selectedLineId
  item : draft'.itemBarcode = draft.itemBarcode
  dock : draft'.dockBarcode = draft.dockBarcode

/-- The edits of the operator, apart from another mode. -/
inductive Edit (active : ActiveSession) : ActiveSession → Prop
  /-- An item is scanned, and no line is selected. -/
  | unselect (barcode : ItemBarcode) :
    Edit active { active with
      draft := { active.draft with selectedLineId := none, itemBarcode := some barcode } }
  | select (lineId : LoadLineId) (barcode : Option ItemBarcode)
      (haccepts : active.session.isValid = true → ∀ line ∈ active.session.line lineId,
        ∀ scanned ∈ barcode, line.accepts scanned = true) :
    Edit active (active.selectLine lineId barcode)
  | dock : Edit active { active with
      draft := { active.draft with dockBarcode := some active.session.dock.barcode } }
  /-- The start of unloading is described. -/
  | unloading (draft : UnloadingDraft) : Edit active { active with unloading := draft }
  /-- A field of the draft changes, and the goods fit the line as before. -/
  | field (draft : ConfirmationDraft) (hsame : SameGoods active.draft draft)
      (hfits : active.draft.mode ≠ .unexpected → ∀ line ∈ active.selectedLine,
        HasDimensions line active.draft → HasDimensions line draft) :
    Edit active { active with draft }

/-- A command for the draft, or for the start of unloading. -/
inductive Captured (active : ActiveSession) : ReceivingCommandIntent → Prop
  | confirmation {intent : ReceivingCommandIntent} (h : active.intent = some intent) :
    Captured active intent
  | unloading {intent : UnloadingStartIntent} (harrived : active.session.status = .arrived)
      (h : UnloadingStartIntent.capture active = some intent) :
    Captured active (.unloading intent)

/-- The operator works on a load, or waits for a command. -/
def State.isWork : State → Bool
  | .active _ | .confirmationPending .. => true
  | _ => false

/-- What a call does to the state. -/
inductive StateMove (state : State) (event : Event) : State → Prop
  | keep : StateMove state event state
  /-- The work on the load ends or has not begun. -/
  | leave {state' : State} (h : state'.isWork = false) : StateMove state event state'
  | begin (barcode : LoadBarcode) (sent : SentSession) :
    StateMove state event (.active ⟨barcode, sent.session, .default, .default⟩)
  | edit {active active' : ActiveSession} (hstate : state = .active active)
      (hedit : Edit active active') : StateMove state event (.active active')
  /-- Another mode is chosen. -/
  | mode {active : ActiveSession} (mode : ConfirmationMode) (hstate : state = .active active)
      (hevent : event = .selectMode mode) :
    StateMove state event (.active { active with draft := draftInMode mode active.draft })
  | pend {active : ActiveSession} {intent : ReceivingCommandIntent} (confirmationId : ℕ)
      (hstate : state = .active active) (hcaptured : Captured active intent) :
    StateMove state event (.confirmationPending active confirmationId intent)
  /-- A command is taken back. -/
  | restore {active : ActiveSession} {intent : ReceivingCommandIntent} (confirmationId : ℕ)
      (hvalid : intent.isCurrentAndValid = true) (hactive : intent.restoreActive = some active) :
    StateMove state event (.confirmationPending active confirmationId intent)
  | reject {active : ActiveSession} {confirmationId : ℕ} {intent : ReceivingCommandIntent}
      (hstate : state = .confirmationPending active confirmationId intent) :
    StateMove state event (.active active)
  | unloaded {active : ActiveSession} {confirmationId : ℕ} {intent : UnloadingStartIntent}
      (hstate : state = .confirmationPending active confirmationId (.unloading intent)) :
    StateMove state event (.active { active with
      session := { active.session with status := .receiving }
      unloading := .default })
  | receivedUnexpected {active : ActiveSession} {confirmationId : ℕ}
      {intent : UnexpectedReceiptIntent}
      (hstate : state = .confirmationPending active confirmationId (.unexpected intent)) :
    StateMove state event (.active { active with draft := .default })

section Calls

variable {r : ReceivingReducer} {event : Event} {active : ActiveSession}

theorem activeMut_eq_some (h : r.activeMut = some active) : r.state = .active active := by
  unfold activeMut at h
  split at h
  · next found hstate =>
    cases h
    exact hstate
  · cases h

theorem scanLoad_move (value : String) : StateMove r.state event (r.scanLoad value).1.state := by
  unfold scanLoad
  split
  · split
    · exact .keep
    · exact .leave rfl
  · split
    · exact .keep
    · exact .leave rfl
  · split
    · exact .keep
    · exact .leave rfl
  · exact .keep

variable {session : ReceivingSession} {line : ExpectedReceiptLine} {lineId : LoadLineId} {α : Type}

theorem line_eq_some (h : session.line lineId = some line) :
    line ∈ session.lines ∧ line.loadLineId = lineId := by
  unfold ReceivingSession.line at h
  have hid := List.find?_some h
  exact ⟨List.mem_of_find?_eq_some h, beq_iff_eq.mp hid⟩

/-- The lines of a valid session have different numbers. -/
theorem eq_of_loadLineId (hvalid : session.isValid = true) {line other : ExpectedReceiptLine}
    (hline : line ∈ session.lines) (hother : other ∈ session.lines)
    (hid : line.loadLineId = other.loadLineId) : line = other := by
  unfold ReceivingSession.isValid at hvalid
  rw [Bool.and_eq_true, decide_eq_true_eq] at hvalid
  exact List.inj_on_of_nodup_map hvalid.2 hline hother hid

/-- The only line that accepts an item is the one with its number. -/
theorem accepts_of_filter {barcode : ItemBarcode}
    (h : (session.lines.filter fun line => line.accepts barcode).map
      ExpectedReceiptLine.loadLineId = [lineId]) (hline : session.line lineId = some line)
    (hvalid : session.isValid = true) : line.accepts barcode = true := by
  have hmem : lineId ∈ (session.lines.filter fun line => line.accepts barcode).map
      ExpectedReceiptLine.loadLineId := by
    rw [h]
    exact List.mem_singleton.mpr rfl
  obtain ⟨found, hfound, hid⟩ := List.mem_map.mp hmem
  obtain ⟨hfoundMem, haccepts⟩ := List.mem_filter.mp hfound
  obtain ⟨hlineMem, hlineId⟩ := line_eq_some hline
  rwa [eq_of_loadLineId hvalid hlineMem hfoundMem (hlineId.trans hid.symm)]

theorem scanItem_move (value : String) : StateMove r.state event (r.scanItem value).1.state := by
  unfold scanItem
  split
  · exact .keep
  · next barcode _ =>
    split
    · exact .keep
    · next active hactive =>
      have hstate := activeMut_eq_some hactive
      split_ifs
      · exact .edit hstate (.unselect barcode)
      · split
        · exact .keep
        · next lineId hlines =>
          refine .edit hstate (.select lineId (some barcode) ?_)
          rintro hvalid line hline scanned ⟨⟩
          exact accepts_of_filter hlines hline hvalid
        · exact .edit hstate (.unselect barcode)

variable {access : CommandAccess} {confirmationId : ℕ} {failure : ConfirmationFailure}
  {result : ReceivingCommandResult}

theorem selectLine_move : StateMove r.state event (r.selectLine lineId).1.state := by
  unfold selectLine
  split
  · exact .keep
  · next active hactive =>
    have hstate := activeMut_eq_some hactive
    split
    · exact .keep
    · next line hline =>
      split_ifs with hrefused
      · exact .keep
      · refine .edit hstate (.select lineId active.draft.itemBarcode ?_)
        intro _ other hother scanned hscanned
        cases hline.symm.trans hother
        rw [hscanned, Option.any_some] at hrefused
        exact Bool.not_eq_false _ ▸ fun hno => hrefused (by rw [hno]; rfl)

theorem scanDock_move (value : String) : StateMove r.state event (r.scanDock value).1.state := by
  unfold scanDock
  split
  · exact .keep
  · next barcode _ =>
    split
    · exact .keep
    · next active hactive =>
      have hstate := activeMut_eq_some hactive
      split_ifs with _ _ _ _ hdock
      · exact .keep
      · exact .edit hstate (.unloading _)
      · exact .keep
      · exact .keep
      · exact .keep
      · cases not_not.mp hdock
        exact .edit hstate .dock

theorem scanUnloadingSeal_move (value : String) :
    StateMove r.state event (r.scanUnloadingSeal value).1.state := by
  unfold scanUnloadingSeal
  split
  · exact .keep
  · split
    · exact .keep
    · next active hactive =>
      split_ifs
      · exact .keep
      · exact .keep
      · exact .edit (activeMut_eq_some hactive) (.unloading _)

/-- A field of the draft that says nothing about the goods. -/
theorem edit_field {draft : ConfirmationDraft} (hsame : SameGoods active.draft draft)
    (hlot : draft.lot = active.draft.lot) (hserial : draft.serial = active.draft.serial)
    (hexpiration : draft.expiration = active.draft.expiration) :
    Edit active { active with draft } := by
  refine .field draft hsame ?_
  rintro - line - ⟨hline, hnumber, htime⟩
  exact ⟨by rwa [hlot], by rwa [hserial], by rwa [hexpiration]⟩

theorem scanLicensePlate_move (value : String) :
    StateMove r.state event (r.scanLicensePlate value).1.state := by
  unfold scanLicensePlate
  split
  · exact .keep
  · split
    · exact .keep
    · next active hactive =>
      split_ifs
      · exact .keep
      · exact .edit (activeMut_eq_some hactive) (edit_field ⟨rfl, rfl, rfl, rfl⟩ rfl rfl rfl)

theorem submitScan_move (value : String) :
    StateMove r.state event (r.submitScan value).1.state := by
  unfold submitScan
  split
  · exact scanLoad_move value
  · exact scanLoad_move value
  · split
    · exact scanLoad_move value
    · exact scanItem_move value
    · exact scanDock_move value
    · exact scanUnloadingSeal_move value
    · exact scanLicensePlate_move value
    · exact .keep
  · exact .keep

theorem matchesExpected_of_directed [DecidableEq α] {directed parsed : Option α}
    (h : ¬ (directed.isSome ∧ directed ≠ parsed)) : matchesExpected directed parsed = true := by
  cases directed with
  | none => rfl
  | some =>
    rw [not_and, not_not] at h
    rw [← h rfl]
    exact beq_self_eq_true _

/-- A lot, a serial number or an expiration. -/
theorem setDimension_move [DecidableEq α] (parse : String → Option α)
    (expected : ExpectedReceiptLine → Option α)
    (store : Option α → ConfirmationDraft → ConfirmationDraft) (value : Option String)
    (hsame : ∀ parsed draft, SameGoods draft (store parsed draft))
    (hstore : ∀ parsed draft line, matchesExpected (expected line) parsed = true →
      HasDimensions line draft → HasDimensions line (store parsed draft)) :
    StateMove r.state event (r.setDimension parse expected store value).1.state := by
  unfold setDimension
  split
  · exact .keep
  · next parsed _ =>
    split
    · exact .keep
    · next active hactive =>
      dsimp only
      split_ifs with hdirected
      · exact .keep
      · refine .edit (activeMut_eq_some hactive) (.field _ (hsame parsed active.draft) ?_)
        intro hmode line hline hdimensions
        refine hstore parsed active.draft line (matchesExpected_of_directed ?_) hdimensions
        unfold dimensionLine at hdirected
        rwa [if_neg hmode, hline, Option.bind_some] at hdirected

theorem beginConfirmation_move : StateMove r.state event (r.beginConfirmation access).1.state := by
  unfold beginConfirmation
  split
  · exact .keep
  · split
    · exact .keep
    · next active hactive =>
      split
      · exact .leave rfl
      · next intent hintent =>
        exact .pend _ (activeMut_eq_some hactive) (.confirmation hintent)

theorem arrived_of_unloadingStartGuard {access : CommandAccess}
    (h : r.unloadingStartGuard access = .allowed) (hactive : r.activeMut = some active) :
    active.session.status = .arrived := by
  unfold unloadingStartGuard at h
  split at h
  · cases h
  · rw [hactive] at h
    dsimp only at h
    split_ifs at h with harrived
    exact not_not.mp harrived

theorem beginUnloadingStart_move :
    StateMove r.state event (r.beginUnloadingStart access).1.state := by
  unfold beginUnloadingStart
  split
  · exact .keep
  · next hguard =>
    split
    · exact .keep
    · next active hactive =>
      split
      · exact .leave rfl
      · next intent hintent =>
        exact .pend _ (activeMut_eq_some hactive)
          (.unloading (arrived_of_unloadingStartGuard hguard hactive) hintent)

theorem restorePendingConfirmation_move (intent : ReceivingCommandIntent) :
    StateMove r.state event (r.restorePendingConfirmation intent).1.state := by
  unfold restorePendingConfirmation
  split_ifs with hrefused
  · exact .leave rfl
  · split
    · exact .leave rfl
    · next active hactive =>
      rw [not_or] at hrefused
      exact .restore _ (Bool.not_eq_false _ ▸ hrefused.2) hactive

theorem confirmationFailed_move :
    StateMove r.state event (r.confirmationFailed confirmationId failure).1.state := by
  unfold confirmationFailed
  split
  · next active expected intent hstate =>
    split
    · exact .keep
    · cases failure with
      | rejected => exact .reject hstate
      | commandStillPending => exact .keep
      | invalidResponse => exact .leave rfl
  · exact .keep

theorem loadLineId_of_resultFault {intent : ConfirmationIntent} {result : ConfirmationResult}
    (h : resultFault intent result = none) : result.loadLineId = intent.loadLineId := by
  unfold resultFault at h
  split_ifs at h with hidentity
  rw [not_or, not_not, not_not] at hidentity
  exact hidentity.2

theorem expectedSucceeded_leave (intent : ConfirmationIntent) (result : ConfirmationResult) :
    (r.expectedSucceeded active intent result).1.state.isWork = false := by
  unfold expectedSucceeded
  split
  · rfl
  · split_ifs <;> rfl

theorem confirmationSucceeded_move :
    StateMove r.state event (r.confirmationSucceeded confirmationId result).1.state := by
  unfold confirmationSucceeded
  split
  · next active expected intent hstate =>
    split_ifs
    · exact .keep
    · split
      · unfold unloadingSucceeded
        split_ifs
        · exact .leave rfl
        · exact .unloaded hstate
      · unfold unexpectedSucceeded
        split_ifs
        · exact .leave rfl
        · exact .receivedUnexpected hstate
      · exact .leave (expectedSucceeded_leave _ _)
      · exact .leave rfl
  · exact .keep

theorem apply_move (event : Event) : StateMove r.state event (r.apply event).1.state := by
  cases event with
  | submitScan value => exact submitScan_move value
  | scanLoad value => exact scanLoad_move value
  | scanItem value => exact scanItem_move value
  | selectLine => exact selectLine_move
  | selectMode mode =>
    change StateMove _ _ (r.selectMode mode).1.state
    unfold selectMode
    split
    · exact .keep
    · next active hactive => exact .mode mode (activeMut_eq_some hactive) rfl
  | scanDock value => exact scanDock_move value
  | scanUnloadingSeal value => exact scanUnloadingSeal_move value
  | scanLicensePlate value => exact scanLicensePlate_move value
  | setLot value =>
    exact setDimension_move _ _ _ value (fun _ _ => ⟨rfl, rfl, rfl, rfl⟩)
      fun _ _ _ hlot hdimensions => ⟨hlot, hdimensions.serial, hdimensions.expiration⟩
  | setSerial value =>
    exact setDimension_move _ _ _ value (fun _ _ => ⟨rfl, rfl, rfl, rfl⟩)
      fun _ _ _ hserial hdimensions => ⟨hdimensions.lot, hserial, hdimensions.expiration⟩
  | setExpiration value =>
    exact setDimension_move _ _ _ value (fun _ _ => ⟨rfl, rfl, rfl, rfl⟩)
      fun _ _ _ htime hdimensions => ⟨hdimensions.lot, hdimensions.serial, htime⟩
  | beginUnloadingStart => exact beginUnloadingStart_move
  | beginConfirmation => exact beginConfirmation_move
  | restorePendingConfirmation intent => exact restorePendingConfirmation_move intent
  | confirmationFailed => exact confirmationFailed_move
  | confirmationSucceeded => exact confirmationSucceeded_move
  | requireReconciliation => exact .leave rfl
  | retryLoadResolution | loadResolved | loadResolutionFailed | setQuantity | setContainerCapture |
    setExceptionReason | setUnexpectedReason | setExceptionNote | refreshSucceeded |
    refreshFailed | retryRefresh | finishReceivedLoad =>
    simp only [ReceivingReducer.apply, retryLoadResolution, loadResolved, loadResolutionFailed,
      setQuantity, setContainerCapture, setExceptionReason, setUnexpectedReason,
      setExceptionNote, refreshSucceeded, refreshFailed, retryRefresh, finishReceivedLoad]
    repeat' split
    all_goals first
      | exact .keep
      | exact .leave rfl
      | exact .begin _ _
      | exact .edit (activeMut_eq_some (by assumption))
          (edit_field ⟨rfl, rfl, rfl, rfl⟩ rfl rfl rfl)

end Calls

end Wareboxes.RfReceiving
