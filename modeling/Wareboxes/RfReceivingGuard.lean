import Wareboxes.RfReceivingMoves

/-!
# The guard of expected receiving

The guard reads the draft, and the intent that is built from it checks itself against the
session with rules of its own. The two agree as long as the draft has the lot, the serial
number and the expiration of its line. A line that is selected brings them into the draft,
but a draft that was rebuilt from the intent of a rejection has none of them, since the
command has none. Another mode then keeps the line and the item, and the guard allows a
confirmation that the intent refuses.
-/

namespace Wareboxes.RfReceivingGuard

open LabelledRuns RfReceiving ReceivingReducer ConfirmationRecoverySnapshot ConfirmationDraft Option

variable {r : ReceivingReducer} {active active' : ActiveSession} {event : Event}
  {state state' : State}

/-- The draft fits the session. -/
structure Sound (active : ActiveSession) : Prop where
  /-- The session is one that `try_new` takes. -/
  valid : active.session.isValid = true
  /-- The line accepts the scanned item. -/
  item : ∀ line ∈ active.selectedLine, ∀ barcode ∈ active.draft.itemBarcode,
    line.accepts barcode = true
  /-- The dock is the one of the load. -/
  dock : ∀ barcode ∈ active.draft.dockBarcode, barcode = active.session.dock.barcode

/-- The command that is waited for fits the session. -/
def PendingSound (active : ActiveSession) : ReceivingCommandIntent → Prop
  | .unloading _ => active.session.status = .arrived
  | .expected intent => active.session.line intent.loadLineId = some intent.recovery.selectedLine
  | .unexpected _ => True

/-- The work on a load is sound. -/
def StateSound : State → Prop
  | .active active => Sound active
  | .confirmationPending active _ intent => Sound active ∧ PendingSound active intent
  | _ => True

/-- The draft of goods that are put away on a line has the dimensions of the line. -/
def DraftFits (active : ActiveSession) : Prop :=
  active.draft.mode = .received ∨ active.draft.mode = .quarantined →
    active.draft.itemBarcode.isSome = true →
      ∀ line ∈ active.selectedLine, HasDimensions line active.draft

/-- The draft of the work on a load has the dimensions of its line. -/
def StateFits : State → Prop
  | .active active => DraftFits active
  | .confirmationPending active _ _ => DraftFits active
  | _ => True

/-- A call that does not lose the dimensions of a line: goods are put away only in a draft that
has them. -/
def Careful (r : ReceivingReducer) : Event → Prop
  | .selectMode mode => ∀ active, r.state = .active active →
      mode = .received ∨ mode = .quarantined → active.draft.itemBarcode.isSome = true →
        ∀ line ∈ active.selectedLine, HasDimensions line active.draft
  | _ => True

/-- The runs in which every call keeps the dimensions of the line. -/
def CarefulRun : ReceivingReducer → ReceivingReducer → Prop :=
  Run (fun r event r' => r' = (r.apply event).1) Careful

section Drafts

theorem sound_default (hvalid : active.session.isValid = true)
    (hdraft : active.draft = .default) : Sound active where
  valid := hvalid
  item := by
    intro line _ barcode hbarcode
    rw [hdraft] at hbarcode
    cases hbarcode
  dock := by
    intro barcode hbarcode
    rw [hdraft] at hbarcode
    cases hbarcode

theorem draftFits_default (hdraft : active.draft = .default) : DraftFits active := by
  intro _ hitem
  rw [hdraft] at hitem
  cases hitem

variable {lineId : LoadLineId} {barcode : Option ItemBarcode} {mode : ConfirmationMode}

/-- A line that is selected. -/
theorem selectLine_cases :
    active.selectLine lineId barcode = active ∨
      ∃ line, active.session.line lineId = some line ∧
        (active.selectLine lineId barcode).session = active.session ∧
        (active.selectLine lineId barcode).selectedLine = some line ∧
        (active.selectLine lineId barcode).draft =
          { ConfirmationDraft.default with
            selectedLineId := some lineId
            itemBarcode := barcode
            lot := line.lot
            serial := line.serial
            expiration := line.expiration } := by
  unfold ActiveSession.selectLine
  cases hline : active.session.line lineId with
  | none => exact .inl rfl
  | some line => exact .inr ⟨line, rfl, rfl, hline, rfl⟩

theorem matchesExpected_self {α : Type} [DecidableEq α] (value : Option α) :
    matchesExpected value value = true := by
  cases value with
  | none => rfl
  | some => exact beq_self_eq_true _

theorem edit_sound (hedit : Edit active active') (h : Sound active) : Sound active' := by
  cases hedit with
  | unselect =>
    refine ⟨h.valid, ?_, h.dock⟩
    rintro line ⟨⟩
  | select lineId barcode haccepts =>
    rcases selectLine_cases with
      hsame | ⟨line, hline, hsession, hselected, hdraft⟩
    · rw [hsame]
      exact h
    · refine ⟨by rw [hsession]; exact h.valid, ?_, ?_⟩
      · intro other hother scanned hscanned
        rw [hselected] at hother
        rw [hdraft] at hscanned
        cases hother
        exact haccepts h.valid line hline scanned hscanned
      · intro scanned hscanned
        rw [hdraft] at hscanned
        cases hscanned
  | dock =>
    refine ⟨h.valid, h.item, ?_⟩
    rintro barcode ⟨⟩
    rfl
  | unloading => exact ⟨h.valid, h.item, h.dock⟩
  | field draft hsame =>
    refine ⟨h.valid, ?_, ?_⟩
    · intro line hline barcode hbarcode
      change draft.selectedLineId.bind _ = some line at hline
      change draft.itemBarcode = some barcode at hbarcode
      rw [hsame.line] at hline
      rw [hsame.item] at hbarcode
      exact h.item line hline barcode hbarcode
    · intro barcode hbarcode
      change draft.dockBarcode = some barcode at hbarcode
      rw [hsame.dock] at hbarcode
      exact h.dock barcode hbarcode

theorem edit_fits (hedit : Edit active active') (h : DraftFits active) : DraftFits active' := by
  cases hedit with
  | unselect => rintro - - line ⟨⟩
  | select =>
    rcases selectLine_cases with
      hsame | ⟨line, hline, hsession, hselected, hdraft⟩
    · rw [hsame]
      exact h
    · intro _ _ other hother
      rw [hselected] at hother
      cases hother
      rw [hdraft]
      exact ⟨matchesExpected_self _, matchesExpected_self _, matchesExpected_self _⟩
  | dock =>
    intro hmode hitem line hline
    obtain ⟨hlot, hserial, hexpiration⟩ := h hmode hitem line hline
    exact ⟨hlot, hserial, hexpiration⟩
  | unloading => exact h
  | field draft hsame hfits =>
    intro hmode hitem line hline
    change draft.mode = .received ∨ draft.mode = .quarantined at hmode
    change draft.itemBarcode.isSome = true at hitem
    change draft.selectedLineId.bind _ = some line at hline
    rw [hsame.mode] at hmode
    rw [hsame.item] at hitem
    rw [hsame.line] at hline
    refine hfits ?_ line hline (h hmode hitem line hline)
    rcases hmode with hmode | hmode <;> rw [hmode] <;> decide

theorem draftInMode_sound (h : Sound active) :
    Sound { active with draft := draftInMode mode active.draft } := by
  by_cases hmode : mode = .unexpected
  · refine ⟨h.valid, ?_, ?_⟩
    · intro line hline
      change (draftInMode mode active.draft).selectedLineId.bind _ = some line at hline
      rw [draftInMode, if_pos hmode] at hline
      cases hline
    · intro barcode hbarcode
      change (draftInMode mode active.draft).dockBarcode = some barcode at hbarcode
      rw [draftInMode, if_pos hmode] at hbarcode
      cases hbarcode
  · unfold draftInMode
    rw [if_neg hmode]
    exact ⟨h.valid, h.item, h.dock⟩

/-- A careful change of the mode keeps the dimensions of the line. -/
theorem draftInMode_fits (hcareful : mode = .received ∨ mode = .quarantined →
      active.draft.itemBarcode.isSome = true →
        ∀ line ∈ active.selectedLine, HasDimensions line active.draft) :
    DraftFits { active with draft := draftInMode mode active.draft } := by
  by_cases hmode : mode = .unexpected
  · intro hphysical
    change (draftInMode mode active.draft).mode = .received ∨
      (draftInMode mode active.draft).mode = .quarantined at hphysical
    rw [draftInMode, if_pos hmode, hmode] at hphysical
    rcases hphysical with ⟨⟨⟩⟩ | ⟨⟨⟩⟩
  · unfold draftInMode
    rw [if_neg hmode]
    intro hphysical hitem line hline
    obtain ⟨hlot, hserial, hexpiration⟩ := hcareful hphysical hitem line hline
    exact ⟨hlot, hserial, hexpiration⟩

end Drafts

variable {line : ExpectedReceiptLine} {expected : ConfirmationIntent}
  {snapshot : ConfirmationRecoverySnapshot}

section Intents

variable {intent : ReceivingCommandIntent}

theorem tryNew_eq_some {input session : ReceivingSession} (h : input.tryNew = some session) :
    session = input ∧ input.isValid = true := by
  unfold ReceivingSession.tryNew at h
  split_ifs at h with hvalid
  cases h
  exact ⟨rfl, hvalid⟩

/-- The parts of a valid confirmation. -/
theorem isCurrentAndValid_expected :
    expected.isCurrentAndValid = true ↔
      expected.schemaVersion = 3 ∧ expected.loadId = expected.recovery.loadId ∧
        expected.loadLineId = expected.recovery.selectedLine.loadLineId ∧
        expected.command.quantity.value ≤ expected.recovery.selectedLine.remaining.value ∧
        expected.commandFits = true := by
  unfold ConfirmationIntent.isCurrentAndValid
  simp only [Bool.and_eq_true, beq_iff_eq, decide_eq_true_eq, and_assoc]

variable {goods : ReceivedGoods}

/-- The parts of goods that fit. -/
theorem fits_iff {dock : ReceivingDock} :
    goods.fits dock line = true ↔
      line.accepts goods.itemBarcode = true ∧ goods.receivingLocationBarcode = dock.barcode ∧
        matchesExpected line.lot goods.lot = true ∧
        matchesExpected line.serial goods.serial = true ∧
        matchesExpected line.expiration goods.expiration = true := by
  unfold ReceivedGoods.fits
  simp only [Bool.and_eq_true, beq_iff_eq, and_assoc]

theorem snapshot_line (snapshot : ConfirmationRecoverySnapshot) :
    snapshot.session.line snapshot.selectedLine.loadLineId = some snapshot.selectedLine := by
  unfold ReceivingSession.line
  exact List.find?_cons_of_pos (beq_self_eq_true _)

/-- The work that a confirmation is restored to. -/
theorem restoreActive_expected (h : expected.restoreActive = some active) :
    active.session = expected.recovery.session ∧ active.session.isValid = true ∧
      active.draft = expected.recovery.draft expected.command ∧
      active.selectedLine = some expected.recovery.selectedLine := by
  unfold ConfirmationIntent.restoreActive restoreActive at h
  obtain ⟨session, hsession, hactive⟩ := Option.bind_eq_some_iff.mp h
  obtain ⟨rfl, hvalid⟩ := tryNew_eq_some hsession
  cases hactive
  refine ⟨rfl, hvalid, rfl, ?_⟩
  have hselected : (expected.recovery.draft expected.command).selectedLineId =
      some expected.recovery.selectedLine.loadLineId := by
    cases expected.command <;> rfl
  unfold ActiveSession.selectedLine
  rw [hselected, bind_some]
  exact snapshot_line expected.recovery

section

variable (hvalid : active.session.isValid = true) (hselected : active.selectedLine = some line)
include hvalid hselected

/-- A draft of goods that fit the line. -/
theorem goods_sound (hfits : goods.fits active.session.dock line = true)
    (hitem : active.draft.itemBarcode = some goods.itemBarcode)
    (hdock : active.draft.dockBarcode = some goods.receivingLocationBarcode)
    (hlot : active.draft.lot = goods.lot) (hserial : active.draft.serial = goods.serial)
    (hexpiration : active.draft.expiration = goods.expiration) :
    Sound active ∧ DraftFits active := by
  obtain ⟨haccepts, hbarcode, hlotFits, hserialFits, hexpirationFits⟩ := fits_iff.mp hfits
  refine ⟨⟨hvalid, ?_, ?_⟩, ?_⟩
  · intro other hother barcode hscanned
    cases hselected.symm.trans hother
    cases hitem.symm.trans hscanned
    exact haccepts
  · intro barcode hscanned
    cases hdock.symm.trans hscanned
    exact hbarcode
  · intro _ _ other hother
    cases hselected.symm.trans hother
    exact ⟨by rwa [hlot], by rwa [hserial], by rwa [hexpiration]⟩

/-- A draft that puts nothing away. -/
theorem bare_sound (hdock : active.draft.dockBarcode = none)
    (hmode : active.draft.mode = .rejected ∨ active.draft.mode = .missing)
    (hitem : ∀ barcode ∈ active.draft.itemBarcode, line.accepts barcode = true) :
    Sound active ∧ DraftFits active := by
  refine ⟨⟨hvalid, ?_, ?_⟩, ?_⟩
  · intro other hother
    cases hselected.symm.trans hother
    exact hitem
  · intro barcode hscanned
    cases hdock.symm.trans hscanned
  · intro hphysical
    rcases hmode with hmode | hmode
    · rw [hmode] at hphysical
      exact hphysical.elim nofun nofun
    · rw [hmode] at hphysical
      exact hphysical.elim nofun nofun

end

/-- A confirmation is restored to sound work. -/
theorem restore_expected_sound (hvalid : expected.isCurrentAndValid = true)
    (h : expected.restoreActive = some active) :
    (Sound active ∧ PendingSound active (.expected expected)) ∧ DraftFits active := by
  obtain ⟨hsession, hsessionValid, hdraft, hselected⟩ := restoreActive_expected h
  obtain ⟨-, -, hlineId, -, hfits⟩ := isCurrentAndValid_expected.mp hvalid
  have hpending : PendingSound active (.expected expected) := by
    change active.session.line expected.loadLineId = _
    rw [hsession, hlineId]
    exact snapshot_line expected.recovery
  have hdock : active.session.dock = expected.recovery.dock := by rw [hsession]; rfl
  suffices hboth : Sound active ∧ DraftFits active from ⟨⟨hboth.1, hpending⟩, hboth.2⟩
  unfold ConfirmationIntent.commandFits at hfits
  cases hcommand : expected.command with
  | received =>
    rw [hcommand] at hdraft hfits
    rw [← hdock] at hfits
    refine goods_sound hsessionValid hselected hfits ?_ ?_ ?_ ?_ ?_ <;> rw [hdraft] <;> rfl
  | quarantined =>
    rw [hcommand] at hdraft hfits
    rw [← hdock] at hfits
    refine goods_sound hsessionValid hselected (Bool.and_eq_true _ _ ▸ hfits).1 ?_ ?_ ?_ ?_ ?_ <;>
      rw [hdraft] <;> rfl
  | rejected =>
    rw [hcommand] at hdraft hfits
    refine bare_sound hsessionValid hselected (by rw [hdraft]; rfl)
      (.inl (by rw [hdraft]; rfl)) ?_
    intro barcode hscanned
    rw [hdraft] at hscanned
    cases hscanned
    exact (Bool.and_eq_true _ _ ▸ hfits).1
  | missing =>
    rw [hcommand] at hdraft
    refine bare_sound hsessionValid hselected (by rw [hdraft]; rfl)
      (.inr (by rw [hdraft]; rfl)) ?_
    intro barcode hscanned
    rw [hdraft] at hscanned
    cases hscanned

theorem restore_sound (hvalid : intent.isCurrentAndValid = true)
    (h : intent.restoreActive = some active) :
    (Sound active ∧ PendingSound active intent) ∧ DraftFits active := by
  cases intent with
  | expected => exact restore_expected_sound hvalid h
  | unexpected unexpected =>
    change unexpected.restoreActive = some active at h
    change unexpected.isCurrentAndValid = true at hvalid
    unfold UnexpectedReceiptIntent.restoreActive at h
    rw [if_pos hvalid] at h
    obtain ⟨session, hsession, rfl⟩ := Option.map_eq_some_iff.mp h
    obtain ⟨rfl, hsessionValid⟩ := tryNew_eq_some hsession
    unfold UnexpectedReceiptIntent.isCurrentAndValid at hvalid
    simp only [Bool.and_eq_true, beq_iff_eq] at hvalid
    refine ⟨⟨⟨hsessionValid, ?_, ?_⟩, trivial⟩, ?_⟩
    · rintro line ⟨⟩
    · rintro barcode ⟨⟩
      exact hvalid.1.1.1.2
    · intro hphysical
      exact hphysical.elim nofun nofun
  | unloading unloading =>
    change unloading.restoreActive = some active at h
    change unloading.isCurrentAndValid = true at hvalid
    unfold UnloadingStartIntent.restoreActive at h
    rw [if_pos hvalid] at h
    obtain ⟨session, hsession, rfl⟩ := Option.map_eq_some_iff.mp h
    obtain ⟨rfl, hsessionValid⟩ := tryNew_eq_some hsession
    exact ⟨⟨sound_default hsessionValid rfl, rfl⟩, draftFits_default rfl⟩

/-- A snapshot of a line. -/
theorem capture_eq_some {lineId : LoadLineId}
    (h : capture active lineId = some snapshot) :
    active.session.line lineId = some snapshot.selectedLine := by
  unfold capture at h
  split at h
  · cases h
  · next line hline =>
    split_ifs at h
    cases h
    exact hline

theorem intent_ne_unloading {unloading : UnloadingStartIntent} :
    active.intent ≠ some (.unloading unloading) := by
  unfold ActiveSession.intent
  intro h
  split_ifs at h
  · obtain ⟨_, -, hother⟩ := Option.map_eq_some_iff.mp h
    cases hother
  · obtain ⟨_, -, h⟩ := Option.bind_eq_some_iff.mp h
    obtain ⟨_, -, h⟩ := Option.bind_eq_some_iff.mp h
    obtain ⟨_, -, h⟩ := Option.bind_eq_some_iff.mp h
    obtain ⟨_, -, hother⟩ := Option.map_eq_some_iff.mp h
    cases hother

/-- A confirmation that was captured has a snapshot of its line. -/
theorem captured_expected (h : Captured active (.expected expected)) :
    capture active expected.loadLineId = some expected.recovery ∧
      expected.isCurrentAndValid = true := by
  cases h with
  | confirmation h =>
    unfold ActiveSession.intent at h
    split_ifs at h
    · obtain ⟨unexpected, -, hother⟩ := Option.map_eq_some_iff.mp h
      cases hother
    · obtain ⟨lineId, -, h⟩ := Option.bind_eq_some_iff.mp h
      obtain ⟨command, -, h⟩ := Option.bind_eq_some_iff.mp h
      obtain ⟨snapshot, hsnapshot, h⟩ := Option.bind_eq_some_iff.mp h
      obtain ⟨built, hbuilt, hsame⟩ := Option.map_eq_some_iff.mp h
      cases hsame
      unfold ConfirmationIntent.tryNew at hbuilt
      dsimp only at hbuilt
      split_ifs at hbuilt with hvalid
      cases hbuilt
      refine ⟨?_, hvalid⟩
      rw [(line_eq_some (capture_eq_some hsnapshot)).2]
      exact hsnapshot

theorem captured_sound (h : Captured active intent) : PendingSound active intent := by
  cases intent with
  | unloading unloading =>
    cases h with
    | unloading harrived => exact harrived
    | confirmation h => exact absurd h intent_ne_unloading
  | expected => exact capture_eq_some (captured_expected h).1
  | unexpected => trivial

end Intents

section Moves

theorem receiving_valid {session : ReceivingSession} (h : session.isValid = true)
    (harrived : session.status = .arrived) :
    ReceivingSession.isValid { session with status := .receiving } = true := by
  unfold ReceivingSession.isValid at h ⊢
  rw [harrived] at h
  exact h

theorem move_sound (hmove : StateMove state event state') (h : StateSound state) :
    StateSound state' := by
  cases hmove with
  | keep => exact h
  | leave hleft =>
    cases state' with
    | active | confirmationPending => cases hleft
    | awaitingLoad | resolvingLoad | loadResolutionFailed | refreshing | refreshFailed |
      loadComplete | reconcileRequired => trivial
  | begin barcode sent => exact sound_default sent.valid rfl
  | edit hstate hedit =>
    subst hstate
    exact edit_sound hedit h
  | mode mode hstate =>
    subst hstate
    exact draftInMode_sound h
  | pend confirmationId hstate hcaptured =>
    subst hstate
    exact ⟨h, captured_sound hcaptured⟩
  | restore confirmationId hvalid hactive => exact (restore_sound hvalid hactive).1
  | reject hstate =>
    subst hstate
    exact h.1
  | unloaded hstate =>
    subst hstate
    exact ⟨receiving_valid h.1.valid h.2, h.1.item, h.1.dock⟩
  | receivedUnexpected hstate =>
    subst hstate
    exact sound_default h.1.valid rfl

theorem move_fits (hmove : StateMove r.state event state') (hcareful : Careful r event)
    (h : StateFits r.state) : StateFits state' := by
  cases hmove with
  | keep => exact h
  | leave hleft =>
    cases state' with
    | active | confirmationPending => cases hleft
    | awaitingLoad | resolvingLoad | loadResolutionFailed | refreshing | refreshFailed |
      loadComplete | reconcileRequired => trivial
  | begin | receivedUnexpected => exact draftFits_default rfl
  | edit hstate hedit =>
    rw [hstate] at h
    exact edit_fits hedit h
  | mode mode hstate hevent =>
    subst hevent
    exact draftInMode_fits (hcareful _ hstate)
  | pend _ hstate | reject hstate | unloaded hstate =>
    rw [hstate] at h
    exact h
  | restore confirmationId hvalid hactive => exact (restore_sound hvalid hactive).2

theorem run_sound (h : ReceivingRun .default r) : StateSound r.state := by
  refine Run.preserves (fun r : ReceivingReducer => StateSound r.state) ?_ h trivial
  rintro mid event _ - rfl hmid
  exact move_sound (apply_move event) hmid

theorem carefulRun_fits (h : CarefulRun .default r) : StateFits r.state := by
  refine Run.preserves (fun r : ReceivingReducer => StateFits r.state) ?_ h trivial
  rintro mid event _ hcareful rfl hmid
  exact move_fits (apply_move event) hcareful hmid

theorem CarefulRun.run (h : CarefulRun .default r) : ReceivingRun .default r :=
  Run.mono h fun _ _ _ => trivial

end Moves

variable {draft : ConfirmationDraft} {quantity : PositiveQuantity}

section Guards

theorem guard_eq_allowed : active.guard = .allowed ↔
    active.quantityFault = none ∧ active.draft.modeFault = none ∧
      active.draft.reasonFault = none := by
  unfold ActiveSession.guard
  cases active.quantityFault with
  | some => exact ⟨nofun, fun h => nomatch h.1⟩
  | none =>
    cases active.draft.modeFault with
    | some => exact ⟨nofun, fun h => nomatch h.2.1⟩
    | none =>
      cases active.draft.reasonFault with
      | some => exact ⟨nofun, fun h => nomatch h.2.2⟩
      | none => exact ⟨fun _ => ⟨rfl, rfl, rfl⟩, fun _ => rfl⟩

/-- The line and the quantity of a draft for an expected line. -/
theorem quantityFault_eq_none (h : active.quantityFault = none)
    (hmode : active.draft.mode ≠ .unexpected) :
    ∃ line quantity, active.selectedLine = some line ∧ active.draft.quantity = some quantity ∧
      quantity.value ≤ line.remaining.value := by
  unfold ActiveSession.quantityFault at h
  rw [if_neg hmode] at h
  cases hline : active.selectedLine with
  | none =>
    rw [hline] at h
    cases h
  | some line =>
    rw [hline] at h
    cases hquantity : active.draft.quantity with
    | none =>
      rw [hquantity] at h
      cases h
    | some quantity =>
      rw [hquantity] at h
      dsimp only at h
      split_ifs at h with hmore
      exact ⟨line, quantity, rfl, rfl, not_lt.mp hmore⟩

theorem quantity_of_allowed (h : active.quantityFault = none) :
    ∃ quantity, active.draft.quantity = some quantity := by
  by_cases hmode : active.draft.mode = .unexpected
  · unfold ActiveSession.quantityFault at h
    split_ifs at h with hnone
    rw [isNone_iff_eq_none] at hnone
    exact Option.ne_none_iff_exists'.mp hnone
  · obtain ⟨-, quantity, -, hquantity, -⟩ := quantityFault_eq_none h hmode
    exact ⟨quantity, hquantity⟩

theorem scans_of_allowed (h : draft.modeFault = none) (hmode : draft.mode.isPhysical = true) :
    ∃ item dock, draft.itemBarcode = some item ∧ draft.dockBarcode = some dock := by
  have hscans : draft.itemBarcode ≠ none ∧ draft.dockBarcode ≠ none := by
    unfold modeFault at h
    split at h
    · split_ifs at h with hitem hdock
      rw [isNone_iff_eq_none] at hitem hdock
      exact ⟨hitem, hdock⟩
    · split_ifs at h with hitem hdock
      rw [isNone_iff_eq_none] at hitem hdock
      exact ⟨hitem, hdock⟩
    · split_ifs at h with hitem hdock
      rw [isNone_iff_eq_none] at hitem hdock
      exact ⟨hitem, hdock⟩
    · next hrejected =>
      rw [hrejected] at hmode
      cases hmode
    · next hmissing =>
      rw [hmissing] at hmode
      cases hmode
  obtain ⟨item, hitem⟩ := Option.ne_none_iff_exists'.mp hscans.1
  obtain ⟨dock, hdock⟩ := Option.ne_none_iff_exists'.mp hscans.2
  exact ⟨item, dock, hitem, hdock⟩

/-- The goods of a draft with its scans and its quantity. -/
theorem goods_eq_some {item : ItemBarcode} {dock : DockBarcode}
    (hitem : draft.itemBarcode = some item)
    (hdock : draft.dockBarcode = some dock) (hquantity : draft.quantity = some quantity) :
    draft.goods = some ⟨item, dock, quantity, draft.licensePlateBarcode, draft.lot, draft.serial,
      draft.expiration⟩ := by
  unfold goods
  rw [hitem, hdock, hquantity]
  rfl

theorem rejected_of_allowed (h : draft.modeFault = none) (hmode : draft.mode = .rejected) :
    ∃ item reason, draft.itemBarcode = some item ∧ draft.exceptionReason = some reason := by
  unfold modeFault at h
  rw [hmode] at h
  dsimp only at h
  split_ifs at h with hitem hreason
  rw [isNone_iff_eq_none] at hitem hreason
  obtain ⟨item, hitem⟩ := Option.ne_none_iff_exists'.mp hitem
  obtain ⟨reason, hreason⟩ := Option.ne_none_iff_exists'.mp hreason
  exact ⟨item, reason, hitem, hreason⟩

theorem missing_of_allowed (h : draft.modeFault = none)
    (hmode : draft.mode = .missing) : ∃ reason, draft.exceptionReason = some reason := by
  unfold modeFault at h
  rw [hmode] at h
  dsimp only at h
  split_ifs at h with hreason
  rw [isNone_iff_eq_none] at hreason
  exact Option.ne_none_iff_exists'.mp hreason

theorem active_of_confirmationGuard {access : CommandAccess}
    (h : r.confirmationGuard access = .allowed) :
    ∃ active, r.state = .active active ∧ active.guard = .allowed := by
  unfold ReceivingReducer.confirmationGuard at h
  cases access with
  | blocked => cases h
  | allowed =>
    cases hstate : r.state with
    | active active =>
      rw [hstate] at h
      dsimp only at h
      split_ifs at h
      exact ⟨active, rfl, h⟩
    | awaitingLoad | resolvingLoad | loadResolutionFailed | confirmationPending | refreshing |
      refreshFailed | loadComplete | reconcileRequired =>
      rw [hstate] at h
      cases h

section

variable (h : draft.reasonFault = none)
include h

theorem note_of_allowed :
    ¬ (draft.exceptionReason = some .other ∧ draft.exceptionNote.isNone = true) := by
  unfold reasonFault at h
  split_ifs at h with _ hnote
  · exact hnote
  · exact hnote

/-- The reason of a quarantine that is allowed. -/
theorem quarantine_of_allowed (hmode : draft.mode = .quarantined) :
    ∃ exception reason, draft.exceptionReason = some exception ∧
      ReceiptQuarantineReason.fromException exception = some reason := by
  unfold reasonFault at h
  split_ifs at h with hreason
  · rename_i hunexpected
    rw [hmode] at hunexpected
    cases hunexpected
  · rw [not_and, isNone_iff_eq_none] at hreason
    obtain ⟨reason, hsome⟩ := Option.ne_none_iff_exists'.mp (hreason hmode)
    obtain ⟨exception, hexception, hfrom⟩ := Option.bind_eq_some_iff.mp hsome
    exact ⟨exception, reason, hexception, hfrom⟩

/-- The reason of unexpected goods that are allowed. -/
theorem unexpected_of_allowed (hmode : draft.mode = .unexpected) :
    ∃ reason, draft.unexpectedReason = some reason ∧
      ¬ (reason = .other ∧ draft.exceptionNote.isNone = true) := by
  unfold reasonFault at h
  split_ifs at h
  · cases hreason : draft.unexpectedReason with
    | none =>
      rw [hreason] at h
      cases h
    | some reason =>
      rw [hreason] at h
      dsimp only at h
      split_ifs at h with hnote
      exact ⟨reason, rfl, hnote⟩

end

end Guards

section Captures

/-- An open line of a valid session is captured. -/
theorem capture_of_line {lineId : LoadLineId}
    (hvalid : active.session.isValid = true) (hline : active.session.line lineId = some line) :
    ∃ snapshot, capture active lineId = some snapshot ∧
      snapshot.selectedLine = line ∧ snapshot.dock = active.session.dock := by
  have hopen : line.remaining.value ≠ 0 := by
    unfold ReceivingSession.isValid at hvalid
    rw [Bool.and_eq_true, Bool.and_eq_true, List.all_eq_true] at hvalid
    exact bne_iff_ne.mp (hvalid.1.2 line (line_eq_some hline).1)
  unfold capture
  rw [hline]
  dsimp only
  rw [dif_pos hopen]
  exact ⟨_, rfl, rfl, rfl⟩

theorem note_fits {α : Type} [DecidableEq α] {reason other : α} {note : Option ExceptionNote}
    (h : ¬ (reason = other ∧ note.isNone = true)) : (!(reason == other && note.isNone)) = true := by
  rw [Bool.not_eq_true', ← Bool.not_eq_true, Bool.and_eq_true, beq_iff_eq]
  exact h

section

variable (hsound : Sound active) (hfits : DraftFits active)
include hsound hfits

/-- The goods of an allowed draft fit their line. -/
theorem goods_fit (hmode : active.draft.mode = .received ∨ active.draft.mode = .quarantined)
    (hmodeFault : active.draft.modeFault = none) (hline : active.selectedLine = some line)
    (hquantity : active.draft.quantity = some quantity) :
    ∃ goods, active.draft.goods = some goods ∧ goods.quantity = quantity ∧
      goods.fits active.session.dock line = true := by
  have hphysical : active.draft.mode.isPhysical = true := by
    rcases hmode with hmode | hmode <;> rw [hmode] <;> rfl
  obtain ⟨item, dock, hitem, hdock⟩ := scans_of_allowed hmodeFault hphysical
  obtain ⟨hlot, hserial, hexpiration⟩ := hfits hmode (by rw [hitem]; rfl) line hline
  refine ⟨_, goods_eq_some hitem hdock hquantity, rfl, fits_iff.mpr ?_⟩
  exact ⟨hsound.item line hline item hitem, hsound.dock dock hdock, hlot, hserial, hexpiration⟩

/-- The command of an allowed draft fits its line. -/
theorem command_fits (hmode : active.draft.mode ≠ .unexpected)
    (hmodeFault : active.draft.modeFault = none) (hreasonFault : active.draft.reasonFault = none)
    (hline : active.selectedLine = some line) (hquantity : active.draft.quantity = some quantity) :
    ∃ command, active.draft.command = some command ∧ command.quantity = quantity ∧
      ∀ intent : ConfirmationIntent, intent.command = command →
        intent.recovery.selectedLine = line → intent.recovery.dock = active.session.dock →
          intent.commandFits = true := by
  have hnote := note_of_allowed hreasonFault
  unfold command ConfirmationIntent.commandFits
  cases hcase : active.draft.mode with
  | unexpected => exact absurd hcase hmode
  | received =>
    obtain ⟨goods, hgoods, hsame, hgood⟩ :=
      goods_fit hsound hfits (.inl hcase) hmodeFault hline hquantity
    refine ⟨.received goods, by rw [hgoods]; rfl, hsame, ?_⟩
    rintro intent hcommand rfl hdock
    rw [hcommand, hdock]
    exact hgood
  | quarantined =>
    obtain ⟨goods, hgoods, hsame, hgood⟩ :=
      goods_fit hsound hfits (.inr hcase) hmodeFault hline hquantity
    obtain ⟨exception, reason, hexception, hreason⟩ :=
      quarantine_of_allowed hreasonFault hcase
    refine ⟨.quarantined goods reason active.draft.exceptionNote, ?_, hsame, ?_⟩
    · rw [hgoods, hexception]
      simp [hreason]
    · rintro intent hcommand rfl hdock
      rw [hcommand, hdock]
      refine Bool.and_eq_true _ _ ▸ ⟨hgood, note_fits ?_⟩
      -- The quarantine asks for a note when the exception does.
      rintro ⟨rfl, hnone⟩
      refine hnote ⟨?_, hnone⟩
      rw [hexception]
      cases exception <;> first | rfl | cases hreason
  | rejected =>
    obtain ⟨item, reason, hitem, hreason⟩ := rejected_of_allowed hmodeFault hcase
    refine ⟨.rejected item quantity reason active.draft.exceptionNote, ?_, rfl, ?_⟩
    · rw [hitem, hquantity, hreason]
      rfl
    · rintro intent hcommand rfl hdock
      rw [hcommand]
      refine Bool.and_eq_true _ _ ▸ ⟨hsound.item _ hline item hitem, note_fits ?_⟩
      rintro ⟨rfl, hnone⟩
      exact hnote ⟨hreason, hnone⟩
  | missing =>
    obtain ⟨reason, hreason⟩ := missing_of_allowed hmodeFault hcase
    refine ⟨.missing quantity reason active.draft.exceptionNote, ?_, rfl, ?_⟩
    · rw [hquantity, hreason]
      rfl
    · rintro intent hcommand - -
      rw [hcommand]
      refine note_fits ?_
      rintro ⟨rfl, hnone⟩
      exact hnote ⟨hreason, hnone⟩

/-- The intent of an allowed draft for an expected line. -/
theorem intent_of_expected (hguard : active.guard = .allowed)
    (hmode : active.draft.mode ≠ .unexpected) :
    ∃ intent, active.intent = some intent ∧ intent.isCurrentAndValid = true := by
  obtain ⟨hquantityFault, hmodeFault, hreasonFault⟩ := guard_eq_allowed.mp hguard
  obtain ⟨line, quantity, hline, hquantity, hless⟩ := quantityFault_eq_none hquantityFault hmode
  obtain ⟨command, hcommand, hsame, hcommandFits⟩ :=
    command_fits hsound hfits hmode hmodeFault hreasonFault hline hquantity
  obtain ⟨lineId, hlineId, hfound⟩ := Option.bind_eq_some_iff.mp hline
  obtain ⟨snapshot, hsnapshot, hselected, hdock⟩ := capture_of_line hsound.valid hfound
  let expected : ConfirmationIntent :=
    ⟨3, snapshot.loadId, snapshot.selectedLine.loadLineId, command, snapshot⟩
  have hvalid : expected.isCurrentAndValid = true :=
    isCurrentAndValid_expected.mpr ⟨rfl, rfl, rfl, by rw [hsame, hselected]; exact hless,
      hcommandFits expected rfl hselected hdock⟩
  have hexpected : ConfirmationIntent.tryNew snapshot command = some expected := if_pos hvalid
  refine ⟨.expected expected, ?_, hvalid⟩
  unfold ActiveSession.intent
  rw [if_neg (not_not.mpr hguard), if_neg hmode, hlineId]
  simp only [bind_eq_bind, bind_some, hcommand, hsnapshot, hexpected, map_some]

end

theorem intent_of_unexpected (hsound : Sound active) (hguard : active.guard = .allowed)
    (hmode : active.draft.mode = .unexpected) :
    ∃ intent, active.intent = some intent ∧ intent.isCurrentAndValid = true := by
  obtain ⟨hquantityFault, hmodeFault, hreasonFault⟩ := guard_eq_allowed.mp hguard
  obtain ⟨quantity, hquantity⟩ := quantity_of_allowed hquantityFault
  obtain ⟨item, dock, hitem, hdock⟩ := scans_of_allowed hmodeFault (by rw [hmode]; rfl)
  obtain ⟨reason, hreason, hnote⟩ := unexpected_of_allowed hreasonFault hmode
  have hgoods := goods_eq_some hitem hdock hquantity
  set goods : ReceivedGoods := ⟨item, dock, quantity, active.draft.licensePlateBarcode,
    active.draft.lot, active.draft.serial, active.draft.expiration⟩
  let unexpected : UnexpectedReceiptIntent :=
    { schemaVersion := 2
      loadId := active.session.loadId
      command := ⟨goods, reason, active.draft.exceptionNote, active.session.receiptPolicy⟩
      recovery := ⟨active.loadBarcode, active.session⟩ }
  have hvalid : unexpected.isCurrentAndValid = true := by
    have hsession : active.session.tryNew = some active.session := if_pos hsound.valid
    unfold UnexpectedReceiptIntent.isCurrentAndValid
    simp only [Bool.and_eq_true, beq_iff_eq]
    refine ⟨⟨⟨⟨⟨rfl, rfl⟩, hsound.dock dock hdock⟩, rfl⟩, note_fits hnote⟩, ?_⟩
    change active.session.tryNew.isSome = true
    rw [hsession]
    rfl
  refine ⟨.unexpected unexpected, ?_, hvalid⟩
  unfold ActiveSession.intent UnexpectedReceiptIntent.capture
  rw [if_neg (not_not.mpr hguard), if_pos hmode, hgoods, hreason]
  change (if unexpected.isCurrentAndValid = true then some unexpected else none).map _ = _
  rw [if_pos hvalid]
  rfl

/-- In every run of careful calls, a confirmation that the guard allows is asked for once, with an
intent that is valid, and calls for no supervisor. -/
theorem guard_allows_only_valid_intents (h : CarefulRun .default r) {access : CommandAccess}
    (hguard : r.confirmationGuard access = .allowed) :
    ∃ active intent, r.state = .active active ∧ intent.isCurrentAndValid = true ∧
      (r.beginConfirmation access).2 =
        .effect (.persistConfirmation r.nextCorrelationId intent) ∧
      (r.beginConfirmation access).1.state =
        .confirmationPending active r.nextCorrelationId intent := by
  have hsound := run_sound h.run
  have hfits := carefulRun_fits h
  obtain ⟨active, hstate, hallowed⟩ := active_of_confirmationGuard hguard
  rw [hstate] at hsound hfits
  obtain ⟨intent, hintent, hvalid⟩ :
      ∃ intent, active.intent = some intent ∧ intent.isCurrentAndValid = true := by
    by_cases hmode : active.draft.mode = .unexpected
    · exact intent_of_unexpected hsound hallowed hmode
    · exact intent_of_expected hsound hfits hallowed hmode
  have hbegun : r.beginConfirmation access = r.pend active intent := by
    have hactive : r.activeMut = some active := by
      unfold ReceivingReducer.activeMut
      rw [hstate]
    unfold ReceivingReducer.beginConfirmation
    rw [hguard, hactive]
    dsimp only
    rw [hintent]
  rw [hbegun]
  exact ⟨active, intent, hstate, hvalid, rfl, rfl⟩

end Captures

section Lots

/-- A line of ten units of one lot. -/
def lotLine : ExpectedReceiptLine where
  loadLineId := ⟨11, by decide⟩
  itemId := ⟨5, by decide⟩
  itemDescription := some "Widget"
  uom := ⟨"EA", by decide +kernel⟩
  itemBarcodes := [⟨"SKU-1", by decide +kernel⟩]
  expected := ⟨10, by decide⟩
  received := ⟨0, by decide⟩
  rejected := ⟨0, by decide⟩
  missing := ⟨0, by decide⟩
  remaining := ⟨10, by decide⟩
  lot := some ⟨"LOT-1", by decide +kernel⟩
  serial := none
  expiration := none

/-- The policy of the product. -/
def defaultPolicy : ReceiptPolicy :=
  ⟨.productDefault, none, none, none, true, true, 10000,
    "d52ecae3b5747640fb1bcdf91c7fb3a8800fa4ccce0c220267b44da3a8808326"⟩

/-- The session of a load with this line. -/
def lotSession : ReceivingSession where
  loadId := ⟨7, by decide⟩
  inventoryOwnerId := ⟨2, by decide⟩
  facilityId := ⟨3, by decide⟩
  referenceNumber := none
  status := .receiving
  expectedSeal := none
  dock := ⟨⟨4, by decide⟩, ⟨"DOCK-1", by decide +kernel⟩, none⟩
  receiptPolicy := defaultPolicy
  lines := [lotLine]

/-- What a confirmation of the line keeps for a restart. -/
def lotRecovery : ConfirmationRecoverySnapshot where
  loadBarcode := ⟨"LOAD-1", by decide +kernel⟩
  loadId := lotSession.loadId
  inventoryOwnerId := lotSession.inventoryOwnerId
  facilityId := lotSession.facilityId
  referenceNumber := none
  status := .receiving
  expectedSeal := none
  dock := lotSession.dock
  receiptPolicy := lotSession.receiptPolicy
  selectedLine := lotLine
  isOpen := by decide

/-- The intent of a command for the line. -/
def lotIntent (command : ExpectedReceiptCommand) : ConfirmationIntent :=
  ⟨3, lotSession.loadId, lotLine.loadLineId, command, lotRecovery⟩

/-- The server sends the session. -/
def sentLot : SentSession := ⟨lotSession, by decide +kernel, by decide +kernel⟩

/-- The load is scanned, and the item. -/
def itemCalls : List Event := [.scanLoad "LOAD-1", .loadResolved 1 sentLot, .scanItem "SKU-1"]

/-- The reducer after some calls. -/
def afterCalls (calls : List Event) : ReceivingReducer :=
  replay (fun r event => (r.apply event).1) calls .default

/-- Four units are received. -/
def receivedCalls : List Event := itemCalls ++ [.scanDock "DOCK-1", .setQuantity 4]

/-- Four units are rejected. -/
def rejectedCalls : List Event :=
  itemCalls ++ [.selectMode .rejected, .setQuantity 4, .setExceptionReason .damaged]

/-- The intent of the rejection. -/
def rejectedIntent : ReceivingCommandIntent :=
  .expected (lotIntent (.rejected ⟨"SKU-1", by decide +kernel⟩ ⟨4, by decide⟩ .damaged none))

/-- The device restarts with the rejection, the server refuses it, and the operator receives the
goods instead. -/
def restartedCalls : List Event :=
  [.restorePendingConfirmation rejectedIntent, .confirmationFailed 1 .rejected,
    .selectMode .received, .scanDock "DOCK-1"]

/-- A confirmation of the lot that the guard allows has a valid intent. -/
theorem lot_confirmation_is_valid :
    (afterCalls receivedCalls).confirmationGuard .allowed = .allowed ∧
      ∃ intent, intent.isCurrentAndValid = true ∧
        ((afterCalls receivedCalls).beginConfirmation .allowed).2 =
          .effect (.persistConfirmation 2 intent) := by
  have hrun : CarefulRun .default (afterCalls receivedCalls) := by
    apply run_replay
    exact ⟨trivial, trivial, trivial, trivial, trivial, trivial⟩
  have hguard : (afterCalls receivedCalls).confirmationGuard .allowed = .allowed := by
    decide +kernel
  have hnext : (afterCalls receivedCalls).nextCorrelationId = 2 := by decide +kernel
  obtain ⟨_, intent, -, hvalid, heffect, -⟩ := guard_allows_only_valid_intents hrun hguard
  rw [hnext] at heffect
  exact ⟨hguard, intent, hvalid, heffect⟩

/-- A rejection is kept, the device restarts with it, and the server refuses it. The operator then
receives the goods: the guard allows it, and the confirmation calls for a supervisor. -/
theorem guard_allows_refused_intent : ((afterCalls rejectedCalls).beginConfirmation .allowed).2 =
        .effect (.persistConfirmation 2 rejectedIntent) ∧
      ReceivingRun .default (afterCalls restartedCalls) ∧
      (afterCalls restartedCalls).confirmationGuard .allowed = .allowed ∧
      (afterCalls restartedCalls).beginConfirmation .allowed =
        (afterCalls restartedCalls).reconcile .commandIntegrityFailure := by
  refine ⟨by decide +kernel, ?_, by decide +kernel, by decide +kernel⟩
  apply run_replay
  exact ⟨trivial, trivial, trivial, trivial, trivial⟩

end Lots

end Wareboxes.RfReceivingGuard
