import Wareboxes.RfPicking

/-!
# The container rule of pick confirmations

The server takes a full-pallet pick only when it keeps its source plate, and any
other pick only when its destination is another plate. The workflow gets the first
from the scan of the source plate, which it takes as the destination, and the second
from a check of the destination scan. Giving a shortage up clears the destination and
keeps the source plate, so a full-pallet pick may then be sent to another plate; and
a policy without a destination scan leaves the destination out of the command. With
these two set aside, every confirmation obeys the rule.
-/

namespace Wareboxes.RfPickContainers

open RustText LabelledRuns RfLanes RfPicking PickingWorkflow Option

variable {w w' : PickingWorkflow} {claim : PickClaim}

section Rule

/-- What the server knows of a pick when it is confirmed. -/
structure PickTarget where
  /-- The pick belongs to a cart or to a zone: `active_route_method_tx`. -/
  routed : Bool
  /-- The source plate holds nothing but the units of the pick. -/
  fullPallet : Bool
  sourceBarcode : Option String

/-- How the container rule refuses a confirmation. -/
inductive ContainerRefusal where
  /-- A request that can never be right. -/
  | badRequest (message : String)
  /-- A request that does not fit what is there now. -/
  | conflict (message : String)

/-- `lock_full_pallet_source_tx`, without the reads that find the plate: whether the pick is a
full-pallet pick. -/
def lockFullPalletSource (target : PickTarget) (scannedDestinationBarcode : String) :
    Except ContainerRefusal Bool :=
  match target.sourceBarcode with
  | none => .ok false
  | some sourceBarcode =>
    if target.fullPallet then
      if scannedDestinationBarcode ≠ sourceBarcode then
        .error (.badRequest "a full pallet pick must retain its directed source license plate")
      else .ok true
    else if scannedDestinationBarcode = sourceBarcode then
      .error (.conflict "source license plate is no longer eligible for a full pallet pick")
    else .ok false

/-- The last check of `lock_destination_plate_tx`. -/
def destinationDiffers (target : PickTarget) (barcode : String) :
    Except ContainerRefusal Unit :=
  if target.sourceBarcode = some barcode then
    .error (.conflict "source and destination license plates must differ")
  else .ok ()

/-- The container rule of `confirm_content`: whether the pick is a full-pallet pick. -/
def containerRule (target : PickTarget) (destinationBarcode : String) :
    Except ContainerRefusal Bool := do
  let palletPick ←
    if target.routed then .ok false else lockFullPalletSource target destinationBarcode
  if palletPick then return true
  destinationDiffers target destinationBarcode
  return false

/-- The pick is done on a route. -/
def isRouted : PickExecutionMethod → Bool
  | .clusterCart | .batchCart | .zone => true
  | .discrete | .case | .pallet => false

/-- The server still sees the pick as it was claimed. -/
structure Agrees (target : PickTarget) (claim : PickClaim) : Prop where
  /-- The server routes the pick as the claim does. -/
  routed : target.routed = isRouted claim.execution.method
  /-- It knows a full pallet. -/
  fullPallet : target.routed = false →
    target.fullPallet = decide (claim.execution.method = .pallet)
  /-- It knows the source plate. -/
  source : target.sourceBarcode = claim.content.sourceLicensePlateBarcode

variable {target : PickTarget} {plate : String}

/-- A full-pallet pick passes the rule with its source plate. -/
theorem containerRule_of_pallet (hagrees : Agrees target claim)
    (hmethod : claim.execution.method = .pallet)
    (hplate : claim.content.sourceLicensePlateBarcode = some plate) :
    containerRule target plate = .ok true := by
  have hrouted : target.routed = false := by rw [hagrees.routed, hmethod]; rfl
  have hfull : target.fullPallet = true := by
    rw [hagrees.fullPallet hrouted, hmethod]
    rfl
  unfold containerRule lockFullPalletSource
  rw [hrouted, hagrees.source, hplate, hfull]
  dsimp only
  rw [if_neg (by decide), if_pos rfl, if_neg (not_not.mpr rfl)]
  rfl

/-- Any other pick passes the rule with another plate. -/
theorem containerRule_of_other (hagrees : Agrees target claim)
    (hmethod : claim.execution.method ≠ .pallet)
    (hplate : claim.content.sourceLicensePlateBarcode ≠ some plate) :
    containerRule target plate = .ok false := by
  have hdiffers : destinationDiffers target plate = .ok () := by
    unfold destinationDiffers
    rw [hagrees.source, if_neg hplate]
  unfold containerRule
  rw [hdiffers]
  by_cases hrouted : target.routed = true
  · rw [if_pos hrouted]
    rfl
  · have hfull : target.fullPallet = false := by
      rw [hagrees.fullPallet (Bool.not_eq_true _ ▸ hrouted), decide_eq_false hmethod]
    rw [if_neg hrouted]
    unfold lockFullPalletSource
    rw [hagrees.source]
    cases hsource : claim.content.sourceLicensePlateBarcode with
    | none => rfl
    | some =>
      rw [hsource] at hplate
      dsimp only
      rw [hfull, if_neg (by decide), if_neg (fun heq => hplate (congrArg some heq.symm))]
      rfl

end Rule

/-- What a confirmation has to carry. -/
structure Obeys (claim : PickClaim) (taskId contentId : ℤ)
    (locationScan itemScan plateScan destinationScan : Option String) : Prop where
  /-- It names the task. -/
  task : taskId = claim.taskId
  /-- It names the content. -/
  content : contentId = claim.content.contentId
  /-- The location was scanned if it has to be. -/
  sourceLocation : claim.pickPolicy.requireSourceLocationScan = true →
    locationScan = some claim.content.sourceLocationBarcode
  /-- So was the item. -/
  item : claim.pickPolicy.requireItemScan = true →
    ∃ barcode ∈ claim.content.itemBarcodes, itemScan = some barcode
  /-- The plate is that of the content. -/
  sourcePlate : plateScan = claim.content.sourceLicensePlateBarcode
  /-- The container was scanned if it has to be. -/
  destination : claim.pickPolicy.requireDestinationContainerScan = true →
    destinationScan.isSome = true
  /-- A full-pallet pick keeps its plate. -/
  pallet : claim.execution.method = .pallet →
    destinationScan.isSome = true ∧ destinationScan = plateScan
  /-- A pallet apart, it is not the source. -/
  other : claim.execution.method ≠ .pallet → ∀ plate ∈ plateScan, destinationScan ≠ some plate
  /-- The server's container rule takes the destination. -/
  rule : ∀ target, Agrees target claim → ∀ plate ∈ destinationScan,
    containerRule target plate = .ok (decide (claim.execution.method = .pallet))

/-- The scans fit a pick, and the destination of a full-pallet pick is its source plate as long as
no shortage is described. -/
structure ScansFit (claim : PickClaim) (w : PickingWorkflow) : Prop where
  /-- The location is the one to pick from. -/
  sourceLocation : ∀ scan ∈ w.sourceLocationScan, scan = claim.content.sourceLocationBarcode
  /-- The item is the one to pick. -/
  item : ∀ scan ∈ w.itemScan, scan ∈ claim.content.itemBarcodes
  /-- The plate is the one to pick from. -/
  sourcePlate : ∀ scan ∈ w.sourceLicensePlateScan,
    claim.content.sourceLicensePlateBarcode = some scan
  /-- The scanned destination of another pick than a full-pallet one is another plate. -/
  other : claim.execution.method ≠ .pallet →
    claim.pickPolicy.requireDestinationContainerScan = true →
    ∀ scan ∈ w.destinationLicensePlateScan,
      claim.content.sourceLicensePlateBarcode ≠ some scan
  /-- The destination of a full-pallet pick is its scanned source plate. -/
  pallet : claim.execution.method = .pallet →
    w.sourceLicensePlateScan.isSome = true → w.shortage.isNone = true →
    w.destinationLicensePlateScan = w.sourceLicensePlateScan

/-- The scans fit the pick that is held. -/
def Scanned (w : PickingWorkflow) : Prop := ∀ claim ∈ w.claim, ScansFit claim w

/-- A call that is safe for full-pallet picks: no shortage is given up once the source plate of
one was scanned. -/
def KeepsPallet (w : PickingWorkflow) : Event → Prop
  | .cancelShortage => ∀ claim ∈ w.claim, claim.execution.method = .pallet →
      w.sourceLicensePlateScan = none
  | _ => True

/-- The runs in which every call is safe for full-pallet picks. -/
def PalletRun : PickingWorkflow → PickingWorkflow → Prop :=
  Run (fun w event w' => w' = (w.apply event).1) KeepsPallet

section Frames

/-- Two workflows with the same pick and the same scans. -/
structure SameScans (w w' : PickingWorkflow) : Prop where
  /-- The same pick is held. -/
  claim : w'.claim = w.claim
  sourceLocation : w'.sourceLocationScan = w.sourceLocationScan
  item : w'.itemScan = w.itemScan
  sourcePlate : w'.sourceLicensePlateScan = w.sourceLicensePlateScan
  destination : w'.destinationLicensePlateScan = w.destinationLicensePlateScan
  shortage : w'.shortage.isNone = w.shortage.isNone

theorem SameScans.refl : SameScans w w := ⟨rfl, rfl, rfl, rfl, rfl, rfl⟩

theorem ScansFit.frame (h : ScansFit claim w) (same : SameScans w w') : ScansFit claim w' where
  sourceLocation := by rw [same.sourceLocation]; exact h.sourceLocation
  item := by rw [same.item]; exact h.item
  sourcePlate := by rw [same.sourcePlate]; exact h.sourcePlate
  other := by rw [same.destination]; exact h.other
  pallet := by
    rw [same.sourcePlate, same.destination, same.shortage]
    exact h.pallet

theorem Scanned.frame (h : Scanned w) (same : SameScans w w') : Scanned w' := by
  intro claim hclaim
  rw [same.claim] at hclaim
  exact (h claim hclaim).frame same

variable {command : PickingCommand} {commandId key : String}

theorem begin_same : SameScans w (w.begin command commandId key).1 := by
  unfold PickingWorkflow.begin
  split_ifs <;> exact ⟨rfl, rfl, rfl, rfl, rfl, rfl⟩

theorem beginIdle_same : SameScans w (w.beginIdle command commandId key).1 := by
  unfold beginIdle
  split_ifs
  · exact .refl
  · exact begin_same

theorem beginActive_same : SameScans w (w.beginActive command commandId key).1 := by
  unfold beginActive
  split_ifs
  · exact .refl
  · exact begin_same

theorem beginConfirmation_same : SameScans w (w.beginConfirmation commandId key).1 := by
  unfold beginConfirmation
  split_ifs
  · exact .refl
  · split
    · exact .refl
    · exact beginActive_same

theorem SameScans.of_shortage {shortage : PickShortageDraft} (h : w.shortage = some shortage)
    (changed : PickShortageDraft) (scanDraft : String) (error : Option String) :
    SameScans w { w with shortage := some changed, scanDraft, error } :=
  ⟨rfl, rfl, rfl, rfl, rfl, by rw [h]; rfl⟩

theorem clearScans_scanned : Scanned w.clearScans := by
  intro claim hclaim
  change w.claim = some claim at hclaim
  refine ⟨fun scan hscan => ?_, fun scan hscan => ?_, nofun, fun _ hrequired scan hscan => ?_,
    fun _ h => nomatch h⟩
  · change w.claim.bind _ = some scan at hscan
    rw [hclaim, bind_some, prefilled] at hscan
    split_ifs at hscan
    exact (Option.some.inj hscan).symm
  · change w.claim.bind _ = some scan at hscan
    rw [hclaim, bind_some, prefilled] at hscan
    split_ifs at hscan
    exact List.mem_of_mem_head? hscan
  · change w.claim.bind _ = some scan at hscan
    rw [hclaim, bind_some, prefilled, if_pos hrequired] at hscan
    cases hscan

/-- The scans of the last pick of a batch fit the claim when they are used again. -/
theorem reuse_fit {evidence : BatchScanEvidence} (h : ScansFit claim w)
    (hmethod : claim.execution.method ≠ .pallet) :
    ScansFit claim (((w.reuseSourceLocation claim evidence).reuseItem claim
      evidence).reuseSourceLicensePlate claim evidence) := by
  have hlocation : ScansFit claim (w.reuseSourceLocation claim evidence) := by
    unfold reuseSourceLocation
    split_ifs with hreuse
    · refine { h with sourceLocation := fun scan hscan => ?_ }
      exact Option.some.inj (Eq.trans hscan.symm hreuse.2)
    · exact h
  have hitem :
      ScansFit claim ((w.reuseSourceLocation claim evidence).reuseItem claim evidence) := by
    unfold reuseItem
    split_ifs with hreuse
    · refine { hlocation with item := fun scan hscan => ?_ }
      change evidence.itemBarcode = some scan at hscan
      rw [Bool.and_eq_true, hscan, any_some, List.contains_iff_mem] at hreuse
      exact hreuse.2
    · exact hlocation
  unfold reuseSourceLicensePlate
  split_ifs with hreuse
  · exact { hitem with
      sourcePlate := fun scan hscan => hreuse.symm.trans hscan
      pallet := fun hpallet => absurd hpallet hmethod }
  · exact hitem

theorem resetScans_scanned : Scanned w.resetScans := by
  unfold resetScans
  split
  · next claim evidence hclaim _ =>
    split_ifs with hmatches
    · intro other hother
      have hsame : w.claim = some other := by
        unfold reuseSourceLicensePlate reuseItem reuseSourceLocation at hother
        split_ifs at hother <;> exact hother
      cases hclaim.symm.trans hsame
      refine reuse_fit (clearScans_scanned claim hclaim) fun hpallet => ?_
      unfold batchEvidenceMatchesClaim at hmatches
      rw [hpallet] at hmatches
      cases hmatches
    · exact clearScans_scanned
  · exact clearScans_scanned

end Frames

section Steps

variable {content : PickClaimContent} {shortage : PickShortageDraft} {location plate : Bool}
  {recordId : ℤ} {outcome : CommandOutcome}

theorem expectedShortageScan_ne_destination :
    expectedShortageScan content shortage location plate ≠ some .destinationLicensePlate := by
  unfold expectedShortageScan
  dsimp only
  split_ifs <;> first | decide | skip
  all_goals split <;> decide

/-- The destination is asked for last, and never in a shortage. -/
theorem expectedScan_destination (h : w.expectedScan = some .destinationLicensePlate)
    (hclaim : w.claim = some claim) :
    w.shortage = none ∧ w.destinationLicensePlateScan = none ∧
      (claim.content.sourceLicensePlateBarcode.isSome = true →
        w.sourceLicensePlateScan.isSome = true) := by
  unfold expectedScan at h
  split_ifs at h
  rw [hclaim] at h
  cases hshortage : w.shortage with
  | some =>
    rw [hshortage] at h
    exact absurd h expectedShortageScan_ne_destination
  | none =>
    rw [hshortage] at h
    dsimp only at h
    unfold expectedPickScan at h
    split_ifs at h with hlocation hitem hplate hdestination
    · cases h
    · cases h
    · cases h
    · refine ⟨rfl, Option.isNone_iff_eq_none.mp hdestination, fun hsome => ?_⟩
      rw [hsome, Bool.true_and, isNone_iff_eq_none] at hplate
      exact Option.isSome_iff_ne_none.mpr hplate

/-- An accepted scan fits the claim. -/
theorem recordScan_scanned (h : Scanned w) (hclaim : w.claim = some claim) {stage : PickScanStage}
    (hstage : w.expectedScan = some stage) {scanned : String}
    (haccepted : w.scanAccepted claim.content scanned stage = true) :
    Scanned (w.recordScan (claim.execution.method == .pallet) scanned stage) := by
  have hfit := h claim hclaim
  intro other hother
  have hsame : w.claim = some other := by cases stage <;> exact hother
  cases hclaim.symm.trans hsame
  cases stage with
  | sourceLocation =>
    refine { hfit with sourceLocation := ?_ }
    rintro scan ⟨⟩
    exact beq_iff_eq.mp haccepted
  | item =>
    refine { hfit with item := ?_ }
    rintro scan ⟨⟩
    exact List.contains_iff_mem.mp haccepted
  | sourceLicensePlate =>
    refine { hfit with sourcePlate := ?_, other := fun hmethod => ?_, pallet := ?_ }
    · rintro scan ⟨⟩
      exact beq_iff_eq.mp haccepted
    · have hpallet : (claim.execution.method == PickExecutionMethod.pallet) = false :=
        beq_eq_false_iff_ne.mpr hmethod
      change _ → ∀ scan ∈ (if (claim.execution.method == PickExecutionMethod.pallet) = true
        then some scanned else w.destinationLicensePlateScan), _
      rw [hpallet, if_neg (by decide)]
      exact hfit.other hmethod
    · intro hmethod _ _
      change (if (claim.execution.method == PickExecutionMethod.pallet) = true
        then some scanned else w.destinationLicensePlateScan) = some scanned
      rw [if_pos (beq_iff_eq.mpr hmethod)]
  | destinationLicensePlate =>
    obtain ⟨hshortage, hdestination, _⟩ := expectedScan_destination hstage hclaim
    refine { hfit with other := ?_, pallet := fun hmethod hscanned _ => ?_ }
    · rintro - - scan ⟨⟩ hsource
      change claim.content.sourceLicensePlateBarcode.all _ = true at haccepted
      rw [hsource, all_some, bne_self_eq_false] at haccepted
      cases haccepted
    · -- the destination of a full-pallet pick is there already, so it is not asked for
      have hsame := hfit.pallet hmethod hscanned (by rw [hshortage]; rfl)
      rw [hdestination] at hsame
      change w.sourceLicensePlateScan.isSome = true at hscanned
      rw [← hsame] at hscanned
      cases hscanned
  | observedItem | observedLot | observedSerial | shortageDestinationLicensePlate =>
    exact hfit.frame ⟨rfl, rfl, rfl, rfl, rfl, isNone_map⟩

/-- The workflow after an accepted scan. -/
theorem submitScan_cases (commandId key : String) :
    SameScans w (w.submitScan commandId key).1 ∧ (w.submitScan commandId key).2 = none ∨
      ∃ claim stage scanned kept, w.claim = some claim ∧ w.expectedScan = some stage ∧
        w.scanAccepted claim.content scanned stage = true ∧
        SameScans (w.recordScan (claim.execution.method == .pallet) scanned stage) kept ∧
        (w.submitScan commandId key = (kept, none) ∨
          w.submitScan commandId key = kept.beginConfirmation commandId key) := by
  unfold submitScan
  cases hstage : w.expectedScan with
  | none => exact .inl ⟨.refl, rfl⟩
  | some stage =>
    dsimp only
    split_ifs with hempty
    · exact .inl ⟨⟨rfl, rfl, rfl, rfl, rfl, rfl⟩, rfl⟩
    · cases hclaim : w.claim with
      | none => exact .inl ⟨.refl, rfl⟩
      | some claim =>
        dsimp only
        split_ifs with haccepted hcompletes
        · exact .inl ⟨⟨rfl, rfl, rfl, rfl, rfl, rfl⟩, rfl⟩
        · refine .inr ⟨claim, stage, trim w.scanDraft, { w.recordScan _ _ stage with
            scanDraft := "", error := none }, rfl, rfl, Bool.not_eq_false _ ▸ haccepted,
            ⟨rfl, rfl, rfl, rfl, rfl, rfl⟩, .inr rfl⟩
        · refine .inr ⟨claim, stage, trim w.scanDraft, { w.recordScan _ _ stage with
            scanDraft := "", error := none }, rfl, rfl, Bool.not_eq_false _ ▸ haccepted,
            ⟨rfl, rfl, rfl, rfl, rfl, rfl⟩, .inl rfl⟩

section

variable (h : Scanned w)
include h

theorem submitScan_scanned (commandId key : String) : Scanned (w.submitScan commandId key).1 := by
  rcases submitScan_cases (w := w) commandId key with
    ⟨hsame, -⟩ | ⟨claim, stage, scanned, kept, hclaim, hstage, haccepted, hkept, hresult⟩
  · exact h.frame hsame
  · have hscanned := (recordScan_scanned h hclaim hstage haccepted).frame hkept
    rcases hresult with hresult | hresult
    · rw [hresult]
      exact hscanned
    · rw [hresult]
      exact hscanned.frame beginConfirmation_same

theorem durableOutcomeRecorded_scanned : Scanned (w.durableOutcomeRecorded recordId outcome) := by
  have hreset : ∀ v v' : PickingWorkflow, SameScans v.resetScans v' → Scanned v' :=
    fun _ _ hsame => resetScans_scanned.frame hsame
  unfold durableOutcomeRecorded
  split
  · exact h
  · split_ifs
    · exact h.frame ⟨rfl, rfl, rfl, rfl, rfl, rfl⟩
    · exact h.frame ⟨rfl, rfl, rfl, rfl, rfl, rfl⟩
    · cases outcome with
      | claimed | confirmed | shortageReported | released =>
        exact hreset _ _ ⟨rfl, rfl, rfl, rfl, rfl, rfl⟩
      | other => exact h.frame ⟨rfl, rfl, rfl, rfl, rfl, rfl⟩

theorem beginShortage_scanned : Scanned w.beginShortage := by
  unfold beginShortage
  split_ifs
  · exact h
  · intro claim hclaim
    exact { h claim hclaim with item := nofun, other := nofun, pallet := nofun }

/-- A shortage that is given up clears the destination, which only a full-pallet pick with a
scanned source plate would need. -/
theorem cancelShortage_scanned (hkeeps : KeepsPallet w .cancelShortage) :
    Scanned w.cancelShortage := by
  unfold cancelShortage
  split_ifs
  · intro claim hclaim
    refine { h claim hclaim with item := nofun, other := nofun, pallet := ?_ }
    intro hmethod hscanned
    change w.sourceLicensePlateScan.isSome = true at hscanned
    rw [hkeeps claim hclaim hmethod] at hscanned
    cases hscanned
  · exact h

theorem apply_scanned {event : Event} (hkeeps : KeepsPallet w event) :
    Scanned (w.apply event).1 := by
  cases event with
  | editScan | editClusterId | editZoneId | requireReconciliation | dispatchStarted |
    dispatchAmbiguous | retryAmbiguous =>
    exact h.frame ⟨rfl, rfl, rfl, rfl, rfl, rfl⟩
  | editPickedQuantity | editShortageNote =>
    exact h.frame ⟨rfl, rfl, rfl, rfl, rfl, isNone_map⟩
  | beginShortage => exact beginShortage_scanned h
  | cancelShortage => exact cancelShortage_scanned h hkeeps
  | submitScan commandId key => exact submitScan_scanned h commandId key
  | beginConfirmation => exact h.frame beginConfirmation_same
  | durableOutcomeRecorded => exact durableOutcomeRecorded_scanned h
  | restoreCurrentClaim claim =>
    change Scanned (w.restoreCurrentClaim claim)
    unfold restoreCurrentClaim
    split_ifs
    · have hreset : Scanned { w with batchScanEvidence := none, claim }.resetScans :=
        resetScans_scanned
      exact hreset.frame ⟨rfl, rfl, rfl, rfl, rfl, rfl⟩
    · exact h
  | setShortageReason | setShortageDisposition | setControlledEvidence | beginClaimNext |
    beginClaimById | beginClusterClaim | beginZoneClaim | beginRelease | beginShortageReport |
    commandPersisted | durableRejectionRecorded | restoreReadyCommand | restoreAmbiguousCommand =>
    -- The others leave the scans: they end early, begin a command or change the shortage.
    simp only [PickingWorkflow.apply, setShortageReason, setShortageDisposition,
      setControlledEvidence, beginClaimNext, beginClaimById, beginClusterClaim, beginZoneClaim,
      beginRelease, beginShortageReport, commandPersisted, durableRejectionRecorded,
      restoreReadyCommand, restoreAmbiguousCommand]
    repeat' split
    all_goals first
      | exact h
      | exact h.frame ⟨rfl, rfl, rfl, rfl, rfl, rfl⟩
      | exact h.frame beginIdle_same
      | exact h.frame beginActive_same
      | exact h.frame (.of_shortage (by assumption) _ _ _)

end

theorem run_scanned (h : PalletRun .default w) : Scanned w := by
  refine Run.preserves Scanned ?_ h (by rintro claim ⟨⟩)
  rintro mid event _ hkeeps rfl hmid
  exact apply_scanned hmid hkeeps

end Steps

variable {command : PickingCommand}

section Confirmations

variable {draft : Draft PickingCommand} {commandId key : String}
  {location item plate destination : Option String} {taskId contentId : ℤ}

theorem begin_effect (h : (w.begin command commandId key).2 = some (.persistCommand draft)) :
    draft.command = .own command := by
  unfold PickingWorkflow.begin at h
  split_ifs at h
  cases h
  rfl

theorem beginIdle_effect
    (h : (w.beginIdle command commandId key).2 = some (.persistCommand draft)) :
    draft.command = .own command := by
  unfold beginIdle at h
  split_ifs at h
  exact begin_effect h

/-- A command about the pick that is held is begun only when there is one. -/
theorem beginActive_effect
    (h : (w.beginActive command commandId key).2 = some (.persistCommand draft)) :
    w.activity = .active ∧ draft.command = .own command := by
  unfold beginActive at h
  split_ifs at h with hactive
  exact ⟨not_not.mp hactive, begin_effect h⟩

/-- A confirmation is begun when no scan is missing and no shortage is described. -/
theorem beginConfirmation_effect
    (h : (w.beginConfirmation commandId key).2 = some (.persistCommand draft)) :
    ∃ claim, w.claim = some claim ∧ w.shortage = none ∧ w.expectedPickScan claim.content = none ∧
      draft.command = .own (w.confirmation claim) := by
  unfold beginConfirmation at h
  split_ifs at h with hmissing
  rw [Bool.or_eq_true, not_or, not_isSome_iff_eq_none,
    not_isSome_iff_eq_none] at hmissing
  obtain ⟨hscan, hshortage⟩ := hmissing
  cases hclaim : w.claim with
  | none =>
    rw [hclaim] at h
    cases h
  | some claim =>
    rw [hclaim] at h
    obtain ⟨hactive, hcommand⟩ := beginActive_effect h
    refine ⟨claim, rfl, hshortage, ?_, hcommand⟩
    unfold expectedScan at hscan
    rw [if_neg (not_not.mpr hactive), hclaim, hshortage] at hscan
    exact hscan

/-- When a pick expects no more scans, all of them are there. -/
theorem expectedPickScan_eq_none {content : PickClaimContent}
    (h : w.expectedPickScan content = none) :
    w.sourceLocationScan ≠ none ∧ w.itemScan ≠ none ∧
      (content.sourceLicensePlateBarcode ≠ none → w.sourceLicensePlateScan ≠ none) ∧
      w.destinationLicensePlateScan ≠ none := by
  unfold expectedPickScan at h
  split_ifs at h with hlocation hitem hplate hdestination
  rw [isNone_iff_eq_none] at hlocation hitem hdestination
  rw [Bool.and_eq_true, isNone_iff_eq_none, isSome_iff_ne_none, not_and] at hplate
  exact ⟨hlocation, hitem, hplate, hdestination⟩

section

variable (h : ScansFit claim w)
include h

/-- The scan of the source plate is the directed plate, or nothing when there is none. -/
theorem ScansFit.sourcePlate_eq (hscan : w.expectedPickScan claim.content = none) :
    w.sourceLicensePlateScan = claim.content.sourceLicensePlateBarcode := by
  cases hplate : w.sourceLicensePlateScan with
  | some scan => exact (h.sourcePlate scan hplate).symm
  | none =>
    by_contra hdirected
    exact (expectedPickScan_eq_none hscan).2.2.1 (Ne.symm hdirected) hplate

section

variable (hshortage : w.shortage = none) (hscan : w.expectedPickScan claim.content = none)
include hshortage hscan

/-- The destination of a full-pallet pick is the directed plate. -/
theorem ScansFit.destination_of_pallet (hmethod : claim.execution.method = .pallet) :
    w.destinationLicensePlateScan = w.sourceLicensePlateScan := by
  refine h.pallet hmethod ?_ (by rw [hshortage]; rfl)
  rw [h.sourcePlate_eq hscan]
  exact claim.palletHasPlate hmethod

/-- The confirmation of a pick whose scans fit it is as the server demands. -/
theorem confirmation_obeys (hpolicy : claim.execution.method = .pallet →
      claim.pickPolicy.requireDestinationContainerScan = true)
    (hcommand : w.confirmation claim = .confirm taskId contentId location item plate destination) :
    Obeys claim taskId contentId location item plate destination := by
  obtain ⟨hlocation, hitem, -, hdestination⟩ := expectedPickScan_eq_none hscan
  have hplate := h.sourcePlate_eq hscan
  obtain ⟨rfl, rfl, rfl, rfl, rfl, rfl⟩ := PickingCommand.confirm.inj hcommand
  have hsent : ∀ plate ∈ (if claim.pickPolicy.requireDestinationContainerScan = true then
      w.destinationLicensePlateScan else none),
      claim.pickPolicy.requireDestinationContainerScan = true ∧
        w.destinationLicensePlateScan = some plate := by
    intro plate hmem
    split_ifs at hmem with hrequired
    · exact ⟨hrequired, hmem⟩
    · cases hmem
  have hother : claim.execution.method ≠ .pallet →
      ∀ plate ∈ (if claim.pickPolicy.requireDestinationContainerScan = true then
        w.destinationLicensePlateScan else none),
        claim.content.sourceLicensePlateBarcode ≠ some plate := by
    intro hmethod plate hmem
    obtain ⟨hrequired, hdest⟩ := hsent plate hmem
    exact h.other hmethod hrequired plate hdest
  have hpallet : claim.execution.method = .pallet →
      (if claim.pickPolicy.requireDestinationContainerScan = true then
        w.destinationLicensePlateScan else none) = w.sourceLicensePlateScan := by
    intro hmethod
    rw [if_pos (hpolicy hmethod)]
    exact h.destination_of_pallet hshortage hscan hmethod
  refine ⟨rfl, rfl, fun hrequired => ?_, fun hrequired => ?_, hplate, fun hrequired => ?_,
    fun hmethod => ?_, fun hmethod plate hmem hdest => ?_, fun target hagrees plate hmem => ?_⟩
  · obtain ⟨scan, hsome⟩ := Option.ne_none_iff_exists'.mp hlocation
    rw [if_pos hrequired, hsome, h.sourceLocation scan hsome]
  · obtain ⟨scan, hsome⟩ := Option.ne_none_iff_exists'.mp hitem
    rw [if_pos hrequired]
    exact ⟨scan, h.item scan hsome, hsome⟩
  · rw [if_pos hrequired]
    exact Option.isSome_iff_ne_none.mpr hdestination
  · refine ⟨?_, hpallet hmethod⟩
    rw [hpallet hmethod, hplate]
    exact claim.palletHasPlate hmethod
  · exact hother hmethod plate hdest (hplate.symm.trans hmem)
  · by_cases hmethod : claim.execution.method = .pallet
    · rw [hpallet hmethod, hplate] at hmem
      rw [decide_eq_true hmethod]
      exact containerRule_of_pallet hagrees hmethod hmem
    · rw [decide_eq_false hmethod]
      exact containerRule_of_other hagrees hmethod (hother hmethod plate hmem)

end

end

/-- Only `begin_confirmation` asks for a confirmation, called by the operator or after the last
scan of the same pick. -/
theorem apply_confirms {event : Event} (hscanned : Scanned w)
    (heffect : (w.apply event).2 = some (.persistCommand draft))
    (hcommand : draft.command = .own (.confirm taskId contentId location item plate destination)) :
    ∃ kept commandId key, Scanned kept ∧ kept.claim = w.claim ∧
      (beginConfirmation commandId key kept).2 =
        some (.persistCommand draft) := by
  have hother : ∀ command : PickingCommand, draft.command = .own command →
      (∀ a b c d e f, command ≠ .confirm a b c d e f) → False := by
    intro command hown hne
    rw [hcommand] at hown
    exact hne _ _ _ _ _ _ (RfCommand.own.inj hown).symm
  cases event with
  | editScan | editClusterId | editZoneId | requireReconciliation | dispatchStarted |
    dispatchAmbiguous | editPickedQuantity | editShortageNote | beginShortage | cancelShortage |
    setShortageReason | setShortageDisposition | setControlledEvidence | durableOutcomeRecorded |
    durableRejectionRecorded | restoreCurrentClaim | restoreAmbiguousCommand =>
    cases heffect
  | submitScan commandId key =>
    change (w.submitScan commandId key).2 = _ at heffect
    rcases submitScan_cases (w := w) commandId key with
      ⟨-, hnone⟩ |
      ⟨claim, stage, scanned, kept, hclaim, hstage, haccepted, hkept, hresult | hresult⟩
    · cases hnone.symm.trans heffect
    · rw [hresult] at heffect
      cases heffect
    · rw [hresult] at heffect
      refine ⟨kept, commandId, key,
        (recordScan_scanned hscanned hclaim hstage haccepted).frame hkept, ?_, heffect⟩
      rw [hkept.claim]
      cases stage <;> rfl
  | beginConfirmation commandId key => exact ⟨w, commandId, key, hscanned, rfl, heffect⟩
  | beginShortageReport commandId key =>
    change (w.beginShortageReport commandId key).2 = _ at heffect
    unfold beginShortageReport at heffect
    repeat' split at heffect
    all_goals try cases heffect
    next command hshort =>
      refine (hother _ (beginActive_effect heffect).2 ?_).elim
      rintro _ _ _ _ _ _ rfl
      unfold shortageCommand at hshort
      obtain ⟨outcome, -, hrest⟩ := Option.bind_eq_some_iff.mp hshort
      obtain ⟨barcode, -, hfinal⟩ := Option.bind_eq_some_iff.mp hrest
      cases hfinal
  | beginClaimNext | beginClaimById | beginClusterClaim | beginZoneClaim | beginRelease |
    commandPersisted | retryAmbiguous | restoreReadyCommand =>
    -- These begin another command or none.
    simp only [PickingWorkflow.apply, beginClaimNext, beginClaimById, beginClusterClaim,
      beginZoneClaim, beginRelease, commandPersisted, retryAmbiguous,
      Lane.retryAmbiguous, restoreReadyCommand] at heffect
    repeat' split at heffect
    all_goals first
      | cases heffect
      | exact (hother _ (beginIdle_effect heffect) (by rintro _ _ _ _ _ _ ⟨⟩)).elim
      | exact (hother _ (beginActive_effect heffect).2 (by rintro _ _ _ _ _ _ ⟨⟩)).elim

/-- In every run of the workflow in which no shortage of a full-pallet pick is given up after its
source plate was scanned, every confirmation obeys the rule of the server, as long as full-pallet
picks need the scan of the destination. -/
theorem confirmations_obey_container_rule {event : Event} (h : PalletRun .default w)
    (heffect : (w.apply event).2 = some (.persistCommand draft))
    {taskId contentId : ℤ} {location item plate destination : Option String}
    (hcommand : draft.command =
      .own (.confirm taskId contentId location item plate destination)) :
    ∃ claim, w.claim = some claim ∧
      ((claim.execution.method = .pallet →
        claim.pickPolicy.requireDestinationContainerScan = true) →
      Obeys claim taskId contentId location item plate destination) := by
  obtain ⟨kept, commandId, key, hscanned, hsame, hbegun⟩ :=
    apply_confirms (run_scanned h) heffect hcommand
  obtain ⟨claim, hclaim, hshortage, hscan, hown⟩ := beginConfirmation_effect hbegun
  refine ⟨claim, hsame.symm.trans hclaim, fun hpolicy => ?_⟩
  exact confirmation_obeys (hscanned claim hclaim) hshortage hscan hpolicy
    (RfCommand.own.inj (hown.symm.trans hcommand))

end Confirmations

section Pallets

/-- A full-pallet pick of plate LP-1, with the destination scan required or not. -/
def palletClaim (requireDestinationContainerScan : Bool) : PickClaim where
  taskId := 42
  orderId := 7
  orderRevision := 3
  execution := { method := .pallet, clusterId := none, storageZoneId := none }
  pickPolicy :=
    { requireSourceLocationScan := true
      requireItemScan := true
      requireDestinationContainerScan }
  suggestedDestinationLicensePlateBarcode := none
  content :=
    { contentId := 43
      sourceInventoryBalanceId := 5
      itemBatchId := 6
      sourceLocationBarcode := "A-01"
      sourceLicensePlateBarcode := some "LP-1"
      itemBarcodes := ["SKU-1"]
      lot := none
      serial := none
      plannedQuantity := 10 }
  palletHasPlate := by decide

/-- The operator scans the location and the item, and types the source plate. -/
def palletCalls (required : Bool) : List Event :=
  [.restoreCurrentClaim (some (palletClaim required)), .editScan "A-01",
    .submitScan "command-1" "key-1", .editScan "SKU-1", .submitScan "command-2" "key-2",
    .editScan "LP-1"]

/-- The operator scans the location, begins a shortage and scans the source plate for it, gives
the shortage up, scans the item and types another plate. -/
def cancelledCalls : List Event :=
  [.restoreCurrentClaim (some (palletClaim true)), .editScan "A-01",
    .submitScan "command-1" "key-1", .beginShortage, .editScan "LP-1",
    .submitScan "command-2" "key-2", .cancelShortage, .editScan "SKU-1",
    .submitScan "command-3" "key-3", .editScan "LP-2"]

/-- The workflow after these calls. -/
def afterCalls (calls : List Event) : PickingWorkflow :=
  replay (fun w event => (w.apply event).1) calls .default

/-- The confirmation of the pallet. -/
def palletDraft (commandId key : String) (destination : Option String) : Draft PickingCommand :=
  ⟨1, commandId, key,
    .own (.confirm 42 43 (some "A-01") (some "SKU-1") (some "LP-1") destination)⟩

/-- The confirmation of a pallet obeys the rule. -/
theorem pallet_confirmation_obeys :
    Obeys (palletClaim true) 42 43 (some "A-01") (some "SKU-1") (some "LP-1") (some "LP-1") := by
  have hrun : PalletRun .default (afterCalls (palletCalls true)) := by
    apply run_replay
    exact ⟨trivial, trivial, trivial, trivial, trivial, trivial, trivial⟩
  have heffect : ((afterCalls (palletCalls true)).apply (.submitScan "command-3" "key-3")).2 =
      some (.persistCommand (palletDraft "command-3" "key-3" (some "LP-1"))) := by
    decide +kernel
  obtain ⟨claim, hclaim, hobeys⟩ := confirmations_obey_container_rule hrun heffect rfl
  have hheld : (afterCalls (palletCalls true)).claim = some (palletClaim true) := by
    decide +kernel
  rw [hheld] at hclaim
  cases hclaim
  exact hobeys fun _ => rfl

/-- A full-pallet pick is confirmed with another plate after a shortage was given up, and without
a destination when its policy does not ask for one. The server refuses the other plate, and every
plate but LP-1 that it may find by itself. -/
theorem pallet_confirmations_break_container_rule :
    WorkflowRun .default (afterCalls cancelledCalls) ∧
      ((afterCalls cancelledCalls).apply (.submitScan "command-4" "key-4")).2 =
        some (.persistCommand (palletDraft "command-4" "key-4" (some "LP-2"))) ∧
      WorkflowRun .default (afterCalls (palletCalls false)) ∧
      ((afterCalls (palletCalls false)).apply (.submitScan "command-3" "key-3")).2 =
        some (.persistCommand (palletDraft "command-3" "key-3" none)) ∧
      ∀ (target : PickTarget) (required : Bool), Agrees target (palletClaim required) →
        ∀ plate, plate ≠ "LP-1" → containerRule target plate =
          .error (.badRequest
            "a full pallet pick must retain its directed source license plate") := by
  refine ⟨?_, by decide +kernel, ?_, by decide +kernel, ?_⟩
  · apply run_replay
    exact ⟨trivial, trivial, trivial, trivial, trivial, trivial, trivial, trivial, trivial,
      trivial, trivial⟩
  · apply run_replay
    exact ⟨trivial, trivial, trivial, trivial, trivial, trivial, trivial⟩
  · intro target required hagrees plate hplate
    have hrouted : target.routed = false := hagrees.routed
    have hfull : target.fullPallet = true := hagrees.fullPallet hrouted
    unfold containerRule lockFullPalletSource
    rw [hrouted, hagrees.source, hfull]
    change (if plate ≠ "LP-1" then _ else _) >>= _ = _
    rw [if_pos hplate]
    rfl

end Pallets

end Wareboxes.RfPickContainers
