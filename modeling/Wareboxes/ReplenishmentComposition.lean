import Wareboxes.ReplenishmentPlanning

/-!
# Decision, eligibility and selection together

The decision of the policy is made from the level of the reserve, and the moves are selected
from the balances that the policy admits. When that level is what those balances hold, the
selection finds everything that was decided. It refuses only a plan with more moves than a
32-bit number counts. After the planned quantity is on its way, no further move is needed.
-/

namespace Wareboxes.ReplenishmentComposition

open RankedPicks ReplenishmentPlanning RustTime List

/-- The move takes from a source what the source has. -/
def MovesFrom (planned : PlannedReplenishmentSource) (source : EligibleReplenishmentSource) :
    Prop :=
  planned = { planned with
    sourceInventoryBalanceId := source.candidate.sourceInventoryBalanceId
    itemBatchId := source.candidate.itemBatchId
    sourceLocationId := source.candidate.sourceLocationId
    lot := source.candidate.lot
    serial := source.candidate.serial
    expiration := source.candidate.expiration
    receivedAt := source.candidate.receivedAt } ∧
    0 < planned.quantity.value ∧
    planned.quantity.value ≤ source.candidate.freeQuantity.value

/-- The moves are those that were decided. -/
structure Composed (policy : ReplenishmentPolicyDefinition)
    (candidates : List ReplenishmentSourceCandidate) (decision : ReplenishmentPlanDecision)
    (planned : List PlannedReplenishmentSource) : Prop where
  /-- They take from the admitted sources in the order of their expiry. -/
  rotation : ∃ ordered taken, List.Perm ordered (eligibleSources policy candidates) ∧
    ordered.Pairwise (fun left right => fefoKey left ≤ fefoKey right) ∧ taken <+: ordered ∧
    List.Forall₂ MovesFrom planned taken
  /-- The work is numbered from one. -/
  numbered : planned.map (·.sequence) = List.range' 1 planned.length
  /-- They add up to what was decided. -/
  sum : (planned.map (·.quantity.value)).sum = decision.planned.value
  /-- They come from the reserve and not from the pick face. -/
  reserve : ∀ source ∈ planned,
    source.sourceLocationId ∈ policy.reserveSourceLocationIds.ids ∧
      source.sourceLocationId ≠ policy.scope.pickFaceLocationId

/-- What is free in the admitted sources. -/
def eligibleFree (policy : ReplenishmentPolicyDefinition)
    (candidates : List ReplenishmentSourceCandidate) : ℤ :=
  ((eligibleSources policy candidates).map fun source =>
    source.candidate.freeQuantity.value).sum

/-- What is free in the first sources by expiry that can be numbered. -/
def numberedFree (policy : ReplenishmentPolicyDefinition)
    (candidates : List ReplenishmentSourceCandidate) : ℤ :=
  (((sortBy compareEligibleSources (eligibleSources policy candidates)).take maxU32).map
    fun source => source.candidate.freeQuantity.value).sum

section Selection

variable {policy : ReplenishmentPolicyDefinition} {candidates : List ReplenishmentSourceCandidate}
  {decision : ReplenishmentPlanDecision} {sources : List EligibleReplenishmentSource} {sequence : ℕ}
  {pick : Pick freeQuantity} {taken : List (Pick freeQuantity)}

theorem supply_freeQuantity : (supply freeQuantity sources : ℤ) =
      (sources.map fun source => source.candidate.freeQuantity.value).sum := by
  unfold supply
  rw [Nat.cast_list_sum, map_map]
  exact congrArg List.sum (map_congr_left fun source _ => freeQuantity_value source)

theorem movesFrom_plannedSource : MovesFrom (plannedSource sequence pick) pick.item :=
  ⟨rfl, Int.natCast_pos.mpr pick.quantity.pos,
    (Int.ofNat_le.mpr ((PNat.coe_le_coe _ _).mpr pick.within)).trans_eq
      (freeQuantity_value pick.item)⟩

/-- The numbered moves of some picks. -/
def numberedMoves (taken : List (Pick freeQuantity)) : List PlannedReplenishmentSource :=
  (taken.zipIdx 1).map fun pick => plannedSource pick.2 pick.1

theorem forall₂_numberedMoves (taken : List (Pick freeQuantity)) :
    List.Forall₂ MovesFrom (numberedMoves taken) (taken.map Pick.item) := by
  have hitems : taken.map Pick.item = (taken.zipIdx 1).map fun pick => pick.1.item := by
    rw [← zipIdx_map_fst 1 taken, map_map, zipIdx_map_fst]
    rfl
  rw [hitems]
  unfold numberedMoves
  rw [forall₂_map_left_iff, forall₂_map_right_iff, forall₂_same]
  exact fun pick _ => movesFrom_plannedSource

theorem numberedMoves_sequence :
    (numberedMoves taken).map (·.sequence) = range' 1 (numberedMoves taken).length := by
  unfold numberedMoves
  rw [map_map, length_map, length_zipIdx, ← zipIdx_map_snd 1 taken]
  rfl

theorem sum_numberedMoves :
    ((numberedMoves taken).map (·.quantity.value)).sum = (total taken : ℤ) := by
  have hquantities : (numberedMoves taken).map (·.quantity.value) =
      taken.map fun pick => ((pick.quantity : ℕ) : ℤ) := by
    unfold numberedMoves
    rw [map_map, ← zipIdx_map_fst 1 taken, map_map, zipIdx_map_fst]
    rfl
  rw [hquantities]
  unfold total
  rw [Nat.cast_list_sum, map_map]
  rfl

/-- Sources with different balances are numbered moves of the picks by expiry, when these can
be numbered and the sources hold what was decided. -/
theorem selectReplenishmentSources_eq {sources : List EligibleReplenishmentSource}
    (hdistinct : (sources.map (·.candidate.sourceInventoryBalanceId)).Nodup) :
    selectReplenishmentSources decision sources =
      (planSources 0 (picks freeQuantity decision.planned.value.toNat
        (sortBy compareEligibleSources sources)) >>= fun planned =>
      if decision.planned.value.toNat - supply freeQuantity sources ≠ 0 then
        .error (.reserveSnapshotMismatch
          (decision.planned.value.toNat - supply freeQuantity sources : ℕ))
      else .ok planned) := by
  have hnone : firstDuplicate (fun source : EligibleReplenishmentSource =>
      source.candidate.sourceInventoryBalanceId) [] sources = none :=
    (firstDuplicate_eq_none _).mpr ⟨fun _ _ => not_mem_nil, hdistinct⟩
  unfold selectReplenishmentSources
  by_cases hzero : decision.planned = .zero
  · rw [if_pos hzero, hzero, show ReplenishmentLevel.zero.value.toNat = 0 from rfl, Nat.zero_sub,
      picks]
    rfl
  · rw [if_neg hzero, hnone]
    dsimp only
    rw [leftOver_eq, supply_perm (sortBy_perm compareEligibleSources sources)]

theorem selectReplenishmentSources_of_held {sources : List EligibleReplenishmentSource}
    (hdistinct : (sources.map (·.candidate.sourceInventoryBalanceId)).Nodup)
    (hheld : decision.planned.value.toNat ≤ supply freeQuantity sources) :
    selectReplenishmentSources decision sources =
      planSources 0 (picks freeQuantity decision.planned.value.toNat
        (sortBy compareEligibleSources sources)) := by
  rw [selectReplenishmentSources_eq hdistinct, Nat.sub_eq_zero_of_le hheld]
  exact bind_pure _

theorem covered_of_le_eligibleFree
    (hheld : decision.planned.value ≤ eligibleFree policy candidates) :
    decision.planned.value.toNat ≤ supply freeQuantity (eligibleSources policy candidates) := by
  unfold eligibleFree at hheld
  rw [← supply_freeQuantity] at hheld
  omega

/-- The numbered moves of the picks by expiry are those that were decided, when the admitted
sources hold what was decided. -/
theorem composed_numberedMoves (hheld : decision.planned.value ≤ eligibleFree policy candidates) :
    Composed policy candidates decision (numberedMoves
      (picks freeQuantity decision.planned.value.toNat
        (sortBy compareEligibleSources (eligibleSources policy candidates)))) := by
  set ordered := sortBy compareEligibleSources (eligibleSources policy candidates)
    with hordered
  have hperm : List.Perm ordered (eligibleSources policy candidates) :=
    sortBy_perm compareEligibleSources _
  have htaken : (picks freeQuantity decision.planned.value.toNat ordered).map Pick.item <+:
      ordered := picks_items _ _
  have hmoves := forall₂_numberedMoves
    (picks freeQuantity decision.planned.value.toNat ordered)
  refine
    { rotation := ⟨ordered, _, hperm, sortBy_pairwise compareEligibleSources_ranks _, htaken,
        hmoves⟩
      numbered := numberedMoves_sequence
      sum := ?_
      reserve := ?_ }
  · have hnonNegative := decision.planned.nonNegative
    have hcovered := covered_of_le_eligibleFree hheld
    rw [sum_numberedMoves, total_picks, supply_perm hperm, min_eq_left hcovered]
    exact Int.toNat_of_nonneg hnonNegative
  · intro source hsource
    obtain ⟨index, hindex, rfl⟩ := getElem_of_mem hsource
    have hsame := hmoves.length_eq
    obtain ⟨hfields, -, -⟩ := hmoves.get hindex (hsame ▸ hindex)
    have hmem := hperm.mem_iff.mp (htaken.subset
      (get_mem _ ⟨index, hsame ▸ hindex⟩))
    obtain ⟨candidate, -, heligible⟩ := List.mem_filterMap.mp hmem
    obtain ⟨hcandidate, hadmitted⟩ := eligible?_eq_some.mp heligible
    rw [← hcandidate] at hadmitted
    have hlocation := congrArg PlannedReplenishmentSource.sourceLocationId hfields
    rw [get_eq_getElem] at hlocation
    rw [hlocation]
    exact ⟨hadmitted.configured, hadmitted.elsewhere⟩

section

variable (hdistinct : (candidates.map (·.sourceInventoryBalanceId)).Nodup)
  (hheld : decision.planned.value ≤ eligibleFree policy candidates)
include hdistinct hheld

/-- When the admitted sources hold what was decided, they are selected, unless there are too
many to number. -/
theorem select_eq_ok (hnumbered : decision.planned.value ≤ numberedFree policy candidates) :
    ∃ planned, selectReplenishmentSources decision (eligibleSources policy candidates) =
      .ok planned ∧ Composed policy candidates decision planned := by
  have hcovered := covered_of_le_eligibleFree hheld
  refine ⟨_, ?_, composed_numberedMoves hheld⟩
  rw [selectReplenishmentSources_of_held (nodup_eligibleSources hdistinct) hcovered]
  refine planSources_ok ?_
  rw [← supply_perm (sortBy_perm compareEligibleSources _)] at hcovered
  rw [Nat.zero_add, length_picks_le_iff _ hcovered]
  unfold numberedFree at hnumbered
  rw [← supply_freeQuantity] at hnumbered
  omega

/-- When those that can be numbered do not hold what was decided, the selection is refused. -/
theorem select_eq_error (hnumbered : numberedFree policy candidates < decision.planned.value) :
    selectReplenishmentSources decision (eligibleSources policy candidates) =
      .error .tooManySourceBalances := by
  have hcovered := covered_of_le_eligibleFree hheld
  rw [selectReplenishmentSources_of_held (nodup_eligibleSources hdistinct) hcovered]
  refine planSources_error (Nat.zero_le _) ?_
  rw [← supply_perm (sortBy_perm compareEligibleSources _)] at hcovered
  rw [Nat.zero_add, ← not_le, length_picks_le_iff _ hcovered]
  unfold numberedFree at hnumbered
  rw [← supply_freeQuantity] at hnumbered
  omega

end

end Selection

section Decision

variable {thresholds : ReplenishmentPolicyThresholds}
  {snapshot : ReplenishmentPlanningSnapshot}

/-- What is missing is the distance to what should be there. -/
theorem targetGap_of_actionable (h : actionable thresholds snapshot) :
    (targetGap thresholds snapshot).value =
      max thresholds.target.value snapshot.unallocatedDemand.value -
        snapshot.projectedFree.value := by
  unfold targetGap
  rw [dif_pos h, ← ReplenishmentLevel.value_max]
  rfl

/-- No more is planned than is missing. -/
theorem planned_le_targetGap (thresholds : ReplenishmentPolicyThresholds)
    (snapshot : ReplenishmentPlanningSnapshot) :
    (planReplenishment thresholds snapshot).planned.value ≤
      (targetGap thresholds snapshot).value :=
  min_le_level _ _

theorem planned_le_reserveFree :
    (planReplenishment thresholds snapshot).planned.value ≤ snapshot.reserveFree.value := by
  change ((targetGap thresholds snapshot).min snapshot.reserveFree).value ≤ _
  rw [ReplenishmentLevel.value_min]
  exact min_le_right _ _

/-- A needed move does not exceed what should be there. -/
theorem projected_add_planned_le (h : actionable thresholds snapshot) :
    snapshot.projectedFree.value + (planReplenishment thresholds snapshot).planned.value ≤
      max thresholds.target.value snapshot.unallocatedDemand.value := by
  have hgap := targetGap_of_actionable h
  have hplanned := planned_le_targetGap thresholds snapshot
  omega

/-- A full plan moves all that is missing. -/
theorem projected_add_planned_of_fullyPlanned
    (h : (planReplenishment thresholds snapshot).outcome = .fullyPlanned) :
    snapshot.projectedFree.value + (planReplenishment thresholds snapshot).planned.value =
      max thresholds.target.value snapshot.unallocatedDemand.value := by
  have hplanned := planned_le_targetGap thresholds snapshot
  unfold planReplenishment at h
  dsimp only at h
  split_ifs at h with hneeded hzero hpartial
  have hgap := targetGap_of_actionable hneeded
  change ¬(planReplenishment thresholds snapshot).planned.value < _ at hpartial
  omega

theorem outcome_eq_notNeeded (h : max thresholds.target.value snapshot.unallocatedDemand.value ≤
      snapshot.projectedFree.value) :
    (planReplenishment thresholds snapshot).outcome = .notNeeded := by
  have habove := thresholds.targetAboveMinimum
  refine if_pos fun hneeded => ?_
  rcases hneeded with hneeded | hneeded <;> omega

/-- After a full plan the planned quantity is on its way, and no further move is needed. -/
theorem replan_notNeeded (h : (planReplenishment thresholds snapshot).outcome = .fullyPlanned)
    {activeInbound : ReplenishmentLevel} (hinbound : activeInbound.value =
      snapshot.activeInbound.value + (planReplenishment thresholds snapshot).planned.value)
    (reserveFree : ReplenishmentLevel) :
    ∃ after, ReplenishmentPlanningSnapshot.new snapshot.pickFaceFree activeInbound
        snapshot.unallocatedDemand reserveFree = .ok after ∧
      (planReplenishment thresholds after).outcome = .notNeeded := by
  have hfull := projected_add_planned_of_fullyPlanned h
  have hprojected := snapshot.projected
  have htarget := thresholds.target.fits
  have hdemand := snapshot.unallocatedDemand.fits
  have hfits : snapshot.pickFaceFree.value + activeInbound.value ≤ maxI64 := by omega
  refine ⟨_, dif_pos hfits, outcome_eq_notNeeded ?_⟩
  change _ ≤ snapshot.pickFaceFree.value + activeInbound.value
  change max thresholds.target.value snapshot.unallocatedDemand.value ≤ _
  omega

end Decision

/-- Decision, eligibility and selection fit together. When the level of the reserve is what the
admitted sources hold, the decided moves are found, or those that can be numbered hold too
little and the selection is refused. A needed move does not exceed what should be there, and
after a full plan no further move is needed. -/
theorem replenishment_composes (policy : ReplenishmentPolicyDefinition)
    (candidates : List ReplenishmentSourceCandidate)
    (hdistinct : (candidates.map (·.sourceInventoryBalanceId)).Nodup)
    (snapshot : ReplenishmentPlanningSnapshot)
    (hreserve : snapshot.reserveFree.value = eligibleFree policy candidates) :
    let decision := planReplenishment policy.thresholds snapshot
    let selected := selectReplenishmentSources decision (eligibleSources policy candidates)
    (decision.planned.value ≤ numberedFree policy candidates →
      ∃ planned, selected = .ok planned ∧ Composed policy candidates decision planned) ∧
    (numberedFree policy candidates < decision.planned.value →
      selected = .error .tooManySourceBalances) ∧
    (actionable policy.thresholds snapshot →
      snapshot.projectedFree.value + decision.planned.value ≤
        max policy.thresholds.target.value snapshot.unallocatedDemand.value) ∧
    (decision.outcome = .fullyPlanned →
      ∀ activeInbound : ReplenishmentLevel,
        activeInbound.value = snapshot.activeInbound.value + decision.planned.value →
        ∀ reserveFree, ∃ after,
          ReplenishmentPlanningSnapshot.new snapshot.pickFaceFree activeInbound
            snapshot.unallocatedDemand reserveFree = .ok after ∧
          (planReplenishment policy.thresholds after).outcome = .notNeeded) := by
  have hheld : (planReplenishment policy.thresholds snapshot).planned.value ≤
      eligibleFree policy candidates :=
    hreserve ▸ planned_le_reserveFree
  exact ⟨select_eq_ok hdistinct hheld, select_eq_error hdistinct hheld,
    projected_add_planned_le, fun hfull _ hinbound => replan_notNeeded hfull hinbound⟩

section Shelf

/-- A time of receipt. -/
def received : DateTime := ⟨0, by decide, by decide⟩

/-- A policy for a pick face at location 1 with a reserve at location 2. -/
def shelfPolicy (target : ReplenishmentLevel) (h : 1 < target.value) :
    ReplenishmentPolicyDefinition :=
  { scope := ⟨1, 1, 1, 1, "EA", 1⟩
    thresholds := ⟨⟨1, by decide, by decide⟩, target, h⟩
    reserveSourceLocationIds := ⟨[2], by decide, by decide⟩
    pickFaceIsNoReserve := by decide }

/-- A reserve balance with something free. -/
def reserveBalance (free : ReplenishmentLevel) (balance : ℕ) : ReplenishmentSourceCandidate :=
  { tenantId := 1
    inventoryOwnerId := 1
    facilityId := 1
    sourceLocationId := 2
    sourceInventoryBalanceId := balance
    itemBatchId := 1
    itemId := 1
    uom := "EA"
    lot := none
    serial := none
    expiration := none
    receivedAt := received
    inventoryStatus := .available
    freeQuantity := free }

/-- Some balances with as much free in each. -/
def reserveBalances (free : ReplenishmentLevel) (count : ℕ) :
    List ReplenishmentSourceCandidate :=
  (List.range count).map fun index => reserveBalance free (index + 1)

/-- An empty pick face. -/
def emptyShelf (reserveFree : ReplenishmentLevel) : ReplenishmentPlanningSnapshot :=
  { pickFaceFree := .zero
    activeInbound := .zero
    projectedFree := .zero
    unallocatedDemand := .zero
    reserveFree := reserveFree
    projected := rfl }

/-- Ten are to be at the pick face, and two balances with six each are in reserve: six are
moved from the first and four from the second, and no further move is needed. -/
theorem shelf_is_replenished :
    let policy := shelfPolicy ⟨10, by decide, by decide⟩ (by decide)
    let candidates := reserveBalances ⟨6, by decide, by decide⟩ 2
    let decision := planReplenishment policy.thresholds
      (emptyShelf ⟨12, by decide, by decide⟩)
    ∃ planned, selectReplenishmentSources decision (eligibleSources policy candidates) =
        .ok planned ∧
      planned.map (fun source => (source.sequence, source.quantity.value)) =
        [(1, 6), (2, 4)] ∧
      Composed policy candidates decision planned ∧
      decision.outcome = .fullyPlanned := by
  obtain ⟨hselected, -⟩ := replenishment_composes
    (shelfPolicy ⟨10, by decide, by decide⟩ (by decide))
    (reserveBalances ⟨6, by decide, by decide⟩ 2) (by decide)
    (emptyShelf ⟨12, by decide, by decide⟩) (by decide +kernel)
  have hnumbered : 10 ≤ numberedFree (shelfPolicy ⟨10, by decide, by decide⟩ (by decide))
      (reserveBalances ⟨6, by decide, by decide⟩ 2) := by
    decide +kernel
  obtain ⟨planned, hplanned, hcomposed⟩ := hselected hnumbered
  refine ⟨planned, hplanned, ?_, hcomposed, by decide⟩
  have heval : (selectReplenishmentSources
      (planReplenishment (shelfPolicy ⟨10, by decide, by decide⟩ (by decide)).thresholds
        (emptyShelf ⟨12, by decide, by decide⟩))
      (eligibleSources (shelfPolicy ⟨10, by decide, by decide⟩ (by decide))
        (reserveBalances ⟨6, by decide, by decide⟩ 2))).map (fun planned =>
          planned.map fun source => (source.sequence, source.quantity.value)) =
      .ok [(1, 6), (2, 4)] := by
    decide +kernel
  rw [hplanned] at heval
  exact Except.ok.inj heval

/-- One more than can be counted with 32 bits. -/
def tooMany : ReplenishmentLevel := ⟨4294967296, by decide, by decide⟩

/-- A balance with one free item. -/
def one : ReplenishmentLevel := ⟨1, by decide, by decide⟩

theorem nodup_reserveBalances (free : ReplenishmentLevel) (count : ℕ) :
    ((reserveBalances free count).map (·.sourceInventoryBalanceId)).Nodup := by
  unfold reserveBalances
  rw [map_map]
  refine List.nodup_range.map_on fun first _ second _ h => ?_
  exact Nat.succ_injective (Int.ofNat_inj.mp h)

/-- A pick face that is to hold more than can be counted with 32 bits. -/
def deepShelf : ReplenishmentPolicyDefinition := shelfPolicy tooMany (by decide)

/-- The source of a balance with a free item. -/
def unitSource (index : ℕ) : EligibleReplenishmentSource :=
  ⟨reserveBalance one (index + 1), Int.one_pos⟩

variable {count : ℕ}

theorem eligibleSources_reserveBalances :
    eligibleSources deepShelf (reserveBalances one count) =
      (List.range count).map unitSource := by
  have hadmitted (balance : ℕ) : Admitted deepShelf (reserveBalance one balance) :=
    ⟨rfl, rfl, rfl, (by decide : (2 : ℤ) ≠ 1), mem_singleton_self _, rfl, rfl, rfl,
      Int.one_pos⟩
  unfold eligibleSources reserveBalances
  rw [filterMap_map, ← filterMap_eq_map]
  exact congrArg (filterMap · _)
    (funext fun index => eligible?_eq_some.mpr ⟨rfl, hadmitted (index + 1)⟩)

/-- Sources with one free item each hold as many items as there are sources. -/
theorem sum_ones {sources : List EligibleReplenishmentSource}
    (h : ∀ source ∈ sources, source.candidate.freeQuantity.value = 1) :
    (sources.map fun source => source.candidate.freeQuantity.value).sum = sources.length := by
  rw [map_congr_left h, map_const', sum_replicate, nsmul_one]

theorem one_of_mem_eligibleSources {count : ℕ} :
    ∀ source ∈ eligibleSources deepShelf (reserveBalances one count),
      source.candidate.freeQuantity.value = 1 := by
  rw [eligibleSources_reserveBalances]
  intro source hsource
  obtain ⟨balance, -, rfl⟩ := List.mem_map.mp hsource
  rfl

theorem eligibleFree_reserveBalances (count : ℕ) :
    eligibleFree deepShelf (reserveBalances one count) = count := by
  unfold eligibleFree
  rw [sum_ones one_of_mem_eligibleSources, eligibleSources_reserveBalances, length_map,
    length_range]

theorem numberedFree_reserveBalances :
    numberedFree deepShelf (reserveBalances one count) ≤ maxU32 := by
  unfold numberedFree
  rw [sum_ones fun source hsource => one_of_mem_eligibleSources source
    ((sortBy_perm _ _).mem_iff.mp (mem_of_mem_take hsource)), length_take]
  exact_mod_cast min_le_left _ _

/-- One item in each of 4294967296 balances is enough to fill the pick face, but the moves
cannot be numbered. -/
theorem too_many_balances_are_refused :
    ∃ (policy : ReplenishmentPolicyDefinition)
      (candidates : List ReplenishmentSourceCandidate)
      (snapshot : ReplenishmentPlanningSnapshot),
      (candidates.map (·.sourceInventoryBalanceId)).Nodup ∧
      snapshot.reserveFree.value = eligibleFree policy candidates ∧
      selectReplenishmentSources (planReplenishment policy.thresholds snapshot)
        (eligibleSources policy candidates) = .error .tooManySourceBalances := by
  have hdistinct := nodup_reserveBalances one 4294967296
  have hfree := eligibleFree_reserveBalances 4294967296
  have hplanned : (planReplenishment deepShelf.thresholds
      (emptyShelf tooMany)).planned.value = 4294967296 := by
    decide
  refine ⟨deepShelf, reserveBalances one 4294967296, emptyShelf tooMany, hdistinct, hfree.symm,
    select_eq_error hdistinct ?_ ?_⟩
  · rw [hfree, hplanned]
    rfl
  · rw [hplanned]
    exact lt_of_le_of_lt numberedFree_reserveBalances (by decide)

end Shelf

end Wareboxes.ReplenishmentComposition
