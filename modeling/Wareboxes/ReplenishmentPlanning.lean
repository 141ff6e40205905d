import Wareboxes.RankedPicks
import Wareboxes.RustTime

/-!
# Replenishment planning

A pick face is replenished from reserve locations. The policy decides how much is to move, the
reserve balances that the policy admits are found, and the move is split over them by expiry.
The three steps are separate functions, and the plan is sound when the level of the reserve that
the decision saw is what the admitted balances hold.
-/

namespace Wareboxes.ReplenishmentPlanning

open RankedPicks RustTime

/-- `ReplenishmentLevel`: an `i64` that is not negative. -/
structure ReplenishmentLevel where
  /-- The number. -/
  value : ℤ
  /-- It is not negative. -/
  nonNegative : 0 ≤ value
  /-- It is an `i64`. -/
  fits : value ≤ maxI64
  deriving DecidableEq

/-- `ReplenishmentLevel::ZERO`. -/
def ReplenishmentLevel.zero : ReplenishmentLevel := ⟨0, le_refl 0, by decide⟩

/-- `ReplenishmentMoveQuantity`: a positive `i64`. -/
structure ReplenishmentMoveQuantity where
  /-- The number. -/
  value : ℤ
  /-- Something is moved. -/
  positive : 0 < value
  /-- It is an `i64`. -/
  fits : value ≤ maxI64
  deriving DecidableEq

/-- `ReplenishmentPolicyScope`. -/
structure ReplenishmentPolicyScope where
  /-- The tenant. -/
  tenantId : ℤ
  /-- Whose goods they are. -/
  inventoryOwnerId : ℤ
  /-- The facility. -/
  facilityId : ℤ
  /-- The item. -/
  itemId : ℤ
  /-- The unit. -/
  uom : String
  /-- The pick face that is filled. -/
  pickFaceLocationId : ℤ

/-- `ReplenishmentPolicyThresholds`. -/
structure ReplenishmentPolicyThresholds where
  /-- The level below which a move is needed. -/
  minimum : ReplenishmentLevel
  /-- The level that a move restores. -/
  target : ReplenishmentLevel
  /-- A move is worth something. -/
  targetAboveMinimum : minimum.value < target.value

/-- `ReplenishmentReserveSourceLocationIds`. -/
structure ReplenishmentReserveSourceLocationIds where
  /-- The locations. -/
  ids : List ℤ
  /-- They are sorted and come once. -/
  sorted : ids.Pairwise (· < ·)
  /-- There is one. -/
  notEmpty : ids ≠ []

/-- `contains`. A binary search in sorted locations finds those that are there. -/
def ReplenishmentReserveSourceLocationIds.contains
    (locations : ReplenishmentReserveSourceLocationIds) (locationId : ℤ) : Bool :=
  locations.ids.contains locationId

/-- `ReplenishmentPolicyDefinition`. -/
structure ReplenishmentPolicyDefinition where
  /-- What is replenished. -/
  scope : ReplenishmentPolicyScope
  /-- When it is. -/
  thresholds : ReplenishmentPolicyThresholds
  /-- Where the goods come from. -/
  reserveSourceLocationIds : ReplenishmentReserveSourceLocationIds
  /-- The pick face is not one of them. -/
  pickFaceIsNoReserve : reserveSourceLocationIds.contains scope.pickFaceLocationId = false

/-- `ReplenishmentInventoryStatus`. -/
inductive ReplenishmentInventoryStatus where
  | available
  | hold
  | damaged
  | quarantine
  deriving DecidableEq

/-- `ReplenishmentSourceCandidate`. -/
structure ReplenishmentSourceCandidate where
  /-- The tenant. -/
  tenantId : ℤ
  /-- Whose goods they are. -/
  inventoryOwnerId : ℤ
  /-- The facility. -/
  facilityId : ℤ
  /-- Where they are. -/
  sourceLocationId : ℤ
  /-- The balance. -/
  sourceInventoryBalanceId : ℤ
  /-- The batch. -/
  itemBatchId : ℤ
  /-- The item. -/
  itemId : ℤ
  /-- The unit. -/
  uom : String
  /-- The lot. -/
  lot : Option String
  /-- The serial number. -/
  serial : Option String
  /-- When they expire. -/
  expiration : Option DateTime
  /-- When they were received. -/
  receivedAt : DateTime
  /-- Whether they can be used. -/
  inventoryStatus : ReplenishmentInventoryStatus
  /-- How many are free. -/
  freeQuantity : ReplenishmentLevel

/-- `ReplenishmentSourceIneligibility`. -/
inductive ReplenishmentSourceIneligibility where
  | tenantMismatch
  | inventoryOwnerMismatch
  | facilityMismatch
  | sourceIsDestinationPickFace
  | sourceNotConfigured
  | itemMismatch
  | uomMismatch
  | inventoryNotAvailable
  | noFreeQuantity

/-- `ReplenishmentError`, as the planner uses it. -/
inductive ReplenishmentError where
  /-- What is at the pick face and on the way there is too much for an `i64`. -/
  | projectedFreeOverflow
  /-- A balance comes more than once. -/
  | duplicateSourceBalance (inventoryBalanceId : ℤ)
  /-- The moves cannot be numbered. -/
  | tooManySourceBalances
  /-- The balances do not hold what was decided. -/
  | reserveSnapshotMismatch (unplannedQuantity : ℤ)
  deriving DecidableEq

section Eligibility

/-- Why the policy does not admit a candidate. -/
def rejection (policy : ReplenishmentPolicyDefinition)
    (candidate : ReplenishmentSourceCandidate) : Option ReplenishmentSourceIneligibility :=
  if candidate.tenantId ≠ policy.scope.tenantId then some .tenantMismatch
  else if candidate.inventoryOwnerId ≠ policy.scope.inventoryOwnerId then
    some .inventoryOwnerMismatch
  else if candidate.facilityId ≠ policy.scope.facilityId then some .facilityMismatch
  else if candidate.sourceLocationId = policy.scope.pickFaceLocationId then
    some .sourceIsDestinationPickFace
  else if ¬policy.reserveSourceLocationIds.contains candidate.sourceLocationId then
    some .sourceNotConfigured
  else if candidate.itemId ≠ policy.scope.itemId then some .itemMismatch
  else if candidate.uom ≠ policy.scope.uom then some .uomMismatch
  else if candidate.inventoryStatus ≠ .available then some .inventoryNotAvailable
  else if candidate.freeQuantity = .zero then some .noFreeQuantity
  else none

/-- What an admitted candidate is. -/
structure Admitted (policy : ReplenishmentPolicyDefinition)
    (candidate : ReplenishmentSourceCandidate) : Prop where
  /-- The tenant is the same. -/
  tenant : candidate.tenantId = policy.scope.tenantId
  /-- The owner is the same. -/
  owner : candidate.inventoryOwnerId = policy.scope.inventoryOwnerId
  /-- The facility is the same. -/
  facility : candidate.facilityId = policy.scope.facilityId
  /-- It is not the pick face. -/
  elsewhere : candidate.sourceLocationId ≠ policy.scope.pickFaceLocationId
  /-- It is a reserve. -/
  configured : candidate.sourceLocationId ∈ policy.reserveSourceLocationIds.ids
  /-- The item is the same. -/
  item : candidate.itemId = policy.scope.itemId
  /-- The unit is the same. -/
  uom : candidate.uom = policy.scope.uom
  /-- The goods can be used. -/
  available : candidate.inventoryStatus = .available
  /-- Some are free. -/
  free : 0 < candidate.freeQuantity.value

theorem ReplenishmentLevel.pos_of_ne_zero {level : ReplenishmentLevel} (h : level ≠ .zero) :
    0 < level.value := by
  refine lt_of_le_of_ne level.nonNegative fun hzero => h ?_
  cases level
  cases hzero
  rfl

variable {policy : ReplenishmentPolicyDefinition} {candidate : ReplenishmentSourceCandidate}

theorem rejection_eq_none : rejection policy candidate = none ↔ Admitted policy candidate := by
  unfold rejection
  constructor
  · intro h
    split_ifs at h with htenant howner hfacility hface hconfigured hitem huom hstatus hfree
    rw [not_not] at htenant howner hfacility hitem huom hstatus
    exact ⟨htenant, howner, hfacility, hface, List.contains_iff_mem.mp hconfigured, hitem, huom,
      hstatus, ReplenishmentLevel.pos_of_ne_zero hfree⟩
  · rintro ⟨htenant, howner, hfacility, hface, hconfigured, hitem, huom, hstatus, hfree⟩
    have hcontains :
        policy.reserveSourceLocationIds.contains candidate.sourceLocationId = true :=
      List.contains_iff_mem.mpr hconfigured
    have hpositive : candidate.freeQuantity ≠ .zero := by
      intro hzero
      rw [hzero] at hfree
      exact lt_irrefl _ hfree
    simp [htenant, howner, hfacility, hface, hcontains, hitem, huom, hstatus, hpositive]

/-- `EligibleReplenishmentSource`: a candidate that some policy admits. -/
structure EligibleReplenishmentSource where
  /-- The balance. -/
  candidate : ReplenishmentSourceCandidate
  /-- Some are free. -/
  free : 0 < candidate.freeQuantity.value

/-- `ReplenishmentSourceEligibility`. -/
inductive ReplenishmentSourceEligibility where
  | eligible (source : EligibleReplenishmentSource)
  | ineligible (reason : ReplenishmentSourceIneligibility)

/-- `assess_replenishment_source`. -/
def assessReplenishmentSource (policy : ReplenishmentPolicyDefinition)
    (candidate : ReplenishmentSourceCandidate) : ReplenishmentSourceEligibility :=
  match h : rejection policy candidate with
  | some reason => .ineligible reason
  | none => .eligible ⟨candidate, (rejection_eq_none.mp h).free⟩

/-- The source of a candidate that the policy admits. -/
def eligible? (policy : ReplenishmentPolicyDefinition)
    (candidate : ReplenishmentSourceCandidate) : Option EligibleReplenishmentSource :=
  match assessReplenishmentSource policy candidate with
  | .eligible source => some source
  | .ineligible _ => none

/-- The candidates that the policy admits. -/
def eligibleSources (policy : ReplenishmentPolicyDefinition)
    (candidates : List ReplenishmentSourceCandidate) : List EligibleReplenishmentSource :=
  candidates.filterMap (eligible? policy)

/-- The source of a candidate is the candidate, and the policy admits it. -/
theorem eligible?_eq_some {source : EligibleReplenishmentSource} :
    eligible? policy candidate = some source ↔
      source.candidate = candidate ∧ Admitted policy candidate := by
  unfold eligible? assessReplenishmentSource
  constructor
  · intro h
    split at h
    · rename_i hassess
      split at hassess
      · cases hassess
      · rename_i hnone
        cases hassess
        cases h
        exact ⟨rfl, rejection_eq_none.mp hnone⟩
    · cases h
  · rintro ⟨rfl, hadmitted⟩
    have hnone := rejection_eq_none.mpr hadmitted
    split
    · rename_i hassess
      split at hassess
      · rename_i hsome
        rw [hnone] at hsome
        cases hsome
      · cases hassess
        rfl
    · rename_i hassess
      split at hassess
      · rename_i hsome
        rw [hnone] at hsome
        cases hsome
      · cases hassess

/-- Sources of candidates with different balances have different balances. -/
theorem nodup_eligibleSources {candidates : List ReplenishmentSourceCandidate}
    (hdistinct : (candidates.map (·.sourceInventoryBalanceId)).Nodup) :
    ((eligibleSources policy candidates).map
      (·.candidate.sourceInventoryBalanceId)).Nodup := by
  unfold eligibleSources
  induction candidates with
  | nil => exact List.nodup_nil
  | cons candidate rest ih =>
    rw [List.map_cons, List.nodup_cons] at hdistinct
    cases hsource : eligible? policy candidate with
    | none =>
      rw [List.filterMap_cons_none hsource]
      exact ih hdistinct.2
    | some =>
      rw [List.filterMap_cons_some hsource, List.map_cons, List.nodup_cons]
      refine ⟨fun hmem => ?_, ih hdistinct.2⟩
      obtain ⟨other, hother, hbalance⟩ := List.mem_map.mp hmem
      obtain ⟨origin, horigin, hsome⟩ := List.mem_filterMap.mp hother
      rw [(eligible?_eq_some.mp hsome).1, (eligible?_eq_some.mp hsource).1] at hbalance
      exact hdistinct.1 (List.mem_map.mpr ⟨origin, horigin, hbalance⟩)

end Eligibility

section Decision

/-- `ReplenishmentPlanningSnapshot`. -/
structure ReplenishmentPlanningSnapshot where
  /-- What is there. -/
  pickFaceFree : ReplenishmentLevel
  /-- What is on the way there. -/
  activeInbound : ReplenishmentLevel
  /-- What will be there. -/
  projectedFree : ReplenishmentLevel
  /-- What orders wait for. -/
  unallocatedDemand : ReplenishmentLevel
  /-- What is in reserve. -/
  reserveFree : ReplenishmentLevel
  /-- It is the sum. -/
  projected : projectedFree.value = pickFaceFree.value + activeInbound.value

/-- `ReplenishmentPlanningSnapshot::new`. -/
def ReplenishmentPlanningSnapshot.new
    (pickFaceFree activeInbound unallocatedDemand reserveFree : ReplenishmentLevel) :
    Except ReplenishmentError ReplenishmentPlanningSnapshot :=
  if h : pickFaceFree.value + activeInbound.value ≤ maxI64 then
    .ok {
      pickFaceFree := pickFaceFree
      activeInbound := activeInbound
      projectedFree := ⟨pickFaceFree.value + activeInbound.value,
        add_nonneg pickFaceFree.nonNegative activeInbound.nonNegative, h⟩
      unallocatedDemand := unallocatedDemand
      reserveFree := reserveFree
      projected := rfl }
  else .error .projectedFreeOverflow

/-- `ReplenishmentPlanningOutcome`. -/
inductive ReplenishmentPlanningOutcome where
  | notNeeded
  | insufficientReserve
  | partiallyPlanned
  | fullyPlanned
  deriving DecidableEq

/-- `ReplenishmentPlanDecision`. -/
structure ReplenishmentPlanDecision where
  /-- What the decision is based on. -/
  snapshot : ReplenishmentPlanningSnapshot
  /-- What should be at the pick face. -/
  requiredLevel : ReplenishmentLevel
  /-- How much is missing. -/
  targetGap : ReplenishmentLevel
  /-- How much is moved. -/
  planned : ReplenishmentLevel
  /-- How much is missing after that. -/
  remaining : ReplenishmentLevel
  /-- How far the need is met. -/
  outcome : ReplenishmentPlanningOutcome

/-- The larger of two levels. -/
def ReplenishmentLevel.max (first second : ReplenishmentLevel) : ReplenishmentLevel :=
  if first.value ≤ second.value then second else first

/-- The smaller of two levels. -/
def ReplenishmentLevel.min (first second : ReplenishmentLevel) : ReplenishmentLevel :=
  if first.value ≤ second.value then first else second

/-- The difference of two levels. It neither wraps nor saturates when the second one is not
larger. -/
def ReplenishmentLevel.minus (first second : ReplenishmentLevel)
    (h : second.value ≤ first.value) : ReplenishmentLevel :=
  ⟨first.value - second.value, sub_nonneg.mpr h,
    (sub_le_self _ second.nonNegative).trans first.fits⟩

theorem ReplenishmentLevel.value_max (first second : ReplenishmentLevel) :
    (first.max second).value = Max.max first.value second.value := by
  unfold ReplenishmentLevel.max
  split_ifs with h
  · exact (max_eq_right h).symm
  · exact (max_eq_left (le_of_not_ge h)).symm

theorem ReplenishmentLevel.value_min (first second : ReplenishmentLevel) :
    (first.min second).value = Min.min first.value second.value := by
  unfold ReplenishmentLevel.min
  split_ifs with h
  · exact (min_eq_left h).symm
  · exact (min_eq_right (le_of_not_ge h)).symm

/-- A move is needed. -/
def actionable (thresholds : ReplenishmentPolicyThresholds)
    (snapshot : ReplenishmentPlanningSnapshot) : Prop :=
  snapshot.projectedFree.value < thresholds.minimum.value ∨
    snapshot.projectedFree.value < snapshot.unallocatedDemand.value

instance (thresholds : ReplenishmentPolicyThresholds)
    (snapshot : ReplenishmentPlanningSnapshot) : Decidable (actionable thresholds snapshot) :=
  inferInstanceAs (Decidable (_ ∨ _))

/-- What should be at the pick face. -/
def requiredLevel (thresholds : ReplenishmentPolicyThresholds)
    (snapshot : ReplenishmentPlanningSnapshot) : ReplenishmentLevel :=
  thresholds.target.max snapshot.unallocatedDemand

/-- When a move is needed, less is there than should be. -/
theorem projectedFree_lt_required {thresholds : ReplenishmentPolicyThresholds}
    {snapshot : ReplenishmentPlanningSnapshot} (h : actionable thresholds snapshot) :
    snapshot.projectedFree.value < (requiredLevel thresholds snapshot).value := by
  have habove := thresholds.targetAboveMinimum
  unfold requiredLevel
  rw [ReplenishmentLevel.value_max]
  rcases h with h | h
  · exact lt_max_of_lt_left (h.trans habove)
  · exact lt_max_of_lt_right h

/-- How much is missing. -/
def targetGap (thresholds : ReplenishmentPolicyThresholds)
    (snapshot : ReplenishmentPlanningSnapshot) : ReplenishmentLevel :=
  if h : actionable thresholds snapshot then
    (requiredLevel thresholds snapshot).minus snapshot.projectedFree
      (projectedFree_lt_required h).le
  else .zero

theorem min_le_level (first second : ReplenishmentLevel) :
    (first.min second).value ≤ first.value := by
  rw [ReplenishmentLevel.value_min]
  exact min_le_left _ _

/-- `plan_replenishment`. -/
def planReplenishment (thresholds : ReplenishmentPolicyThresholds)
    (snapshot : ReplenishmentPlanningSnapshot) : ReplenishmentPlanDecision :=
  let targetGap := targetGap thresholds snapshot
  let planned := targetGap.min snapshot.reserveFree
  { snapshot := snapshot
    requiredLevel := requiredLevel thresholds snapshot
    targetGap := targetGap
    planned := planned
    remaining := targetGap.minus planned (min_le_level targetGap snapshot.reserveFree)
    outcome :=
      if ¬actionable thresholds snapshot then .notNeeded
      else if planned = .zero then .insufficientReserve
      else if planned.value < targetGap.value then .partiallyPlanned
      else .fullyPlanned }

end Decision

section Selection

/-- `PlannedReplenishmentSource`. -/
structure PlannedReplenishmentSource where
  /-- The number of the move, from one. -/
  sequence : ℕ
  /-- The balance. -/
  sourceInventoryBalanceId : ℤ
  /-- The batch. -/
  itemBatchId : ℤ
  /-- Where they are. -/
  sourceLocationId : ℤ
  /-- The lot. -/
  lot : Option String
  /-- The serial number. -/
  serial : Option String
  /-- When they expire. -/
  expiration : Option DateTime
  /-- When they were received. -/
  receivedAt : DateTime
  /-- How many are moved. -/
  quantity : ReplenishmentMoveQuantity
  deriving DecidableEq

/-- `compare_eligible_sources`. -/
def compareEligibleSources (left right : EligibleReplenishmentSource) : Ordering :=
  (compareMissingLast (left.candidate.expiration.map DateTime.nanos)
    (right.candidate.expiration.map DateTime.nanos)).then
    ((compare left.candidate.receivedAt.nanos right.candidate.receivedAt.nanos).then
      (compare left.candidate.sourceInventoryBalanceId
        right.candidate.sourceInventoryBalanceId))

/-- The rank of a source: its expiry, with none last, then the time of its receipt, then its
balance. -/
def fefoKey (source : EligibleReplenishmentSource) : WithTop ℤ ×ₗ ℤ ×ₗ ℤ :=
  toLex (rank (source.candidate.expiration.map DateTime.nanos),
    toLex (source.candidate.receivedAt.nanos, source.candidate.sourceInventoryBalanceId))

theorem compareEligibleSources_ranks : Ranks compareEligibleSources fefoKey :=
  fun _ _ => compareMissingLast_then_ne_gt compare_then_ne_gt

/-- What a source has. -/
def freeQuantity (source : EligibleReplenishmentSource) : ℕ+ :=
  ⟨source.candidate.freeQuantity.value.toNat, Int.pos_iff_toNat_pos.mp source.free⟩

theorem freeQuantity_value (source : EligibleReplenishmentSource) :
    ((freeQuantity source : ℕ) : ℤ) = source.candidate.freeQuantity.value :=
  Int.toNat_of_nonneg source.free.le

/-- What the plan says about a pick. -/
def plannedSource (sequence : ℕ) (pick : Pick freeQuantity) : PlannedReplenishmentSource :=
  { sequence := sequence
    sourceInventoryBalanceId := pick.item.candidate.sourceInventoryBalanceId
    itemBatchId := pick.item.candidate.itemBatchId
    sourceLocationId := pick.item.candidate.sourceLocationId
    lot := pick.item.candidate.lot
    serial := pick.item.candidate.serial
    expiration := pick.item.candidate.expiration
    receivedAt := pick.item.candidate.receivedAt
    quantity := ⟨(pick.quantity : ℕ), Int.natCast_pos.mpr pick.quantity.pos,
      ((Int.ofNat_le.mpr ((PNat.coe_le_coe _ _).mpr pick.within)).trans_eq
        (freeQuantity_value pick.item)).trans pick.item.candidate.freeQuantity.fits⟩ }

/-- Number the moves after some. -/
def planSources : ℕ → List (Pick freeQuantity) →
    Except ReplenishmentError (List PlannedReplenishmentSource)
  | _, [] => .ok []
  | count, pick :: rest =>
    if maxU32 < count + 1 then .error .tooManySourceBalances
    else do
      let others ← planSources (count + 1) rest
      return plannedSource (count + 1) pick :: others

/-- `select_replenishment_sources`. -/
def selectReplenishmentSources (decision : ReplenishmentPlanDecision)
    (sources : List EligibleReplenishmentSource) :
    Except ReplenishmentError (List PlannedReplenishmentSource) :=
  if decision.planned = .zero then .ok []
  else
    match firstDuplicate (fun source : EligibleReplenishmentSource =>
        source.candidate.sourceInventoryBalanceId) [] sources with
    | some inventoryBalanceId => .error (.duplicateSourceBalance inventoryBalanceId)
    | none => do
      let ordered := sortBy compareEligibleSources sources
      let planned ← planSources 0 (picks freeQuantity decision.planned.value.toNat ordered)
      let remaining := leftOver freeQuantity decision.planned.value.toNat ordered
      if remaining ≠ 0 then .error (.reserveSnapshotMismatch remaining)
      else .ok planned

variable {taken : List (Pick freeQuantity)} {count : ℕ}

/-- Moves that can be numbered are numbered from the count on. -/
theorem planSources_ok (h : count + taken.length ≤ maxU32) :
    planSources count taken =
      .ok ((taken.zipIdx (count + 1)).map fun pick => plannedSource pick.2 pick.1) := by
  induction taken generalizing count with
  | nil => rfl
  | cons pick rest ih =>
    rw [List.length_cons] at h
    have hrest := ih (show count + 1 + rest.length ≤ maxU32 by omega)
    rw [planSources, if_neg (by omega), hrest]
    rfl

theorem planSources_error (hcount : count ≤ maxU32) (h : maxU32 < count + taken.length) :
    planSources count taken = .error .tooManySourceBalances := by
  induction taken generalizing count with
  | nil =>
    rw [List.length_nil] at h
    omega
  | cons pick rest ih =>
    rw [planSources]
    split_ifs with hlast
    · rfl
    · rw [List.length_cons] at h
      rw [ih (show count + 1 ≤ maxU32 by omega) (by omega)]
      rfl

end Selection

end Wareboxes.ReplenishmentPlanning
