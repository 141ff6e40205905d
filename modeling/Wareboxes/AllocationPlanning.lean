import Wareboxes.RankedPicks
import Wareboxes.RustTime

/-!
# Allocation planning

A demand is allocated to inventory balances in the order of a rotation strategy: by the time of
their receipt, or by their expiry and then the time of their receipt. The planner refuses a
balance that comes twice, and a demand that the balances do not cover is a shortage and not an
error. The plan is a plan of greatest use: it takes the balances in order, each in full but the
last.
-/

namespace Wareboxes.AllocationPlanning

open RankedPicks RustTime

/-- `AllocationStrategy`. -/
inductive AllocationStrategy where
  /-- The oldest receipt first, whatever the expiry. -/
  | fifo
  /-- The earliest expiry first, then the oldest receipt. -/
  | fefo

/-- `AllocationQuantity`: a positive `i64`. -/
structure AllocationQuantity where
  value : ℕ
  /-- Nothing is not a quantity. -/
  positive : 0 < value
  /-- It fits the column. -/
  fits : (value : ℤ) ≤ maxI64

/-- `AllocationCandidate`. -/
structure AllocationCandidate where
  inventoryBalanceId : ℤ
  itemBatchId : ℤ
  locationId : ℤ
  licensePlateId : Option ℤ
  lot : Option String
  serial : Option String
  expiration : Option DateTime
  receivedAt : DateTime
  availableQuantity : AllocationQuantity

/-- `PlannedAllocation`. -/
structure PlannedAllocation where
  inventoryBalanceId : ℤ
  itemBatchId : ℤ
  locationId : ℤ
  licensePlateId : Option ℤ
  lot : Option String
  serial : Option String
  expiration : Option DateTime
  quantity : AllocationQuantity

/-- `AllocationOutcome`. -/
inductive AllocationOutcome where
  | fullyAllocated
  | partiallyAllocated
  | notAllocated

/-- `AllocationShortageReason`. -/
inductive AllocationShortageReason where
  | noEligibleInventory
  | insufficientEligibleInventory

/-- `AllocationPlan`. -/
structure AllocationPlan where
  demandQuantity : AllocationQuantity
  allocatedQuantity : ℤ
  shortageQuantity : ℤ
  /-- How far the demand is met. -/
  outcome : AllocationOutcome
  shortageReason : Option AllocationShortageReason
  /-- What is taken, in the order of the strategy. -/
  allocations : List PlannedAllocation

/-- `AllocationPlanError`, as the planner uses it. -/
inductive AllocationPlanError where
  /-- A balance comes more than once. -/
  | duplicateInventoryBalance (inventoryBalanceId : ℤ)
  deriving DecidableEq

section Order

/-- `compare_expiration`. -/
def compareExpiration (left right : Option DateTime) : Ordering :=
  compareMissingLast (left.map DateTime.nanos) (right.map DateTime.nanos)

/-- `compare_fifo_candidates`. -/
def compareFifoCandidates (left right : AllocationCandidate) : Ordering :=
  (compare left.receivedAt.nanos right.receivedAt.nanos).then
    (compare left.inventoryBalanceId right.inventoryBalanceId)

/-- `compare_fefo_candidates`. -/
def compareFefoCandidates (left right : AllocationCandidate) : Ordering :=
  (compareExpiration left.expiration right.expiration).then
    ((compare left.receivedAt.nanos right.receivedAt.nanos).then
      (compare left.inventoryBalanceId right.inventoryBalanceId))

/-- `compare_candidates`. -/
def compareCandidates (strategy : AllocationStrategy) (left right : AllocationCandidate) :
    Ordering :=
  match strategy with
  | .fifo => compareFifoCandidates left right
  | .fefo => compareFefoCandidates left right

/-- The rank of a candidate: its expiry when the strategy looks at it, with none last, then the
time of its receipt, then its balance. -/
def rotationKey (strategy : AllocationStrategy) (candidate : AllocationCandidate) :
    WithTop ℤ ×ₗ ℤ ×ₗ ℤ :=
  match strategy with
  | .fifo => toLex (⊤, toLex (candidate.receivedAt.nanos, candidate.inventoryBalanceId))
  | .fefo => toLex (rank (candidate.expiration.map DateTime.nanos),
      toLex (candidate.receivedAt.nanos, candidate.inventoryBalanceId))

/-- The candidate does not come after the other one. -/
def Precedes (strategy : AllocationStrategy) (left right : AllocationCandidate) : Prop :=
  rotationKey strategy left ≤ rotationKey strategy right

variable {strategy : AllocationStrategy}

theorem compareCandidates_ranks : Ranks (compareCandidates strategy) (rotationKey strategy) := by
  intro left right
  cases strategy with
  | fifo =>
    unfold compareCandidates rotationKey compareFifoCandidates
    rw [compare_then_ne_gt]
    simp only [Prod.Lex.toLex_le_toLex, lt_irrefl, false_or, true_and]
  | fefo => exact compareMissingLast_then_ne_gt compare_then_ne_gt

/-- Candidates with different balances have different ranks. -/
theorem nodup_rotationKey {candidates : List AllocationCandidate}
    (hdistinct : (candidates.map (·.inventoryBalanceId)).Nodup) :
    (candidates.map (rotationKey strategy)).Nodup := by
  refine List.Nodup.of_map (fun key => (ofLex (ofLex key).2).2) ?_
  rw [List.map_map]
  have hbalance : (fun key : WithTop ℤ ×ₗ ℤ ×ₗ ℤ => (ofLex (ofLex key).2).2) ∘
      rotationKey strategy = (·.inventoryBalanceId) := by
    cases strategy <;> rfl
  rw [hbalance]
  exact hdistinct

end Order

section Plan

/-- What a candidate has. -/
def availability (candidate : AllocationCandidate) : ℕ+ :=
  ⟨candidate.availableQuantity.value, candidate.availableQuantity.positive⟩

/-- What the plan says about a pick. -/
def plannedAllocation (pick : Pick availability) : PlannedAllocation :=
  { inventoryBalanceId := pick.item.inventoryBalanceId
    itemBatchId := pick.item.itemBatchId
    locationId := pick.item.locationId
    licensePlateId := pick.item.licensePlateId
    lot := pick.item.lot
    serial := pick.item.serial
    expiration := pick.item.expiration
    quantity := ⟨pick.quantity, pick.quantity.pos,
      (Int.ofNat_le.mpr ((PNat.coe_le_coe _ _).mpr pick.within)).trans
        pick.item.availableQuantity.fits⟩ }

/-- How far the demand is met, and why not further. -/
def planOutcome (allocated remaining : ℤ) :
    AllocationOutcome × Option AllocationShortageReason :=
  if remaining = 0 then (.fullyAllocated, none)
  else if allocated = 0 then (.notAllocated, some .noEligibleInventory)
  else (.partiallyAllocated, some .insufficientEligibleInventory)

/-- The plan for candidates that stand in order. -/
def planInOrder (demandQuantity : AllocationQuantity) (ordered : List AllocationCandidate) :
    AllocationPlan :=
  let remaining := leftOver availability demandQuantity.value ordered
  let allocatedQuantity : ℤ := demandQuantity.value - remaining
  let outcome := planOutcome allocatedQuantity remaining
  { demandQuantity := demandQuantity
    allocatedQuantity := allocatedQuantity
    shortageQuantity := remaining
    outcome := outcome.1
    shortageReason := outcome.2
    allocations := (picks availability demandQuantity.value ordered).map plannedAllocation }

/-- `plan_allocation`. -/
def planAllocation (strategy : AllocationStrategy) (demandQuantity : AllocationQuantity)
    (candidates : List AllocationCandidate) : Except AllocationPlanError AllocationPlan :=
  match firstDuplicate AllocationCandidate.inventoryBalanceId [] candidates with
  | some inventoryBalanceId => .error (.duplicateInventoryBalance inventoryBalanceId)
  | none => .ok (planInOrder demandQuantity (sortBy (compareCandidates strategy) candidates))

end Plan

section Correctness

/-- Everything that the candidates have, over the integers. -/
def totalAvailability (candidates : List AllocationCandidate) : ℤ :=
  (candidates.map fun candidate => (candidate.availableQuantity.value : ℤ)).sum

/-- The plan takes a candidate for its quantity. -/
def Takes (allocation : PlannedAllocation) (candidate : AllocationCandidate) : Prop :=
  allocation = { allocation with
    inventoryBalanceId := candidate.inventoryBalanceId
    itemBatchId := candidate.itemBatchId
    locationId := candidate.locationId
    licensePlateId := candidate.licensePlateId
    lot := candidate.lot
    serial := candidate.serial
    expiration := candidate.expiration } ∧
    0 < allocation.quantity.value ∧
    allocation.quantity.value ≤ candidate.availableQuantity.value

/-- A plan is correct for a demand and candidates. -/
structure CorrectPlan (strategy : AllocationStrategy) (demand : AllocationQuantity)
    (candidates : List AllocationCandidate) (plan : AllocationPlan) : Prop where
  /-- It takes the candidates in the order of the strategy, each in full but the last. -/
  rotation : ∃ ordered taken, ordered.Perm candidates ∧ ordered.Pairwise (Precedes strategy) ∧
    taken <+: ordered ∧ List.Forall₂ Takes plan.allocations taken ∧
    List.Forall₂ (fun allocation candidate => allocation.quantity = candidate.availableQuantity)
      plan.allocations.dropLast taken.dropLast
  /-- The quantities add up. -/
  sum : (plan.allocations.map fun allocation => (allocation.quantity.value : ℤ)).sum =
    plan.allocatedQuantity
  /-- As much is allocated as is there and needed. -/
  greatest : plan.allocatedQuantity = min (demand.value : ℤ) (totalAvailability candidates)
  /-- What is allocated and what is missing make up the demand. -/
  conserved : plan.allocatedQuantity + plan.shortageQuantity = demand.value
  /-- The plan is of the demand. -/
  demanded : plan.demandQuantity = demand
  /-- Nothing is missing from a full allocation, and only from that. -/
  full : plan.outcome = .fullyAllocated ↔ plan.shortageQuantity = 0
  /-- Nothing is allocated otherwise, or something. -/
  absent : plan.outcome = .notAllocated ↔ plan.allocatedQuantity = 0
  /-- A reason stands where something is short. -/
  reason : plan.shortageReason = match plan.outcome with
    | .fullyAllocated => none
    | .notAllocated => some .noEligibleInventory
    | .partiallyAllocated => some .insufficientEligibleInventory

variable {candidates : List AllocationCandidate}

theorem supply_eq {ordered : List AllocationCandidate} (h : List.Perm ordered candidates) :
    (supply availability ordered : ℤ) = totalAvailability candidates := by
  unfold supply totalAvailability
  rw [Nat.cast_list_sum, List.map_map]
  exact (h.map _).sum_eq

variable {pick : Pick availability} {taken : List (Pick availability)} {remaining : ℕ}
  {ordered : List AllocationCandidate} {strategy : AllocationStrategy} {demand : AllocationQuantity}

theorem takes_plannedAllocation : Takes (plannedAllocation pick) pick.item :=
  ⟨rfl, pick.quantity.pos, (PNat.coe_le_coe _ _).mpr pick.within⟩

theorem forall₂_takes : List.Forall₂ Takes (taken.map plannedAllocation) (taken.map Pick.item) := by
  rw [List.forall₂_map_left_iff, List.forall₂_map_right_iff, List.forall₂_same]
  exact fun pick _ => takes_plannedAllocation

/-- The picks but the last take their candidates in full. -/
theorem forall₂_full :
    List.Forall₂ (fun allocation candidate => allocation.quantity = candidate.availableQuantity)
      ((picks availability remaining ordered).map plannedAllocation).dropLast
      ((picks availability remaining ordered).map Pick.item).dropLast := by
  rw [← List.map_dropLast, ← List.map_dropLast, List.forall₂_map_left_iff,
    List.forall₂_map_right_iff, List.forall₂_same]
  intro pick hpick
  have hfull := congrArg PNat.val (picks_full remaining ordered pick hpick)
  change AllocationQuantity.mk _ _ _ = _
  rw [AllocationQuantity.mk.injEq]
  exact hfull

theorem sum_plannedAllocation :
    ((taken.map plannedAllocation).map fun allocation => (allocation.quantity.value : ℤ)).sum =
      (total taken : ℤ) := by
  unfold total
  rw [Nat.cast_list_sum, List.map_map, List.map_map]
  rfl

/-- The outcome of a plan fits its numbers. -/
theorem planOutcome_cases {allocated remaining : ℤ} (hpositive : 0 < allocated + remaining) :
    ((planOutcome allocated remaining).1 = .fullyAllocated ↔ remaining = 0) ∧
      ((planOutcome allocated remaining).1 = .notAllocated ↔ allocated = 0) ∧
      (planOutcome allocated remaining).2 = match (planOutcome allocated remaining).1 with
        | .fullyAllocated => none
        | .notAllocated => some .noEligibleInventory
        | .partiallyAllocated => some .insufficientEligibleInventory := by
  unfold planOutcome
  split_ifs with hfull hnone
  · refine ⟨by simp [hfull], ?_, rfl⟩
    simp only [false_iff]
    omega
  · exact ⟨by simp [hfull], by simp [hnone], rfl⟩
  · exact ⟨by simp [hfull], by simp [hnone], rfl⟩

theorem allocatedQuantity_eq (demand : AllocationQuantity) (ordered : List AllocationCandidate) :
    (planInOrder demand ordered).allocatedQuantity =
      total (picks availability demand.value ordered) := by
  have hsum : total (picks availability demand.value ordered) +
      leftOver availability demand.value ordered = demand.value :=
    total_add_leftOver demand.value ordered
  change (demand.value : ℤ) - leftOver availability demand.value ordered = _
  omega

/-- Candidates with different balances are planned in order. -/
theorem planAllocation_eq (hdistinct : (candidates.map (·.inventoryBalanceId)).Nodup) :
    planAllocation strategy demand candidates =
      .ok (planInOrder demand (sortBy (compareCandidates strategy) candidates)) := by
  have hnone : firstDuplicate AllocationCandidate.inventoryBalanceId [] candidates = none :=
    (firstDuplicate_eq_none _).mpr ⟨fun _ _ => List.not_mem_nil, hdistinct⟩
  unfold planAllocation
  rw [hnone]

/-- A plan in the order of the strategy is correct. -/
theorem planInOrder_correct :
    CorrectPlan strategy demand candidates
      (planInOrder demand (sortBy (compareCandidates strategy) candidates)) := by
  have hperm := sortBy_perm (compareCandidates strategy) candidates
  have hallocated := allocatedQuantity_eq demand (sortBy (compareCandidates strategy) candidates)
  have hconserved : (planInOrder demand
        (sortBy (compareCandidates strategy) candidates)).allocatedQuantity +
      (planInOrder demand (sortBy (compareCandidates strategy) candidates)).shortageQuantity =
      demand.value :=
    sub_add_cancel _ _
  have houtcome := planOutcome_cases (hconserved.symm ▸ Int.natCast_pos.mpr demand.positive)
  exact
    { rotation := ⟨sortBy (compareCandidates strategy) candidates, _, hperm,
        sortBy_pairwise compareCandidates_ranks candidates, picks_items _ _,
        forall₂_takes, forall₂_full⟩
      sum := by
        rw [hallocated]
        exact sum_plannedAllocation
      greatest := by
        rw [hallocated, total_picks, Nat.cast_min, supply_eq hperm]
      conserved := hconserved
      demanded := rfl
      full := houtcome.1
      absent := houtcome.2.1
      reason := houtcome.2.2 }

/-- Every demand on candidates with different balances gets a correct plan, the same one in
whatever order the candidates come. -/
theorem plan_is_correct (strategy : AllocationStrategy) (demand : AllocationQuantity)
    (candidates : List AllocationCandidate)
    (hdistinct : (candidates.map (·.inventoryBalanceId)).Nodup) :
    ∃ plan, planAllocation strategy demand candidates = .ok plan ∧
      CorrectPlan strategy demand candidates plan ∧
      ∀ candidates', List.Perm candidates' candidates →
        planAllocation strategy demand candidates' = .ok plan := by
  refine ⟨_, planAllocation_eq hdistinct,
    planInOrder_correct, fun candidates' hperm => ?_⟩
  have hdistinct' : (candidates'.map (·.inventoryBalanceId)).Nodup :=
    (hperm.map _).nodup_iff.mpr hdistinct
  rw [planAllocation_eq hdistinct',
    sortBy_eq_of_perm compareCandidates_ranks hperm
      (nodup_rotationKey hdistinct')]

end Correctness

section Stock

/-- The midnight of a day after the epoch, within the first hundred days. -/
def onDay (day : ℕ) : DateTime :=
  ⟨(day % 100 : ℕ) * 86400000000000, by
    unfold minSeconds
    omega, by
    unfold maxSeconds
    omega⟩

/-- A balance of five units. -/
def fiveUnits (balance : ℤ) (expiration : Option ℕ) (received : ℕ) : AllocationCandidate :=
  { inventoryBalanceId := balance
    itemBatchId := 1
    locationId := 1
    licensePlateId := none
    lot := none
    serial := none
    expiration := expiration.map onDay
    receivedAt := onDay received
    availableQuantity := ⟨5, by decide, by decide⟩ }

/-- Three balances, one of which does not expire. -/
def stock : List AllocationCandidate :=
  [fiveUnits 3 none 1, fiveUnits 1 (some 20) 3, fiveUnits 2 (some 10) 4]

/-- The balance that expires first is used in full, the next one for the rest, and the plan is
a correct one. -/
theorem expiring_stock_goes_first :
    ∃ plan, planAllocation .fefo ⟨9, by decide, by decide⟩ stock = .ok plan ∧
      (plan.allocations.map fun allocation =>
        (allocation.inventoryBalanceId, allocation.quantity.value)) = [(2, 5), (1, 4)] ∧
      CorrectPlan .fefo ⟨9, by decide, by decide⟩ stock plan := by
  obtain ⟨plan, hplan, hcorrect, _⟩ :=
    plan_is_correct .fefo ⟨9, by decide, by decide⟩ stock (by decide)
  refine ⟨plan, hplan, ?_, hcorrect⟩
  have heval : (planAllocation .fefo ⟨9, by decide, by decide⟩ stock).map (fun plan =>
      plan.allocations.map fun allocation =>
        (allocation.inventoryBalanceId, allocation.quantity.value)) =
      .ok [(2, 5), (1, 4)] := by
    decide +kernel
  rw [hplan] at heval
  exact Except.ok.inj heval

end Stock

end Wareboxes.AllocationPlanning
