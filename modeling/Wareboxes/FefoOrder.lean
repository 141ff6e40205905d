import Wareboxes.AllocationPlanning
import Wareboxes.ReplenishmentComposition

/-!
# One order of expiry

Allocation and replenishment compare stock by functions of their own, over records of their own.
Both functions read the same four data of a balance, and rank it in the same linear order. So
the two planners choose alike wherever both plan: replenishment refuses a quantity that the
balances do not hold, and more moves than it can number, where allocation plans what there is.
-/

namespace Wareboxes.FefoOrder

open AllocationPlanning ReplenishmentComposition ReplenishmentPlanning RankedPicks RustTime

/-- What both planners read of a balance. -/
structure Balance where
  id : ℤ
  expiration : Option DateTime
  receivedAt : DateTime
  /-- What can be taken from it. -/
  quantity : ℕ+

/-- The balance of an allocation candidate. -/
def ofCandidate (candidate : AllocationCandidate) : Balance :=
  ⟨candidate.inventoryBalanceId, candidate.expiration, candidate.receivedAt,
    availability candidate⟩

/-- The balance of a replenishment source. -/
def ofSource (source : EligibleReplenishmentSource) : Balance :=
  ⟨source.candidate.sourceInventoryBalanceId, source.candidate.expiration,
    source.candidate.receivedAt, freeQuantity source⟩

/-- The comparison that both planners make. -/
def compareBalances (left right : Balance) : Ordering :=
  (compareExpiration left.expiration right.expiration).then
    ((compare left.receivedAt.nanos right.receivedAt.nanos).then (compare left.id right.id))

/-- The rank of a balance. -/
def balanceKey (balance : Balance) : WithTop ℤ ×ₗ ℤ ×ₗ ℤ :=
  toLex (rank (balance.expiration.map DateTime.nanos),
    toLex (balance.receivedAt.nanos, balance.id))

/-- A comparison puts items with different ids in a strict total order. -/
structure StrictTotal {α : Type} (order : α → α → Ordering) (id : α → ℤ) : Prop where
  irrefl (item : α) : order item item ≠ .lt
  trans {first second third : α} (hfirst : order first second = .lt)
    (hsecond : order second third = .lt) : order first third = .lt
  total {left right : α} (h : id left ≠ id right) :
    order left right = .lt ∧ order right left = .gt ∨
      order left right = .gt ∧ order right left = .lt

theorem compareBalances_eq_lt {left right : Balance} :
    compareBalances left right = .lt ↔ balanceKey left < balanceKey right := by
  unfold compareBalances compareExpiration balanceKey
  rw [Ordering.then_eq_lt, Ordering.then_eq_lt, compareMissingLast_eq_lt,
    compareMissingLast_eq_eq, compare_lt_iff_lt, compare_lt_iff_lt, compare_eq_iff_eq,
    Prod.Lex.toLex_lt_toLex, Prod.Lex.toLex_lt_toLex]

theorem compareBalances_eq_gt {left right : Balance} :
    compareBalances left right = .gt ↔ balanceKey right < balanceKey left := by
  have hranks : compareBalances left right ≠ .gt ↔ balanceKey left ≤ balanceKey right :=
    compareMissingLast_then_ne_gt compare_then_ne_gt
  rw [← not_iff_not, not_lt]
  exact hranks

section

variable {α : Type} (balance : α → Balance)

/-- The comparison is a strict total order of whatever has a balance. -/
theorem strictTotal_compareBalances :
    StrictTotal (fun left right => compareBalances (balance left) (balance right))
      fun item => (balance item).id where
  irrefl _ h := lt_irrefl _ (compareBalances_eq_lt.mp h)
  trans hfirst hsecond := compareBalances_eq_lt.mpr
    ((compareBalances_eq_lt.mp hfirst).trans (compareBalances_eq_lt.mp hsecond))
  total {left right} h := by
    have hkeys : balanceKey (balance left) ≠ balanceKey (balance right) := fun hkeys =>
      h (congrArg (fun key => (ofLex (ofLex key).2).2) hkeys)
    simp only [compareBalances_eq_lt, compareBalances_eq_gt, and_self]
    exact lt_or_gt_of_ne hkeys

/-- The balances of a list, as a planner picks from them, and how much of each. -/
def chosen (quantity : ℕ) (items : List α) : List (ℤ × ℕ) :=
  (picks (fun item => (balance item).quantity) quantity items).map fun pick =>
    ((balance pick.item).id, pick.quantity)

/-- The choice depends on the balances only. -/
theorem chosen_map (quantity : ℕ) (items : List α) :
    chosen id quantity (items.map balance) = chosen balance quantity items := by
  unfold chosen
  induction items generalizing quantity with
  | nil => cases quantity <;> rfl
  | cons item rest ih =>
    cases quantity with
    | zero => rfl
    | succ quantity =>
      rw [List.map_cons, picks, picks, List.map_cons, List.map_cons]
      exact congrArg _ (ih _)

theorem map_sortBy (items : List α) :
    (sortBy (fun left right => compareBalances (balance left) (balance right)) items).map
      balance = sortBy compareBalances (items.map balance) :=
  List.map_insertionSort _ _ balance items fun _ _ _ _ => Iff.rfl

end

/-- The balances of an allocation and how much is taken of each. -/
def allocationChoice (plan : AllocationPlan) : List (ℤ × ℕ) :=
  plan.allocations.map fun allocation =>
    (allocation.inventoryBalanceId, allocation.quantity.value)

/-- The balances of some moves and how much is taken of each. -/
def moveChoice (planned : List PlannedReplenishmentSource) : List (ℤ × ℕ) :=
  planned.map fun move => (move.sourceInventoryBalanceId, move.quantity.value.toNat)

theorem moveChoice_numberedMoves (taken : List (Pick freeQuantity)) :
    moveChoice (numberedMoves taken) =
      taken.map fun pick => ((ofSource pick.item).id, (pick.quantity : ℕ)) := by
  unfold moveChoice numberedMoves
  rw [List.map_map, ← List.zipIdx_map_fst 1 taken, List.map_map, List.zipIdx_map_fst]
  rfl

/-- The choices of both planners from the same balances. -/
theorem chosen_sortBy {candidates : List AllocationCandidate}
    {sources : List EligibleReplenishmentSource}
    (hsame : candidates.map ofCandidate = sources.map ofSource) (quantity : ℕ) :
    chosen ofCandidate quantity (sortBy compareFefoCandidates candidates) =
      chosen ofSource quantity (sortBy compareEligibleSources sources) := by
  have hcandidates := map_sortBy ofCandidate candidates
  have hsources := map_sortBy ofSource sources
  rw [← hsame, ← hcandidates] at hsources
  rw [← chosen_map ofCandidate, ← chosen_map ofSource]
  exact congrArg (chosen id quantity) hsources.symm

/-- The picks of both planners from the same balances are as many and have as much in all. -/
theorem same_picks {candidates : List AllocationCandidate}
    {sources : List EligibleReplenishmentSource}
    (hsame : candidates.map ofCandidate = sources.map ofSource) (demand : AllocationQuantity) :
    (planInOrder demand (sortBy compareFefoCandidates candidates)).allocations.length =
        (picks freeQuantity demand.value (sortBy compareEligibleSources sources)).length ∧
      supply availability candidates = supply freeQuantity sources := by
  constructor
  · have hlengths := congrArg List.length (chosen_sortBy hsame demand.value)
    unfold chosen at hlengths
    rw [List.length_map, List.length_map] at hlengths
    exact (List.length_map _).trans hlengths
  · have hsupply := congrArg (List.map fun balance => (balance.quantity : ℕ)) hsame
    rw [List.map_map, List.map_map] at hsupply
    exact congrArg List.sum hsupply

/-- Both planners make one comparison, a strict total order of the balances. For the same
balances and quantity allocation plans what there is. Replenishment chooses alike when the
balances hold the quantity and the choice can be numbered, and refuses otherwise. -/
theorem planners_choose_alike :
    (∀ left right left' right', ofCandidate left = ofSource left' →
      ofCandidate right = ofSource right' →
      compareFefoCandidates left right = compareEligibleSources left' right') ∧
    StrictTotal compareFefoCandidates AllocationCandidate.inventoryBalanceId ∧
    StrictTotal compareEligibleSources (·.candidate.sourceInventoryBalanceId) ∧
    ∀ (demand : AllocationQuantity) (decision : ReplenishmentPlanDecision) candidates sources,
      decision.planned.value = demand.value →
      candidates.map ofCandidate = sources.map ofSource →
      (candidates.map (·.inventoryBalanceId)).Nodup →
      ∃ plan, planAllocation .fefo demand candidates = .ok plan ∧
        plan.allocatedQuantity = (min demand.value (supply freeQuantity sources) : ℕ) ∧
        if maxU32 < plan.allocations.length then
          selectReplenishmentSources decision sources = .error .tooManySourceBalances
        else if supply freeQuantity sources < demand.value then
          selectReplenishmentSources decision sources = .error (.reserveSnapshotMismatch
            (demand.value - supply freeQuantity sources : ℕ))
        else
          ∃ planned, selectReplenishmentSources decision sources = .ok planned ∧
            moveChoice planned = allocationChoice plan := by
  refine ⟨?_, strictTotal_compareBalances ofCandidate, strictTotal_compareBalances ofSource, ?_⟩
  · intro left right left' right' hleft hright
    change compareBalances (ofCandidate left) (ofCandidate right) = _
    rw [hleft, hright]
    rfl
  · intro demand decision candidates sources hquantity hsame hdistinct
    have hplanned : decision.planned.value.toNat = demand.value := by omega
    have hids : candidates.map (·.inventoryBalanceId) =
        sources.map (·.candidate.sourceInventoryBalanceId) := by
      have hids := congrArg (List.map Balance.id) hsame
      rw [List.map_map, List.map_map] at hids
      exact hids
    obtain ⟨hlength, hsupply⟩ := same_picks hsame demand
    refine ⟨_, planAllocation_eq hdistinct, ?_, ?_⟩
    · rw [allocatedQuantity_eq, total_picks, supply_perm (sortBy_perm _ candidates), hsupply]
    · change if maxU32 < (planInOrder demand
          (sortBy compareFefoCandidates candidates)).allocations.length then _ else _
      have hselected : selectReplenishmentSources decision sources = _ :=
        selectReplenishmentSources_eq (hids ▸ hdistinct)
      rw [hplanned] at hselected
      rw [hlength]
      split_ifs with hnumbered hheld
      · rw [hselected, planSources_error (Nat.zero_le _) (by rwa [Nat.zero_add])]
        rfl
      · rw [hselected, planSources_ok (by omega)]
        exact if_pos (Nat.sub_ne_zero_of_lt hheld)
      · rw [hselected, planSources_ok (by omega)]
        refine ⟨_, if_neg (not_not.mpr (Nat.sub_eq_zero_of_le (not_lt.mp hheld))),
          (moveChoice_numberedMoves _).trans ((chosen_sortBy hsame demand.value).symm.trans ?_)⟩
        unfold allocationChoice planInOrder
        rw [List.map_map]
        rfl

/-- Five units in reserve. -/
def fiveInReserve (balance : ℕ) : EligibleReplenishmentSource :=
  ⟨reserveBalance ⟨5, by decide, by decide⟩ balance, Int.natCast_succ_pos 4⟩

/-- A plan for a shelf that is to hold some units, with five in reserve. -/
def decided (target : ReplenishmentLevel) (h : 1 < target.value) : ReplenishmentPlanDecision :=
  planReplenishment (shelfPolicy target h).thresholds (emptyShelf ⟨5, by decide, by decide⟩)

/-- Three are asked of a balance that holds five, and both planners take them. -/
theorem covered_quantity_is_chosen :
    compareFefoCandidates (fiveUnits 1 none 0) (fiveUnits 2 none 0) =
        compareEligibleSources (fiveInReserve 1) (fiveInReserve 2) ∧
      ∃ plan, planAllocation .fefo ⟨3, by decide, by decide⟩ [fiveUnits 1 none 0] = .ok plan ∧
        plan.allocatedQuantity = 3 ∧
        ∃ planned, selectReplenishmentSources (decided ⟨3, by decide, by decide⟩ (by decide))
            [fiveInReserve 1] = .ok planned ∧
          moveChoice planned = allocationChoice plan := by
  obtain ⟨hcompare, -, -, hchoose⟩ := planners_choose_alike
  obtain ⟨plan, hplan, hallocated, hchoice⟩ := hchoose ⟨3, by decide, by decide⟩
    (decided ⟨3, by decide, by decide⟩ (by decide)) [fiveUnits 1 none 0] [fiveInReserve 1]
    (by decide) rfl (by decide)
  have hlength : (planAllocation .fefo ⟨3, by decide, by decide⟩ [fiveUnits 1 none 0]).map
      (·.allocations.length) = .ok 1 := by
    decide +kernel
  rw [hplan] at hlength
  rw [show plan.allocations.length = 1 from Except.ok.inj hlength, if_neg (by decide),
    if_neg (by decide +kernel)] at hchoice
  exact ⟨hcompare _ _ _ _ rfl rfl, plan, hplan, hallocated, hchoice⟩

/-- Six are asked of a balance that holds five: allocation takes the five, and replenishment
refuses. -/
theorem uncovered_quantity_is_refused :
    let decision := planReplenishment (shelfPolicy ⟨6, by decide, by decide⟩ (by decide)).thresholds
      (emptyShelf ⟨6, by decide, by decide⟩)
    decision.planned.value = 6 ∧
      [fiveUnits 1 none 0].map ofCandidate = [fiveInReserve 1].map ofSource ∧
      (planAllocation .fefo ⟨6, by decide, by decide⟩ [fiveUnits 1 none 0]).map
        allocationChoice = .ok [(1, 5)] ∧
      selectReplenishmentSources decision [fiveInReserve 1] =
        .error (.reserveSnapshotMismatch 1) := by
  refine ⟨by decide, rfl, by decide +kernel, by decide +kernel⟩

end Wareboxes.FefoOrder
