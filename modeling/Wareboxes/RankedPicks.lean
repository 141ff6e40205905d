import Mathlib

/-!
# Picking in the order of a rank

Items are sorted by a comparison, and a demand is met by picking from each item in turn until
nothing remains. When the comparison ranks items by a key in a linear order and the keys differ,
the sorted list does not depend on the order in which the items came. The picks use up a leading
part of the items, each in full but the last, and add up to the demand or to everything there is.
-/

namespace Wareboxes.RankedPicks

open List

section Ranking

variable {α κ : Type} [LinearOrder κ] {order : α → α → Ordering} {key : α → κ}

/-- `sort_by`. -/
def sortBy (order : α → α → Ordering) (items : List α) : List α :=
  items.insertionSort fun left right => order left right ≠ .gt

/-- A comparison ranks items by a key. -/
def Ranks (order : α → α → Ordering) (key : α → κ) : Prop :=
  ∀ left right, order left right ≠ .gt ↔ key left ≤ key right

/-- Sorting drops and adds nothing. -/
theorem sortBy_perm (order : α → α → Ordering) (items : List α) :
    List.Perm (sortBy order items) items :=
  perm_insertionSort _ items

/-- The sorted items are in the order of their keys. -/
theorem sortBy_pairwise (hranks : Ranks order key) (items : List α) :
    (sortBy order items).Pairwise fun left right => key left ≤ key right := by
  have htotal : Std.Total fun left right => order left right ≠ .gt :=
    ⟨fun left right => by
      rw [hranks, hranks]
      exact le_total _ _⟩
  have htrans : IsTrans α fun left right => order left right ≠ .gt :=
    ⟨fun first second third hfirst hsecond =>
      (hranks first third).mpr
        (((hranks first second).mp hfirst).trans ((hranks second third).mp hsecond))⟩
  exact (pairwise_insertionSort _ items).imp fun h => (hranks _ _).mp h

/-- Items with different keys are sorted the same way, in whatever order they came. -/
theorem sortBy_eq_of_perm (hranks : Ranks order key) {items items' : List α}
    (hperm : List.Perm items items') (hdistinct : (items.map key).Nodup) :
    sortBy order items = sortBy order items' := by
  have hsorted : List.Perm (sortBy order items) (sortBy order items') :=
    ((sortBy_perm order items).trans hperm).trans (sortBy_perm order items').symm
  refine hsorted.eq_of_pairwise ?_ (sortBy_pairwise hranks items) (sortBy_pairwise hranks items')
  intro left right hleft hright hle hge
  have hright' : right ∈ items :=
    hperm.mem_iff.mpr ((sortBy_perm order items').mem_iff.mp hright)
  exact inj_on_of_nodup_map hdistinct ((sortBy_perm order items).mem_iff.mp hleft) hright'
    (le_antisymm hle hge)

end Ranking

section Comparisons

variable {α : Type} [LinearOrder α]

/-- A comparison in two stages ranks by the first part, then by the second. -/
theorem then_ne_gt {first second : Ordering} :
    first.then second ≠ .gt ↔ first = .lt ∨ first = .eq ∧ second ≠ .gt := by
  cases first <;> simp [Ordering.then]

/-- A comparison of optional values with the missing ones last. -/
def compareMissingLast (left right : Option α) : Ordering :=
  match left, right with
  | some left, some right => compare left right
  | some _, none => .lt
  | none, some _ => .gt
  | none, none => .eq

/-- A missing value ranks above all others. -/
def rank : Option α → WithTop α
  | some value => value
  | none => ⊤

variable {left right : Option α}

/-- The comparison is that of the ranks. -/
theorem compareMissingLast_eq_lt :
    compareMissingLast left right = .lt ↔ rank left < rank right := by
  match left, right with
  | some left, some right => simp [compareMissingLast, rank, compare_lt_iff_lt]
  | some _, none | none, some _ | none, none => simp [compareMissingLast, rank]

/-- Equal are the values of equal rank. -/
theorem compareMissingLast_eq_eq :
    compareMissingLast left right = .eq ↔ rank left = rank right := by
  cases left <;> cases right <;> simp [compareMissingLast, rank]

/-- Two comparisons in turn are the lexicographic order. -/
theorem compare_then_ne_gt {β : Type} [LinearOrder β] {left right : α} {left' right' : β} :
    (compare left right).then (compare left' right') ≠ .gt ↔
      toLex (left, left') ≤ toLex (right, right') := by
  rw [then_ne_gt, compare_lt_iff_lt, compare_eq_iff_eq, Prod.Lex.toLex_le_toLex,
    compare_le_iff_le]

/-- A comparison with an optional first part ranks by that, with the missing ones last. -/
theorem compareMissingLast_then_ne_gt {β : Type} [LinearOrder β] {left' right' : β}
    {order : Ordering} (horder : order ≠ .gt ↔ left' ≤ right') :
    (compareMissingLast left right).then order ≠ .gt ↔
      toLex (rank left, left') ≤ toLex (rank right, right') := by
  rw [then_ne_gt, compareMissingLast_eq_lt, compareMissingLast_eq_eq, Prod.Lex.toLex_le_toLex,
    horder]

end Comparisons

section Duplicates

variable {α κ : Type} [DecidableEq κ] (key : α → κ)

/-- The first key that was seen before. -/
def firstDuplicate : List κ → List α → Option κ
  | _, [] => none
  | seen, item :: rest =>
    if key item ∈ seen then some (key item) else firstDuplicate (key item :: seen) rest

/-- There is no duplicate when the keys differ from those seen and from one another. -/
theorem firstDuplicate_eq_none {seen : List κ} {items : List α} :
    firstDuplicate key seen items = none ↔
      (∀ item ∈ items, key item ∉ seen) ∧ (items.map key).Nodup := by
  induction items generalizing seen with
  | nil => simp [firstDuplicate]
  | cons item rest ih =>
    rw [firstDuplicate]
    split_ifs with hseen
    · constructor
      · exact nofun
      · rintro ⟨hfresh, _⟩
        exact absurd hseen (hfresh item mem_cons_self)
    · rw [ih, map_cons, nodup_cons, forall_mem_cons]
      constructor
      · rintro ⟨hfresh, hrest⟩
        refine ⟨⟨hseen, fun other hother => ?_⟩, fun hmem => ?_, hrest⟩
        · exact fun h => hfresh other hother (mem_cons_of_mem _ h)
        · obtain ⟨other, hother, hkey⟩ := List.mem_map.mp hmem
          exact hfresh other hother (hkey ▸ mem_cons_self)
      · rintro ⟨⟨_, hfresh⟩, hitem, hrest⟩
        refine ⟨fun other hother h => ?_, hrest⟩
        rcases List.mem_cons.mp h with hkey | h
        · exact hitem (List.mem_map.mpr ⟨other, hother, hkey⟩)
        · exact hfresh other hother h

end Duplicates

section Picks

variable {α : Type} (available : α → ℕ+)

/-- A positive quantity of an item, at most what the item has. -/
structure Pick where
  /-- What is taken from. -/
  item : α
  /-- How much is taken. -/
  quantity : ℕ+
  /-- No more than there is. -/
  within : quantity ≤ available item

/-- Pick from each item in turn until nothing remains. -/
def picks : ℕ → List α → List (Pick available)
  | 0, _ => []
  | _ + 1, [] => []
  | remaining + 1, item :: rest =>
    ⟨item, min remaining.succPNat (available item), min_le_right _ _⟩ ::
      picks (remaining + 1 - available item) rest

/-- What remains after that. -/
def leftOver : ℕ → List α → ℕ
  | 0, _ => 0
  | remaining + 1, [] => remaining + 1
  | remaining + 1, item :: rest => leftOver (remaining + 1 - available item) rest

variable {available}

/-- How much the picks add up to. -/
def total (picks : List (Pick available)) : ℕ := (picks.map fun pick => (pick.quantity : ℕ)).sum

/-- How much the items have. -/
def supply (available : α → ℕ+) (items : List α) : ℕ :=
  (items.map fun item => (available item : ℕ)).sum

section

variable (remaining : ℕ) (items : List α)
include remaining items

/-- The items are picked in their order, from the first on. -/
theorem picks_items : (picks available remaining items).map Pick.item <+: items := by
  induction items generalizing remaining with
  | nil => cases remaining <;> exact nil_prefix
  | cons item rest ih =>
    cases remaining with
    | zero => exact nil_prefix
    | succ =>
      rw [picks, map_cons]
      exact (prefix_cons_inj item).mpr (ih _)

/-- The picks give what is asked as far as there is supply. -/
theorem total_picks :
    total (picks available remaining items) = min remaining (supply available items) := by
  induction items generalizing remaining with
  | nil => cases remaining <;> simp [picks, total, supply]
  | cons item rest ih =>
    cases remaining with
    | zero => simp [picks, total]
    | succ remaining =>
      have hrest := ih (remaining + 1 - available item)
      have hpick : ((min remaining.succPNat (available item) : ℕ+) : ℕ) =
          min (remaining + 1) (available item) := by
        rcases le_total remaining.succPNat (available item) with hle | hle
        · have hvalue := (PNat.coe_le_coe _ _).mpr hle
          rw [Nat.succPNat_coe] at hvalue
          rw [min_eq_left hle, Nat.succPNat_coe, min_eq_left hvalue]
        · have hvalue := (PNat.coe_le_coe _ _).mpr hle
          rw [Nat.succPNat_coe] at hvalue
          rw [min_eq_right hle, min_eq_right hvalue]
      unfold total supply at *
      rw [picks, map_cons, sum_cons, map_cons, sum_cons, hrest, hpick]
      omega

/-- What is not picked is left over. -/
theorem total_add_leftOver :
    total (picks available remaining items) + leftOver available remaining items = remaining := by
  rw [total_picks]
  induction items generalizing remaining with
  | nil => cases remaining <;> simp [leftOver, supply]
  | cons item rest ih =>
    cases remaining with
    | zero => simp [leftOver]
    | succ remaining =>
      have hrest := ih (remaining + 1 - available item)
      unfold supply at *
      rw [leftOver, map_cons, sum_cons]
      omega

/-- Every pick but the last takes all of its item. -/
theorem picks_full :
    ∀ pick ∈ (picks available remaining items).dropLast,
      pick.quantity = available pick.item := by
  induction items generalizing remaining with
  | nil => cases remaining <;> exact fun _ h => absurd h not_mem_nil
  | cons item rest ih =>
    cases remaining with
    | zero => exact fun _ h => absurd h not_mem_nil
    | succ remaining =>
      rw [picks]
      intro pick hpick
      cases hrest : picks available (remaining + 1 - available item) rest with
      | nil =>
        rw [hrest] at hpick
        exact absurd hpick not_mem_nil
      | cons =>
        rw [hrest, dropLast_cons_cons, mem_cons] at hpick
        rcases hpick with rfl | hpick
        · -- Another pick follows, so the demand is not met by this item.
          have hlt : (available item : ℕ) < remaining + 1 := by
            by_contra hge
            rw [Nat.sub_eq_zero_of_le (Nat.le_of_not_lt hge)] at hrest
            cases rest <;> cases hrest
          have hle : available item ≤ remaining.succPNat := by
            rw [← PNat.coe_le_coe, Nat.succPNat_coe]
            exact hlt.le
          exact min_eq_right hle
        · have hmem := ih (remaining + 1 - available item) pick
          rw [hrest] at hmem
          exact hmem hpick

end

variable {remaining : ℕ} {items : List α}

/-- What is left over is what the items do not have. -/
theorem leftOver_eq : leftOver available remaining items = remaining - supply available items := by
  have hrest : total (picks available remaining items) + leftOver available remaining items =
      remaining := total_add_leftOver remaining items
  rw [total_picks] at hrest
  omega

/-- When the items cover the demand, a number of picks is enough when as many leading items
cover it. -/
theorem length_picks_le_iff (count : ℕ) (hcovered : remaining ≤ supply available items) :
    (picks available remaining items).length ≤ count ↔
      remaining ≤ supply available (items.take count) := by
  induction items generalizing remaining count with
  | nil =>
    have hzero : remaining = 0 := by simpa [supply] using hcovered
    simp [hzero, picks]
  | cons item rest ih =>
    cases remaining with
    | zero => simp [picks]
    | succ remaining =>
      cases count with
      | zero => simp [picks, supply]
      | succ count =>
        have hrest : remaining + 1 - available item ≤ supply available rest := by
          unfold supply at *
          rw [map_cons, sum_cons] at hcovered
          omega
        have hcount := ih count hrest
        unfold supply at *
        rw [picks, length_cons, take_succ_cons, map_cons, sum_cons,
          Nat.add_le_add_iff_right, hcount]
        omega

/-- The supply does not depend on the order. -/
theorem supply_perm {items items' : List α} (h : List.Perm items items') :
    supply available items = supply available items' :=
  (h.map _).sum_eq

end Picks

end Wareboxes.RankedPicks
