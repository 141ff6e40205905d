import Wareboxes.RustText
import Wareboxes.Separators

/-!
# The contact of an X12 order

A `PER` segment names a contact and gives up to three numbers, each after a qualifier that says
what kind of number it is. The search for a number slides over all neighbouring elements and
stops at the first that is the qualifier, whether it stands in the place of a qualifier or not,
and whether a number follows or not.
-/

namespace Wareboxes.X12Contacts

open RustText Separators

/-- `Segment`, as far as its elements go. -/
structure Segment where
  elements : List String

/-- `get`: the elements are counted from one. -/
def get (segment : Segment) : ℕ → Option String
  | 0 => none
  | index + 1 => segment.elements[index]?

/-- `nonempty`. -/
def nonempty (value : Option String) : Option String := value.filter fun text => !isEmpty text

/-- `communication`, over the windows of two elements. -/
def communication (segment : Option Segment) (qualifier : String) : Option String := do
  let segment ← segment
  let pair ← (segment.elements.zip segment.elements.tail).find? fun pair => pair.1 == qualifier
  nonempty (some pair.2)

/-- The number after an element, when that is the qualifier. -/
def numberAfter (segment : Segment) (qualifier : String) (place : ℕ) : Option String :=
  if get segment place = some qualifier then nonempty (get segment (place + 1)) else none

/-- The first number whose own qualifier, `PER03`, `PER05` or `PER07`, is the one asked for. -/
def ownNumber (segment : Segment) (qualifier : String) : Option String :=
  (numberAfter segment qualifier 3).or
    ((numberAfter segment qualifier 5).or (numberAfter segment qualifier 7))

/-- What follows the first place of the qualifier is right. A number follows it, and the place is
that of a qualifier or the number happens to be the right one; or no number follows it, and no
qualifier of its own has one. -/
def FirstIsOwn (segment : Segment) (qualifier : String) : Prop :=
  ∀ front rest, segment.elements = front ++ qualifier :: rest → qualifier ∉ front →
    match nonempty rest.head? with
    | some number => front.length ∈ [2, 4, 6] ∨ ownNumber segment qualifier = some number
    | none => ∀ place ∈ [3, 5, 7], numberAfter segment qualifier place = none

variable {qualifier : String} {segment : Segment} {front rest : List String}

/-- The search stops at the first element that is the qualifier. -/
theorem communication_of_first (hfront : qualifier ∉ front)
    (h : segment.elements = front ++ qualifier :: rest) :
    communication (some segment) qualifier = nonempty rest.head? := by
  change (((segment.elements.zip segment.elements.tail).find? fun pair =>
    pair.1 == qualifier).bind fun pair => nonempty (some pair.2)) = _
  rw [h]
  clear h
  induction front with
  | nil => cases rest <;> simp [nonempty]
  | cons first front ih =>
    rw [List.mem_cons, not_or] at hfront
    rw [← ih hfront.2]
    cases front <;> simp [Ne.symm hfront.1]

theorem communication_of_notMem (h : qualifier ∉ segment.elements) :
    communication (some segment) qualifier = none := by
  have hnone : ((segment.elements.zip segment.elements.tail).find? fun pair =>
      pair.1 == qualifier) = none := by
    rw [List.find?_eq_none]
    rintro ⟨first, second⟩ hpair heq
    exact h (beq_iff_eq.mp heq ▸ (List.of_mem_zip hpair).1)
  change Option.bind _ _ = none
  rw [hnone]
  rfl

theorem numberAfter_of_ne {index : ℕ} (h : segment.elements[index]? ≠ some qualifier) :
    numberAfter segment qualifier (index + 1) = none :=
  if_neg h

theorem ownNumber_eq_none : ownNumber segment qualifier = none ↔
    ∀ place ∈ [3, 5, 7], numberAfter segment qualifier place = none := by
  simp [ownNumber, Option.or_eq_none_iff]

/-- A number after the first place of the qualifier is its own when that is the place of a
qualifier. -/
theorem ownNumber_of_first {number : String} (hfront : qualifier ∉ front)
    (h : segment.elements = front ++ qualifier :: rest)
    (hnumber : nonempty rest.head? = some number)
    (hplace : front.length ∈ [2, 4, 6]) : ownNumber segment qualifier = some number := by
  have hown : numberAfter segment qualifier (front.length + 1) = some number := by
    change (if segment.elements[front.length]? = some qualifier then
      nonempty segment.elements[front.length + 1]? else none) = _
    rw [h, if_pos (by simp), List.getElem?_append_right (by omega), Nat.add_sub_cancel_left,
      List.getElem?_cons_succ, ← List.head?_eq_getElem?, hnumber]
  have hbefore : ∀ index < front.length, numberAfter segment qualifier (index + 1) = none := by
    intro index hlt
    refine numberAfter_of_ne fun hindex => hfront (List.mem_of_getElem? (i := index) ?_)
    rwa [h, List.getElem?_append_left hlt] at hindex
  simp only [List.mem_cons, List.not_mem_nil, or_false] at hplace
  unfold ownNumber
  rcases hplace with hlength | hlength | hlength
  all_goals rw [hlength] at hown hbefore
  · rw [hown, Option.some_or]
  · rw [hbefore 2 (by decide), hown, Option.none_or, Option.some_or]
  · rw [hbefore 2 (by decide), hbefore 4 (by decide), hown, Option.none_or, Option.none_or]

/-- A contact has its own number taken for it exactly when what follows the first place of the
qualifier is right. -/
theorem contacts_are_paired (segment : Segment) (qualifier : String) :
    communication (some segment) qualifier = ownNumber segment qualifier ↔
      FirstIsOwn segment qualifier := by
  by_cases hmem : qualifier ∈ segment.elements
  · obtain ⟨rest, -, hsplit⟩ := eq_append_of_mem hmem
    have hfront := notMem_before qualifier segment.elements
    generalize before qualifier segment.elements = front at hsplit hfront
    have hfirst : FirstIsOwn segment qualifier ↔ match nonempty rest.head? with
        | some number => front.length ∈ [2, 4, 6] ∨ ownNumber segment qualifier = some number
        | none => ∀ place ∈ [3, 5, 7], numberAfter segment qualifier place = none := by
      refine ⟨fun h => h front rest hsplit hfront, fun h front' rest' hsplit' hfront' => ?_⟩
      obtain ⟨rfl, rfl⟩ := append_cons_inj hfront hfront' (hsplit.symm.trans hsplit')
      exact h
    rw [communication_of_first hfront hsplit, hfirst]
    cases hnumber : nonempty rest.head? with
    | none => rw [eq_comm, ownNumber_eq_none]
    | some number =>
      refine ⟨fun h => .inr h.symm, fun h => h.elim (fun hplace => ?_) Eq.symm⟩
      exact (ownNumber_of_first hfront hsplit hnumber hplace).symm
  · have hnone : ∀ index, numberAfter segment qualifier (index + 1) = none := fun index =>
      numberAfter_of_ne fun h => hmem (List.mem_of_getElem? h)
    rw [communication_of_notMem hmem]
    refine iff_of_true (by simp [ownNumber, hnone]) fun front rest hsplit => ?_
    exact absurd (by simp [hsplit]) hmem

/-- A contact with a name, a telephone number and an address for mail. -/
def contact : Segment := ⟨["IC", "RECEIVING", "TE", "5550100", "EM", "dock@hub"]⟩

/-- The telephone number of the contact is taken, also when the address for mail is the
qualifier's own text. -/
theorem contact_is_paired :
    communication (some contact) "TE" = some "5550100" ∧ FirstIsOwn contact "TE" ∧
      FirstIsOwn ⟨["IC", "RECEIVING", "TE", "5550100", "EM", "TE"]⟩ "TE" :=
  ⟨by decide +kernel, (contacts_are_paired contact "TE").mp (by decide +kernel),
    (contacts_are_paired _ "TE").mp (by decide +kernel)⟩

/-- A contact named like a qualifier has the next qualifier for its telephone number, and a
qualifier without a number hides a later one. -/
theorem unaligned_contacts_are_mistaken :
    communication (some ⟨["IC", "TE", "EM", "dock@hub"]⟩) "TE" = some "EM" ∧
      ownNumber ⟨["IC", "TE", "EM", "dock@hub"]⟩ "TE" = none ∧
      communication (some ⟨["IC", "RECEIVING", "TE", "", "TE", "5550100"]⟩) "TE" = none ∧
      ownNumber ⟨["IC", "RECEIVING", "TE", "", "TE", "5550100"]⟩ "TE" = some "5550100" := by
  decide +kernel

end Wareboxes.X12Contacts
