import Mathlib

/-!
# Lists cut at a separator

What stands before the first occurrence of an item, and what stands from it on. A list is both
together, the first part does not have the item, and two lists that are put together around the
item come apart the same way.
-/

namespace Wareboxes.Separators

variable {α : Type} [DecidableEq α] {mark : α} {items front back : List α}

/-- What stands before the first occurrence. -/
def before (mark : α) (items : List α) : List α := items.takeWhile fun item => decide (item ≠ mark)

/-- What stands from the first occurrence on. -/
def onward (mark : α) (items : List α) : List α := items.dropWhile fun item => decide (item ≠ mark)

/-- The two parts are the list. -/
theorem before_append_onward (mark : α) (items : List α) :
    before mark items ++ onward mark items = items :=
  List.takeWhile_append_dropWhile

/-- The first part does not have the item. -/
theorem notMem_before (mark : α) (items : List α) : mark ∉ before mark items := by
  intro h
  have hne := List.mem_takeWhile_imp h
  exact of_decide_eq_true hne rfl

/-- The second part is empty or starts with the item. -/
theorem onward_eq_nil_or (mark : α) (items : List α) :
    onward mark items = [] ∨ ∃ rest, onward mark items = mark :: rest := by
  cases hitems : onward mark items with
  | nil => exact .inl rfl
  | cons first rest =>
    have hstart := List.head?_dropWhile_not (fun item => decide (item ≠ mark)) items
    unfold onward at hitems
    rw [hitems] at hstart
    have hfirst : first = mark := not_not.mp (of_decide_eq_false hstart)
    exact .inr ⟨rest, by rw [hfirst]⟩

/-- A list with the item comes apart around it. -/
theorem eq_append_of_mem (h : mark ∈ items) :
    ∃ rest, onward mark items = mark :: rest ∧ items = before mark items ++ mark :: rest := by
  have hparts := before_append_onward mark items
  rcases onward_eq_nil_or mark items with hnil | ⟨rest, hrest⟩
  · rw [hnil, List.append_nil] at hparts
    rw [← hparts] at h
    exact absurd h (notMem_before mark items)
  · exact ⟨rest, hrest, by rw [← hrest, hparts]⟩

/-- The first part of a list that was put together. -/
theorem before_append_cons (h : mark ∉ front) : before mark (front ++ mark :: back) = front := by
  unfold before
  rw [List.takeWhile_append_of_pos, List.takeWhile_cons_of_neg, List.append_nil]
  · simp
  · intro item hitem
    exact decide_eq_true fun heq => h (heq ▸ hitem)

/-- The second part of a list that was put together. -/
theorem onward_append_cons (h : mark ∉ front) :
    onward mark (front ++ mark :: back) = mark :: back := by
  unfold onward
  rw [List.dropWhile_append_of_pos, List.dropWhile_cons_of_neg]
  · simp
  · intro item hitem
    exact decide_eq_true fun heq => h (heq ▸ hitem)

/-- Without the item the first part is the list. -/
theorem before_of_notMem (h : mark ∉ items) : before mark items = items :=
  List.takeWhile_eq_self_iff.mpr fun _ hitem => decide_eq_true fun heq => h (heq ▸ hitem)

/-- Without the item the second part is empty. -/
theorem onward_of_notMem (h : mark ∉ items) : onward mark items = [] :=
  List.dropWhile_eq_nil_iff.mpr fun _ hitem => decide_eq_true fun heq => h (heq ▸ hitem)

/-- A list comes apart around the item in one way only. -/
theorem append_cons_inj {front' back' : List α} (h : mark ∉ front) (h' : mark ∉ front')
    (heq : front ++ mark :: back = front' ++ mark :: back') : front = front' ∧ back = back' := by
  have hfront := congrArg (before mark) heq
  have hback := congrArg (onward mark) heq
  rw [before_append_cons h, before_append_cons h'] at hfront
  rw [onward_append_cons h, onward_append_cons h'] at hback
  exact ⟨hfront, List.tail_eq_of_cons_eq hback⟩

end Wareboxes.Separators
