import Mathlib

/-!
# Chains of recorded transitions

A history records each change of a state as the state before and the state
after. It is linked when it starts where the subject started, each entry
starts where the previous one ended, and the last entry ends in the present
state. A subject that does not exist yet is in the state `none`.
-/

namespace Wareboxes.AuditChains

variable {S : Type}

/-- The entries lead from one state to another without a gap. -/
def Linked : Option S → List (Option S × S) → Option S → Prop
  | start, [], current => start = current
  | start, (before, after) :: rest, current => before = start ∧ Linked (some after) rest current

/-- Appending an entry to a linked history. -/
theorem linked_concat {start before current : Option S} {after : S}
    {entries : List (Option S × S)} :
    Linked start (entries ++ [(before, after)]) current ↔
      Linked start entries before ∧ current = some after := by
  induction entries generalizing start with
  | nil =>
    constructor
    · rintro ⟨hb, hc⟩
      exact ⟨hb.symm, hc.symm⟩
    · rintro ⟨hb, hc⟩
      exact ⟨hb.symm, hc.symm⟩
  | cons entry rest ih => simp only [List.cons_append, Linked, ih, and_assoc]

end Wareboxes.AuditChains
