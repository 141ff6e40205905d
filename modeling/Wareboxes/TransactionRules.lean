import Wareboxes.Transactions

/-!
# Properties that transactions maintain

A property of the state is maintained by a transaction when every successful
end of it has the property again. The rules below follow the text of a
transaction from its first step to its last; a step that reads or checks
something hands the value that it found to the rest.
-/

namespace Wareboxes.TransactionRules

open Transactions Transaction

variable {σ ε α β ι : Type} {inv : σ → Prop}

/-- A transaction that succeeds keeps a property of the state. -/
def Maintains (inv : σ → Prop) (transaction : Transaction σ ε α) : Prop :=
  ∀ ⦃s value s'⦄, inv s → transaction s = .ok (value, s') → inv s'

/-- A returned value leaves the state. -/
theorem maintains_pure (value : α) : Maintains inv (pure value : Transaction σ ε α) := by
  intro s _ s' hs h
  cases h
  exact hs

/-- A rewrite that keeps the invariant. -/
theorem maintains_modify {rewrite : σ → σ} (h : ∀ s, inv s → inv (rewrite s)) :
    Maintains inv (modify rewrite : Transaction σ ε Unit) := by
  intro s _ s' hs hrun
  cases hrun
  exact h s hs

variable {next : α → Transaction σ ε β} {first : Transaction σ ε α} {option : Option α} {reason : ε}
  {condition : Prop}

/-- One transaction after another. -/
theorem maintains_bind (hfirst : Maintains inv first)
    (hnext : ∀ value, Maintains inv (next value)) : Maintains inv (first >>= next) := by
  intro s out s' hs h
  obtain ⟨value, mid, hrun, hrest⟩ := bind_ok.mp h
  exact hnext value (hfirst hs hrun) hrest

/-- A read leaves the state. -/
theorem maintains_gets_bind {view : σ → α} (hnext : ∀ value, Maintains inv (next value)) :
    Maintains inv (gets view >>= next) := by
  intro s out s' hs h
  exact hnext (view s) hs h

/-- A sequence that starts by reading a value. -/
theorem maintains_bind_of_reads {found : α → Prop}
    (hreads : ∀ s value mid, first s = .ok (value, mid) ↔ found value ∧ mid = s)
    (hnext : ∀ value, found value → Maintains inv (next value)) :
    Maintains inv (first >>= next) := by
  intro s out s' hs h
  obtain ⟨value, hfound, hrest⟩ := (bind_ok_of_reads (hreads s)).mp h
  exact hnext value hfound hs hrest

/-- What follows may assume that the check passed. -/
theorem maintains_lift_bind {check : Except ε α}
    (hnext : ∀ value, check = .ok value → Maintains inv (next value)) :
    Maintains inv (lift check >>= next) :=
  maintains_bind_of_reads (fun _ _ _ => lift_ok) hnext

section

variable (hnext : ∀ value, option = some value → Maintains inv (next value))
include hnext

/-- What follows may assume the value. -/
theorem maintains_orPanic_bind : Maintains inv (orPanic option >>= next) :=
  maintains_bind_of_reads (fun _ _ _ => orPanic_ok) hnext

/-- The same with a failure of the call. -/
theorem maintains_orFail_bind : Maintains inv (orFail option reason >>= next) :=
  maintains_bind_of_reads (fun _ _ _ => orFail_ok) hnext

end

/-- What follows may assume the condition. -/
theorem maintains_ensure_bind [Decidable condition] {next : Unit → Transaction σ ε β}
    (hnext : condition → Maintains inv (next ())) :
    Maintains inv (ensure condition reason >>= next) :=
  maintains_bind_of_reads (fun _ _ _ => ensure_ok) fun _ => hnext

/-- A loop keeps what its body keeps. -/
theorem maintains_loop {body : ι → α → Transaction σ ε α}
    (hbody : ∀ item acc, Maintains inv (body item acc)) (items : List ι) (acc : α) :
    Maintains inv (loop body items acc) := by
  induction items generalizing acc with
  | nil => exact maintains_pure acc
  | cons item rest ih => exact maintains_bind (hbody item acc) ih

/-- The durable state keeps the property, whether the transaction commits or rolls back. -/
theorem Maintains.commit {transaction : Transaction σ ε α} (h : Maintains inv transaction)
    {s : σ} (hs : inv s) : inv (commit transaction s).2 := by
  cases hrun : transaction s with
  | error =>
    rw [commit_of_error hrun]
    exact hs
  | ok pair =>
    obtain ⟨value, s'⟩ := pair
    rw [commit_of_ok hrun]
    exact h hs hrun

end Wareboxes.TransactionRules
