import Mathlib

/-!
# Programs that call an outside world

A program either ends with a value or an error, or issues a call and goes on
with the reply. Nothing is said about what a call does: the calls that a
program can issue are a property of the program alone, and a semantics gives
them a meaning on a world that other parties change between any two calls.
-/

namespace Wareboxes.CallPrograms

/-- A program over calls `C` with replies `R`. -/
inductive Prog (C : Type) (R : C → Type) (ε α : Type) : Type where
  | done (value : α)
  | fail (reason : ε)
  /-- Issue a call and continue with its reply. -/
  | call (request : C) (next : R request → Prog C R ε α)

namespace Prog

variable {C : Type} {R : C → Type} {ε α β : Type}

/-- Run one program after another; an error ends the sequence. -/
def andThen : Prog C R ε α → (α → Prog C R ε β) → Prog C R ε β
  | .done value, next => next value
  | .fail reason, _ => .fail reason
  | .call request rest, next => .call request fun reply => andThen (rest reply) next

instance : Monad (Prog C R ε) where
  pure := .done
  bind := andThen

/-- End with the outcome of a check. -/
def ofExcept (check : Except ε α) : Prog C R ε α :=
  match check with
  | .ok value => .done value
  | .error reason => .fail reason

/-- Some sequence of replies makes the program issue the call. -/
inductive Issues : Prog C R ε α → C → Prop where
  | here {request : C} {next : R request → Prog C R ε α} : Issues (.call request next) request
  /-- A call after some reply. -/
  | later {request other : C} {next : R request → Prog C R ε α} (reply : R request)
      (h : Issues (next reply) other) : Issues (.call request next) other

/-- Some sequence of replies makes the program end with the value. -/
inductive Returns : Prog C R ε α → α → Prop where
  /-- The program has ended. -/
  | here {value : α} : Returns (.done value) value
  /-- The program ends after some reply. -/
  | later {request : C} {value : α} {next : R request → Prog C R ε α} (reply : R request)
      (h : Returns (next reply) value) : Returns (.call request next) value

variable {next : α → Prog C R ε β} {first : Prog C R ε α} {request : C} {value : α}

/-- A sequence issues the calls of its first part, and then those of the second. -/
theorem issues_bind :
    Issues (first >>= next) request ↔
      Issues first request ∨ ∃ value, Returns first value ∧ Issues (next value) request := by
  induction first with
  | done value =>
    constructor
    · intro h
      exact .inr ⟨value, .here, h⟩
    · rintro (h | ⟨other, hr, h⟩)
      · cases h
      · cases hr
        exact h
  | fail =>
    constructor
    · intro h
      cases h
    · rintro (h | ⟨other, hr, h⟩)
      · cases h
      · cases hr
  | call asked rest ih =>
    constructor
    · intro h
      cases h with
      | here => exact .inl .here
      | later reply h =>
        rcases (ih reply).mp h with h | ⟨value, hr, h⟩
        · exact .inl (.later reply h)
        · exact .inr ⟨value, .later reply hr, h⟩
    · rintro (h | ⟨value, hr, h⟩)
      · cases h with
        | here => exact .here
        | later reply h => exact .later reply ((ih reply).mpr (.inl h))
      · cases hr with
        | later reply hr => exact .later reply ((ih reply).mpr (.inr ⟨value, hr, h⟩))

/-- A program that is done makes no call. -/
@[simp] theorem not_issues_done : ¬Issues (.done value : Prog C R ε α) request := by
  intro h
  cases h

/-- Nor does one that fails. -/
@[simp] theorem not_issues_fail {reason : ε} : ¬Issues (.fail reason : Prog C R ε α) request := by
  intro h
  cases h

/-- A check makes no call. -/
@[simp] theorem not_issues_ofExcept {check : Except ε α} :
    ¬Issues (ofExcept check : Prog C R ε α) request := by
  intro h
  cases check with
  | ok | error => cases h

/-- What the rest of a program can ask. -/
theorem issues_bind_later (hreturns : Returns first value) (h : Issues (next value) request) :
    Issues (first >>= next) request :=
  issues_bind.mpr (.inr ⟨value, hreturns, h⟩)

/-- What the first part of a program can ask. -/
theorem issues_bind_first (h : Issues first request) : Issues (first >>= next) request :=
  issues_bind.mpr (.inl h)

section Admitted

variable {admits : C → Prop}

/-- Whatever the replies are, the program issues only admitted calls. -/
def OnlyIssues (admits : C → Prop) (program : Prog C R ε α) : Prop :=
  ∀ request, Issues program request → admits request

/-- A program that is done asks nothing else. -/
theorem onlyIssues_done (value : α) : OnlyIssues admits (.done value : Prog C R ε α) :=
  fun _ h => absurd h not_issues_done

/-- Nor does one that fails. -/
theorem onlyIssues_fail (reason : ε) : OnlyIssues admits (.fail reason : Prog C R ε α) :=
  fun _ h => absurd h not_issues_fail

/-- Nor does a check. -/
theorem onlyIssues_ofExcept (check : Except ε α) :
    OnlyIssues admits (ofExcept check : Prog C R ε α) :=
  fun _ h => absurd h not_issues_ofExcept

/-- An admitted call, followed by a program that issues admitted calls whatever the reply. -/
theorem onlyIssues_call {request : C} {next : R request → Prog C R ε α} (hrequest : admits request)
    (hnext : ∀ reply, OnlyIssues admits (next reply)) : OnlyIssues admits (.call request next) := by
  intro other h
  cases h with
  | here => exact hrequest
  | later reply h => exact hnext reply other h

/-- A program whose parts ask only what is admitted. -/
theorem onlyIssues_bind
    (hfirst : OnlyIssues admits first) (hnext : ∀ value, OnlyIssues admits (next value)) :
    OnlyIssues admits (first >>= next) := by
  intro request h
  rcases issues_bind.mp h with h | ⟨value, _, h⟩
  · exact hfirst request h
  · exact hnext value request h

end Admitted

end Prog

end Wareboxes.CallPrograms
