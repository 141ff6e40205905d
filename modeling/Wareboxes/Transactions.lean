import Mathlib

/-!
# Transactions that commit or roll back

A transaction reads and rewrites a state, and ends with a value, an error or
a panic. Its effect is kept only when it ends with a value: `commit` returns
the state that was there before in both other cases. The lemmas below invert
a successful transaction step by step, so that a caller never unfolds the
monad.
-/

namespace Wareboxes.Transactions

/-- How a call ends when it does not return a value. -/
inductive Halt (ε : Type) where
  /-- The call returned an error. -/
  | error (reason : ε)
  | panic
  deriving DecidableEq

/-- A sequence of checks succeeds when both of its parts do. -/
theorem except_bind_ok {ε α β : Type} {first : Except ε α} {next : α → Except ε β} {out : β} :
    first >>= next = .ok out ↔ ∃ value, first = .ok value ∧ next value = .ok out := by
  cases first <;> simp [bind, Except.bind]

/-- A computation on a state that may halt. -/
def Transaction (σ ε α : Type) := σ → Except (Halt ε) (α × σ)

namespace Transaction

variable {σ ε α β ι : Type}

/-- End with a value and leave the state alone. -/
def ret (value : α) : Transaction σ ε α := fun s => .ok (value, s)

/-- Run one transaction after another. -/
def andThen (first : Transaction σ ε α) (next : α → Transaction σ ε β) : Transaction σ ε β :=
  fun s =>
    match first s with
    | .ok (value, s') => next value s'
    | .error halt => .error halt

instance : Monad (Transaction σ ε) where
  pure := ret
  bind := andThen

/-- End with an error. -/
def fail (reason : ε) : Transaction σ ε α := fun _ => .error (.error reason)

/-- Read a part of the state. -/
def gets (view : σ → α) : Transaction σ ε α := fun s => .ok (view s, s)

/-- Rewrite the state. -/
def modify (rewrite : σ → σ) : Transaction σ ε Unit := fun s => .ok ((), rewrite s)

/-- Continue only when a condition holds. -/
def ensure (condition : Prop) [Decidable condition] (reason : ε) : Transaction σ ε Unit :=
  if condition then ret () else fail reason

/-- Continue with the value of an option. -/
def orFail (value : Option α) (reason : ε) : Transaction σ ε α :=
  match value with
  | some present => ret present
  | none => fail reason

/-- Continue with the value of a check that may fail. -/
def lift (check : Except ε α) : Transaction σ ε α :=
  match check with
  | .ok value => ret value
  | .error reason => fail reason

/-- Continue with the value of a call that panics on some inputs. -/
def orPanic (value : Option α) : Transaction σ ε α :=
  match value with
  | some present => ret present
  | none => fun _ => .error .panic

/-- Run a body on each item in turn, passing an accumulator along. -/
def loop (body : ι → α → Transaction σ ε α) : List ι → α → Transaction σ ε α
  | [], acc => ret acc
  | item :: rest, acc => andThen (body item acc) fun acc' => loop body rest acc'

/-- Run a transaction on the durable state: an error or a panic rolls back. -/
def commit (transaction : Transaction σ ε α) (s : σ) : Except (Halt ε) α × σ :=
  match transaction s with
  | .ok (value, s') => (.ok value, s')
  | .error halt => (.error halt, s)

variable {next : α → Transaction σ ε β} {first : Transaction σ ε α} {option : Option α}
  {check : Except ε α} {out : β × σ} {condition : Prop} {reason : ε} {value : α}

section Inversion

variable {s s' : σ} {halt : Halt ε}

/-- A sequence ends with a value when both of its parts do. -/
theorem bind_ok : (first >>= next) s = .ok out ↔
      ∃ value mid, first s = .ok (value, mid) ∧ next value mid = .ok out := by
  change andThen first next s = .ok out ↔ _
  unfold andThen
  cases hf : first s with
  | error => simp
  | ok pair =>
    obtain ⟨value, mid⟩ := pair
    constructor
    · intro h
      exact ⟨value, mid, rfl, h⟩
    · rintro ⟨value', mid', he, h⟩
      cases he
      exact h

/-- A sequence halts in its first part or after it. -/
theorem bind_error : (first >>= next) s = .error halt ↔
      first s = .error halt ∨
        ∃ value mid, first s = .ok (value, mid) ∧ next value mid = .error halt := by
  change andThen first next s = .error halt ↔ _
  unfold andThen
  cases hf : first s with
  | error => simp
  | ok pair =>
    obtain ⟨value, mid⟩ := pair
    constructor
    · intro h
      exact .inr ⟨value, mid, rfl, h⟩
    · rintro (h | ⟨value', mid', he, h⟩)
      · cases h
      · cases he
        exact h

/-- A sequence that starts by reading a value: the state stays. -/
theorem bind_ok_of_reads {found : α → Prop}
    (hreads : ∀ value mid, first s = .ok (value, mid) ↔ found value ∧ mid = s) :
    (first >>= next) s = .ok out ↔ ∃ value, found value ∧ next value s = .ok out := by
  rw [bind_ok]
  constructor
  · rintro ⟨value, mid, hvalue, hnext⟩
    obtain ⟨hfound, rfl⟩ := (hreads value mid).mp hvalue
    exact ⟨value, hfound, hnext⟩
  · rintro ⟨value, hfound, hnext⟩
    exact ⟨value, s, (hreads value s).mpr ⟨hfound, rfl⟩, hnext⟩

/-- The second part goes on from the first. -/
theorem bind_of_ok (h : first s = .ok (value, s')) : (first >>= next) s = next value s' := by
  change andThen first next s = _
  unfold andThen
  rw [h]

/-- A first part that halts ends the sequence. -/
theorem bind_of_error (h : first s = .error halt) : (first >>= next) s = .error halt := by
  change andThen first next s = _
  unfold andThen
  rw [h]

/-- A value leaves the state alone. -/
@[simp] theorem ret_apply (value : α) : (ret value : Transaction σ ε α) s = .ok (value, s) := rfl

/-- A failure ends with its error. -/
@[simp] theorem fail_apply (reason : ε) :
    (fail reason : Transaction σ ε α) s = .error (.error reason) := rfl

/-- A part of the state is read first. -/
@[simp] theorem gets_bind (view : σ → α) (next : α → Transaction σ ε β) :
    (gets view >>= next) s = next (view s) s := rfl

/-- The state is rewritten first. -/
@[simp] theorem modify_bind (rewrite : σ → σ) (next : Unit → Transaction σ ε β) :
    (modify rewrite >>= next) s = next () (rewrite s) := rfl

/-- A guard passes when its condition holds. -/
theorem ensure_ok [Decidable condition] {out : Unit} :
    ensure condition reason s = .ok (out, s') ↔ condition ∧ s' = s := by
  unfold ensure
  split_ifs with h
  · simp only [ret_apply, Except.ok.injEq, Prod.mk.injEq, true_and, h]
    exact eq_comm
  · simp [h]

/-- A sequence that starts with a guard. -/
theorem ensure_bind_ok [Decidable condition] {next : Unit → Transaction σ ε β} :
    (ensure condition reason >>= next) s = .ok out ↔ condition ∧ next () s = .ok out := by
  rw [bind_ok_of_reads fun _ _ => ensure_ok]
  exact Unique.exists_iff

/-- A guard fails with its reason when its condition does not hold. -/
theorem ensure_error [Decidable condition] :
    (ensure condition reason : Transaction σ ε Unit) s = .error halt ↔
      ¬condition ∧ halt = .error reason := by
  unfold ensure
  split_ifs with h
  · simp [h]
  · simp only [fail_apply, Except.error.injEq, h, not_false_eq_true, true_and]
    exact eq_comm

/-- A value that is there is returned. -/
theorem orFail_ok : orFail option reason s = .ok (value, s') ↔ option = some value ∧ s' = s := by
  cases option with
  | none => simp [orFail]
  | some =>
    simp only [orFail, ret_apply, Except.ok.injEq, Prod.mk.injEq, Option.some.injEq]
    rw [eq_comm (a := s)]

/-- A sequence that starts by unwrapping an option. -/
theorem orFail_bind_ok : (orFail option reason >>= next) s = .ok out ↔
      ∃ value, option = some value ∧ next value s = .ok out :=
  bind_ok_of_reads fun _ _ => orFail_ok

/-- A value that is missing is an error. -/
theorem orFail_error : (orFail option reason : Transaction σ ε α) s = .error halt ↔
      option = none ∧ halt = .error reason := by
  cases option with
  | none =>
    simp only [orFail, fail_apply, Except.error.injEq, true_and]
    exact eq_comm
  | some => simp [orFail]

/-- A check that passes returns its value. -/
theorem lift_ok : lift check s = .ok (value, s') ↔ check = .ok value ∧ s' = s := by
  cases check with
  | error => simp [lift]
  | ok =>
    simp only [lift, ret_apply, Except.ok.injEq, Prod.mk.injEq]
    rw [eq_comm (a := s)]

/-- A sequence that starts with a check. -/
theorem lift_bind_ok :
    (lift check >>= next) s = .ok out ↔ ∃ value, check = .ok value ∧ next value s = .ok out :=
  bind_ok_of_reads fun _ _ => lift_ok

/-- A check that fails is an error. -/
theorem lift_error : (lift check : Transaction σ ε α) s = .error halt ↔
      ∃ reason, check = .error reason ∧ halt = .error reason := by
  cases check with
  | error =>
    simp only [lift, fail_apply, Except.error.injEq, exists_eq_left']
    exact eq_comm
  | ok => simp [lift]

/-- A value that is there is no panic. -/
theorem orPanic_ok :
    (orPanic option : Transaction σ ε α) s = .ok (value, s') ↔ option = some value ∧ s' = s := by
  cases option with
  | none => simp [orPanic]
  | some =>
    simp only [orPanic, ret_apply, Except.ok.injEq, Prod.mk.injEq, Option.some.injEq]
    rw [eq_comm (a := s)]

/-- A sequence that starts with a call that may panic. -/
theorem orPanic_bind_ok : (orPanic option >>= next) s = .ok out ↔
      ∃ value, option = some value ∧ next value s = .ok out :=
  bind_ok_of_reads fun _ _ => orPanic_ok

/-- A value that is missing is a panic. -/
theorem orPanic_error :
    (orPanic option : Transaction σ ε α) s = .error halt ↔ option = none ∧ halt = .panic := by
  cases option with
  | none =>
    simp only [orPanic, Except.error.injEq, true_and]
    exact eq_comm
  | some => simp [orPanic]

/-- The sequence goes on after a check that passes. -/
theorem lift_bind_of_ok (h : check = .ok value) : (lift check >>= next) s = next value s :=
  bind_of_ok (lift_ok.mpr ⟨h, rfl⟩)

/-- The sequence ends with a check that fails. -/
theorem lift_bind_of_error
    (h : check = .error reason) : (lift check >>= next) s = .error (.error reason) :=
  bind_of_error (lift_error.mpr ⟨reason, h, rfl⟩)

/-- The sequence goes on with the value. -/
theorem orPanic_bind_of_some
    (h : option = some value) : (orPanic option >>= next) s = next value s :=
  bind_of_ok (orPanic_ok.mpr ⟨h, rfl⟩)

/-- The sequence ends with the panic. -/
theorem orPanic_bind_of_none (h : option = none) : (orPanic option >>= next) s = .error .panic :=
  bind_of_error (orPanic_error.mpr ⟨h, rfl⟩)

/-- The sequence goes on after a guard that passes. -/
theorem ensure_bind_of_true [Decidable condition]
    {next : Unit → Transaction σ ε β} (h : condition) :
    (ensure condition reason >>= next) s = next () s :=
  bind_of_ok (ensure_ok.mpr ⟨h, rfl⟩)

/-- The sequence ends with a guard that fails. -/
theorem ensure_bind_of_false [Decidable condition]
    {next : Unit → Transaction σ ε β} (h : ¬condition) :
    (ensure condition reason >>= next) s = .error (.error reason) :=
  bind_of_error (ensure_error.mpr ⟨h, rfl⟩)

variable {transaction : Transaction σ ε α}

/-- A value is committed. -/
theorem commit_of_ok (h : transaction s = .ok (value, s')) :
    commit transaction s = (.ok value, s') := by
  unfold commit
  rw [h]

/-- A halt is rolled back. -/
theorem commit_of_error (h : transaction s = .error halt) :
    commit transaction s = (.error halt, s) := by
  unfold commit
  rw [h]

end Inversion

section Loops

variable {body : ι → α → Transaction σ ε α} {items : List ι}

/-- A property of the remaining items, accumulator and state that every
successful iteration preserves holds at the end of a successful loop. -/
theorem loop_invariant (inv : List ι → α → σ → Prop)
    (step : ∀ item rest acc s acc' s', inv (item :: rest) acc s →
      body item acc s = .ok (acc', s') → inv rest acc' s') {acc acc' : α} {s s' : σ}
    (hinv : inv items acc s) (hrun : loop body items acc s = .ok (acc', s')) : inv [] acc' s' := by
  induction items generalizing acc s with
  | nil =>
    cases hrun
    exact hinv
  | cons item rest ih =>
    obtain ⟨next, mid, hbody, hrest⟩ := bind_ok.mp hrun
    exact ih (step item rest acc s next mid hinv hbody) hrest

/-- A loop succeeds when a property of the remaining items lets every
iteration succeed and is preserved by it. -/
theorem loop_succeeds (inv : List ι → α → σ → Prop)
    (step : ∀ item rest acc s, inv (item :: rest) acc s →
      ∃ acc' s', body item acc s = .ok (acc', s') ∧ inv rest acc' s') {acc : α} {s : σ}
    (hinv : inv items acc s) :
    ∃ acc' s', loop body items acc s = .ok (acc', s') ∧ inv [] acc' s' := by
  induction items generalizing acc s with
  | nil => exact ⟨acc, s, rfl, hinv⟩
  | cons item rest ih =>
    obtain ⟨next, mid, hbody, hnext⟩ := step item rest acc s hinv
    obtain ⟨acc', s', hrest, hend⟩ := ih hnext
    exact ⟨acc', s', bind_ok.mpr ⟨next, mid, hbody, hrest⟩, hend⟩

/-- A loop over mapped items maps each item in its body. -/
theorem loop_map {κ : Type} (f : κ → ι) (items : List κ) (acc : α) :
    loop body (items.map f) acc = loop (fun item acc => body (f item) acc) items acc := by
  induction items generalizing acc with
  | nil => rfl
  | cons item rest ih =>
    simp only [List.map_cons, loop]
    congr 1
    funext acc'
    exact ih acc'

end Loops

end Transaction

end Wareboxes.Transactions
