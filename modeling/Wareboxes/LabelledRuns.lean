import Mathlib

/-!
# Runs of a labelled transition system

A run is a finite sequence of steps, each of which carries a label that is
allowed in the state where the step starts. Invariants are proved for one
step and carried along runs. A system whose next state is a function of the
label can replay a list of labels, which makes a concrete run a computation.
What a run has done is kept as a history, and a property of histories that
relates each entry to the earlier ones grows entry by entry.
-/

namespace Wareboxes.LabelledRuns

variable {σ ℓ : Type} {step : σ → ℓ → σ → Prop} {allows weaker : σ → ℓ → Prop} {s s' s'' : σ}
  {label : ℓ}

/-- A sequence of steps with allowed labels. -/
def Run (step : σ → ℓ → σ → Prop) (allows : σ → ℓ → Prop) : σ → σ → Prop :=
  Relation.ReflTransGen fun s s' => ∃ label, allows s label ∧ step s label s'

/-- No step at all. -/
theorem Run.refl : Run step allows s s := Relation.ReflTransGen.refl

/-- One allowed step. -/
theorem Run.single (hlabel : allows s label) (h : step s label s') : Run step allows s s' :=
  Relation.ReflTransGen.single ⟨label, hlabel, h⟩

/-- One run after another. -/
theorem Run.trans (first : Run step allows s s') (second : Run step allows s' s'') :
    Run step allows s s'' :=
  Relation.ReflTransGen.trans first second

/-- A run is one where more labels are allowed. -/
theorem Run.mono (h : Run step allows s s') (hle : ∀ s label, allows s label → weaker s label) :
    Run step weaker s s' := by
  refine Relation.ReflTransGen.mono ?_ _ _ h
  rintro s s' ⟨label, hlabel, hstep⟩
  exact ⟨label, hle s label hlabel, hstep⟩

/-- What every allowed step preserves, a run preserves. -/
theorem Run.preserves (inv : σ → Prop)
    (preserved : ∀ s label s', allows s label → step s label s' → inv s → inv s')
    (h : Run step allows s s') (hinv : inv s) : inv s' := by
  induction h with
  | refl => exact hinv
  | tail _ hlast ih =>
    obtain ⟨label, hlabel, hstep⟩ := hlast
    exact preserved _ label _ hlabel hstep ih

section Replay

variable (next : σ → ℓ → σ)

/-- The state after a list of labels. -/
def replay : List ℓ → σ → σ
  | [], s => s
  | label :: rest, s => replay rest (next s label)

/-- Every label of a list is allowed when its turn comes. -/
def Replays (allows : σ → ℓ → Prop) : List ℓ → σ → Prop
  | [], _ => True
  | label :: rest, s => allows s label ∧ Replays allows rest (next s label)

/-- A list of labels that are allowed in turn is a run. -/
theorem run_replay {labels : List ℓ} (h : Replays next allows labels s) :
    Run (fun s label s' => s' = next s label) allows s (replay next labels s) := by
  induction labels generalizing s with
  | nil => exact .refl
  | cons label rest ih => exact (Run.single h.1 rfl).trans (ih h.2)

/-- Every list can be replayed where every label is allowed. -/
theorem run_replay_any (labels : List ℓ) :
    Run (fun s label s' => s' = next s label) (fun _ _ => True) s (replay next labels s) := by
  refine run_replay next ?_
  induction labels generalizing s with
  | nil => trivial
  | cons label rest ih => exact ⟨trivial, ih⟩

end Replay

section Histories

variable {α : Type} {justifies : List α → α → Prop} {history : List α} {entry : α}

/-- Each entry of a history is justified by the entries before it. -/
def Justified (justifies : List α → α → Prop) (history : List α) : Prop :=
  ∀ before entry after, history = before ++ entry :: after → justifies before entry

/-- The empty history is justified. -/
theorem justified_nil : Justified justifies [] := by
  intro before entry after h
  simp at h

/-- A justified history grows by a justified entry. -/
theorem Justified.concat (h : Justified justifies history) (hentry : justifies history entry) :
    Justified justifies (history ++ [entry]) := by
  intro before other after hsplit
  rcases List.eq_nil_or_concat after with rfl | ⟨initial, last, rfl⟩
  · obtain ⟨rfl, hsame⟩ := List.append_inj' hsplit rfl
    cases hsame
    exact hentry
  · have hlonger : history ++ [entry] = (before ++ other :: initial) ++ [last] := by
      rw [hsplit, List.concat_eq_append]
      simp only [List.cons_append, List.append_assoc]
    exact h before other initial (List.append_inj' hlonger rfl).1

end Histories

end Wareboxes.LabelledRuns
