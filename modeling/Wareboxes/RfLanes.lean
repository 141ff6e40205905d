import Wareboxes.LabelledRuns
import Wareboxes.RfCommandStore

/-!
# The command lane of the handheld workflows

Each workflow of the device has one lane for the command that is under way: the
command is written, sent, and answered or left open. The workflows repeat the same
lane by hand, so what they share is stated here once, for any type of commands: what
a call may do to the lane, in one call and in a sequence of calls, and how a new
workflow takes a saved command back after a restart. A workflow tells its own
commands from those of the others and looks no further into the latter.
-/

namespace Wareboxes.RfLanes

open RustText LabelledRuns RfCommandStore

/-- `Activity`. -/
inductive Activity where
  | idle | active | persisting | readyToDispatch | inFlight | ambiguous | reconcileRequired
  deriving DecidableEq

/-- `ReleaseReason`. -/
inductive ReleaseReason where
  | workInterrupted | equipmentUnavailable | destinationBlocked | safetyIssue | other
  deriving DecidableEq

/-- The note of a release, trimmed, when something is left of it. -/
def releaseNote (note : Option String) : Option String :=
  (note.map trim).filter fun text => !RustText.isEmpty text

/-- `RfCommand`, as one workflow sees it. -/
inductive RfCommand (C : Type) where
  | own (command : C)
  /-- A command of another workflow. -/
  | other
  deriving DecidableEq

/-- The command is one of the workflow. -/
def RfCommand.isOwn {C : Type} : RfCommand C → Bool
  | .own _ => true
  | .other => false

/-- `DurableCommandDraft`, of the commands that a workflow sees. -/
abbrev Draft (C : Type) := DurableCommandDraft (RfCommand C)

/-- `PersistedCommand`. -/
structure PersistedCommand (C : Type) where
  /-- The row of the command. -/
  recordId : ℤ
  /-- What it asks. -/
  draft : Draft C
  deriving DecidableEq

/-- `WorkflowEffect`. -/
inductive WorkflowEffect (C : Type) where
  | persistCommand (draft : Draft C)
  /-- Send a written command. -/
  | dispatchPersistedCommand (recordId : ℤ)
  deriving DecidableEq

/-- `Transition`. -/
inductive Transition (C : Type) where
  /-- The call changed the workflow. -/
  | applied
  /-- The call had no effect. -/
  | ignored
  /-- The call asks for an effect. -/
  | effect (requested : WorkflowEffect C)

/-- The effect that a transition asks for. -/
def Transition.effect? {C : Type} : Transition C → Option (WorkflowEffect C)
  | .effect requested => some requested
  | .applied | .ignored => none

/-- `Lane`. -/
inductive Lane (C : Type) where
  /-- No command is under way. -/
  | empty
  /-- The command is being written. -/
  | persisting (draft : Draft C)
  /-- The command is written and not sent. -/
  | ready (command : PersistedCommand C)
  /-- The command is being sent. -/
  | inFlight (command : PersistedCommand C)
  /-- Whether the command was done is not known. -/
  | ambiguous (command : PersistedCommand C) (message : String)
  deriving DecidableEq

namespace Lane

variable {C : Type} {lane : Lane C} {command : PersistedCommand C}

/-- The command that is under way. -/
def draft : Lane C → Option (Draft C)
  | .empty => none
  | .persisting draft => some draft
  | .ready command | .inFlight command | .ambiguous command _ => some command.draft

/-- The written command of a lane. -/
def persisted : Lane C → Option (PersistedCommand C)
  | .ready command | .inFlight command | .ambiguous command _ => some command
  | .empty | .persisting _ => none

/-- The command that an outcome is about. -/
def sent : Lane C → Option (PersistedCommand C)
  | .inFlight command | .ambiguous command _ => some command
  | .empty | .persisting _ | .ready _ => none

/-- No command is under way. -/
def isEmpty : Lane C → Bool
  | .empty => true
  | .persisting _ | .ready _ | .inFlight _ | .ambiguous .. => false

/-- `owns_record`. -/
def ownsRecord (recordId : ℤ) (lane : Lane C) : Bool :=
  lane.persisted.any fun command => decide (command.recordId = recordId)

/-- The activity of a workflow that holds work or holds none. -/
def activity (holdsWork : Bool) : Lane C → Activity
  | .persisting _ => .persisting
  | .ready _ => .readyToDispatch
  | .inFlight _ => .inFlight
  | .ambiguous .. => .ambiguous
  | .empty => if holdsWork then .active else .idle

/-- The command of the lane, when it is the one that was written. -/
def written (commandId : String) (recordId : ℤ) : Lane C → Option (PersistedCommand C)
  | .persisting draft => if draft.commandId = commandId then some ⟨recordId, draft⟩ else none
  | .empty | .ready _ | .inFlight _ | .ambiguous .. => none

/-- `dispatch_started`. -/
def dispatchStarted (recordId : ℤ) : Lane C → Lane C
  | .ready command => if command.recordId = recordId then .inFlight command else .ready command
  | lane => lane

/-- `dispatch_ambiguous`. -/
def dispatchAmbiguous (recordId : ℤ) (message : String) : Lane C → Lane C
  | .inFlight command =>
    if command.recordId = recordId then .ambiguous command message else .inFlight command
  | lane => lane

/-- `retry_ambiguous`. -/
def retryAmbiguous : Lane C → Lane C × Option (WorkflowEffect C)
  | .ambiguous command _ => (.ready command, some (.dispatchPersistedCommand command.recordId))
  | lane => (lane, none)

/-- Only the empty lane has no draft. -/
theorem eq_empty_iff_draft : lane = .empty ↔ lane.draft = none := by
  cases lane <;> simp [draft]

/-- The check for the empty lane. -/
theorem isEmpty_iff : lane.isEmpty = true ↔ lane = .empty := by
  cases lane <;> simp [isEmpty]

/-- A stored command keeps its draft in the lane. -/
theorem draft_of_persisted (h : lane.persisted = some command) :
    lane.draft = some command.draft := by
  cases lane with
  | empty | persisting => cases h
  | ready | inFlight | ambiguous =>
    cases h
    rfl

/-- What was sent had been stored. -/
theorem persisted_of_sent (h : lane.sent = some command) : lane.persisted = some command := by
  cases lane with
  | empty | persisting | ready => cases h
  | inFlight | ambiguous =>
    cases h
    rfl

/-- The command that was written is the command under way. -/
theorem draft_of_written {commandId : String} {recordId : ℤ}
    (h : lane.written commandId recordId = some command) :
    lane = .persisting command.draft ∧ command.draft.commandId = commandId ∧
      command.recordId = recordId := by
  cases lane with
  | empty | ready | inFlight | ambiguous => cases h
  | persisting =>
    rw [written] at h
    split_ifs at h with hid
    cases h
    exact ⟨rfl, hid, rfl⟩

/-- The same command is under way in both lanes, under the same row. -/
structure Same (lane lane' : Lane C) : Prop where
  /-- The command is the same. -/
  draft : lane'.draft = lane.draft
  /-- The row is the same. -/
  persisted : lane'.persisted = lane.persisted

/-- A lane has its own command. -/
theorem Same.refl : lane.Same lane := ⟨rfl, rfl⟩

/-- Sending keeps the command. -/
theorem dispatchStarted_same (recordId : ℤ) : lane.Same (lane.dispatchStarted recordId) := by
  cases lane with
  | empty | persisting | inFlight | ambiguous => exact .refl
  | ready =>
    rw [dispatchStarted]
    split_ifs <;> exact ⟨rfl, rfl⟩

/-- An attempt that is left open keeps the command. -/
theorem dispatchAmbiguous_same (recordId : ℤ) (message : String) :
    lane.Same (lane.dispatchAmbiguous recordId message) := by
  cases lane with
  | empty | persisting | ready | ambiguous => exact .refl
  | inFlight =>
    rw [dispatchAmbiguous]
    split_ifs <;> exact ⟨rfl, rfl⟩

/-- Another attempt keeps the command. -/
theorem retryAmbiguous_same : lane.Same lane.retryAmbiguous.1 := by
  cases lane <;> exact ⟨rfl, rfl⟩

/-- The command of another row is not sent. -/
theorem dispatchStarted_of_foreign {recordId : ℤ} (h : lane.ownsRecord recordId = false) :
    lane.dispatchStarted recordId = lane := by
  cases lane with
  | empty | persisting | inFlight | ambiguous => rfl
  | ready => rw [dispatchStarted, if_neg (of_decide_eq_false h)]

/-- The command of another row is not left open. -/
theorem dispatchAmbiguous_of_foreign {recordId : ℤ} (h : lane.ownsRecord recordId = false)
    (message : String) : lane.dispatchAmbiguous recordId message = lane := by
  cases lane with
  | empty | persisting | ready | ambiguous => rfl
  | inFlight => rw [dispatchAmbiguous, if_neg (of_decide_eq_false h)]

/-- The lane owns the record of what it sent. -/
theorem ownsRecord_of_sent {recordId : ℤ} (h : lane.sent = some command)
    (hrecord : command.recordId = recordId) : lane.ownsRecord recordId = true := by
  rw [ownsRecord, persisted_of_sent h]
  exact decide_eq_true hrecord

/-- The start of a dispatch marks the stored command as sent. -/
theorem dispatchStarted_sent (h : lane.persisted = some command) :
    (lane.dispatchStarted command.recordId).sent = some command := by
  cases lane with
  | empty | persisting => cases h
  | inFlight | ambiguous =>
    cases h
    rfl
  | ready =>
    cases h
    rw [dispatchStarted, if_pos rfl]
    rfl

/-- A command of the workflow itself is under way, and a written one has a positive number. -/
structure Sound (lane : Lane C) : Prop where
  /-- The command is one of the workflow. -/
  own : ∀ draft ∈ lane.draft, draft.command.isOwn = true
  /-- A stored command has a record. -/
  positive : ∀ command ∈ lane.persisted, 0 < command.recordId

/-- The empty lane is sound. -/
theorem sound_empty : Sound (.empty : Lane C) where
  own := by rintro draft ⟨⟩
  positive := by rintro command ⟨⟩

/-- A draft of the workflow makes a sound lane. -/
theorem sound_persisting {draft : Draft C} (h : draft.command.isOwn = true) :
    Sound (.persisting draft) where
  own := by
    rintro _ ⟨⟩
    exact h
  positive := by rintro command ⟨⟩

/-- So does a stored command of the workflow. -/
theorem sound_of_persisted (h : lane.persisted = some command)
    (hown : command.draft.command.isOwn = true) (hpositive : 0 < command.recordId) :
    lane.Sound where
  own := by
    intro draft hdraft
    rw [draft_of_persisted h] at hdraft
    cases hdraft
    exact hown
  positive := by
    intro other hother
    rw [h] at hother
    cases hother
    exact hpositive

/-- What keeps the command keeps a lane sound. -/
theorem Sound.frame {lane' : Lane C} (h : lane.Sound) (hsame : lane.Same lane') :
    lane'.Sound where
  own := by rw [hsame.draft]; exact h.own
  positive := by rw [hsame.persisted]; exact h.positive

/-- A command that was written under a positive number keeps a lane sound. -/
theorem Sound.written {commandId : String} {recordId : ℤ} (h : lane.Sound)
    (hwritten : lane.written commandId recordId = some command) (hpositive : 0 < recordId) :
    Sound (.ready command) := by
  obtain ⟨hlane, -, hid⟩ := draft_of_written hwritten
  refine sound_of_persisted rfl (h.own command.draft ?_) (hid ▸ hpositive)
  rw [hlane]
  rfl

end Lane

/-- `activity`. -/
def activityOf {C : Type} (reconcileReason : Option String) (lane : Lane C) (holdsWork : Bool) :
    Activity :=
  if reconcileReason.isSome then .reconcileRequired else lane.activity holdsWork

section Activities

variable {C : Type} {reason : Option String} {lane : Lane C} {holdsWork : Bool}

/-- A reason to reconcile comes before everything else. -/
theorem activityOf_of_reason (h : reason.isSome = true) :
    activityOf reason lane holdsWork = .reconcileRequired := by
  rw [activityOf, if_pos h]

/-- An idle or active workflow has an empty lane. -/
theorem lane_empty_of_activityOf
    (h : activityOf reason lane holdsWork = .idle ∨ activityOf reason lane holdsWork = .active) :
    reason = none ∧ lane = .empty := by
  unfold activityOf at h
  split_ifs at h with hreason
  · simp at h
  · refine ⟨Option.not_isSome_iff_eq_none.mp hreason, ?_⟩
    cases lane <;> simp [Lane.activity] at h ⊢

/-- Only a reason asks for reconciliation. -/
theorem activityOf_eq_reconcileRequired_iff :
    activityOf reason lane holdsWork = .reconcileRequired ↔ reason.isSome = true := by
  refine ⟨fun h => ?_, activityOf_of_reason⟩
  unfold activityOf at h
  split_ifs at h with hreason
  · exact hreason
  · cases lane with
    | empty => cases holdsWork <;> cases h
    | persisting | ready | inFlight | ambiguous => cases h

end Activities

/-- A callback about the command that is under way. -/
inductive Callback where
  /-- The command with an identity was written under a row number. -/
  | written (commandId : String) (recordId : ℤ)
  /-- The command of a row is being sent, or is left open. -/
  | sent (recordId : ℤ)
  /-- The command of a row was done or rejected. -/
  | ended (recordId : ℤ)

section SingleLanes

variable {C : Type} {lane lane' : Lane C} {callback : Option Callback}
  {effect : Option (WorkflowEffect C)}

/-- The callback is one of the command that is under way. -/
def Lane.owns (lane : Lane C) : Callback → Bool
  | .written commandId recordId => (lane.written commandId recordId).isSome
  | .sent recordId | .ended recordId => lane.ownsRecord recordId

/-- What the callback of a command makes of its lane, when it does not keep the command and its
row: the row becomes known, or the lane is empty. -/
def Callback.Moves (lane lane' : Lane C) : Callback → Prop
  | .written commandId recordId =>
    ∃ command ∈ lane.written commandId recordId, lane' = .ready command
  | .ended recordId => lane.ownsRecord recordId = true ∧ lane' = .empty
  | .sent _ => False

/-- What one call may do to the lane: the command under way stays under its row, unless its own
callback brings the row or ends the command; the callback of another command changes nothing; and
a command is handed to the store only from an empty lane, where it then is. -/
structure SingleLane (lane : Lane C) (callback : Option Callback) (lane' : Lane C)
    (effect : Option (WorkflowEffect C)) : Prop where
  /-- The command under way stays, or is moved by its own callback. -/
  kept : lane ≠ .empty → lane.Same lane' ∨ ∃ call ∈ callback, call.Moves lane lane'
  /-- The callback of another command changes nothing. -/
  foreign : ∀ call ∈ callback, lane.owns call = false → lane' = lane
  /-- A command is handed to the store only from an empty lane. -/
  begun : ∀ draft, effect = some (.persistCommand draft) → lane = .empty ∧
    lane' = .persisting draft

/-- A step that keeps the command and writes none. -/
theorem singleLane_of_same (hsame : lane.Same lane')
    (hforeign : ∀ call ∈ callback, lane.owns call = false → lane' = lane)
    (heffect : ∀ draft, effect ≠ some (.persistCommand draft)) :
    SingleLane lane callback lane' effect where
  kept := fun _ => .inl hsame
  foreign := hforeign
  begun := fun draft h => absurd h (heffect draft)

/-- A step that does nothing. -/
theorem singleLane_refl : SingleLane lane callback lane none :=
  singleLane_of_same .refl (fun _ _ _ => rfl) (by rintro _ ⟨⟩)

/-- A step that begins a command in the empty lane. -/
theorem singleLane_persist (draft : Draft C) :
    SingleLane .empty none (.persisting draft) (some (.persistCommand draft)) where
  kept := fun h => absurd rfl h
  foreign := by rintro _ ⟨⟩
  begun := by
    rintro _ ⟨⟩
    exact ⟨rfl, rfl⟩

variable {recordId : ℤ} {command : PersistedCommand C}

/-- The row of the command under way ends it. -/
theorem singleLane_end (h : lane.ownsRecord recordId = true) :
    SingleLane lane (some (.ended recordId)) .empty none where
  kept := fun _ => .inr ⟨_, rfl, h, rfl⟩
  foreign := by
    rintro _ ⟨⟩ hforeign
    exact absurd (h.symm.trans hforeign) (by decide)
  begun := by rintro _ ⟨⟩

/-- The callback after a command was written brings its row. -/
theorem singleLane_written {commandId : String}
    (h : lane.written commandId recordId = some command) :
    SingleLane lane (some (.written commandId recordId)) (.ready command)
      (some (.dispatchPersistedCommand recordId)) where
  kept := fun _ => .inr ⟨_, rfl, command, h, rfl⟩
  foreign := by
    rintro _ ⟨⟩ hforeign
    rw [Lane.owns, h] at hforeign
    cases hforeign
  begun := by rintro _ ⟨⟩

/-- The callbacks about sending keep the command, and concern its own row only. -/
theorem singleLane_sent (hsame : lane.Same lane')
    (hforeign : lane.ownsRecord recordId = false → lane' = lane) :
    SingleLane lane (some (.sent recordId)) lane' none := by
  refine singleLane_of_same hsame ?_ (by rintro _ ⟨⟩)
  rintro _ ⟨⟩
  exact hforeign

/-- A retry sends the same command again. -/
theorem singleLane_retry : SingleLane lane none lane.retryAmbiguous.1 lane.retryAmbiguous.2 := by
  refine singleLane_of_same Lane.retryAmbiguous_same (by rintro _ ⟨⟩) ?_
  cases lane <;> rintro _ ⟨⟩

/-- A saved command that is refused leaves the lane as it is. -/
theorem singleLane_refused_iff {accepted other : Prop} (hrefused : ¬ accepted) :
    SingleLane lane none lane none ↔ ¬ (accepted ∧ other) :=
  iff_of_true singleLane_refl fun h => hrefused h.1

/-- A saved command that is taken back respects the lane unless another command, or the same under
no row or another, is there. -/
theorem singleLane_taken_iff {accepted : Prop} (haccepted : accepted)
    (hlane : lane'.persisted = some command)
    (heffect : ∀ other, effect ≠ some (.persistCommand other)) :
    SingleLane lane none lane' effect ↔
      ¬ (accepted ∧ lane ≠ .empty ∧ lane.persisted ≠ some command) := by
  constructor
  · rintro h ⟨-, hbusy, hother⟩
    rcases h.kept hbusy with hsame | ⟨_, ⟨⟩, -⟩
    exact hother (hsame.persisted.symm.trans hlane)
  · intro h
    refine ⟨fun hbusy => .inl ?_, by rintro _ ⟨⟩, fun other hother => absurd hother (heffect other)⟩
    have hsame : lane.persisted = some command :=
      not_not.mp fun hother => h ⟨haccepted, hbusy, hother⟩
    exact ⟨(Lane.draft_of_persisted hlane).trans (Lane.draft_of_persisted hsame).symm,
      hlane.trans hsame.symm⟩

section Sequences

variable {W E : Type} {laneOf : W → Lane C} {apply : W → E → W × Option (WorkflowEffect C)}
  {callbackOf : E → Option Callback} {intrudes : W → E → Prop} {calls : List E} {w : W}

/-- Every call of a sequence respects the command that is under way at its turn. -/
def SingleThroughout (laneOf : W → Lane C) (apply : W → E → W × Option (WorkflowEffect C))
    (callbackOf : E → Option Callback) : List E → W → Prop :=
  Replays (fun w call => (apply w call).1) fun w call =>
    SingleLane (laneOf w) (callbackOf call) (laneOf (apply w call).1) (apply w call).2

/-- A written command stays, under its row, until its row is ended. -/
theorem SingleThroughout.persisted (h : SingleThroughout laneOf apply callbackOf calls w)
    (hcommand : (laneOf w).persisted = some command)
    (hopen : ∀ call ∈ calls, callbackOf call ≠ some (.ended command.recordId)) :
    (laneOf (replay (fun w call => (apply w call).1) calls w)).persisted = some command := by
  -- The invariant is that the command is the written one; only its own end breaks it.
  induction calls generalizing w with
  | nil => exact hcommand
  | cons call rest ih =>
    have hbusy : laneOf w ≠ .empty := by
      intro hempty
      rw [hempty] at hcommand
      cases hcommand
    refine ih h.2 ?_ fun later hlater => hopen later (List.mem_cons_of_mem call hlater)
    rcases h.1.kept hbusy with hsame | ⟨callback, hcallback, hmoves⟩
    · exact hsame.persisted.trans hcommand
    · cases callback with
      | written =>
        obtain ⟨_, hwritten, -⟩ := hmoves
        rw [(Lane.draft_of_written hwritten).1] at hcommand
        cases hcommand
      | sent => exact hmoves.elim
      | ended =>
        have howns := hmoves.1
        rw [Lane.ownsRecord, hcommand] at howns
        have hrecord := of_decide_eq_true howns
        rw [← hrecord] at hcallback
        exact absurd hcallback (hopen call List.mem_cons_self)

/-- A sequence of calls respects the lane exactly when none of them intrudes at its turn, and then
a written command stays, under its row, until its row is ended. -/
structure SingleUnless (laneOf : W → Lane C) (apply : W → E → W × Option (WorkflowEffect C))
    (callbackOf : E → Option Callback) (intrudes : W → E → Prop) (calls : List E) (w : W) :
    Prop where
  /-- The sequence respects the lane exactly when no call intrudes. -/
  exactly : SingleThroughout laneOf apply callbackOf calls w ↔
    Replays (fun w call => (apply w call).1) (fun w call => ¬ intrudes w call) calls w
  /-- A written command stays until its row is ended. -/
  stays : Replays (fun w call => (apply w call).1) (fun w call => ¬ intrudes w call) calls w →
    ∀ command, (laneOf w).persisted = some command →
      (∀ call ∈ calls, callbackOf call ≠ some (.ended command.recordId)) →
      (laneOf (replay (fun w call => (apply w call).1) calls w)).persisted = some command

/-- What is decided call by call is decided for sequences. -/
theorem singleUnless_of_call
    (hcall : ∀ w call, SingleLane (laneOf w) (callbackOf call) (laneOf (apply w call).1)
      (apply w call).2 ↔ ¬ intrudes w call) :
    SingleUnless laneOf apply callbackOf intrudes calls w := by
  have hexactly : SingleThroughout laneOf apply callbackOf calls w ↔
      Replays (fun w call => (apply w call).1) (fun w call => ¬ intrudes w call) calls w := by
    unfold SingleThroughout
    simp only [hcall]
  exact ⟨hexactly, fun hquiet _ hcommand hopen => (hexactly.mpr hquiet).persisted hcommand hopen⟩

end Sequences

end SingleLanes

section Restarts

/-- How a new workflow takes a saved command back. -/
inductive TakenBack where
  /-- The command was not sent: `restore_ready_command`. -/
  | ready
  /-- The command may have been sent, and its outcome is there: `restore_ambiguous_command`. -/
  | ambiguous (message : String)
  /-- The command may have been sent, and is sent again: `retry_ambiguous` follows. -/
  | retried (message : String)

/-- The calls of a workflow that a restart goes through. -/
class Restartable (W : Type) (C Outcome : outParam Type) where
  /-- `activity`. -/
  activity : W → Activity
  /-- `dispatch_started`. -/
  dispatchStarted : ℤ → W → W
  /-- `durable_outcome_recorded`. -/
  durableOutcomeRecorded : ℤ → Outcome → W → W
  /-- `restore_ready_command`. -/
  restoreReadyCommand : ℤ → Draft C → W → W
  /-- `restore_ambiguous_command`. -/
  restoreAmbiguousCommand : ℤ → Draft C → String → W → W
  /-- `retry_ambiguous`. -/
  retryAmbiguous : W → W

section

variable {W C Outcome : Type} [Restartable W C Outcome]

/-- The command is sent, when that was not done before, and its outcome is recorded. -/
def finish (recordId : ℤ) (outcome : Outcome) (w : W) : W :=
  Restartable.durableOutcomeRecorded recordId outcome (Restartable.dispatchStarted recordId w)

/-- The workflow takes the outcome of its command without asking for a supervisor. -/
def Accepts (w : W) (recordId : ℤ) (outcome : Outcome) : Prop :=
  Restartable.activity (finish recordId outcome w) ≠ .reconcileRequired

/-- A workflow takes a saved command back. -/
def TakenBack.restore (command : PersistedCommand C) (w : W) : TakenBack → W
  | .ready => Restartable.restoreReadyCommand command.recordId command.draft w
  | .ambiguous message =>
    Restartable.restoreAmbiguousCommand command.recordId command.draft message w
  | .retried message => Restartable.retryAmbiguous
    (Restartable.restoreAmbiguousCommand command.recordId command.draft message w)

/-- What both ways to take a command back bring about and another attempt keeps. -/
theorem TakenBack.restore_cases {P : W → Prop} {command : PersistedCommand C} {w : W}
    (hready : P (Restartable.restoreReadyCommand command.recordId command.draft w))
    (hambiguous : ∀ message,
      P (Restartable.restoreAmbiguousCommand command.recordId command.draft message w))
    (hretry : ∀ w, P w → P (Restartable.retryAmbiguous w)) (takenBack : TakenBack) :
    P (takenBack.restore command w) := by
  cases takenBack with
  | ready => exact hready
  | ambiguous message => exact hambiguous message
  | retried message => exact hretry _ (hambiguous message)

end

/-- A workflow whose current work can be loaded too, before a saved command or after it. -/
class Reloadable (W : Type) (C Claim Outcome : outParam Type) extends Restartable W C Outcome where
  /-- The work that is held. -/
  claim : W → Option Claim
  /-- The command that is under way. -/
  lane : W → Lane C
  /-- Why a supervisor has to look at the device. -/
  reconcileReason : W → Option String
  /-- `restore_current_claim`. -/
  restoreCurrentClaim : Option Claim → W → W
  /-- The workflow with another lane. -/
  setLane : Lane C → W → W
  /-- The saved commands that are taken back. -/
  Takes : PersistedCommand C → Prop
  /-- Another lane leaves the rest. -/
  set_kept : ∀ l w, lane (setLane l w) = l ∧ claim (setLane l w) = claim w ∧
    reconcileReason (setLane l w) = reconcileReason w
  /-- A saved command fills the lane. -/
  ready_eq : ∀ {c w}, Takes c → restoreReadyCommand c.recordId c.draft w = setLane (.ready c) w
  /-- So does one of unknown outcome. -/
  ambiguous_eq : ∀ {c w} message, Takes c →
    restoreAmbiguousCommand c.recordId c.draft message w = setLane (.ambiguous c message) w
  /-- Another attempt moves the lane only. -/
  retry_eq : ∀ w, retryAmbiguous w = setLane (lane w).retryAmbiguous.1 w
  /-- The current work is loaded when no command is under way. -/
  load_empty : ∀ loaded {w}, lane w = .empty → reconcileReason w = none →
    claim (restoreCurrentClaim loaded w) = loaded ∧
      reconcileReason (restoreCurrentClaim loaded w) = none
  /-- Otherwise nothing happens. -/
  load_busy : ∀ loaded {w}, lane w ≠ .empty → restoreCurrentClaim loaded w = w

/-- What a new workflow is given: the saved command, and the current work before it, after it or
not at all. -/
structure Recovery (Claim : Type) where
  /-- The current work, when it is loaded before the command. -/
  before : Option (Option Claim)
  /-- How the command is taken back. -/
  takenBack : TakenBack
  /-- The current work, when it is loaded after the command. -/
  after : Option (Option Claim)

section

open Reloadable

variable {W C Claim Outcome : Type} [Reloadable W C Claim Outcome] {w : W}
  {command : PersistedCommand C}

/-- The current work is loaded, or nothing happens. -/
def loadClaim (loaded : Option (Option Claim)) (w : W) : W :=
  match loaded with
  | none => w
  | some claim => restoreCurrentClaim claim w

/-- A new workflow with a saved command. -/
def Recovery.restore (recovery : Recovery Claim) (command : PersistedCommand C) (new : W) : W :=
  loadClaim recovery.after
    (recovery.takenBack.restore command (loadClaim recovery.before new))

/-- The command is the written one, the work is held, and no supervisor is asked for. -/
def Awaits (command : PersistedCommand C) (held : Option Claim) (w : W) : Prop :=
  (lane w).persisted = some command ∧ claim w = held ∧ reconcileReason w = none

/-- A lane with the command is set, and nothing else changes. -/
theorem awaits_setLane {l : Lane C} (hlane : l.persisted = some command)
    (hquiet : reconcileReason w = none) : Awaits command (claim w) (setLane l w) := by
  obtain ⟨hset, hclaim, hreason⟩ := set_kept l w
  exact ⟨by rw [hset, hlane], hclaim, hreason.trans hquiet⟩

/-- A workflow that takes a command back has it as its written command. -/
theorem TakenBack.restore_state (takenBack : TakenBack) (htakes : Takes W command)
    (hquiet : reconcileReason w = none) :
    Awaits command (claim w) (takenBack.restore command w) := by
  refine TakenBack.restore_cases ?_ (fun message => ?_) (fun taken h => ?_) takenBack
  · rw [ready_eq htakes]
    exact awaits_setLane rfl hquiet
  · rw [ambiguous_eq message htakes]
    exact awaits_setLane rfl hquiet
  · rw [retry_eq, ← h.2.1]
    exact awaits_setLane (Lane.retryAmbiguous_same.persisted.trans h.1) h.2.2

/-- Work that is loaded after the command is not looked at. -/
theorem loadClaim_of_persisted (h : (lane w).persisted = some command)
    (loaded : Option (Option Claim)) : loadClaim loaded w = w := by
  cases loaded with
  | none => rfl
  | some claim =>
    refine load_busy claim fun hempty => ?_
    rw [hempty] at h
    cases h

/-- A new workflow holds the saved command and the work that was loaded before it. -/
theorem Recovery.restore_state (recovery : Recovery Claim) (htakes : Takes W command)
    (hlane : lane w = .empty) (hclaim : claim w = none) (hquiet : reconcileReason w = none) :
    Awaits command recovery.before.join (recovery.restore command w) := by
  have hloaded : claim (loadClaim recovery.before w) = recovery.before.join ∧
      reconcileReason (loadClaim recovery.before w) = none := by
    cases recovery.before with
    | none => exact ⟨hclaim, hquiet⟩
    | some held => exact load_empty held hlane hquiet
  have htaken := recovery.takenBack.restore_state htakes hloaded.2
  unfold Recovery.restore
  rw [loadClaim_of_persisted htaken.1, ← hloaded.1]
  exact htaken

end

end Restarts

end Wareboxes.RfLanes
