import Wareboxes.EdgeRuns

/-!
# Quarantine and audit trails over whole runs

Two properties of the store that hold after any sequence of calls by any
processes: a device that is not in automatic mode has no command that the
automation could still move, and the histories of commands and devices tell
without a gap how their present state came about.
-/

namespace Wareboxes.EdgeSafety

open EdgeTypes EdgeCommands EdgeTables AuditChains CommandLife EdgeInvariants EdgeRuns
open LabelledRuns

theorem isLive_eq_false {state : CommandState} (h : state.isLive = false) :
    state ≠ .queued ∧ state ≠ .executing ∧ state ≠ .retryWait ∧ state ≠ .recoveryWait := by
  revert h
  cases state <;> decide

/-- In every run, no command of a device outside automatic mode is queued, executing or
waiting. -/
theorem restricted_device_has_no_live_command {σ : EdgeState} (h : EdgeRun anyCall .initial σ)
    {deviceId : DeviceId} {device : DeviceRow} (hdevice : σ.store.device? deviceId = some device)
    (hmode : device.controlMode ≠ .automatic) {commandId : String} {row : CommandRow}
    (hrow : σ.store.command? commandId = some row) (hcommand : row.request.deviceId = deviceId) :
    row.state ≠ .queued ∧ row.state ≠ .executing ∧ row.state ≠ .retryWait ∧
      row.state ≠ .recoveryWait :=
  isLive_eq_false ((run_storeInvariant h).quarantined deviceId device hdevice hmode commandId row
    hrow hcommand)

/-- The theorem at a command that was submitted to the disabled scale. -/
theorem restricted_device_has_no_live_command_when_disabled :
    ∃ device row, (afterEarlySubmission .probeThenRetry).store.device? packingScale.deviceId =
        some device ∧ device.controlMode ≠ .automatic ∧
      (afterEarlySubmission .probeThenRetry).store.command? "tare-1" = some row ∧
      row.state ≠ .queued ∧ row.state ≠ .executing ∧ row.state ≠ .retryWait ∧
      row.state ≠ .recoveryWait := by
  have hrun : EdgeRun anyCall .initial (afterEarlySubmission .probeThenRetry) :=
    run_replay_any EdgeState.next _
  have hdisabled : ((afterEarlySubmission .probeThenRetry).store.device?
      packingScale.deviceId).map DeviceRow.controlMode = some .disabled := by
    decide +kernel
  have hstored : ((afterEarlySubmission .probeThenRetry).store.command? "tare-1").map
      (fun row => row.request.deviceId) = some packingScale.deviceId := by
    decide +kernel
  obtain ⟨device, hdevice, hmode⟩ := Option.map_eq_some_iff.mp hdisabled
  obtain ⟨row, hrow, hcommand⟩ := Option.map_eq_some_iff.mp hstored
  have hrestricted : device.controlMode ≠ .automatic := by
    rw [hmode]
    decide
  exact ⟨device, row, hdevice, hrestricted, hrow,
    restricted_device_has_no_live_command hrun hdevice hrestricted hrow hcommand⟩

/-- In every run, the audit trail of each command leads without a gap from nothing to its
present state, no entry of any audit trail leaves a terminal state, and the control history of
each device leads without a gap from nothing to its present mode. -/
theorem histories_linked {σ : EdgeState} (h : EdgeRun anyCall .initial σ) :
    (∀ commandId row, σ.store.command? commandId = some row →
      Linked none ((σ.store.eventsOf commandId).map CommandEventRow.transition)
        (some row.state)) ∧
    (∀ event ∈ σ.store.commandEvents, ∀ before, event.fromState = some before →
      before.isTerminal = false) ∧
    (∀ deviceId device, σ.store.device? deviceId = some device →
      Linked none ((σ.store.controlEventsOf deviceId).map controlTransition)
        (some device.controlMode)) := by
  have hσ := run_storeInvariant h
  refine ⟨?_, ?_, ?_⟩
  · intro commandId row hrow
    have hlinked := (hσ.views commandId).linked
    rw [show (viewOf σ.store commandId).row = some row from hrow] at hlinked
    exact hlinked
  · intro event hevent
    refine (hσ.views event.commandId).final event ?_
    exact List.mem_filter.mpr ⟨hevent, decide_eq_true rfl⟩
  · intro deviceId device hdevice
    have hlinked := hσ.controlled deviceId
    rw [hdevice] at hlinked
    exact hlinked

/-- The theorem at a claimed command: its trail leads to execution. -/
theorem histories_linked_while_executing :
    ∃ row, (afterClaim .manualReview).store.command? "tare-1" = some row ∧
      row.state = .executing ∧
      Linked none (((afterClaim .manualReview).store.eventsOf "tare-1").map
        CommandEventRow.transition) (some .executing) := by
  have hstored : ((afterClaim .manualReview).store.command? "tare-1").map CommandRow.state =
      some .executing := by
    decide +kernel
  obtain ⟨row, hrow, hstate⟩ := Option.map_eq_some_iff.mp hstored
  have hlinked := (histories_linked (run_replay_any EdgeState.next
    (claimedRun .manualReview))).1 "tare-1" row hrow
  rw [hstate] at hlinked
  exact ⟨row, hrow, hstate, hlinked⟩

end Wareboxes.EdgeSafety
