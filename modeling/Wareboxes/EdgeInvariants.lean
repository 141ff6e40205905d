import Wareboxes.OperationMoves

/-!
# Invariants of the edge store

The invariants of this module relate commands and devices: a device outside
automatic mode has no live command, a device executes at most one command,
every command belongs to a registered device, and the control history of each
device is linked. Together with the well-formedness of every single command
they are preserved by every move, and so by every operation.
-/

namespace Wareboxes.EdgeInvariants

open RustTime EdgeTypes KeyedTables EdgeTables EdgeTransitions EdgeOperations EdgeClaims
open EdgeStoreCalls AuditChains CommandLife EdgeMoves OperationMoves

/-- The transition that an entry of a control history records. -/
def controlTransition (event : ControlEventRow) : Option ControlMode × ControlMode :=
  (event.fromMode, event.toMode)

/-- What holds of the whole store at any time. -/
structure StoreInvariant (s : Store) : Prop where
  /-- Every command is well formed. -/
  views : ∀ commandId, WellFormed (viewOf s commandId)
  /-- Every command belongs to a registered device. -/
  housed : ∀ commandId row, s.command? commandId = some row →
    (s.device? row.request.deviceId).isSome = true
  /-- A device outside automatic mode has no live command. -/
  quarantined : ∀ deviceId device, s.device? deviceId = some device →
    device.controlMode ≠ .automatic → NoLiveCommands s deviceId
  /-- A device executes at most one command. -/
  exclusive : ∀ first second row row', s.command? first = some row →
    s.command? second = some row' → row.request.deviceId = row'.request.deviceId →
    row.state = .executing → row'.state = .executing → first = second
  /-- The failure counter of every device can be read back. -/
  counters : ∀ deviceId device, s.device? deviceId = some device →
    device.consecutiveHealthFailures ≤ maxU32
  /-- The control history of every device is linked and ends in its mode. -/
  controlled : ∀ deviceId, Linked none ((s.controlEventsOf deviceId).map controlTransition)
    ((s.device? deviceId).map DeviceRow.controlMode)

theorem storeInvariant_initial : StoreInvariant .initial where
  views _ := wellFormed_absent
  housed _ _ h := by cases h
  quarantined _ _ h := by cases h
  exclusive _ _ _ _ h := by cases h
  counters _ _ h := by cases h
  controlled _ := rfl

variable {s s' : Store} {label : MoveLabel} {deviceId : DeviceId} {commandId : String}
  {device : DeviceRow} {event : LifeEvent} {now : DateTime}

theorem isAutomatic_iff :
    isAutomatic s deviceId = true ↔
      ∃ device, s.device? deviceId = some device ∧ device.controlMode = .automatic := by
  unfold isAutomatic
  cases s.device? deviceId with
  | none | some => simp

/-- An idle device executes nothing. -/
theorem isBusy_eq_false (h : isBusy s deviceId = false) {row : CommandRow}
    (hrow : s.command? commandId = some row) (hdevice : row.request.deviceId = deviceId) :
    row.state ≠ .executing := by
  intro hstate
  have hbusy : isBusy s deviceId = true :=
    List.any_eq_true.mpr ⟨row, (KeyedTable.find?_eq_some.mp hrow).1, by simp [hdevice, hstate]⟩
  rw [hbusy] at h
  cases h

theorem move_views (h : Move s label s') (hviews : ∀ commandId, WellFormed (viewOf s commandId)) :
    ∀ commandId, WellFormed (viewOf s' commandId) := by
  intro commandId
  rcases h.view_cases commandId with hsame | ⟨event, now, _, hmove, _⟩
  · rw [hsame]
    exact hviews commandId
  · exact hmove.wellFormed (hviews commandId)

/-- Commands stay with registered devices. -/
theorem move_housed (h : Move s label s')
    (hhoused : ∀ commandId row, s.command? commandId = some row →
      (s.device? row.request.deviceId).isSome = true) :
    ∀ commandId row, s'.command? commandId = some row →
      (s'.device? row.request.deviceId).isSome = true := by
  intro commandId row' hrow'
  apply h.device_isSome
  rcases h.view_cases commandId with hsame | ⟨event, now, _, hmove, hguard⟩
  · exact hhoused commandId row' ((congrArg CommandView.row hsame).symm.trans hrow')
  · rcases hmove.request_cases hrow' with ⟨row, hrow, hrequest⟩ | ⟨mode, rfl, _⟩
    · rw [hrequest]
      exact hhoused commandId row hrow
    · obtain ⟨device, hdevice, _⟩ := hguard
      rw [hdevice]
      rfl

/-- A command that moves on a device outside automatic mode does not become live. -/
theorem not_live_of_restricted {row' : CommandRow}
    (hmove : CommandMove (viewOf s commandId) event now (viewOf s' commandId))
    (hguard : DeviceGuard s commandId event) (hrow' : s'.command? commandId = some row')
    (hdevice : s.device? row'.request.deviceId = some device)
    (hmode : device.controlMode ≠ .automatic) (hnone : NoLiveCommands s row'.request.deviceId) :
    row'.state.isLive = false := by
  have hrestricted : isAutomatic s row'.request.deviceId ≠ true := by
    intro hautomatic
    obtain ⟨other, hother, hmode'⟩ := isAutomatic_iff.mp hautomatic
    rw [hdevice] at hother
    cases hother
    exact hmode hmode'
  generalize hv' : viewOf s' commandId = v' at hmove
  have hrow : v'.row = some row' := by
    rw [← hv']
    exact hrow'
  cases hmove with
  | submitted =>
    cases hrow
    obtain ⟨other, hother, hsame, _⟩ := hguard
    obtain rfl : other = device := Option.some.inj (hother.symm.trans hdevice)
    subst hsame
    rw [newCommandRow_state]
    unfold submissionStatus
    rw [if_neg hmode]
    rfl
  | claimed hbefore _ _ _ _ henvelope _ =>
    cases hrow
    obtain ⟨hautomatic, _⟩ := hguard
    rw [henvelope] at hautomatic
    exact absurd hautomatic hrestricted
  | finished hbefore hstate _ _ _ _ _ | abandoned hbefore hstate _ _ =>
    cases hrow
    have hlive := hnone commandId _ hbefore rfl
    rw [hstate] at hlive
    cases hlive
  | @shifted before transition now hbefore _ _ hshift =>
    cases hrow
    rw [UnleasedTransition.rewrite_state]
    have hqueued : transition.toState ≠ .queued := by
      intro hqueued
      exact hrestricted (hguard hqueued before hbefore)
    revert hshift hqueued
    cases transition.fromState <;> cases transition.toState <;> decide

theorem move_quarantined (h : Move s label s') (hs : StoreInvariant s) :
    ∀ deviceId device, s'.device? deviceId = some device → device.controlMode ≠ .automatic →
      NoLiveCommands s' deviceId := by
  intro deviceId device hdevice hmode
  rcases h.device_cases deviceId with hsame | ⟨hchange, hcommands⟩
  · rw [hsame] at hdevice
    have hnone := hs.quarantined deviceId device hdevice hmode
    intro commandId row' hrow' hrequest
    rcases h.view_cases commandId with hview | ⟨event, now, _, hmove, hguard⟩
    · exact hnone commandId row' ((congrArg CommandView.row hview).symm.trans hrow') hrequest
    · subst hrequest
      exact not_live_of_restricted hmove hguard hrow' hdevice hmode hnone
  · have hnone : NoLiveCommands s deviceId := by
      cases hchange with
      | registered _ hfree =>
        intro commandId row hrow hrequest
        have hhoused := hs.housed commandId row hrow
        rw [hrequest, hfree] at hhoused
        cases hhoused
      | control hafter _ _ hquarantine =>
        rw [hafter] at hdevice
        cases hdevice
        exact hquarantine hmode
      | health hafter hbefore hmode' _ =>
        rw [hafter] at hdevice
        cases hdevice
        exact hs.quarantined deviceId _ hbefore (hmode' ▸ hmode)
    intro commandId row hrow
    unfold Store.command? at hrow
    rw [hcommands] at hrow
    exact hnone commandId row hrow

/-- A command that starts to execute is alone on its device. -/
theorem executing_alone {commandId other : String} {row' row : CommandRow}
    (hmove : CommandMove (viewOf s commandId) event now (viewOf s' commandId))
    (hguard : DeviceGuard s commandId event) (hrow' : s'.command? commandId = some row')
    (hexecuting : row'.state = .executing) (hrow : s.command? other = some row)
    (hdevice : row.request.deviceId = row'.request.deviceId) : row.state ≠ .executing := by
  obtain ⟨claim, maxAttempts, rfl⟩ :=
    hmove.claimed_of_executing ((hmove.state_eq hrow').symm.trans hexecuting)
  change (viewOf s' commandId).row = some row' at hrow'
  generalize hv' : viewOf s' commandId = v' at hmove hrow'
  cases hmove with
  | claimed _ _ _ _ _ henvelope _ =>
    cases hrow'
    obtain ⟨_, hidle⟩ := hguard
    refine isBusy_eq_false hidle hrow ?_
    rw [henvelope, hdevice, lease_request]

/-- Devices keep executing at most one command. -/
theorem move_exclusive (h : Move s label s') (hs : StoreInvariant s) :
    ∀ first second row row', s'.command? first = some row → s'.command? second = some row' →
      row.request.deviceId = row'.request.deviceId → row.state = .executing →
      row'.state = .executing → first = second := by
  intro first second row row' hrow hrow' hdevice hstate hstate'
  rcases h.view_cases first with hfirst | ⟨event, now, hlabel, hmove, hguard⟩
  · have hbefore := (congrArg CommandView.row hfirst).symm.trans hrow
    rcases h.view_cases second with hsecond | ⟨event, now, _, hmove, hguard⟩
    · have hbefore' := (congrArg CommandView.row hsecond).symm.trans hrow'
      exact hs.exclusive first second row row' hbefore hbefore' hdevice hstate hstate'
    · exact absurd hstate (executing_alone hmove hguard hrow' hstate' hbefore hdevice)
  · rcases h.view_cases second with hsecond | ⟨event', now', hlabel', _, _⟩
    · have hbefore' := (congrArg CommandView.row hsecond).symm.trans hrow'
      exact absurd hstate' (executing_alone hmove hguard hrow hstate hbefore' hdevice.symm)
    · rw [hlabel] at hlabel'
      cases hlabel'
      rfl

theorem move_counters (h : Move s label s') (hs : StoreInvariant s) :
    ∀ deviceId device, s'.device? deviceId = some device →
      device.consecutiveHealthFailures ≤ maxU32 := by
  intro deviceId device hdevice
  rcases h.device_cases deviceId with hsame | ⟨hchange, _⟩
  · exact hs.counters deviceId device (hsame.symm.trans hdevice)
  · cases hchange with
    | registered hafter _ _ hfailures =>
      rw [hafter] at hdevice
      cases hdevice
      rw [hfailures]
      exact Nat.zero_le _
    | control hafter hbefore hfailures _ =>
      rw [hafter] at hdevice
      cases hdevice
      rw [hfailures]
      exact hs.counters deviceId _ hbefore
    | health hafter _ _ hfailures =>
      rw [hafter] at hdevice
      cases hdevice
      exact hfailures

/-- An entry that starts at the mode of its device and ends at the new one keeps the
control histories linked. -/
theorem controlled_concat {event : ControlEventRow}
    (hevents : s'.controlEvents = s.controlEvents ++ [event])
    (hfind : ∀ other, s'.device? other = if other = device.key then some device else
      s.device? other) (hdevice : event.deviceId = device.key)
    (hfrom : event.fromMode = (s.device? device.key).map DeviceRow.controlMode)
    (hto : event.toMode = device.controlMode)
    (hs : ∀ deviceId, Linked none ((s.controlEventsOf deviceId).map controlTransition)
      ((s.device? deviceId).map DeviceRow.controlMode)) :
    ∀ deviceId, Linked none ((s'.controlEventsOf deviceId).map controlTransition)
      ((s'.device? deviceId).map DeviceRow.controlMode) := by
  intro deviceId
  by_cases hsame : deviceId = device.key
  · subst hsame
    rw [Store.controlEventsOf, KeyedTable.filter_concat_self hevents hdevice, hfind, if_pos rfl,
      List.map_append]
    refine linked_concat.mpr ⟨?_, congrArg some hto.symm⟩
    rw [hfrom]
    exact hs device.key
  · rw [Store.controlEventsOf, KeyedTable.filter_concat_other hevents (hdevice ▸ Ne.symm hsame),
      hfind, if_neg hsame]
    exact hs deviceId

theorem move_controlled (h : Move s label s') (hs : StoreInvariant s) :
    ∀ deviceId, Linked none ((s'.controlEventsOf deviceId).map controlTransition)
      ((s'.device? deviceId).map DeviceRow.controlMode) := by
  cases h with
  | command _ _ hdevices hcontrol =>
    intro deviceId
    unfold Store.controlEventsOf Store.device?
    rw [hdevices, hcontrol]
    exact hs.controlled deviceId
  | registered hfree hmode _ hfind hevent =>
    refine controlled_concat rfl hfind hevent.1 ?_ (hevent.2.2.trans hmode.symm) hs.controlled
    rw [hevent.2.1, hfree]
    rfl
  | @control device device' table event hdevice hkey _ _ hfind hevent _ =>
    rw [← hkey] at hfind hdevice hevent
    refine controlled_concat rfl hfind hevent.1 ?_ hevent.2.2 hs.controlled
    rw [hevent.2.1, hdevice]
    rfl
  | @health device device' table _ hdevice _ hmode _ hfind =>
    intro deviceId
    have hsame : (table.find? deviceId).map DeviceRow.controlMode =
        (s.device? deviceId).map DeviceRow.controlMode := by
      rw [hfind]
      split_ifs with hkey
      · rw [hkey, hdevice, Option.map_some, Option.map_some, hmode]
      · rfl
    change Linked none _ ((table.find? deviceId).map DeviceRow.controlMode)
    rw [hsame]
    exact hs.controlled deviceId
  | delivery => exact hs.controlled

theorem move_storeInvariant (h : Move s label s') (hs : StoreInvariant s) : StoreInvariant s' where
  views := move_views h hs.views
  housed := move_housed h hs.housed
  quarantined := move_quarantined h hs
  exclusive := move_exclusive h hs
  counters := move_counters h hs
  controlled := move_controlled h hs

theorem exec_storeInvariant {ids : FreshIds} {call : StoreCall} {answer : call.Answer}
    (h : call.exec ids s = .ok (answer, s')) (hs : StoreInvariant s) : StoreInvariant s' :=
  (exec_moves h).preserves StoreInvariant (fun _ _ _ _ hmove => move_storeInvariant hmove) hs

end Wareboxes.EdgeInvariants
