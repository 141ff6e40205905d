import Wareboxes.CommandLife
import Wareboxes.EdgeDeliveries
import Wareboxes.LabelledRuns

/-!
# Moves of the edge store

Every successful operation of the store is a sequence of moves, each of which
changes one command, one device or one delivery and leaves everything else as
it was. The moves carry the guards under which the operations make them, so
that an invariant of the store only has to be checked against the moves.
-/

namespace Wareboxes.EdgeMoves

open RustTime EdgeTypes EdgeCommands KeyedTables EdgeTables EdgeOperations EdgeClaims
open EdgeDeliveries CommandLife LabelledRuns

/-- What a move changes. -/
inductive MoveLabel where
  | command (commandId : String) (event : LifeEvent) (now : DateTime)
  | registered (deviceId : DeviceId)
  | control (deviceId : DeviceId) (target : ControlMode)
  | health (deviceId : DeviceId)
  | delivery (cloudCommandId : ℤ)

/-- No command of a device is queued, executing or waiting. -/
def NoLiveCommands (s : Store) (deviceId : DeviceId) : Prop :=
  ∀ commandId row, s.command? commandId = some row → row.request.deviceId = deviceId →
    row.state.isLive = false

/-- The device has the scope and the class of the request. -/
def Serves (device : DeviceRow) (request : CommandRequest) : Prop :=
  device.descriptor.tenantId = request.tenantId ∧
    device.descriptor.facilityId = request.facilityId ∧
    device.descriptor.deviceClass = request.command.deviceClass

/-- What an operation has seen of the device before it moves a command. A submission has also
seen that no stored command shares an identity with its request. -/
def DeviceGuard (s : Store) (commandId : String) : LifeEvent → Prop
  | .submitted request mode =>
    ∃ device, s.device? request.deviceId = some device ∧ device.controlMode = mode ∧
      Serves device request ∧ commandIdentityCandidates request s = []
  | .claimed claim _ =>
    isAutomatic s claim.envelope.request.deviceId = true ∧
      isBusy s claim.envelope.request.deviceId = false
  | .shifted _ toState _ =>
    toState = .queued → ∀ row, s.command? commandId = some row →
      isAutomatic s row.request.deviceId = true
  | .finished .. | .abandoned .. => True

/-- One change of the store. -/
inductive Move (s : Store) : MoveLabel → Store → Prop where
  /-- One command changes, under its guard. -/
  | command {commandId : String} {event : LifeEvent} {now : DateTime} {s' : Store}
      (hview : CommandMove (viewOf s commandId) event now (viewOf s' commandId))
      (hframe : ∀ other, other ≠ commandId → viewOf s' other = viewOf s other)
      (hdevices : s'.devices = s.devices) (hcontrol : s'.controlEvents = s.controlEvents)
      (hdeliveries : s'.deliveries = s.deliveries) (hguard : DeviceGuard s commandId event) :
      Move s (.command commandId event now) s'
  | registered {device : DeviceRow} {table : KeyedTable DeviceRow.key} {event : ControlEventRow}
      (hfree : s.device? device.key = none) (hmode : device.controlMode = .disabled)
      (hfailures : device.consecutiveHealthFailures = 0)
      (hfind : ∀ other, table.find? other =
        if other = device.key then some device else s.device? other)
      (hevent : event.deviceId = device.key ∧ event.fromMode = none ∧ event.toMode = .disabled) :
      Move s (.registered device.key)
        { s with devices := table, controlEvents := s.controlEvents ++ [event] }
  /-- The mode of a device changes; a restrictive mode finds no live commands. -/
  | control {device device' : DeviceRow} {table : KeyedTable DeviceRow.key}
      {event : ControlEventRow} (hdevice : s.device? device.key = some device)
      (hkey : device'.key = device.key) (hdescriptor : device'.descriptor = device.descriptor)
      (hfailures : device'.consecutiveHealthFailures = device.consecutiveHealthFailures)
      (hfind : ∀ other, table.find? other =
        if other = device.key then some device' else s.device? other)
      (hevent : event.deviceId = device.key ∧ event.fromMode = some device.controlMode ∧
        event.toMode = device'.controlMode)
      (hquarantine : device'.controlMode ≠ .automatic → NoLiveCommands s device.key) :
      Move s (.control device.key device'.controlMode)
        { s with devices := table, controlEvents := s.controlEvents ++ [event] }
  | health {device device' : DeviceRow} {table : KeyedTable DeviceRow.key}
      {event : HeartbeatEventRow} (hdevice : s.device? device.key = some device)
      (hdescriptor : device'.descriptor = device.descriptor)
      (hmode : device'.controlMode = device.controlMode)
      (hfailures : device'.consecutiveHealthFailures ≤ maxU32)
      (hfind : ∀ other, table.find? other =
        if other = device.key then some device' else s.device? other) :
      Move s (.health device.key)
        { s with devices := table, heartbeatEvents := s.heartbeatEvents ++ [event] }
  /-- A delivery is stored or changed; an acknowledgement is kept, or has a revision. -/
  | delivery {cloudCommandId : ℤ} {row : DeliveryRow} {table : KeyedTable DeliveryRow.key}
      (hfind : ∀ other, table.find? other =
        if other = cloudCommandId then some row else s.delivery? other)
      (hrevision : row.acknowledgementRevision = some 0 → ∃ old,
        s.delivery? cloudCommandId = some old ∧ old.acknowledgementRevision = some 0) :
      Move s (.delivery cloudCommandId) { s with deliveries := table }

section CommandFacts

variable {s s' : Store} {commandId : String} {event : LifeEvent} {now : DateTime}

section

variable (h : Move s (.command commandId event now) s')
include h

theorem Move.command_other {other : String} (hother : other ≠ commandId) :
    s'.command? other = s.command? other := by
  cases h with
  | command _ hframe => exact congrArg CommandView.row (hframe other hother)

theorem Move.command_self : ∃ row, s'.command? commandId = some row ∧ row.state = event.target := by
  cases h with
  | command hview _ _ _ _ _ =>
    obtain ⟨row, hrow, hstate, _⟩ := hview.reaches
    exact ⟨row, hrow, hstate⟩

theorem Move.command_devices : s'.devices = s.devices := by
  cases h with
  | command _ _ hdevices => exact hdevices

end

end CommandFacts

section FrameFacts

variable {s s' : Store} {label : MoveLabel}

/-- A move leaves a command as it was, unless it is a move of that command. -/
theorem Move.view_cases (h : Move s label s') (commandId : String) :
    viewOf s' commandId = viewOf s commandId ∨
      ∃ event now, label = .command commandId event now ∧
        CommandMove (viewOf s commandId) event now (viewOf s' commandId) ∧
        DeviceGuard s commandId event := by
  cases h with
  | @command moved event now _ hview hframe _ _ _ hguard =>
    by_cases hsame : commandId = moved
    · subst hsame
      exact .inr ⟨event, now, rfl, hview, hguard⟩
    · exact .inl (hframe commandId hsame)
  | registered | control | health | delivery => exact .inl rfl

/-- How a move changes one device. -/
inductive DeviceChange (s : Store) (deviceId : DeviceId) (after : Option DeviceRow) : Prop where
  /-- The device is new, disabled and without failures. -/
  | registered {device : DeviceRow} (hafter : after = some device)
      (hfree : s.device? deviceId = none) (hmode : device.controlMode = .disabled)
      (hfailures : device.consecutiveHealthFailures = 0)
  /-- The device has a new mode. -/
  | control {device device' : DeviceRow} (hafter : after = some device')
      (hdevice : s.device? deviceId = some device)
      (hfailures : device'.consecutiveHealthFailures = device.consecutiveHealthFailures)
      (hquarantine : device'.controlMode ≠ .automatic → NoLiveCommands s deviceId)
  | health {device device' : DeviceRow} (hafter : after = some device')
      (hdevice : s.device? deviceId = some device)
      (hmode : device'.controlMode = device.controlMode)
      (hfailures : device'.consecutiveHealthFailures ≤ maxU32)

theorem Move.device_cases (h : Move s label s') (deviceId : DeviceId) :
    s'.device? deviceId = s.device? deviceId ∨
      DeviceChange s deviceId (s'.device? deviceId) ∧ s'.commands = s.commands := by
  cases h with
  | command _ _ hdevices _ _ _ =>
    refine .inl ?_
    unfold Store.device?
    rw [hdevices]
  | @registered device table _ hfree hmode hfailures hfind _ =>
    by_cases hsame : deviceId = device.key
    · subst hsame
      exact .inr ⟨.registered ((hfind _).trans (if_pos rfl)) hfree hmode hfailures, rfl⟩
    · exact .inl ((hfind deviceId).trans (if_neg hsame))
  | @control device device' table _ hdevice _ _ hfailures hfind _ hquarantine =>
    by_cases hsame : deviceId = device.key
    · subst hsame
      exact .inr ⟨.control ((hfind _).trans (if_pos rfl)) hdevice hfailures hquarantine, rfl⟩
    · exact .inl ((hfind deviceId).trans (if_neg hsame))
  | @health device device' table _ hdevice _ hmode hfailures hfind =>
    by_cases hsame : deviceId = device.key
    · subst hsame
      exact .inr ⟨.health ((hfind _).trans (if_pos rfl)) hdevice hmode hfailures, rfl⟩
    · exact .inl ((hfind deviceId).trans (if_neg hsame))
  | delivery => exact .inl rfl

/-- A command of a device that is queued, executing or waiting. -/
def LiveOn (s : Store) (deviceId : DeviceId) (commandId : String) : Prop :=
  ∃ row, s.command? commandId = some row ∧ row.request.deviceId = deviceId ∧
    row.state.isLive = true

/-- The moves that bring a command to life. -/
inductive Revives : MoveLabel → Prop where
  | submitted (commandId : String) (request : CommandRequest) (mode : ControlMode)
      (now : DateTime) : Revives (.command commandId (.submitted request mode) now)
  | queued (commandId : String) (fromState : CommandState) (note : Option String)
      (now : DateTime) : Revives (.command commandId (.shifted fromState .queued note) now)

variable {deviceId : DeviceId}

/-- A command that is live after a move was live before, unless the move revives it. -/
theorem Move.liveOn_before (h : Move s label s') (hlabel : ¬Revives label) {commandId : String}
    (hlive : LiveOn s' deviceId commandId) : LiveOn s deviceId commandId := by
  obtain ⟨row', hrow', hdevice, hstate'⟩ := hlive
  rcases h.view_cases commandId with hsame | ⟨event, now, rfl, hmove, _⟩
  · exact ⟨row', (congrArg CommandView.row hsame).symm.trans hrow', hdevice, hstate'⟩
  rcases hmove.request_cases hrow' with ⟨row, hrow, hrequest⟩ | ⟨mode, rfl, _⟩
  · refine ⟨row, hrow, (congrArg CommandRequest.deviceId hrequest).symm.trans hdevice, ?_⟩
    cases event with
    | submitted => exact absurd (.submitted _ _ _ _) hlabel
    | claimed =>
      obtain ⟨before, _, hbefore, hwait, _⟩ := hmove.claimed_inv
      obtain rfl : row = before := Option.some.inj (hrow.symm.trans hbefore)
      revert hwait
      cases row.state <;> decide
    | finished =>
      obtain ⟨before, _, hbefore, hexecuting, _⟩ := hmove.finished_inv
      obtain rfl : row = before := Option.some.inj (hrow.symm.trans hbefore)
      rw [hexecuting]
      rfl
    | abandoned =>
      obtain ⟨before, hbefore, hexecuting, _⟩ := hmove.abandoned_inv
      obtain rfl : row = before := Option.some.inj (hrow.symm.trans hbefore)
      rw [hexecuting]
      rfl
    | shifted fromState toState _ =>
      obtain ⟨_, _, _, hshift, _⟩ := hmove.shifted_inv
      rw [hmove.state_eq hrow', LifeEvent.target] at hstate'
      have hqueued : toState = .queued := by
        revert hshift hstate'
        cases fromState <;> cases toState <;> decide
      subst hqueued
      exact absurd (.queued _ _ _ _) hlabel
  · exact absurd (.submitted _ _ _ _) hlabel

theorem Move.device_isSome (h : Move s label s') (hdevice : (s.device? deviceId).isSome = true) :
    (s'.device? deviceId).isSome = true := by
  rcases h.device_cases deviceId with hsame | ⟨hchange, _⟩
  · rw [hsame]
    exact hdevice
  · cases hchange with
    | registered hafter | control hafter | health hafter => rw [hafter]; rfl

end FrameFacts

/-- A sequence of moves with admitted labels. -/
abbrev Moves (admits : MoveLabel → Prop) : Store → Store → Prop :=
  Run Move fun _ label => admits label

section MoveSequences

variable {admits weaker : MoveLabel → Prop} {s s' : Store}

theorem Moves.mono (h : Moves admits s s') (hle : ∀ label, admits label → weaker label) :
    Moves weaker s s' :=
  Run.mono h fun _ label => hle label

/-- A command that is live after moves that revive nothing was live before. -/
theorem moves_liveOn_before (h : Moves admits s s')
    (hadmits : ∀ label, admits label → ¬Revives label)
    {deviceId : DeviceId} {commandId : String} (hlive : LiveOn s' deviceId commandId) :
    LiveOn s deviceId commandId := by
  refine h.preserves (fun t => LiveOn t deviceId commandId → LiveOn s deviceId commandId) ?_ id
    hlive
  intro t label t' hlabel hmove ih hafter
  exact ih (hmove.liveOn_before (hadmits label hlabel) hafter)

end MoveSequences

end Wareboxes.EdgeMoves
