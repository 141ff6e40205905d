import Wareboxes.EdgeMoves

/-!
# The transition helpers make moves

Each audited transition of the store is one move, and the quarantine of a
device is a sequence of moves after which no command of the device is live.
No invariant of the store is needed for this: a transition that finds
something else than it expects halts instead.
-/

namespace Wareboxes.TransitionMoves

open RustTime EdgeTypes EdgeCommands Transactions.Transaction EdgeTables
open EdgeTransitions CommandLife EdgeMoves LabelledRuns KeyedTables.KeyedTable

variable {s s' : Store} {commandId : String} {out : Unit}

/-- A successful update of a command found its row and rewrote it alone. -/
theorem updateCommand_ok {guard : CommandRow → Bool}
    {rewrite : CommandRow → CommandRow} {hkey : ∀ row, (rewrite row).key = row.key}
    {refusal : StoreError}
    (h : updateCommand commandId guard rewrite hkey refusal s = .ok (out, s')) :
    ∃ row table, s.command? commandId = some row ∧ guard row = true ∧
      s' = { s with commands := table } ∧
      ∀ other, table.find? other =
        if other = commandId then some (rewrite row) else s.command? other := by
  unfold updateCommand at h
  rw [gets_bind, orFail_bind_ok] at h
  obtain ⟨table, hfound, h⟩ := h
  cases h
  obtain ⟨row, hrow, hguard, hrows⟩ := updateOne?_eq_some hfound
  exact ⟨row, table, hrow, hguard, rfl, find?_updateOne hkey hrow hrows⟩

variable {deviceId : DeviceId}

/-- A loader finds the device and reads it back. -/
theorem loadDevice_ok {status : DeviceStatus} :
    loadDevice deviceId s = .ok (status, s') ↔
      s' = s ∧ ∃ device, s.device? deviceId = some device ∧
        device.consecutiveHealthFailures ≤ maxU32 ∧ status = statusOf device := by
  unfold loadDevice
  simp only [gets_bind, orFail_bind_ok, lift_ok, decodeDevice_ok]
  constructor
  · rintro ⟨device, hfound, hdecode, hstate⟩
    exact ⟨hstate, device, hfound, hdecode⟩
  · rintro ⟨hstate, device, hfound, hdecode⟩
    exact ⟨device, hfound, hdecode, hstate⟩

/-- A loader finds the command and reads it back. -/
theorem loadCommand_ok {record : CommandRecord} :
    loadCommand commandId s = .ok (record, s') ↔
      s' = s ∧ ∃ row, s.command? commandId = some row ∧ Readable row ∧ record = recordOf row := by
  unfold loadCommand
  simp only [gets_bind, orFail_bind_ok, lift_ok, decodeCommand_ok]
  constructor
  · rintro ⟨row, hfound, hdecode, hstate⟩
    exact ⟨hstate, row, hfound, hdecode⟩
  · rintro ⟨hstate, row, hfound, hdecode⟩
    exact ⟨row, hfound, hdecode, hstate⟩

variable {now : DateTime} {reason : String}

/-- Appending to the audit trail changes nothing else. -/
theorem appendCommandEvent_ok {fromState : Option CommandState}
    {toState : CommandState} {actor : Option ActorId}
    (h : appendCommandEvent commandId fromState toState actor reason now s = .ok (out, s')) :
    s' = { s with commandEvents := s.commandEvents ++
      [⟨commandId, fromState, toState, actor, reason, now.timestampMillis⟩] } := by
  cases h
  rfl

/-- A view by its parts. -/
theorem viewOf_eq {v : CommandView} (hrow : s.command? commandId = v.row)
    (hattempts : s.attemptsOf commandId = v.attempts)
    (hevents : s.eventsOf commandId = v.events) : viewOf s commandId = v := by
  unfold viewOf
  rw [hrow, hattempts, hevents]

/-- A change of one command as a move: its new view is given by its parts, and the parts of
every other view are as they were. -/
theorem move_of_parts {event : LifeEvent}
    {v' : CommandView} (hmove : CommandMove (viewOf s commandId) event now v')
    (hguard : DeviceGuard s commandId event)
    (hself : s'.command? commandId = v'.row ∧ s'.attemptsOf commandId = v'.attempts ∧
      s'.eventsOf commandId = v'.events)
    (hother : ∀ other, other ≠ commandId → s'.command? other = s.command? other ∧
      s'.attemptsOf other = s.attemptsOf other ∧ s'.eventsOf other = s.eventsOf other)
    (hrest : s'.devices = s.devices ∧ s'.controlEvents = s.controlEvents ∧
      s'.deliveries = s.deliveries) : Move s (.command commandId event now) s' := by
  refine .command ?_ ?_ hrest.1 hrest.2.1 hrest.2.2 hguard
  · rw [viewOf_eq hself.1 hself.2.1 hself.2.2]
    exact hmove
  · intro other hne
    obtain ⟨hrow, hattempts, hevents⟩ := hother other hne
    exact viewOf_eq hrow hattempts hevents

/-- An unleased transition is one move. -/
theorem transitionUnleased_move {transition : UnleasedTransition}
    (h : transitionUnleased now transition s = .ok (out, s'))
    (hshift : isShift transition.fromState transition.toState = true)
    (hguard : DeviceGuard s transition.commandId
      (.shifted transition.fromState transition.toState transition.resolutionNote)) :
    Move s (.command transition.commandId
      (.shifted transition.fromState transition.toState transition.resolutionNote) now) s' := by
  obtain ⟨_, mid, hupdate, happend⟩ := bind_ok.mp h
  obtain ⟨row, table, hrow, hmatch, rfl, hfind⟩ := updateCommand_ok hupdate
  obtain rfl := appendCommandEvent_ok happend
  simp only [Bool.and_eq_true, decide_eq_true_eq, Option.isNone_iff_eq_none] at hmatch
  have hkey : row.key = transition.commandId := key_of_find? hrow
  refine move_of_parts (.shifted hrow hmatch.1 hmatch.2 hshift) hguard ⟨?_, rfl, ?_⟩ ?_
    ⟨rfl, rfl, rfl⟩
  · exact (hfind _).trans (if_pos rfl)
  · rw [hkey]
    exact filter_concat_self rfl rfl
  · intro other hother
    exact ⟨(hfind other).trans (if_neg hother), rfl, filter_concat_other rfl hother.symm⟩

/-- Rewriting attempts inside their commands commutes with selecting a command. -/
theorem attemptsOf_map {rewrite : AttemptRow → AttemptRow}
    (hrows : s'.attempts.rows = s.attempts.rows.map rewrite)
    (hcommand : ∀ row, (rewrite row).commandId = row.commandId) (commandId : String) :
    s'.attemptsOf commandId = (s.attemptsOf commandId).map rewrite := by
  unfold Store.attemptsOf
  rw [hrows, List.filter_map]
  congr 1
  apply List.filter_congr
  intro row _
  simp only [Function.comp, hcommand]

theorem commandId_of_mem_attemptsOf {attempt : AttemptRow}
    (h : attempt ∈ s.attemptsOf commandId) : attempt.commandId = commandId := by
  simpa using (List.mem_filter.mp h).2

/-- The count that the abandonment checks is that of the command's active attempts. -/
theorem countWhere_isActiveOf (commandId : String) :
    s.attempts.countWhere (isActiveOf commandId) = countActive (s.attemptsOf commandId) := by
  unfold countWhere countActive Store.attemptsOf isActiveOf
  rw [List.countP_filter]
  apply List.countP_congr
  intro row _
  simp only [Bool.and_eq_true, decide_eq_true_eq]
  exact and_comm

/-- A successful abandonment rewrote the one active attempt of the command. -/
theorem abandonActiveAttempt_ok {commandId reason : String}
    (h : abandonActiveAttempt commandId reason now s = .ok (out, s')) :
    countActive (s.attemptsOf commandId) = 1 ∧
      (∃ table, s' = { s with attempts := table }) ∧
      s'.attemptsOf commandId = (s.attemptsOf commandId).map (fun attempt =>
        if attempt.state = .active then abandonAttempt reason now attempt else attempt) ∧
      ∀ other, other ≠ commandId → s'.attemptsOf other = s.attemptsOf other := by
  unfold abandonActiveAttempt at h
  rw [gets_bind, modify_bind, ensure_ok, countWhere_isActiveOf] at h
  obtain ⟨hone, hs⟩ := h
  have hrows : s'.attempts.rows = s.attempts.rows.map fun row =>
      if isActiveOf commandId row then abandonAttempt reason now row else row := by
    rw [hs]
    rfl
  have hmap := attemptsOf_map hrows (by intro row; split <;> rfl)
  refine ⟨hone, ⟨_, hs⟩, ?_, ?_⟩
  · rw [hmap]
    apply List.map_congr_left
    intro attempt hattempt
    simp only [isActiveOf, commandId_of_mem_attemptsOf hattempt, decide_true, Bool.true_and,
      decide_eq_true_eq]
  · intro other hother
    rw [hmap]
    conv_rhs => rw [← List.map_id (s.attemptsOf other)]
    apply List.map_congr_left
    intro attempt hattempt
    have hne : attempt.commandId ≠ commandId := by
      rw [commandId_of_mem_attemptsOf hattempt]
      exact hother
    simp only [isActiveOf, hne, decide_false, Bool.false_and, Bool.false_eq_true, if_false, id]

variable {actor : ActorId}

/-- Abandoning the attempt and moving the command is one move. -/
theorem abandon_move {mid : Store} {commandId reason : String} {target : CommandState}
    {out out' : Unit} (habandon : abandonActiveAttempt commandId reason now s = .ok (out, mid))
    (hmove : transitionLeasedWithoutToken commandId target (some actor) reason now mid =
      .ok (out', s')) (htarget : isRevocation target = true) :
    Move s (.command commandId (.abandoned target reason) now) s' := by
  obtain ⟨hone, ⟨attempts, rfl⟩, hself, hothers⟩ := abandonActiveAttempt_ok habandon
  obtain ⟨_, mid', hupdate, happend⟩ := bind_ok.mp hmove
  obtain ⟨row, table, hrow, hmatch, rfl, hfind⟩ := updateCommand_ok hupdate
  obtain rfl := appendCommandEvent_ok happend
  simp only [decide_eq_true_eq] at hmatch
  have hkey : row.key = commandId := key_of_find? hrow
  have hlife : CommandMove (viewOf s commandId) (.abandoned target reason) now
      ⟨some (revokeLease target reason now row),
        (s.attemptsOf commandId).map fun attempt =>
          if attempt.state = .active then abandonAttempt reason now attempt else attempt,
        s.eventsOf commandId ++ [⟨row.key, some .executing, target, some actor, reason,
          now.timestampMillis⟩]⟩ := .abandoned hrow hmatch hone htarget
  refine move_of_parts hlife trivial ⟨?_, ?_, ?_⟩ ?_ ⟨rfl, rfl, rfl⟩
  · exact (hfind _).trans (if_pos rfl)
  · exact hself
  · rw [hkey]
    exact filter_concat_self rfl rfl
  · intro other hother
    exact ⟨(hfind other).trans (if_neg hother), hothers other hother,
      filter_concat_other rfl hother.symm⟩

/-- The moves of a quarantine of some commands, for a reason. -/
inductive IsQuarantine (targets : String → Prop) (reason : String) (now : DateTime) :
    MoveLabel → Prop where
  | abandoned {commandId : String} (h : targets commandId) :
      IsQuarantine targets reason now (.command commandId (.abandoned .manualReview reason) now)
  | shifted {commandId : String} (fromState : CommandState) (h : targets commandId) :
      IsQuarantine targets reason now
        (.command commandId (.shifted fromState .manualReview none) now)

theorem isShift_manualReview {state : CommandState} (hlive : state.isLive = true)
    (hidle : state ≠ .executing) : isShift state .manualReview = true := by
  cases state <;> first | rfl | exact absurd rfl hidle | cases hlive

/-- Taking one live command out of automation is one move. -/
theorem quarantineCommand_move {listed : CommandRow} {targets : String → Prop}
    (h : quarantineCommand actor reason now listed s = .ok (out, s'))
    (hlive : listed.state.isLive = true) (htarget : targets listed.key) :
    ∃ event, IsQuarantine targets reason now (.command listed.key event now) ∧
      event.target = .manualReview ∧ Move s (.command listed.key event now) s' := by
  unfold quarantineCommand at h
  split_ifs at h with hstate
  · obtain ⟨_, mid, habandon, hmove⟩ := bind_ok.mp h
    exact ⟨_, .abandoned htarget, rfl, abandon_move habandon hmove rfl⟩
  · refine ⟨_, .shifted _ htarget, rfl, transitionUnleased_move h ?_ ?_⟩
    · exact isShift_manualReview hlive hstate
    · intro hqueued
      cases hqueued

/-- The commands that a quarantine lists are the live commands of the device. -/
theorem mem_liveCommands {row : CommandRow} :
    row ∈ liveCommands deviceId s ↔
      s.command? row.key = some row ∧ row.request.deviceId = deviceId ∧
        row.state.isLive = true := by
  unfold liveCommands
  rw [mem_selection, Bool.and_eq_true, decide_eq_true_eq]
  rfl

/-- A quarantine is a sequence of moves that leaves the devices alone, and after which no
command of the device is live. -/
theorem quarantineDeviceCommands_moves
    (h : quarantineDeviceCommands deviceId actor reason now s = .ok (out, s')) :
    Moves (IsQuarantine (LiveOn s deviceId) reason now) s s' ∧ s'.devices = s.devices ∧
      NoLiveCommands s' deviceId := by
  unfold quarantineDeviceCommands at h
  rw [gets_bind] at h
  have hend := loop_invariant (fun rest _ t =>
      Moves (IsQuarantine (LiveOn s deviceId) reason now) s t ∧ t.devices = s.devices ∧
      (∀ listed ∈ rest, listed ∈ liveCommands deviceId s) ∧
      ∀ commandId row, t.command? commandId = some row → row.request.deviceId = deviceId →
        row.state.isLive = true → ∃ listed ∈ rest, listed.key = commandId) ?_ ?_ h
  · obtain ⟨hmoves, hdevices, _, hrest⟩ := hend
    refine ⟨hmoves, hdevices, ?_⟩
    intro commandId row hrow hdevice
    by_contra hlive
    rw [Bool.not_eq_false] at hlive
    obtain ⟨listed, hlisted, _⟩ := hrest commandId row hrow hdevice hlive
    cases hlisted
  · rintro listed rest _ t _ t' ⟨hmoves, hdevices, hall, hrest⟩ hbody
    obtain ⟨hstored, honDevice, hlisted⟩ := mem_liveCommands.mp (hall listed List.mem_cons_self)
    have hlive : LiveOn s deviceId listed.key := ⟨listed, hstored, honDevice, hlisted⟩
    obtain ⟨event, hlabel, htarget, hmove⟩ := quarantineCommand_move hbody hlisted hlive
    refine ⟨hmoves.trans (.single hlabel hmove), hmove.command_devices.trans hdevices,
      fun other hother => hall other (List.mem_cons_of_mem _ hother), ?_⟩
    intro commandId row hrow hdevice hlive
    by_cases hself : commandId = listed.key
    · obtain ⟨row', hrow', hstate⟩ := hmove.command_self
      rw [hself, hrow'] at hrow
      cases hrow
      rw [hstate, htarget] at hlive
      cases hlive
    · rw [hmove.command_other hself] at hrow
      obtain ⟨other, hother, hkey⟩ := hrest commandId row hrow hdevice hlive
      rcases List.mem_cons.mp hother with rfl | hother
      · exact absurd hkey.symm hself
      · exact ⟨other, hother, hkey⟩
  · refine ⟨.refl, rfl, fun listed hlisted => hlisted, ?_⟩
    intro commandId row hrow hdevice hlive
    have hkey : row.key = commandId := key_of_find? hrow
    exact ⟨row, mem_liveCommands.mpr ⟨hkey ▸ hrow, hdevice, hlive⟩, hkey⟩

/-- A control change of a device is one move; into a restrictive mode it needs a device
without live commands. -/
theorem updateDeviceMode_move {device : DeviceRow} {target : ControlMode}
    (h : updateDeviceMode (statusOf device) target actor reason now s = .ok (out, s'))
    (hdevice : s.device? device.key = some device)
    (hquarantine : target ≠ .automatic → NoLiveCommands s device.key) :
    Move s (.control device.key target) s' := by
  unfold updateDeviceMode at h
  rw [ensure_bind_ok] at h
  obtain ⟨_, h⟩ := h
  cases h
  exact .control hdevice (setControlMode_key target actor reason now device) rfl rfl
    (find?_updateWhere_key hdevice) ⟨rfl, rfl, rfl⟩ hquarantine

/-- The moves of a forced fallback. -/
inductive IsFallback (targets : String → Prop) (reason : String) (now : DateTime) :
    MoveLabel → Prop where
  | quarantine {label : MoveLabel} (h : IsQuarantine targets reason now label) :
      IsFallback targets reason now label
  | control (deviceId : DeviceId) :
      IsFallback targets reason now (.control deviceId .manualFallback)

/-- A fallback of more commands. -/
theorem IsFallback.mono {targets more : String → Prop} {label : MoveLabel}
    (h : IsFallback targets reason now label)
    (hle : ∀ commandId, targets commandId → more commandId) :
    IsFallback more reason now label := by
  cases h with
  | quarantine hquarantine =>
    cases hquarantine with
    | abandoned htarget => exact .quarantine (.abandoned (hle _ htarget))
    | shifted fromState htarget => exact .quarantine (.shifted fromState (hle _ htarget))
  | control deviceId => exact .control deviceId

/-- A forced fallback is a sequence of moves. -/
theorem forceManualFallback_moves
    (h : forceManualFallback deviceId actor reason now s = .ok (out, s')) :
    Moves (IsFallback (LiveOn s deviceId) reason now) s s' := by
  obtain ⟨existing, mid, hload, hrest⟩ := bind_ok.mp h
  obtain ⟨rfl, device, hdevice, _, rfl⟩ := loadDevice_ok.mp hload
  obtain ⟨_, quarantined, hquarantine, hlast⟩ := bind_ok.mp hrest
  obtain ⟨hmoves, hdevices, hnone⟩ := quarantineDeviceCommands_moves hquarantine
  have hmoves' : Moves (IsFallback (LiveOn mid deviceId) reason now) mid quarantined :=
    hmoves.mono fun label hlabel => .quarantine hlabel
  have hkey : device.key = deviceId := key_of_find? hdevice
  subst hkey
  have hdevice' : quarantined.device? device.key = some device := by
    unfold Store.device? at hdevice ⊢
    rw [hdevices]
    exact hdevice
  split_ifs at hlast with hmode
  · have hmove := updateDeviceMode_move hlast hdevice' fun _ => hnone
    exact hmoves'.trans (Run.single (IsFallback.control _) hmove)
  · cases hlast
    exact hmoves'

end Wareboxes.TransitionMoves
