import Wareboxes.EdgeRuns

/-!
# Leases are exclusive, and losing them never corrupts the store

A lease recovery reads the list of expired commands before it moves the first
of them, and a fallback that it forces moves other commands of the same
device. This module shows that the recovery still finds every listed command
as it was listed: a device executes at most one command, so that a fallback
never touches a command that the recovery has yet to move.
-/

namespace Wareboxes.LeaseDiscipline

open RustTime EdgeTypes EdgeCommands KeyedTables Transactions Transactions.Transaction
open EdgeTables EdgeTransitions EdgeOperations EdgeClaims CommandLife EdgeMoves TransitionMoves
open OperationMoves EdgeInvariants EdgeRuns LabelledRuns

variable {s s' : Store} {row : CommandRow} {now : DateTime} {actor : ActorId} {reason : String}
  {listed : CommandRow} {deviceId : DeviceId} {agent : ActorId} {halt : Halt StoreError}

/-- An update of a stored command that meets the condition succeeds. -/
theorem updateCommand_succeeds {commandId : String} {guard : CommandRow → Bool}
    {rewrite : CommandRow → CommandRow} {hkey : ∀ row, (rewrite row).key = row.key}
    {refusal : StoreError} (hrow : s.command? commandId = some row) (hguard : guard row = true) :
    ∃ s', updateCommand commandId guard rewrite hkey refusal s = .ok ((), s') := by
  obtain ⟨table, htable⟩ := KeyedTable.updateOne?_of_find? hrow hguard
  refine ⟨{ s with commands := table }, ?_⟩
  unfold updateCommand
  rw [gets_bind, htable]
  rfl

/-- Taking the lease of an executing command away succeeds. -/
theorem abandon_succeeds {target : CommandState} (hs : StoreInvariant s)
    (hrow : s.command? row.key = some row) (hstate : row.state = .executing) :
    ∃ mid s', abandonActiveAttempt row.key reason now s = .ok ((), mid) ∧
      transitionLeasedWithoutToken row.key target (some actor) reason now mid = .ok ((), s') := by
  have hone : countActive (s.attemptsOf row.key) = 1 := by
    have hactive := (hs.views row.key).active row hrow
    rwa [if_pos hstate] at hactive
  have habandon : ∃ mid, abandonActiveAttempt row.key reason now s = .ok ((), mid) ∧
      mid.command? row.key = some row := by
    unfold abandonActiveAttempt
    rw [gets_bind, modify_bind]
    exact ⟨_, ensure_ok.mpr ⟨(countWhere_isActiveOf row.key).trans hone, rfl⟩, hrow⟩
  obtain ⟨mid, habandoned, hrow'⟩ := habandon
  obtain ⟨updated, hupdated⟩ := @updateCommand_succeeds mid row row.key
    (fun row => decide (row.state = .executing)) (revokeLease target reason now)
    (revokeLease_key target reason now) (.leaseMismatch row.key) hrow' (decide_eq_true hstate)
  exact ⟨mid, _, habandoned, bind_ok.mpr ⟨(), updated, hupdated, rfl⟩⟩

/-- Taking a live command out of automation succeeds. -/
theorem quarantineCommand_succeeds (hs : StoreInvariant s)
    (hrow : s.command? listed.key = some listed) :
    ∃ s', quarantineCommand actor reason now listed s = .ok ((), s') := by
  unfold quarantineCommand
  split_ifs with hstate
  · obtain ⟨mid, s', habandon, hmove⟩ := @abandon_succeeds s listed now actor reason .manualReview
      hs hrow hstate
    exact ⟨s', (bind_of_ok habandon).trans hmove⟩
  · have htoken : listed.leaseToken = none := by
      have hiff := (hs.views listed.key).token listed hrow
      rw [← Option.not_isSome_iff_eq_none, ← hiff]
      exact hstate
    obtain ⟨updated, hupdated⟩ := @updateCommand_succeeds s listed listed.key
      (fun row => decide (row.state = listed.state) && row.leaseToken.isNone)
      (UnleasedTransition.rewrite
        ⟨listed.key, listed.state, .manualReview, some actor, reason, none, none⟩ now)
      (UnleasedTransition.rewrite_key _ now)
      (.invalidTransition listed.key listed.state CommandState.manualReview.asStr) hrow
      (by simp [htoken])
    exact ⟨_, bind_ok.mpr ⟨(), updated, hupdated, rfl⟩⟩

/-- A command of another device is not touched by the move of a listed command. -/
def KeepsOtherDevices (deviceId : DeviceId) (s s' : Store) : Prop :=
  ∀ commandId row, s.command? commandId = some row → row.request.deviceId ≠ deviceId →
    s'.command? commandId = some row

/-- Taking a device out of automation succeeds and leaves the commands of other devices
alone. -/
theorem quarantineDeviceCommands_succeeds (hs : StoreInvariant s) :
    ∃ s', quarantineDeviceCommands deviceId actor reason now s = .ok ((), s') ∧
      StoreInvariant s' ∧ KeepsOtherDevices deviceId s s' := by
  unfold quarantineDeviceCommands
  rw [gets_bind]
  have hloop := @loop_succeeds _ _ _ _ (fun listed _ => quarantineCommand actor reason now listed)
    (liveCommands deviceId s) (fun rest _ t => StoreInvariant t ∧ (rest.map CommandRow.key).Nodup ∧
      (∀ listed ∈ rest, t.command? listed.key = some listed ∧
        listed.request.deviceId = deviceId ∧ listed.state.isLive = true) ∧
      KeepsOtherDevices deviceId s t) ?_ () s ?_
  · obtain ⟨_, s', hrun, hs', _, _, hkeeps⟩ := hloop
    exact ⟨s', hrun, hs', hkeeps⟩
  · rintro listed rest _ t ⟨ht, hnodup, hall, hkeeps⟩
    obtain ⟨hrow, hdevice, hlive⟩ := hall listed List.mem_cons_self
    obtain ⟨t', ht'⟩ := @quarantineCommand_succeeds t now actor reason listed ht hrow
    have hlisted : LiveOn t deviceId listed.key := ⟨listed, hrow, hdevice, hlive⟩
    obtain ⟨event, _, _, hmove⟩ := quarantineCommand_move ht' hlive hlisted
    rw [List.map_cons, List.nodup_cons] at hnodup
    refine ⟨(), t', ht', move_storeInvariant hmove ht, hnodup.2, ?_, ?_⟩
    · intro other hother
      have hne : other.key ≠ listed.key := fun he => hnodup.1 (he ▸ List.mem_map_of_mem hother)
      rw [hmove.command_other hne]
      exact hall other (List.mem_cons_of_mem _ hother)
    · intro commandId row hbefore hother
      have hstored := hkeeps commandId row hbefore hother
      have hne : commandId ≠ listed.key := by
        rintro rfl
        rw [hrow] at hstored
        cases hstored
        exact hother hdevice
      rw [hmove.command_other hne]
      exact hstored
  · refine ⟨hs, s.commands.nodup_selection _ submittedBefore, ?_, fun _ _ hrow _ => hrow⟩
    intro listed hlisted
    exact mem_liveCommands.mp hlisted

theorem loadDevice_succeeds {device : DeviceRow} (hs : StoreInvariant s)
    (hdevice : s.device? deviceId = some device) :
    loadDevice deviceId s = .ok (statusOf device, s) :=
  loadDevice_ok.mpr ⟨rfl, device, hdevice, hs.counters deviceId device hdevice, rfl⟩

/-- A forced fallback of a registered device succeeds and leaves the commands of other devices
alone. -/
theorem forceManualFallback_succeeds (hs : StoreInvariant s)
    (hdevice : (s.device? deviceId).isSome = true) (hreason : admitsControlReason reason) :
    ∃ s', forceManualFallback deviceId actor reason now s = .ok ((), s') ∧
      StoreInvariant s' ∧ KeepsOtherDevices deviceId s s' := by
  obtain ⟨device, hdevice⟩ := Option.isSome_iff_exists.mp hdevice
  obtain ⟨mid, hquarantine, _, hkeeps⟩ :=
    @quarantineDeviceCommands_succeeds s now actor reason deviceId hs
  have hmode : ∃ s', (if (statusOf device).controlMode ≠ .manualFallback then
      updateDeviceMode (statusOf device) .manualFallback actor reason now else pure ()) mid =
        .ok ((), s') ∧ s'.commands = mid.commands := by
    split_ifs
    · unfold updateDeviceMode
      exact ⟨_, ensure_bind_ok.mpr ⟨hreason, rfl⟩, rfl⟩
    · exact ⟨mid, rfl, rfl⟩
  obtain ⟨s', hrest, hcommands⟩ := hmode
  have hrun : forceManualFallback deviceId actor reason now s = .ok ((), s') := by
    unfold forceManualFallback
    rw [bind_of_ok (loadDevice_succeeds hs hdevice), bind_of_ok hquarantine]
    exact hrest
  refine ⟨s', hrun, ?_, ?_⟩
  · exact (forceManualFallback_moves hrun).preserves StoreInvariant
      (fun _ _ _ _ hmove => move_storeInvariant hmove) hs
  · intro commandId row hrow hother
    unfold Store.command?
    rw [hcommands]
    exact hkeeps commandId row hrow hother

theorem admitsControlReason_expiry (policy : RecoveryPolicy) :
    admitsControlReason (expiryTarget policy).2 := by
  cases policy <;> decide +kernel

/-- Recovering an executing command succeeds and leaves the commands of other devices alone. -/
theorem recoverCommand_succeeds {summary : LeaseRecoverySummary} (hs : StoreInvariant s)
    (hrow : s.command? listed.key = some listed) (hstate : listed.state = .executing) :
    ∃ s', recoverCommand agent now listed summary s =
        .ok (summary.count listed.request.recoveryPolicy, s') ∧
      StoreInvariant s' ∧ KeepsOtherDevices listed.request.deviceId s s' := by
  obtain ⟨mid, moved, habandon, hmoved⟩ := @abandon_succeeds s listed now agent
    (expiryTarget listed.request.recoveryPolicy).2
    (expiryTarget listed.request.recoveryPolicy).1 hs hrow hstate
  have hmove := abandon_move habandon hmoved (isRevocation_expiryTarget _)
  have hinvariant := move_storeInvariant hmove hs
  have hkeeps : KeepsOtherDevices listed.request.deviceId s moved := by
    intro commandId row hbefore hother
    have hne : commandId ≠ listed.key := by
      rintro rfl
      rw [hrow] at hbefore
      cases hbefore
      exact hother rfl
    rw [hmove.command_other hne]
    exact hbefore
  have hfallback : ∃ s', fallbackAfterExpiry listed agent now moved = .ok ((), s') ∧
      StoreInvariant s' ∧ KeepsOtherDevices listed.request.deviceId moved s' := by
    unfold fallbackAfterExpiry
    split_ifs
    · refine forceManualFallback_succeeds hinvariant ?_ (admitsControlReason_expiry _)
      exact hmove.device_isSome (hs.housed listed.key listed hrow)
    · exact ⟨moved, rfl, hinvariant, fun _ _ hrow _ => hrow⟩
  obtain ⟨s', hlast, hs', hkeeps'⟩ := hfallback
  refine ⟨s', ?_, hs', fun commandId row hbefore hother =>
    hkeeps' commandId row (hkeeps commandId row hbefore hother) hother⟩
  unfold recoverCommand
  rw [bind_of_ok habandon, bind_of_ok hmoved, bind_of_ok hlast]
  rfl

theorem recoverExpiredLeases_succeeds (hs : StoreInvariant s) :
    ∃ summary s', recoverExpiredLeases now agent s = .ok (summary, s') := by
  unfold recoverExpiredLeases
  rw [gets_bind]
  have hloop := @loop_succeeds _ _ _ _ (recoverCommand agent now) (expiredCommands now s)
    (fun rest _ t => StoreInvariant t ∧ (rest.map CommandRow.key).Nodup ∧
      ∀ listed ∈ rest, t.command? listed.key = some listed ∧ listed.state = .executing)
    ?_ ⟨0, 0, 0⟩ s ?_
  · obtain ⟨summary, s', hrun, _⟩ := hloop
    exact ⟨summary, s', hrun⟩
  · rintro listed rest summary t ⟨ht, hnodup, hall⟩
    obtain ⟨hrow, hstate⟩ := hall listed List.mem_cons_self
    obtain ⟨t', hrun, ht', hkeeps⟩ :=
      @recoverCommand_succeeds t now listed agent summary ht hrow hstate
    rw [List.map_cons, List.nodup_cons] at hnodup
    refine ⟨_, t', hrun, ht', hnodup.2, ?_⟩
    intro other hother
    obtain ⟨hrow', hstate'⟩ := hall other (List.mem_cons_of_mem _ hother)
    refine ⟨hkeeps other.key other hrow' fun hdevice => ?_, hstate'⟩
    have hsame := ht.exclusive other.key listed.key other listed hrow' hrow hdevice hstate' hstate
    exact hnodup.1 (hsame ▸ List.mem_map_of_mem hother)
  · refine ⟨hs, s.commands.nodup_selection _ submittedBefore, ?_⟩
    intro listed hlisted
    obtain ⟨hrow, hexpired⟩ := mem_expiredCommands.mp hlisted
    unfold leaseExpired at hexpired
    rw [Bool.and_eq_true, decide_eq_true_eq] at hexpired
    exact ⟨hrow, hexpired.1⟩

/-- The errors of a control change are about its arguments: the reason, a device that is not
registered, or a reason that the schema refuses. -/
inductive ControlRefusal : StoreError → Prop where
  | reason (error : TypeError) : ControlRefusal (.type error)
  | unknownDevice (deviceId : DeviceId) : ControlRefusal (.deviceNotFound deviceId)
  | schema : ControlRefusal .database

theorem loadDevice_error (hs : StoreInvariant s) (h : loadDevice deviceId s = .error halt) :
    halt = .error (.deviceNotFound deviceId) := by
  cases hdevice : s.device? deviceId with
  | none =>
    unfold loadDevice at h
    rw [gets_bind, hdevice] at h
    cases h
    rfl
  | some =>
    rw [loadDevice_succeeds hs hdevice] at h
    cases h

/-- A control change never finds the store corrupt and never meets a foreign lease. -/
theorem changeControlMode_error {action : ControlAction} (hs : StoreInvariant s)
    (h : changeControlMode deviceId action actor reason now s = .error halt) :
    ∃ refusal, halt = .error refusal ∧ ControlRefusal refusal := by
  rcases bind_error.mp h with hreason | ⟨reason', s₁, hreason, hload⟩
  · obtain ⟨refusal, hcheck, rfl⟩ := lift_error.mp hreason
    refine ⟨refusal, rfl, ?_⟩
    cases hvalid : validateReason reason with
    | error error =>
      rw [hvalid] at hcheck
      cases hcheck
      exact .reason error
    | ok =>
      rw [hvalid] at hcheck
      cases hcheck
  obtain ⟨hvalid, rfl⟩ := lift_ok.mp hreason
  obtain rfl := reason_of_validated hvalid
  rcases bind_error.mp hload with hmissing | ⟨existing, s₂, hloaded, hquarantine⟩
  · exact ⟨_, loadDevice_error hs hmissing, .unknownDevice deviceId⟩
  obtain ⟨rfl, device, hdevice, _, rfl⟩ := loadDevice_ok.mp hloaded
  rcases bind_error.mp hquarantine with hstuck | ⟨_, quarantined, hdone, hupdate⟩
  · exfalso
    unfold quarantineUnlessAutomatic at hstuck
    split_ifs at hstuck
    · obtain ⟨_, hrun, _⟩ :=
        @quarantineDeviceCommands_succeeds s₂ now actor (RustText.trim reason) deviceId hs
      rw [hrun] at hstuck
      cases hstuck
    · cases hstuck
  rcases bind_error.mp hupdate with hrefused | ⟨_, updated, hupdated, hreload⟩
  · unfold updateDeviceMode at hrefused
    rcases bind_error.mp hrefused with hschema | ⟨_, _, _, hmodified⟩
    · obtain ⟨_, rfl⟩ := ensure_error.mp hschema
      exact ⟨_, rfl, .schema⟩
    · cases hmodified
  · have hkey : device.key = deviceId := KeyedTable.key_of_find? hdevice
    subst hkey
    have hmoves : Moves (Admits ⟨"", ""⟩ s₂ (.changeControlMode device.key action actor reason now))
        s₂ updated := controlChange_moves hdevice hdone hupdated
    have hfinal := hmoves.preserves StoreInvariant
      (fun _ _ _ _ hmove => move_storeInvariant hmove) hs
    exact ⟨_, loadDevice_error hfinal hreload, .unknownDevice device.key⟩

/-- In every run of the store a device executes at most one command. A command executes
exactly while it has a token, an expiry and one active attempt, and has none of them otherwise.
Recovering expired leases always succeeds, and a control change fails for its arguments only:
neither ever finds a corrupt record or a foreign lease. -/
theorem leases_exclusive_and_recoverable {σ : EdgeState} (h : EdgeRun anyCall .initial σ) :
    (∀ first second row row', σ.store.command? first = some row →
      σ.store.command? second = some row' → row.request.deviceId = row'.request.deviceId →
      row.state = .executing → row'.state = .executing → first = second) ∧
    (∀ commandId row, σ.store.command? commandId = some row →
      (row.state = .executing ↔ row.leaseToken.isSome = true ∧ row.leaseUntil.isSome = true ∧
        countActive (σ.store.attemptsOf commandId) = 1) ∧
      (row.state ≠ .executing → row.leaseToken = none ∧ row.leaseUntil = none ∧
        countActive (σ.store.attemptsOf commandId) = 0)) ∧
    (∀ now agent, ∃ summary s', recoverExpiredLeases now agent σ.store = .ok (summary, s')) ∧
    (∀ deviceId action actor reason now halt,
      changeControlMode deviceId action actor reason now σ.store = .error halt →
      (∀ detail, halt ≠ .error (.corruptRecord detail)) ∧
      (∀ commandId, halt ≠ .error (.leaseMismatch commandId))) := by
  have hσ := run_storeInvariant h
  refine ⟨hσ.exclusive, ?_, ?_, ?_⟩
  · intro commandId row hrow
    have htoken := (hσ.views commandId).token row hrow
    have hexpiry := (hσ.views commandId).expiry row hrow
    have hactive := (hσ.views commandId).active row hrow
    refine ⟨⟨fun hstate => ?_, fun hleased => htoken.mpr hleased.1⟩, fun hstate => ?_⟩
    · rw [if_pos hstate] at hactive
      exact ⟨htoken.mp hstate, hexpiry.mp hstate, hactive⟩
    · rw [if_neg hstate] at hactive
      exact ⟨Option.not_isSome_iff_eq_none.mp (mt htoken.mpr hstate),
        Option.not_isSome_iff_eq_none.mp (mt hexpiry.mpr hstate), hactive⟩
  · intro now agent
    exact recoverExpiredLeases_succeeds hσ
  · intro deviceId action actor reason now halt herror
    obtain ⟨refusal, rfl, hrefusal⟩ := changeControlMode_error hσ herror
    constructor
    · intro detail he
      cases he
      cases hrefusal
    · intro commandId he
      cases he
      cases hrefusal

/-- The theorem at a state in which the scale executes a command. -/
theorem leases_exclusive_and_recoverable_while_executing :
    ∃ row, (afterClaim .manualReview).store.command? "tare-1" = some row ∧
      row.state = .executing ∧ row.leaseToken.isSome = true ∧
      ∃ summary s', recoverExpiredLeases (atMillis 5000) supervisor
        (afterClaim .manualReview).store = .ok (summary, s') := by
  obtain ⟨_, hleased, hrecover, _⟩ := leases_exclusive_and_recoverable
    (run_replay_any EdgeState.next (claimedRun .manualReview))
  have hstored : ((afterClaim .manualReview).store.command? "tare-1").map CommandRow.state =
      some .executing := by
    decide +kernel
  obtain ⟨row, hrow, hstate⟩ := Option.map_eq_some_iff.mp hstored
  exact ⟨row, hrow, hstate, ((hleased "tare-1" row hrow).1.mp hstate).1, hrecover _ _⟩

end Wareboxes.LeaseDiscipline
