import Wareboxes.EdgeRuns

/-!
# Executing commands and the claims that hold them

When identifiers are fresh, every executing command is held by exactly one of
the claims that were handed out, and that claim knows the command as it is:
its request, its attempt count, the kind of its active attempt and how often
it was probed. The module also gives the rule by which properties of single
commands are carried through a call, whose moves may start from a store that
earlier moves of the same call have changed.
-/

namespace Wareboxes.ClaimTracking

open RustTime EdgeCommands EdgeTables EdgeOperations EdgeClaims EdgeStoreCalls CommandLife
open EdgeMoves OperationMoves EdgeInvariants EdgeRuns

/-- A claim describes the execution that its command is in. -/
structure HeldBy (v : CommandView) (row : CommandRow) (claim : ClaimedCommand) : Prop where
  /-- The row has the token of the claim. -/
  token : row.leaseToken = some claim.leaseToken
  /-- The claim carries the row. -/
  envelope : claim.envelope = ⟨row.request, row.attemptCount⟩
  /-- The active attempt is the one of the claim. -/
  attempt : ∀ attempt ∈ v.attempts, attempt.state = .active →
    attempt.attemptId = claim.attemptId ∧ attempt.kind = claim.kind
  /-- The claim knows how often the command was probed. -/
  probes : claim.recoveryProbeCount = countProbes v.attempts

/-- Tokens are distinct, and every executing command is held by a claim. -/
structure ClaimInvariant (issued : List ClaimedCommand) (s : Store) : Prop where
  /-- No token was drawn twice. -/
  tokens : (issued.map ClaimedCommand.leaseToken).Nodup
  /-- Every executing command is held by a claim that was handed out. -/
  held : ∀ commandId row, s.command? commandId = some row → row.state = .executing →
    ∃ claim ∈ issued, HeldBy (viewOf s commandId) row claim

theorem claimInvariant_initial : ClaimInvariant [] .initial where
  tokens := List.nodup_nil
  held _ _ h := by cases h

variable {issued : List ClaimedCommand} {s s' : Store} {label : MoveLabel} {claim : ClaimedCommand}
  {commandId : String} {row : CommandRow} {maxAttempts : ℕ} {now : DateTime}

/-- The holder of a token is the claim that it was drawn for. -/
theorem ClaimInvariant.heldBy (hs : ClaimInvariant issued s) (hissued : claim ∈ issued)
    (hrow : s.command? commandId = some row) (hstate : row.state = .executing)
    (htoken : row.leaseToken = some claim.leaseToken) : HeldBy (viewOf s commandId) row claim := by
  obtain ⟨holder, hholder, hheld⟩ := hs.held commandId row hrow hstate
  have hsame : holder.leaseToken = claim.leaseToken :=
    Option.some.inj (hheld.token.symm.trans htoken)
  have heq : holder = claim := List.inj_on_of_nodup_map hs.tokens hholder hissued hsame
  rw [← heq]
  exact hheld

/-- The move hands out no claim. -/
def ClaimsNothing (label : MoveLabel) : Prop :=
  ∀ commandId claim maxAttempts now, label ≠ .command commandId (.claimed claim maxAttempts) now

/-- A command that executes after a move that claims nothing executed before, unchanged. -/
theorem view_of_executing (h : Move s label s') (hlabel : ClaimsNothing label)
    (hrow : s'.command? commandId = some row) (hstate : row.state = .executing) :
    viewOf s' commandId = viewOf s commandId := by
  rcases h.view_cases commandId with hsame | ⟨event, now, hevent, hmove, _⟩
  · exact hsame
  · obtain ⟨claim, maxAttempts, hclaimed⟩ :=
      hmove.claimed_of_executing ((hmove.state_eq hrow).symm.trans hstate)
    rw [hclaimed] at hevent
    exact absurd hevent (hlabel commandId claim maxAttempts now)

/-- A move that claims nothing keeps every executing command with its claim. -/
theorem move_claimInvariant (h : Move s label s') (hlabel : ClaimsNothing label)
    (hs : ClaimInvariant issued s) : ClaimInvariant issued s' where
  tokens := hs.tokens
  held commandId row hrow hstate := by
    have hview := view_of_executing h hlabel hrow hstate
    have hbefore : s.command? commandId = some row :=
      (congrArg CommandView.row hview).symm.trans hrow
    rw [hview]
    exact hs.held commandId row hbefore hstate

/-- The command of a new claim is held by it. -/
theorem claimed_heldBy {v v' : CommandView}
    (hmove : CommandMove v (.claimed claim maxAttempts) now v') (hv : WellFormed v)
    (hrow : v'.row = some row) : HeldBy v' row claim := by
  cases hmove with
  | @claimed before _ _ sequence leaseUntil _ hbefore hwait _ _ _ henvelope hprobes =>
    cases hrow
    have hidle : countActive v.attempts = 0 := by
      have hactive := hv.active before hbefore
      rwa [if_neg (ne_executing_of_isWaiting hwait)] at hactive
    refine ⟨rfl, henvelope, ?_, ?_⟩
    · intro attempt hattempt hactive
      rcases List.mem_append.mp hattempt with hold | hnew
      · have hnone := List.countP_eq_zero.mp hidle attempt hold
        simp [hactive] at hnone
      · rw [List.mem_singleton.mp hnew]
        exact ⟨rfl, rfl⟩
    · rw [hprobes, countProbes_concat]
      rfl

/-- A new claim under a fresh token keeps every executing command with its claim. -/
theorem claim_claimInvariant (h : Move s (.command commandId (.claimed claim maxAttempts) now) s')
    (hviews : WellFormed (viewOf s commandId))
    (hfresh : ∀ other ∈ issued, other.leaseToken ≠ claim.leaseToken)
    (hs : ClaimInvariant issued s) : ClaimInvariant (issued ++ [claim]) s' where
  tokens := by
    rw [List.map_append, List.map_singleton]
    refine List.nodup_append.mpr ⟨hs.tokens, List.nodup_singleton _, ?_⟩
    intro token htoken other hother
    obtain ⟨old, hold, rfl⟩ := List.mem_map.mp htoken
    rw [List.mem_singleton.mp hother]
    exact hfresh old hold
  held other row hrow hstate := by
    rcases h.view_cases other with hsame | ⟨event, now', hlabel, hmove, _⟩
    · have hbefore : s.command? other = some row :=
        (congrArg CommandView.row hsame).symm.trans hrow
      obtain ⟨holder, hholder, hheld⟩ := hs.held other row hbefore hstate
      rw [hsame]
      exact ⟨holder, List.mem_append_left _ hholder, hheld⟩
    · cases hlabel
      exact ⟨claim, List.mem_append_right _ (List.mem_singleton_self claim),
        claimed_heldBy hmove hviews hrow⟩

/-- What holds of the store and the claims in every run with fresh identifiers. -/
structure EdgeInvariant (σ : EdgeState) : Prop where
  /-- The tables are consistent. -/
  store : StoreInvariant σ.store
  /-- Executing commands and their claims. -/
  claims : ClaimInvariant σ.issued σ.store

/-- What holds of the stores that a call passes through, before it hands out a claim. -/
structure Tracked (σ : EdgeState) (t : Store) : Prop where
  /-- The tables are consistent. -/
  store : StoreInvariant t
  /-- Executing commands and the claims from before the call. -/
  claims : ClaimInvariant σ.issued t
  /-- A command that executes has not changed since the call began. -/
  executing : ∀ commandId row, t.command? commandId = some row → row.state = .executing →
    viewOf t commandId = viewOf σ.store commandId

variable {σ : EdgeState} {action : EdgeAction}

theorem EdgeInvariant.tracked (hσ : EdgeInvariant σ) : Tracked σ σ.store :=
  ⟨hσ.store, hσ.claims, fun _ _ _ _ => rfl⟩

/-- The command of an executing row is as it was when the call began. -/
theorem Tracked.stored_of_executing {t : Store} (ht : Tracked σ t)
    (hrow : t.command? commandId = some row) (hstate : row.state = .executing) :
    σ.store.command? commandId = some row :=
  (congrArg CommandView.row (ht.executing commandId row hrow hstate)).symm.trans hrow

/-- A lease is taken away by a quarantine, or by the recovery of its command as it is. -/
theorem Tracked.abandoned {t : Store} {target : CommandState} {reason : String} (ht : Tracked σ t)
    (hadmits : Admits action.ids σ.store action.call
      (.command commandId (.abandoned target reason) now))
    (hrow : t.command? commandId = some row) (hstate : row.state = .executing) :
    target = .manualReview ∨ (∃ agent, action.call = .recoverExpiredLeases now agent) ∧
      row ∈ expiredCommands now σ.store ∧ row.key = commandId ∧
      target = (expiryTarget row.request.recoveryPolicy).1 := by
  rcases admits_abandoned hadmits with hreview | ⟨agent, listed, hcall, hlisted, hkey, htarget⟩
  · exact .inl hreview
  · have hstored := (mem_expiredCommands.mp hlisted).1
    rw [hkey, ht.stored_of_executing hrow hstate] at hstored
    cases hstored
    exact .inr ⟨⟨agent, hcall⟩, hlisted, hkey, htarget⟩

/-- A completion with an issued claim finds its command held by the claim. -/
theorem Tracked.finished {t : Store} {completion : Completion} {v' : CommandView}
    (ht : Tracked σ t) (hadmits : Admits action.ids σ.store action.call
      (.command commandId (.finished claim completion) now))
    (hissued : completesIssued σ.issued action.call)
    (hmove : CommandMove (viewOf t commandId) (.finished claim completion) now v')
    (hrow : t.command? commandId = some row) : HeldBy (viewOf t commandId) row claim := by
  rw [(admits_finished hadmits).1] at hissued
  obtain ⟨found, _, hfound, hstate, htoken, _⟩ := hmove.finished_inv
  obtain rfl : found = row := Option.some.inj (hfound.symm.trans hrow)
  exact ht.claims.heldBy hissued hrow hstate htoken

theorem move_tracked {t t' : Store} (h : Move t label t') (hlabel : ClaimsNothing label)
    (ht : Tracked σ t) : Tracked σ t' where
  store := move_storeInvariant h ht.store
  claims := move_claimInvariant h hlabel ht.claims
  executing commandId row hrow hstate := by
    have hview := view_of_executing h hlabel hrow hstate
    have hbefore : t.command? commandId = some row :=
      (congrArg CommandView.row hview).symm.trans hrow
    rw [hview]
    exact ht.executing commandId row hbefore hstate

/-- A call either claims with a single move, or makes moves that claim nothing. -/
theorem exec_cases {ids : FreshIds} {call : StoreCall} {answer : call.Answer}
    (h : call.exec ids s = .ok (answer, s')) :
    (∃ claim maxAttempts now, call.claimOf (.ok answer) = some claim ∧
      claim.leaseToken = ids.leaseToken ∧
      Admits ids s call (.command claim.commandId (.claimed claim maxAttempts) now) ∧
      Move s (.command claim.commandId (.claimed claim maxAttempts) now) s') ∨
    call.claimOf (.ok answer) = none ∧
      Moves (fun label => Admits ids s call label ∧ ClaimsNothing label) s s' := by
  by_cases hcall : ∃ now lease maxAttempts, call = .claimNext now lease maxAttempts
  · obtain ⟨now, lease, maxAttempts, rfl⟩ := hcall
    rcases claimNext_ok h with ⟨hnone, rfl, _⟩ | ⟨claim, hsome, htoken, hattempt, hmove⟩
    · exact .inr ⟨hnone, .refl⟩
    · exact .inl ⟨claim, maxAttempts, now, hsome, htoken, .claimed htoken hattempt, hmove⟩
  · refine .inr ⟨?_, (exec_moves h).mono fun label hlabel => ⟨hlabel, ?_⟩⟩
    · cases call with
      | claimNext now lease maxAttempts => exact absurd ⟨now, lease, maxAttempts, rfl⟩ hcall
      | _ => rfl
    · rintro commandId claim maxAttempts now rfl
      obtain ⟨_, _, _, lease, rfl⟩ := admits_claimed hlabel
      exact hcall ⟨now, lease, maxAttempts, rfl⟩

/-- A property of the store that every admitted move preserves is preserved by the call. -/
theorem next_preserves (inv : Store → Prop) (hσ : EdgeInvariant σ)
    (hstep : ∀ t label t', Admits action.ids σ.store action.call label → Move t label t' →
      Tracked σ t → inv t → inv t') (hinv : inv σ.store) : inv (σ.next action).store := by
  rcases next_cases σ action with ⟨_, _, hsame⟩ | ⟨answer, _, hexec, _⟩
  · rw [hsame]
    exact hinv
  · rcases exec_cases hexec with ⟨claim, maxAttempts, now, _, _, hadmits, hmove⟩ | ⟨_, hmoves⟩
    · exact hstep _ _ _ hadmits hmove hσ.tracked hinv
    · refine (hmoves.preserves (fun t => Tracked σ t ∧ inv t) ?_ ⟨hσ.tracked, hinv⟩).2
      rintro t label t' ⟨hadmits, hlabel⟩ hmove ⟨ht, hinv⟩
      exact ⟨move_tracked hmove hlabel ht, hstep t label t' hadmits hmove ht hinv⟩

theorem next_edgeInvariant (hhonest : Honest σ action) (hσ : EdgeInvariant σ) :
    EdgeInvariant (σ.next action) where
  store := next_storeInvariant hσ.store
  claims := by
    rcases next_cases σ action with ⟨_, _, hsame⟩ | ⟨answer, _, hexec, hissued⟩
    · rw [hsame]
      exact hσ.claims
    · rw [hissued]
      rcases exec_cases hexec with ⟨claim, maxAttempts, now, hsome, htoken, _, hmove⟩ |
        ⟨hnone, hmoves⟩
      · rw [hsome, Option.toList_some]
        refine claim_claimInvariant hmove (hσ.store.views claim.commandId) ?_ hσ.claims
        intro other hother
        rw [htoken]
        exact (hhonest.1 other hother).1
      · rw [hnone, Option.toList_none, List.append_nil]
        refine hmoves.preserves (ClaimInvariant σ.issued) ?_ hσ.claims
        rintro t label t' ⟨_, hlabel⟩ hmove ht
        exact move_claimInvariant hmove hlabel ht

theorem run_edgeInvariant (h : EdgeRun Honest .initial σ) : EdgeInvariant σ := by
  refine h.preserves EdgeInvariant ?_ ⟨storeInvariant_initial, claimInvariant_initial⟩
  rintro σ action σ' hhonest rfl hσ
  exact next_edgeInvariant hhonest hσ

end Wareboxes.ClaimTracking
