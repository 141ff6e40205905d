import Wareboxes.CloudCommands
import Wareboxes.KeyedTables
import Wareboxes.Transactions

/-!
# Commands of the server

A command of the server comes from a user or a service account with a scope, and carries an
idempotency key. The answer to a command is stored under its key in the transaction that
executes it. A command with a key that was used before is not executed: it gets the stored
answer when it is the same command of the same actor, and is refused otherwise. The server
compares hashes of the requests, and the hashes are taken to be injective here.
-/

namespace Wareboxes.ServerCommands

open CloudCommands KeyedTables

/-- `ScopeBindings`: what a caller may see. -/
structure ScopeBindings where
  allFacilities : Bool
  /-- The facilities, when not every one. -/
  facilityIds : List ℤ
  allInventoryOwners : Bool
  inventoryOwnerIds : List ℤ

namespace ScopeBindings

/-- `includes_facility`. -/
def includesFacility (scope : ScopeBindings) (facilityId : ℤ) : Bool :=
  scope.allFacilities || scope.facilityIds.contains facilityId

/-- `includes_inventory_owner`. -/
def includesInventoryOwner (scope : ScopeBindings) (inventoryOwnerId : ℤ) : Bool :=
  scope.allInventoryOwners || scope.inventoryOwnerIds.contains inventoryOwnerId

end ScopeBindings

/-- Who calls, and with which key. -/
structure CommandContext where
  /-- The user or the service account. -/
  actorId : ℤ
  /-- What the caller may see. -/
  scope : ScopeBindings
  idempotencyKey : String

/-- A row of `command_idempotency_records`, for one operation. -/
structure StoredResult (ρ α : Type) where
  idempotencyKey : String
  /-- Who sent the command. -/
  actorId : ℤ
  /-- The command, in place of its hash. -/
  request : ρ
  result : α

/-- The stored answers of one operation. -/
abbrev StoredResults (ρ α : Type) := KeyedTable (StoredResult.idempotencyKey (ρ := ρ) (α := α))

section Replays

variable {ρ α : Type} [DecidableEq ρ]

/-- `replayed`: the stored answer, when there is one. -/
def replayed (results : StoredResults ρ α) (context : CommandContext) (request : ρ) :
    Except AppError (Option α) :=
  match results.find? context.idempotencyKey with
  | none => .ok none
  | some stored =>
    if stored.actorId ≠ context.actorId ∨ stored.request ≠ request then
      .error .idempotencyKeyReused
    else .ok (some stored.result)

/-- The row that is stored with an answer. -/
def completedResult (context : CommandContext) (request : ρ) (result : α) : StoredResult ρ α :=
  ⟨context.idempotencyKey, context.actorId, request, result⟩

/-- An answer that is given again was stored for the same command. -/
theorem replayed_eq_some {results : StoredResults ρ α} {context : CommandContext} {request : ρ}
    {result : α} :
    replayed results context request = .ok (some result) ↔
      results.find? context.idempotencyKey = some (completedResult context request result) := by
  unfold replayed completedResult
  cases hfind : results.find? context.idempotencyKey with
  | none => exact ⟨nofun, nofun⟩
  | some stored =>
    have hkey := KeyedTable.key_of_find? hfind
    obtain ⟨key, actorId, storedRequest, storedResult⟩ := stored
    cases hkey
    dsimp only
    split_ifs with hother
    · constructor
      · exact nofun
      · rintro ⟨⟩
        exact absurd hother (by simp)
    · rw [not_or, not_not, not_not] at hother
      obtain ⟨rfl, rfl⟩ := hother
      simp

end Replays

end Wareboxes.ServerCommands
