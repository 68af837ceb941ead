/-
Commands of the independent Finance workflow, and the texts that the services
hash.

* `SubmitProposalCommand`, `ResolveFinanceCommand`, `FinalizeProposalCommand` —
  the API contracts, with the proof of their validators;
* `BoundFinanceActors` — the configured Alex and Taylor, two different people;
* `HashMaterial` — what is serialized before each SHA-256.
-/
import SupplyResponse.Domain.OutboundMail

namespace SupplyResponse

/-- `CommandKey`: nonblank, at most 200 characters. -/
def IsCommandKey (key : String) : Prop := Nonblank key ∧ key.length ≤ 200

instance (key : String) : Decidable (IsCommandKey key) := inferInstanceAs (Decidable (_ ∧ _))

structure SubmitProposalCommand where
  caseId : String
  optionId : String
  expected : ProposalToken
  idempotencyKey : String
  valid : IsIdentifier caseId ∧ IsIdentifier optionId ∧ IsCommandKey idempotencyKey ∧
    expected.analysisId.isSome ∧ expected.analysisMaterialHash.isSome
  deriving DecidableEq

structure ResolveFinanceCommand where
  reviewId : String
  expected : ProposalToken
  expectedReviewRevision : Nat
  approved : Bool
  reason : Option String
  idempotencyKey : String
  valid : IsIdentifier reviewId ∧ IsCommandKey idempotencyKey ∧ 0 < expectedReviewRevision ∧
    (∀ text ∈ reason, stripOrNone text = some text ∧ text.length ≤ 4000) ∧
    (approved = false → reason.isSome) ∧ expected.selectionId.isSome ∧
    expected.analysisId.isSome
  deriving DecidableEq

structure FinalizeProposalCommand where
  caseId : String
  expected : ProposalToken
  kind : DecisionKind
  idempotencyKey : String
  rejectionReason : Option String
  valid : IsIdentifier caseId ∧ IsCommandKey idempotencyKey ∧
    (∀ text ∈ rejectionReason, stripOrNone text = some text ∧ text.length ≤ 4000) ∧
    expected.analysisId.isSome ∧ expected.analysisMaterialHash.isSome ∧
    (kind = .approved → expected.selectionId.isSome ∧ rejectionReason = none) ∧
    (kind = .rejected → rejectionReason.isSome)
  deriving DecidableEq

/-! ### Identities -/

/-- `BoundFinanceActors`. -/
structure BoundFinanceActors where
  tenantId : Uuid
  alexObjectId : Uuid
  taylorObjectId : Uuid
  different : alexObjectId ≠ taylorObjectId

namespace BoundFinanceActors

/-- `_require` for one of the two configured people. -/
def Admits (actors : BoundFinanceActors) (objectId : Uuid) (persona source : String)
    (roles : List String) (actor : IdentitySnapshot) : Prop :=
  actor.tenant? = some actors.tenantId ∧ actor.object? = some objectId ∧
    actor.HasShape persona source roles

instance (actors : BoundFinanceActors) (objectId : Uuid) (persona source : String)
    (roles : List String) (actor : IdentitySnapshot) :
    Decidable (actors.Admits objectId persona source roles actor) :=
  inferInstanceAs (Decidable (_ ∧ _))

/-- `require_alex` accepts the actor. -/
def IsAlex (actors : BoundFinanceActors) (actor : IdentitySnapshot) : Prop :=
  actors.Admits actors.alexObjectId "RL-PERSONA-ALEX" "RL-ENTRA-ALEX" alexRoles actor

instance (actors : BoundFinanceActors) (actor : IdentitySnapshot) :
    Decidable (actors.IsAlex actor) :=
  inferInstanceAs (Decidable (actors.Admits _ _ _ _ _))

/-- `require_taylor` accepts the actor. -/
def IsTaylor (actors : BoundFinanceActors) (actor : IdentitySnapshot) : Prop :=
  actors.Admits actors.taylorObjectId "RL-PERSONA-TAYLOR" "RL-ENTRA-TAYLOR" taylorRoles actor

instance (actors : BoundFinanceActors) (actor : IdentitySnapshot) :
    Decidable (actors.IsTaylor actor) :=
  inferInstanceAs (Decidable (actors.Admits _ _ _ _ _))

/-- Both configured people belong to the configured tenant. -/
theorem IsAlex.tenant_eq {actors : BoundFinanceActors} {alex taylor : IdentitySnapshot}
    (ha : actors.IsAlex alex) (ht : actors.IsTaylor taylor) : taylor.tenant? = alex.tenant? := by
  rw [ha.1, ht.1]

/-- No identity is both configured people. -/
theorem IsAlex.object_ne {actors : BoundFinanceActors} {alex taylor : IdentitySnapshot}
    (ha : actors.IsAlex alex) (ht : actors.IsTaylor taylor) : alex.object? ≠ taylor.object? := by
  rw [ha.2.1, ht.2.1]
  exact fun h => actors.different (Option.some.inj h)

end BoundFinanceActors

/-! ### Hashed texts -/

/-- `authority_material`. -/
structure AuthorityMaterial where
  tenantId : Option Uuid
  objectId : Option Uuid
  identitySource : IdentitySource
  personaId : String
  sourceId : String
  effectiveRoles : List String
  deriving DecidableEq

def authorityMaterial (actor : IdentitySnapshot) : AuthorityMaterial where
  tenantId := actor.tenant?
  objectId := actor.object?
  identitySource := actor.identitySource
  personaId := actor.personaId
  sourceId := actor.sourceId
  effectiveRoles := actor.effectiveRoles

/-- The values whose canonical texts are hashed. -/
inductive HashMaterial
  | analysis (material : AnalysisMaterial)
  | materialVersion (text : String)
  | submission (command : SubmitProposalCommand) (actor : AuthorityMaterial)
  | resolution (command : ResolveFinanceCommand) (actor : AuthorityMaterial)
  | finalization (command : FinalizeProposalCommand) (actor : AuthorityMaterial)
  | decision (command : RecordDecisionCommand) (actor : IdentitySnapshot)
  | supersession (operation operationId priorReviewId : String) (priorRevision : Option Nat)
      (supersededAt : Instant)

end SupplyResponse
