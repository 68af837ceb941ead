/-
The database of the service: its tables, their unique indexes, and the
programs that run on it.

* `Key` — the values of all unique indexes; also the locks of the rows;
* `Store` — the tables;
* `Env` — what the process is configured with: the runtime mode, the bound
  Finance actors, SHA-256 and the name-based UUIDs;
* `Raised`, `Sql` — exceptions and transaction programs.

A row holds the canonical JSON payload of its record together with the columns
that no payload duplicates.
-/
import SupplyResponse.Domain.Commands
import SupplyResponse.Transact.Program
import SupplyResponse.Transact.Table

namespace SupplyResponse

open Transact

/-! ### Unique indexes -/

inductive Key
  | case (caseId : String)
  | snapshot (caseId : String)
  | projection (caseId : String)
  | analysis (analysisId : String)
  | claim (caseId materialVersion : String)
  | claimId (claimId : String)
  | selection (selectionId : String)
  | selectionKey (idempotencyKey : String)
  | selectionReview (reviewId : String)
  | review (reviewId : String) (revision : Nat)
  | reviewKey (idempotencyKey : String)
  | decision (decisionId : String)
  | decisionKey (idempotencyKey : String)
  | satisfaction (decisionId optionId authorizationId personaId role : String)
  | outbox (eventId : String)
  | outboxDecision (decisionId : String)
  | action (actionId : String)
  | actionProjection (actionId : String)
  | draft (artifactId : String)
  | attempt (attemptId : String)
  | attemptNumber (actionId : String) (attemptNumber : Nat)
  | statusEvent (executionEventId : String)
  | playback (playbackId : String)
  | playbackDecision (decisionId : String)
  | observation (observationId : String)
  | delivery (emailId : String)
  | deliveryDecision (decisionId : String)
  | emailRevision (emailId : String) (revision : Nat)
  deriving DecidableEq

/-! ### Rows -/

/-- A row of `case_projection`. -/
structure CaseProjectionRow where
  caseId : String
  case : CaseInstance
  currentAnalysisId : Option String
  currentAnalysisHash : Option String
  currentSelectionId : Option String
  currentDecisionId : Option String
  proposalGeneration : Nat
  deriving DecidableEq

structure AnalysisClaimRow where
  caseId : String
  materialVersion : String
  claimId : String
  claimedAt : Instant
  claimExpiresAt : Instant
  deriving DecidableEq

structure FinanceReviewRow where
  review : FinanceReview
  revision : Nat
  idempotencyKey : String
  requestFingerprint : String
  deriving DecidableEq

/-- A row of `approval_satisfactions` that is bound to a Decision. -/
structure SatisfactionRow where
  decisionId : String
  satisfaction : ApprovalSatisfaction
  deriving DecidableEq

structure OutboxRow where
  event : ActionPlanningRequested
  claimStatus : OutboxClaimStatus
  claimedBy : Option String
  claimedAt : Option Instant
  claimExpiresAt : Option Instant
  processedAt : Option Instant
  attemptCount : Nat
  lastError : Option String
  deriving DecidableEq

/-- A row of `action_projection`. -/
structure ActionProjectionRow where
  actionId : String
  action : ExecutionAction
  currentAttempt : Nat
  deriving DecidableEq

instance : Keyed Key CaseInstance := ⟨fun r => [.case r.caseId]⟩
instance : Keyed Key OperationalSnapshot := ⟨fun r => [.snapshot r.caseId]⟩
instance : Keyed Key CaseProjectionRow := ⟨fun r => [.projection r.caseId]⟩
instance : Keyed Key AnalysisVersion := ⟨fun r => [.analysis r.analysisId]⟩
instance : Keyed Key AnalysisClaimRow :=
  ⟨fun r => [.claim r.caseId r.materialVersion, .claimId r.claimId]⟩
instance : Keyed Key SelectionReceipt :=
  ⟨fun r => .selection r.selection.selectionId :: .selectionKey r.idempotencyKey ::
    (r.selection.financeReviewId.map Key.selectionReview).toList⟩
instance : Keyed Key FinanceReviewRow :=
  ⟨fun r => [.review r.review.reviewId r.revision, .reviewKey r.idempotencyKey]⟩
instance : Keyed Key Decision :=
  ⟨fun r => [.decision r.decisionId, .decisionKey r.idempotencyKey]⟩
instance : Keyed Key SatisfactionRow :=
  ⟨fun r => [.satisfaction r.decisionId r.satisfaction.optionId r.satisfaction.authorizationId
    r.satisfaction.personaId r.satisfaction.role]⟩
instance : Keyed Key OutboxRow :=
  ⟨fun r => [.outbox r.event.eventId, .outboxDecision r.event.decisionId]⟩
instance : Keyed Key ExecutionAction := ⟨fun r => [.action r.actionId]⟩
instance : Keyed Key ActionProjectionRow := ⟨fun r => [.actionProjection r.actionId]⟩
instance : Keyed Key DraftArtifact := ⟨fun r => [.draft r.artifactId]⟩
instance : Keyed Key ExecutionAttempt :=
  ⟨fun r => [.attempt r.attemptId, .attemptNumber r.actionId r.attemptNumber]⟩
instance : Keyed Key ExecutionStatusEvent := ⟨fun r => [.statusEvent r.executionEventId]⟩
instance : Keyed Key Playback :=
  ⟨fun r => [.playback r.playbackId, .playbackDecision r.decisionId]⟩
instance : Keyed Key OutcomeObservation := ⟨fun r => [.observation r.observationId]⟩
instance : Keyed Key SupplierEmailDelivery :=
  ⟨fun r => [.delivery r.emailId, .deliveryDecision r.decisionId]⟩
instance : Keyed Key SupplierEmailRevision := ⟨fun r => [.emailRevision r.emailId r.revision]⟩

open Keyed (keys)

@[simp] theorem keys_caseInstance (r : CaseInstance) : keys r = [.case r.caseId] := rfl
@[simp] theorem keys_operationalSnapshot (r : OperationalSnapshot) :
    keys r = [.snapshot r.caseId] := rfl
@[simp] theorem keys_caseProjectionRow (r : CaseProjectionRow) :
    keys r = [.projection r.caseId] := rfl
@[simp] theorem keys_analysisVersion (r : AnalysisVersion) :
    keys r = [.analysis r.analysisId] := rfl
@[simp] theorem keys_analysisClaimRow (r : AnalysisClaimRow) :
    keys r = [.claim r.caseId r.materialVersion, .claimId r.claimId] := rfl
@[simp] theorem keys_selectionReceipt (r : SelectionReceipt) :
    keys r = .selection r.selection.selectionId :: .selectionKey r.idempotencyKey :: (r.selection.financeReviewId.map Key.selectionReview).toList := rfl
@[simp] theorem keys_financeReviewRow (r : FinanceReviewRow) :
    keys r = [.review r.review.reviewId r.revision, .reviewKey r.idempotencyKey] := rfl
@[simp] theorem keys_decision (r : Decision) :
    keys r = [.decision r.decisionId, .decisionKey r.idempotencyKey] := rfl
@[simp] theorem keys_satisfactionRow (r : SatisfactionRow) :
    keys r = [.satisfaction r.decisionId r.satisfaction.optionId r.satisfaction.authorizationId r.satisfaction.personaId r.satisfaction.role] := rfl
@[simp] theorem keys_outboxRow (r : OutboxRow) :
    keys r = [.outbox r.event.eventId, .outboxDecision r.event.decisionId] := rfl
@[simp] theorem keys_executionAction (r : ExecutionAction) : keys r = [.action r.actionId] := rfl
@[simp] theorem keys_actionProjectionRow (r : ActionProjectionRow) :
    keys r = [.actionProjection r.actionId] := rfl
@[simp] theorem keys_draftArtifact (r : DraftArtifact) : keys r = [.draft r.artifactId] := rfl
@[simp] theorem keys_executionAttempt (r : ExecutionAttempt) :
    keys r = [.attempt r.attemptId, .attemptNumber r.actionId r.attemptNumber] := rfl
@[simp] theorem keys_executionStatusEvent (r : ExecutionStatusEvent) :
    keys r = [.statusEvent r.executionEventId] := rfl
@[simp] theorem keys_playback (r : Playback) :
    keys r = [.playback r.playbackId, .playbackDecision r.decisionId] := rfl
@[simp] theorem keys_outcomeObservation (r : OutcomeObservation) :
    keys r = [.observation r.observationId] := rfl
@[simp] theorem keys_supplierEmailDelivery (r : SupplierEmailDelivery) :
    keys r = [.delivery r.emailId, .deliveryDecision r.decisionId] := rfl
@[simp] theorem keys_supplierEmailRevision (r : SupplierEmailRevision) :
    keys r = [.emailRevision r.emailId r.revision] := rfl

/-! ### The database -/

structure Store where
  cases : Table Key CaseInstance := ∅
  snapshots : Table Key OperationalSnapshot := ∅
  projections : Table Key CaseProjectionRow := ∅
  analyses : Table Key AnalysisVersion := ∅
  claims : Table Key AnalysisClaimRow := ∅
  selections : Table Key SelectionReceipt := ∅
  reviews : Table Key FinanceReviewRow := ∅
  decisions : Table Key Decision := ∅
  satisfactions : Table Key SatisfactionRow := ∅
  outbox : Table Key OutboxRow := ∅
  actions : Table Key ExecutionAction := ∅
  actionProjections : Table Key ActionProjectionRow := ∅
  drafts : Table Key DraftArtifact := ∅
  attempts : Table Key ExecutionAttempt := ∅
  statusEvents : Table Key ExecutionStatusEvent := ∅
  playbacks : Table Key Playback := ∅
  observations : Table Key OutcomeObservation := ∅
  deliveries : Table Key SupplierEmailDelivery := ∅
  emailRevisions : Table Key SupplierEmailRevision := ∅

/-- The freshly migrated database. -/
def Store.empty : Store := {}

/-! ### Exceptions and programs -/

inductive ExceptionClass
  | recordNotFound
  | immutableRecordConflict
  | persistenceIntegrityError
  | runtimeModeConflict
  | analysisClaimBusy
  | staleProposal
  | selectionIdempotencyConflict
  | financeReviewIdempotencyConflict
  | financeReviewRevisionConflict
  | financeReviewViolation
  | financeCommandConflict
  | financeRequestInvalid
  | financePermissionDenied
  | financeFinalizationConflict
  | financeFinalizationInvalid
  | decisionPolicyViolation (code : String) (role : Option String) (blockingCodes : List String)
  | idempotencyKeyConflict
  | executionProposalStale
  | illegalExecutionTransition
  | integrityError
  | validationError
  | valueError
  | multipleResultsFound
  | playbackAuthorizationError
  | playbackStateError
  | emailAuthorizationError
  | emailRevisionConflict
  | emailStateError
  | emailSendDisabled
  | presenterRetentionPlanChanged
  | presenterRetentionLockUnavailable
  | plannerError (typeName : String)
  deriving DecidableEq, Repr

/-- The subclasses of `ValueError`. -/
def ExceptionClass.isValueError : ExceptionClass → Bool
  | valueError | validationError | financeReviewViolation | financeRequestInvalid
  | financeFinalizationInvalid => true
  | _ => false

/-- A raised exception. -/
structure Raised where
  cls : ExceptionClass
  message : String
  deriving DecidableEq

abbrev Sql (α : Type) := Prog Store Key Raised α

/-- What the process is configured with. -/
structure Env where
  runtimeMode : RuntimeMode
  actors : BoundFinanceActors
  /-- `hashlib.sha256(text).hexdigest()` of the canonical text of the material. -/
  sha256 : HashMaterial → String
  sha256_hex : ∀ material, IsSha256 (sha256 material)
  /-- `str(uuid5(NAMESPACE_URL, name))`. -/
  uuid5 : String → String

/-- `analysis_material_hash`. -/
def Env.analysisMaterialHash (env : Env) (material : AnalysisMaterial) : String :=
  env.sha256 (.analysis material.serialized)

end SupplyResponse
