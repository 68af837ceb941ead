/-
Outbox events, execution actions with their attempts and status events, and
simulated playbacks.

* `AllowedTransition` — the transition graph of an action;
* `ExecutionAction`, `DraftArtifact`, `Playback` — records with the proof of
  their validators.
-/
import SupplyResponse.Domain.Decisions

namespace SupplyResponse

inductive OutboxClaimStatus
  | pending
  | claimed
  | processed
  deriving DecidableEq, Repr

structure ActionPlanningRequested where
  eventId : String
  decisionId : String
  caseId : String
  analysisId : String
  createdAt : Instant
  availableAt : Instant
  deriving DecidableEq

/-- `ActionPlanningRequested.for_decision`. -/
def ActionPlanningRequested.forDecision (eventId : String) (decision : Decision) :
    ActionPlanningRequested where
  eventId := eventId
  decisionId := decision.decisionId
  caseId := decision.caseId
  analysisId := decision.analysisId
  createdAt := decision.decidedAt
  availableAt := decision.decidedAt

structure OutboxClaim where
  eventId : String
  decisionId : String
  caseId : String
  analysisId : String
  deriving DecidableEq

structure OutboxProcessingState where
  eventId : String
  claimStatus : OutboxClaimStatus
  processedAt : Option Instant
  attemptCount : Nat
  lastError : Option String
  deriving DecidableEq

/-! ### Actions -/

inductive ExecutionActionKind
  | prepareAlphaRecoveryDraft
  | coordinateAlphaExpeditedPartial
  | transferDallasToChicago
  | resequencePriorityProduction
  | updateDisruptionStatus
  deriving DecidableEq, Repr

namespace ExecutionActionKind

def value : ExecutionActionKind → String
  | prepareAlphaRecoveryDraft => "prepare_alpha_recovery_draft"
  | coordinateAlphaExpeditedPartial => "coordinate_alpha_expedited_partial"
  | transferDallasToChicago => "transfer_dallas_to_chicago"
  | resequencePriorityProduction => "resequence_priority_production"
  | updateDisruptionStatus => "update_disruption_status"

/-- `tuple(ExecutionActionKind)`. -/
def all : List ExecutionActionKind :=
  [prepareAlphaRecoveryDraft, coordinateAlphaExpeditedPartial, transferDallasToChicago,
    resequencePriorityProduction, updateDisruptionStatus]

end ExecutionActionKind

inductive ExecutionOwnerKind
  | persona
  | system
  deriving DecidableEq, Repr

inductive ExecutionMode
  | simulation
  | communicationPreparation
  deriving DecidableEq, Repr

inductive ExecutionStatus
  | planned
  | inProgress
  | completed
  | failed
  | cancelled
  deriving DecidableEq, Repr

namespace ExecutionStatus

def value : ExecutionStatus → String
  | planned => "planned"
  | inProgress => "in_progress"
  | completed => "completed"
  | failed => "failed"
  | cancelled => "cancelled"

/-- `ALLOWED_TRANSITIONS`. -/
def allowedTransitions : ExecutionStatus → List ExecutionStatus
  | planned => [inProgress, cancelled]
  | inProgress => [completed, failed, cancelled]
  | failed => [inProgress]
  | completed => []
  | cancelled => []

end ExecutionStatus

structure ExecutionAction where
  actionId : String
  caseId : String
  decisionId : String
  kind : ExecutionActionKind
  ownerKind : ExecutionOwnerKind
  ownerPersonaId : Option String
  status : ExecutionStatus
  createdAt : Instant
  draftArtifactId : Option String
  purpose : Option String
  expectedResult : Option String
  executionMode : Option ExecutionMode
  ownerValid :
    if kind = .updateDisruptionStatus then ownerKind = .system ∧ ownerPersonaId = none
    else ownerKind = .persona ∧ ownerPersonaId = some "RL-PERSONA-ALEX"
  draftValid : kind = .prepareAlphaRecoveryDraft ↔ draftArtifactId.isSome
  deriving DecidableEq

/-- `action.model_copy(update={"status": status})`. -/
def ExecutionAction.withStatus (action : ExecutionAction) (status : ExecutionStatus) :
    ExecutionAction :=
  { action with status := status }

@[simp] theorem ExecutionAction.withStatus_status (action : ExecutionAction)
    (status : ExecutionStatus) : (action.withStatus status).status = status := rfl

@[simp] theorem ExecutionAction.withStatus_actionId (action : ExecutionAction)
    (status : ExecutionStatus) : (action.withStatus status).actionId = action.actionId := rfl

@[simp] theorem ExecutionAction.withStatus_decisionId (action : ExecutionAction)
    (status : ExecutionStatus) : (action.withStatus status).decisionId = action.decisionId := rfl

@[simp] theorem ExecutionAction.withStatus_withStatus (action : ExecutionAction)
    (status status' : ExecutionStatus) :
    (action.withStatus status).withStatus status' = action.withStatus status' := rfl

structure DraftArtifact where
  artifactId : String
  actionId : String
  decisionId : String
  createdAt : Instant
  subject : Option String
  body : Option String
  valid : subject.isNone ↔ body.isNone
  deriving DecidableEq

theorem draftContent_none : (none : Option String).isNone ↔ (none : Option String).isNone :=
  Iff.rfl

/-- A draft shell: no content yet. -/
def DraftArtifact.empty (artifactId actionId decisionId : String) (createdAt : Instant) :
    DraftArtifact where
  artifactId := artifactId
  actionId := actionId
  decisionId := decisionId
  createdAt := createdAt
  subject := none
  body := none
  valid := draftContent_none

structure ExecutionAttempt where
  attemptId : String
  actionId : String
  decisionId : String
  attemptNumber : Nat
  status : ExecutionStatus
  startedAt : Instant
  completedAt : Option Instant
  errorCode : Option String
  deriving DecidableEq

structure ExecutionStatusEvent where
  executionEventId : String
  actionId : String
  decisionId : String
  sequenceNumber : Nat
  fromStatus : Option ExecutionStatus
  toStatus : ExecutionStatus
  attemptId : Option String
  errorCode : Option String
  occurredAt : Instant
  deriving DecidableEq

/-! ### Playback -/

inductive PlaybackStatus
  | inProgress
  | completed
  | failed
  deriving DecidableEq, Repr

/-- `Playback.validate_status_time`. -/
def PlaybackStatus.Admits (completedAt failedAt : Option Instant) (errorCode : Option String) :
    PlaybackStatus → Prop
  | inProgress => completedAt = none ∧ failedAt = none ∧ errorCode = none
  | completed => completedAt.isSome ∧ failedAt = none ∧ errorCode = none
  | failed => completedAt = none ∧ failedAt.isSome ∧ errorCode = some "PLAYBACK_EXECUTION_FAILED"

theorem PlaybackStatus.admits_inProgress : PlaybackStatus.inProgress.Admits none none none :=
  ⟨rfl, rfl, rfl⟩

structure Playback where
  playbackId : String
  caseId : String
  decisionId : String
  actor : IdentitySnapshot
  status : PlaybackStatus
  startedAt : Instant
  completedAt : Option Instant
  failedAt : Option Instant
  errorCode : Option String
  valid : status.Admits completedAt failedAt errorCode
  deriving DecidableEq

inductive ObservationKind
  | actual
  | simulated
  deriving DecidableEq, Repr

structure OutcomeObservation where
  observationId : String
  caseId : String
  decisionId : String
  playbackId : Option String
  actionId : Option String
  metric : String
  observedValue : String
  unit : String
  predictedValue : String
  scenarioEffectiveTime : Instant
  recordedAt : Instant
  sourceReference : String
  kind : ObservationKind
  synthetic : Bool
  valid : (kind = .actual → synthetic = false) ∧ (kind = .simulated → synthetic = true) ∧
    (playbackId.isSome → kind = .simulated ∧ synthetic = true)
  deriving DecidableEq

end SupplyResponse
