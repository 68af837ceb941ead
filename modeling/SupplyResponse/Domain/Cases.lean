/-
Case Instances and the identities that act on them.
-/
import SupplyResponse.Domain.Operations

namespace SupplyResponse

inductive CaseStatus
  | open
  | analyzing
  | awaitingDecision
  | decisionRejected
  | actionPlanning
  | executing
  | monitoring
  | reanalysisRequired
  | closed
  deriving DecidableEq, Repr

inductive WorkflowVersion
  | legacy
  | independentFinance
  deriving DecidableEq, Repr

def WorkflowVersion.value : WorkflowVersion → String
  | legacy => "standing-authorization-v1"
  | independentFinance => "independent-finance-v1"

structure SupplierDisruptionFacts where
  originalQuantity : Nat
  partId : String
  plantName : String
  originalDueDate : Date
  partialQuantity : Nat
  partialDueDate : Date
  additionalCostPerUnit : Money
  remainingQuantity : Nat
  recoveryDate : Option Date
  deriving DecidableEq

structure SupplierEmailSource where
  tenantId : String
  mailboxObjectId : String
  internetMessageId : String
  reviewFingerprint : String
  messageId : String
  subject : String
  sender : String
  recipients : List String
  receivedAt : Instant
  reviewedAt : Instant
  citationUrl : String
  facts : SupplierDisruptionFacts
  deriving DecidableEq

structure CaseInstance where
  caseId : String
  templateId : String
  purpose : CasePurpose
  runtimeMode : RuntimeMode
  scenarioEffectiveTime : Instant
  status : CaseStatus := .open
  workflowVersion : Option WorkflowVersion := none
  supplierEmail : Option SupplierEmailSource := none
  presenterRunId : Option String := none
  deriving DecidableEq

namespace CaseInstance

def effectiveWorkflowVersion (case : CaseInstance) : WorkflowVersion :=
  case.workflowVersion.getD .legacy

/-- `case.model_copy(update={"status": status})`; the provenance checks of
`model_copy` compare fields that the update leaves alone. -/
def withStatus (case : CaseInstance) (status : CaseStatus) : CaseInstance :=
  { case with status := status }

/-- The provenance that a stored projection shares with the immutable Case
Instance: every field but the status and the spelling of the default workflow. -/
def SameProvenance (case stored : CaseInstance) : Prop :=
  case.caseId = stored.caseId ∧ case.templateId = stored.templateId ∧
    case.purpose = stored.purpose ∧ case.runtimeMode = stored.runtimeMode ∧
    case.scenarioEffectiveTime = stored.scenarioEffectiveTime ∧
    case.supplierEmail = stored.supplierEmail ∧
    case.presenterRunId = stored.presenterRunId ∧
    case.effectiveWorkflowVersion = stored.effectiveWorkflowVersion

instance (case stored : CaseInstance) : Decidable (case.SameProvenance stored) :=
  inferInstanceAs (Decidable (_ ∧ _))

@[simp] theorem withStatus_status (case : CaseInstance) (status : CaseStatus) :
    (case.withStatus status).status = status := rfl

@[simp] theorem withStatus_caseId (case : CaseInstance) (status : CaseStatus) :
    (case.withStatus status).caseId = case.caseId := rfl

@[simp] theorem withStatus_effectiveWorkflowVersion (case : CaseInstance) (status : CaseStatus) :
    (case.withStatus status).effectiveWorkflowVersion = case.effectiveWorkflowVersion := rfl

theorem SameProvenance.refl (case : CaseInstance) : case.SameProvenance case :=
  ⟨rfl, rfl, rfl, rfl, rfl, rfl, rfl, rfl⟩

end CaseInstance

/-! ### Identities -/

inductive IdentitySource
  | entra
  deriving DecidableEq, Repr

structure IdentitySnapshot where
  personaId : String
  effectiveRoles : List String
  identitySource : IdentitySource
  sourceId : String
  tenantId : Option String := none
  objectId : Option String := none
  displayName : Option String := none
  userPrincipalName : Option String := none
  deriving DecidableEq

namespace IdentitySnapshot

/-- `UUID(actor.tenant_id or "")`. -/
def tenant? (actor : IdentitySnapshot) : Option Uuid := Uuid.parse (actor.tenantId.getD "")

/-- `UUID(actor.object_id or "")`. -/
def object? (actor : IdentitySnapshot) : Option Uuid := Uuid.parse (actor.objectId.getD "")

/-- The fixed part of an identity: persona, source and exact roles. -/
def HasShape (actor : IdentitySnapshot) (persona source : String) (roles : List String) : Prop :=
  actor.personaId = persona ∧ actor.sourceId = source ∧ actor.identitySource = .entra ∧
    actor.effectiveRoles = roles

instance (actor : IdentitySnapshot) (persona source : String) (roles : List String) :
    Decidable (actor.HasShape persona source roles) :=
  inferInstanceAs (Decidable (_ ∧ _))

end IdentitySnapshot

/-- The roles of the bound Alex, in the canonical order of `effective_roles`. -/
def alexRoles : List String := ["material_planner", "response_approver"]

/-- The roles of the bound Taylor. -/
def taylorRoles : List String := ["finance_approver"]

end SupplyResponse
