/-
Analysis Versions and the decision material they bind.

* `AnalysisResponseOptionMaterial.fromOption` and its like — the canonical
  forms inside the hashed material;
* `AnalysisVersion.option?`, `AnalysisVersion.materialOption?` — the first
  option with an id, as the services look it up;
* `AnalysisVersion.serialized` — the version as its stored JSON text denotes
  it: money with two places.
-/
import SupplyResponse.Domain.Evidence

namespace SupplyResponse

/-! ### Standing authorizations -/

inductive ExternalSideEffect
  | externalSending
  | purchaseOrderChange
  | financialCommitment
  deriving DecidableEq, Repr

def ExternalSideEffect.value : ExternalSideEffect → String
  | externalSending => "external_sending"
  | purchaseOrderChange => "purchase_order_change"
  | financialCommitment => "financial_commitment"

inductive CorpusScope
  | demoCorpus
  | realBusiness
  | unspecified
  deriving DecidableEq, Repr

def CorpusScope.value : CorpusScope → String
  | demoCorpus => "demo_corpus"
  | realBusiness => "real_business"
  | unspecified => "unspecified"

structure AuthorizationConditions where
  allowedOptionKinds : List ResponseOptionKind
  maximumResponseCost : Money
  allowedCorpora : List CorpusScope
  allowedTemplateIds : List String
  allowedCasePurposes : List CasePurpose
  validFrom : Instant
  validThrough : Instant
  forbiddenExternalSideEffects : List ExternalSideEffect
  deriving DecidableEq

structure StandingAuthorization where
  authorizationId : String
  personaId : String
  role : String
  conditions : AuthorizationConditions
  deriving DecidableEq

structure ApprovalTarget where
  case : CaseInstance
  corpus : CorpusScope
  scenarioEffectiveTime : Instant
  totalResponseCost : Money
  requestedSideEffects : List ExternalSideEffect
  deriving DecidableEq

structure ApprovalSatisfaction where
  analysisId : String
  optionId : String
  authorizationId : String
  personaId : String
  role : String
  satisfied : Bool
  target : ApprovalTarget
  authorizationConditions : AuthorizationConditions
  deriving DecidableEq

/-! ### Response options and their ranking -/

structure PredictedOutcome where
  uncoveredPartDemand : ℤ
  otifLossPercentage : ℤ
  revenueAtRisk : Money
  marginAtRisk : Money
  responseCost : Money
  protectedCustomerOrderIds : List String
  deriving DecidableEq

structure ResponseOptionEvidenceRequirement where
  evidenceId : String
  authorityScope : List AuthorityScope
  deriving DecidableEq

structure ResponseOption where
  optionId : String
  optionKind : ResponseOptionKind
  name : String
  executable : Bool
  activeMitigation : Bool
  predicted : Option PredictedOutcome
  assumptions : List String := []
  evidenceIds : List String := []
  evidenceRequirements : List ResponseOptionEvidenceRequirement := []
  blockingCodes : List String := []
  prerequisiteRoles : List String := []
  sourceDataLineage : List String := []
  approvalBurden : ℤ := 0
  executionRisk : ℤ := 0
  requestedSideEffects : List ExternalSideEffect := []
  deriving DecidableEq

/-- A comparator value: `Decimal | str`. -/
inductive ComparatorAmount
  | decimal (value : ℚ)
  | text (value : String)
  deriving DecidableEq

structure ComparatorValue where
  optionId : String
  value : ComparatorAmount
  deriving DecidableEq

structure RankingStage where
  comparator : String
  threshold : ℚ
  lowerIsBetter : Bool
  inputOptionIds : List String
  values : List ComparatorValue
  retainedOptionIds : List String
  eliminatedOptionIds : List String
  deriving DecidableEq

structure RankingResult where
  policyVersion : String
  eligibleOptionIds : List String
  infeasibleOptionIds : List String
  excludedBaselineIds : List String
  stages : List RankingStage
  recommendedOptionId : Option String
  noFeasibleMitigation : Bool
  deriving DecidableEq

/-! ### Hashed material -/

structure AnalysisEvidenceMaterial where
  evidenceId : String
  caseId : String
  kind : EvidenceKind
  authorityScope : List AuthorityScope
  sourceSystem : EvidenceSourceSystem
  sourceId : String
  sourceTimestamp : Option Instant
  effectiveAt : Option Instant
  expiresAt : Option Instant
  claim : String
  citationPresent : Bool
  sourceMetadataComplete : Bool
  runtimeMode : RuntimeMode
  synthetic : Bool
  requirement : EvidenceRequirement
  uncertaintyState : UncertaintyState
  validation : EvidenceItemValidation
  deriving DecidableEq

/-- `AnalysisEvidenceMaterial.from_evidence`. -/
def AnalysisEvidenceMaterial.fromEvidence (item : EvidenceItem)
    (validation : EvidenceItemValidation) : AnalysisEvidenceMaterial where
  evidenceId := item.evidenceId
  caseId := item.caseId
  kind := item.kind
  authorityScope := sortedSet AuthorityScope.value item.authorityScope
  sourceSystem := item.sourceSystem
  sourceId := item.sourceId
  sourceTimestamp := item.sourceTimestamp
  effectiveAt := item.effectiveAt
  expiresAt := item.expiresAt
  claim := item.claim
  citationPresent := item.citationUrl.isSome
  sourceMetadataComplete := Nonblank item.sourceId ∧ ∃ excerpt ∈ item.excerpt, Nonblank excerpt
  runtimeMode := item.runtimeMode
  synthetic := item.synthetic
  requirement := item.requirement
  uncertaintyState := item.uncertaintyState
  validation := validation

structure AnalysisConflictMaterial where
  conflictId : String
  caseId : String
  evidenceIds : List String
  authorityScope : List AuthorityScope
  description : String
  feasibilityRelevant : Bool
  deriving DecidableEq

/-- `AnalysisConflictMaterial.from_conflict`. -/
def AnalysisConflictMaterial.fromConflict (item : EvidenceConflict) : AnalysisConflictMaterial where
  conflictId := item.conflictId
  caseId := item.caseId
  evidenceIds := sortedSet id item.evidenceIds
  authorityScope := sortedSet AuthorityScope.value item.authorityScope
  description := item.description
  feasibilityRelevant := item.feasibilityRelevant

structure AnalysisConflictResolutionMaterial where
  conflictId : String
  governingEvidenceId : String
  actor : ActorProvenance
  why : String
  deriving DecidableEq

/-- `AnalysisConflictResolutionMaterial.from_resolution`. -/
def AnalysisConflictResolutionMaterial.fromResolution (item : ConflictResolution) :
    AnalysisConflictResolutionMaterial where
  conflictId := item.conflictId
  governingEvidenceId := item.governingEvidenceId
  actor := { item.actor with roles := sortedSet id item.actor.roles }
  why := item.why

/-- `AnalysisAuthorizationConditionsMaterial.from_conditions`. -/
def AuthorizationConditions.canonical (item : AuthorizationConditions) : AuthorizationConditions :=
  { item with
    allowedOptionKinds := sortedSet ResponseOptionKind.value item.allowedOptionKinds
    allowedCorpora := sortedSet CorpusScope.value item.allowedCorpora
    allowedTemplateIds := sortedSet id item.allowedTemplateIds
    allowedCasePurposes := sortedSet CasePurpose.value item.allowedCasePurposes
    forbiddenExternalSideEffects :=
      sortedSet ExternalSideEffect.value item.forbiddenExternalSideEffects }

/-- `AnalysisStandingAuthorizationMaterial.from_authorization`. -/
def StandingAuthorization.canonical (item : StandingAuthorization) : StandingAuthorization :=
  { item with conditions := item.conditions.canonical }

structure AnalysisApprovalTargetMaterial where
  caseId : String
  templateId : String
  purpose : CasePurpose
  runtimeMode : RuntimeMode
  scenarioEffectiveTime : Instant
  corpus : CorpusScope
  totalResponseCost : Money
  requestedSideEffects : List ExternalSideEffect
  deriving DecidableEq

structure AnalysisApprovalMaterial where
  optionId : String
  authorizationId : String
  personaId : String
  role : String
  satisfied : Bool
  target : AnalysisApprovalTargetMaterial
  authorizationConditions : AuthorizationConditions
  deriving DecidableEq

/-- `AnalysisApprovalMaterial.from_satisfaction`. -/
def AnalysisApprovalMaterial.fromSatisfaction (item : ApprovalSatisfaction) :
    AnalysisApprovalMaterial where
  optionId := item.optionId
  authorizationId := item.authorizationId
  personaId := item.personaId
  role := item.role
  satisfied := item.satisfied
  target :=
    { caseId := item.target.case.caseId
      templateId := item.target.case.templateId
      purpose := item.target.case.purpose
      runtimeMode := item.target.case.runtimeMode
      scenarioEffectiveTime := item.target.scenarioEffectiveTime
      corpus := item.target.corpus
      totalResponseCost := item.target.totalResponseCost
      requestedSideEffects :=
        sortedSet ExternalSideEffect.value item.target.requestedSideEffects }
  authorizationConditions := item.authorizationConditions.canonical

structure AnalysisResponseOptionMaterial where
  optionId : String
  optionKind : ResponseOptionKind
  executable : Bool
  activeMitigation : Bool
  predicted : Option PredictedOutcome
  assumptions : List String
  evidenceIds : List String
  evidenceRequirements : List ResponseOptionEvidenceRequirement
  blockingCodes : List String
  prerequisiteRoles : List String
  sourceDataLineage : List String
  approvalBurden : ℤ
  executionRisk : ℤ
  requestedSideEffects : List ExternalSideEffect
  deriving DecidableEq

/-- `AnalysisResponseOptionMaterial.from_option`. -/
def AnalysisResponseOptionMaterial.fromOption (item : ResponseOption) :
    AnalysisResponseOptionMaterial where
  optionId := item.optionId
  optionKind := item.optionKind
  executable := item.executable
  activeMitigation := item.activeMitigation
  predicted := item.predicted.map fun p =>
    { p with protectedCustomerOrderIds := sortedSet id p.protectedCustomerOrderIds }
  assumptions := sortedSet id item.assumptions
  evidenceIds := sortedSet id item.evidenceIds
  evidenceRequirements :=
    item.evidenceRequirements.insertionSort fun a b => a.evidenceId ≤ b.evidenceId
  blockingCodes := sortedSet id item.blockingCodes
  prerequisiteRoles := sortedSet id item.prerequisiteRoles
  sourceDataLineage := sortedSet id item.sourceDataLineage
  approvalBurden := item.approvalBurden
  executionRisk := item.executionRisk
  requestedSideEffects := sortedSet ExternalSideEffect.value item.requestedSideEffects

structure AnalysisMaterial where
  caseId : String
  templateId : String
  casePurpose : CasePurpose
  runtimeMode : RuntimeMode
  corpus : CorpusScope
  scenarioEffectiveTime : Instant
  /-- The snapshot that `operational_snapshot_json` denotes. -/
  operationalSnapshotJson : OperationalSnapshot
  requiredAuthorityScope : List AuthorityScope
  evidence : List AnalysisEvidenceMaterial
  conflicts : List AnalysisConflictMaterial
  conflictResolutions : List AnalysisConflictResolutionMaterial
  evidenceValidation : EvidenceValidation
  responseOptions : List AnalysisResponseOptionMaterial
  standingAuthorizations : List StandingAuthorization
  approvalSatisfactions : List AnalysisApprovalMaterial
  ranking : RankingResult
  calculationVersion : String
  evidencePolicyVersion : String
  approvalPolicyVersion : String
  deriving DecidableEq

structure AnalysisVersion where
  analysisId : String
  caseId : String
  analysisStartedAt : Instant
  retrievalWindowEndsAt : Instant
  createdAt : Instant
  materialHash : String
  material : AnalysisMaterial
  evidenceItems : List EvidenceItem
  evidenceValidation : EvidenceValidation
  responseOptions : List ResponseOption
  approvalSatisfactions : List ApprovalSatisfaction
  ranking : RankingResult
  deriving DecidableEq

/-- `next(option for option in analysis.response_options if …)`. -/
def AnalysisVersion.option? (analysis : AnalysisVersion) (optionId : String) :
    Option ResponseOption :=
  analysis.responseOptions.find? fun o => o.optionId = optionId

/-- `next(option for option in analysis.material.response_options if …)`. -/
def AnalysisVersion.materialOption? (analysis : AnalysisVersion) (optionId : String) :
    Option AnalysisResponseOptionMaterial :=
  analysis.material.responseOptions.find? fun o => o.optionId = optionId

/-! ### JSON texts -/

def AuthorizationConditions.serialized (c : AuthorizationConditions) : AuthorizationConditions :=
  { c with maximumResponseCost := c.maximumResponseCost.serialized }

def ApprovalSatisfaction.serialized (s : ApprovalSatisfaction) : ApprovalSatisfaction :=
  { s with
    target := { s.target with totalResponseCost := s.target.totalResponseCost.serialized }
    authorizationConditions := s.authorizationConditions.serialized }

def PredictedOutcome.serialized (p : PredictedOutcome) : PredictedOutcome :=
  { p with
    revenueAtRisk := p.revenueAtRisk.serialized
    marginAtRisk := p.marginAtRisk.serialized
    responseCost := p.responseCost.serialized }

def ResponseOption.serialized (o : ResponseOption) : ResponseOption :=
  { o with predicted := o.predicted.map PredictedOutcome.serialized }

def AnalysisMaterial.serialized (m : AnalysisMaterial) : AnalysisMaterial :=
  { m with
    responseOptions := m.responseOptions.map fun o =>
      { o with predicted := o.predicted.map PredictedOutcome.serialized }
    standingAuthorizations := m.standingAuthorizations.map fun a =>
      { a with conditions := a.conditions.serialized }
    approvalSatisfactions := m.approvalSatisfactions.map fun a =>
      { a with
        target := { a.target with totalResponseCost := a.target.totalResponseCost.serialized }
        authorizationConditions := a.authorizationConditions.serialized } }

/-- The version as its stored JSON text denotes it. -/
def AnalysisVersion.serialized (analysis : AnalysisVersion) : AnalysisVersion :=
  { analysis with
    material := analysis.material.serialized
    responseOptions := analysis.responseOptions.map ResponseOption.serialized
    approvalSatisfactions := analysis.approvalSatisfactions.map ApprovalSatisfaction.serialized }

end SupplyResponse
