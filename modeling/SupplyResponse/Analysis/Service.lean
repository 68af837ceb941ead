/-
The analysis of a case (`services/analysis/service.py`,
`services/policy/approvals.py`, `services/policy/workflow.py`).

* `AnalyzeCaseCommand` — what an analysis is asked to consider;
* `applyEvidenceFeasibility`, `applyQualityApprovalFeasibility` — the two
  passes that block options;
* `evaluateApprovalSatisfactions` — the authorizations that permit an option;
* `createAnalysisVersion`, `analyzeCase` — the Analysis Version with its
  material.
-/
import Mathlib.Data.Prod.Lex
import SupplyResponse.Analysis.Ranking
import SupplyResponse.Policy.Decisions
import SupplyResponse.Policy.Evidence

namespace SupplyResponse

structure AnalyzeCaseCommand where
  analysisId : String
  case : CaseInstance
  corpus : CorpusScope
  operationalSnapshot : OperationalSnapshot
  evidenceItems : List EvidenceItem := []
  standingAuthorizations : List StandingAuthorization := []
  analysisStartedAt : Instant
  createdAt : Instant
  calculationVersion : String
  conflicts : List EvidenceConflict := []
  conflictResolutions : List ConflictResolution := []
  requiredAuthorityScope : List AuthorityScope := []
  evidencePolicyVersion : String := SupplyResponse.evidencePolicyVersion
  approvalPolicyVersion : Option String := none
  deriving DecidableEq

/-! ### The workflow of the case -/

/-- `approval_policy_for`. -/
def approvalPolicyFor (case : CaseInstance) : String := case.effectiveWorkflowVersion.value

/-- `standing_authorizations_for`. -/
def standingAuthorizationsFor (case : CaseInstance) (authorizations : List StandingAuthorization) :
    List StandingAuthorization :=
  if case.effectiveWorkflowVersion = .legacy then authorizations
  else authorizations.filter fun item => item.role ≠ "finance_approver"

/-! ### Checks -/

/-- `_reject_duplicate_ids`, on the ids. -/
def rejectDuplicateIds (ids : List String) (label : String) : Except AnalysisError Unit :=
  if ids.Nodup then .ok () else .error (.valueError s!"duplicate {label} stable ID")

/-- `_validate_provenance`. -/
def validateProvenance (command : AnalyzeCaseCommand) : Except AnalysisError Unit := do
  requirePolicy (command.operationalSnapshot.caseId = command.case.caseId ∧
      command.operationalSnapshot.runtimeMode = command.case.runtimeMode ∧
      command.operationalSnapshot.scenarioEffectiveTime = command.case.scenarioEffectiveTime)
    "Operational snapshot provenance does not match the case."
  requirePolicy (∀ item ∈ command.evidenceItems,
      item.caseId = command.case.caseId ∧ item.runtimeMode = command.case.runtimeMode)
    "Evidence provenance does not match the case."
  requirePolicy (∀ conflict ∈ command.conflicts, conflict.caseId = command.case.caseId)
    "Conflict provenance does not match the case."
  requirePolicy (∀ conflict ∈ command.conflicts, ∀ id ∈ conflict.evidenceIds,
      id ∈ command.evidenceItems.map EvidenceItem.evidenceId)
    "Conflict evidence provenance is outside the case bundle."

/-! ### Evidence -/

/-- What blocks an option by one of its requirements. -/
def requirementCodes (results : List EvidenceItemValidation)
    (requirement : ResponseOptionEvidenceRequirement) : List String :=
  match validationFor results requirement.evidenceId with
  | none => [EvidenceBlockingCode.requiredEvidenceMissing.value]
  | some validation =>
    validation.blockingCodes.map EvidenceBlockingCode.value ++
      (if validation.uncertaintyState = .conflicted then
        [EvidenceBlockingCode.evidenceConflictUnresolved.value] else []) ++
      (if ∃ scope ∈ requirement.authorityScope, scope ∉ validation.validatedAuthorityScope then
        [EvidenceBlockingCode.authorityScopeMismatch.value] else []) ++
      (if validation.authoritative = false ∧ validation.blockingCodes = [] ∧
          validation.uncertaintyState ≠ .conflicted then
        [EvidenceBlockingCode.requiredEvidenceNotAuthoritative.value] else [])

/-- `evidence_codes`. -/
def evidenceCodes (validation : EvidenceValidation) (option : ResponseOption) : List String :=
  (if option.activeMitigation then
    validation.globalBlockingCodes.map EvidenceBlockingCode.value else []) ++
    option.evidenceRequirements.flatMap (requirementCodes validation.itemResults)

/-- The body of the loop of `_apply_evidence_feasibility`. -/
def withEvidenceCodes (validation : EvidenceValidation) (option : ResponseOption) :
    ResponseOption :=
  let codes := (option.blockingCodes ++ evidenceCodes validation option).eraseDups
  { option with
    executable := option.executable && codes.isEmpty
    blockingCodes := codes }

/-- `_apply_evidence_feasibility`. -/
def applyEvidenceFeasibility (options : List ResponseOption) (validation : EvidenceValidation) :
    List ResponseOption :=
  options.map (withEvidenceCodes validation)

/-! ### Approvals -/

/-- `_ROLE_PERSONAS` of `services/policy/approvals.py`. -/
def approvalPersonas (role : String) : Option String :=
  if role = "quality_approver" then some "RL-PERSONA-JORDAN" else none

/-- `evaluate_approval_satisfaction`. -/
def evaluateApprovalSatisfaction (option : ResponseOption) (analysisId : String)
    (standingAuthorizations : List StandingAuthorization) (target : ApprovalTarget) :
    List ApprovalSatisfaction :=
  (sortedSet id (option.prerequisiteRoles.filter fun role => role ≠ "response_approver")).flatMap
    fun role =>
      (standingAuthorizations.filter fun authorization =>
        authorization.role = role ∧
          (∀ persona ∈ approvalPersonas role, authorization.personaId = persona) ∧
          authorization.Permits option target).filterMap fun authorization =>
        (ApprovalSatisfaction.fromAuthorization analysisId option authorization target).toOption

/-- The target that the authorizations have to permit. -/
def approvalTarget (case : CaseInstance) (corpus : CorpusScope) (option : ResponseOption) :
    ApprovalTarget where
  case := case
  corpus := corpus
  scenarioEffectiveTime := case.scenarioEffectiveTime
  totalResponseCost := (option.predicted.map PredictedOutcome.responseCost).getD 0
  requestedSideEffects := option.requestedSideEffects

/-- `_evaluate_approval_satisfactions`. -/
def evaluateApprovalSatisfactions (options : List ResponseOption) (analysisId : String)
    (case : CaseInstance) (corpus : CorpusScope)
    (standingAuthorizations : List StandingAuthorization) : List ApprovalSatisfaction :=
  options.flatMap fun option =>
    evaluateApprovalSatisfaction option analysisId standingAuthorizations
      (approvalTarget case corpus option)

/-- Some satisfaction of the quality approver is for the option. -/
def QualitySatisfied (satisfactions : List ApprovalSatisfaction) (option : ResponseOption) : Prop :=
  ∃ satisfaction ∈ satisfactions, satisfaction.role = "quality_approver" ∧
    satisfaction.satisfied = true ∧ satisfaction.optionId = option.optionId

instance (satisfactions : List ApprovalSatisfaction) (option : ResponseOption) :
    Decidable (QualitySatisfied satisfactions option) :=
  inferInstanceAs (Decidable (∃ satisfaction ∈ satisfactions, _))

/-- The body of `_apply_quality_approval_feasibility`. -/
def withQualityApproval (satisfactions : List ApprovalSatisfaction) (option : ResponseOption) :
    ResponseOption :=
  if option.executable = true ∧ "quality_approver" ∈ option.prerequisiteRoles ∧
      ¬ QualitySatisfied satisfactions option then
    { option with
      executable := false
      blockingCodes := (option.blockingCodes ++ ["QUALITY_APPROVAL_UNSATISFIED"]).eraseDups }
  else option

/-- `_apply_quality_approval_feasibility`. -/
def applyQualityApprovalFeasibility (options : List ResponseOption)
    (satisfactions : List ApprovalSatisfaction) : List ResponseOption :=
  options.map (withQualityApproval satisfactions)

/-! ### The Analysis Version -/

/-- `(option_id, role, persona_id, authorization_id)`. -/
def satisfactionKey (satisfaction : ApprovalSatisfaction) :
    String ×ₗ String ×ₗ String ×ₗ String :=
  toLex (satisfaction.optionId, toLex (satisfaction.role,
    toLex (satisfaction.personaId, satisfaction.authorizationId)))

/-- `tuple(sorted(set(required_authority_scope), key=lambda value: value.value))`. -/
def AnalyzeCaseCommand.canonicalRequiredScope (command : AnalyzeCaseCommand) :
    List AuthorityScope :=
  sortedSet AuthorityScope.value command.requiredAuthorityScope

/-- `canonical_conflicts`. -/
def AnalyzeCaseCommand.canonicalConflicts (command : AnalyzeCaseCommand) : List EvidenceConflict :=
  command.conflicts.insertionSort fun a b => a.conflictId ≤ b.conflictId

/-- `canonical_resolutions`. -/
def AnalyzeCaseCommand.canonicalResolutions (command : AnalyzeCaseCommand) :
    List ConflictResolution :=
  command.conflictResolutions.insertionSort fun a b => a.conflictId ≤ b.conflictId

/-- `canonical_authorizations`. -/
def AnalyzeCaseCommand.canonicalAuthorizations (command : AnalyzeCaseCommand) :
    List StandingAuthorization :=
  (standingAuthorizationsFor command.case command.standingAuthorizations).insertionSort
    fun a b => a.authorizationId ≤ b.authorizationId

/-- What every item of the analysis is validated with. -/
def AnalyzeCaseCommand.context (command : AnalyzeCaseCommand) : ValidationContext where
  analysisId := command.analysisId
  runtimeMode := command.case.runtimeMode
  scenarioEffectiveTime := command.case.scenarioEffectiveTime
  analysisStartedAt := command.analysisStartedAt
  analysisRecordedAt := command.createdAt

/-- The evidence of the material; every item has a validation. -/
def evidenceMaterial (items : List EvidenceItem) (validation : EvidenceValidation) :
    List AnalysisEvidenceMaterial :=
  items.filterMap fun item =>
    (validationFor validation.itemResults item.evidenceId).map
      (AnalysisEvidenceMaterial.fromEvidence item)

/-- The material of an analysis. -/
def analysisMaterial (command : AnalyzeCaseCommand) (snapshot : OperationalSnapshot)
    (validation : EvidenceValidation) (options : List ResponseOption)
    (satisfactions : List ApprovalSatisfaction) (ranking : RankingResult) : AnalysisMaterial where
  caseId := command.case.caseId
  templateId := command.case.templateId
  casePurpose := command.case.purpose
  runtimeMode := command.case.runtimeMode
  corpus := command.corpus
  scenarioEffectiveTime := command.case.scenarioEffectiveTime
  operationalSnapshotJson := snapshot
  requiredAuthorityScope := command.canonicalRequiredScope
  evidence := evidenceMaterial (sortedEvidence command.evidenceItems) validation
  conflicts := command.canonicalConflicts.map AnalysisConflictMaterial.fromConflict
  conflictResolutions :=
    command.canonicalResolutions.map AnalysisConflictResolutionMaterial.fromResolution
  evidenceValidation := validation
  responseOptions := options.map AnalysisResponseOptionMaterial.fromOption
  standingAuthorizations := command.canonicalAuthorizations.map StandingAuthorization.canonical
  approvalSatisfactions :=
    (satisfactions.insertionSort fun a b => satisfactionKey a ≤ satisfactionKey b).map
      AnalysisApprovalMaterial.fromSatisfaction
  ranking := ranking
  calculationVersion := command.calculationVersion
  evidencePolicyVersion := evidencePolicyVersion
  approvalPolicyVersion := approvalPolicyFor command.case

/-- The checks at the head of `create_analysis_version`. -/
def checkCommand (command : AnalyzeCaseCommand) (responseOptions : List ResponseOption) :
    Except AnalysisError Unit := do
  requirePolicy (command.evidencePolicyVersion = evidencePolicyVersion)
    "Evidence policy version does not match the evaluator."
  requirePolicy (∀ version ∈ command.approvalPolicyVersion, version = approvalPolicyFor command.case)
    "Approval policy version does not match the evaluator."
  requirePolicy (command.analysisStartedAt ≤ command.createdAt)
    "Analysis creation cannot precede analysis start."
  rejectDuplicateIds (command.evidenceItems.map EvidenceItem.evidenceId) "evidence"
  rejectDuplicateIds (responseOptions.map ResponseOption.optionId) "response option"
  rejectDuplicateIds (command.conflicts.map EvidenceConflict.conflictId) "conflict"
  rejectDuplicateIds (command.conflictResolutions.map ConflictResolution.conflictId)
    "conflict resolution"
  rejectDuplicateIds (command.standingAuthorizations.map StandingAuthorization.authorizationId)
    "standing authorization"
  validateProvenance command

/-- The options by their ids. -/
def canonicalOptions (responseOptions : List ResponseOption) : List ResponseOption :=
  responseOptions.insertionSort fun a b => a.optionId ≤ b.optionId

/-- A computation whose error is the text of a `ValueError`. -/
def valueErrorOf {α : Type} (result : Except String α) : Except AnalysisError α :=
  result.mapError AnalysisError.valueError

section

variable (env : Env) (unicode : Text.Unicode) (isIpv6 : String → Bool)

/-- The validation of the evidence of a command. -/
def validateEvidenceOf (command : AnalyzeCaseCommand) : Except AnalysisError EvidenceValidation :=
  validateRequiredEvidence unicode isIpv6 command.context (sortedEvidence command.evidenceItems)
    command.canonicalRequiredScope command.canonicalConflicts command.canonicalResolutions

/-- The satisfactions of a command whose options the evidence has been applied to. -/
def satisfactionsOf (command : AnalyzeCaseCommand) (options : List ResponseOption) :
    List ApprovalSatisfaction :=
  evaluateApprovalSatisfactions options command.analysisId command.case command.corpus
    command.canonicalAuthorizations

/-- `create_analysis_version`. -/
def createAnalysisVersion (command : AnalyzeCaseCommand) (responseOptions : List ResponseOption) :
    Except AnalysisError AnalysisVersion := do
  checkCommand command responseOptions
  let validation ← validateEvidenceOf unicode isIpv6 command
  let adjusted := applyEvidenceFeasibility (canonicalOptions responseOptions) validation
  let satisfactions := satisfactionsOf command adjusted
  let options := applyQualityApprovalFeasibility adjusted satisfactions
  let ranking ← rankOptions options
  let snapshot ← valueErrorOf (canonicalOperationalSnapshot command.operationalSnapshot)
  let material := analysisMaterial command snapshot validation options satisfactions ranking
  pure
    { analysisId := command.analysisId
      caseId := command.case.caseId
      analysisStartedAt := command.analysisStartedAt
      retrievalWindowEndsAt :=
        min (command.analysisStartedAt + evidenceRetrievalWindow) command.createdAt
      createdAt := command.createdAt
      materialHash := env.analysisMaterialHash material
      material := material
      evidenceItems := sortedEvidence command.evidenceItems
      evidenceValidation := validation
      responseOptions := options
      approvalSatisfactions := satisfactions
      ranking := ranking }

/-- `analyze_case`. -/
def analyzeCase (command : AnalyzeCaseCommand) : Except AnalysisError AnalysisVersion := do
  let responseOptions ← evaluateResponseOptions command.operationalSnapshot
  createAnalysisVersion env unicode isIpv6 command responseOptions

end

end SupplyResponse
