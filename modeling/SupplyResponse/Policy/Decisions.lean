/-
The Decision policy (`DecisionPolicy` of `services/decisions/service.py`).

* `authorizeActor`, `requireCurrentAnalysis`, `selectedOption` — the checks of
  a Decision command against the current analysis;
* `StandingAuthorization.Permits`, `revalidateExistingSatisfactions` — the
  external approvals of an option;
* `authorizeAndMaterialize`, `authorizeIndependentAndMaterialize` — the
  satisfactions that a Decision is recorded with, in the two workflows.
-/
import SupplyResponse.Policy.FinanceReview

namespace SupplyResponse

/-! ### Standing authorizations -/

/-- `StandingAuthorization.permits`. -/
def StandingAuthorization.Permits (authorization : StandingAuthorization) (option : ResponseOption)
    (target : ApprovalTarget) : Prop :=
  ∃ predicted ∈ option.predicted,
    option.optionKind ∈ authorization.conditions.allowedOptionKinds ∧
      target.corpus ∈ authorization.conditions.allowedCorpora ∧
      target.case.templateId ∈ authorization.conditions.allowedTemplateIds ∧
      target.case.purpose ∈ authorization.conditions.allowedCasePurposes ∧
      target.case.scenarioEffectiveTime = target.scenarioEffectiveTime ∧
      target.totalResponseCost = predicted.responseCost ∧
      target.requestedSideEffects = option.requestedSideEffects ∧
      target.totalResponseCost ≤ authorization.conditions.maximumResponseCost ∧
      authorization.conditions.validFrom ≤ target.scenarioEffectiveTime ∧
      target.scenarioEffectiveTime ≤ authorization.conditions.validThrough ∧
      ∀ effect ∈ target.requestedSideEffects,
        effect ∉ authorization.conditions.forbiddenExternalSideEffects

instance (authorization : StandingAuthorization) (option : ResponseOption)
    (target : ApprovalTarget) : Decidable (authorization.Permits option target) :=
  inferInstanceAs (Decidable (∃ predicted ∈ option.predicted, _ ∧ _))

/-- `ApprovalSatisfaction.from_authorization`. -/
def ApprovalSatisfaction.fromAuthorization (analysisId : String) (option : ResponseOption)
    (authorization : StandingAuthorization) (target : ApprovalTarget) :
    Except Raised ApprovalSatisfaction :=
  if authorization.Permits option target then
    .ok
      { analysisId := analysisId
        optionId := option.optionId
        authorizationId := authorization.authorizationId
        personaId := authorization.personaId
        role := authorization.role
        satisfied := true
        target := target
        authorizationConditions := authorization.conditions }
  else .error ⟨.valueError, "Standing Authorization does not permit this target."⟩

/-! ### Checks of a command -/

/-- `DecisionPolicyViolation`. -/
def policyViolation (message : String) (code : String := "DECISION_POLICY_VIOLATION")
    (role : Option String := none) (blockingCodes : List String := []) : Raised :=
  ⟨.decisionPolicyViolation code role blockingCodes, message⟩

/-- Go on if `c` holds, else raise. -/
def ensure (c : Prop) [Decidable c] (e : Raised) : Except Raised Unit :=
  if c then .ok () else .error e

theorem ensure_eq_ok {c : Prop} [Decidable c] {e : Raised} {u : Unit} :
    ensure c e = .ok u ↔ c := by
  unfold ensure
  split
  · simp [*]
  · simp [*]

/-- `_authorize_actor`. -/
def authorizeActor (command : RecordDecisionCommand) (actor : IdentitySnapshot) :
    Except Raised Unit := do
  ensure (actor.personaId = "RL-PERSONA-ALEX" ∧ actor.identitySource = .entra ∧
      actor.sourceId = "RL-ENTRA-ALEX")
    (policyViolation "Decision requires the server-owned Alex identity" "ROLE_REQUIRED"
      (some "response_approver"))
  ensure ("response_approver" ∈ actor.effectiveRoles)
    (policyViolation "Decision requires the response_approver role" "ROLE_REQUIRED"
      (some "response_approver"))
  ensure (command.kind = .approved → "material_planner" ∈ actor.effectiveRoles)
    (policyViolation "Approval requires the material_planner role" "ROLE_REQUIRED"
      (some "material_planner"))

/-- `_require_current_analysis`; the analysis pointer of the projection is given
by its two columns. -/
def requireCurrentAnalysis (command : RecordDecisionCommand) (case : CaseInstance)
    (currentAnalysisId currentAnalysisHash : Option String) (analysis : AnalysisVersion) :
    Except Raised Unit := do
  ensure (analysis.analysisId = command.analysisId)
    (policyViolation "Decision analysis_id is inconsistent" "STALE_ANALYSIS")
  ensure (analysis.caseId = command.caseId ∧ case.caseId = command.caseId)
    (policyViolation "Decision case and analysis are inconsistent" "STALE_ANALYSIS")
  ensure (currentAnalysisId = some analysis.analysisId ∧
      currentAnalysisHash = some analysis.materialHash)
    (policyViolation "Decision must use the current analysis and material hash" "STALE_ANALYSIS")
  ensure (analysis.material.caseId = case.caseId ∧
      analysis.material.templateId = case.templateId ∧
      analysis.material.casePurpose = case.purpose ∧
      analysis.material.runtimeMode = case.runtimeMode ∧
      analysis.material.scenarioEffectiveTime = case.scenarioEffectiveTime)
    (policyViolation "Current analysis provenance does not match the Case Instance"
      "STALE_ANALYSIS")

/-- `_selected_option`. -/
def selectedOption (command : RecordDecisionCommand) (analysis : AnalysisVersion) :
    Except Raised ResponseOption := do
  let option ← (command.selectedOptionId.bind analysis.option?).elim
    (.error (policyViolation "Selected option is not part of the current analysis"
      "OPTION_NOT_IN_ANALYSIS")) .ok
  ensure (analysis.materialOption? option.optionId =
      some (AnalysisResponseOptionMaterial.fromOption option))
    (policyViolation
      "Selected option snapshot conflicts with immutable analysis material")
  ensure (option.executable = true ∧ option.predicted.isSome ∧ option.blockingCodes = [])
    (policyViolation "Selected option is not executable" "OPTION_NOT_EXECUTABLE" none
      option.blockingCodes)
  ensure (option.optionId ∈ analysis.ranking.eligibleOptionIds)
    (policyViolation "Selected option is absent from the ranking eligibility trace")
  ensure (∀ id ∈ option.evidenceIds,
      id ∈ analysis.evidenceItems.map EvidenceItem.evidenceId ∧
        id ∈ analysis.material.evidence.map AnalysisEvidenceMaterial.evidenceId)
    (policyViolation "Selected option evidence lineage is incomplete")
  pure option

/-! ### External approvals -/

/-- `_target_matches_current_state`. -/
def TargetMatchesCurrentState (satisfaction : ApprovalSatisfaction) (case : CaseInstance)
    (analysis : AnalysisVersion) (option : ResponseOption) : Prop :=
  ∃ predicted ∈ option.predicted,
    satisfaction.target.case.caseId = case.caseId ∧
      satisfaction.target.case.templateId = case.templateId ∧
      satisfaction.target.case.purpose = case.purpose ∧
      satisfaction.target.case.runtimeMode = case.runtimeMode ∧
      satisfaction.target.case.scenarioEffectiveTime = case.scenarioEffectiveTime ∧
      satisfaction.target.corpus = analysis.material.corpus ∧
      satisfaction.target.scenarioEffectiveTime = case.scenarioEffectiveTime ∧
      satisfaction.target.totalResponseCost = predicted.responseCost ∧
      satisfaction.target.requestedSideEffects = option.requestedSideEffects

instance (satisfaction : ApprovalSatisfaction) (case : CaseInstance) (analysis : AnalysisVersion)
    (option : ResponseOption) :
    Decidable (TargetMatchesCurrentState satisfaction case analysis option) :=
  inferInstanceAs (Decidable (∃ predicted ∈ option.predicted, _ ∧ _))

/-- `_ROLE_PERSONAS`. -/
def rolePersonas (role : String) : Option String :=
  if role = "finance_approver" then some "RL-PERSONA-TAYLOR"
  else if role = "quality_approver" then some "RL-PERSONA-JORDAN"
  else none

/-- The satisfactions of a role that still permit the option. -/
def currentSatisfactions (satisfactions : List ApprovalSatisfaction) (case : CaseInstance)
    (analysis : AnalysisVersion) (option : ResponseOption) (role : String) :
    List ApprovalSatisfaction :=
  satisfactions.filter fun item =>
    item.role = role ∧ item.satisfied = true ∧ (∀ p ∈ rolePersonas role, item.personaId = p) ∧
      TargetMatchesCurrentState item case analysis option ∧
      StandingAuthorization.Permits
        ⟨item.authorizationId, item.personaId, item.role, item.authorizationConditions⟩ option
        item.target

/-- The one current satisfaction of a role. -/
def requireSatisfaction (satisfactions : List ApprovalSatisfaction) (case : CaseInstance)
    (analysis : AnalysisVersion) (option : ResponseOption) (role : String) :
    Except Raised ApprovalSatisfaction :=
  match currentSatisfactions satisfactions case analysis option role with
  | [item] => .ok item
  | _ => .error (policyViolation s!"Selected option requires a current {role} satisfaction")

/-- `_revalidate_existing_satisfactions`. -/
def revalidateExistingSatisfactions (case : CaseInstance) (analysis : AnalysisVersion)
    (option : ResponseOption) (excludedRoles : List String) :
    Except Raised (List ApprovalSatisfaction) := do
  let optionSatisfactions := analysis.approvalSatisfactions.filter fun item =>
    item.optionId = option.optionId ∧ item.role ∉ excludedRoles
  ensure (∀ item ∈ optionSatisfactions, item.satisfied = true)
    (policyViolation "Selected option contains an unsatisfied approval prerequisite")
  let requiredRoles := option.prerequisiteRoles.filter fun role =>
    role ∉ ["material_planner", "response_approver"] ∧ role ∉ excludedRoles
  (sortedSet id requiredRoles).mapM (requireSatisfaction optionSatisfactions case analysis option)

/-- `_alex_material_planner_satisfaction`. -/
def alexMaterialPlannerSatisfaction (actor : IdentitySnapshot) (case : CaseInstance)
    (analysis : AnalysisVersion) (option : ResponseOption) :
    Except Raised ApprovalSatisfaction := do
  let cost := (option.predicted.map PredictedOutcome.responseCost).getD 0
  ApprovalSatisfaction.fromAuthorization analysis.analysisId option
    { authorizationId := "RL-AUTH-ALEX-MATERIAL-DECISION"
      personaId := actor.personaId
      role := "material_planner"
      conditions :=
        { allowedOptionKinds := [option.optionKind]
          maximumResponseCost := cost
          allowedCorpora := [analysis.material.corpus]
          allowedTemplateIds := [case.templateId]
          allowedCasePurposes := [case.purpose]
          validFrom := case.scenarioEffectiveTime
          validThrough := case.scenarioEffectiveTime
          forbiddenExternalSideEffects := [] } }
    { case := case
      corpus := analysis.material.corpus
      scenarioEffectiveTime := case.scenarioEffectiveTime
      totalResponseCost := cost
      requestedSideEffects := option.requestedSideEffects }

/-- The external approvals of an option with Alex's own, ordered by role. -/
def materializeSatisfactions (actor : IdentitySnapshot) (case : CaseInstance)
    (analysis : AnalysisVersion) (option : ResponseOption) (excludedRoles : List String) :
    Except Raised (List ApprovalSatisfaction) := do
  let existing ← revalidateExistingSatisfactions case analysis option excludedRoles
  let material ← alexMaterialPlannerSatisfaction actor case analysis option
  pure ((existing ++ [material]).insertionSort fun a b => a.role ≤ b.role)

/-! ### The two workflows -/

/-- `authorize_and_materialize`. -/
def authorizeAndMaterialize (command : RecordDecisionCommand) (actor : IdentitySnapshot)
    (case : CaseInstance) (currentAnalysisId currentAnalysisHash : Option String)
    (analysis : AnalysisVersion) : Except Raised (List ApprovalSatisfaction) := do
  authorizeActor command actor
  requireCurrentAnalysis command case currentAnalysisId currentAnalysisHash analysis
  if command.kind = .rejected then pure []
  else do
    let option ← selectedOption command analysis
    materializeSatisfactions actor case analysis option []

/-- The option of an independent approval is the one that was proposed. -/
def authorizeProposedOption (command : RecordDecisionCommand) (actor : IdentitySnapshot)
    (case : CaseInstance) (analysis : AnalysisVersion) :
    Option ProposalApprovalEvidence → Except Raised (List ApprovalSatisfaction)
  | none => .error (policyViolation "Approval requires proposal evidence")
  | some evidence => do
    let option ← selectedOption command analysis
    ensure (evidence.selection.proposal.optionId = option.optionId)
      (policyViolation "Option differs from current proposal")
    materializeSatisfactions actor case analysis option ["finance_approver"]

/-- `authorize_independent_and_materialize`. -/
def authorizeIndependentAndMaterialize (command : RecordDecisionCommand)
    (actor : IdentitySnapshot) (case : CaseInstance)
    (currentAnalysisId currentAnalysisHash : Option String) (analysis : AnalysisVersion)
    (proposalApproval : Option ProposalApprovalEvidence) :
    Except Raised (List ApprovalSatisfaction) := do
  authorizeActor command actor
  requireCurrentAnalysis command case currentAnalysisId currentAnalysisHash analysis
  if command.kind = .rejected then do
    ensure (proposalApproval = none)
      (policyViolation "Rejection cannot contain proposal evidence")
    pure []
  else authorizeProposedOption command actor case analysis proposalApproval

/-! ### What authorization implies -/

variable {command : RecordDecisionCommand} {actor : IdentitySnapshot} {case : CaseInstance}
  {currentAnalysisId currentAnalysisHash : Option String} {analysis : AnalysisVersion}

/-- The analysis of an authorized command is the current one of its case. -/
theorem requireCurrentAnalysis_spec {u : Unit}
    (h : requireCurrentAnalysis command case currentAnalysisId currentAnalysisHash analysis =
      .ok u) :
    analysis.caseId = command.caseId ∧ currentAnalysisId = some analysis.analysisId ∧
      currentAnalysisHash = some analysis.materialHash := by
  unfold requireCurrentAnalysis at h
  obtain ⟨_, -, h⟩ := bind_eq_ok.mp h
  obtain ⟨_, hcase, h⟩ := bind_eq_ok.mp h
  obtain ⟨_, hcurrent, -⟩ := bind_eq_ok.mp h
  exact ⟨(ensure_eq_ok.mp hcase).1, ensure_eq_ok.mp hcurrent⟩

theorem authorizeAndMaterialize_spec {satisfactions : List ApprovalSatisfaction}
    (h : authorizeAndMaterialize command actor case currentAnalysisId currentAnalysisHash
      analysis = .ok satisfactions) :
    analysis.caseId = command.caseId ∧ currentAnalysisId = some analysis.analysisId ∧
      currentAnalysisHash = some analysis.materialHash := by
  unfold authorizeAndMaterialize at h
  obtain ⟨_, -, h⟩ := bind_eq_ok.mp h
  obtain ⟨_, hcurrent, -⟩ := bind_eq_ok.mp h
  exact requireCurrentAnalysis_spec hcurrent

theorem authorizeIndependentAndMaterialize_spec {satisfactions : List ApprovalSatisfaction}
    {evidence : Option ProposalApprovalEvidence}
    (h : authorizeIndependentAndMaterialize command actor case currentAnalysisId
      currentAnalysisHash analysis evidence = .ok satisfactions) :
    analysis.caseId = command.caseId ∧ currentAnalysisId = some analysis.analysisId ∧
      currentAnalysisHash = some analysis.materialHash := by
  unfold authorizeIndependentAndMaterialize at h
  obtain ⟨_, -, h⟩ := bind_eq_ok.mp h
  obtain ⟨_, hcurrent, -⟩ := bind_eq_ok.mp h
  exact requireCurrentAnalysis_spec hcurrent

end SupplyResponse
