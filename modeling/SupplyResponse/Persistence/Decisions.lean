/-
The journal of Decisions and its outbox inserts
(`SqlAlchemyDecisionRepository`, `insert_outbox`).

* `requireAnalysisLineage` — a Decision agrees with its immutable analysis,
  selection and Finance revision;
* `getDecision`, `getDecisionByKey`, `listForCase` — the reads, which re-check
  that lineage;
* `insertDecision`, `insertSatisfactions`, `insertOutbox` — the writes.
-/
import SupplyResponse.Persistence.Analyses

namespace SupplyResponse

open Transact Transact.Prog
open Keyed (keys)

variable (env : Env)

/-! ### Lineage -/

/-- The versions and provenance that a Decision copies from its analysis. -/
def Decision.CopiesAnalysis (decision : Decision) (analysis : AnalysisVersion) : Prop :=
  analysis.caseId = decision.caseId ∧ analysis.materialHash = decision.analysisMaterialHash ∧
    analysis.material.runtimeMode = decision.runtimeMode ∧
    analysis.material.scenarioEffectiveTime = decision.scenarioEffectiveTime ∧
    analysis.material.calculationVersion = decision.calculationVersion ∧
    analysis.material.evidencePolicyVersion = decision.evidencePolicyVersion ∧
    analysis.material.approvalPolicyVersion = decision.approvalPolicyVersion ∧
    analysis.ranking.policyVersion = decision.rankingPolicyVersion

instance (decision : Decision) (analysis : AnalysisVersion) :
    Decidable (decision.CopiesAnalysis analysis) :=
  inferInstanceAs (Decidable (_ ∧ _))

/-- The approved option is the analysis's own. -/
def Decision.CopiesOption (decision : Decision) (option : ResponseOption) : Prop :=
  some option = decision.selectedOption ∧ option.evidenceIds = decision.evidenceIds ∧
    option.assumptions = decision.assumptions ∧ option.blockingCodes = decision.constraints ∧
    option.prerequisiteRoles = decision.prerequisiteRoles

instance (decision : Decision) (option : ResponseOption) :
    Decidable (decision.CopiesOption option) :=
  inferInstanceAs (Decidable (_ ∧ _))

/-- The part of `_require_proposal_lineage` about the bound Finance revision. -/
def requireRevisionLineage (review : Option FinanceReview) (reviewRevision : Option Nat) :
    Sql Unit :=
  match review, reviewRevision with
  | none, none => pure ()
  | none, some _ => fail .persistenceIntegrityError "Low-cost evidence has review revision"
  | some _, none => fail .persistenceIntegrityError "Finance evidence lacks revision"
  | some review, some revision => do
    let stored ← mapError (getRevision env review.reviewId revision)
      (fun cls => cls = .recordNotFound)
      (integrityError "Decision Finance revision is absent from journal")
    require (stored = review) (integrityError "Decision Finance snapshot differs from revision")

/-- The part of `_require_proposal_lineage` about the evidence of an approval. -/
def requireEvidenceLineage : Option ProposalApprovalEvidence → Sql Unit
  | none => pure ()
  | some evidence => do
    let selection ← mapError (getSelection env evidence.selection.selectionId)
      (fun cls => cls = .recordNotFound)
      (integrityError "Decision proposal selection is absent from journal")
    require (selection = evidence.selection)
      (integrityError "Decision selection snapshot differs from journal")
    requireRevisionLineage env evidence.review evidence.reviewRevision

/-- `_require_proposal_lineage`. -/
def requireProposalLineage (decision : Decision) : Sql Unit :=
  if decision.kind = .rejected then
    require (decision.proposalApproval = none)
      (integrityError "Rejected Decision has proposal evidence")
  else do
    require (decision.approvalPolicyVersion = WorkflowVersion.independentFinance.value ↔
        decision.proposalApproval.isSome)
      (integrityError "Decision proposal evidence conflicts with policy")
    requireEvidenceLineage env decision.proposalApproval

/-- `_require_material_planner_satisfaction`. -/
def IsMaterialPlannerSatisfaction (s : ApprovalSatisfaction) (decision : Decision)
    (analysis : AnalysisVersion) (option : ResponseOption) : Prop :=
  (∃ predicted ∈ option.predicted, s.target.totalResponseCost = predicted.responseCost ∧
      s.authorizationConditions.maximumResponseCost = predicted.responseCost) ∧
    decision.actor.personaId = "RL-PERSONA-ALEX" ∧ decision.actor.sourceId = "RL-ENTRA-ALEX" ∧
    decision.actor.identitySource = .entra ∧
    "material_planner" ∈ decision.actor.effectiveRoles ∧
    "response_approver" ∈ decision.actor.effectiveRoles ∧ s.role = "material_planner" ∧
    s.personaId = decision.actor.personaId ∧
    s.authorizationId = "RL-AUTH-ALEX-MATERIAL-DECISION" ∧ s.analysisId = decision.analysisId ∧
    some s.optionId = decision.selectedOptionId ∧ s.satisfied = true ∧
    s.target.case.caseId = decision.caseId ∧
    s.target.case.templateId = analysis.material.templateId ∧
    s.target.case.purpose = analysis.material.casePurpose ∧
    s.target.case.runtimeMode = decision.runtimeMode ∧
    s.target.scenarioEffectiveTime = decision.scenarioEffectiveTime ∧
    s.target.corpus = analysis.material.corpus ∧
    s.target.requestedSideEffects = option.requestedSideEffects ∧
    s.authorizationConditions.allowedOptionKinds = [option.optionKind] ∧
    s.authorizationConditions.allowedCorpora = [analysis.material.corpus] ∧
    s.authorizationConditions.allowedTemplateIds = [analysis.material.templateId] ∧
    s.authorizationConditions.allowedCasePurposes = [analysis.material.casePurpose] ∧
    s.authorizationConditions.validFrom = decision.scenarioEffectiveTime ∧
    s.authorizationConditions.validThrough = decision.scenarioEffectiveTime ∧
    s.authorizationConditions.forbiddenExternalSideEffects = []

instance (s : ApprovalSatisfaction) (decision : Decision) (analysis : AnalysisVersion)
    (option : ResponseOption) : Decidable (IsMaterialPlannerSatisfaction s decision analysis option) :=
  inferInstanceAs (Decidable (_ ∧ _))

/-- The persona that an external approval role must come from. -/
def expectedPersona (role : String) : Option String :=
  if role = "finance_approver" then some "RL-PERSONA-TAYLOR"
  else if role = "quality_approver" then some "RL-PERSONA-JORDAN"
  else none

/-- An external approval is the analysis's only satisfaction of its role. -/
def IsAnalysisSatisfaction (s : ApprovalSatisfaction) (analysis : AnalysisVersion)
    (option : ResponseOption) (role : String) : Prop :=
  analysis.approvalSatisfactions.filter (fun a => a.optionId = option.optionId ∧ a.role = role)
      = [s] ∧ ∀ persona ∈ expectedPersona role, s.personaId = persona

instance (s : ApprovalSatisfaction) (analysis : AnalysisVersion) (option : ResponseOption)
    (role : String) : Decidable (IsAnalysisSatisfaction s analysis option role) :=
  inferInstanceAs (Decidable (_ ∧ _))

/-- The roles that a Decision on the option must bring satisfactions for. -/
def requiredSatisfactionRoles (decision : Decision) (option : ResponseOption) : List String :=
  option.prerequisiteRoles.dedup.filter fun role =>
    role ≠ "response_approver" ∧
      ¬(decision.approvalPolicyVersion = WorkflowVersion.independentFinance.value ∧
        role = "finance_approver")

/-- The check of one role in `_require_derived_satisfactions`. -/
def derivedSatisfactionCheck (decision : Decision) (analysis : AnalysisVersion)
    (option : ResponseOption) (role : String) : Bool × Raised :=
  let actual := decision.approvalSatisfactions.reverse.find? fun s => s.role = role
  if role = "material_planner" then
    check (∃ s ∈ actual, IsMaterialPlannerSatisfaction s decision analysis option)
      .persistenceIntegrityError
      "Decision required satisfaction conflicts with Alex material approval"
  else
    check (∃ s ∈ actual, IsAnalysisSatisfaction s analysis option role)
      .persistenceIntegrityError "Decision required satisfaction conflicts with Analysis Version"

/-- `_require_derived_satisfactions`. -/
def requireDerivedSatisfactions (decision : Decision) (analysis : AnalysisVersion)
    (option : ResponseOption) : Sql Unit := do
  let required := requiredSatisfactionRoles decision option
  require ((∀ s ∈ decision.approvalSatisfactions, s.role ∈ required) ∧
      ∀ role ∈ required, ∃ s ∈ decision.approvalSatisfactions, s.role = role)
    (integrityError "Decision required satisfaction roles conflict with Analysis Version")
  checkAll (required.map (derivedSatisfactionCheck decision analysis option))

/-- The part of `_require_analysis_lineage` about the approved option. -/
def requireOptionLineage (decision : Decision) (analysis : AnalysisVersion) : Sql Unit :=
  if decision.kind = .rejected then pure ()
  else do
    let option ← orRaise
      (integrityError "Decision selected option conflicts with its immutable Analysis Version")
      ((decision.selectedOptionId.bind analysis.option?).filter
        fun option => decision.CopiesOption option)
    requireDerivedSatisfactions decision analysis option

/-- `_require_analysis_lineage`. -/
def requireAnalysisLineage (decision : Decision) : Sql Unit := do
  let analysis ← getAnalysis env decision.analysisId
  require (decision.CopiesAnalysis analysis)
    (integrityError "Decision analysis lineage conflicts with its immutable Analysis Version")
  require (some analysis.ranking = decision.comparatorTrace)
    (integrityError "Decision comparator trace conflicts with its immutable Analysis Version")
  requireProposalLineage env decision
  requireOptionLineage decision analysis

/-! ### Reads -/

/-- The order of bound satisfactions: role, then persona, then authorization. -/
def satisfactionBefore (a b : ApprovalSatisfaction) : Prop :=
  a.role < b.role ∨ a.role = b.role ∧ (a.personaId < b.personaId ∨
    a.personaId = b.personaId ∧ a.authorizationId ≤ b.authorizationId)

instance : DecidableRel satisfactionBefore := fun _ _ => inferInstanceAs (Decidable (_ ∨ _))

/-- `_list_approval_satisfactions`, in the order in which they are compared. -/
def boundSatisfactions (s : Store) (decisionId : String) : List ApprovalSatisfaction :=
  ((s.satisfactions.rows.filter fun row => row.decisionId = decisionId).map
    SatisfactionRow.satisfaction).insertionSort satisfactionBefore

/-- `_require_bound_satisfactions`. -/
def requireBoundSatisfactions (decision : Decision) : Sql Unit := do
  let actual ← select fun s => boundSatisfactions s decision.decisionId
  require (actual = decision.approvalSatisfactions.insertionSort satisfactionBefore)
    (integrityError "Decision Approval Satisfaction rows conflict with canonical JSON")

/-- `_require_outbox_cardinality`. -/
def requireOutboxCardinality (decision : Decision) : Sql Unit := do
  let event ← select fun s => s.outbox.get? (.outboxDecision decision.decisionId)
  require (decision.kind = .approved → event.isSome)
    (integrityError
      "approved Decision requires exactly one ActionPlanningRequested event")
  require (decision.kind = .rejected → event = none)
    (integrityError "rejected Decision cannot have outbox events")

/-- `_decision_from_row`, with or without the outbox check. -/
def requireDecisionIntegrity (validateOutboxCardinality : Bool) (decision : Decision) :
    Sql Unit := do
  requireConfiguredMode env decision.runtimeMode
  requireAnalysisLineage env decision
  requireBoundSatisfactions decision
  if validateOutboxCardinality then requireOutboxCardinality decision else pure ()

/-- `get`, and `get_for_outbox_insert` where the outbox check is left out. -/
def getDecision (decisionId : String) (validateOutboxCardinality : Bool := true) :
    Sql Decision := do
  let decision ← getRow Store.decisions (.decision decisionId)
    ⟨.recordNotFound, s!"decision does not exist: {decisionId}"⟩
  requireDecisionIntegrity env validateOutboxCardinality decision
  pure decision

/-- `get_by_idempotency_key`. -/
def getDecisionByKey (idempotencyKey : String) : Sql (Option Decision) := do
  let row ← select fun s => s.decisions.get? (.decisionKey idempotencyKey)
  match row with
  | none => pure none
  | some decision => do
    requireDecisionIntegrity env true decision
    pure (some decision)

/-- The Decisions of a case, by time. -/
def decisionsOf (s : Store) (caseId : String) : List Decision :=
  (s.decisions.rows.filter fun d => d.caseId = caseId).insertionSort fun a b =>
    a.decidedAt < b.decidedAt ∨ a.decidedAt = b.decidedAt ∧ a.decisionId ≤ b.decisionId

/-- `list_for_case`. -/
def listForCase (caseId : String) : Sql (List Decision) := do
  let rows ← select fun s => decisionsOf s caseId
  forEach (requireDecisionIntegrity env true) rows
  pure rows

/-! ### Writes -/

/-- `insert`. -/
def insertDecision (decision : Decision) : Sql Unit := do
  requireConfiguredMode env decision.runtimeMode
  let stored ← storedCase decision.caseId
  require (stored.runtimeMode = decision.runtimeMode)
    ⟨.runtimeModeConflict, "Decision runtime_mode must match its immutable Case Instance"⟩
  requireAnalysisLineage env decision
  insertInto Store.decisions (fun s t => { s with decisions := t }) decision

/-- `insert_satisfactions`. -/
def insertSatisfactions (decisionId : String) (satisfactions : List ApprovalSatisfaction) :
    Sql Unit := do
  let decision ← getRow Store.decisions (.decision decisionId)
    ⟨.recordNotFound, s!"decision does not exist: {decisionId}"⟩
  require (∀ item ∈ satisfactions, item.analysisId = decision.analysisId ∧
      some item.optionId = decision.selectedOptionId)
    (integrityError "Decision Approval Satisfaction provenance is inconsistent")
  forEach (fun item => insertInto Store.satisfactions (fun s t => { s with satisfactions := t })
    { decisionId := decisionId, satisfaction := item }) satisfactions

/-- A fresh outbox row. -/
def OutboxRow.pending (event : ActionPlanningRequested) : OutboxRow where
  event := event
  claimStatus := .pending
  claimedBy := none
  claimedAt := none
  claimExpiresAt := none
  processedAt := none
  attemptCount := 0
  lastError := none

/-- `insert_outbox`. -/
def insertOutbox (event : ActionPlanningRequested) : Sql Unit := do
  let decision ← getDecision env event.decisionId false
  require (decision.kind = .approved)
    (integrityError "outbox event requires an approved Decision")
  require (event.caseId = decision.caseId)
    (integrityError "outbox case_id conflicts with its Decision")
  require (event.analysisId = decision.analysisId)
    (integrityError "outbox analysis_id conflicts with its Decision")
  insertInto Store.outbox (fun s t => { s with outbox := t }) (OutboxRow.pending event)

/-! ### What the reads and writes did -/

theorem readOnly_requireProposalLineage (decision : Decision) :
    (requireProposalLineage env decision).ReadOnly := by
  refine (readOnly_require _ _).ite ((readOnly_require _ _).bind fun _ => ?_)
  cases decision.proposalApproval with
  | none => exact readOnly_done ()
  | some evidence =>
    refine (readOnly_mapError (readOnly_getSelection env _) _ _).bind fun _ =>
      (readOnly_require _ _).bind fun _ => ?_
    unfold requireRevisionLineage
    split
    · exact readOnly_done ()
    · exact readOnly_fail _ _
    · exact readOnly_fail _ _
    · exact (readOnly_mapError (readOnly_getRevision env _ _) _ _).bind fun _ =>
        readOnly_require _ _

theorem readOnly_requireAnalysisLineage (decision : Decision) :
    (requireAnalysisLineage env decision).ReadOnly :=
  (readOnly_getAnalysis env _).bind fun _ => (readOnly_require _ _).bind fun _ =>
    (readOnly_require _ _).bind fun _ => (readOnly_requireProposalLineage env decision).bind
      fun _ => (readOnly_done _).ite ((readOnly_orRaise _ _).bind fun _ =>
        (readOnly_require _ _).bind fun _ => readOnly_checkAll _)

theorem readOnly_requireDecisionIntegrity (validateOutboxCardinality : Bool)
    (decision : Decision) :
    (requireDecisionIntegrity env validateOutboxCardinality decision).ReadOnly := by
  refine (readOnly_require _ _).bind fun _ => (readOnly_requireAnalysisLineage env decision).bind
    fun _ => ((readOnly_select _).bind fun _ => readOnly_require _ _).bind fun _ => ?_
  exact ((readOnly_select _).bind fun _ => (readOnly_require _ _).bind fun _ =>
    readOnly_require _ _).ite (readOnly_done _)

theorem readOnly_getDecision (decisionId : String) (validateOutboxCardinality : Bool) :
    (getDecision env decisionId validateOutboxCardinality).ReadOnly :=
  (readOnly_getRow _ _ _).bind fun d => (readOnly_requireDecisionIntegrity env _ d).bind fun _ =>
    readOnly_done _

theorem readOnly_getDecisionByKey (key : String) : (getDecisionByKey env key).ReadOnly :=
  (readOnly_select _).bind fun row => by
    cases row with
    | none => exact readOnly_done _
    | some d => exact (readOnly_requireDecisionIntegrity env true d).bind fun _ => readOnly_done _

theorem readOnly_listForCase (caseId : String) : (listForCase env caseId).ReadOnly :=
  (readOnly_select _).bind fun _ =>
    (readOnly_forEach (readOnly_requireDecisionIntegrity env true) _).bind fun _ => readOnly_done _

theorem returns_getDecision {decisionId : String} {outbox : Bool} {s s' : Store} {d : Decision}
    (h : (getDecision env decisionId outbox).Returns s d s') :
    s' = s ∧ s.decisions.get? (.decision decisionId) = some d := by
  have hs := (readOnly_getDecision env decisionId outbox).eq h
  rw [getDecision, returns_getRow_bind] at h
  obtain ⟨d', hd, h⟩ := h
  obtain ⟨_, -, h⟩ := (readOnly_requireDecisionIntegrity env outbox d').returns_bind.mp h
  obtain ⟨rfl, -⟩ := returns_done.mp h
  exact ⟨hs, hd⟩

theorem returns_getDecisionByKey {key : String} {s s' : Store} {o : Option Decision}
    (h : (getDecisionByKey env key).Returns s o s') :
    s' = s ∧ o = s.decisions.get? (.decisionKey key) := by
  have hs := (readOnly_getDecisionByKey env key).eq h
  rw [getDecisionByKey, returns_select_bind] at h
  rcases hrow : s.decisions.get? (.decisionKey key) with _ | d <;> rw [hrow] at h
  · exact ⟨hs, (returns_done.mp h).1⟩
  · obtain ⟨_, -, h⟩ := (readOnly_requireDecisionIntegrity env true d).returns_bind.mp h
    exact ⟨hs, (returns_done.mp h).1⟩

theorem returns_listForCase {caseId : String} {s s' : Store} {l : List Decision}
    (h : (listForCase env caseId).Returns s l s') : s' = s ∧ l = decisionsOf s caseId := by
  have hs := (readOnly_listForCase env caseId).eq h
  rw [listForCase, returns_select_bind] at h
  obtain ⟨_, -, h⟩ :=
    (readOnly_forEach (readOnly_requireDecisionIntegrity env true) _).returns_bind.mp h
  exact ⟨hs, (returns_done.mp h).1⟩

theorem mem_decisionsOf {s : Store} {caseId : String} {d : Decision} :
    d ∈ decisionsOf s caseId ↔ d ∈ s.decisions ∧ d.caseId = caseId := by
  simp [decisionsOf, Table.mem_def]

/-- A Decision with a sound lineage has the approval policy of its case. -/
theorem returns_requireAnalysisLineage_policy {decision : Decision} {s s' : Store} {u : Unit}
    (h : (requireAnalysisLineage env decision).Returns s u s') :
    ∃ stored, s.cases.get? (.case decision.caseId) = some stored ∧
      decision.approvalPolicyVersion = stored.effectiveWorkflowVersion.value := by
  obtain ⟨analysis, hanalysis, h⟩ := (readOnly_getAnalysis env _).returns_bind.mp h
  obtain ⟨-, -, stored, hstored, hversion⟩ := returns_getAnalysis env hanalysis
  obtain ⟨hcopies, -⟩ := returns_require_bind.mp h
  exact ⟨stored, hcopies.1 ▸ hstored, hcopies.2.2.2.2.2.2.1 ▸ hversion⟩

theorem returns_insertDecision {decision : Decision} {s s' : Store} {u : Unit}
    (h : (insertDecision env decision).Returns s u s') :
    s.decisions.Free decision ∧ s' = { s with decisions := s.decisions.add decision } := by
  simp only [insertDecision, requireConfiguredMode, storedCase, returns_require_bind,
    returns_getRow_bind] at h
  obtain ⟨-, stored, -, -, h⟩ := h
  obtain ⟨_, -, h⟩ := (readOnly_requireAnalysisLineage env decision).returns_bind.mp h
  exact returns_insertInto.mp h

/-- An inserted Decision has passed its lineage checks. -/
theorem returns_insertDecision_lineage {decision : Decision} {s s' : Store} {u : Unit}
    (h : (insertDecision env decision).Returns s u s') :
    decision.runtimeMode = env.runtimeMode ∧
      (requireAnalysisLineage env decision).Returns s () s := by
  simp only [insertDecision, requireConfiguredMode, storedCase, returns_require_bind,
    returns_getRow_bind] at h
  obtain ⟨hmode, stored, -, -, h⟩ := h
  obtain ⟨_, hlineage, -⟩ := (readOnly_requireAnalysisLineage env decision).returns_bind.mp h
  exact ⟨hmode, hlineage⟩

/-- Satisfactions change their own table only. -/
theorem returns_insertSatisfactions {decisionId : String} {items : List ApprovalSatisfaction}
    {s s' : Store} {u : Unit} (h : (insertSatisfactions decisionId items).Returns s u s') :
    ∃ t, s' = { s with satisfactions := t } := by
  rw [insertSatisfactions, returns_getRow_bind] at h
  obtain ⟨d, -, h⟩ := h
  obtain ⟨-, hloop⟩ := returns_require_bind.mp h
  refine forEach_preserves (P := fun s₁ => ∃ t, s₁ = { s with satisfactions := t }) ?_
    ⟨s.satisfactions, rfl⟩ hloop
  rintro item - s₁ u₁ s₂ ⟨t, rfl⟩ hins
  exact ⟨_, (returns_insertInto.mp hins).2⟩

/-- The rows of the satisfactions, in the order in which they are given. -/
theorem returns_insertSatisfactions_rows {decisionId : String} {items : List ApprovalSatisfaction}
    {s s' : Store} {u : Unit} (h : (insertSatisfactions decisionId items).Returns s u s') :
    s'.satisfactions.rows =
      s.satisfactions.rows ++ items.map fun item => ⟨decisionId, item⟩ := by
  rw [insertSatisfactions, returns_getRow_bind] at h
  obtain ⟨d, -, h⟩ := h
  obtain ⟨-, hloop⟩ := returns_require_bind.mp h
  clear h
  induction items generalizing s with
  | nil =>
    obtain ⟨-, rfl⟩ := returns_done.mp hloop
    rw [List.map_nil, List.append_nil]
  | cons item rest ih =>
    obtain ⟨u₁, s₁, hfirst, hrest⟩ := returns_bind.mp hloop
    obtain ⟨hfree, rfl⟩ := returns_insertInto.mp hfirst
    rw [ih hrest, Table.rows_add hfree, List.map_cons, List.append_assoc, List.singleton_append]

theorem returns_insertOutbox {event : ActionPlanningRequested} {s s' : Store} {u : Unit}
    (h : (insertOutbox env event).Returns s u s') :
    (∃ d, s.decisions.get? (.decision event.decisionId) = some d ∧ d.kind = .approved ∧
        event.caseId = d.caseId ∧ event.analysisId = d.analysisId) ∧
      s.outbox.Free (OutboxRow.pending event) ∧
      s' = { s with outbox := s.outbox.add (OutboxRow.pending event) } := by
  obtain ⟨d, hd, h⟩ := (readOnly_getDecision env _ false).returns_bind.mp h
  obtain ⟨-, hget⟩ := returns_getDecision env hd
  obtain ⟨hkind, h⟩ := returns_require_bind.mp h
  obtain ⟨hcase, h⟩ := returns_require_bind.mp h
  obtain ⟨hanalysis, h⟩ := returns_require_bind.mp h
  exact ⟨⟨d, hget, hkind, hcase, hanalysis⟩, returns_insertInto.mp h⟩

end SupplyResponse
