/-
Reading cases and analyses (`SqlAlchemyStore`, `SqlAlchemyCaseRepository`).

* `storedCase`, `storedSnapshot`, `getAnalysis`, `getProjection` — the reads of
  `store.py`, with every check they make on the way;
* `returns_storedCase`, `returns_getAnalysis`, `returns_getProjection` — what a
  successful read says about the tables;
* `setDecisionProjection`, `setCaseStatus` — the writes of the case status.
-/
import SupplyResponse.Persistence.Statements

namespace SupplyResponse

open Transact Transact.Prog
open Keyed (keys)

variable (env : Env)

/-- `_require_configured_mode`. -/
def requireConfiguredMode (runtimeMode : RuntimeMode) : Sql Unit :=
  require (runtimeMode = env.runtimeMode)
    ⟨.runtimeModeConflict,
      s!"store is configured for {env.runtimeMode.value}, not {runtimeMode.value}"⟩

/-- `_stored_case`. -/
def storedCase (caseId : String) : Sql CaseInstance :=
  getRow Store.cases (.case caseId) ⟨.recordNotFound, s!"case does not exist: {caseId}"⟩

/-- `_stored_snapshot`. -/
def storedSnapshot (caseId : String) : Sql OperationalSnapshot :=
  getRow Store.snapshots (.snapshot caseId)
    ⟨.persistenceIntegrityError,
      s!"persisted Operational Snapshot is missing for case {caseId}"⟩

theorem readOnly_storedCase (caseId : String) : (storedCase caseId).ReadOnly :=
  readOnly_getRow _ _ _

/-- `_require_case_runtime`. -/
def requireCaseRuntime (caseId : String) (runtimeMode : RuntimeMode) : Sql CaseInstance := do
  requireConfiguredMode env runtimeMode
  let stored ← storedCase caseId
  require (stored.runtimeMode = runtimeMode)
    ⟨.runtimeModeConflict,
      s!"case {caseId} is {stored.runtimeMode.value}, not {runtimeMode.value}"⟩
  pure stored

theorem returns_requireCaseRuntime {caseId : String} {mode : RuntimeMode} {s s' : Store}
    {c : CaseInstance} :
    (requireCaseRuntime env caseId mode).Returns s c s' ↔
      mode = env.runtimeMode ∧ s.cases.get? (.case caseId) = some c ∧ c.runtimeMode = mode ∧
        s' = s := by
  simp only [requireCaseRuntime, requireConfiguredMode, storedCase, returns_bind, returns_require,
    returns_getRow, pure_eq_done, returns_done]
  constructor
  · rintro ⟨_, _, ⟨hm, rfl⟩, c', _, ⟨hc, rfl⟩, _, _, ⟨hr, rfl⟩, rfl, rfl⟩
    exact ⟨hm, hc, hr, rfl⟩
  · rintro ⟨hm, hc, hr, rfl⟩
    exact ⟨(), s', ⟨hm, rfl⟩, c, s', ⟨hc, rfl⟩, (), s', ⟨hr, rfl⟩, rfl, rfl⟩

/-! ### Provenance of an analysis -/

/-- A check with the exception it raises. -/
def check (c : Prop) [Decidable c] (cls : ExceptionClass) (message : String) : Bool × Raised :=
  (decide c, ⟨cls, message⟩)

/-- `_require_matching_runtime`, as a check. -/
def matchingRuntime (runtimeMode expected : RuntimeMode) (recordName : String) : Bool × Raised :=
  check (runtimeMode = expected) .runtimeModeConflict
    s!"{recordName} runtime_mode must match Analysis Version"

/-- The text of a failed canonicalization. -/
def canonicalizationError : Except String OperationalSnapshot → String
  | .error message => message
  | .ok _ => ""

/-- No Finance standing evidence in an analysis. -/
def AnalysisVersion.LacksFinanceStanding (analysis : AnalysisVersion) : Prop :=
  (∀ a ∈ analysis.material.standingAuthorizations, a.role ≠ "finance_approver") ∧
    (∀ a ∈ analysis.material.approvalSatisfactions, a.role ≠ "finance_approver") ∧
    ∀ a ∈ analysis.approvalSatisfactions, a.role ≠ "finance_approver"

instance (analysis : AnalysisVersion) : Decidable analysis.LacksFinanceStanding :=
  inferInstanceAs (Decidable (_ ∧ _))

/-- The checks of `_require_analysis_provenance` against the stored case and
snapshot, in the order of the source. -/
def provenanceChecks (analysis : AnalysisVersion) (stored : CaseInstance)
    (snapshot : OperationalSnapshot) : List (Bool × Raised) :=
  let material := analysis.material
  let mode := material.runtimeMode
  let canonical := canonicalOperationalSnapshot snapshot
  [check (material.approvalPolicyVersion = stored.effectiveWorkflowVersion.value)
      .persistenceIntegrityError
      "Analysis approval policy must match its immutable Case Instance",
    check (stored.effectiveWorkflowVersion = .independentFinance → analysis.LacksFinanceStanding)
      .persistenceIntegrityError
      "Independent Finance approval policy cannot contain Finance standing evidence",
    check (material.caseId = analysis.caseId) .valueError
      "analysis material case_id must match Analysis Version",
    check (material.templateId = stored.templateId ∧ material.casePurpose = stored.purpose ∧
        material.scenarioEffectiveTime = stored.scenarioEffectiveTime) .valueError
      "Analysis Version provenance must match its immutable Case Instance",
    check (canonical.toOption.isSome) .valueError (canonicalizationError canonical),
    check (some material.operationalSnapshotJson = canonical.toOption) .persistenceIntegrityError
      "Analysis Version Operational Snapshot does not match the persisted Operational Snapshot"]
  ++ analysis.evidenceItems.flatMap (fun evidence =>
    [check (evidence.caseId = analysis.caseId) .valueError
        "Evidence Item case_id must match Analysis Version",
      check (evidence.retrievedForAnalysisId = analysis.analysisId) .valueError
        "Evidence Item retrieval provenance must match Analysis Version",
      matchingRuntime evidence.runtimeMode mode "Evidence Item"])
  ++ material.evidence.flatMap (fun item =>
    [check (item.caseId = analysis.caseId) .valueError
        "analysis material Evidence Item case_id must match Analysis Version",
      matchingRuntime item.runtimeMode mode "analysis material Evidence Item"])
  ++ material.conflicts.map (fun item =>
    check (item.caseId = analysis.caseId) .valueError
      "analysis material conflict case_id must match Analysis Version")
  ++ material.approvalSatisfactions.flatMap (fun item =>
    [check (item.target.caseId = analysis.caseId) .valueError
        "analysis material Approval Satisfaction case_id must match Analysis Version",
      matchingRuntime item.target.runtimeMode mode "analysis material Approval Satisfaction"])
  ++ analysis.approvalSatisfactions.flatMap (fun item =>
    [check (item.target.case.effectiveWorkflowVersion = stored.effectiveWorkflowVersion)
        .persistenceIntegrityError
        "Approval Satisfaction case policy must match its immutable Case Instance",
      check (item.analysisId = analysis.analysisId) .valueError
        "Approval Satisfaction analysis_id must match Analysis Version",
      check (item.target.case.caseId = analysis.caseId) .valueError
        "Approval Satisfaction case_id must match Analysis Version",
      matchingRuntime item.target.case.runtimeMode mode "Approval Satisfaction"])

/-- `_require_analysis_provenance`. -/
def requireAnalysisProvenance (analysis : AnalysisVersion) : Sql Unit := do
  require (analysis.materialHash = env.analysisMaterialHash analysis.material)
    ⟨.persistenceIntegrityError,
      "Analysis Version material_hash does not match canonical material"⟩
  let stored ← requireCaseRuntime env analysis.caseId analysis.material.runtimeMode
  let snapshot ← storedSnapshot analysis.caseId
  checkAll (provenanceChecks analysis stored snapshot)

/-- What a passed provenance check says: the analysis belongs to a stored case
of this runtime, under that case's approval policy. -/
theorem returns_requireAnalysisProvenance {analysis : AnalysisVersion} {s s' : Store} {u : Unit}
    (h : (requireAnalysisProvenance env analysis).Returns s u s') :
    s' = s ∧ analysis.materialHash = env.analysisMaterialHash analysis.material ∧
      ∃ stored, s.cases.get? (.case analysis.caseId) = some stored ∧
        analysis.material.approvalPolicyVersion = stored.effectiveWorkflowVersion.value := by
  simp only [requireAnalysisProvenance, storedSnapshot, returns_bind, returns_require,
    returns_requireCaseRuntime, returns_getRow, returns_checkAll] at h
  obtain ⟨_, _, ⟨hh, rfl⟩, stored, _, ⟨-, hc, -, rfl⟩, snapshot, _, ⟨-, rfl⟩, hall, rfl⟩ := h
  refine ⟨rfl, hh, stored, hc, ?_⟩
  have := hall _ (List.mem_append_left _ (List.mem_append_left _ (List.mem_append_left _
    (List.mem_append_left _ (List.mem_append_left _ (List.mem_cons_self ..))))))
  simpa [check] using this

theorem readOnly_requireCaseRuntime (caseId : String) (mode : RuntimeMode) :
    (requireCaseRuntime env caseId mode).ReadOnly :=
  (readOnly_require _ _).bind fun _ => (readOnly_getRow _ _ _).bind fun _ =>
    (readOnly_require _ _).bind fun _ => readOnly_done _

theorem readOnly_requireAnalysisProvenance (analysis : AnalysisVersion) :
    (requireAnalysisProvenance env analysis).ReadOnly :=
  (readOnly_require _ _).bind fun _ => (readOnly_requireCaseRuntime env _ _).bind fun _ =>
    (readOnly_getRow _ _ _).bind fun _ => readOnly_checkAll _

/-- `get_analysis`. -/
def getAnalysis (analysisId : String) : Sql AnalysisVersion := do
  let analysis ← getRow Store.analyses (.analysis analysisId)
    ⟨.recordNotFound, s!"analysis does not exist: {analysisId}"⟩
  mapError (requireAnalysisProvenance env analysis)
    (fun cls => cls = .runtimeModeConflict ∨ cls.isValueError)
    ⟨.persistenceIntegrityError, "persisted Analysis Version provenance is inconsistent"⟩
  pure analysis

theorem returns_getAnalysis {analysisId : String} {s s' : Store} {a : AnalysisVersion}
    (h : (getAnalysis env analysisId).Returns s a s') :
    s' = s ∧ s.analyses.get? (.analysis analysisId) = some a ∧
      ∃ stored, s.cases.get? (.case a.caseId) = some stored ∧
        a.material.approvalPolicyVersion = stored.effectiveWorkflowVersion.value := by
  simp only [getAnalysis, returns_bind, returns_getRow, returns_mapError, pure_eq_done,
    returns_done] at h
  obtain ⟨a', _, ⟨ha, rfl⟩, _, _, hp, rfl, rfl⟩ := h
  obtain ⟨rfl, -, hstored⟩ := returns_requireAnalysisProvenance env hp
  exact ⟨rfl, ha, hstored⟩

/-! ### Projections -/

/-- `CaseProjection`. -/
structure CaseProjection where
  case : CaseInstance
  currentAnalysisId : Option String
  currentAnalysisHash : Option String
  currentDecisionId : Option String
  displayStatus : Option String

/-- `_require_case_projection_integrity`. -/
def requireCaseProjectionIntegrity (rowCaseId : String) (case stored : CaseInstance) : Sql Unit :=
  require (case.caseId = rowCaseId ∧ case.SameProvenance stored)
    ⟨.persistenceIntegrityError,
      "case projection conflicts with immutable Case Instance provenance"⟩

/-- The `last_error` of the decision's unprocessed planning event. -/
def planningError (s : Store) (decisionId : String) : Option String :=
  (s.outbox.get? (.outboxDecision decisionId)).bind fun row =>
    if row.processedAt = none then row.lastError else none

/-- `SqlAlchemyCaseRepository.get_projection`. -/
def getProjection (caseId : String) : Sql CaseProjection := do
  let row ← getRow Store.projections (.projection caseId)
    ⟨.recordNotFound, s!"case does not exist: {caseId}"⟩
  let stored ← storedCase caseId
  requireCaseProjectionIntegrity row.caseId row.case stored
  requireConfiguredMode env row.case.runtimeMode
  let failed ← select fun s =>
    decide (row.case.status = .actionPlanning) &&
      (row.currentDecisionId.bind (planningError s)).isSome
  pure
    { case := row.case
      currentAnalysisId := row.currentAnalysisId
      currentAnalysisHash := row.currentAnalysisHash
      currentDecisionId := row.currentDecisionId
      displayStatus := if failed then some "Approved — action planning failed" else none }

theorem readOnly_getProjection (caseId : String) : (getProjection env caseId).ReadOnly :=
  (readOnly_getRow _ _ _).bind fun _ => (readOnly_storedCase _).bind fun _ =>
    (readOnly_require _ _).bind fun _ => (readOnly_require _ _).bind fun _ =>
      (readOnly_select _).bind fun _ => readOnly_done _

theorem returns_getProjection {caseId : String} {s s' : Store} {p : CaseProjection}
    (h : (getProjection env caseId).Returns s p s') :
    s' = s ∧ ∃ row stored, s.projections.get? (.projection caseId) = some row ∧
      s.cases.get? (.case caseId) = some stored ∧ row.case.caseId = caseId ∧
      row.case.SameProvenance stored ∧ p.case = row.case ∧
      p.currentAnalysisId = row.currentAnalysisId ∧
      p.currentAnalysisHash = row.currentAnalysisHash ∧
      p.currentDecisionId = row.currentDecisionId := by
  simp only [getProjection, storedCase, requireCaseProjectionIntegrity, requireConfiguredMode,
    returns_bind, returns_getRow, returns_require, returns_select, pure_eq_done,
    returns_done] at h
  obtain ⟨row, _, ⟨hrow, rfl⟩, stored, _, ⟨hc, rfl⟩, _, _, ⟨⟨hid, hp⟩, rfl⟩, _, _, ⟨-, rfl⟩, _, _,
    ⟨-, rfl⟩, rfl, rfl⟩ := h
  have hkey : row.caseId = caseId := by
    have hmem := (Table.get?_eq_some_iff.mp hrow).2
    simp only [keys_caseProjectionRow, List.mem_singleton, Key.projection.injEq] at hmem
    exact hmem.symm
  exact ⟨rfl, row, stored, hrow, hc, hid.trans hkey, hp, rfl, rfl, rfl, rfl⟩

/-- `_set_decision_projection`. -/
def setDecisionProjection (caseId decisionId : String) (status : CaseStatus) : Sql Unit := do
  let projection ← getProjection env caseId
  let changed := projection.case.withStatus status
  updateExisting Store.projections (fun s t => { s with projections := t }) (.projection caseId)
    (fun row => { row with case := changed, currentDecisionId := some decisionId })
    (fun _ _ => rfl) ⟨.recordNotFound, s!"case projection does not exist: {caseId}"⟩

def setCurrentDecision (caseId decisionId : String) : Sql Unit :=
  setDecisionProjection env caseId decisionId .actionPlanning

def markRejected (caseId decisionId : String) : Sql Unit :=
  setDecisionProjection env caseId decisionId .decisionRejected

/-- `_set_case_status`. -/
def setCaseStatus (caseId : String) (status : CaseStatus) : Sql Unit := do
  let projection ← getProjection env caseId
  let changed := projection.case.withStatus status
  updateExisting Store.projections (fun s t => { s with projections := t }) (.projection caseId)
    (fun row => { row with case := changed })
    (fun _ _ => rfl) ⟨.recordNotFound, s!"case projection does not exist: {caseId}"⟩

def markActionPlanningComplete (caseId : String) : Sql Unit := setCaseStatus env caseId .executing

def markActionPlanningFailed (caseId : String) : Sql Unit :=
  setCaseStatus env caseId .actionPlanning

/-- A status write rewrites the one projection, keeping its provenance. -/
theorem returns_setDecisionProjection {caseId decisionId : String} {status : CaseStatus}
    {s s' : Store} {u : Unit}
    (h : (setDecisionProjection env caseId decisionId status).Returns s u s') :
    ∃ row, s.projections.get? (.projection caseId) = some row ∧ row.case.caseId = caseId ∧
      s' = { s with
        projections := s.projections.modify (.projection caseId)
          (fun r => { r with
            case := row.case.withStatus status, currentDecisionId := some decisionId })
          (fun _ _ => rfl) } := by
  obtain ⟨p, hp, h⟩ := (readOnly_getProjection env caseId).returns_bind.mp h
  obtain ⟨-, row, stored, hrow, -, hid, -, hcase, -⟩ := returns_getProjection env hp
  obtain ⟨-, rfl⟩ := returns_updateExisting.mp h
  exact ⟨row, hrow, hid, by rw [hcase]⟩

theorem returns_setCaseStatus {caseId : String} {status : CaseStatus} {s s' : Store} {u : Unit}
    (h : (setCaseStatus env caseId status).Returns s u s') :
    ∃ row, s.projections.get? (.projection caseId) = some row ∧ row.case.caseId = caseId ∧
      s' = { s with
        projections := s.projections.modify (.projection caseId)
          (fun r => { r with case := row.case.withStatus status }) (fun _ _ => rfl) } := by
  obtain ⟨p, hp, h⟩ := (readOnly_getProjection env caseId).returns_bind.mp h
  obtain ⟨-, row, stored, hrow, -, hid, -, hcase, -⟩ := returns_getProjection env hp
  obtain ⟨-, rfl⟩ := returns_updateExisting.mp h
  exact ⟨row, hrow, hid, by rw [hcase]⟩

end SupplyResponse
