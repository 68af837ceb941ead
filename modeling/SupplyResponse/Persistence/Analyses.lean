/-
Storing cases and analyses (`SqlAlchemyStore`).

* `createCase` — a new case with its snapshot and projection;
* `saveAnalysisConnection` — an analysis and the advance of its case projection;
* `saveAnalysis`, `completeAnalysisClaim` — the two transactions around it;
* `tryClaimAnalysis`, `releaseAnalysisClaim` — the lease on a case's material;
* `saveCaseProjection` — the projected case rewritten alone.
-/
import SupplyResponse.Persistence.ProposalState

namespace SupplyResponse

open Transact Transact.Prog
open Keyed (keys)

variable (env : Env)

/-! ### Cases -/

/-- `_validate_new_case`. -/
def validateNewCase (case : CaseInstance) (snapshot : OperationalSnapshot) : Sql Unit := do
  requireConfiguredMode env case.runtimeMode
  require (snapshot.caseId = case.caseId)
    ⟨.valueError, "operational snapshot case_id must match Case Instance"⟩
  require (snapshot.runtimeMode = case.runtimeMode)
    ⟨.runtimeModeConflict, "operational snapshot runtime_mode must match Case Instance"⟩
  require (snapshot.scenarioEffectiveTime = case.scenarioEffectiveTime)
    ⟨.valueError, "operational snapshot Scenario Effective Time must match Case Instance"⟩

/-- The projection of a case that has no analysis yet. -/
def CaseProjectionRow.initial (case : CaseInstance) : CaseProjectionRow where
  caseId := case.caseId
  case := case
  currentAnalysisId := none
  currentAnalysisHash := none
  currentSelectionId := none
  currentDecisionId := none
  proposalGeneration := 0

/-- `create_case`, with `_insert_case_connection`. -/
def createCase (case : CaseInstance) (snapshot : OperationalSnapshot) : Sql (Exit Unit) := do
  validateNewCase env case snapshot
  let insertCase : Sql Unit := do
    insertInto Store.cases (fun s t => { s with cases := t }) case
    insertInto Store.snapshots (fun s t => { s with snapshots := t }) snapshot.serialized
    insertInto Store.projections (fun s t => { s with projections := t })
      (CaseProjectionRow.initial case)
  mapError insertCase (fun cls => cls = .integrityError)
    ⟨.immutableRecordConflict, s!"case already exists: {case.caseId}"⟩
  pure (.commit ())

/-- `save_case_projection`. -/
def saveCaseProjection (case : CaseInstance) : Sql (Exit Unit) := do
  let stored ← requireCaseRuntime env case.caseId case.runtimeMode
  require (case.effectiveWorkflowVersion = stored.effectiveWorkflowVersion)
    (integrityError "case projection conflicts with immutable Case Instance policy")
  require (case.templateId = stored.templateId ∧ case.purpose = stored.purpose ∧
      case.scenarioEffectiveTime = stored.scenarioEffectiveTime ∧
      case.supplierEmail = stored.supplierEmail ∧ case.presenterRunId = stored.presenterRunId)
    ⟨.immutableRecordConflict, "case projection cannot change immutable provenance"⟩
  updateExisting Store.projections (fun s t => { s with projections := t })
    (.projection case.caseId) (fun row => { row with case := case }) (fun _ _ => rfl)
    ⟨.recordNotFound, s!"case projection does not exist: {case.caseId}"⟩
  pure (.commit ())

/-! ### Analyses -/

/-- The proposal state of a case of the independent workflow. -/
def independentState (stored : CaseInstance) : Sql (Option ProposalState) :=
  if stored.effectiveWorkflowVersion = .independentFinance then
    some <$> getState env stored.caseId
  else pure none

/-- The integrity check of an optional projected case. -/
def requireProjectedCase (rowCaseId : String) (stored : CaseInstance) :
    Option CaseInstance → Sql Unit
  | none => pure ()
  | some projected => requireCaseProjectionIntegrity rowCaseId projected stored

/-- The new status is forced by a decision on another analysis. -/
def CaseProjectionRow.DemandsReanalysis (row : CaseProjectionRow) (stored : CaseInstance)
    (materialHash : String) : Prop :=
  row.currentDecisionId.isSome ∧ row.currentAnalysisHash.isSome ∧
    (row.currentAnalysisHash ≠ some materialHash ∨
      stored.effectiveWorkflowVersion = .independentFinance)

instance (row : CaseProjectionRow) (stored : CaseInstance) (materialHash : String) :
    Decidable (row.DemandsReanalysis stored materialHash) :=
  inferInstanceAs (Decidable (_ ∧ _))

/-- The columns that `_save_analysis_connection` sets. -/
def savedValues (analysis : AnalysisVersion) (projectedCase : Option CaseInstance)
    (stored : CaseInstance) (row : CaseProjectionRow) : CasValues where
  currentAnalysis := some (analysis.analysisId, analysis.materialHash)
  case :=
    if row.DemandsReanalysis stored analysis.materialHash then
      some (row.case.withStatus .reanalysisRequired)
    else projectedCase

/-- Advance the projection: by primary key alone in the legacy workflow, by
compare-and-set in the independent one, which also ends the open review. -/
def advanceProjection (analysis : AnalysisVersion) (values : CasValues) (now : Instant) :
    Option ProposalState → Sql Unit
  | none =>
    updateExisting Store.projections (fun s t => { s with projections := t })
      (.projection analysis.caseId) (fun row => values.apply row.proposalGeneration row)
      (fun _ _ => rfl)
      ⟨.recordNotFound, s!"case projection does not exist: {analysis.caseId}"⟩
  | some state => do
    casProjection analysis.caseId state.token { values with currentSelectionId := some none }
    supersede env state now "analysis-supersede" analysis.analysisId

/-- `_save_analysis_connection`. -/
def saveAnalysisConnection (analysis : AnalysisVersion) (projectedCase : Option CaseInstance)
    (now : Instant) : Sql Unit := do
  requireAnalysisProvenance env analysis
  let stored ← storedCase analysis.caseId
  let state ← independentState env stored
  insertInto Store.analyses (fun s t => { s with analyses := t }) analysis.serialized
  require ((analysis.evidenceItems.map EvidenceItem.evidenceId).Nodup)
    ⟨.integrityError, "UNIQUE constraint failed"⟩
  let row ← getRow Store.projections (.projection analysis.caseId)
    ⟨.recordNotFound, s!"case projection does not exist: {analysis.caseId}"⟩
  requireProjectedCase row.caseId stored projectedCase
  advanceProjection env analysis (savedValues analysis projectedCase stored row) now state

/-- `save_analysis`. -/
def saveAnalysis (analysis : AnalysisVersion) (projectedCase : Option CaseInstance)
    (now : Instant) : Sql (Exit Unit) := do
  mapError (saveAnalysisConnection env analysis projectedCase now)
    (fun cls => cls = .integrityError)
    ⟨.immutableRecordConflict,
      s!"analysis or nested immutable record already exists: {analysis.analysisId}"⟩
  pure (.commit ())

/-! ### Claims -/

/-- The hashed `material_version` of a claim. -/
def Env.claimVersion (materialVersion : String) : String :=
  env.sha256 (.materialVersion materialVersion)

/-- The first transaction of `try_claim_analysis`: insert the claim. -/
def insertClaim (caseId materialVersion claimId : String) (claimedAt : Instant) (lease : ℤ) :
    Sql (Exit Bool) := do
  let _ ← requireCaseRuntime env caseId env.runtimeMode
  insertInto Store.claims (fun s t => { s with claims := t })
    { caseId := caseId
      materialVersion := env.claimVersion materialVersion
      claimId := claimId
      claimedAt := claimedAt
      claimExpiresAt := claimedAt + lease }
  pure (.commit true)

/-- The second transaction of `try_claim_analysis`: take over an expired lease.
A claim id that another row uses violates its unique index. -/
def takeOverClaim (caseId materialVersion claimId : String) (claimedAt : Instant) (lease : ℤ) :
    Sql (Exit Bool) := do
  let version := env.claimVersion materialVersion
  let row ← select fun s => s.claims.get? (.claim caseId version)
  match row with
  | none => pure (.commit false)
  | some row =>
    if row.claimExpiresAt < claimedAt then do
      let _ ← write fun _ =>
        some (keys row,
          fun s => { s with claims := (s.claims.delete (.claim caseId version)) })
      insertInto Store.claims (fun s t => { s with claims := t })
        { caseId := caseId
          materialVersion := version
          claimId := claimId
          claimedAt := claimedAt
          claimExpiresAt := claimedAt + lease }
      pure (.commit true)
    else pure (.commit false)

/-- `try_claim_analysis`. -/
def tryClaimAnalysis (caseId materialVersion claimId : String) (claimedAt : Instant) (lease : ℤ)
    (s : Store) : Except Raised Bool × Store :=
  match (insertClaim env caseId materialVersion claimId claimedAt lease).transact s with
  | (.error e, s') =>
    if e.cls = .integrityError then
      (takeOverClaim env caseId materialVersion claimId claimedAt lease).transact s'
    else (.error e, s')
  | (.ok granted, s') => (.ok granted, s')

/-- Delete the claim row if it is held under `claimId`; answers whether it was. -/
def deleteClaim (caseId version claimId : String) : Sql Bool :=
  write fun s =>
    (s.claims.get? (.claim caseId version)).bind fun row =>
      if row.claimId = claimId then
        some (keys row, fun s => { s with claims := s.claims.delete (.claim caseId version) })
      else none

/-- `release_analysis_claim`. -/
def releaseAnalysisClaim (caseId materialVersion claimId : String) : Sql (Exit Unit) := do
  let _ ← deleteClaim caseId (env.claimVersion materialVersion) claimId
  pure (.commit ())

def analysisClaimBusy (message : String) : Raised := ⟨.analysisClaimBusy, message⟩

/-- The body of `complete_analysis_claim`. -/
def completeClaimConnection (analysis : AnalysisVersion) (projectedCase : CaseInstance)
    (version claimId : String) (completedAt now : Instant) : Sql Unit := do
  let claim ← select fun s => s.claims.get? (.claim analysis.caseId version)
  require (∃ row ∈ claim, row.claimId = claimId ∧ completedAt ≤ row.claimExpiresAt)
    (analysisClaimBusy "analysis material claim is expired or owned elsewhere")
  saveAnalysisConnection env analysis (some projectedCase) now
  let deleted ← deleteClaim analysis.caseId version claimId
  require deleted (analysisClaimBusy "analysis material claim changed")

/-- `complete_analysis_claim`. -/
def completeAnalysisClaim (analysis : AnalysisVersion) (projectedCase : CaseInstance)
    (materialVersion claimId : String) (completedAt now : Instant) :
    Sql (Exit AnalysisVersion) := do
  mapError
    (completeClaimConnection env analysis projectedCase (env.claimVersion materialVersion) claimId
      completedAt now)
    (fun cls => cls = .integrityError) (analysisClaimBusy "analysis completion lost its claim race")
  pure (.commit analysis)

/-! ### What saving an analysis did -/

/-- The tables after an analysis row was added. -/
def Store.addAnalysis (s : Store) (analysis : AnalysisVersion) : Store :=
  { s with analyses := s.analyses.add analysis.serialized }

/-- A saved analysis: the row is new, and the projection of its case moved to
it, under the rules of the case's workflow. -/
structure SavesAnalysis (s : Store) (analysis : AnalysisVersion)
    (projectedCase : Option CaseInstance) (stored : CaseInstance) (row : CaseProjectionRow)
    (s' : Store) : Prop where
  hash : analysis.materialHash = env.analysisMaterialHash analysis.material
  case : s.cases.get? (.case analysis.caseId) = some stored
  free : s.analyses.Free analysis.serialized
  projection : s.projections.get? (.projection analysis.caseId) = some row
  projected : ∀ case, projectedCase = some case →
    case.caseId = analysis.caseId ∧ case.SameProvenance stored
  legacy : stored.effectiveWorkflowVersion ≠ .independentFinance →
    s' = { s.addAnalysis analysis with
      projections := s.projections.modify (.projection analysis.caseId)
        (fun r => (savedValues analysis projectedCase stored row).apply r.proposalGeneration r)
        (fun _ _ => rfl) }
  independent : stored.effectiveWorkflowVersion = .independentFinance →
    ∃ st, ReadyState s analysis.caseId st.token st ∧
      SupersedesState
        ((s.addAnalysis analysis).cas analysis.caseId st.token
          { savedValues analysis projectedCase stored row with currentSelectionId := some none })
        st s'

/-- The projection of the case after its analysis was saved. -/
theorem SavesAnalysis.projection_self {s s' : Store} {analysis : AnalysisVersion}
    {projectedCase : Option CaseInstance} {stored : CaseInstance} {row : CaseProjectionRow}
    (h : SavesAnalysis env s analysis projectedCase stored row s') :
    ∃ row', s'.projections.get? (.projection analysis.caseId) = some row' ∧
      row'.case = (savedValues analysis projectedCase stored row).case.getD row.case ∧
      row'.currentAnalysisId = some analysis.analysisId ∧
      row'.currentAnalysisHash = some analysis.materialHash ∧
      row'.currentDecisionId = row.currentDecisionId := by
  by_cases hw : stored.effectiveWorkflowVersion = .independentFinance
  · obtain ⟨st, -, hsup⟩ := h.independent hw
    refine ⟨CasValues.apply { savedValues analysis projectedCase stored row with
      currentSelectionId := some none } (st.token.generation + 1) row, ?_, rfl, rfl, rfl, rfl⟩
    rw [hsup.projections, get?_cas_self]
    exact congrArg (Option.map _) h.projection
  · refine ⟨(savedValues analysis projectedCase stored row).apply row.proposalGeneration row, ?_,
      rfl, rfl, rfl, rfl⟩
    rw [h.legacy hw, get?_modifyProjection, if_pos rfl, h.projection]
    rfl

theorem SavesAnalysis.projection_ne {s s' : Store} {analysis : AnalysisVersion}
    {projectedCase : Option CaseInstance} {stored : CaseInstance} {row : CaseProjectionRow}
    {c : String} (h : SavesAnalysis env s analysis projectedCase stored row s')
    (hc : c ≠ analysis.caseId) :
    s'.projections.get? (.projection c) = s.projections.get? (.projection c) := by
  by_cases hw : stored.effectiveWorkflowVersion = .independentFinance
  · obtain ⟨st, -, hsup⟩ := h.independent hw
    rw [hsup.projections]
    unfold Store.cas
    rw [get?_modifyProjection, if_neg hc]
    rfl
  · rw [h.legacy hw, get?_modifyProjection, if_neg hc]

theorem readOnly_independentState (stored : CaseInstance) :
    (independentState env stored).ReadOnly :=
  ((readOnly_getState env _).map some).ite (readOnly_done _)

theorem readOnly_requireProjectedCase (rowCaseId : String) (stored : CaseInstance)
    (projected : Option CaseInstance) :
    (requireProjectedCase rowCaseId stored projected).ReadOnly := by
  cases projected with
  | none => exact readOnly_done ()
  | some case => exact readOnly_require _ _

theorem caseId_of_get? {s : Store} {id : String} {case : CaseInstance}
    (h : s.cases.get? (.case id) = some case) : case.caseId = id := by
  have hk := (Table.get?_eq_some_iff.mp h).2
  simp only [keys_caseInstance, List.mem_singleton, Key.case.injEq] at hk
  exact hk.symm

theorem caseId_of_projection {s : Store} {id : String} {row : CaseProjectionRow}
    (h : s.projections.get? (.projection id) = some row) : row.caseId = id := by
  have hk := (Table.get?_eq_some_iff.mp h).2
  simp only [keys_caseProjectionRow, List.mem_singleton, Key.projection.injEq] at hk
  exact hk.symm

theorem returns_saveAnalysisConnection {analysis : AnalysisVersion}
    {projectedCase : Option CaseInstance} {now : Instant} {s s' : Store} {u : Unit}
    (h : (saveAnalysisConnection env analysis projectedCase now).Returns s u s') :
    ∃ stored row, SavesAnalysis env s analysis projectedCase stored row s' := by
  obtain ⟨_, hprov, h⟩ := (readOnly_requireAnalysisProvenance env analysis).returns_bind.mp h
  obtain ⟨-, hhash, -⟩ := returns_requireAnalysisProvenance env hprov
  rw [storedCase, returns_getRow_bind] at h
  obtain ⟨stored, hcase, h⟩ := h
  obtain ⟨state, hstate, h⟩ := (readOnly_independentState env stored).returns_bind.mp h
  obtain ⟨_, s₁, hins, h⟩ := returns_bind.mp h
  obtain ⟨hfree, rfl⟩ := returns_insertInto.mp hins
  obtain ⟨-, h⟩ := returns_require_bind.mp h
  rw [returns_getRow_bind] at h
  obtain ⟨row, hrow, h⟩ := h
  obtain ⟨_, hproj, h⟩ := (readOnly_requireProjectedCase _ stored projectedCase).returns_bind.mp h
  have hid := caseId_of_get? hcase
  have hrowId := caseId_of_projection hrow
  have hprojected : ∀ case, projectedCase = some case →
      case.caseId = analysis.caseId ∧ case.SameProvenance stored := by
    rintro case rfl
    obtain ⟨⟨h1, h2⟩, -⟩ := returns_require.mp hproj
    exact ⟨h1.trans hrowId, h2⟩
  refine ⟨stored, row, hhash, hcase, hfree, hrow, hprojected, fun hw => ?_, fun hw => ?_⟩
  · -- legacy: an update by primary key
    rw [independentState, if_neg hw] at hstate
    obtain ⟨rfl, -⟩ := returns_done.mp hstate
    exact (returns_updateExisting.mp h).2
  · -- independent: compare and set, then the supersession
    rw [independentState, if_pos hw] at hstate
    obtain ⟨st, hst, rfl⟩ := returns_map.mp hstate
    rw [hid] at hst
    obtain ⟨_, s₂, hcas, h⟩ := returns_bind.mp h
    obtain ⟨row', -, -, rfl⟩ := returns_casProjection hcas
    exact ⟨st, ⟨(returns_getState env hst).2, rfl, stored, hcase, hw⟩, returns_supersede env h⟩

theorem readOnly_validateNewCase (case : CaseInstance) (snapshot : OperationalSnapshot) :
    (validateNewCase env case snapshot).ReadOnly :=
  (readOnly_require _ _).bind fun _ => (readOnly_require _ _).bind fun _ =>
    (readOnly_require _ _).bind fun _ => readOnly_require _ _

/-- A new case: its rows were free, and are stored. -/
theorem returns_createCase {case : CaseInstance} {snapshot : OperationalSnapshot} {s s' : Store}
    {u : Unit} (h : (createCase env case snapshot).Commits s u s') :
    s.projections.Free (CaseProjectionRow.initial case) ∧
      s' = { s with
        cases := s.cases.add case
        snapshots := s.snapshots.add snapshot.serialized
        projections := s.projections.add (CaseProjectionRow.initial case) } := by
  obtain ⟨_, -, h⟩ := (readOnly_validateNewCase env case snapshot).returns_bind.mp h
  obtain ⟨_, s₁, hrows, h⟩ := returns_bind.mp h
  obtain ⟨-, rfl⟩ := returns_done.mp h
  obtain ⟨_, s₂, hcase, hrows⟩ := returns_bind.mp (returns_mapError.mp hrows)
  obtain ⟨-, rfl⟩ := returns_insertInto.mp hcase
  obtain ⟨_, s₃, hsnapshot, hprojection⟩ := returns_bind.mp hrows
  obtain ⟨-, rfl⟩ := returns_insertInto.mp hsnapshot
  obtain ⟨hfree, rfl⟩ := returns_insertInto.mp hprojection
  exact ⟨hfree, rfl⟩

/-- A projection that is saved alone gets the new case. -/
theorem returns_saveCaseProjection {case : CaseInstance} {s s' : Store} {u : Unit}
    (h : (saveCaseProjection env case).Commits s u s') :
    (∃ row, s.projections.get? (.projection case.caseId) = some row) ∧
      s' = { s with
        projections := s.projections.modify (.projection case.caseId)
          (fun row => { row with case := case }) (fun _ _ => rfl) } := by
  obtain ⟨stored, -, h⟩ := (readOnly_requireCaseRuntime env _ _).returns_bind.mp h
  obtain ⟨-, h⟩ := returns_require_bind.mp h
  obtain ⟨-, h⟩ := returns_require_bind.mp h
  obtain ⟨_, s₁, hupdate, h⟩ := returns_bind.mp h
  obtain ⟨-, rfl⟩ := returns_done.mp h
  exact returns_updateExisting.mp hupdate

theorem returns_saveAnalysis {analysis : AnalysisVersion} {projectedCase : Option CaseInstance}
    {now : Instant} {s s' : Store} {u : Unit}
    (h : (saveAnalysis env analysis projectedCase now).Commits s u s') :
    ∃ stored row, SavesAnalysis env s analysis projectedCase stored row s' := by
  obtain ⟨_, s₁, hsave, h⟩ := returns_bind.mp h
  obtain ⟨-, rfl⟩ := returns_done.mp h
  exact returns_saveAnalysisConnection env (returns_mapError.mp hsave)

/-! ### What the claims did -/

/-- The row of a granted claim. -/
@[reducible] def claimRow (caseId materialVersion claimId : String) (claimedAt : Instant)
    (lease : ℤ) : AnalysisClaimRow where
  caseId := caseId
  materialVersion := env.claimVersion materialVersion
  claimId := claimId
  claimedAt := claimedAt
  claimExpiresAt := claimedAt + lease

/-- An inserted claim was on free material. -/
theorem commits_insertClaim {caseId materialVersion claimId : String} {claimedAt : Instant}
    {lease : ℤ} {s s' : Store} {b : Bool}
    (h : (insertClaim env caseId materialVersion claimId claimedAt lease).Commits s b s') :
    s.claims.Free (claimRow env caseId materialVersion claimId claimedAt lease) ∧
      s' = { s with
        claims := s.claims.add (claimRow env caseId materialVersion claimId claimedAt lease) } := by
  obtain ⟨_, -, h⟩ := (readOnly_requireCaseRuntime env _ _).returns_bind.mp h
  obtain ⟨_, s₁, hinsert, h⟩ := returns_bind.mp h
  obtain ⟨hfree, rfl⟩ := returns_insertInto.mp hinsert
  exact ⟨hfree, (returns_done.mp h).2⟩

/-- A claim was taken over when its lease had expired. -/
theorem commits_takeOverClaim {caseId materialVersion claimId : String} {claimedAt : Instant}
    {lease : ℤ} {s s' : Store} {b : Bool}
    (h : (takeOverClaim env caseId materialVersion claimId claimedAt lease).Commits s b s') :
    (b = false ∧ s' = s) ∨ b = true ∧ ∃ row,
      s.claims.get? (.claim caseId (env.claimVersion materialVersion)) = some row ∧
        row.claimExpiresAt < claimedAt ∧
        (s.claims.delete (.claim caseId (env.claimVersion materialVersion))).Free
          (claimRow env caseId materialVersion claimId claimedAt lease) ∧
        s' = { s with
          claims := (s.claims.delete (.claim caseId (env.claimVersion materialVersion))).add
            (claimRow env caseId materialVersion claimId claimedAt lease) } := by
  rw [takeOverClaim, Commits, returns_select_bind] at h
  rcases hrow : s.claims.get? (.claim caseId (env.claimVersion materialVersion)) with _ | row <;>
    simp only [hrow] at h
  · obtain ⟨hb, hs⟩ := returns_done.mp h
    cases hb
    exact .inl ⟨rfl, hs⟩
  · obtain ⟨hexpired, h⟩ | ⟨-, h⟩ := returns_ite.mp h
    · obtain ⟨_, s₁, hdelete, h⟩ := returns_bind.mp h
      obtain ⟨_, _, hf, -, rfl⟩ | ⟨hf, -⟩ := returns_write.mp hdelete
      · cases hf
        obtain ⟨_, s₂, hinsert, h⟩ := returns_bind.mp h
        obtain ⟨hfree, rfl⟩ := returns_insertInto.mp hinsert
        obtain ⟨hb, hs⟩ := returns_done.mp h
        cases hb
        exact .inr ⟨rfl, row, rfl, hexpired, hfree, hs⟩
      · cases hf
    · obtain ⟨hb, hs⟩ := returns_done.mp h
      cases hb
      exact .inl ⟨rfl, hs⟩

/-- The takeover commits whatever it finds. -/
theorem not_rollback_takeOverClaim {caseId materialVersion claimId : String} {claimedAt : Instant}
    {lease : ℤ} {s s' : Store} {b : Bool} :
    ¬(takeOverClaim env caseId materialVersion claimId claimedAt lease).Returns s (.rollback b)
      s' := by
  intro h
  rw [takeOverClaim, returns_select_bind] at h
  rcases hrow : s.claims.get? (.claim caseId (env.claimVersion materialVersion)) with _ | row <;>
    simp only [hrow] at h
  · cases (returns_done.mp h).1
  · obtain ⟨-, h⟩ | ⟨-, h⟩ := returns_ite.mp h
    · obtain ⟨_, _, -, h⟩ := returns_bind.mp h
      obtain ⟨_, _, -, h⟩ := returns_bind.mp h
      cases (returns_done.mp h).1
    · cases (returns_done.mp h).1

theorem returns_deleteClaim {caseId version claimId : String} {s s' : Store} {b : Bool}
    (h : (deleteClaim caseId version claimId).Returns s b s') :
    (b = false ∧ s' = s) ∨ b = true ∧
      ∃ row, s.claims.get? (.claim caseId version) = some row ∧ row.claimId = claimId ∧
        s' = { s with claims := s.claims.delete (.claim caseId version) } := by
  rcases returns_write.mp h with ⟨l, u, hf, rfl, rfl⟩ | ⟨-, rfl, rfl⟩
  · obtain ⟨row, hrow, hf⟩ := Option.bind_eq_some_iff.mp hf
    split at hf
    · obtain ⟨-, rfl⟩ := Prod.mk.inj (Option.some.inj hf)
      exact .inr ⟨rfl, row, hrow, ‹_›, rfl⟩
    · cases hf
  · exact .inl ⟨rfl, rfl⟩

/-- A release deletes the claim of its owner, if that is what it finds. -/
theorem transact_releaseAnalysisClaim (caseId materialVersion claimId : String) (s : Store) :
    (releaseAnalysisClaim env caseId materialVersion claimId).transact s =
      (.ok (), match s.claims.get? (.claim caseId (env.claimVersion materialVersion)) with
        | some row => if row.claimId = claimId then
            { s with
              claims := s.claims.delete (.claim caseId (env.claimVersion materialVersion)) }
          else s
        | none => s) := by
  have hreturns : ∃ s', (releaseAnalysisClaim env caseId materialVersion claimId).Commits s () s' :=
    ⟨_, returns_bind.mpr ⟨_, _, rfl, returns_done.mpr ⟨rfl, rfl⟩⟩⟩
  obtain ⟨s', h⟩ := hreturns
  rw [transact_of_commits h]
  congr 1
  obtain ⟨b, s₁, hdelete, h⟩ := returns_bind.mp h
  obtain ⟨-, rfl⟩ := returns_done.mp h
  obtain ⟨l, u, hf, -, rfl⟩ | ⟨hf, -, rfl⟩ := returns_write.mp hdelete
  · obtain ⟨row, hrow, hf⟩ := Option.bind_eq_some_iff.mp hf
    split at hf
    · obtain ⟨-, rfl⟩ := Prod.mk.inj (Option.some.inj hf)
      rw [hrow]
      exact (if_pos ‹_›).symm
    · cases hf
  · rcases hrow : s'.claims.get? (.claim caseId (env.claimVersion materialVersion)) with _ | row
    · rfl
    · rw [hrow, Option.bind_some] at hf
      split at hf
      · cases hf
      · exact (if_neg ‹_›).symm

/-- A completion without the unexpired claim is refused. -/
theorem transact_completeAnalysisClaim_busy {analysis : AnalysisVersion}
    {projectedCase : CaseInstance} {materialVersion claimId : String} {completedAt now : Instant}
    {s : Store} (h : ¬∃ row ∈
      s.claims.get? (.claim analysis.caseId (env.claimVersion materialVersion)),
      row.claimId = claimId ∧ completedAt ≤ row.claimExpiresAt) :
    (completeAnalysisClaim env analysis projectedCase materialVersion claimId completedAt
      now).transact s =
        (.error (analysisClaimBusy "analysis material claim is expired or owned elsewhere"), s) := by
  have hbody : (completeClaimConnection env analysis projectedCase
      (env.claimVersion materialVersion) claimId completedAt now).run s =
        (.error (analysisClaimBusy "analysis material claim is expired or owned elsewhere"), s) := by
    unfold completeClaimConnection
    rw [run_bind]
    show ((require _ _ >>= _).run s) = _
    unfold require
    rw [if_neg h]
    rfl
  refine transact_of_raises (Raises.bind ⟨s, ?_⟩)
  unfold mapError
  rw [run_tryCatch, hbody]
  rfl

/-- A completion held the unexpired claim of its case, saved the analysis and
deleted the claim. -/
theorem returns_completeAnalysisClaim {analysis a : AnalysisVersion}
    {projectedCase : CaseInstance} {materialVersion claimId : String} {completedAt now : Instant}
    {s s' : Store}
    (h : (completeAnalysisClaim env analysis projectedCase materialVersion claimId completedAt
      now).Commits s a s') :
    (∃ claim, s.claims.get? (.claim analysis.caseId (env.claimVersion materialVersion)) =
        some claim ∧ claim.claimId = claimId ∧ completedAt ≤ claim.claimExpiresAt) ∧
      ∃ stored row s₁, SavesAnalysis env s analysis (some projectedCase) stored row s₁ ∧
        ∃ t, s' = { s₁ with claims := t } := by
  obtain ⟨_, s₁, hbody, h⟩ := returns_bind.mp h
  obtain ⟨-, rfl⟩ := returns_done.mp h
  have hbody := returns_mapError.mp hbody
  rw [completeClaimConnection, returns_select_bind] at hbody
  obtain ⟨⟨claim, hclaim, hid, hexpires⟩, hbody⟩ := returns_require_bind.mp hbody
  obtain ⟨_, s₂, hsave, hbody⟩ := returns_bind.mp hbody
  obtain ⟨stored, row, hs⟩ := returns_saveAnalysisConnection env hsave
  obtain ⟨deleted, s₃, hdelete, hbody⟩ := returns_bind.mp hbody
  obtain ⟨-, rfl⟩ := returns_require.mp hbody
  refine ⟨⟨claim, hclaim, hid, hexpires⟩, stored, row, s₂, hs, ?_⟩
  rcases returns_deleteClaim hdelete with ⟨-, rfl⟩ | ⟨-, _, -, -, rfl⟩
  · exact ⟨_, rfl⟩
  · exact ⟨_, rfl⟩

end SupplyResponse
