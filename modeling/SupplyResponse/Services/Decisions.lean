/-
Recording of Decisions under standing authorizations
(`services/decisions/service.py`).

* `storeDecision` — the writes of a Decision, shared by both workflows;
* `recordTransaction`, `record` — the legacy command and its recovery from a
  violated unique index;
* `returns_storeDecision`, `returns_recordTransaction` — what they did.
-/
import SupplyResponse.Policy.Decisions
import SupplyResponse.Services.Finance

namespace SupplyResponse

open Transact Transact.Prog
open Keyed (keys)

variable (env : Env)

/-! ### Storing a Decision -/

/-- The rows of a Decision: its record, its satisfactions, and either the
planning event with the projection moved to it, or the rejected status. -/
def storeDecision (decision : Decision) (satisfactions : List ApprovalSatisfaction)
    (eventUuid : String) : Sql Unit := do
  insertDecision env decision
  insertSatisfactions decision.decisionId satisfactions
  if decision.kind = .approved then do
    insertOutbox env (ActionPlanningRequested.forDecision ("RL-OUTBOX-" ++ eventUuid) decision)
    setCurrentDecision env decision.caseId decision.decisionId
  else markRejected env decision.caseId decision.decisionId

/-- The status that a Decision puts its case into. -/
def DecisionKind.caseStatus : DecisionKind → CaseStatus
  | approved => .actionPlanning
  | rejected => .decisionRejected

/-- The tables after a Decision was stored. -/
structure StoresDecision (s : Store) (decision : Decision) (s' : Store) : Prop where
  free : s.decisions.Free decision
  effect : ∃ row satisfactions outbox,
    s.projections.get? (.projection decision.caseId) = some row ∧
    (decision.kind = .approved → ∃ eventId,
      s.outbox.Free (.pending (.forDecision eventId decision)) ∧
        outbox = s.outbox.add (.pending (.forDecision eventId decision))) ∧
    (decision.kind = .rejected → outbox = s.outbox) ∧
    s' = { s with
      decisions := s.decisions.add decision
      satisfactions := satisfactions
      outbox := outbox
      projections := s.projections.modify (.projection decision.caseId)
        (fun r => { r with
          case := row.case.withStatus decision.kind.caseStatus
          currentDecisionId := some decision.decisionId })
        (fun _ _ => rfl) }

/-- The projection of the decided case after the Decision was stored. -/
theorem StoresDecision.projection {s s' : Store} {decision : Decision}
    (h : StoresDecision s decision s') :
    ∃ row, s.projections.get? (.projection decision.caseId) = some row ∧
      s'.projections.get? (.projection decision.caseId) = some { row with
        case := row.case.withStatus decision.kind.caseStatus
        currentDecisionId := some decision.decisionId } := by
  obtain ⟨row, satisfactions, outbox, hrow, -, -, rfl⟩ := h.effect
  refine ⟨row, hrow, ?_⟩
  rw [Table.get?_modify_self, hrow, Option.map_some]

theorem StoresDecision.projection_ne {s s' : Store} {decision : Decision} {c : String}
    (h : StoresDecision s decision s') (hc : c ≠ decision.caseId) :
    s'.projections.get? (.projection c) = s.projections.get? (.projection c) := by
  obtain ⟨row, satisfactions, outbox, -, -, -, rfl⟩ := h.effect
  rw [get?_modifyProjection, if_neg hc]

theorem StoresDecision.frame {s s' : Store} {decision : Decision}
    (h : StoresDecision s decision s') :
    s'.selections = s.selections ∧ s'.reviews = s.reviews := by
  obtain ⟨row, satisfactions, outbox, -, -, -, rfl⟩ := h.effect
  exact ⟨rfl, rfl⟩

theorem DecisionKind.eq_rejected {kind : DecisionKind} (h : kind ≠ .approved) :
    kind = .rejected := by
  cases kind with
  | approved => exact absurd rfl h
  | rejected => rfl

theorem returns_storeDecision {decision : Decision} {satisfactions : List ApprovalSatisfaction}
    {eventUuid : String} {s s' : Store} {u : Unit}
    (h : (storeDecision env decision satisfactions eventUuid).Returns s u s') :
    StoresDecision s decision s' := by
  obtain ⟨_, s₁, hins, h⟩ := returns_bind.mp h
  obtain ⟨hfree, rfl⟩ := returns_insertDecision env hins
  obtain ⟨_, s₂, hsat, h⟩ := returns_bind.mp h
  obtain ⟨t, rfl⟩ := returns_insertSatisfactions hsat
  refine ⟨hfree, ?_⟩
  obtain ⟨hkind, h⟩ | ⟨hkind, h⟩ := returns_ite.mp h
  · obtain ⟨_, s₃, hout, h⟩ := returns_bind.mp h
    obtain ⟨-, hevent, rfl⟩ := returns_insertOutbox env hout
    obtain ⟨row, hrow, -, rfl⟩ := returns_setDecisionProjection env h
    refine ⟨row, t, _, hrow, fun _ => ⟨_, hevent, rfl⟩, fun hr => ?_, by rw [hkind]; rfl⟩
    rw [hkind] at hr
    cases hr
  · have hrejected := DecisionKind.eq_rejected hkind
    obtain ⟨row, hrow, -, rfl⟩ := returns_setDecisionProjection env h
    exact ⟨row, t, _, hrow, fun ha => absurd ha hkind, fun _ => rfl, by rw [hrejected]; rfl⟩

/-- The lineage of the Decision was checked, and its own satisfactions were
stored with it. -/
structure Journals (s : Store) (decision : Decision) (s' : Store) : Prop where
  mode : decision.runtimeMode = env.runtimeMode
  lineage : (requireAnalysisLineage env decision).Returns s () s
  satisfactions : s'.satisfactions.rows =
    s.satisfactions.rows ++ decision.approvalSatisfactions.map fun item =>
      ⟨decision.decisionId, item⟩
  stores : StoresDecision s decision s'

theorem returns_storeDecision_journals {decision : Decision}
    {satisfactions : List ApprovalSatisfaction} {eventUuid : String} {s s' : Store} {u : Unit}
    (hsat : satisfactions = decision.approvalSatisfactions)
    (h : (storeDecision env decision satisfactions eventUuid).Returns s u s') :
    Journals env s decision s' := by
  have hstores := returns_storeDecision env h
  obtain ⟨_, s₁, hins, h⟩ := returns_bind.mp h
  obtain ⟨hmode, hlineage⟩ := returns_insertDecision_lineage env hins
  obtain ⟨-, rfl⟩ := returns_insertDecision env hins
  obtain ⟨_, s₂, hrows, h⟩ := returns_bind.mp h
  have hrows := returns_insertSatisfactions_rows hrows
  rw [hsat] at hrows
  refine ⟨hmode, hlineage, ?_, hstores⟩
  obtain ⟨-, h⟩ | ⟨-, h⟩ := returns_ite.mp h
  · obtain ⟨_, s₃, hout, h⟩ := returns_bind.mp h
    obtain ⟨-, -, rfl⟩ := returns_insertOutbox env hout
    obtain ⟨row, -, -, rfl⟩ := returns_setDecisionProjection env h
    exact hrows
  · obtain ⟨row, -, -, rfl⟩ := returns_setDecisionProjection env h
    exact hrows

/-! ### Recording -/

/-- `_request_fingerprint`. -/
def requestFingerprint (command : RecordDecisionCommand) (actor : IdentitySnapshot) : String :=
  env.sha256 (.decision command actor)

/-- `INDEPENDENT_FINANCE_REQUIRED`. -/
def independentFinanceRequired : Raised :=
  policyViolation "INDEPENDENT_FINANCE_REQUIRED: use FinanceDecisionService"
    "INDEPENDENT_FINANCE_REQUIRED"

/-- `_return_existing` of `DecisionService`. -/
def returnExisting (fingerprint : String) (existing : Decision) : Sql Decision := do
  require (existing.approvalPolicyVersion ≠ WorkflowVersion.independentFinance.value)
    independentFinanceRequired
  require (existing.requestFingerprint = fingerprint)
    ⟨.idempotencyKeyConflict, "idempotency key was already used for a different request"⟩
  pure existing

/-- The part of `record` behind the replay check. -/
def recordFresh (command : RecordDecisionCommand) (actor : IdentitySnapshot)
    (decisionUuid eventUuid : String) (decidedAt : Instant) : Sql (Exit Decision) := do
  let projection ← getProjection env command.caseId
  let case := projection.case
  require (case.effectiveWorkflowVersion ≠ .independentFinance) independentFinanceRequired
  let analysis ← getAnalysis env command.analysisId
  let satisfactions ← ofExcept
    (authorizeAndMaterialize command actor case projection.currentAnalysisId
      projection.currentAnalysisHash analysis)
  let decision ← orRaise (validationError "Decision")
    (Decision.fromCommand command actor analysis satisfactions ("RL-DECISION-" ++ decisionUuid)
      (requestFingerprint env command actor) decidedAt none).validate?
  storeDecision env decision satisfactions eventUuid
  pure (.commit decision)

/-- The first transaction of `record`. -/
def recordTransaction (command : RecordDecisionCommand) (actor : IdentitySnapshot)
    (decisionUuid eventUuid : String) (decidedAt : Instant) : Sql (Exit Decision) := do
  let existing ← getDecisionByKey env command.idempotencyKey
  match existing with
  | some existing =>
    Exit.rollback <$> returnExisting (requestFingerprint env command actor) existing
  | none => recordFresh env command actor decisionUuid eventUuid decidedAt

/-- `_load_idempotent_result`, after a violated unique index. -/
def recordRecovery (command : RecordDecisionCommand) (actor : IdentitySnapshot) :
    Sql (Exit Decision) := do
  let existing ← getDecisionByKey env command.idempotencyKey
  match existing with
  | some existing =>
    Exit.rollback <$> returnExisting (requestFingerprint env command actor) existing
  | none =>
    fail .immutableRecordConflict "Decision transaction violated immutable persistence constraints"

/-- `record`. -/
def record (command : RecordDecisionCommand) (actor : IdentitySnapshot)
    (decisionUuid eventUuid : String) (decidedAt : Instant) :
    Store → Except Raised Decision × Store :=
  withRecovery (fun cls => cls = .integrityError)
    (recordTransaction env command actor decisionUuid eventUuid decidedAt)
    (fun _ => recordRecovery env command actor)

/-- A committed legacy Decision, on the current analysis of its case. -/
structure Records (s : Store) (decision : Decision) (s' : Store) : Prop where
  legacy : ∃ stored, s.cases.get? (.case decision.caseId) = some stored ∧
    stored.effectiveWorkflowVersion ≠ .independentFinance
  current : ∃ row, s.projections.get? (.projection decision.caseId) = some row ∧
    row.currentAnalysisId = some decision.analysisId ∧
    row.currentAnalysisHash = some decision.analysisMaterialHash
  stores : StoresDecision s decision s'
  journals : Journals env s decision s'

theorem DecisionRecord.validate?_spec {d : DecisionRecord} {decision : Decision}
    (h : d.validate? = some decision) : decision.toDecisionRecord = d := by
  unfold validate? at h
  split at h
  · obtain rfl := Option.some.inj h
    rfl
  · cases h

theorem analysisId_of_get? {s : Store} {id : String} {analysis : AnalysisVersion}
    (h : s.analyses.get? (.analysis id) = some analysis) : analysis.analysisId = id := by
  have hk := (Table.get?_eq_some_iff.mp h).2
  simp only [keys_analysisVersion, List.mem_singleton, Key.analysis.injEq] at hk
  exact hk.symm

theorem returns_recordTransaction {command : RecordDecisionCommand} {actor : IdentitySnapshot}
    {decisionUuid eventUuid : String} {decidedAt : Instant} {s s' : Store} {decision : Decision}
    (h : (recordTransaction env command actor decisionUuid eventUuid decidedAt).Commits s decision
      s') : Records env s decision s' := by
  obtain ⟨existing, hexisting, h⟩ := (readOnly_getDecisionByKey env _).returns_bind.mp h
  obtain ⟨-, rfl⟩ := returns_getDecisionByKey env hexisting
  rcases hkey : s.decisions.get? (.decisionKey command.idempotencyKey) with _ | stored <;>
    simp only [hkey] at h
  · obtain ⟨p, hp, h⟩ := (readOnly_getProjection env _).returns_bind.mp h
    obtain ⟨-, row, stored, hrow, hcase, -, hprov, hc, hid, hhash, -⟩ :=
      returns_getProjection env hp
    obtain ⟨hlegacy, h⟩ := returns_require_bind.mp h
    obtain ⟨analysis, hanalysis, h⟩ := (readOnly_getAnalysis env _).returns_bind.mp h
    obtain ⟨-, hget, -⟩ := returns_getAnalysis env hanalysis
    rw [returns_ofExcept_bind] at h
    obtain ⟨satisfactions, hauth, h⟩ := h
    obtain ⟨-, hcur, hcurHash⟩ := authorizeAndMaterialize_spec hauth
    rw [returns_orRaise_bind] at h
    obtain ⟨d, hd, h⟩ := h
    have hrecord := DecisionRecord.validate?_spec hd
    obtain ⟨_, s₁, hstore, h⟩ := returns_bind.mp h
    obtain ⟨heq, rfl⟩ := returns_done.mp h
    obtain rfl : decision = d := by injection heq
    have hcaseId : decision.caseId = command.caseId := by rw [hrecord]; rfl
    have hanalysisId : decision.analysisId = analysis.analysisId := by
      rw [hrecord, analysisId_of_get? hget]
      rfl
    have hmaterial : decision.analysisMaterialHash = analysis.materialHash := by rw [hrecord]; rfl
    refine ⟨⟨stored, by rw [hcaseId]; exact hcase, ?_⟩,
      ⟨row, by rw [hcaseId]; exact hrow, ?_, ?_⟩, returns_storeDecision env hstore,
      returns_storeDecision_journals env (by rw [hrecord]; rfl) hstore⟩
    · rw [← hprov.2.2.2.2.2.2.2, ← hc]
      exact hlegacy
    · rw [← hid, hcur, hanalysisId]
    · rw [← hhash, hcurHash, hmaterial]
  · obtain ⟨_, -, heq⟩ := returns_map.mp h
    cases heq

/-- A committed Decision carries the key and the fingerprint of its request. -/
theorem recordTransaction_request {command : RecordDecisionCommand} {actor : IdentitySnapshot}
    {decisionUuid eventUuid : String} {decidedAt : Instant} {s s' : Store} {decision : Decision}
    (h : (recordTransaction env command actor decisionUuid eventUuid decidedAt).Commits s decision
      s') :
    decision.idempotencyKey = command.idempotencyKey ∧
      decision.requestFingerprint = requestFingerprint env command actor := by
  obtain ⟨existing, -, h⟩ := (readOnly_getDecisionByKey env _).returns_bind.mp h
  rcases existing with _ | stored
  · obtain ⟨p, -, h⟩ := (readOnly_getProjection env _).returns_bind.mp h
    obtain ⟨-, h⟩ := returns_require_bind.mp h
    obtain ⟨analysis, -, h⟩ := (readOnly_getAnalysis env _).returns_bind.mp h
    rw [returns_ofExcept_bind] at h
    obtain ⟨satisfactions, -, h⟩ := h
    rw [returns_orRaise_bind] at h
    obtain ⟨d, hd, h⟩ := h
    have hrecord := DecisionRecord.validate?_spec hd
    obtain ⟨_, s₁, -, h⟩ := returns_bind.mp h
    obtain ⟨heq, -⟩ := returns_done.mp h
    obtain rfl : decision = d := by injection heq
    rw [hrecord]
    exact ⟨rfl, rfl⟩
  · obtain ⟨_, -, heq⟩ := returns_map.mp h
    cases heq

end SupplyResponse
