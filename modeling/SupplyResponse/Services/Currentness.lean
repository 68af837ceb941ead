/-
Currentness of an approved Decision (`services/execution/currentness.py`).

* `ExecutionCurrent` — a Decision is still what its case points to: analysis,
  selection, review revision and current Decision;
* `checkExecutionCurrent`, `guardExecutionCurrent` — the check of every
  execution mutation, and the generation bump that makes it hold at commit;
* `returns_guardExecutionCurrent` — what a passed guard says.
-/
import SupplyResponse.Services.Finalization

namespace SupplyResponse

open Transact Transact.Prog
open Keyed (keys)

variable (env : Env)

/-- `ExecutionProposalStale`. -/
def executionStale (message : String) : Raised := ⟨.executionProposalStale, message⟩

/-- The comparisons of `check_execution_current`. -/
def Decision.Agrees (decision : Decision) (evidence : ProposalApprovalEvidence)
    (state : ProposalState) (projection : CaseProjection) : Prop :=
  projection.currentDecisionId = some decision.decisionId ∧
    projection.currentAnalysisId = some decision.analysisId ∧
    projection.currentAnalysisHash = some decision.analysisMaterialHash ∧
    state.token.analysisId = some decision.analysisId ∧
    state.token.analysisMaterialHash = some decision.analysisMaterialHash ∧
    state.token.selectionId = some evidence.selection.selectionId ∧
    state.selection = some evidence.selection ∧ state.review = evidence.review ∧
    state.reviewRevision = evidence.reviewRevision ∧
    ∀ review ∈ state.review, review.status = .approved

instance (decision : Decision) (evidence : ProposalApprovalEvidence) (state : ProposalState)
    (projection : CaseProjection) : Decidable (decision.Agrees evidence state projection) :=
  inferInstanceAs (Decidable (_ ∧ _))

/-- The reads of `check_execution_current` for an independent Decision. -/
def checkIndependent (decision : Decision) (evidence : ProposalApprovalEvidence) :
    Sql (Decision × Option ProposalToken) := do
  let state ← getState env decision.caseId
  let projection ← getProjection env decision.caseId
  require (decision.Agrees evidence state projection)
    (executionStale "Decision proposal approval is no longer current")
  let again ← getState env decision.caseId
  require (again.token = state.token)
    (executionStale "Execution approval changed while reading")
  pure (decision, some state.token)

/-- `check_execution_current`. -/
def checkExecutionCurrent (decisionId : String) : Sql (Decision × Option ProposalToken) := do
  let decision ← getDecision env decisionId
  require (decision.kind = .approved) (executionStale "Execution requires an approved Decision")
  if decision.approvalPolicyVersion = WorkflowVersion.independentFinance.value then do
    let evidence ← orRaise (integrityError "Independent Decision lacks proposal evidence")
      decision.proposalApproval
    mapError (checkIndependent env decision evidence) (fun cls => cls = .staleProposal)
      (executionStale "Execution approval changed while reading")
  else pure (decision, none)

/-- The guard of an optional token. -/
def guardToken (caseId : String) : Option ProposalToken → Sql Unit
  | none => pure ()
  | some token => do
    let _ ← mapError (guardCurrent env caseId token) (fun cls => cls = .staleProposal)
      (executionStale "Execution lost a current-proposal race")
    pure ()

/-- `guard_execution_current`. -/
def guardExecutionCurrent (decisionId : String) : Sql Decision := do
  let (decision, token) ← checkExecutionCurrent env decisionId
  guardToken env decision.caseId token
  pure decision

/-! ### What a passed guard says -/

/-- The case of a Decision still points to exactly what it was approved for. -/
structure ExecutionCurrent (s : Store) (decision : Decision)
    (evidence : ProposalApprovalEvidence) : Prop where
  projection : ∃ row, s.projections.get? (.projection decision.caseId) = some row ∧
    row.currentDecisionId = some decision.decisionId ∧
    row.currentAnalysisId = some decision.analysisId ∧
    row.currentAnalysisHash = some decision.analysisMaterialHash ∧
    row.currentSelectionId = some evidence.selection.selectionId
  review : ∀ review, evidence.review = some review → ∃ row,
    latestRow s review.reviewId = some row ∧ row.review = review ∧
      evidence.reviewRevision = some row.revision

/-- A passed guard: the Decision is approved; under the independent policy it
is current, and the generation of its case moved on. -/
structure Guarded (s : Store) (decision : Decision) (s' : Store) : Prop where
  stored : s.decisions.get? (.decision decision.decisionId) = some decision
  approved : decision.kind = .approved
  legacy : decision.approvalPolicyVersion ≠ WorkflowVersion.independentFinance.value → s' = s
  independent : decision.approvalPolicyVersion = WorkflowVersion.independentFinance.value →
    ∃ evidence token, decision.proposalApproval = some evidence ∧
      ExecutionCurrent s decision evidence ∧
      (∃ st, ReadyState s decision.caseId token st) ∧
      s' = s.cas decision.caseId token { currentSelectionId := some token.selectionId }

/-- A guard writes the projections only. -/
theorem Guarded.effect {s s' : Store} {d : Decision} (h : Guarded s d s') :
    ∃ t, s' = { s with projections := t } := by
  by_cases hp : d.approvalPolicyVersion = WorkflowVersion.independentFinance.value
  · obtain ⟨_, _, -, -, -, hs⟩ := h.independent hp
    exact ⟨_, hs⟩
  · exact ⟨s.projections, h.legacy hp⟩

theorem readOnly_checkIndependent (decision : Decision) (evidence : ProposalApprovalEvidence) :
    (checkIndependent env decision evidence).ReadOnly :=
  (readOnly_getState env _).bind fun _ => (readOnly_getProjection env _).bind fun _ =>
    (readOnly_require _ _).bind fun _ => (readOnly_getState env _).bind fun _ =>
      (readOnly_require _ _).bind fun _ => readOnly_done _

theorem readOnly_checkExecutionCurrent (decisionId : String) :
    (checkExecutionCurrent env decisionId).ReadOnly :=
  (readOnly_getDecision env _ _).bind fun _ => (readOnly_require _ _).bind fun _ =>
    ((readOnly_orRaise _ _).bind fun _ =>
      readOnly_mapError (readOnly_checkIndependent env _ _) _ _).ite (readOnly_done _)

theorem decisionId_of_get? {s : Store} {id : String} {decision : Decision}
    (h : s.decisions.get? (.decision id) = some decision) : decision.decisionId = id := by
  have hk := (Table.get?_eq_some_iff.mp h).2
  simp only [keys_decision, List.mem_cons, Key.decision.injEq, reduceCtorEq, List.not_mem_nil,
    or_false] at hk
  exact hk.symm

theorem returns_checkIndependent {decision : Decision} {evidence : ProposalApprovalEvidence}
    {s s' : Store} {p : Decision × Option ProposalToken}
    (h : (checkIndependent env decision evidence).Returns s p s') :
    ∃ token, p = (decision, some token) ∧ ExecutionCurrent s decision evidence := by
  obtain ⟨st, hst, h⟩ := (readOnly_getState env _).returns_bind.mp h
  obtain ⟨-, hstate⟩ := returns_getState env hst
  obtain ⟨proj, hproj, h⟩ := (readOnly_getProjection env _).returns_bind.mp h
  obtain ⟨-, row, _, hrow, -, -, -, -, hid, hhash, hdec⟩ := returns_getProjection env hproj
  obtain ⟨⟨h1, h2, h3, -, -, h6, -, h8, h9, -⟩, h⟩ := returns_require_bind.mp h
  obtain ⟨_, -, h⟩ := (readOnly_getState env _).returns_bind.mp h
  obtain ⟨-, h⟩ := returns_require_bind.mp h
  refine ⟨st.token, (returns_done.mp h).1, ⟨row, hrow, hdec ▸ h1, hid ▸ h2, hhash ▸ h3, ?_⟩, ?_⟩
  · obtain ⟨row', hrow', hshows, -⟩ := hstate.row
    obtain rfl := Option.some.inj (hrow.symm.trans hrow')
    exact hshows.2.2.2.trans h6
  · intro review hr
    obtain ⟨sel, r, -, -, hl, hreview, hrevision⟩ := hstate.review review (h8.trans hr)
    exact ⟨r, hl, hreview, h9 ▸ hrevision⟩

theorem returns_guardExecutionCurrent {decisionId : String} {s s' : Store} {decision : Decision}
    (h : (guardExecutionCurrent env decisionId).Returns s decision s') :
    decision.decisionId = decisionId ∧ Guarded s decision s' := by
  obtain ⟨⟨d, token⟩, hcheck, h⟩ := (readOnly_checkExecutionCurrent env _).returns_bind.mp h
  obtain ⟨_, s₁, hguard, h⟩ := returns_bind.mp h
  obtain ⟨rfl, rfl⟩ := returns_done.mp h
  obtain ⟨d', hd, hcheck⟩ := (readOnly_getDecision env _ _).returns_bind.mp hcheck
  obtain ⟨-, hget⟩ := returns_getDecision env hd
  obtain ⟨hkind, hcheck⟩ := returns_require_bind.mp hcheck
  have hid := decisionId_of_get? hget
  obtain ⟨hpolicy, hcheck⟩ | ⟨hpolicy, hcheck⟩ := returns_ite.mp hcheck
  · obtain ⟨evidence, hev, hcheck⟩ := returns_orRaise_bind.mp hcheck
    obtain ⟨t, heq, hcurrent⟩ := returns_checkIndependent env (returns_mapError.mp hcheck)
    obtain ⟨rfl, rfl⟩ := Prod.mk.inj heq
    obtain ⟨_, s₂, hg, hguard⟩ := returns_bind.mp hguard
    obtain ⟨-, rfl⟩ := returns_done.mp hguard
    obtain ⟨-, hready, rfl⟩ := returns_guardCurrent env (returns_mapError.mp hg)
    exact ⟨hid, hid ▸ hget, hkind, fun hn => absurd hpolicy hn,
      fun _ => ⟨evidence, t, hev, hcurrent, hready, rfl⟩⟩
  · obtain ⟨heq, -⟩ := returns_done.mp hcheck
    obtain ⟨rfl, rfl⟩ := Prod.mk.inj heq
    obtain ⟨-, rfl⟩ := returns_done.mp hguard
    exact ⟨hid, hid ▸ hget, hkind, fun _ => rfl, fun hp => absurd hp hpolicy⟩

end SupplyResponse
