/-
Proposal selections and the compare-and-set on the case projection
(`services/persistence/proposals.py`).

* `casProjection` — `_cas_projection`: the projection is rewritten under the
  next generation if it still shows the expected token;
* `decodeReceipt`, `getSelection` — a stored selection, with its binding checked.
-/
import SupplyResponse.Persistence.FinanceReviews

namespace SupplyResponse

open Transact Transact.Prog
open Keyed (keys)

variable (env : Env)

def staleProposal (message : String) : Raised := ⟨.staleProposal, message⟩

def integrityError (message : String) : Raised := ⟨.persistenceIntegrityError, message⟩

/-! ### Compare and set -/

/-- The columns that `_CAS_KEYS` admits; `none` leaves a column alone. -/
structure CasValues where
  currentAnalysis : Option (String × String) := none
  currentSelectionId : Option (Option String) := none
  case : Option CaseInstance := none

/-- `.values(**values, proposal_generation=generation)`. -/
@[reducible] def CasValues.apply (values : CasValues) (generation : Nat) (row : CaseProjectionRow) :
    CaseProjectionRow where
  caseId := row.caseId
  case := values.case.getD row.case
  currentAnalysisId := (values.currentAnalysis.map Prod.fst).or row.currentAnalysisId
  currentAnalysisHash := (values.currentAnalysis.map Prod.snd).or row.currentAnalysisHash
  currentSelectionId := values.currentSelectionId.getD row.currentSelectionId
  currentDecisionId := row.currentDecisionId
  proposalGeneration := generation

/-- The key of a projection is not one of the columns that are set. -/
theorem CasValues.keys_apply (values : CasValues) (expected : ProposalToken) (caseId : String)
    (row : CaseProjectionRow) (_ : Key.projection caseId ∈ keys row) :
    keys (values.apply (expected.generation + 1) row) = keys row :=
  rfl

/-- The projection shows the expected token. -/
def CaseProjectionRow.Shows (row : CaseProjectionRow) (expected : ProposalToken) : Prop :=
  row.proposalGeneration = expected.generation ∧ row.currentAnalysisId = expected.analysisId ∧
    row.currentAnalysisHash = expected.analysisMaterialHash ∧
    row.currentSelectionId = expected.selectionId

instance (expected : ProposalToken) :
    DecidablePred fun row : CaseProjectionRow => row.Shows expected :=
  fun _ => inferInstanceAs (Decidable (_ ∧ _))

/-- `_cas_projection`. -/
def casProjection (caseId : String) (expected : ProposalToken) (values : CasValues) :
    Sql Unit := do
  let matched ← updateRow Store.projections (fun s t => { s with projections := t })
    (.projection caseId) (fun row => row.Shows expected)
    (values.apply (expected.generation + 1)) (values.keys_apply expected caseId)
  require matched (staleProposal "Case analysis or proposal changed")

theorem returns_casProjection {caseId : String} {expected : ProposalToken} {values : CasValues}
    {s s' : Store} {u : Unit} (h : (casProjection caseId expected values).Returns s u s') :
    ∃ row, s.projections.get? (.projection caseId) = some row ∧ row.Shows expected ∧
      s' = { s with
        projections := s.projections.modify (.projection caseId)
          (values.apply (expected.generation + 1)) (values.keys_apply expected caseId) } := by
  obtain ⟨b, s₁, hu, h⟩ := returns_bind.mp h
  obtain ⟨hb, rfl⟩ := returns_require.mp h
  rcases returns_updateRow.mp hu with ⟨row, hrow, hshows, -, rfl⟩ | ⟨-, rfl, -⟩
  · exact ⟨row, hrow, hshows, rfl⟩
  · cases hb

/-- `_token`. -/
def getToken (caseId : String) : Sql ProposalToken := do
  let row ← getRow Store.projections (.projection caseId)
    ⟨.recordNotFound, s!"case does not exist: {caseId}"⟩
  orRaise (validationError "ProposalToken")
    (ProposalToken.validate? row.proposalGeneration row.currentAnalysisId row.currentAnalysisHash
      row.currentSelectionId)

theorem returns_getToken {caseId : String} {s s' : Store} {t : ProposalToken}
    (h : (getToken caseId).Returns s t s') :
    s' = s ∧ ∃ row, s.projections.get? (.projection caseId) = some row ∧ row.Shows t := by
  simp only [getToken, returns_getRow_bind, returns_orRaise] at h
  obtain ⟨row, hrow, ht, rfl⟩ := h
  refine ⟨rfl, row, hrow, ?_⟩
  unfold ProposalToken.validate? at ht
  split at ht
  · obtain rfl := Option.some.inj ht
    exact ⟨rfl, rfl, rfl, rfl⟩
  · cases ht

theorem readOnly_getToken (caseId : String) : (getToken caseId).ReadOnly :=
  (readOnly_getRow _ _ _).bind fun _ => readOnly_orRaise _ _

/-! ### Selections -/

/-- Both copies of an option in an analysis, when they agree and the option is
an executable active mitigation of the stated cost. -/
def AnalysisVersion.IsProposable (analysis : AnalysisVersion) (proposal : FinanceProposal) :
    Prop :=
  ∃ material ∈ analysis.materialOption? proposal.optionId,
    ∃ outer ∈ analysis.option? proposal.optionId,
      (∃ predicted ∈ material.predicted, predicted.responseCost = proposal.responseCost) ∧
        AnalysisResponseOptionMaterial.fromOption outer = material ∧ outer.executable = true ∧
        outer.activeMitigation = true ∧ outer.predicted.isSome ∧ outer.blockingCodes = []

instance (analysis : AnalysisVersion) (proposal : FinanceProposal) :
    Decidable (analysis.IsProposable proposal) :=
  inferInstanceAs (Decidable (∃ material ∈ analysis.materialOption? proposal.optionId,
    ∃ outer ∈ analysis.option? proposal.optionId, _ ∧ _))

/-- The part of `_validate_binding` about the pending review. -/
def validateReviewBinding (selection : ProposalSelection) : Option String → Sql Unit
  | none => .done ()
  | some reviewId => do
    let review ← getRevision env reviewId 1
    require (review.status = .pending ∧ review.proposal = selection.proposal ∧
        review.submittedBy = selection.submittedBy ∧ review.submittedAt = selection.submittedAt)
      (integrityError "proposal selection conflicts with pending Finance review")

/-- `_validate_binding`. -/
def validateBinding (receipt : SelectionReceipt) : Sql Unit := do
  let selection := receipt.selection
  let proposal := selection.proposal
  let case ← storedCase proposal.caseId
  require (case.effectiveWorkflowVersion = .independentFinance)
    (integrityError "Case does not use independent Finance workflow")
  let _ ← mapError (ofExcept (requireProposalSubmitter selection.submittedBy))
    (fun cls => cls = .financeReviewViolation)
    (integrityError "proposal submitter violates Finance policy")
  let analysis ← getAnalysis env proposal.analysisId
  require (analysis.caseId = proposal.caseId ∧
      analysis.materialHash = proposal.analysisMaterialHash)
    (integrityError "proposal conflicts with immutable Analysis Version")
  require (analysis.IsProposable proposal)
    (integrityError "proposal option is not an executable active mitigation")
  validateReviewBinding env selection selection.financeReviewId

/-- `_decode`, for a stored receipt. -/
def decodeReceipt (receipt : SelectionReceipt) : Sql SelectionReceipt := do
  require (receipt.expected.analysisId = some receipt.selection.proposal.analysisId ∧
      receipt.expected.analysisMaterialHash =
        some receipt.selection.proposal.analysisMaterialHash)
    (integrityError "proposal selection duplicated columns conflict with canonical JSON")
  validateBinding env receipt
  pure receipt

/-- `get_selection`. -/
def getSelection (selectionId : String) : Sql ProposalSelection := do
  let row ← getRow Store.selections (.selection selectionId)
    ⟨.recordNotFound, s!"proposal selection does not exist: {selectionId}"⟩
  let receipt ← decodeReceipt env row
  pure receipt.selection

/-- `get_by_idempotency_key`. -/
def getReceiptByKey (key : String) : Sql (Option SelectionReceipt) := do
  let row ← select fun s => s.selections.get? (.selectionKey key)
  match row with
  | none => pure none
  | some row => some <$> decodeReceipt env row

theorem readOnly_validateReviewBinding (selection : ProposalSelection) (reviewId : Option String) :
    (validateReviewBinding env selection reviewId).ReadOnly := by
  cases reviewId with
  | none => exact readOnly_done ()
  | some reviewId =>
    exact (readOnly_getRevision env reviewId 1).bind fun _ => readOnly_require _ _

theorem readOnly_validateBinding (receipt : SelectionReceipt) :
    (validateBinding env receipt).ReadOnly :=
  (readOnly_storedCase _).bind fun _ => (readOnly_require _ _).bind fun _ =>
    (readOnly_mapError (readOnly_ofExcept _) _ _).bind fun _ =>
      (readOnly_getAnalysis env _).bind fun _ => (readOnly_require _ _).bind fun _ =>
        (readOnly_require _ _).bind fun _ => readOnly_validateReviewBinding env _ _

theorem readOnly_decodeReceipt (receipt : SelectionReceipt) :
    (decodeReceipt env receipt).ReadOnly :=
  (readOnly_require _ _).bind fun _ => (readOnly_validateBinding env receipt).bind fun _ =>
    readOnly_done _

theorem readOnly_getSelection (selectionId : String) : (getSelection env selectionId).ReadOnly :=
  (readOnly_getRow _ _ _).bind fun row => (readOnly_decodeReceipt env row).bind fun _ =>
    readOnly_done _

theorem readOnly_getReceiptByKey (key : String) : (getReceiptByKey env key).ReadOnly :=
  (readOnly_select _).bind fun row => by
    cases row with
    | none => exact readOnly_done _
    | some row => exact (readOnly_decodeReceipt env row).map some

/-- What a passed binding check says of a receipt. -/
structure Bound (s : Store) (selection : ProposalSelection) : Prop where
  case : ∃ case, s.cases.get? (.case selection.proposal.caseId) = some case ∧
    case.effectiveWorkflowVersion = .independentFinance
  submitter : ∃ ids, requireProposalSubmitter selection.submittedBy = .ok ids
  analysis : ∃ analysis, s.analyses.get? (.analysis selection.proposal.analysisId) = some analysis ∧
    analysis.caseId = selection.proposal.caseId ∧
    analysis.materialHash = selection.proposal.analysisMaterialHash ∧
    analysis.IsProposable selection.proposal
  review : ∀ reviewId, selection.financeReviewId = some reviewId →
    ∃ row, s.reviews.get? (.review reviewId 1) = some row ∧ row.review.status = .pending ∧
      row.review.proposal = selection.proposal ∧
      row.review.submittedBy = selection.submittedBy ∧
      row.review.submittedAt = selection.submittedAt

theorem returns_validateBinding {receipt : SelectionReceipt} {s s' : Store} {u : Unit}
    (h : (validateBinding env receipt).Returns s u s') : s' = s ∧ Bound s receipt.selection := by
  refine ⟨(readOnly_validateBinding env receipt).eq h, ?_⟩
  simp only [validateBinding, storedCase, returns_getRow_bind, returns_require_bind] at h
  obtain ⟨case, hcase, hworkflow, h⟩ := h
  rw [(readOnly_mapError (readOnly_ofExcept _) _ _).returns_bind] at h
  obtain ⟨ids, hids, h⟩ := h
  obtain ⟨analysis, hanalysis, h⟩ := (readOnly_getAnalysis env _).returns_bind.mp h
  obtain ⟨-, hget, -⟩ := returns_getAnalysis env hanalysis
  obtain ⟨⟨hac, hah⟩, h⟩ := returns_require_bind.mp h
  obtain ⟨hprop, h⟩ := returns_require_bind.mp h
  refine ⟨⟨case, hcase, hworkflow⟩, ⟨ids, (returns_ofExcept.mp (returns_mapError.mp hids)).1⟩,
    ⟨analysis, hget, hac, hah, hprop⟩, fun reviewId hid => ?_⟩
  rw [hid] at h
  obtain ⟨review, hr, h⟩ := (readOnly_getRevision env reviewId 1).returns_bind.mp h
  obtain ⟨-, row, hrow, rfl⟩ := returns_getRevision env hr
  obtain ⟨⟨h1, h2, h3, h4⟩, -⟩ := returns_require.mp h
  exact ⟨row, hrow, h1, h2, h3, h4⟩

theorem returns_decodeReceipt {receipt r : SelectionReceipt} {s s' : Store}
    (h : (decodeReceipt env receipt).Returns s r s') :
    s' = s ∧ r = receipt ∧ Bound s receipt.selection ∧
      receipt.expected.analysisId = some receipt.selection.proposal.analysisId ∧
      receipt.expected.analysisMaterialHash =
        some receipt.selection.proposal.analysisMaterialHash := by
  rw [decodeReceipt, returns_require_bind] at h
  obtain ⟨⟨hid, hhash⟩, h⟩ := h
  obtain ⟨_, hb, h⟩ := (readOnly_validateBinding env receipt).returns_bind.mp h
  obtain ⟨rfl, rfl⟩ := returns_done.mp h
  exact ⟨rfl, rfl, (returns_validateBinding env hb).2, hid, hhash⟩

theorem returns_getSelection {selectionId : String} {s s' : Store} {selection : ProposalSelection}
    (h : (getSelection env selectionId).Returns s selection s') :
    s' = s ∧ ∃ receipt, s.selections.get? (.selection selectionId) = some receipt ∧
      receipt.selection = selection ∧ Bound s selection := by
  rw [getSelection, returns_getRow_bind] at h
  obtain ⟨row, hrow, h⟩ := h
  obtain ⟨receipt, hr, h⟩ := (readOnly_decodeReceipt env row).returns_bind.mp h
  obtain ⟨rfl, rfl⟩ := returns_done.mp h
  obtain ⟨-, rfl, hb, -⟩ := returns_decodeReceipt env hr
  exact ⟨rfl, receipt, hrow, rfl, hb⟩

theorem returns_getReceiptByKey {key : String} {s s' : Store} {o : Option SelectionReceipt}
    (h : (getReceiptByKey env key).Returns s o s') :
    s' = s ∧ o = s.selections.get? (.selectionKey key) := by
  have hs := (readOnly_getReceiptByKey env key).eq h
  rw [getReceiptByKey, returns_select_bind] at h
  rcases hrow : s.selections.get? (.selectionKey key) with _ | row <;> rw [hrow] at h
  · exact ⟨hs, (returns_done.mp h).1⟩
  · obtain ⟨r, hr, rfl⟩ := returns_map.mp h
    obtain ⟨-, rfl, -⟩ := returns_decodeReceipt env hr
    exact ⟨hs, rfl⟩

end SupplyResponse
