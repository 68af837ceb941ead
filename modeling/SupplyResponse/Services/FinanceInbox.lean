/-
What Taylor reads of the Finance reviews (`services/finance/service.py`).

* `getSelectionForReview`, `listPendingCaseIds` — the reads of `proposals.py` behind the inbox;
* `reviewDetail`, `detail` — `_detail` and `detail`: a review beside its selection, analysis
  and option, and whether it is the current one;
* `listPending` — the inbox: the details of the pending reviews that are current.
-/
import SupplyResponse.Services.Finance

namespace SupplyResponse

open Transact Transact.Prog
open Keyed (keys)

variable (env : Env)

/-! ### Reads of selections -/

/-- `get_selection_for_review`. -/
def getSelectionForReview (reviewId : String) : Sql ProposalSelection := do
  let receipt ← getRow Store.selections (.selectionReview reviewId)
    ⟨.recordNotFound, s!"Finance review does not exist: {reviewId}"⟩
  getSelection env receipt.selection.selectionId

/-- The join of a projection with its current selection and the latest revision of the review
of that selection, where this is pending: the submission time and the case. -/
def pendingCase? (s : Store) (row : CaseProjectionRow) : Option (Instant × String) := do
  let selectionId ← row.currentSelectionId
  let receipt ← s.selections.get? (.selection selectionId)
  let reviewId ← receipt.selection.financeReviewId
  let latest ← latestRow s reviewId
  if latest.review.status = .pending then some (receipt.selection.submittedAt, row.caseId)
  else none

/-- `ORDER BY submitted_at, case_id`. -/
def SubmittedBefore (a b : Instant × String) : Prop :=
  a.1 < b.1 ∨ a.1 = b.1 ∧ a.2 ≤ b.2

instance : DecidableRel SubmittedBefore :=
  fun _ _ => inferInstanceAs (Decidable (_ ∨ _))

def pendingCases (s : Store) : List (Instant × String) :=
  (s.projections.rows.filterMap (pendingCase? s)).insertionSort SubmittedBefore

/-- `list_pending_case_ids`. -/
def listPendingCaseIds : Sql (List String) :=
  select fun s => (pendingCases s).map Prod.snd

/-! ### Details -/

structure FinanceReviewDetail where
  selection : ProposalSelection
  review : FinanceReview
  reviewRevision : Nat
  analysis : AnalysisVersion
  option : ResponseOption
  isCurrent : Bool
  currentToken : ProposalToken
  deriving DecidableEq

/-- The option of a proposal in its analysis, of the same hash and evaluated cost. -/
def AnalysisVersion.proposed? (analysis : AnalysisVersion) (proposal : FinanceProposal) :
    Option ResponseOption := do
  let option ← analysis.option? proposal.optionId
  let predicted ← option.predicted
  if analysis.materialHash = proposal.analysisMaterialHash ∧
      predicted.responseCost = proposal.responseCost then some option
  else none

/-- `_detail`. -/
def reviewDetail (reviewId : String) : Sql FinanceReviewDetail := do
  let selection ← getSelectionForReview env reviewId
  requireAlex env selection.submittedBy
  let state ← getState env selection.proposal.caseId
  let (review, revision) ← getLatest env reviewId
  requireAlex env review.submittedBy
  require (∀ reviewer ∈ review.reviewedBy, env.actors.IsTaylor reviewer)
    ⟨.financePermissionDenied, "Exact configured Finance workflow identity required"⟩
  require (review.proposal = selection.proposal ∧ selection.financeReviewId = some reviewId)
    (integrityError "Historical review and selection binding differ")
  let analysis ← getAnalysis env selection.proposal.analysisId
  let option ← orRaise (integrityError "Historical review material differs from analysis")
    (analysis.proposed? selection.proposal)
  let again ← getState env selection.proposal.caseId
  require (again.token = state.token) (staleProposal "Review state changed while reading")
  pure
    { selection := selection
      review := review
      reviewRevision := revision
      analysis := analysis
      option := option
      isCurrent := state.token.selectionId = some selection.selectionId
      currentToken := state.token }

/-- `detail`. -/
def detail (reviewId : String) (actor : IdentitySnapshot) : Sql FinanceReviewDetail := do
  requireTaylor env actor
  reviewDetail env reviewId

/-! ### The inbox -/

/-- The selection and the review of a state that waits for Taylor. -/
def ProposalState.waiting? (actors : BoundFinanceActors) (state : ProposalState) :
    Option FinanceReview := do
  let selection ← state.selection
  let review ← state.review
  if review.status = .pending ∧ actors.IsAlex selection.submittedBy then some review else none

/-- The body of the loop of `list_pending`; `none` where it continues without a result. -/
def pendingDetail (caseId : String) : Sql (Option FinanceReviewDetail) := do
  let state ← getState env caseId
  match state.waiting? env.actors with
  | none => pure none
  | some review => do
    let found ← reviewDetail env review.reviewId
    pure (if found.isCurrent = true ∧ found.review.status = .pending then some found else none)

/-- The loop of `list_pending`. -/
def collectPending : List String → Sql (List FinanceReviewDetail)
  | [] => pure []
  | caseId :: rest => do
    let found ← pendingDetail env caseId
    let others ← collectPending rest
    pure (found.toList ++ others)

/-- `list_pending`. -/
def listPending (actor : IdentitySnapshot) : Sql (List FinanceReviewDetail) := do
  requireTaylor env actor
  let caseIds ← listPendingCaseIds
  collectPending env caseIds

/-! ### Reads change nothing -/

theorem readOnly_getSelectionForReview (reviewId : String) :
    (getSelectionForReview env reviewId).ReadOnly :=
  (readOnly_getRow _ _ _).bind fun _ => readOnly_getSelection env _

theorem readOnly_reviewDetail (reviewId : String) : (reviewDetail env reviewId).ReadOnly :=
  (readOnly_getSelectionForReview env reviewId).bind fun _ =>
    (readOnly_require _ _).bind fun _ => (readOnly_getState env _).bind fun _ =>
      (readOnly_getLatest env _).bind fun _ => (readOnly_require _ _).bind fun _ =>
        (readOnly_require _ _).bind fun _ => (readOnly_require _ _).bind fun _ =>
          (readOnly_getAnalysis env _).bind fun _ => (readOnly_orRaise _ _).bind fun _ =>
            (readOnly_getState env _).bind fun _ => (readOnly_require _ _).bind fun _ =>
              readOnly_done _

theorem readOnly_pendingDetail (caseId : String) : (pendingDetail env caseId).ReadOnly :=
  (readOnly_getState env caseId).bind fun state => by
    cases state.waiting? env.actors with
    | none => exact readOnly_done none
    | some review => exact (readOnly_reviewDetail env _).bind fun _ => readOnly_done _

theorem readOnly_collectPending (caseIds : List String) :
    (collectPending env caseIds).ReadOnly := by
  induction caseIds with
  | nil => exact readOnly_done _
  | cons caseId rest ih =>
    exact (readOnly_pendingDetail env caseId).bind fun _ => ih.bind fun _ => readOnly_done _

theorem readOnly_listPending (actor : IdentitySnapshot) : (listPending env actor).ReadOnly :=
  (readOnly_require _ _).bind fun _ => (readOnly_select _).bind fun _ =>
    readOnly_collectPending env _

end SupplyResponse
