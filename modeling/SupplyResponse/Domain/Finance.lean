/-
Finance reviews and proposal selections.

The validators of a record are a proposition about its fields; the record
carries its proof, and `validate?` builds it or fails as the model class does.

* `FinanceReview` — the review metadata agrees with the status;
* `ProposalSelection` — a Finance review is named exactly above the threshold;
* `ProposalToken` — the compare-and-set view of a case projection;
* `ProposalState` — a token with the selection and review it points to.
-/
import SupplyResponse.Domain.Analysis

namespace SupplyResponse

/-- `DEFAULT_PREMIUM_FREIGHT_APPROVAL_THRESHOLD`. -/
def premiumFreightApprovalThreshold : Money := 20000

/-- `requires_finance_approval` with its default threshold. -/
def RequiresFinanceApproval (responseCost : Money) : Prop :=
  premiumFreightApprovalThreshold < responseCost

instance (responseCost : Money) : Decidable (RequiresFinanceApproval responseCost) :=
  inferInstanceAs (Decidable (_ < _))

inductive FinanceReviewStatus
  | pending
  | approved
  | rejected
  | superseded
  deriving DecidableEq, Repr

/-! ### Proposals and reviews -/

structure FinanceProposal where
  caseId : String
  analysisId : String
  analysisMaterialHash : String
  optionId : String
  responseCost : Money
  valid : IsSha256 analysisMaterialHash ∧ Nonblank caseId ∧ Nonblank analysisId ∧
    Nonblank optionId ∧ 0 ≤ responseCost ∧ responseCost = responseCost.serialized
  deriving DecidableEq

def FinanceProposal.validate? (caseId analysisId analysisMaterialHash optionId : String)
    (responseCost : Money) : Option FinanceProposal :=
  if h : _ then some ⟨caseId, analysisId, analysisMaterialHash, optionId, responseCost, h⟩ else none

/-- The part of `FinanceReview.validate_state` that depends on the status. -/
def FinanceReviewStatus.Admits (reviewedBy : Option IdentitySnapshot)
    (reviewedAt : Option Instant) (reason : Option String) (supersededAt : Option Instant) :
    FinanceReviewStatus → Prop
  | pending => reviewedBy = none ∧ reviewedAt = none ∧ reason = none ∧ supersededAt = none
  | approved => reviewedBy.isSome ∧ reviewedAt.isSome ∧ supersededAt = none
  | rejected => reviewedBy.isSome ∧ reviewedAt.isSome ∧ supersededAt = none ∧ reason.isSome
  | superseded => supersededAt.isSome

instance (reviewedBy : Option IdentitySnapshot) (reviewedAt : Option Instant)
    (reason : Option String) (supersededAt : Option Instant) :
    DecidablePred (FinanceReviewStatus.Admits reviewedBy reviewedAt reason supersededAt)
  | .pending => inferInstanceAs (Decidable (_ ∧ _))
  | .approved => inferInstanceAs (Decidable (_ ∧ _))
  | .rejected => inferInstanceAs (Decidable (_ ∧ _))
  | .superseded => inferInstanceAs (Decidable (_ = true))

/-- `FinanceReview.validate_state`, and the normal form of `reason`. -/
def ReviewMetadata.Valid (status : FinanceReviewStatus) (submittedAt : Instant)
    (reviewedBy : Option IdentitySnapshot) (reviewedAt : Option Instant)
    (reason : Option String) (supersededAt : Option Instant) : Prop :=
  (reviewedBy.isNone ↔ reviewedAt.isNone) ∧
    (∀ t ∈ reviewedAt, submittedAt ≤ t) ∧
    (∀ t ∈ supersededAt, submittedAt ≤ t) ∧
    (∀ t ∈ supersededAt, ∀ r ∈ reviewedAt, r ≤ t) ∧
    (∀ text ∈ reason, stripOrNone text = some text ∧ text.length ≤ 4000) ∧
    (reason.isSome → reviewedBy.isSome) ∧
    status.Admits reviewedBy reviewedAt reason supersededAt

instance (status : FinanceReviewStatus) (submittedAt : Instant)
    (reviewedBy : Option IdentitySnapshot) (reviewedAt : Option Instant)
    (reason : Option String) (supersededAt : Option Instant) :
    Decidable (ReviewMetadata.Valid status submittedAt reviewedBy reviewedAt reason
      supersededAt) :=
  inferInstanceAs (Decidable (_ ∧ _))

structure FinanceReview where
  reviewId : String
  proposal : FinanceProposal
  submittedBy : IdentitySnapshot
  submittedAt : Instant
  status : FinanceReviewStatus
  reviewedBy : Option IdentitySnapshot
  reviewedAt : Option Instant
  reason : Option String
  supersededAt : Option Instant
  nonblank : Nonblank reviewId
  valid : ReviewMetadata.Valid status submittedAt reviewedBy reviewedAt reason supersededAt
  deriving DecidableEq

def FinanceReview.validate? (reviewId : String) (proposal : FinanceProposal)
    (submittedBy : IdentitySnapshot) (submittedAt : Instant) (status : FinanceReviewStatus)
    (reviewedBy : Option IdentitySnapshot) (reviewedAt : Option Instant)
    (reason : Option String) (supersededAt : Option Instant) : Option FinanceReview :=
  if h : _ ∧ _ then
    some ⟨reviewId, proposal, submittedBy, submittedAt, status, reviewedBy, reviewedAt, reason,
      supersededAt, h.1, h.2⟩
  else none

/-! ### Selections -/

/-- `ProposalToken`. -/
structure ProposalToken where
  generation : Nat
  analysisId : Option String
  analysisMaterialHash : Option String
  selectionId : Option String
  valid : (∀ id ∈ analysisId, IsIdentifier id) ∧ (∀ id ∈ selectionId, IsIdentifier id) ∧
    (∀ hash ∈ analysisMaterialHash, IsSha256 hash) ∧
    (analysisId.isNone ↔ analysisMaterialHash.isNone) ∧
    (selectionId.isSome → analysisId.isSome)
  deriving DecidableEq

def ProposalToken.validate? (generation : Nat)
    (analysisId analysisMaterialHash selectionId : Option String) : Option ProposalToken :=
  if h : _ then some ⟨generation, analysisId, analysisMaterialHash, selectionId, h⟩ else none

/-- `expected.model_copy(update={"generation": expected.generation + 1})`. -/
def ProposalToken.next (token : ProposalToken) : ProposalToken :=
  { token with generation := token.generation + 1 }

/-- The withdrawn token: one generation on, without a selection. -/
def ProposalToken.withdrawn (token : ProposalToken) : ProposalToken where
  generation := token.generation + 1
  analysisId := token.analysisId
  analysisMaterialHash := token.analysisMaterialHash
  selectionId := none
  valid := ⟨token.valid.1, by simp, token.valid.2.2.1, token.valid.2.2.2.1, by simp⟩

structure ProposalSelection where
  selectionId : String
  proposal : FinanceProposal
  workflowVersion : WorkflowVersion
  submittedBy : IdentitySnapshot
  submittedAt : Instant
  financeReviewId : Option String
  valid : IsIdentifier selectionId ∧ (∀ id ∈ financeReviewId, IsIdentifier id) ∧
    workflowVersion = .independentFinance ∧
    (RequiresFinanceApproval proposal.responseCost ↔ financeReviewId.isSome)
  deriving DecidableEq

def ProposalSelection.validate? (selectionId : String) (proposal : FinanceProposal)
    (workflowVersion : WorkflowVersion) (submittedBy : IdentitySnapshot) (submittedAt : Instant)
    (financeReviewId : Option String) : Option ProposalSelection :=
  if h : _ then
    some ⟨selectionId, proposal, workflowVersion, submittedBy, submittedAt, financeReviewId, h⟩
  else none

structure SelectionReceipt where
  selection : ProposalSelection
  expected : ProposalToken
  idempotencyKey : String
  requestFingerprint : String
  valid : Nonblank idempotencyKey ∧ idempotencyKey.length ≤ 256 ∧ IsSha256 requestFingerprint
  deriving DecidableEq

def SelectionReceipt.validate? (selection : ProposalSelection) (expected : ProposalToken)
    (idempotencyKey requestFingerprint : String) : Option SelectionReceipt :=
  if h : _ then some ⟨selection, expected, idempotencyKey, requestFingerprint, h⟩ else none

/-- What `ProposalState.validate_consistency` asks of the review of a selection. -/
def ProposalState.ReviewMatches (proposal : FinanceProposal) :
    Option String → Option FinanceReview → Option Nat → Prop
  | none, review, reviewRevision => review = none ∧ reviewRevision = none
  | some _, none, _ => False
  | some reviewId, some review, reviewRevision =>
    review.reviewId = reviewId ∧ review.proposal = proposal ∧ ∃ n ∈ reviewRevision, 0 < n

instance (proposal : FinanceProposal) : (financeReviewId : Option String) →
    (review : Option FinanceReview) → (reviewRevision : Option Nat) →
    Decidable (ProposalState.ReviewMatches proposal financeReviewId review reviewRevision)
  | none, _, _ => inferInstanceAs (Decidable (_ ∧ _))
  | some _, none, _ => isFalse id
  | some _, some _, none => isFalse fun h => by simpa using h.2.2
  | some reviewId, some review, some n =>
    decidable_of_iff (review.reviewId = reviewId ∧ review.proposal = proposal ∧ 0 < n)
      (by simp [ProposalState.ReviewMatches])

/-- `ProposalState.validate_consistency`. -/
def ProposalState.Consistent (token : ProposalToken) (review : Option FinanceReview)
    (reviewRevision : Option Nat) : Option ProposalSelection → Prop
  | none => review = none ∧ reviewRevision = none ∧ token.selectionId = none
  | some selection =>
    token.selectionId = some selection.selectionId ∧
      ReviewMatches selection.proposal selection.financeReviewId review reviewRevision

instance (token : ProposalToken) (review : Option FinanceReview) (reviewRevision : Option Nat) :
    DecidablePred (ProposalState.Consistent token review reviewRevision)
  | none => inferInstanceAs (Decidable (_ ∧ _))
  | some _ => inferInstanceAs (Decidable (_ ∧ _))

structure ProposalState where
  token : ProposalToken
  selection : Option ProposalSelection
  review : Option FinanceReview
  reviewRevision : Option Nat
  consistent : ProposalState.Consistent token review reviewRevision selection
  deriving DecidableEq

def ProposalState.validate? (token : ProposalToken) (selection : Option ProposalSelection)
    (review : Option FinanceReview) (reviewRevision : Option Nat) : Option ProposalState :=
  if h : _ then some ⟨token, selection, review, reviewRevision, h⟩ else none

end SupplyResponse
