/-
Decisions and the proposal evidence that approvals of the independent Finance
workflow carry.

* `ProposalApprovalEvidence` — a selection submitted by Alex, with Taylor's
  approved review exactly when its cost requires one;
* `Decision` — a record with the proof of `validate_immutable_shape`.
-/
import SupplyResponse.Domain.Finance

namespace SupplyResponse

inductive DecisionKind
  | approved
  | rejected
  deriving DecidableEq, Repr

/-- `RecordDecisionCommand`. -/
structure RecordDecisionCommand where
  caseId : String
  analysisId : String
  selectedOptionId : Option String
  kind : DecisionKind
  idempotencyKey : String
  rejectionReason : Option String
  valid : Nonblank caseId ∧ Nonblank analysisId ∧ Nonblank idempotencyKey ∧
    (kind = .approved → selectedOptionId.isSome ∧ rejectionReason = none) ∧
    (kind = .rejected → selectedOptionId = none ∧ ∃ reason ∈ rejectionReason, Nonblank reason)
  deriving DecidableEq

def RecordDecisionCommand.validate? (caseId analysisId : String)
    (selectedOptionId : Option String) (kind : DecisionKind) (idempotencyKey : String)
    (rejectionReason : Option String) : Option RecordDecisionCommand :=
  if h : _ then
    some ⟨caseId, analysisId, selectedOptionId, kind, idempotencyKey, rejectionReason, h⟩
  else none

/-! ### Proposal evidence -/

/-- `_require_identity`: the fixed shape of an identity and its two UUIDs. -/
def IdentitySnapshot.require (actor : IdentitySnapshot) (persona source : String)
    (roles : List String) : Option (Uuid × Uuid) :=
  if actor.HasShape persona source roles then do
    pure (← actor.tenant?, ← actor.object?)
  else none

def IdentitySnapshot.requireAlex (actor : IdentitySnapshot) : Option (Uuid × Uuid) :=
  actor.require "RL-PERSONA-ALEX" "RL-ENTRA-ALEX" alexRoles

def IdentitySnapshot.requireTaylor (actor : IdentitySnapshot) : Option (Uuid × Uuid) :=
  actor.require "RL-PERSONA-TAYLOR" "RL-ENTRA-TAYLOR" taylorRoles

/-- An approved review revision on exactly the selected proposal, by a Taylor
of the submitter's tenant who is not the submitter. -/
def ProposalApprovalEvidence.Approves (selection : ProposalSelection) (review : FinanceReview)
    (reviewRevision : Option Nat) : Prop :=
  (∃ n ∈ reviewRevision, 1 < n) ∧ review.status = .approved ∧
    selection.financeReviewId = some review.reviewId ∧ review.proposal = selection.proposal ∧
    review.submittedBy = selection.submittedBy ∧ review.submittedAt = selection.submittedAt ∧
    review.reviewedAt.isSome ∧
    ∃ reviewedBy ∈ review.reviewedBy, ∃ reviewer ∈ reviewedBy.requireTaylor,
      ∃ submitter ∈ selection.submittedBy.requireAlex,
        reviewer.1 = submitter.1 ∧ reviewer.2 ≠ submitter.2

instance (selection : ProposalSelection) (review : FinanceReview) (reviewRevision : Option Nat) :
    Decidable (ProposalApprovalEvidence.Approves selection review reviewRevision) :=
  inferInstanceAs (Decidable (_ ∧ _))

/-- `ProposalApprovalEvidence.validate_evidence`. -/
def ProposalApprovalEvidence.Valid (selection : ProposalSelection)
    (review : Option FinanceReview) (reviewRevision : Option Nat) : Prop :=
  selection.submittedBy.requireAlex.isSome ∧
    (RequiresFinanceApproval selection.proposal.responseCost ↔ review.isSome) ∧
    (review = none → reviewRevision = none ∧ selection.financeReviewId = none) ∧
    ∀ r ∈ review, Approves selection r reviewRevision

instance (selection : ProposalSelection) (review : Option FinanceReview)
    (reviewRevision : Option Nat) :
    Decidable (ProposalApprovalEvidence.Valid selection review reviewRevision) :=
  inferInstanceAs (Decidable (_ ∧ _))

structure ProposalApprovalEvidence where
  selection : ProposalSelection
  review : Option FinanceReview
  reviewRevision : Option Nat
  valid : ProposalApprovalEvidence.Valid selection review reviewRevision
  deriving DecidableEq

def ProposalApprovalEvidence.validate? (selection : ProposalSelection)
    (review : Option FinanceReview) (reviewRevision : Option Nat) :
    Option ProposalApprovalEvidence :=
  if h : _ then some ⟨selection, review, reviewRevision, h⟩ else none

/-! ### Decisions -/

/-- The fields of a Decision. -/
structure DecisionRecord where
  decisionId : String
  caseId : String
  analysisId : String
  analysisMaterialHash : String
  idempotencyKey : String
  requestFingerprint : String
  kind : DecisionKind
  selectedOptionId : Option String
  selectedOption : Option ResponseOption
  evidenceIds : List String
  assumptions : List String
  constraints : List String
  prerequisiteRoles : List String
  comparatorTrace : Option RankingResult
  calculationVersion : String
  evidencePolicyVersion : String
  approvalPolicyVersion : String
  rankingPolicyVersion : String
  runtimeMode : RuntimeMode
  scenarioEffectiveTime : Instant
  approvalSatisfactions : List ApprovalSatisfaction
  proposalApproval : Option ProposalApprovalEvidence
  actor : IdentitySnapshot
  rejectionReason : Option String
  decidedAt : Instant
  deriving DecidableEq

namespace DecisionRecord

/-- A rejection carries no approval material. -/
def RejectionShape (d : DecisionRecord) : Prop :=
  d.selectedOptionId = none ∧ d.selectedOption = none ∧ d.evidenceIds = [] ∧
    d.assumptions = [] ∧ d.constraints = [] ∧ d.prerequisiteRoles = [] ∧
    d.comparatorTrace.isSome ∧ d.approvalSatisfactions = [] ∧ d.proposalApproval = none ∧
    ∃ reason ∈ d.rejectionReason, Nonblank reason

instance (d : DecisionRecord) : Decidable d.RejectionShape :=
  inferInstanceAs (Decidable (_ ∧ _))

/-- The approved option is snapshotted unchanged. -/
def OptionShape (d : DecisionRecord) (option : ResponseOption) : Prop :=
  d.selectedOptionId = some option.optionId ∧ d.comparatorTrace.isSome ∧
    d.rejectionReason = none ∧ d.approvalSatisfactions ≠ [] ∧
    d.evidenceIds = option.evidenceIds ∧ d.assumptions = option.assumptions ∧
    d.constraints = option.blockingCodes ∧ d.prerequisiteRoles = option.prerequisiteRoles

instance (d : DecisionRecord) (option : ResponseOption) : Decidable (d.OptionShape option) :=
  inferInstanceAs (Decidable (_ ∧ _))

/-- An Approval Satisfaction of the decision's own target. -/
def SatisfactionConsistent (d : DecisionRecord) (option : ResponseOption)
    (s : ApprovalSatisfaction) : Prop :=
  s.satisfied = true ∧ s.analysisId = d.analysisId ∧ some s.optionId = d.selectedOptionId ∧
    s.target.case.caseId = d.caseId ∧ s.target.case.runtimeMode = d.runtimeMode ∧
    s.target.scenarioEffectiveTime = d.scenarioEffectiveTime ∧
    s.target.requestedSideEffects = option.requestedSideEffects ∧
    option.predicted.map PredictedOutcome.responseCost = some s.target.totalResponseCost

instance (d : DecisionRecord) (option : ResponseOption) (s : ApprovalSatisfaction) :
    Decidable (d.SatisfactionConsistent option s) :=
  inferInstanceAs (Decidable (_ ∧ _))

/-- The proposal evidence is about this decision, by this decision's actor. -/
def EvidenceConsistent (d : DecisionRecord) (option : ResponseOption)
    (evidence : ProposalApprovalEvidence) : Prop :=
  evidence.selection.proposal.caseId = d.caseId ∧
    evidence.selection.proposal.analysisId = d.analysisId ∧
    evidence.selection.proposal.analysisMaterialHash = d.analysisMaterialHash ∧
    some evidence.selection.proposal.optionId = d.selectedOptionId ∧
    option.predicted.map PredictedOutcome.responseCost =
      some evidence.selection.proposal.responseCost ∧
    evidence.selection.submittedAt ≤ d.decidedAt ∧
    d.actor.tenant?.isSome ∧ d.actor.object?.isSome ∧
    d.actor.tenant? = evidence.selection.submittedBy.tenant? ∧
    d.actor.object? = evidence.selection.submittedBy.object? ∧
    (∀ review ∈ evidence.review, ∃ t ∈ review.reviewedAt, t ≤ d.decidedAt) ∧
    ∀ s ∈ d.approvalSatisfactions, s.role ≠ "finance_approver"

instance (d : DecisionRecord) (option : ResponseOption) (evidence : ProposalApprovalEvidence) :
    Decidable (d.EvidenceConsistent option evidence) :=
  inferInstanceAs (Decidable (_ ∧ _))

/-- An approval: the option snapshot, its satisfactions (one per role) and,
exactly under the independent Finance policy, the proposal evidence. -/
def ApprovalShape (d : DecisionRecord) (option : ResponseOption) : Prop :=
  d.OptionShape option ∧
    (∀ s ∈ d.approvalSatisfactions, d.SatisfactionConsistent option s) ∧
    (d.approvalSatisfactions.map ApprovalSatisfaction.role).Nodup ∧
    (d.approvalPolicyVersion = WorkflowVersion.independentFinance.value ↔
      d.proposalApproval.isSome) ∧
    ∀ evidence ∈ d.proposalApproval, d.EvidenceConsistent option evidence

instance (d : DecisionRecord) (option : ResponseOption) : Decidable (d.ApprovalShape option) :=
  inferInstanceAs (Decidable (_ ∧ _))

/-- `Decision.validate_immutable_shape`. -/
def Valid (d : DecisionRecord) : Prop :=
  (d.kind = .rejected → d.RejectionShape) ∧
    (d.kind = .approved → ∃ option ∈ d.selectedOption, d.ApprovalShape option)

instance (d : DecisionRecord) : Decidable d.Valid := inferInstanceAs (Decidable (_ ∧ _))

end DecisionRecord

/-- A Decision whose fields agree with each other. -/
structure Decision extends DecisionRecord where
  valid : toDecisionRecord.Valid
  deriving DecidableEq

def DecisionRecord.validate? (d : DecisionRecord) : Option Decision :=
  if h : d.Valid then some ⟨d, h⟩ else none

namespace Decision

/-- `Decision.from_command`, before the validators run. -/
def fromCommand (command : RecordDecisionCommand) (actor : IdentitySnapshot)
    (analysis : AnalysisVersion) (satisfactions : List ApprovalSatisfaction)
    (decisionId requestFingerprint : String) (decidedAt : Instant)
    (proposalApproval : Option ProposalApprovalEvidence) : DecisionRecord :=
  let option := command.selectedOptionId.bind analysis.option?
  { decisionId := decisionId
    caseId := command.caseId
    analysisId := command.analysisId
    analysisMaterialHash := analysis.materialHash
    idempotencyKey := command.idempotencyKey
    requestFingerprint := requestFingerprint
    kind := command.kind
    selectedOptionId := command.selectedOptionId
    selectedOption := option
    evidenceIds := (option.map ResponseOption.evidenceIds).getD []
    assumptions := (option.map ResponseOption.assumptions).getD []
    constraints := (option.map ResponseOption.blockingCodes).getD []
    prerequisiteRoles := (option.map ResponseOption.prerequisiteRoles).getD []
    comparatorTrace := some analysis.ranking
    calculationVersion := analysis.material.calculationVersion
    evidencePolicyVersion := analysis.material.evidencePolicyVersion
    approvalPolicyVersion := analysis.material.approvalPolicyVersion
    rankingPolicyVersion := analysis.ranking.policyVersion
    runtimeMode := analysis.material.runtimeMode
    scenarioEffectiveTime := analysis.material.scenarioEffectiveTime
    approvalSatisfactions := satisfactions
    proposalApproval := proposalApproval
    actor := actor
    rejectionReason := command.rejectionReason
    decidedAt := decidedAt }

variable {d : Decision}

/-- An approved Decision of the independent workflow is bound to its evidence. -/
theorem evidenceConsistent (hkind : d.kind = .approved) {e : ProposalApprovalEvidence}
    (he : d.proposalApproval = some e) :
    ∃ option ∈ d.selectedOption, d.EvidenceConsistent option e := by
  obtain ⟨option, hoption, hshape⟩ := d.valid.2 hkind
  exact ⟨option, hoption, hshape.2.2.2.2 e he⟩

/-- A rejection has no proposal evidence. -/
theorem proposalApproval_eq_none (hkind : d.kind = .rejected) : d.proposalApproval = none :=
  (d.valid.1 hkind).2.2.2.2.2.2.2.2.1

end Decision

end SupplyResponse
