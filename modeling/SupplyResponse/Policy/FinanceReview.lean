/-
The lifecycle policy of Finance reviews (`services/policy/finance_review.py`).

* `submitFinanceReview` — a pending review, by Alex, above the threshold;
* `resolveFinanceReview` — Taylor of the same tenant approves or rejects;
* `supersedeFinanceReview` — the end of a review.
-/
import SupplyResponse.Persistence.Statements

namespace SupplyResponse

def violation (message : String) : Raised := ⟨.financeReviewViolation, message⟩

/-- A model class that rejects its fields. -/
def validationError (model : String) : Raised := ⟨.validationError, model⟩

/-- `_require_uuid`. -/
def requireUuid (value : Option String) (label : String) : Except Raised Uuid :=
  (Uuid.parse (value.getD "")).elim (.error (violation s!"{label} must be a valid UUID")) .ok

/-- `_require_actor`. -/
def requireActor (actor : IdentitySnapshot) (persona source : String) (roles : List String) :
    Except Raised (Uuid × Uuid) := do
  if actor.HasShape persona source roles then
    let tenant ← requireUuid actor.tenantId "tenant_id"
    let object ← requireUuid actor.objectId "object_id"
    .ok (tenant, object)
  else .error (violation "Actor is not authorized for this Finance transition")

/-- `require_proposal_submitter`. -/
def requireProposalSubmitter (actor : IdentitySnapshot) : Except Raised (Uuid × Uuid) :=
  requireActor actor "RL-PERSONA-ALEX" "RL-ENTRA-ALEX" alexRoles

/-- `submit_finance_review`. -/
def submitFinanceReview (reviewId : String) (proposal : FinanceProposal)
    (actor : IdentitySnapshot) (now : Instant) : Except Raised FinanceReview := do
  let _ ← requireProposalSubmitter actor
  if ¬Nonblank reviewId then .error (violation "review_id must be nonblank")
  else if ¬RequiresFinanceApproval proposal.responseCost then
    .error (violation "Finance review is not required for this cost")
  else
    (FinanceReview.validate? reviewId proposal actor now .pending none none none none).elim
      (.error (validationError "FinanceReview")) .ok

/-- `resolve_finance_review`. -/
def resolveFinanceReview (review : FinanceReview) (currentProposal : FinanceProposal)
    (actor : IdentitySnapshot) (approved : Bool) (reason : Option String) (now : Instant) :
    Except Raised FinanceReview := do
  let (reviewerTenant, reviewerObject) ←
    requireActor actor "RL-PERSONA-TAYLOR" "RL-ENTRA-TAYLOR" taylorRoles
  let submitterTenant ← requireUuid review.submittedBy.tenantId "submitter tenant_id"
  let submitterObject ← requireUuid review.submittedBy.objectId "submitter object_id"
  if reviewerTenant ≠ submitterTenant then
    .error (violation "Finance reviewer must share the submitter tenant")
  else if reviewerObject = submitterObject then
    .error (violation "Finance reviewer must be a different person")
  else if review.status ≠ .pending then
    .error (violation "Only a pending review can be resolved")
  else if review.proposal ≠ currentProposal then
    .error (violation "The proposal has changed; submit a new review")
  else if now < review.submittedAt then
    .error (violation "Review time cannot precede submission")
  else if approved = false ∧ (reason.bind stripOrNone) = none then
    .error (violation "Rejected review requires a nonblank reason")
  else
    (FinanceReview.validate? review.reviewId review.proposal review.submittedBy review.submittedAt
      (if approved then .approved else .rejected) (some actor) (some now)
      (reason.bind stripOrNone) review.supersededAt).elim
      (.error (validationError "FinanceReview")) .ok

/-- `supersede_finance_review`. -/
def supersedeFinanceReview (review : FinanceReview) (now : Instant) :
    Except Raised FinanceReview :=
  if now < review.submittedAt ∨ ∃ t ∈ review.reviewedAt, now < t then
    .error (violation "Supersession cannot precede existing review history")
  else if review.status = .superseded then .ok review
  else
    (FinanceReview.validate? review.reviewId review.proposal review.submittedBy review.submittedAt
      .superseded review.reviewedBy review.reviewedAt review.reason (some now)).elim
      (.error (validationError "FinanceReview")) .ok

/-! ### What the transitions preserve -/

/-- The part of a review that no transition changes. -/
def FinanceReview.SameRequest (r r' : FinanceReview) : Prop :=
  r'.reviewId = r.reviewId ∧ r'.proposal = r.proposal ∧ r'.submittedBy = r.submittedBy ∧
    r'.submittedAt = r.submittedAt

instance (r r' : FinanceReview) : Decidable (r.SameRequest r') :=
  inferInstanceAs (Decidable (_ ∧ _))

theorem FinanceReview.validate?_spec {reviewId : String} {proposal : FinanceProposal}
    {submittedBy : IdentitySnapshot} {submittedAt : Instant} {status : FinanceReviewStatus}
    {reviewedBy : Option IdentitySnapshot} {reviewedAt : Option Instant} {reason : Option String}
    {supersededAt : Option Instant} {r : FinanceReview}
    (h : validate? reviewId proposal submittedBy submittedAt status reviewedBy reviewedAt reason
      supersededAt = some r) :
    r.reviewId = reviewId ∧ r.proposal = proposal ∧ r.submittedBy = submittedBy ∧
      r.submittedAt = submittedAt ∧ r.status = status ∧ r.reviewedBy = reviewedBy ∧
      r.reviewedAt = reviewedAt ∧ r.reason = reason ∧ r.supersededAt = supersededAt := by
  unfold validate? at h
  split at h
  · obtain rfl := Option.some.inj h
    exact ⟨rfl, rfl, rfl, rfl, rfl, rfl, rfl, rfl, rfl⟩
  · cases h

theorem elim_eq_ok {α β ε : Type} {o : Option α} {e : ε} {f : α → β} {b : β}
    (h : o.elim (Except.error e) (fun a => Except.ok (f a)) = Except.ok b) :
    ∃ a, o = some a ∧ f a = b := by
  cases o with
  | none => cases h
  | some a => exact ⟨a, rfl, Except.ok.inj h⟩

theorem supersedeFinanceReview_spec {review r : FinanceReview} {now : Instant}
    (h : supersedeFinanceReview review now = .ok r) :
    review.SameRequest r ∧ r.status = .superseded := by
  unfold supersedeFinanceReview at h
  split at h
  · cases h
  · split at h
    · rename_i hs
      obtain rfl := Except.ok.inj h
      exact ⟨⟨rfl, rfl, rfl, rfl⟩, hs⟩
    · obtain ⟨a, ha, rfl⟩ := elim_eq_ok (f := id) h
      obtain ⟨h1, h2, h3, h4, h5, -⟩ := FinanceReview.validate?_spec ha
      exact ⟨⟨h1, h2, h3, h4⟩, h5⟩

theorem submitFinanceReview_spec {reviewId : String} {proposal : FinanceProposal}
    {actor : IdentitySnapshot} {now : Instant} {r : FinanceReview}
    (h : submitFinanceReview reviewId proposal actor now = .ok r) :
    r.reviewId = reviewId ∧ r.proposal = proposal ∧ r.submittedBy = actor ∧
      r.submittedAt = now ∧ r.status = .pending := by
  unfold submitFinanceReview at h
  obtain ⟨_, -, h⟩ := bind_eq_ok.mp h
  split at h
  · cases h
  · split at h
    · cases h
    · obtain ⟨a, ha, rfl⟩ := elim_eq_ok (f := id) h
      obtain ⟨h1, h2, h3, h4, h5, -⟩ := FinanceReview.validate?_spec ha
      exact ⟨h1, h2, h3, h4, h5⟩

/-- A resolution keeps the request and records the reviewer. -/
theorem resolveFinanceReview_spec {review r : FinanceReview} {proposal : FinanceProposal}
    {actor : IdentitySnapshot} {approved : Bool} {reason : Option String} {now : Instant}
    (h : resolveFinanceReview review proposal actor approved reason now = .ok r) :
    review.SameRequest r ∧ review.status = .pending ∧ review.proposal = proposal ∧
      r.status = (if approved then .approved else .rejected) ∧ r.reviewedBy = some actor := by
  unfold resolveFinanceReview at h
  obtain ⟨⟨_, _⟩, -, h⟩ := bind_eq_ok.mp h
  obtain ⟨_, -, h⟩ := bind_eq_ok.mp h
  obtain ⟨_, -, h⟩ := bind_eq_ok.mp h
  split at h
  · cases h
  split at h
  · cases h
  split at h
  · cases h
  rename_i hpending
  split at h
  · cases h
  rename_i hproposal
  split at h
  · cases h
  split at h
  · cases h
  obtain ⟨a, ha, rfl⟩ := elim_eq_ok (f := id) h
  obtain ⟨h1, h2, h3, h4, h5, h6, -⟩ := FinanceReview.validate?_spec ha
  exact ⟨⟨h1, h2, h3, h4⟩, not_not.mp hpending, not_not.mp hproposal, h5, h6⟩

end SupplyResponse
