/-
Submission and resolution of proposals (`services/finance/service.py`).

* `submitTransaction`, `resolveTransaction` — the one transaction of each
  command that may commit;
* `submit`, `resolve` — the commands: after contention, a second transaction
  replays the stored result or reports the conflict;
* `returns_submitTransaction`, `returns_resolveTransaction` — what a committed
  command did.
-/
import SupplyResponse.Persistence.Decisions

namespace SupplyResponse

open Transact Transact.Prog
open Keyed (keys)

variable (env : Env)

/-! ### Shared parts -/

/-- `require_alex`. -/
def requireAlex (actor : IdentitySnapshot) : Sql Unit :=
  require (env.actors.IsAlex actor)
    ⟨.financePermissionDenied, "Exact configured Finance workflow identity required"⟩

/-- `require_taylor`. -/
def requireTaylor (actor : IdentitySnapshot) : Sql Unit :=
  require (env.actors.IsTaylor actor)
    ⟨.financePermissionDenied, "Exact configured Finance workflow identity required"⟩

/-- `require_alex` for an optional selection. -/
def requireAlexSelection (selection : Option ProposalSelection) : Sql Unit :=
  require (∀ sel ∈ selection, env.actors.IsAlex sel.submittedBy)
    ⟨.financePermissionDenied, "Exact configured Finance workflow identity required"⟩

/-- `_now`: a server clock must be time-zone aware. -/
def awareNow (clock : ClockReading) (cls : ExceptionClass) : Sql Instant :=
  orRaise ⟨cls, "Server clock must be timezone-aware"⟩ clock

/-- `_CONTENTION` of `FinanceService`. -/
def ExceptionClass.isContention : ExceptionClass → Bool
  | integrityError | staleProposal | selectionIdempotencyConflict
  | financeReviewIdempotencyConflict | financeReviewRevisionConflict => true
  | _ => false

/-- A command with its contention handler: the first transaction, and on
contention a second one that is given the original exception. -/
def withRecovery {α : Type} (contention : ExceptionClass → Bool) (first : Sql (Exit α))
    (recovery : Raised → Sql (Exit α)) (s : Store) : Except Raised α × Store :=
  match first.transact s with
  | (.ok a, s') => (.ok a, s')
  | (.error e, s') => if contention e.cls then (recovery e).transact s' else (.error e, s')

section withRecovery

variable {α : Type} {contention : ExceptionClass → Bool} {first : Sql (Exit α)}
  {recovery : Raised → Sql (Exit α)} {s s' : Store}

theorem withRecovery_of_ok {a : α} (h : first.transact s = (.ok a, s')) :
    withRecovery contention first recovery s = (.ok a, s') := by
  unfold withRecovery
  rw [h]

theorem withRecovery_of_error {e : Raised} (h : first.transact s = (.error e, s))
    (hc : contention e.cls = false) :
    withRecovery contention first recovery s = (.error e, s) := by
  unfold withRecovery
  rw [h]
  exact if_neg (by rw [hc]; decide)

/-- A command that raises has left nothing behind. -/
theorem withRecovery_error {e : Raised}
    (h : withRecovery contention first recovery s = (.error e, s')) : s' = s := by
  unfold withRecovery at h
  rcases hf : first.transact s with ⟨e₁ | a, s₁⟩ <;> rw [hf] at h
  · obtain rfl := transact_error hf
    dsimp only at h
    split at h
    · exact transact_error h
    · cases h
      rfl
  · cases h

end withRecovery

structure SubmissionResult where
  selection : ProposalSelection
  review : Option FinanceReview
  reviewRevision : Option Nat

structure ResolutionResult where
  review : FinanceReview
  reviewRevision : Nat

/-! ### Submission -/

/-- `_submission_result`. -/
def submissionResult (selection : ProposalSelection) : Sql SubmissionResult :=
  match selection.financeReviewId with
  | none => pure { selection := selection, review := none, reviewRevision := none }
  | some reviewId => do
    let pending ← getRevision env reviewId 1
    pure { selection := selection, review := some pending, reviewRevision := some 1 }

/-- The result of a stored submission under the same fingerprint. -/
def replaySubmission (fingerprint : String) (stored : SelectionReceipt) :
    Sql SubmissionResult := do
  require (stored.requestFingerprint = fingerprint)
    ⟨.financeCommandConflict, "Key was already used for another submission"⟩
  requireAlex env stored.selection.submittedBy
  submissionResult env stored.selection

/-- `_submission_replay`, continued by `fresh` where nothing is stored. -/
def submissionReplay (key fingerprint : String) (fresh : Sql (Exit SubmissionResult)) :
    Sql (Exit SubmissionResult) := do
  let stored ← getReceiptByKey env key
  match stored with
  | some stored => Exit.rollback <$> replaySubmission env fingerprint stored
  | none => fresh

/-- An option of the analysis that can be proposed, with its evaluated cost. -/
def AnalysisVersion.executableMitigation? (analysis : AnalysisVersion) (optionId : String) :
    Option (ResponseOption × PredictedOutcome) := do
  let option ← analysis.option? optionId
  let material ← analysis.materialOption? optionId
  let predicted ← option.predicted
  if AnalysisResponseOptionMaterial.fromOption option = material ∧ option.executable = true ∧
      option.activeMitigation = true ∧ option.blockingCodes = [] then
    some (option, predicted)
  else none

/-- The part of `submit` that opens a Finance review for a high cost. -/
def openReview (selectionId fingerprint : String) (proposal : FinanceProposal)
    (actor : IdentitySnapshot) (now : Instant) : Option String → Sql Unit
  | none => pure ()
  | some reviewId => do
    let pending ← ofExcept (submitFinanceReview reviewId proposal actor now)
    let _ ← appendReview env pending none ("finance-pending:" ++ selectionId) fingerprint
    pure ()

/-- The part of `submit` after the checks: build, review, publish. -/
def publishProposal (command : SubmitProposalCommand) (actor : IdentitySnapshot)
    (key fingerprint : String) (case : CaseInstance) (analysis : AnalysisVersion)
    (option : ResponseOption) (cost : Money) (selectionUuid reviewUuid : String) (now : Instant) :
    Sql SubmissionResult := do
  let proposal ← orRaise (validationError "FinanceProposal")
    (FinanceProposal.validate? case.caseId analysis.analysisId analysis.materialHash
      option.optionId cost)
  let selectionId := "RL-SELECTION-" ++ selectionUuid
  let reviewId :=
    if RequiresFinanceApproval proposal.responseCost then some ("RL-FINANCE-" ++ reviewUuid)
    else none
  let selection ← orRaise (validationError "ProposalSelection")
    (ProposalSelection.validate? selectionId proposal case.effectiveWorkflowVersion actor now
      reviewId)
  openReview env selectionId fingerprint proposal actor now reviewId
  let receipt ← orRaise (validationError "SelectionReceipt")
    (SelectionReceipt.validate? selection command.expected key fingerprint)
  let published ← publish env receipt
  submissionResult env published

/-- The part of `submit` behind the replay check. -/
def submitFresh (command : SubmitProposalCommand) (actor : IdentitySnapshot)
    (key fingerprint selectionUuid reviewUuid : String) (clock : ClockReading) :
    Sql (Exit SubmissionResult) := do
  let state ← getState env command.caseId
  require (state.token = command.expected) (staleProposal "Case analysis or proposal changed")
  let projection ← getProjection env command.caseId
  let case := projection.case
  require (case.effectiveWorkflowVersion = .independentFinance)
    ⟨.financeRequestInvalid, "Independent Finance workflow is required"⟩
  let analysisId ← orRaise
    ⟨.financeRequestInvalid, "Submission requires an analyzed case"⟩ command.expected.analysisId
  let analysis ← getAnalysis env analysisId
  require (analysis.caseId = case.caseId ∧
      some analysis.materialHash = command.expected.analysisMaterialHash)
    (staleProposal "Analysis binding changed")
  let (option, predicted) ← orRaise
    ⟨.financeRequestInvalid, "Selected response is not executable mitigation"⟩
    (analysis.executableMitigation? command.optionId)
  requireAlexSelection env state.selection
  let now ← awareNow clock .financeRequestInvalid
  let result ← publishProposal env command actor key fingerprint case analysis option
    predicted.responseCost selectionUuid reviewUuid now
  pure (.commit result)

def submitKey (command : SubmitProposalCommand) : String :=
  "finance-submit:" ++ command.idempotencyKey

/-- `_fingerprint("submit", command, actor)`. -/
def submitFingerprint (command : SubmitProposalCommand) (actor : IdentitySnapshot) : String :=
  env.sha256 (.submission command (authorityMaterial actor))

/-- The first transaction of `submit`. -/
def submitTransaction (command : SubmitProposalCommand) (actor : IdentitySnapshot)
    (selectionUuid reviewUuid : String) (clock : ClockReading) : Sql (Exit SubmissionResult) := do
  requireAlex env actor
  let fingerprint := submitFingerprint env command actor
  submissionReplay env (submitKey command) fingerprint
    (submitFresh env command actor (submitKey command) fingerprint selectionUuid reviewUuid clock)

/-- The second transaction of `submit`, after contention. -/
def submitRecovery (command : SubmitProposalCommand) (actor : IdentitySnapshot)
    (original : Raised) : Sql (Exit SubmissionResult) :=
  submissionReplay env (submitKey command) (submitFingerprint env command actor) do
    let state ← getState env command.caseId
    require (state.token = command.expected)
      ⟨.financeCommandConflict, "Submission lost a current-proposal race"⟩
    .raise original

/-- `submit`. -/
def submit (command : SubmitProposalCommand) (actor : IdentitySnapshot)
    (selectionUuid reviewUuid : String) (clock : ClockReading) :
    Store → Except Raised SubmissionResult × Store :=
  withRecovery ExceptionClass.isContention
    (submitTransaction env command actor selectionUuid reviewUuid clock)
    (submitRecovery env command actor)

/-! ### Resolution -/

/-- The result of a stored resolution under the same fingerprint. -/
def replayResolution (fingerprint : String) (stored : FinanceReview × Nat × String) :
    Sql ResolutionResult := do
  let (review, revision, original) := stored
  require (original = fingerprint)
    ⟨.financeCommandConflict, "Key was already used for another review command"⟩
  requireAlex env review.submittedBy
  let reviewedBy ← orRaise (integrityError "Resolution receipt lacks reviewer") review.reviewedBy
  requireTaylor env reviewedBy
  pure { review := review, reviewRevision := revision }

/-- `_resolution_replay`, continued by `fresh` where nothing is stored. -/
def resolutionReplay (key fingerprint : String) (fresh : Sql (Exit ResolutionResult)) :
    Sql (Exit ResolutionResult) := do
  let stored ← getReviewByKey env key
  match stored with
  | some stored => Exit.rollback <$> replayResolution env fingerprint stored
  | none => fresh

def resolveKey (command : ResolveFinanceCommand) : String :=
  "finance-resolve:" ++ command.idempotencyKey

/-- `_fingerprint("resolve", command, actor)`. -/
def resolveFingerprint (command : ResolveFinanceCommand) (actor : IdentitySnapshot) : String :=
  env.sha256 (.resolution command (authorityMaterial actor))

/-- The part of `resolve` behind the replay check. -/
def resolveFresh (command : ResolveFinanceCommand) (actor : IdentitySnapshot)
    (key fingerprint : String) (clock : ClockReading) : Sql (Exit ResolutionResult) := do
  let (review, revision) ← getLatest env command.reviewId
  requireAlex env review.submittedBy
  let state ← getState env review.proposal.caseId
  let stale := staleProposal "Review is no longer the expected current request"
  let selection ← orRaise stale state.selection
  require (state.token = command.expected ∧ state.review = some review ∧
      review.reviewId = command.reviewId ∧ state.reviewRevision = some revision ∧
      revision = command.expectedReviewRevision) stale
  let now ← awareNow clock .financeRequestInvalid
  let resolved ← ofExcept
    (resolveFinanceReview review selection.proposal actor command.approved command.reason now)
  let _ ← guardCurrent env review.proposal.caseId command.expected
  let (resolved, revision) ←
    appendReview env resolved (some command.expectedReviewRevision) key fingerprint
  pure (.commit { review := resolved, reviewRevision := revision })

/-- The first transaction of `resolve`. -/
def resolveTransaction (command : ResolveFinanceCommand) (actor : IdentitySnapshot)
    (clock : ClockReading) : Sql (Exit ResolutionResult) := do
  requireTaylor env actor
  let fingerprint := resolveFingerprint env command actor
  resolutionReplay env (resolveKey command) fingerprint
    (resolveFresh env command actor (resolveKey command) fingerprint clock)

/-- The second transaction of `resolve`, after contention. -/
def resolveRecovery (command : ResolveFinanceCommand) (actor : IdentitySnapshot)
    (original : Raised) : Sql (Exit ResolutionResult) :=
  resolutionReplay env (resolveKey command) (resolveFingerprint env command actor) do
    let (review, revision) ← getLatest env command.reviewId
    let state ← getState env review.proposal.caseId
    require (state.token = command.expected ∧ revision = command.expectedReviewRevision)
      ⟨.financeCommandConflict, "Review lost a current-proposal race"⟩
    .raise original

/-- `resolve`. -/
def resolve (command : ResolveFinanceCommand) (actor : IdentitySnapshot) (clock : ClockReading) :
    Store → Except Raised ResolutionResult × Store :=
  withRecovery ExceptionClass.isContention (resolveTransaction env command actor clock)
    (resolveRecovery env command actor)

/-! ### What the commands did -/

/-- The first revision of the review of a new selection: nothing for a low
cost, a pending row otherwise, unless the review is already stored. -/
def OpensReview (s : Store) (proposal : FinanceProposal) : Option String → Store → Prop
  | none, s' => s' = s
  | some reviewId, s' =>
    (s' = s ∧ ∃ row ∈ s.reviews, row.review.reviewId = reviewId ∧ row.review.proposal = proposal) ∨
      ∃ row, Appends s row ∧ row.review.reviewId = reviewId ∧ row.review.proposal = proposal ∧
        row.review.status = .pending ∧ s' = { s with reviews := s.reviews.add row }

theorem returns_openReview {selectionId fingerprint : String} {proposal : FinanceProposal}
    {actor : IdentitySnapshot} {now : Instant} {reviewId : Option String} {s s' : Store} {u : Unit}
    (h : (openReview env selectionId fingerprint proposal actor now reviewId).Returns s u s') :
    OpensReview s proposal reviewId s' := by
  cases reviewId with
  | none => exact (returns_done.mp h).2
  | some reviewId =>
    rw [openReview, returns_ofExcept_bind] at h
    obtain ⟨pending, hpending, h⟩ := h
    obtain ⟨hid, hproposal, -, -, hstatus⟩ := submitFinanceReview_spec hpending
    obtain ⟨p, s₁, happ, h⟩ := returns_bind.mp h
    obtain ⟨-, rfl⟩ := returns_done.mp h
    rcases returns_appendReview env happ with ⟨rfl, row, hrow, rfl⟩ | ⟨-, -, row, ha, hr, -, rfl⟩
    · exact .inl ⟨rfl, row, Table.mem_of_get? hrow, hid, hproposal⟩
    · exact .inr ⟨row, ha, hr ▸ hid, hr ▸ hproposal, hr ▸ hstatus, rfl⟩

theorem ProposalSelection.validate?_spec {selectionId : String} {proposal : FinanceProposal}
    {workflowVersion : WorkflowVersion} {submittedBy : IdentitySnapshot} {submittedAt : Instant}
    {financeReviewId : Option String} {selection : ProposalSelection}
    (h : validate? selectionId proposal workflowVersion submittedBy submittedAt financeReviewId =
      some selection) :
    selection.selectionId = selectionId ∧ selection.proposal = proposal ∧
      selection.submittedBy = submittedBy ∧ selection.financeReviewId = financeReviewId := by
  unfold validate? at h
  split at h
  · obtain rfl := Option.some.inj h
    exact ⟨rfl, rfl, rfl, rfl⟩
  · cases h

theorem SelectionReceipt.validate?_spec {selection : ProposalSelection} {expected : ProposalToken}
    {idempotencyKey requestFingerprint : String} {receipt : SelectionReceipt}
    (h : validate? selection expected idempotencyKey requestFingerprint = some receipt) :
    receipt.selection = selection ∧ receipt.expected = expected ∧
      receipt.idempotencyKey = idempotencyKey ∧
      receipt.requestFingerprint = requestFingerprint := by
  unfold validate? at h
  split at h
  · obtain rfl := Option.some.inj h
    exact ⟨rfl, rfl, rfl, rfl⟩
  · cases h

/-- A committed submission: Alex's new receipt is published, after the review
it needs was opened. -/
structure Submits (s : Store) (command : SubmitProposalCommand) (receipt : SelectionReceipt)
    (s' : Store) : Prop where
  alex : env.actors.IsAlex receipt.selection.submittedBy
  expected : receipt.expected = command.expected
  published : ∃ s₁, OpensReview s receipt.selection.proposal receipt.selection.financeReviewId s₁ ∧
    Publishes s₁ receipt s'

theorem OpensReview.selections_eq {s s' : Store} {proposal : FinanceProposal}
    {reviewId : Option String} (h : OpensReview s proposal reviewId s') :
    s'.selections = s.selections := by
  cases reviewId with
  | none =>
    obtain rfl : s' = s := h
    rfl
  | some id =>
    rcases h with ⟨rfl, -⟩ | ⟨row, -, -, -, -, rfl⟩
    · rfl
    · rfl

theorem OpensReview.projections_eq {s s' : Store} {proposal : FinanceProposal}
    {reviewId : Option String} (h : OpensReview s proposal reviewId s') :
    s'.projections = s.projections := by
  cases reviewId with
  | none =>
    obtain rfl : s' = s := h
    rfl
  | some id =>
    rcases h with ⟨rfl, -⟩ | ⟨row, -, -, -, -, rfl⟩
    · rfl
    · rfl

theorem returns_publishProposal {command : SubmitProposalCommand} {actor : IdentitySnapshot}
    {key fingerprint : String} {case : CaseInstance} {analysis : AnalysisVersion}
    {option : ResponseOption} {cost : Money} {selectionUuid reviewUuid : String} {now : Instant}
    {s s' : Store} {result : SubmissionResult} (halex : env.actors.IsAlex actor)
    (hkey : s.selections.get? (.selectionKey key) = none)
    (h : (publishProposal env command actor key fingerprint case analysis option cost
      selectionUuid reviewUuid now).Returns s result s') :
    ∃ receipt, Submits env s command receipt s' := by
  rw [publishProposal, returns_orRaise_bind] at h
  obtain ⟨proposal, -, h⟩ := h
  rw [returns_orRaise_bind] at h
  obtain ⟨selection, hselection, h⟩ := h
  obtain ⟨-, hproposal, hsubmitter, hreview⟩ := ProposalSelection.validate?_spec hselection
  obtain ⟨_, s₁, hopen, h⟩ := returns_bind.mp h
  rw [returns_orRaise_bind] at h
  obtain ⟨receipt, hreceipt, h⟩ := h
  obtain ⟨hsel, hexpected, hrkey, -⟩ := SelectionReceipt.validate?_spec hreceipt
  obtain ⟨published, s₂, hpublish, h⟩ := returns_bind.mp h
  obtain rfl : s' = s₂ := by
    unfold submissionResult at h
    split at h
    · exact (returns_done.mp h).2
    · obtain ⟨_, -, h⟩ := (readOnly_getRevision env _ 1).returns_bind.mp h
      exact (returns_done.mp h).2
  have hopens := returns_openReview env hopen
  rw [← hreview, ← hproposal, ← hsel] at hopens
  refine ⟨receipt, by rw [hsel, hsubmitter]; exact halex, hexpected, s₁, hopens, ?_⟩
  rcases returns_publish env hpublish with ⟨-, ⟨-, hstored⟩ | hpub⟩
  · -- the key was not stored when the command began, and no selection was added since
    rw [hopens.selections_eq, hrkey, hkey] at hstored
    cases hstored
  · exact hpub

theorem returns_submitTransaction {command : SubmitProposalCommand} {actor : IdentitySnapshot}
    {selectionUuid reviewUuid : String} {clock : ClockReading} {s s' : Store}
    {result : SubmissionResult}
    (h : (submitTransaction env command actor selectionUuid reviewUuid clock).Commits s result s') :
    ∃ receipt, Submits env s command receipt s' := by
  unfold Commits at h
  simp only [submitTransaction, requireAlex, returns_require_bind] at h
  obtain ⟨halex, h⟩ := h
  obtain ⟨stored, hstored, h⟩ := (readOnly_getReceiptByKey env _).returns_bind.mp h
  obtain ⟨-, rfl⟩ := returns_getReceiptByKey env hstored
  rcases hkey : s.selections.get? (.selectionKey (submitKey command)) with _ | receipt <;>
    simp only [hkey] at h
  · obtain ⟨st, -, h⟩ := (readOnly_getState env _).returns_bind.mp h
    obtain ⟨-, h⟩ := returns_require_bind.mp h
    obtain ⟨p, -, h⟩ := (readOnly_getProjection env _).returns_bind.mp h
    obtain ⟨-, h⟩ := returns_require_bind.mp h
    obtain ⟨analysisId, -, h⟩ := returns_orRaise_bind.mp h
    obtain ⟨analysis, -, h⟩ := (readOnly_getAnalysis env _).returns_bind.mp h
    obtain ⟨-, h⟩ := returns_require_bind.mp h
    obtain ⟨⟨option, predicted⟩, -, h⟩ := returns_orRaise_bind.mp h
    obtain ⟨-, h⟩ := returns_require_bind.mp h
    obtain ⟨now, -, h⟩ := returns_orRaise_bind.mp h
    obtain ⟨result', s₁, hpub, h⟩ := returns_bind.mp h
    obtain ⟨-, rfl⟩ := returns_done.mp h
    exact returns_publishProposal env halex hkey hpub
  · -- a replay rolls back
    obtain ⟨_, -, heq⟩ := returns_map.mp h
    cases heq

/-- A committed resolution: the current pending review of the case gets its
next revision, by Taylor, under the next generation. -/
structure Resolves (s : Store) (command : ResolveFinanceCommand) (caseId : String)
    (row : FinanceReviewRow) (s' : Store) : Prop where
  ready : ∃ st review, ReadyState s caseId command.expected st ∧ st.review = some review ∧
    review.status = .pending ∧ review.SameRequest row.review
  taylor : ∃ reviewer, row.review.reviewedBy = some reviewer ∧ env.actors.IsTaylor reviewer
  live : row.review.status ≠ .superseded
  appends : Appends s row
  effect : s' = { s.cas caseId command.expected
      { currentSelectionId := some command.expected.selectionId } with
    reviews := s.reviews.add row }

theorem Appends.of_cas {s : Store} {caseId : String} {expected : ProposalToken}
    {values : CasValues} {row : FinanceReviewRow} (h : Appends (s.cas caseId expected values) row) :
    Appends s row :=
  ⟨h.free, h.revision, h.first, h.next⟩

theorem returns_resolveTransaction {command : ResolveFinanceCommand} {actor : IdentitySnapshot}
    {clock : ClockReading} {s s' : Store} {result : ResolutionResult}
    (h : (resolveTransaction env command actor clock).Commits s result s') :
    ∃ caseId row, Resolves env s command caseId row s' := by
  unfold Commits at h
  simp only [resolveTransaction, requireTaylor, returns_require_bind] at h
  obtain ⟨htaylor, h⟩ := h
  obtain ⟨stored, hstored, h⟩ := (readOnly_getReviewByKey env _).returns_bind.mp h
  obtain ⟨-, rfl⟩ := returns_getReviewByKey env hstored
  rcases hkey : s.reviews.get? (.reviewKey (resolveKey command)) with _ | stored <;>
    simp only [hkey, Option.map_none, Option.map_some] at h
  · obtain ⟨⟨review, revision⟩, hlatest, h⟩ := (readOnly_getLatest env _).returns_bind.mp h
    obtain ⟨-, h⟩ := returns_require_bind.mp h
    obtain ⟨st, hst, h⟩ := (readOnly_getState env _).returns_bind.mp h
    obtain ⟨selection, -, h⟩ := returns_orRaise_bind.mp h
    obtain ⟨⟨htoken, hreview, -, -, -⟩, h⟩ := returns_require_bind.mp h
    obtain ⟨now, -, h⟩ := returns_orRaise_bind.mp h
    rw [returns_ofExcept_bind] at h
    obtain ⟨resolved, hresolved, h⟩ := h
    obtain ⟨hsame, hpending, -, hstatus, hby⟩ := resolveFinanceReview_spec hresolved
    obtain ⟨token, s₁, hguard, h⟩ := returns_bind.mp h
    obtain ⟨-, ⟨st', hready⟩, rfl⟩ := returns_guardCurrent env hguard
    obtain ⟨⟨r, n⟩, s₂, happ, h⟩ := returns_bind.mp h
    obtain ⟨-, rfl⟩ := returns_done.mp h
    rcases returns_appendReview env happ with ⟨-, row, hrow, -⟩ | ⟨-, -, row, ha, hr, -, rfl⟩
    · rw [show (s.cas _ _ _).reviews = s.reviews from rfl, hkey] at hrow
      cases hrow
    · refine ⟨review.proposal.caseId, row, ⟨st, review, ?_, hreview, hpending, hr ▸ hsame⟩,
        ⟨actor, hr ▸ hby, htaylor⟩, ?_, ha.of_cas, rfl⟩
      · exact ⟨(returns_getState env hst).2, htoken, hready.independent⟩
      · rw [hr, hstatus]
        split <;> decide
  · obtain ⟨_, -, heq⟩ := returns_map.mp h
    cases heq

end SupplyResponse
