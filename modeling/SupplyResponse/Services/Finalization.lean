/-
Finalization of independent proposals (`services/finance/decisions.py`).

* `evidenceOf` — `_evidence`, what an approval is bound to;
* `finalizeTransaction`, `finalize` — the command and its contention handler;
* `Finalizes`, `returns_finalizeTransaction` — what a committed finalization
  did.
-/
import SupplyResponse.Services.Decisions

namespace SupplyResponse

open Transact Transact.Prog
open Keyed (keys)

variable (env : Env)

/-! ### Evidence -/

/-- The part of `_evidence` above the threshold: the current review, approved
by Taylor. -/
def approvedReview (state : ProposalState) : Sql (FinanceReview × Nat) := do
  let lacks : Raised :=
    ⟨.financeFinalizationInvalid, "Current proposal lacks Finance approval"⟩
  let review ← orRaise lacks state.review
  let revision ← orRaise lacks state.reviewRevision
  require (review.status = .approved) lacks
  let reviewedBy ← orRaise lacks review.reviewedBy
  requireTaylor env reviewedBy
  pure (review, revision)

/-- `_evidence`. -/
def evidenceOf (state : ProposalState) : Sql ProposalApprovalEvidence := do
  let selection ← orRaise
    ⟨.financeFinalizationInvalid, "Approval requires current selection"⟩ state.selection
  requireAlex env selection.submittedBy
  if RequiresFinanceApproval selection.proposal.responseCost then do
    let (review, revision) ← approvedReview env state
    orRaise (validationError "ProposalApprovalEvidence")
      (ProposalApprovalEvidence.validate? selection (some review) (some revision))
  else
    orRaise (validationError "ProposalApprovalEvidence")
      (ProposalApprovalEvidence.validate? selection none none)

/-- An approval of the selection. -/
def Decision.Approves (selectionId : String) (decision : Decision) : Prop :=
  decision.kind = .approved ∧
    ∃ evidence ∈ decision.proposalApproval, evidence.selection.selectionId = selectionId

instance (selectionId : String) : DecidablePred (Decision.Approves selectionId) :=
  fun _ => inferInstanceAs (Decidable (_ ∧ _))

/-- `_already_approved`. -/
def alreadyApproved (caseId selectionId : String) : Sql Bool := do
  let decisions ← listForCase env caseId
  pure (decide (∃ decision ∈ decisions, decision.Approves selectionId))

/-- The evidence and the option of an approval. -/
def approvalEvidence (caseId : String) (state : ProposalState) :
    Sql (Option ProposalApprovalEvidence) := do
  let evidence ← evidenceOf env state
  let already ← alreadyApproved env caseId evidence.selection.selectionId
  require (already = false)
    ⟨.financeFinalizationConflict, "Current proposal selection was already finalized"⟩
  pure (some evidence)

/-- A rejection must not withdraw a selection that is being executed. -/
def rejectionEvidence (caseId : String) (state : ProposalState) :
    Sql (Option ProposalApprovalEvidence) :=
  match state.selection with
  | none => pure none
  | some selection => do
    let already ← alreadyApproved env caseId selection.selectionId
    require (already = false)
      ⟨.financeFinalizationConflict, "Finalized selection belongs to active execution"⟩
    pure none

/-- The evidence of a command of either kind. -/
def finalizationEvidence (kind : DecisionKind) (caseId : String) (state : ProposalState) :
    Sql (Option ProposalApprovalEvidence) :=
  match kind with
  | .approved => approvalEvidence env caseId state
  | .rejected => rejectionEvidence env caseId state

/-! ### Finalization -/

/-- `_return_existing` of `FinanceDecisionService`. -/
def returnFinalized (fingerprint : String) (existing : Decision) : Sql Decision := do
  require (existing.requestFingerprint = fingerprint)
    ⟨.financeFinalizationConflict, "Key was used for another finalization"⟩
  requireAlex env existing.actor
  requireAlexSelection env (existing.proposalApproval.map ProposalApprovalEvidence.selection)
  pure existing

/-- The move of the token: a guard for an approval, the withdrawal of the
selection for a rejection. -/
def moveProposal (kind : DecisionKind) (caseId : String) (expected : ProposalToken) (now : Instant)
    (decisionId : String) : Sql ProposalToken :=
  match kind with
  | .approved => guardCurrent env caseId expected
  | .rejected => withdrawCurrent env caseId expected now decisionId

/-- The part of `_once` behind the replay check. -/
def finalizeFresh (command : FinalizeProposalCommand) (actor : IdentitySnapshot)
    (key fingerprint decisionUuid eventUuid : String) (clock : ClockReading) :
    Sql (Exit Decision) := do
  let state ← getState env command.caseId
  require (state.token = command.expected) (staleProposal "Case analysis or proposal changed")
  requireAlexSelection env state.selection
  let projection ← getProjection env command.caseId
  let case := projection.case
  require (case.effectiveWorkflowVersion = .independentFinance)
    ⟨.financeFinalizationInvalid, "Independent Finance workflow is required"⟩
  let analysisId ← orRaise ⟨.financeFinalizationInvalid, "Current analysis is required"⟩
    command.expected.analysisId
  let analysis ← getAnalysis env analysisId
  require (analysis.caseId = command.caseId ∧
      some analysis.materialHash = command.expected.analysisMaterialHash)
    (staleProposal "Analysis binding changed")
  let evidence ← finalizationEvidence env command.kind command.caseId state
  let record ← orRaise (validationError "RecordDecisionCommand")
    (RecordDecisionCommand.validate? command.caseId analysis.analysisId
      (evidence.map fun e => e.selection.proposal.optionId) command.kind key
      command.rejectionReason)
  let satisfactions ← ofExcept
    (authorizeIndependentAndMaterialize record actor case projection.currentAnalysisId
      projection.currentAnalysisHash analysis evidence)
  let decidedAt ← awareNow clock .financeFinalizationInvalid
  let decision ← orRaise (validationError "Decision")
    (Decision.fromCommand record actor analysis satisfactions ("RL-DECISION-" ++ decisionUuid)
      fingerprint decidedAt evidence).validate?
  let _ ← moveProposal env command.kind command.caseId command.expected decidedAt
    decision.decisionId
  storeDecision env decision satisfactions eventUuid
  pure (.commit decision)

def finalizeKey (command : FinalizeProposalCommand) : String :=
  "finance-finalize:" ++ command.idempotencyKey

/-- `finalization_fingerprint`. -/
def finalizationFingerprint (command : FinalizeProposalCommand) (actor : IdentitySnapshot) :
    String :=
  env.sha256 (.finalization command (authorityMaterial actor))

/-- `_once`, with the check of `finalize` on the actor. -/
def finalizeTransaction (command : FinalizeProposalCommand) (actor : IdentitySnapshot)
    (decisionUuid eventUuid : String) (clock : ClockReading) : Sql (Exit Decision) := do
  requireAlex env actor
  let fingerprint := finalizationFingerprint env command actor
  let existing ← getDecisionByKey env (finalizeKey command)
  match existing with
  | some existing => Exit.rollback <$> returnFinalized env fingerprint existing
  | none =>
    finalizeFresh env command actor (finalizeKey command) fingerprint decisionUuid eventUuid clock

/-- The handler of `finalize`. -/
def finalizeRecovery (command : FinalizeProposalCommand) (actor : IdentitySnapshot)
    (original : Raised) : Sql (Exit Decision) := do
  requireAlex env actor
  let existing ← getDecisionByKey env (finalizeKey command)
  match existing with
  | some existing =>
    Exit.rollback <$> returnFinalized env (finalizationFingerprint env command actor) existing
  | none => do
    let state ← getState env command.caseId
    require (state.token = command.expected)
      ⟨.financeFinalizationConflict, "Finalization lost a current-state race"⟩
    .raise original

/-- `FINALIZATION_CONTENTION`. -/
def ExceptionClass.isFinalizationContention : ExceptionClass → Bool
  | integrityError | staleProposal | financeReviewIdempotencyConflict
  | financeReviewRevisionConflict => true
  | _ => false

/-- `finalize`. -/
def finalize (command : FinalizeProposalCommand) (actor : IdentitySnapshot)
    (decisionUuid eventUuid : String) (clock : ClockReading) :
    Store → Except Raised Decision × Store :=
  withRecovery ExceptionClass.isFinalizationContention
    (finalizeTransaction env command actor decisionUuid eventUuid clock)
    (finalizeRecovery env command actor)

/-! ### What a finalization did -/

/-- What an approval is bound to, read off the current state of the proposal. -/
structure EvidenceOf (st : ProposalState) (evidence : ProposalApprovalEvidence) : Prop where
  selection : st.selection = some evidence.selection
  alex : env.actors.IsAlex evidence.selection.submittedBy
  high : RequiresFinanceApproval evidence.selection.proposal.responseCost →
    ∃ review reviewer, evidence.review = some review ∧ st.review = some review ∧
      evidence.reviewRevision = st.reviewRevision ∧ review.status = .approved ∧
      review.reviewedBy = some reviewer ∧ env.actors.IsTaylor reviewer
  low : ¬RequiresFinanceApproval evidence.selection.proposal.responseCost → evidence.review = none

theorem ProposalApprovalEvidence.validate?_spec {selection : ProposalSelection}
    {review : Option FinanceReview} {reviewRevision : Option Nat}
    {evidence : ProposalApprovalEvidence}
    (h : validate? selection review reviewRevision = some evidence) :
    evidence.selection = selection ∧ evidence.review = review ∧
      evidence.reviewRevision = reviewRevision := by
  unfold validate? at h
  split at h
  · obtain rfl := Option.some.inj h
    exact ⟨rfl, rfl, rfl⟩
  · cases h

theorem readOnly_approvedReview (state : ProposalState) : (approvedReview env state).ReadOnly :=
  (readOnly_orRaise _ _).bind fun _ => (readOnly_orRaise _ _).bind fun _ =>
    (readOnly_require _ _).bind fun _ => (readOnly_orRaise _ _).bind fun _ =>
      (readOnly_require _ _).bind fun _ => readOnly_done _

theorem readOnly_evidenceOf (state : ProposalState) : (evidenceOf env state).ReadOnly :=
  (readOnly_orRaise _ _).bind fun _ => (readOnly_require _ _).bind fun _ =>
    ((readOnly_approvedReview env state).bind fun _ => readOnly_orRaise _ _).ite
      (readOnly_orRaise _ _)

theorem readOnly_alreadyApproved (caseId selectionId : String) :
    (alreadyApproved env caseId selectionId).ReadOnly :=
  (readOnly_listForCase env caseId).bind fun _ => readOnly_done _

theorem readOnly_finalizationEvidence (kind : DecisionKind) (caseId : String)
    (state : ProposalState) : (finalizationEvidence env kind caseId state).ReadOnly := by
  cases kind with
  | approved =>
    exact (readOnly_evidenceOf env state).bind fun _ =>
      (readOnly_alreadyApproved env _ _).bind fun _ => (readOnly_require _ _).bind fun _ =>
        readOnly_done _
  | rejected =>
    unfold finalizationEvidence rejectionEvidence
    cases state.selection with
    | none => exact readOnly_done _
    | some selection =>
      exact (readOnly_alreadyApproved env _ _).bind fun _ => (readOnly_require _ _).bind fun _ =>
        readOnly_done _

theorem returns_evidenceOf {st : ProposalState} {s s' : Store}
    {evidence : ProposalApprovalEvidence} (h : (evidenceOf env st).Returns s evidence s') :
    EvidenceOf env st evidence := by
  rw [evidenceOf, returns_orRaise_bind] at h
  obtain ⟨selection, hsel, h⟩ := h
  obtain ⟨halex, h⟩ := returns_require_bind.mp h
  obtain ⟨hcost, h⟩ | ⟨hcost, h⟩ := returns_ite.mp h
  · obtain ⟨⟨review, revision⟩, happ, h⟩ := (readOnly_approvedReview env st).returns_bind.mp h
    simp only [approvedReview, requireTaylor, returns_orRaise_bind, returns_require_bind] at happ
    obtain ⟨r, hr, n, hn, hstatus, reviewer, hby, htaylor, happ⟩ := happ
    obtain ⟨heq, -⟩ := returns_done.mp happ
    obtain ⟨rfl, rfl⟩ : review = r ∧ revision = n := Prod.mk.inj heq
    obtain ⟨rfl, hrev, hrevn⟩ :=
      ProposalApprovalEvidence.validate?_spec (returns_orRaise.mp h).1
    exact ⟨hsel, halex, fun _ => ⟨review, reviewer, hrev, hr, hrevn.trans hn.symm, hstatus, hby,
      htaylor⟩, fun hlow => absurd hcost hlow⟩
  · obtain ⟨rfl, hrev, -⟩ := ProposalApprovalEvidence.validate?_spec (returns_orRaise.mp h).1
    exact ⟨hsel, halex, fun hhigh => absurd hhigh hcost, fun _ => hrev⟩

/-- The Decision of a finalization, in the state of the proposal it was made on. -/
structure DecidesOn (s : Store) (command : FinalizeProposalCommand) (st : ProposalState)
    (decision : Decision) : Prop where
  ready : ReadyState s command.caseId command.expected st
  caseId : decision.caseId = command.caseId
  kind : decision.kind = command.kind
  actor : env.actors.IsAlex decision.actor
  analysisId : command.expected.analysisId = some decision.analysisId
  analysisHash : command.expected.analysisMaterialHash = some decision.analysisMaterialHash
  approval : decision.kind = .approved → ∃ evidence, decision.proposalApproval = some evidence ∧
    EvidenceOf env st evidence ∧
    ∀ d ∈ s.decisions, d.caseId = command.caseId → ¬d.Approves evidence.selection.selectionId

/-- A committed finalization: the token moved, then the Decision was stored. -/
structure Finalizes (s : Store) (command : FinalizeProposalCommand) (decision : Decision)
    (s' : Store) : Prop where
  decides : ∃ st, DecidesOn env s command st decision
  rejected : decision.kind = .rejected → ∃ st s₁, ReadyState s command.caseId command.expected st ∧
    SupersedesState (s.cas command.caseId command.expected { currentSelectionId := some none })
      st s₁ ∧ StoresDecision s₁ decision s'
  approved : decision.kind = .approved →
    StoresDecision
      (s.cas command.caseId command.expected
        { currentSelectionId := some command.expected.selectionId })
      decision s'
  journals : ∃ s₁, Journals env s₁ decision s' ∧ s₁.decisions = s.decisions ∧
    s₁.satisfactions = s.satisfactions ∧ s₁.outbox = s.outbox

/-- The Decision of a finalization was not stored before. -/
theorem Finalizes.free {s s' : Store} {command : FinalizeProposalCommand} {decision : Decision}
    (h : Finalizes env s command decision s') : s.decisions.Free decision := by
  obtain ⟨s₁, hj, hdecisions, -⟩ := h.journals
  exact hdecisions ▸ hj.stores.free

theorem returns_alreadyApproved {caseId selectionId : String} {s s' : Store} {b : Bool}
    (h : (alreadyApproved env caseId selectionId).Returns s b s') :
    b = decide (∃ d ∈ decisionsOf s caseId, d.Approves selectionId) := by
  obtain ⟨l, hl, h⟩ := (readOnly_listForCase env caseId).returns_bind.mp h
  obtain ⟨-, rfl⟩ := returns_listForCase env hl
  exact (returns_done.mp h).1

theorem returns_approvalEvidence {caseId : String} {st : ProposalState} {s s' : Store}
    {o : Option ProposalApprovalEvidence} (h : (approvalEvidence env caseId st).Returns s o s') :
    ∃ evidence, o = some evidence ∧ EvidenceOf env st evidence ∧
      ∀ d ∈ s.decisions, d.caseId = caseId → ¬d.Approves evidence.selection.selectionId := by
  obtain ⟨evidence, hev, h⟩ := (readOnly_evidenceOf env st).returns_bind.mp h
  obtain ⟨already, ha, h⟩ := (readOnly_alreadyApproved env _ _).returns_bind.mp h
  obtain rfl := returns_alreadyApproved env ha
  obtain ⟨hnone, h⟩ := returns_require_bind.mp h
  obtain ⟨rfl, -⟩ := returns_done.mp h
  refine ⟨evidence, rfl, returns_evidenceOf env hev, fun d hd hc hd' => ?_⟩
  exact (of_decide_eq_false hnone) ⟨d, mem_decisionsOf.mpr ⟨hd, hc⟩, hd'⟩

theorem RecordDecisionCommand.validate?_spec {caseId analysisId : String}
    {selectedOptionId : Option String} {kind : DecisionKind} {idempotencyKey : String}
    {rejectionReason : Option String} {record : RecordDecisionCommand}
    (h : validate? caseId analysisId selectedOptionId kind idempotencyKey rejectionReason =
      some record) :
    record.caseId = caseId ∧ record.analysisId = analysisId ∧ record.kind = kind ∧
      record.idempotencyKey = idempotencyKey := by
  unfold validate? at h
  split at h
  · obtain rfl := Option.some.inj h
    exact ⟨rfl, rfl, rfl, rfl⟩
  · cases h

theorem returns_finalizeTransaction {command : FinalizeProposalCommand}
    {actor : IdentitySnapshot} {decisionUuid eventUuid : String} {clock : ClockReading}
    {s s' : Store} {decision : Decision}
    (h : (finalizeTransaction env command actor decisionUuid eventUuid clock).Commits s decision
      s') : Finalizes env s command decision s' := by
  unfold Commits at h
  simp only [finalizeTransaction, requireAlex, returns_require_bind] at h
  obtain ⟨halex, h⟩ := h
  obtain ⟨existing, hexisting, h⟩ := (readOnly_getDecisionByKey env _).returns_bind.mp h
  obtain ⟨-, rfl⟩ := returns_getDecisionByKey env hexisting
  rcases hkey : s.decisions.get? (.decisionKey (finalizeKey command)) with _ | stored <;>
    simp only [hkey] at h
  · obtain ⟨st, hst, h⟩ := (readOnly_getState env _).returns_bind.mp h
    have hstate := (returns_getState env hst).2
    obtain ⟨htoken, h⟩ := returns_require_bind.mp h
    obtain ⟨-, h⟩ := returns_require_bind.mp h
    obtain ⟨p, hp, h⟩ := (readOnly_getProjection env _).returns_bind.mp h
    obtain ⟨-, row, stored, -, hcase, -, hprov, hc, -⟩ := returns_getProjection env hp
    obtain ⟨hworkflow, h⟩ := returns_require_bind.mp h
    obtain ⟨analysisId, hid, h⟩ := returns_orRaise_bind.mp h
    obtain ⟨analysis, hanalysis, h⟩ := (readOnly_getAnalysis env _).returns_bind.mp h
    obtain ⟨-, hget, -⟩ := returns_getAnalysis env hanalysis
    obtain ⟨⟨-, hhash⟩, h⟩ := returns_require_bind.mp h
    obtain ⟨evidence, hevidence, h⟩ := (readOnly_finalizationEvidence env _ _ _).returns_bind.mp h
    rw [returns_orRaise_bind] at h
    obtain ⟨record, hrecord, h⟩ := h
    obtain ⟨hrc, hra, hrk, -⟩ := RecordDecisionCommand.validate?_spec hrecord
    rw [returns_ofExcept_bind] at h
    obtain ⟨satisfactions, -, h⟩ := h
    obtain ⟨decidedAt, -, h⟩ := returns_orRaise_bind.mp h
    rw [returns_orRaise_bind] at h
    obtain ⟨d, hd, h⟩ := h
    have hfields := DecisionRecord.validate?_spec hd
    obtain ⟨token, s₁, hmove, h⟩ := returns_bind.mp h
    obtain ⟨_, s₂, hstore, h⟩ := returns_bind.mp h
    obtain ⟨heq, rfl⟩ := returns_done.mp h
    obtain rfl : decision = d := by injection heq
    have hkind : decision.kind = command.kind := by rw [hfields]; exact hrk
    have hstores := returns_storeDecision env hstore
    have hjournals := returns_storeDecision_journals env (by rw [hfields]; rfl) hstore
    have hdecides : DecidesOn env s command st decision := by
      refine ⟨⟨hstate, htoken, stored, hcase, ?_⟩, ?_, hkind, ?_, ?_, ?_, fun ha => ?_⟩
      · rw [← hprov.2.2.2.2.2.2.2, ← hc]
        exact hworkflow
      · rw [hfields]
        exact hrc
      · rw [hfields]
        exact halex
      · rw [hfields, hid]
        exact congrArg some (by rw [← analysisId_of_get? hget]; exact hra.symm)
      · rw [hfields, ← hhash]
        rfl
      · rw [hkind] at ha
        rw [ha] at hevidence
        obtain ⟨e, rfl, he⟩ := returns_approvalEvidence env hevidence
        exact ⟨e, by rw [hfields]; rfl, he⟩
    rw [← hkind] at hmove
    refine ⟨⟨st, hdecides⟩, fun hr => ?_, fun ha => ?_, s₁, hjournals, ?_⟩
    · rw [hr] at hmove
      obtain ⟨st', hready, hsup⟩ := returns_withdrawCurrent env hmove
      exact ⟨st', s₁, hready, hsup, hstores⟩
    · rw [ha] at hmove
      obtain ⟨-, -, rfl⟩ := returns_guardCurrent env hmove
      exact hstores
    · rcases hk : decision.kind <;> rw [hk] at hmove
      · obtain ⟨-, -, rfl⟩ := returns_guardCurrent env hmove
        exact ⟨rfl, rfl, rfl⟩
      · obtain ⟨st', -, hsup⟩ := returns_withdrawCurrent env hmove
        exact hsup.frame
  · obtain ⟨_, -, heq⟩ := returns_map.mp h
    cases heq

/-- A committed Decision carries the key and the fingerprint of its command. -/
theorem finalizeTransaction_request {command : FinalizeProposalCommand}
    {actor : IdentitySnapshot} {decisionUuid eventUuid : String} {clock : ClockReading}
    {s s' : Store} {decision : Decision}
    (h : (finalizeTransaction env command actor decisionUuid eventUuid clock).Commits s decision
      s') :
    decision.idempotencyKey = finalizeKey command ∧
      decision.requestFingerprint = finalizationFingerprint env command actor := by
  unfold Commits at h
  simp only [finalizeTransaction, requireAlex, returns_require_bind] at h
  obtain ⟨-, h⟩ := h
  obtain ⟨existing, -, h⟩ := (readOnly_getDecisionByKey env _).returns_bind.mp h
  rcases existing with _ | stored
  · obtain ⟨st, -, h⟩ := (readOnly_getState env _).returns_bind.mp h
    obtain ⟨-, h⟩ := returns_require_bind.mp h
    obtain ⟨-, h⟩ := returns_require_bind.mp h
    obtain ⟨p, -, h⟩ := (readOnly_getProjection env _).returns_bind.mp h
    obtain ⟨-, h⟩ := returns_require_bind.mp h
    obtain ⟨analysisId, -, h⟩ := returns_orRaise_bind.mp h
    obtain ⟨analysis, -, h⟩ := (readOnly_getAnalysis env _).returns_bind.mp h
    obtain ⟨-, h⟩ := returns_require_bind.mp h
    obtain ⟨evidence, -, h⟩ := (readOnly_finalizationEvidence env _ _ _).returns_bind.mp h
    rw [returns_orRaise_bind] at h
    obtain ⟨record, hrecord, h⟩ := h
    rw [returns_ofExcept_bind] at h
    obtain ⟨satisfactions, -, h⟩ := h
    obtain ⟨decidedAt, -, h⟩ := returns_orRaise_bind.mp h
    rw [returns_orRaise_bind] at h
    obtain ⟨d, hd, h⟩ := h
    obtain ⟨token, s₁, -, h⟩ := returns_bind.mp h
    obtain ⟨_, s₂, -, h⟩ := returns_bind.mp h
    obtain ⟨heq, -⟩ := returns_done.mp h
    obtain rfl : decision = d := by injection heq
    rw [DecisionRecord.validate?_spec hd]
    exact ⟨(RecordDecisionCommand.validate?_spec hrecord).2.2.2, rfl⟩
  · obtain ⟨_, -, heq⟩ := returns_map.mp h
    cases heq

end SupplyResponse
