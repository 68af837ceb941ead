/-
Which write statements the repositories and services use.

One lemma per function that writes; the lemmas of the callers are assembled
from those of their callees.  `Transaction.program` collects the results.
-/
import SupplyResponse.Runs.Writes

namespace SupplyResponse

open Transact Transact.Prog
open Keyed (keys)

variable (env : Env) {kinds : List WriteKind}

/-! ### Cases, analyses and claims -/

theorem uses_casProjection (h : .compareAndSet ∈ kinds) (caseId : String)
    (expected : ProposalToken) (values : CasValues) :
    Uses kinds (casProjection caseId expected values) :=
  (Uses.updateRow h fun _ row hrow hs =>
    .compareAndSet row caseId expected values hrow hs).bind
      fun _ => Uses.require _ _

theorem uses_guardCurrent (h : .guard ∈ kinds) (caseId : String) (expected : ProposalToken) :
    Uses kinds (guardCurrent env caseId expected) :=
  .after (readOnly_storedCase _) fun _ => .after (readOnly_require _ _) fun _ =>
    .after (readOnly_getState env _) fun _ => .after (readOnly_require _ _) fun _ =>
      ((Uses.updateRow h fun _ row hrow hs =>
        .guard row caseId expected hrow hs).bind
          fun _ => Uses.require _ _).bind fun _ => Uses.done _

theorem uses_appendReview (h : .newReview ∈ kinds) (review : FinanceReview)
    (expectedRevision : Option Nat) (key fingerprint : String) :
    Uses kinds (appendReview env review expectedRevision key fingerprint) := by
  refine .after (readOnly_require _ _) fun _ => .after (readOnly_require _ _) fun _ =>
    .after (readOnly_require _ _) fun _ => .after (readOnly_getReviewByKey env _) fun replay => ?_
  rcases replay with _ | ⟨stored, revision, fp⟩
  · refine .after (((readOnly_getLatest env _).map some).tryCatch fun _ =>
      (readOnly_done _).ite (readOnly_raise _)) fun current => .after (readOnly_require _ _)
        fun _ => .after ?_ fun _ => .after (readOnly_requireBoundAnalysis env _) fun _ => ?_
    · rcases current with _ | ⟨previous, n⟩
      · exact (readOnly_require _ _).bind fun _ =>
          (readOnly_mapError (readOnly_ofExcept _) _ _).bind fun _ => readOnly_require _ _
      · exact (readOnly_require _ _).bind fun _ => (readOnly_require _ _).bind fun _ =>
          (readOnly_mapError (readOnly_ofExcept _) _ _).bind fun _ => readOnly_require _ _
    · exact (Uses.insertInto h fun _ hfree => .newReview _ hfree).bind fun _ => Uses.done _
  · exact .of_readOnly ((readOnly_require _ _).bind fun _ => readOnly_done _)

theorem uses_appendSuperseded (h : .newReview ∈ kinds) (review : FinanceReview)
    (revision : Option Nat) (now : Instant) (operation operationId : String) :
    Uses kinds (appendSuperseded env review revision now operation operationId) :=
  .after (readOnly_ofExcept _) fun _ => (uses_appendReview env h _ _ _ _).bind
    fun _ => Uses.done _

theorem uses_supersede (h : .newReview ∈ kinds) (state : ProposalState) (now : Instant)
    (operation operationId : String) :
    Uses kinds (supersede env state now operation operationId) := by
  unfold supersede
  cases state.review with
  | none => exact Uses.done _
  | some review =>
    exact .after (readOnly_require _ _) fun _ => uses_appendSuperseded env h _ _ _ _ _

theorem uses_withdrawCurrent (hc : .compareAndSet ∈ kinds) (hr : .newReview ∈ kinds)
    (caseId : String) (expected : ProposalToken) (now : Instant) (operationId : String) :
    Uses kinds (withdrawCurrent env caseId expected now operationId) := by
  refine .after (readOnly_storedCase _) fun _ => .after (readOnly_require _ _) fun _ =>
    .after (readOnly_require _ _) fun _ => .after (readOnly_getState env _) fun state =>
      .after (readOnly_require _ _) fun _ => .after (readOnly_require _ _) fun _ =>
        (uses_casProjection hc _ _ _).bind fun _ => Uses.bind ?_ fun _ => Uses.done _
  unfold withdrawReview
  cases state.review with
  | none => exact Uses.done _
  | some review => exact uses_appendSuperseded env hr _ _ _ _ _

theorem uses_publish (hs : .newSelection ∈ kinds) (hc : .compareAndSet ∈ kinds)
    (hr : .newReview ∈ kinds) (receipt : SelectionReceipt) :
    Uses kinds (publish env receipt) := by
  refine .after (readOnly_getReceiptByKey env _) fun replay => ?_
  cases replay with
  | none =>
    exact .after (readOnly_getState env _) fun _ => .after (readOnly_require _ _) fun _ =>
      .after (readOnly_require _ _) fun _ => .after (readOnly_validateBinding env _) fun _ =>
        .after (readOnly_requirePendingReview env _) fun _ =>
          (Uses.insertInto hs fun _ hfree => .newSelection _ hfree).bind fun _ =>
              (uses_casProjection hc _ _ _).bind fun _ =>
                (uses_supersede env hr _ _ _ _).bind fun _ => Uses.done _
  | some stored => exact .of_readOnly ((readOnly_require _ _).bind fun _ => readOnly_done _)

theorem uses_createCase (hc : .newCase ∈ kinds) (hs : .newSnapshot ∈ kinds)
    (hp : .newProjection ∈ kinds) (case : CaseInstance) (snapshot : OperationalSnapshot) :
    Uses kinds (createCase env case snapshot) := by
  refine .after ?_ fun _ => (Uses.mapError ?_ _ _).bind fun _ => Uses.done _
  · exact (readOnly_require _ _).bind fun _ => (readOnly_require _ _).bind fun _ =>
      (readOnly_require _ _).bind fun _ => readOnly_require _ _
  · exact (Uses.insertInto hc fun _ hf => .newCase _ hf).bind fun _ =>
      (Uses.insertInto hs fun _ hf => .newSnapshot _ hf).bind fun _ =>
        Uses.insertInto hp fun _ hf => .newProjection _ hf

theorem uses_saveCaseProjection (h : .saveProjection ∈ kinds) (case : CaseInstance) :
    Uses kinds (saveCaseProjection env case) :=
  .after (readOnly_requireCaseRuntime env _ _) fun _ => .after (readOnly_require _ _) fun _ =>
    .after (readOnly_require _ _) fun _ => (Uses.updateExisting h fun _ row hrow => .saveProjection row case hrow).bind fun _ => Uses.done _

theorem uses_saveAnalysisConnection (ha : .newAnalysis ∈ kinds) (hl : .advanceLegacy ∈ kinds)
    (hc : .compareAndSet ∈ kinds) (hr : .newReview ∈ kinds) (analysis : AnalysisVersion)
    (projected : Option CaseInstance) (now : Instant) :
    Uses kinds (saveAnalysisConnection env analysis projected now) := by
  refine .after (readOnly_requireAnalysisProvenance env _) fun _ =>
    .after (readOnly_storedCase _) fun stored => .after (readOnly_independentState env _)
      fun state => (Uses.insertInto ha fun _ hf => .newAnalysis _ hf).bind fun _ => .after (readOnly_require _ _) fun _ =>
          .after (readOnly_getRow _ _ _) fun row =>
            .after (readOnly_requireProjectedCase _ _ _) fun _ => ?_
  cases state with
  | none =>
    exact Uses.updateExisting hl fun _ row hrow => .advanceLegacy row _ _ hrow
  | some state =>
    exact (uses_casProjection hc _ _ _).bind fun _ => uses_supersede env hr _ _ _ _

theorem uses_saveAnalysis (ha : .newAnalysis ∈ kinds) (hl : .advanceLegacy ∈ kinds)
    (hc : .compareAndSet ∈ kinds) (hr : .newReview ∈ kinds) (analysis : AnalysisVersion)
    (projected : Option CaseInstance) (now : Instant) :
    Uses kinds (saveAnalysis env analysis projected now) :=
  (Uses.mapError (uses_saveAnalysisConnection env ha hl hc hr _ _ _) _ _).bind
    fun _ => Uses.done _

theorem uses_newClaim (h : .newClaim ∈ kinds) (row : AnalysisClaimRow) :
    Uses kinds (insertInto Store.claims (fun s t => { s with claims := t }) row) :=
  Uses.insertInto h fun _ hf => .newClaim _ hf

theorem uses_insertClaim (h : .newClaim ∈ kinds) (caseId materialVersion claimId : String)
    (claimedAt : Instant) (lease : ℤ) :
    Uses kinds (insertClaim env caseId materialVersion claimId claimedAt lease) :=
  .after (readOnly_requireCaseRuntime env _ _) fun _ => (uses_newClaim h _).bind
    fun _ => Uses.done _

theorem uses_takeOverClaim (hn : .newClaim ∈ kinds) (hd : .dropClaim ∈ kinds)
    (caseId materialVersion claimId : String) (claimedAt : Instant) (lease : ℤ) :
    Uses kinds (takeOverClaim env caseId materialVersion claimId claimedAt lease) := by
  refine .after (readOnly_select _) fun row => ?_
  cases row with
  | none => exact Uses.done _
  | some row =>
    refine Uses.ite ((Uses.write hd fun v l u hw => ?_).bind fun _ =>
      (uses_newClaim hn _).bind fun _ => Uses.done _) (Uses.done _)
    obtain ⟨rfl, rfl⟩ := Prod.mk.inj (Option.some.inj hw)
    exact .dropClaim row _ _

theorem uses_deleteClaim (h : .dropClaim ∈ kinds) (caseId version claimId : String) :
    Uses kinds (deleteClaim caseId version claimId) := by
  refine Uses.write h fun v l u hw => ?_
  obtain ⟨row, -, hw⟩ := Option.bind_eq_some_iff.mp hw
  split at hw
  · obtain ⟨rfl, rfl⟩ := Prod.mk.inj (Option.some.inj hw)
    exact .dropClaim row _ _
  · cases hw

theorem uses_releaseAnalysisClaim (h : .dropClaim ∈ kinds)
    (caseId materialVersion claimId : String) :
    Uses kinds (releaseAnalysisClaim env caseId materialVersion claimId) :=
  (uses_deleteClaim h _ _ _).bind fun _ => Uses.done _

theorem uses_completeAnalysisClaim (ha : .newAnalysis ∈ kinds) (hl : .advanceLegacy ∈ kinds)
    (hc : .compareAndSet ∈ kinds) (hr : .newReview ∈ kinds) (hd : .dropClaim ∈ kinds)
    (analysis : AnalysisVersion) (projected : CaseInstance) (materialVersion claimId : String)
    (completedAt now : Instant) :
    Uses kinds
      (completeAnalysisClaim env analysis projected materialVersion claimId completedAt now) :=
  (Uses.mapError (.after (readOnly_select _) fun _ => .after (readOnly_require _ _) fun _ =>
    (uses_saveAnalysisConnection env ha hl hc hr _ _ _).bind fun _ =>
      (uses_deleteClaim hd _ _ _).bind fun _ => Uses.require _ _) _ _).bind
    fun _ => Uses.done _

/-! ### Finance commands -/

theorem readOnly_submissionResult (selection : ProposalSelection) :
    (submissionResult env selection).ReadOnly := by
  unfold submissionResult
  cases selection.financeReviewId with
  | none => exact readOnly_done _
  | some id => exact (readOnly_getRevision env id 1).bind fun _ => readOnly_done _

theorem uses_openReview (h : .newReview ∈ kinds) (selectionId fingerprint : String)
    (proposal : FinanceProposal) (actor : IdentitySnapshot) (now : Instant)
    (reviewId : Option String) :
    Uses kinds (openReview env selectionId fingerprint proposal actor now reviewId) := by
  cases reviewId with
  | none => exact Uses.done _
  | some id =>
    exact .after (readOnly_ofExcept _) fun _ => (uses_appendReview env h _ _ _ _).bind
      fun _ => Uses.done _

theorem uses_submitTransaction (hs : .newSelection ∈ kinds) (hc : .compareAndSet ∈ kinds)
    (hr : .newReview ∈ kinds) (command : SubmitProposalCommand) (actor : IdentitySnapshot)
    (selectionUuid reviewUuid : String) (clock : ClockReading) :
    Uses kinds (submitTransaction env command actor selectionUuid reviewUuid clock) := by
  refine .after (readOnly_require _ _) fun _ => .after (readOnly_getReceiptByKey env _)
    fun stored => ?_
  cases stored with
  | some stored =>
    exact .of_readOnly (((readOnly_require _ _).bind fun _ => (readOnly_require _ _).bind fun _ =>
      readOnly_submissionResult env _).map _)
  | none =>
    refine .after (readOnly_getState env _) fun _ => .after (readOnly_require _ _) fun _ =>
      .after (readOnly_getProjection env _) fun _ => .after (readOnly_require _ _) fun _ =>
        .after (readOnly_orRaise _ _) fun _ => .after (readOnly_getAnalysis env _) fun _ =>
          .after (readOnly_require _ _) fun _ => .after (readOnly_orRaise _ _) fun _ =>
            .after (readOnly_require _ _) fun _ => .after (readOnly_orRaise _ _) fun _ =>
              Uses.bind ?_ fun _ => Uses.done _
    exact .after (readOnly_orRaise _ _) fun _ => .after (readOnly_orRaise _ _) fun _ =>
      (uses_openReview env hr _ _ _ _ _ _).bind fun _ => .after (readOnly_orRaise _ _) fun _ =>
        (uses_publish env hs hc hr _).bind fun _ => .of_readOnly (readOnly_submissionResult env _)

theorem uses_resolveTransaction (hg : .guard ∈ kinds) (hr : .newReview ∈ kinds)
    (command : ResolveFinanceCommand) (actor : IdentitySnapshot) (clock : ClockReading) :
    Uses kinds (resolveTransaction env command actor clock) := by
  refine .after (readOnly_require _ _) fun _ => .after (readOnly_getReviewByKey env _)
    fun stored => ?_
  cases stored with
  | some stored =>
    exact .of_readOnly (((readOnly_require _ _).bind fun _ => (readOnly_require _ _).bind fun _ =>
      (readOnly_orRaise _ _).bind fun _ => (readOnly_require _ _).bind fun _ =>
        readOnly_done _).map _)
  | none =>
    exact .after (readOnly_getLatest env _) fun _ => .after (readOnly_require _ _) fun _ =>
      .after (readOnly_getState env _) fun _ => .after (readOnly_orRaise _ _) fun _ =>
        .after (readOnly_require _ _) fun _ => .after (readOnly_orRaise _ _) fun _ =>
          .after (readOnly_ofExcept _) fun _ => (uses_guardCurrent env hg _ _).bind fun _ =>
            (uses_appendReview env hr _ _ _ _).bind fun _ => Uses.done _

/-! ### Decisions -/

theorem uses_setDecisionProjection (h : .setDecision ∈ kinds) (caseId decisionId : String)
    (status : CaseStatus) : Uses kinds (setDecisionProjection env caseId decisionId status) :=
  .after (readOnly_getProjection env _) fun _ => Uses.updateExisting h fun _ row hrow => .setDecision row caseId decisionId _ hrow

theorem uses_setCaseStatus (h : .setStatus ∈ kinds) (caseId : String) (status : CaseStatus) :
    Uses kinds (setCaseStatus env caseId status) :=
  .after (readOnly_getProjection env _) fun _ => Uses.updateExisting h fun _ row hrow => .setStatus row caseId _ hrow

theorem uses_storeDecision (hd : .newDecision ∈ kinds) (hs : .newSatisfaction ∈ kinds)
    (he : .newEvent ∈ kinds) (hp : .setDecision ∈ kinds) (decision : Decision)
    (satisfactions : List ApprovalSatisfaction) (eventUuid : String) :
    Uses kinds (storeDecision env decision satisfactions eventUuid) := by
  have hdecision : Uses kinds (insertDecision env decision) :=
    .after (readOnly_require _ _) fun _ => .after (readOnly_storedCase _) fun _ =>
      .after (readOnly_require _ _) fun _ => .after (readOnly_requireAnalysisLineage env _)
        fun _ => Uses.insertInto hd fun _ hf => .newDecision _ hf
  have hsatisfactions : Uses kinds (insertSatisfactions decision.decisionId satisfactions) :=
    .after (readOnly_getRow _ _ _) fun _ => .after (readOnly_require _ _) fun _ =>
      Uses.forEach (fun _ => Uses.insertInto hs fun _ hf => .newSatisfaction _ hf) _
  have hevent : ∀ event, Uses kinds (insertOutbox env event) := fun event =>
    .after (readOnly_getDecision env _ _) fun _ => .after (readOnly_require _ _) fun _ =>
      .after (readOnly_require _ _) fun _ => .after (readOnly_require _ _) fun _ =>
        Uses.insertInto he fun _ hf => .newEvent _ hf
  exact hdecision.bind fun _ => hsatisfactions.bind fun _ =>
    ((hevent _).bind fun _ => uses_setDecisionProjection env hp _ _ _).ite
      (uses_setDecisionProjection env hp _ _ _)

theorem uses_finalizeTransaction (hg : .guard ∈ kinds) (hc : .compareAndSet ∈ kinds)
    (hr : .newReview ∈ kinds) (hd : .newDecision ∈ kinds) (hs : .newSatisfaction ∈ kinds)
    (he : .newEvent ∈ kinds) (hp : .setDecision ∈ kinds) (command : FinalizeProposalCommand)
    (actor : IdentitySnapshot) (decisionUuid eventUuid : String) (clock : ClockReading) :
    Uses kinds (finalizeTransaction env command actor decisionUuid eventUuid clock) := by
  refine .after (readOnly_require _ _) fun _ => .after (readOnly_getDecisionByKey env _)
    fun existing => ?_
  cases existing with
  | some existing =>
    exact .of_readOnly (((readOnly_require _ _).bind fun _ => (readOnly_require _ _).bind fun _ =>
      (readOnly_require _ _).bind fun _ => readOnly_done _).map _)
  | none =>
    refine .after (readOnly_getState env _) fun _ => .after (readOnly_require _ _) fun _ =>
      .after (readOnly_require _ _) fun _ => .after (readOnly_getProjection env _) fun _ =>
        .after (readOnly_require _ _) fun _ => .after (readOnly_orRaise _ _) fun _ =>
          .after (readOnly_getAnalysis env _) fun _ => .after (readOnly_require _ _) fun _ =>
            .after (readOnly_finalizationEvidence env _ _ _) fun _ =>
              .after (readOnly_orRaise _ _) fun _ => .after (readOnly_ofExcept _) fun _ =>
                .after (readOnly_orRaise _ _) fun _ => .after (readOnly_orRaise _ _) fun _ =>
                  Uses.bind ?_ fun _ => (uses_storeDecision env hd hs he hp _ _ _).bind
                    fun _ => Uses.done _
    unfold moveProposal
    cases command.kind with
    | approved => exact uses_guardCurrent env hg _ _
    | rejected => exact uses_withdrawCurrent env hc hr _ _ _ _

theorem uses_recordTransaction (hd : .newDecision ∈ kinds) (hs : .newSatisfaction ∈ kinds)
    (he : .newEvent ∈ kinds) (hp : .setDecision ∈ kinds) (command : RecordDecisionCommand)
    (actor : IdentitySnapshot) (decisionUuid eventUuid : String) (decidedAt : Instant) :
    Uses kinds (recordTransaction env command actor decisionUuid eventUuid decidedAt) := by
  refine .after (readOnly_getDecisionByKey env _) fun existing => ?_
  cases existing with
  | some existing =>
    exact .of_readOnly (((readOnly_require _ _).bind fun _ => (readOnly_require _ _).bind fun _ =>
      readOnly_done _).map _)
  | none =>
    exact .after (readOnly_getProjection env _) fun _ => .after (readOnly_require _ _) fun _ =>
      .after (readOnly_getAnalysis env _) fun _ => .after (readOnly_ofExcept _) fun _ =>
        .after (readOnly_orRaise _ _) fun _ => (uses_storeDecision env hd hs he hp _ _ _).bind
          fun _ => Uses.done _

/-! ### Execution -/

theorem uses_guardExecutionCurrent (h : .guard ∈ kinds) (decisionId : String) :
    Uses kinds (guardExecutionCurrent env decisionId) := by
  refine .after (readOnly_checkExecutionCurrent env _) fun ⟨decision, token⟩ =>
    Uses.bind ?_ fun _ => Uses.done _
  cases token with
  | none => exact Uses.done _
  | some token =>
    exact ((uses_guardCurrent env h _ _).mapError _ _).bind fun _ => Uses.done _

theorem uses_appendStatusEvent (h : .newStatusEvent ∈ kinds) (event : ExecutionStatusEvent) :
    Uses kinds (appendStatusEvent event) :=
  .after (readOnly_immutableAction _) fun _ => .after (readOnly_listStatusEvents _) fun _ =>
    .after (readOnly_require _ _) fun _ => .after (readOnly_require _ _) fun _ =>
      .after (readOnly_require _ _) fun _ => Uses.insertInto h fun _ hf => .newStatusEvent _ hf

theorem uses_insertActionIfAbsent (ha : .newAction ∈ kinds) (hp : .newActionProjection ∈ kinds)
    (he : .newStatusEvent ∈ kinds) (hd : .newDraft ∈ kinds) (action : ExecutionAction)
    (eventUuid : String) : Uses kinds (insertActionIfAbsent env action eventUuid) := by
  refine .after (readOnly_require _ _) fun _ => .after (readOnly_getDecision env _ _) fun _ =>
    .after (readOnly_require _ _) fun _ => .after (readOnly_select _) fun _ => Uses.ite ?_
      (Uses.bind ?_ fun _ => Uses.done _)
  · exact .of_readOnly ((readOnly_immutableAction _).bind fun _ => (readOnly_require _ _).bind
      fun _ => readOnly_done _)
  · refine (Uses.insertInto ha fun _ hf => .newAction _ hf).bind fun _ =>
      (Uses.insertInto hp fun _ hf => .newActionProjection _ hf).bind fun _ =>
        (uses_appendStatusEvent he _).bind fun _ => ?_
    cases action.draftArtifactId with
    | none => exact Uses.done _
    | some id =>
      rw [insertDraftShell]
      exact Uses.insertInto hd fun _ hf => .newDraft _ hf

theorem uses_createAction (hg : .guard ∈ kinds) (ha : .newAction ∈ kinds)
    (hp : .newActionProjection ∈ kinds) (he : .newStatusEvent ∈ kinds) (hd : .newDraft ∈ kinds)
    (action : ExecutionAction) (eventUuid : String) :
    Uses kinds (createAction env action eventUuid) :=
  (uses_insertActionIfAbsent env ha hp he hd _ _).bind fun _ =>
    Uses.ite ((uses_guardExecutionCurrent env hg _).bind fun _ =>
      .after (readOnly_getAction _) fun _ => Uses.done _)
      (.after (readOnly_getAction _) fun _ => Uses.done _)

theorem uses_updateActionProjection (h : .setAction ∈ kinds) (action : ExecutionAction) :
    Uses kinds (updateActionProjection action) :=
  .after (readOnly_immutableAction _) fun _ => .after (readOnly_require _ _) fun _ =>
    Uses.updateExisting h fun _ row hrow => .setAction row action hrow

theorem uses_insertAttempt (hn : .newAttempt ∈ kinds) (hc : .countAttempt ∈ kinds)
    (attempt : ExecutionAttempt) : Uses kinds (insertAttempt attempt) :=
  .after (readOnly_getAction _) fun _ => .after (readOnly_listAttempts _) fun _ =>
    .after (readOnly_require _ _) fun _ =>
      (Uses.insertInto hn fun _ hf => .newAttempt _ hf).bind fun _ =>
        (Uses.updateRow hc fun _ row hrow _ => .countAttempt row _ _ hrow).bind
          fun _ => Uses.done _

theorem uses_updateAttempt (h : .endAttempt ∈ kinds) (attempt : ExecutionAttempt) :
    Uses kinds (updateAttempt attempt) :=
  .after (readOnly_getAttempt _) fun _ => .after (readOnly_require _ _) fun _ =>
    (Uses.updateRow h fun _ row hrow _ => .endAttempt row attempt hrow).bind fun _ => Uses.done _

theorem uses_beginAttempt (hg : .guard ∈ kinds) (hn : .newAttempt ∈ kinds)
    (hc : .countAttempt ∈ kinds) (ha : .setAction ∈ kinds) (he : .newStatusEvent ∈ kinds)
    (actionId : String) (required : ExecutionStatus) (attemptUuid eventUuid : String)
    (startedAt occurredAt : Instant) :
    Uses kinds
      (beginAttempt env actionId required attemptUuid eventUuid startedAt occurredAt) :=
  .after (readOnly_getAction _) fun _ => .after (readOnly_require _ _) fun _ =>
    .after (readOnly_require _ _) fun _ => (uses_guardExecutionCurrent env hg _).bind fun _ =>
      .after (readOnly_listAttempts _) fun _ => .after (readOnly_listStatusEvents _) fun _ =>
        (uses_insertAttempt hn hc _).bind fun _ => (uses_updateActionProjection ha _).bind
          fun _ => (uses_appendStatusEvent he _).bind fun _ => Uses.done _

theorem uses_finishAttempt (hg : .guard ∈ kinds) (hn : .endAttempt ∈ kinds)
    (ha : .setAction ∈ kinds) (he : .newStatusEvent ∈ kinds) (actionId attemptId : String)
    (toStatus : ExecutionStatus) (errorCode : Option String) (eventUuid : String)
    (now : Instant) :
    Uses kinds (finishAttempt env actionId attemptId toStatus errorCode eventUuid now) :=
  .after (readOnly_getAction _) fun _ => .after (readOnly_require _ _) fun _ =>
    .after (readOnly_getAttempt _) fun _ => .after (readOnly_require _ _) fun _ =>
      (((uses_guardExecutionCurrent env hg _).bind fun _ => Uses.done _).ite (Uses.done _)).bind
        fun _ => .after (readOnly_listStatusEvents _) fun _ => (uses_updateAttempt hn _).bind
          fun _ => (uses_updateActionProjection ha _).bind fun _ =>
            (uses_appendStatusEvent he _).bind fun _ => Uses.done _

theorem uses_cancel (hn : .endAttempt ∈ kinds) (ha : .setAction ∈ kinds)
    (he : .newStatusEvent ∈ kinds) (actionId : String) (attemptId : Option String)
    (eventUuid : String) (now : Instant) :
    Uses kinds (cancel actionId attemptId eventUuid now) := by
  refine .after (readOnly_getAction _) fun _ => .after (readOnly_require _ _) fun _ =>
    Uses.bind (Uses.ite ?_ (Uses.done _)) fun _ => .after (readOnly_listStatusEvents _) fun _ =>
      (uses_updateActionProjection ha _).bind fun _ => (uses_appendStatusEvent he _).bind
        fun _ => Uses.done _
  exact .after (readOnly_listAttempts _) fun _ => .after (readOnly_orRaise _ _) fun _ =>
    (uses_updateAttempt hn _).bind fun _ => Uses.done _

/-! ### Planning -/

theorem uses_processTransaction (hc : .claimEvent ∈ kinds) (hg : .guard ∈ kinds)
    (ha : .newAction ∈ kinds) (hap : .newActionProjection ∈ kinds) (he : .newStatusEvent ∈ kinds)
    (hd : .newDraft ∈ kinds) (hp : .processEvent ∈ kinds) (hs : .setStatus ∈ kinds)
    (planner : ActionPlanner) (filter : OutboxFilter) (eventUuid : Nat → String)
    (processedAt : Instant) :
    Uses kinds (processTransaction env planner filter eventUuid processedAt) := by
  have hclaim : Uses kinds (claimOutbox filter) := by
    refine .after (readOnly_select _) fun claim => ?_
    cases claim with
    | none => exact Uses.done _
    | some claim =>
      exact (Uses.updateRow hc fun _ row hrow hr => .claimEvent row _ filter hrow hr).bind
        fun _ => Uses.done _
  have hplan : ∀ items, Uses kinds (insertPlanned env eventUuid items) := fun items =>
    Uses.forEach (fun _ => (uses_insertActionIfAbsent env ha hap he hd _ _).bind
      fun _ => Uses.done _) _
  have hmark : ∀ id, Uses kinds (markOutboxProcessed id processedAt) := fun id =>
    (Uses.updateRow hp fun _ row hrow hr => .processEvent row id processedAt hrow hr).bind
      fun _ => Uses.require _ _
  refine hclaim.bind fun claim => ?_
  cases claim with
  | none => exact Uses.done _
  | some claim =>
    exact Uses.tryCatch (.after (readOnly_validateClaimedOutbox _) fun _ =>
      (uses_guardExecutionCurrent env hg _).bind fun _ => .after (readOnly_getAnalysis env _)
        fun _ => .after (readOnly_ofExcept _) fun _ => (hplan _).bind fun _ => (hmark _).bind
          fun _ => (uses_setCaseStatus env hs _ _).bind fun _ => Uses.done _) fun _ => Uses.done _

theorem uses_recordOutboxFailureIfCurrent (h : .failEvent ∈ kinds) (eventId code : String)
    (expected : OutboxProcessingState) (now : Instant) :
    Uses kinds (recordOutboxFailureIfCurrent eventId expected code now) :=
  .after (readOnly_require _ _) fun _ => Uses.ite (Uses.done _)
    (Uses.updateRow h fun _ row hrow hs =>
      .failEvent row eventId code hrow ⟨hs.1, hs.2.2.2.2.2⟩)

theorem uses_eventOnlyTransaction (h : .failEvent ∈ kinds) (claim : OutboxClaim) (code : String)
    (now : Instant) : Uses kinds (eventOnlyTransaction claim code now) :=
  .after (readOnly_getOutboxState _) fun _ =>
    (uses_recordOutboxFailureIfCurrent h _ _ _ _).bind fun _ => Uses.done _

theorem uses_recoveryTransaction (hf : .failEvent ∈ kinds) (hg : .guard ∈ kinds)
    (hs : .setStatus ∈ kinds) (claim : OutboxClaim) (error : Raised) (now : Instant) :
    Uses kinds (recoveryTransaction env claim error now) := by
  have hlegacy : Uses kinds (recoverLegacy env claim (errorCode error)) :=
    ((Uses.updateRow hf fun _ row hrow hl => .failEvent row _ _ hrow hl).bind
      fun _ => Uses.require _ _).bind fun _ => (uses_setCaseStatus env hs _ _).bind
        fun _ => Uses.done _
  have hindependent : Uses kinds (recoverIndependent env claim (errorCode error) now) :=
    .after (readOnly_getOutboxState _) fun _ => Uses.ite (Uses.done _)
      ((uses_guardExecutionCurrent env hg _).bind fun _ =>
        (uses_recordOutboxFailureIfCurrent hf _ _ _ _).bind fun _ =>
          Uses.ite ((uses_setCaseStatus env hs _ _).bind fun _ => Uses.done _) (Uses.done _))
  refine .after (((readOnly_getProjection env _).map _).tryCatch fun _ => readOnly_done _)
    fun projection => ?_
  cases projection with
  | error e => exact Uses.done _
  | ok projection =>
    exact Uses.ite (hindependent.tryCatch fun _ => Uses.done _)
      (hlegacy.tryCatch fun _ => Uses.done _)

/-! ### Playback -/

theorem uses_startPlayback (hn : .newPlayback ∈ kinds) (hg : .guard ∈ kinds)
    (decisionId : String) (actor : IdentitySnapshot) (now : Instant) :
    Uses kinds (startPlayback env decisionId actor now) := by
  have hrow : ∀ playback, Uses kinds (insertPlaybackRow playback) := fun playback =>
    .after (readOnly_getPlaybackForDecision _) fun _ => Uses.ite (Uses.done _)
      ((Uses.insertInto hn fun _ hf => .newPlayback _ hf).bind fun _ => Uses.done _)
  have hinsert : ∀ playback, Uses kinds (insertPlaybackIfAbsent env playback) := fun playback =>
    .after (readOnly_require _ _) fun _ => .after (readOnly_getDecision env _ _) fun _ =>
      .after (readOnly_require _ _) fun _ => .after (readOnly_getPlaybackForDecision _) fun _ =>
        .after (readOnly_require _ _) fun _ => Uses.ite (Uses.done _) ((hrow _).bind fun _ =>
          .after (readOnly_getPlaybackForDecision _) fun _ => .after (readOnly_orRaise _ _)
            fun _ => .after (readOnly_require _ _) fun _ => Uses.done _)
  refine .after (readOnly_require _ _) fun _ => .after (readOnly_getDecision env _ _) fun _ =>
    .after (readOnly_require _ _) fun _ => .after (readOnly_require _ _) fun _ =>
      .after (readOnly_getPlaybackForDecision _) fun existing => ?_
  cases existing with
  | some existing => exact Uses.done _
  | none =>
    exact .after (readOnly_listActions _) fun _ => .after (readOnly_orRaise _ _) fun _ =>
      .after (readOnly_ofExcept _) fun _ => .after (readOnly_require _ _) fun _ =>
        (hinsert _).bind fun _ => Uses.ite ((uses_guardExecutionCurrent env hg _).bind
          fun _ => Uses.done _) (Uses.done _)

theorem uses_fillDraftArtifact (h : .fillDraft ∈ kinds) (artifact : DraftArtifact) :
    Uses kinds (fillDraftArtifact artifact) :=
  .after (readOnly_getDraftArtifact _) fun _ => .after (readOnly_require _ _) fun _ =>
    Uses.ite (Uses.require _ _) (.after (readOnly_require _ _) fun _ =>
      .after (readOnly_require _ _) fun _ =>
        (Uses.updateRow h fun _ row hrow _ => .fillDraft row artifact hrow).bind
          fun _ => Uses.done _)

theorem uses_fillDraft (hf : .fillDraft ∈ kinds) (hg : .guard ∈ kinds) (actionId : String) :
    Uses kinds (fillDraft env actionId) :=
  .after (readOnly_getDraftArtifact _) fun _ => .after (readOnly_getDecision env _ _) fun _ =>
    .after (readOnly_orRaise _ _) fun _ => Uses.ite
      ((uses_fillDraftArtifact hf _).bind fun _ => Uses.done _)
      ((uses_guardExecutionCurrent env hg _).bind fun _ =>
        (uses_fillDraftArtifact hf _).bind fun _ => Uses.done _)

theorem uses_updatePlayback (h : .endPlayback ∈ kinds) (playback : Playback) :
    Uses kinds (updatePlayback playback) :=
  .after (readOnly_getPlayback _) fun _ => .after (readOnly_require _ _) fun _ =>
    (Uses.updateRow h fun _ row hrow hl => .endPlayback row playback hrow hl).bind
      fun _ => Uses.require _ _

theorem uses_recordFailure (h : .endPlayback ∈ kinds) (playbackId : String) (now : Instant) :
    Uses kinds (recordFailure playbackId now) :=
  .after (readOnly_getPlayback _) fun _ => Uses.ite ((uses_updatePlayback h _).bind
    fun _ => Uses.done _) (Uses.done _)

theorem uses_insertObservation (h : .newObservation ∈ kinds) (observation : OutcomeObservation) :
    Uses kinds (insertObservation env observation) :=
  .after (readOnly_getDecision env _ _) fun _ => .after (readOnly_storedCase _) fun _ =>
    .after (readOnly_require _ _) fun _ => .after (readOnly_collect readOnly_getPlayback _)
      fun _ => .after (readOnly_require _ _) fun _ =>
        .after (readOnly_collect readOnly_getAction _) fun _ => .after (readOnly_require _ _)
          fun _ => .after (readOnly_select _) fun _ => .after (readOnly_require _ _) fun _ =>
            Uses.insertInto h fun _ hf => .newObservation _ hf

theorem uses_recordCompletion (hg : .guard ∈ kinds) (ho : .newObservation ∈ kinds)
    (he : .endPlayback ∈ kinds) (playback : Playback) (actions : List ExecutionAction)
    (recordedAt : Instant) : Uses kinds (recordCompletion env playback actions recordedAt) := by
  refine .after (readOnly_getPlayback _) fun _ => .after (readOnly_require _ _) fun _ =>
    Uses.ite ?_ (Uses.done _)
  exact .after (readOnly_listActions _) fun _ => .after (readOnly_getDecision env _ _) fun _ =>
    .after (readOnly_orRaise _ _) fun _ => .after (readOnly_ofExcept _) fun _ =>
      .after (readOnly_require _ _) fun _ => (uses_guardExecutionCurrent env hg _).bind fun _ =>
        .after (readOnly_storedCase _) fun _ => .after (readOnly_orRaise _ _) fun _ =>
          (Uses.forEach (fun _ => uses_insertObservation env ho _) _).bind fun _ =>
            (uses_updatePlayback he _).bind fun _ => Uses.done _

/-! ### Supplier email -/

variable (config : MailConfig)

theorem uses_guardedEmail (h : .guard ∈ kinds) (decisionId : String) :
    Uses kinds (guardedEmail env decisionId) :=
  (uses_guardExecutionCurrent env h _).bind fun _ =>
    .after ((readOnly_getProjection env _).bind fun _ => readOnly_require _ _) fun _ =>
      .after (readOnly_draftAction _) fun _ => Uses.done _

theorem uses_updateDelivery (h : .setDelivery ∈ kinds) (delivery : SupplierEmailDelivery) :
    Uses kinds (updateDelivery delivery) :=
  Uses.updateExisting h fun _ row hrow => .setDelivery row delivery hrow

theorem uses_insertRevision (h : .newRevision ∈ kinds) (revision : SupplierEmailRevision) :
    Uses kinds (insertRevision revision) :=
  Uses.insertInto h fun _ hf => .newRevision _ hf

theorem uses_claimDeliveryForWrite (h : .lockDelivery ∈ kinds) (decisionId : String) :
    Uses kinds (claimDeliveryForWrite decisionId) :=
  Uses.updateRow h fun _ row hrow _ => .lockDelivery row decisionId hrow

theorem uses_getEmail (hg : .guard ∈ kinds) (hd : .newDelivery ∈ kinds)
    (hr : .newRevision ∈ kinds) (decisionId : String) (now : Instant) :
    Uses kinds (getEmail env config decisionId now) := by
  have hinitial : ∀ revision delivery, Uses kinds (insertInitial revision delivery) :=
    fun revision delivery => .after (readOnly_require _ _) fun _ => .after (readOnly_require _ _)
      fun _ => .after (readOnly_getCurrent _) fun _ => .after (readOnly_require _ _) fun _ =>
        .after (readOnly_requireActionBinding _) fun _ =>
          (Uses.insertInto hd fun _ hf => .newDelivery _ hf).bind fun _ => uses_insertRevision hr _
  refine .after (readOnly_getCurrent _) fun current => ?_
  cases current with
  | some current => exact Uses.done _
  | none =>
    exact (uses_guardedEmail env hg _).bind fun _ => .after (readOnly_listActions _) fun _ =>
      .after ((readOnly_orRaise _ _).bind fun _ => (readOnly_require _ _).bind
        fun _ => readOnly_done _) fun _ => .after (readOnly_orRaise _ _) fun _ =>
          .after (readOnly_orRaise _ _) fun _ => (hinitial _ _).bind fun _ => Uses.done _

theorem uses_appendRevision (hl : .lockDelivery ∈ kinds) (hr : .newRevision ∈ kinds)
    (hd : .setDelivery ∈ kinds) (revision : SupplierEmailRevision) (expectedRevision : Nat) :
    Uses kinds (appendRevision revision expectedRevision) := by
  refine (uses_claimDeliveryForWrite hl _).bind fun _ => Uses.ite
    (.after (readOnly_getCurrent _) fun current => ?_) (Uses.done _)
  cases current with
  | none => exact Uses.done _
  | some current =>
    refine Uses.ite (Uses.ite (Uses.done _) (.after (readOnly_require _ _) fun _ =>
      .after (readOnly_requireActionBinding _) fun _ => Uses.bind (Uses.tryCatch
        ((uses_insertRevision hr _).bind fun _ => Uses.done _) fun _ =>
          .of_readOnly ((readOnly_done _).ite (readOnly_raise _))) fun _ =>
            Uses.ite ((uses_updateDelivery hd _).bind fun _ => Uses.done _) (Uses.done _)))
      (Uses.done _)

theorem uses_saveEmail (hg : .guard ∈ kinds) (hl : .lockDelivery ∈ kinds)
    (hr : .newRevision ∈ kinds) (hd : .setDelivery ∈ kinds) (decisionId : String) (revision : Nat)
    (subject body : String) (actor : IdentitySnapshot) (now : Instant) :
    Uses kinds (saveEmail env config decisionId revision subject body actor now) :=
  .after (readOnly_require _ _) fun _ => (uses_guardedEmail env hg _).bind fun _ =>
    .after (readOnly_getCurrent _) fun _ => .after (readOnly_orRaise _ _) fun _ =>
      .after (readOnly_orRaise _ _) fun _ => (uses_appendRevision hl hr hd _ _).bind fun _ =>
        .after (readOnly_require _ _) fun _ => Uses.done _

theorem uses_markReviewed (hl : .lockDelivery ∈ kinds) (hm : .markRevision ∈ kinds)
    (hd : .setDelivery ∈ kinds) (revision : SupplierEmailRevision)
    (delivery : SupplierEmailDelivery) (expectedRevision : Nat) :
    Uses kinds (markReviewed revision delivery expectedRevision) := by
  refine (uses_claimDeliveryForWrite hl _).bind fun _ => Uses.ite
    (.after (readOnly_getCurrent _) fun current => ?_) (Uses.done _)
  cases current with
  | none => exact Uses.done _
  | some current =>
    exact Uses.ite (Uses.ite (Uses.done _) (.after (readOnly_require _ _) fun _ =>
      (Uses.updateRow hm fun _ row hrow hu => .markRevision row revision _ hrow hu).bind
        fun _ => Uses.ite ((uses_updateDelivery hd _).bind fun _ => Uses.done _) (Uses.done _)))
      (Uses.done _)

theorem uses_reviewEmail (hg : .guard ∈ kinds) (hl : .lockDelivery ∈ kinds)
    (hm : .markRevision ∈ kinds) (hd : .setDelivery ∈ kinds) (decisionId : String)
    (revision : Nat) (actor : IdentitySnapshot) (now : Instant) :
    Uses kinds (reviewEmail env config decisionId revision actor now) :=
  .after (readOnly_require _ _) fun _ => (uses_guardedEmail env hg _).bind fun _ =>
    .after (readOnly_getCurrent _) fun _ => .after (readOnly_orRaise _ _) fun _ =>
      .after (readOnly_require _ _) fun _ => Uses.ite
        (.of_readOnly ((readOnly_require _ _).bind fun _ => readOnly_done _))
        ((uses_markReviewed hl hm hd _ _ _).bind fun _ => .after (readOnly_require _ _)
          fun _ => Uses.done _)

theorem uses_sendRecords (h : .guard ∈ kinds) (decisionId : String) (revision : Nat)
    (actor : IdentitySnapshot) :
    Uses kinds (sendRecords env config decisionId revision actor) :=
  .after (readOnly_require _ _) fun _ => (uses_guardedEmail env h _).bind fun _ =>
    .after (readOnly_getCurrent _) fun _ => .after (readOnly_orRaise _ _) fun _ =>
      .after (readOnly_require _ _) fun _ => .after (readOnly_require _ _) fun _ => Uses.done _

theorem uses_claimEmail (hg : .guard ∈ kinds) (hc : .claimDelivery ∈ kinds) (decisionId : String)
    (revision : Nat) (actor : IdentitySnapshot) (correlationId : String) (now : Instant) :
    Uses kinds (claimEmail env config decisionId revision actor correlationId now) :=
  .after (readOnly_require _ _) fun _ => (uses_sendRecords env config hg _ _ _).bind fun _ =>
    Uses.ite (Uses.bind (.after (readOnly_require _ _) fun _ =>
      Uses.updateRow hc fun _ row hrow hs => .claimDelivery row _ revision hrow hs)
        fun _ => Uses.done _) (Uses.done _)

theorem uses_transition (h : .moveDelivery ∈ kinds) (decisionId correlationId : String)
    (expectedStatuses : List SupplierEmailSendStatus) (status : SupplierEmailSendStatus)
    (providerMessageId internetMessageId failureCode : Option String) (now : Instant) :
    Uses kinds
      (transition decisionId correlationId expectedStatuses status providerMessageId
        internetMessageId failureCode now) :=
  .after (readOnly_getCurrent _) fun _ => .after (readOnly_orRaise _ _) fun _ =>
    Uses.ite (Uses.bind (.after (readOnly_require _ _) fun _ =>
      Uses.updateRow h fun _ row hrow ha => .moveDelivery row _ _ _ hrow ha)
        fun _ => Uses.done _) (Uses.done _)

theorem uses_checkRecords (h : .guard ∈ kinds) (decisionId : String) (actor : IdentitySnapshot) :
    Uses kinds (checkRecords env config decisionId actor) :=
  .after (readOnly_require _ _) fun _ => .after (readOnly_getCurrent _) fun _ =>
    .after (readOnly_orRaise _ _) fun _ => (uses_sendRecords env config h _ _ _).bind fun _ =>
      .after (readOnly_require _ _) fun _ => Uses.done _

end SupplyResponse
