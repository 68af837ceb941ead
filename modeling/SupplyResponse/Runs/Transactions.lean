/-
The transactions of the service, as one family of units of work.

* `Transaction` — the transactions that may commit, with their arguments, the
  clock readings and the fresh identifiers they are given;
* `Transaction.program` — the program that it runs;
* `Transaction.kinds`, `uses_program` — the write statements it may execute;
* `sampleTransactions` — the way of one small case through the service.

The second transactions of the commands, which replay a stored result or report
a conflict, only read and are not listed.  The creation of a presenter's case and the
retention of presenter runs have stores of their own, and are not listed either.
-/
import SupplyResponse.Runs.Uses
import SupplyResponse.Transact.History

namespace SupplyResponse

open Transact Transact.Prog

/-- The transactions on the tables of the cases. -/
inductive Transaction
  | createCase (case : CaseInstance) (snapshot : OperationalSnapshot)
  | saveCaseProjection (case : CaseInstance)
  | saveAnalysis (analysis : AnalysisVersion) (projectedCase : Option CaseInstance)
    (now : Instant)
  | insertClaim (caseId materialVersion claimId : String) (claimedAt : Instant) (lease : ℤ)
  | takeOverClaim (caseId materialVersion claimId : String) (claimedAt : Instant) (lease : ℤ)
  | releaseAnalysisClaim (caseId materialVersion claimId : String)
  | completeAnalysisClaim (analysis : AnalysisVersion) (projectedCase : CaseInstance)
    (materialVersion claimId : String) (completedAt now : Instant)
  | submit (command : SubmitProposalCommand) (actor : IdentitySnapshot)
    (selectionUuid reviewUuid : String) (clock : ClockReading)
  | resolve (command : ResolveFinanceCommand) (actor : IdentitySnapshot) (clock : ClockReading)
  | finalize (command : FinalizeProposalCommand) (actor : IdentitySnapshot)
    (decisionUuid eventUuid : String) (clock : ClockReading)
  | record (command : RecordDecisionCommand) (actor : IdentitySnapshot)
    (decisionUuid eventUuid : String) (decidedAt : Instant)
  | processOutbox (planner : ActionPlanner) (filter : OutboxFilter) (eventUuid : Nat → String)
    (processedAt : Instant)
  | eventOnlyFailure (claim : OutboxClaim) (code : String) (now : Instant)
  | recoverFailure (claim : OutboxClaim) (error : Raised) (now : Instant)
  | createAction (action : ExecutionAction) (eventUuid : String)
  | beginAttempt (actionId : String) (requiredStatus : ExecutionStatus)
    (attemptUuid eventUuid : String) (startedAt occurredAt : Instant)
  | finishAttempt (actionId attemptId : String) (toStatus : ExecutionStatus)
    (errorCode : Option String) (eventUuid : String) (now : Instant)
  | cancel (actionId : String) (attemptId : Option String) (eventUuid : String) (now : Instant)
  | startPlayback (decisionId : String) (actor : IdentitySnapshot) (now : Instant)
  | fillDraft (actionId : String)
  | recordFailure (playbackId : String) (now : Instant)
  | recordCompletion (playback : Playback) (actions : List ExecutionAction) (recordedAt : Instant)
  | getEmail (config : MailConfig) (decisionId : String) (now : Instant)
  | saveEmail (config : MailConfig) (decisionId : String) (revision : Nat) (subject body : String)
    (actor : IdentitySnapshot) (now : Instant)
  | reviewEmail (config : MailConfig) (decisionId : String) (revision : Nat)
    (actor : IdentitySnapshot) (now : Instant)
  | claimEmail (config : MailConfig) (decisionId : String) (revision : Nat)
    (actor : IdentitySnapshot) (correlationId : String) (now : Instant)
  | recordOutcome (decisionId correlationId : String) (now : Instant) (outcome : SendOutcome)
  | checkRecords (config : MailConfig) (decisionId : String) (actor : IdentitySnapshot)
  | recordCheck (decisionId correlationId : String) (now : Instant) (result : ProviderCheck)

namespace Transaction

variable (env : Env)

/-- The program of a transaction. -/
def program : Transaction → Sql (Exit Unit)
  | createCase case snapshot => (SupplyResponse.createCase env case snapshot).effect
  | saveCaseProjection case => (SupplyResponse.saveCaseProjection env case).effect
  | saveAnalysis analysis projected now =>
    (SupplyResponse.saveAnalysis env analysis projected now).effect
  | insertClaim caseId version claimId claimedAt lease =>
    (SupplyResponse.insertClaim env caseId version claimId claimedAt lease).effect
  | takeOverClaim caseId version claimId claimedAt lease =>
    (SupplyResponse.takeOverClaim env caseId version claimId claimedAt lease).effect
  | releaseAnalysisClaim caseId version claimId =>
    (SupplyResponse.releaseAnalysisClaim env caseId version claimId).effect
  | completeAnalysisClaim analysis projected version claimId completedAt now =>
    (SupplyResponse.completeAnalysisClaim env analysis projected version claimId completedAt
      now).effect
  | submit command actor selectionUuid reviewUuid clock =>
    (submitTransaction env command actor selectionUuid reviewUuid clock).effect
  | resolve command actor clock => (resolveTransaction env command actor clock).effect
  | finalize command actor decisionUuid eventUuid clock =>
    (finalizeTransaction env command actor decisionUuid eventUuid clock).effect
  | record command actor decisionUuid eventUuid decidedAt =>
    (recordTransaction env command actor decisionUuid eventUuid decidedAt).effect
  | processOutbox planner filter eventUuid processedAt =>
    (processTransaction env planner filter eventUuid processedAt).effect
  | eventOnlyFailure claim code now => (eventOnlyTransaction claim code now).effect
  | recoverFailure claim error now => (recoveryTransaction env claim error now).effect
  | createAction action eventUuid => (SupplyResponse.createAction env action eventUuid).effect
  | beginAttempt actionId required attemptUuid eventUuid startedAt occurredAt =>
    (SupplyResponse.beginAttempt env actionId required attemptUuid eventUuid startedAt
      occurredAt).effect
  | finishAttempt actionId attemptId toStatus errorCode eventUuid now =>
    (SupplyResponse.finishAttempt env actionId attemptId toStatus errorCode eventUuid now).effect
  | cancel actionId attemptId eventUuid now =>
    (SupplyResponse.cancel actionId attemptId eventUuid now).effect
  | startPlayback decisionId actor now =>
    (SupplyResponse.startPlayback env decisionId actor now).effect
  | fillDraft actionId => (SupplyResponse.fillDraft env actionId).effect
  | recordFailure playbackId now => (SupplyResponse.recordFailure playbackId now).effect
  | recordCompletion playback actions recordedAt =>
    (SupplyResponse.recordCompletion env playback actions recordedAt).effect
  | getEmail config decisionId now => (SupplyResponse.getEmail env config decisionId now).effect
  | saveEmail config decisionId revision subject body actor now =>
    (SupplyResponse.saveEmail env config decisionId revision subject body actor now).effect
  | reviewEmail config decisionId revision actor now =>
    (SupplyResponse.reviewEmail env config decisionId revision actor now).effect
  | claimEmail config decisionId revision actor correlationId now =>
    (SupplyResponse.claimEmail env config decisionId revision actor correlationId now).effect
  | recordOutcome decisionId correlationId now outcome =>
    (SupplyResponse.recordOutcome decisionId correlationId now outcome).effect
  | checkRecords config decisionId actor =>
    (SupplyResponse.checkRecords env config decisionId actor).effect
  | recordCheck decisionId correlationId now result =>
    (SupplyResponse.recordCheck decisionId correlationId now result).effect

/-- The write statements of a transaction. -/
def kinds : Transaction → List WriteKind
  | createCase .. => [.newCase, .newSnapshot, .newProjection]
  | saveCaseProjection .. => [.saveProjection]
  | saveAnalysis .. => [.newAnalysis, .advanceLegacy, .compareAndSet, .newReview]
  | insertClaim .. => [.newClaim]
  | takeOverClaim .. => [.newClaim, .dropClaim]
  | releaseAnalysisClaim .. => [.dropClaim]
  | completeAnalysisClaim .. =>
    [.newAnalysis, .advanceLegacy, .compareAndSet, .newReview, .dropClaim]
  | submit .. => [.newReview, .newSelection, .compareAndSet]
  | resolve .. => [.guard, .newReview]
  | finalize .. => [.guard, .compareAndSet, .newReview, .newDecision, .newSatisfaction, .newEvent,
      .setDecision]
  | record .. => [.newDecision, .newSatisfaction, .newEvent, .setDecision]
  | processOutbox .. => [.claimEvent, .guard, .newAction, .newActionProjection, .newStatusEvent,
      .newDraft, .processEvent, .setStatus]
  | eventOnlyFailure .. => [.failEvent]
  | recoverFailure .. => [.failEvent, .guard, .setStatus]
  | createAction .. => [.guard, .newAction, .newActionProjection, .newStatusEvent, .newDraft]
  | beginAttempt .. => [.guard, .newAttempt, .countAttempt, .setAction, .newStatusEvent]
  | finishAttempt .. => [.guard, .endAttempt, .setAction, .newStatusEvent]
  | cancel .. => [.endAttempt, .setAction, .newStatusEvent]
  | startPlayback .. => [.newPlayback, .guard]
  | fillDraft .. => [.fillDraft, .guard]
  | recordFailure .. => [.endPlayback]
  | recordCompletion .. => [.guard, .newObservation, .endPlayback]
  | getEmail .. => [.guard, .newDelivery, .newRevision]
  | saveEmail .. => [.guard, .lockDelivery, .newRevision, .setDelivery]
  | reviewEmail .. => [.guard, .lockDelivery, .markRevision, .setDelivery]
  | claimEmail .. => [.guard, .claimDelivery]
  | recordOutcome .. => [.moveDelivery]
  | checkRecords .. => [.guard]
  | recordCheck .. => [.moveDelivery]

end Transaction

/-- A transaction writes by its kinds only. -/
theorem uses_program (env : Env) (t : Transaction) : Uses t.kinds (t.program env) := by
  have forget : ∀ {α : Type} {p : Sql (Exit α)}, Uses t.kinds p → Uses t.kinds p.effect :=
    fun h => ⟨h.writes.effect⟩
  cases t <;> refine forget ?_ <;> dsimp only [Transaction.kinds]
  case createCase => exact uses_createCase env (by decide) (by decide) (by decide) _ _
  case saveCaseProjection => exact uses_saveCaseProjection env (by decide) _
  case saveAnalysis =>
    exact uses_saveAnalysis env (by decide) (by decide) (by decide) (by decide) _ _ _
  case insertClaim => exact uses_insertClaim env (by decide) _ _ _ _ _
  case takeOverClaim => exact uses_takeOverClaim env (by decide) (by decide) _ _ _ _ _
  case releaseAnalysisClaim => exact uses_releaseAnalysisClaim env (by decide) _ _ _
  case completeAnalysisClaim =>
    exact uses_completeAnalysisClaim env (by decide) (by decide) (by decide) (by decide)
      (by decide) _ _ _ _ _ _
  case submit => exact uses_submitTransaction env (by decide) (by decide) (by decide) _ _ _ _ _
  case resolve => exact uses_resolveTransaction env (by decide) (by decide) _ _ _
  case finalize =>
    exact uses_finalizeTransaction env (by decide) (by decide) (by decide) (by decide)
      (by decide) (by decide) (by decide) _ _ _ _ _
  case record =>
    exact uses_recordTransaction env (by decide) (by decide) (by decide) (by decide) _ _ _ _ _
  case processOutbox =>
    exact uses_processTransaction env (by decide) (by decide) (by decide) (by decide) (by decide)
      (by decide) (by decide) (by decide) _ _ _ _
  case eventOnlyFailure => exact uses_eventOnlyTransaction (by decide) _ _ _
  case recoverFailure =>
    exact uses_recoveryTransaction env (by decide) (by decide) (by decide) _ _ _
  case createAction =>
    exact uses_createAction env (by decide) (by decide) (by decide) (by decide) (by decide) _ _
  case beginAttempt =>
    exact uses_beginAttempt env (by decide) (by decide) (by decide) (by decide) (by decide)
      _ _ _ _ _ _
  case finishAttempt =>
    exact uses_finishAttempt env (by decide) (by decide) (by decide) (by decide) _ _ _ _ _ _
  case cancel => exact uses_cancel (by decide) (by decide) (by decide) _ _ _ _
  case startPlayback => exact uses_startPlayback env (by decide) (by decide) _ _ _
  case fillDraft => exact uses_fillDraft env (by decide) (by decide) _
  case recordFailure => exact uses_recordFailure (by decide) _ _
  case recordCompletion =>
    exact uses_recordCompletion env (by decide) (by decide) (by decide) _ _ _
  case getEmail => exact uses_getEmail env _ (by decide) (by decide) (by decide) _ _
  case saveEmail =>
    exact uses_saveEmail env _ (by decide) (by decide) (by decide) (by decide) _ _ _ _ _ _
  case reviewEmail =>
    exact uses_reviewEmail env _ (by decide) (by decide) (by decide) (by decide) _ _ _ _
  case claimEmail => exact uses_claimEmail env _ (by decide) (by decide) _ _ _ _ _
  case recordOutcome _ _ _ outcome =>
    cases outcome <;> exact uses_transition (by decide) _ _ _ _ _ _ _ _
  case checkRecords => exact uses_checkRecords env _ (by decide) _ _
  case recordCheck _ _ _ result =>
    cases result <;> exact uses_transition (by decide) _ _ _ _ _ _ _ _

/-! ### A sample case

The records and commands of one small case, at which the results are evaluated. -/

/-- 64 equal hexadecimal digits. -/
def hexText (c : Char) : String := String.ofList (List.replicate 64 c)

theorem isSha256_hexText {c : Char} (hc : ('0' ≤ c ∧ c ≤ '9') ∨ ('a' ≤ c ∧ c ≤ 'f')) :
    IsSha256 (hexText c) := by
  unfold IsSha256 hexText
  rw [String.toList_ofList, List.length_replicate]
  exact ⟨rfl, fun d hd => List.eq_of_mem_replicate hd ▸ hc⟩

def sampleAlex : IdentitySnapshot where
  personaId := "RL-PERSONA-ALEX"
  effectiveRoles := alexRoles
  identitySource := .entra
  sourceId := "RL-ENTRA-ALEX"
  tenantId := some "00000000000000000000000000000001"
  objectId := some "00000000000000000000000000000002"

/-- One digest for every kind of material; two for the Decisions. -/
def sampleSha256 : HashMaterial → String
  | .analysis _ => hexText 'a'
  | .materialVersion _ => hexText 'b'
  | .submission .. => hexText 'c'
  | .resolution .. => hexText 'd'
  | .finalization .. => hexText 'e'
  | .decision _ actor => hexText (if actor = sampleAlex then 'f' else '1')
  | .supersession .. => hexText '0'

def sampleEnv : Env where
  runtimeMode := .fallback
  actors := ⟨⟨1⟩, ⟨2⟩, ⟨3⟩, by decide⟩
  sha256 := sampleSha256
  sha256_hex material := by
    cases material <;> try exact isSha256_hexText (by decide)
    exact isSha256_hexText (by split <;> decide)
  uuid5 := id

def sampleTaylor : IdentitySnapshot where
  personaId := "RL-PERSONA-TAYLOR"
  effectiveRoles := taylorRoles
  identitySource := .entra
  sourceId := "RL-ENTRA-TAYLOR"
  tenantId := some "00000000000000000000000000000001"
  objectId := some "00000000000000000000000000000003"

def sampleCase (workflow : WorkflowVersion) : CaseInstance where
  caseId := "case"
  templateId := "template"
  purpose := .automatedTest
  runtimeMode := .fallback
  scenarioEffectiveTime := 0
  workflowVersion := some workflow

def sampleSnapshot : OperationalSnapshot where
  caseId := "case"
  runtimeMode := .fallback
  scenarioEffectiveTime := 0
  analysisHorizonStart := 0
  analysisHorizonEnd := 0
  inventoryPositions := []
  productionOrders := []
  customerOrders := []
  disruption := ⟨"d", "s", "l", "p", "c", 10, 0, 5, none, none, "r"⟩
  alphaExpedite := none
  transfer := ⟨"t", "p", "d", "c", 5, 0, 0, 0⟩
  betaQualification := ⟨"q", "s", "p", .pending, none, "r", none, none, none⟩

def sampleOption (cost : Money) : ResponseOption where
  optionId := "option"
  optionKind := .transfer
  name := "Transfer"
  executable := true
  activeMitigation := true
  predicted := some ⟨0, 0, 0, 0, cost, []⟩
  prerequisiteRoles := ["material_planner"]

def sampleRanking : RankingResult where
  policyVersion := "ranking"
  eligibleOptionIds := ["option"]
  infeasibleOptionIds := []
  excludedBaselineIds := []
  stages := []
  recommendedOptionId := some "option"
  noFeasibleMitigation := false

def sampleAnalysis (workflow : WorkflowVersion) (analysisId : String) (cost : Money) :
    AnalysisVersion where
  analysisId := analysisId
  caseId := "case"
  analysisStartedAt := 0
  retrievalWindowEndsAt := 0
  createdAt := 0
  materialHash := hexText 'a'
  material :=
    { caseId := "case"
      templateId := "template"
      casePurpose := .automatedTest
      runtimeMode := .fallback
      corpus := .demoCorpus
      scenarioEffectiveTime := 0
      operationalSnapshotJson := sampleSnapshot
      requiredAuthorityScope := []
      evidence := []
      conflicts := []
      conflictResolutions := []
      evidenceValidation := ⟨"evidence", [], [], []⟩
      responseOptions := [.fromOption (sampleOption cost)]
      standingAuthorizations := []
      approvalSatisfactions := []
      ranking := sampleRanking
      calculationVersion := "calculation"
      evidencePolicyVersion := "evidence"
      approvalPolicyVersion := workflow.value }
  evidenceItems := []
  evidenceValidation := ⟨"evidence", [], [], []⟩
  responseOptions := [sampleOption cost]
  approvalSatisfactions := []
  ranking := sampleRanking

def sampleToken (generation : Nat) (selectionId : Option String)
    (h : ∀ id ∈ selectionId, IsIdentifier id) : ProposalToken where
  generation := generation
  analysisId := some "analysis"
  analysisMaterialHash := some (hexText 'a')
  selectionId := selectionId
  valid := ⟨by decide, h, fun _ hash => Option.some.inj hash ▸ isSha256_hexText (by decide),
    Iff.rfl, fun _ => rfl⟩

def sampleSubmit : SubmitProposalCommand :=
  ⟨"case", "option", sampleToken 1 none (by decide), "submit", by decide⟩

def sampleResolve : ResolveFinanceCommand :=
  ⟨"RL-FINANCE-1", sampleToken 2 (some "RL-SELECTION-1") (by decide), 1, true, none, "resolve",
    by decide⟩

def sampleFinalize : FinalizeProposalCommand :=
  ⟨"case", sampleToken 3 (some "RL-SELECTION-1") (by decide), .approved, "finalize", none,
    by decide⟩

/-- A case is analyzed, a response above the threshold is submitted, approved
by Taylor and finalized. -/
def sampleTransactions : List Transaction :=
  [.createCase (sampleCase .independentFinance) sampleSnapshot,
    .saveAnalysis (sampleAnalysis .independentFinance "analysis" 25000) none 0,
    .submit sampleSubmit sampleAlex "1" "1" (some 0),
    .resolve sampleResolve sampleTaylor (some 0),
    .finalize sampleFinalize sampleAlex "1" "1" (some 0)]

/-- The sample case ends with one approval, under the independent workflow. -/
theorem sample_approved :
    let s := history (Transaction.program sampleEnv) sampleTransactions Store.empty
    ∃ d ∈ s.decisions, d.kind = .approved ∧
      s.cases.get? (.case d.caseId) = some (sampleCase .independentFinance) := by
  intro s
  have hstored : (s.decisions.get? (.decision "RL-DECISION-1")).any (fun d =>
      d.kind = .approved ∧ s.cases.get? (.case d.caseId) = some (sampleCase .independentFinance)) =
        true := by
    decide +kernel
  obtain ⟨d, hd, hprop⟩ := (Option.any_eq_true _ _).mp hstored
  exact ⟨d, Table.mem_of_get? hd, of_decide_eq_true hprop⟩

end SupplyResponse
