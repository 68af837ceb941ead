/-
Action planning from the outbox (`ActionPlanningWorker`).

* `attemptClaimed`, `processTransaction` — claim, plan and finish an event in
  one transaction;
* `recoveryTransaction`, `eventOnlyTransaction` — the records of a failed
  attempt;
* `processOutbox` — one attempt with its recovery;
* `runWorkerUntilIdle` — the loop of `process_next_outbox`;
* `returns_processTransaction`, `returns_recoveryTransaction`,
  `returns_eventOnlyTransaction` — what each transaction committed.
-/
import SupplyResponse.Persistence.Execution
import SupplyResponse.Services.Planner
import SupplyResponse.Transact.Loop

namespace SupplyResponse

open Transact Transact.Prog
open Keyed (keys)

variable (env : Env)

/-- `Planner`: the actions, or any exception. -/
abbrev ActionPlanner := Decision → AnalysisVersion → Except Raised (List ExecutionAction)

/-! ### Error codes -/

/-- `type(error).__name__`. -/
def ExceptionClass.typeName : ExceptionClass → String
  | recordNotFound => "RecordNotFound"
  | immutableRecordConflict => "ImmutableRecordConflict"
  | persistenceIntegrityError => "PersistenceIntegrityError"
  | runtimeModeConflict => "RuntimeModeConflict"
  | analysisClaimBusy => "AnalysisClaimBusy"
  | staleProposal => "StaleProposal"
  | selectionIdempotencyConflict => "SelectionIdempotencyConflict"
  | financeReviewIdempotencyConflict => "FinanceReviewIdempotencyConflict"
  | financeReviewRevisionConflict => "FinanceReviewRevisionConflict"
  | financeReviewViolation => "FinanceReviewViolation"
  | financeCommandConflict => "FinanceCommandConflict"
  | financeRequestInvalid => "FinanceRequestInvalid"
  | financePermissionDenied => "FinancePermissionDenied"
  | financeFinalizationConflict => "FinanceFinalizationConflict"
  | financeFinalizationInvalid => "FinanceFinalizationInvalid"
  | decisionPolicyViolation .. => "DecisionPolicyViolation"
  | idempotencyKeyConflict => "IdempotencyKeyConflict"
  | executionProposalStale => "ExecutionProposalStale"
  | illegalExecutionTransition => "IllegalExecutionTransition"
  | integrityError => "IntegrityError"
  | validationError => "ValidationError"
  | valueError => "ValueError"
  | multipleResultsFound => "MultipleResultsFound"
  | playbackAuthorizationError => "PlaybackAuthorizationError"
  | playbackStateError => "PlaybackStateError"
  | emailAuthorizationError => "EmailAuthorizationError"
  | emailRevisionConflict => "EmailRevisionConflict"
  | emailStateError => "EmailStateError"
  | emailSendDisabled => "EmailSendDisabled"
  | presenterRetentionPlanChanged => "PresenterRetentionPlanChanged"
  | presenterRetentionLockUnavailable => "PresenterRetentionLockUnavailable"
  | plannerError typeName => typeName

/-- `re.sub("(?<!^)(?=[A-Z])", "_", name).upper()`. -/
def screamingSnake (name : List Char) : List Char :=
  name.zipIdx.flatMap fun (c, i) =>
    if 0 < i ∧ 'A' ≤ c ∧ c ≤ 'Z' then ['_', c] else [c.toUpper]

/-- `error_code`. -/
def errorCode (error : Raised) : String := String.ofList (screamingSnake error.cls.typeName.toList)

example : errorCode ⟨.recordNotFound, ""⟩ = "RECORD_NOT_FOUND" := by decide +kernel

/-! ### One attempt -/

/-- The inserts of the planned actions, each under a fresh event id. -/
def insertPlanned (eventUuid : Nat → String) (actions : List ExecutionAction) : Sql Unit :=
  forEach (fun item : ExecutionAction × Nat => do
    let _ ← insertActionIfAbsent env item.1 (eventUuid item.2)
    pure ()) actions.zipIdx

/-- What `process_…_outbox` knows when its transaction ends. -/
inductive WorkerOutcome
  | idle
  | planned (decision : Decision) (analysis : AnalysisVersion) (actions : List ExecutionAction)
  | failed (claim : OutboxClaim) (error : Raised)

/-- The part of `_process_outbox` behind the claim. -/
def attemptClaimed (planner : ActionPlanner) (eventUuid : Nat → String) (processedAt : Instant)
    (claim : OutboxClaim) : Sql (Exit WorkerOutcome) := do
  validateClaimedOutbox claim
  let decision ← guardExecutionCurrent env claim.decisionId
  let analysis ← getAnalysis env decision.analysisId
  let actions ← ofExcept (planner decision analysis)
  insertPlanned env eventUuid actions
  markOutboxProcessed claim.eventId processedAt
  markActionPlanningComplete env decision.caseId
  pure (.commit (.planned decision analysis actions))

/-- The transaction of `_process_outbox`; an exception behind the claim rolls it
back and is handed to the recovery. -/
def processTransaction (planner : ActionPlanner) (filter : OutboxFilter)
    (eventUuid : Nat → String) (processedAt : Instant) : Sql (Exit WorkerOutcome) := do
  let claim ← claimOutbox filter
  match claim with
  | none => pure (.rollback .idle)
  | some claim =>
    (attemptClaimed env planner eventUuid processedAt claim).tryCatch fun e =>
      pure (.rollback (.failed claim e))

/-! ### Recovery -/

/-- `_event_only_failure`. -/
def eventOnlyTransaction (claim : OutboxClaim) (code : String) (now : Instant) :
    Sql (Exit Bool) := do
  let expected ← getOutboxState claim.eventId
  let changed ← recordOutboxFailureIfCurrent claim.eventId expected code now
  pure (if changed then .commit true else .rollback false)

/-- How `_recover_failure` ends: an answer, or an exception of its own, with
the workflow it had found. -/
inductive RecoveryOutcome
  | answer (recorded : Bool)
  | failed (independent : Bool) (error : Raised)

/-- The legacy branch of `_recover_failure`. -/
def recoverLegacy (claim : OutboxClaim) (code : String) : Sql (Exit RecoveryOutcome) := do
  recordOutboxFailure claim.eventId code
  markActionPlanningFailed env claim.caseId
  pure (.commit (.answer true))

/-- The independent branch of `_recover_failure`. -/
def recoverIndependent (claim : OutboxClaim) (code : String) (now : Instant) :
    Sql (Exit RecoveryOutcome) := do
  let expected ← getOutboxState claim.eventId
  if expected.processedAt.isSome ∨ expected.lastError = some executionProposalStaleError then
    pure (.rollback (.answer false))
  else do
    let decision ← guardExecutionCurrent env claim.decisionId
    let recorded ← recordOutboxFailureIfCurrent claim.eventId expected code now
    if recorded then do
      markActionPlanningFailed env decision.caseId
      pure (.commit (.answer true))
    else pure (.rollback (.answer false))

/-- The transaction of `_recover_failure`. -/
def recoveryTransaction (claim : OutboxClaim) (error : Raised) (now : Instant) :
    Sql (Exit RecoveryOutcome) := do
  let projection ← (Except.ok <$> getProjection env claim.caseId).tryCatch fun e =>
    pure (Except.error e)
  match projection with
  | .error e => pure (.rollback (.failed false e))
  | .ok projection =>
    if projection.case.effectiveWorkflowVersion = .independentFinance then
      (recoverIndependent env claim (errorCode error) now).tryCatch fun e =>
        pure (.rollback (.failed true e))
    else
      (recoverLegacy env claim (errorCode error)).tryCatch fun e =>
        pure (.rollback (.failed false e))

/-- `_recover_failure`. -/
def recoverFailure (claim : OutboxClaim) (error : Raised) (now : Instant) (s : Store) :
    Except Raised Bool × Store :=
  let stale := (eventOnlyTransaction claim executionProposalStaleError now).transact
  if error.cls = .executionProposalStale then ((stale s).1.map fun _ => false, (stale s).2)
  else
    match (recoveryTransaction env claim error now).transact s with
    | (.ok (.answer recorded), s') => (.ok recorded, s')
    | (.ok (.failed independent e), s') =>
      if e.cls = .executionProposalStale then ((stale s').1.map fun _ => false, (stale s').2)
      else if independent then
        match (eventOnlyTransaction claim (errorCode error) now).transact s' with
        | (.ok _, s'') => (.error e, s'')
        | (.error e', s'') => (.error e', s'')
      else (.error e, s')
    | (.error e, s') => (.error e, s')

/-- `_process_outbox`. -/
def processOutbox (planner : ActionPlanner) (filter : OutboxFilter) (eventUuid : Nat → String)
    (processedAt failedAt : Instant) (s : Store) : Except Raised Bool × Store :=
  match (processTransaction env planner filter eventUuid processedAt).transact s with
  | (.ok .idle, s') => (.ok false, s')
  | (.ok (.planned ..), s') => (.ok true, s')
  | (.ok (.failed claim e), s') => recoverFailure env claim e failedAt s'
  | (.error e, s') => (.error e, s')

/-- `process_next_outbox`. -/
def processNextOutbox (planner : ActionPlanner) (versions : Option (List WorkflowVersion))
    (now : Instant) : (Nat → String) → Instant → Instant → Store → Except Raised Bool × Store :=
  processOutbox env planner ⟨now, none, true, versions⟩

/-- `process_next_unattempted_outbox`. -/
def processNextUnattemptedOutbox (planner : ActionPlanner)
    (versions : Option (List WorkflowVersion)) (now : Instant) :
    (Nat → String) → Instant → Instant → Store → Except Raised Bool × Store :=
  processOutbox env planner ⟨now, none, false, versions⟩

/-- `process_decision_outbox`. -/
def processDecisionOutbox (planner : ActionPlanner) (versions : Option (List WorkflowVersion))
    (decisionId : String) (now : Instant) :
    (Nat → String) → Instant → Instant → Store → Except Raised Bool × Store :=
  processOutbox env planner ⟨now, some decisionId, true, versions⟩

/-! ### Draining -/

/-- What an attempt takes from its surroundings: the planner, fresh event ids,
and the clock at the claim, at the end and at a failure. -/
structure PlanningAttempt where
  planner : ActionPlanner
  eventUuid : Nat → String
  now : Instant
  processedAt : Instant
  failedAt : Instant

/-- The selection of an attempt of `process_next_outbox`. -/
def PlanningAttempt.filter (versions : Option (List WorkflowVersion)) (a : PlanningAttempt) :
    OutboxFilter :=
  ⟨a.now, none, true, versions⟩

/-- `process_next_outbox` in these surroundings. -/
def PlanningAttempt.next (versions : Option (List WorkflowVersion)) (a : PlanningAttempt) :
    Store → Except Raised Bool × Store :=
  processNextOutbox env a.planner versions a.now a.eventUuid a.processedAt a.failedAt

/-- `run_worker_until_idle`, for at most `fuel` attempts. -/
def runWorkerUntilIdle (versions : Option (List WorkflowVersion)) (attempts : ℕ → PlanningAttempt)
    (fuel : ℕ) (s : Store) : Option (Except Raised Unit × Store) :=
  loop (fun i => (attempts i).next env versions) fuel 0 s

/-! ### What the transactions committed -/

/-- The inserts of a plan, one after the other. -/
inductive InsertsPlan : Store → List ExecutionAction → Store → Prop
  | nil (s : Store) : InsertsPlan s [] s
  | found {s s' : Store} {action : ExecutionAction} {rest : List ExecutionAction}
      (stored : s.actions.get? (.action action.actionId) = some action)
      (tail : InsertsPlan s rest s') : InsertsPlan s (action :: rest) s'
  | inserted {s s₁ s' : Store} {action : ExecutionAction} {eventUuid : String}
      {rest : List ExecutionAction} (inserts : InsertsAction s action eventUuid s₁)
      (tail : InsertsPlan s₁ rest s') : InsertsPlan s (action :: rest) s'

theorem returns_insertPlanned {eventUuid : Nat → String} {actions : List ExecutionAction} {n : Nat}
    {s s' : Store} {u : Unit}
    (h : (forEach (fun item : ExecutionAction × Nat => do
      let _ ← insertActionIfAbsent env item.1 (eventUuid item.2)
      pure ()) (actions.zipIdx n)).Returns s u s') : InsertsPlan s actions s' := by
  induction actions generalizing s n with
  | nil =>
    obtain ⟨-, rfl⟩ := returns_done.mp h
    exact .nil _
  | cons action rest ih =>
    rw [List.zipIdx_cons] at h
    obtain ⟨_, s₁, hfirst, hrest⟩ := returns_bind.mp h
    obtain ⟨b, s₂, hins, hdone⟩ := returns_bind.mp hfirst
    obtain ⟨-, rfl⟩ := returns_done.mp hdone
    obtain ⟨-, -, hcases⟩ := returns_insertActionIfAbsent env hins
    rcases hcases with ⟨-, rfl, hstored⟩ | ⟨-, hinserts⟩
    · exact .found hstored (ih hrest)
    · exact .inserted hinserts (ih hrest)

/-- A plan changes the tables of actions, their projections, events and drafts. -/
theorem InsertsPlan.frame {s s' : Store} {actions : List ExecutionAction}
    (h : InsertsPlan s actions s') :
    s' = { s with
      actions := s'.actions
      actionProjections := s'.actionProjections
      statusEvents := s'.statusEvents
      drafts := s'.drafts } := by
  induction h with
  | nil => rfl
  | found _ _ ih => exact ih
  | inserted hins _ ih =>
    obtain ⟨drafts, -, -, -, -, -, rfl⟩ := hins.effect
    exact ih

/-- A committed plan: the event was claimed and its Decision guarded, the plan
inserted, the event processed and the case marked as executing. -/
structure Plans (s : Store) (planner : ActionPlanner) (claim : OutboxClaim) (decision : Decision)
    (analysis : AnalysisVersion) (actions : List ExecutionAction) (s' : Store) : Prop where
  ready : ∃ filter row, outboxCandidate s filter = some claim ∧
    s.outbox.get? (.outbox claim.eventId) = some row ∧ row.Ready filter ∧
    row.event.decisionId = claim.decisionId ∧ row.event.caseId = claim.caseId
  decisionId : decision.decisionId = claim.decisionId
  bound : s.analyses.get? (.analysis decision.analysisId) = some analysis
  plan : planner decision analysis = .ok actions
  effect : ∃ now processedAt row s₁ s₂,
    Guarded (s.modifyOutbox claim.eventId (OutboxRow.claimed now) (fun _ _ => rfl)) decision s₁ ∧
    InsertsPlan s₁ actions s₂ ∧
    s₂.projections.get? (.projection decision.caseId) = some row ∧
    s' = { s₂.modifyOutbox claim.eventId (OutboxRow.processed processedAt) (fun _ _ => rfl) with
      projections := s₂.projections.modify (.projection decision.caseId)
        (fun r => { r with case := row.case.withStatus .executing }) (fun _ _ => rfl) }

/-- A guard leaves every table but the projections alone. -/
theorem Guarded.frame {s s' : Store} {decision : Decision} (h : Guarded s decision s') :
    s' = { s with projections := s'.projections } := by
  by_cases hp : decision.approvalPolicyVersion = WorkflowVersion.independentFinance.value
  · obtain ⟨evidence, token, -, -, -, rfl⟩ := h.independent hp
    rfl
  · rw [h.legacy hp]

theorem returns_processTransaction {planner : ActionPlanner} {filter : OutboxFilter}
    {eventUuid : Nat → String} {processedAt : Instant} {s s' : Store} {outcome : WorkerOutcome}
    (h : (processTransaction env planner filter eventUuid processedAt).Commits s outcome s') :
    ∃ claim decision analysis actions, outcome = .planned decision analysis actions ∧
      outboxCandidate s filter = some claim ∧
        Plans s planner claim decision analysis actions s' := by
  obtain ⟨claim, s₁, hclaim, h⟩ := returns_bind.mp h
  cases claim with
  | none => cases (returns_done.mp h).1
  | some claim =>
    obtain ⟨hcand, row, hrow, hready, rfl⟩ := returns_claimOutbox hclaim
    rcases returns_tryCatch.mp h with h | ⟨e, s₂, -, h⟩
    · obtain ⟨_, hval, h⟩ := (readOnly_validateClaimedOutbox claim).returns_bind.mp h
      obtain ⟨row', hrow', hclaimed⟩ := returns_validateClaimedOutbox hval
      obtain ⟨decision, s₂, hguard, h⟩ := returns_bind.mp h
      obtain ⟨hid, hguarded⟩ := returns_guardExecutionCurrent env hguard
      obtain ⟨analysis, hanalysis, h⟩ := (readOnly_getAnalysis env _).returns_bind.mp h
      obtain ⟨-, hget, -⟩ := returns_getAnalysis env hanalysis
      rw [returns_ofExcept_bind] at h
      obtain ⟨actions, hplan, h⟩ := h
      obtain ⟨_, s₃, hins, h⟩ := returns_bind.mp h
      have hinserts := returns_insertPlanned env hins
      obtain ⟨_, s₄, hmark, h⟩ := returns_bind.mp h
      obtain ⟨-, -, -, -, rfl⟩ := returns_markOutboxProcessed hmark
      obtain ⟨_, s₅, hstatus, h⟩ := returns_bind.mp h
      obtain ⟨heq, rfl⟩ := returns_done.mp h
      obtain ⟨prow, hprow, -, rfl⟩ := returns_setCaseStatus env hstatus
      obtain rfl : outcome = .planned decision analysis actions := by injection heq
      rw [get?_modifyOutbox_self, hrow] at hrow'
      obtain rfl := Option.some.inj hrow'
      refine ⟨claim, decision, analysis, actions, rfl, hcand,
        ⟨filter, row, hcand, hrow, hready, hclaimed.2.2.2.1, hclaimed.2.2.2.2.1⟩, hid, ?_, hplan,
        filter.now, processedAt, prow, s₂, s₃, hguarded, hinserts, hprow, rfl⟩
      rw [hguarded.frame] at hget
      exact hget
    · cases (returns_done.mp h).1

/-- A committed failure record: an unprocessed event that was not marked stale. -/
structure RecordsFailure (s : Store) (eventId code : String) (s' : Store) : Prop where
  row : ∃ row, s.outbox.get? (.outbox eventId) = some row ∧ row.processedAt = none ∧
    row.lastError ≠ some executionProposalStaleError
  effect : s' = s.modifyOutbox eventId (OutboxRow.failed code) (fun _ _ => rfl)

theorem returns_eventOnlyTransaction {claim : OutboxClaim} {code : String} {now : Instant}
    {s s' : Store} {b : Bool} (h : (eventOnlyTransaction claim code now).Commits s b s') :
    RecordsFailure s claim.eventId code s' := by
  obtain ⟨expected, -, h⟩ := (readOnly_getOutboxState _).returns_bind.mp h
  obtain ⟨changed, s₁, hrec, h⟩ := returns_bind.mp h
  obtain ⟨heq, rfl⟩ := returns_done.mp h
  rcases returns_recordOutboxFailureIfCurrent hrec with ⟨rfl, -⟩ | ⟨-, row, hrow, hp, he, rfl⟩
  · cases heq
  · exact ⟨⟨row, hrow, hp, he⟩, rfl⟩

/-- A committed recovery: the failure of the event, and the status of the case;
under the independent workflow behind a passed guard. -/
structure Recovers (s : Store) (claim : OutboxClaim) (code : String) (s' : Store) : Prop where
  legacy : ∀ case, s.cases.get? (.case claim.caseId) = some case →
    case.effectiveWorkflowVersion ≠ .independentFinance →
    ∃ s₁ row, RecordsFailure s claim.eventId code s₁ ∧
      s.projections.get? (.projection claim.caseId) = some row ∧
      s' = { s₁ with
        projections := s.projections.modify (.projection claim.caseId)
          (fun r => { r with case := row.case.withStatus .actionPlanning }) (fun _ _ => rfl) }
  independent : ∀ case, s.cases.get? (.case claim.caseId) = some case →
    case.effectiveWorkflowVersion = .independentFinance →
    ∃ decision s₁ s₂ row, decision.decisionId = claim.decisionId ∧ Guarded s decision s₁ ∧
      RecordsFailure s₁ claim.eventId code s₂ ∧
      s₁.projections.get? (.projection decision.caseId) = some row ∧
      s' = { s₂ with
        projections := s₁.projections.modify (.projection decision.caseId)
          (fun r => { r with case := row.case.withStatus .actionPlanning }) (fun _ _ => rfl) }
  case : ∃ case, s.cases.get? (.case claim.caseId) = some case

theorem returns_recoverLegacy {claim : OutboxClaim} {code : String} {s s' : Store}
    {outcome : RecoveryOutcome} (h : (recoverLegacy env claim code).Commits s outcome s') :
    ∃ s₁ row, RecordsFailure s claim.eventId code s₁ ∧
      s.projections.get? (.projection claim.caseId) = some row ∧
      s' = { s₁ with
        projections := s.projections.modify (.projection claim.caseId)
          (fun r => { r with case := row.case.withStatus .actionPlanning })
          (fun _ _ => rfl) } := by
  obtain ⟨_, s₁, hrec, h⟩ := returns_bind.mp h
  obtain ⟨orow, horow, hp, he, rfl⟩ := returns_recordOutboxFailure hrec
  obtain ⟨_, s₂, hstatus, h⟩ := returns_bind.mp h
  obtain ⟨-, rfl⟩ := returns_done.mp h
  obtain ⟨row, hrow, -, rfl⟩ := returns_setCaseStatus env hstatus
  exact ⟨_, row, ⟨⟨orow, horow, hp, he⟩, rfl⟩, hrow, rfl⟩

theorem returns_recoverIndependent {claim : OutboxClaim} {code : String} {now : Instant}
    {s s' : Store} {outcome : RecoveryOutcome}
    (h : (recoverIndependent env claim code now).Commits s outcome s') :
    ∃ decision s₁ s₂ row, decision.decisionId = claim.decisionId ∧ Guarded s decision s₁ ∧
      RecordsFailure s₁ claim.eventId code s₂ ∧
      s₁.projections.get? (.projection decision.caseId) = some row ∧
      s' = { s₂ with
        projections := s₁.projections.modify (.projection decision.caseId)
          (fun r => { r with case := row.case.withStatus .actionPlanning })
          (fun _ _ => rfl) } := by
  obtain ⟨expected, -, h⟩ := (readOnly_getOutboxState _).returns_bind.mp h
  obtain ⟨-, h⟩ | ⟨-, h⟩ := returns_ite.mp h
  · cases (returns_done.mp h).1
  · obtain ⟨decision, s₁, hguard, h⟩ := returns_bind.mp h
    obtain ⟨hid, hguarded⟩ := returns_guardExecutionCurrent env hguard
    obtain ⟨recorded, s₂, hrec, h⟩ := returns_bind.mp h
    obtain ⟨hr, h⟩ | ⟨-, h⟩ := returns_ite.mp h
    · rcases returns_recordOutboxFailureIfCurrent hrec with
        ⟨rfl, -⟩ | ⟨-, orow, horow, hp, he, rfl⟩
      · cases hr
      · obtain ⟨_, s₃, hstatus, h⟩ := returns_bind.mp h
        obtain ⟨-, rfl⟩ := returns_done.mp h
        obtain ⟨row, hrow, -, rfl⟩ := returns_setCaseStatus env hstatus
        exact ⟨decision, s₁, _, row, hid, hguarded, ⟨⟨orow, horow, hp, he⟩, rfl⟩, hrow, rfl⟩
    · cases (returns_done.mp h).1

theorem returns_recoveryTransaction {claim : OutboxClaim} {error : Raised} {now : Instant}
    {s s' : Store} {outcome : RecoveryOutcome}
    (h : (recoveryTransaction env claim error now).Commits s outcome s') :
    Recovers s claim (errorCode error) s' := by
  obtain ⟨projection, hproj, h⟩ := (((readOnly_getProjection env _).map Except.ok).tryCatch
    fun _ => readOnly_done (Except.error _)).returns_bind.mp h
  cases projection with
  | error e => cases (returns_done.mp h).1
  | ok p =>
    obtain ⟨q, hq, heq⟩ : ∃ q, (getProjection env claim.caseId).Returns s q s ∧
        (Except.ok p : Except Raised CaseProjection) = .ok q := by
      rcases returns_tryCatch.mp hproj with hp | ⟨_, _, -, hp⟩
      · exact returns_map.mp hp
      · cases (returns_done.mp hp).1
    obtain rfl := Except.ok.inj heq
    obtain ⟨-, row, stored, -, hcase, -, hprov, hc, -⟩ := returns_getProjection env hq
    have hversion : p.case.effectiveWorkflowVersion = stored.effectiveWorkflowVersion := by
      rw [hc]
      exact hprov.2.2.2.2.2.2.2
    have hunique : ∀ case, s.cases.get? (.case claim.caseId) = some case →
        case.effectiveWorkflowVersion = p.case.effectiveWorkflowVersion := by
      intro case hcase'
      obtain rfl := Option.some.inj (hcase'.symm.trans hcase)
      exact hversion.symm
    obtain ⟨hw, h⟩ | ⟨hw, h⟩ := returns_ite.mp h
    · rcases returns_tryCatch.mp h with h | ⟨_, _, -, h⟩
      · exact ⟨fun case hcase' hl => absurd ((hunique case hcase').trans hw) hl,
          fun _ _ _ => returns_recoverIndependent env h, stored, hcase⟩
      · cases (returns_done.mp h).1
    · rcases returns_tryCatch.mp h with h | ⟨_, _, -, h⟩
      · exact ⟨fun _ _ _ => returns_recoverLegacy env h,
          fun case hcase' hi => absurd ((hunique case hcase').symm.trans hi) hw, stored, hcase⟩
      · cases (returns_done.mp h).1

end SupplyResponse
