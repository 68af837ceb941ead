/-
The outbox of planning events (`SqlAlchemyExecutionRepository`).

* `OutboxRow.Ready`, `claimOutbox` — the first event that a worker may claim;
* `validateClaimedOutbox`, `markOutboxProcessed` — the check and the end of a
  claimed event;
* `recordOutboxFailure`, `recordOutboxFailureIfCurrent` — failed attempts.
-/
import SupplyResponse.Persistence.Decisions

namespace SupplyResponse

open Transact Transact.Prog
open Keyed (keys)

/-- `EXECUTION_PROPOSAL_STALE_ERROR`. -/
def executionProposalStaleError : String := "EXECUTION_PROPOSAL_STALE"

/-- The lease of a claim: five minutes. -/
def outboxLease : ℤ := 300000000

/-! ### Claims -/

/-- The selection of `_claim_outbox`. -/
structure OutboxFilter where
  now : Instant
  decisionId : Option String
  includeFailed : Bool
  workflowVersions : Option (List WorkflowVersion)

/-- The `WHERE` clause of `_claim_outbox`. -/
def OutboxRow.Ready (filter : OutboxFilter) (row : OutboxRow) : Prop :=
  row.event.availableAt ≤ filter.now ∧ row.processedAt = none ∧
    (row.claimStatus = .pending ∨
      row.claimStatus = .claimed ∧ ∃ t ∈ row.claimExpiresAt, t < filter.now) ∧
    row.lastError ≠ some executionProposalStaleError ∧
    (∀ id ∈ filter.decisionId, row.event.decisionId = id) ∧
    (filter.includeFailed = false → row.lastError = none)

instance (filter : OutboxFilter) : DecidablePred (OutboxRow.Ready filter) :=
  fun _ => inferInstanceAs (Decidable (_ ∧ _))

/-- The claim that a row stands for, joined with its Decision and case, if the
workflow of the case is processable. -/
def OutboxRow.candidate (s : Store) (versions : Option (List WorkflowVersion)) (row : OutboxRow) :
    Option OutboxClaim := do
  let decision ← s.decisions.get? (.decision row.event.decisionId)
  let case ← s.cases.get? (.case decision.caseId)
  if ∀ processable ∈ versions, case.effectiveWorkflowVersion ∈ processable then
    some
      { eventId := row.event.eventId
        decisionId := row.event.decisionId
        caseId := decision.caseId
        analysisId := decision.analysisId }
  else none

/-- The first ready event in the order of availability. -/
def outboxCandidate (s : Store) (filter : OutboxFilter) : Option OutboxClaim :=
  ((s.outbox.rows.filter fun row => row.Ready filter).insertionSort fun a b =>
      a.event.availableAt < b.event.availableAt ∨
        a.event.availableAt = b.event.availableAt ∧ a.event.eventId ≤ b.event.eventId).findSome?
    (OutboxRow.candidate s filter.workflowVersions)

/-- The row of a claimed event. -/
@[reducible] def OutboxRow.claimed (now : Instant) (row : OutboxRow) : OutboxRow :=
  { row with
    claimStatus := .claimed
    claimedBy := some "RL-EXECUTION-PLANNER"
    claimedAt := some now
    claimExpiresAt := some (now + outboxLease) }

/-- The `UPDATE … RETURNING` of `_claim_outbox`. -/
def updateClaim (filter : OutboxFilter) (claim : OutboxClaim) : Sql (Option OutboxClaim) := do
  let matched ← updateRow Store.outbox (fun s t => { s with outbox := t }) (.outbox claim.eventId)
    (fun row => row.Ready filter) (OutboxRow.claimed filter.now) (fun _ _ => rfl)
  pure (if matched then some claim else none)

/-- `_claim_outbox`. -/
def claimOutbox (filter : OutboxFilter) : Sql (Option OutboxClaim) := do
  let candidate ← select fun s => outboxCandidate s filter
  match candidate with
  | none => pure none
  | some claim => updateClaim filter claim

/-- The row is claimed, and its event is the one of the claim. -/
def OutboxRow.IsClaimed (row : OutboxRow) (claim : OutboxClaim) : Prop :=
  row.claimStatus = .claimed ∧ row.processedAt = none ∧ row.event.eventId = claim.eventId ∧
    row.event.decisionId = claim.decisionId ∧ row.event.caseId = claim.caseId ∧
    row.event.analysisId = claim.analysisId

instance (row : OutboxRow) (claim : OutboxClaim) : Decidable (row.IsClaimed claim) :=
  inferInstanceAs (Decidable (_ ∧ _))

/-- `validate_claimed_outbox`. -/
def validateClaimedOutbox (claim : OutboxClaim) : Sql Unit := do
  let row ← getRow Store.outbox (.outbox claim.eventId)
    ⟨.recordNotFound, s!"claimed outbox event does not exist: {claim.eventId}"⟩
  require (row.IsClaimed claim)
    (integrityError "claimed outbox event conflicts with its canonical payload")

/-- The row of a processed event. -/
@[reducible] def OutboxRow.processed (now : Instant) (row : OutboxRow) : OutboxRow :=
  { row with
    claimStatus := .processed
    processedAt := some now
    claimExpiresAt := none
    lastError := none }

/-- `mark_outbox_processed`. -/
def markOutboxProcessed (eventId : String) (now : Instant) : Sql Unit := do
  let matched ← updateRow Store.outbox (fun s t => { s with outbox := t }) (.outbox eventId)
    (fun row => row.claimStatus = .claimed ∧ row.processedAt = none) (OutboxRow.processed now)
    (fun _ _ => rfl)
  require matched ⟨.recordNotFound, s!"claimed outbox event does not exist: {eventId}"⟩

/-! ### Failures -/

/-- The row of a failed attempt. -/
@[reducible] def OutboxRow.failed (errorCode : String) (row : OutboxRow) : OutboxRow :=
  { row with
    claimStatus := .pending
    claimedBy := none
    claimedAt := none
    claimExpiresAt := none
    attemptCount := row.attemptCount + 1
    lastError := some errorCode }

/-- `record_outbox_failure`. -/
def recordOutboxFailure (eventId errorCode : String) : Sql Unit := do
  let matched ← updateRow Store.outbox (fun s t => { s with outbox := t }) (.outbox eventId)
    (fun row => row.processedAt = none ∧ row.lastError ≠ some executionProposalStaleError)
    (OutboxRow.failed errorCode) (fun _ _ => rfl)
  require matched ⟨.recordNotFound, s!"outbox event does not exist: {eventId}"⟩

/-- `get_outbox_state`. -/
def getOutboxState (eventId : String) : Sql OutboxProcessingState := do
  let row ← getRow Store.outbox (.outbox eventId)
    ⟨.recordNotFound, s!"outbox event does not exist: {eventId}"⟩
  pure
    { eventId := row.event.eventId
      claimStatus := row.claimStatus
      processedAt := row.processedAt
      attemptCount := row.attemptCount
      lastError := row.lastError }

/-- The row is still as it was read, and its claim is free or expired. -/
def OutboxRow.Shows (expected : OutboxProcessingState) (now : Instant) (row : OutboxRow) : Prop :=
  row.processedAt = none ∧ row.claimStatus = expected.claimStatus ∧
    row.attemptCount = expected.attemptCount ∧ row.lastError = expected.lastError ∧
    (row.claimStatus = .pending ∨
      row.claimStatus = .claimed ∧ ∃ t ∈ row.claimExpiresAt, t < now) ∧
    row.lastError ≠ some executionProposalStaleError

instance (expected : OutboxProcessingState) (now : Instant) :
    DecidablePred (OutboxRow.Shows expected now) :=
  fun _ => inferInstanceAs (Decidable (_ ∧ _))

/-- `record_outbox_failure_if_current`. -/
def recordOutboxFailureIfCurrent (eventId : String) (expected : OutboxProcessingState)
    (errorCode : String) (now : Instant) : Sql Bool := do
  require (expected.eventId = eventId ∧ Nonblank errorCode)
    ⟨.valueError, "event identity and nonblank error code are required"⟩
  if expected.processedAt.isSome ∨ expected.lastError = some executionProposalStaleError then
    pure false
  else
    updateRow Store.outbox (fun s t => { s with outbox := t }) (.outbox eventId)
      (OutboxRow.Shows expected now) (OutboxRow.failed errorCode) (fun _ _ => rfl)

/-! ### What the writes did -/

/-- The tables after the row of an event was rewritten. -/
def Store.modifyOutbox (s : Store) (eventId : String) (f : OutboxRow → OutboxRow)
    (hf : ∀ r, Key.outbox eventId ∈ keys r → keys (f r) = keys r) : Store :=
  { s with outbox := s.outbox.modify (.outbox eventId) f hf }

@[simp] theorem get?_modifyOutbox_self {s : Store} {eventId : String} {f : OutboxRow → OutboxRow}
    {hf : ∀ r, Key.outbox eventId ∈ keys r → keys (f r) = keys r} :
    (s.modifyOutbox eventId f hf).outbox.get? (.outbox eventId) =
      (s.outbox.get? (.outbox eventId)).map f := by
  unfold Store.modifyOutbox
  rw [Table.get?_modify_self]

theorem outboxCandidate_spec {s : Store} {filter : OutboxFilter} {claim : OutboxClaim}
    (h : outboxCandidate s filter = some claim) :
    ∃ row decision case, row ∈ s.outbox ∧ row.Ready filter ∧ row.event.eventId = claim.eventId ∧
      row.event.decisionId = claim.decisionId ∧
      s.decisions.get? (.decision claim.decisionId) = some decision ∧
      decision.caseId = claim.caseId ∧ decision.analysisId = claim.analysisId ∧
      s.cases.get? (.case claim.caseId) = some case := by
  obtain ⟨row, hrow, hc⟩ := List.exists_of_findSome?_eq_some h
  rw [List.mem_insertionSort, List.mem_filter] at hrow
  obtain ⟨hmem, hready⟩ := hrow
  unfold OutboxRow.candidate at hc
  obtain ⟨decision, hd, hc⟩ := Option.bind_eq_some_iff.mp hc
  obtain ⟨case, hcase, hc⟩ := Option.bind_eq_some_iff.mp hc
  split at hc
  · obtain rfl := Option.some.inj hc
    exact ⟨row, decision, case, hmem, of_decide_eq_true hready, rfl, rfl, hd, rfl, rfl, hcase⟩
  · cases hc

/-- A granted claim marks its row, which was ready. -/
theorem returns_claimOutbox {filter : OutboxFilter} {claim : OutboxClaim} {s s' : Store}
    (h : (claimOutbox filter).Returns s (some claim) s') :
    outboxCandidate s filter = some claim ∧ ∃ row, s.outbox.get? (.outbox claim.eventId) = some row ∧
      row.Ready filter ∧
      s' = s.modifyOutbox claim.eventId (OutboxRow.claimed filter.now) (fun _ _ => rfl) := by
  rw [claimOutbox, returns_select_bind] at h
  rcases hc : outboxCandidate s filter with _ | c <;> simp only [hc] at h
  · cases (returns_done.mp h).1
  · obtain ⟨matched, s₁, hu, h⟩ := returns_bind.mp h
    obtain ⟨heq, rfl⟩ := returns_done.mp h
    rcases returns_updateRow.mp hu with ⟨row, hrow, hready, rfl, rfl⟩ | ⟨-, rfl, -⟩
    · obtain rfl : claim = c := by simpa using heq
      exact ⟨rfl, row, hrow, hready, rfl⟩
    · simp at heq

theorem readOnly_validateClaimedOutbox (claim : OutboxClaim) :
    (validateClaimedOutbox claim).ReadOnly :=
  (readOnly_getRow _ _ _).bind fun _ => readOnly_require _ _

theorem returns_validateClaimedOutbox {claim : OutboxClaim} {s s' : Store} {u : Unit}
    (h : (validateClaimedOutbox claim).Returns s u s') :
    ∃ row, s.outbox.get? (.outbox claim.eventId) = some row ∧ row.IsClaimed claim := by
  rw [validateClaimedOutbox, returns_getRow_bind] at h
  obtain ⟨row, hrow, h⟩ := h
  exact ⟨row, hrow, (returns_require.mp h).1⟩

theorem returns_markOutboxProcessed {eventId : String} {now : Instant} {s s' : Store} {u : Unit}
    (h : (markOutboxProcessed eventId now).Returns s u s') :
    ∃ row, s.outbox.get? (.outbox eventId) = some row ∧ row.claimStatus = .claimed ∧
      row.processedAt = none ∧
      s' = s.modifyOutbox eventId (OutboxRow.processed now) (fun _ _ => rfl) := by
  obtain ⟨matched, s₁, hu, h⟩ := returns_bind.mp h
  obtain ⟨hm, rfl⟩ := returns_require.mp h
  rcases returns_updateRow.mp hu with ⟨row, hrow, ⟨hc, hp⟩, -, rfl⟩ | ⟨-, rfl, -⟩
  · exact ⟨row, hrow, hc, hp, rfl⟩
  · cases hm

theorem returns_recordOutboxFailure {eventId errorCode : String} {s s' : Store} {u : Unit}
    (h : (recordOutboxFailure eventId errorCode).Returns s u s') :
    ∃ row, s.outbox.get? (.outbox eventId) = some row ∧ row.processedAt = none ∧
      row.lastError ≠ some executionProposalStaleError ∧
      s' = s.modifyOutbox eventId (OutboxRow.failed errorCode) (fun _ _ => rfl) := by
  obtain ⟨matched, s₁, hu, h⟩ := returns_bind.mp h
  obtain ⟨hm, rfl⟩ := returns_require.mp h
  rcases returns_updateRow.mp hu with ⟨row, hrow, ⟨hp, he⟩, -, rfl⟩ | ⟨-, rfl, -⟩
  · exact ⟨row, hrow, hp, he, rfl⟩
  · cases hm

theorem readOnly_getOutboxState (eventId : String) : (getOutboxState eventId).ReadOnly :=
  (readOnly_getRow _ _ _).bind fun _ => readOnly_done _

/-- A recorded failure rewrote an unprocessed row that was not marked stale;
otherwise nothing was written. -/
theorem returns_recordOutboxFailureIfCurrent {eventId errorCode : String}
    {expected : OutboxProcessingState} {now : Instant} {s s' : Store} {b : Bool}
    (h : (recordOutboxFailureIfCurrent eventId expected errorCode now).Returns s b s') :
    (b = false ∧ s' = s) ∨
      b = true ∧ ∃ row, s.outbox.get? (.outbox eventId) = some row ∧ row.processedAt = none ∧
        row.lastError ≠ some executionProposalStaleError ∧
        s' = s.modifyOutbox eventId (OutboxRow.failed errorCode) (fun _ _ => rfl) := by
  rw [recordOutboxFailureIfCurrent, returns_require_bind] at h
  obtain ⟨-, ⟨-, h⟩ | ⟨-, h⟩⟩ := And.imp_right returns_ite.mp h
  · obtain ⟨rfl, rfl⟩ := returns_done.mp h
    exact .inl ⟨rfl, rfl⟩
  · rcases returns_updateRow.mp h with ⟨row, hrow, hshows, rfl, rfl⟩ | ⟨-, rfl, rfl⟩
    · exact .inr ⟨rfl, row, hrow, hshows.1, hshows.2.2.2.2.2, rfl⟩
    · exact .inl ⟨rfl, rfl⟩

end SupplyResponse
