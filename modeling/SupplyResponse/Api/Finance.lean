/-
The proposal routes (`apps/api/app/routes/finance.py`).

* `proposalStatus` — the state of the proposal of a case, for Alex;
* `httpStatus` — the statuses of `_map`;
* `proposalRoute`, `submitRoute` — reading a proposal and submitting a response;
* `submitRoute_ok` — an accepted submission replayed the receipt of its key, or stored it.
-/
import SupplyResponse.Runs.Replays

namespace SupplyResponse

open Transact Transact.Prog

variable (env : Env)

/-! ### Reading the proposal -/

/-- `status`. -/
def proposalStatus (caseId : String) (actor : IdentitySnapshot) : Sql ProposalState := do
  requireAlex env actor
  let state ← getState env caseId
  let projection ← getProjection env caseId
  require (projection.case.effectiveWorkflowVersion = .independentFinance)
    ⟨.financeRequestInvalid, "Independent Finance workflow is required"⟩
  requireAlexSelection env state.selection
  pure state

/-- `_map`; an exception that is not mapped ends as an internal error. -/
def ExceptionClass.httpStatus : ExceptionClass → ℕ
  | financePermissionDenied => 403
  | recordNotFound => 404
  | staleProposal | financeCommandConflict | financeReviewRevisionConflict
  | financeFinalizationConflict | financeRequestInvalid | financeFinalizationInvalid => 409
  | _ => 500

/-- `proposal_status`: the state, or the status of the error. -/
def proposalRoute (caseId : String) (actor : IdentitySnapshot) (s : Store) :
    Except ℕ ProposalState :=
  ((proposalStatus env caseId actor).run s).1.mapError fun e => e.cls.httpStatus

/-! ### Submitting a response -/

def SubmitProposalCommand.validate? (caseId optionId : String) (expected : ProposalToken)
    (idempotencyKey : String) : Option SubmitProposalCommand :=
  if h : _ then some ⟨caseId, optionId, expected, idempotencyKey, h⟩ else none

/-- `submit_proposal`, where `enabled` is `independent_finance_enabled`. -/
def submitRoute (enabled : Bool) (caseId optionId : String) (expected : ProposalToken)
    (idempotencyKey : String) (actor : IdentitySnapshot) (selectionUuid reviewUuid : String)
    (clock : ClockReading) (s : Store) : Except ℕ SubmissionResult × Store :=
  if enabled = false then (.error 409, s)
  else match SubmitProposalCommand.validate? caseId optionId expected idempotencyKey with
    | none => (.error 422, s)
    | some command =>
      let (result, s') := submit env command actor selectionUuid reviewUuid clock s
      (result.mapError fun e => e.cls.httpStatus, s')

/-- The receipt that a submission under the key has left. -/
def storedSubmission (s : Store) (idempotencyKey : String) : Option SelectionReceipt :=
  s.selections.get? (.selectionKey ("finance-submit:" ++ idempotencyKey))

variable {env} {s s' : Store}

theorem SubmitProposalCommand.validate?_key {caseId optionId idempotencyKey : String}
    {expected : ProposalToken} {command : SubmitProposalCommand}
    (h : validate? caseId optionId expected idempotencyKey = some command) :
    submitKey command = "finance-submit:" ++ idempotencyKey := by
  unfold validate? at h
  split at h
  · obtain rfl := Option.some.inj h
    rfl
  · cases h

theorem SubmitProposalCommand.validate?_caseId {caseId optionId idempotencyKey : String}
    {expected : ProposalToken} {command : SubmitProposalCommand}
    (h : validate? caseId optionId expected idempotencyKey = some command) :
    command.caseId = caseId := by
  unfold validate? at h
  split at h
  · obtain rfl := Option.some.inj h
    rfl
  · cases h

theorem returns_submissionResult {selection : ProposalSelection} {result : SubmissionResult}
    (h : (submissionResult env selection).Returns s result s') : result.selection = selection := by
  unfold submissionResult at h
  split at h
  · rw [(returns_done.mp h).1]
  · obtain ⟨_, -, h⟩ := (readOnly_getRevision env _ 1).returns_bind.mp h
    rw [(returns_done.mp h).1]

/-- A replay that returns is the receipt of the key. -/
theorem returns_replay {key fingerprint : String} {fresh : Sql (Exit SubmissionResult)}
    {receipt : SelectionReceipt} {exit : Exit SubmissionResult}
    (hrow : s.selections.get? (.selectionKey key) = some receipt)
    (h : (submissionReplay env key fingerprint fresh).Returns s exit s') :
    ∃ result, exit = .rollback result ∧ result.selection = receipt.selection := by
  obtain ⟨stored, hstored, h⟩ := (readOnly_getReceiptByKey env key).returns_bind.mp h
  obtain ⟨-, rfl⟩ := returns_getReceiptByKey env hstored
  simp only [hrow] at h
  obtain ⟨result, hresult, rfl⟩ := returns_map.mp h
  unfold replaySubmission at hresult
  obtain ⟨-, hresult⟩ := returns_require_bind.mp hresult
  obtain ⟨-, hresult⟩ := returns_require_bind.mp hresult
  exact ⟨result, rfl, returns_submissionResult hresult⟩

/-- Without a receipt of the key, a replay goes on with the fresh part. -/
theorem returns_fresh {key fingerprint : String} {fresh : Sql (Exit SubmissionResult)}
    {exit : Exit SubmissionResult} (hrow : s.selections.get? (.selectionKey key) = none)
    (h : (submissionReplay env key fingerprint fresh).Returns s exit s') :
    fresh.Returns s exit s' := by
  obtain ⟨stored, hstored, h⟩ := (readOnly_getReceiptByKey env key).returns_bind.mp h
  obtain ⟨-, rfl⟩ := returns_getReceiptByKey env hstored
  simp only [hrow] at h
  exact h

/-- What is not replayed is committed. -/
theorem returns_submitFresh_commit {command : SubmitProposalCommand} {actor : IdentitySnapshot}
    {key fingerprint selectionUuid reviewUuid : String} {clock : ClockReading}
    {exit : Exit SubmissionResult}
    (h : (submitFresh env command actor key fingerprint selectionUuid reviewUuid clock).Returns s
      exit s') : ∃ result, exit = .commit result := by
  unfold submitFresh at h
  obtain ⟨st, -, h⟩ := (readOnly_getState env _).returns_bind.mp h
  obtain ⟨-, h⟩ := returns_require_bind.mp h
  obtain ⟨p, -, h⟩ := (readOnly_getProjection env _).returns_bind.mp h
  obtain ⟨-, h⟩ := returns_require_bind.mp h
  obtain ⟨analysisId, -, h⟩ := returns_orRaise_bind.mp h
  obtain ⟨analysis, -, h⟩ := (readOnly_getAnalysis env _).returns_bind.mp h
  obtain ⟨-, h⟩ := returns_require_bind.mp h
  obtain ⟨⟨option, predicted⟩, -, h⟩ := returns_orRaise_bind.mp h
  obtain ⟨-, h⟩ := returns_require_bind.mp h
  obtain ⟨now, -, h⟩ := returns_orRaise_bind.mp h
  obtain ⟨result, s₁, -, h⟩ := returns_bind.mp h
  exact ⟨result, (returns_done.mp h).1⟩

/-- The second transaction of a submission only replays. -/
theorem returns_submitRecovery {command : SubmitProposalCommand} {actor : IdentitySnapshot}
    {original : Raised} {exit : Exit SubmissionResult}
    (h : (submitRecovery env command actor original).Returns s exit s') :
    ∃ receipt result, s.selections.get? (.selectionKey (submitKey command)) = some receipt ∧
      exit = .rollback result ∧ result.selection = receipt.selection := by
  cases hrow : s.selections.get? (.selectionKey (submitKey command)) with
  | some receipt =>
    obtain ⟨result, rfl, hselection⟩ := returns_replay hrow h
    exact ⟨receipt, result, rfl, rfl, hselection⟩
  | none =>
    have hfresh := returns_fresh hrow h
    obtain ⟨state, -, hfresh⟩ := (readOnly_getState env _).returns_bind.mp hfresh
    obtain ⟨-, hfresh⟩ := returns_require_bind.mp hfresh
    cases hfresh

/-- An accepted submission came from its first transaction, or replayed in its second. -/
theorem submit_ok {command : SubmitProposalCommand} {actor : IdentitySnapshot}
    {selectionUuid reviewUuid : String} {clock : ClockReading} {result : SubmissionResult}
    (h : submit env command actor selectionUuid reviewUuid clock s = (.ok result, s')) :
    (submitTransaction env command actor selectionUuid reviewUuid clock).Commits s result s' ∨
      s' = s ∧ ∃ receipt, s.selections.get? (.selectionKey (submitKey command)) = some receipt ∧
        result.selection = receipt.selection := by
  unfold submit withRecovery at h
  rcases hfirst : (submitTransaction env command actor selectionUuid reviewUuid clock).transact s
    with ⟨e | a, s₁⟩ <;> rw [hfirst] at h
  · obtain rfl := transact_error hfirst
    dsimp only at h
    split at h
    · rcases transact_ok h with hcommit | ⟨rfl, s₂, hrollback⟩
      · obtain ⟨receipt, result', -, hexit, -⟩ := returns_submitRecovery hcommit
        cases hexit
      · obtain ⟨receipt, result', hrow, hexit, hselection⟩ := returns_submitRecovery hrollback
        obtain rfl : result = result' := by injection hexit
        exact .inr ⟨rfl, receipt, hrow, hselection⟩
    · cases h
  · cases h
    rcases transact_ok hfirst with hcommit | ⟨rfl, s₂, hrollback⟩
    · exact .inl hcommit
    · unfold submitTransaction at hrollback
      obtain ⟨-, hrollback⟩ := returns_require_bind.mp hrollback
      cases hrow : s'.selections.get? (.selectionKey (submitKey command)) with
      | some receipt =>
        obtain ⟨result', hexit, hselection⟩ := returns_replay hrow hrollback
        obtain rfl : result = result' := by injection hexit
        exact .inr ⟨rfl, receipt, rfl, hselection⟩
      | none =>
        obtain ⟨_, hexit⟩ := returns_submitFresh_commit (returns_fresh hrow hrollback)
        cases hexit

/-- Under a stored key, an accepted submission answers the stored selection and changes
nothing. -/
theorem submit_replayed {command : SubmitProposalCommand} {actor : IdentitySnapshot}
    {selectionUuid reviewUuid : String} {clock : ClockReading} {result : SubmissionResult}
    {receipt : SelectionReceipt}
    (hrow : s.selections.get? (.selectionKey (submitKey command)) = some receipt)
    (h : submit env command actor selectionUuid reviewUuid clock s = (.ok result, s')) :
    result.selection = receipt.selection ∧ s' = s := by
  rcases submit_ok h with hcommit | ⟨rfl, receipt', hrow', hselection⟩
  · unfold Commits submitTransaction at hcommit
    obtain ⟨-, hcommit⟩ := returns_require_bind.mp hcommit
    obtain ⟨_, hexit, -⟩ := returns_replay hrow hcommit
    cases hexit
  · obtain rfl := Option.some.inj (hrow.symm.trans hrow')
    exact ⟨hselection, rfl⟩

/-- Under an unused key, an accepted submission stores its selection. -/
theorem submit_created {command : SubmitProposalCommand} {actor : IdentitySnapshot}
    {selectionUuid reviewUuid : String} {clock : ClockReading} {result : SubmissionResult}
    (hrow : s.selections.get? (.selectionKey (submitKey command)) = none)
    (h : submit env command actor selectionUuid reviewUuid clock s = (.ok result, s')) :
    ∃ receipt, s'.selections.get? (.selectionKey (submitKey command)) = some receipt ∧
      receipt.selection = result.selection := by
  rcases submit_ok h with hcommit | ⟨-, receipt, hstored, -⟩
  · obtain ⟨-, receipt, hstored⟩ := submit_stored hcommit
    exact ⟨receipt, hstored.row, (returns_submissionResult hstored.result).symm⟩
  · cases hrow.symm.trans hstored

/-! ### The routes -/

section

variable {enabled : Bool} {caseId optionId idempotencyKey : String} {expected : ProposalToken}
  {actor : IdentitySnapshot} {selectionUuid reviewUuid : String} {clock : ClockReading}

/-- An accepted submission replayed the receipt of its key, or stored it. -/
theorem submitRoute_ok {result : SubmissionResult}
    (h : submitRoute env enabled caseId optionId expected idempotencyKey actor selectionUuid
      reviewUuid clock s = (.ok result, s')) :
    (∀ receipt, storedSubmission s idempotencyKey = some receipt →
      result.selection = receipt.selection ∧ s' = s) ∧
    (storedSubmission s idempotencyKey = none → ∃ receipt,
      storedSubmission s' idempotencyKey = some receipt ∧ receipt.selection = result.selection) := by
  unfold submitRoute at h
  split at h
  · cases h
  · split at h
    · cases h
    · rename_i command hcommand
      have hkey := SubmitProposalCommand.validate?_key hcommand
      have hsubmit : submit env command actor selectionUuid reviewUuid clock s =
          (.ok result, s') := by
        rcases hs : submit env command actor selectionUuid reviewUuid clock s with ⟨e | a, s₁⟩ <;>
          rw [hs] at h <;> cases h
        rfl
      unfold storedSubmission
      rw [← hkey]
      exact ⟨fun receipt hrow => submit_replayed hrow hsubmit, fun hrow => submit_created hrow hsubmit⟩

/-- A submission only lets the immutable tables grow. -/
theorem submitRoute_grows : Grows s (submitRoute env enabled caseId optionId expected
    idempotencyKey actor selectionUuid reviewUuid clock s).2 := by
  unfold submitRoute
  split
  · exact .refl s
  · split
    · exact .refl s
    · rename_i command hcommand
      rcases hs : submit env command actor selectionUuid reviewUuid clock s with ⟨e | a, s₁⟩
      · rw [withRecovery_error hs]
        exact .refl s
      · rcases submit_ok hs with hcommit | ⟨rfl, -⟩
        · exact grows_of_uses [.newReview, .newSelection, .compareAndSet]
            (uses_submitTransaction env (by decide) (by decide) (by decide) _ _ _ _ _) hcommit
        · exact .refl _

end

end SupplyResponse
