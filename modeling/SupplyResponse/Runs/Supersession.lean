/-
Superseded reviews are never current.

* `Safe` — a program that cannot raise the integrity error of `_supersede`;
* the `safe_…` lemmas — everything that the callers of `_supersede` run;
* `review_live_iff_current` — in every reachable database the live reviews are
  the current ones, a case has at most one of them, and the integrity error of
  `_supersede` is not raised.
-/
import SupplyResponse.Runs.Reviews

namespace SupplyResponse

open Transact Transact.Prog

/-- The integrity error of `_supersede`. -/
def danglingPointer : Raised := integrityError "current proposal points to a superseded review"

/-- The program cannot raise the integrity error of `_supersede`. -/
abbrev Safe {α : Type} (p : Sql α) : Prop := RaisesOnly (fun e => e ≠ danglingPointer) p

theorem ne_danglingPointer {cls : ExceptionClass} {message : String}
    (h : cls ≠ .persistenceIntegrityError) : (⟨cls, message⟩ : Raised) ≠ danglingPointer :=
  fun he => h (congrArg Raised.cls he)

variable (env : Env)

/-! ### Cases and analyses -/

theorem safe_storedCase (caseId : String) : Safe (storedCase caseId) :=
  raisesOnly_getRow (ne_danglingPointer (by decide))

theorem safe_requireConfiguredMode (mode : RuntimeMode) : Safe (requireConfiguredMode env mode) :=
  raisesOnly_require (ne_danglingPointer (by decide))

theorem safe_storedSnapshot (caseId : String) : Safe (storedSnapshot caseId) := by
  refine raisesOnly_getRow fun h => ?_
  -- the two messages differ in their first letter
  have hmessage := congrArg (fun e => (Raised.message e).toList.head?) h
  simp only [danglingPointer, integrityError, String.toList_append, List.head?_append] at hmessage
  have hfirst : (toString "persisted Operational Snapshot is missing for case ").toList.head? =
      some 'p' := by decide
  rw [hfirst, Option.some_or] at hmessage
  exact absurd hmessage (by decide)

theorem safe_requireCaseRuntime (caseId : String) (mode : RuntimeMode) :
    Safe (requireCaseRuntime env caseId mode) :=
  .bind (safe_requireConfiguredMode env mode) fun _ => .bind (safe_storedCase caseId) fun _ =>
    .bind (raisesOnly_require (ne_danglingPointer (by decide))) fun _ => raisesOnly_done _

/-- A check with a literal message. -/
theorem check_ne {ok : Bool} {e : Raised} (h : e ≠ danglingPointer) :
    ((ok, e) : Bool × Raised).2 ≠ danglingPointer := h

theorem safe_provenanceChecks (analysis : AnalysisVersion) (stored : CaseInstance)
    (snapshot : OperationalSnapshot) :
    ∀ c ∈ provenanceChecks analysis stored snapshot, c.2 ≠ danglingPointer := by
  intro c hc
  simp only [provenanceChecks, check, matchingRuntime, List.mem_append, List.mem_cons,
    List.not_mem_nil, or_false, List.mem_flatMap, List.mem_map] at hc
  rcases hc with ((((hc | ⟨_, -, hc⟩) | ⟨_, -, hc⟩) | ⟨_, -, hc⟩) | ⟨_, -, hc⟩) | ⟨_, -, hc⟩
  · rcases hc with rfl | rfl | rfl | rfl | rfl | rfl
    · exact check_ne (by decide)
    · exact check_ne (by decide)
    · exact check_ne (by decide)
    · exact check_ne (by decide)
    · exact ne_danglingPointer (by decide)
    · exact check_ne (by decide)
  · rcases hc with rfl | rfl | rfl
    · exact check_ne (by decide)
    · exact check_ne (by decide)
    · exact ne_danglingPointer (by decide)
  · rcases hc with rfl | rfl
    · exact check_ne (by decide)
    · exact ne_danglingPointer (by decide)
  · obtain rfl := hc
    exact check_ne (by decide)
  · rcases hc with rfl | rfl
    · exact check_ne (by decide)
    · exact ne_danglingPointer (by decide)
  · rcases hc with rfl | rfl | rfl | rfl
    · exact check_ne (by decide)
    · exact check_ne (by decide)
    · exact check_ne (by decide)
    · exact ne_danglingPointer (by decide)

theorem safe_requireAnalysisProvenance (analysis : AnalysisVersion) :
    Safe (requireAnalysisProvenance env analysis) :=
  .bind (raisesOnly_require (by decide)) fun _ => .bind (safe_requireCaseRuntime env _ _) fun _ =>
    .bind (safe_storedSnapshot _) fun _ => raisesOnly_checkAll (safe_provenanceChecks _ _ _)

theorem safe_getAnalysis (analysisId : String) : Safe (getAnalysis env analysisId) :=
  .bind (raisesOnly_getRow (ne_danglingPointer (by decide))) fun _ =>
    .bind (raisesOnly_mapError (safe_requireAnalysisProvenance env _) (by decide)) fun _ =>
      raisesOnly_done _

theorem safe_getProjection (caseId : String) : Safe (getProjection env caseId) :=
  .bind (raisesOnly_getRow (ne_danglingPointer (by decide))) fun _ =>
    .bind (safe_storedCase _) fun _ => .bind (raisesOnly_require (by decide)) fun _ =>
      .bind (safe_requireConfiguredMode env _) fun _ => .bind (raisesOnly_select _) fun _ =>
        raisesOnly_done _

/-! ### Reviews -/

theorem safe_requireBoundAnalysis (review : FinanceReview) :
    Safe (requireBoundAnalysis env review) :=
  .bind (raisesOnly_mapError (safe_getAnalysis env _) (by decide)) fun _ =>
    .bind (raisesOnly_require (by decide)) fun _ => raisesOnly_require (by decide)

theorem safe_reviewFromRow (row : FinanceReviewRow) : Safe (reviewFromRow env row) :=
  .bind (safe_requireBoundAnalysis env _) fun _ => raisesOnly_done _

theorem safe_getLatest (reviewId : String) : Safe (getLatest env reviewId) := by
  refine .bind (raisesOnly_select _) fun row => .bind (raisesOnly_orRaise ?_ row) fun row =>
    safe_reviewFromRow env row
  exact ne_danglingPointer (by decide)

theorem safe_getRevision (reviewId : String) (revision : Nat) :
    Safe (getRevision env reviewId revision) := by
  refine .bind (raisesOnly_require (ne_danglingPointer ?_)) fun _ => .bind (raisesOnly_getRow
    (ne_danglingPointer ?_)) fun row => .bind (safe_reviewFromRow env row) fun _ =>
      raisesOnly_done _
  · decide
  · decide

theorem safe_getReviewByKey (key : String) : Safe (getReviewByKey env key) :=
  .bind (raisesOnly_select _) fun row => by
    cases row with
    | none => exact raisesOnly_done _
    | some row => exact .bind (safe_reviewFromRow env row) fun _ => raisesOnly_done _

/-! The pure policy raises violations and validation errors only. -/

/-- The computation fails with an exception of the policy, if at all. -/
def FailsByPolicy {α : Type} (x : Except Raised α) : Prop :=
  ∀ e, x = .error e → e.cls = .financeReviewViolation ∨ e.cls = .validationError

namespace FailsByPolicy

variable {α β : Type}

theorem ok (a : α) : FailsByPolicy (.ok a) := fun _ h => nomatch h

theorem violation (message : String) :
    FailsByPolicy (.error (violation message) : Except Raised α) :=
  fun _ h => .inl (by cases h; rfl)

theorem bind {x : Except Raised α} {f : α → Except Raised β} (hx : FailsByPolicy x)
    (hf : ∀ a, FailsByPolicy (f a)) : FailsByPolicy (x >>= f) := by
  cases x with
  | ok a => exact hf a
  | error e =>
    intro e' h
    exact hx e' (congrArg Except.error (Except.error.inj h))

theorem ite {c : Prop} [Decidable c] {x y : Except Raised α} (hx : FailsByPolicy x)
    (hy : FailsByPolicy y) : FailsByPolicy (if c then x else y) := by
  split
  · exact hx
  · exact hy

theorem elim {o : Option α} {model : String} :
    FailsByPolicy (o.elim (.error (validationError model)) .ok) := by
  cases o with
  | none => exact fun _ h => .inr (by cases h; rfl)
  | some a => exact .ok a

theorem safe {x : Except Raised α} (h : FailsByPolicy x) : Safe (ofExcept x) :=
  raisesOnly_ofExcept fun e he hd => by
    rcases h e he with hc | hc <;> rw [hd] at hc <;> cases hc

end FailsByPolicy

theorem requireUuid_fails (value : Option String) (label : String) :
    FailsByPolicy (requireUuid value label) := by
  unfold requireUuid
  cases Uuid.parse (value.getD "") with
  | none => exact .violation _
  | some u => exact .ok u

theorem requireActor_fails (actor : IdentitySnapshot) (persona source : String)
    (roles : List String) : FailsByPolicy (requireActor actor persona source roles) :=
  .ite (.bind (requireUuid_fails _ _) fun _ => .bind (requireUuid_fails _ _) fun _ => .ok _)
    (.violation _)

theorem submitFinanceReview_fails (reviewId : String) (proposal : FinanceProposal)
    (actor : IdentitySnapshot) (now : Instant) :
    FailsByPolicy (submitFinanceReview reviewId proposal actor now) :=
  .bind (requireActor_fails _ _ _ _) fun _ => .ite (.violation _) (.ite (.violation _) .elim)

theorem supersedeFinanceReview_fails (review : FinanceReview) (now : Instant) :
    FailsByPolicy (supersedeFinanceReview review now) :=
  .ite (.violation _) (.ite (.ok _) .elim)

theorem resolveFinanceReview_fails (review : FinanceReview) (proposal : FinanceProposal)
    (actor : IdentitySnapshot) (approved : Bool) (reason : Option String) (now : Instant) :
    FailsByPolicy (resolveFinanceReview review proposal actor approved reason now) :=
  .bind (requireActor_fails _ _ _ _) fun _ => .bind (requireUuid_fails _ _) fun _ =>
    .bind (requireUuid_fails _ _) fun _ => .ite (.violation _) (.ite (.violation _)
      (.ite (.violation _) (.ite (.violation _) (.ite (.violation _)
        (.ite (.violation _) .elim)))))

theorem canonicalTransition_fails (previous review : FinanceReview) :
    FailsByPolicy (canonicalTransition previous review) :=
  .ite (supersedeFinanceReview_fails _ _) (resolveFinanceReview_fails _ _ _ _ _ _)

theorem safe_appendReview (review : FinanceReview) (expectedRevision : Option Nat)
    (key fingerprint : String) :
    Safe (appendReview env review expectedRevision key fingerprint) := by
  refine .bind (raisesOnly_require (by decide)) fun _ => .bind (raisesOnly_require (by decide))
    fun _ => .bind (raisesOnly_require (by decide)) fun _ => .bind (safe_getReviewByKey env _)
      fun replay => ?_
  rcases replay with _ | ⟨stored, revision, fp⟩
  · refine .bind (RaisesOnly.handle (.map _ (safe_getLatest env _)) fun _ he =>
      .ite (raisesOnly_done _) (raisesOnly_raise he)) fun current =>
        .bind (raisesOnly_require (ne_danglingPointer (by decide))) fun _ => .bind ?_ fun _ =>
          .bind (safe_requireBoundAnalysis env _) fun _ =>
            .bind (raisesOnly_insertInto (by decide) _) fun _ => raisesOnly_done _
    rcases current with _ | ⟨previous, n⟩
    · exact .bind (raisesOnly_require (by decide)) fun _ =>
        .bind (raisesOnly_mapError (submitFinanceReview_fails _ _ _ _).safe (by decide)) fun _ =>
          raisesOnly_require (by decide)
    · exact .bind (raisesOnly_require (by decide)) fun _ =>
        .bind (raisesOnly_require (by decide)) fun _ =>
          .bind (raisesOnly_mapError (canonicalTransition_fails _ _).safe (by decide)) fun _ =>
            raisesOnly_require (by decide)
  · exact .bind (raisesOnly_require (by decide)) fun _ => raisesOnly_done _

theorem safe_appendSuperseded (review : FinanceReview) (revision : Option Nat) (now : Instant)
    (operation operationId : String) :
    Safe (appendSuperseded env review revision now operation operationId) :=
  .bind (supersedeFinanceReview_fails _ _).safe fun _ => .bind (safe_appendReview env _ _ _ _)
    fun _ => raisesOnly_done _

/-! ### Selections and states -/

theorem requireProposalSubmitter_fails (actor : IdentitySnapshot) :
    FailsByPolicy (requireProposalSubmitter actor) :=
  requireActor_fails _ _ _ _

theorem safe_validateReviewBinding (selection : ProposalSelection) (reviewId : Option String) :
    Safe (validateReviewBinding env selection reviewId) := by
  cases reviewId with
  | none => exact raisesOnly_done ()
  | some reviewId =>
    exact .bind (safe_getRevision env reviewId 1) fun _ => raisesOnly_require (by decide)

theorem safe_validateBinding (receipt : SelectionReceipt) : Safe (validateBinding env receipt) :=
  .bind (safe_storedCase _) fun _ => .bind (raisesOnly_require (by decide)) fun _ =>
    .bind (raisesOnly_mapError (requireProposalSubmitter_fails _).safe (by decide)) fun _ =>
      .bind (safe_getAnalysis env _) fun _ => .bind (raisesOnly_require (by decide)) fun _ =>
        .bind (raisesOnly_require (by decide)) fun _ => safe_validateReviewBinding env _ _

theorem safe_decodeReceipt (receipt : SelectionReceipt) : Safe (decodeReceipt env receipt) :=
  .bind (raisesOnly_require (by decide)) fun _ => .bind (safe_validateBinding env receipt) fun _ =>
    raisesOnly_done _

theorem safe_getSelection (selectionId : String) : Safe (getSelection env selectionId) := by
  refine .bind ?_ fun row => .bind (safe_decodeReceipt env row) fun _ => raisesOnly_done _
  exact raisesOnly_getRow (ne_danglingPointer (by decide))

theorem safe_getReceiptByKey (key : String) : Safe (getReceiptByKey env key) :=
  .bind (raisesOnly_select _) fun row => by
    cases row with
    | none => exact raisesOnly_done _
    | some row => exact .map some (safe_decodeReceipt env row)

theorem safe_getToken (caseId : String) : Safe (getToken caseId) := by
  refine .bind ?_ fun row => raisesOnly_orRaise (by decide) _
  exact raisesOnly_getRow (ne_danglingPointer (by decide))

theorem safe_currentSelection (selectionId : Option String) :
    Safe (currentSelection env selectionId) := by
  cases selectionId with
  | none => exact raisesOnly_done _
  | some id => exact .map some (safe_getSelection env id)

theorem safe_currentReview (selection : Option ProposalSelection) :
    Safe (currentReview env selection) := by
  unfold currentReview
  split
  · exact raisesOnly_done _
  · exact .map some (safe_getLatest env _)

theorem safe_getState (caseId : String) : Safe (getState env caseId) :=
  .bind (safe_getProjection env caseId) fun _ => .bind (safe_getToken caseId) fun _ =>
    .bind (safe_currentSelection env _) fun _ => .bind (raisesOnly_require (by decide)) fun _ =>
      .bind (safe_currentReview env _) fun _ => .bind (safe_getToken caseId) fun _ =>
        .bind (raisesOnly_require (by decide)) fun _ => raisesOnly_orRaise (by decide) _

theorem safe_casProjection (caseId : String) (expected : ProposalToken) (values : CasValues) :
    Safe (casProjection caseId expected values) :=
  .bind (raisesOnly_write _) fun _ => raisesOnly_require (by decide)

theorem safe_requirePendingReview (reviewId : Option String) :
    Safe (requirePendingReview env reviewId) := by
  cases reviewId with
  | none => exact raisesOnly_done ()
  | some id => exact .bind (safe_getLatest env id) fun _ => raisesOnly_require (by decide)

theorem safe_independentState (stored : CaseInstance) : Safe (independentState env stored) :=
  .ite (.map some (safe_getState env _)) (raisesOnly_done _)

theorem safe_requireProjectedCase (rowCaseId : String) (stored : CaseInstance)
    (projected : Option CaseInstance) : Safe (requireProjectedCase rowCaseId stored projected) := by
  cases projected with
  | none => exact raisesOnly_done ()
  | some case => exact raisesOnly_require (by decide)

theorem safe_requireAlexSelection (selection : Option ProposalSelection) :
    Safe (requireAlexSelection env selection) :=
  raisesOnly_require (by decide)

theorem safe_submissionResult (selection : ProposalSelection) :
    Safe (submissionResult env selection) := by
  unfold submissionResult
  split
  · exact raisesOnly_done _
  · exact .bind (safe_getRevision env _ 1) fun _ => raisesOnly_done _

theorem safe_replaySubmission (fingerprint : String) (stored : SelectionReceipt) :
    Safe (replaySubmission env fingerprint stored) :=
  .bind (raisesOnly_require (by decide)) fun _ => .bind (raisesOnly_require (by decide)) fun _ =>
    safe_submissionResult env _

theorem safe_openReview (selectionId fingerprint : String) (proposal : FinanceProposal)
    (actor : IdentitySnapshot) (now : Instant) (reviewId : Option String) :
    Safe (openReview env selectionId fingerprint proposal actor now reviewId) := by
  cases reviewId with
  | none => exact raisesOnly_done _
  | some reviewId =>
    exact .bind (submitFinanceReview_fails _ _ _ _).safe fun _ =>
      .bind (safe_appendReview env _ _ _ _) fun _ => raisesOnly_done _

/-! ### The callers of `_supersede` -/

/-- The state of a case points to a superseded review. -/
def PointsToSuperseded (s : Store) (caseId : String) : Prop :=
  ∃ st review, StateOf s caseId st ∧ st.review = some review ∧ review.status = .superseded

theorem CurrentIsLive.not_pointsToSuperseded {s : Store} {c : String} (h : CurrentIsLive s c) :
    ¬PointsToSuperseded s c := by
  rintro ⟨st, review, hst, hreview, hstatus⟩
  obtain ⟨hcur, -, -, row, hrow, rfl, -⟩ := hst.currentReviewId_some hreview
  obtain ⟨row', hrow', hlive⟩ := h _ hcur
  obtain rfl := Option.some.inj (hrow.symm.trans hrow')
  exact hlive hstatus

variable {env} {s : Store}

theorem raises_supersede {st : ProposalState} {now : Instant} {operation operationId : String}
    (h : (supersede env st now operation operationId).Raises s danglingPointer) :
    ∃ review, st.review = some review ∧ review.status = .superseded := by
  unfold supersede at h
  split at h
  · exact absurd rfl ((raisesOnly_done _ : Safe _).of_raises h)
  · rename_i review hr
    refine ⟨review, hr, ?_⟩
    by_contra hstatus
    rw [require, if_pos hstatus] at h
    exact absurd rfl ((safe_appendSuperseded env _ _ _ _ _).of_raises h)

theorem raises_publish {receipt : SelectionReceipt}
    (h : (publish env receipt).Raises s danglingPointer) :
    s.selections.Free receipt ∧ PointsToSuperseded s receipt.selection.proposal.caseId := by
  have hself : ¬danglingPointer ≠ danglingPointer := not_not_intro rfl
  obtain ⟨replay, -, h⟩ :=
    (readOnly_getReceiptByKey env _).raises_bind (safe_getReceiptByKey env _) hself h
  rcases replay with _ | stored
  · obtain ⟨st, hst, h⟩ := (readOnly_getState env _).raises_bind (safe_getState env _) hself h
    obtain ⟨-, h⟩ := raises_require_bind (by decide) h
    obtain ⟨-, h⟩ := raises_require_bind (by decide) h
    obtain ⟨_, -, h⟩ :=
      (readOnly_validateBinding env _).raises_bind (safe_validateBinding env _) hself h
    obtain ⟨_, -, h⟩ :=
      (readOnly_requirePendingReview env _).raises_bind (safe_requirePendingReview env _) hself h
    obtain ⟨_, s₁, hins, h⟩ := RaisesOnly.raises_bind (P := (· ≠ danglingPointer))
      (raisesOnly_insertInto (by decide) _) hself h
    obtain ⟨hfree, rfl⟩ := returns_insertInto.mp hins
    obtain ⟨_, s₂, -, h⟩ := (safe_casProjection _ _ _).raises_bind hself h
    obtain ⟨review, hreview, hstatus⟩ := raises_supersede (raises_bind_done h)
    exact ⟨hfree, st, review, (returns_getState env hst).2, hreview, hstatus⟩
  · obtain ⟨-, h⟩ := raises_require_bind (by decide) h
    exact absurd rfl ((raisesOnly_done _ : Safe _).of_raises h)

theorem raises_saveAnalysisConnection {analysis : AnalysisVersion}
    {projectedCase : Option CaseInstance} {now : Instant}
    (h : (saveAnalysisConnection env analysis projectedCase now).Raises s danglingPointer) :
    PointsToSuperseded s analysis.caseId := by
  have hself : ¬danglingPointer ≠ danglingPointer := not_not_intro rfl
  obtain ⟨_, -, h⟩ := (readOnly_requireAnalysisProvenance env _).raises_bind
    (safe_requireAnalysisProvenance env _) hself h
  obtain ⟨stored, hstored, h⟩ := (readOnly_storedCase _).raises_bind (safe_storedCase _) hself h
  rw [storedCase, returns_getRow] at hstored
  obtain ⟨state, hstate, h⟩ := (readOnly_independentState env _).raises_bind
    (safe_independentState env _) hself h
  obtain ⟨_, s₁, hins, h⟩ := RaisesOnly.raises_bind (P := (· ≠ danglingPointer))
    (raisesOnly_insertInto (by decide) _) hself h
  obtain ⟨hfree, rfl⟩ := returns_insertInto.mp hins
  obtain ⟨-, h⟩ := raises_require_bind (by decide) h
  obtain ⟨row, -, h⟩ := (readOnly_getRow _ _ _).raises_bind (P := (· ≠ danglingPointer))
    (raisesOnly_getRow (ne_danglingPointer (by decide))) hself h
  obtain ⟨_, -, h⟩ := (readOnly_requireProjectedCase _ _ _).raises_bind
    (safe_requireProjectedCase _ _ _) hself h
  rcases state with _ | st
  · exact absurd rfl ((raisesOnly_updateExisting (ne_danglingPointer (by decide)) :
      Safe _).of_raises h)
  · obtain ⟨_, s₂, -, h⟩ := (safe_casProjection _ _ _).raises_bind hself h
    obtain ⟨review, hreview, hstatus⟩ := raises_supersede h
    unfold independentState at hstate
    split at hstate
    · obtain ⟨st', hst, heq⟩ := returns_map.mp hstate
      obtain rfl := Option.some.inj heq
      rw [caseId_of_get? hstored.1] at hst
      exact ⟨st, review, (returns_getState env hst).2, hreview, hstatus⟩
    · cases (returns_done.mp hstate).1

theorem raises_publishProposal {command : SubmitProposalCommand} {actor : IdentitySnapshot}
    {key fingerprint : String} {case : CaseInstance} {analysis : AnalysisVersion}
    {option : ResponseOption} {cost : Money} {selectionUuid reviewUuid : String} {now : Instant}
    (h : (publishProposal env command actor key fingerprint case analysis option cost
      selectionUuid reviewUuid now).Raises s danglingPointer) :
    ∃ receipt s₁, OpensReview s receipt.selection.proposal receipt.selection.financeReviewId s₁ ∧
      s₁.selections.Free receipt ∧
        PointsToSuperseded s₁ receipt.selection.proposal.caseId := by
  have hself : ¬danglingPointer ≠ danglingPointer := not_not_intro rfl
  obtain ⟨proposal, -, h⟩ := (readOnly_orRaise _ _).raises_bind (P := (· ≠ danglingPointer))
    (raisesOnly_orRaise (by decide) _) hself h
  obtain ⟨selection, hselection, h⟩ := (readOnly_orRaise _ _).raises_bind
    (P := (· ≠ danglingPointer)) (raisesOnly_orRaise (by decide) _) hself h
  obtain ⟨-, hproposal, -, hreview⟩ :=
    ProposalSelection.validate?_spec (returns_orRaise.mp hselection).1
  obtain ⟨_, s₁, hopen, h⟩ := (safe_openReview env _ _ _ _ _ _).raises_bind hself h
  obtain ⟨receipt, hreceipt, h⟩ := (readOnly_orRaise _ _).raises_bind
    (P := (· ≠ danglingPointer)) (raisesOnly_orRaise (by decide) _) hself h
  obtain ⟨hsel, -⟩ := SelectionReceipt.validate?_spec (returns_orRaise.mp hreceipt).1
  have hopens := returns_openReview env hopen
  rw [← hreview, ← hproposal, ← hsel] at hopens
  rcases raises_bind_cases h with h | ⟨published, s₂, -, h⟩
  · exact ⟨receipt, s₁, hopens, raises_publish h⟩
  · exact absurd rfl ((safe_submissionResult env published).of_raises h)

theorem raises_submitTransaction {command : SubmitProposalCommand} {actor : IdentitySnapshot}
    {selectionUuid reviewUuid : String} {clock : ClockReading}
    (h : (submitTransaction env command actor selectionUuid reviewUuid clock).Raises s
      danglingPointer) :
    ∃ receipt s₁, OpensReview s receipt.selection.proposal receipt.selection.financeReviewId s₁ ∧
      s₁.selections.Free receipt ∧
        PointsToSuperseded s₁ receipt.selection.proposal.caseId := by
  have hself : ¬danglingPointer ≠ danglingPointer := not_not_intro rfl
  obtain ⟨-, h⟩ := raises_require_bind (by decide) h
  obtain ⟨stored, -, h⟩ :=
    (readOnly_getReceiptByKey env _).raises_bind (safe_getReceiptByKey env _) hself h
  rcases stored with _ | stored
  · obtain ⟨st, -, h⟩ := (readOnly_getState env _).raises_bind (safe_getState env _) hself h
    obtain ⟨-, h⟩ := raises_require_bind (by decide) h
    obtain ⟨p, -, h⟩ :=
      (readOnly_getProjection env _).raises_bind (safe_getProjection env _) hself h
    obtain ⟨-, h⟩ := raises_require_bind (by decide) h
    obtain ⟨analysisId, -, h⟩ := (readOnly_orRaise _ _).raises_bind (P := (· ≠ danglingPointer))
      (raisesOnly_orRaise (by decide) _) hself h
    obtain ⟨analysis, -, h⟩ :=
      (readOnly_getAnalysis env _).raises_bind (safe_getAnalysis env _) hself h
    obtain ⟨-, h⟩ := raises_require_bind (by decide) h
    obtain ⟨⟨option, predicted⟩, -, h⟩ := (readOnly_orRaise _ _).raises_bind
      (P := (· ≠ danglingPointer)) (raisesOnly_orRaise (by decide) _) hself h
    obtain ⟨-, h⟩ := raises_require_bind (by decide) h
    obtain ⟨now, -, h⟩ := (readOnly_orRaise _ _).raises_bind (P := (· ≠ danglingPointer))
      (raisesOnly_orRaise (by decide) _) hself h
    exact raises_publishProposal (raises_bind_done h)
  · exact absurd rfl ((RaisesOnly.map _ (safe_replaySubmission env _ _) : Safe _).of_raises h)

/-! ### The main theorem -/

theorem ReviewInvariant.not_dangling_saveAnalysis (h : ReviewInvariant s)
    (analysis : AnalysisVersion) (projected : Option CaseInstance) (now : Instant) :
    ¬(saveAnalysis env analysis projected now).Raises s danglingPointer := by
  intro hr
  have hsave := raises_mapError (raises_bind_done hr) (ne_danglingPointer (by decide)).symm
  exact (h.currentIsLive _).not_pointsToSuperseded (raises_saveAnalysisConnection hsave)

theorem ReviewInvariant.not_dangling_completeAnalysisClaim (h : ReviewInvariant s)
    (analysis : AnalysisVersion) (projected : CaseInstance) (version claimId : String)
    (completedAt now : Instant) :
    ¬(completeAnalysisClaim env analysis projected version claimId completedAt now).Raises s
      danglingPointer := by
  intro hr
  have hself : ¬danglingPointer ≠ danglingPointer := not_not_intro rfl
  have hbody := raises_mapError (raises_bind_done hr) (ne_danglingPointer (by decide)).symm
  obtain ⟨claim, -, hbody⟩ := (readOnly_select _).raises_bind (P := (· ≠ danglingPointer))
    (raisesOnly_select _) hself hbody
  obtain ⟨-, hbody⟩ := raises_require_bind (by decide) hbody
  rcases raises_bind_cases hbody with hsave | ⟨_, s₁, -, hdelete⟩
  · exact (h.currentIsLive _).not_pointsToSuperseded (raises_saveAnalysisConnection hsave)
  · obtain ⟨_, s₂, -, hdelete⟩ := RaisesOnly.raises_bind (P := (· ≠ danglingPointer))
      (raisesOnly_write _) hself hdelete
    exact absurd rfl ((raisesOnly_require (by decide) : Safe _).of_raises hdelete)

theorem ReviewInvariant.not_dangling_submit (h : ReviewInvariant s)
    (command : SubmitProposalCommand) (actor : IdentitySnapshot)
    (selectionUuid reviewUuid : String) (clock : ClockReading) :
    ¬(submitTransaction env command actor selectionUuid reviewUuid clock).Raises s
      danglingPointer := by
  intro hr
  obtain ⟨receipt, s₁, hopens, hfree, hdangling⟩ := raises_submitTransaction hr
  have fresh := fun r hr => fresh_of_free h (hopens.selections_eq ▸ hfree) (r := r) hr
  exact ((hopens.opens h.journal fresh).currentIsLive h fresh _).not_pointsToSuperseded hdangling

/-- In a reachable database a review is live exactly while its selection is the
current one of its case; a case has at most one live review; and none of the
callers of `_supersede` finds a superseded one. -/
theorem review_live_iff_current (h : Run (Transaction.program env) Store.empty s) :
    (∀ reviewId row, latestRow s reviewId = some row →
      (row.review.status ≠ .superseded ↔
        ∃ selectionId receipt, pointer s row.review.proposal.caseId = some selectionId ∧
          s.selections.get? (.selection selectionId) = some receipt ∧
            receipt.selection.financeReviewId = some reviewId)) ∧
      (∀ r row r' row', latestRow s r = some row → latestRow s r' = some row' →
        row.review.status ≠ .superseded → row'.review.status ≠ .superseded →
          row.review.proposal.caseId = row'.review.proposal.caseId → r = r') ∧
      (∀ command actor selectionUuid reviewUuid clock,
        ¬(submitTransaction env command actor selectionUuid reviewUuid clock).Raises s
          danglingPointer) ∧
      (∀ analysis projected now,
        ¬(saveAnalysis env analysis projected now).Raises s danglingPointer) ∧
      ∀ analysis projected version claimId completedAt now,
        ¬(completeAnalysisClaim env analysis projected version claimId completedAt now).Raises s
          danglingPointer := by
  have hinv := reviewInvariant_of_run h
  have hopened : ∀ {r row}, latestRow s r = some row → row.review.status ≠ .superseded →
      openedReview s r = some (row.review.proposal.caseId, true) := by
    intro r row hrow hlive
    unfold openedReview
    rw [hrow, Option.map_some, decide_eq_true hlive]
  refine ⟨fun r row hrow => ?_, fun r row r' row' hrow hrow' hlive hlive' hcase => ?_,
    hinv.not_dangling_submit, hinv.not_dangling_saveAnalysis,
    hinv.not_dangling_completeAnalysisClaim⟩
  · constructor
    · intro hlive
      have hcurrent := (hinv.coherent _ _).mp (hopened hrow hlive)
      obtain ⟨receipt, hreceipt, hid⟩ := Option.bind_eq_some_iff.mp hcurrent
      obtain ⟨selectionId, hpointer, hget⟩ := Option.bind_eq_some_iff.mp hreceipt
      exact ⟨selectionId, receipt, hpointer, hget, hid⟩
    · rintro ⟨selectionId, receipt, hpointer, hget, hid⟩
      have hcurrent : currentReviewId s row.review.proposal.caseId = some r := by
        unfold currentReviewId currentReceipt
        rw [hpointer, Option.bind_some, hget, Option.bind_some, hid]
      obtain ⟨row', hrow', hlive⟩ := hinv.currentIsLive _ _ hcurrent
      obtain rfl := Option.some.inj (hrow.symm.trans hrow')
      exact hlive
  · have hfirst := (hinv.coherent _ _).mp (hopened hrow hlive)
    have hsecond := (hinv.coherent _ _).mp (hopened hrow' hlive')
    exact Option.some.inj (hfirst.symm.trans (hcase ▸ hsecond))

/-- The database after the sample case was finalized. -/
theorem review_live_iff_current_sample :
    let s := history (Transaction.program sampleEnv) sampleTransactions Store.empty
    (∀ reviewId row, latestRow s reviewId = some row →
      (row.review.status ≠ .superseded ↔
        ∃ selectionId receipt, pointer s row.review.proposal.caseId = some selectionId ∧
          s.selections.get? (.selection selectionId) = some receipt ∧
            receipt.selection.financeReviewId = some reviewId)) ∧
      ∀ command actor selectionUuid reviewUuid clock,
        ¬(submitTransaction sampleEnv command actor selectionUuid reviewUuid clock).Raises s
          danglingPointer :=
  have h := review_live_iff_current (Run.history _ sampleTransactions Store.empty)
  ⟨h.1, h.2.2.1⟩

end SupplyResponse
