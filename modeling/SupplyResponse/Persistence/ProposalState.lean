/-
The current proposal of a case, and the commands that move it
(`services/persistence/proposals.py`).

* `getState` — the token with the selection and the latest review revision it
  points to;
* `supersede` — the end of the review a replaced or withdrawn selection had;
* `publish`, `guardCurrent`, `withdrawCurrent` — a new selection, a bare
  generation bump, and the removal of the selection;
* the `returns_…` lemmas say what a successful run did to the tables.
-/
import SupplyResponse.Persistence.Proposals

namespace SupplyResponse

open Transact Transact.Prog
open Keyed (keys)

variable (env : Env)

/-! ### The state of a proposal -/

/-- The selection that a token points to. -/
def currentSelection : Option String → Sql (Option ProposalSelection)
  | none => pure none
  | some selectionId => some <$> getSelection env selectionId

/-- The review of a selection, with its revision. -/
def currentReview (selection : Option ProposalSelection) :
    Sql (Option (FinanceReview × Nat)) :=
  match selection.bind ProposalSelection.financeReviewId with
  | none => pure none
  | some reviewId => some <$> getLatest env reviewId

/-- The selection belongs to the case and analysis of the token. -/
def ProposalSelection.Matches (selection : ProposalSelection) (caseId : String)
    (token : ProposalToken) : Prop :=
  selection.proposal.caseId = caseId ∧ some selection.proposal.analysisId = token.analysisId ∧
    some selection.proposal.analysisMaterialHash = token.analysisMaterialHash

instance (selection : ProposalSelection) (caseId : String) (token : ProposalToken) :
    Decidable (selection.Matches caseId token) :=
  inferInstanceAs (Decidable (_ ∧ _))

/-- `get_state`. -/
def getState (caseId : String) : Sql ProposalState := do
  let _ ← getProjection env caseId
  let before ← getToken caseId
  let selection ← currentSelection env before.selectionId
  require (∀ sel ∈ selection, sel.Matches caseId before)
    (integrityError "current selection pointer conflicts with Case proposal token")
  let review ← currentReview env selection
  let after ← getToken caseId
  require (after = before) (staleProposal "Case analysis or proposal changed")
  orRaise (validationError "ProposalState")
    (ProposalState.validate? before selection (review.map Prod.fst) (review.map Prod.snd))

theorem readOnly_currentSelection (selectionId : Option String) :
    (currentSelection env selectionId).ReadOnly := by
  cases selectionId with
  | none => exact readOnly_done _
  | some id => exact (readOnly_getSelection env id).map some

theorem readOnly_currentReview (selection : Option ProposalSelection) :
    (currentReview env selection).ReadOnly := by
  unfold currentReview
  split
  · exact readOnly_done _
  · exact (readOnly_getLatest env _).map some

theorem readOnly_getState (caseId : String) : (getState env caseId).ReadOnly :=
  (readOnly_getProjection env caseId).bind fun _ => (readOnly_getToken caseId).bind fun _ =>
    (readOnly_currentSelection env _).bind fun _ => (readOnly_require _ _).bind fun _ =>
      (readOnly_currentReview env _).bind fun _ => (readOnly_getToken caseId).bind fun _ =>
        (readOnly_require _ _).bind fun _ => readOnly_orRaise _ _

/-- What `get_state` reads off the tables. -/
structure StateOf (s : Store) (caseId : String) (st : ProposalState) : Prop where
  row : ∃ row, s.projections.get? (.projection caseId) = some row ∧ row.Shows st.token ∧
    row.case.caseId = caseId ∧ ∃ stored, s.cases.get? (.case caseId) = some stored ∧
      row.case.SameProvenance stored
  selection : ∀ sel, st.selection = some sel →
    sel.Matches caseId st.token ∧ Bound s sel ∧
      ∃ receipt, s.selections.get? (.selection sel.selectionId) = some receipt ∧
        receipt.selection = sel
  review : ∀ review, st.review = some review → ∃ sel row, st.selection = some sel ∧
    sel.financeReviewId = some review.reviewId ∧ latestRow s review.reviewId = some row ∧
      row.review = review ∧ st.reviewRevision = some row.revision

/-- A selection id names one receipt. -/
theorem selectionId_of_get? {s : Store} {id : String} {receipt : SelectionReceipt}
    (h : s.selections.get? (.selection id) = some receipt) : receipt.selection.selectionId = id := by
  have hk := (Table.get?_eq_some_iff.mp h).2
  simp only [keys_selectionReceipt, List.mem_cons, Key.selection.injEq, reduceCtorEq,
    Option.mem_toList, Option.map_eq_some_iff, and_false, exists_const, or_false] at hk
  exact hk.symm

theorem reviewId_of_latestRow {s : Store} {id : String} {row : FinanceReviewRow}
    (h : latestRow s id = some row) : row.review.reviewId = id := by
  simpa using (Table.latest_spec h).2.1

theorem returns_getState {caseId : String} {s s' : Store} {st : ProposalState}
    (h : (getState env caseId).Returns s st s') : s' = s ∧ StateOf s caseId st := by
  refine ⟨(readOnly_getState env caseId).eq h, ?_⟩
  obtain ⟨p, hp, h⟩ := (readOnly_getProjection env caseId).returns_bind.mp h
  obtain ⟨-, row, stored, hrow, hcase, hid, hprov, -⟩ := returns_getProjection env hp
  obtain ⟨before, hb, h⟩ := (readOnly_getToken caseId).returns_bind.mp h
  obtain ⟨-, row', hrow', hshows⟩ := returns_getToken hb
  obtain rfl := Option.some.inj (hrow.symm.trans hrow')
  obtain ⟨selection, hsel, h⟩ := (readOnly_currentSelection env _).returns_bind.mp h
  obtain ⟨hmatch, h⟩ := returns_require_bind.mp h
  obtain ⟨review, hrev, h⟩ := (readOnly_currentReview env _).returns_bind.mp h
  obtain ⟨after, -, h⟩ := (readOnly_getToken caseId).returns_bind.mp h
  obtain ⟨-, h⟩ := returns_require_bind.mp h
  obtain ⟨hst, -⟩ := returns_orRaise.mp h
  unfold ProposalState.validate? at hst
  split at hst
  · obtain rfl := Option.some.inj hst
    refine ⟨⟨row, hrow, hshows, hid, stored, hcase, hprov⟩, ?_, ?_⟩
    · -- the selection was fetched by the pointer of the token
      intro sel hs
      obtain rfl : selection = some sel := hs
      rcases hptr : before.selectionId with _ | id <;> rw [hptr] at hsel
      · cases (returns_done.mp hsel).1
      · obtain ⟨sel', hget, heq⟩ := returns_map.mp hsel
        obtain rfl := Option.some.inj heq
        obtain ⟨-, receipt, hr, rfl, hbound⟩ := returns_getSelection env hget
        rw [← selectionId_of_get? hr] at hr
        exact ⟨hmatch _ rfl, hbound, receipt, hr, rfl⟩
    · -- the review was fetched by the review id of the selection
      intro r hr
      obtain ⟨p, hp, rfl⟩ := Option.map_eq_some_iff.mp hr
      subst hp
      unfold currentReview at hrev
      split at hrev
      · cases (returns_done.mp hrev).1
      · rename_i id hid'
        obtain ⟨q, hq, heq⟩ := returns_map.mp hrev
        obtain rfl := Option.some.inj heq
        obtain ⟨-, row₁, hl, rfl⟩ := returns_getLatest env hq
        obtain ⟨sel, hsel', hfid⟩ := Option.bind_eq_some_iff.mp hid'
        have hrid := reviewId_of_latestRow hl
        exact ⟨sel, row₁, hsel', hfid.trans (by rw [hrid]), by rw [hrid]; exact hl, rfl, rfl⟩
  · cases hst

/-! ### Supersession -/

/-- End the review of a state: the common part of `_supersede` and
`withdraw_current`. -/
def appendSuperseded (review : FinanceReview) (reviewRevision : Option Nat) (now : Instant)
    (operation operationId : String) : Sql Unit := do
  let superseded ← ofExcept (supersedeFinanceReview review now)
  let fingerprint :=
    env.sha256 (.supersession operation operationId review.reviewId reviewRevision now)
  let _ ← appendReview env superseded reviewRevision (operation ++ ":" ++ operationId) fingerprint
  pure ()

/-- `_supersede`. -/
def supersede (state : ProposalState) (now : Instant) (operation operationId : String) :
    Sql Unit :=
  match state.review with
  | none => pure ()
  | some review => do
    require (review.status ≠ .superseded)
      (integrityError "current proposal points to a superseded review")
    appendSuperseded env review state.reviewRevision now operation operationId

/-! ### Publication, guard and withdrawal -/

/-- The check of `publish` on the review of a new high-cost selection. -/
def requirePendingReview : Option String → Sql Unit
  | none => pure ()
  | some reviewId => do
    let (latest, latestRevision) ← getLatest env reviewId
    require (latest.status = .pending ∧ latestRevision = 1)
      (integrityError "new proposal requires a current revision-1 pending Finance review")

/-- `publish`. -/
def publish (receipt : SelectionReceipt) : Sql ProposalSelection := do
  let replay ← getReceiptByKey env receipt.idempotencyKey
  match replay with
  | some replay => do
    require (replay = receipt)
      ⟨.selectionIdempotencyConflict, "Selection idempotency key was used for another request"⟩
    pure replay.selection
  | none => do
    let selection := receipt.selection
    let state ← getState env selection.proposal.caseId
    require (state.token = receipt.expected) (staleProposal "Case analysis or proposal changed")
    require (receipt.expected.analysisId = some selection.proposal.analysisId ∧
        receipt.expected.analysisMaterialHash = some selection.proposal.analysisMaterialHash)
      (integrityError "selected proposal must bind the current Analysis Version")
    validateBinding env receipt
    requirePendingReview env selection.financeReviewId
    insertInto Store.selections (fun s t => { s with selections := t }) receipt
    casProjection selection.proposal.caseId receipt.expected
      { currentSelectionId := some (some selection.selectionId) }
    supersede env state selection.submittedAt "selection-supersede" selection.selectionId
    pure selection

/-- `guard_current`. -/
def guardCurrent (caseId : String) (expected : ProposalToken) : Sql ProposalToken := do
  let case ← storedCase caseId
  require (case.effectiveWorkflowVersion = .independentFinance)
    (integrityError "Case does not use independent Finance workflow")
  let state ← getState env caseId
  require (state.token = expected) (staleProposal "Case analysis or proposal changed")
  casProjection caseId expected { currentSelectionId := some expected.selectionId }
  pure expected.next

/-- The end of the review of a withdrawn selection. -/
def withdrawReview (state : ProposalState) (now : Instant) (operationId : String) : Sql Unit :=
  match state.review with
  | none => pure ()
  | some review =>
    appendSuperseded env review state.reviewRevision now "decision-withdraw" operationId

/-- `withdraw_current`. -/
def withdrawCurrent (caseId : String) (expected : ProposalToken) (now : Instant)
    (operationId : String) : Sql ProposalToken := do
  let case ← storedCase caseId
  require (case.effectiveWorkflowVersion = .independentFinance)
    (integrityError "Case does not use independent Finance workflow")
  require (Nonblank operationId) ⟨.valueError, "Withdrawal operation_id must be nonblank"⟩
  let state ← getState env caseId
  require (state.token = expected) (staleProposal "Case analysis or proposal changed")
  require (∀ selection ∈ state.selection, selection.submittedAt ≤ now)
    ⟨.valueError, "Withdrawal cannot precede proposal submission"⟩
  casProjection caseId expected { currentSelectionId := some none }
  withdrawReview env state now operationId
  pure expected.withdrawn

/-! ### What the commands did -/

/-- The projection after a rewrite, read at any case. -/
theorem get?_modifyProjection {s : Store} {c c' : String}
    {f : CaseProjectionRow → CaseProjectionRow}
    {hf : ∀ r, Key.projection c ∈ keys r → keys (f r) = keys r} :
    (s.projections.modify (.projection c) f hf).get? (.projection c') =
      if c' = c then (s.projections.get? (.projection c)).map f
      else s.projections.get? (.projection c') := by
  by_cases h : c' = c
  · subst h
    rw [if_pos rfl, Table.get?_modify_self]
  · rw [if_neg h, Table.get?_modify]
    rcases hr : s.projections.get? (.projection c') with _ | r
    · rfl
    · have hk := (Table.get?_eq_some_iff.mp hr).2
      simp only [keys_caseProjectionRow, List.mem_singleton, Key.projection.injEq] at hk
      rw [Option.map_some, if_neg]
      simp only [keys_caseProjectionRow, List.mem_singleton, Key.projection.injEq]
      exact fun hc => h (hk.trans hc.symm)

/-- The tables after `casProjection`. -/
def Store.cas (s : Store) (caseId : String) (expected : ProposalToken) (values : CasValues) :
    Store :=
  { s with
    projections := s.projections.modify (.projection caseId)
      (values.apply (expected.generation + 1)) (values.keys_apply expected caseId) }

theorem get?_cas_self {s : Store} {caseId : String} {expected : ProposalToken}
    {values : CasValues} :
    (s.cas caseId expected values).projections.get? (.projection caseId) =
      (s.projections.get? (.projection caseId)).map (values.apply (expected.generation + 1)) := by
  unfold Store.cas
  rw [Table.get?_modify_self]

/-- A read state whose token is the expected one, on an independent case. -/
structure ReadyState (s : Store) (caseId : String) (expected : ProposalToken)
    (st : ProposalState) : Prop where
  state : StateOf s caseId st
  token : st.token = expected
  independent : ∃ case, s.cases.get? (.case caseId) = some case ∧
    case.effectiveWorkflowVersion = .independentFinance

theorem returns_guardCurrent {caseId : String} {expected t : ProposalToken} {s s' : Store}
    (h : (guardCurrent env caseId expected).Returns s t s') :
    t = expected.next ∧ (∃ st, ReadyState s caseId expected st) ∧
      s' = s.cas caseId expected { currentSelectionId := some expected.selectionId } := by
  simp only [guardCurrent, storedCase, returns_getRow_bind, returns_require_bind] at h
  obtain ⟨case, hcase, hw, h⟩ := h
  obtain ⟨st, hst, h⟩ := (readOnly_getState env caseId).returns_bind.mp h
  obtain ⟨htoken, h⟩ := returns_require_bind.mp h
  obtain ⟨_, s₁, hcas, h⟩ := returns_bind.mp h
  obtain ⟨rfl, rfl⟩ := returns_done.mp h
  obtain ⟨row, -, -, rfl⟩ := returns_casProjection hcas
  exact ⟨rfl, ⟨st, (returns_getState env hst).2, htoken, case, hcase, hw⟩, rfl⟩

/-- The end of a review: the next revision of the review, superseded; or a
replay of such a revision. -/
def Supersedes (s : Store) (review : FinanceReview) (s' : Store) : Prop :=
  (s' = s ∧ ∃ row ∈ s.reviews, review.SameRequest row.review ∧ row.review.status = .superseded) ∨
    ∃ row, Appends s row ∧ review.SameRequest row.review ∧ row.review.status = .superseded ∧
      s' = { s with reviews := s.reviews.add row }

theorem returns_appendSuperseded {review : FinanceReview} {reviewRevision : Option Nat}
    {now : Instant} {operation operationId : String} {s s' : Store} {u : Unit}
    (h : (appendSuperseded env review reviewRevision now operation operationId).Returns s u s') :
    Supersedes s review s' := by
  rw [appendSuperseded, returns_ofExcept_bind] at h
  obtain ⟨superseded, hsup, h⟩ := h
  obtain ⟨hsame, hstatus⟩ := supersedeFinanceReview_spec hsup
  obtain ⟨p, s₁, happ, h⟩ := returns_bind.mp h
  obtain ⟨-, rfl⟩ := returns_done.mp h
  rcases returns_appendReview env happ with ⟨rfl, row, hrow, rfl⟩ | ⟨-, -, row, ha, hr, -, rfl⟩
  · exact .inl ⟨rfl, row, Table.mem_of_get? hrow, hsame, hstatus⟩
  · exact .inr ⟨row, ha, hr ▸ hsame, hr ▸ hstatus, rfl⟩

/-- What superseding the review of a state did. -/
def SupersedesState (s : Store) (st : ProposalState) (s' : Store) : Prop :=
  (st.review = none ∧ s' = s) ∨ ∃ review, st.review = some review ∧ Supersedes s review s'

theorem SupersedesState.frame {s s' : Store} {st : ProposalState}
    (h : SupersedesState s st s') :
    s'.decisions = s.decisions ∧ s'.satisfactions = s.satisfactions ∧ s'.outbox = s.outbox := by
  rcases h with ⟨-, rfl⟩ | ⟨review, -, ⟨rfl, -⟩ | ⟨row, -, -, -, rfl⟩⟩
  · exact ⟨rfl, rfl, rfl⟩
  · exact ⟨rfl, rfl, rfl⟩
  · exact ⟨rfl, rfl, rfl⟩

theorem SupersedesState.selections {s s' : Store} {st : ProposalState}
    (h : SupersedesState s st s') : s'.selections = s.selections := by
  rcases h with ⟨-, rfl⟩ | ⟨review, -, ⟨rfl, -⟩ | ⟨row, -, -, -, rfl⟩⟩
  · rfl
  · rfl
  · rfl

theorem SupersedesState.projections {s s' : Store} {st : ProposalState}
    (h : SupersedesState s st s') : s'.projections = s.projections := by
  rcases h with ⟨-, rfl⟩ | ⟨review, -, ⟨rfl, -⟩ | ⟨row, -, -, -, rfl⟩⟩
  · rfl
  · rfl
  · rfl

theorem returns_supersede {st : ProposalState} {now : Instant} {operation operationId : String}
    {s s' : Store} {u : Unit}
    (h : (supersede env st now operation operationId).Returns s u s') :
    SupersedesState s st s' := by
  unfold supersede at h
  split at h
  · rename_i hr
    exact .inl ⟨hr, (returns_done.mp h).2⟩
  · rename_i review hr
    obtain ⟨-, h⟩ := returns_require_bind.mp h
    exact .inr ⟨review, hr, returns_appendSuperseded env h⟩

theorem returns_withdrawReview {st : ProposalState} {now : Instant} {operationId : String}
    {s s' : Store} {u : Unit} (h : (withdrawReview env st now operationId).Returns s u s') :
    SupersedesState s st s' := by
  unfold withdrawReview at h
  split at h
  · rename_i hr
    exact .inl ⟨hr, (returns_done.mp h).2⟩
  · rename_i review hr
    exact .inr ⟨review, hr, returns_appendSuperseded env h⟩

theorem returns_withdrawCurrent {caseId : String} {expected t : ProposalToken} {now : Instant}
    {operationId : String} {s s' : Store}
    (h : (withdrawCurrent env caseId expected now operationId).Returns s t s') :
    ∃ st, ReadyState s caseId expected st ∧
      SupersedesState (s.cas caseId expected { currentSelectionId := some none }) st s' := by
  simp only [withdrawCurrent, storedCase, returns_getRow_bind, returns_require_bind] at h
  obtain ⟨case, hcase, hw, -, h⟩ := h
  obtain ⟨st, hst, h⟩ := (readOnly_getState env caseId).returns_bind.mp h
  obtain ⟨htoken, h⟩ := returns_require_bind.mp h
  obtain ⟨-, h⟩ := returns_require_bind.mp h
  obtain ⟨_, s₁, hcas, h⟩ := returns_bind.mp h
  obtain ⟨_, s₂, hwith, h⟩ := returns_bind.mp h
  obtain ⟨-, rfl⟩ := returns_done.mp h
  obtain ⟨row, -, -, rfl⟩ := returns_casProjection hcas
  exact ⟨st, ⟨(returns_getState env hst).2, htoken, case, hcase, hw⟩,
    returns_withdrawReview env hwith⟩

/-- A publication: a new receipt, the pointer moved to it, the review of the
replaced selection superseded. -/
structure Publishes (s : Store) (receipt : SelectionReceipt) (s' : Store) : Prop where
  free : s.selections.Free receipt
  bound : Bound s receipt.selection
  analysis : receipt.expected.analysisId = some receipt.selection.proposal.analysisId ∧
    receipt.expected.analysisMaterialHash = some receipt.selection.proposal.analysisMaterialHash
  pending : ∀ reviewId, receipt.selection.financeReviewId = some reviewId →
    ∃ row, latestRow s reviewId = some row ∧ row.review.status = .pending ∧ row.revision = 1
  effect : ∃ st, ReadyState s receipt.selection.proposal.caseId receipt.expected st ∧
    SupersedesState
      ({ s with selections := s.selections.add receipt }.cas
        receipt.selection.proposal.caseId receipt.expected
        { currentSelectionId := some (some receipt.selection.selectionId) })
      st s'

theorem readOnly_requirePendingReview (reviewId : Option String) :
    (requirePendingReview env reviewId).ReadOnly := by
  cases reviewId with
  | none => exact readOnly_done ()
  | some id => exact (readOnly_getLatest env id).bind fun _ => readOnly_require _ _

theorem returns_requirePendingReview {reviewId : Option String} {s s' : Store} {u : Unit}
    (h : (requirePendingReview env reviewId).Returns s u s') :
    ∀ id, reviewId = some id →
      ∃ row, latestRow s id = some row ∧ row.review.status = .pending ∧ row.revision = 1 := by
  rintro id rfl
  obtain ⟨p, hp, h⟩ := (readOnly_getLatest env id).returns_bind.mp h
  obtain ⟨⟨hs, hr⟩, -⟩ := returns_require.mp h
  obtain ⟨-, row, hrow, rfl⟩ := returns_getLatest env hp
  exact ⟨row, hrow, hs, hr⟩

theorem returns_publish {receipt : SelectionReceipt} {selection : ProposalSelection}
    {s s' : Store} (h : (publish env receipt).Returns s selection s') :
    selection = receipt.selection ∧
      ((s' = s ∧ s.selections.get? (.selectionKey receipt.idempotencyKey) = some receipt) ∨
        Publishes s receipt s') := by
  obtain ⟨replay, hreplay, h⟩ := (readOnly_getReceiptByKey env _).returns_bind.mp h
  obtain ⟨-, rfl⟩ := returns_getReceiptByKey env hreplay
  rcases hkey : s.selections.get? (.selectionKey receipt.idempotencyKey) with _ | stored <;>
    simp only [hkey] at h
  · obtain ⟨st, hst, h⟩ := (readOnly_getState env _).returns_bind.mp h
    obtain ⟨htoken, h⟩ := returns_require_bind.mp h
    obtain ⟨hanalysis, h⟩ := returns_require_bind.mp h
    obtain ⟨_, hb, h⟩ := (readOnly_validateBinding env receipt).returns_bind.mp h
    obtain ⟨_, hp, h⟩ := (readOnly_requirePendingReview env _).returns_bind.mp h
    obtain ⟨_, s₁, hins, h⟩ := returns_bind.mp h
    obtain ⟨hfree, rfl⟩ := returns_insertInto.mp hins
    obtain ⟨_, s₂, hcas, h⟩ := returns_bind.mp h
    obtain ⟨row, -, -, rfl⟩ := returns_casProjection hcas
    obtain ⟨_, s₃, hsup, h⟩ := returns_bind.mp h
    obtain ⟨rfl, rfl⟩ := returns_done.mp h
    have hbound := (returns_validateBinding env hb).2
    exact ⟨rfl, .inr ⟨hfree, hbound, hanalysis, returns_requirePendingReview env hp, st,
      ⟨(returns_getState env hst).2, htoken, hbound.case⟩, returns_supersede env hsup⟩⟩
  · obtain ⟨rfl, hrest⟩ := returns_require_bind.mp h
    obtain ⟨rfl, rfl⟩ := returns_done.mp hrest
    exact ⟨rfl, .inl ⟨rfl, rfl⟩⟩

/-- A published receipt is stored, and readable. -/
theorem returns_publish_receipt {receipt : SelectionReceipt} {selection : ProposalSelection}
    {s s' : Store} (h : (publish env receipt).Returns s selection s')
    (hkey : s.selections.get? (.selectionKey receipt.idempotencyKey) = none) :
    (decodeReceipt env receipt).Returns s receipt s ∧
      s'.selections.get? (.selectionKey receipt.idempotencyKey) = some receipt := by
  constructor
  · obtain ⟨replay, hreplay, h⟩ := (readOnly_getReceiptByKey env _).returns_bind.mp h
    obtain ⟨-, rfl⟩ := returns_getReceiptByKey env hreplay
    simp only [hkey] at h
    obtain ⟨st, -, h⟩ := (readOnly_getState env _).returns_bind.mp h
    obtain ⟨-, h⟩ := returns_require_bind.mp h
    obtain ⟨hanalysis, h⟩ := returns_require_bind.mp h
    obtain ⟨_, hbinding, -⟩ := (readOnly_validateBinding env receipt).returns_bind.mp h
    rw [decodeReceipt, returns_require_bind, (readOnly_validateBinding env receipt).returns_bind]
    exact ⟨hanalysis, (), hbinding, returns_done.mpr ⟨rfl, rfl⟩⟩
  · obtain ⟨-, ⟨-, hstored⟩ | hpublishes⟩ := returns_publish env h
    · rw [hkey] at hstored
      cases hstored
    · obtain ⟨st, -, hsup⟩ := hpublishes.effect
      rw [hsup.selections]
      show (s.selections.add receipt).get? _ = _
      rw [Table.get?_add hpublishes.free, if_pos (by simp)]

end SupplyResponse
