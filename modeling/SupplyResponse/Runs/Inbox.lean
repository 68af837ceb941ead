/-
The inbox of Finance reviews, over whole histories.

* `Attended` — the invariant: everything is legible, every case is projected, Alex submitted
  every selection and Taylor is the only reviewer; `attended_of_run`;
* `Describes` — a detail shows the review as it is stored;
* `inbox_complete` — after every history Taylor's inbox answers with every pending review,
  once, oldest first;
* `inbox_resolvable` — what the inbox shows can be resolved.
-/
import SupplyResponse.Numbers.Sorting
import SupplyResponse.Runs.Reading
import SupplyResponse.Services.FinanceInbox
import Mathlib.Data.Prod.Lex
import Mathlib.Data.String.Basic

namespace SupplyResponse

open Transact Transact.Prog
open Keyed (keys)

variable {env : Env} {s s' : Store} {c : String}

/-! ### Projected cases -/

/-- Every stored case has a projection. -/
def CasesProjected (s : Store) : Prop :=
  ∀ c case, s.cases.get? (.case c) = some case → (s.projections.get? (.projection c)).isSome

/-- No projection disappears. -/
def KeepsProjections (s s' : Store) : Prop :=
  ∀ k, (s.projections.get? k).isSome → (s'.projections.get? k).isSome

theorem Writing.keepsProjections {kind : WriteKind} {v : Store} {l : List Key} {u : Store → Store}
    (h : Writing kind v l u) : KeepsProjections v (u v) := by
  intro k hk
  cases h
  case newProjection case hfree =>
    obtain ⟨row, hrow⟩ := Option.isSome_iff_exists.mp hk
    exact Option.isSome_iff_exists.mpr ⟨row, Table.get?_add_of_some hrow⟩
  case saveProjection | advanceLegacy | setStatus | setDecision =>
    simpa only [Table.get?_modify, Option.isSome_map] using hk
  case compareAndSet | guard =>
    simpa only [Store.cas, Table.get?_modify, Option.isSome_map] using hk
  all_goals exact hk

theorem casesProjected_step {t : Transaction} {u : Unit} (h : CasesProjected s)
    (hc : (t.program env).Commits s u s') : CasesProjected s' := by
  have hkeeps : KeepsProjections s s' :=
    relates_of_commits (R := KeepsProjections) (fun _ _ hk => hk)
      (fun h h' k hk => h' k (h k hk)) (fun _ hw => hw.keepsProjections) hc
  by_cases hk : WriteKind.newCase ∉ t.kinds
  · have hcases : s'.cases = s.cases :=
      relates_of_commits (R := fun s s' => s'.cases = s.cases) (fun _ => rfl)
        (fun h h' => h'.trans h) (fun hkind hw => hw.cases_eq (fun he => hk (he ▸ hkind)) _) hc
    intro c case hcase
    rw [hcases] at hcase
    exact hkeeps _ (h c case hcase)
  · cases t
    case createCase case snapshot =>
      obtain ⟨_, hcommits⟩ := commits_effect.mp hc
      obtain ⟨hfree, -⟩ := createCase_stored hcommits
      obtain ⟨hrow, rfl⟩ := returns_createCase env hcommits
      intro c stored hstored
      by_cases hc : c = case.caseId
      · subst hc
        rw [Table.get?_add hrow, if_pos (by simp [CaseProjectionRow.initial])]
        rfl
      · rw [Table.get?_add hfree, if_neg (by simpa using hc)] at hstored
        exact hkeeps _ (h c stored hstored)
    all_goals exact absurd (by dsimp only [Transaction.kinds]; decide) hk

/-! ### Submitters and reviewers -/

theorem supersedeFinanceReview_reviewer {review r : FinanceReview} {now : Instant}
    (h : supersedeFinanceReview review now = .ok r) : r.reviewedBy = review.reviewedBy := by
  unfold supersedeFinanceReview at h
  split at h
  · cases h
  · split at h
    · obtain rfl := Except.ok.inj h
      rfl
    · obtain ⟨a, ha, rfl⟩ := elim_eq_ok (f := id) h
      obtain ⟨-, -, -, -, -, hreviewer, -⟩ := FinanceReview.validate?_spec ha
      exact hreviewer

/-- Only Taylor has reviewed. -/
def Reviewed (env : Env) (s : Store) : Prop :=
  ∀ row ∈ s.reviews, ∀ reviewer ∈ row.review.reviewedBy, env.actors.IsTaylor reviewer

namespace Reviewed

theorem congr (h : Reviewed env s) (hs : s'.reviews = s.reviews) : Reviewed env s' := by
  intro row hrow
  rw [hs] at hrow
  exact h row hrow

/-- A new revision: a submission, a supersession, or a resolution by Taylor. -/
theorem append {row : FinanceReviewRow} (h : Reviewed env s) (ha : Appends s row)
    (hnew : row.review.status ≠ .pending → row.review.status ≠ .superseded →
      ∀ reviewer ∈ row.review.reviewedBy, env.actors.IsTaylor reviewer)
    (hs : s'.reviews = s.reviews.add row) : Reviewed env s' := by
  intro x hx
  rw [hs] at hx
  rcases (Table.mem_add ha.free).mp hx with hold | rfl
  · exact h x hold
  by_cases hpending : x.review.status = .pending
  · have hadmits := x.review.valid.2.2.2.2.2.2
    rw [hpending] at hadmits
    intro reviewer hreviewer
    rw [hadmits.1] at hreviewer
    cases hreviewer
  by_cases hend : x.review.status = .superseded
  · -- a supersession keeps the reviewer of the revision before
    cases hlatest : latestRow s x.review.reviewId with
    | none => exact absurd (ha.first hlatest) hpending
    | some previous =>
      obtain ⟨-, -, hcanonical⟩ := ha.next previous hlatest
      rw [canonicalTransition, if_pos hend] at hcanonical
      rw [supersedeFinanceReview_reviewer hcanonical]
      exact h previous (mem_of_latestRow hlatest)
  · exact hnew hpending hend

theorem supersedes {st : ProposalState} (h : Reviewed env s) (hs : SupersedesState s st s') :
    Reviewed env s' := by
  rcases hs with ⟨-, rfl⟩ | ⟨review, -, ⟨rfl, -⟩ | ⟨row, ha, -, hstatus, rfl⟩⟩
  · exact h
  · exact h
  · exact h.append ha (fun _ hlive => absurd hstatus hlive) rfl

theorem opens {proposal : FinanceProposal} {reviewId : Option String} (h : Reviewed env s)
    (ho : OpensReview s proposal reviewId s') : Reviewed env s' := by
  cases reviewId with
  | none =>
    obtain rfl : s' = s := ho
    exact h
  | some id =>
    rcases ho with ⟨rfl, -⟩ | ⟨row, ha, -, -, hstatus, rfl⟩
    · exact h
    · exact h.append ha (fun hpending => absurd hstatus hpending) rfl

theorem saves {analysis : AnalysisVersion} {projected : Option CaseInstance}
    {stored : CaseInstance} {row : CaseProjectionRow} (h : Reviewed env s)
    (hs : SavesAnalysis env s analysis projected stored row s') : Reviewed env s' := by
  by_cases hi : stored.effectiveWorkflowVersion = .independentFinance
  · obtain ⟨st, -, hsup⟩ := hs.independent hi
    have hadded : Reviewed env ((s.addAnalysis analysis).cas analysis.caseId st.token
        { savedValues analysis projected stored row with currentSelectionId := some none }) :=
      h.congr rfl
    exact hadded.supersedes hsup
  · rw [hs.legacy hi]
    exact h.congr rfl

theorem finalizes {command : FinalizeProposalCommand} {d : Decision} (h : Reviewed env s)
    (hf : Finalizes env s command d s') : Reviewed env s' := by
  rcases hk : d.kind
  · have hcas : Reviewed env (s.cas command.caseId command.expected
        { currentSelectionId := some command.expected.selectionId }) := h.congr rfl
    exact hcas.congr (hf.approved hk).neutral.reviews
  · obtain ⟨st, s₁, -, hsup, hstores⟩ := hf.rejected hk
    have hcas : Reviewed env (s.cas command.caseId command.expected
        { currentSelectionId := some none }) := h.congr rfl
    exact (hcas.supersedes hsup).congr hstores.neutral.reviews

end Reviewed

theorem reviewed_step {t : Transaction} {u : Unit} (h : Reviewed env s)
    (hc : (t.program env).Commits s u s') : Reviewed env s' := by
  by_cases hk : WriteKind.newReview ∉ t.kinds
  · refine h.congr (relates_of_commits (R := fun s s' => s'.reviews = s.reviews) (fun _ => rfl)
      (fun h h' => h'.trans h) (fun hkind hw => hw.reviews_eq (fun he => hk (he ▸ hkind)) _) hc)
  · cases t
    case saveAnalysis analysis projected now =>
      obtain ⟨_, hcommits⟩ := commits_effect.mp hc
      obtain ⟨stored, row, hs⟩ := returns_saveAnalysis env hcommits
      exact h.saves hs
    case completeAnalysisClaim analysis projected version claimId completedAt now =>
      obtain ⟨_, hcommits⟩ := commits_effect.mp hc
      obtain ⟨-, stored, row, s₁, hs, t, rfl⟩ := returns_completeAnalysisClaim env hcommits
      exact (h.saves hs).congr rfl
    case submit command actor selectionUuid reviewUuid clock =>
      obtain ⟨_, hcommits⟩ := commits_effect.mp hc
      obtain ⟨receipt, hs⟩ := returns_submitTransaction env hcommits
      obtain ⟨s₁, hopens, hpublishes⟩ := hs.published
      obtain ⟨st, -, hsup⟩ := hpublishes.effect
      have hadded : Reviewed env ({ s₁ with selections := s₁.selections.add receipt }.cas
          receipt.selection.proposal.caseId receipt.expected
          { currentSelectionId := some (some receipt.selection.selectionId) }) :=
        (h.opens hopens).congr rfl
      exact hadded.supersedes hsup
    case resolve command actor clock =>
      obtain ⟨_, hcommits⟩ := commits_effect.mp hc
      obtain ⟨caseId, row, hr⟩ := returns_resolveTransaction env hcommits
      refine h.append hr.appends (fun _ _ => ?_) (by rw [hr.effect])
      obtain ⟨reviewer, hreviewer, htaylor⟩ := hr.taylor
      intro x hx
      rw [hreviewer, Option.mem_some_iff] at hx
      exact hx ▸ htaylor
    case finalize command actor decisionUuid eventUuid clock =>
      obtain ⟨_, hcommits⟩ := commits_effect.mp hc
      exact h.finalizes (returns_finalizeTransaction env hcommits)
    all_goals exact absurd (by dsimp only [Transaction.kinds]; decide) hk

/-! ### The invariant -/

/-- Everything can be read, and everyone on it is who the services say. -/
structure Attended (env : Env) (s : Store) : Prop where
  legible : Legible env s
  projected : CasesProjected s
  submitters : ∀ receipt ∈ s.selections, env.actors.IsAlex receipt.selection.submittedBy
  reviewers : Reviewed env s

theorem Attended.empty : Attended env Store.empty where
  legible := .empty
  projected _ _ h := by cases h
  submitters _ h := absurd h (Table.notMem_empty _)
  reviewers _ h := absurd h (Table.notMem_empty _)

theorem submitters_step {t : Transaction} {u : Unit}
    (h : ∀ receipt ∈ s.selections, env.actors.IsAlex receipt.selection.submittedBy)
    (hc : (t.program env).Commits s u s') :
    ∀ receipt ∈ s'.selections, env.actors.IsAlex receipt.selection.submittedBy := by
  by_cases hk : WriteKind.newSelection ∉ t.kinds
  · have hselections : s'.selections = s.selections :=
      relates_of_commits (R := fun s s' => s'.selections = s.selections) (fun _ => rfl)
        (fun h h' => h'.trans h) (fun hkind hw => hw.selections_eq (fun he => hk (he ▸ hkind)) _) hc
    rw [hselections]
    exact h
  · cases t
    case submit command actor selectionUuid reviewUuid clock =>
      obtain ⟨_, hcommits⟩ := commits_effect.mp hc
      obtain ⟨receipt, hs⟩ := returns_submitTransaction env hcommits
      obtain ⟨hfree, hselections⟩ := hs.selections_eq
      intro x hx
      rw [hselections] at hx
      rcases (Table.mem_add hfree).mp hx with hold | rfl
      · exact h x hold
      · exact hs.alex
    all_goals exact absurd (by dsimp only [Transaction.kinds]; decide) hk

theorem attended_step {t : Transaction} {u : Unit} (h : Attended env s) (ht : t.NamesAnalysis)
    (hc : (t.program env).Commits s u s') : Attended env s' where
  legible := legible_step h.legible ht hc
  projected := casesProjected_step h.projected hc
  submitters := submitters_step h.submitters hc
  reviewers := reviewed_step h.reviewers hc

theorem attended_of_run (h : Run (namedProgram env) Store.empty s) : Attended env s :=
  Run.invariant (fun hs ⟨t, _, hc⟩ => attended_step hs t.2 hc) h .empty

/-! ### Details -/

/-- What the checks of a binding say of the option of an analysis. -/
theorem AnalysisVersion.IsProposable.proposed? {analysis : AnalysisVersion}
    {proposal : FinanceProposal} (h : analysis.IsProposable proposal)
    (hhash : analysis.materialHash = proposal.analysisMaterialHash) :
    ∃ option, analysis.option? proposal.optionId = some option ∧
      analysis.proposed? proposal = some option ∧
      ∃ predicted ∈ option.predicted, predicted.responseCost = proposal.responseCost := by
  obtain ⟨material, -, option, hoption, ⟨cost, hcost, hsame⟩, rfl, -, -, -, -⟩ := h
  obtain ⟨predicted, hpredicted, rfl⟩ := Option.map_eq_some_iff.mp hcost
  refine ⟨option, hoption, ?_, predicted, hpredicted, hsame⟩
  unfold AnalysisVersion.proposed?
  rw [Option.mem_def.mp hoption, Option.bind_eq_bind, Option.bind_some, hpredicted]
  exact if_pos ⟨hhash, hsame⟩

/-- A detail shows a review as it is stored, with its selection, the analysis and option it is
about, the token of its case, and whether it is the review of the current selection. -/
structure Describes (s : Store) (d : FinanceReviewDetail) : Prop where
  review : ∃ row, latestRow s d.review.reviewId = some row ∧ row.review = d.review ∧
    row.revision = d.reviewRevision
  selection : ∃ receipt ∈ s.selections, receipt.selection = d.selection
  binding : d.selection.financeReviewId = some d.review.reviewId ∧
    d.review.proposal = d.selection.proposal
  analysis : s.analyses.get? (.analysis d.review.proposal.analysisId) = some d.analysis ∧
    d.analysis.materialHash = d.review.proposal.analysisMaterialHash
  option : d.analysis.option? d.review.proposal.optionId = some d.option ∧
    ∃ predicted ∈ d.option.predicted, predicted.responseCost = d.review.proposal.responseCost
  token : ∃ row, s.projections.get? (.projection d.review.proposal.caseId) = some row ∧
    row.Shows d.currentToken
  current : d.isCurrent = true ↔
    currentReviewId s d.review.proposal.caseId = some d.review.reviewId

/-- The selection of a review is current when the review is. -/
theorem currentReviewId_iff {receipt : SelectionReceipt} {row : CaseProjectionRow} {id : String}
    (hreceipt : receipt ∈ s.selections) (hid : receipt.selection.financeReviewId = some id)
    (hrow : s.projections.get? (.projection c) = some row) :
    row.currentSelectionId = some receipt.selection.selectionId ↔
      currentReviewId s c = some id := by
  have hpointer : pointer s c = row.currentSelectionId := by
    unfold pointer
    rw [hrow, Option.bind_some]
  unfold currentReviewId currentReceipt
  rw [hpointer]
  constructor
  · intro hcurrent
    have hget : s.selections.get? (.selection receipt.selection.selectionId) = some receipt :=
      Table.get?_of_mem hreceipt (by simp)
    rw [hcurrent, Option.bind_some, hget, Option.bind_some, hid]
  · intro hcurrent
    obtain ⟨other, hother, hotherId⟩ := Option.bind_eq_some_iff.mp hcurrent
    obtain ⟨selectionId, hselection, hget⟩ := Option.bind_eq_some_iff.mp hother
    -- both receipts have the review
    have hsame : other = receipt :=
      Table.eq_of_key (k := Key.selectionReview id) (Table.mem_of_get? hget) hreceipt
        (by simp [hotherId]) (by simp [hid])
    subst hsame
    rw [hselection, selectionId_of_get? hget]

namespace Attended

theorem reviewDetail_reads {row : FinanceReviewRow} {id : String} (h : Attended env s)
    (hlatest : latestRow s id = some row) :
    ∃ d, (reviewDetail env id).Returns s d s ∧ d.review = row.review ∧ Describes s d := by
  have hrow := mem_of_latestRow hlatest
  have hid := reviewId_of_latestRow hlatest
  obtain ⟨receipt, hreceipt, hproposal⟩ := h.legible.reviews.owner row hrow
  rw [hid] at hreceipt
  have hmem := Table.mem_of_get? hreceipt
  have hreviewId : receipt.selection.financeReviewId = some id := by
    have hkeys := (Table.get?_eq_some_iff.mp hreceipt).2
    simpa [eq_comm] using hkeys
  obtain ⟨latest, hlatest', -, -, hsubmitter⟩ := h.legible.request_of_selection hmem hreviewId
  obtain rfl := Option.some.inj (hlatest.symm.trans hlatest')
  obtain ⟨analysis, hanalysis, hcase, hhash, hproposable⟩ := h.legible.analysis_reads hmem
  obtain ⟨option, hoption, hproposed, hcost⟩ := hproposable.proposed? hhash
  obtain ⟨-, -, hbound, -⟩ := returns_decodeReceipt env (h.legible.receipts receipt hmem)
  obtain ⟨case, hstored, -⟩ := hbound.case
  obtain ⟨prow, hprow⟩ := Option.isSome_iff_exists.mp (h.projected _ case hstored)
  obtain ⟨state, hstate, hshows⟩ := h.legible.state_reads hprow
  have hget : s.selections.get? (.selection receipt.selection.selectionId) = some receipt :=
    Table.get?_of_mem hmem (by simp)
  have hselection : (getSelectionForReview env id).Returns s receipt.selection s :=
    returns_getRow_bind.mpr ⟨receipt, hreceipt, h.legible.selection_reads hget⟩
  have halex := h.submitters receipt hmem
  refine ⟨⟨receipt.selection, row.review, row.revision, analysis, option,
    state.token.selectionId = some receipt.selection.selectionId, state.token⟩, ?_, rfl, ?_⟩
  · refine (readOnly_getSelectionForReview env id).returns_bind.mpr ⟨_, hselection, ?_⟩
    refine returns_require_bind.mpr ⟨halex, ?_⟩
    refine (readOnly_getState env _).returns_bind.mpr ⟨state, hstate, ?_⟩
    refine (readOnly_getLatest env id).returns_bind.mpr
      ⟨_, h.legible.latest_reads hlatest, ?_⟩
    refine returns_require_bind.mpr ⟨by rw [hsubmitter]; exact halex, ?_⟩
    refine returns_require_bind.mpr ⟨h.reviewers row hrow, ?_⟩
    refine returns_require_bind.mpr ⟨⟨hproposal.symm, hreviewId⟩, ?_⟩
    refine (readOnly_getAnalysis env _).returns_bind.mpr ⟨analysis, hanalysis, ?_⟩
    refine returns_orRaise_bind.mpr ⟨option, hproposed, ?_⟩
    refine (readOnly_getState env _).returns_bind.mpr ⟨state, hstate, ?_⟩
    exact returns_require_bind.mpr ⟨rfl, returns_done.mpr ⟨rfl, rfl⟩⟩
  · have hcurrent := currentReviewId_iff hmem hreviewId hprow
    constructor
    · exact ⟨row, by rw [hid]; exact hlatest, rfl, rfl⟩
    · exact ⟨receipt, hmem, rfl⟩
    · exact ⟨by rw [hid]; exact hreviewId, hproposal.symm⟩
    · rw [← hproposal]
      exact ⟨(returns_getAnalysis env hanalysis).2.1, hhash⟩
    · rw [← hproposal]
      exact ⟨hoption, hcost⟩
    · rw [← hproposal]
      exact ⟨prow, hprow, hshows⟩
    · rw [← hproposal, hid, ← hcurrent, hshows.2.2.2]
      exact decide_eq_true_iff

/-- The state of a case whose projection points to a reviewed selection. -/
theorem state_of_pointed {row : CaseProjectionRow} {receipt : SelectionReceipt} {id : String}
    {latest : FinanceReviewRow} (h : Attended env s)
    (hrow : s.projections.get? (.projection c) = some row) (hreceipt : receipt ∈ s.selections)
    (hpoints : row.currentSelectionId = some receipt.selection.selectionId)
    (hid : receipt.selection.financeReviewId = some id) (hlatest : latestRow s id = some latest) :
    ∃ state, (getState env c).Returns s state s ∧ row.Shows state.token ∧
      state.selection = some receipt.selection ∧ state.review = some latest.review ∧
      state.reviewRevision = some latest.revision := by
  obtain ⟨state, hstate, hshows⟩ := h.legible.state_reads hrow
  obtain ⟨-, hof⟩ := returns_getState env hstate
  have hpointer : state.token.selectionId = some receipt.selection.selectionId := by
    rw [← hshows.2.2.2, hpoints]
  have hget : s.selections.get? (.selection receipt.selection.selectionId) = some receipt :=
    Table.get?_of_mem hreceipt (by simp)
  have hconsistent := state.consistent
  cases hselection : state.selection with
  | none =>
    rw [hselection] at hconsistent
    cases hpointer.symm.trans hconsistent.2.2
  | some selection =>
    rw [hselection] at hconsistent
    obtain ⟨hsame, hmatches⟩ := hconsistent
    obtain ⟨-, -, receipt', hreceipt', hselection'⟩ := hof.selection selection hselection
    rw [← Option.some.inj (hpointer.symm.trans hsame), hget] at hreceipt'
    obtain rfl := Option.some.inj hreceipt'
    subst hselection'
    rw [hid] at hmatches
    cases hreview : state.review with
    | none =>
      rw [hreview] at hmatches
      exact hmatches.elim
    | some review =>
      obtain ⟨sel, row', hsel, hreviewId, hlatest', rfl, hrevision⟩ := hof.review review hreview
      obtain rfl := Option.some.inj (hselection.symm.trans hsel)
      rw [← Option.some.inj (hid.symm.trans hreviewId), hlatest] at hlatest'
      obtain rfl := Option.some.inj hlatest'
      exact ⟨state, hstate, hshows, hselection, hreview, hrevision⟩

end Attended

/-! ### The inbox -/

theorem pendingCase?_eq_some {row : CaseProjectionRow} {x : Instant × String} :
    pendingCase? s row = some x ↔ ∃ receipt id latest, receipt ∈ s.selections ∧
      row.currentSelectionId = some receipt.selection.selectionId ∧
      receipt.selection.financeReviewId = some id ∧ latestRow s id = some latest ∧
      latest.review.status = .pending ∧ x = (receipt.selection.submittedAt, row.caseId) := by
  unfold pendingCase?
  simp only [Option.bind_eq_bind, Option.bind_eq_some_iff, Option.ite_none_right_eq_some,
    Option.some.injEq]
  constructor
  · rintro ⟨selectionId, hpoints, receipt, hreceipt, id, hid, latest, hlatest, hpending, rfl⟩
    rw [← selectionId_of_get? hreceipt] at hpoints
    exact ⟨receipt, id, latest, Table.mem_of_get? hreceipt, hpoints, hid, hlatest, hpending, rfl⟩
  · rintro ⟨receipt, id, latest, hreceipt, hpoints, hid, hlatest, hpending, rfl⟩
    exact ⟨_, hpoints, receipt, Table.get?_of_mem hreceipt (by simp), id, hid, latest, hlatest,
      hpending, rfl⟩

/-- What the inbox is ordered by. -/
def FinanceReviewDetail.place (d : FinanceReviewDetail) : Instant × String :=
  (d.selection.submittedAt, d.selection.proposal.caseId)

/-- A detail that belongs in the inbox. -/
structure AwaitsTaylor (s : Store) (d : FinanceReviewDetail) : Prop where
  describes : Describes s d
  current : d.isCurrent = true
  pending : d.review.status = .pending

/-- The receipt behind a detail is the one of its review. -/
theorem Describes.selection_eq {d : FinanceReviewDetail} {receipt : SelectionReceipt}
    (h : Describes s d) (hreceipt : receipt ∈ s.selections)
    (hid : receipt.selection.financeReviewId = some d.review.reviewId) :
    d.selection = receipt.selection := by
  obtain ⟨other, hother, hselection⟩ := h.selection
  have hotherId := h.binding.1
  rw [← hselection] at hotherId ⊢
  have hsame : other = receipt :=
    Table.eq_of_key (k := Key.selectionReview d.review.reviewId) hother hreceipt
      (by simp [hotherId]) (by simp [hid])
  rw [hsame]

/-- Every listed case is answered with its waiting review. -/
theorem Attended.pendingDetail_reads {row : CaseProjectionRow} {x : Instant × String}
    (h : Attended env s) (hrow : row ∈ s.projections) (hx : pendingCase? s row = some x) :
    ∃ d, (pendingDetail env x.2).Returns s (some d) s ∧ AwaitsTaylor s d ∧ d.place = x := by
  obtain ⟨receipt, id, latest, hreceipt, hpoints, hid, hlatest, hpending, rfl⟩ :=
    pendingCase?_eq_some.mp hx
  have hget : s.projections.get? (.projection row.caseId) = some row :=
    Table.get?_of_mem hrow (by simp)
  obtain ⟨state, hstate, hshows, hselection, hreview, -⟩ :=
    h.state_of_pointed hget hreceipt hpoints hid hlatest
  obtain ⟨d, hdetail, hsame, hdescribes⟩ := h.reviewDetail_reads hlatest
  have hlatestId := reviewId_of_latestRow hlatest
  have hdId : d.review.reviewId = id := by rw [hsame, hlatestId]
  have hdselection := hdescribes.selection_eq hreceipt (by rw [hdId]; exact hid)
  have hcase : receipt.selection.proposal.caseId = row.caseId :=
    ((returns_getState env hstate).2.selection _ hselection).1.1
  have hcurrent : d.isCurrent = true := by
    rw [hdescribes.current, hdescribes.binding.2, hdselection, hcase, hdId]
    exact (currentReviewId_iff hreceipt hid hget).mp hpoints
  have hdpending : d.review.status = .pending := by rw [hsame, hpending]
  have hwaiting : state.waiting? env.actors = some latest.review := by
    unfold ProposalState.waiting?
    rw [hselection, hreview]
    exact if_pos ⟨hpending, h.submitters receipt hreceipt⟩
  refine ⟨d, ?_, ⟨hdescribes, hcurrent, hdpending⟩, ?_⟩
  · refine (readOnly_getState env _).returns_bind.mpr ⟨state, hstate, ?_⟩
    rw [hwaiting]
    refine (readOnly_reviewDetail env _).returns_bind.mpr ⟨d, by rw [hlatestId]; exact hdetail, ?_⟩
    exact returns_done.mpr ⟨(if_pos ⟨hcurrent, hdpending⟩).symm, rfl⟩
  · rw [FinanceReviewDetail.place, hdselection, hcase]

/-- The loop collects the answers in order. -/
theorem collectPending_reads {P : FinanceReviewDetail → Prop} {l : List (Instant × String)}
    (h : ∀ x ∈ l, ∃ d, (pendingDetail env x.2).Returns s (some d) s ∧ P d ∧ d.place = x) :
    ∃ ds, (collectPending env (l.map Prod.snd)).Returns s ds s ∧ (∀ d ∈ ds, P d) ∧
      ds.map FinanceReviewDetail.place = l := by
  induction l with
  | nil => exact ⟨[], returns_done.mpr ⟨rfl, rfl⟩, fun _ hd => absurd hd List.not_mem_nil, rfl⟩
  | cons x rest ih =>
    obtain ⟨d, hd, hp, hplace⟩ := h x List.mem_cons_self
    obtain ⟨ds, hds, hall, hplaces⟩ := ih fun y hy => h y (List.mem_cons_of_mem x hy)
    refine ⟨d :: ds, ?_, ?_, ?_⟩
    · refine (readOnly_pendingDetail env x.2).returns_bind.mpr ⟨some d, hd, ?_⟩
      refine (readOnly_collectPending env _).returns_bind.mpr ⟨ds, hds, ?_⟩
      exact returns_done.mpr ⟨rfl, rfl⟩
    · exact List.forall_mem_cons.mpr ⟨hp, hall⟩
    · rw [List.map_cons, hplace, hplaces]

theorem submittedBefore_iff (a b : Instant × String) :
    SubmittedBefore a b ↔ toLex a ≤ toLex b :=
  Prod.Lex.toLex_le_toLex.symm

instance : Std.Total SubmittedBefore := Sorting.total_of_key toLex submittedBefore_iff

instance : IsTrans (Instant × String) SubmittedBefore :=
  Sorting.trans_of_key toLex submittedBefore_iff

/-- A pending review is the current one of its case, and the case is listed. -/
theorem Attended.mem_pendingCases {row : FinanceReviewRow} (h : Attended env s)
    (hlatest : latestRow s row.review.reviewId = some row) (hpending : row.review.status = .pending) :
    currentReviewId s row.review.proposal.caseId = some row.review.reviewId ∧
      ∃ time, (time, row.review.proposal.caseId) ∈ pendingCases s := by
  have hopened : openedReview s row.review.reviewId = some (row.review.proposal.caseId, true) := by
    unfold openedReview
    rw [hlatest, Option.map_some, hpending]
    rfl
  -- a live review is the current one of its case
  have hcurrent : currentReviewId s row.review.proposal.caseId = some row.review.reviewId :=
    (h.legible.reviews.coherent _ _).mp hopened
  obtain ⟨receipt, hreceipt, hid⟩ := Option.bind_eq_some_iff.mp hcurrent
  obtain ⟨selectionId, hpointer, hget⟩ := Option.bind_eq_some_iff.mp hreceipt
  obtain ⟨prow, hprow, hpoints⟩ := Option.bind_eq_some_iff.mp hpointer
  rw [← selectionId_of_get? hget] at hpoints
  refine ⟨hcurrent, receipt.selection.submittedAt, ?_⟩
  rw [pendingCases, List.mem_insertionSort, List.mem_filterMap]
  refine ⟨prow, Table.mem_of_get? hprow, pendingCase?_eq_some.mpr ?_⟩
  exact ⟨receipt, _, row, Table.mem_of_get? hget, hpoints, hid, hlatest, hpending,
    by rw [caseId_of_projection hprow]⟩

/-- No case is listed twice. -/
theorem nodup_pendingCases (s : Store) : ((pendingCases s).map Prod.snd).Nodup := by
  have hperm : ((pendingCases s).map Prod.snd).Perm
      ((s.projections.rows.filterMap (pendingCase? s)).map Prod.snd) :=
    (List.perm_insertionSort _ _).map _
  rw [hperm.nodup_iff, List.Nodup, List.pairwise_map, List.pairwise_filterMap]
  refine s.projections.unique.imp fun {row row'} hkeys x hx y hy hsame => ?_
  obtain ⟨_, _, _, _, _, _, _, _, rfl⟩ := pendingCase?_eq_some.mp hx
  obtain ⟨_, _, _, _, _, _, _, _, rfl⟩ := pendingCase?_eq_some.mp hy
  exact hkeys (.projection row.caseId) (by simp) (by simpa using hsame)

theorem Describes.latest {d : FinanceReviewDetail} (h : Describes s d) :
    (latestRow s d.review.reviewId).map FinanceReviewRow.review = some d.review := by
  obtain ⟨row, hrow, hreview, -⟩ := h.review
  rw [hrow, Option.map_some, hreview]

/-- The inbox is answered. -/
theorem Attended.listPending_reads (h : Attended env s) {actor : IdentitySnapshot}
    (hactor : env.actors.IsTaylor actor) :
    ∃ ds, (listPending env actor).Returns s ds s ∧ (∀ d ∈ ds, AwaitsTaylor s d) ∧
      ds.map FinanceReviewDetail.place = pendingCases s := by
  have hcases : ∀ x ∈ pendingCases s, ∃ d,
      (pendingDetail env x.2).Returns s (some d) s ∧ AwaitsTaylor s d ∧ d.place = x := by
    intro x hx
    rw [pendingCases, List.mem_insertionSort, List.mem_filterMap] at hx
    obtain ⟨row, hrow, hx⟩ := hx
    exact h.pendingDetail_reads hrow hx
  obtain ⟨ds, hds, hwaits, hplaces⟩ := collectPending_reads hcases
  exact ⟨ds, returns_require_bind.mpr ⟨hactor, returns_select_bind.mpr hds⟩, hwaits, hplaces⟩

/-- After every history, every review can be opened by Taylor, and the inbox shows exactly the
pending reviews, each once, by the time of the submission. -/
theorem inbox_complete (h : Run (namedProgram env) Store.empty s) {actor : IdentitySnapshot}
    (hactor : env.actors.IsTaylor actor) :
    (∀ row ∈ s.reviews, ∃ d, (detail env row.review.reviewId actor).Returns s d s ∧
      d.review.reviewId = row.review.reviewId ∧ Describes s d) ∧
    ∃ ds, (listPending env actor).Returns s ds s ∧ (∀ d ∈ ds, AwaitsTaylor s d) ∧
      (∀ row ∈ s.reviews, latestRow s row.review.reviewId = some row →
        row.review.status = .pending → ∃ d ∈ ds, d.review = row.review) ∧
      (ds.map fun d => d.review.reviewId).Nodup ∧
      ds.Pairwise fun d d' => SubmittedBefore d.place d'.place := by
  have ha := attended_of_run h
  constructor
  · intro row hrow
    obtain ⟨latest, hlatest⟩ := exists_latestRow hrow
    obtain ⟨d, hd, hsame, hdescribes⟩ := ha.reviewDetail_reads hlatest
    exact ⟨d, returns_require_bind.mpr ⟨hactor, hd⟩, by rw [hsame, reviewId_of_latestRow hlatest],
      hdescribes⟩
  · obtain ⟨ds, hds, hwaits, hplaces⟩ := ha.listPending_reads hactor
    refine ⟨ds, hds, hwaits, fun row hrow hlatest hpending => ?_, ?_, ?_⟩
    · obtain ⟨hcurrent, time, hlisted⟩ := ha.mem_pendingCases hlatest hpending
      rw [← hplaces] at hlisted
      obtain ⟨d, hd, hplace⟩ := List.mem_map.mp hlisted
      have hdescribes := (hwaits d hd).describes
      have hdcurrent := hdescribes.current.mp (hwaits d hd).current
      have hcase : d.selection.proposal.caseId = row.review.proposal.caseId :=
        congrArg Prod.snd hplace
      rw [hdescribes.binding.2, hcase, hcurrent] at hdcurrent
      have hreview := hdescribes.latest
      rw [← Option.some.inj hdcurrent, hlatest] at hreview
      exact ⟨d, hd, (Option.some.inj hreview).symm⟩
    · have hnodup := nodup_pendingCases s
      rw [← hplaces, List.map_map, List.Nodup, List.pairwise_map] at hnodup
      rw [List.Nodup, List.pairwise_map]
      refine hnodup.imp_of_mem fun {d d'} hd hd' hne hsame => hne ?_
      -- the latest revision of one review is on one case
      have hreview := (hwaits d hd).describes.latest
      rw [hsame, (hwaits d' hd').describes.latest] at hreview
      show d.selection.proposal.caseId = d'.selection.proposal.caseId
      rw [← (hwaits d hd).describes.binding.2, ← (hwaits d' hd').describes.binding.2,
        Option.some.inj hreview]
    · have hsorted : (pendingCases s).Pairwise SubmittedBefore := List.pairwise_insertionSort _ _
      rw [← hplaces, List.pairwise_map] at hsorted
      exact hsorted

/-- The response of the sample case waits for Taylor. -/
def sampleSubmitted : Store :=
  history (namedProgram sampleEnv) ((sampleTransactions.attachWith _ namesAnalysis_sample).take 3)
    Store.empty

theorem sampleSubmitted_pending : ∃ row ∈ sampleSubmitted.reviews,
    latestRow sampleSubmitted row.review.reviewId = some row ∧ row.review.status = .pending ∧
      row.review.reviewId = "RL-FINANCE-1" ∧ row.revision = 1 := by
  have hlatest : (latestRow sampleSubmitted "RL-FINANCE-1").any (fun row =>
      row.review.status = .pending ∧ row.revision = 1) = true := by
    decide +kernel
  obtain ⟨row, hrow, hpending⟩ := (Option.any_eq_true _ _).mp hlatest
  obtain ⟨hpending, hrevision⟩ := of_decide_eq_true hpending
  have hid := reviewId_of_latestRow hrow
  exact ⟨row, mem_of_latestRow hrow, by rw [hid]; exact hrow, hpending, hid, hrevision⟩

theorem inbox_complete_sample :
    ∃ ds, (listPending sampleEnv sampleTaylor).Returns sampleSubmitted ds sampleSubmitted ∧
      ∃ d ∈ ds, d.review.reviewId = "RL-FINANCE-1" ∧ AwaitsTaylor sampleSubmitted d := by
  obtain ⟨row, hrow, hlatest, hpending, hid, -⟩ := sampleSubmitted_pending
  have hrun := Run.history (namedProgram sampleEnv)
    ((sampleTransactions.attachWith _ namesAnalysis_sample).take 3) Store.empty
  obtain ⟨-, ds, hds, hwaits, hall, -⟩ := @inbox_complete sampleEnv _ hrun sampleTaylor (by decide)
  obtain ⟨d, hd, hreview⟩ := hall row hrow hlatest hpending
  exact ⟨ds, hds, d, hd, by rw [hreview, hid], hwaits d hd⟩

/-! ### Resolving what is listed -/

theorem requireActor_ok {actor : IdentitySnapshot} {persona source : String} {roles : List String}
    {tenant object : Uuid} (htenant : actor.tenant? = some tenant)
    (hobject : actor.object? = some object) (hshape : actor.HasShape persona source roles) :
    requireActor actor persona source roles = .ok (tenant, object) := by
  unfold requireActor requireUuid
  rw [if_pos hshape, show Uuid.parse (actor.tenantId.getD "") = some tenant from htenant,
    show Uuid.parse (actor.objectId.getD "") = some object from hobject]
  rfl

/-- Taylor can resolve every pending review of Alex, in the normal form of its reason. -/
theorem resolveFinanceReview_ok {review : FinanceReview} {actor : IdentitySnapshot}
    {actors : BoundFinanceActors} {approved : Bool} {reason : Option String} {now : Instant}
    (hpending : review.status = .pending) (halex : actors.IsAlex review.submittedBy)
    (htaylor : actors.IsTaylor actor) (hnow : review.submittedAt ≤ now)
    (hreason : ∀ text ∈ reason, stripOrNone text = some text ∧ text.length ≤ 4000)
    (hrejects : approved = false → reason.isSome) :
    ∃ resolved, resolveFinanceReview review review.proposal actor approved reason now =
      .ok resolved ∧ resolved.reviewedAt = some now ∧ resolved.reason = reason := by
  have hstripped : reason.bind stripOrNone = reason := by
    cases reason with
    | none => rfl
    | some text => exact (hreason text rfl).1
  have hactor := requireActor_ok htaylor.1 htaylor.2.1 htaylor.2.2
  have htenant : requireUuid review.submittedBy.tenantId "submitter tenant_id" =
      .ok actors.tenantId := by
    unfold requireUuid
    rw [show Uuid.parse (review.submittedBy.tenantId.getD "") = _ from halex.1]
    rfl
  have hobject : requireUuid review.submittedBy.objectId "submitter object_id" =
      .ok actors.alexObjectId := by
    unfold requireUuid
    rw [show Uuid.parse (review.submittedBy.objectId.getD "") = _ from halex.2.1]
    rfl
  have hadmits := review.valid.2.2.2.2.2.2
  rw [hpending] at hadmits
  obtain ⟨-, -, -, hend⟩ := hadmits
  have hvalid : ReviewMetadata.Valid (if approved then .approved else .rejected)
      review.submittedAt (some actor) (some now) reason review.supersededAt := by
    rw [hend]
    refine ⟨Iff.rfl, fun t ht => ?_, nofun, nofun, hreason, fun _ => rfl, ?_⟩
    · exact Option.mem_some_iff.mp ht ▸ hnow
    · cases approved with
      | true => exact ⟨rfl, rfl, rfl⟩
      | false => exact ⟨rfl, rfl, rfl, hrejects rfl⟩
  refine ⟨⟨review.reviewId, review.proposal, review.submittedBy, review.submittedAt,
    if approved then .approved else .rejected, some actor, some now, reason, review.supersededAt,
    review.nonblank, hvalid⟩, ?_, rfl, rfl⟩
  unfold resolveFinanceReview
  rw [hactor, htenant, hobject]
  dsimp only [Except.bind, bind]
  rw [if_neg (not_not.mpr rfl), if_neg actors.different.symm, if_neg (not_not.mpr hpending),
    if_neg (not_not.mpr rfl), if_neg (not_lt.mpr hnow), hstripped, if_neg, FinanceReview.validate?,
    dif_pos ⟨review.nonblank, hvalid⟩]
  · rfl
  · rintro ⟨hrejected, hnone⟩
    have hsome := hrejects hrejected
    rw [hnone] at hsome
    cases hsome

/-- The guard passes for the token that the case shows. -/
theorem guardCurrent_returns {state : ProposalState} {row : CaseProjectionRow}
    {stored : CaseInstance} (hcase : s.cases.get? (.case c) = some stored)
    (hindependent : stored.effectiveWorkflowVersion = .independentFinance)
    (hrow : s.projections.get? (.projection c) = some row)
    (hstate : (getState env c).Returns s state s) (hshows : row.Shows state.token) :
    (guardCurrent env c state.token).Returns s state.token.next
      (s.cas c state.token { currentSelectionId := some state.token.selectionId }) := by
  refine (readOnly_storedCase c).returns_bind.mpr
    ⟨stored, returns_getRow.mpr ⟨hcase, rfl⟩, ?_⟩
  refine returns_require_bind.mpr ⟨hindependent, ?_⟩
  refine (readOnly_getState env c).returns_bind.mpr ⟨state, hstate, ?_⟩
  refine returns_require_bind.mpr ⟨rfl, returns_bind.mpr ⟨(), _, ?_, returns_done.mpr ⟨rfl, rfl⟩⟩⟩
  refine returns_bind.mpr ⟨true, _, returns_updateRow.mpr (.inl ⟨row, hrow, hshows, rfl, rfl⟩), ?_⟩
  exact returns_require.mpr ⟨rfl, rfl⟩

/-- A resolution of the latest revision is appended. -/
theorem appendReview_returns {row : FinanceReviewRow} {resolved : FinanceReview}
    {key fingerprint : String} (hkey : s.reviews.get? (.reviewKey key) = none)
    (hnonblank : Nonblank key) (hsha : IsSha256 fingerprint)
    (hlatest : latestRow s resolved.reviewId = some row) (hpositive : 0 < row.revision)
    (hread : (reviewFromRow env row).Returns s (row.review, row.revision) s)
    (hbound : (requireBoundAnalysis env resolved).Returns s () s)
    (htransition : (requireTransition row.review resolved).Returns s () s) :
    (appendReview env resolved (some row.revision) key fingerprint).Returns s
      (resolved, row.revision + 1)
      { s with reviews := s.reviews.add ⟨resolved, row.revision + 1, key, fingerprint⟩ } := by
  have hreplay : (getReviewByKey env key).Returns s none s := by
    rw [getReviewByKey, returns_select_bind, hkey]
    exact returns_done.mpr ⟨rfl, rfl⟩
  have hcurrent : (getLatest env resolved.reviewId).Returns s (row.review, row.revision) s := by
    unfold getLatest
    rw [returns_select_bind, returns_orRaise_bind]
    exact ⟨row, hlatest, hread⟩
  have hfree : s.reviews.Free ⟨resolved, row.revision + 1, key, fingerprint⟩ := by
    intro k hk
    simp only [keys_financeReviewRow, List.mem_cons, List.not_mem_nil, or_false] at hk
    rcases hk with rfl | rfl
    · -- no revision is after the latest one
      cases hget : s.reviews.get? (.review resolved.reviewId (row.revision + 1)) with
      | none => rfl
      | some other =>
        obtain ⟨hmem, hkeys⟩ := Table.get?_eq_some_iff.mp hget
        simp only [keys_financeReviewRow, List.mem_cons, Key.review.injEq, reduceCtorEq,
          List.not_mem_nil, or_false] at hkeys
        have hle := (Table.latest_spec hlatest).2.2 other hmem (by simpa using hkeys.1.symm)
        omega
    · exact hkey
  refine returns_require_bind.mpr ⟨fun n hn => Option.mem_some_iff.mp hn ▸ hpositive, ?_⟩
  refine returns_require_bind.mpr ⟨hnonblank, returns_require_bind.mpr ⟨hsha, ?_⟩⟩
  refine (readOnly_getReviewByKey env key).returns_bind.mpr ⟨none, hreplay, ?_⟩
  refine returns_bind.mpr ⟨some (row.review, row.revision), s,
    returns_tryCatch.mpr (.inl (returns_map.mpr ⟨_, hcurrent, rfl⟩)), ?_⟩
  refine returns_require_bind.mpr ⟨rfl, returns_bind.mpr ⟨(), s, htransition, ?_⟩⟩
  refine (readOnly_requireBoundAnalysis env resolved).returns_bind.mpr ⟨(), hbound, ?_⟩
  exact returns_bind.mpr ⟨(), _, returns_insertInto.mpr ⟨hfree, rfl⟩, returns_done.mpr ⟨rfl, rfl⟩⟩

/-- A projection shows one token. -/
theorem CaseProjectionRow.Shows.unique {row : CaseProjectionRow} {a b : ProposalToken}
    (h : row.Shows a) (h' : row.Shows b) : a = b := by
  obtain ⟨generation, analysisId, hash, selectionId, _⟩ := a
  obtain ⟨generation', analysisId', hash', selectionId', _⟩ := b
  obtain ⟨h₁, h₂, h₃, h₄⟩ := h
  obtain ⟨h₁', h₂', h₃', h₄'⟩ := h'
  obtain rfl := h₁.symm.trans h₁'
  obtain rfl := h₂.symm.trans h₂'
  obtain rfl := h₃.symm.trans h₃'
  obtain rfl := h₄.symm.trans h₄'
  rfl

theorem requireBoundAnalysis_congr {review review' : FinanceReview}
    (h : review'.proposal = review.proposal) :
    requireBoundAnalysis env review' = requireBoundAnalysis env review := by
  unfold requireBoundAnalysis
  rw [h]

theorem nonblank_resolveKey (command : ResolveFinanceCommand) :
    Nonblank (resolveKey command) := by
  unfold Nonblank resolveKey
  rw [String.toList_append, List.any_append]
  exact Bool.or_eq_true_iff.mpr (.inl (by decide))

/-- A resolution is a canonical transition of the pending revision. -/
theorem requireTransition_resolved {review resolved : FinanceReview} {actor : IdentitySnapshot}
    {approved : Bool} {reason : Option String} {now : Instant}
    (h : resolveFinanceReview review review.proposal actor approved reason now = .ok resolved)
    (hat : resolved.reviewedAt = some now) (hreason : resolved.reason = reason) :
    (requireTransition review resolved).Returns s () s := by
  obtain ⟨hsame, hpending, -, hstatus, hreviewer⟩ := resolveFinanceReview_spec h
  have happroved : (resolved.status = .approved) = (approved = true) := by
    rw [hstatus]
    cases approved <;> simp
  have hlive : resolved.status ≠ .superseded := by
    rw [hstatus]
    cases approved <;> simp
  have hallowed : resolved.status ∈ review.status.allowedSuccessors := by
    rw [hstatus, hpending]
    cases approved <;> decide
  have hcanonical : canonicalTransition review resolved = .ok resolved := by
    rw [canonicalTransition, if_neg hlive, hreviewer, hat, hreason, Option.getD_some,
      Option.getD_some]
    simp only [happroved, Bool.decide_eq_true]
    exact h
  refine returns_require_bind.mpr ⟨⟨hallowed, hsame⟩, ?_⟩
  refine returns_require_bind.mpr ⟨fun hend => absurd hend hlive, ?_⟩
  refine (readOnly_mapError (readOnly_ofExcept _) _ _).returns_bind.mpr ⟨resolved, ?_, ?_⟩
  · exact returns_mapError.mpr (returns_ofExcept.mpr ⟨hcanonical, rfl⟩)
  · exact returns_require.mpr ⟨rfl, rfl⟩

/-- What the inbox shows can be resolved as it is shown: under its token and revision, with a
fresh key and a clock that is not behind the submission, the resolution commits, and records
Taylor's answer on the shown request as the next revision. -/
theorem inbox_resolvable (h : Run (namedProgram env) Store.empty s) {actor : IdentitySnapshot}
    (hactor : env.actors.IsTaylor actor) {ds : List FinanceReviewDetail}
    (hds : (listPending env actor).Returns s ds s) {d : FinanceReviewDetail} (hd : d ∈ ds)
    {command : ResolveFinanceCommand} (hreview : command.reviewId = d.review.reviewId)
    (hexpected : command.expected = d.currentToken)
    (hrevision : command.expectedReviewRevision = d.reviewRevision)
    (hfresh : s.reviews.get? (.reviewKey (resolveKey command)) = none) {now : Instant}
    (hnow : d.review.submittedAt ≤ now) :
    ∃ result s', (resolveTransaction env command actor (some now)).Commits s result s' ∧
      result.review.status = (if command.approved then .approved else .rejected) ∧
      result.review.reviewedBy = some actor ∧ d.review.SameRequest result.review ∧
      result.reviewRevision = d.reviewRevision + 1 ∧
      (latestRow s' d.review.reviewId).map FinanceReviewRow.review = some result.review := by
  have ha := attended_of_run h
  obtain ⟨ds', hds', hwaits, -⟩ := ha.listPending_reads hactor
  obtain ⟨rfl, -⟩ := hds.unique hds'
  obtain ⟨hdescribes, hcurrent, hpending⟩ := hwaits d hd
  obtain ⟨row, hlatest, hrowReview, hrowRevision⟩ := hdescribes.review
  obtain ⟨receipt, hreceipt, hselection⟩ := hdescribes.selection
  obtain ⟨hid, hproposal⟩ := hdescribes.binding
  rw [← hselection] at hid hproposal
  obtain ⟨prow, hprow, hshows⟩ := hdescribes.token
  have hpoints := (currentReviewId_iff hreceipt hid hprow).mpr (hdescribes.current.mp hcurrent)
  obtain ⟨state, hstate, hstateShows, hstateSelection, hstateReview, hstateRevision⟩ :=
    ha.state_of_pointed hprow hreceipt hpoints hid hlatest
  have htoken : state.token = command.expected := by
    rw [hexpected]
    exact hstateShows.unique hshows
  obtain ⟨latest, hlatest', hpositive, -, hsubmitter⟩ :=
    ha.legible.request_of_selection hreceipt hid
  obtain rfl := Option.some.inj (hlatest.symm.trans hlatest')
  obtain ⟨-, -, hbound, -⟩ := returns_decodeReceipt env (ha.legible.receipts receipt hreceipt)
  obtain ⟨stored, hstored, hindependent⟩ := hbound.case
  rw [← hproposal] at hstored
  have hrowId := reviewId_of_latestRow hlatest
  have hrowPending : row.review.status = .pending := by rw [hrowReview, hpending]
  have hrowAlex : env.actors.IsAlex row.review.submittedBy := by
    rw [hsubmitter]
    exact ha.submitters receipt hreceipt
  have hrowProposal : row.review.proposal = receipt.selection.proposal := by
    rw [hrowReview]
    exact hproposal
  have hrowCase : row.review.proposal.caseId = d.review.proposal.caseId := by rw [hrowReview]
  obtain ⟨-, hkey, -, hreason, hrejects, -⟩ := command.valid
  have hrowNow : row.review.submittedAt ≤ now := by
    rw [hrowReview]
    exact hnow
  obtain ⟨resolved, hresolved, hat, hkept⟩ :=
    resolveFinanceReview_ok hrowPending hrowAlex hactor hrowNow hreason hrejects
  obtain ⟨hsame, -, -, hstatus, hreviewer⟩ := resolveFinanceReview_spec hresolved
  have hguard := guardCurrent_returns hstored hindependent hprow hstate hstateShows
  rw [htoken] at hguard
  -- the append runs after the guard has moved the generation
  have hgrows : Grows s (s.cas d.review.proposal.caseId command.expected
      { currentSelectionId := some command.expected.selectionId }) := ⟨id, id, id, id, id, id⟩
  have hread := (lasting_reviewFromRow env row).lasts hgrows
    (ha.legible.review_reads (mem_of_latestRow hlatest))
  obtain ⟨⟨⟩, hbinding, -⟩ := (readOnly_requireBoundAnalysis env _).returns_bind.mp hread
  rw [← requireBoundAnalysis_congr hsame.2.1] at hbinding
  have hfresh' : (s.cas d.review.proposal.caseId command.expected
      { currentSelectionId := some command.expected.selectionId }).reviews.get?
        (.reviewKey (resolveKey command)) = none := hfresh
  obtain ⟨s', happend⟩ : ∃ s', (appendReview env resolved (some row.revision)
      (resolveKey command) (resolveFingerprint env command actor)).Returns
        (s.cas d.review.proposal.caseId command.expected
          { currentSelectionId := some command.expected.selectionId })
        (resolved, row.revision + 1) s' :=
    ⟨_, appendReview_returns hfresh' (nonblank_resolveKey command) (env.sha256_hex _)
      (by rw [hsame.1, hrowId]; exact hlatest) hpositive hread hbinding
      (requireTransition_resolved hresolved hat hkept)⟩
  have hreplay : (getReviewByKey env (resolveKey command)).Returns s none s := by
    rw [getReviewByKey, returns_select_bind, hfresh]
    exact returns_done.mpr ⟨rfl, rfl⟩
  refine ⟨⟨resolved, row.revision + 1⟩, s', ?_, hstatus, hreviewer, ?_, ?_, ?_⟩
  · refine returns_require_bind.mpr ⟨hactor, ?_⟩
    refine (readOnly_getReviewByKey env _).returns_bind.mpr ⟨none, hreplay, ?_⟩
    refine (readOnly_getLatest env _).returns_bind.mpr ⟨(row.review, row.revision), ?_, ?_⟩
    · rw [hreview]
      exact ha.legible.latest_reads hlatest
    refine returns_require_bind.mpr ⟨hrowAlex, ?_⟩
    refine (readOnly_getState env _).returns_bind.mpr ⟨state, by rw [hrowCase]; exact hstate, ?_⟩
    refine returns_orRaise_bind.mpr ⟨receipt.selection, hstateSelection, ?_⟩
    refine returns_require_bind.mpr ⟨⟨htoken, hstateReview, by rw [hreview, hrowId],
      hstateRevision, by rw [hrevision, hrowRevision]⟩, ?_⟩
    refine returns_orRaise_bind.mpr ⟨now, rfl, returns_ofExcept_bind.mpr ⟨resolved, ?_, ?_⟩⟩
    · rw [← hrowProposal]
      exact hresolved
    refine returns_bind.mpr ⟨command.expected.next, _, by rw [hrowCase]; exact hguard, ?_⟩
    refine returns_bind.mpr ⟨(resolved, row.revision + 1), s', ?_, returns_done.mpr ⟨rfl, rfl⟩⟩
    rw [hrevision, ← hrowRevision]
    exact happend
  · rw [← hrowReview]
    exact hsame
  · rw [← hrowRevision]
  · rcases returns_appendReview env happend with
      ⟨-, other, hother, -⟩ | ⟨-, -, added, hadded, haddedReview, -, rfl⟩
    · cases hfresh'.symm.trans hother
    · rw [hadded.latestRow_eq rfl, haddedReview, if_pos (by rw [hsame.1, hrowId]),
        Option.map_some, haddedReview]

/-- Taylor's approval of the sample response follows the inbox. -/
theorem inbox_resolvable_sample :
    ∃ result s', (resolveTransaction sampleEnv sampleResolve sampleTaylor (some 0)).Commits
      sampleSubmitted result s' ∧ result.review.status = .approved := by
  have hlisted : ((listPending sampleEnv sampleTaylor).checkReturned sampleSubmitted fun ds _ =>
      ds.any fun d => d.review.reviewId = sampleResolve.reviewId ∧
        d.currentToken = sampleResolve.expected ∧ d.reviewRevision = 1 ∧
          d.review.submittedAt = 0) = true := by
    decide +kernel
  have hfresh : sampleSubmitted.reviews.get? (.reviewKey (resolveKey sampleResolve)) = none := by
    decide +kernel
  obtain ⟨ds, s, hds, hany⟩ := exists_of_checkReturned hlisted
  obtain rfl := (readOnly_listPending sampleEnv sampleTaylor).eq hds
  obtain ⟨d, hd, hall⟩ := List.any_eq_true.mp hany
  obtain ⟨hreview, hexpected, hrevision, hsubmitted⟩ := of_decide_eq_true hall
  have hrun := Run.history (namedProgram sampleEnv)
    ((sampleTransactions.attachWith _ namesAnalysis_sample).take 3) Store.empty
  obtain ⟨result, s', hcommits, hstatus, -⟩ := @inbox_resolvable sampleEnv _ hrun sampleTaylor
    (by decide) ds hds d hd sampleResolve hreview.symm hexpected.symm hrevision.symm hfresh 0
    hsubmitted.le
  exact ⟨result, s', hcommits, hstatus⟩

end SupplyResponse
