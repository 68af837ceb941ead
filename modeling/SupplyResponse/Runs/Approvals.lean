/-
Four eyes on every approval of the independent workflow.

* `FourEyes` — what a database shows of an approval: the case's current
  selection and analysis, Alex, and above the threshold Taylor;
* `finalizes_fourEyes` — a committed approval shows it before and after;
* `approved_fourEyes` — every stored approval showed it at the moment it was
  committed.
-/
import SupplyResponse.Runs.Frames

namespace SupplyResponse

open Transact Transact.Prog
open Keyed (keys)

variable {env : Env} {s s' : Store}

/-- The projection of a case shows its selection and its analysis. -/
def Points (s : Store) (d : Decision) (selectionId : String) : Prop :=
  ∃ row, s.projections.get? (.projection d.caseId) = some row ∧
    row.currentSelectionId = some selectionId ∧ row.currentAnalysisId = some d.analysisId ∧
      row.currentAnalysisHash = some d.analysisMaterialHash

/-- The latest revision of the review of a selection is Taylor's approval of
exactly the selected proposal. -/
def ReviewedByTaylor (env : Env) (s : Store) (selection : ProposalSelection) : Prop :=
  ∃ row reviewer, selection.financeReviewId = some row.review.reviewId ∧
    latestRow s row.review.reviewId = some row ∧ row.review.status = .approved ∧
      row.review.proposal = selection.proposal ∧ row.review.reviewedBy = some reviewer ∧
        env.actors.IsTaylor reviewer ∧ reviewer.tenant? = selection.submittedBy.tenant? ∧
          reviewer.object? ≠ selection.submittedBy.object?

/-- What a database shows of an approval with its evidence. -/
structure FourEyes (env : Env) (s : Store) (d : Decision) (selection : ProposalSelection) :
    Prop where
  points : Points s d selection.selectionId
  stored : ∃ receipt, s.selections.get? (.selection selection.selectionId) = some receipt ∧
    receipt.selection = selection
  proposal : selection.proposal.caseId = d.caseId ∧
    selection.proposal.analysisId = d.analysisId ∧
    selection.proposal.analysisMaterialHash = d.analysisMaterialHash ∧
    some selection.proposal.optionId = d.selectedOptionId
  alex : env.actors.IsAlex selection.submittedBy ∧ env.actors.IsAlex d.actor ∧
    d.actor.tenant? = selection.submittedBy.tenant? ∧
    d.actor.object? = selection.submittedBy.object?
  taylor : 20000 < selection.proposal.responseCost → ReviewedByTaylor env s selection

/-! ### One finalization -/

/-- The state of an approval shows four eyes. -/
theorem DecidesOn.fourEyes {command : FinalizeProposalCommand} {st : ProposalState}
    {d : Decision} (h : DecidesOn env s command st d) (hk : d.kind = .approved) :
    ∃ evidence, d.proposalApproval = some evidence ∧ FourEyes env s d evidence.selection := by
  obtain ⟨evidence, hevidence, he, -⟩ := h.approval hk
  obtain ⟨option, -, hcase, hanalysis, hhash, hoption, -, -, -, -, htenant, hobject, -⟩ :=
    d.evidenceConsistent hk hevidence
  obtain ⟨row, hrow, hshows, -⟩ := h.ready.state.row
  rw [h.ready.token] at hshows
  refine ⟨evidence, hevidence, ⟨row, ?_, ?_, ?_, ?_⟩, ?_, ⟨hcase, hanalysis, hhash, hoption⟩,
    ⟨he.alex, h.actor, htenant, hobject⟩, fun hcost => ?_⟩
  · rw [h.caseId]
    exact hrow
  · have hconsistent := st.consistent
    rw [he.selection, h.ready.token] at hconsistent
    rw [hshows.2.2.2, hconsistent.1]
  · rw [hshows.2.1, h.analysisId]
  · rw [hshows.2.2.1, h.analysisHash]
  · obtain ⟨-, -, hstored⟩ := h.ready.state.selection _ he.selection
    exact hstored
  · obtain ⟨review, reviewer, -, hreview, -, hstatus, hby, htaylor⟩ := he.high hcost
    obtain ⟨sel, latest, hsel, hid, hlatest, rfl, -⟩ := h.ready.state.review _ hreview
    obtain rfl := Option.some.inj (he.selection.symm.trans hsel)
    have hconsistent := st.consistent
    rw [he.selection] at hconsistent
    have hmatches := hconsistent.2
    rw [hid, hreview] at hmatches
    exact ⟨latest, reviewer, hid, hlatest, hstatus, hmatches.2.1, hby, htaylor,
      he.alex.tenant_eq htaylor, (he.alex.object_ne htaylor).symm⟩

theorem FourEyes.congr {d : Decision} {selection : ProposalSelection}
    (h : FourEyes env s d selection) (hpoints : Points s' d selection.selectionId)
    (hselections : s'.selections = s.selections) (hreviews : s'.reviews = s.reviews) :
    FourEyes env s' d selection := by
  refine ⟨hpoints, ?_, h.proposal, h.alex, fun hcost => ?_⟩
  · rw [hselections]
    exact h.stored
  · obtain ⟨row, reviewer, hid, hlatest, hrest⟩ := h.taylor hcost
    refine ⟨row, reviewer, hid, ?_, hrest⟩
    unfold latestRow at hlatest ⊢
    rw [hreviews]
    exact hlatest

/-- The guard and the stored approval leave the pointers where they were. -/
theorem StoresDecision.points {d : Decision} {expected : ProposalToken} {id : String}
    {st : ProposalState} (hready : ReadyState s d.caseId expected st) (hpoints : Points s d id)
    (h : StoresDecision
      (s.cas d.caseId expected { currentSelectionId := some expected.selectionId }) d s') :
    Points s' d id ∧ s'.selections = s.selections ∧ s'.reviews = s.reviews := by
  obtain ⟨row₀, hrow₀, hsel, hid, hhash⟩ := hpoints
  obtain ⟨row₁, hrow₁, hshows, -⟩ := hready.state.row
  obtain rfl := Option.some.inj (hrow₀.symm.trans hrow₁)
  rw [hready.token] at hshows
  obtain ⟨row, hrow, hrow'⟩ := h.projection
  rw [get?_cas_self, hrow₀] at hrow
  obtain rfl := Option.some.inj hrow
  have hframe := h.frame
  exact ⟨⟨_, hrow', hshows.2.2.2.symm.trans hsel, hid, hhash⟩, hframe.1, hframe.2⟩

theorem finalizes_fourEyes {command : FinalizeProposalCommand} {d : Decision}
    (h : Finalizes env s command d s') (hk : d.kind = .approved) :
    ∃ evidence, d.proposalApproval = some evidence ∧ FourEyes env s d evidence.selection ∧
      FourEyes env s' d evidence.selection := by
  obtain ⟨st, hdecides⟩ := h.decides
  obtain ⟨evidence, hevidence, hfour⟩ := hdecides.fourEyes hk
  have hready := hdecides.ready
  have hstores := h.approved hk
  rw [← hdecides.caseId] at hready hstores
  obtain ⟨hpoints, hselections, hreviews⟩ := hstores.points hready hfour.points
  exact ⟨evidence, hevidence, hfour, hfour.congr hpoints hselections hreviews⟩

/-! ### Runs -/

/-- Transactions that store no Decision. -/
theorem decisions_of_commits {t : Transaction} {u : Unit} (hk : WriteKind.newDecision ∉ t.kinds)
    (hc : (t.program env).Commits s u s') : s'.decisions = s.decisions :=
  relates_of_commits (R := fun s s' => s'.decisions = s.decisions) (fun _ => rfl)
    (fun h h' => h'.trans h) (fun hkind hw => hw.decisions_eq (fun he => hk (he ▸ hkind)) _) hc

theorem StoresDecision.mem {d decision : Decision} (h : StoresDecision s decision s')
    (hd : d ∈ s'.decisions) : d ∈ s.decisions ∨ d = decision := by
  obtain ⟨row, satisfactions, outbox, -, -, -, rfl⟩ := h.effect
  exact (Table.mem_add h.free).mp hd

/-- A new Decision was stored by a finalization, or by a legacy recording. -/
theorem new_decision {d : Decision} (hstep : Step (Transaction.program env) s s')
    (hd : d ∉ s.decisions) (hd' : d ∈ s'.decisions) :
    (∃ command, Finalizes env s command d s') ∨ Records env s d s' := by
  obtain ⟨t, u, hc⟩ := hstep
  by_cases hk : WriteKind.newDecision ∈ t.kinds
  · cases t
    case finalize command actor decisionUuid eventUuid clock =>
      obtain ⟨decision, hfinalize⟩ := commits_effect.mp hc
      have hf := returns_finalizeTransaction env hfinalize
      have hmem : d ∈ s.decisions ∨ d = decision := by
        rcases hkind : decision.kind
        · exact (hf.approved hkind).mem hd'
        · obtain ⟨st, s₁, -, hsup, hstores⟩ := hf.rejected hkind
          have hs₁ : s₁.decisions = s.decisions := hsup.frame.1
          exact hs₁ ▸ hstores.mem hd'
      exact .inl ⟨command, hmem.resolve_left hd ▸ hf⟩
    case record command actor decisionUuid eventUuid decidedAt =>
      obtain ⟨decision, hrecord⟩ := commits_effect.mp hc
      have hr := returns_recordTransaction env hrecord
      exact .inr ((hr.stores.mem hd').resolve_left hd ▸ hr)
    all_goals exact absurd hk (by dsimp only [Transaction.kinds]; decide)
  · exact absurd (decisions_of_commits hk hc ▸ hd') hd

/-- Every stored approval of an independent case showed four eyes at the moment
it was committed. -/
theorem approved_fourEyes {d : Decision} {case : CaseInstance}
    (h : Run (Transaction.program env) Store.empty s)
    (hcase : s.cases.get? (.case d.caseId) = some case)
    (hworkflow : case.effectiveWorkflowVersion = .independentFinance) (hd : d ∈ s.decisions)
    (hk : d.kind = .approved) :
    ∃ s₀ s₁ evidence, Run (Transaction.program env) Store.empty s₀ ∧
      Step (Transaction.program env) s₀ s₁ ∧ Run (Transaction.program env) s₁ s ∧
        d ∉ s₀.decisions ∧ d ∈ s₁.decisions ∧ d.proposalApproval = some evidence ∧
          FourEyes env s₀ d evidence.selection ∧ FourEyes env s₁ d evidence.selection := by
  obtain ⟨s₀, s₁, hbefore, hstep, hafter, hd₀, hd₁⟩ :=
    h.first (P := fun s => d ∈ s.decisions) (Table.notMem_empty _) hd
  rcases new_decision hstep hd₀ hd₁ with ⟨command, hf⟩ | hr
  · obtain ⟨evidence, hevidence, hfour, hfour'⟩ := finalizes_fourEyes hf hk
    exact ⟨s₀, s₁, evidence, hbefore, hstep, hafter, hd₀, hd₁, hevidence, hfour, hfour'⟩
  · -- a legacy Decision belongs to a legacy case for ever
    obtain ⟨stored, hstored, hlegacy⟩ := hr.legacy
    have hgrown := ((Run.grows hafter).cases) ((grows_of_commits hstep.choose_spec.choose_spec).cases
      hstored)
    obtain rfl := Option.some.inj (hcase.symm.trans hgrown)
    exact absurd hworkflow hlegacy

/-- The approval of the sample case, above the threshold. -/
theorem approved_fourEyes_sample :
    ∃ d s₀ s₁ evidence, d.kind = .approved ∧
      Run (Transaction.program sampleEnv) Store.empty s₀ ∧
        Step (Transaction.program sampleEnv) s₀ s₁ ∧ d ∉ s₀.decisions ∧ d ∈ s₁.decisions ∧
          d.proposalApproval = some evidence ∧ FourEyes sampleEnv s₁ d evidence.selection := by
  obtain ⟨d, hd, hkind, hcase⟩ := sample_approved
  obtain ⟨s₀, s₁, evidence, hrun, hstep, -, hd₀, hd₁, hevidence, -, hfour⟩ :=
    approved_fourEyes (Run.history _ sampleTransactions Store.empty) hcase rfl hd hkind
  exact ⟨d, s₀, s₁, evidence, hkind, hrun, hstep, hd₀, hd₁, hevidence, hfour⟩

end SupplyResponse
