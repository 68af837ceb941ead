/-
One approval for each selection, over every history of committed transactions.

* `OneApproval` — no two stored Decisions approve one selection; a finalization asks for
  the approvals of its own case, and a selection belongs to one case;
* `rejects_unapproved` — a rejection commits only if the current selection is not approved;
* `Transaction.Replaces` — the analyses and submissions of a case;
* `one_approval_per_selection` — both over every run: an approved selection has one
  approval, and stays the selection of its case until the case is analyzed again or another
  selection is submitted.
-/
import SupplyResponse.Runs.Tokens
import SupplyResponse.Runs.Approvals
import SupplyResponse.Runs.Reviews

namespace SupplyResponse

open Transact Transact.Prog
open Keyed (keys)

variable {env : Env} {s s' : Store} {c : String}

/-! ### The approvals of a selection -/

/-- No two stored Decisions approve one selection. -/
def OneApproval (s : Store) : Prop :=
  ∀ d ∈ s.decisions, ∀ d' ∈ s.decisions, ∀ id, d.Approves id → d'.Approves id → d = d'

/-- The selection that a Decision approves is stored, for the case of the Decision. -/
theorem Intact.approves {d : Decision} {id : String} (h : Intact env s d) (ha : d.Approves id) :
    ∃ receipt, s.selections.get? (.selection id) = some receipt ∧
      receipt.selection.proposal.caseId = d.caseId := by
  obtain ⟨hkind, evidence, hev, rfl⟩ := ha
  obtain ⟨-, ⟨receipt, hreceipt, hsame⟩, -⟩ := h.bound hev
  obtain ⟨option, -, hconsistent⟩ := Decision.evidenceConsistent hkind hev
  exact ⟨receipt, hreceipt, by rw [hsame]; exact hconsistent.1⟩

/-- A Decision of a finalization is the only new one. -/
theorem Finalizes.mem {command : FinalizeProposalCommand} {d x : Decision}
    (h : Finalizes env s command d s') (hx : x ∈ s'.decisions) : x ∈ s.decisions ∨ x = d := by
  obtain ⟨s₁, hj, hdecisions, -⟩ := h.journals
  exact hdecisions ▸ hj.stores.mem hx

/-- What a finalization approves was not approved before. -/
theorem Finalizes.approves_new {command : FinalizeProposalCommand} {d x : Decision} {id : String}
    (h : Finalizes env s command d s') (hs : AllIntact env s) (hs' : AllIntact env s')
    (hg : Grows s s') (hd : d ∈ s'.decisions) (ha : d.Approves id) (hx : x ∈ s.decisions) :
    ¬x.Approves id := by
  intro hxa
  obtain ⟨receipt, hreceipt, hcase⟩ := (hs'.intact d hd).approves ha
  obtain ⟨receipt', hreceipt', hcase'⟩ := (hs.intact x hx).approves hxa
  obtain rfl := Option.some.inj (hreceipt.symm.trans (hg.selections hreceipt'))
  obtain ⟨st, hdecides⟩ := h.decides
  obtain ⟨evidence, hev, -, hnone⟩ := hdecides.approval ha.1
  obtain ⟨-, evidence', hev', rfl⟩ := ha
  obtain rfl := Option.some.inj (hev.symm.trans hev')
  exact hnone x hx (hcase'.symm.trans (hcase.trans hdecides.caseId)) hxa

/-- A legacy recording approves no selection. -/
theorem Records.not_approves {d : Decision} {id : String} (h : Records env s d s')
    (hs' : AllIntact env s') (hg : Grows s s') (hd : d ∈ s'.decisions) : ¬d.Approves id := by
  rintro ⟨hkind, evidence, hev, -⟩
  obtain ⟨stored, hstored, hlegacy⟩ := h.legacy
  obtain ⟨option, -, hshape⟩ := d.valid.2 hkind
  have hsome : d.proposalApproval.isSome := Option.isSome_iff_exists.mpr ⟨evidence, hev⟩
  have hpolicy := (hs'.intact d hd).policy (hg.cases hstored)
  rw [hshape.2.2.2.1.mpr hsome] at hpolicy
  cases hw : stored.effectiveWorkflowVersion with
  | independentFinance => exact hlegacy hw
  | legacy =>
    rw [hw] at hpolicy
    exact absurd hpolicy (by decide)

theorem oneApproval_step {t : Transaction} {u : Unit} (h : OneApproval s) (hs : AllIntact env s)
    (hc : (t.program env).Commits s u s') : OneApproval s' := by
  have hs' := allIntact_step hs hc
  have hg := grows_of_commits hc
  have hstep : Step (Transaction.program env) s s' := ⟨t, u, hc⟩
  -- a new approval of a selection is the first one
  have hnew : ∀ d ∈ s'.decisions, d ∉ s.decisions → ∀ id, d.Approves id →
      ∀ x ∈ s'.decisions, x.Approves id → x = d := by
    intro d hd hfresh id ha x hx hxa
    rcases new_decision hstep hfresh hd with ⟨command, hf⟩ | hr
    · rcases hf.mem hx with hold | hsame
      · exact absurd hxa (hf.approves_new hs hs' hg hd ha hold)
      · exact hsame
    · exact absurd ha (hr.not_approves hs' hg hd)
  intro d hd d' hd' id ha ha'
  by_cases hfresh : d ∈ s.decisions
  · by_cases hfresh' : d' ∈ s.decisions
    · exact h d hfresh d' hfresh' id ha ha'
    · exact hnew d' hd' hfresh' id ha' d hd ha
  · exact (hnew d hd hfresh id ha d' hd' ha').symm

theorem oneApproval_of_run (h : Run (Transaction.program env) Store.empty s) : OneApproval s := by
  have hboth : AllIntact env s ∧ OneApproval s :=
    Run.invariant (I := fun s => AllIntact env s ∧ OneApproval s)
      (fun ⟨hs, hone⟩ ⟨_, _, hc⟩ => ⟨allIntact_step hs hc, oneApproval_step hone hs hc⟩) h
      ⟨.empty, fun d hd => absurd hd (Table.notMem_empty _)⟩
  exact hboth.2

/-! ### The selection of an approval stays current -/

/-- A rejection commits only if the selection of its case is not approved. -/
theorem rejects_unapproved {command : FinalizeProposalCommand} {actor : IdentitySnapshot}
    {decisionUuid eventUuid : String} {clock : ClockReading} {decision : Decision}
    (h : (finalizeTransaction env command actor decisionUuid eventUuid clock).Commits s decision
      s') (hk : command.kind = .rejected) {id : String}
    (hid : pointer s command.caseId = some id) :
    ∀ d ∈ s.decisions, d.caseId = command.caseId → ¬d.Approves id := by
  unfold Commits at h
  simp only [finalizeTransaction, requireAlex, returns_require_bind] at h
  obtain ⟨-, h⟩ := h
  obtain ⟨existing, -, h⟩ := (readOnly_getDecisionByKey env _).returns_bind.mp h
  rcases existing with _ | stored
  · obtain ⟨st, hst, h⟩ := (readOnly_getState env _).returns_bind.mp h
    obtain ⟨-, h⟩ := returns_require_bind.mp h
    obtain ⟨-, h⟩ := returns_require_bind.mp h
    obtain ⟨p, -, h⟩ := (readOnly_getProjection env _).returns_bind.mp h
    obtain ⟨-, h⟩ := returns_require_bind.mp h
    obtain ⟨analysisId, -, h⟩ := returns_orRaise_bind.mp h
    obtain ⟨analysis, -, h⟩ := (readOnly_getAnalysis env _).returns_bind.mp h
    obtain ⟨-, h⟩ := returns_require_bind.mp h
    obtain ⟨evidence, hevidence, -⟩ := (readOnly_finalizationEvidence env _ _ _).returns_bind.mp h
    have hstate := (returns_getState env hst).2
    have hpointer := hstate.pointer_eq
    rw [hid] at hpointer
    rw [hk] at hevidence
    cases hselection : st.selection with
    | none =>
      have hconsistent := st.consistent
      rw [hselection] at hconsistent
      cases hpointer.trans hconsistent.2.2
    | some selection =>
      have hconsistent := st.consistent
      rw [hselection] at hconsistent
      obtain rfl : id = selection.selectionId := Option.some.inj (hpointer.trans hconsistent.1)
      rw [finalizationEvidence, rejectionEvidence, hselection] at hevidence
      obtain ⟨already, ha, hevidence⟩ := (readOnly_alreadyApproved env _ _).returns_bind.mp hevidence
      obtain rfl := returns_alreadyApproved env ha
      obtain ⟨hnone, -⟩ := returns_require_bind.mp hevidence
      exact fun d hd hc hda => of_decide_eq_false hnone ⟨d, mem_decisionsOf.mpr ⟨hd, hc⟩, hda⟩
  · obtain ⟨_, -, heq⟩ := returns_map.mp h
    cases heq

/-- The transaction analyzes the case again, or submits another selection for it. -/
def Transaction.Replaces (c : String) : Transaction → Prop
  | .saveAnalysis analysis .. => analysis.caseId = c
  | .completeAnalysisClaim analysis .. => analysis.caseId = c
  | .submit command .. => command.caseId = c
  | _ => False

theorem pointer_eq_refs (s : Store) (c : String) : pointer s c = (refsOf s c).selectionId := by
  unfold pointer refsOf
  cases s.projections.get? (.projection c) <;> rfl

/-- Storing a Decision leaves the selections of the cases alone. -/
theorem StoresDecision.pointer_eq {d : Decision} (h : StoresDecision s d s') :
    pointer s' c = pointer s c :=
  h.neutral.pointer c

theorem SavesAnalysis.pointer_ne {analysis : AnalysisVersion} {projected : Option CaseInstance}
    {stored : CaseInstance} {row : CaseProjectionRow}
    (h : SavesAnalysis env s analysis projected stored row s') (hc : ¬analysis.caseId = c) :
    pointer s' c = pointer s c := by
  rw [pointer_eq_refs, pointer_eq_refs, refsOf_congr (h.projection_ne env fun he => hc he.symm)]

/-- What is neither an analysis nor a submission of a case leaves its approved selection
current. -/
theorem approved_pointer_step {t : Transaction} {u : Unit} {d : Decision} {id : String}
    (hd : d ∈ s.decisions) (ha : d.Approves id) (hid : pointer s d.caseId = some id)
    (ht : ¬t.Replaces d.caseId) (hc : (t.program env).Commits s u s') :
    pointer s' d.caseId = some id := by
  rw [← hid]
  by_cases hk : ∀ kind ∈ t.kinds, kind ∉ refKinds
  · rw [pointer_eq_refs, pointer_eq_refs]
    exact congrArg CaseRefs.selectionId (refsOf_of_commits hk hc d.caseId)
  · cases t
    case saveAnalysis analysis projected now =>
      obtain ⟨_, hsave⟩ := commits_effect.mp hc
      obtain ⟨stored, row, hs⟩ := returns_saveAnalysis env hsave
      exact hs.pointer_ne ht
    case completeAnalysisClaim analysis projected version claimId completedAt now =>
      obtain ⟨_, hcomplete⟩ := commits_effect.mp hc
      obtain ⟨-, stored, row, s₁, hs, t, rfl⟩ := returns_completeAnalysisClaim env hcomplete
      exact hs.pointer_ne ht
    case submit command actor selectionUuid reviewUuid clock =>
      obtain ⟨_, hsubmit⟩ := commits_effect.mp hc
      obtain ⟨receipt, hs⟩ := returns_submitTransaction env hsubmit
      rw [pointer_eq_refs, pointer_eq_refs, hs.refsOf_eq, submits_case hsubmit hs,
        if_neg fun he => ht he.symm]
    case finalize command actor decisionUuid eventUuid clock =>
      obtain ⟨decision, hfinalize⟩ := commits_effect.mp hc
      have hf := returns_finalizeTransaction env hfinalize
      obtain ⟨st, hdecides⟩ := hf.decides
      rcases hk : decision.kind
      · rw [(hf.approved hk).pointer_eq, pointer_eq_refs, pointer_eq_refs,
          hdecides.ready.refsOf_guard]
      · by_cases hcase : d.caseId = command.caseId
        · rw [hcase] at hid
          exact absurd ha (rejects_unapproved hfinalize (hdecides.kind.symm.trans hk) hid d hd hcase)
        · obtain ⟨st', s₁, hready, hsup, hstores⟩ := hf.rejected hk
          obtain ⟨row, hrow, -⟩ := hready.state.row
          rw [hstores.pointer_eq, pointer_eq_refs, pointer_eq_refs,
            refsOf_congr (congrArg (fun t => t.get? (.projection d.caseId)) hsup.projections),
            refsOf_cas_selection hrow, if_neg hcase]
    case record command actor decisionUuid eventUuid decidedAt =>
      obtain ⟨_, hrecord⟩ := commits_effect.mp hc
      exact (returns_recordTransaction env hrecord).stores.pointer_eq
    all_goals exact absurd (by dsimp only [Transaction.kinds]; decide) hk

/-- No selection is approved twice, and an approved selection that is current stays so until
its case is analyzed again or another selection is submitted: no rejection withdraws it. -/
theorem one_approval_per_selection (h : Run (Transaction.program env) Store.empty s) :
    OneApproval s ∧ ∀ d ∈ s.decisions, ∀ id, d.Approves id → pointer s d.caseId = some id →
      ∀ t : Transaction, ¬t.Replaces d.caseId → ∀ u s', (t.program env).Commits s u s' →
        pointer s' d.caseId = some id :=
  ⟨oneApproval_of_run h, fun _ hd _ ha hid _ ht _ _ hc => approved_pointer_step hd ha hid ht hc⟩

/-- The worker plans the event of the sample approval. -/
def plansApproval : Transaction :=
  .processOutbox (planActions sampleEnv) ⟨1, none, true, none⟩ (fun n => toString n) 1

/-- The selection of the sample case has one approval, and stays pointed to when the approval is
planned. -/
theorem one_approval_per_selection_sample :
    ∃ s, Run (Transaction.program sampleEnv) Store.empty s ∧ OneApproval s ∧
      ∃ d ∈ s.decisions, d.Approves "RL-SELECTION-1" ∧ d.caseId = "case" ∧
        ∃ u s', (plansApproval.program sampleEnv).Commits s u s' ∧ s'.actions.rows ≠ [] ∧
          pointer s' "case" = some "RL-SELECTION-1" := by
  have hdecision : ((history (Transaction.program sampleEnv) sampleTransactions
      Store.empty).decisions.get? (.decision "RL-DECISION-1")).any (fun d =>
        d.Approves "RL-SELECTION-1" ∧ d.caseId = "case") = true := by
    decide +kernel
  have hpointer : pointer (history (Transaction.program sampleEnv) sampleTransactions
      Store.empty) "case" = some "RL-SELECTION-1" := by
    decide +kernel
  have hplanned : (plansApproval.program sampleEnv).checkCommitted
      (history (Transaction.program sampleEnv) sampleTransactions Store.empty)
        (fun _ s' => !s'.actions.rows.isEmpty) = true := by
    decide +kernel
  obtain ⟨d, hd, hsample⟩ := (Option.any_eq_true _ _).mp hdecision
  obtain ⟨ha, hcase⟩ := of_decide_eq_true hsample
  obtain ⟨u, s', hcommits, hactions⟩ := exists_of_checkCommitted hplanned
  have hrun := Run.history (Transaction.program sampleEnv) sampleTransactions Store.empty
  obtain ⟨hone, hpointed⟩ := one_approval_per_selection hrun
  have hmem := Table.mem_of_get? hd
  refine ⟨_, hrun, hone, d, hmem, ha, hcase, u, s', hcommits, ?_, ?_⟩
  · intro hnil
    rw [hnil] at hactions
    cases hactions
  · have hafter := hpointed d hmem _ ha (hcase ▸ hpointer) plansApproval (by exact id) u s' hcommits
    rwa [hcase] at hafter

end SupplyResponse
