/-
What a case points to, over every history of committed transactions.

* `refsOf` — the analysis, the selection and the Decision that a case points to;
* `MovesRefs` — a committed transaction moves these pointers to new records only, so
  what a case has turned away from never comes back;
* `PassedGuard` — a transaction that carries out a Decision commits behind the guard of
  that Decision only;
* `stale_execution_blocked` — an approval that is no longer current stays so, and
  nothing that carries it out commits any more.
-/
import SupplyResponse.Runs.Planning
import SupplyResponse.Runs.Status
import SupplyResponse.Transact.Pointers

namespace SupplyResponse

open Transact Transact.Prog
open Keyed (keys)

variable {env : Env} {s s' : Store} {c : String}

/-! ### Pointers of a case -/

structure CaseRefs where
  analysisId : Option String
  analysisHash : Option String
  selectionId : Option String
  decisionId : Option String

def CaseProjectionRow.refs (row : CaseProjectionRow) : CaseRefs :=
  ⟨row.currentAnalysisId, row.currentAnalysisHash, row.currentSelectionId, row.currentDecisionId⟩

/-- What a case points to: nothing, before it has a projection. -/
def refsOf (s : Store) (c : String) : CaseRefs :=
  ((s.projections.get? (.projection c)).map CaseProjectionRow.refs).getD ⟨none, none, none, none⟩

/-- The analysis and its hash, which are written together. -/
def CaseRefs.analysis (r : CaseRefs) : Option (String × String) :=
  r.analysisId.bind fun id => r.analysisHash.map (id, ·)

theorem refsOf_of_get? {row : CaseProjectionRow}
    (h : s.projections.get? (.projection c) = some row) : refsOf s c = row.refs := by
  rw [refsOf, h]
  rfl

theorem refsOf_congr (h : s'.projections.get? (.projection c) = s.projections.get? (.projection c)) :
    refsOf s' c = refsOf s c := by
  rw [refsOf, refsOf, h]

theorem refsOf_modify {row : CaseProjectionRow} {c' : String}
    {f : CaseProjectionRow → CaseProjectionRow}
    {hf : ∀ r, Key.projection c' ∈ keys r → keys (f r) = keys r}
    (hrow : s.projections.get? (.projection c') = some row) :
    refsOf { s with projections := s.projections.modify (.projection c') f hf } c =
      if c = c' then (f row).refs else refsOf s c := by
  split
  · next hc =>
    subst hc
    refine refsOf_of_get? ?_
    rw [get?_modifyProjection, if_pos rfl, hrow]
    rfl
  · next hc =>
    refine refsOf_congr ?_
    rw [get?_modifyProjection, if_neg hc]

/-- A rewrite of one projection that keeps its pointers. -/
theorem refsOf_modify_of_eq {row : CaseProjectionRow} {c' : String}
    {f : CaseProjectionRow → CaseProjectionRow}
    {hf : ∀ r, Key.projection c' ∈ keys r → keys (f r) = keys r}
    (hrow : s.projections.get? (.projection c') = some row) (heq : (f row).refs = row.refs) :
    refsOf { s with projections := s.projections.modify (.projection c') f hf } c =
      refsOf s c := by
  rw [refsOf_modify hrow]
  split
  · next hc =>
    subst hc
    rw [heq, refsOf_of_get? hrow]
  · rfl

theorem refsOf_addInitial {case : CaseInstance}
    (hfree : s.projections.Free (CaseProjectionRow.initial case)) :
    refsOf { s with projections := s.projections.add (.initial case) } c = refsOf s c := by
  unfold refsOf
  rw [Table.get?_add hfree]
  split
  · next hk =>
    rw [hfree _ hk]
    rfl
  · rfl

/-- The statements that may move a pointer. -/
def refKinds : List WriteKind := [.advanceLegacy, .compareAndSet, .setDecision]

theorem Writing.refsOf_eq {kind : WriteKind} {v : Store} {l : List Key} {u : Store → Store}
    (h : Writing kind v l u) (hk : kind ∉ refKinds) (c : String) : refsOf (u v) c = refsOf v c := by
  cases h
  case newProjection case hfree => exact refsOf_addInitial hfree
  case saveProjection row case hrow => exact refsOf_modify_of_eq hrow rfl
  case setStatus row c' changed hrow => exact refsOf_modify_of_eq hrow rfl
  case guard row c' expected hs hrow =>
    refine refsOf_modify_of_eq hrow ?_
    show (⟨_, _, expected.selectionId, _⟩ : CaseRefs) = row.refs
    rw [← hs.2.2.2]
    rfl
  case setDecision => exact absurd (by decide) hk
  case advanceLegacy => exact absurd (by decide) hk
  case compareAndSet => exact absurd (by decide) hk
  all_goals rfl

/-! ### Moves to new records -/

def KnownAnalysis (s : Store) (x : String × String) : Prop :=
  (s.analyses.get? (.analysis x.1)).isSome

def KnownSelection (s : Store) (id : String) : Prop := (s.selections.get? (.selection id)).isSome

def KnownDecision (s : Store) (id : String) : Prop := (s.decisions.get? (.decision id)).isSome

theorem Grows.known (h : Grows s s') :
    (∀ {x}, KnownAnalysis s x → KnownAnalysis s' x) ∧
      (∀ {id}, KnownSelection s id → KnownSelection s' id) ∧
      ∀ {id}, KnownDecision s id → KnownDecision s' id := by
  refine ⟨fun hx => ?_, fun hx => ?_, fun hx => ?_⟩
  · obtain ⟨a, ha⟩ := Option.isSome_iff_exists.mp hx
    exact Option.isSome_iff_exists.mpr ⟨a, h.analyses ha⟩
  · obtain ⟨r, hr⟩ := Option.isSome_iff_exists.mp hx
    exact Option.isSome_iff_exists.mpr ⟨r, h.selections hr⟩
  · obtain ⟨d, hd⟩ := Option.isSome_iff_exists.mp hx
    exact Option.isSome_iff_exists.mpr ⟨d, h.decisions hd⟩

/-- The pointers of the case move to new records only. -/
structure MovesRefs (c : String) (s s' : Store) : Prop where
  analysis : MovesFresh KnownAnalysis (fun s => (refsOf s c).analysis) s s'
  selection : MovesFresh KnownSelection (fun s => (refsOf s c).selectionId) s s'
  decision : MovesFresh KnownDecision (fun s => (refsOf s c).decisionId) s s'

namespace MovesRefs

theorem refl (s : Store) : MovesRefs c s s := ⟨.refl s, .refl s, .refl s⟩

theorem trans {a b d : Store} (h : MovesRefs c a b) (h' : MovesRefs c b d) : MovesRefs c a d :=
  ⟨h.analysis.trans h'.analysis, h.selection.trans h'.selection, h.decision.trans h'.decision⟩

theorem of_eq (hg : Grows s s') (h : refsOf s' c = refsOf s c) : MovesRefs c s s' :=
  ⟨.of_eq hg.known.1 (congrArg CaseRefs.analysis h),
    .of_eq hg.known.2.1 (congrArg CaseRefs.selectionId h),
    .of_eq hg.known.2.2 (congrArg CaseRefs.decisionId h)⟩

/-- The selection is cleared, or moves; the other pointers stay. -/
theorem of_selection (hg : Grows s s') {id : Option String}
    (hid : ∀ x, id = some x → (refsOf s c).selectionId = some x ∨ ¬KnownSelection s x)
    (h : refsOf s' c = { refsOf s c with selectionId := id }) : MovesRefs c s s' := by
  refine ⟨.of_eq hg.known.1 ?_, ⟨hg.known.2.1, fun hx => hid _ ?_⟩, .of_eq hg.known.2.2 ?_⟩
  · rw [h]
    rfl
  · rw [h] at hx
    exact hx
  · rw [h]

end MovesRefs

theorem refsOf_cas {row : CaseProjectionRow} {c' : String} {expected : ProposalToken}
    {values : CasValues} (hrow : s.projections.get? (.projection c') = some row) :
    refsOf (s.cas c' expected values) c =
      if c = c' then (values.apply (expected.generation + 1) row).refs else refsOf s c :=
  refsOf_modify hrow

/-- A compare-and-set of the selection alone. -/
theorem refsOf_cas_selection {row : CaseProjectionRow} {c' : String} {expected : ProposalToken}
    {id : Option String} (hrow : s.projections.get? (.projection c') = some row) :
    refsOf (s.cas c' expected { currentSelectionId := some id }) c =
      if c = c' then { refsOf s c with selectionId := id } else refsOf s c := by
  rw [refsOf_cas hrow]
  split
  · next hc =>
    subst hc
    rw [refsOf_of_get? hrow]
    rfl
  · rfl

theorem StoresDecision.movesRefs {d : Decision} (h : StoresDecision s d s') :
    MovesRefs c s s' := by
  have hg := h.grows
  by_cases hc : c = d.caseId
  · subst hc
    obtain ⟨row, hrow, hrow'⟩ := h.projection
    have hrefs : refsOf s' d.caseId = { refsOf s d.caseId with decisionId := some d.decisionId } := by
      rw [refsOf_of_get? hrow, refsOf_of_get? hrow']
      rfl
    refine ⟨.of_eq hg.known.1 ?_, .of_eq hg.known.2.1 ?_, hg.known.2.2, fun hx => .inr ?_⟩
    · rw [hrefs]
      rfl
    · rw [hrefs]
    · rw [hrefs] at hx
      obtain rfl := Option.some.inj hx
      rw [KnownDecision, h.free _ (List.mem_cons_self ..)]
      exact Bool.false_ne_true
  · exact .of_eq hg (refsOf_congr (h.projection_ne hc))

theorem SavesAnalysis.selection_eq {analysis : AnalysisVersion} {projected : Option CaseInstance}
    {stored : CaseInstance} {row : CaseProjectionRow}
    (h : SavesAnalysis env s analysis projected stored row s') :
    (refsOf s' analysis.caseId).selectionId =
      if stored.effectiveWorkflowVersion = .independentFinance then none
      else (refsOf s analysis.caseId).selectionId := by
  split
  · next hw =>
    obtain ⟨st, -, hsup⟩ := h.independent hw
    rw [refsOf_congr (congrArg (fun t => t.get? (.projection analysis.caseId)) hsup.projections),
      refsOf_cas (s := s.addAnalysis analysis) h.projection, if_pos rfl]
    rfl
  · next hw =>
    have hrow : s'.projections.get? (.projection analysis.caseId) =
        some ((savedValues analysis projected stored row).apply row.proposalGeneration row) := by
      rw [h.legacy hw, get?_modifyProjection, if_pos rfl, h.projection]
      rfl
    rw [refsOf_of_get? hrow, refsOf_of_get? h.projection]
    rfl

theorem SavesAnalysis.grows {analysis : AnalysisVersion} {projected : Option CaseInstance}
    {stored : CaseInstance} {row : CaseProjectionRow}
    (h : SavesAnalysis env s analysis projected stored row s') : Grows s s' := by
  have hadd : Grows s (s.addAnalysis analysis) := ⟨id, id, Table.get?_add_of_some, id, id, id⟩
  by_cases hw : stored.effectiveWorkflowVersion = .independentFinance
  · obtain ⟨st, -, hsup⟩ := h.independent hw
    have hcas : Grows (s.addAnalysis analysis) ((s.addAnalysis analysis).cas analysis.caseId st.token
        { savedValues analysis projected stored row with currentSelectionId := some none }) :=
      ⟨id, id, id, id, id, id⟩
    exact hadd.trans (hcas.trans hsup.grows)
  · rw [h.legacy hw]
    exact ⟨id, id, Table.get?_add_of_some, id, id, id⟩

theorem SavesAnalysis.movesRefs {analysis : AnalysisVersion} {projected : Option CaseInstance}
    {stored : CaseInstance} {row : CaseProjectionRow}
    (h : SavesAnalysis env s analysis projected stored row s') : MovesRefs c s s' := by
  have hg := h.grows
  by_cases hc : c = analysis.caseId
  · subst hc
    obtain ⟨row', hrow', -, hid, hhash, hdecision⟩ := h.projection_self env
    refine ⟨⟨hg.known.1, fun hx => .inr ?_⟩, ⟨hg.known.2.1, fun hx => .inl ?_⟩,
      .of_eq hg.known.2.2 ?_⟩
    · have hnew : (refsOf s' analysis.caseId).analysis =
          some (analysis.analysisId, analysis.materialHash) := by
        rw [refsOf_of_get? hrow', CaseRefs.analysis, CaseProjectionRow.refs, hid, hhash]
        rfl
      obtain rfl := Option.some.inj (hnew.symm.trans hx)
      have hfree := h.free (.analysis analysis.analysisId) (by simp [AnalysisVersion.serialized])
      rw [KnownAnalysis, hfree]
      exact Bool.false_ne_true
    · have hselection := h.selection_eq
      split at hselection
      · cases hselection.symm.trans hx
      · exact hselection.symm.trans hx
    · rw [refsOf_of_get? hrow', refsOf_of_get? h.projection]
      exact hdecision
  · exact .of_eq hg (refsOf_congr (h.projection_ne env hc))

/-- A submission moves the selection of its case to the new receipt. -/
theorem Submits.refsOf_eq {command : SubmitProposalCommand} {receipt : SelectionReceipt}
    (h : Submits env s command receipt s') (c : String) :
    refsOf s' c = if c = receipt.selection.proposal.caseId then
      { refsOf s c with selectionId := some receipt.selection.selectionId } else refsOf s c := by
  obtain ⟨s₁, hopens, hpublishes⟩ := h.published
  obtain ⟨st, hready, hsup⟩ := hpublishes.effect
  obtain ⟨row, hrow, -⟩ := hready.state.row
  have hprojections := hopens.projections_eq
  have hrefs₁ : refsOf s₁ c = refsOf s c :=
    refsOf_congr (congrArg (fun t => t.get? (.projection c)) hprojections)
  rw [refsOf_congr (congrArg (fun t => t.get? (.projection c)) hsup.projections),
    refsOf_cas_selection (s := { s₁ with selections := s₁.selections.add receipt }) hrow]
  split
  · rw [← hrefs₁]
    rfl
  · exact hrefs₁

theorem Submits.movesRefs {command : SubmitProposalCommand} {receipt : SelectionReceipt}
    (hg : Grows s s') (h : Submits env s command receipt s') : MovesRefs c s s' := by
  have hrefs := h.refsOf_eq c
  split at hrefs
  · refine .of_selection hg (fun x hx => .inr ?_) hrefs
    obtain rfl := Option.some.inj hx
    obtain ⟨s₁, hopens, hpublishes⟩ := h.published
    have hfree := hpublishes.free (.selection receipt.selection.selectionId) (by simp)
    rw [hopens.selections_eq] at hfree
    rw [KnownSelection, hfree]
    exact Bool.false_ne_true
  · exact .of_eq hg hrefs

/-- A guard writes the selection that the case already points to. -/
theorem ReadyState.refsOf_guard {caseId : String} {token : ProposalToken} {st : ProposalState}
    (h : ReadyState s caseId token st) (c : String) :
    refsOf (s.cas caseId token { currentSelectionId := some token.selectionId }) c =
      refsOf s c := by
  obtain ⟨row, hrow, hshows, -⟩ := h.state.row
  have hshown : row.Shows token := h.token ▸ hshows
  rw [refsOf_cas_selection hrow]
  split
  · next hc =>
    subst hc
    rw [refsOf_of_get? hrow, ← hshown.2.2.2]
    rfl
  · rfl

theorem Finalizes.movesRefs {command : FinalizeProposalCommand} {d : Decision}
    (h : Finalizes env s command d s') : MovesRefs c s s' := by
  rcases hk : d.kind
  · obtain ⟨st, hdecides⟩ := h.decides
    have hcas : MovesRefs c s (s.cas command.caseId command.expected
        { currentSelectionId := some command.expected.selectionId }) :=
      .of_eq ⟨id, id, id, id, id, id⟩ (hdecides.ready.refsOf_guard c)
    exact hcas.trans (h.approved hk).movesRefs
  · obtain ⟨st, s₁, hready, hsup, hstores⟩ := h.rejected hk
    obtain ⟨row, hrow, -⟩ := hready.state.row
    have hcas : MovesRefs c s
        (s.cas command.caseId command.expected { currentSelectionId := some none }) := by
      have hrefs : refsOf (s.cas command.caseId command.expected
          { currentSelectionId := some none }) c = if c = command.caseId then
            { refsOf s c with selectionId := none } else refsOf s c := refsOf_cas_selection hrow
      split at hrefs
      · exact .of_selection ⟨id, id, id, id, id, id⟩ (fun x hx => by cases hx) hrefs
      · exact .of_eq ⟨id, id, id, id, id, id⟩ hrefs
    refine (hcas.trans (.of_eq hsup.grows ?_)).trans hstores.movesRefs
    exact refsOf_congr (congrArg (fun t => t.get? (.projection c)) hsup.projections)

/-- Most transactions move no pointer. -/
theorem refsOf_of_commits {t : Transaction} {u : Unit} (hk : ∀ kind ∈ t.kinds, kind ∉ refKinds)
    (hc : (t.program env).Commits s u s') (c : String) : refsOf s' c = refsOf s c :=
  relates_of_commits (R := fun s s' => refsOf s' c = refsOf s c) (fun _ => rfl)
    (fun h h' => h'.trans h) (fun hkind hw => hw.refsOf_eq (hk _ hkind) c) hc

theorem movesRefs_of_commits {t : Transaction} {u : Unit} (hc : (t.program env).Commits s u s')
    (c : String) : MovesRefs c s s' := by
  have hg := grows_of_commits hc
  by_cases hk : ∀ kind ∈ t.kinds, kind ∉ refKinds
  · exact .of_eq hg (refsOf_of_commits hk hc c)
  · cases t
    case saveAnalysis analysis projected now =>
      obtain ⟨_, hsave⟩ := commits_effect.mp hc
      obtain ⟨stored, row, hs⟩ := returns_saveAnalysis env hsave
      exact hs.movesRefs
    case completeAnalysisClaim analysis projected version claimId completedAt now =>
      obtain ⟨_, hcomplete⟩ := commits_effect.mp hc
      obtain ⟨-, stored, row, s₁, hs, t, rfl⟩ := returns_completeAnalysisClaim env hcomplete
      exact hs.movesRefs.trans (.of_eq ⟨id, id, id, id, id, id⟩ rfl)
    case submit command actor selectionUuid reviewUuid clock =>
      obtain ⟨_, hsubmit⟩ := commits_effect.mp hc
      obtain ⟨receipt, hs⟩ := returns_submitTransaction env hsubmit
      exact hs.movesRefs hg
    case finalize command actor decisionUuid eventUuid clock =>
      obtain ⟨_, hfinalize⟩ := commits_effect.mp hc
      exact (returns_finalizeTransaction env hfinalize).movesRefs
    case record command actor decisionUuid eventUuid decidedAt =>
      obtain ⟨_, hrecord⟩ := commits_effect.mp hc
      exact (returns_recordTransaction env hrecord).stores.movesRefs
    all_goals exact absurd (by dsimp only [Transaction.kinds]; decide) hk

theorem Run.movesRefs (h : Run (Transaction.program env) s s') (c : String) : MovesRefs c s s' :=
  h.relates MovesRefs.refl MovesRefs.trans fun ⟨_, _, hc⟩ => movesRefs_of_commits hc c

/-! ### Guarded transactions -/

/-- Projections, reviews and Decisions are as they were. -/
structure SameCurrency (s s' : Store) : Prop where
  projections : s'.projections = s.projections
  reviews : s'.reviews = s.reviews
  decisions : s'.decisions = s.decisions

theorem SameCurrency.refl (s : Store) : SameCurrency s s := ⟨rfl, rfl, rfl⟩

theorem SameCurrency.trans {a b d : Store} (h : SameCurrency a b) (h' : SameCurrency b d) :
    SameCurrency a d :=
  ⟨h'.projections.trans h.projections, h'.reviews.trans h.reviews,
    h'.decisions.trans h.decisions⟩

theorem ExecutionCurrent.of_same {d : Decision} {evidence : ProposalApprovalEvidence}
    (h : ExecutionCurrent s' d evidence) (hs : SameCurrency s s') : ExecutionCurrent s d evidence := by
  obtain ⟨hprojection, hreview⟩ := h
  unfold latestRow at hreview
  rw [hs.projections] at hprojection
  rw [hs.reviews] at hreview
  exact ⟨hprojection, hreview⟩

/-- The statements that insert an action. -/
theorem Writing.sameCurrency {kind : WriteKind} {v : Store} {l : List Key} {u : Store → Store}
    (h : Writing kind v l u)
    (hk : kind ∈ [WriteKind.newAction, .newActionProjection, .newStatusEvent, .newDraft]) :
    SameCurrency v (u v) := by
  simp only [List.mem_cons, List.not_mem_nil, or_false] at hk
  rcases hk with rfl | rfl | rfl | rfl <;> cases h <;> exact ⟨rfl, rfl, rfl⟩

/-- The transaction carries out the Decision: it plans its actions or records that this
failed, starts, retries or completes one, plays them, or works on its supplier email. -/
def Transaction.ActsFor (s : Store) (id : String) : Transaction → Prop
  | .processOutbox _ filter .. =>
    ∃ claim, outboxCandidate s filter = some claim ∧ claim.decisionId = id
  | .recoverFailure claim .. => claim.decisionId = id ∧
    ∃ case, s.cases.get? (.case claim.caseId) = some case ∧
      case.effectiveWorkflowVersion = .independentFinance
  | .createAction action _ => action.decisionId = id
  | .beginAttempt actionId .. =>
    ∃ action, s.actions.get? (.action actionId) = some action ∧ action.decisionId = id
  | .finishAttempt actionId _ toStatus .. => toStatus = .completed ∧
    ∃ action, s.actions.get? (.action actionId) = some action ∧ action.decisionId = id
  | .startPlayback decisionId .. => decisionId = id
  | .fillDraft actionId => ∃ shell, draftsOf s actionId = [shell] ∧ shell.decisionId = id
  | .recordCompletion playback .. =>
    ∃ current, s.playbacks.get? (.playback playback.playbackId) = some current ∧
      current.decisionId = id
  | .getEmail _ decisionId _ => decisionId = id
  | .saveEmail _ decisionId .. => decisionId = id
  | .reviewEmail _ decisionId .. => decisionId = id
  | .claimEmail _ decisionId .. => decisionId = id
  | _ => False

/-- The guard of the Decision passed, at what the case pointed to before. -/
def PassedGuard (s : Store) (id : String) : Prop :=
  ∃ s₀ d s₁, SameCurrency s s₀ ∧ d.decisionId = id ∧ Guarded s₀ d s₁

theorem passedGuard_of_returns {id : String} {s₀ s₁ : Store} {d : Decision}
    (h : (guardExecutionCurrent env id).Returns s₀ d s₁) (hs : SameCurrency s s₀) :
    PassedGuard s id :=
  have hguard := returns_guardExecutionCurrent env h
  ⟨s₀, d, s₁, hs, hguard.1, hguard.2⟩

theorem passedGuard_of_guardedEmail {id : String} {p : Decision × ExecutionAction} {s₁ : Store}
    (h : (guardedEmail env id).Returns s p s₁) : PassedGuard s id :=
  have hguard := returns_guardedEmail env h
  ⟨s, p.1, s₁, .refl s, hguard.1, hguard.2⟩

theorem returns_getAction_decision {actionId : String} {action stored : ExecutionAction}
    (h : (getAction actionId).Returns s action s')
    (hstored : s.actions.get? (.action actionId) = some stored) :
    action.decisionId = stored.decisionId := by
  obtain ⟨rfl, hproj⟩ := returns_getAction_projected h
  rw [← Option.some.inj (hproj.stored.symm.trans hstored)]
  rfl

/-- A transaction that carries out a Decision commits behind its passed guard only. -/
theorem passedGuard_of_commits {t : Transaction} {id : String} {u : Unit} (ht : t.ActsFor s id)
    (hc : (t.program env).Commits s u s') : PassedGuard s id := by
  cases t
  case processOutbox planner filter eventUuid processedAt =>
    obtain ⟨claim, hclaim, rfl⟩ := ht
    obtain ⟨_, hcommits⟩ := commits_effect.mp hc
    obtain ⟨claim', d, _, _, -, hclaim', hplans⟩ := returns_processTransaction env hcommits
    obtain rfl := Option.some.inj (hclaim.symm.trans hclaim')
    obtain ⟨now, _, _, s₁, _, hguarded, -⟩ := hplans.effect
    exact ⟨s.modifyOutbox claim.eventId (OutboxRow.claimed now) (fun _ _ => rfl), d, s₁,
      ⟨rfl, rfl, rfl⟩, hplans.decisionId, hguarded⟩
  case recoverFailure claim error now =>
    obtain ⟨rfl, case, hcase, hw⟩ := ht
    obtain ⟨_, hcommits⟩ := commits_effect.mp hc
    obtain ⟨d, s₁, _, _, hid, hguarded, -⟩ :=
      (returns_recoveryTransaction env hcommits).independent case hcase hw
    exact ⟨s, d, s₁, .refl s, hid, hguarded⟩
  case createAction action eventUuid =>
    obtain rfl := ht
    obtain ⟨_, hcommits⟩ := commits_effect.mp hc
    obtain ⟨inserted, s₁, hins, h⟩ := returns_bind.mp hcommits
    obtain ⟨-, h⟩ | ⟨-, h⟩ := returns_ite.mp h
    · obtain ⟨d, s₂, hguard, h⟩ := returns_bind.mp h
      refine passedGuard_of_returns hguard ?_
      exact relates_of_uses SameCurrency.refl SameCurrency.trans
        (fun hkind hw => hw.sameCurrency hkind)
        (uses_insertActionIfAbsent env (by decide) (by decide) (by decide) (by decide) _ _) hins
    · obtain ⟨_, -, h⟩ := (readOnly_getAction _).returns_bind.mp h
      cases (returns_done.mp h).1
  case beginAttempt actionId required attemptUuid eventUuid startedAt occurredAt =>
    obtain ⟨stored, hstored, rfl⟩ := ht
    obtain ⟨_, hcommits⟩ := commits_effect.mp hc
    obtain ⟨action, ha, h⟩ := (readOnly_getAction _).returns_bind.mp hcommits
    obtain ⟨-, h⟩ := returns_require_bind.mp h
    obtain ⟨-, h⟩ := returns_require_bind.mp h
    obtain ⟨d, s₁, hguard, -⟩ := returns_bind.mp h
    rw [returns_getAction_decision ha hstored] at hguard
    exact passedGuard_of_returns hguard (.refl s)
  case finishAttempt actionId attemptId toStatus errorCode eventUuid now =>
    obtain ⟨rfl, stored, hstored, rfl⟩ := ht
    obtain ⟨_, hcommits⟩ := commits_effect.mp hc
    obtain ⟨action, ha, h⟩ := (readOnly_getAction _).returns_bind.mp hcommits
    obtain ⟨-, h⟩ := returns_require_bind.mp h
    rw [getAttempt, returns_getRow_bind] at h
    obtain ⟨attempt, -, h⟩ := h
    obtain ⟨-, h⟩ := returns_require_bind.mp h
    obtain ⟨_, s₁, hcompletion, -⟩ := returns_bind.mp h
    rw [guardCompletion, if_pos rfl] at hcompletion
    obtain ⟨d, s₂, hguard, -⟩ := returns_bind.mp hcompletion
    rw [returns_getAction_decision ha hstored] at hguard
    exact passedGuard_of_returns hguard (.refl s)
  case startPlayback decisionId actor now =>
    obtain rfl := ht
    obtain ⟨_, hcommits⟩ := commits_effect.mp hc
    rw [startPlayback, authorizePlayback, Commits, returns_require_bind] at hcommits
    obtain ⟨d, hd, h⟩ := (readOnly_getDecision env _ _).returns_bind.mp hcommits.2
    have hid := decisionId_of_get? (returns_getDecision env hd).2
    obtain ⟨-, h⟩ := returns_require_bind.mp h
    obtain ⟨-, h⟩ := returns_require_bind.mp h
    obtain ⟨existing, -, h⟩ := (readOnly_getPlaybackForDecision _).returns_bind.mp h
    cases existing with
    | some existing => cases (returns_done.mp h).1
    | none =>
      obtain ⟨actions, -, h⟩ := (readOnly_listActions _).returns_bind.mp h
      obtain ⟨option, -, h⟩ := returns_orRaise_bind.mp h
      rw [returns_ofExcept_bind] at h
      obtain ⟨kinds, -, h⟩ := h
      obtain ⟨-, h⟩ := returns_require_bind.mp h
      obtain ⟨inserted, s₂, hins, h⟩ := returns_bind.mp h
      obtain ⟨hb, h⟩ | ⟨-, h⟩ := returns_ite.mp h
      · rcases returns_insertPlaybackIfAbsent env hins with ⟨rfl, -⟩ | ⟨-, -, rfl⟩
        · cases hb
        · obtain ⟨d', s₃, hguard, -⟩ := returns_bind.mp h
          rw [hid] at hguard
          exact passedGuard_of_returns hguard ⟨rfl, rfl, rfl⟩
      · cases (returns_done.mp h).1
  case fillDraft actionId =>
    obtain ⟨shell, hshell, rfl⟩ := ht
    obtain ⟨_, hcommits⟩ := commits_effect.mp hc
    obtain ⟨shell', hshell', h⟩ := (readOnly_getDraftArtifact _).returns_bind.mp hcommits
    obtain rfl := (List.cons.inj ((draftsOf_of_returns hshell').symm.trans hshell)).1
    obtain ⟨d, -, h⟩ := (readOnly_getDecision env _ _).returns_bind.mp h
    obtain ⟨option, -, h⟩ := returns_orRaise_bind.mp h
    obtain ⟨-, h⟩ | ⟨-, h⟩ := returns_ite.mp h
    · obtain ⟨_, s₁, -, h⟩ := returns_bind.mp h
      cases (returns_done.mp h).1
    · obtain ⟨d', s₁, hguard, -⟩ := returns_bind.mp h
      exact passedGuard_of_returns hguard (.refl s)
  case recordCompletion playback actions recordedAt =>
    obtain ⟨current, hcurrent, rfl⟩ := ht
    obtain ⟨_, hcommits⟩ := commits_effect.mp hc
    rw [recordCompletion, getPlayback, Commits, returns_getRow_bind] at hcommits
    obtain ⟨current', hcurrent', h⟩ := hcommits
    obtain rfl := Option.some.inj (hcurrent.symm.trans hcurrent')
    obtain ⟨-, h⟩ := returns_require_bind.mp h
    obtain ⟨-, h⟩ | ⟨-, h⟩ := returns_ite.mp h
    · obtain ⟨canonical, -, h⟩ := (readOnly_listActions _).returns_bind.mp h
      obtain ⟨d, -, h⟩ := (readOnly_getDecision env _ _).returns_bind.mp h
      obtain ⟨option, -, h⟩ := returns_orRaise_bind.mp h
      rw [returns_ofExcept_bind] at h
      obtain ⟨kinds, -, h⟩ := h
      obtain ⟨-, h⟩ := returns_require_bind.mp h
      obtain ⟨d', s₁, hguard, -⟩ := returns_bind.mp h
      exact passedGuard_of_returns hguard (.refl s)
    · cases (returns_done.mp h).1
  case getEmail config decisionId now =>
    obtain rfl := ht
    obtain ⟨_, hcommits⟩ := commits_effect.mp hc
    obtain ⟨current, -, h⟩ := (readOnly_getCurrent _).returns_bind.mp hcommits
    cases current with
    | some current => cases (returns_done.mp h).1
    | none =>
      obtain ⟨p, s₁, hguard, -⟩ := returns_bind.mp h
      exact passedGuard_of_guardedEmail hguard
  case saveEmail config decisionId revision subject body actor now =>
    obtain rfl := ht
    obtain ⟨_, hcommits⟩ := commits_effect.mp hc
    obtain ⟨-, h⟩ := returns_require_bind.mp hcommits
    obtain ⟨p, s₁, hguard, -⟩ := returns_bind.mp h
    exact passedGuard_of_guardedEmail hguard
  case reviewEmail config decisionId revision actor now =>
    obtain rfl := ht
    obtain ⟨_, hcommits⟩ := commits_effect.mp hc
    obtain ⟨-, h⟩ := returns_require_bind.mp hcommits
    obtain ⟨p, s₁, hguard, -⟩ := returns_bind.mp h
    exact passedGuard_of_guardedEmail hguard
  case claimEmail config decisionId revision actor correlationId now =>
    obtain rfl := ht
    obtain ⟨_, hcommits⟩ := commits_effect.mp hc
    obtain ⟨-, h⟩ := returns_require_bind.mp hcommits
    obtain ⟨_, s₁, hrecords, -⟩ := returns_bind.mp h
    obtain ⟨-, h⟩ := returns_require_bind.mp hrecords
    obtain ⟨p, s₂, hguard, -⟩ := returns_bind.mp h
    exact passedGuard_of_guardedEmail hguard
  all_goals exact (ht : False).elim

/-! ### Stale approvals -/

/-- What an approval was bound to is stored, with the analysis and the review revision. -/
theorem Intact.bound {d : Decision} {evidence : ProposalApprovalEvidence} (h : Intact env s d)
    (hev : d.proposalApproval = some evidence) :
    KnownAnalysis s (d.analysisId, d.analysisMaterialHash) ∧
      (∃ receipt, s.selections.get? (.selection evidence.selection.selectionId) = some receipt ∧
        receipt.selection = evidence.selection) ∧
      ∀ review, evidence.review = some review → ∃ row ∈ s.reviews, row.review = review ∧
        evidence.reviewRevision = some row.revision := by
  obtain ⟨analysis, hanalysis, hrest⟩ := (readOnly_getAnalysis env _).returns_bind.mp h.lineage
  obtain ⟨-, hget, -⟩ := returns_getAnalysis env hanalysis
  obtain ⟨-, hrest⟩ := returns_require_bind.mp hrest
  obtain ⟨-, hrest⟩ := returns_require_bind.mp hrest
  obtain ⟨_, s₁, hproposal, -⟩ := returns_bind.mp hrest
  refine ⟨by rw [KnownAnalysis, hget]; rfl, ?_⟩
  obtain ⟨hrejected, hproposal⟩ | ⟨-, hproposal⟩ := returns_ite.mp hproposal
  · obtain ⟨hnone, -⟩ := returns_require.mp hproposal
    cases hnone.symm.trans hev
  obtain ⟨-, hproposal⟩ := returns_require_bind.mp hproposal
  rw [hev, requireEvidenceLineage] at hproposal
  obtain ⟨selection, hselection, hproposal⟩ :=
    (readOnly_mapError (readOnly_getSelection env _) _ _).returns_bind.mp hproposal
  obtain ⟨-, receipt, hreceipt, hreceived, -⟩ :=
    returns_getSelection env (returns_mapError.mp hselection)
  obtain ⟨hstored, hproposal⟩ := returns_require_bind.mp hproposal
  refine ⟨⟨receipt, hreceipt, hreceived.trans hstored⟩, fun review hreview => ?_⟩
  rw [hreview] at hproposal
  cases hrevision : evidence.reviewRevision with
  | none =>
    rw [hrevision] at hproposal
    obtain ⟨_, hraise⟩ := hproposal
  | some revision =>
    rw [hrevision] at hproposal
    obtain ⟨stored, hstored, hproposal⟩ :=
      (readOnly_mapError (readOnly_getRevision env _ _) _ _).returns_bind.mp hproposal
    obtain ⟨-, row, hrow, rfl⟩ := returns_getRevision env (returns_mapError.mp hstored)
    obtain ⟨hsame, -⟩ := returns_require.mp hproposal
    have hkey := (Table.get?_eq_some_iff.mp hrow).2
    simp only [keys_financeReviewRow, List.mem_cons, Key.review.injEq, reduceCtorEq,
      List.not_mem_nil, or_false] at hkey
    exact ⟨row, Table.mem_of_get? hrow, hsame, congrArg some hkey.2⟩

/-- A review revision that is the latest was so since it was stored. -/
theorem latestRow_of_grows (hg : Grows s s') {row : FinanceReviewRow} {id : String}
    (hrow : row ∈ s.reviews) (hlatest : latestRow s' id = some row) : latestRow s id = some row := by
  obtain ⟨-, hid, hmax⟩ := Table.latest_spec hlatest
  cases h : latestRow s id with
  | none =>
    have hnone := Table.latest_eq_none.mp h row hrow
    cases hnone.symm.trans hid
  | some row' =>
    obtain ⟨hmem, hid', hmax'⟩ := Table.latest_spec h
    have hmem' : row' ∈ s'.reviews :=
      Table.mem_of_get? (hg.reviews (Table.get?_of_mem hmem (List.mem_cons_self ..)))
    have hle := hmax _ hmem' hid'
    have hge := hmax' _ hrow hid
    have hrevision : row'.revision = row.revision := by omega
    have hsame : row'.review.reviewId = row.review.reviewId :=
      (of_decide_eq_true hid').trans (of_decide_eq_true hid).symm
    have hkey : Key.review row.review.reviewId row.revision ∈ keys row' := by
      rw [keys_financeReviewRow, hrevision, hsame]
      exact List.mem_cons_self ..
    rw [Table.eq_of_key hmem hrow hkey (List.mem_cons_self ..)]

theorem CaseRefs.analysis_eq {r : CaseRefs} {id hash : String} :
    r.analysis = some (id, hash) ↔ r.analysisId = some id ∧ r.analysisHash = some hash := by
  simp only [CaseRefs.analysis, Option.bind_eq_some_iff, Option.map_eq_some_iff, Prod.mk.injEq]
  constructor
  · rintro ⟨x, hx, y, hy, rfl, rfl⟩
    exact ⟨hx, hy⟩
  · rintro ⟨hx, hy⟩
    exact ⟨id, hx, hash, hy, rfl, rfl⟩

/-- A Decision that is current now was current since it was stored. -/
theorem executionCurrent_of_run {s₁ s₂ : Store}
    (h₁ : Run (Transaction.program env) Store.empty s₁)
    (h₂ : Run (Transaction.program env) s₁ s₂) {d : Decision} (hd : d ∈ s₁.decisions)
    {evidence : ProposalApprovalEvidence} (hev : d.proposalApproval = some evidence)
    (hcurrent : ExecutionCurrent s₂ d evidence) : ExecutionCurrent s₁ d evidence := by
  have hmoves := Run.movesRefs h₂ d.caseId
  obtain ⟨hanalysis, ⟨receipt, hreceipt, -⟩, hreviews⟩ :=
    ((allIntact_of_run h₁).intact d hd).bound hev
  have hselection : KnownSelection s₁ evidence.selection.selectionId :=
    Option.isSome_iff_exists.mpr ⟨receipt, hreceipt⟩
  obtain ⟨⟨row, hrow, hdecision, hid, hhash, hsel⟩, hreview⟩ := hcurrent
  have hrefs := refsOf_of_get? hrow
  have hknown : KnownDecision s₁ d.decisionId :=
    Option.isSome_iff_exists.mpr ⟨d, Table.get?_of_mem hd (List.mem_cons_self ..)⟩
  have hanalysis₁ : (refsOf s₁ d.caseId).analysis = some (d.analysisId, d.analysisMaterialHash) := by
    refine hmoves.analysis.pointed hanalysis (CaseRefs.analysis_eq.mpr ?_)
    rw [hrefs]
    exact ⟨hid, hhash⟩
  have hselection₁ : (refsOf s₁ d.caseId).selectionId = some evidence.selection.selectionId := by
    refine hmoves.selection.pointed hselection ?_
    rw [hrefs]
    exact hsel
  have hdecision₁ : (refsOf s₁ d.caseId).decisionId = some d.decisionId := by
    refine hmoves.decision.pointed hknown ?_
    rw [hrefs]
    exact hdecision
  refine ⟨?_, fun review hr => ?_⟩
  · cases hrow₁ : s₁.projections.get? (.projection d.caseId) with
    | none =>
      rw [refsOf, hrow₁] at hdecision₁
      cases hdecision₁
    | some row₁ =>
      rw [refsOf_of_get? hrow₁] at hanalysis₁ hselection₁ hdecision₁
      obtain ⟨hid₁, hhash₁⟩ := CaseRefs.analysis_eq.mp hanalysis₁
      exact ⟨row₁, rfl, hdecision₁, hid₁, hhash₁, hselection₁⟩
  · obtain ⟨row₂, hlatest, rfl, hrevision⟩ := hreview _ hr
    obtain ⟨row₁, hmem, hsame, hrevision₁⟩ := hreviews _ hr
    have hg : Grows s₁ s₂ := Run.grows h₂
    have hmem₂ : row₁ ∈ s₂.reviews :=
      Table.mem_of_get? (hg.reviews (Table.get?_of_mem hmem (List.mem_cons_self ..)))
    have hkey : Key.review row₂.review.reviewId row₂.revision ∈ keys row₁ := by
      rw [keys_financeReviewRow, hsame, Option.some.inj (hrevision₁.symm.trans hrevision)]
      exact List.mem_cons_self ..
    obtain rfl := Table.eq_of_key hmem₂ (Table.latest_spec hlatest).1 hkey (List.mem_cons_self ..)
    exact ⟨row₁, latestRow_of_grows hg hmem hlatest, rfl, hrevision⟩

/-- Once the approval of an independent Decision is stale, it stays stale, and no
transaction that carries the Decision out commits, whatever else happens. -/
theorem stale_execution_blocked {s₁ s₂ : Store}
    (h₁ : Run (Transaction.program env) Store.empty s₁)
    (h₂ : Run (Transaction.program env) s₁ s₂) {d : Decision} (hd : d ∈ s₁.decisions)
    (hp : d.approvalPolicyVersion = WorkflowVersion.independentFinance.value)
    {evidence : ProposalApprovalEvidence} (hev : d.proposalApproval = some evidence)
    (hstale : ¬ExecutionCurrent s₁ d evidence) :
    ¬ExecutionCurrent s₂ d evidence ∧
      ∀ t : Transaction, t.ActsFor s₂ d.decisionId →
        ∀ u s₃, ¬(t.program env).Commits s₂ u s₃ := by
  have hstale₂ : ¬ExecutionCurrent s₂ d evidence :=
    fun hcurrent => hstale (executionCurrent_of_run h₁ h₂ hd hev hcurrent)
  refine ⟨hstale₂, fun t ht u s₃ hc => ?_⟩
  obtain ⟨s₀, d', s₄, hsame, hid, hguarded⟩ := passedGuard_of_commits ht hc
  have hg : Grows s₁ s₂ := Run.grows h₂
  have hget : s₀.decisions.get? (.decision d.decisionId) = some d := by
    rw [hsame.decisions]
    exact hg.decisions (Table.get?_of_mem hd (List.mem_cons_self ..))
  obtain rfl : d' = d := Option.some.inj (hguarded.stored.symm.trans (hid ▸ hget))
  obtain ⟨evidence', _, hev', hcurrent, -⟩ := hguarded.independent hp
  obtain rfl := Option.some.inj (hev.symm.trans hev')
  exact hstale₂ (hcurrent.of_same hsame)

/-- The sample case, analyzed again after its approval. -/
def sampleStale : List Transaction :=
  sampleTransactions ++
    [.saveAnalysis (sampleAnalysis .independentFinance "analysis-2" 100) none 0]

/-- The approval of the sample case is never planned after a new analysis. -/
theorem stale_execution_blocked_sample :
    ∃ s d, Run (Transaction.program sampleEnv) Store.empty s ∧ d ∈ s.decisions ∧
      d.kind = .approved ∧ ∀ s', Run (Transaction.program sampleEnv) s s' →
        ∀ planner filter eventUuid processedAt claim, outboxCandidate s' filter = some claim →
          claim.decisionId = d.decisionId → ∀ u s'', ¬((Transaction.processOutbox planner filter
            eventUuid processedAt).program sampleEnv).Commits s' u s'' := by
  have hdecision : ((history (Transaction.program sampleEnv) sampleStale
      Store.empty).decisions.get? (.decision "RL-DECISION-1")).any (fun d =>
        d.kind = .approved ∧ d.caseId = "case" ∧ d.analysisId = "analysis" ∧
          d.approvalPolicyVersion = WorkflowVersion.independentFinance.value ∧
            d.proposalApproval.isSome) = true := by
    decide +kernel
  have hprojection : ((history (Transaction.program sampleEnv) sampleStale
      Store.empty).projections.get? (.projection "case")).any (fun row =>
        row.currentAnalysisId = some "analysis-2") = true := by
    decide +kernel
  obtain ⟨d, hd, hprop⟩ := (Option.any_eq_true _ _).mp hdecision
  obtain ⟨hk, hcase, hanalysis, hpolicy, hevidence⟩ := of_decide_eq_true hprop
  obtain ⟨evidence, hev⟩ := Option.isSome_iff_exists.mp hevidence
  obtain ⟨row, hrow, hmoved⟩ := (Option.any_eq_true _ _).mp hprojection
  have hrun := Run.history (Transaction.program sampleEnv) sampleStale Store.empty
  refine ⟨_, d, hrun, Table.mem_of_get? hd, hk,
    fun s' hrun' planner filter eventUuid processedAt claim hclaim hid => ?_⟩
  refine (stale_execution_blocked hrun hrun' (Table.mem_of_get? hd) hpolicy hev ?_).2 _
    ⟨claim, hclaim, hid⟩
  rintro ⟨⟨row', hrow', -, hcurrent, -⟩, -⟩
  rw [hcase] at hrow'
  obtain rfl := Option.some.inj (hrow.symm.trans hrow')
  rw [hanalysis, of_decide_eq_true hmoved] at hcurrent
  exact absurd hcurrent (by decide)

end SupplyResponse
