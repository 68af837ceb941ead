/-
Nothing that is written breaks a later read.

* `Rooted` — the projected case has the provenance of the stored one; every status write,
  saved case and analysis keeps it;
* `Pointing` — the pointers of a case form a token, and its selection is stored for the case
  and its current analysis;
* `Legible` — the invariant, with every stored receipt readable; `legible_of_run`;
* `reads_succeed` — after every history in which analyses have proper names and hashes, the
  reads of projections, proposal states, selections, reviews and Decisions answer with what
  is stored.
-/
import SupplyResponse.Runs.OneApproval
import SupplyResponse.Runs.Replays
import SupplyResponse.Runs.Submitting

namespace SupplyResponse

open Transact Transact.Prog
open Keyed (keys)

variable {env : Env} {s s' : Store} {c : String}

/-! ### Projected cases -/

def caseOf (s : Store) (c : String) : Option CaseInstance :=
  (s.projections.get? (.projection c)).map CaseProjectionRow.case

/-- The projected case has the provenance of the stored one. -/
def Rooted (s : Store) (c : String) : Prop :=
  ∀ case, caseOf s c = some case → ∃ stored, s.cases.get? (.case c) = some stored ∧
    case.SameProvenance stored

theorem CaseInstance.SameProvenance.trans {a b d : CaseInstance} (h : a.SameProvenance b)
    (h' : b.SameProvenance d) : a.SameProvenance d := by
  obtain ⟨h₁, h₂, h₃, h₄, h₅, h₆, h₇, h₈⟩ := h
  obtain ⟨h₁', h₂', h₃', h₄', h₅', h₆', h₇', h₈'⟩ := h'
  exact ⟨h₁.trans h₁', h₂.trans h₂', h₃.trans h₃', h₄.trans h₄', h₅.trans h₅', h₆.trans h₆',
    h₇.trans h₇', h₈.trans h₈'⟩

theorem CaseInstance.withStatus_sameProvenance (case : CaseInstance) (status : CaseStatus) :
    (case.withStatus status).SameProvenance case :=
  ⟨rfl, rfl, rfl, rfl, rfl, rfl, rfl, rfl⟩

theorem Steady.caseOf_eq (h : Steady c s s') : caseOf s' c = caseOf s c := by
  have hcase : ∀ t : Store, caseOf t c =
      ((t.projections.get? (.projection c)).map CaseProjectionRow.standing).map Prod.fst := by
    intro t
    rw [Option.map_map]
    rfl
  rw [hcase, hcase, h.standing]

namespace Rooted

theorem steady (h : Rooted s c) (hs : Steady c s s') : Rooted s' c := by
  intro case hcase
  rw [hs.caseOf_eq] at hcase
  obtain ⟨stored, hstored, hsame⟩ := h case hcase
  exact ⟨stored, hs.grows.cases hstored, hsame⟩

/-- A write that keeps the provenance of the projected case. -/
theorem rewrites {case case' : CaseInstance} (h : Rooted s c) (hg : Grows s s')
    (hcase : caseOf s c = some case) (hcase' : caseOf s' c = some case')
    (hsame : case'.SameProvenance case) : Rooted s' c := by
  intro x hx
  obtain rfl := Option.some.inj (hcase'.symm.trans hx)
  obtain ⟨stored, hstored, hprovenance⟩ := h case hcase
  exact ⟨stored, hg.cases hstored, hsame.trans hprovenance⟩

/-- A status write to one case. -/
theorem marks (caseId : String) (row : CaseProjectionRow) (status : CaseStatus)
    (h : Rooted s c) (hg : Grows s s')
    (hrow : (s.projections.get? (.projection caseId)).map CaseProjectionRow.case = some row.case)
    (hrow' : (s'.projections.get? (.projection caseId)).map CaseProjectionRow.case =
      some (row.case.withStatus status))
    (hother : c ≠ caseId → Steady c s s') : Rooted s' c := by
  by_cases hc : c = caseId
  · subst hc
    exact h.rewrites hg hrow hrow' (row.case.withStatus_sameProvenance status)
  · exact h.steady (hother hc)

end Rooted

theorem StoresDecision.rooted {d : Decision} (h : StoresDecision s d s') (hr : Rooted s c) :
    Rooted s' c := by
  obtain ⟨row, hrow, hrow'⟩ := h.projection
  refine Rooted.marks d.caseId row _ hr h.grows (by rw [hrow]; rfl) (by rw [hrow']; rfl) fun hne => ?_
  exact .of_get?_eq h.grows (h.projection_ne hne)

theorem SavesAnalysis.rooted {analysis : AnalysisVersion} {projected : Option CaseInstance}
    {stored : CaseInstance} {row : CaseProjectionRow}
    (h : SavesAnalysis env s analysis projected stored row s') (hr : Rooted s c) :
    Rooted s' c := by
  by_cases hc : c = analysis.caseId
  · subst hc
    obtain ⟨row', hrow', hcase, -⟩ := h.projection_self env
    have hrow : caseOf s analysis.caseId = some row.case := by
      rw [caseOf, h.projection]
      rfl
    have hprojected : caseOf s' analysis.caseId = some row'.case := by
      rw [caseOf, hrow']
      rfl
    intro case hx
    obtain rfl := Option.some.inj (hprojected.symm.trans hx)
    rw [hcase, savedValues]
    dsimp only
    split
    · obtain ⟨stored', hstored', hsame⟩ := hr row.case hrow
      refine ⟨stored', h.grows.cases hstored', ?_⟩
      exact (row.case.withStatus_sameProvenance .reanalysisRequired).trans hsame
    · cases hp : projected with
      | none =>
        obtain ⟨stored', hstored', hsame⟩ := hr row.case hrow
        exact ⟨stored', h.grows.cases hstored', hsame⟩
      | some case => exact ⟨stored, h.grows.cases h.case, (h.projected case hp).2⟩
  · exact hr.steady (.of_get?_eq h.grows (h.projection_ne env hc))

/-- A new case is stored as it is projected, for the configured runtime. -/
theorem createCase_stored {case : CaseInstance} {snapshot : OperationalSnapshot} {u : Unit}
    (h : (createCase env case snapshot).Commits s u s') :
    s.cases.Free case ∧ case.runtimeMode = env.runtimeMode := by
  obtain ⟨_, hvalid, h⟩ := (readOnly_validateNewCase env case snapshot).returns_bind.mp h
  obtain ⟨_, s₁, hrows, -⟩ := returns_bind.mp h
  obtain ⟨_, s₂, hcase, -⟩ := returns_bind.mp (returns_mapError.mp hrows)
  obtain ⟨hmode, -⟩ := returns_require_bind.mp hvalid
  exact ⟨(returns_insertInto.mp hcase).1, hmode⟩

/-- A saved projection has the provenance of the stored case. -/
theorem saveCaseProjection_provenance {case : CaseInstance} {u : Unit}
    (h : (saveCaseProjection env case).Commits s u s') :
    ∃ stored, s.cases.get? (.case case.caseId) = some stored ∧ case.SameProvenance stored := by
  obtain ⟨stored, hstored, h⟩ := (readOnly_requireCaseRuntime env _ _).returns_bind.mp h
  obtain ⟨-, hget, hmode, -⟩ := (returns_requireCaseRuntime env).mp hstored
  obtain ⟨hpolicy, h⟩ := returns_require_bind.mp h
  obtain ⟨⟨htemplate, hpurpose, htime, hsupplier, hpresenter⟩, -⟩ := returns_require_bind.mp h
  exact ⟨stored, hget, (caseId_of_get? hget).symm, htemplate, hpurpose, hmode.symm, htime,
    hsupplier, hpresenter, hpolicy⟩

theorem Plans.rooted {planner : ActionPlanner} {claim : OutboxClaim} {d : Decision}
    {analysis : AnalysisVersion} {actions : List ExecutionAction}
    (h : Plans s planner claim d analysis actions s') (hg : Grows s s') (hr : Rooted s c) :
    Rooted s' c := by
  obtain ⟨now, processedAt, row, s₁, s₂, hguard, hins, hrow, rfl⟩ := h.effect
  have hclaimed : ∀ k, Steady k s
      (s.modifyOutbox claim.eventId (OutboxRow.claimed now) (fun _ _ => rfl)) := fun k =>
    .of_eq ⟨id, id, id, id, id, id⟩ rfl
  have hsteady : ∀ k, Steady k s s₁ := fun k => (hclaimed k).trans hguard.steady
  have hprojections : s₂.projections = s₁.projections := by rw [hins.frame]
  refine Rooted.marks d.caseId row .executing hr hg ?_ ?_ fun hne => ⟨hg, ?_⟩
  · have hcase := (hsteady d.caseId).caseOf_eq
    rw [caseOf, ← hprojections, hrow] at hcase
    exact hcase.symm
  · rw [Table.get?_modify_self, hrow]
    rfl
  · rw [get?_modifyProjection, if_neg hne, hprojections]
    exact (hsteady c).standing

theorem Recovers.rooted {claim : OutboxClaim} {code : String} (h : Recovers s claim code s')
    (hg : Grows s s') (hr : Rooted s c) : Rooted s' c := by
  obtain ⟨stored, hcase⟩ := h.case
  by_cases hi : stored.effectiveWorkflowVersion = .independentFinance
  · obtain ⟨d, s₁, s₂, row, -, hguard, -, hrow, rfl⟩ := h.independent stored hcase hi
    refine Rooted.marks d.caseId row .actionPlanning hr hg ?_ ?_ fun hne => ⟨hg, ?_⟩
    · have hcase := (hguard.steady (c := d.caseId)).caseOf_eq
      rw [caseOf, hrow] at hcase
      exact hcase.symm
    · rw [Table.get?_modify_self, hrow]
      rfl
    · rw [get?_modifyProjection, if_neg hne]
      exact hguard.steady.standing
  · obtain ⟨s₁, row, -, hrow, rfl⟩ := h.legacy stored hcase hi
    refine Rooted.marks claim.caseId row .actionPlanning hr hg ?_ ?_ fun hne => ⟨hg, ?_⟩
    · rw [hrow]
      rfl
    · rw [Table.get?_modify_self, hrow]
      rfl
    · rw [get?_modifyProjection, if_neg hne]

theorem Finalizes.rooted {command : FinalizeProposalCommand} {d : Decision}
    (h : Finalizes env s command d s') (hr : Rooted s c) : Rooted s' c := by
  rcases hk : d.kind
  · exact (h.approved hk).rooted (hr.steady (.cas rfl rfl))
  · obtain ⟨st, s₁, -, hsup, hstores⟩ := h.rejected hk
    have hcas : Steady c s
        (s.cas command.caseId command.expected { currentSelectionId := some none }) := .cas rfl rfl
    exact hstores.rooted (hr.steady (hcas.trans (.of_eq hsup.grows hsup.projections)))

theorem rooted_step {t : Transaction} {u : Unit} (hr : Rooted s c)
    (hc : (t.program env).Commits s u s') : Rooted s' c := by
  have hg := grows_of_commits hc
  by_cases hk : ∀ kind ∈ t.kinds, kind ∉ standingKinds
  · exact hr.steady (steady_of_commits hk hc)
  · cases t
    case createCase case snapshot =>
      obtain ⟨_, hcommits⟩ := commits_effect.mp hc
      obtain ⟨hfree, -⟩ := createCase_stored hcommits
      obtain ⟨hrow, rfl⟩ := returns_createCase env hcommits
      by_cases hcase : c = case.caseId
      · subst hcase
        intro x hx
        rw [caseOf, Table.get?_add hrow, if_pos (by simp [CaseProjectionRow.initial])] at hx
        obtain rfl : case = x := Option.some.inj hx
        refine ⟨case, ?_, .refl case⟩
        rw [Table.get?_add hfree, if_pos (by simp)]
      · refine hr.steady (.of_get?_eq hg ?_)
        rw [Table.get?_add hrow, if_neg (by simpa [CaseProjectionRow.initial] using hcase)]
    case saveCaseProjection case =>
      obtain ⟨_, hcommits⟩ := commits_effect.mp hc
      obtain ⟨stored, hstored, hsame⟩ := saveCaseProjection_provenance hcommits
      obtain ⟨⟨row, hrow⟩, rfl⟩ := returns_saveCaseProjection env hcommits
      by_cases hcase : c = case.caseId
      · subst hcase
        intro x hx
        rw [caseOf, get?_modifyProjection, if_pos rfl, hrow] at hx
        obtain rfl : case = x := Option.some.inj hx
        exact ⟨stored, hstored, hsame⟩
      · refine hr.steady (.of_get?_eq hg ?_)
        rw [get?_modifyProjection, if_neg hcase]
    case saveAnalysis analysis projected now =>
      obtain ⟨_, hcommits⟩ := commits_effect.mp hc
      obtain ⟨stored, row, hs⟩ := returns_saveAnalysis env hcommits
      exact hs.rooted hr
    case completeAnalysisClaim analysis projected version claimId completedAt now =>
      obtain ⟨_, hcommits⟩ := commits_effect.mp hc
      obtain ⟨-, stored, row, s₁, hs, t, rfl⟩ := returns_completeAnalysisClaim env hcommits
      exact (hs.rooted hr).steady (.of_eq ⟨id, id, id, id, id, id⟩ rfl)
    case submit command actor selectionUuid reviewUuid clock =>
      obtain ⟨_, hcommits⟩ := commits_effect.mp hc
      obtain ⟨receipt, hs⟩ := returns_submitTransaction env hcommits
      exact hr.steady (hs.steady hg)
    case finalize command actor decisionUuid eventUuid clock =>
      obtain ⟨_, hcommits⟩ := commits_effect.mp hc
      exact (returns_finalizeTransaction env hcommits).rooted hr
    case record command actor decisionUuid eventUuid decidedAt =>
      obtain ⟨_, hcommits⟩ := commits_effect.mp hc
      exact (returns_recordTransaction env hcommits).stores.rooted hr
    case processOutbox planner filter eventUuid processedAt =>
      obtain ⟨_, hcommits⟩ := commits_effect.mp hc
      obtain ⟨claim, d, analysis, actions, -, -, hp⟩ := returns_processTransaction env hcommits
      exact hp.rooted hg hr
    case recoverFailure claim error now =>
      obtain ⟨_, hcommits⟩ := commits_effect.mp hc
      exact (returns_recoveryTransaction env hcommits).rooted hg hr
    all_goals exact absurd (by dsimp only [Transaction.kinds]; decide) hk

/-! ### Pointers -/

/-- The pointers form a token. -/
def CaseRefs.IsToken (r : CaseRefs) : Prop :=
  (∀ id ∈ r.analysisId, IsIdentifier id) ∧ (∀ id ∈ r.selectionId, IsIdentifier id) ∧
    (∀ hash ∈ r.analysisHash, IsSha256 hash) ∧
    (r.analysisId.isNone ↔ r.analysisHash.isNone) ∧ (r.selectionId.isSome → r.analysisId.isSome)

/-- The receipt is for the case and the analysis that the pointers name. -/
structure CaseRefs.Selects (r : CaseRefs) (c : String) (receipt : SelectionReceipt) : Prop where
  caseId : receipt.selection.proposal.caseId = c
  analysisId : r.analysisId = some receipt.selection.proposal.analysisId
  analysisHash : r.analysisHash = some receipt.selection.proposal.analysisMaterialHash

structure Pointing (s : Store) (c : String) : Prop where
  token : (refsOf s c).IsToken
  selects : ∀ id, (refsOf s c).selectionId = some id → IsIndependent s c ∧
    ∃ receipt, s.selections.get? (.selection id) = some receipt ∧ (refsOf s c).Selects c receipt

/-- What the analysis service promises of the analyses it has saved. -/
def Transaction.NamesAnalysis : Transaction → Prop
  | .saveAnalysis analysis .. => IsIdentifier analysis.analysisId ∧ IsSha256 analysis.materialHash
  | .completeAnalysisClaim analysis .. =>
    IsIdentifier analysis.analysisId ∧ IsSha256 analysis.materialHash
  | _ => True

namespace Pointing

/-- Only the pointer to a Decision changed. -/
theorem decides {id : Option String} (h : Pointing s c) (hg : Grows s s')
    (hrefs : refsOf s' c = { refsOf s c with decisionId := id }) : Pointing s' c := by
  constructor
  · rw [hrefs]
    exact h.token
  · intro id hid
    rw [hrefs] at hid ⊢
    obtain ⟨hi, receipt, hreceipt, hselects⟩ := h.selects id hid
    exact ⟨hi.of_grows hg, receipt, hg.selections hreceipt, hselects.1, hselects.2, hselects.3⟩

theorem keeps (h : Pointing s c) (hg : Grows s s') (hrefs : refsOf s' c = refsOf s c) :
    Pointing s' c := by
  have hsame : refsOf s' c = { refsOf s c with decisionId := (refsOf s c).decisionId } := hrefs
  exact h.decides hg hsame

/-- The selection was cleared. -/
theorem clears (h : Pointing s c)
    (hrefs : refsOf s' c = { refsOf s c with selectionId := none }) : Pointing s' c := by
  constructor
  · rw [hrefs]
    obtain ⟨hid, -, hhash, hboth, -⟩ := h.token
    exact ⟨hid, fun _ hmem => absurd hmem (Option.not_mem_none _), hhash, hboth,
      fun hsome => absurd hsome Bool.false_ne_true⟩
  · intro id hid
    rw [hrefs] at hid
    cases hid

end Pointing

theorem StoresDecision.refsOf_eq {d : Decision} (h : StoresDecision s d s') (c : String) :
    refsOf s' c = if c = d.caseId then
      { refsOf s c with decisionId := some d.decisionId } else refsOf s c := by
  split
  · next hc =>
    subst hc
    obtain ⟨row, hrow, hrow'⟩ := h.projection
    rw [refsOf_of_get? hrow, refsOf_of_get? hrow']
    rfl
  · next hc => exact refsOf_congr (h.projection_ne hc)

theorem StoresDecision.pointing {d : Decision} (h : StoresDecision s d s') (hp : Pointing s c) :
    Pointing s' c := by
  have hrefs := h.refsOf_eq c
  split at hrefs
  · exact hp.decides h.grows hrefs
  · exact hp.keeps h.grows hrefs

/-- A submission points its case to the new receipt. -/
theorem Submits.pointing {command : SubmitProposalCommand} {receipt : SelectionReceipt}
    (h : Submits env s command receipt s') (hg : Grows s s') (hp : Pointing s c) :
    Pointing s' c := by
  have hrefs := h.refsOf_eq c
  split at hrefs
  · next hc =>
    obtain ⟨s₁, hopens, hpublishes⟩ := h.published
    obtain ⟨st, hready, -⟩ := hpublishes.effect
    obtain ⟨row, hrow, hshows, -⟩ := hready.state.row
    obtain ⟨hcases, -, hprojections⟩ := hopens.frame
    rw [hready.token] at hshows
    have hold : refsOf s c = row.refs := by
      rw [hc]
      exact refsOf_of_get? (hprojections ▸ hrow)
    have hid : (refsOf s c).analysisId = some receipt.selection.proposal.analysisId := by
      rw [hold]
      exact hshows.2.1.trans hpublishes.analysis.1
    have hhash : (refsOf s c).analysisHash =
        some receipt.selection.proposal.analysisMaterialHash := by
      rw [hold]
      exact hshows.2.2.1.trans hpublishes.analysis.2
    constructor
    · rw [hrefs]
      obtain ⟨hanalysis, -, hash, hboth, -⟩ := hp.token
      refine ⟨hanalysis, fun id hmem => ?_, hash, hboth, fun _ => by rw [hid]; rfl⟩
      obtain rfl := Option.some.inj hmem
      exact receipt.selection.valid.1
    · intro id hmem
      rw [hrefs] at hmem ⊢
      obtain rfl := Option.some.inj hmem
      obtain ⟨hfree, hselections⟩ := h.selections_eq
      refine ⟨?_, receipt, ?_, hc.symm, hid, hhash⟩
      · obtain ⟨case, hcase, hw⟩ := hready.independent
        exact ⟨case, hg.cases (by rw [hc, ← hcases]; exact hcase), hw⟩
      · rw [hselections, Table.get?_add hfree, if_pos (by simp)]
  · exact hp.keeps hg hrefs

/-- A saved analysis clears the selection of its case. -/
theorem SavesAnalysis.pointing {analysis : AnalysisVersion} {projected : Option CaseInstance}
    {stored : CaseInstance} {row : CaseProjectionRow}
    (h : SavesAnalysis env s analysis projected stored row s')
    (hname : IsIdentifier analysis.analysisId ∧ IsSha256 analysis.materialHash)
    (hp : Pointing s c) : Pointing s' c := by
  by_cases hc : c = analysis.caseId
  · subst hc
    obtain ⟨row', hrow', -, hid, hhash, hdecision⟩ := h.projection_self env
    have hnone : (refsOf s' analysis.caseId).selectionId = none := by
      rw [h.selection_eq]
      split
      · rfl
      · next hw =>
        -- a legacy case never had a selection
        cases hselection : (refsOf s analysis.caseId).selectionId with
        | none => rfl
        | some id =>
          obtain ⟨⟨case, hcase, hi⟩, -⟩ := hp.selects id hselection
          obtain rfl := Option.some.inj (hcase.symm.trans h.case)
          exact absurd hi hw
    have hrefs := refsOf_of_get? hrow'
    constructor
    · refine ⟨fun id hmem => ?_, fun id hmem => ?_, fun hash hmem => ?_, ?_, fun hsome => ?_⟩
      · rw [hrefs, CaseProjectionRow.refs, hid] at hmem
        obtain rfl := Option.some.inj hmem
        exact hname.1
      · rw [hnone] at hmem
        cases hmem
      · rw [hrefs, CaseProjectionRow.refs, hhash] at hmem
        obtain rfl := Option.some.inj hmem
        exact hname.2
      · rw [hrefs, CaseProjectionRow.refs, hid, hhash]
        exact Iff.rfl
      · rw [hnone] at hsome
        cases hsome
    · intro id hmem
      cases hnone.symm.trans hmem
  · exact hp.keeps h.grows (refsOf_congr (h.projection_ne env hc))

theorem Finalizes.pointing {command : FinalizeProposalCommand} {d : Decision}
    (h : Finalizes env s command d s') (hp : Pointing s c) : Pointing s' c := by
  rcases hk : d.kind
  · obtain ⟨st, hdecides⟩ := h.decides
    exact (h.approved hk).pointing
      (hp.keeps ⟨id, id, id, id, id, id⟩ (hdecides.ready.refsOf_guard c))
  · obtain ⟨st, s₁, hready, hsup, hstores⟩ := h.rejected hk
    obtain ⟨row, hrow, -⟩ := hready.state.row
    refine hstores.pointing ?_
    have hprojections := refsOf_congr (c := c)
      (congrArg (fun t => t.get? (.projection c)) hsup.projections)
    rw [refsOf_cas_selection hrow] at hprojections
    split at hprojections
    · exact hp.clears hprojections
    · have hcas : Grows s (s.cas command.caseId command.expected
          { currentSelectionId := some none }) := ⟨id, id, id, id, id, id⟩
      exact hp.keeps (hcas.trans hsup.grows) hprojections

theorem pointing_step {t : Transaction} {u : Unit} (hp : Pointing s c) (ht : t.NamesAnalysis)
    (hc : (t.program env).Commits s u s') : Pointing s' c := by
  have hg := grows_of_commits hc
  by_cases hk : ∀ kind ∈ t.kinds, kind ∉ refKinds
  · exact hp.keeps hg (refsOf_of_commits hk hc c)
  · cases t
    case saveAnalysis analysis projected now =>
      obtain ⟨_, hcommits⟩ := commits_effect.mp hc
      obtain ⟨stored, row, hs⟩ := returns_saveAnalysis env hcommits
      exact hs.pointing ht hp
    case completeAnalysisClaim analysis projected version claimId completedAt now =>
      obtain ⟨_, hcommits⟩ := commits_effect.mp hc
      obtain ⟨-, stored, row, s₁, hs, t, rfl⟩ := returns_completeAnalysisClaim env hcommits
      exact (hs.pointing ht hp).keeps ⟨id, id, id, id, id, id⟩ rfl
    case submit command actor selectionUuid reviewUuid clock =>
      obtain ⟨_, hcommits⟩ := commits_effect.mp hc
      obtain ⟨receipt, hs⟩ := returns_submitTransaction env hcommits
      exact hs.pointing hg hp
    case finalize command actor decisionUuid eventUuid clock =>
      obtain ⟨_, hcommits⟩ := commits_effect.mp hc
      exact (returns_finalizeTransaction env hcommits).pointing hp
    case record command actor decisionUuid eventUuid decidedAt =>
      obtain ⟨_, hcommits⟩ := commits_effect.mp hc
      exact (returns_recordTransaction env hcommits).stores.pointing hp
    all_goals exact absurd (by dsimp only [Transaction.kinds]; decide) hk

/-! ### The invariant -/

/-- Every stored row can be read. -/
structure Legible (env : Env) (s : Store) : Prop where
  mode : ∀ case ∈ s.cases, case.runtimeMode = env.runtimeMode
  rooted : ∀ c, Rooted s c
  pointing : ∀ c, Pointing s c
  receipts : ∀ receipt ∈ s.selections, (decodeReceipt env receipt).Returns s receipt s
  reviews : ReviewInvariant s
  decisions : AllIntact env s

theorem Legible.empty : Legible env Store.empty where
  mode _ h := absurd h (Table.notMem_empty _)
  rooted _ _ h := by cases h
  pointing c :=
    { token := by
        refine ⟨fun _ h => ?_, fun _ h => ?_, fun _ h => ?_, Iff.rfl, fun h => ?_⟩ <;> cases h
      selects := fun _ h => by cases h }
  receipts _ h := absurd h (Table.notMem_empty _)
  reviews := .empty
  decisions := .empty

theorem mode_step {t : Transaction} {u : Unit}
    (h : ∀ case ∈ s.cases, case.runtimeMode = env.runtimeMode)
    (hc : (t.program env).Commits s u s') : ∀ case ∈ s'.cases, case.runtimeMode = env.runtimeMode := by
  by_cases hk : WriteKind.newCase ∉ t.kinds
  · have hcases : s'.cases = s.cases :=
      relates_of_commits (R := fun s s' => s'.cases = s.cases) (fun _ => rfl)
        (fun h h' => h'.trans h) (fun hkind hw => hw.cases_eq (fun he => hk (he ▸ hkind)) _) hc
    rw [hcases]
    exact h
  · cases t
    case createCase case snapshot =>
      obtain ⟨_, hcommits⟩ := commits_effect.mp hc
      obtain ⟨hfree, hmode⟩ := createCase_stored hcommits
      obtain ⟨-, rfl⟩ := returns_createCase env hcommits
      intro x hx
      rcases (Table.mem_add hfree).mp hx with hold | rfl
      · exact h x hold
      · exact hmode
    all_goals exact absurd (by dsimp only [Transaction.kinds]; decide) hk

/-- A submission commits under a new key only. -/
theorem submit_fresh {command : SubmitProposalCommand} {actor : IdentitySnapshot}
    {selectionUuid reviewUuid : String} {clock : ClockReading} {result : SubmissionResult}
    (h : (submitTransaction env command actor selectionUuid reviewUuid clock).Commits s result s') :
    s.selections.get? (.selectionKey (submitKey command)) = none := by
  cases hrow : s.selections.get? (.selectionKey (submitKey command)) with
  | none => rfl
  | some receipt =>
    unfold Commits submitTransaction at h
    obtain ⟨-, h⟩ := returns_require_bind.mp h
    obtain ⟨_, hexit, -⟩ := returns_replay hrow h
    cases hexit

/-- A new receipt passed the checks of its read. -/
theorem receipts_step {t : Transaction} {u : Unit}
    (h : ∀ receipt ∈ s.selections, (decodeReceipt env receipt).Returns s receipt s)
    (hc : (t.program env).Commits s u s') :
    ∀ receipt ∈ s'.selections, (decodeReceipt env receipt).Returns s' receipt s' := by
  have hg := grows_of_commits hc
  by_cases hk : WriteKind.newSelection ∉ t.kinds
  · have hselections : s'.selections = s.selections :=
      relates_of_commits (R := fun s s' => s'.selections = s.selections) (fun _ => rfl)
        (fun h h' => h'.trans h) (fun hkind hw => hw.selections_eq (fun he => hk (he ▸ hkind)) _) hc
    rw [hselections]
    exact fun receipt hr => (lasting_decodeReceipt env receipt).lasts hg (h receipt hr)
  · cases t
    case submit command actor selectionUuid reviewUuid clock =>
      obtain ⟨_, hcommits⟩ := commits_effect.mp hc
      obtain ⟨receipt, hs⟩ := returns_submitTransaction env hcommits
      obtain ⟨hfree, hselections⟩ := hs.selections_eq
      obtain ⟨-, stored, hstored⟩ := submit_stored hcommits
      intro x hx
      rw [hselections] at hx
      rcases (Table.mem_add hfree).mp hx with hold | rfl
      · exact (lasting_decodeReceipt env x).lasts hg (h x hold)
      · -- the receipt that the command left readable is the new one
        have hmem := Table.mem_of_get? hstored.row
        rw [hselections] at hmem
        rcases (Table.mem_add hfree).mp hmem with hold | rfl
        · have hrow := Table.get?_of_mem hold (Table.get?_eq_some_iff.mp hstored.row).2
          cases (submit_fresh hcommits).symm.trans hrow
        · exact hstored.readable
    all_goals exact absurd (by dsimp only [Transaction.kinds]; decide) hk

theorem legible_step {t : Transaction} {u : Unit} (h : Legible env s) (ht : t.NamesAnalysis)
    (hc : (t.program env).Commits s u s') : Legible env s' where
  mode := mode_step h.mode hc
  rooted c := rooted_step (h.rooted c) hc
  pointing c := pointing_step (h.pointing c) ht hc
  receipts := receipts_step h.receipts hc
  reviews := reviewInvariant_step h.reviews hc
  decisions := allIntact_step h.decisions hc

/-- The transactions of a run in which analyses are named properly. -/
def namedProgram (env : Env) (t : {t : Transaction // t.NamesAnalysis}) : Sql (Exit Unit) :=
  t.1.program env

theorem legible_of_run (h : Run (namedProgram env) Store.empty s) : Legible env s :=
  Run.invariant (fun hs ⟨t, _, hc⟩ => legible_step hs t.2 hc) h .empty

/-! ### Reads -/

/-- What a projection is read as. -/
def CaseProjectionRow.reading (row : CaseProjectionRow) (s : Store) : CaseProjection where
  case := row.case
  currentAnalysisId := row.currentAnalysisId
  currentAnalysisHash := row.currentAnalysisHash
  currentDecisionId := row.currentDecisionId
  displayStatus :=
    if (decide (row.case.status = .actionPlanning) &&
      (row.currentDecisionId.bind (planningError s)).isSome) = true then
        some "Approved — action planning failed"
    else none

namespace Legible

theorem projection_reads {row : CaseProjectionRow} (h : Legible env s)
    (hrow : s.projections.get? (.projection c) = some row) :
    (getProjection env c).Returns s (row.reading s) s := by
  have hcase : caseOf s c = some row.case := by
    rw [caseOf, hrow]
    rfl
  obtain ⟨stored, hstored, hsame⟩ := h.rooted c row.case hcase
  have hid : row.case.caseId = row.caseId := by
    rw [hsame.1, caseId_of_get? hstored, caseId_of_projection hrow]
  have hmode : row.case.runtimeMode = env.runtimeMode :=
    hsame.2.2.2.1.trans (h.mode stored (Table.mem_of_get? hstored))
  refine returns_getRow_bind.mpr ⟨row, hrow, ?_⟩
  refine (readOnly_storedCase c).returns_bind.mpr
    ⟨stored, returns_getRow.mpr ⟨hstored, rfl⟩, ?_⟩
  refine returns_require_bind.mpr ⟨⟨hid, hsame⟩, returns_require_bind.mpr ⟨hmode, ?_⟩⟩
  exact returns_select_bind.mpr (returns_done.mpr ⟨rfl, rfl⟩)

theorem token_reads {row : CaseProjectionRow} (h : Legible env s)
    (hrow : s.projections.get? (.projection c) = some row) :
    ∃ token, (getToken c).Returns s token s ∧ row.Shows token := by
  have hvalid := (h.pointing c).token
  rw [refsOf_of_get? hrow] at hvalid
  refine ⟨⟨row.proposalGeneration, row.currentAnalysisId, row.currentAnalysisHash,
    row.currentSelectionId, hvalid⟩, ?_, rfl, rfl, rfl, rfl⟩
  refine returns_getRow_bind.mpr ⟨row, hrow, returns_orRaise.mpr ⟨?_, rfl⟩⟩
  exact dif_pos hvalid

/-- A stored selection is read back. -/
theorem selection_reads {receipt : SelectionReceipt} {id : String} (h : Legible env s)
    (hreceipt : s.selections.get? (.selection id) = some receipt) :
    (getSelection env id).Returns s receipt.selection s := by
  refine returns_getRow_bind.mpr ⟨receipt, hreceipt, ?_⟩
  have hdecode := h.receipts receipt (Table.mem_of_get? hreceipt)
  exact (readOnly_decodeReceipt env receipt).returns_bind.mpr
    ⟨receipt, hdecode, returns_done.mpr ⟨rfl, rfl⟩⟩

/-- The analysis of a stored selection is read, and its option is executable there. -/
theorem analysis_reads {receipt : SelectionReceipt} (h : Legible env s)
    (hreceipt : receipt ∈ s.selections) :
    ∃ analysis, (getAnalysis env receipt.selection.proposal.analysisId).Returns s analysis s ∧
      analysis.caseId = receipt.selection.proposal.caseId ∧
      analysis.materialHash = receipt.selection.proposal.analysisMaterialHash ∧
      analysis.IsProposable receipt.selection.proposal := by
  obtain ⟨-, hdecode⟩ := returns_require_bind.mp (h.receipts receipt hreceipt)
  obtain ⟨_, hbinding, -⟩ := (readOnly_validateBinding env receipt).returns_bind.mp hdecode
  obtain ⟨case, -, hbinding⟩ := (readOnly_storedCase _).returns_bind.mp hbinding
  obtain ⟨-, hbinding⟩ := returns_require_bind.mp hbinding
  obtain ⟨_, -, hbinding⟩ :=
    (readOnly_mapError (readOnly_ofExcept _) _ _).returns_bind.mp hbinding
  obtain ⟨analysis, hanalysis, hbinding⟩ := (readOnly_getAnalysis env _).returns_bind.mp hbinding
  obtain ⟨⟨hcase, hhash⟩, hbinding⟩ := returns_require_bind.mp hbinding
  obtain ⟨hproposable, -⟩ := returns_require_bind.mp hbinding
  exact ⟨analysis, hanalysis, hcase, hhash, hproposable⟩

/-- The analysis of a readable receipt is bound to every review of its proposal. -/
theorem review_reads {row : FinanceReviewRow} (h : Legible env s) (hrow : row ∈ s.reviews) :
    (reviewFromRow env row).Returns s (row.review, row.revision) s := by
  obtain ⟨receipt, hreceipt, hproposal⟩ := h.reviews.owner row hrow
  obtain ⟨analysis, hanalysis, hcase, hhash, hproposable⟩ :=
    h.analysis_reads (Table.mem_of_get? hreceipt)
  rw [hproposal] at hanalysis hcase hhash hproposable
  obtain ⟨material, hmaterial, outer, houter, hcost, hsame, -⟩ := hproposable
  refine (readOnly_requireBoundAnalysis env row.review).returns_bind.mpr
    ⟨(), ?_, returns_done.mpr ⟨rfl, rfl⟩⟩
  refine (readOnly_mapError (readOnly_getAnalysis env _) _ _).returns_bind.mpr
    ⟨analysis, returns_mapError.mpr hanalysis, ?_⟩
  refine returns_require_bind.mpr ⟨⟨hcase.symm, hhash.symm⟩, returns_require.mpr ⟨?_, rfl⟩⟩
  exact ⟨material, hmaterial, hcost, outer, houter, hsame⟩

/-- The latest revision of a review is read. -/
theorem latest_reads {row : FinanceReviewRow} {id : String} (h : Legible env s)
    (hlatest : latestRow s id = some row) :
    (getLatest env id).Returns s (row.review, row.revision) s := by
  unfold getLatest
  rw [returns_select_bind, returns_orRaise_bind]
  exact ⟨row, hlatest, h.review_reads (mem_of_latestRow hlatest)⟩

/-- The revisions of the review of a stored selection are all on its request. -/
theorem request_of_selection {receipt : SelectionReceipt} {reviewId : String}
    (h : Legible env s) (hreceipt : receipt ∈ s.selections)
    (hid : receipt.selection.financeReviewId = some reviewId) :
    ∃ row, latestRow s reviewId = some row ∧ 0 < row.revision ∧
      row.review.proposal = receipt.selection.proposal ∧
      row.review.submittedBy = receipt.selection.submittedBy := by
  obtain ⟨-, -, hbound, -⟩ := returns_decodeReceipt env (h.receipts receipt hreceipt)
  obtain ⟨first, hfirst, -, hproposal, hsubmitter, -⟩ := hbound.review reviewId hid
  obtain ⟨hmem, hkeys⟩ := Table.get?_eq_some_iff.mp hfirst
  have hkey : first.review.reviewId = reviewId ∧ first.revision = 1 := by
    simp only [keys_financeReviewRow, List.mem_cons, Key.review.injEq, reduceCtorEq,
      List.not_mem_nil, or_false] at hkeys
    exact ⟨hkeys.1.symm, hkeys.2.symm⟩
  obtain ⟨row, hlatest⟩ := exists_latestRow hmem
  rw [hkey.1] at hlatest
  obtain ⟨hrow, hrowId, hgreatest⟩ := Table.latest_spec hlatest
  have hle : first.revision ≤ row.revision := hgreatest first hmem (by simpa using hkey.1)
  have hsame := h.reviews.journal.request first hmem row hrow
    ((reviewId_of_latestRow hlatest).trans hkey.1.symm)
  refine ⟨row, hlatest, ?_, hsame.2.1.trans hproposal, hsame.2.2.1.trans hsubmitter⟩
  omega

/-- The state of the proposal of a case is read. -/
theorem state_reads {row : CaseProjectionRow} (h : Legible env s)
    (hrow : s.projections.get? (.projection c) = some row) :
    ∃ st, (getState env c).Returns s st s ∧ row.Shows st.token := by
  obtain ⟨token, htoken, hshows⟩ := h.token_reads hrow
  have hselected : token.selectionId = (refsOf s c).selectionId := by
    rw [refsOf_of_get? hrow]
    exact hshows.2.2.2.symm
  suffices hst : ∃ selection review revision,
      (currentSelection env token.selectionId).Returns s selection s ∧
      (∀ sel ∈ selection, sel.Matches c token) ∧
      (currentReview env selection).Returns s (review.map fun r => (r, revision)) s ∧
      ProposalState.Consistent token review (review.map fun _ => revision) selection by
    obtain ⟨selection, review, revision, hselection, hmatches, hreview, hconsistent⟩ := hst
    refine ⟨⟨token, selection, review, review.map fun _ => revision, hconsistent⟩, ?_, hshows⟩
    refine (readOnly_getProjection env c).returns_bind.mpr ⟨_, h.projection_reads hrow, ?_⟩
    refine (readOnly_getToken c).returns_bind.mpr ⟨token, htoken, ?_⟩
    refine (readOnly_currentSelection env _).returns_bind.mpr ⟨selection, hselection, ?_⟩
    refine returns_require_bind.mpr ⟨hmatches, ?_⟩
    refine (readOnly_currentReview env _).returns_bind.mpr ⟨_, hreview, ?_⟩
    refine (readOnly_getToken c).returns_bind.mpr ⟨token, htoken, ?_⟩
    refine returns_require_bind.mpr ⟨rfl, returns_orRaise.mpr ⟨?_, rfl⟩⟩
    rw [Option.map_map, Option.map_map]
    have hid : review.map (Prod.fst ∘ fun r => (r, revision)) = review := Option.map_id_apply
    rw [hid]
    exact dif_pos hconsistent
  cases hid : token.selectionId with
  | none =>
    refine ⟨none, none, 0, returns_done.mpr ⟨rfl, rfl⟩, fun _ hmem => ?_,
      returns_done.mpr ⟨rfl, rfl⟩, rfl, rfl, hid⟩
    cases hmem
  | some id =>
    obtain ⟨-, receipt, hreceipt, hselects⟩ := (h.pointing c).selects id (hselected ▸ hid)
    rw [refsOf_of_get? hrow] at hselects
    have hmatches : receipt.selection.Matches c token := by
      refine ⟨hselects.caseId, ?_, ?_⟩
      · rw [← hselects.analysisId]
        exact hshows.2.1
      · rw [← hselects.analysisHash]
        exact hshows.2.2.1
    have hselection : (currentSelection env (some id)).Returns s (some receipt.selection) s :=
      returns_map.mpr ⟨receipt.selection, h.selection_reads hreceipt, rfl⟩
    have hpoints : token.selectionId = some receipt.selection.selectionId := by
      rw [hid, selectionId_of_get? hreceipt]
    have hall : ∀ sel ∈ some receipt.selection, sel.Matches c token := by
      intro sel hmem
      obtain rfl := Option.some.inj hmem
      exact hmatches
    cases hreview : receipt.selection.financeReviewId with
    | none =>
      refine ⟨some receipt.selection, none, 0, hselection, hall, ?_, hpoints, ?_⟩
      · unfold currentReview
        rw [Option.bind_some, hreview]
        exact returns_done.mpr ⟨rfl, rfl⟩
      · rw [hreview]
        exact ⟨rfl, rfl⟩
    | some reviewId =>
      obtain ⟨latest, hlatest, hpositive, hproposal, -⟩ :=
        h.request_of_selection (Table.mem_of_get? hreceipt) hreview
      refine ⟨some receipt.selection, some latest.review, latest.revision, hselection, hall, ?_,
        hpoints, ?_⟩
      · unfold currentReview
        rw [Option.bind_some, hreview]
        exact returns_map.mpr ⟨_, h.latest_reads hlatest, rfl⟩
      · rw [hreview]
        exact ⟨reviewId_of_latestRow hlatest, hproposal, latest.revision, rfl, hpositive⟩

/-- The receipt of a used key is read. -/
theorem receipt_reads {receipt : SelectionReceipt} (h : Legible env s)
    (hreceipt : receipt ∈ s.selections) :
    (getReceiptByKey env receipt.idempotencyKey).Returns s (some receipt) s := by
  have hrow : s.selections.get? (.selectionKey receipt.idempotencyKey) = some receipt :=
    Table.get?_of_mem hreceipt (by simp)
  rw [getReceiptByKey, returns_select_bind, hrow]
  exact returns_map.mpr ⟨receipt, h.receipts receipt hreceipt, rfl⟩

/-- The revision of a used key is read. -/
theorem reviewByKey_reads {row : FinanceReviewRow} (h : Legible env s) (hrow : row ∈ s.reviews) :
    (getReviewByKey env row.idempotencyKey).Returns s
      (some (row.review, row.revision, row.requestFingerprint)) s := by
  have hget : s.reviews.get? (.reviewKey row.idempotencyKey) = some row :=
    Table.get?_of_mem hrow (by simp)
  rw [getReviewByKey, returns_select_bind, hget]
  exact (readOnly_reviewFromRow env row).returns_bind.mpr
    ⟨_, h.review_reads hrow, returns_done.mpr ⟨rfl, rfl⟩⟩

theorem decision_reads {d : Decision} (h : Legible env s) (hd : d ∈ s.decisions) :
    (getDecision env d.decisionId).Returns s d s :=
  returns_getRow_bind.mpr ⟨d, Table.get?_of_mem hd (by simp),
    returns_bind.mpr ⟨(), s, (h.decisions.intact d hd).returns, returns_done.mpr ⟨rfl, rfl⟩⟩⟩

end Legible

/-- No committed history of the services makes a later read fail: every projection, proposal
state, selection, review and Decision is answered, with what is stored. -/
theorem reads_succeed (h : Run (namedProgram env) Store.empty s) :
    (∀ c row, s.projections.get? (.projection c) = some row →
      (getProjection env c).Returns s (row.reading s) s ∧
        ∃ st, (getState env c).Returns s st s ∧ row.Shows st.token ∧ StateOf s c st) ∧
    (∀ receipt ∈ s.selections,
      (getSelection env receipt.selection.selectionId).Returns s receipt.selection s ∧
        (getReceiptByKey env receipt.idempotencyKey).Returns s (some receipt) s) ∧
    (∀ row ∈ s.reviews,
      (∃ latest, latestRow s row.review.reviewId = some latest ∧
        (getLatest env row.review.reviewId).Returns s (latest.review, latest.revision) s) ∧
      (getReviewByKey env row.idempotencyKey).Returns s
        (some (row.review, row.revision, row.requestFingerprint)) s) ∧
    ∀ d ∈ s.decisions, (getDecision env d.decisionId).Returns s d s ∧
      (getDecisionByKey env d.idempotencyKey).Returns s (some d) s := by
  have hl := legible_of_run h
  refine ⟨fun c row hrow => ⟨hl.projection_reads hrow, ?_⟩, fun receipt hreceipt => ?_,
    fun row hrow => ?_, fun d hd => ?_⟩
  · obtain ⟨st, hst, hshows⟩ := hl.state_reads hrow
    exact ⟨st, hst, hshows, (returns_getState env hst).2⟩
  · have hget : s.selections.get? (.selection receipt.selection.selectionId) = some receipt :=
      Table.get?_of_mem hreceipt (by simp)
    exact ⟨hl.selection_reads hget, hl.receipt_reads hreceipt⟩
  · obtain ⟨latest, hlatest⟩ := exists_latestRow hrow
    exact ⟨⟨latest, hlatest, hl.latest_reads hlatest⟩, hl.reviewByKey_reads hrow⟩
  · exact ⟨hl.decision_reads hd, (hl.decisions.intact d hd).getDecisionByKey hd⟩

/-- The analysis of the sample history is named properly. -/
theorem namesAnalysis_sample : ∀ t ∈ sampleTransactions, t.NamesAnalysis := by
  simp only [sampleTransactions, List.forall_mem_cons, Transaction.NamesAnalysis]
  refine ⟨trivial, ⟨?_, ?_⟩, trivial, trivial, trivial, fun _ h => absurd h List.not_mem_nil⟩
  · show IsIdentifier "analysis"
    decide
  · exact isSha256_hexText (by decide)

/-- The sample case is read after its approval. -/
theorem reads_succeed_sample :
    ∃ s, Run (namedProgram sampleEnv) Store.empty s ∧ ∃ row,
      s.projections.get? (.projection "case") = some row ∧
        row.currentSelectionId = some "RL-SELECTION-1" ∧
        (getProjection sampleEnv "case").Returns s (row.reading s) s ∧
        ∃ st, (getState sampleEnv "case").Returns s st s ∧ row.Shows st.token ∧
          StateOf s "case" st := by
  have hrun := Run.history (namedProgram sampleEnv)
    (sampleTransactions.attachWith _ namesAnalysis_sample) Store.empty
  have hpointer : ((history (namedProgram sampleEnv)
      (sampleTransactions.attachWith _ namesAnalysis_sample)
      Store.empty).projections.get? (.projection "case")).any
        (fun row => row.currentSelectionId = some "RL-SELECTION-1") = true := by
    decide +kernel
  obtain ⟨row, hrow, hselection⟩ := (Option.any_eq_true _ _).mp hpointer
  exact ⟨_, hrun, row, hrow, of_decide_eq_true hselection,
    (reads_succeed hrun).1 "case" row hrow⟩

end SupplyResponse
