/-
The status of a case and its current Decision.

* `IsActing` — planning or executing;
* `Backed` — a stored approval, on the current analysis, stands behind a row;
* `Promised` — what the callers of the store promise about their arguments;
* `ActsOnCurrent` — a worker acts for the current Decision of a case;
* `status_coherent` — independent cases act on a current approval; legacy cases
  do as long as the workers act on current Decisions.
-/
import SupplyResponse.Runs.Recordings

namespace SupplyResponse

open Transact Transact.Prog
open Keyed (keys)

variable {env : Env} {s s' : Store} {c : String}

/-! ### Acting cases -/

/-- `ACTION_PLANNING` or `EXECUTING`. -/
def CaseStatus.IsActing (status : CaseStatus) : Prop :=
  status = .actionPlanning ∨ status = .executing

instance : DecidablePred CaseStatus.IsActing := fun _ => inferInstanceAs (Decidable (_ ∨ _))

/-- An approval of the case that its row points to, on the current material
and, in the independent workflow, on the current analysis. -/
structure Backed (s : Store) (case : CaseInstance) (row : CaseProjectionRow) (d : Decision) :
    Prop where
  stored : d ∈ s.decisions
  approved : d.kind = .approved
  current : row.currentDecisionId = some d.decisionId
  analysisHash : row.currentAnalysisHash = some d.analysisMaterialHash
  analysisId : case.effectiveWorkflowVersion = .independentFinance →
    row.currentAnalysisId = some d.analysisId

/-- If the case acts, it is stored and, where `P` holds of it, an approval
stands behind it. -/
def CoherentFor (P : CaseInstance → Prop) (s : Store) (c : String) : Prop :=
  ∀ row, s.projections.get? (.projection c) = some row → row.case.status.IsActing →
    ∃ case, s.cases.get? (.case c) = some case ∧ (P case → ∃ d, Backed s case row d)

/-! ### Steady cases -/

/-- The columns of a projection that the status depends on. -/
def CaseProjectionRow.standing (row : CaseProjectionRow) :
    CaseInstance × Option String × Option String × Option String :=
  (row.case, row.currentAnalysisId, row.currentAnalysisHash, row.currentDecisionId)

/-- Nothing happened to the standing of the case. -/
structure Steady (c : String) (s s' : Store) : Prop where
  grows : Grows s s'
  standing : (s'.projections.get? (.projection c)).map CaseProjectionRow.standing =
    (s.projections.get? (.projection c)).map CaseProjectionRow.standing

namespace Steady

theorem refl (s : Store) : Steady c s s := ⟨.refl s, rfl⟩

theorem trans {s₁ s₂ s₃ : Store} (h : Steady c s₁ s₂) (h' : Steady c s₂ s₃) : Steady c s₁ s₃ :=
  ⟨h.grows.trans h'.grows, h'.standing.trans h.standing⟩

theorem of_eq (hg : Grows s s') (h : s'.projections = s.projections) : Steady c s s' :=
  ⟨hg, by rw [h]⟩

theorem of_get?_eq (hg : Grows s s')
    (h : s'.projections.get? (.projection c) = s.projections.get? (.projection c)) :
    Steady c s s' :=
  ⟨hg, by rw [h]⟩

/-- A steady case stays coherent. -/
theorem coherent {P : CaseInstance → Prop} (h : Steady c s s') (hs : CoherentFor P s c) :
    CoherentFor P s' c := by
  intro row' hrow' hacting
  have hstanding := h.standing
  rw [hrow', Option.map_some] at hstanding
  obtain ⟨row, hrow, hsame⟩ := Option.map_eq_some_iff.mp hstanding.symm
  obtain ⟨hcase, hid, hhash, hdecision⟩ : row.case = row'.case ∧
      row.currentAnalysisId = row'.currentAnalysisId ∧
      row.currentAnalysisHash = row'.currentAnalysisHash ∧
      row.currentDecisionId = row'.currentDecisionId := by
    simpa [CaseProjectionRow.standing] using hsame
  obtain ⟨case, hstored, hbacked⟩ := hs row hrow (hcase ▸ hacting)
  refine ⟨case, h.grows.cases hstored, fun hP => ?_⟩
  obtain ⟨d, hd⟩ := hbacked hP
  have hmem : d ∈ s'.decisions :=
    Table.mem_of_get? (h.grows.decisions (Table.get?_of_mem hd.stored (List.mem_cons_self ..)))
  exact ⟨d, hmem, hd.approved, hdecision ▸ hd.current, hhash ▸ hd.analysisHash,
    fun hi => hid ▸ hd.analysisId hi⟩

end Steady

/-- A rewrite of one projection that keeps its standing. -/
theorem standing_modify {t : Table Key CaseProjectionRow} {c' : String}
    {f : CaseProjectionRow → CaseProjectionRow}
    {hf : ∀ r, Key.projection c' ∈ keys r → keys (f r) = keys r}
    (h : ∀ r, (f r).standing = r.standing) :
    ((t.modify (.projection c') f hf).get? (.projection c)).map CaseProjectionRow.standing =
      (t.get? (.projection c)).map CaseProjectionRow.standing := by
  rw [Table.get?_modify, Option.map_map]
  refine congrArg (fun g => Option.map g _) (funext fun r => ?_)
  show CaseProjectionRow.standing (if _ then f r else r) = r.standing
  split
  · exact h r
  · rfl

theorem Steady.cas {expected : ProposalToken} {values : CasValues} {c' : String}
    (hanalysis : values.currentAnalysis = none) (hcase : values.case = none) :
    Steady c s (s.cas c' expected values) := by
  refine ⟨⟨id, id, id, id, id, id⟩, ?_⟩
  refine @standing_modify c s.projections c' (values.apply (expected.generation + 1))
    (fun _ _ => rfl) fun r => ?_
  show (values.apply (expected.generation + 1) r).standing = r.standing
  simp [CaseProjectionRow.standing, hanalysis, hcase]

/-- The statements that may touch the standing of a case. -/
def standingKinds : List WriteKind :=
  [.newProjection, .saveProjection, .advanceLegacy, .compareAndSet, .setStatus, .setDecision]

theorem Writing.steady {kind : WriteKind} {v : Store} {l : List Key} {u : Store → Store}
    (h : Writing kind v l u) (hk : kind ∉ standingKinds) : Steady c v (u v) := by
  have hgrows := h.grows v
  cases h
  case newProjection => exact absurd (by decide) hk
  case saveProjection => exact absurd (by decide) hk
  case advanceLegacy => exact absurd (by decide) hk
  case compareAndSet => exact absurd (by decide) hk
  case setStatus => exact absurd (by decide) hk
  case setDecision => exact absurd (by decide) hk
  case guard => exact .cas rfl rfl
  all_goals exact .of_eq hgrows rfl

theorem steady_of_commits {t : Transaction} {u : Unit} (hk : ∀ kind ∈ t.kinds, kind ∉ standingKinds)
    (hc : (t.program env).Commits s u s') : Steady c s s' :=
  relates_of_commits Steady.refl Steady.trans (fun hkind hw => hw.steady (hk _ hkind)) hc

/-! ### Promises -/

/-- The Decision of a claim is the approved, current Decision of its case, on
the current material. -/
def ClaimsCurrent (s : Store) (claim : OutboxClaim) : Prop :=
  ∃ d row, d ∈ s.decisions ∧ d.decisionId = claim.decisionId ∧ d.kind = .approved ∧
    s.projections.get? (.projection claim.caseId) = some row ∧
    row.currentDecisionId = some d.decisionId ∧
    row.currentAnalysisHash = some d.analysisMaterialHash

namespace Transaction

/-- What the callers promise: cases and projected cases are not acting, and the
claim of a recovery is one of the outbox. -/
def Promised (s : Store) : Transaction → Prop
  | createCase case _ => ¬case.status.IsActing
  | saveCaseProjection case => ¬case.status.IsActing
  | saveAnalysis _ projected _ => ∀ case ∈ projected, ¬case.status.IsActing
  | completeAnalysisClaim _ projected .. => ¬projected.status.IsActing
  | recoverFailure claim .. =>
    ∃ d ∈ s.decisions, d.decisionId = claim.decisionId ∧ d.caseId = claim.caseId
  | _ => True

/-- A worker that acts on the case acts for its current Decision. -/
def ActsOnCurrent (s : Store) (c : String) : Transaction → Prop
  | processOutbox _ filter .. =>
    ∀ claim, outboxCandidate s filter = some claim → claim.caseId = c → ClaimsCurrent s claim
  | recoverFailure claim .. => claim.caseId = c → ClaimsCurrent s claim
  | _ => True

end Transaction

/-! ### Steps -/

section Steps

variable {P : CaseInstance → Prop}

/-- A transaction that rewrites the row of one case. -/
theorem CoherentFor.rewrite (c' : String) (row' : CaseProjectionRow) (h : CoherentFor P s c)
    (hrow' : s'.projections.get? (.projection c') = some row')
    (hother : c ≠ c' → Steady c s s')
    (hnew : c = c' → row'.case.status.IsActing →
      ∃ case, s'.cases.get? (.case c) = some case ∧ (P case → ∃ d, Backed s' case row' d)) :
    CoherentFor P s' c := by
  by_cases hc : c = c'
  · subst hc
    intro row hrow hacting
    obtain rfl := Option.some.inj (hrow'.symm.trans hrow)
    exact hnew rfl hacting
  · exact (hother hc).coherent h

theorem coherent_createCase {case : CaseInstance} {snapshot : OperationalSnapshot} {u : Unit}
    (h : CoherentFor P s c) (hp : ¬case.status.IsActing) (hg : Grows s s')
    (hc : (createCase env case snapshot).Commits s u s') : CoherentFor P s' c := by
  obtain ⟨hfree, rfl⟩ := returns_createCase env hc
  refine CoherentFor.rewrite case.caseId (.initial case) h ?_ (fun hne => .of_get?_eq hg ?_)
    fun _ hacting => absurd hacting hp
  · rw [Table.get?_add hfree, if_pos]
    simp [CaseProjectionRow.initial]
  · rw [Table.get?_add hfree, if_neg]
    simpa [CaseProjectionRow.initial] using hne

theorem coherent_saveCaseProjection {case : CaseInstance} {u : Unit} (h : CoherentFor P s c)
    (hp : ¬case.status.IsActing) (hg : Grows s s')
    (hc : (saveCaseProjection env case).Commits s u s') : CoherentFor P s' c := by
  obtain ⟨⟨row, hrow⟩, rfl⟩ := returns_saveCaseProjection env hc
  refine CoherentFor.rewrite case.caseId { row with case := case } h ?_
    (fun hne => .of_get?_eq hg ?_) fun _ hacting => absurd hacting hp
  · rw [get?_modifyProjection, if_pos rfl, hrow]
    rfl
  · rw [get?_modifyProjection, if_neg hne]

/-- A saved analysis demands a new decision, or keeps the approved material. -/
theorem coherent_savesAnalysis {analysis : AnalysisVersion} {projected : Option CaseInstance}
    {stored : CaseInstance} {row : CaseProjectionRow} (h : CoherentFor P s c)
    (hp : ∀ case ∈ projected, ¬case.status.IsActing) (hg : Grows s s')
    (hs : SavesAnalysis env s analysis projected stored row s') : CoherentFor P s' c := by
  obtain ⟨row', hrow', hcase', hid', hhash', hdecision'⟩ := hs.projection_self env
  refine CoherentFor.rewrite analysis.caseId row' h hrow'
    (fun hne => .of_get?_eq hg (hs.projection_ne env hne)) fun hc hacting => ?_
  subst hc
  by_cases hd : row.DemandsReanalysis stored analysis.materialHash
  · -- the new status is `REANALYSIS_REQUIRED`
    have hvalue : (savedValues analysis projected stored row).case =
        some (row.case.withStatus .reanalysisRequired) := if_pos hd
    rw [hcase', hvalue] at hacting
    exact absurd hacting (show ¬CaseStatus.reanalysisRequired.IsActing by decide)
  · have hvalue : (savedValues analysis projected stored row).case = projected := if_neg hd
    rw [hcase', hvalue] at hacting
    cases projected with
    | some case => exact absurd hacting (hp case rfl)
    | none =>
      -- the status stays, so the approval was on the same material of a legacy case
      obtain ⟨case, hstored, hbacked⟩ := h row hs.projection hacting
      refine ⟨case, hg.cases hstored, fun hP => ?_⟩
      obtain ⟨d, hback⟩ := hbacked hP
      obtain rfl := Option.some.inj (hstored.symm.trans hs.case)
      have hsame : row.currentAnalysisHash = some analysis.materialHash ∧
          case.effectiveWorkflowVersion ≠ .independentFinance := by
        unfold CaseProjectionRow.DemandsReanalysis at hd
        rw [hback.current, hback.analysisHash] at hd
        simp only [Option.isSome_some, true_and, not_or, not_not] at hd
        rw [hback.analysisHash]
        exact hd
      have hmem : d ∈ s'.decisions :=
        Table.mem_of_get? (hg.decisions (Table.get?_of_mem hback.stored (List.mem_cons_self ..)))
      refine ⟨d, hmem, hback.approved, hdecision'.trans hback.current, ?_,
        fun hi => absurd hi hsame.2⟩
      rw [hhash', ← hsame.1, hback.analysisHash]

/-- A stored Decision is an approval on the current analysis, or a rejection. -/
theorem coherent_storesDecision {d : Decision} {stored : CaseInstance} (h : CoherentFor P s c)
    (hg : Grows s s') (hs : StoresDecision s d s')
    (hcase : s.cases.get? (.case d.caseId) = some stored)
    (hcurrent : d.kind = .approved → ∃ row, s.projections.get? (.projection d.caseId) = some row ∧
      row.currentAnalysisId = some d.analysisId ∧
      row.currentAnalysisHash = some d.analysisMaterialHash) :
    CoherentFor P s' c := by
  obtain ⟨row, hrow, hrow'⟩ := hs.projection
  refine CoherentFor.rewrite d.caseId _ h hrow'
    (fun hne => .of_get?_eq hg (hs.projection_ne hne)) fun hc hacting => ?_
  subst hc
  rcases hk : d.kind
  · obtain ⟨row', hr, hid, hhash⟩ := hcurrent hk
    obtain rfl := Option.some.inj (hrow.symm.trans hr)
    have hmem : d ∈ s'.decisions := by
      obtain ⟨_, satisfactions, outbox, -, -, -, rfl⟩ := hs.effect
      exact Table.mem_add_self hs.free
    exact ⟨stored, hg.cases hcase, fun _ => ⟨d, hmem, hk, rfl, hhash, fun _ => hid⟩⟩
  · rw [hk] at hacting
    exact absurd hacting (show ¬CaseStatus.decisionRejected.IsActing by decide)

/-- A status that is written while an approval stands behind the row. -/
theorem coherent_marksStatus (caseId : String) (row : CaseProjectionRow) (status : CaseStatus)
    {stored : CaseInstance} (h : CoherentFor P s c) (hg : Grows s s')
    (hcase : s.cases.get? (.case caseId) = some stored)
    (hcurrent : c = caseId → P stored → ∃ d row₀,
      s.projections.get? (.projection caseId) = some row₀ ∧ Backed s stored row₀ d)
    (hrow : (s.projections.get? (.projection caseId)).map CaseProjectionRow.standing =
      some row.standing)
    (hrow' : s'.projections.get? (.projection caseId) =
      some { row with case := row.case.withStatus status })
    (hother : c ≠ caseId → Steady c s s') : CoherentFor P s' c := by
  refine CoherentFor.rewrite caseId _ h hrow' hother fun hc _ => ?_
  refine ⟨stored, hc ▸ hg.cases hcase, fun hP => ?_⟩
  obtain ⟨d, row₀, hrow₀, hback⟩ := hcurrent hc hP
  rw [hrow₀, Option.map_some] at hrow
  obtain ⟨-, hid, hhash, hdecision⟩ : row₀.case = row.case ∧
      row₀.currentAnalysisId = row.currentAnalysisId ∧
      row₀.currentAnalysisHash = row.currentAnalysisHash ∧
      row₀.currentDecisionId = row.currentDecisionId := by
    simpa [CaseProjectionRow.standing] using hrow
  have hmem : d ∈ s'.decisions :=
    Table.mem_of_get? (hg.decisions (Table.get?_of_mem hback.stored (List.mem_cons_self ..)))
  exact ⟨d, hmem, hback.approved, hdecision ▸ hback.current, hhash ▸ hback.analysisHash,
    fun hi => hid ▸ hback.analysisId hi⟩

theorem Guarded.steady {d : Decision} (h : Guarded s d s') : Steady c s s' := by
  by_cases hp : d.approvalPolicyVersion = WorkflowVersion.independentFinance.value
  · obtain ⟨evidence, token, -, -, -, rfl⟩ := h.independent hp
    exact .cas rfl rfl
  · rw [h.legacy hp]
    exact .refl s

/-- The policy of an intact Decision is the workflow of its case. -/
theorem Intact.policy {d : Decision} {stored : CaseInstance} (hd : Intact env s d)
    (hcase : s.cases.get? (.case d.caseId) = some stored) :
    d.approvalPolicyVersion = stored.effectiveWorkflowVersion.value := by
  obtain ⟨stored', hstored', hversion⟩ := returns_requireAnalysisLineage_policy env hd.lineage
  obtain rfl := Option.some.inj (hcase.symm.trans hstored')
  exact hversion

/-- A guarded Decision of an independent case stands behind the row. -/
theorem Guarded.backed {d : Decision} {stored : CaseInstance} (h : Guarded s d s')
    (hpolicy : d.approvalPolicyVersion = WorkflowVersion.independentFinance.value) :
    ∃ row, s.projections.get? (.projection d.caseId) = some row ∧ Backed s stored row d := by
  obtain ⟨evidence, token, -, hcurrent, -⟩ := h.independent hpolicy
  obtain ⟨row, hrow, hdecision, hid, hhash, -⟩ := hcurrent.projection
  exact ⟨row, hrow, Table.mem_of_get? h.stored, h.approved, hdecision, hhash, fun _ => hid⟩

/-- The current Decision of a claim stands behind the row of a legacy case. -/
theorem ClaimsCurrent.backed {claim : OutboxClaim} {d : Decision} {stored : CaseInstance}
    (h : ClaimsCurrent s claim) (hd : s.decisions.get? (.decision claim.decisionId) = some d)
    (hcaseId : d.caseId = claim.caseId)
    (hl : stored.effectiveWorkflowVersion ≠ .independentFinance) :
    ∃ row, s.projections.get? (.projection d.caseId) = some row ∧ Backed s stored row d := by
  obtain ⟨d', row, hd', hid', happroved, hrow, hdecision, hhash⟩ := h
  have hget := Table.get?_of_mem hd' (k := .decision d'.decisionId) (by simp)
  rw [hid', hd] at hget
  obtain rfl := Option.some.inj hget
  exact ⟨row, hcaseId ▸ hrow, hd', happroved, hdecision, hhash, fun hi => absurd hi hl⟩

/-- The approval that a worker acts for stands behind the row of its case: the
guard says so for an independent case, the hypothesis for a legacy one. -/
theorem backed_of_worker {claim : OutboxClaim} {d : Decision} {stored : CaseInstance}
    {s₀ s₁ : Store} (hstore : AllIntact env s) (h : Guarded s₀ d s₁)
    (hprojections : s₀.projections = s.projections) (hdecisions : s₀.decisions = s.decisions)
    (hid : d.decisionId = claim.decisionId) (hcaseId : d.caseId = claim.caseId)
    (hcase : s.cases.get? (.case d.caseId) = some stored)
    (hcurrent : stored.effectiveWorkflowVersion = .independentFinance ∨ ClaimsCurrent s claim) :
    ∃ row, s.projections.get? (.projection d.caseId) = some row ∧ Backed s stored row d := by
  have hstored := h.stored
  rw [hdecisions] at hstored
  by_cases hi : stored.effectiveWorkflowVersion = .independentFinance
  · have hpolicy := (hstore.intact d (Table.mem_of_get? hstored)).policy hcase
    rw [hi] at hpolicy
    obtain ⟨row, hrow, hback⟩ := h.backed hpolicy
    rw [hprojections] at hrow
    exact ⟨row, hrow, hdecisions ▸ hback.stored, hback.approved, hback.current,
      hback.analysisHash, hback.analysisId⟩
  · exact (hcurrent.resolve_left hi).backed (hid ▸ hstored) hcaseId hi

/-- A committed plan marks the case of its claim as executing. -/
theorem coherent_plans {planner : ActionPlanner} {filter : OutboxFilter} {claim : OutboxClaim}
    {d : Decision} {analysis : AnalysisVersion} {actions : List ExecutionAction}
    (hstore : AllIntact env s) (h : CoherentFor P s c) (hg : Grows s s')
    (hcand : outboxCandidate s filter = some claim)
    (hcurrent : ∀ stored, P stored → stored.effectiveWorkflowVersion = .independentFinance ∨
      (claim.caseId = c → ClaimsCurrent s claim))
    (hp : Plans s planner claim d analysis actions s') : CoherentFor P s' c := by
  obtain ⟨_, d', stored, -, -, -, -, hd', hcaseId, -, hcase⟩ := outboxCandidate_spec hcand
  obtain ⟨now, processedAt, row, s₁, s₂, hguard, hins, hrow, rfl⟩ := hp.effect
  have hstored : s.decisions.get? (.decision d.decisionId) = some d := hguard.stored
  rw [hp.decisionId] at hstored
  obtain rfl := Option.some.inj (hd'.symm.trans hstored)
  rw [← hcaseId] at hcase
  have hstanding : ∀ k, (s₁.projections.get? (.projection k)).map CaseProjectionRow.standing =
      (s.projections.get? (.projection k)).map CaseProjectionRow.standing :=
    fun _ => hguard.steady.standing
  have hprojections : s₂.projections = s₁.projections := by rw [hins.frame]
  refine coherent_marksStatus d'.caseId row .executing h hg hcase
    (fun hc hP => ?_) ?_ ?_ fun hne => ⟨hg, ?_⟩
  · obtain ⟨row₀, hrow₀, hback⟩ := backed_of_worker hstore hguard rfl rfl hp.decisionId hcaseId hcase
      ((hcurrent stored hP).imp_right fun hcl => hcl (hcaseId.symm.trans hc.symm))
    exact ⟨d', row₀, hrow₀, hback⟩
  · rw [← hstanding, ← hprojections, hrow]
    rfl
  · rw [Table.get?_modify_self, hrow]
    rfl
  · rw [get?_modifyProjection, if_neg hne, hprojections]
    exact hstanding c

/-- A committed recovery marks the case of its claim as planning. -/
theorem coherent_recovers {claim : OutboxClaim} {code : String} (hstore : AllIntact env s)
    (h : CoherentFor P s c) (hg : Grows s s')
    (hclaim : ∃ d ∈ s.decisions, d.decisionId = claim.decisionId ∧ d.caseId = claim.caseId)
    (hcurrent : ∀ stored, P stored → stored.effectiveWorkflowVersion = .independentFinance ∨
      (claim.caseId = c → ClaimsCurrent s claim))
    (hr : Recovers s claim code s') : CoherentFor P s' c := by
  obtain ⟨stored, hcase⟩ := hr.case
  obtain ⟨d, hd, hid, hcaseId⟩ := hclaim
  have hget := Table.get?_of_mem hd (k := .decision d.decisionId) (by simp)
  by_cases hi : stored.effectiveWorkflowVersion = .independentFinance
  · obtain ⟨d', s₁, s₂, row, hid', hguard, hfailure, hrow, rfl⟩ := hr.independent stored hcase hi
    have hstored : s.decisions.get? (.decision d'.decisionId) = some d' := hguard.stored
    rw [hid', ← hid, hget] at hstored
    obtain rfl := Option.some.inj hstored
    rw [← hcaseId] at hcase
    refine coherent_marksStatus d.caseId row .actionPlanning h hg hcase
      (fun hc hP => ?_) ?_ ?_ fun hne => ⟨hg, ?_⟩
    · obtain ⟨row₀, hrow₀, hback⟩ :=
        backed_of_worker hstore hguard rfl rfl hid hcaseId hcase (.inl hi)
      exact ⟨d, row₀, hrow₀, hback⟩
    · rw [← hguard.steady.standing, hrow]
      rfl
    · rw [Table.get?_modify_self, hrow]
      rfl
    · rw [get?_modifyProjection, if_neg hne]
      exact hguard.steady.standing
  · obtain ⟨s₁, row, hfailure, hrow, rfl⟩ := hr.legacy stored hcase hi
    refine coherent_marksStatus claim.caseId row .actionPlanning h hg hcase
      (fun hc hP => ?_) ?_ ?_ fun hne => ⟨hg, ?_⟩
    · obtain ⟨row₀, hrow₀, hback⟩ :=
        ((hcurrent stored hP).resolve_left hi hc.symm).backed (hid ▸ hget) hcaseId hi
      exact ⟨d, row₀, hcaseId ▸ hrow₀, hback⟩
    · rw [hrow]
      rfl
    · rw [Table.get?_modify_self, hrow]
      rfl
    · rw [get?_modifyProjection, if_neg hne]

/-- A submission changes selections and reviews only. -/
theorem Submits.steady {command : SubmitProposalCommand} {receipt : SelectionReceipt}
    (hg : Grows s s') (h : Submits env s command receipt s') : Steady c s s' := by
  obtain ⟨s₁, hopens, hpublishes⟩ := h.published
  obtain ⟨st, -, hsup⟩ := hpublishes.effect
  have hcas : Steady c { s₁ with selections := s₁.selections.add receipt }
      ({ s₁ with selections := s₁.selections.add receipt }.cas receipt.selection.proposal.caseId
        receipt.expected { currentSelectionId := some (some receipt.selection.selectionId) }) :=
    .cas rfl rfl
  refine ⟨hg, ?_⟩
  rw [hsup.projections, hcas.standing]
  show (s₁.projections.get? _).map _ = _
  rw [hopens.projections_eq]

theorem SupersedesState.grows {st : ProposalState} (h : SupersedesState s st s') : Grows s s' := by
  rcases h with ⟨-, rfl⟩ | ⟨review, -, ⟨rfl, -⟩ | ⟨row, -, -, -, rfl⟩⟩
  · exact .refl _
  · exact .refl _
  · exact ⟨id, id, id, id, Table.get?_add_of_some, id⟩

/-- A finalization approves the current analysis, or rejects. -/
theorem coherent_finalizes {command : FinalizeProposalCommand} {d : Decision}
    (h : CoherentFor P s c) (hf : Finalizes env s command d s') : CoherentFor P s' c := by
  obtain ⟨st, hdecides⟩ := hf.decides
  obtain ⟨case, hcase, -⟩ := hdecides.ready.independent
  rw [← hdecides.caseId] at hcase
  rcases hk : d.kind
  · have hstores := hf.approved hk
    refine coherent_storesDecision (Steady.coherent (.cas rfl rfl) h) hstores.grows hstores hcase
      fun _ => ?_
    obtain ⟨row, hrow, hshows, -⟩ := hdecides.ready.state.row
    rw [hdecides.ready.token] at hshows
    rw [hdecides.caseId, get?_cas_self, hrow]
    exact ⟨_, rfl, hshows.2.1.trans hdecides.analysisId, hshows.2.2.1.trans hdecides.analysisHash⟩
  · obtain ⟨st', s₁, -, hsup, hstores⟩ := hf.rejected hk
    have hsteady : Steady c s s₁ := by
      have hcas : Steady c s (s.cas command.caseId command.expected
        { currentSelectionId := some none }) := .cas rfl rfl
      exact hcas.trans (.of_eq hsup.grows hsup.projections)
    refine coherent_storesDecision (hsteady.coherent h) hstores.grows hstores
      (hsteady.grows.cases hcase) fun ha => ?_
    rw [hk] at ha
    cases ha

theorem coherent_records {d : Decision} (h : CoherentFor P s c) (hr : Records env s d s') :
    CoherentFor P s' c := by
  obtain ⟨case, hcase, -⟩ := hr.legacy
  exact coherent_storesDecision h hr.stores.grows hr.stores hcase fun _ => hr.current

/-- Every committed transaction keeps the case coherent. -/
theorem coherent_step {t : Transaction} {u : Unit} (hstore : AllIntact env s)
    (h : CoherentFor P s c) (hpromised : t.Promised s)
    (hcurrent : ∀ stored, P stored → stored.effectiveWorkflowVersion = .independentFinance ∨
      t.ActsOnCurrent s c)
    (hc : (t.program env).Commits s u s') : CoherentFor P s' c := by
  have hg := grows_of_commits hc
  by_cases hk : ∀ kind ∈ t.kinds, kind ∉ standingKinds
  · exact (steady_of_commits hk hc).coherent h
  · cases t
    case createCase case snapshot =>
      obtain ⟨_, hcommits⟩ := commits_effect.mp hc
      exact coherent_createCase h hpromised hg hcommits
    case saveCaseProjection case =>
      obtain ⟨_, hcommits⟩ := commits_effect.mp hc
      exact coherent_saveCaseProjection h hpromised hg hcommits
    case saveAnalysis analysis projected now =>
      obtain ⟨_, hcommits⟩ := commits_effect.mp hc
      obtain ⟨stored, row, hs⟩ := returns_saveAnalysis env hcommits
      exact coherent_savesAnalysis h hpromised hg hs
    case completeAnalysisClaim analysis projected version claimId completedAt now =>
      obtain ⟨_, hcommits⟩ := commits_effect.mp hc
      obtain ⟨-, stored, row, s₁, hs, t, rfl⟩ := returns_completeAnalysisClaim env hcommits
      have hsaved : CoherentFor P s₁ c :=
        coherent_savesAnalysis h (by rintro _ ⟨⟩; exact hpromised)
          ⟨hg.cases, hg.snapshots, hg.analyses, hg.selections, hg.reviews, hg.decisions⟩ hs
      have hsteady : Steady c s₁ { s₁ with claims := t } := .of_eq ⟨id, id, id, id, id, id⟩ rfl
      exact hsteady.coherent hsaved
    case submit command actor selectionUuid reviewUuid clock =>
      obtain ⟨_, hcommits⟩ := commits_effect.mp hc
      obtain ⟨receipt, hs⟩ := returns_submitTransaction env hcommits
      exact (hs.steady hg).coherent h
    case finalize command actor decisionUuid eventUuid clock =>
      obtain ⟨_, hcommits⟩ := commits_effect.mp hc
      exact coherent_finalizes h (returns_finalizeTransaction env hcommits)
    case record command actor decisionUuid eventUuid decidedAt =>
      obtain ⟨_, hcommits⟩ := commits_effect.mp hc
      exact coherent_records h (returns_recordTransaction env hcommits)
    case processOutbox planner filter eventUuid processedAt =>
      obtain ⟨_, hcommits⟩ := commits_effect.mp hc
      obtain ⟨claim, d, analysis, actions, -, hcand, hp⟩ := returns_processTransaction env hcommits
      exact coherent_plans hstore h hg hcand
        (fun stored hP => (hcurrent stored hP).imp_right fun ha => ha claim hcand) hp
    case recoverFailure claim error now =>
      obtain ⟨_, hcommits⟩ := commits_effect.mp hc
      exact coherent_recovers hstore h hg hpromised hcurrent
        (returns_recoveryTransaction env hcommits)
    all_goals exact absurd (by dsimp only [Transaction.kinds]; decide) hk

end Steps

/-! ### Runs -/

/-- A commit with promised arguments, of a transaction of which `Q` holds. -/
def PromisedStep (env : Env) (Q : Store → Transaction → Prop) (s s' : Store) : Prop :=
  ∃ t u, t.Promised s ∧ Q s t ∧ (t.program env).Commits s u s'

/-- Runs of such commits. -/
abbrev PromisedRun (env : Env) (Q : Store → Transaction → Prop) : Store → Store → Prop :=
  Relation.ReflTransGen (PromisedStep env Q)

theorem coherent_of_run {Q : Store → Transaction → Prop} {P : CaseInstance → Prop}
    (hQ : ∀ s t, Q s t → ∀ stored, P stored →
      stored.effectiveWorkflowVersion = .independentFinance ∨ t.ActsOnCurrent s c)
    (h : PromisedRun env Q Store.empty s) : AllIntact env s ∧ CoherentFor P s c := by
  induction h with
  | refl => exact ⟨.empty, fun row hrow => by cases hrow⟩
  | tail _ hstep ih =>
    obtain ⟨t, u, hpromised, hq, hc⟩ := hstep
    exact ⟨allIntact_step ih.1 hc, coherent_step ih.1 ih.2 hpromised (hQ _ t hq) hc⟩

/-- A case that acts points to an approval of its current material: in every
run an independent case does, and on its current analysis; a legacy case does
in runs whose workers act on current Decisions. -/
theorem status_coherent {case : CaseInstance} {row : CaseProjectionRow}
    (hcase : s.cases.get? (.case c) = some case)
    (hrow : s.projections.get? (.projection c) = some row) (hacting : row.case.status.IsActing) :
    (case.effectiveWorkflowVersion = .independentFinance →
      PromisedRun env (fun _ _ => True) Store.empty s → ∃ d, Backed s case row d) ∧
    (PromisedRun env (fun s t => t.ActsOnCurrent s c) Store.empty s →
      ∃ d, Backed s case row d) := by
  constructor
  · intro hi h
    have hcoherent := (coherent_of_run (c := c)
      (P := fun stored => stored.effectiveWorkflowVersion = .independentFinance)
      (fun _ _ _ _ hP => .inl hP) h).2
    obtain ⟨case', hcase', hbacked⟩ := hcoherent row hrow hacting
    obtain rfl := Option.some.inj (hcase.symm.trans hcase')
    exact hbacked hi
  · intro h
    have hcoherent := (coherent_of_run (c := c) (P := fun _ => True)
      (fun _ _ hq _ _ => .inr hq) h).2
    obtain ⟨case', hcase', hbacked⟩ := hcoherent row hrow hacting
    obtain rfl := Option.some.inj (hcase.symm.trans hcase')
    exact hbacked trivial

/-- A list of transactions without workers, with promised arguments. -/
theorem PromisedRun.history {Q : Store → Transaction → Prop} {ts : List Transaction}
    (h : ∀ t ∈ ts, ∀ s, t.Promised s ∧ Q s t) (s : Store) :
    PromisedRun env Q s (history (Transaction.program env) ts s) := by
  induction ts generalizing s with
  | nil => exact .refl
  | cons t ts ih =>
    obtain ⟨hpromised, hq⟩ := h t (List.mem_cons_self ..) s
    have hrest := ih (fun t' ht' => h t' (List.mem_cons_of_mem _ ht'))
      ((t.program env).transact s).2
    rcases (t.program env).transact_cases s with heq | ⟨u, hc⟩
    · show PromisedRun env Q s (Transact.history _ ts ((t.program env).transact s).2)
      rw [heq] at hrest ⊢
      exact hrest
    · exact .head ⟨t, u, hpromised, hq, hc⟩ hrest

/-- The legacy sample case is approved, then analyzed again: the material is
the same, so the case goes on planning under the earlier analysis. -/
def sampleReanalysis : List Transaction :=
  sampleLegacyTransactions ++ [.record sampleRecord sampleAlex "1" "1" 0,
    .saveAnalysis (sampleAnalysis .legacy "analysis-2" 100) none 0]

theorem sampleReanalysis_promised {t : Transaction} (ht : t ∈ sampleReanalysis) (s : Store) :
    t.Promised s ∧ t.ActsOnCurrent s "case" := by
  simp only [sampleReanalysis, sampleLegacyTransactions, List.cons_append, List.nil_append,
    List.mem_cons, List.not_mem_nil, or_false] at ht
  rcases ht with rfl | rfl | rfl | rfl
  · exact ⟨show ¬CaseStatus.IsActing _ by decide, trivial⟩
  · exact ⟨fun _ hnone => absurd hnone (Option.not_mem_none _), trivial⟩
  · exact ⟨trivial, trivial⟩
  · exact ⟨fun _ hnone => absurd hnone (Option.not_mem_none _), trivial⟩

theorem sampleReanalysis_run :
    PromisedRun sampleEnv (fun s t => t.ActsOnCurrent s "case") Store.empty
      (history (Transaction.program sampleEnv) sampleReanalysis Store.empty) :=
  .history (fun _ ht => sampleReanalysis_promised ht) _

theorem sampleReanalysis_row :
    ∃ row, (history (Transaction.program sampleEnv) sampleReanalysis Store.empty).projections.get?
        (.projection "case") = some row ∧
      row.case.status = .actionPlanning ∧ row.currentAnalysisId = some "analysis-2" := by
  have hstate : ((history (Transaction.program sampleEnv) sampleReanalysis
      Store.empty).projections.get? (.projection "case")).any (fun row =>
        row.case.status = .actionPlanning ∧ row.currentAnalysisId = some "analysis-2") = true := by
    decide +kernel
  obtain ⟨row, hrow, hprop⟩ := (Option.any_eq_true _ _).mp hstate
  exact ⟨row, hrow, of_decide_eq_true hprop⟩

theorem reanalysis_keeps_acting :
    ∃ s row, PromisedRun sampleEnv (fun s t => t.ActsOnCurrent s "case") Store.empty s ∧
      s.projections.get? (.projection "case") = some row ∧ row.case.status = .actionPlanning ∧
        ∀ d ∈ s.decisions, row.currentDecisionId = some d.decisionId →
          row.currentAnalysisId ≠ some d.analysisId := by
  have hrun := sampleReanalysis_run
  have hdecisions : ∀ d ∈ (history (Transaction.program sampleEnv) sampleReanalysis
      Store.empty).decisions.rows, d.analysisId = "analysis" := by
    decide +kernel
  obtain ⟨row, hrow, hstatus, hanalysis⟩ := sampleReanalysis_row
  refine ⟨_, row, hrun, hrow, hstatus, fun d hd _ => ?_⟩
  rw [hanalysis, hdecisions d hd]
  decide

theorem sampleTransactions_promised {t : Transaction} (ht : t ∈ sampleTransactions) (s : Store) :
    t.Promised s := by
  simp only [sampleTransactions, List.mem_cons, List.not_mem_nil, or_false] at ht
  rcases ht with rfl | rfl | rfl | rfl | rfl
  · exact show ¬CaseStatus.IsActing _ by decide
  · exact fun _ hnone => absurd hnone (Option.not_mem_none _)
  all_goals exact trivial

/-- The approved cases of both workflows are coherent. -/
theorem status_coherent_sample :
    (∃ s case row d, PromisedRun sampleEnv (fun _ _ => True) Store.empty s ∧
      case.effectiveWorkflowVersion = .independentFinance ∧ Backed s case row d) ∧
    ∃ s case row d, PromisedRun sampleEnv (fun s t => t.ActsOnCurrent s "case") Store.empty s ∧
      case.effectiveWorkflowVersion = .legacy ∧ Backed s case row d := by
  constructor
  · have hrun : PromisedRun sampleEnv (fun _ _ => True) Store.empty
        (history (Transaction.program sampleEnv) sampleTransactions Store.empty) :=
      .history (fun t ht s => ⟨sampleTransactions_promised ht s, trivial⟩) _
    have hcase : (history (Transaction.program sampleEnv) sampleTransactions Store.empty).cases.get?
        (.case "case") = some (sampleCase .independentFinance) := by
      decide +kernel
    have hstate : ((history (Transaction.program sampleEnv) sampleTransactions
        Store.empty).projections.get? (.projection "case")).any (fun row =>
          row.case.status = .actionPlanning) = true := by
      decide +kernel
    obtain ⟨row, hrow, hstatus⟩ := (Option.any_eq_true _ _).mp hstate
    obtain ⟨d, hd⟩ := (status_coherent hcase hrow (.inl (of_decide_eq_true hstatus))).1 rfl hrun
    exact ⟨_, _, row, d, hrun, rfl, hd⟩
  · have hrun := sampleReanalysis_run
    have hcase : (history (Transaction.program sampleEnv) sampleReanalysis Store.empty).cases.get?
        (.case "case") = some (sampleCase .legacy) := by
      decide +kernel
    obtain ⟨row, hrow, hstatus, -⟩ := sampleReanalysis_row
    obtain ⟨d, hd⟩ := (status_coherent hcase hrow (.inl hstatus)).2 hrun
    exact ⟨_, _, row, d, hrun, rfl, hd⟩

end SupplyResponse
