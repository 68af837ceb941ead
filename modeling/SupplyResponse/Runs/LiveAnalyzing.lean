/-
Live analysis requests (`LiveAnalysisApplicationService.create`), in any interleaving
with each other and with all transactions that neither analyze nor claim.

* `analysisOf` — the analysis that the projection of a case points to;
* `LeavesAnalyses` — what the other transactions do to analyses and claims: nothing;
* `LiveInv` — the stored analyses are the current ones of their cases, and the
  material of an analyzed case is not claimed;
* `GrantsUnanalyzed` — no claim is granted on a case that has an analysis;
* `live_analysis_unique` — where that is so, a case has one analysis, every request
  that returns, returns it, and it stays the current one;
* `slower_create_replaces` — a claim that is granted later replaces it.
-/
import SupplyResponse.Runs.Leases
import SupplyResponse.Runs.Status
import SupplyResponse.Services.LiveAnalysis

namespace SupplyResponse

open Transact Transact.Prog
open Keyed (keys)

variable {env : Env} {dumps : SnapshotText} {s s' : Store} {c : String}

/-! ### Analyses and claims -/

/-- The current analysis of a case. -/
def analysisOf (s : Store) (c : String) : Option String :=
  (s.projections.get? (.projection c)).bind CaseProjectionRow.currentAnalysisId

theorem analysisOf_congr (h : s'.projections.get? (.projection c) = s.projections.get? (.projection c)) :
    analysisOf s' c = analysisOf s c := by
  unfold analysisOf
  rw [h]

theorem Steady.analysisOf_eq (h : Steady c s s') : analysisOf s' c = analysisOf s c := by
  have hread : ∀ s : Store, analysisOf s c =
      ((s.projections.get? (.projection c)).map CaseProjectionRow.standing).bind fun p => p.2.1 := by
    intro s
    unfold analysisOf
    rw [Option.bind_map]
    rfl
  rw [hread, hread, h.standing]

/-- A rewrite of one projection that keeps its analysis. -/
theorem analysisOf_modify {row : CaseProjectionRow} {c' : String}
    {f : CaseProjectionRow → CaseProjectionRow}
    {hf : ∀ r, Key.projection c' ∈ keys r → keys (f r) = keys r}
    (hrow : s.projections.get? (.projection c') = some row)
    (heq : (f row).currentAnalysisId = row.currentAnalysisId) :
    analysisOf { s with projections := s.projections.modify (.projection c') f hf } c =
      analysisOf s c := by
  unfold analysisOf
  rw [get?_modifyProjection]
  split
  · next hc =>
    subst hc
    rw [hrow]
    exact heq
  · rfl

theorem analysisOf_addInitial {case : CaseInstance}
    (hfree : s.projections.Free (CaseProjectionRow.initial case)) :
    analysisOf { s with projections := s.projections.add (.initial case) } c = analysisOf s c := by
  unfold analysisOf
  rw [Table.get?_add hfree]
  split
  · next hk =>
    rw [hfree _ hk]
    rfl
  · rfl

/-- Analyses and claims are as they were, and every case has the analysis it had. -/
structure LeavesAnalyses (s s' : Store) : Prop where
  grows : Grows s s'
  analyses : s'.analyses = s.analyses
  claims : s'.claims = s.claims
  current : ∀ c, analysisOf s' c = analysisOf s c

namespace LeavesAnalyses

theorem refl (s : Store) : LeavesAnalyses s s := ⟨.refl s, rfl, rfl, fun _ => rfl⟩

theorem trans {s₁ s₂ s₃ : Store} (h : LeavesAnalyses s₁ s₂) (h' : LeavesAnalyses s₂ s₃) :
    LeavesAnalyses s₁ s₃ :=
  ⟨h.grows.trans h'.grows, h'.analyses.trans h.analyses, h'.claims.trans h.claims,
    fun c => (h'.current c).trans (h.current c)⟩

end LeavesAnalyses

/-- The statements that may touch an analysis, a claim, or the pointer to an analysis. -/
def analysisKinds : List WriteKind :=
  [.newAnalysis, .newClaim, .dropClaim, .advanceLegacy, .compareAndSet]

theorem Writing.leavesAnalyses {kind : WriteKind} {v : Store} {l : List Key} {u : Store → Store}
    (h : Writing kind v l u) (hk : kind ∉ analysisKinds) : LeavesAnalyses v (u v) := by
  have hne : ∀ kind' ∈ analysisKinds, kind ≠ kind' := fun kind' hmem he => hk (he ▸ hmem)
  refine ⟨h.grows v, h.analyses_eq (hne _ (by decide)) v,
    h.claims_eq (hne _ (by decide)) (hne _ (by decide)) v, fun c => ?_⟩
  by_cases hs : kind ∈ standingKinds
  · cases h
    case newProjection case hfree => exact analysisOf_addInitial hfree
    case saveProjection row case hrow => exact analysisOf_modify hrow rfl
    case setStatus row c' changed hrow => exact analysisOf_modify hrow rfl
    case setDecision row c' id changed hrow => exact analysisOf_modify hrow rfl
    case advanceLegacy => exact absurd (by decide) hk
    case compareAndSet => exact absurd (by decide) hk
    all_goals exact absurd hs (by decide)
  · exact (h.steady hs).analysisOf_eq

theorem StoresDecision.analysisOf_eq {d : Decision} (h : StoresDecision s d s') (c : String) :
    analysisOf s' c = analysisOf s c := by
  by_cases hc : c = d.caseId
  · subst hc
    obtain ⟨row, hrow, hrow'⟩ := h.projection
    unfold analysisOf
    rw [hrow, hrow']
    rfl
  · exact analysisOf_congr (h.projection_ne hc)

theorem analysisOf_cas {expected : ProposalToken} {values : CasValues} {c' : String}
    (hanalysis : values.currentAnalysis = none) (hcase : values.case = none) :
    analysisOf (s.cas c' expected values) c = analysisOf s c :=
  (Steady.cas hanalysis hcase : Steady c s (s.cas c' expected values)).analysisOf_eq

theorem Finalizes.analysisOf_eq {command : FinalizeProposalCommand} {d : Decision}
    (h : Finalizes env s command d s') (c : String) : analysisOf s' c = analysisOf s c := by
  rcases hk : d.kind
  · rw [(h.approved hk).analysisOf_eq, analysisOf_cas rfl rfl]
  · obtain ⟨st, s₁, -, hsup, hstores⟩ := h.rejected hk
    rw [hstores.analysisOf_eq, analysisOf_congr (congrArg (fun t => t.get? (.projection c)) hsup.projections),
      analysisOf_cas rfl rfl]

/-- Neither an analysis nor a claim is among what the transaction writes. -/
def Transaction.AnalyzesNothing (t : Transaction) : Prop :=
  ∀ kind ∈ t.kinds, kind ∉ [WriteKind.newAnalysis, .newClaim, .dropClaim]

theorem leavesAnalyses_of_commits {t : Transaction} {u : Unit} (ht : t.AnalyzesNothing)
    (hc : (t.program env).Commits s u s') : LeavesAnalyses s s' := by
  by_cases hk : ∀ kind ∈ t.kinds, kind ∉ analysisKinds
  · exact relates_of_commits LeavesAnalyses.refl LeavesAnalyses.trans
      (fun hkind hw => hw.leavesAnalyses (hk _ hkind)) hc
  · have hanalyses : s'.analyses = s.analyses :=
      relates_of_commits (R := fun s s' => s'.analyses = s.analyses) (fun _ => rfl)
        (fun h h' => h'.trans h) (fun hkind hw => hw.analyses_eq
          (fun he => ht _ hkind (by rw [he]; decide)) _) hc
    have hclaims : s'.claims = s.claims :=
      relates_of_commits (R := fun s s' => s'.claims = s.claims) (fun _ => rfl)
        (fun h h' => h'.trans h) (fun hkind hw => hw.claims_eq
          (fun he => ht _ hkind (by rw [he]; decide)) (fun he => ht _ hkind (by rw [he]; decide)) _) hc
    refine ⟨grows_of_commits hc, hanalyses, hclaims, fun c => ?_⟩
    cases t
    case submit command actor selectionUuid reviewUuid clock =>
      have hg := grows_of_commits hc
      obtain ⟨_, hcommits⟩ := commits_effect.mp hc
      obtain ⟨receipt, hs⟩ := returns_submitTransaction env hcommits
      exact (hs.steady hg).analysisOf_eq
    case finalize command actor decisionUuid eventUuid clock =>
      obtain ⟨_, hcommits⟩ := commits_effect.mp hc
      exact (returns_finalizeTransaction env hcommits).analysisOf_eq c
    case saveAnalysis | completeAnalysisClaim | insertClaim | takeOverClaim
        | releaseAnalysisClaim =>
      exact absurd (by decide) (ht _ (List.mem_cons_self ..))
    all_goals exact absurd (by dsimp only [Transaction.kinds]; decide) hk

/-! ### The invariant -/

/-- The material version of a case, which its immutable snapshot decides. -/
def MaterialOf (dumps : SnapshotText) (s : Store) (c version : String) : Prop :=
  ∃ snapshot canonical, s.snapshots.get? (.snapshot c) = some snapshot ∧
    canonicalOperationalSnapshot snapshot = .ok canonical ∧ version = dumps canonical

theorem MaterialOf.unique {version version' : String} (h : MaterialOf dumps s c version)
    (h' : MaterialOf dumps s c version') : version = version' := by
  obtain ⟨snapshot, canonical, hsnapshot, hcanonical, rfl⟩ := h
  obtain ⟨_, _, hsnapshot', hcanonical', rfl⟩ := h'
  obtain rfl := Option.some.inj (hsnapshot.symm.trans hsnapshot')
  rw [Except.ok.inj (hcanonical.symm.trans hcanonical')]

theorem MaterialOf.grows {version : String} (h : MaterialOf dumps s c version)
    (hg : Grows s s') : MaterialOf dumps s' c version := by
  obtain ⟨snapshot, canonical, hsnapshot, hrest⟩ := h
  exact ⟨snapshot, canonical, hg.snapshots hsnapshot, hrest⟩

/-- A case has the analyses that its projection points to, and what is claimed is the
material of a case without an analysis. -/
structure LiveInv (env : Env) (dumps : SnapshotText) (s : Store) : Prop where
  current : ∀ c id, analysisOf s c = some id ↔ ∃ a ∈ s.analyses, a.caseId = c ∧ a.analysisId = id
  claims : ∀ claim ∈ s.claims, analysisOf s claim.caseId = none ∧
    ∃ version, MaterialOf dumps s claim.caseId version ∧
      claim.materialVersion = env.claimVersion version

/-- Every claim of the second database was there, or is on a case without an analysis. -/
def GrantsUnanalyzed (s s' : Store) : Prop :=
  ∀ claim ∈ s'.claims, claim ∈ s.claims ∨ analysisOf s claim.caseId = none

namespace LiveInv

theorem empty : LiveInv env dumps Store.empty where
  current _ _ := ⟨fun h => (by cases h), fun ⟨_, ha, _⟩ => absurd ha (Table.notMem_empty _)⟩
  claims claim hclaim := absurd hclaim (Table.notMem_empty claim)

/-- Two analyses of one case are the same. -/
theorem unique (h : LiveInv env dumps s) {a a' : AnalysisVersion} (ha : a ∈ s.analyses)
    (ha' : a' ∈ s.analyses) (hcase : a.caseId = a'.caseId) : a = a' := by
  have hid := (h.current _ _).mpr ⟨a, ha, hcase, rfl⟩
  have hid' := (h.current _ _).mpr ⟨a', ha', rfl, rfl⟩
  have hsame : a.analysisId = a'.analysisId := Option.some.inj (hid.symm.trans hid')
  exact Table.eq_of_key ha ha' (k := .analysis a.analysisId) (by simp) (by simp [hsame])

theorem leaves (h : LiveInv env dumps s) (hl : LeavesAnalyses s s') : LiveInv env dumps s' where
  current c id := by rw [hl.current, hl.analyses, h.current]
  claims claim hclaim := by
    rw [hl.claims] at hclaim
    obtain ⟨hnone, version, hversion, heq⟩ := h.claims claim hclaim
    exact ⟨(hl.current _).trans hnone, version, hversion.grows hl.grows, heq⟩

/-- Claims were dropped, or granted on the material of cases without an analysis. -/
theorem withClaims (h : LiveInv env dumps s) {t : Table Key AnalysisClaimRow}
    (ht : ∀ claim ∈ t, claim ∈ s.claims ∨ analysisOf s claim.caseId = none ∧
      ∃ version, MaterialOf dumps s claim.caseId version ∧
        claim.materialVersion = env.claimVersion version) :
    LiveInv env dumps { s with claims := t } where
  current := h.current
  claims claim hclaim := (ht claim hclaim).elim (h.claims claim) id

end LiveInv

theorem SavesAnalysis.analyses_eq {analysis : AnalysisVersion} {projected : Option CaseInstance}
    {stored : CaseInstance} {row : CaseProjectionRow}
    (h : SavesAnalysis env s analysis projected stored row s') :
    s'.analyses = s.analyses.add analysis.serialized := by
  by_cases hw : stored.effectiveWorkflowVersion = .independentFinance
  · obtain ⟨st, -, hsup⟩ := h.independent hw
    rcases hsup with ⟨-, rfl⟩ | ⟨review, -, ⟨rfl, -⟩ | ⟨row, -, -, -, rfl⟩⟩ <;> rfl
  · rw [h.legacy hw]
    rfl

/-- The case of a saved analysis has it; the other cases have what they had. -/
theorem SavesAnalysis.analysisOf_eq {analysis : AnalysisVersion} {projected : Option CaseInstance}
    {stored : CaseInstance} {row : CaseProjectionRow}
    (h : SavesAnalysis env s analysis projected stored row s') (c : String) :
    analysisOf s' c = if c = analysis.caseId then some analysis.analysisId else analysisOf s c := by
  split
  · next hc =>
    subst hc
    obtain ⟨row', hrow', -, hid, -⟩ := h.projection_self env
    unfold analysisOf
    rw [hrow']
    exact hid
  · next hc => exact analysisOf_congr (h.projection_ne env hc)

/-- A completion keeps the invariant: its claim was on a case without an analysis, and
there was no other claim on that case. -/
theorem LiveInv.complete (h : LiveInv env dumps s) (hg : Grows s s') {analysis a : AnalysisVersion}
    {projected : CaseInstance} {version claimId : String} {completedAt now : Instant}
    (hc : (completeAnalysisClaim env analysis projected version claimId completedAt now).Commits s
      a s') : LiveInv env dumps s' := by
  obtain ⟨-, -, -, hclaims⟩ := claims_of_completeAnalysisClaim hc
  obtain ⟨⟨claim, hclaim, -⟩, stored, row, s₁, hsaves, t, rfl⟩ := returns_completeAnalysisClaim env hc
  have hkeys := (Table.get?_eq_some_iff.mp hclaim).2
  obtain ⟨hcase, hmaterial⟩ : analysis.caseId = claim.caseId ∧
      env.claimVersion version = claim.materialVersion := by simpa using hkeys
  obtain ⟨hnone, version₀, hversion₀, heq₀⟩ := h.claims claim (Table.mem_of_get? hclaim)
  rw [← hcase] at hnone hversion₀
  have hfree := hsaves.free
  have hanalyses : s₁.analyses = s.analyses.add analysis.serialized := hsaves.analyses_eq
  have hcurrent : ∀ c, analysisOf { s₁ with claims := t } c =
      if c = analysis.caseId then some analysis.analysisId else analysisOf s c :=
    hsaves.analysisOf_eq
  constructor
  · intro c id
    rw [hcurrent]
    show _ ↔ ∃ x ∈ s₁.analyses, _
    rw [hanalyses]
    split
    · next hc =>
      subst hc
      constructor
      · intro hid
        exact ⟨analysis.serialized, Table.mem_add_self hfree, rfl, Option.some.inj hid⟩
      · rintro ⟨x, hx, hxcase, rfl⟩
        rcases (Table.mem_add hfree).mp hx with hold | rfl
        · have hsome := (h.current _ _).mpr ⟨x, hold, hxcase, rfl⟩
          rw [hnone] at hsome
          cases hsome
        · rfl
    · next hc =>
      rw [h.current]
      constructor
      · rintro ⟨x, hx, hrest⟩
        exact ⟨x, Table.mem_add_of_mem hx, hrest⟩
      · rintro ⟨x, hx, hxcase, hid⟩
        rcases (Table.mem_add hfree).mp hx with hold | rfl
        · exact ⟨x, hold, hxcase, hid⟩
        · exact absurd hxcase.symm hc
  · intro other hother
    obtain ⟨hold, hkey⟩ := Table.mem_delete.mp (hclaims ▸ hother)
    obtain ⟨hothernone, version', hversion', heq'⟩ := h.claims other hold
    refine ⟨?_, version', hversion'.grows hg, heq'⟩
    rw [hcurrent]
    split
    · next hc =>
      -- the snapshot of the case decides its material, so this would be the deleted claim
      exfalso
      rw [hc] at hversion'
      have hsame : other.materialVersion = env.claimVersion version := by
        rw [heq', hversion'.unique hversion₀, ← heq₀, hmaterial]
      exact hkey (by simp [hc, hsame])
    · exact hothernone

/-! ### Requests -/

/-- What a transaction of a request does: it keeps the invariant, if it grants no claim on
a case that has an analysis. -/
def LiveStep (env : Env) (dumps : SnapshotText) (s s' : Store) : Prop :=
  Grows s s' ∧ (LiveInv env dumps s → GrantsUnanalyzed s s' → LiveInv env dumps s')

theorem LiveStep.refl (s : Store) : LiveStep env dumps s s := ⟨.refl s, fun h _ => h⟩

/-- The returned analysis is stored, for the case of the request. -/
def Delivered (s : Store) (c : String) (a : AnalysisVersion) : Prop :=
  a.caseId = c ∧ ∃ stored, s.analyses.get? (.analysis a.analysisId) = some stored ∧
    (stored = a ∨ stored = a.serialized)

theorem Delivered.grows {a : AnalysisVersion} (h : Delivered s c a) (hg : Grows s s') :
    Delivered s' c a := by
  obtain ⟨hcase, stored, hstored, hsame⟩ := h
  exact ⟨hcase, stored, hg.analyses hstored, hsame⟩

/-- The procedure keeps to the transactions of a request, and returns a stored analysis
of the case, whatever the others do to the immutable records in between. -/
abbrev Serves (env : Env) (dumps : SnapshotText) (c : String)
    (p : Process Store LiveFailure AnalysisVersion) (s : Store) : Prop :=
  p.Obeys (LiveInv env dumps) Grows (LiveStep env dumps) (fun a s => Delivered s c a) s

section Calls

variable {α : Type} {handler : Raised → Process Store LiveFailure AnalysisVersion}
  {next : α → Process Store LiveFailure AnalysisVersion}

theorem serves_storeCall {p : Sql (Exit α)}
    (hc : ∀ s₁ a s₂, Grows s s₁ → LiveInv env dumps s₁ → p.Commits s₁ a s₂ →
      LiveStep env dumps s₁ s₂ ∧ Serves env dumps c (next a) s₂)
    (hr : ∀ s₁ a s₂, Grows s s₁ → LiveInv env dumps s₁ → p.Returns s₁ (.rollback a) s₂ →
      Serves env dumps c (next a) s₁)
    (he : ∀ s₁ e, Grows s s₁ → LiveInv env dumps s₁ → Serves env dumps c (handler e) s₁) :
    Serves env dumps c (storeCall p handler next) s := by
  refine (Process.obeys_attempt (Q := fun x s₁ => Except.casesOn (motive := fun _ => Prop) x
    (fun e => Serves env dumps c (handler e) s₁) (fun a => Serves env dumps c (next a) s₁))
    LiveStep.refl hc hr he).bind fun x s₁ h => ?_
  cases x
  · exact h
  · exact h

theorem serves_readCall {p : Sql α} (hp : p.ReadOnly)
    (hr : ∀ s₁ a, Grows s s₁ → LiveInv env dumps s₁ → p.Returns s₁ a s₁ →
      Serves env dumps c (next a) s₁)
    (he : ∀ s₁ e, Grows s s₁ → LiveInv env dumps s₁ → Serves env dumps c (handler e) s₁) :
    Serves env dumps c (readCall p handler next) s := by
  refine serves_storeCall (fun s₁ a s₂ _ _ h => ?_) (fun s₁ a s₂ hg hinv h => ?_) he
  · obtain ⟨x, -, hx⟩ := returns_map.mp h
    cases hx
  · obtain ⟨x, hread, hx⟩ := returns_map.mp h
    cases hx
    obtain rfl := hp.eq hread
    exact hr _ _ hg hinv hread

/-- The analysis that the case has is read and returned. -/
theorem serves_getAnalysis {id : String} (h : ∃ a ∈ s.analyses, a.caseId = c ∧ a.analysisId = id)
    {handler : Raised → Process Store LiveFailure AnalysisVersion}
    (he : ∀ s e, Serves env dumps c (handler e) s) :
    Serves env dumps c (readCall (getAnalysis env id) handler .done) s := by
  refine serves_readCall (readOnly_getAnalysis env id) (fun s₁ a hg _ hread => ?_)
    fun s₁ e _ _ => he s₁ e
  obtain ⟨x, hx, hcase, rfl⟩ := h
  have hx' := hg.analyses (Table.get?_of_mem hx (k := .analysis x.analysisId) (by simp))
  obtain ⟨-, hget, -⟩ := returns_getAnalysis env hread
  obtain rfl := Option.some.inj (hx'.symm.trans hget)
  exact ⟨hcase, x, hget, .inl rfl⟩

end Calls

theorem serves_waitForWinner (polls : ℕ) :
    Serves env dumps c (waitForWinner env c polls) s := by
  induction polls generalizing s with
  | zero => trivial
  | succ polls ih =>
    refine serves_readCall (readOnly_getProjection env c) (fun s₁ projection _ hinv hread => ?_)
      fun _ _ _ _ => trivial
    obtain ⟨-, row, stored, hrow, -, -, -, -, hid, -⟩ := returns_getProjection env hread
    cases hsome : projection.currentAnalysisId with
    | none => exact ih
    | some id =>
      simp only
      refine serves_getAnalysis ((hinv.current c id).mp ?_) fun _ _ => trivial
      unfold analysisOf
      rw [hrow, Option.bind_some, ← hid, hsome]

theorem serves_failUnclaimed (r : LiveRequest) (e : Raised) :
    Serves env dumps r.caseId (failUnclaimed env r e) s :=
  .ite (fun _ => trivial) fun _ => .ite (fun _ => serves_waitForWinner _) fun _ => trivial

theorem liveStep_withClaims {t : Table Key AnalysisClaimRow}
    (ht : LiveInv env dumps s → GrantsUnanalyzed s { s with claims := t } → ∀ claim ∈ t,
      claim ∈ s.claims ∨ analysisOf s claim.caseId = none ∧
        ∃ version, MaterialOf dumps s claim.caseId version ∧
          claim.materialVersion = env.claimVersion version) :
    LiveStep env dumps s { s with claims := t } :=
  ⟨⟨id, id, id, id, id, id⟩, fun h hg => h.withClaims (ht h hg)⟩

theorem serves_failClaimed (r : LiveRequest) (version : String) (e : Raised) :
    Serves env dumps r.caseId (failClaimed env r version e) s := by
  refine .ite (fun _ => trivial) fun _ => .ite (fun _ => serves_waitForWinner _) fun _ =>
    serves_storeCall (fun s₁ u s₂ _ _ hc => ⟨?_, trivial⟩) (fun _ _ _ _ _ _ => trivial)
      fun _ _ _ _ => trivial
  obtain ⟨_, s₃, hdelete, h⟩ := returns_bind.mp hc
  obtain ⟨-, rfl⟩ := returns_done.mp h
  rcases returns_deleteClaim hdelete with ⟨-, rfl⟩ | ⟨-, _, -, -, rfl⟩
  · exact .refl _
  · exact liveStep_withClaims fun _ _ claim hclaim => .inl (Table.mem_delete.mp hclaim).1

theorem serves_analyzeLive (r : LiveRequest) {case : CaseInstance} (hcase : case.caseId = r.caseId)
    (version : String) : Serves env dumps r.caseId (analyzeLive env r case version) s := by
  unfold analyzeLive
  split
  · exact serves_failClaimed r version _
  · next analysis hanalysis =>
    have hid : analysis.caseId = r.caseId := (r.analyze_caseId hanalysis).trans hcase
    refine serves_storeCall (fun s₁ a s₂ _ _ hc => ?_) (fun s₁ a s₂ _ _ h => ?_)
      fun s₁ e _ _ => serves_failClaimed r version e
    · have hg : Grows s₁ s₂ := grows_of_commits (t := .completeAnalysisClaim analysis
        (case.withStatus .awaitingDecision) version r.claimId r.completedAt r.supersededAt)
        (u := ()) (commits_effect.mpr ⟨a, hc⟩)
      refine ⟨⟨hg, fun h _ => h.complete hg hc⟩, ?_⟩
      obtain ⟨_, _, -, hpure⟩ := returns_bind.mp hc
      obtain ⟨hcommit, -⟩ := returns_done.mp hpure
      cases hcommit
      obtain ⟨-, stored, row, s₃, hsaves, t, rfl⟩ := returns_completeAnalysisClaim env hc
      refine ⟨hid, analysis.serialized, ?_, .inr rfl⟩
      show s₃.analyses.get? _ = _
      rw [hsaves.analyses_eq]
      exact Table.get?_of_mem (Table.mem_add_self hsaves.free) (List.mem_cons_self ..)
    · obtain ⟨_, _, -, hpure⟩ := returns_bind.mp h
      cases (returns_done.mp hpure).1

theorem serves_takeOverLive (r : LiveRequest) {case : CaseInstance}
    (hcase : case.caseId = r.caseId) {version : String}
    (hversion : MaterialOf dumps s r.caseId version) :
    Serves env dumps r.caseId (takeOverLive env r case version) s := by
  refine serves_storeCall (fun s₁ granted s₂ hg hinv hc => ?_)
    (fun s₁ granted s₂ _ _ h => absurd h (not_rollback_takeOverClaim env))
    fun s₁ e _ _ => serves_failClaimed r version e
  obtain ⟨rfl, rfl⟩ | ⟨rfl, row, hrow, -, hfree, rfl⟩ := commits_takeOverClaim env hc
  · exact ⟨.refl _, serves_waitForWinner _⟩
  · refine ⟨liveStep_withClaims fun _ _ claim hclaim => ?_, serves_analyzeLive r hcase version⟩
    rcases (Table.mem_add hfree).mp hclaim with hold | rfl
    · exact .inl (Table.mem_delete.mp hold).1
    · -- the expired claim was on a case without an analysis
      obtain ⟨hnone, -⟩ := hinv.claims row (Table.mem_of_get? hrow)
      have hkeys := (Table.get?_eq_some_iff.mp hrow).2
      obtain ⟨hrowcase, -⟩ : r.caseId = row.caseId ∧
          env.claimVersion version = row.materialVersion := by simpa using hkeys
      exact .inr ⟨hrowcase ▸ hnone, version, hversion.grows hg, rfl⟩

theorem serves_claimLive (r : LiveRequest) {case : CaseInstance}
    (hcase : case.caseId = r.caseId) {version : String}
    (hversion : MaterialOf dumps s r.caseId version) :
    Serves env dumps r.caseId (claimLive env r case version) s := by
  refine serves_storeCall (fun s₁ granted s₂ hg hinv hc => ?_) (fun s₁ granted s₂ _ _ h => ?_)
    fun s₁ e hg _ => .ite (fun _ => serves_takeOverLive r hcase (hversion.grows hg))
      fun _ => serves_failClaimed r version e
  · obtain ⟨hfree, rfl⟩ := commits_insertClaim env hc
    refine ⟨liveStep_withClaims fun _ hgrants claim hclaim => ?_,
      serves_analyzeLive r hcase version⟩
    rcases hgrants claim hclaim with hold | hnone
    · exact .inl hold
    · rcases (Table.mem_add hfree).mp hclaim with hold | rfl
      · exact .inl hold
      · exact .inr ⟨hnone, version, hversion.grows hg, rfl⟩
  · obtain ⟨_, _, -, h⟩ := returns_bind.mp h
    obtain ⟨_, _, -, h⟩ := returns_bind.mp h
    cases (returns_done.mp h).1

theorem readOnly_getOperationalSnapshot (caseId : String) :
    (getOperationalSnapshot env caseId).ReadOnly :=
  (readOnly_storedCase _).bind fun _ => (readOnly_require _ _).bind fun _ =>
    (readOnly_getRow _ _ _).bind fun _ => (readOnly_require _ _).bind fun _ => readOnly_done _

theorem returns_getOperationalSnapshot {caseId : String} {snapshot : OperationalSnapshot}
    (h : (getOperationalSnapshot env caseId).Returns s snapshot s') :
    s.snapshots.get? (.snapshot caseId) = some snapshot := by
  obtain ⟨case, -, h⟩ := (readOnly_storedCase caseId).returns_bind.mp h
  obtain ⟨-, h⟩ := returns_require_bind.mp h
  rw [storedSnapshot, returns_getRow_bind] at h
  obtain ⟨row, hrow, h⟩ := h
  obtain ⟨-, h⟩ := returns_require_bind.mp h
  obtain ⟨rfl, -⟩ := returns_done.mp h
  exact hrow

theorem serves_lookUpLive (r : LiveRequest) {case : CaseInstance}
    (hcase : case.caseId = r.caseId) {projection : CaseProjection} {row : CaseProjectionRow}
    (hinv : LiveInv env dumps s) (hrow : s.projections.get? (.projection r.caseId) = some row)
    (hid : projection.currentAnalysisId = row.currentAnalysisId) :
    Serves env dumps r.caseId (lookUpLive env dumps r case projection) s := by
  unfold lookUpLive
  split
  · next id hsome =>
    refine serves_getAnalysis ((hinv.current r.caseId id).mp ?_) fun _ _ => serves_failUnclaimed r _
    unfold analysisOf
    rw [hrow, Option.bind_some, ← hid, hsome]
  · refine serves_readCall (readOnly_getOperationalSnapshot r.caseId)
      (fun s₁ snapshot _ _ hread => ?_) fun _ _ _ _ => serves_failUnclaimed r _
    have hsnapshot := returns_getOperationalSnapshot hread
    unfold versionLive
    split
    · exact serves_failUnclaimed r _
    · next canonical hcanonical =>
      exact serves_claimLive r hcase ⟨snapshot, canonical, hsnapshot, hcanonical, rfl⟩

theorem serves_createLive (r : LiveRequest) : Serves env dumps r.caseId (createLive env dumps r) s := by
  refine serves_readCall ((readOnly_getProjection env r.caseId).map _) (fun s₁ case _ _ hread => ?_)
    fun _ _ _ _ => serves_failUnclaimed r _
  obtain ⟨projection, hprojection, rfl⟩ := returns_map.mp hread
  obtain ⟨-, row, -, -, -, hid, -, hsame, -⟩ := returns_getProjection env hprojection
  have hcase : projection.case.caseId = r.caseId := by rw [hsame, hid]
  refine .ite (fun _ => serves_failUnclaimed r _) fun _ => .ite (fun _ => serves_failUnclaimed r _)
    fun _ => serves_readCall (readOnly_getProjection env r.caseId) (fun s₂ projection' _ hinv hread =>
      ?_) fun _ _ _ _ => serves_failUnclaimed r _
  obtain ⟨-, row', -, hrow', -, -, -, -, hanalysis, -⟩ := returns_getProjection env hread
  exact serves_lookUpLive r hcase hinv hrow' hanalysis

/-! ### Pools of requests -/

/-- The calls: live requests, which answer with their case, and single transactions that
neither analyze nor claim. -/
inductive LiveCall (env : Env) (dumps : SnapshotText) :
    Process Store LiveFailure (Option (String × AnalysisVersion)) → Prop
  | create (r : LiveRequest) :
    LiveCall env dumps (createLive env dumps r >>= fun a => .done (some (r.caseId, a)))
  | other (t : Transaction) (ht : t.AnalyzesNothing) :
    LiveCall env dumps (Process.attempt (t.program env) >>= fun _ => .done none)

theorem serves_call {p : Process Store LiveFailure (Option (String × AnalysisVersion))}
    (hp : LiveCall env dumps p) :
    p.Obeys (LiveInv env dumps) Grows (LiveStep env dumps)
      (fun answer s => ∀ c a, answer = some (c, a) → Delivered s c a) s := by
  cases hp with
  | create r =>
    refine (serves_createLive r).bind fun a s₁ h c a' heq => ?_
    obtain ⟨rfl, rfl⟩ := Prod.mk.inj (Option.some.inj heq)
    exact h
  | other t ht =>
    refine (Process.obeys_attempt (Q := fun _ _ => True) LiveStep.refl (fun s₁ u s₂ _ _ hc => ?_)
      (fun _ _ _ _ _ _ => trivial) fun _ _ _ _ => trivial).bind fun _ _ _ _ _ h => by cases h
    have hl := leavesAnalyses_of_commits ht hc
    exact ⟨⟨hl.grows, fun h _ => h.leaves hl⟩, trivial⟩

/-- In every interleaving in which no claim is granted on a case that has an analysis:
every case has at most one analysis, which is the current one of its projection whether a
request has returned it or not, and every request that returns, returns it. -/
theorem live_analysis_unique {pool : Pool Store LiveFailure (Option (String × AnalysisVersion))}
    (h : Pool.ReachesWhen (LiveCall env dumps) (fun s p => GrantsUnanalyzed s (p.step s).2)
      ⟨Store.empty, []⟩ pool) (c : String) :
    (∀ a ∈ pool.world.analyses, ∀ a' ∈ pool.world.analyses, a.caseId = c → a'.caseId = c →
      a = a') ∧
    (∀ a ∈ pool.world.analyses, a.caseId = c → analysisOf pool.world c = some a.analysisId) ∧
    ∀ a, Process.done (some (c, a)) ∈ pool.calls → ∃ stored ∈ pool.world.analyses,
      stored.caseId = c ∧ analysisOf pool.world c = some stored.analysisId ∧
        (stored = a ∨ stored = a.serialized) := by
  obtain ⟨hinv, hcalls⟩ := h.sound (I := LiveInv env dumps) (R := Grows) (G := LiveStep env dumps)
    (E := GrantsUnanalyzed) (Q := fun answer s => ∀ c a, answer = some (c, a) → Delivered s c a)
    Grows.refl Grows.trans LiveStep.refl (fun _ hstep => hstep.1)
    (fun hinv hstep hgrants => hstep.2 hinv hgrants)
    (fun _ _ _ hg hd c a heq => (hd c a heq).grows hg) (fun p hp s _ => serves_call hp)
    LiveInv.empty fun p hp => absurd hp List.not_mem_nil
  refine ⟨fun a ha a' ha' hcase hcase' => hinv.unique ha ha' (hcase.trans hcase'.symm),
    fun a ha hcase => (hinv.current _ _).mpr ⟨a, ha, hcase, rfl⟩, fun a ha => ?_⟩
  obtain ⟨hcase, stored, hstored, hsame⟩ := hcalls _ ha c a rfl
  have hmem := Table.mem_of_get? hstored
  have hstoredcase : stored.caseId = c := by
    rcases hsame with rfl | rfl
    · exact hcase
    · exact hcase
  exact ⟨stored, hmem, hstoredcase, (hinv.current _ _).mpr ⟨stored, hmem, hstoredcase, rfl⟩, hsame⟩

/-! ### Two requests for one case -/

def sampleLiveEnv : Env := { sampleEnv with runtimeMode := .live }

def sampleLiveCase : CaseInstance := { sampleCase .legacy with runtimeMode := .live }

def sampleLiveSnapshot : OperationalSnapshot := { sampleSnapshot with runtimeMode := .live }

def sampleLiveAnalysis (analysisId : String) : AnalysisVersion :=
  let analysis := sampleAnalysis .legacy analysisId 100
  { analysis with
    material :=
      { analysis.material with
        runtimeMode := .live
        operationalSnapshotJson := sampleLiveSnapshot } }

/-- A request, which finds its sources as the analysis says. -/
def sampleLiveRequest (claimId analysisId : String) : LiveRequest where
  caseId := "case"
  tenantId := "tenant"
  objectId := "object"
  claimId := claimId
  startedAt := 0
  completedAt := 1
  supersededAt := 1
  polls := 2
  analyze := fun case => .ok { sampleLiveAnalysis analysisId with caseId := case.caseId }
  analyze_caseId := fun h => Except.ok.inj h ▸ rfl

/-- Two requests for the sample case, and the transaction that creates it. -/
def sampleLiveCalls : List (Process Store LiveFailure (Option (String × AnalysisVersion))) :=
  [createLive sampleLiveEnv (fun _ => "text") (sampleLiveRequest "claim-1" "analysis-1") >>=
      fun a => .done (some ("case", a)),
    createLive sampleLiveEnv (fun _ => "text") (sampleLiveRequest "claim-2" "analysis-2") >>=
      fun a => .done (some ("case", a)),
    Process.attempt ((Transaction.createCase sampleLiveCase sampleLiveSnapshot).program
      sampleLiveEnv) >>= fun _ => .done none]

theorem sampleLiveCalls_calls : ∀ p ∈ sampleLiveCalls, LiveCall sampleLiveEnv (fun _ => "text") p := by
  intro p hp
  rcases List.mem_cons.mp hp with rfl | hp
  · exact .create (sampleLiveRequest "claim-1" "analysis-1")
  · rcases List.mem_cons.mp hp with rfl | hp
    · exact .create (sampleLiveRequest "claim-2" "analysis-2")
    · obtain rfl := List.mem_singleton.mp hp
      refine .other (.createCase sampleLiveCase sampleLiveSnapshot) ?_
      show ∀ kind ∈ [WriteKind.newCase, .newSnapshot, .newProjection], _
      decide

instance : DecidableRel GrantsUnanalyzed := fun _ s' =>
  inferInstanceAs (Decidable (∀ claim ∈ s'.claims.rows, _ ∨ _))

/-- The ids of the analyses of a case that are stored, are current, and were returned. -/
def analysisIds (pool : Pool Store LiveFailure (Option (String × AnalysisVersion))) (c : String) :
    List String × Option String × List (Option String) :=
  ((pool.world.analyses.rows.filter fun a => a.caseId = c).map AnalysisVersion.analysisId,
    analysisOf pool.world c,
    pool.calls.map fun
      | .done (some (_, a)) => some a.analysisId
      | _ => none)

/-- The second request finds the claim of the first one and waits for its analysis. -/
def sampleLivePool : Pool Store LiveFailure (Option (String × AnalysisVersion)) :=
  [2, 0, 0, 0, 0, 1, 1, 1, 1, 1, 1, 0, 1, 1].foldl Pool.actAt ⟨Store.empty, sampleLiveCalls⟩

theorem live_analysis_unique_sample :
    analysisIds sampleLivePool "case" =
        (["analysis-1"], some "analysis-1", [some "analysis-1", some "analysis-1", none]) ∧
      (∀ a ∈ sampleLivePool.world.analyses, ∀ a' ∈ sampleLivePool.world.analyses,
        a.caseId = "case" → a'.caseId = "case" → a = a') ∧
      ∀ a ∈ sampleLivePool.world.analyses, a.caseId = "case" →
        analysisOf sampleLivePool.world "case" = some a.analysisId := by
  have hwithin : Pool.Within GrantsUnanalyzed [2, 0, 0, 0, 0, 1, 1, 1, 1, 1, 1, 0, 1, 1]
      ⟨Store.empty, sampleLiveCalls⟩ := by
    decide +kernel
  have hreach : Pool.ReachesWhen (LiveCall sampleLiveEnv fun _ => "text")
      (fun s p => GrantsUnanalyzed s (p.step s).2) ⟨Store.empty, []⟩ sampleLivePool :=
    (Pool.reachesWhen_started sampleLiveCalls_calls _).trans (Pool.reachesWhen_schedule hwithin)
  obtain ⟨hunique, hcurrent, -⟩ := live_analysis_unique hreach "case"
  exact ⟨by decide +kernel, hunique, hcurrent⟩

/-- The second request looks for an analysis before the first one completes, and claims
the case after that: a second analysis replaces the one that was returned. -/
theorem slower_create_replaces :
    ∃ pool, Pool.Reaches (LiveCall sampleLiveEnv fun _ => "text") ⟨Store.empty, []⟩ pool ∧
      analysisIds pool "case" = (["analysis-1", "analysis-2"], some "analysis-2",
        [some "analysis-1", some "analysis-2", none]) :=
  ⟨_, (Pool.reaches_started sampleLiveCalls_calls _).trans
    (Pool.reaches_schedule [2, 0, 0, 0, 1, 1, 1, 0, 0, 1, 1] _), by decide +kernel⟩

end SupplyResponse
