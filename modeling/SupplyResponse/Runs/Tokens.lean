/-
The token of an independent case, over every history of committed transactions.

* `RisesToken` — the generation of the case never falls, and where it stands still, the
  case shows the same token;
* `Transaction.Spends` — the commands that name an expected token: a submission, a
  resolution, a finalization;
* `token_never_returns` — the generation never falls, and a token that is shown at two
  times was shown at all times between them;
* `token_spent_once` — a command commits where its token is shown, and takes it away for
  good, so no other command that expects the same token commits.
-/
import SupplyResponse.Runs.Currency

namespace SupplyResponse

open Transact Transact.Prog
open Keyed (keys)

variable {env : Env} {s s' : Store} {c : String}

/-! ### The generation of a case -/

/-- The generation of a case, counted from one: zero, before it has a projection. -/
def generationOf (s : Store) (c : String) : Nat :=
  ((s.projections.get? (.projection c)).map fun row => row.proposalGeneration + 1).getD 0

/-- The columns that a token is read off. -/
def CaseProjectionRow.shown (row : CaseProjectionRow) :
    Nat × Option String × Option String × Option String :=
  (row.proposalGeneration, row.currentAnalysisId, row.currentAnalysisHash, row.currentSelectionId)

def shownOf (s : Store) (c : String) :
    Option (Nat × Option String × Option String × Option String) :=
  (s.projections.get? (.projection c)).map CaseProjectionRow.shown

/-- The case runs under the independent workflow. -/
def IsIndependent (s : Store) (c : String) : Prop :=
  ∃ case, s.cases.get? (.case c) = some case ∧ case.effectiveWorkflowVersion = .independentFinance

/-- The case shows the token. -/
def ShowsToken (s : Store) (c : String) (token : ProposalToken) : Prop :=
  ∃ row, s.projections.get? (.projection c) = some row ∧ row.Shows token

theorem showsToken_iff {token : ProposalToken} : ShowsToken s c token ↔
    shownOf s c = some (token.generation, token.analysisId, token.analysisMaterialHash,
      token.selectionId) := by
  simp only [ShowsToken, shownOf, Option.map_eq_some_iff, CaseProjectionRow.shown,
    CaseProjectionRow.Shows, Prod.mk.injEq]

theorem ShowsToken.generation {token : ProposalToken} (h : ShowsToken s c token) :
    generationOf s c = token.generation + 1 := by
  obtain ⟨row, hrow, hgeneration, -⟩ := h
  rw [generationOf, hrow]
  exact congrArg (· + 1) hgeneration

theorem IsIndependent.of_grows (hg : Grows s s') (h : IsIndependent s c) : IsIndependent s' c := by
  obtain ⟨case, hcase, hw⟩ := h
  exact ⟨case, hg.cases hcase, hw⟩

/-- The generation of an independent case rises, or the case shows what it showed. -/
structure RisesToken (c : String) (s s' : Store) : Prop where
  grows : Grows s s'
  counts : IsIndependent s c → Clocks (generationOf · c) (shownOf · c) s s'

namespace RisesToken

theorem refl (s : Store) : RisesToken c s s := ⟨.refl s, fun _ => .refl s⟩

theorem trans {a b d : Store} (h : RisesToken c a b) (h' : RisesToken c b d) : RisesToken c a d :=
  ⟨h.grows.trans h'.grows, fun hi => (h.counts hi).trans (h'.counts (hi.of_grows h.grows))⟩

theorem of_eq (hg : Grows s s')
    (h : s'.projections.get? (.projection c) = s.projections.get? (.projection c)) :
    RisesToken c s s' := by
  refine ⟨hg, fun _ => .of_eq ?_ ?_⟩
  · show generationOf s' c = generationOf s c
    rw [generationOf, generationOf, h]
  · show shownOf s' c = shownOf s c
    rw [shownOf, shownOf, h]

end RisesToken

/-- A rewrite of one projection that raises its generation, or keeps what it shows. -/
theorem counts_modify {row : CaseProjectionRow} {c' : String}
    {f : CaseProjectionRow → CaseProjectionRow}
    {hf : ∀ r, Key.projection c' ∈ keys r → keys (f r) = keys r}
    (hrow : s.projections.get? (.projection c') = some row)
    (h : row.proposalGeneration < (f row).proposalGeneration ∨ (f row).shown = row.shown) :
    Clocks (generationOf · c) (shownOf · c) s
      { s with projections := s.projections.modify (.projection c') f hf } := by
  have hget : (s.projections.modify (.projection c') f hf).get? (.projection c) =
      if c = c' then some (f row) else s.projections.get? (.projection c) := by
    rw [get?_modifyProjection, hrow]
    rfl
  split at hget
  · next hc =>
    subst hc
    rcases h with hlt | hshown
    · refine .of_lt ?_
      simp only [generationOf, hget, hrow, Option.map_some, Option.getD_some]
      omega
    · have hgeneration : (f row).proposalGeneration = row.proposalGeneration :=
        congrArg Prod.fst hshown
      refine .of_eq ?_ ?_
      · simp only [generationOf, hget, hrow, Option.map_some, Option.getD_some, hgeneration]
      · simp only [shownOf, hget, hrow, Option.map_some]
        exact congrArg some hshown
  · refine .of_eq ?_ ?_
    · simp only [generationOf, hget]
    · simp only [shownOf, hget]

/-- A new projection counts from one. -/
theorem counts_initial {case : CaseInstance}
    (hfree : s.projections.Free (CaseProjectionRow.initial case)) :
    Clocks (generationOf · c) (shownOf · c) s
      { s with projections := s.projections.add (.initial case) } := by
  by_cases hk : Key.projection c ∈ keys (CaseProjectionRow.initial case)
  · have hnone := hfree _ hk
    have hget : (s.projections.add (.initial case)).get? (.projection c) =
        some (.initial case) := by
      rw [Table.get?_add hfree, if_pos hk]
    refine .of_lt ?_
    simp only [generationOf, hnone, hget, Option.map_some, Option.map_none, Option.getD_some,
      Option.getD_none]
    omega
  · have hget : (s.projections.add (.initial case)).get? (.projection c) =
        s.projections.get? (.projection c) := by
      rw [Table.get?_add hfree, if_neg hk]
    refine .of_eq ?_ ?_
    · simp only [generationOf, hget]
    · simp only [shownOf, hget]

/-- One statement: all but the plain rewrite of a legacy case. -/
theorem Writing.risesToken {kind : WriteKind} {v : Store} {l : List Key} {u : Store → Store}
    (h : Writing kind v l u) (hk : kind ≠ .advanceLegacy) (c : String) : RisesToken c v (u v) := by
  refine ⟨h.grows v, fun _ => ?_⟩
  cases h
  case newProjection case hfree => exact counts_initial hfree
  case saveProjection row case hrow => exact counts_modify hrow (.inr rfl)
  case setStatus row c' changed hrow => exact counts_modify hrow (.inr rfl)
  case setDecision row c' d changed hrow => exact counts_modify hrow (.inr rfl)
  case compareAndSet row c' expected values hshows hrow =>
    refine counts_modify hrow (.inl ?_)
    rw [hshows.1]
    exact Nat.lt_succ_self _
  case guard row c' expected hshows hrow =>
    refine counts_modify hrow (.inl ?_)
    rw [hshows.1]
    exact Nat.lt_succ_self _
  case advanceLegacy => exact absurd rfl hk
  all_goals exact .of_eq rfl rfl

/-- The analysis of an independent case is saved under the next generation. -/
theorem SavesAnalysis.risesToken {analysis : AnalysisVersion} {projected : Option CaseInstance}
    {stored : CaseInstance} {row : CaseProjectionRow}
    (h : SavesAnalysis env s analysis projected stored row s') : RisesToken c s s' := by
  by_cases hc : c = analysis.caseId
  · subst hc
    refine ⟨h.grows, fun ⟨case, hcase, hw⟩ => ?_⟩
    obtain rfl := Option.some.inj (hcase.symm.trans h.case)
    obtain ⟨st, hready, hsup⟩ := h.independent hw
    obtain ⟨row', hrow', hshows, -⟩ := hready.state.row
    refine .of_lt ?_
    simp only [generationOf, hsup.projections, get?_cas_self]
    rw [show (s.addAnalysis analysis).projections = s.projections from rfl, hrow']
    simp only [Option.map_some, Option.getD_some, hshows.1]
    omega
  · exact .of_eq h.grows (h.projection_ne env hc)

theorem risesToken_of_commits {t : Transaction} {u : Unit} (hc : (t.program env).Commits s u s')
    (c : String) : RisesToken c s s' := by
  by_cases hk : ∀ kind ∈ t.kinds, kind ≠ .advanceLegacy
  · exact relates_of_commits RisesToken.refl RisesToken.trans
      (fun hkind hw => hw.risesToken (hk _ hkind) c) hc
  · cases t
    case saveAnalysis analysis projected now =>
      obtain ⟨_, hsave⟩ := commits_effect.mp hc
      obtain ⟨stored, row, hs⟩ := returns_saveAnalysis env hsave
      exact hs.risesToken
    case completeAnalysisClaim analysis projected version claimId completedAt now =>
      obtain ⟨_, hcomplete⟩ := commits_effect.mp hc
      obtain ⟨-, stored, row, s₁, hs, t, rfl⟩ := returns_completeAnalysisClaim env hcomplete
      exact hs.risesToken.trans (.of_eq ⟨id, id, id, id, id, id⟩ rfl)
    all_goals exact absurd (by dsimp only [Transaction.kinds]; decide) hk

theorem Run.risesToken (h : Run (Transaction.program env) s s') (c : String) :
    RisesToken c s s' :=
  h.relates RisesToken.refl RisesToken.trans fun ⟨_, _, hc⟩ => risesToken_of_commits hc c

/-- The generation of an independent case never falls, and a token that the case shows
before and after a run was shown all along: a second equal reading rules out that anything
it covers was changed in between. -/
theorem token_never_returns {s₁ s₂ s₃ : Store} (hi : IsIndependent s₁ c)
    (h₁ : Run (Transaction.program env) s₁ s₂) (h₂ : Run (Transaction.program env) s₂ s₃) :
    generationOf s₁ c ≤ generationOf s₂ c ∧
      ∀ token, ShowsToken s₁ c token → ShowsToken s₃ c token → ShowsToken s₂ c token := by
  have hrise₁ := Run.risesToken h₁ c
  have hrise₂ := Run.risesToken h₂ c
  refine ⟨(hrise₁.counts hi).le, fun token hbefore hafter => ?_⟩
  have hcounts := (hrise₁.counts hi).between (hrise₂.counts (hi.of_grows hrise₁.grows))
    (hafter.generation.trans hbefore.generation.symm)
  rw [showsToken_iff, hcounts.2, ← showsToken_iff]
  exact hbefore

/-- The token of the sample case is shown before, during and after a claim. -/
theorem token_never_returns_sample :
    ∃ s₂, Run (Transaction.program sampleEnv)
        (history (Transaction.program sampleEnv) (sampleTransactions.take 2) Store.empty) s₂ ∧
      s₂.claims.rows ≠ [] ∧
      generationOf (history (Transaction.program sampleEnv) (sampleTransactions.take 2)
        Store.empty) "case" ≤ generationOf s₂ "case" ∧
      ShowsToken s₂ "case" sampleSubmit.expected := by
  have hcase : (history (Transaction.program sampleEnv) (sampleTransactions.take 2)
      Store.empty).cases.get? (.case "case") = some (sampleCase .independentFinance) := by
    decide +kernel
  have hclaims : (history (Transaction.program sampleEnv)
      [.insertClaim "case" "version" "claim" 0 1] (history (Transaction.program sampleEnv)
        (sampleTransactions.take 2) Store.empty)).claims.rows ≠ [] := by
    decide +kernel
  have hbefore : shownOf (history (Transaction.program sampleEnv) (sampleTransactions.take 2)
      Store.empty) "case" = some (sampleSubmit.expected.generation,
        sampleSubmit.expected.analysisId, sampleSubmit.expected.analysisMaterialHash,
          sampleSubmit.expected.selectionId) := by
    decide +kernel
  have hafter : shownOf (history (Transaction.program sampleEnv)
      [.insertClaim "case" "version" "claim" 0 1, .releaseAnalysisClaim "case" "version" "claim"]
        (history (Transaction.program sampleEnv) (sampleTransactions.take 2) Store.empty)) "case" =
          some (sampleSubmit.expected.generation, sampleSubmit.expected.analysisId,
            sampleSubmit.expected.analysisMaterialHash, sampleSubmit.expected.selectionId) := by
    decide +kernel
  have hclaim := Run.history (Transaction.program sampleEnv)
    [.insertClaim "case" "version" "claim" 0 1] (history (Transaction.program sampleEnv)
      (sampleTransactions.take 2) Store.empty)
  have hrelease : Run (Transaction.program sampleEnv) _ (history (Transaction.program sampleEnv)
      [.insertClaim "case" "version" "claim" 0 1, .releaseAnalysisClaim "case" "version" "claim"]
        (history (Transaction.program sampleEnv) (sampleTransactions.take 2) Store.empty)) :=
    Run.history (Transaction.program sampleEnv) [.releaseAnalysisClaim "case" "version" "claim"] _
  obtain ⟨hle, hshown⟩ := token_never_returns ⟨_, hcase, rfl⟩ hclaim hrelease
  exact ⟨_, hclaim, hclaims, hle,
    hshown _ (showsToken_iff.mpr hbefore) (showsToken_iff.mpr hafter)⟩

/-! ### Commands that expect a token -/

/-- The transaction is a command on the case that expects the token. -/
def Transaction.Spends (s : Store) (c : String) (token : ProposalToken) : Transaction → Prop
  | .submit command .. => command.caseId = c ∧ command.expected = token
  | .resolve command .. => command.expected = token ∧
    ∃ row, latestRow s command.reviewId = some row ∧ row.review.proposal.caseId = c
  | .finalize command .. => command.caseId = c ∧ command.expected = token
  | _ => False

/-- The case showed the token, and is one generation on. -/
structure Spent (s : Store) (c : String) (token : ProposalToken) (s' : Store) : Prop where
  independent : IsIndependent s c
  shown : ShowsToken s c token
  next : generationOf s' c = generationOf s c + 1

/-- A read state shows its token. -/
theorem ReadyState.shows {token : ProposalToken} {st : ProposalState}
    (h : ReadyState s c token st) : ShowsToken s c token := by
  obtain ⟨row, hrow, hshows, -⟩ := h.state.row
  exact ⟨row, hrow, h.token ▸ hshows⟩

/-- The compare-and-set moves the case on. -/
theorem generationOf_cas {token : ProposalToken} {values : CasValues} (h : ShowsToken s c token) :
    generationOf (s.cas c token values) c = generationOf s c + 1 := by
  obtain ⟨row, hrow, hgeneration, -⟩ := h
  simp only [generationOf, get?_cas_self, hrow, Option.map_some, Option.getD_some, hgeneration]

/-- Storing a Decision leaves the generations alone. -/
theorem StoresDecision.generationOf_eq {d : Decision} (h : StoresDecision s d s') :
    generationOf s' c = generationOf s c := by
  by_cases hc : c = d.caseId
  · subst hc
    obtain ⟨row, hrow, hrow'⟩ := h.projection
    rw [generationOf, generationOf, hrow, hrow']
    rfl
  · rw [generationOf, generationOf, h.projection_ne hc]

theorem OpensReview.frame {proposal : FinanceProposal} {reviewId : Option String}
    (h : OpensReview s proposal reviewId s') :
    s'.cases = s.cases ∧ s'.analyses = s.analyses ∧ s'.projections = s.projections := by
  cases reviewId with
  | none =>
    obtain rfl : s' = s := h
    exact ⟨rfl, rfl, rfl⟩
  | some id =>
    rcases h with ⟨rfl, -⟩ | ⟨row, -, -, -, -, rfl⟩
    · exact ⟨rfl, rfl, rfl⟩
    · exact ⟨rfl, rfl, rfl⟩

/-- The receipt of a submission is for the case of the command: the analysis that the
command expects belongs to that case, and the receipt is bound to the same analysis. -/
theorem submits_case {command : SubmitProposalCommand} {actor : IdentitySnapshot}
    {selectionUuid reviewUuid : String} {clock : ClockReading} {result : SubmissionResult}
    {receipt : SelectionReceipt}
    (h : (submitTransaction env command actor selectionUuid reviewUuid clock).Commits s result s')
    (hsubmits : Submits env s command receipt s') :
    receipt.selection.proposal.caseId = command.caseId := by
  obtain ⟨s₁, hopens, hpublishes⟩ := hsubmits.published
  obtain ⟨analysis, hanalysis, hcase, -⟩ := hpublishes.bound.analysis
  have hexpected : command.expected.analysisId =
      some receipt.selection.proposal.analysisId := by
    rw [← hsubmits.expected]
    exact hpublishes.analysis.1
  unfold Commits at h
  simp only [submitTransaction, requireAlex, returns_require_bind] at h
  obtain ⟨-, h⟩ := h
  obtain ⟨stored, hstored, h⟩ := (readOnly_getReceiptByKey env _).returns_bind.mp h
  rcases stored with _ | stored
  · obtain ⟨st, -, h⟩ := (readOnly_getState env _).returns_bind.mp h
    obtain ⟨-, h⟩ := returns_require_bind.mp h
    obtain ⟨p, hp, h⟩ := (readOnly_getProjection env _).returns_bind.mp h
    obtain ⟨-, h⟩ := returns_require_bind.mp h
    obtain ⟨analysisId, hid, h⟩ := returns_orRaise_bind.mp h
    obtain ⟨analysis', hanalysis', h⟩ := (readOnly_getAnalysis env _).returns_bind.mp h
    obtain ⟨⟨hcase', -⟩, -⟩ := returns_require_bind.mp h
    obtain ⟨-, row, stored, -, -, hrowcase, -, hpcase, -⟩ := returns_getProjection env hp
    obtain ⟨-, hget, -⟩ := returns_getAnalysis env hanalysis'
    obtain rfl := Option.some.inj (hid.symm.trans hexpected)
    have hget₁ : s₁.analyses.get? (.analysis receipt.selection.proposal.analysisId) =
        some analysis' := by
      rw [hopens.frame.2.1]
      exact hget
    obtain rfl := Option.some.inj (hget₁.symm.trans hanalysis)
    rw [← hcase, hcase', hpcase, hrowcase]
  · obtain ⟨_, -, heq⟩ := returns_map.mp h
    cases heq

/-- A command commits only where its token is shown, and moves the case on. -/
theorem spent_of_commits {t : Transaction} {token : ProposalToken} {u : Unit}
    (ht : t.Spends s c token) (hc : (t.program env).Commits s u s') : Spent s c token s' := by
  cases t
  case submit command actor selectionUuid reviewUuid clock =>
    obtain ⟨rfl, rfl⟩ := ht
    obtain ⟨_, hsubmit⟩ := commits_effect.mp hc
    obtain ⟨receipt, hsubmits⟩ := returns_submitTransaction env hsubmit
    have hcase := submits_case hsubmit hsubmits
    obtain ⟨s₁, hopens, hpublishes⟩ := hsubmits.published
    obtain ⟨hcases, -, hprojections⟩ := hopens.frame
    obtain ⟨st, hready, hsup⟩ := hpublishes.effect
    rw [hcase, hsubmits.expected] at hready hsup
    have hshown := hready.shows
    have hnext : generationOf (Store.cas { s₁ with selections := s₁.selections.add receipt }
        command.caseId command.expected
        { currentSelectionId := some (some receipt.selection.selectionId) }) command.caseId =
          generationOf s₁ command.caseId + 1 :=
      generationOf_cas (s := { s₁ with selections := s₁.selections.add receipt }) hshown
    refine ⟨?_, ?_, ?_⟩
    · obtain ⟨case, hget, hw⟩ := hready.independent
      exact ⟨case, hcases ▸ hget, hw⟩
    · rwa [ShowsToken, hprojections] at hshown
    · have hsame : generationOf s₁ command.caseId = generationOf s command.caseId := by
        rw [generationOf, generationOf, hprojections]
      rw [generationOf, hsup.projections, ← hsame]
      exact hnext
  case resolve command actor clock =>
    obtain ⟨rfl, row, hlatest, rfl⟩ := ht
    obtain ⟨_, hresolve⟩ := commits_effect.mp hc
    unfold Commits at hresolve
    simp only [resolveTransaction, requireTaylor, returns_require_bind] at hresolve
    obtain ⟨-, h⟩ := hresolve
    obtain ⟨stored, -, h⟩ := (readOnly_getReviewByKey env _).returns_bind.mp h
    rcases stored with _ | stored
    · obtain ⟨⟨review, revision⟩, hgot, h⟩ := (readOnly_getLatest env _).returns_bind.mp h
      obtain ⟨-, row', hrow', hreview⟩ := returns_getLatest env hgot
      obtain rfl := Option.some.inj (hlatest.symm.trans hrow')
      obtain rfl : review = row.review := congrArg Prod.fst hreview
      obtain ⟨-, h⟩ := returns_require_bind.mp h
      obtain ⟨st, -, h⟩ := (readOnly_getState env _).returns_bind.mp h
      obtain ⟨selection, -, h⟩ := returns_orRaise_bind.mp h
      obtain ⟨-, h⟩ := returns_require_bind.mp h
      obtain ⟨now, -, h⟩ := returns_orRaise_bind.mp h
      rw [returns_ofExcept_bind] at h
      obtain ⟨resolved, -, h⟩ := h
      obtain ⟨token, s₁, hguard, h⟩ := returns_bind.mp h
      obtain ⟨-, ⟨st', hready⟩, rfl⟩ := returns_guardCurrent env hguard
      obtain ⟨⟨r, n⟩, s₂, happend, h⟩ := returns_bind.mp h
      obtain ⟨-, rfl⟩ := returns_done.mp h
      refine ⟨hready.independent, hready.shows, ?_⟩
      rw [← generationOf_cas hready.shows]
      rcases returns_appendReview env happend with ⟨rfl, -⟩ | ⟨-, -, row', -, -, -, rfl⟩
      · rfl
      · rfl
    · obtain ⟨_, -, heq⟩ := returns_map.mp h
      cases heq
  case finalize command actor decisionUuid eventUuid clock =>
    obtain ⟨rfl, rfl⟩ := ht
    obtain ⟨_, hfinalize⟩ := commits_effect.mp hc
    rename_i decision
    have hf := returns_finalizeTransaction env hfinalize
    obtain ⟨st, hdecides⟩ := hf.decides
    have hready := hdecides.ready
    refine ⟨hready.independent, hready.shows, ?_⟩
    rcases hk : decision.kind
    · rw [(hf.approved hk).generationOf_eq, generationOf_cas hready.shows]
    · obtain ⟨st', s₁, -, hsup, hstores⟩ := hf.rejected hk
      rw [hstores.generationOf_eq, generationOf, hsup.projections]
      exact generationOf_cas hready.shows
  all_goals exact ht.elim

/-- A command commits only where the case shows its token. After the commit the token is
never shown again, so no other command that expects it commits: of all commands with one
token, at most one takes effect. -/
theorem token_spent_once {s₁ s₂ : Store} {t : Transaction} {token : ProposalToken} {u : Unit}
    (ht : t.Spends s c token) (hc : (t.program env).Commits s u s₁)
    (hrun : Run (Transaction.program env) s₁ s₂) :
    ShowsToken s c token ∧ ¬ShowsToken s₂ c token ∧
      ∀ t' : Transaction, t'.Spends s₂ c token → ∀ u' s₃, ¬(t'.program env).Commits s₂ u' s₃ := by
  have hspent := spent_of_commits ht hc
  have hi := hspent.independent.of_grows (grows_of_commits hc)
  have hgone : ¬ShowsToken s₂ c token := fun hshown => by
    have hle := ((Run.risesToken hrun c).counts hi).le
    have hbefore := hspent.shown.generation
    have hafter := hshown.generation
    have hnext := hspent.next
    omega
  exact ⟨hspent.shown, hgone, fun t' ht' u' s₃ hc' => hgone (spent_of_commits ht' hc').shown⟩

/-- The submission of the sample case takes its token away for good. -/
theorem token_spent_once_sample :
    ∃ u s₁, ((Transaction.submit sampleSubmit sampleAlex "1" "1" (some 0)).program
        sampleEnv).Commits (history (Transaction.program sampleEnv) (sampleTransactions.take 2)
          Store.empty) u s₁ ∧
      ShowsToken (history (Transaction.program sampleEnv) (sampleTransactions.take 2) Store.empty)
        "case" sampleSubmit.expected ∧
      ∀ s₂, Run (Transaction.program sampleEnv) s₁ s₂ →
        ¬ShowsToken s₂ "case" sampleSubmit.expected := by
  have hsubmit : ((Transaction.submit sampleSubmit sampleAlex "1" "1" (some 0)).program
      sampleEnv).checkCommitted (history (Transaction.program sampleEnv)
        (sampleTransactions.take 2) Store.empty) (fun _ _ => true) = true := by
    decide +kernel
  obtain ⟨u, s₁, hcommits, -⟩ := exists_of_checkCommitted hsubmit
  have hspends : (Transaction.submit sampleSubmit sampleAlex "1" "1" (some 0)).Spends
      (history (Transaction.program sampleEnv) (sampleTransactions.take 2) Store.empty) "case"
        sampleSubmit.expected := ⟨rfl, rfl⟩
  exact ⟨u, s₁, hcommits, (token_spent_once hspends hcommits .refl).1,
    fun s₂ hrun => (token_spent_once hspends hcommits hrun).2.1⟩

end SupplyResponse
