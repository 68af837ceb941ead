/-
Analysis requests beside decisions (`FallbackAnalysisApplicationService.create`
and `DecisionService.record`).

* `LooksDecided` — a case whose current Decision is on its current analysis does
  not look undecided;
* `CaseCall` — creating cases, analyzing and deciding them, in any order and
  with any breaks;
* `Careful` — no analysis request comes to its last transaction while the
  current Decision of its case is on the current analysis;
* `looks_decided_when` — decided cases look decided as long as that is so, and
  any such last transaction breaks it.
-/
import SupplyResponse.Runs.Recordings
import SupplyResponse.Services.AnalysisApplication

namespace SupplyResponse

open Transact Transact.Prog
open Keyed (keys)

variable {env : Env} {s s' : Store} {c : String}

/-! ### Decided cases -/

/-- The row points to a Decision on its current analysis. -/
structure DecidedBy (s : Store) (row : CaseProjectionRow) (d : Decision) : Prop where
  stored : d ∈ s.decisions
  current : row.currentDecisionId = some d.decisionId
  analysis : row.currentAnalysisId = some d.analysisId

/-- The current Decision of the case is on its current analysis. -/
def DecidedOn (s : Store) (c : String) : Prop :=
  ∃ row d, s.projections.get? (.projection c) = some row ∧ DecidedBy s row d

/-- `OPEN`, `ANALYZING` or `AWAITING_DECISION`. -/
def CaseStatus.LooksUndecided (status : CaseStatus) : Prop :=
  status = .open ∨ status = .analyzing ∨ status = .awaitingDecision

instance : DecidablePred CaseStatus.LooksUndecided := fun _ => inferInstanceAs (Decidable (_ ∨ _))

/-- If the case is decided on its current analysis, it does not look undecided. -/
def LooksDecided (s : Store) (c : String) : Prop :=
  ∀ row d, s.projections.get? (.projection c) = some row → DecidedBy s row d →
    ¬row.case.status.LooksUndecided

/-- The current Decision of every case is stored. -/
def PointersStored (s : Store) : Prop :=
  ∀ c row id, s.projections.get? (.projection c) = some row → row.currentDecisionId = some id →
    ∃ d ∈ s.decisions, d.decisionId = id

/-! ### The invariant of the calls -/

/-- What holds between the transactions of the calls. -/
structure CallInv (env : Env) (s : Store) : Prop where
  run : Run (Transaction.program env) Store.empty s
  pointers : PointersStored s
  decided : ∀ c, LooksDecided s c

theorem CallInv.empty : CallInv env Store.empty :=
  ⟨.refl, (fun _ _ _ h => nomatch h), fun _ _ _ h => nomatch h⟩

/-- A case that a transaction did not touch, where the new Decisions are not the
one it points to. -/
theorem looksDecided_of_eq (h : CallInv env s)
    (hproj : s'.projections.get? (.projection c) = s.projections.get? (.projection c))
    (hnew : ∀ d ∈ s'.decisions, d ∈ s.decisions ∨ ∀ x ∈ s.decisions, x.decisionId ≠ d.decisionId) :
    LooksDecided s' c := by
  intro row d hrow hd
  rw [hproj] at hrow
  rcases hnew d hd.stored with hold | hfresh
  · exact h.decided c row d hrow ⟨hold, hd.current, hd.analysis⟩
  · obtain ⟨x, hx, hid⟩ := h.pointers c row _ hrow hd.current
    exact absurd hid (hfresh x hx)

theorem pointersStored_of_eq (h : PointersStored s)
    (hpointers : ∀ c row' id, s'.projections.get? (.projection c) = some row' →
      row'.currentDecisionId = some id →
      (∃ d ∈ s'.decisions, d.decisionId = id) ∨
        ∃ row, s.projections.get? (.projection c) = some row ∧ row.currentDecisionId = some id)
    (hgrows : ∀ d ∈ s.decisions, d ∈ s'.decisions) : PointersStored s' := by
  intro c row' id hrow' hid
  rcases hpointers c row' id hrow' hid with hstored | ⟨row, hrow, hid⟩
  · exact hstored
  · obtain ⟨d, hd, hid⟩ := h c row id hrow hid
    exact ⟨d, hgrows d hd, hid⟩

namespace CallInv

/-- A case was created. -/
theorem createCase (h : CallInv env s) {case : CaseInstance} {snapshot : OperationalSnapshot}
    {u : Unit} (hc : (createCase env case snapshot).Commits s u s') : CallInv env s' := by
  have hrun : Run (Transaction.program env) Store.empty s' :=
    h.run.tail ⟨.createCase case snapshot, (), commits_effect.mpr ⟨u, hc⟩⟩
  obtain ⟨hfree, hs⟩ := returns_createCase env hc
  have hdecisions : s'.decisions = s.decisions := by rw [hs]
  have hproj : ∀ c row, s'.projections.get? (.projection c) = some row →
      row.currentDecisionId = none ∨ s.projections.get? (.projection c) = some row := by
    intro c row hrow
    rw [hs, Table.get?_add hfree] at hrow
    split at hrow
    · obtain rfl := Option.some.inj hrow
      exact .inl rfl
    · exact .inr hrow
  refine ⟨hrun, pointersStored_of_eq h.pointers (fun c row id hrow hid => ?_) ?_, ?_⟩
  · rcases hproj c row hrow with hnone | hold
    · rw [hnone] at hid
      cases hid
    · exact .inr ⟨row, hold, hid⟩
  · rw [hdecisions]
    exact fun _ => id
  · intro c row d hrow hd
    rcases hproj c row hrow with hnone | hold
    · have := hd.current
      rw [hnone] at this
      cases this
    · exact h.decided c row d hold ⟨hdecisions ▸ hd.stored, hd.current, hd.analysis⟩

/-- An analysis was saved: no stored Decision is on it. -/
theorem saveAnalysis (h : CallInv env s) {analysis : AnalysisVersion} {now : Instant} {u : Unit}
    (hc : (saveAnalysis env analysis none now).Commits s u s') : CallInv env s' := by
  have hstep : ((Transaction.saveAnalysis analysis none now).program env).Commits s () s' :=
    commits_effect.mpr ⟨u, hc⟩
  have hdecisions : s'.decisions = s.decisions :=
    decisions_of_commits (by dsimp only [Transaction.kinds]; decide) hstep
  obtain ⟨stored, row₀, hsaves⟩ := returns_saveAnalysis env hc
  obtain ⟨row₁, hrow₁, -, hcurrent, -, hdecision⟩ := hsaves.projection_self env
  refine ⟨h.run.tail ⟨_, (), hstep⟩, pointersStored_of_eq h.pointers (fun c row id hrow hid => ?_) ?_,
    fun c => ?_⟩
  · refine .inr ?_
    by_cases hcase : c = analysis.caseId
    · subst hcase
      obtain rfl := Option.some.inj (hrow₁.symm.trans hrow)
      exact ⟨row₀, hsaves.projection, hdecision ▸ hid⟩
    · exact ⟨row, (hsaves.projection_ne env hcase).symm.trans hrow, hid⟩
  · rw [hdecisions]
    exact fun _ => id
  · by_cases hcase : c = analysis.caseId
    · subst hcase
      intro row d hrow hd
      obtain rfl := Option.some.inj (hrow₁.symm.trans hrow)
      -- the analysis of a stored Decision is stored, and this one is new
      exfalso
      have hid : analysis.analysisId = d.analysisId := Option.some.inj (hcurrent.symm.trans hd.analysis)
      have hintact := (allIntact_of_run h.run).intact d (hdecisions ▸ hd.stored)
      obtain ⟨a, hread, -⟩ := (readOnly_getAnalysis env _).returns_bind.mp hintact.lineage
      obtain ⟨-, hget, -⟩ := returns_getAnalysis env hread
      have hnone := hsaves.free (.analysis analysis.analysisId) (List.mem_cons_self ..)
      rw [hid, hget] at hnone
      cases hnone
    · refine looksDecided_of_eq h (hsaves.projection_ne env hcase) fun d hd => .inl ?_
      rwa [hdecisions] at hd

/-- A Decision was recorded: its case acts or is rejected. -/
theorem record (h : CallInv env s) {command : RecordDecisionCommand} {actor : IdentitySnapshot}
    {decisionUuid eventUuid : String} {decidedAt : Instant} {d : Decision}
    (hc : (recordTransaction env command actor decisionUuid eventUuid decidedAt).Commits s d s') :
    CallInv env s' := by
  have hstep : ((Transaction.record command actor decisionUuid eventUuid decidedAt).program
      env).Commits s () s' := commits_effect.mpr ⟨d, hc⟩
  have hstores := (returns_recordTransaction env hc).stores
  obtain ⟨row₀, hrow₀, hrow₁⟩ := hstores.projection
  have hd : d ∈ s'.decisions := by
    obtain ⟨_, _, _, -, -, -, rfl⟩ := hstores.effect
    exact Table.mem_add_self hstores.free
  refine ⟨h.run.tail ⟨_, (), hstep⟩, pointersStored_of_eq h.pointers (fun c row id hrow hid => ?_)
    fun x hx => ?_, fun c => ?_⟩
  · by_cases hcase : c = d.caseId
    · subst hcase
      obtain rfl := Option.some.inj (hrow₁.symm.trans hrow)
      exact .inl ⟨d, hd, Option.some.inj hid⟩
    · exact .inr ⟨row, (hstores.projection_ne hcase).symm.trans hrow, hid⟩
  · obtain ⟨_, _, _, -, -, -, rfl⟩ := hstores.effect
    exact Table.mem_add_of_mem hx
  · by_cases hcase : c = d.caseId
    · subst hcase
      intro row x hrow _
      obtain rfl := Option.some.inj (hrow₁.symm.trans hrow)
      show ¬d.kind.caseStatus.LooksUndecided
      cases d.kind <;> decide
    · refine looksDecided_of_eq h (hstores.projection_ne hcase) fun x hx => ?_
      rcases hstores.mem hx with hold | rfl
      · exact .inl hold
      · exact .inr fun y hy => decisionId_ne hstores.free hy

/-- A case was projected that was not decided on its current analysis. -/
theorem saveCaseProjection (h : CallInv env s) {case : CaseInstance} {u : Unit}
    (hundecided : ¬DecidedOn s case.caseId) (hc : (saveCaseProjection env case).Commits s u s') :
    CallInv env s' := by
  have hrun : Run (Transaction.program env) Store.empty s' :=
    h.run.tail ⟨.saveCaseProjection case, (), commits_effect.mpr ⟨u, hc⟩⟩
  obtain ⟨⟨row₀, hrow₀⟩, hs⟩ := returns_saveCaseProjection env hc
  have hdecisions : s'.decisions = s.decisions := by rw [hs]
  have hself : s'.projections.get? (.projection case.caseId) = some { row₀ with case := case } := by
    rw [hs, get?_modifyProjection, if_pos rfl, hrow₀]
    rfl
  have hne : ∀ {c}, c ≠ case.caseId →
      s'.projections.get? (.projection c) = s.projections.get? (.projection c) := by
    intro c hcase
    rw [hs, get?_modifyProjection, if_neg hcase]
  refine ⟨hrun, pointersStored_of_eq h.pointers (fun c row id hrow hid => .inr ?_) ?_, fun c => ?_⟩
  · by_cases hcase : c = case.caseId
    · subst hcase
      obtain rfl := Option.some.inj (hself.symm.trans hrow)
      exact ⟨row₀, hrow₀, hid⟩
    · exact ⟨row, (hne hcase).symm.trans hrow, hid⟩
  · rw [hdecisions]
    exact fun _ => id
  · by_cases hcase : c = case.caseId
    · subst hcase
      intro row d hrow hd
      obtain rfl := Option.some.inj (hself.symm.trans hrow)
      exact absurd ⟨row₀, d, hrow₀, hdecisions ▸ hd.stored, hd.current, hd.analysis⟩ hundecided
    · refine looksDecided_of_eq h (hne hcase) fun d hd => .inl ?_
      rwa [hdecisions] at hd

end CallInv

/-! ### Calls -/

/-- A call of which only the effect matters. -/
def asCall {α : Type} (p : Process Store Raised α) : Process Store Raised Unit :=
  p >>= fun _ => .done ()

/-- The calls: creating a case, an analysis request, and a decision. -/
inductive CaseCall (env : Env) : Process Store Raised Unit → Prop
  | createCase (case : CaseInstance) (snapshot : OperationalSnapshot) :
    CaseCall env (asCall (Process.transaction (SupplyResponse.createCase env case snapshot)))
  | createAnalysis (analyze : CaseInstance → Except Raised AnalysisVersion) (caseId : String)
    (now : Instant) : CaseCall env (asCall (SupplyResponse.createAnalysis env analyze caseId now))
  | recordDecision (command : RecordDecisionCommand) (actor : IdentitySnapshot)
    (decisionUuid eventUuid : String) (decidedAt : Instant) :
    CaseCall env
      (asCall (SupplyResponse.recordDecision env command actor decisionUuid eventUuid decidedAt))

/-- The rest of `create` behind its read. -/
def saveAnalyzed (env : Env) (case : CaseInstance) (analysis : AnalysisVersion) (now : Instant) :
    Process Store Raised AnalysisVersion := do
  Process.transaction (saveAnalysis env analysis none now)
  projectAnalyzed env case analysis

/-- A call, or what is left of it. -/
inductive CallForm (env : Env) : Process Store Raised Unit → Prop
  | start {p : Process Store Raised Unit} (h : CaseCall env p) : CallForm env p
  | saving (case : CaseInstance) (analysis : AnalysisVersion) (now : Instant) :
    CallForm env (asCall (saveAnalyzed env case analysis now))
  | projecting (case : CaseInstance) (analysis : AnalysisVersion) :
    CallForm env (asCall (projectAnalyzed env case analysis))
  | recovering (command : RecordDecisionCommand) (actor : IdentitySnapshot) :
    CallForm env (asCall (Process.transaction (recordRecovery env command actor)))
  | done : CallForm env (.done ())
  | raised (e : Raised) : CallForm env (.raise e)

/-- An analysis request that comes to its last transaction does not find its
case decided on the current analysis. -/
def Careful (env : Env) (s : Store) (p : Process Store Raised Unit) : Prop :=
  ∀ case analysis, p = asCall (projectAnalyzed env case analysis) → ¬DecidedOn s case.caseId

/-- What a call does next, if it begins with a unit of work. -/
theorem step_asCall {α β : Type} (p : Sql (Exit α)) (f : α → Process Store Raised β) (s : Store) :
    (∃ a s', p.Commits s a s' ∧
        (asCall (Process.transaction p >>= f)).step s = (asCall (f a), s')) ∨
      (∃ a s', p.Returns s (.rollback a) s' ∧
        (asCall (Process.transaction p >>= f)).step s = (asCall (f a), s)) ∨
      ∃ e, p.Raises s e ∧
        (asCall (Process.transaction p >>= f)).step s = (.raise e, s) := by
  have hassoc : asCall (Process.transaction p >>= f) =
      Process.transaction p >>= fun a => asCall (f a) :=
    Process.bind_assoc _ _ _
  rw [hassoc]
  exact Process.step_transaction_cases p _ s

/-- A read-only unit of work leaves the store alone, however it ends. -/
theorem step_read {α β : Type} {p : Sql (Exit α)} (hp : p.ReadOnly)
    (f : α → Process Store Raised β) (s : Store) :
    (∃ a, (asCall (Process.transaction p >>= f)).step s = (asCall (f a), s)) ∨
      ∃ e, (asCall (Process.transaction p >>= f)).step s = (.raise e, s) := by
  rcases step_asCall p f s with ⟨a, s', h, hstep⟩ | ⟨a, s', -, hstep⟩ | ⟨e, -, hstep⟩
  · rw [hp.eq h] at hstep
    exact .inl ⟨a, hstep⟩
  · exact .inl ⟨a, hstep⟩
  · exact .inr ⟨e, hstep⟩

theorem step_createAnalysis (h : CallInv env s)
    (analyze : CaseInstance → Except Raised AnalysisVersion) (caseId : String) (now : Instant) :
    CallInv env ((asCall (createAnalysis env analyze caseId now)).step s).2 ∧
      CallForm env ((asCall (createAnalysis env analyze caseId now)).step s).1 := by
  unfold createAnalysis
  rcases step_read ((readOnly_getProjection env caseId).map Exit.rollback) _ s with
    ⟨p, hstep⟩ | ⟨e, hstep⟩
  · rw [hstep]
    refine ⟨h, ?_⟩
    rcases analyze p.case with e | analysis
    · exact .raised e
    · exact .saving p.case analysis now
  · rw [hstep]
    exact ⟨h, .raised e⟩

theorem readOnly_recordRecovery (command : RecordDecisionCommand) (actor : IdentitySnapshot) :
    (recordRecovery env command actor).ReadOnly := by
  refine (readOnly_getDecisionByKey env _).bind fun existing => ?_
  cases existing with
  | none => exact readOnly_raise _
  | some existing =>
    exact ((readOnly_require _ _).bind fun _ => (readOnly_require _ _).bind fun _ =>
      readOnly_done _).map Exit.rollback

theorem step_recordDecision (h : CallInv env s) (command : RecordDecisionCommand)
    (actor : IdentitySnapshot) (decisionUuid eventUuid : String) (decidedAt : Instant) :
    CallInv env
        ((asCall (recordDecision env command actor decisionUuid eventUuid decidedAt)).step s).2 ∧
      CallForm env
        ((asCall (recordDecision env command actor decisionUuid eventUuid decidedAt)).step s).1 := by
  have hstep : (asCall (recordDecision env command actor decisionUuid eventUuid decidedAt)).step s =
      (asCall ((Process.ofExcept ((recordTransaction env command actor decisionUuid eventUuid
          decidedAt).close s).1 >>= fun x => pure x.answer).tryCatch fun e =>
            if e.cls = .integrityError then Process.transaction (recordRecovery env command actor)
            else Process.raise e),
        ((recordTransaction env command actor decisionUuid eventUuid decidedAt).close s).2) := rfl
  rw [hstep]
  rcases (recordTransaction env command actor decisionUuid eventUuid decidedAt).close_cases s with
    ⟨d, s', -, hclose⟩ | ⟨d, s', hcommits, hclose⟩ | ⟨e, -, hclose⟩ <;> rw [hclose]
  · exact ⟨h, .done⟩
  · exact ⟨h.record hcommits, .done⟩
  · refine ⟨h, ?_⟩
    show CallForm env (asCall (if e.cls = .integrityError then
      Process.transaction (recordRecovery env command actor) else Process.raise e))
    split
    · exact .recovering command actor
    · exact .raised e

/-- One action of a careful call keeps the invariant. -/
theorem step_call {p : Process Store Raised Unit} (h : CallInv env s) (hp : CallForm env p)
    (hok : Careful env s p) : CallInv env (p.step s).2 ∧ CallForm env (p.step s).1 := by
  cases hp with
  | start hcall =>
    cases hcall with
    | createCase case snapshot =>
      rcases Process.step_transaction_cases (SupplyResponse.createCase env case snapshot)
        (fun _ => .done ()) s with ⟨a, s', hc, hstep⟩ | ⟨a, s', -, hstep⟩ | ⟨e, -, hstep⟩ <;>
        rw [asCall, hstep]
      · exact ⟨h.createCase hc, .done⟩
      · exact ⟨h, .done⟩
      · exact ⟨h, .raised e⟩
    | createAnalysis analyze caseId now => exact step_createAnalysis h analyze caseId now
    | recordDecision command actor decisionUuid eventUuid decidedAt =>
      exact step_recordDecision h command actor decisionUuid eventUuid decidedAt
  | saving case analysis now =>
    rcases step_asCall (saveAnalysis env analysis none now)
      (fun _ => projectAnalyzed env case analysis) s with ⟨a, s', hc, hstep⟩ | ⟨a, s', -, hstep⟩ |
        ⟨e, -, hstep⟩ <;> rw [saveAnalyzed, hstep]
    · exact ⟨h.saveAnalysis hc, .projecting case analysis⟩
    · exact ⟨h, .projecting case analysis⟩
    · exact ⟨h, .raised e⟩
  | projecting case analysis =>
    have hundecided : ¬DecidedOn s (case.withStatus .awaitingDecision).caseId :=
      hok case analysis rfl
    rcases step_asCall (saveCaseProjection env (case.withStatus .awaitingDecision))
      (fun _ => .done analysis) s with ⟨a, s', hc, hstep⟩ | ⟨a, s', -, hstep⟩ | ⟨e, -, hstep⟩ <;>
        rw [projectAnalyzed, Process.pure_eq_done, hstep]
    · exact ⟨h.saveCaseProjection hundecided hc, .done⟩
    · exact ⟨h, .done⟩
    · exact ⟨h, .raised e⟩
  | recovering command actor =>
    rcases Process.step_transaction_cases (recordRecovery env command actor) (fun _ => .done ()) s
      with ⟨a, s', hc, hstep⟩ | ⟨a, s', -, hstep⟩ | ⟨e, -, hstep⟩ <;> rw [asCall, hstep]
    · rw [(readOnly_recordRecovery command actor).eq hc]
      exact ⟨h, .done⟩
    · exact ⟨h, .done⟩
    · exact ⟨h, .raised e⟩
  | done => exact ⟨h, .done⟩
  | raised e => exact ⟨h, .raised e⟩

/-- In every interleaving of careful calls the decided cases look decided; and a
case that an analysis request projects while it is decided on its current
analysis looks undecided afterwards. -/
theorem looks_decided_when :
    (∀ pool, Pool.ReachesWhen (CaseCall env) (Careful env) ⟨Store.empty, []⟩ pool →
        ∀ c, LooksDecided pool.world c) ∧
      ∀ (case : CaseInstance) (s s' : Store) (u : Unit), DecidedOn s case.caseId →
        (saveCaseProjection env (case.withStatus .awaitingDecision)).Commits s u s' →
          ¬LooksDecided s' case.caseId := by
  refine ⟨fun pool h => ?_, fun case s s' u hdecided hc hlooks => ?_⟩
  · have hinv := h.invariant (F := CallForm env) (I := CallInv env) (fun p hp => .start hp)
      (fun s p hs hp hok => step_call hs hp hok) .empty fun p hp => nomatch hp
    exact hinv.1.decided
  · obtain ⟨row, d, hrow, hd⟩ := hdecided
    obtain ⟨-, hs⟩ := returns_saveCaseProjection env hc
    have hrow' : s'.projections.get? (.projection case.caseId) =
        some { row with case := case.withStatus .awaitingDecision } := by
      have hkey : case.caseId = (case.withStatus .awaitingDecision).caseId := rfl
      rw [hs, get?_modifyProjection, if_pos hkey, ← hkey, hrow]
      rfl
    have hstored : d ∈ s'.decisions := by
      rw [hs]
      exact hd.stored
    exact hlooks _ d hrow' ⟨hstored, hd.current, hd.analysis⟩ (.inr (.inr rfl))

/-- The last of the sample calls creates a legacy case; beside each other, the
case is analyzed, and a response of the analysis is approved. -/
def sampleCaseCalls : List (Process Store Raised Unit) :=
  [asCall (recordDecision sampleEnv sampleRecord sampleAlex "1" "1" 0),
    asCall (createAnalysis sampleEnv (fun _ => .ok (sampleAnalysis .legacy "analysis" 100)) "case" 0),
    asCall (Process.transaction (createCase sampleEnv (sampleCase .legacy) sampleSnapshot))]

theorem sampleCaseCalls_calls : ∀ p ∈ sampleCaseCalls, CaseCall sampleEnv p := by
  intro p hp
  rcases List.mem_cons.mp hp with rfl | hp
  · exact .recordDecision _ _ _ _ _
  · rcases List.mem_cons.mp hp with rfl | hp
    · exact .createAnalysis _ _ _
    · obtain rfl := List.mem_singleton.mp hp
      exact .createCase _ _

/-- The case is created, read and analyzed, decided, and projected. -/
def sampleInterleaved : Store :=
  ([2, 1, 1, 0, 1].foldl Pool.actAt ⟨Store.empty, sampleCaseCalls⟩).world

/-- The decision falls between the two last transactions of the analysis
request: the decided case is awaiting a decision. -/
theorem decided_case_looks_undecided :
    ∃ pool, Pool.Reaches (CaseCall sampleEnv) ⟨Store.empty, []⟩ pool ∧
      ¬LooksDecided pool.world "case" := by
  have hstate : (sampleInterleaved.projections.get? (.projection "case")).any (fun row =>
      sampleInterleaved.decisions.rows.any fun d =>
        row.currentDecisionId = some d.decisionId ∧ row.currentAnalysisId = some d.analysisId ∧
          row.case.status = .awaitingDecision) = true := by
    decide +kernel
  refine ⟨_, (Pool.reaches_started sampleCaseCalls_calls _).trans
    (Pool.reaches_schedule [2, 1, 1, 0, 1] _), fun hlooks => ?_⟩
  obtain ⟨row, hrow, hany⟩ := (Option.any_eq_true _ _).mp hstate
  obtain ⟨d, hd, hdecided⟩ := List.any_eq_true.mp hany
  obtain ⟨hcurrent, hanalysis, hstatus⟩ := of_decide_eq_true hdecided
  exact hlooks row d hrow ⟨hd, hcurrent, hanalysis⟩ (.inr (.inr hstatus))

end SupplyResponse
