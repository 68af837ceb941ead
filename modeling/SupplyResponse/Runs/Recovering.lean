/-
Recovering from a failed attempt (`_recover_failure`), in the stores of the services.

* `PassesCheck`, `Legible.check_cases` — where the check of a stored Decision does not pass, it
  finds the Decision stale;
* `Serviced` — what the services keep: all can be read, every case is projected, and no event is
  left claimed;
* `ClaimedIn` — a claimed event, with its row, its Decision and the projection of its case;
* `recoverFailure_answers` — a recovery never raises: it puts the event back and answers yes,
  or marks the event of a stale Decision and answers no;
* `serviced_next` — an attempt leads to a store of the services again.
-/
import SupplyResponse.Runs.Inbox
import Mathlib.Tactic.IntervalCases

namespace SupplyResponse

open Transact Transact.Prog
open Keyed (keys)

variable {env : Env} {versions : Option (List WorkflowVersion)} {s s' : Store}

/-! ### The check of a claimed Decision -/

/-- `check_execution_current` passes. -/
def PassesCheck (env : Env) (s : Store) (decisionId : String) : Prop :=
  ∃ checked, (checkExecutionCurrent env decisionId).Returns s checked s

/-- An exception of another class passes through. -/
theorem raises_mapError_of_raises {α : Type} {p : Sql α} {caught : ExceptionClass → Bool}
    {replacement e : Raised} (h : p.Raises s e) (hcaught : caught e.cls = false) :
    (mapError p caught replacement).Raises s e := by
  obtain ⟨s', h⟩ := h
  refine ⟨s', ?_⟩
  unfold mapError
  rw [run_tryCatch, h]
  dsimp only
  rw [hcaught]
  rfl

/-- Where the check of a stored Decision does not pass, it finds the Decision stale. -/
theorem Legible.check_cases {d : Decision} {row : CaseProjectionRow} (h : Legible env s)
    (hd : d ∈ s.decisions) (hrow : s.projections.get? (.projection d.caseId) = some row) :
    (∃ token, (checkExecutionCurrent env d.decisionId).Returns s (d, token) s ∧
      ∀ t ∈ token, ∃ st, (getState env d.caseId).Returns s st s ∧ row.Shows st.token ∧
        t = st.token) ∨
      ∃ e, (checkExecutionCurrent env d.decisionId).Raises s e ∧
        e.cls = .executionProposalStale := by
  have hread := h.decision_reads hd
  by_cases hkind : d.kind = .approved
  · by_cases hpolicy : d.approvalPolicyVersion = WorkflowVersion.independentFinance.value
    · -- both reads of the check answer, so only its comparison can fail
      obtain ⟨st, hst, hshows⟩ := h.state_reads hrow
      have hprojection := h.projection_reads hrow
      obtain ⟨_, -, hshape⟩ := d.valid.2 hkind
      obtain ⟨evidence, hevidence⟩ := Option.isSome_iff_exists.mp (hshape.2.2.2.1.mp hpolicy)
      by_cases hagrees : d.Agrees evidence st (row.reading s)
      · refine .inl ⟨some st.token, returns_bind.mpr ⟨d, s, hread, returns_require_bind.mpr ⟨hkind,
          returns_ite.mpr (.inl ⟨hpolicy, returns_orRaise_bind.mpr ⟨evidence, hevidence,
            returns_mapError.mpr ?_⟩⟩)⟩⟩,
          fun t ht => ⟨st, hst, hshows, (Option.mem_some_iff.mp ht).symm⟩⟩
        exact returns_bind.mpr ⟨st, s, hst, returns_bind.mpr ⟨_, s, hprojection,
          returns_require_bind.mpr ⟨hagrees, returns_bind.mpr ⟨st, s, hst,
            returns_require_bind.mpr ⟨rfl, returns_done.mpr ⟨rfl, rfl⟩⟩⟩⟩⟩⟩
      · refine .inr ⟨executionStale "Decision proposal approval is no longer current", ?_, rfl⟩
        have hraises : (checkIndependent env d evidence).Raises s
            (executionStale "Decision proposal approval is no longer current") :=
          hst.raises_bind (hprojection.raises_bind (raises_require hagrees).bind)
        refine hread.raises_bind ?_
        rw [require, if_pos hkind, if_pos hpolicy, hevidence]
        show (mapError (checkIndependent env d evidence) (fun cls => cls = .staleProposal)
          (executionStale "Execution approval changed while reading")).Raises s _
        exact raises_mapError_of_raises hraises rfl
    · refine .inl ⟨none, returns_bind.mpr ⟨d, s, hread, returns_require_bind.mpr ⟨hkind, ?_⟩⟩,
        fun t ht => absurd ht (Option.not_mem_none t)⟩
      exact returns_ite.mpr (.inr ⟨hpolicy, returns_done.mpr ⟨rfl, rfl⟩⟩)
  · exact .inr ⟨_, hread.raises_bind (raises_require hkind).bind, rfl⟩

/-! ### Recoveries -/

/-- A projection that keeps the provenance of its case is read. -/
theorem returns_getProjection_of_row {caseId : String} {row : CaseProjectionRow}
    {stored : CaseInstance} (hrow : s.projections.get? (.projection caseId) = some row)
    (hstored : s.cases.get? (.case caseId) = some stored) (hid : row.case.caseId = row.caseId)
    (hprov : row.case.SameProvenance stored) (hmode : row.case.runtimeMode = env.runtimeMode) :
    ∃ p, (getProjection env caseId).Returns s p s ∧ p.case = row.case := by
  have hrun : ∃ p, (getProjection env caseId).Returns s p s :=
    ⟨_, returns_getRow_bind.mpr ⟨row, hrow, returns_getRow_bind.mpr ⟨stored, hstored,
      returns_require_bind.mpr ⟨⟨hid, hprov⟩, returns_require_bind.mpr ⟨hmode,
        returns_select_bind.mpr (returns_done.mpr ⟨rfl, rfl⟩)⟩⟩⟩⟩⟩
  obtain ⟨p, hp⟩ := hrun
  obtain ⟨-, row', _, hrow', -, -, -, hcase, -⟩ := returns_getProjection env hp
  obtain rfl := Option.some.inj (hrow.symm.trans hrow')
  exact ⟨p, hp, hcase⟩

/-- No event is left claimed: a claim is committed with its plan only. -/
def Unclaimed (s : Store) : Prop := ∀ row ∈ s.outbox, row.claimStatus ≠ .claimed

theorem Unclaimed.modifyOutbox {eventId : String} {f : OutboxRow → OutboxRow}
    {hf : ∀ r, Key.outbox eventId ∈ keys r → keys (f r) = keys r} (h : Unclaimed s)
    (hstatus : ∀ r, (f r).claimStatus ≠ .claimed) : Unclaimed (s.modifyOutbox eventId f hf) := by
  intro row hrow
  rw [Store.modifyOutbox, Table.mem_modify] at hrow
  obtain ⟨old, hold, rfl⟩ := hrow
  split
  · exact hstatus old
  · exact h old hold

theorem Writing.unclaimed {kind : WriteKind} {v : Store} {l : List Key} {u : Store → Store}
    (h : Writing kind v l u) (hk : kind ≠ .claimEvent) (hv : Unclaimed v) : Unclaimed (u v) := by
  cases h
  case newEvent event hfree =>
    intro row hrow
    rcases (Table.mem_add hfree).mp hrow with hold | rfl
    · exact hv row hold
    · exact nofun
  case claimEvent => exact absurd rfl hk
  case processEvent => exact hv.modifyOutbox fun _ => nofun
  case failEvent => exact hv.modifyOutbox fun _ => nofun
  all_goals exact hv

theorem unclaimed_step {t : Transaction} {u : Unit} (h : Unclaimed s)
    (hc : (t.program env).Commits s u s') : Unclaimed s' := by
  by_cases hk : WriteKind.claimEvent ∉ t.kinds
  · exact relates_of_commits (R := fun s s' => Unclaimed s → Unclaimed s') (fun _ => id)
      (fun h h' hs => h' (h hs)) (fun hkind hw => hw.unclaimed fun he => hk (he ▸ hkind)) hc h
  · cases t
    case processOutbox planner filter eventUuid processedAt =>
      obtain ⟨_, hcommits⟩ := commits_effect.mp hc
      obtain ⟨claim, d, an, acts, -, -, hplans⟩ := returns_processTransaction env hcommits
      obtain ⟨now, processedAt, houtbox⟩ := hplans.outbox_eq
      intro row hrow
      rw [houtbox, Table.mem_modify] at hrow
      obtain ⟨claimed, hclaimed, rfl⟩ := hrow
      obtain ⟨old, hold, rfl⟩ := Table.mem_modify.mp hclaimed
      -- the claimed row is the one that is processed
      by_cases hkey : Key.outbox claim.eventId ∈ keys old
      · rw [if_pos hkey, if_pos (show Key.outbox claim.eventId ∈ keys (OutboxRow.claimed now old)
          from hkey)]
        exact nofun
      · rw [if_neg hkey, if_neg hkey]
        exact h old hold
    all_goals exact absurd (by dsimp only [Transaction.kinds]; decide) hk

/-- What the services keep of the store in which an attempt fails. -/
structure Serviced (env : Env) (s : Store) : Prop where
  legible : Legible env s
  projected : CasesProjected s
  unclaimed : Unclaimed s

/-- A claimed event has its row, its Decision and the projection of its case. -/
structure ClaimedIn (s : Store) (filter : OutboxFilter) (claim : OutboxClaim) (row : OutboxRow)
    (d : Decision) (prow : CaseProjectionRow) : Prop where
  stored : s.outbox.get? (.outbox claim.eventId) = some row
  ready : row.Ready filter
  event : row.event.eventId = claim.eventId
  decision : d ∈ s.decisions
  decisionId : d.decisionId = claim.decisionId
  caseId : d.caseId = claim.caseId
  projection : s.projections.get? (.projection claim.caseId) = some prow

theorem Serviced.claimed {filter : OutboxFilter} {claim : OutboxClaim} (h : Serviced env s)
    (hcand : outboxCandidate s filter = some claim) :
    ∃ row d prow, ClaimedIn s filter claim row d prow := by
  obtain ⟨row, d, case, hmem, hready, hevent, -, hd, hcase, -, hstored⟩ :=
    outboxCandidate_spec hcand
  obtain ⟨prow, hprow⟩ := Option.isSome_iff_exists.mp (h.projected _ _ hstored)
  have hid : d.decisionId = claim.decisionId := by
    simpa [eq_comm] using (Table.get?_eq_some_iff.mp hd).2
  exact ⟨row, d, prow, Table.get?_of_mem hmem (by simp [hevent]), hready, hevent,
    Table.mem_of_get? hd, hid, hcase, hprow⟩

/-- A ready event is neither processed nor stale. -/
theorem OutboxRow.Ready.unrecorded {row : OutboxRow} {filter : OutboxFilter}
    (h : row.Ready filter) :
    ¬(row.processedAt.isSome ∨ row.lastError = some executionProposalStaleError) := by
  obtain ⟨-, hprocessed, -, hstale, -⟩ := h
  rintro (hsome | hmarked)
  · rw [hprocessed] at hsome
    cases hsome
  · exact hstale hmarked

/-- The failure of an attempt at a ready event is recorded. -/
theorem recordOutboxFailureIfCurrent_returns {row : OutboxRow} {filter : OutboxFilter}
    {eventId code : String} {now : Instant} (hrow : s.outbox.get? (.outbox eventId) = some row)
    (hid : row.event.eventId = eventId) (hready : row.Ready filter) (hnow : filter.now ≤ now)
    (hcode : Nonblank code) :
    (recordOutboxFailureIfCurrent eventId
      { eventId := row.event.eventId
        claimStatus := row.claimStatus
        processedAt := row.processedAt
        attemptCount := row.attemptCount
        lastError := row.lastError } code now).Returns s true
      (s.modifyOutbox eventId (OutboxRow.failed code) (fun _ _ => rfl)) := by
  refine returns_require_bind.mpr ⟨⟨hid, hcode⟩, returns_ite.mpr (.inr ⟨hready.unrecorded, ?_⟩)⟩
  obtain ⟨-, hprocessed, hfree, hstale, -⟩ := hready
  refine returns_updateRow.mpr
    (.inl ⟨row, hrow, ⟨hprocessed, rfl, rfl, rfl, ?_, hstale⟩, rfl, rfl⟩)
  -- what was free to be claimed at `filter.now` is still free later
  rcases hfree with hpending | ⟨hclaimed, t, ht, hlt⟩
  · exact .inl hpending
  · exact .inr ⟨hclaimed, t, ht, lt_of_lt_of_le hlt hnow⟩

theorem getOutboxState_returns {row : OutboxRow} {eventId : String}
    (hrow : s.outbox.get? (.outbox eventId) = some row) :
    (getOutboxState eventId).Returns s
      { eventId := row.event.eventId
        claimStatus := row.claimStatus
        processedAt := row.processedAt
        attemptCount := row.attemptCount
        lastError := row.lastError } s :=
  returns_getRow_bind.mpr ⟨row, hrow, returns_done.mpr ⟨rfl, rfl⟩⟩

namespace ClaimedIn

variable {filter : OutboxFilter} {claim : OutboxClaim} {row : OutboxRow} {d : Decision}
  {prow : CaseProjectionRow} {now : Instant} {code : String}

/-- The event alone is put back. -/
theorem eventOnly_commits (h : ClaimedIn s filter claim row d prow) (hnow : filter.now ≤ now)
    (hcode : Nonblank code) : ∃ s', (eventOnlyTransaction claim code now).Commits s true s' :=
  ⟨_, returns_bind.mpr ⟨_, s, getOutboxState_returns h.stored, returns_bind.mpr ⟨true, _,
    recordOutboxFailureIfCurrent_returns h.stored h.event h.ready hnow hcode,
      returns_done.mpr ⟨rfl, rfl⟩⟩⟩⟩

/-- The status of the case is written in a store that has its projection. -/
theorem status_commits (hs : Serviced env s) (h : ClaimedIn s filter claim row d prow)
    {v : Store} (hcases : v.cases = s.cases) {vrow : CaseProjectionRow}
    (hvrow : v.projections.get? (.projection claim.caseId) = some vrow)
    (hcase : vrow.case = prow.case) :
    ∃ v', (markActionPlanningFailed env claim.caseId).Returns v () v' := by
  have hof : caseOf s claim.caseId = some prow.case := by
    rw [caseOf, h.projection]
    rfl
  obtain ⟨stored, hstored, hsame⟩ := hs.legible.rooted claim.caseId prow.case hof
  have hid : vrow.case.caseId = vrow.caseId := by
    rw [hcase, hsame.1, caseId_of_get? hstored, caseId_of_projection hvrow]
  have hmode : vrow.case.runtimeMode = env.runtimeMode := by
    rw [hcase]
    exact hsame.2.2.2.1.trans (hs.legible.mode stored (Table.mem_of_get? hstored))
  obtain ⟨p, hp, -⟩ := returns_getProjection_of_row hvrow (hcases ▸ hstored) hid (hcase ▸ hsame)
    hmode
  exact ⟨_, returns_bind.mpr ⟨p, v, hp, returns_updateExisting.mpr ⟨⟨vrow, hvrow⟩, rfl⟩⟩⟩

/-- A passed check guards the case of the claimed Decision. -/
theorem guard_returns (hs : Serviced env s) (h : ClaimedIn s filter claim row d prow)
    (hworkflow : prow.case.effectiveWorkflowVersion = .independentFinance)
    (hpasses : PassesCheck env s claim.decisionId) :
    ∃ v vrow, (guardExecutionCurrent env claim.decisionId).Returns s d v ∧ v.cases = s.cases ∧
      v.outbox = s.outbox ∧ v.projections.get? (.projection claim.caseId) = some vrow ∧
        vrow.case = prow.case := by
  obtain ⟨checked, hchecked⟩ := hpasses
  have hrow : s.projections.get? (.projection d.caseId) = some prow := h.caseId ▸ h.projection
  rcases hs.legible.check_cases h.decision hrow with ⟨token, hcheck, htoken⟩ | ⟨e, ⟨v, hraises⟩, -⟩
  · rw [h.decisionId] at hcheck
    cases token with
    | none =>
      exact ⟨s, prow, returns_bind.mpr ⟨(d, none), s, hcheck, returns_bind.mpr ⟨(), s,
        returns_done.mpr ⟨rfl, rfl⟩, returns_done.mpr ⟨rfl, rfl⟩⟩⟩, rfl, rfl, h.projection, rfl⟩
    | some token =>
      obtain ⟨st, hst, hshows, rfl⟩ := htoken token rfl
      have hof : caseOf s d.caseId = some prow.case := by
        rw [caseOf, hrow]
        rfl
      obtain ⟨stored, hstored, hsame⟩ := hs.legible.rooted d.caseId prow.case hof
      have hindependent : stored.effectiveWorkflowVersion = .independentFinance :=
        hsame.2.2.2.2.2.2.2.symm.trans hworkflow
      have hguard := guardCurrent_returns hstored hindependent hrow hst hshows
      have hshown : (s.cas d.caseId st.token
          { currentSelectionId := some st.token.selectionId }).projections.get?
            (.projection d.caseId) = _ := get?_cas_self
      rw [hrow, h.caseId] at hshown
      refine ⟨_, CasValues.apply { currentSelectionId := some st.token.selectionId }
        (st.token.generation + 1) prow, returns_bind.mpr ⟨(d, some st.token), s, hcheck,
          returns_bind.mpr ⟨(), _, returns_bind.mpr ⟨_, _, returns_mapError.mpr hguard,
            returns_done.mpr ⟨rfl, rfl⟩⟩, returns_done.mpr ⟨rfl, rfl⟩⟩⟩, rfl, rfl, ?_, rfl⟩
      rw [h.caseId]
      exact hshown
  · rw [h.decisionId] at hraises
    cases hchecked.symm.trans hraises

/-- The recovery runs the branch of the projected workflow. -/
theorem recovery_returns (hs : Serviced env s) (h : ClaimedIn s filter claim row d prow)
    {error : Raised} {outcome : Exit RecoveryOutcome}
    (hrun : (if prow.case.effectiveWorkflowVersion = .independentFinance then
        (recoverIndependent env claim (errorCode error) now).tryCatch fun e =>
          pure (.rollback (.failed true e))
      else
        (recoverLegacy env claim (errorCode error)).tryCatch fun e =>
          pure (.rollback (.failed false e))).Returns s outcome s') :
    (recoveryTransaction env claim error now).Returns s outcome s' :=
  returns_bind.mpr ⟨.ok _, s, returns_tryCatch.mpr (.inl (returns_map.mpr
    ⟨_, hs.legible.projection_reads h.projection, rfl⟩)), hrun⟩

/-- Where the projected case is of a legacy workflow, or the check passes, the event is put
back. -/
theorem recovery_commits (hs : Serviced env s) (h : ClaimedIn s filter claim row d prow)
    {error : Raised} (hnow : filter.now ≤ now) (hcode : Nonblank (errorCode error))
    (hpasses : prow.case.effectiveWorkflowVersion = .independentFinance →
      PassesCheck env s claim.decisionId) :
    ∃ s', (recoveryTransaction env claim error now).Commits s (.answer true) s' := by
  obtain ⟨hprocessed, -, hstale, -⟩ := h.ready.2
  by_cases hworkflow : prow.case.effectiveWorkflowVersion = .independentFinance
  · obtain ⟨v, vrow, hguard, hcases, houtbox, hvrow, hcase⟩ :=
      h.guard_returns hs hworkflow (hpasses hworkflow)
    have hrecord := recordOutboxFailureIfCurrent_returns (s := v) (houtbox ▸ h.stored) h.event
      h.ready hnow hcode
    obtain ⟨s', hstatus⟩ := h.status_commits hs
      (v := v.modifyOutbox claim.eventId (OutboxRow.failed (errorCode error)) (fun _ _ => rfl))
      hcases hvrow hcase
    rw [← h.caseId] at hstatus
    exact ⟨s', h.recovery_returns hs (returns_ite.mpr (.inl ⟨hworkflow, returns_tryCatch.mpr (.inl
      (returns_bind.mpr ⟨_, s, getOutboxState_returns h.stored, returns_ite.mpr (.inr
        ⟨h.ready.unrecorded, returns_bind.mpr ⟨d, v, hguard, returns_bind.mpr ⟨true, _, hrecord,
          returns_bind.mpr ⟨(), _, hstatus, returns_done.mpr ⟨rfl, rfl⟩⟩⟩⟩⟩)⟩))⟩))⟩
  · have hrecord : (recordOutboxFailure claim.eventId (errorCode error)).Returns s ()
        (s.modifyOutbox claim.eventId (OutboxRow.failed (errorCode error)) (fun _ _ => rfl)) :=
      returns_bind.mpr ⟨true, _, returns_updateRow.mpr
        (.inl ⟨row, h.stored, ⟨hprocessed, hstale⟩, rfl, rfl⟩), returns_require.mpr ⟨rfl, rfl⟩⟩
    obtain ⟨s', hstatus⟩ := h.status_commits hs
      (v := s.modifyOutbox claim.eventId (OutboxRow.failed (errorCode error)) (fun _ _ => rfl))
      rfl h.projection rfl
    exact ⟨s', h.recovery_returns hs (returns_ite.mpr (.inr ⟨hworkflow, returns_tryCatch.mpr (.inl
      (returns_bind.mpr ⟨(), _, hrecord, returns_bind.mpr ⟨(), _, hstatus,
        returns_done.mpr ⟨rfl, rfl⟩⟩⟩))⟩))⟩

/-- Where the check raises, the recovery leaves everything as it was. -/
theorem recovery_rolls (hs : Serviced env s) (h : ClaimedIn s filter claim row d prow)
    {error e : Raised} (hworkflow : prow.case.effectiveWorkflowVersion = .independentFinance)
    (hraises : (checkExecutionCurrent env d.decisionId).Raises s e) :
    ∃ s', (recoveryTransaction env claim error now).Returns s (.rollback (.failed true e)) s' := by
  rw [h.decisionId] at hraises
  have hrecover : (recoverIndependent env claim (errorCode error) now).Raises s e := by
    refine (getOutboxState_returns h.stored).raises_bind ?_
    rw [if_neg h.ready.unrecorded]
    exact hraises.bind.bind
  obtain ⟨v, hrecover⟩ := hrecover
  exact ⟨v, h.recovery_returns hs (returns_ite.mpr (.inl ⟨hworkflow, returns_tryCatch.mpr (.inr
    ⟨e, v, hrecover, returns_done.mpr ⟨rfl, rfl⟩⟩)⟩))⟩

end ClaimedIn

theorem isSpace_toUpper {c : Char} (h : isSpace c = false) : isSpace c.toUpper = false := by
  by_cases hlower : 97 ≤ c.toNat ∧ c.toNat ≤ 122
  · have hc : c = Char.ofNat c.toNat := (Char.ofNat_toNat c).symm
    obtain ⟨hlow, hhigh⟩ := hlower
    rw [hc]
    interval_cases c.toNat <;> decide
  · have hsame : c.toUpper = c := dif_neg hlower
    rwa [hsame]

/-- The code of an exception whose class has a name is not blank. -/
theorem nonblank_errorCode {error : Raised} (h : Nonblank error.cls.typeName) :
    Nonblank (errorCode error) := by
  obtain ⟨c, hc, hspace⟩ := List.any_eq_true.mp h
  obtain ⟨i, hi⟩ := List.mem_iff_getElem?.mp hc
  have hupper := isSpace_toUpper (c := c) (by simpa using hspace)
  unfold errorCode screamingSnake
  refine List.any_eq_true.mpr ?_
  rw [String.toList_ofList]
  by_cases hbreak : 0 < i ∧ 'A' ≤ c ∧ c ≤ 'Z'
  · refine ⟨'_', List.mem_flatMap.mpr ⟨(c, i), List.mk_mem_zipIdx_iff_getElem?.mpr hi, ?_⟩,
      by decide⟩
    dsimp only
    rw [if_pos hbreak]
    exact List.mem_cons_self
  · refine ⟨c.toUpper,
      List.mem_flatMap.mpr ⟨(c, i), List.mk_mem_zipIdx_iff_getElem?.mpr hi, ?_⟩, ?_⟩
    · dsimp only
      rw [if_neg hbreak]
      exact List.mem_singleton_self _
    · rw [hupper]
      rfl

theorem nonblank_executionProposalStaleError : Nonblank executionProposalStaleError := by
  decide +kernel

/-! ### What a failed attempt answers -/

/-- The attempt claims an event, and its part behind the claim raises. -/
def PlanningAttempt.FailsWith (env : Env) (versions : Option (List WorkflowVersion))
    (a : PlanningAttempt) (s : Store) (claim : OutboxClaim) (error : Raised) : Prop :=
  ((processTransaction env a.planner (a.filter versions) a.eventUuid a.processedAt).transact s).1 =
    .ok (.failed claim error)

/-- The failure is one of a stale Decision: by its exception, or because the check of a case of
the independent workflow does not pass. -/
def FindsStale (env : Env) (s : Store) (claim : OutboxClaim) (error : Raised) : Prop :=
  error.cls = .executionProposalStale ∨
    (∃ row, s.projections.get? (.projection claim.caseId) = some row ∧
      row.case.effectiveWorkflowVersion = .independentFinance) ∧ ¬PassesCheck env s claim.decisionId

/-- The attempt fails over a stale Decision. -/
def PlanningAttempt.Stalls (env : Env) (versions : Option (List WorkflowVersion))
    (a : PlanningAttempt) (s : Store) : Prop :=
  ∃ claim error, a.FailsWith env versions s claim error ∧ FindsStale env s claim error

theorem eventOnly_answers {filter : OutboxFilter} {claim : OutboxClaim} {row : OutboxRow}
    {d : Decision} {prow : CaseProjectionRow} {now : Instant}
    (h : ClaimedIn s filter claim row d prow) (hnow : filter.now ≤ now) :
    ((eventOnlyTransaction claim executionProposalStaleError now).transact s).1 = .ok true := by
  obtain ⟨s', hcommits⟩ := h.eventOnly_commits hnow nonblank_executionProposalStaleError
  rw [transact_of_commits hcommits]

/-- A recovery of a claimed event puts it back and answers yes, or marks the event of a stale
Decision and answers no. -/
theorem recoverFailure_answers {filter : OutboxFilter} {claim : OutboxClaim} {error : Raised}
    {now : Instant} (hs : Serviced env s) (hcand : outboxCandidate s filter = some claim)
    (hnow : filter.now ≤ now) (hcode : Nonblank (errorCode error)) :
    ∃ b, (recoverFailure env claim error now s).1 = .ok b ∧
      (b = false ↔ FindsStale env s claim error) := by
  obtain ⟨row, d, prow, h⟩ := hs.claimed hcand
  have hmark := eventOnly_answers h hnow
  by_cases hstale : error.cls = .executionProposalStale
  · refine ⟨false, ?_, iff_of_true rfl (.inl hstale)⟩
    unfold recoverFailure
    dsimp only
    rw [if_pos hstale, hmark]
    rfl
  · by_cases hpasses : prow.case.effectiveWorkflowVersion = .independentFinance →
        PassesCheck env s claim.decisionId
    · obtain ⟨s', hcommits⟩ := h.recovery_commits hs hnow hcode hpasses
      refine ⟨true, ?_, iff_of_false nofun ?_⟩
      · unfold recoverFailure
        dsimp only
        rw [if_neg hstale, transact_of_commits hcommits]
      · rintro (hraised | ⟨⟨prow', hprow', hworkflow⟩, hcheck⟩)
        · exact hstale hraised
        · obtain rfl := Option.some.inj (h.projection.symm.trans hprow')
          exact hcheck (hpasses hworkflow)
    · obtain ⟨hworkflow, hcheck⟩ := Classical.not_imp.mp hpasses
      refine ⟨false, ?_, iff_of_true rfl (.inr ⟨⟨prow, h.projection, hworkflow⟩, hcheck⟩)⟩
      -- the check of the recovery is what raises
      have hrow : s.projections.get? (.projection d.caseId) = some prow := h.caseId ▸ h.projection
      rcases hs.legible.check_cases h.decision hrow with ⟨token, hreturns, -⟩ | ⟨e, hraises, he⟩
      · exact absurd ⟨_, h.decisionId ▸ hreturns⟩ hcheck
      · obtain ⟨s', hrolls⟩ := h.recovery_rolls hs hworkflow hraises
        unfold recoverFailure
        dsimp only
        rw [if_neg hstale, transact_of_rollback hrolls]
        dsimp only
        rw [if_pos he, hmark]
        rfl

/-! ### The store after an attempt -/

theorem serviced_of_run (h : Run (namedProgram env) Store.empty s) : Serviced env s :=
  ⟨(attended_of_run h).legible, (attended_of_run h).projected,
    Run.invariant (fun hs ⟨_, _, hc⟩ => unclaimed_step hs hc) h fun _ hrow =>
      absurd hrow (Table.notMem_empty _)⟩

/-- A transaction that names no analysis leads from such a store to such a store. -/
theorem serviced_transact {α : Type} {t : Transaction} {p : Sql (Exit α)} (ht : t.NamesAnalysis)
    (hp : t.program env = p.effect) (hs : Serviced env s) : Serviced env (p.transact s).2 := by
  rcases transact_cases p s with h | ⟨a, h⟩
  · rwa [h]
  · have hc : (t.program env).Commits s () (p.transact s).2 := by
      rw [hp]
      exact commits_effect.mpr ⟨a, h⟩
    exact ⟨legible_step hs.legible ht hc, casesProjected_step hs.projected hc,
      unclaimed_step hs.unclaimed hc⟩

theorem serviced_eventOnly (claim : OutboxClaim) (code : String) (now : Instant)
    (hs : Serviced env s) : Serviced env ((eventOnlyTransaction claim code now).transact s).2 :=
  serviced_transact (t := .eventOnlyFailure claim code now) trivial rfl hs

/-- What both transactions of a recovery keep, the recovery keeps. -/
theorem recoverFailure_relates {R : Store → Store → Prop} {claim : OutboxClaim} {error : Raised}
    {now : Instant} (trans : ∀ {a b c}, R a b → R b c → R a c)
    (hevent : ∀ code s, R s ((eventOnlyTransaction claim code now).transact s).2)
    (hrecovery : ∀ s, R s ((recoveryTransaction env claim error now).transact s).2) (s : Store) :
    R s (recoverFailure env claim error now s).2 := by
  have hfirst := hrecovery s
  unfold recoverFailure
  dsimp only
  split
  · exact hevent _ s
  · rcases hrun : (recoveryTransaction env claim error now).transact s with ⟨e | ⟨_⟩ | ⟨b, e⟩, s₁⟩
      <;> rw [hrun] at hfirst
    · exact hfirst
    · exact hfirst
    · -- the recovery raised, and the event alone is recorded
      have hstale := hevent executionProposalStaleError s₁
      have hcode := hevent (errorCode error) s₁
      dsimp only
      split
      · exact trans hfirst hstale
      · split
        · rcases hrun' : (eventOnlyTransaction claim (errorCode error) now).transact s₁
            with ⟨e' | _, s₂⟩ <;> rw [hrun'] at hcode
          · exact trans hfirst hcode
          · exact trans hfirst hcode
        · exact hfirst

theorem serviced_recoverFailure (claim : OutboxClaim) (error : Raised) (now : Instant)
    (hs : Serviced env s) : Serviced env (recoverFailure env claim error now s).2 :=
  recoverFailure_relates (R := fun s s' => Serviced env s → Serviced env s')
    (fun h h' hs => h' (h hs)) (fun code _ => serviced_eventOnly claim code now)
    (fun _ => serviced_transact (t := .recoverFailure claim error now) trivial rfl) s hs

theorem serviced_next (versions : Option (List WorkflowVersion)) (a : PlanningAttempt)
    (hs : Serviced env s) : Serviced env (a.next env versions s).2 := by
  have hattempt : Serviced env ((processTransaction env a.planner (a.filter versions) a.eventUuid
      a.processedAt).transact s).2 :=
    serviced_transact (t := .processOutbox a.planner (a.filter versions) a.eventUuid a.processedAt)
      trivial rfl hs
  show Serviced env (processOutbox env a.planner (a.filter versions) a.eventUuid a.processedAt
    a.failedAt s).2
  unfold processOutbox
  rcases hrun : (processTransaction env a.planner (a.filter versions) a.eventUuid
    a.processedAt).transact s with ⟨e | _ | ⟨_, _, _⟩ | ⟨claim, e⟩, s₁⟩ <;> rw [hrun] at hattempt
  · exact hattempt
  · exact hattempt
  · exact hattempt
  · exact serviced_recoverFailure claim e a.failedAt hattempt

end SupplyResponse
