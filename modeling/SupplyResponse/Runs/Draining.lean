/-
Draining the outbox (`run_worker_until_idle`).

* `OnlyEvent` — an attempt rewrites the row of the event it claimed and no
  other;
* `next_cases` — how an attempt ends: idle, planned, or failed and recovered;
* `Drains` — the loop returns, and every claimable event was attempted;
* `Settling` — the failures that do not keep the loop from that, told by the
  stores in which the attempts begin;
* `failing_planner_never_drains` — a planner that always raises keeps the loop;
* `drains_iff_settling` — a loop drains the outbox where its failures settle,
  and, with a clock that does not go backwards, only there.
-/
import SupplyResponse.Numbers.Sorting
import SupplyResponse.Runs.Recordings
import SupplyResponse.Runs.Recovering
import Mathlib.Data.Prod.Lex

namespace SupplyResponse

open Transact Transact.Prog
open Keyed (keys)

variable {env : Env} {versions : Option (List WorkflowVersion)} {s s' : Store}

/-! ### What an attempt leaves alone -/

/-- The cases, the Decisions and the rows of the other events are as before, and so is what was
to be planned. -/
structure OnlyEvent (eventId : String) (s s' : Store) : Prop where
  cases : s'.cases = s.cases
  decisions : s'.decisions = s.decisions
  rows : ∃ f : OutboxRow → OutboxRow, s'.outbox.rows = s.outbox.rows.map f ∧
    ∀ row, (f row).event = row.event ∧ (row.event.eventId ≠ eventId → f row = row)

namespace OnlyEvent

variable {eventId : String}

theorem refl (s : Store) : OnlyEvent eventId s s :=
  ⟨rfl, rfl, id, (List.map_id _).symm, fun _ => ⟨rfl, fun _ => rfl⟩⟩

theorem trans {a b c : Store} (h : OnlyEvent eventId a b) (h' : OnlyEvent eventId b c) :
    OnlyEvent eventId a c := by
  obtain ⟨f, hf, hsame⟩ := h.rows
  obtain ⟨g, hg, hsame'⟩ := h'.rows
  refine ⟨h'.cases.trans h.cases, h'.decisions.trans h.decisions, g ∘ f, ?_, fun row => ⟨?_, ?_⟩⟩
  · rw [hg, hf, List.map_map]
  · exact (hsame' (f row)).1.trans (hsame row).1
  · intro hne
    show g (f row) = row
    rw [(hsame row).2 hne, (hsame' row).2 hne]

theorem modifyOutbox {f : OutboxRow → OutboxRow}
    {hf : ∀ r, Key.outbox eventId ∈ keys r → keys (f r) = keys r}
    (hevent : ∀ r, (f r).event = r.event) : OnlyEvent eventId s (s.modifyOutbox eventId f hf) := by
  refine ⟨rfl, rfl, fun r => if Key.outbox eventId ∈ keys r then f r else r, rfl,
    fun row => ⟨?_, fun hne => if_neg ?_⟩⟩
  · dsimp only
    split
    · exact hevent row
    · rfl
  · simpa using fun h => hne h.symm

/-- The projections do not matter. -/
theorem projections (h : OnlyEvent eventId s s') (t : Table Key CaseProjectionRow) :
    OnlyEvent eventId s { s' with projections := t } :=
  ⟨h.cases, h.decisions, h.rows⟩

theorem forward (h : OnlyEvent eventId s s') {row : OutboxRow} (hrow : row ∈ s.outbox)
    (hne : row.event.eventId ≠ eventId) : row ∈ s'.outbox := by
  obtain ⟨f, hf, hsame⟩ := h.rows
  rw [Table.mem_def, hf]
  exact List.mem_map.mpr ⟨row, hrow, (hsame row).2 hne⟩

theorem backward (h : OnlyEvent eventId s s') {row' : OutboxRow} (hrow' : row' ∈ s'.outbox) :
    ∃ row ∈ s.outbox, row.event = row'.event ∧ (row'.event.eventId ≠ eventId → row = row') := by
  obtain ⟨f, hf, hsame⟩ := h.rows
  rw [Table.mem_def, hf] at hrow'
  obtain ⟨row, hrow, rfl⟩ := List.mem_map.mp hrow'
  refine ⟨row, hrow, (hsame row).1.symm, fun hne => ((hsame row).2 ?_).symm⟩
  rwa [(hsame row).1] at hne

end OnlyEvent

theorem RecordsFailure.onlyEvent {eventId code : String} (h : RecordsFailure s eventId code s') :
    OnlyEvent eventId s s' := by
  rw [h.effect]
  exact .modifyOutbox fun _ => rfl

theorem Recovers.onlyEvent {claim : OutboxClaim} {code : String} (h : Recovers s claim code s') :
    OnlyEvent claim.eventId s s' := by
  obtain ⟨case, hcase⟩ := h.case
  by_cases hw : case.effectiveWorkflowVersion = .independentFinance
  · obtain ⟨d, s₁, s₂, row, -, hguard, hrecords, -, rfl⟩ := h.independent case hcase hw
    obtain ⟨t, rfl⟩ := hguard.effect
    exact (((OnlyEvent.refl s).projections t).trans hrecords.onlyEvent).projections _
  · obtain ⟨s₁, row, hrecords, -, rfl⟩ := h.legacy case hcase hw
    exact hrecords.onlyEvent.projections _

theorem onlyEvent_eventOnly (claim : OutboxClaim) (code : String) (now : Instant) (s : Store) :
    OnlyEvent claim.eventId s ((eventOnlyTransaction claim code now).transact s).2 := by
  rcases transact_cases (eventOnlyTransaction claim code now) s with h | ⟨b, h⟩
  · rw [h]
    exact .refl s
  · exact (returns_eventOnlyTransaction h).onlyEvent

theorem onlyEvent_recovery (env : Env) (claim : OutboxClaim) (error : Raised) (now : Instant)
    (s : Store) : OnlyEvent claim.eventId s ((recoveryTransaction env claim error now).transact s).2 := by
  rcases transact_cases (recoveryTransaction env claim error now) s with h | ⟨b, h⟩
  · rw [h]
    exact .refl s
  · exact (returns_recoveryTransaction env h).onlyEvent

/-- The recovery of a failed attempt writes the row of its event and the status
of its case. -/
theorem onlyEvent_recoverFailure (claim : OutboxClaim) (error : Raised) (now : Instant)
    (s : Store) : OnlyEvent claim.eventId s (recoverFailure env claim error now s).2 :=
  recoverFailure_relates (R := OnlyEvent claim.eventId) OnlyEvent.trans
    (fun code => onlyEvent_eventOnly claim code now) (onlyEvent_recovery env claim error now) s

theorem InsertsPlan.onlyEvent {eventId : String} {actions : List ExecutionAction}
    (h : InsertsPlan s actions s') : OnlyEvent eventId s s' := by
  rw [h.frame]
  exact ⟨rfl, rfl, (OnlyEvent.refl s).rows⟩

theorem Plans.onlyEvent {planner : ActionPlanner} {claim : OutboxClaim} {decision : Decision}
    {analysis : AnalysisVersion} {actions : List ExecutionAction}
    (h : Plans s planner claim decision analysis actions s') : OnlyEvent claim.eventId s s' := by
  obtain ⟨now, processedAt, row, s₁, s₂, hguard, hinserts, -, rfl⟩ := h.effect
  obtain ⟨t, rfl⟩ := hguard.effect
  have hclaimed : OnlyEvent claim.eventId s
      (s.modifyOutbox claim.eventId (OutboxRow.claimed now) (fun _ _ => rfl)) :=
    .modifyOutbox fun _ => rfl
  have hprocessed : OnlyEvent claim.eventId s₂
      (s₂.modifyOutbox claim.eventId (OutboxRow.processed processedAt) (fun _ _ => rfl)) :=
    .modifyOutbox fun _ => rfl
  exact (((hclaimed.projections t).trans hinserts.onlyEvent).trans hprocessed).projections _

/-! ### How an attempt ends -/

/-- The attempt claims an event, and its part behind the claim raises. -/
def PlanningAttempt.Fails (env : Env) (versions : Option (List WorkflowVersion))
    (a : PlanningAttempt) (s : Store) : Prop :=
  ∃ claim error, a.FailsWith env versions s claim error

theorem returns_claimOutbox_none {filter : OutboxFilter} (h : outboxCandidate s filter = none) :
    (claimOutbox filter).Returns s none s := by
  rw [claimOutbox, returns_select_bind, h]
  exact returns_done.mpr ⟨rfl, rfl⟩

/-- The first ready event is claimed. -/
theorem returns_claimOutbox_some {filter : OutboxFilter} {claim : OutboxClaim}
    (h : outboxCandidate s filter = some claim) :
    (claimOutbox filter).Returns s (some claim)
      (s.modifyOutbox claim.eventId (OutboxRow.claimed filter.now) (fun _ _ => rfl)) := by
  obtain ⟨row, -, -, hrow, hready, hid, -⟩ := outboxCandidate_spec h
  have hget : s.outbox.get? (.outbox claim.eventId) = some row :=
    Table.get?_of_mem hrow (by simp [hid])
  rw [claimOutbox, returns_select_bind, h]
  exact returns_bind.mpr ⟨true, _, returns_updateRow.mpr (.inl ⟨row, hget, hready, rfl, rfl⟩),
    returns_done.mpr ⟨rfl, rfl⟩⟩

/-- The part behind the claim ends with a plan that is committed. -/
theorem returns_attemptClaimed_exit {planner : ActionPlanner} {eventUuid : ℕ → String}
    {processedAt : Instant} {claim : OutboxClaim} {exit : Exit WorkerOutcome}
    (h : (attemptClaimed env planner eventUuid processedAt claim).Returns s exit s') :
    ∃ decision analysis actions, exit = .commit (.planned decision analysis actions) := by
  obtain ⟨_, _, -, h⟩ := returns_bind.mp h
  obtain ⟨decision, _, -, h⟩ := returns_bind.mp h
  obtain ⟨analysis, _, -, h⟩ := returns_bind.mp h
  obtain ⟨actions, _, -, h⟩ := returns_bind.mp h
  obtain ⟨_, _, -, h⟩ := returns_bind.mp h
  obtain ⟨_, _, -, h⟩ := returns_bind.mp h
  obtain ⟨_, _, -, h⟩ := returns_bind.mp h
  exact ⟨decision, analysis, actions, (returns_done.mp h).1⟩

/-- An attempt finds nothing, plans its event, or fails and is recovered. -/
theorem next_cases (env : Env) (versions : Option (List WorkflowVersion)) (a : PlanningAttempt) (s : Store) :
    (outboxCandidate s (a.filter versions) = none ∧ ¬a.Fails env versions s ∧
        a.next env versions s = (.ok false, s)) ∨
      ∃ claim, outboxCandidate s (a.filter versions) = some claim ∧
        ((∃ decision analysis actions s', Plans s a.planner claim decision analysis actions s' ∧
            ¬a.Fails env versions s ∧ a.next env versions s = (.ok true, s')) ∨
          ∃ error, a.FailsWith env versions s claim error ∧
            a.next env versions s = recoverFailure env claim error a.failedAt s) := by
  rcases hcand : outboxCandidate s (a.filter versions) with _ | claim
  · have hidle : (processTransaction env a.planner (a.filter versions) a.eventUuid
        a.processedAt).transact s = (.ok .idle, s) := by
      have hreturns : (processTransaction env a.planner (a.filter versions) a.eventUuid
          a.processedAt).Returns s (.rollback .idle) s :=
        returns_bind.mpr ⟨none, s, returns_claimOutbox_none hcand, returns_done.mpr ⟨rfl, rfl⟩⟩
      exact transact_of_rollback hreturns
    refine .inl ⟨rfl, fun ⟨claim, error, hfails⟩ => ?_, ?_⟩
    · rw [PlanningAttempt.FailsWith, hidle] at hfails
      cases hfails
    · show processOutbox env a.planner (a.filter versions) a.eventUuid a.processedAt a.failedAt s = _
      unfold processOutbox
      rw [hidle]
  · refine .inr ⟨claim, rfl, ?_⟩
    have hclaim := returns_claimOutbox_some hcand
    rcases hrun : (attemptClaimed env a.planner a.eventUuid a.processedAt claim).run
      (s.modifyOutbox claim.eventId (OutboxRow.claimed (a.filter versions).now) (fun _ _ => rfl))
        with ⟨e | exit, s₁⟩
    · have hfailed : (processTransaction env a.planner (a.filter versions) a.eventUuid
          a.processedAt).transact s = (.ok (.failed claim e), s) :=
        transact_of_rollback (returns_bind.mpr ⟨some claim, _, hclaim,
          returns_tryCatch.mpr (.inr ⟨e, s₁, hrun, returns_done.mpr ⟨rfl, rfl⟩⟩)⟩)
      refine .inr ⟨e, by rw [PlanningAttempt.FailsWith, hfailed], ?_⟩
      show processOutbox env a.planner (a.filter versions) a.eventUuid a.processedAt a.failedAt s = _
      unfold processOutbox
      rw [hfailed]
    · obtain ⟨decision, analysis, actions, rfl⟩ := returns_attemptClaimed_exit hrun
      have hcommits : (processTransaction env a.planner (a.filter versions) a.eventUuid
          a.processedAt).Commits s (.planned decision analysis actions) s₁ :=
        returns_bind.mpr ⟨some claim, _, hclaim, returns_tryCatch.mpr (.inl hrun)⟩
      have htransact := transact_of_commits hcommits
      obtain ⟨claim', d, an, acts, heq, hcand', hplans⟩ := returns_processTransaction env hcommits
      obtain rfl : claim = claim' := Option.some.inj (hcand.symm.trans hcand')
      obtain ⟨rfl, rfl, rfl⟩ : decision = d ∧ analysis = an ∧ actions = acts := by
        simpa using heq
      refine .inl ⟨decision, analysis, actions, s₁, hplans, fun ⟨_, _, hfails⟩ => ?_, ?_⟩
      · rw [PlanningAttempt.FailsWith, htransact] at hfails
        cases hfails
      · show processOutbox env a.planner (a.filter versions) a.eventUuid a.processedAt a.failedAt s
          = _
        unfold processOutbox
        rw [htransact]

/-- A failing attempt has claimed an event. -/
theorem candidate_of_fails {a : PlanningAttempt} (h : a.Fails env versions s) :
    ∃ claim, outboxCandidate s (a.filter versions) = some claim := by
  rcases next_cases env versions a s with ⟨-, hnot, -⟩ | ⟨claim, hcand, -⟩
  · exact absurd h hnot
  · exact ⟨claim, hcand⟩

/-! ### Claimable events -/

/-- A ready event whose case a worker may process. -/
def Claimable (filter : OutboxFilter) (s : Store) (eventId : String) : Prop :=
  ∃ row ∈ s.outbox, row.Ready filter ∧ (row.candidate s filter.workflowVersions).isSome ∧
    row.event.eventId = eventId

/-- A row that a worker may claim. -/
structure ClaimableRow (filter : OutboxFilter) (s : Store) (row : OutboxRow) : Prop where
  stored : row ∈ s.outbox
  ready : row.Ready filter
  processable : (row.candidate s filter.workflowVersions).isSome

/-- The place of a row in the order of availability. -/
def OutboxRow.place (row : OutboxRow) : Instant ×ₗ String :=
  toLex (row.event.availableAt, row.event.eventId)

theorem OutboxRow.place_le_iff (a b : OutboxRow) :
    (a.event.availableAt < b.event.availableAt ∨
      a.event.availableAt = b.event.availableAt ∧ a.event.eventId ≤ b.event.eventId) ↔
        a.place ≤ b.place := by
  rw [OutboxRow.place, OutboxRow.place, Prod.Lex.toLex_le_toLex]

theorem eventId_of_candidate {row : OutboxRow} {versions : Option (List WorkflowVersion)}
    {claim : OutboxClaim} (h : row.candidate s versions = some claim) :
    row.event.eventId = claim.eventId := by
  unfold OutboxRow.candidate at h
  obtain ⟨d, -, h⟩ := Option.bind_eq_some_iff.mp h
  obtain ⟨case, -, h⟩ := Option.bind_eq_some_iff.mp h
  split_ifs at h
  rw [← Option.some.inj h]

/-- The claimed event is the first claimable one. -/
theorem candidate_first {filter : OutboxFilter} {claim : OutboxClaim}
    (h : outboxCandidate s filter = some claim) :
    ∃ first, ClaimableRow filter s first ∧ first.event.eventId = claim.eventId ∧
      ∀ row, ClaimableRow filter s row → first.place ≤ row.place := by
  unfold outboxCandidate at h
  obtain ⟨before, first, after, hlist, hfirst, hbefore⟩ := List.findSome?_eq_some_iff.mp h
  have hmem : ∀ row, row ∈ before ++ first :: after ↔ row ∈ s.outbox.rows ∧ row.Ready filter := by
    intro row
    rw [← hlist, List.mem_insertionSort, List.mem_filter, decide_eq_true_iff]
  have htotal := Sorting.total_of_key OutboxRow.place OutboxRow.place_le_iff
  have htrans := Sorting.trans_of_key OutboxRow.place OutboxRow.place_le_iff
  have hsorted : (before ++ first :: after).Pairwise fun a b => a.place ≤ b.place := by
    rw [← hlist]
    exact (List.pairwise_insertionSort _ _).imp fun h => (OutboxRow.place_le_iff _ _).mp h
  obtain ⟨hstored, hready⟩ := (hmem first).mp (List.mem_append_right _ (List.mem_cons_self ..))
  refine ⟨first, ⟨hstored, hready, by rw [hfirst]; rfl⟩, eventId_of_candidate hfirst,
    fun row hrow => ?_⟩
  rcases List.mem_append.mp ((hmem row).mpr ⟨hrow.stored, hrow.ready⟩) with hrow' | hrow'
  · have hprocessable := hrow.processable
    rw [hbefore row hrow'] at hprocessable
    cases hprocessable
  · rcases List.mem_cons.mp hrow' with rfl | hrow'
    · exact le_refl _
    · exact (List.pairwise_cons.mp (List.pairwise_append.mp hsorted).2.1).1 row hrow'

/-- What was ready for an attempt is ready for a later one. -/
theorem ready_later {a b : PlanningAttempt} {row : OutboxRow} (h : row.Ready (a.filter versions))
    (hnow : a.now ≤ b.now) : row.Ready (b.filter versions) := by
  obtain ⟨havailable, hprocessed, hfree, hstale, -⟩ := h
  refine ⟨le_trans havailable hnow, hprocessed, ?_, hstale, (fun _ hid => nomatch hid),
    (fun hf => nomatch hf)⟩
  rcases hfree with hpending | ⟨hclaimed, t, ht, hlt⟩
  · exact .inl hpending
  · exact .inr ⟨hclaimed, t, ht, lt_of_lt_of_le hlt hnow⟩

/-- A worker that finds nothing leaves nothing claimable. -/
theorem not_claimable {filter : OutboxFilter} (h : outboxCandidate s filter = none)
    (eventId : String) : ¬Claimable filter s eventId := by
  rintro ⟨row, hrow, hready, hcand, -⟩
  unfold outboxCandidate at h
  rw [List.findSome?_eq_none_iff] at h
  have hnone := h row (by
    rw [List.mem_insertionSort]
    exact List.mem_filter.mpr ⟨hrow, decide_eq_true hready⟩)
  rw [hnone] at hcand
  cases hcand

/-- An attempt at another event leaves an event claimable. -/
theorem Claimable.others {filter : OutboxFilter} {eventId other : String}
    (h : Claimable filter s eventId) (hothers : OnlyEvent other s s') (hne : eventId ≠ other) :
    Claimable filter s' eventId := by
  obtain ⟨row, hrow, hready, hcand, rfl⟩ := h
  refine ⟨row, hothers.forward hrow hne, hready, ?_, rfl⟩
  unfold OutboxRow.candidate at hcand ⊢
  rwa [hothers.decisions, hothers.cases]

/-- The events that are still to be processed. -/
def unprocessed (s : Store) : ℕ := s.outbox.rows.countP fun row => row.processedAt.isNone

/-- A plan processes its event. -/
theorem unprocessed_lt_of_plans {planner : ActionPlanner} {claim : OutboxClaim} {decision : Decision}
    {analysis : AnalysisVersion} {actions : List ExecutionAction}
    (h : Plans s planner claim decision analysis actions s') : unprocessed s' < unprocessed s := by
  obtain ⟨filter, row, -, hrow, hready, -⟩ := h.ready
  obtain ⟨now, processedAt, prow, s₁, s₂, hguard, hinserts, -, rfl⟩ := h.effect
  obtain ⟨t, rfl⟩ := hguard.effect
  have houtbox : s₂.outbox =
      (s.modifyOutbox claim.eventId (OutboxRow.claimed now) (fun _ _ => rfl)).outbox := by
    rw [hinserts.frame]
  have hget : s₂.outbox.get? (.outbox claim.eventId) = some (OutboxRow.claimed now row) := by
    rw [houtbox, get?_modifyOutbox_self, hrow]
    rfl
  have hlt : (s₂.outbox.modify (.outbox claim.eventId) (OutboxRow.processed processedAt)
      (fun _ _ => rfl)).rows.countP (fun row => row.processedAt.isNone) <
        s₂.outbox.rows.countP fun row => row.processedAt.isNone :=
    Table.countP_modify_lt hget (by simp [hready.2.1]) fun _ _ => rfl
  have heq : (s.outbox.modify (.outbox claim.eventId) (OutboxRow.claimed now)
      (fun _ _ => rfl)).rows.countP (fun row => row.processedAt.isNone) = unprocessed s :=
    Table.countP_modify_of_eq fun _ _ => rfl
  calc _ < s₂.outbox.rows.countP (fun row => row.processedAt.isNone) := hlt
    _ = unprocessed s := by rw [houtbox]; exact heq

/-! ### The loop -/

variable (env versions) (attempts : ℕ → PlanningAttempt)

/-- One turn of the loop. -/
abbrev drainTurn (i : ℕ) : Store → Except Raised Bool × Store := (attempts i).next env versions

/-- The event was claimed by the `n`-th turn of the loop. -/
def Attempted (s : Store) (n : ℕ) (eventId : String) : Prop :=
  ∃ i ≤ n, ∃ claim, outboxCandidate (stateAt (drainTurn env versions attempts) s i)
    ((attempts i).filter versions) = some claim ∧ claim.eventId = eventId

/-- The loop returns, and every event that was claimable in one of its turns, by
the clock of the last turn, was attempted. -/
structure Drains (s : Store) : Prop where
  returns : ∃ fuel s', runWorkerUntilIdle env versions attempts fuel s = some (.ok (), s')
  attempted : ∀ n, EndsAt (drainTurn env versions attempts) s n → ∀ i ≤ n, ∀ eventId,
    Claimable ((attempts n).filter versions) (stateAt (drainTurn env versions attempts) s i)
      eventId → Attempted env versions attempts s n eventId

/-- The clock does not go backwards from one attempt to the next. -/
def InOrder : Prop := ∀ i j, i ≤ j → (attempts i).now ≤ (attempts j).now

/-- Within an attempt the clock does not go backwards, and the classes of the exceptions have
names. -/
structure Ordinary (s : Store) : Prop where
  clock : ∀ i, (attempts i).now ≤ (attempts i).failedAt
  named : ∀ i, Reached (drainTurn env versions attempts) s i → ∀ claim error,
    (attempts i).FailsWith env versions (stateAt (drainTurn env versions attempts) s i) claim
      error → Nonblank error.cls.typeName

/-- What may fail in a loop that drains the outbox. Of the turns that the loop comes to, from some
turn on none fails; and where a turn fails over a stale Decision, one event at most is claimable
in the store in which it begins. -/
structure Settling (s : Store) : Prop where
  settles : ∃ N, ∀ i, N ≤ i → Reached (drainTurn env versions attempts) s i →
    ¬(attempts i).Fails env versions (stateAt (drainTurn env versions attempts) s i)
  alone : ∀ i, Reached (drainTurn env versions attempts) s i →
    (attempts i).Stalls env versions (stateAt (drainTurn env versions attempts) s i) →
    ∀ eventId eventId',
      Claimable ((attempts i).filter versions) (stateAt (drainTurn env versions attempts) s i)
        eventId →
      Claimable ((attempts i).filter versions) (stateAt (drainTurn env versions attempts) s i)
        eventId' → eventId = eventId'

variable {env versions attempts}

/-- The turns that are not failures. -/
theorem answerAt_cases (s : Store) (i : ℕ)
    (hfails : ¬(attempts i).Fails env versions (stateAt (drainTurn env versions attempts) s i)) :
    (answerAt (drainTurn env versions attempts) s i = .ok false ∧
        outboxCandidate (stateAt (drainTurn env versions attempts) s i)
          ((attempts i).filter versions) = none) ∨
      answerAt (drainTurn env versions attempts) s i = .ok true ∧
        unprocessed (stateAt (drainTurn env versions attempts) s (i + 1)) <
          unprocessed (stateAt (drainTurn env versions attempts) s i) := by
  rcases next_cases env versions (attempts i)
    (stateAt (drainTurn env versions attempts) s i) with ⟨hnone, -, hnext⟩ |
      ⟨claim, -, ⟨decision, analysis, actions, s', hplans, -, hnext⟩ | ⟨error, hfails', -⟩⟩
  · exact .inl ⟨by rw [answerAt, drainTurn, hnext], hnone⟩
  · refine .inr ⟨by rw [answerAt, drainTurn, hnext], ?_⟩
    rw [stateAt, drainTurn, hnext]
    exact unprocessed_lt_of_plans hplans
  · exact absurd ⟨_, _, hfails'⟩ hfails

/-- A turn works on the event it claimed. -/
theorem onlyEvent_turn {i : ℕ} {s : Store}
    (ha : answerAt (drainTurn env versions attempts) s i = .ok true) :
    ∃ claim, outboxCandidate (stateAt (drainTurn env versions attempts) s i)
        ((attempts i).filter versions) = some claim ∧
      OnlyEvent claim.eventId (stateAt (drainTurn env versions attempts) s i)
        (stateAt (drainTurn env versions attempts) s (i + 1)) := by
  rcases next_cases env versions (attempts i)
    (stateAt (drainTurn env versions attempts) s i) with ⟨-, -, hnext⟩ |
      ⟨claim, hcand, ⟨decision, analysis, actions, s', hplans, -, hnext⟩ | ⟨error, -, hnext⟩⟩
  · rw [answerAt, drainTurn, hnext] at ha
    cases ha
  · refine ⟨claim, hcand, ?_⟩
    rw [stateAt, drainTurn, hnext]
    exact hplans.onlyEvent
  · refine ⟨claim, hcand, ?_⟩
    rw [stateAt, drainTurn, hnext]
    exact onlyEvent_recoverFailure claim error _ _

/-- An event that is never claimed stays claimable. -/
theorem Claimable.of_not_attempted {filter : OutboxFilter} {n i : ℕ} {eventId : String}
    (hreached : Reached (drainTurn env versions attempts) s n) (hi : i ≤ n)
    (hnot : ¬Attempted env versions attempts s n eventId)
    (h : Claimable filter (stateAt (drainTurn env versions attempts) s i) eventId) :
    Claimable filter (stateAt (drainTurn env versions attempts) s n) eventId := by
  refine stateAt_relates (R := fun a b => Claimable filter a eventId → Claimable filter b eventId)
    (fun _ => id) (fun hab hbc ha => hbc (hab ha)) hi (fun k _ hk hclaimable => ?_) h
  obtain ⟨claim, hcand, honly⟩ := onlyEvent_turn (hreached k hk)
  exact hclaimable.others honly fun heq => hnot ⟨k, Nat.le_of_lt hk, claim, hcand, heq.symm⟩

/-- The claimed event was claimable. -/
theorem claimable_of_candidate {filter : OutboxFilter} {claim : OutboxClaim}
    (h : outboxCandidate s filter = some claim) : Claimable filter s claim.eventId := by
  obtain ⟨first, hfirst, hid, -⟩ := candidate_first h
  exact ⟨first, hfirst.stored, hfirst.ready, hfirst.processable, hid⟩

/-- The stores of all turns are stores of the services. -/
theorem serviced_stateAt (h : Serviced env s) (i : ℕ) :
    Serviced env (stateAt (drainTurn env versions attempts) s i) := by
  induction i with
  | zero => exact h
  | succ i ih => exact serviced_next versions (attempts i) ih

/-- A failing turn does not raise, and answers no exactly over a stale Decision. -/
theorem answerAt_of_fails {i : ℕ} (hs : Serviced env s) (ho : Ordinary env versions attempts s)
    (hi : Reached (drainTurn env versions attempts) s i)
    (hfails : (attempts i).Fails env versions (stateAt (drainTurn env versions attempts) s i)) :
    ∃ b, answerAt (drainTurn env versions attempts) s i = .ok b ∧
      (b = false ↔
        (attempts i).Stalls env versions (stateAt (drainTurn env versions attempts) s i)) := by
  rcases next_cases env versions (attempts i)
    (stateAt (drainTurn env versions attempts) s i) with ⟨-, hnot, -⟩ |
      ⟨claim, hcand, ⟨_, _, _, _, -, hnot, -⟩ | ⟨error, hfailed, hnext⟩⟩
  · exact absurd hfails hnot
  · exact absurd hfails hnot
  · have hcode := nonblank_errorCode (ho.named i hi claim error hfailed)
    obtain ⟨b, hb, hstale⟩ := recoverFailure_answers (serviced_stateAt hs i) hcand (ho.clock i) hcode
    refine ⟨b, by rw [answerAt, drainTurn, hnext, hb], hstale.trans ⟨fun h => ?_, ?_⟩⟩
    · exact ⟨claim, error, hfailed, h⟩
    · rintro ⟨claim', error', hfailed', h⟩
      have heq := hfailed'.symm.trans hfailed
      obtain ⟨rfl, rfl⟩ : claim' = claim ∧ error' = error := by simpa using heq
      exact h

/-- A loop whose failures settle returns, after it attempted every claimable event. -/
theorem drains_of_settling (hs : Serviced env s) (ho : Ordinary env versions attempts s)
    (h : Settling env versions attempts s) : Drains env versions attempts s := by
  obtain ⟨N, hsettles⟩ := h.settles
  refine ⟨loop_eq_ok.mpr (exists_endsAt unprocessed (fun i hi => ?_) N fun i hN hi htrue => ?_),
    fun n hends i hi eventId hc => ?_⟩
  · by_cases hfails : (attempts i).Fails env versions
      (stateAt (drainTurn env versions attempts) s i)
    · obtain ⟨b, ha, -⟩ := answerAt_of_fails hs ho hi hfails
      exact ⟨b, ha⟩
    · rcases answerAt_cases s i hfails with ⟨ha, -⟩ | ⟨ha, -⟩
      · exact ⟨false, ha⟩
      · exact ⟨true, ha⟩
  · -- behind the last failure, every turn that goes on has planned its event
    rcases answerAt_cases s i (hsettles i hN hi) with ⟨ha, -⟩ | ⟨-, hlt⟩
    · rw [ha] at htrue
      cases htrue
    · exact hlt
  · by_contra hnot
    have hlast := hc.of_not_attempted hends.reached hi hnot
    by_cases hfails : (attempts n).Fails env versions
      (stateAt (drainTurn env versions attempts) s n)
    · obtain ⟨b, ha, hstale⟩ := answerAt_of_fails hs ho hends.reached hfails
      obtain rfl : b = false := Except.ok.inj (ha.symm.trans hends.answer)
      -- the stale event is the claimed one, and no other is claimable
      obtain ⟨claim, hcand⟩ := candidate_of_fails hfails
      exact hnot ⟨n, Nat.le_refl n, claim, hcand,
        h.alone n hends.reached (hstale.mp rfl) _ _ (claimable_of_candidate hcand) hlast⟩
    · rcases answerAt_cases s n hfails with ⟨-, hnone⟩ | ⟨ha, -⟩
      · exact not_claimable hnone eventId hlast
      · rw [hends.answer] at ha
        cases ha

/-! ### What a loop that drains has claimed -/

/-- What is claimable by the clock of a later attempt was so before the turn. -/
theorem ClaimableRow.before_turn {k : ℕ} {b : PlanningAttempt} {row' : OutboxRow}
    (ha : answerAt (drainTurn env versions attempts) s k = .ok true)
    (hnow : (attempts k).now ≤ b.now)
    (h : ClaimableRow (b.filter versions) (stateAt (drainTurn env versions attempts) s (k + 1))
      row') :
    ∃ row, ClaimableRow (b.filter versions) (stateAt (drainTurn env versions attempts) s k) row ∧
      row.event = row'.event := by
  obtain ⟨claim, hcand, honly⟩ := onlyEvent_turn ha
  obtain ⟨row, hrow, hevent, hsame⟩ := honly.backward h.stored
  by_cases hid : row'.event.eventId = claim.eventId
  · -- the row is the one that the turn claimed
    obtain ⟨first, hfirst, hfid, -⟩ := candidate_first hcand
    obtain rfl : row = first := Table.eq_of_key (k := .outbox claim.eventId) hrow hfirst.stored
      (by simp [hevent, hid]) (by simp [hfid])
    exact ⟨row, ⟨hrow, ready_later hfirst.ready hnow, hfirst.processable⟩, hevent⟩
  · obtain rfl := hsame hid
    refine ⟨row, ⟨hrow, h.ready, ?_⟩, rfl⟩
    have hprocessable := h.processable
    unfold OutboxRow.candidate at hprocessable ⊢
    rwa [honly.decisions, honly.cases] at hprocessable

theorem ClaimableRow.before_turns {i j : ℕ} {row' : OutboxRow}
    (hreached : Reached (drainTurn env versions attempts) s i)
    (hclock : InOrder attempts) (hj : j ≤ i)
    (h : ClaimableRow ((attempts i).filter versions)
      (stateAt (drainTurn env versions attempts) s i) row') :
    ∃ row, ClaimableRow ((attempts i).filter versions)
      (stateAt (drainTurn env versions attempts) s j) row ∧ row.event = row'.event := by
  refine stateAt_relates (R := fun a b => ∀ row', ClaimableRow ((attempts i).filter versions) b
    row' → ∃ row, ClaimableRow ((attempts i).filter versions) a row ∧ row.event = row'.event)
      (fun _ row' h => ⟨row', h, rfl⟩) (fun hab hbc row' h => ?_) hj (fun k _ hk row' h => ?_) row' h
  · obtain ⟨row, hrow, hevent⟩ := hbc row' h
    obtain ⟨first, hfirst, hevent'⟩ := hab row hrow
    exact ⟨first, hfirst, hevent'.trans hevent⟩
  · exact h.before_turn (hreached k hk) (hclock k _ hk.le)

/-- Where the clock does not go backwards, an event that was claimed before and is claimable again
comes first. -/
theorem eventId_eq_of_claimed {i j : ℕ} {claim claim' : OutboxClaim} {row : OutboxRow}
    (hs : Serviced env s) (hreached : Reached (drainTurn env versions attempts) s i)
    (hclock : InOrder attempts) (hj : j ≤ i)
    (hcand : outboxCandidate (stateAt (drainTurn env versions attempts) s i)
      ((attempts i).filter versions) = some claim)
    (hcand' : outboxCandidate (stateAt (drainTurn env versions attempts) s j)
      ((attempts j).filter versions) = some claim')
    (hrow : ClaimableRow ((attempts i).filter versions)
      (stateAt (drainTurn env versions attempts) s i) row)
    (hid : row.event.eventId = claim'.eventId) : claim'.eventId = claim.eventId := by
  obtain ⟨first, hfirst, hfid, hbefore⟩ := candidate_first hcand
  obtain ⟨earlier, hearlier, heid, hbefore'⟩ := candidate_first hcand'
  obtain ⟨frow, hfrow, hfevent⟩ := hfirst.before_turns hreached hclock hj
  obtain ⟨erow, herow, heevent⟩ := hrow.before_turns hreached hclock hj
  obtain rfl : erow = earlier := Table.eq_of_key (k := .outbox claim'.eventId) herow.stored
    hearlier.stored (by simp [heevent, hid]) (by simp [heid])
  have hplace : frow.place ≤ erow.place := by
    have h := hbefore row hrow
    unfold OutboxRow.place at h ⊢
    rwa [hfevent, heevent]
  -- the first event of the later turn was there for the earlier one
  have havailable : frow.event.availableAt ≤ (attempts j).now :=
    le_trans (Prod.Lex.monotone_fst _ _ hplace) hearlier.ready.1
  have hpending : frow.claimStatus = .pending := by
    rcases hfrow.ready.2.2.1 with hpending | ⟨hclaimed, -⟩
    · exact hpending
    · exact absurd hclaimed ((serviced_stateAt hs j).unclaimed frow hfrow.stored)
  have hready : frow.Ready ((attempts j).filter versions) :=
    ⟨havailable, hfrow.ready.2.1, .inl hpending, hfrow.ready.2.2.2.1, (fun _ hid => nomatch hid),
      (fun hf => nomatch hf)⟩
  have hsame := le_antisymm (hbefore' frow ⟨hfrow.stored, hready, hfrow.processable⟩) hplace
  rw [← heid, ← hfid, ← hfevent]
  exact congrArg (fun place => (ofLex place).2) hsame

/-- The failures of a loop that drains the outbox settle, where the clock does not go backwards. -/
theorem settling_of_drains (hs : Serviced env s) (ho : Ordinary env versions attempts s)
    (hclock : InOrder attempts) (h : Drains env versions attempts s) :
    Settling env versions attempts s := by
  obtain ⟨n, hends⟩ := loop_eq_ok.mp h.returns
  refine ⟨⟨n + 1, fun i hn hi => ?_⟩, fun i hi hstalls => ?_⟩
  · -- the loop does not come to a turn behind its last
    have htrue := hi n (by omega)
    rw [hends.answer] at htrue
    cases htrue
  · have hfails : (attempts i).Fails env versions
        (stateAt (drainTurn env versions attempts) s i) := by
      obtain ⟨claim, error, hfailed, -⟩ := hstalls
      exact ⟨claim, error, hfailed⟩
    obtain ⟨b, ha, hstale⟩ := answerAt_of_fails hs ho hi hfails
    obtain rfl := hstale.mpr hstalls
    obtain ⟨claim, hcand⟩ := candidate_of_fails hfails
    have hone : ∀ eventId, Claimable ((attempts i).filter versions)
        (stateAt (drainTurn env versions attempts) s i) eventId → eventId = claim.eventId := by
      intro eventId hc
      obtain ⟨j, hj, claim', hcand', rfl⟩ := h.attempted i ⟨hi, ha⟩ i (Nat.le_refl i) eventId hc
      obtain ⟨row, hrow, hready, hprocessable, hid⟩ := hc
      exact eventId_eq_of_claimed hs hi hclock hj hcand hcand' ⟨hrow, hready, hprocessable⟩ hid
    intro eventId eventId' hc hc'
    rw [hone eventId hc, hone eventId' hc']

/-! ### A planner that always fails -/

theorem Keeps.modifyOutbox {eventId : String} {f : OutboxRow → OutboxRow}
    {hf : ∀ r, Key.outbox eventId ∈ keys r → keys (f r) = keys r} :
    Keeps s (s.modifyOutbox eventId f hf) := by
  refine ⟨⟨id, id, id, id, id, id⟩, fun _ => rfl, fun _ => ?_⟩
  unfold hasEvent Store.modifyOutbox
  rw [Table.get?_modify, Option.isSome_map]

theorem Keeps.projections (t : Table Key CaseProjectionRow) : Keeps s { s with projections := t } :=
  ⟨⟨id, id, id, id, id, id⟩, fun _ => rfl, fun _ => Iff.rfl⟩

/-- The one event of the outbox waits to be planned: its Decision, of a legacy
case, can be read and guarded. -/
structure Waits (env : Env) (event : ActionPlanningRequested) (d : Decision) (c : CaseInstance)
    (a : AnalysisVersion) (s : Store) : Prop where
  row : ∃ row, s.outbox.rows = [row] ∧ row.event = event ∧ row.claimStatus = .pending ∧
    row.processedAt = none ∧ row.lastError ≠ some executionProposalStaleError
  decision : s.decisions.get? (.decision event.decisionId) = some d
  lineage : d.caseId = event.caseId ∧ d.analysisId = event.analysisId
  approved : d.kind = .approved ∧ d.approvalPolicyVersion ≠ WorkflowVersion.independentFinance.value
  intact : Intact env s d
  case : s.cases.get? (.case event.caseId) = some c
  legacy : c.effectiveWorkflowVersion ≠ .independentFinance
  analysis : (getAnalysis env d.analysisId).Returns s a s
  projection : ∃ row, s.projections.get? (.projection event.caseId) = some row ∧
    row.case.caseId = row.caseId ∧ row.case.SameProvenance c ∧
    row.case.runtimeMode = env.runtimeMode

namespace Waits

variable {event : ActionPlanningRequested} {d : Decision} {c : CaseInstance} {a : AnalysisVersion}

/-- The claim of the waiting event. -/
@[reducible] def claim (event : ActionPlanningRequested) : OutboxClaim :=
  ⟨event.eventId, event.decisionId, event.caseId, event.analysisId⟩

theorem candidate (h : Waits env event d c a s) {now : Instant} (hnow : event.availableAt ≤ now) :
    outboxCandidate s ⟨now, none, true, none⟩ = some (claim event) := by
  obtain ⟨row, hrows, rfl, hstatus, hprocessed, herror⟩ := h.row
  have hready : row.Ready ⟨now, none, true, none⟩ :=
    ⟨hnow, hprocessed, .inl hstatus, herror, (fun _ hid => nomatch hid), (fun hf => nomatch hf)⟩
  have hcandidate : row.candidate s none = some (claim row.event) := by
    simp [OutboxRow.candidate, h.decision, h.case, h.lineage]
  unfold outboxCandidate
  rw [hrows, List.filter_cons_of_pos (by simpa using hready)]
  simp [hcandidate]

/-- The event is what its row was claimed for. -/
theorem get?_row (h : Waits env event d c a s) : ∃ row,
    s.outbox.get? (.outbox event.eventId) = some row ∧ row.event = event ∧
      row.processedAt = none ∧ row.lastError ≠ some executionProposalStaleError := by
  obtain ⟨row, hrows, rfl, -, hprocessed, herror⟩ := h.row
  refine ⟨row, Table.get?_of_mem ?_ (by simp), rfl, hprocessed, herror⟩
  rw [Table.mem_def, hrows]
  exact List.mem_singleton_self row

/-- The part behind the claim raises what the planner raises. -/
theorem raises_attempt (h : Waits env event d c a s) {planner : ActionPlanner} {e : Raised}
    (hplanner : planner d a = .error e) (eventUuid : ℕ → String) (now processedAt : Instant) :
    (attemptClaimed env planner eventUuid processedAt (claim event)).Raises
      (s.modifyOutbox event.eventId (OutboxRow.claimed now) (fun _ _ => rfl)) e := by
  obtain ⟨row, hrow, hevent, hprocessed, -⟩ := h.get?_row
  have hkeeps : Keeps s (s.modifyOutbox event.eventId (OutboxRow.claimed now) (fun _ _ => rfl)) :=
    .modifyOutbox
  have hd : d ∈ s.decisions := Table.mem_of_get? h.decision
  have hvalid : (validateClaimedOutbox (claim event)).Returns
      (s.modifyOutbox event.eventId (OutboxRow.claimed now) (fun _ _ => rfl)) ()
      (s.modifyOutbox event.eventId (OutboxRow.claimed now) (fun _ _ => rfl)) := by
    refine returns_getRow_bind.mpr ⟨OutboxRow.claimed now row, ?_, returns_require.mpr ⟨?_, rfl⟩⟩
    · rw [get?_modifyOutbox_self, hrow]
      rfl
    · exact ⟨rfl, hprocessed, by rw [hevent], by rw [hevent], by rw [hevent], by rw [hevent]⟩
  have hread : (getDecision env event.decisionId).Returns
      (s.modifyOutbox event.eventId (OutboxRow.claimed now) (fun _ _ => rfl)) d
      (s.modifyOutbox event.eventId (OutboxRow.claimed now) (fun _ _ => rfl)) :=
    returns_getRow_bind.mpr ⟨d, h.decision, returns_bind.mpr ⟨(), _,
      (h.intact.keeps hd hkeeps).returns, returns_done.mpr ⟨rfl, rfl⟩⟩⟩
  have hcheck : (checkExecutionCurrent env event.decisionId).Returns
      (s.modifyOutbox event.eventId (OutboxRow.claimed now) (fun _ _ => rfl)) (d, none)
      (s.modifyOutbox event.eventId (OutboxRow.claimed now) (fun _ _ => rfl)) := by
    refine returns_bind.mpr ⟨d, _, hread, returns_require_bind.mpr ⟨h.approved.1, ?_⟩⟩
    exact returns_ite.mpr (.inr ⟨h.approved.2, returns_done.mpr ⟨rfl, rfl⟩⟩)
  have hguard : (guardExecutionCurrent env event.decisionId).Returns
      (s.modifyOutbox event.eventId (OutboxRow.claimed now) (fun _ _ => rfl)) d
      (s.modifyOutbox event.eventId (OutboxRow.claimed now) (fun _ _ => rfl)) :=
    returns_bind.mpr ⟨(d, none), _, hcheck, returns_bind.mpr ⟨(), _, returns_done.mpr ⟨rfl, rfl⟩,
      returns_done.mpr ⟨rfl, rfl⟩⟩⟩
  have hanalysis := (lasting_getAnalysis env d.analysisId).lasts hkeeps.grows h.analysis
  refine hvalid.raises_bind (hguard.raises_bind (hanalysis.raises_bind (Raises.bind ?_)))
  rw [hplanner]
  exact raises_raise

/-- An event whose attempt was recorded as failed waits again. -/
theorem failed (h : Waits env event d c a s) {code : String}
    (hcode : code ≠ executionProposalStaleError) {prow : CaseProjectionRow}
    (hprow : s.projections.get? (.projection event.caseId) = some prow)
    (hid : prow.case.caseId = prow.caseId) :
    Waits env event d c a
      { s.modifyOutbox event.eventId (OutboxRow.failed code) (fun _ _ => rfl) with
        projections := s.projections.modify (.projection event.caseId)
          (fun r => { r with case := prow.case.withStatus .actionPlanning }) (fun _ _ => rfl) } := by
  obtain ⟨row, hrows, hevent, -, hprocessed, -⟩ := h.row
  obtain ⟨prow', hprow', -, hprov, hmode⟩ := h.projection
  obtain rfl := Option.some.inj (hprow.symm.trans hprow')
  have hkeeps : Keeps s
      (s.modifyOutbox event.eventId (OutboxRow.failed code) (fun _ _ => rfl)) := .modifyOutbox
  have hd : d ∈ s.decisions := Table.mem_of_get? h.decision
  refine ⟨⟨OutboxRow.failed code row, ?_, hevent, rfl, hprocessed, ?_⟩, h.decision, h.lineage,
    h.approved, ?_, h.case, h.legacy, ?_, ?_⟩
  · have hk : Key.outbox event.eventId ∈ keys row := by simp [hevent]
    show s.outbox.rows.map _ = _
    rw [hrows, List.map_singleton, if_pos hk]
  · simpa using hcode
  · exact h.intact.keeps hd (hkeeps.trans (.projections _))
  · exact (lasting_getAnalysis env d.analysisId).lasts (hkeeps.trans (.projections _)).grows
      h.analysis
  · refine ⟨{ prow with case := prow.case.withStatus .actionPlanning }, ?_, hid, hprov, hmode⟩
    dsimp only
    rw [Table.get?_modify_self, hprow]
    rfl

/-- The recovery puts the event back. -/
theorem commits_recovery (h : Waits env event d c a s) {e : Raised}
    (he : errorCode e ≠ executionProposalStaleError) (now : Instant) :
    ∃ s', (recoveryTransaction env (claim event) e now).Commits s (.answer true) s' ∧
      Waits env event d c a s' := by
  obtain ⟨row, hrow, hevent, hprocessed, herror⟩ := h.get?_row
  obtain ⟨prow, hprow, hid, hprov, hmode⟩ := h.projection
  obtain ⟨p, hp, hcase⟩ := returns_getProjection_of_row hprow h.case hid hprov hmode
  have hlegacy : p.case.effectiveWorkflowVersion ≠ .independentFinance := by
    rw [hcase, hprov.2.2.2.2.2.2.2]
    exact h.legacy
  have hrecord : (recordOutboxFailure event.eventId (errorCode e)).Returns s ()
      (s.modifyOutbox event.eventId (OutboxRow.failed (errorCode e)) (fun _ _ => rfl)) :=
    returns_bind.mpr ⟨true, _, returns_updateRow.mpr
      (.inl ⟨row, hrow, ⟨hprocessed, herror⟩, rfl, rfl⟩), returns_require.mpr ⟨rfl, rfl⟩⟩
  have hagain : ∃ q, (getProjection env event.caseId).Returns
      (s.modifyOutbox event.eventId (OutboxRow.failed (errorCode e)) (fun _ _ => rfl)) q
      (s.modifyOutbox event.eventId (OutboxRow.failed (errorCode e)) (fun _ _ => rfl)) ∧
        q.case = prow.case :=
    returns_getProjection_of_row hprow h.case hid hprov hmode
  obtain ⟨q, hq, hcase'⟩ := hagain
  have hstatus : ∃ s', (markActionPlanningFailed env event.caseId).Returns
      (s.modifyOutbox event.eventId (OutboxRow.failed (errorCode e)) (fun _ _ => rfl)) () s' :=
    ⟨_, returns_bind.mpr ⟨q, _, hq, returns_updateExisting.mpr ⟨⟨prow, hprow⟩, rfl⟩⟩⟩
  obtain ⟨s', hstatus⟩ := hstatus
  refine ⟨s', returns_bind.mpr ⟨.ok p, s, returns_tryCatch.mpr (.inl (returns_map.mpr
    ⟨p, hp, rfl⟩)), returns_ite.mpr (.inr ⟨hlegacy, returns_tryCatch.mpr (.inl ?_)⟩)⟩, ?_⟩
  · exact returns_bind.mpr ⟨(), _, hrecord, returns_bind.mpr ⟨(), _, hstatus,
      returns_done.mpr ⟨rfl, rfl⟩⟩⟩
  · obtain ⟨prow', hprow', -, rfl⟩ := returns_setCaseStatus env hstatus
    obtain rfl := Option.some.inj (hprow.symm.trans hprow')
    exact h.failed he hprow hid

/-- An attempt with a planner that fails answers yes, and leaves the event
waiting. -/
theorem next (h : Waits env event d c a s) {x : PlanningAttempt} {e : Raised}
    (hplanner : x.planner d a = .error e) (hnow : event.availableAt ≤ x.now)
    (hstale : e.cls ≠ .executionProposalStale) (he : errorCode e ≠ executionProposalStaleError) :
    ∃ s', x.Fails env none s ∧ x.next env none s = (.ok true, s') ∧ Waits env event d c a s' := by
  obtain ⟨s', hcommits, hwaits⟩ := h.commits_recovery he x.failedAt
  obtain ⟨s₁, hraises⟩ := h.raises_attempt hplanner x.eventUuid x.now x.processedAt
  have hfailed : (processTransaction env x.planner (x.filter none) x.eventUuid
      x.processedAt).transact s = (.ok (.failed (claim event) e), s) :=
    transact_of_rollback (returns_bind.mpr ⟨some (claim event), _,
      returns_claimOutbox_some (h.candidate hnow),
      returns_tryCatch.mpr (.inr ⟨e, s₁, hraises, returns_done.mpr ⟨rfl, rfl⟩⟩)⟩)
  refine ⟨s', ⟨claim event, e, by rw [PlanningAttempt.FailsWith, hfailed]⟩, ?_, hwaits⟩
  show processOutbox env x.planner (x.filter none) x.eventUuid x.processedAt x.failedAt s = _
  unfold processOutbox
  rw [hfailed]
  show recoverFailure env (claim event) e x.failedAt s = _
  unfold recoverFailure
  dsimp only
  rw [if_neg hstale, transact_of_commits hcommits]

/-- A loop whose planner always fails comes to every turn. -/
theorem endless (h : Waits env event d c a s) {attempts : ℕ → PlanningAttempt}
    (hplanner : ∀ i, ∃ e, (attempts i).planner d a = .error e ∧ e.cls ≠ .executionProposalStale ∧
      errorCode e ≠ executionProposalStaleError)
    (hnow : ∀ i, event.availableAt ≤ (attempts i).now) (n : ℕ) :
    ¬EndsAt (drainTurn env none attempts) s n := by
  have hwaits : ∀ i, Waits env event d c a (stateAt (drainTurn env none attempts) s i) := by
    intro i
    induction i with
    | zero => exact h
    | succ i ih =>
      obtain ⟨e, hfails, hstale, he⟩ := hplanner i
      obtain ⟨s', -, hnext, hwaits⟩ := ih.next hfails (hnow i) hstale he
      rw [stateAt, drainTurn, hnext]
      exact hwaits
  intro hends
  obtain ⟨e, hfails, hstale, he⟩ := hplanner n
  obtain ⟨s', -, hnext, -⟩ := (hwaits n).next hfails (hnow n) hstale he
  have hanswer := hends.answer
  rw [answerAt, drainTurn, hnext] at hanswer
  cases hanswer

end Waits

/-- Attempts whose planner always raises. -/
def failingAttempts (i : ℕ) : PlanningAttempt where
  planner _ _ := .error ⟨.plannerError "ValueError", ""⟩
  eventUuid n := toString n
  now := i
  processedAt := i
  failedAt := i

/-- A legacy case is analyzed and its response approved. -/
def sampleRecorded : List Transaction :=
  sampleLegacyTransactions ++ [.record sampleRecord sampleAlex "1" "1" 0]

/-- Its outbox holds one pending event, of an approved Decision of a legacy case. -/
def sampleWaits (s : Store) : Bool :=
  s.outbox.rows.head?.any fun row =>
    decide (s.outbox.rows = [row] ∧ row.event.availableAt = 0 ∧ row.claimStatus = .pending ∧
      row.processedAt = none ∧ row.lastError = none) &&
    (s.decisions.get? (.decision row.event.decisionId)).any fun d =>
    (s.cases.get? (.case row.event.caseId)).any fun c =>
    (s.projections.get? (.projection row.event.caseId)).any fun p =>
    (getAnalysis sampleEnv row.event.analysisId).checkReturned s fun _ _ =>
      decide ((d.caseId = row.event.caseId ∧ d.analysisId = row.event.analysisId ∧
        d.kind = .approved ∧
        d.approvalPolicyVersion ≠ WorkflowVersion.independentFinance.value) ∧
        c.effectiveWorkflowVersion ≠ .independentFinance ∧
        p.case.caseId = p.caseId ∧ p.case.SameProvenance c ∧
        p.case.runtimeMode = sampleEnv.runtimeMode)

theorem sampleRecorded_waits :
    ∃ event d c a, event.availableAt = 0 ∧ Waits sampleEnv event d c a
      (history (Transaction.program sampleEnv) sampleRecorded Store.empty) := by
  have hintact := (allIntact_of_run (Run.history (Transaction.program sampleEnv) sampleRecorded
    Store.empty)).intact
  have hstate : sampleWaits (history (Transaction.program sampleEnv) sampleRecorded Store.empty) =
      true := by
    decide +kernel
  revert hstate hintact
  generalize history (Transaction.program sampleEnv) sampleRecorded Store.empty = s
  intro hintact hstate
  obtain ⟨row, -, hstate⟩ := (Option.any_eq_true _ _).mp hstate
  obtain ⟨hrow, hstate⟩ := Bool.and_eq_true_iff.mp hstate
  obtain ⟨hrows, havailable, hstatus, hprocessed, herror⟩ := of_decide_eq_true hrow
  obtain ⟨d, hd, hstate⟩ := (Option.any_eq_true _ _).mp hstate
  obtain ⟨c, hc, hstate⟩ := (Option.any_eq_true _ _).mp hstate
  obtain ⟨p, hp, hstate⟩ := (Option.any_eq_true _ _).mp hstate
  obtain ⟨a, s', ha, hstate⟩ := exists_of_checkReturned hstate
  obtain ⟨⟨hcase, hanalysis, hkind, hpolicy⟩, hlegacy, hid, hprov, hmode⟩ :=
    of_decide_eq_true hstate
  obtain rfl := (readOnly_getAnalysis sampleEnv _).eq ha
  refine ⟨row.event, d, c, a, havailable, ⟨row, hrows, rfl, hstatus, hprocessed, ?_⟩, hd,
    ⟨hcase, hanalysis⟩, ⟨hkind, hpolicy⟩, hintact d (Table.mem_of_get? hd), hc, hlegacy, ?_,
    p, hp, hid, hprov, hmode⟩
  · rw [herror]
    decide
  · rw [hanalysis]
    exact ha

/-- The outbox of an approved legacy case is never drained by a planner that
always raises: the loop has no last turn. -/
theorem failing_planner_never_drains :
    ∃ s, Run (Transaction.program sampleEnv) Store.empty s ∧
      ¬Drains sampleEnv none failingAttempts s := by
  obtain ⟨event, d, c, a, havailable, hwaits⟩ := sampleRecorded_waits
  refine ⟨_, Run.history _ sampleRecorded _, fun hdrains => ?_⟩
  obtain ⟨n, hends⟩ := loop_eq_ok.mp hdrains.returns
  refine hwaits.endless (fun _ => ⟨_, rfl, by decide, by decide +kernel⟩) (fun i => ?_) n hends
  rw [havailable]
  exact Int.natCast_nonneg i

/-! ### Failures that settle -/

/-- The first attempt has a planner that raises; the later ones plan. -/
def retriedAttempts (i : ℕ) : PlanningAttempt :=
  if i = 0 then failingAttempts 0
  else
    { planner := planActions sampleEnv
      eventUuid := fun n => toString i ++ toString n
      now := i
      processedAt := i
      failedAt := i }

theorem namesAnalysis_sampleRecorded : ∀ t ∈ sampleRecorded, t.NamesAnalysis := by
  simp only [sampleRecorded, sampleLegacyTransactions, List.cons_append, List.nil_append,
    List.forall_mem_cons, Transaction.NamesAnalysis]
  refine ⟨trivial, ⟨?_, ?_⟩, trivial, fun _ h => absurd h List.not_mem_nil⟩
  · show IsIdentifier "analysis"
    decide
  · exact isSha256_hexText (by decide)

/-- An attempt fails, by an exception with a name, over a Decision that passes its check. -/
def failsCurrent (s : Store) (a : PlanningAttempt) : Bool :=
  match ((processTransaction sampleEnv a.planner (a.filter none) a.eventUuid
      a.processedAt).transact s).1 with
  | .ok (.failed claim error) =>
    decide (Nonblank error.cls.typeName ∧ error.cls ≠ .executionProposalStale) &&
      (checkExecutionCurrent sampleEnv claim.decisionId).checkReturned s fun _ _ => true
  | _ => false

theorem of_failsCurrent {a : PlanningAttempt} (h : failsCurrent s a = true) :
    a.Fails sampleEnv none s ∧ ¬a.Stalls sampleEnv none s ∧
      ∀ claim error, a.FailsWith sampleEnv none s claim error → Nonblank error.cls.typeName := by
  unfold failsCurrent at h
  split at h
  · rename_i claim error hfailed
    obtain ⟨hnamed, hchecked⟩ := Bool.and_eq_true_iff.mp h
    obtain ⟨hname, hstale⟩ := of_decide_eq_true hnamed
    obtain ⟨checked, s', hcheck, -⟩ := exists_of_checkReturned hchecked
    obtain rfl := (readOnly_checkExecutionCurrent sampleEnv _).eq hcheck
    have honly : ∀ claim' error', a.FailsWith sampleEnv none s' claim' error' →
        claim' = claim ∧ error' = error := by
      intro claim' error' hfailed'
      have heq := hfailed'.symm.trans hfailed
      simpa using heq
    refine ⟨⟨claim, error, hfailed⟩, ?_, fun claim' error' hfailed' => ?_⟩
    · rintro ⟨claim', error', hfailed', hstalls⟩
      obtain ⟨rfl, rfl⟩ := honly _ _ hfailed'
      exact hstalls.elim hstale fun hno => hno.2 ⟨checked, hcheck⟩
    · obtain ⟨-, rfl⟩ := honly _ _ hfailed'
      exact hname
  · cases h

/-- An attempt does not fail. -/
def sparesEvent (s : Store) (a : PlanningAttempt) : Bool :=
  match ((processTransaction sampleEnv a.planner (a.filter none) a.eventUuid
      a.processedAt).transact s).1 with
  | .ok (.failed _ _) => false
  | _ => true

theorem not_fails_of_spares {a : PlanningAttempt} (h : sparesEvent s a = true) :
    ¬a.Fails sampleEnv none s := by
  rintro ⟨claim, error, hfailed⟩
  unfold sparesEvent at h
  rw [show _ = _ from hfailed] at h
  cases h

/-- A loop over the outbox of the services drains it where its failures settle, and, with a clock
that does not go backwards, only there. -/
theorem drains_iff_settling (hrun : Run (namedProgram env) Store.empty s)
    (ho : Ordinary env versions attempts s) :
    (Settling env versions attempts s → Drains env versions attempts s) ∧
      (InOrder attempts →
        (Drains env versions attempts s ↔ Settling env versions attempts s)) := by
  have hs := serviced_of_run hrun
  exact ⟨drains_of_settling hs ho, fun hclock =>
    ⟨settling_of_drains hs ho hclock, drains_of_settling hs ho⟩⟩

/-- A planner that fails once: the loop plans the event with its second attempt. -/
theorem drains_iff_settling_sample :
    ∃ s, Run (namedProgram sampleEnv) Store.empty s ∧
      (retriedAttempts 0).Fails sampleEnv none s ∧ Drains sampleEnv none retriedAttempts s := by
  have hrun := Run.history (namedProgram sampleEnv)
    (sampleRecorded.attachWith _ namesAnalysis_sampleRecorded) Store.empty
  have hfirst : failsCurrent (history (namedProgram sampleEnv)
      (sampleRecorded.attachWith _ namesAnalysis_sampleRecorded) Store.empty)
        (retriedAttempts 0) = true := by
    decide +kernel
  have hlater : ∀ i, 1 ≤ i → i ≤ 2 → sparesEvent (stateAt (drainTurn sampleEnv none retriedAttempts)
      (history (namedProgram sampleEnv)
        (sampleRecorded.attachWith _ namesAnalysis_sampleRecorded) Store.empty) i)
          (retriedAttempts i) = true := by
    intro i hlow hhigh
    obtain rfl | rfl : i = 1 ∨ i = 2 := by omega
    · decide +kernel
    · decide +kernel
  have hend : (answerAt (drainTurn sampleEnv none retriedAttempts)
      (history (namedProgram sampleEnv)
        (sampleRecorded.attachWith _ namesAnalysis_sampleRecorded) Store.empty) 2).toOption =
          some false := by
    decide +kernel
  revert hrun hfirst hlater hend
  generalize history (namedProgram sampleEnv)
    (sampleRecorded.attachWith _ namesAnalysis_sampleRecorded) Store.empty = s
  intro hrun hfirst hlater hend
  obtain ⟨hfails, hcurrent, hnamed⟩ := of_failsCurrent hfirst
  -- the third turn finds nothing, and there is no fourth
  have hreached : ∀ i, Reached (drainTurn sampleEnv none retriedAttempts) s i → i ≤ 2 := by
    intro i hi
    by_contra hlt
    have htrue := hi 2 (by omega)
    rw [htrue] at hend
    cases hend
  have hholds : ∀ i, 1 ≤ i → Reached (drainTurn sampleEnv none retriedAttempts) s i →
      ¬(retriedAttempts i).Fails sampleEnv none
        (stateAt (drainTurn sampleEnv none retriedAttempts) s i) := fun i hi hr =>
    not_fails_of_spares (hlater i hi (hreached i hr))
  have hordinary : Ordinary sampleEnv none retriedAttempts s := by
    refine ⟨fun i => ?_, fun i hi claim error h => ?_⟩
    · unfold retriedAttempts failingAttempts
      split <;> exact le_refl _
    · rcases Nat.eq_zero_or_pos i with rfl | hpos
      · exact hnamed claim error h
      · exact absurd ⟨claim, error, h⟩ (hholds i hpos hi)
  have hclock : InOrder retriedAttempts := by
    have hnow : ∀ i, (retriedAttempts i).now = i := by
      intro i
      unfold retriedAttempts failingAttempts
      split
      · rename_i hzero
        rw [hzero]
      · rfl
    intro i j hij
    show (retriedAttempts i).now ≤ (retriedAttempts j).now
    rw [hnow, hnow]
    exact_mod_cast hij
  refine ⟨s, hrun, hfails, ((drains_iff_settling hrun hordinary).2 hclock).mpr
    ⟨⟨1, hholds⟩, fun i hi hstalls => ?_⟩⟩
  rcases Nat.eq_zero_or_pos i with rfl | hpos
  · exact absurd hstalls hcurrent
  · obtain ⟨claim, error, hfailed, -⟩ := hstalls
    exact absurd ⟨claim, error, hfailed⟩ (hholds i hpos hi)

end SupplyResponse
