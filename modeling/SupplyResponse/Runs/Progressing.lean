/-
Runs of the background progression (`RuntimeProgression` between `start` and
`stop`).

* `Tried` — the planning of an event was attempted;
* `raisedRuns` — the runs of a playback that raised since its last reset;
* `Steady` — no result of a call is one that the progression cannot bear;
* `ProgressesWell` — what the progression is for;
* `progresses_when` — it holds in every run whose calls are steady;
* `Move`, `follow` — a run without outages, computed.
-/
import SupplyResponse.Runs.Draining
import SupplyResponse.Runs.Planning
import SupplyResponse.Services.Progression

namespace SupplyResponse

open Transact Transact.Prog
open Keyed (keys)

variable {env : Env} {settings : ProgressionSettings} {s s' : Store}

/-! ### Events that were tried -/

/-- The event is processed, or a failure is recorded with it. -/
def OutboxRow.Tried (row : OutboxRow) : Prop := row.processedAt ≠ none ∨ row.lastError ≠ none

def Tried (s : Store) (eventId : String) : Prop :=
  ∃ row ∈ s.outbox, row.event.eventId = eventId ∧ row.Tried

/-- No tried event is tried no more. -/
def KeepsTried (s s' : Store) : Prop := ∀ eventId, Tried s eventId → Tried s' eventId

theorem keepsTried_of_eq (h : s'.outbox = s.outbox) : KeepsTried s s' := by
  intro eventId ht
  unfold Tried
  rwa [h]

theorem keepsTried_modify {eventId : String} {f : OutboxRow → OutboxRow}
    {hf : ∀ r, Key.outbox eventId ∈ keys r → keys (f r) = keys r}
    (hevent : ∀ r, (f r).event = r.event) (htried : ∀ r, r.Tried → (f r).Tried) :
    KeepsTried s (s.modifyOutbox eventId f hf) := by
  rintro id ⟨row, hrow, hid, ht⟩
  have hmem : ∀ row', row' = (if Key.outbox eventId ∈ keys row then f row else row) →
      row' ∈ (s.modifyOutbox eventId f hf).outbox := by
    intro row' h
    rw [Store.modifyOutbox, Table.mem_modify]
    exact ⟨row, hrow, h⟩
  by_cases hk : Key.outbox eventId ∈ keys row
  · refine ⟨f row, hmem _ (if_pos hk).symm, ?_, htried row ht⟩
    rw [hevent, hid]
  · exact ⟨row, hmem _ (if_neg hk).symm, hid, ht⟩

theorem Writing.keepsTried {kind : WriteKind} {v : Store} {l : List Key} {u : Store → Store}
    (h : Writing kind v l u) : KeepsTried v (u v) := by
  cases h
  case newEvent event hfree =>
    rintro id ⟨row, hrow, hid, ht⟩
    exact ⟨row, Table.mem_add_of_mem hrow, hid, ht⟩
  case claimEvent => exact keepsTried_modify (fun _ => rfl) fun _ ht => ht
  case processEvent => exact keepsTried_modify (fun _ => rfl) fun _ _ => .inl (by simp)
  case failEvent => exact keepsTried_modify (fun _ => rfl) fun _ _ => .inr (by simp)
  all_goals exact keepsTried_of_eq rfl

theorem keepsTried_of_commits {t : Transaction} {u : Unit} (hc : (t.program env).Commits s u s') :
    KeepsTried s s' :=
  relates_of_commits (R := KeepsTried) (fun _ _ => id) (fun h h' id ht => h' id (h id ht))
    (fun _ hw => hw.keepsTried) hc

theorem eventId_of_get? {eventId : String} {row : OutboxRow}
    (h : s.outbox.get? (.outbox eventId) = some row) : row.event.eventId = eventId := by
  have hk := (Table.get?_eq_some_iff.mp h).2
  simp only [keys_outboxRow, List.mem_cons, Key.outbox.injEq, reduceCtorEq, List.not_mem_nil,
    or_false] at hk
  exact hk.symm

theorem RecordsFailure.tried {eventId code : String} (h : RecordsFailure s eventId code s') :
    Tried s' eventId := by
  obtain ⟨row, hrow, -⟩ := h.row
  have hget : s'.outbox.get? (.outbox eventId) = some (OutboxRow.failed code row) := by
    rw [h.effect, get?_modifyOutbox_self, hrow]
    rfl
  exact ⟨_, Table.mem_of_get? hget, eventId_of_get? hget, .inr (by simp)⟩

theorem Recovers.tried {claim : OutboxClaim} {code : String} (h : Recovers s claim code s') :
    Tried s' claim.eventId := by
  obtain ⟨case, hcase⟩ := h.case
  by_cases hw : case.effectiveWorkflowVersion = .independentFinance
  · obtain ⟨d, s₁, s₂, row, -, hguard, hrecords, -, rfl⟩ := h.independent case hcase hw
    exact hrecords.tried
  · obtain ⟨s₁, row, hrecords, -, rfl⟩ := h.legacy case hcase hw
    exact hrecords.tried

theorem Plans.tried {planner : ActionPlanner} {claim : OutboxClaim} {d : Decision}
    {analysis : AnalysisVersion} {actions : List ExecutionAction}
    (h : Plans s planner claim d analysis actions s') : Tried s' claim.eventId := by
  obtain ⟨filter, row, -, hrow, -⟩ := h.ready
  obtain ⟨now, processedAt, houtbox⟩ := h.outbox_eq
  have hget : s'.outbox.get? (.outbox claim.eventId) =
      some (OutboxRow.processed processedAt (OutboxRow.claimed now row)) := by
    rw [houtbox, Table.get?_modify_self, Table.get?_modify_self, hrow]
    rfl
  exact ⟨_, Table.mem_of_get? hget, eventId_of_get? hget, .inl (by simp)⟩

/-- The selection of `process_next_unattempted_outbox`. -/
abbrev unattempted (versions : Option (List WorkflowVersion)) (now : Instant) : OutboxFilter :=
  ⟨now, none, false, versions⟩

/-- The worker does not pick a tried event again. -/
theorem not_tried_of_candidate {versions : Option (List WorkflowVersion)} {now : Instant}
    {claim : OutboxClaim} (h : outboxCandidate s (unattempted versions now) = some claim) :
    ¬Tried s claim.eventId := by
  rintro ⟨row', hrow', hid', ht⟩
  obtain ⟨row, -, -, hrow, hready, hid, -⟩ := outboxCandidate_spec h
  have hget := Table.get?_of_mem hrow (k := .outbox claim.eventId) (by simp [hid])
  have hget' := Table.get?_of_mem hrow' (k := .outbox claim.eventId) (by simp [hid'])
  obtain rfl := Option.some.inj (hget.symm.trans hget')
  rcases ht with hp | he
  · exact hp hready.2.1
  · exact he (hready.2.2.2.2.2 rfl)

/-! ### Transactions of the worker -/

theorem returns_withOutage {α : Type} {p : Sql α} {outage : Option Outage} {a : α}
    (h : (withOutage p outage).Returns s a s') : p.Returns s a s' := by
  cases outage with
  | none => exact h
  | some outage => exact returns_of_interrupt h

/-- What was committed beside outages is a commit of the worker. -/
theorem commits_processUnattempted {versions : Option (List WorkflowVersion)} {a : PlanningAttempt}
    {claiming attempting : Option Outage} {outcome : WorkerOutcome}
    (h : (processUnattempted env versions a claiming attempting).Commits s outcome s') :
    (processTransaction env a.planner (unattempted versions a.now) a.eventUuid
      a.processedAt).Commits s outcome s' := by
  obtain ⟨claim, s₁, hclaim, h⟩ := returns_bind.mp h
  refine returns_bind.mpr ⟨claim, s₁, returns_withOutage hclaim, ?_⟩
  cases claim with
  | none => exact h
  | some claim =>
    rcases returns_tryCatch.mp h with h | ⟨e, s₂, -, h⟩
    · exact returns_tryCatch.mpr (.inl (returns_withOutage h))
    · cases (returns_done.mp h).1

/-- A worker that rolls back found nothing, or failed behind its claim. -/
theorem rollback_processUnattempted {versions : Option (List WorkflowVersion)} {a : PlanningAttempt}
    {claiming attempting : Option Outage} {outcome : WorkerOutcome}
    (h : (processUnattempted env versions a claiming attempting).Returns s (.rollback outcome) s') :
    (outcome = .idle ∧ outboxCandidate s (unattempted versions a.now) = none) ∨
      ∃ claim e, outcome = .failed claim e ∧
        outboxCandidate s (unattempted versions a.now) = some claim := by
  obtain ⟨claim, s₁, hclaim, h⟩ := returns_bind.mp h
  have hclaim := returns_withOutage hclaim
  cases claim with
  | none =>
    obtain rfl := Exit.rollback.inj (returns_done.mp h).1
    refine .inl ⟨rfl, ?_⟩
    rcases hcand : outboxCandidate s (unattempted versions a.now) with _ | c
    · rfl
    · have hsome := (returns_claimOutbox_some hcand).unique hclaim
      cases hsome.1
  | some claim =>
    refine .inr ⟨claim, ?_⟩
    rcases returns_tryCatch.mp h with h | ⟨e, s₂, -, h⟩
    · obtain ⟨d, analysis, actions, heq⟩ := returns_attemptClaimed_exit (returns_withOutage h)
      cases heq
    · exact ⟨e, Exit.rollback.inj (returns_done.mp h).1, (returns_claimOutbox hclaim).1⟩

theorem returns_recoverLegacy_exit {claim : OutboxClaim} {code : String}
    {exit : Exit RecoveryOutcome} (h : (recoverLegacy env claim code).Returns s exit s') :
    exit = .commit (.answer true) := by
  obtain ⟨_, _, -, h⟩ := returns_bind.mp h
  obtain ⟨_, _, -, h⟩ := returns_bind.mp h
  exact (returns_done.mp h).1

theorem returns_recoverIndependent_exit {claim : OutboxClaim} {code : String} {now : Instant}
    {exit : Exit RecoveryOutcome} (h : (recoverIndependent env claim code now).Returns s exit s') :
    exit = .commit (.answer true) ∨ exit = .rollback (.answer false) := by
  obtain ⟨_, _, -, h⟩ := returns_bind.mp h
  obtain ⟨-, h⟩ | ⟨-, h⟩ := returns_ite.mp h
  · exact .inr (returns_done.mp h).1
  · obtain ⟨_, _, -, h⟩ := returns_bind.mp h
    obtain ⟨_, _, -, h⟩ := returns_bind.mp h
    obtain ⟨-, h⟩ | ⟨-, h⟩ := returns_ite.mp h
    · obtain ⟨_, _, -, h⟩ := returns_bind.mp h
      exact .inl (returns_done.mp h).1
    · exact .inr (returns_done.mp h).1

/-- A recovery beside outages that answers yes has committed a recovery. -/
theorem returns_recoverUnattempted {claim : OutboxClaim} {error : Raised} {now : Instant}
    {reading branching : Option Outage} {exit : Exit RecoveryOutcome}
    (h : (recoverUnattempted env claim error now reading branching).Returns s exit s') :
    (exit = .commit (.answer true) ∧
        (recoveryTransaction env claim error now).Commits s (.answer true) s') ∨
      exit = .rollback (.answer false) ∨ ∃ independent e, exit = .rollback (.failed independent e) := by
  obtain ⟨projection, s₁, hproj, h⟩ := returns_bind.mp h
  cases projection with
  | error e => exact .inr (.inr ⟨false, e, (returns_done.mp h).1⟩)
  | ok p =>
    have hread : ((Except.ok <$> getProjection env claim.caseId).tryCatch
        fun e => pure (Except.error e)).Returns s (.ok p) s₁ := by
      rcases returns_tryCatch.mp hproj with hp | ⟨_, _, -, hp⟩
      · obtain ⟨q, hq, heq⟩ := returns_map.mp hp
        exact returns_tryCatch.mpr (.inl (returns_map.mpr ⟨q, returns_withOutage hq, heq⟩))
      · cases (returns_done.mp hp).1
    obtain ⟨hw, h⟩ | ⟨hw, h⟩ := returns_ite.mp h
    · rcases returns_tryCatch.mp h with h | ⟨e, s₂, -, h⟩
      · have h := returns_withOutage h
        rcases returns_recoverIndependent_exit h with rfl | rfl
        · exact .inl ⟨rfl, returns_bind.mpr ⟨.ok p, s₁, hread,
            returns_ite.mpr (.inl ⟨hw, returns_tryCatch.mpr (.inl h)⟩)⟩⟩
        · exact .inr (.inl rfl)
      · exact .inr (.inr ⟨true, e, (returns_done.mp h).1⟩)
    · rcases returns_tryCatch.mp h with h | ⟨e, s₂, -, h⟩
      · have h := returns_withOutage h
        obtain rfl := returns_recoverLegacy_exit h
        exact .inl ⟨rfl, returns_bind.mpr ⟨.ok p, s₁, hread,
          returns_ite.mpr (.inr ⟨hw, returns_tryCatch.mpr (.inl h)⟩)⟩⟩
      · exact .inr (.inr ⟨false, e, (returns_done.mp h).1⟩)

/-! ### What the progression has done -/

/-- The events whose planning was attempted, the latest first. -/
def attempts : List Happening → List String
  | [] => []
  | .attempted eventId :: log => eventId :: attempts log
  | .ran .. :: log | .marked _ :: log => attempts log

/-- The raised runs of a playback after a further one. -/
def PlaybackOutcome.count (runs : ℕ) : PlaybackOutcome → ℕ
  | .raised _ => runs + 1
  | .returned status => if status ≠ .inProgress then 0 else runs
  | .interrupted => runs

/-- The runs of a playback that raised, not counting interruptions, since it was
last seen to have ended or marked as failed. -/
def raisedRuns (playbackId : String) : List Happening → ℕ
  | [] => 0
  | .attempted _ :: log => raisedRuns playbackId log
  | .ran id outcome :: log =>
    if id = playbackId then outcome.count (raisedRuns playbackId log) else raisedRuns playbackId log
  | .marked id :: log => if id = playbackId then 0 else raisedRuns playbackId log

/-- The task of a playback is about to mark it as failed, or has done so. -/
def PlaybackTask.Marks : PlaybackTask → Prop
  | .running | .ran _ => False
  | .recording | .recorded _ => True

/-- An answered call claimed an event if and only if it says so; no call of the
loop, and none of `record_failure`, raised. -/
structure Progression.Steady (r : Progression) : Prop where
  answer : ∀ claimed answer, r.loop = .answered claimed answer → answer = .ok claimed
  listing : ∀ e, r.loop ≠ .listed (.error e)
  recording : ∀ id e, r.tasks id ≠ some (.recorded (.error e))

/-- The loop ends after `stop` only. -/
structure Progression.Alive (r : Progression) : Prop where
  quiet : ∀ e, r.loop ≠ .ended (some e)
  stopped : r.loop = .ended none → r.stopped = true

namespace Progression

variable {r r' : Progression}

theorem Alive.of_ne (h : ∀ e, r.loop ≠ .ended e) : r.Alive :=
  ⟨fun e => h (some e), fun he => absurd he (h none)⟩

theorem afterAttempt_ne (x : Except Raised WorkerOutcome) (e : Option Raised) :
    LoopState.afterAttempt x ≠ .ended e := by
  rcases x with _ | _ | _ | _ <;> nofun

theorem afterRecovery_ne (claim : OutboxClaim) (error : Raised)
    (x : Except Raised RecoveryOutcome) (e : Option Raised) :
    LoopState.afterRecovery claim error x ≠ .ended e := by
  rcases x with _ | _ | ⟨independent, e'⟩
  · nofun
  · nofun
  · intro he
    rw [LoopState.afterRecovery] at he
    split at he
    · cases he
    · cases independent <;> cases he

theorem afterMark_ne (reraised : Option Raised) (x : Except Raised Bool) (e : Option Raised) :
    LoopState.afterMark reraised x ≠ .ended e := by
  rcases x with _ | _ <;> nofun

theorem finish_eq (settings : ProgressionSettings) (r : Progression) (id : String) (outcome : PlaybackOutcome) :
    (r.finish settings id outcome).store = r.store ∧
      (r.finish settings id outcome).stopped = r.stopped ∧
      (r.finish settings id outcome).loop = r.loop ∧
      (r.finish settings id outcome).happened = .ran id outcome :: r.happened := by
  rcases outcome with status | _ | e
  · unfold Progression.finish
    dsimp only
    split <;> exact ⟨rfl, rfl, rfl, rfl⟩
  · exact ⟨rfl, rfl, rfl, rfl⟩
  · exact ⟨rfl, rfl, rfl, rfl⟩

theorem Alive.step (h : r.Alive) (hsteady : r.Steady) (hstep : r.Step env settings r') :
    r'.Alive := by
  cases hstep with
  | others t u s hc => exact ⟨h.quiet, h.stopped⟩
  | stop => exact ⟨h.quiet, fun _ => rfl⟩
  | leave hloop hstop => exact ⟨nofun, fun _ => hstop⟩
  | poll hloop => exact .of_ne nofun
  | attempt hloop a claiming attempting => exact .of_ne (afterAttempt_ne _)
  | recover hloop now reading branching =>
    unfold Progression.recover
    split
    · exact .of_ne nofun
    · exact .of_ne (afterRecovery_ne _ _ _)
  | mark hloop now outage => exact .of_ne (afterMark_ne _ _)
  | @answer claimed answer hloop =>
    obtain rfl := hsteady.answer _ _ hloop
    cases claimed
    · exact .of_ne nofun
    · exact .of_ne nofun
  | list hloop outage => exact .of_ne nofun
  | @schedule answer hloop =>
    cases answer with
    | error e => exact absurd hloop (hsteady.listing e)
    | ok ids => exact .of_ne nofun
  | run id htask outcome => exact ⟨h.quiet, h.stopped⟩
  | @finish id outcome htask =>
    obtain ⟨-, hstopped, hloop, -⟩ := finish_eq settings r id outcome
    exact ⟨fun e => hloop ▸ h.quiet e, fun he => hstopped ▸ h.stopped (hloop ▸ he)⟩
  | record id htask now outage => exact ⟨h.quiet, h.stopped⟩
  | @settle id answer htask =>
    cases answer with
    | error e => exact absurd htask (hsteady.recording id e)
    | ok p => exact ⟨h.quiet, h.stopped⟩

end Progression

/-! ### Events -/

/-- The loop has not yet done with the event that it attempts. -/
def LoopState.Busy (eventId : String) : LoopState → Prop
  | .recovering claim _ | .marking claim _ _ => claim.eventId = eventId
  | .answered claimed answer => claimed = true ∧ answer ≠ .ok true
  | _ => False

/-- No event was attempted twice, and those that were are tried. -/
structure Progression.Attempts (r : Progression) : Prop where
  once : (attempts r.happened).Nodup
  tried : ∀ id ∈ attempts r.happened, Tried r.store id ∨ r.loop.Busy id

namespace Progression

variable {r r' : Progression}

/-- A step leaves the store alone, or commits one transaction. -/
theorem step_store (h : r.Step env settings r') :
    r'.store = r.store ∨ ∃ t : Transaction, (t.program env).Commits r.store () r'.store := by
  cases h with
  | others t u s hc => exact .inr ⟨t, hc⟩
  | attempt hloop a claiming attempting =>
    refine (transact_cases (processUnattempted env settings.versions a claiming attempting)
      r.store).imp id fun ⟨o, hc⟩ => ?_
    exact ⟨.processOutbox a.planner (unattempted settings.versions a.now) a.eventUuid a.processedAt,
      commits_effect.mpr ⟨o, commits_processUnattempted hc⟩⟩
  | @recover claim error hloop now reading branching =>
    unfold Progression.recover
    split
    · exact .inl rfl
    · refine (transact_cases (recoverUnattempted env claim error now reading branching)
        r.store).imp id fun ⟨o, hc⟩ => ?_
      rcases returns_recoverUnattempted hc with ⟨-, hcommits⟩ | heq | ⟨_, _, heq⟩
      · exact ⟨.recoverFailure claim error now, commits_effect.mpr ⟨_, hcommits⟩⟩
      · cases heq
      · cases heq
  | @mark claim code reraised hloop now outage =>
    exact (transact_cases (withOutage (eventOnlyTransaction claim code now) outage) r.store).imp id
      fun ⟨b, hc⟩ => ⟨.eventOnlyFailure claim code now,
        commits_effect.mpr ⟨b, returns_withOutage hc⟩⟩
  | @finish playbackId outcome htask => exact .inl (finish_eq settings r playbackId outcome).1
  | record playbackId htask now outage =>
    exact (transact_cases (withOutage (recordFailure playbackId now) outage) r.store).imp id
      fun ⟨p, hc⟩ => ⟨.recordFailure playbackId now,
        commits_effect.mpr ⟨p, returns_withOutage hc⟩⟩
  | @schedule answer hloop => cases answer <;> exact .inl rfl
  | @settle playbackId answer htask => cases answer <;> exact .inl rfl
  | _ => exact .inl rfl

theorem keepsTried_step (h : r.Step env settings r') : KeepsTried r.store r'.store := by
  rcases step_store h with hs | ⟨t, hc⟩
  · rw [hs]
    exact fun _ => id
  · exact keepsTried_of_commits hc

/-- An attempt plans the event it claims, hands it to the recovery, or attempts
nothing. -/
theorem attempt_cases (env : Env) (settings : ProgressionSettings) (r : Progression) (a : PlanningAttempt)
    (claiming attempting : Option Outage) :
    (∃ claim, outboxCandidate r.store (unattempted settings.versions a.now) = some claim ∧
        (r.attempt env settings a claiming attempting).happened =
          .attempted claim.eventId :: r.happened ∧
        (Tried (r.attempt env settings a claiming attempting).store claim.eventId ∨
          (r.attempt env settings a claiming attempting).loop.Busy claim.eventId) ∧
        (r.attempt env settings a claiming attempting).loop ≠ .answered false (.ok false)) ∨
      (r.attempt env settings a claiming attempting).happened = r.happened ∧
        (r.attempt env settings a claiming attempting).store = r.store ∧
        ((r.attempt env settings a claiming attempting).loop = .answered false (.ok false) →
          outboxCandidate r.store (unattempted settings.versions a.now) = none) := by
  unfold Progression.attempt
  rcases hrun : (processUnattempted env settings.versions a claiming attempting).transact r.store
    with ⟨e | outcome, s'⟩
  · obtain rfl := transact_error hrun
    exact .inr ⟨rfl, rfl, fun h => by cases h⟩
  · rcases transact_ok hrun with hc | ⟨rfl, s₁, hr⟩
    · obtain ⟨claim, d, analysis, actions, rfl, hcand, hplans⟩ :=
        returns_processTransaction env (commits_processUnattempted hc)
      refine .inl ⟨claim, hcand, ?_, .inl hplans.tried, nofun⟩
      show ((outboxCandidate r.store (unattempted settings.versions a.now)).map _).toList ++ _ = _
      rw [hcand]
      rfl
    · rcases rollback_processUnattempted hr with ⟨rfl, hnone⟩ | ⟨claim, e, rfl, hcand⟩
      · exact .inr ⟨rfl, rfl, fun _ => hnone⟩
      · exact .inl ⟨claim, hcand, rfl, .inr rfl, nofun⟩

/-- A recovery settles the event it is about, or stays busy with it. -/
theorem recover_cases (env : Env) (r : Progression) (claim : OutboxClaim) (error : Raised) (now : Instant)
    (reading branching : Option Outage) :
    (r.recover env claim error now reading branching).happened = r.happened ∧
      (Tried (r.recover env claim error now reading branching).store claim.eventId ∨
        (r.recover env claim error now reading branching).loop.Busy claim.eventId) := by
  unfold Progression.recover
  split
  · exact ⟨rfl, .inr rfl⟩
  · rcases hrun : (recoverUnattempted env claim error now reading branching).transact r.store
      with ⟨e | outcome, s'⟩
    · obtain rfl := transact_error hrun
      exact ⟨rfl, .inr ⟨rfl, by simp⟩⟩
    · rcases transact_ok hrun with hc | ⟨rfl, s₁, hr⟩
      · rcases returns_recoverUnattempted hc with ⟨heq, hcommits⟩ | heq | ⟨_, _, heq⟩
        · exact ⟨rfl, .inl (returns_recoveryTransaction env hcommits).tried⟩
        · cases heq
        · cases heq
      · rcases returns_recoverUnattempted hr with ⟨heq, -⟩ | heq | ⟨independent, e, heq⟩
        · cases heq
        · obtain rfl := Exit.rollback.inj heq
          exact ⟨rfl, .inr ⟨rfl, by simp⟩⟩
        · obtain rfl := Exit.rollback.inj heq
          refine ⟨rfl, .inr ?_⟩
          show (LoopState.afterRecovery claim error (.ok (.failed independent e))).Busy _
          rw [LoopState.afterRecovery]
          split
          · exact rfl
          · cases independent
            · exact ⟨rfl, by simp⟩
            · exact rfl

/-- The loop is busy behind `_event_only_failure`, whatever it answered. -/
theorem busy_afterMark (reraised : Option Raised) (x : Except Raised Bool) (eventId : String) :
    (LoopState.afterMark reraised x).Busy eventId := by
  rcases x with e | b
  · exact ⟨rfl, by simp⟩
  · cases reraised with
    | none => exact ⟨rfl, by simp⟩
    | some e => exact ⟨rfl, by simp⟩

/-- Steps that neither attempt an event nor move the loop. -/
theorem Attempts.of_eq (h : r.Attempts) (happened : attempts r'.happened = attempts r.happened)
    (hstore : KeepsTried r.store r'.store) (hbusy : ∀ id, r.loop.Busy id → r'.loop.Busy id) :
    r'.Attempts := by
  refine ⟨happened ▸ h.once, fun id hid => ?_⟩
  rw [happened] at hid
  exact (h.tried id hid).imp (hstore id) (hbusy id)

theorem Attempts.step (h : r.Attempts) (hsteady : r.Steady) (hstep : r.Step env settings r') :
    r'.Attempts := by
  have hkeeps := keepsTried_step hstep
  cases hstep with
  | others t u s hc => exact h.of_eq rfl hkeeps fun _ => id
  | stop => exact h.of_eq rfl hkeeps fun _ => id
  | leave hloop hstop =>
    exact h.of_eq rfl hkeeps fun id hbusy => by rw [hloop] at hbusy; cases hbusy
  | poll hloop =>
    exact h.of_eq rfl hkeeps fun id hbusy => by rw [hloop] at hbusy; cases hbusy
  | attempt hloop a claiming attempting =>
    have hkept : ∀ id ∈ attempts r.happened, Tried r.store id := by
      intro id hid
      rcases h.tried id hid with ht | hbusy
      · exact ht
      · rw [hloop] at hbusy
        cases hbusy
    rcases attempt_cases env settings r a claiming attempting with
      ⟨claim, hcand, happened, hnew, -⟩ | ⟨happened, -, -⟩
    · have hattempts : attempts (r.attempt env settings a claiming attempting).happened =
          claim.eventId :: attempts r.happened := by
        rw [happened]
        rfl
      refine ⟨?_, fun id hid => ?_⟩
      · rw [hattempts, List.nodup_cons]
        -- a tried event is not picked again
        exact ⟨fun hmem => not_tried_of_candidate hcand (hkept _ hmem), h.once⟩
      · rw [hattempts] at hid
        rcases List.mem_cons.mp hid with rfl | hid
        · exact hnew
        · exact .inl (hkeeps id (hkept id hid))
    · refine ⟨happened ▸ h.once, fun id hid => .inl (hkeeps id (hkept id ?_))⟩
      rwa [happened] at hid
  | @recover claim error hloop now reading branching =>
    obtain ⟨happened, hnew⟩ := recover_cases env r claim error now reading branching
    refine ⟨happened ▸ h.once, fun id hid => ?_⟩
    rw [happened] at hid
    rcases h.tried id hid with ht | hbusy
    · exact .inl (hkeeps id ht)
    · rw [hloop] at hbusy
      obtain rfl : claim.eventId = id := hbusy
      exact hnew
  | @mark claim code reraised hloop now outage =>
    exact h.of_eq rfl hkeeps fun id _ => busy_afterMark reraised _ id
  | @answer claimed answer hloop =>
    obtain rfl := hsteady.answer _ _ hloop
    refine h.of_eq rfl hkeeps fun id hbusy => ?_
    rw [hloop] at hbusy
    obtain ⟨rfl, hne⟩ := hbusy
    exact absurd rfl hne
  | list hloop outage =>
    exact h.of_eq rfl hkeeps fun id hbusy => by rw [hloop] at hbusy; cases hbusy
  | @schedule answer hloop =>
    cases answer with
    | error e => exact absurd hloop (hsteady.listing e)
    | ok ids => exact h.of_eq rfl hkeeps fun id hbusy => by rw [hloop] at hbusy; cases hbusy
  | run playbackId htask outcome => exact h.of_eq rfl hkeeps fun _ => id
  | @finish playbackId outcome htask =>
    obtain ⟨-, -, hloop, happened⟩ := finish_eq settings r playbackId outcome
    refine h.of_eq (by rw [happened]; rfl) hkeeps fun _ hbusy => ?_
    rwa [hloop]
  | record playbackId htask now outage => exact h.of_eq rfl hkeeps fun _ => id
  | @settle playbackId answer htask =>
    cases answer with
    | error e => exact absurd htask (hsteady.recording playbackId e)
    | ok p => exact h.of_eq rfl hkeeps fun _ => id

end Progression

/-! ### Playbacks -/

/-- The task of the playback is about to mark it as failed, or has done so. -/
def Progression.Marks (r : Progression) (playbackId : String) : Prop :=
  ∃ task, r.tasks playbackId = some task ∧ task.Marks

/-- `_playback_failures` counts the runs that raised; the task of a playback
marks it if and only if they are as many as are allowed. -/
structure Progression.Counts (settings : ProgressionSettings) (r : Progression) : Prop where
  counted : ∀ id, r.failures id = raisedRuns id r.happened
  bounded : ∀ id, r.failures id ≤ settings.maxAttempts
  marks : ∀ id, r.failures id = settings.maxAttempts ↔ r.Marks id

namespace Progression

variable {r r' : Progression}

theorem Counts.of_eq (h : r.Counts settings) (hfailures : r'.failures = r.failures)
    (hruns : ∀ id, raisedRuns id r'.happened = raisedRuns id r.happened)
    (hmarks : ∀ id, r'.Marks id ↔ r.Marks id) : r'.Counts settings := by
  refine ⟨fun id => ?_, fun id => ?_, fun id => ?_⟩
  · rw [hfailures, hruns, h.counted]
  · rw [hfailures]
    exact h.bounded id
  · rw [hfailures, hmarks]
    exact h.marks id

/-- The counts after a step of the task of one playback. -/
theorem Counts.of_task (h : r.Counts settings) (playbackId : String)
    (hothers : ∀ id ≠ playbackId, r'.failures id = r.failures id ∧
      raisedRuns id r'.happened = raisedRuns id r.happened ∧ r'.tasks id = r.tasks id)
    (hcounted : r'.failures playbackId = raisedRuns playbackId r'.happened)
    (hmarks : (r'.failures playbackId < settings.maxAttempts ∧ ¬r'.Marks playbackId) ∨
      (r'.failures playbackId = settings.maxAttempts ∧ r'.Marks playbackId)) :
    r'.Counts settings := by
  refine ⟨fun id => ?_, fun id => ?_, fun id => ?_⟩ <;> by_cases hid : id = playbackId
  · exact hid ▸ hcounted
  · obtain ⟨hfailures, hruns, -⟩ := hothers id hid
    rw [hfailures, hruns, h.counted]
  · subst hid
    omega
  · rw [(hothers id hid).1]
    exact h.bounded id
  · subst hid
    rcases hmarks with ⟨hlt, hnot⟩ | ⟨heq, hyes⟩
    · exact ⟨fun heq => by omega, fun hyes => absurd hyes hnot⟩
    · exact ⟨fun _ => hyes, fun _ => heq⟩
  · obtain ⟨hfailures, -, htasks⟩ := hothers id hid
    unfold Marks
    rw [hfailures, htasks]
    exact h.marks id

/-- The task of a playback that does not mark it has not used up its attempts. -/
theorem Counts.lt (h : r.Counts settings) {playbackId : String} {task : PlaybackTask}
    (htask : r.tasks playbackId = some task) (hnot : ¬task.Marks) :
    r.failures playbackId < settings.maxAttempts := by
  have hle := h.bounded playbackId
  have hne : r.failures playbackId ≠ settings.maxAttempts := by
    intro heq
    obtain ⟨task', htask', hmarks⟩ := (h.marks playbackId).mp heq
    obtain rfl := Option.some.inj (htask.symm.trans htask')
    exact hnot hmarks
  omega

theorem not_marks_of_none {playbackId : String} (h : r.tasks playbackId = none) :
    ¬r.Marks playbackId := by
  rintro ⟨task, htask, -⟩
  rw [h] at htask
  cases htask

theorem finish_failures (settings : ProgressionSettings) (r : Progression) (playbackId : String) (outcome : PlaybackOutcome) :
    (r.finish settings playbackId outcome).failures =
      Function.update r.failures playbackId (outcome.count (r.failures playbackId)) := by
  cases outcome with
  | returned status =>
    by_cases hstatus : status = .inProgress
    · subst hstatus
      exact (Function.update_eq_self playbackId r.failures).symm
    · unfold Progression.finish PlaybackOutcome.count
      dsimp only
      rw [if_pos hstatus, if_pos hstatus]
      rfl
  | interrupted => exact (Function.update_eq_self playbackId r.failures).symm
  | raised error => rfl

/-- The task of a playback goes on after a run that raised as the last allowed. -/
theorem finish_tasks (settings : ProgressionSettings) (r : Progression) (playbackId : String) (outcome : PlaybackOutcome) :
    ∃ task, (r.finish settings playbackId outcome).tasks = Function.update r.tasks playbackId task ∧
      (task = none ∧ outcome.count (r.failures playbackId) ≤ r.failures playbackId ∨
        task = none ∧ outcome.count (r.failures playbackId) < settings.maxAttempts ∨
        task = some .recording ∧ settings.maxAttempts ≤ outcome.count (r.failures playbackId) ∧
          outcome.count (r.failures playbackId) = r.failures playbackId + 1) := by
  cases outcome with
  | returned status =>
    refine ⟨none, ?_, .inl ⟨rfl, ?_⟩⟩
    · by_cases hstatus : status = .inProgress
      · subst hstatus
        rfl
      · unfold Progression.finish
        dsimp only
        rw [if_pos hstatus]
        rfl
    · unfold PlaybackOutcome.count
      dsimp only
      split <;> omega
  | interrupted => exact ⟨none, rfl, .inl ⟨rfl, Nat.le_refl _⟩⟩
  | raised error =>
    by_cases hmax : settings.maxAttempts ≤ r.failures playbackId + 1
    · refine ⟨some .recording, ?_, .inr (.inr ⟨rfl, hmax, rfl⟩)⟩
      show Function.update r.tasks playbackId (if _ then _ else _) = _
      rw [if_pos hmax]
    · refine ⟨none, ?_, .inr (.inl ⟨rfl, Nat.lt_of_not_le hmax⟩)⟩
      show Function.update r.tasks playbackId (if _ then _ else _) = _
      rw [if_neg hmax]

theorem Counts.finish (h : r.Counts settings) {playbackId : String} {outcome : PlaybackOutcome}
    (htask : r.tasks playbackId = some (.ran outcome)) :
    (r.finish settings playbackId outcome).Counts settings := by
  have hlt := h.lt htask id
  have hfailures := finish_failures settings r playbackId outcome
  have happened := (finish_eq settings r playbackId outcome).2.2.2
  obtain ⟨task, htasks, hcases⟩ := finish_tasks settings r playbackId outcome
  have hself : (r.finish settings playbackId outcome).failures playbackId =
      outcome.count (r.failures playbackId) := by
    rw [hfailures, Function.update_self]
  have htask' : (r.finish settings playbackId outcome).tasks playbackId = task := by
    rw [htasks, Function.update_self]
  refine h.of_task playbackId (fun id hid => ⟨?_, ?_, ?_⟩) ?_ ?_
  · rw [hfailures, Function.update_of_ne hid]
  · rw [happened]
    exact if_neg fun heq => hid heq.symm
  · rw [htasks, Function.update_of_ne hid]
  · rw [hself, happened, h.counted playbackId]
    exact (if_pos rfl).symm
  · rw [hself]
    rcases hcases with ⟨hnone, hle⟩ | ⟨hnone, hless⟩ | ⟨hrecording, hmax, hsucc⟩
    · exact .inl ⟨by omega, not_marks_of_none (htask'.trans hnone)⟩
    · exact .inl ⟨hless, not_marks_of_none (htask'.trans hnone)⟩
    · exact .inr ⟨by omega, .recording, htask'.trans hrecording, trivial⟩

theorem Counts.step (h : r.Counts settings) (hsteady : r.Steady)
    (hstep : r.Step env settings r') : r'.Counts settings := by
  cases hstep with
  | attempt hloop a claiming attempting =>
    refine h.of_eq rfl (fun id => ?_) fun _ => Iff.rfl
    rcases attempt_cases env settings r a claiming attempting with ⟨claim, -, happened, -⟩ |
      ⟨happened, -⟩
    · rw [happened]
      rfl
    · rw [happened]
  | @recover claim error hloop now reading branching =>
    unfold Progression.recover
    split <;> exact h.of_eq rfl (fun _ => rfl) fun _ => Iff.rfl
  | @schedule answer hloop =>
    cases answer with
    | error e => exact absurd hloop (hsteady.listing e)
    | ok ids =>
      refine h.of_eq rfl (fun _ => rfl) fun id => ?_
      show (∃ task, (if id ∈ ids ∧ r.tasks id = none then some .running else r.tasks id) = some task ∧
        task.Marks) ↔ _
      split
      · rename_i hand
        constructor
        · rintro ⟨task, heq, hmarks⟩
          obtain rfl := Option.some.inj heq
          cases hmarks
        · exact fun hmarks => absurd hmarks (not_marks_of_none hand.2)
      · exact Iff.rfl
  | run playbackId htask outcome =>
    refine h.of_task playbackId (fun id hid => ⟨rfl, rfl, Function.update_of_ne hid _ _⟩)
      (h.counted playbackId) (.inl ⟨h.lt htask id, ?_⟩)
    have hran : (r.setTask playbackId (some (.ran outcome))).tasks playbackId = some (.ran outcome) :=
      Function.update_self ..
    rintro ⟨task, heq, hmarks⟩
    obtain rfl := Option.some.inj (hran.symm.trans heq)
    cases hmarks
  | @finish playbackId outcome htask => exact h.finish htask
  | record playbackId htask now outage =>
    have hmax := (h.marks playbackId).mpr ⟨_, htask, trivial⟩
    exact h.of_task playbackId (fun id hid => ⟨rfl, rfl, Function.update_of_ne hid _ _⟩)
      (h.counted playbackId) (.inr ⟨hmax, _, Function.update_self .., trivial⟩)
  | @settle playbackId answer htask =>
    cases answer with
    | error e => exact absurd htask (hsteady.recording playbackId e)
    | ok p =>
      have hzero : (r.settle playbackId (.ok p)).failures playbackId = 0 := Function.update_self ..
      refine h.of_task playbackId (fun id hid => ⟨Function.update_of_ne hid _ _, ?_,
        Function.update_of_ne hid _ _⟩) ?_
        (.inl ⟨?_, not_marks_of_none (Function.update_self ..)⟩)
      · exact if_neg fun heq => hid heq.symm
      · rw [hzero]
        exact (if_pos rfl).symm
      · rw [hzero]
        exact settings.positive
  | _ => exact h.of_eq rfl (fun _ => rfl) fun _ => Iff.rfl

end Progression

/-! ### Claimable events -/

/-- No row of an event changes before the event is tried. -/
structure KeepsRows (s s' : Store) : Prop where
  rows : ∀ row ∈ s.outbox, row ∈ s'.outbox ∨ Tried s' row.event.eventId
  tried : KeepsTried s s'

namespace KeepsRows

theorem refl (s : Store) : KeepsRows s s := ⟨fun _ hrow => .inl hrow, fun _ => id⟩

theorem trans {a b c : Store} (h : KeepsRows a b) (h' : KeepsRows b c) : KeepsRows a c := by
  refine ⟨fun row hrow => ?_, fun id ht => h'.tried id (h.tried id ht)⟩
  rcases h.rows row hrow with hrow | ht
  · exact h'.rows row hrow
  · exact .inr (h'.tried _ ht)

theorem of_eq (h : s'.outbox = s.outbox) : KeepsRows s s' :=
  ⟨fun _ hrow => .inl (h ▸ hrow), keepsTried_of_eq h⟩

theorem modify {eventId : String} {f : OutboxRow → OutboxRow}
    {hf : ∀ r, Key.outbox eventId ∈ keys r → keys (f r) = keys r}
    (hevent : ∀ r, (f r).event = r.event) (htried : ∀ r, (f r).Tried) :
    KeepsRows s (s.modifyOutbox eventId f hf) := by
  refine ⟨fun row hrow => ?_, keepsTried_modify hevent fun r _ => htried r⟩
  have hmem : (if Key.outbox eventId ∈ keys row then f row else row) ∈
      (s.modifyOutbox eventId f hf).outbox := by
    rw [Store.modifyOutbox, Table.mem_modify]
    exact ⟨row, hrow, rfl⟩
  split at hmem
  · exact .inr ⟨f row, hmem, congrArg _ (hevent row), htried row⟩
  · exact .inl hmem

end KeepsRows

/-- A step of another party, or of a task. -/
def Progression.StepBeside (env : Env) (settings : ProgressionSettings) (r r' : Progression) : Prop :=
  r.Step env settings r' ∧ r'.loop = r.loop

/-- The loop lists the playbacks in the one state, and has done with the list in
the other. -/
def Progression.Polls (env : Env) (settings : ProgressionSettings) (r r' : Progression) : Prop :=
  ∃ r₁ r₂, r.loop = .listing ∧ r.Step env settings r₁ ∧ r₁.loop ≠ .listing ∧
    Relation.ReflTransGen (StepBeside env settings) r₁ r₂ ∧ r₂.Steady ∧ r₂.Step env settings r' ∧
      r'.loop ≠ r₂.loop

namespace Progression

variable {r r' : Progression}

theorem mem_inProgressPlaybackIds {p : Playback} (hp : p ∈ s.playbacks)
    (hstatus : p.status = .inProgress) : p.playbackId ∈ inProgressPlaybackIds s := by
  refine List.mem_map.mpr ⟨p, ?_, rfl⟩
  rw [List.mem_insertionSort]
  exact List.mem_filter.mpr ⟨hp, decide_eq_true hstatus⟩

/-- A listing that is answered lists all that is in progress, and is followed by
a task for all that it lists. -/
theorem Polls.tasks (h : Polls env settings r r') {p : Playback} (hp : p ∈ r.store.playbacks)
    (hstatus : p.status = .inProgress) : r'.tasks p.playbackId ≠ none := by
  obtain ⟨r₁, r₂, hloop, hlist, hmoved, hbeside, hsteady, hschedule, hdone⟩ := h
  have hlisted : ∃ answer, r₁.loop = .listed answer ∧
      ∀ ids, answer = .ok ids → ids = inProgressPlaybackIds r.store := by
    cases hlist with
    | list _ outage =>
      refine ⟨_, rfl, fun ids heq => ?_⟩
      cases outage with
      | none => exact (Except.ok.inj heq).symm
      | some e => cases heq
    | leave h' => rw [hloop] at h'; cases h'
    | poll h' => rw [hloop] at h'; cases h'
    | attempt h' => rw [hloop] at h'; cases h'
    | recover h' => rw [hloop] at h'; cases h'
    | mark h' => rw [hloop] at h'; cases h'
    | answer h' => rw [hloop] at h'; cases h'
    | schedule h' => rw [hloop] at h'; cases h'
    | finish id => exact absurd ((finish_eq settings r id _).2.2.1.trans hloop) hmoved
    | @settle id answer => cases answer <;> exact absurd hloop hmoved
    | _ => exact absurd hloop hmoved
  obtain ⟨answer, hanswer, hids⟩ := hlisted
  have hsame : r₂.loop = r₁.loop := by
    clear hschedule hdone hsteady
    induction hbeside with
    | refl => rfl
    | tail _ hstep ih => exact hstep.2.trans ih
  have hlisted₂ : r₂.loop = .listed answer := hsame.trans hanswer
  cases answer with
  | error e => exact absurd hlisted₂ (hsteady.listing e)
  | ok ids =>
    obtain rfl := hids ids rfl
    have hmem := mem_inProgressPlaybackIds hp hstatus
    cases hschedule with
    | @schedule answer' h' =>
      obtain rfl : Except.ok _ = answer' := LoopState.listed.inj (hlisted₂.symm.trans h')
      show (if _ then _ else _) ≠ none
      split
      · nofun
      · rename_i hnot
        exact fun hnone => hnot ⟨hmem, hnone⟩
    | leave h' => rw [hlisted₂] at h'; cases h'
    | poll h' => rw [hlisted₂] at h'; cases h'
    | attempt h' => rw [hlisted₂] at h'; cases h'
    | recover h' => rw [hlisted₂] at h'; cases h'
    | mark h' => rw [hlisted₂] at h'; cases h'
    | answer h' => rw [hlisted₂] at h'; cases h'
    | list h' => rw [hlisted₂] at h'; cases h'
    | finish id => exact absurd (finish_eq settings r₂ id _).2.2.1 hdone
    | @settle id answer => cases answer <;> exact absurd rfl hdone
    | _ => exact absurd rfl hdone

end Progression

/-- A step of a run without outages, as its inputs determine it. -/
inductive Move
  | others (t : Transaction)
  | poll
  | attempt (a : PlanningAttempt)
  | recover (now : Instant)
  | answer
  | list
  | schedule
  | run (playbackId : String) (outcome : PlaybackOutcome)
  | finish (playbackId : String)
  | record (playbackId : String) (now : Instant)
  | settle (playbackId : String)

/-- The loop is not at an answer that it cannot bear. -/
def LoopState.isSteady : LoopState → Bool
  | .answered claimed (.ok answer) => answer = claimed
  | .answered _ (.error _) | .listed (.error _) => false
  | _ => true

namespace Progression

variable {r r' : Progression}

variable (env settings) in
/-- The state behind a move, where it can be made and its call does not raise. -/
def move (r : Progression) : Move → Option Progression
  | .others t => some { r with store := ((t.program env).transact r.store).2 }
  | .poll =>
    match r.loop with
    | .waiting => some { r with loop := .planning }
    | _ => none
  | .attempt a =>
    match r.loop with
    | .planning => some (r.attempt env settings a none none)
    | _ => none
  | .recover now =>
    match r.loop with
    | .recovering claim error => some (r.recover env claim error now none none)
    | _ => none
  | .answer =>
    match r.loop with
    | .answered _ answer => some { r with loop := .afterAnswer answer }
    | _ => none
  | .list =>
    match r.loop with
    | .listing => some { r with loop := .listed (.ok (inProgressPlaybackIds r.store)) }
    | _ => none
  | .schedule =>
    match r.loop with
    | .listed (.ok ids) => some (r.schedule (.ok ids))
    | _ => none
  | .run playbackId outcome =>
    match r.tasks playbackId with
    | some .running => some (r.setTask playbackId (some (.ran outcome)))
    | _ => none
  | .finish playbackId =>
    match r.tasks playbackId with
    | some (.ran outcome) => some (r.finish settings playbackId outcome)
    | _ => none
  | .record playbackId now =>
    match r.tasks playbackId, ((recordFailure playbackId now).transact r.store).1 with
    | some .recording, .ok _ => some (r.record playbackId now none)
    | _, _ => none
  | .settle playbackId =>
    match r.tasks playbackId with
    | some (.recorded (.ok p)) => some (r.settle playbackId (.ok p))
    | _ => none

variable (env settings) in
/-- The state behind moves whose answers the loop can bear. -/
def follow : List Move → Progression → Option Progression
  | [], r => some r
  | m :: moves, r =>
    (r.move env settings m).bind fun r' => if r'.loop.isSteady then follow moves r' else none

/-- No `record_failure` raised. -/
def Recorded (r : Progression) : Prop := ∀ id e, r.tasks id ≠ some (.recorded (.error e))

theorem Recorded.steady (h : r.Recorded) (hloop : r.loop.isSteady = true) : r.Steady := by
  refine ⟨fun claimed answer heq => ?_, fun e heq => ?_, h⟩
  · rw [heq] at hloop
    cases answer with
    | error e => cases hloop
    | ok answer => exact congrArg _ (of_decide_eq_true hloop)
  · rw [heq] at hloop
    cases hloop

theorem Recorded.setTask (h : r.Recorded) (playbackId : String) {task : Option PlaybackTask}
    (htask : ∀ e, task ≠ some (.recorded (.error e))) : (r.setTask playbackId task).Recorded := by
  intro id e heq
  by_cases hid : id = playbackId
  · subst hid
    rw [show (r.setTask id task).tasks id = task from Function.update_self ..] at heq
    exact htask e heq
  · have hsame : (r.setTask playbackId task).tasks id = r.tasks id := Function.update_of_ne hid ..
    exact h id e (hsame.symm.trans heq)

theorem Recorded.schedule (h : r.Recorded) (ids : List String) :
    (r.schedule (.ok ids)).Recorded := by
  intro id e heq
  unfold Progression.schedule at heq
  dsimp only at heq
  split at heq
  · cases heq
  · exact h id e heq

theorem Recorded.finish (h : r.Recorded) (playbackId : String) (outcome : PlaybackOutcome) :
    (r.finish settings playbackId outcome).Recorded := by
  obtain ⟨task, htasks, hcases⟩ := finish_tasks settings r playbackId outcome
  have htask : (r.setTask playbackId task).Recorded := by
    refine h.setTask playbackId fun e heq => ?_
    rcases hcases with ⟨rfl, -⟩ | ⟨rfl, -⟩ | ⟨rfl, -⟩ <;> cases heq
  intro id e heq
  rw [htasks] at heq
  exact htask id e heq

end Progression

end SupplyResponse
