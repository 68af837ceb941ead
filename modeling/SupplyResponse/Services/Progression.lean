/-
Background progression (`RuntimeProgression`): a loop that polls the outbox and
the playbacks, and one task for every playback under way.

* `processUnattempted`, `recoverUnattempted` — the transactions of
  `process_next_unattempted_outbox`, beside outages of the database;
* `LoopState`, `PlaybackTask`, `Progression` — where the loop and the tasks are;
* `Progression.resume`, `Progression.schedule`, `Progression.finish` — what they
  do with the result of a call;
* `Progression.Step` — one step of the loop, of a task, or of another party.
-/
import SupplyResponse.Services.Playback
import SupplyResponse.Services.Worker
import SupplyResponse.Runs.Transactions

namespace SupplyResponse

open Transact Transact.Prog

/-! ### Outages -/

/-- An exception of the database, and the number of the statement of a unit of
work that it strikes. -/
structure Outage where
  statement : ℕ
  error : Raised

/-- A unit of work that an outage may strike. -/
def withOutage {α : Type} (p : Sql α) : Option Outage → Sql α
  | none => p
  | some outage => p.interrupt outage.error outage.statement

section Planning

variable (env : Env)

/-- The transaction of `process_next_unattempted_outbox`; an outage may strike
the claim, or the attempt behind it. -/
def processUnattempted (versions : Option (List WorkflowVersion)) (a : PlanningAttempt)
    (claiming attempting : Option Outage) : Sql (Exit WorkerOutcome) := do
  let claim ← withOutage (claimOutbox ⟨a.now, none, false, versions⟩) claiming
  match claim with
  | none => pure (.rollback .idle)
  | some claim =>
    (withOutage (attemptClaimed env a.planner a.eventUuid a.processedAt claim)
      attempting).tryCatch fun e => pure (.rollback (.failed claim e))

theorem processUnattempted_none (versions : Option (List WorkflowVersion)) (a : PlanningAttempt) :
    processUnattempted env versions a none none =
      processTransaction env a.planner ⟨a.now, none, false, versions⟩ a.eventUuid a.processedAt :=
  rfl

/-- The transaction of `_recover_failure`; an outage may strike the read of the
case, or the branch behind it. -/
def recoverUnattempted (claim : OutboxClaim) (error : Raised) (now : Instant)
    (reading branching : Option Outage) : Sql (Exit RecoveryOutcome) := do
  let projection ← (Except.ok <$> withOutage (getProjection env claim.caseId) reading).tryCatch
    fun e => pure (Except.error e)
  match projection with
  | .error e => pure (.rollback (.failed false e))
  | .ok projection =>
    if projection.case.effectiveWorkflowVersion = .independentFinance then
      (withOutage (recoverIndependent env claim (errorCode error) now) branching).tryCatch fun e =>
        pure (.rollback (.failed true e))
    else
      (withOutage (recoverLegacy env claim (errorCode error)) branching).tryCatch fun e =>
        pure (.rollback (.failed false e))

theorem recoverUnattempted_none (claim : OutboxClaim) (error : Raised) (now : Instant) :
    recoverUnattempted env claim error now none none = recoveryTransaction env claim error now :=
  rfl

end Planning

/-! ### The loop and its tasks -/

/-- Where `_run` is.  A call that has returned, or raised, waits for the loop to
resume; `claimed` says whether it had claimed an event. -/
inductive LoopState
  | waiting
  | planning
  | recovering (claim : OutboxClaim) (error : Raised)
  | marking (claim : OutboxClaim) (code : String) (reraised : Option Raised)
  | answered (claimed : Bool) (answer : Except Raised Bool)
  | listing
  | listed (answer : Except Raised (List String))
  | ended (error : Option Raised)

/-- How `run_to_completion` ends. -/
inductive PlaybackOutcome
  | returned (status : PlaybackStatus)
  | interrupted
  | raised (error : Raised)

/-- Where `_run_playback` is. -/
inductive PlaybackTask
  | running
  | ran (outcome : PlaybackOutcome)
  | recording
  | recorded (answer : Except Raised Playback)

/-- What the progression has done: it attempted to plan an event, it took note
of a run, it took note of a recorded failure. -/
inductive Happening
  | attempted (eventId : String)
  | ran (playbackId : String) (outcome : PlaybackOutcome)
  | marked (playbackId : String)

/-- `RuntimeProgression`, on the store of its services; `failures` is
`_playback_failures`, where no entry is 0, and the happenings, newest first, are
not part of the code. -/
structure Progression where
  store : Store
  stopped : Bool
  loop : LoopState
  tasks : String → Option PlaybackTask
  failures : String → ℕ
  happened : List Happening

/-- `processable_workflow_versions` and `playback_max_attempts`. -/
structure ProgressionSettings where
  versions : Option (List WorkflowVersion)
  maxAttempts : ℕ
  positive : 0 < maxAttempts

/-- `start`. -/
def Progression.start (store : Store) : Progression where
  store := store
  stopped := false
  loop := .waiting
  tasks _ := none
  failures _ := 0
  happened := []

/-- `in_progress_playback_ids`. -/
def inProgressPlaybackIds (s : Store) : List String :=
  ((s.playbacks.rows.filter fun p => p.status = .inProgress).insertionSort fun a b =>
    a.startedAt < b.startedAt ∨ a.startedAt = b.startedAt ∧ a.playbackId ≤ b.playbackId).map
      Playback.playbackId

/-! ### Calls of the loop -/

/-- What the loop sees of the transaction of an attempt. -/
def LoopState.afterAttempt : Except Raised WorkerOutcome → LoopState
  | .ok .idle => .answered false (.ok false)
  | .ok (.planned ..) => .answered true (.ok true)
  | .ok (.failed claim error) => .recovering claim error
  | .error error => .answered false (.error error)

/-- The clauses behind the transaction of `_recover_failure`. -/
def LoopState.afterRecovery (claim : OutboxClaim) (error : Raised) :
    Except Raised RecoveryOutcome → LoopState
  | .ok (.answer recorded) => .answered true (.ok recorded)
  | .ok (.failed independent e) =>
    if e.cls = .executionProposalStale then .marking claim executionProposalStaleError none
    else if independent then .marking claim (errorCode error) (some e)
    else .answered true (.error e)
  | .error e => .answered true (.error e)

/-- What follows `_event_only_failure`: no, or the exception that led to it. -/
def LoopState.afterMark (reraised : Option Raised) : Except Raised Bool → LoopState
  | .ok _ => .answered true (match reraised with
    | none => .ok false
    | some e => .error e)
  | .error e => .answered true (.error e)

/-- `_advance_planning` and `_run` behind an answer of the worker. -/
def LoopState.afterAnswer : Except Raised Bool → LoopState
  | .ok true => .planning
  | .ok false => .listing
  | .error e => .ended (some e)

/-- The event that a transaction attempted to plan. -/
def attemptedEvent (s : Store) (filter : OutboxFilter) : Except Raised WorkerOutcome → List Happening
  | .ok (.planned ..) => ((outboxCandidate s filter).map fun c => .attempted c.eventId).toList
  | .ok (.failed claim _) => [.attempted claim.eventId]
  | _ => []

namespace Progression

variable (env : Env) (settings : ProgressionSettings)

/-- The transaction of an attempt. -/
def attempt (r : Progression) (a : PlanningAttempt) (claiming attempting : Option Outage) :
    Progression :=
  let result := (processUnattempted env settings.versions a claiming attempting).transact r.store
  { r with
    store := result.2
    loop := .afterAttempt result.1
    happened := attemptedEvent r.store ⟨a.now, none, false, settings.versions⟩ result.1 ++ r.happened }

/-- The transaction of `_recover_failure`, or what takes its place when the
attempt found a stale proposal. -/
def recover (r : Progression) (claim : OutboxClaim) (error : Raised) (now : Instant)
    (reading branching : Option Outage) : Progression :=
  if error.cls = .executionProposalStale then
    { r with loop := .marking claim executionProposalStaleError none }
  else
    let result := (recoverUnattempted env claim error now reading branching).transact r.store
    { r with store := result.2, loop := .afterRecovery claim error result.1 }

/-- The transaction of `_event_only_failure`. -/
def mark (r : Progression) (claim : OutboxClaim) (code : String) (reraised : Option Raised)
    (now : Instant) (outage : Option Outage) : Progression :=
  let result := (withOutage (eventOnlyTransaction claim code now) outage).transact r.store
  { r with store := result.2, loop := .afterMark reraised result.1 }

/-- `_start_persisted_playbacks`, with the answer of its call. -/
def schedule (r : Progression) : Except Raised (List String) → Progression
  | .ok ids =>
    { r with
      loop := .waiting
      tasks := fun id => if id ∈ ids ∧ r.tasks id = none then some .running else r.tasks id }
  | .error e => { r with loop := .ended (some e) }

/-! ### Tasks -/

/-- The task of a playback moves on, or ends. -/
def setTask (r : Progression) (playbackId : String) (task : Option PlaybackTask) : Progression :=
  { r with tasks := Function.update r.tasks playbackId task }

def setFailures (r : Progression) (playbackId : String) (failures : ℕ) : Progression :=
  { r with failures := Function.update r.failures playbackId failures }

def note (r : Progression) (happening : Happening) : Progression :=
  { r with happened := happening :: r.happened }

/-- The clauses of `_run_playback` behind its run. -/
def finish (r : Progression) (playbackId : String) : PlaybackOutcome → Progression
  | .returned status =>
    ((if status ≠ .inProgress then r.setFailures playbackId 0 else r).setTask playbackId none).note
      (.ran playbackId (.returned status))
  | .interrupted => (r.setTask playbackId none).note (.ran playbackId .interrupted)
  | .raised error =>
    let failures := r.failures playbackId + 1
    ((r.setFailures playbackId failures).setTask playbackId
      (if settings.maxAttempts ≤ failures then some .recording else none)).note
        (.ran playbackId (.raised error))

/-- The call of `record_failure`. -/
def record (r : Progression) (playbackId : String) (now : Instant) (outage : Option Outage) :
    Progression :=
  let result := (withOutage (recordFailure playbackId now) outage).transact r.store
  { r with store := result.2 }.setTask playbackId (some (.recorded result.1))

/-- What follows `record_failure`. -/
def settle (r : Progression) (playbackId : String) : Except Raised Playback → Progression
  | .ok _ => ((r.setFailures playbackId 0).setTask playbackId none).note (.marked playbackId)
  | .error _ => r.setTask playbackId none

/-! ### Steps -/

/-- One step of the loop, of a task, or of another party.  The transactions of a
run are among those of the other parties; a poll may still begin when `stop` is
called as the wait runs out. -/
inductive Step : Progression → Progression → Prop
  | others {r : Progression} (t : Transaction) (u : Unit) (s : Store)
    (h : (t.program env).Commits r.store u s) : Step r { r with store := s }
  | stop {r : Progression} : Step r { r with stopped := true }
  | leave {r : Progression} (h : r.loop = .waiting) (hstop : r.stopped = true) :
    Step r { r with loop := .ended none }
  | poll {r : Progression} (h : r.loop = .waiting) : Step r { r with loop := .planning }
  | attempt {r : Progression} (h : r.loop = .planning) (a : PlanningAttempt)
    (claiming attempting : Option Outage) : Step r (r.attempt env settings a claiming attempting)
  | recover {r : Progression} {claim : OutboxClaim} {error : Raised}
    (h : r.loop = .recovering claim error) (now : Instant) (reading branching : Option Outage) :
    Step r (r.recover env claim error now reading branching)
  | mark {r : Progression} {claim : OutboxClaim} {code : String} {reraised : Option Raised}
    (h : r.loop = .marking claim code reraised) (now : Instant) (outage : Option Outage) :
    Step r (r.mark claim code reraised now outage)
  | answer {r : Progression} {claimed : Bool} {answer : Except Raised Bool}
    (h : r.loop = .answered claimed answer) : Step r { r with loop := .afterAnswer answer }
  | list {r : Progression} (h : r.loop = .listing) (outage : Option Raised) :
    Step r { r with loop := .listed (match outage with
      | none => .ok (inProgressPlaybackIds r.store)
      | some e => .error e) }
  | schedule {r : Progression} {answer : Except Raised (List String)} (h : r.loop = .listed answer) :
    Step r (r.schedule answer)
  | run {r : Progression} (playbackId : String) (h : r.tasks playbackId = some .running)
    (outcome : PlaybackOutcome) : Step r (r.setTask playbackId (some (.ran outcome)))
  | finish {r : Progression} (playbackId : String) {outcome : PlaybackOutcome}
    (h : r.tasks playbackId = some (.ran outcome)) : Step r (r.finish settings playbackId outcome)
  | record {r : Progression} (playbackId : String) (h : r.tasks playbackId = some .recording)
    (now : Instant) (outage : Option Outage) : Step r (r.record playbackId now outage)
  | settle {r : Progression} (playbackId : String) {answer : Except Raised Playback}
    (h : r.tasks playbackId = some (.recorded answer)) : Step r (r.settle playbackId answer)

end Progression

end SupplyResponse
