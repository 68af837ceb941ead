/-
Execution of planned actions (`ExecutionService`).

* `createAction` — an action outside of planning;
* `beginAttempt` — `start` and `retry`;
* `finishAttempt` — `complete` and `fail`;
* `cancel` — the end of an action that is planned or in progress;
* `BeginsAttempt`, `FinishesAttempt` — what a begun or finished attempt did.

Each is one transaction; the reads, the guard and the three writes stand in the
order of the source.
-/
import SupplyResponse.Persistence.Execution
import SupplyResponse.Services.Currentness

namespace SupplyResponse

open Transact Transact.Prog
open Keyed (keys)

variable (env : Env)

def illegalTransition (message : String) : Raised := ⟨.illegalExecutionTransition, message⟩

/-- `create`. -/
def createAction (action : ExecutionAction) (eventUuid : String) : Sql (Exit ExecutionAction) := do
  let inserted ← insertActionIfAbsent env action eventUuid
  if inserted then do
    let _ ← guardExecutionCurrent env action.decisionId
    let created ← getAction action.actionId
    pure (.commit created)
  else do
    let stored ← getAction action.actionId
    pure (.rollback stored)

/-- `_require_transition`. -/
def requireActionTransition (action : ExecutionAction) (toStatus : ExecutionStatus) : Sql Unit :=
  require (toStatus ∈ action.status.allowedTransitions)
    (illegalTransition
      s!"illegal execution transition: {action.status.value} -> {toStatus.value}")

/-- `_event`. -/
def statusEvent (action : ExecutionAction) (toStatus : ExecutionStatus) (sequenceNumber : Nat)
    (attemptId errorCode : Option String) (eventUuid : String) (occurredAt : Instant) :
    ExecutionStatusEvent where
  executionEventId := "RL-EXECUTION-EVENT-" ++ eventUuid
  actionId := action.actionId
  decisionId := action.decisionId
  sequenceNumber := sequenceNumber
  fromStatus := some action.status
  toStatus := toStatus
  attemptId := attemptId
  errorCode := errorCode
  occurredAt := occurredAt

/-! ### Start and retry -/

/-- The new attempt of an action. -/
def ExecutionAction.attempt (action : ExecutionAction) (number : Nat) (attemptUuid : String)
    (startedAt : Instant) : ExecutionAttempt where
  attemptId := "RL-ATTEMPT-" ++ attemptUuid
  actionId := action.actionId
  decisionId := action.decisionId
  attemptNumber := number
  status := .inProgress
  startedAt := startedAt
  completedAt := none
  errorCode := none

/-- `_begin_attempt`. -/
def beginAttempt (actionId : String) (requiredStatus : ExecutionStatus)
    (attemptUuid eventUuid : String) (startedAt occurredAt : Instant) :
    Sql (Exit ExecutionAttempt) := do
  let action ← getAction actionId
  requireActionTransition action .inProgress
  require (action.status = requiredStatus)
    (illegalTransition
      s!"{requiredStatus.value} action required to enter in_progress; current status is {action.status.value}")
  let _ ← guardExecutionCurrent env action.decisionId
  let attempts ← listAttempts actionId
  let attempt := action.attempt (attempts.length + 1) attemptUuid startedAt
  let events ← listStatusEvents actionId
  insertAttempt attempt
  updateActionProjection (action.withStatus .inProgress)
  appendStatusEvent
    (statusEvent action .inProgress (events.length + 1) (some attempt.attemptId) none eventUuid
      occurredAt)
  pure (.commit attempt)

/-- `start`. -/
def start (actionId attemptUuid eventUuid : String) (startedAt occurredAt : Instant) :
    Sql (Exit ExecutionAttempt) :=
  beginAttempt env actionId .planned attemptUuid eventUuid startedAt occurredAt

/-- `retry`. -/
def retry (actionId attemptUuid eventUuid : String) (startedAt occurredAt : Instant) :
    Sql (Exit ExecutionAttempt) :=
  beginAttempt env actionId .failed attemptUuid eventUuid startedAt occurredAt

/-! ### Complete and fail -/

/-- `attempt.model_copy(update={"status": …, "completed_at": …, …})`. -/
def ExecutionAttempt.finished (attempt : ExecutionAttempt) (toStatus : ExecutionStatus)
    (now : Instant) (errorCode : Option String) : ExecutionAttempt :=
  { attempt with status := toStatus, completedAt := some now, errorCode := errorCode }

/-- The guard of a completion; a failure needs none. -/
def guardCompletion (decisionId : String) (toStatus : ExecutionStatus) : Sql Unit :=
  if toStatus = .completed then do
    let _ ← guardExecutionCurrent env decisionId
    pure ()
  else pure ()

/-- `_finish_attempt`. -/
def finishAttempt (actionId attemptId : String) (toStatus : ExecutionStatus)
    (errorCode : Option String) (eventUuid : String) (now : Instant) :
    Sql (Exit ExecutionAction) := do
  let action ← getAction actionId
  requireActionTransition action toStatus
  let attempt ← getAttempt attemptId
  require (attempt.actionId = actionId ∧ attempt.status = .inProgress)
    (illegalTransition "transition requires the action's in-progress attempt")
  guardCompletion env action.decisionId toStatus
  let events ← listStatusEvents actionId
  updateAttempt (attempt.finished toStatus now errorCode)
  updateActionProjection (action.withStatus toStatus)
  appendStatusEvent
    (statusEvent action toStatus (events.length + 1) (some attemptId) errorCode eventUuid now)
  pure (.commit (action.withStatus toStatus))

/-- `complete`. -/
def complete (actionId attemptId eventUuid : String) (now : Instant) :
    Sql (Exit ExecutionAction) :=
  finishAttempt env actionId attemptId .completed none eventUuid now

/-- `fail`. -/
def failAttempt (actionId attemptId errorCode eventUuid : String) (now : Instant) :
    Sql (Exit ExecutionAction) :=
  finishAttempt env actionId attemptId .failed (some errorCode) eventUuid now

/-! ### Cancel -/

/-- The part of `cancel` for an action in progress: its last attempt is
cancelled.  Answers the attempt id of the status event. -/
def cancelCurrentAttempt (actionId : String) (attemptId : Option String) (now : Instant) :
    Sql (Option String) := do
  let attempts ← listAttempts actionId
  let current ← orRaise
    (illegalTransition "cancellation requires the action's in-progress attempt")
    (attempts.getLast?.filter fun current =>
      current.status = .inProgress ∧ ∀ id ∈ attemptId, current.attemptId = id)
  updateAttempt
    { current with status := .cancelled, completedAt := some now }
  pure (some current.attemptId)

/-- The attempt that `cancel` ends. -/
def cancelAttempt (action : ExecutionAction) (attemptId : Option String) (now : Instant) :
    Sql (Option String) :=
  if action.status = .inProgress then cancelCurrentAttempt action.actionId attemptId now
  else pure attemptId

/-- `cancel`. -/
def cancel (actionId : String) (attemptId : Option String) (eventUuid : String) (now : Instant) :
    Sql (Exit ExecutionAction) := do
  let action ← getAction actionId
  requireActionTransition action .cancelled
  let attemptId ← cancelAttempt action attemptId now
  let events ← listStatusEvents actionId
  updateActionProjection (action.withStatus .cancelled)
  appendStatusEvent
    (statusEvent action .cancelled (events.length + 1) attemptId none eventUuid now)
  pure (.commit (action.withStatus .cancelled))

/-! ### What the calls did -/

/-- An action as it is stored and projected. -/
structure Projected (s : Store) (action : ExecutionAction) : Prop where
  stored : s.actions.get? (.action action.actionId) = some (action.withStatus .planned)
  row : ∃ n, s.actionProjections.get? (.actionProjection action.actionId) =
    some ⟨action.actionId, action, n⟩

theorem returns_getAction_projected {actionId : String} {s s' : Store} {a : ExecutionAction}
    (h : (getAction actionId).Returns s a s') : a.actionId = actionId ∧ Projected s a := by
  obtain ⟨-, immutable, row, him, hrow, rfl, hid, rfl⟩ := returns_getAction h
  have hrowId := actionId_of_projection hrow
  refine ⟨hid, hid ▸ him, row.currentAttempt, ?_⟩
  rw [hid, hrow, ← hrowId]

theorem ActionProjectionRow.keys_action (action : ExecutionAction) (row : ActionProjectionRow)
    (_ : Key.actionProjection action.actionId ∈ keys row) :
    keys { row with action := action } = keys row := rfl

/-- The projections after the action got a new status. -/
def Store.projected (s : Store) (action : ExecutionAction) : Table Key ActionProjectionRow :=
  (s.modifyActionProjection action.actionId (fun row => { row with action := action })
    (ActionProjectionRow.keys_action action)).actionProjections

/-- The tables after an attempt of the action was begun. -/
structure BeginsAttempt (s : Store) (action : ExecutionAction) (attempt : ExecutionAttempt)
    (s' : Store) : Prop where
  projected : Projected s action
  owner : attempt.actionId = action.actionId
  number : attempt.attemptNumber = (attemptsOf s action.actionId).length + 1
  status : attempt.status = .inProgress
  free : s.attempts.Free attempt
  effect : ∃ projections event, s' = { s with
    projections := projections
    attempts := s.attempts.add attempt
    actionProjections := Store.projected (s.modifyActionProjection action.actionId
      (fun row => { row with currentAttempt := attempt.attemptNumber }) (fun _ _ => rfl))
        (action.withStatus .inProgress)
    statusEvents := s.statusEvents.add event }

theorem returns_beginAttempt {actionId : String} {requiredStatus : ExecutionStatus}
    {attemptUuid eventUuid : String} {startedAt occurredAt : Instant} {s s' : Store}
    {attempt : ExecutionAttempt}
    (h : (beginAttempt env actionId requiredStatus attemptUuid eventUuid startedAt
      occurredAt).Commits s attempt s') :
    ∃ action, action.actionId = actionId ∧ action.status = requiredStatus ∧
      attempt.attemptId = "RL-ATTEMPT-" ++ attemptUuid ∧ BeginsAttempt s action attempt s' := by
  obtain ⟨action, ha, h⟩ := (readOnly_getAction _).returns_bind.mp h
  obtain ⟨rfl, hproj⟩ := returns_getAction_projected ha
  obtain ⟨-, h⟩ := returns_require_bind.mp h
  obtain ⟨hstatus, h⟩ := returns_require_bind.mp h
  obtain ⟨d, s₁, hguard, h⟩ := returns_bind.mp h
  obtain ⟨t, rfl⟩ := (returns_guardExecutionCurrent env hguard).2.effect
  obtain ⟨attempts, hatt, h⟩ := (readOnly_listAttempts _).returns_bind.mp h
  obtain ⟨rfl, -⟩ := returns_select.mp hatt
  obtain ⟨events, -, h⟩ := (readOnly_listStatusEvents _).returns_bind.mp h
  obtain ⟨_, s₂, hins, h⟩ := returns_bind.mp h
  obtain ⟨-, -, hfree, rfl⟩ := returns_insertAttempt hins
  obtain ⟨_, s₃, hup, h⟩ := returns_bind.mp h
  obtain ⟨-, rfl⟩ := returns_updateActionProjection hup
  obtain ⟨_, s₄, happ, h⟩ := returns_bind.mp h
  obtain ⟨-, -, -, -, rfl⟩ := returns_appendStatusEvent happ
  obtain ⟨heq, rfl⟩ := returns_done.mp h
  obtain rfl := Exit.commit.inj heq
  exact ⟨action, rfl, hstatus, rfl, hproj, rfl, rfl, rfl, hfree, t, _, rfl⟩

/-- The tables after the attempt of the action was finished. -/
structure FinishesAttempt (s : Store) (action : ExecutionAction) (attempt : ExecutionAttempt)
    (toStatus : ExecutionStatus) (errorCode : Option String) (now : Instant) (s' : Store) :
    Prop where
  projected : Projected s action
  allowed : toStatus ∈ action.status.allowedTransitions
  owner : attempt.actionId = action.actionId
  status : attempt.status = .inProgress
  stored : s.attempts.get? (.attempt attempt.attemptId) = some attempt
  effect : ∃ projections event, s' = { s with
    projections := projections
    attempts := s.attempts.modify (.attempt attempt.attemptId)
      (attempt.finished toStatus now errorCode).finishedAs (fun _ _ => rfl)
    actionProjections := s.projected (action.withStatus toStatus)
    statusEvents := s.statusEvents.add event }

theorem attemptId_of_get? {s : Store} {id : String} {attempt : ExecutionAttempt}
    (h : s.attempts.get? (.attempt id) = some attempt) : attempt.attemptId = id := by
  have hk := (Table.get?_eq_some_iff.mp h).2
  simp only [keys_executionAttempt, List.mem_cons, Key.attempt.injEq, reduceCtorEq,
    List.not_mem_nil, or_false] at hk
  exact hk.symm

theorem returns_guardCompletion {decisionId : String} {toStatus : ExecutionStatus} {s s' : Store}
    {u : Unit} (h : (guardCompletion env decisionId toStatus).Returns s u s') :
    ∃ t, s' = { s with projections := t } := by
  obtain ⟨-, h⟩ | ⟨-, h⟩ := returns_ite.mp h
  · obtain ⟨d, s₁, hguard, h⟩ := returns_bind.mp h
    obtain ⟨-, rfl⟩ := returns_done.mp h
    exact (returns_guardExecutionCurrent env hguard).2.effect
  · exact ⟨s.projections, (returns_done.mp h).2⟩

theorem returns_finishAttempt {actionId attemptId : String} {toStatus : ExecutionStatus}
    {errorCode : Option String} {eventUuid : String} {now : Instant} {s s' : Store}
    {result : ExecutionAction}
    (h : (finishAttempt env actionId attemptId toStatus errorCode eventUuid now).Commits s result
      s') :
    ∃ action attempt, action.actionId = actionId ∧ attempt.attemptId = attemptId ∧
      FinishesAttempt s action attempt toStatus errorCode now s' := by
  obtain ⟨action, ha, h⟩ := (readOnly_getAction _).returns_bind.mp h
  obtain ⟨rfl, hproj⟩ := returns_getAction_projected ha
  obtain ⟨hallowed, h⟩ := returns_require_bind.mp h
  rw [getAttempt, returns_getRow_bind] at h
  obtain ⟨attempt, hatt, h⟩ := h
  obtain ⟨⟨howner, hstatus⟩, h⟩ := returns_require_bind.mp h
  obtain rfl := attemptId_of_get? hatt
  obtain ⟨_, s₁, hguard, h⟩ := returns_bind.mp h
  obtain ⟨t, rfl⟩ := returns_guardCompletion env hguard
  obtain ⟨events, -, h⟩ := (readOnly_listStatusEvents _).returns_bind.mp h
  obtain ⟨_, s₂, hend, h⟩ := returns_bind.mp h
  obtain ⟨previous, hprev, -, -, rfl⟩ := returns_updateAttempt hend
  obtain ⟨_, s₃, hup, h⟩ := returns_bind.mp h
  obtain ⟨-, rfl⟩ := returns_updateActionProjection hup
  obtain ⟨_, s₄, happ, h⟩ := returns_bind.mp h
  obtain ⟨-, -, -, -, rfl⟩ := returns_appendStatusEvent happ
  obtain ⟨heq, rfl⟩ := returns_done.mp h
  exact ⟨action, attempt, rfl, rfl, hproj, hallowed, howner, hstatus, hatt, t, _, rfl⟩

end SupplyResponse
