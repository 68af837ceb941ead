/-
Simulated playback of a Decision (`services/execution/playback.py`).

* `startPlayback`, `fillDraft`, `recordCompletion`, `recordFailure` — the
  transactions of the service;
* `predictedObservations`, `draftBody` — the values they record;
* `FillsDraft`, `StartsPlayback`, `CompletesPlayback` — what they did;
* `PlaybackService.start`, `PlaybackService.runToCompletion`,
  `PlaybackService.recordFailure` — the calls, each a procedure of several
  transactions.
-/
import SupplyResponse.Persistence.Playbacks
import SupplyResponse.Services.Execution
import SupplyResponse.Services.Planner
import SupplyResponse.Transact.Process

namespace SupplyResponse

open Transact Transact.Prog

variable (env : Env)

def playbackStateError (message : String) : Raised := ⟨.playbackStateError, message⟩

def playbackAuthorizationError (message : String) : Raised :=
  ⟨.playbackAuthorizationError, message⟩

/-! ### Recorded values -/

/-- `str` of a decimal with two places. -/
def moneyText (value : Money) : String := twoPlaces value

/-- `predicted_observations`: metric, value and unit. -/
def predictedObservations (predicted : PredictedOutcome) : List (String × String × String) :=
  [("uncovered_part_demand", toString predicted.uncoveredPartDemand, "units"),
    ("response_cost", moneyText predicted.responseCost, "USD"),
    ("revenue_at_risk", moneyText predicted.revenueAtRisk, "USD"),
    ("margin_at_risk", moneyText predicted.marginAtRisk, "USD"),
    ("otif_loss_percentage", toString predicted.otifLossPercentage, "percent")]

def draftSubject : String := "RL-001 supplier communication draft"

/-- `_draft_body`. -/
def draftBody (decision : Decision) (option : ResponseOption) : String :=
  let response :=
    if option.optionKind = .transfer then
      "The approved Dallas transfer response uses internal coordination. No supplier order was placed."
    else
      s!"The approved response is: {option.name}. This simulation did not order or send a supplier shipment."
  "FICTIONAL DEMO — supplier communication draft for Alex's review.\n" ++
    s!"Case reference: {decision.caseId}\n" ++
    s!"Selected response: {option.name}\n\n" ++
    s!"{response}\n" ++
    "Please confirm the remaining recovery timing for disruption RL-001.\n\n" ++
    "Not sent.\n"

/-- `_deterministic_id`. -/
def deterministicId (beginning decisionId material : String) : String :=
  beginning ++ "-" ++ env.uuid5 (decisionId ++ ":" ++ material)

/-! ### Start -/

/-- `_authorize`. -/
def authorizePlayback (actor : IdentitySnapshot) : Sql Unit :=
  require (actor.personaId = "RL-PERSONA-ALEX" ∧ actor.identitySource = .entra ∧
      actor.sourceId = "RL-ENTRA-ALEX" ∧ "material_planner" ∈ actor.effectiveRoles ∧
      "response_approver" ∈ actor.effectiveRoles)
    (playbackAuthorizationError "Playback requires the server-owned authorized Alex identity")

/-- A new playback of a Decision. -/
def newPlayback (decision : Decision) (actor : IdentitySnapshot) (now : Instant) : Playback where
  playbackId := deterministicId env "RL-PLAYBACK" decision.decisionId "simulated-playback"
  caseId := decision.caseId
  decisionId := decision.decisionId
  actor := actor
  status := .inProgress
  startedAt := now
  completedAt := none
  failedAt := none
  errorCode := none
  valid := PlaybackStatus.admits_inProgress

/-- The part of `start` for a Decision that has no playback yet. -/
def insertPlayback (decision : Decision) (actor : IdentitySnapshot) (now : Instant) :
    Sql (Exit Playback) := do
  let actions ← listActions decision.decisionId
  let option ← orRaise (playbackStateError "Playback requires a selected Decision option")
    decision.selectedOption
  let kinds ← ofExcept (actionKindsFor option.optionKind)
  require (actions.map ExecutionAction.kind = kinds)
    (playbackStateError "Playback requires the exact planned Decision actions")
  let playback := newPlayback env decision actor now
  let inserted ← insertPlaybackIfAbsent env playback
  if inserted then do
    let _ ← guardExecutionCurrent env decision.decisionId
    pure (.commit playback)
  else pure (.rollback playback)

/-- The first transaction of `start`; the second one only reads. -/
def startPlayback (decisionId : String) (actor : IdentitySnapshot) (now : Instant) :
    Sql (Exit Playback) := do
  authorizePlayback actor
  let decision ← getDecision env decisionId
  require (decision.kind = .approved)
    (playbackStateError "Playback requires an approved Decision")
  require (decision.actor = actor)
    (playbackAuthorizationError "Playback actor must match the approved Decision actor")
  let existing ← getPlaybackForDecision decisionId
  match existing with
  | some existing => pure (.rollback existing)
  | none => insertPlayback env decision actor now

/-! ### Drafts -/

/-- The draft with its content. -/
def DraftArtifact.filled (shell : DraftArtifact) (body : String) : DraftArtifact :=
  { shell with subject := some draftSubject, body := some body, valid := by simp }

/-- `_fill_draft`. -/
def fillDraft (actionId : String) : Sql (Exit Unit) := do
  let shell ← getDraftArtifact actionId
  let decision ← getDecision env shell.decisionId
  let option ← orRaise (playbackStateError "Decision has no selected option") decision.selectedOption
  let filled := shell.filled (draftBody decision option)
  if shell.subject.isSome then do
    fillDraftArtifact filled
    pure (.rollback ())
  else do
    let _ ← guardExecutionCurrent env shell.decisionId
    fillDraftArtifact filled
    pure (.commit ())

/-! ### Terminal results -/

/-- `record_failure`. -/
def recordFailure (playbackId : String) (now : Instant) : Sql (Exit Playback) := do
  let current ← getPlayback playbackId
  if current.status = .inProgress then do
    let failed : Playback :=
      { current with
        status := .failed, completedAt := none, failedAt := some now
        errorCode := some "PLAYBACK_EXECUTION_FAILED", valid := ⟨rfl, rfl, rfl⟩ }
    updatePlayback failed
    pure (.commit failed)
  else pure (.rollback current)

/-- A simulated observation of a completed playback. -/
def observation (decision : Decision) (playbackId : String) (actionId : Option String)
    (recordedAt : Instant) (item : String × String × String) : OutcomeObservation where
  observationId := deterministicId env "RL-OBSERVATION" decision.decisionId item.1
  caseId := decision.caseId
  decisionId := decision.decisionId
  playbackId := some playbackId
  actionId := actionId
  metric := item.1
  observedValue := item.2.1
  unit := item.2.2
  predictedValue := item.2.1
  scenarioEffectiveTime := decision.scenarioEffectiveTime
  recordedAt := recordedAt
  sourceReference := "Simulated: RL-001:" ++ item.1
  kind := .simulated
  synthetic := true
  valid := ⟨by simp, by simp, by simp⟩

/-- The exact completed actions of a Decision, the ones that were played. -/
def IsCompletedSet (actions canonical : List ExecutionAction) (kinds : List ExecutionActionKind) :
    Prop :=
  canonical.map ExecutionAction.kind = kinds ∧
    (canonical.map ExecutionAction.actionId).dedup.length = kinds.length ∧
    (∀ action ∈ canonical, action.status = .completed) ∧
    actions.map (fun a => a.withStatus .planned) = canonical.map fun a => a.withStatus .planned

instance (actions canonical : List ExecutionAction) (kinds : List ExecutionActionKind) :
    Decidable (IsCompletedSet actions canonical kinds) :=
  inferInstanceAs (Decidable (_ ∧ _))

/-- The part of `_record_completion` for a playback in progress. -/
def completePlayback (current : Playback) (actions : List ExecutionAction) (recordedAt : Instant) :
    Sql (Exit Playback) := do
  let canonical ← listActions current.decisionId
  let decision ← getDecision env current.decisionId
  let option ← orRaise (playbackStateError "Playback requires a selected Decision option")
    decision.selectedOption
  let kinds ← ofExcept (actionKindsFor option.optionKind)
  require (IsCompletedSet actions canonical kinds)
    (playbackStateError "Playback requires the exact completed Decision action set")
  let decision ← guardExecutionCurrent env current.decisionId
  let _ ← storedCase current.caseId
  let predicted ← orRaise (playbackStateError "Decision has no predicted outcome")
    (decision.selectedOption.bind ResponseOption.predicted)
  let statusAction := (canonical.find? fun a => a.kind = .updateDisruptionStatus).map
    ExecutionAction.actionId
  forEach (fun item => insertObservation env
      (observation env decision current.playbackId statusAction recordedAt item))
    (predictedObservations predicted)
  let completed : Playback :=
    { current with
      status := .completed, completedAt := some recordedAt, failedAt := none, errorCode := none
      valid := ⟨rfl, rfl, rfl⟩ }
  updatePlayback completed
  pure (.commit completed)

/-- `_record_completion`. -/
def recordCompletion (playback : Playback) (actions : List ExecutionAction)
    (recordedAt : Instant) : Sql (Exit Playback) := do
  let current ← getPlayback playback.playbackId
  require (current.ended playback = current)
    (playbackStateError "Playback identity differs from canonical record")
  if current.status = .inProgress then completePlayback env current actions recordedAt
  else pure (.rollback current)

/-! ### The calls

`wait_until` only delays a run or, at shutdown, interrupts it. -/

/-- The second transaction of `start`. -/
def canonicalPlayback (playback : Playback) : Sql (Exit Playback) := do
  let canonical ← getPlaybackForDecision playback.decisionId
  let canonical ← orRaise
    (playbackStateError "Playback insert did not retain its canonical Decision linkage") canonical
  require (canonical.playbackId = playback.playbackId)
    (playbackStateError "Playback insert did not retain its canonical Decision linkage")
  pure (.rollback canonical)

/-- What a run is given for an action: fresh identifiers and clock readings. -/
structure StepReadings where
  attemptUuid : String
  startedUuid : String
  completedUuid : String
  startedAt : Instant
  occurredAt : Instant
  completedAt : Instant

/-- The action and its attempts, as `_complete_action` reads them. -/
def readAction (actionId : String) : Sql (Exit (ExecutionAction × List ExecutionAttempt)) := do
  let action ← getAction actionId
  let attempts ← listAttempts action.actionId
  pure (.rollback (action, attempts))

/-- The attempt that a run goes on with: a new one, or the last one of an
action in progress. -/
def currentAttempt (action : ExecutionAction) (attempts : List ExecutionAttempt)
    (given : StepReadings) : Process Store Raised ExecutionAttempt :=
  match action.status, attempts.getLast? with
  | .planned, _ =>
    Process.transaction (SupplyResponse.start env action.actionId given.attemptUuid
      given.startedUuid given.startedAt given.occurredAt)
  | .inProgress, some attempt => .done attempt
  | status, _ =>
    .raise (playbackStateError s!"Playback action cannot advance from {status.value}")

/-- The draft of an action that owns one. -/
def prepareDraft (action : ExecutionAction) : Process Store Raised Unit :=
  if action.kind = .prepareAlphaRecoveryDraft then
    Process.transaction (fillDraft env action.actionId)
  else .done ()

/-- The rest of `_complete_action` for an action that is not completed yet. -/
def advanceAction (action : ExecutionAction) (attempts : List ExecutionAttempt)
    (given : StepReadings) : Process Store Raised Unit := do
  let attempt ← currentAttempt env action attempts given
  prepareDraft env action
  let _ ← Process.transaction
    (complete env action.actionId attempt.attemptId given.completedUuid given.completedAt)
  pure ()

/-- `_complete_action`. -/
def completeAction (expected : ExecutionAction) (given : StepReadings) :
    Process Store Raised Unit := do
  let (action, attempts) ← Process.transaction (readAction expected.actionId)
  if action.status = .completed then pure () else advanceAction env action attempts given

/-- `by_kind[step.kind]`: the last action of the kind of a step, which is itself
one of the actions. -/
def byKind (actions : List ExecutionAction) (step : ExecutionAction) : ExecutionAction :=
  (actions.reverse.find? fun action => action.kind = step.kind).getD step

/-- The loop of `run_to_completion`; the readings are those of the step. -/
def completeActions (actions : List ExecutionAction) (given : Nat → StepReadings) :
    List ExecutionAction → Nat → Process Store Raised Unit
  | [], _ => pure ()
  | step :: rest, index => do
    completeAction env (byKind actions step) (given index)
    completeActions actions given rest (index + 1)

/-- The first transaction of `run_to_completion`. -/
def loadPlayback (playbackId : String) : Sql (Exit (Playback × List ExecutionAction)) := do
  let playback ← getPlayback playbackId
  if playback.status = .inProgress then do
    let actions ← listActions playback.decisionId
    pure (.rollback (playback, actions))
  else pure (.rollback (playback, []))

namespace PlaybackService

/-- `start`. -/
def start (decisionId : String) (actor : IdentitySnapshot) (now : Instant) :
    Process Store Raised Playback := do
  let started ← Process.unit (startPlayback env decisionId actor now)
  match started with
  | .commit playback => Process.transaction (canonicalPlayback playback)
  | .rollback existing => pure existing

/-- `run_to_completion`. -/
def runToCompletion (playbackId : String) (given : Nat → StepReadings) (recordedAt : Instant) :
    Process Store Raised Playback := do
  let (playback, actions) ← Process.transaction (loadPlayback playbackId)
  if playback.status = .inProgress then do
    completeActions env actions given actions 0
    Process.transaction (recordCompletion env playback actions recordedAt)
  else pure playback

/-- `record_failure`. -/
def recordFailure (playbackId : String) (now : Instant) : Process Store Raised Playback :=
  Process.transaction (SupplyResponse.recordFailure playbackId now)

end PlaybackService

/-! ### What the transactions did -/

/-- The tables after an empty draft was filled for its Decision. -/
structure FillsDraft (s : Store) (shell : DraftArtifact) (d : Decision) (option : ResponseOption)
    (s' : Store) : Prop where
  drafts : draftsOf s shell.actionId = [shell]
  empty : shell.subject = none
  decision : s.decisions.get? (.decision shell.decisionId) = some d
  selected : d.selectedOption = some option
  effect : ∃ projections, s' = { s with
    projections := projections
    drafts := s.drafts.modify (.draft shell.artifactId)
      (shell.filled (draftBody d option)).filledAs (fun _ _ => rfl) }

theorem returns_fillDraft {actionId : String} {s s' : Store} {u : Unit}
    (h : (fillDraft env actionId).Commits s u s') :
    ∃ shell d option, shell.actionId = actionId ∧ FillsDraft s shell d option s' := by
  obtain ⟨shell, hshell, hrest⟩ := (readOnly_getDraftArtifact _).returns_bind.mp h
  obtain ⟨-, -, rfl⟩ := returns_getDraftArtifact hshell
  have hdrafts := draftsOf_of_returns hshell
  obtain ⟨d, hd, hrest⟩ := (readOnly_getDecision env _ _).returns_bind.mp hrest
  obtain ⟨option, hoption, hrest⟩ := returns_orRaise_bind.mp hrest
  obtain ⟨-, h⟩ | ⟨hempty, h⟩ := returns_ite.mp hrest
  · obtain ⟨_, s₁, -, h⟩ := returns_bind.mp h
    cases (returns_done.mp h).1
  · obtain ⟨d', s₁, hguard, h⟩ := returns_bind.mp h
    obtain ⟨t, rfl⟩ := (returns_guardExecutionCurrent env hguard).2.effect
    obtain ⟨_, s₂, hfill, h⟩ := returns_bind.mp h
    obtain ⟨-, rfl⟩ := returns_done.mp h
    have hnone : shell.subject = none := Option.not_isSome_iff_eq_none.mp hempty
    obtain rfl := returns_fillDraftArtifact_empty hfill hdrafts hnone
    exact ⟨shell, d, option, rfl, hdrafts, hnone, (returns_getDecision env hd).2, hoption, t, rfl⟩

/-- The tables after a playback of the Decision was inserted. -/
structure StartsPlayback (s : Store) (d : Decision) (playback : Playback) (s' : Store) : Prop where
  decision : s.decisions.get? (.decision d.decisionId) = some d
  owner : playback.decisionId = d.decisionId
  status : playback.status = .inProgress
  free : s.playbacks.Free playback
  effect : ∃ projections, s' = { s with
    projections := projections, playbacks := s.playbacks.add playback }

theorem returns_startPlayback {decisionId : String} {actor : IdentitySnapshot} {now : Instant}
    {s s' : Store} {playback : Playback}
    (h : (startPlayback env decisionId actor now).Commits s playback s') :
    ∃ d, d.decisionId = decisionId ∧ StartsPlayback s d playback s' := by
  rw [startPlayback, authorizePlayback, Commits, returns_require_bind] at h
  obtain ⟨d, hd, hrest⟩ := (readOnly_getDecision env _ _).returns_bind.mp h.2
  have hget := (returns_getDecision env hd).2
  obtain rfl := decisionId_of_get? hget
  obtain ⟨-, h⟩ := returns_require_bind.mp hrest
  obtain ⟨-, h⟩ := returns_require_bind.mp h
  obtain ⟨existing, -, h⟩ := (readOnly_getPlaybackForDecision _).returns_bind.mp h
  cases existing with
  | some existing => cases (returns_done.mp h).1
  | none =>
    obtain ⟨actions, -, h⟩ := (readOnly_listActions _).returns_bind.mp h
    obtain ⟨option, -, h⟩ := returns_orRaise_bind.mp h
    rw [returns_ofExcept_bind] at h
    obtain ⟨kinds, -, h⟩ := h
    obtain ⟨-, h⟩ := returns_require_bind.mp h
    obtain ⟨inserted, s₂, hins, h⟩ := returns_bind.mp h
    obtain ⟨hb, h⟩ | ⟨-, h⟩ := returns_ite.mp h
    · rcases returns_insertPlaybackIfAbsent env hins with ⟨rfl, -⟩ | ⟨-, hfree, rfl⟩
      · cases hb
      · obtain ⟨d', s₃, hguard, h⟩ := returns_bind.mp h
        obtain ⟨t, rfl⟩ := (returns_guardExecutionCurrent env hguard).2.effect
        obtain ⟨heq, rfl⟩ := returns_done.mp h
        obtain rfl := Exit.commit.inj heq
        exact ⟨d, rfl, hget, rfl, rfl, hfree, t, rfl⟩
    · cases (returns_done.mp h).1

theorem returns_recordFailure {playbackId : String} {now : Instant} {s s' : Store}
    {playback : Playback} (h : (recordFailure playbackId now).Commits s playback s') :
    playback.playbackId = playbackId ∧ playback.status = .failed ∧
      ∃ previous, s.playbacks.get? (.playback playbackId) = some previous ∧
        previous.status = .inProgress ∧
        s' = { s with
          playbacks := s.playbacks.modify (.playback playbackId) playback.ended
            (fun _ _ => rfl) } := by
  rw [recordFailure, getPlayback, Commits, returns_getRow_bind] at h
  obtain ⟨current, hcurrent, h⟩ := h
  have hid : current.playbackId = playbackId := by
    have hk := (Table.get?_eq_some_iff.mp hcurrent).2
    simp only [keys_playback, List.mem_cons, Key.playback.injEq, reduceCtorEq, List.not_mem_nil,
      or_false] at hk
    exact hk.symm
  subst hid
  obtain ⟨-, h⟩ | ⟨-, h⟩ := returns_ite.mp h
  · obtain ⟨_, s₁, hup, h⟩ := returns_bind.mp h
    obtain ⟨heq, rfl⟩ := returns_done.mp h
    obtain rfl := Exit.commit.inj heq
    exact ⟨rfl, rfl, returns_updatePlayback hup⟩
  · cases (returns_done.mp h).1

/-- The tables after a playback was completed. -/
structure CompletesPlayback (s : Store) (d : Decision) (completed : Playback)
    (recordedAt : Instant) (s' : Store) : Prop where
  decision : s.decisions.get? (.decision d.decisionId) = some d
  owner : completed.decisionId = d.decisionId
  status : completed.status = .completed
  stored : ∃ previous, s.playbacks.get? (.playback completed.playbackId) = some previous ∧
    previous.status = .inProgress ∧ previous.decisionId = d.decisionId
  actions : ∃ actions, (listActions d.decisionId).Returns s actions s ∧
    ∀ a ∈ actions, a.status = .completed
  effect : ∃ predicted statusAction projections observations,
    d.selectedOption.bind ResponseOption.predicted = some predicted ∧
    observations.rows = s.observations.rows ++ (predictedObservations predicted).map
      (observation env d completed.playbackId statusAction recordedAt) ∧
    s' = { s with
      projections := projections
      observations := observations
      playbacks := s.playbacks.modify (.playback completed.playbackId) completed.ended
        (fun _ _ => rfl) }

theorem returns_recordCompletion {playback completed : Playback} {actions : List ExecutionAction}
    {recordedAt : Instant} {s s' : Store}
    (h : (recordCompletion env playback actions recordedAt).Commits s completed s') :
    ∃ d, CompletesPlayback env s d completed recordedAt s' := by
  rw [recordCompletion, getPlayback, Commits, returns_getRow_bind] at h
  obtain ⟨current, hcurrent, h⟩ := h
  have hid : current.playbackId = playback.playbackId := by
    have hk := (Table.get?_eq_some_iff.mp hcurrent).2
    simp only [keys_playback, List.mem_cons, Key.playback.injEq, reduceCtorEq, List.not_mem_nil,
      or_false] at hk
    exact hk.symm
  obtain ⟨-, h⟩ := returns_require_bind.mp h
  obtain ⟨hstatus, h⟩ | ⟨-, h⟩ := returns_ite.mp h
  · obtain ⟨canonical, hcanonical, h⟩ := (readOnly_listActions _).returns_bind.mp h
    obtain ⟨d, hd, h⟩ := (readOnly_getDecision env _ _).returns_bind.mp h
    have hget := (returns_getDecision env hd).2
    have hdid := decisionId_of_get? hget
    obtain ⟨option, -, h⟩ := returns_orRaise_bind.mp h
    rw [returns_ofExcept_bind] at h
    obtain ⟨kinds, -, h⟩ := h
    obtain ⟨⟨-, -, hdone, -⟩, h⟩ := returns_require_bind.mp h
    obtain ⟨d', s₁, hguard, h⟩ := returns_bind.mp h
    obtain ⟨hid', hguarded⟩ := returns_guardExecutionCurrent env hguard
    obtain rfl : d' = d := by
      have hstored := hguarded.stored
      rw [hid'] at hstored
      exact Option.some.inj (hstored.symm.trans hget)
    obtain ⟨t, rfl⟩ := hguarded.effect
    obtain ⟨_, -, h⟩ := (readOnly_storedCase _).returns_bind.mp h
    obtain ⟨predicted, hpredicted, h⟩ := returns_orRaise_bind.mp h
    obtain ⟨_, s₂, hobs, h⟩ := returns_bind.mp h
    obtain ⟨observations, rfl, hrows⟩ := returns_insertObservations env hobs
    obtain ⟨_, s₃, hup, h⟩ := returns_bind.mp h
    obtain ⟨heq, rfl⟩ := returns_done.mp h
    obtain rfl := Exit.commit.inj heq
    obtain ⟨_, -, -, rfl⟩ := returns_updatePlayback hup
    refine ⟨d', hdid.symm ▸ hget, hdid.symm, rfl, ⟨current, hid ▸ hcurrent, hstatus, hdid.symm⟩,
      ⟨canonical, hdid.symm ▸ hcanonical, hdone⟩, ?_⟩
    exact ⟨predicted, _, t, observations, hpredicted, hrows, rfl⟩
  · cases (returns_done.mp h).1

end SupplyResponse
