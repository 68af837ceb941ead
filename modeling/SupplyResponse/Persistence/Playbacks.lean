/-
Playbacks and their simulated observations (`SqlAlchemyExecutionRepository`).

* `insertPlaybackIfAbsent`, `updatePlayback` — a Decision has one playback,
  which gets one terminal result;
* `insertObservation` — the append-only observations of a playback.
-/
import SupplyResponse.Persistence.Execution

namespace SupplyResponse

open Transact Transact.Prog
open Keyed (keys)

variable (env : Env)

/-! ### Playbacks -/

/-- `get_playback`. -/
def getPlayback (playbackId : String) : Sql Playback :=
  getRow Store.playbacks (.playback playbackId)
    ⟨.recordNotFound, s!"Playback does not exist: {playbackId}"⟩

/-- `get_playback_for_decision`. -/
def getPlaybackForDecision (decisionId : String) : Sql (Option Playback) :=
  select fun s => s.playbacks.get? (.playbackDecision decisionId)

/-- The physical `INSERT … ON CONFLICT (decision_id) DO NOTHING`. -/
def insertPlaybackRow (playback : Playback) : Sql Bool := do
  let existing ← getPlaybackForDecision playback.decisionId
  if existing.isSome then pure false
  else do
    insertInto Store.playbacks (fun s t => { s with playbacks := t }) playback
    pure true

/-- `insert_playback_if_absent`. -/
def insertPlaybackIfAbsent (playback : Playback) : Sql Bool := do
  require (playback.status = .inProgress ∧ playback.completedAt = none)
    ⟨.valueError, "new Playback must be in progress"⟩
  let decision ← getDecision env playback.decisionId
  require (decision.kind = .approved ∧ decision.caseId = playback.caseId ∧
      decision.actor = playback.actor)
    (integrityError "Playback must retain its approved Decision and actor lineage")
  let existing ← getPlaybackForDecision playback.decisionId
  require (∀ p ∈ existing, p.playbackId = playback.playbackId)
    ⟨.immutableRecordConflict, "Decision already has a different Playback"⟩
  if existing.isSome then pure false
  else do
    let inserted ← insertPlaybackRow playback
    let canonical ← getPlaybackForDecision playback.decisionId
    let canonical ← orRaise
      (integrityError "Playback insert did not persist a canonical record") canonical
    require (canonical.playbackId = playback.playbackId)
      ⟨.immutableRecordConflict, "Decision already has a different Playback"⟩
    pure inserted

/-- A playback without its terminal result. -/
def Playback.restored (playback : Playback) : Playback :=
  { playback with
    status := .inProgress, completedAt := none, failedAt := none, errorCode := none
    valid := ⟨rfl, rfl, rfl⟩ }

/-- A playback with the terminal result of another one. -/
@[reducible] def Playback.ended (result row : Playback) : Playback :=
  { row with
    status := result.status, completedAt := result.completedAt, failedAt := result.failedAt
    errorCode := result.errorCode, valid := result.valid }

/-- `update_playback`. -/
def updatePlayback (playback : Playback) : Sql Unit := do
  let previous ← getPlayback playback.playbackId
  require (previous.status = .inProgress ∧
      (playback.status = .completed ∨ playback.status = .failed) ∧ playback.restored = previous)
    ⟨.immutableRecordConflict, "Playback update may only record one terminal result"⟩
  let matched ← updateRow Store.playbacks (fun s t => { s with playbacks := t })
    (.playback playback.playbackId) (fun row => row.status = .inProgress) playback.ended
    (fun _ _ => rfl)
  require matched ⟨.immutableRecordConflict, "Playback already has a terminal result"⟩

/-! ### Observations -/

/-- `insert_observation`. -/
def insertObservation (observation : OutcomeObservation) : Sql Unit := do
  let decision ← getDecision env observation.decisionId
  let _ ← storedCase decision.caseId
  require (observation.caseId = decision.caseId ∧
      observation.scenarioEffectiveTime = decision.scenarioEffectiveTime)
    (integrityError "Outcome Observation conflicts with its Decision or Case lineage")
  let playback ← collect getPlayback observation.playbackId.toList
  require (∀ p ∈ playback, p.decisionId = observation.decisionId ∧
      observation.kind = .simulated ∧ observation.synthetic = true)
    (integrityError "Playback observation provenance must remain simulated")
  let action ← collect getAction observation.actionId.toList
  require (∀ a ∈ action, a.decisionId = observation.decisionId)
    (integrityError "Outcome Observation action lineage is inconsistent")
  let existing ← select fun s =>
    (s.observations.get? (.observation observation.observationId)).isSome
  require (existing = false)
    ⟨.immutableRecordConflict,
      s!"Outcome Observation is append-only: {observation.observationId}"⟩
  insertInto Store.observations (fun s t => { s with observations := t }) observation

/-! ### What the writes did -/

theorem readOnly_getPlayback (playbackId : String) : (getPlayback playbackId).ReadOnly :=
  readOnly_getRow _ _ _

theorem readOnly_getPlaybackForDecision (decisionId : String) :
    (getPlaybackForDecision decisionId).ReadOnly :=
  readOnly_select _

/-- An insert if absent either found a playback or added this one. -/
theorem returns_insertPlaybackIfAbsent {playback : Playback} {s s' : Store} {b : Bool}
    (h : (insertPlaybackIfAbsent env playback).Returns s b s') :
    (b = false ∧ s' = s) ∨ b = true ∧ s.playbacks.Free playback ∧
      s' = { s with playbacks := s.playbacks.add playback } := by
  rw [insertPlaybackIfAbsent, returns_require_bind] at h
  obtain ⟨-, h⟩ := h
  obtain ⟨d, -, h⟩ := (readOnly_getDecision env _ _).returns_bind.mp h
  obtain ⟨-, h⟩ := returns_require_bind.mp h
  obtain ⟨existing, -, h⟩ := (readOnly_getPlaybackForDecision _).returns_bind.mp h
  obtain ⟨-, h⟩ := returns_require_bind.mp h
  obtain ⟨-, h⟩ | ⟨-, h⟩ := returns_ite.mp h
  · obtain ⟨rfl, rfl⟩ := returns_done.mp h
    exact .inl ⟨rfl, rfl⟩
  · obtain ⟨inserted, s₁, hins, h⟩ := returns_bind.mp h
    obtain ⟨canonical, -, h⟩ := (readOnly_getPlaybackForDecision _).returns_bind.mp h
    obtain ⟨_, -, h⟩ := returns_orRaise_bind.mp h
    obtain ⟨-, h⟩ := returns_require_bind.mp h
    obtain ⟨rfl, rfl⟩ := returns_done.mp h
    obtain ⟨existing', -, hins⟩ := (readOnly_getPlaybackForDecision _).returns_bind.mp hins
    obtain ⟨-, hins⟩ | ⟨-, hins⟩ := returns_ite.mp hins
    · obtain ⟨rfl, rfl⟩ := returns_done.mp hins
      exact .inl ⟨rfl, rfl⟩
    · obtain ⟨_, s₂, hadd, hins⟩ := returns_bind.mp hins
      obtain ⟨rfl, rfl⟩ := returns_done.mp hins
      obtain ⟨hfree, rfl⟩ := returns_insertInto.mp hadd
      exact .inr ⟨rfl, hfree, rfl⟩

theorem returns_updatePlayback {playback : Playback} {s s' : Store} {u : Unit}
    (h : (updatePlayback playback).Returns s u s') :
    ∃ previous, s.playbacks.get? (.playback playback.playbackId) = some previous ∧
      previous.status = .inProgress ∧
      s' = { s with
        playbacks := s.playbacks.modify (.playback playback.playbackId) playback.ended
          (fun _ _ => rfl) } := by
  rw [updatePlayback, getPlayback, returns_getRow_bind] at h
  obtain ⟨previous, hprev, h⟩ := h
  obtain ⟨⟨hstatus, -, -⟩, h⟩ := returns_require_bind.mp h
  obtain ⟨matched, s₁, hup, h⟩ := returns_bind.mp h
  obtain ⟨hm, rfl⟩ := returns_require.mp h
  rcases returns_updateRow.mp hup with ⟨row, -, -, -, rfl⟩ | ⟨-, rfl, -⟩
  · exact ⟨previous, hprev, hstatus, rfl⟩
  · cases hm

/-- An observation is added to its table. -/
theorem returns_insertObservation {observation : OutcomeObservation} {s s' : Store} {u : Unit}
    (h : (insertObservation env observation).Returns s u s') :
    s.observations.Free observation ∧
      s' = { s with observations := s.observations.add observation } := by
  obtain ⟨d, -, h⟩ := (readOnly_getDecision env _ _).returns_bind.mp h
  obtain ⟨_, -, h⟩ := (readOnly_storedCase _).returns_bind.mp h
  obtain ⟨-, h⟩ := returns_require_bind.mp h
  obtain ⟨_, -, h⟩ := (readOnly_collect readOnly_getPlayback _).returns_bind.mp h
  obtain ⟨-, h⟩ := returns_require_bind.mp h
  obtain ⟨_, -, h⟩ := (readOnly_collect readOnly_getAction _).returns_bind.mp h
  obtain ⟨-, h⟩ := returns_require_bind.mp h
  rw [returns_select_bind] at h
  obtain ⟨-, h⟩ := returns_require_bind.mp h
  exact returns_insertInto.mp h

/-- The observations of a list are added in order. -/
theorem returns_insertObservations {α : Type} {observe : α → OutcomeObservation} {items : List α}
    {s s' : Store} {u : Unit}
    (h : (forEach (fun item => insertObservation env (observe item)) items).Returns s u s') :
    ∃ t, s' = { s with observations := t } ∧ t.rows = s.observations.rows ++ items.map observe := by
  induction items generalizing s with
  | nil => exact ⟨s.observations, (returns_done.mp h).2, (List.append_nil _).symm⟩
  | cons item rest ih =>
    obtain ⟨_, s₁, hfirst, hrest⟩ := returns_bind.mp h
    obtain ⟨hfree, rfl⟩ := returns_insertObservation env hfirst
    obtain ⟨t, rfl, hrows⟩ := ih hrest
    refine ⟨t, rfl, ?_⟩
    rw [hrows, Table.rows_add hfree, List.append_assoc]
    rfl

end SupplyResponse
